import ViewerLogin.Proofs.Wire.Codec

/-!
# One member of a record

A record is read member by member, each from a key of its own. So where the rest of a map can be
read, the value at one key is read by itself and sets its part of the record alone.
-/

namespace ViewerLogin.Wire

variable {α β γ : Type} {codec : Codec β} {part : Codec γ} {key name : String}
  {put : α → β → α}

theorem Codec.readAt_insert_same (codec : Codec β) (members : Json.Members) (key : String)
    (value : Json) : codec.readAt (members.insert key value) key = codec.read key (some value) := by
  rw [readAt, Json.Members.get?_insert, if_pos rfl]

theorem Codec.readAt_insert_other (codec : Codec β) (members : Json.Members) (value : Json)
    (different : name ≠ key) :
    codec.readAt (members.insert key value) name = codec.readAt members name := by
  rw [readAt, readAt, Json.Members.get?_insert, if_neg different]

/-- In a map that can be read, another value at the key is read by the codec and put in its
place. -/
def Replaces (codec : Codec β) (key : String) (put : α → β → α)
    (read : Json.Members → Except Error α) : Prop :=
  ∀ (members : Json.Members) (before : Json) (base : α),
    read (members.insert key before) = .ok base → ∀ value,
      read (members.insert key value) = (codec.read key (some value)).map (put base)

/-- What is left to read once the key has been: it uses what the key gave, and not the key. -/
def Carries (key : String) (put : α → β → α) (rest : β → Json.Members → Except Error α) : Prop :=
  ∀ (members : Json.Members) (before : Json) (found : β) (base : α),
    rest found (members.insert key before) = .ok base → ∀ other value,
      rest other (members.insert key value) = .ok (put base other)

namespace Carries

theorem pure {make : β → α} (puts : ∀ found other, put (make found) other = make other) :
    Carries key put fun found _ => Pure.pure (make found) := by
  intro members before found base valid other value
  cases valid
  rw [puts]
  rfl

theorem bind {rest : γ → β → Json.Members → Except Error α} (different : name ≠ key)
    (carries : ∀ member, Carries key put (rest member)) :
    Carries key put fun found members =>
      part.readAt members name >>= fun member => rest member found members := by
  intro members before found base valid other value
  rcases bind_eq_ok_iff.mp valid with ⟨member, memberRead, restRead⟩
  refine bind_eq_ok_iff.mpr ⟨member, ?_, carries member _ _ _ _ restRead other value⟩
  rwa [Codec.readAt_insert_other part members _ different] at memberRead ⊢

end Carries

namespace Replaces

theorem bind_same {rest : β → Json.Members → Except Error α} (carries : Carries key put rest) :
    Replaces codec key put fun members =>
      codec.readAt members key >>= fun found => rest found members := by
  intro members before base valid value
  rcases bind_eq_ok_iff.mp valid with ⟨found, _, restRead⟩
  dsimp only
  rw [Codec.readAt_insert_same]
  cases codec.read key (some value) with
  | error error => rfl
  | ok other => exact carries _ _ _ _ restRead other value

theorem bind_other {rest : γ → Json.Members → Except Error α} (different : name ≠ key)
    (replaces : ∀ member, Replaces codec key put (rest member)) :
    Replaces codec key put fun members =>
      part.readAt members name >>= fun member => rest member members := by
  intro members before base valid value
  rcases bind_eq_ok_iff.mp valid with ⟨member, memberRead, restRead⟩
  rw [Codec.readAt_insert_other part members _ different] at memberRead
  dsimp only
  rw [Codec.readAt_insert_other part members _ different, memberRead]
  exact replaces member _ _ _ restRead value

end Replaces

end ViewerLogin.Wire
