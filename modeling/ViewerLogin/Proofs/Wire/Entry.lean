import ViewerLogin.Proofs.Wire.Codec

/-!
# One record among others

A block of records comes as a list of maps, and a block of one record may also come as the map
itself. Each map is read by itself: another map in its place gives another record there.
-/

namespace ViewerLogin.Wire

inductive Position where
  | alone
  | listed (before after : List Json)

namespace Position

def enclose (members : Json.Members) : Position → Json
  | .alone => .map members
  | .listed before after => .list (before ++ .map members :: after)

def index : Position → Nat
  | .alone => 0
  | .listed before _ => before.length

end Position

variable {α β : Type}

namespace Record

theorem readItems_cons (record : Record α) (key : String) (members : Json.Members)
    (rest : List Json) :
    record.readItems key (.map members :: rest) =
      record.read members >>= fun value =>
        (record.readItems key rest).map fun values => value :: values := by
  rw [readItems]
  cases record.read members with
  | error error => rfl
  | ok value => cases record.readItems key rest <;> rfl

/-- Another map in a list that can be read gives another record at its index. -/
theorem readItems_replace {record : Record α} {key : String} {before after : List Json}
    {members : Json.Members} {base : List α}
    (valid : record.readItems key (before ++ .map members :: after) = .ok base) :
    before.length < base.length ∧ ∀ other,
      record.readItems key (before ++ .map other :: after) =
        (record.read other).map (base.set before.length) := by
  -- The induction is on the items in front of the map that is replaced.
  induction before generalizing base with
  | nil =>
      rw [List.nil_append, readItems_cons] at valid
      rcases bind_eq_ok_iff.mp valid with ⟨_, _, restRead⟩
      rcases map_eq_ok_iff.mp restRead with ⟨values, valuesRead, rfl⟩
      refine ⟨Nat.succ_pos _, fun other => ?_⟩
      rw [List.nil_append, readItems_cons, valuesRead]
      cases record.read other <;> rfl
  | cons first rest induction =>
      cases first with
      | map firstMembers =>
          rw [List.cons_append, readItems_cons] at valid
          rcases bind_eq_ok_iff.mp valid with ⟨value, valueRead, restRead⟩
          rcases map_eq_ok_iff.mp restRead with ⟨values, valuesRead, rfl⟩
          rcases induction valuesRead with ⟨inside, replaced⟩
          refine ⟨Nat.succ_lt_succ inside, fun other => ?_⟩
          rw [List.cons_append, readItems_cons, valueRead, replaced]
          cases record.read other <;> rfl
      | _ => simp only [List.cons_append, readItems, reduceCtorEq] at valid

theorem readFirst_enclose {record : Record α} {key : String} {position : Position}
    {members : Json.Members} {base : Option α}
    (valid : record.readFirst key (some (position.enclose members)) = .ok base) :
    ∃ place : α → Option α,
      (∀ other, record.readFirst key (some (position.enclose other)) =
        (record.read other).map place) ∧
      ∀ value, position.index = 0 → place value = some value := by
  cases position with
  | alone => exact ⟨some, fun _ => rfl, fun _ _ => rfl⟩
  | listed before after =>
      have listRead (other : Json.Members) :
          record.readFirst key (some (Position.enclose other (.listed before after))) =
            (record.readItems key (before ++ .map other :: after)).map List.head? := rfl
      rw [listRead] at valid
      rcases map_eq_ok_iff.mp valid with ⟨values, valuesRead, _⟩
      rcases readItems_replace valuesRead with ⟨inside, replaced⟩
      refine ⟨fun value => (values.set before.length value).head?, fun other => ?_, ?_⟩
      · rw [listRead, replaced, map_map]
      · intro value first
        have atStart : before.length = 0 := first
        rw [atStart] at inside ⊢
        exact List.head?_eq_getElem?.trans (List.getElem?_set_self inside)

end Record

namespace Codec

/-- The codec reads the maps of a block by themselves, and what is read of one is found at its
place. If not all records are kept it is the first that is. -/
def HoldsRecords (codec : Codec β) (record : Record α) (recordAt? : β → Nat → Option α)
    (keepsAll : Bool) : Prop :=
  ∀ (key : String) (position : Position) (members : Json.Members) (base : β),
    codec.read key (some (position.enclose members)) = .ok base →
      ∃ place : α → β,
        (∀ other, codec.read key (some (position.enclose other)) =
          (record.read other).map place) ∧
        ∀ value, keepsAll = true ∨ position.index = 0 →
          recordAt? (place value) position.index = some value

theorem holdsRecords_listOf (record : Record α) :
    (listOf record).HoldsRecords record (fun values index => values[index]?) true := by
  intro key position members base valid
  cases position with
  | alone => contradiction
  | listed before after =>
      rcases Record.readItems_replace valid with ⟨inside, replaced⟩
      exact ⟨base.set before.length, replaced, fun _ _ => List.getElem?_set_self inside⟩

theorem holdsRecords_reference (record : Record α) :
    (reference record).HoldsRecords record (fun value _ => value) false := by
  intro key position members base valid
  rcases Record.readFirst_enclose valid with ⟨place, reads, kept⟩
  exact ⟨place, reads, fun value first => kept value (first.resolve_left Bool.false_ne_true)⟩

theorem holdsRecords_single (record : Record α) (default : α) :
    (single record default).HoldsRecords record (fun value _ => some value) false := by
  intro key position members base valid
  rcases map_eq_ok_iff.mp valid with ⟨found, foundRead, _⟩
  rcases Record.readFirst_enclose foundRead with ⟨place, reads, kept⟩
  refine ⟨fun value => (place value).getD default, fun other => ?_, fun value first => ?_⟩
  · have read : (single record default).read key (some (position.enclose other)) =
        (record.readFirst key (some (position.enclose other))).map
          fun found => found.getD default := rfl
    rw [read, reads, map_map]
  · have here : place value = some value := kept value (first.resolve_left Bool.false_ne_true)
    exact congrArg (fun found => some (found.getD default)) here

end Codec

end ViewerLogin.Wire
