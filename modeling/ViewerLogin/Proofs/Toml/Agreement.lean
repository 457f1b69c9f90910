import ViewerLogin.Toml.Basic

/-!
# What a reader looks at

A reader does not look at everything. Of a record it looks at the keys that it knows, and of a list
of octets at the first sixteen. Values that agree in what a reader looks at are read alike.
-/

namespace ViewerLogin.Toml

abbrev Members := List (String × Toml)

/-! ## Values that agree -/

inductive Shape where
  | whole
  | octets
  | listOf (item : Shape)
  | record (fields : List (String × Shape))

def plain (keys : List String) : List (String × Shape) := keys.map fun key => (key, .whole)

/-- Two values that agree in all that a reader of this shape looks at. The order of the keys of a
record does not count, and at other keys each of them may hold anything or nothing. -/
inductive Agree : Shape → Toml → Toml → Prop where
  | same (shape : Shape) (value : Toml) : Agree shape value value
  | octets {left right : List Toml} (leftEnough : 16 ≤ left.length)
      (rightEnough : 16 ≤ right.length) (first : left.take 16 = right.take 16) :
      Agree .octets (.list left) (.list right)
  | items {item : Shape} {pairs : List (Toml × Toml)}
      (each : ∀ pair ∈ pairs, Agree item pair.1 pair.2) :
      Agree (.listOf item) (.list (pairs.map Prod.fst)) (.list (pairs.map Prod.snd))
  | record {fields : List (String × Shape)} {left right : Toml} {leftMembers rightMembers : Members}
      (leftRecord : left.asRecord? (fields.map Prod.fst) = some leftMembers)
      (rightRecord : right.asRecord? (fields.map Prod.fst) = some rightMembers)
      (present : ∀ field ∈ fields,
        (leftMembers.lookup field.1).isSome = (rightMembers.lookup field.1).isSome)
      (each : ∀ field ∈ fields, ∀ leftValue rightValue,
        leftMembers.lookup field.1 = some leftValue →
        rightMembers.lookup field.1 = some rightValue → Agree field.2 leftValue rightValue) :
      Agree (.record fields) left right

structure AgreeAt (fields : List (String × Shape)) (left right : Members) : Prop where
  present : ∀ field ∈ fields, (left.lookup field.1).isSome = (right.lookup field.1).isSome
  each : ∀ field ∈ fields, ∀ leftValue rightValue, left.lookup field.1 = some leftValue →
    right.lookup field.1 = some rightValue → Agree field.2 leftValue rightValue

namespace AgreeAt

variable {fields : List (String × Shape)} {left right : Members}

theorem of_lookup (known : ∀ key ∈ fields.map Prod.fst, left.lookup key = right.lookup key) :
    AgreeAt fields left right := by
  constructor
  · intro field member
    rw [known field.1 (List.mem_map_of_mem member)]
  · intro field member leftValue rightValue inLeft inRight
    rw [known field.1 (List.mem_map_of_mem member), inRight] at inLeft
    cases inLeft
    exact .same field.2 _

theorem lookup (agree : AgreeAt fields left right) {key : String} {shape : Shape}
    (member : (key, shape) ∈ fields) :
    (left.lookup key = none ∧ right.lookup key = none) ∨
      ∃ leftValue rightValue, left.lookup key = some leftValue ∧
        right.lookup key = some rightValue ∧ Agree shape leftValue rightValue := by
  have present : (left.lookup key).isSome = (right.lookup key).isSome :=
    agree.present (key, shape) member
  cases inLeft : left.lookup key with
  | none =>
      rw [inLeft] at present
      exact .inl ⟨rfl, Option.not_isSome_iff_eq_none.mp (by rw [← present]; exact nofun)⟩
  | some leftValue =>
      rw [inLeft] at present
      obtain ⟨rightValue, inRight⟩ := Option.isSome_iff_exists.mp present.symm
      exact .inr ⟨leftValue, rightValue, rfl, inRight,
        agree.each (key, shape) member leftValue rightValue inLeft inRight⟩

theorem lookup_eq {keys : List String} (agree : AgreeAt (plain keys) left right) {key : String}
    (member : key ∈ keys) : left.lookup key = right.lookup key := by
  obtain ⟨leftNone, rightNone⟩ | ⟨_, _, leftSome, rightSome, alike⟩ :=
    agree.lookup (List.mem_map_of_mem member)
  · rw [leftNone, rightNone]
  · cases alike
    rw [leftSome, rightSome]

theorem table (agree : AgreeAt fields left right) :
    Agree (.record fields) (.table left) (.table right) :=
  .record rfl rfl agree.present agree.each

end AgreeAt

/-! ## Readers -/

/-- The reader looks at values of this shape only as the shape says. -/
def Reads {α : Type} (shape : Shape) (read? : Toml → Option α) : Prop :=
  ∀ {left right : Toml}, Agree shape left right → read? left = read? right

section Readers

variable {α : Type} {fields : List (String × Shape)} {left right : Members}

theorem reads_whole (read? : Toml → Option α) : Reads .whole read? := by
  intro left right agree
  cases agree
  rfl

theorem reads_octets : Reads .octets asUuid? := by
  intro left right agree
  cases agree with
  | same _ _ => rfl
  | octets leftEnough rightEnough first =>
      rw [asUuid?, asUuid?, uuidOfOctets?, uuidOfOctets?, if_pos leftEnough, if_pos rightEnough,
        first]

theorem Reads.listOf {item : Shape} {read? : Toml → Option α} (reads : Reads item read?) :
    Reads (.listOf item) (asListOf? read?) := by
  intro left right agree
  cases agree with
  | same _ _ => rfl
  | @items _ pairs each =>
      rw [asListOf?, asListOf?]
      induction pairs with
      | nil => rfl
      | cons first rest induction =>
          have firstRead := reads (each first List.mem_cons_self)
          have restRead := induction fun pair member => each pair (List.mem_cons_of_mem _ member)
          rw [List.map_cons, List.map_cons, List.mapM_cons, List.mapM_cons, firstRead, restRead]

theorem Reads.record {ofMembers? : Members → Option α}
    (looks : ∀ {left right : Members}, AgreeAt fields left right →
      ofMembers? left = ofMembers? right) :
    Reads (.record fields) fun value =>
      (value.asRecord? (fields.map Prod.fst)).bind ofMembers? := by
  intro left right agree
  cases agree with
  | same _ _ => rfl
  | record leftRecord rightRecord present each =>
      dsimp only
      rw [leftRecord, rightRecord, Option.bind_some, Option.bind_some]
      exact looks ⟨present, each⟩

theorem AgreeAt.optional?_eq (agree : AgreeAt fields left right) {key : String} {shape : Shape}
    (member : (key, shape) ∈ fields) {read? : Toml → Option α} (reads : Reads shape read?)
    (standard : α) : optional? left key standard read? = optional? right key standard read? := by
  rw [optional?, optional?]
  obtain ⟨leftNone, rightNone⟩ | ⟨_, _, leftSome, rightSome, alike⟩ := agree.lookup member
  · rw [leftNone, rightNone]
  · rw [leftSome, rightSome]
    exact reads alike

end Readers

end ViewerLogin.Toml
