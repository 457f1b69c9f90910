import ViewerLogin.Toml.Statement

/-!
# TOML documents

The statements of a document are put together to one table. Whether a table may be opened or
added to depends on how it came about: a header opens a table once, and a dotted key adds only
to tables that dotted keys have made.
-/

namespace ViewerLogin.Toml

/-! ## Tables being put together -/

inductive Standing where
  | opened
  | implied
  | dotted
  deriving DecidableEq, Repr

inductive Slot where
  | fixed (value : Toml)
  | table (standing : Standing) (slots : List (String × Slot))
  | tables (before : List (List (String × Slot))) (last : List (String × Slot))

abbrev Slots := List (String × Slot)

namespace Slots

def replace (slots : Slots) (key : String) (slot : Slot) : Slots :=
  slots.map fun (other, current) => (other, if other = key then slot else current)

/-! ## Setting members -/

/-- Sets the value at a dotted key. Tables that are missing are made; the last one of the way
must have been made by a dotted key, and none may have been opened by a header. -/
def set? (slots : Slots) (value : Toml) : List String → Option Slots
  | [] => none
  | [key] =>
      match slots.lookup key with
      | none => some (slots ++ [(key, .fixed value)])
      | some _ => none
  | key :: next :: rest =>
      match slots.lookup key with
      | none =>
          (set? [] value (next :: rest)).map fun inner => slots ++ [(key, .table .dotted inner)]
      | some (.table standing inner) =>
          if standing = .opened ∨ (rest = [] ∧ standing ≠ .dotted) then none
          else
            (set? inner value (next :: rest)).map fun inner =>
              slots.replace key (.table standing inner)
      | some (.tables before last) =>
          if rest = [] then none
          else
            (set? last value (next :: rest)).map fun last =>
              slots.replace key (.tables before last)
      | some (.fixed _) => none

def setAll? (slots : Slots) (members : List (List String × Toml)) : Option Slots :=
  members.foldlM (fun slots (path, value) => slots.set? value path) slots

/-! ## Opening tables -/

def openTable? (slots : Slots) (fill : Slots → Option Slots) (key : String) : Option Slots :=
  match slots.lookup key with
  | none => (fill []).map fun inner => slots ++ [(key, .table .opened inner)]
  -- A table on the way to another has no header of its own yet.
  | some (.table .implied inner) =>
      (fill inner).map fun inner => slots.replace key (.table .opened inner)
  | some _ => none

def openFurther? (slots : Slots) (fill : Slots → Option Slots) (key : String) :
    Option Slots :=
  match slots.lookup key with
  | none => (fill []).map fun last => slots ++ [(key, .tables [] last)]
  | some (.tables before last) =>
      (fill []).map fun further => slots.replace key (.tables (before ++ [last]) further)
  | some _ => none

/-- Opens the table that a header names. A list of tables on the way stands for its last. -/
def open? (slots : Slots) (repeated : Bool) (fill : Slots → Option Slots) :
    List String → Option Slots
  | [] => none
  | [key] => if repeated then slots.openFurther? fill key else slots.openTable? fill key
  | key :: next :: rest =>
      match slots.lookup key with
      | none =>
          (open? [] repeated fill (next :: rest)).map fun inner =>
            slots ++ [(key, .table .implied inner)]
      | some (.table standing inner) =>
          (open? inner repeated fill (next :: rest)).map fun inner =>
            slots.replace key (.table standing inner)
      | some (.tables before last) =>
          (open? last repeated fill (next :: rest)).map fun last =>
            slots.replace key (.tables before last)
      | some (.fixed _) => none

end Slots

/-! ## Finished values -/

mutual

def Slot.toToml : Slot → Toml
  | .fixed value => value
  | .table _ slots => .table (membersOfSlots slots)
  | .tables before last => .list (tablesOfSlots before ++ [.table (membersOfSlots last)])

def membersOfSlots : List (String × Slot) → List (String × Toml)
  | [] => []
  | (key, slot) :: rest => (key, slot.toToml) :: membersOfSlots rest

def tablesOfSlots : List (List (String × Slot)) → List Toml
  | [] => []
  | slots :: rest => .table (membersOfSlots slots) :: tablesOfSlots rest

end

mutual

def ofNode? : Node → Option Toml
  | .value value => some value
  | .list items => (itemsOfNodes? items).map .list
  | .table members =>
      ((membersOfNodes? members).bind (Slots.setAll? [])).map fun slots =>
        .table (membersOfSlots slots)

def itemsOfNodes? : List Node → Option (List Toml)
  | [] => some []
  | node :: rest =>
      (ofNode? node).bind fun item => (itemsOfNodes? rest).map (item :: ·)

def membersOfNodes? : List (List String × Node) → Option (List (List String × Toml))
  | [] => some []
  | (path, node) :: rest =>
      (ofNode? node).bind fun value => (membersOfNodes? rest).map ((path, value) :: ·)

end

/-! ## Documents -/

structure Section where
  repeated : Bool
  path : List String
  members : List (List String × Node)

def sections : List Statement → List (List String × Node) × List Section
  | [] => ([], [])
  | .member path node :: rest =>
      let (members, following) := sections rest
      ((path, node) :: members, following)
  | .header repeated path :: rest =>
      let (members, following) := sections rest
      ([], ⟨repeated, path, members⟩ :: following)

def fill? (members : List (List String × Node)) (slots : Slots) : Option Slots :=
  (membersOfNodes? members).bind slots.setAll?

def ofStatements? (statements : List Statement) : Option (List (String × Toml)) :=
  let (members, following) := sections statements
  ((fill? members []).bind fun slots =>
    following.foldlM (fun slots entry =>
      slots.open? entry.repeated (fill? entry.members) entry.path) slots).map membersOfSlots

def ofText? (text : String) : Option (List (String × Toml)) :=
  ((Token.ofCharacters? text.toList).bind Statement.ofTokens?).bind ofStatements?

end ViewerLogin.Toml
