import ViewerLogin.Account.Basic

/-!
# Directories

A directory holds the accounts of a grid, each under the key of its folded names. No two of
them have the same key, and every name is a single word.
-/

namespace ViewerLogin

structure Directory where
  entries : List (String × Account)
  /-- Every account stands under the key of its own names. -/
  keyed : ∀ entry ∈ entries, entry.1 = entry.2.key
  named : ∀ entry ∈ entries, entry.2.nameFault? = none
  distinct : (entries.map Prod.fst).Nodup

namespace Directory

def empty : Directory where
  entries := []
  keyed _ member := absurd member List.not_mem_nil
  named _ member := absurd member List.not_mem_nil
  distinct := List.nodup_nil

def stored? (directory : Directory) (key : String) : Option Account :=
  directory.entries.lookup key

def find? (directory : Directory) (first last : String) : Option Account :=
  directory.stored? (Account.keyOf first last)

def size (directory : Directory) : Nat := directory.entries.length

/-! ## Registration -/

inductive RegistrationError where
  | emptyName
  | invalidName (name : String)
  | alreadyExists
  deriving DecidableEq, Repr

def RegistrationError.message : RegistrationError → String
  | .emptyName => "first and last name are required"
  | .invalidName name => "name '" ++ name ++ "' must be a single word"
  | .alreadyExists => "account already exists"

def register (directory : Directory) (account : Account) :
    Except RegistrationError Directory :=
  match sound : account.nameFault? with
  | some .blank => .error .emptyName
  | some (.severalWords name) => .error (.invalidName name)
  | none =>
      if taken : account.key ∈ directory.entries.map Prod.fst then
        .error .alreadyExists
      else
        .ok {
          entries := (account.key, account) :: directory.entries
          keyed := List.forall_mem_cons.mpr ⟨rfl, directory.keyed⟩
          named := List.forall_mem_cons.mpr ⟨sound, directory.named⟩
          distinct := List.nodup_cons.mpr ⟨taken, directory.distinct⟩ }

/-! ## Logins -/

def markEntry (key : String) (entry : String × Account) : String × Account :=
  if entry.1 = key then (entry.1, { entry.2 with everLoggedIn := true }) else entry

@[simp] theorem markEntry_fst (key : String) (entry : String × Account) :
    (markEntry key entry).1 = entry.1 := by
  unfold markEntry
  split <;> rfl

@[simp] theorem key_markEntry (key : String) (entry : String × Account) :
    (markEntry key entry).2.key = entry.2.key := by
  unfold markEntry
  split <;> rfl

@[simp] theorem nameFault?_markEntry (key : String) (entry : String × Account) :
    (markEntry key entry).2.nameFault? = entry.2.nameFault? := by
  unfold markEntry
  split <;> rfl

def markAt (directory : Directory) (key : String) : Directory where
  entries := directory.entries.map (markEntry key)
  keyed := by
    intro entry member
    rcases List.mem_map.mp member with ⟨before, member, same⟩
    rw [← same, markEntry_fst, key_markEntry]
    exact directory.keyed before member
  named := by
    intro entry member
    rcases List.mem_map.mp member with ⟨before, member, same⟩
    rw [← same, nameFault?_markEntry]
    exact directory.named before member
  distinct := by
    rw [List.map_map]
    have sameKeys : Prod.fst ∘ markEntry key = Prod.fst :=
      funext fun entry => markEntry_fst key entry
    rw [sameKeys]
    exact directory.distinct

def recordLogin (directory : Directory) (first last : String) : Option (Bool × Directory) :=
  (directory.find? first last).map fun account =>
    (account.everLoggedIn, directory.markAt (Account.keyOf first last))

end Directory

end ViewerLogin
