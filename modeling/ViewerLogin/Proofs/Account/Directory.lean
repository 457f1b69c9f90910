import ViewerLogin.Account.Directory
import ViewerLogin.Proofs.Json.Members

/-!
# Laws of directories

What stands under each key after every operation on a directory. A login that is recorded
under the names of a stored account is recorded under the key that the account stands at, in
whatever way the names were spelled that led to it.
-/

namespace ViewerLogin

def Account.used (account : Account) : Account := { account with everLoggedIn := true }

namespace Directory

def flagAt (directory : Directory) (key : String) : Bool :=
  (directory.stored? key).any Account.everLoggedIn

/-! ## Stored accounts -/

theorem lookup_cons (entry : String × Account) (rest : List (String × Account)) (key : String) :
    (entry :: rest).lookup key = if key = entry.1 then some entry.2 else rest.lookup key := by
  rw [List.lookup_cons]
  by_cases same : key = entry.1
  · simp [same]
  · simp [same, beq_eq_false_iff_ne.mpr same]

theorem mem_entries_of_stored? {directory : Directory} {key : String} {account : Account}
    (stored : directory.stored? key = some account) : (key, account) ∈ directory.entries := by
  rcases List.lookup_eq_some_iff.mp stored with ⟨before, after, split, _⟩
  rw [split]
  exact List.mem_append_right _ List.mem_cons_self

theorem key_of_stored? {directory : Directory} {key : String} {account : Account}
    (stored : directory.stored? key = some account) : account.key = key :=
  (directory.keyed _ (mem_entries_of_stored? stored)).symm

theorem stored?_eq_none_iff {directory : Directory} {key : String} :
    directory.stored? key = none ↔ key ∉ directory.entries.map Prod.fst :=
  lookup_eq_none_iff_not_mem

theorem find?_stored {directory : Directory} {key : String} {account : Account}
    (stored : directory.stored? key = some account) :
    directory.find? account.first account.last = some account := by
  have sameKey : Account.keyOf account.first account.last = key := key_of_stored? stored
  rw [find?, sameKey]
  exact stored

/-! ## Registration -/

theorem register_eq_ok {directory after : Directory} {account : Account}
    (registered : directory.register account = .ok after) :
    directory.stored? account.key = none ∧
      after.entries = (account.key, account) :: directory.entries := by
  unfold register at registered
  split at registered
  · contradiction
  · contradiction
  · split at registered
    · contradiction
    · next free =>
        injection registered with same
        rw [← same]
        exact ⟨stored?_eq_none_iff.mpr free, rfl⟩

theorem stored?_register {directory after : Directory} {account : Account}
    (registered : directory.register account = .ok after) (key : String) :
    after.stored? key = if key = account.key then some account else directory.stored? key := by
  rw [stored?, (register_eq_ok registered).2, lookup_cons]
  rfl

/-! ## Logins -/

theorem lookup_markEntry (entries : List (String × Account)) (key other : String) :
    (entries.map (markEntry key)).lookup other =
      (entries.lookup other).map fun account => if other = key then account.used else account := by
  induction entries with
  | nil => rfl
  | cons first rest induction =>
      rw [List.map_cons, lookup_cons, lookup_cons, markEntry_fst, induction]
      by_cases found : other = first.1
      · by_cases marked : first.1 = key
        · simp [found, markEntry, marked, Account.used]
        · simp [found, markEntry, marked]
      · simp [found]

theorem stored?_markAt (directory : Directory) (key other : String) :
    (directory.markAt key).stored? other =
      (directory.stored? other).map fun account =>
        if other = key then account.used else account :=
  lookup_markEntry directory.entries key other

theorem recordLogin_stored {directory : Directory} {key : String} {account : Account}
    (stored : directory.stored? key = some account) :
    directory.recordLogin account.first account.last =
      some (account.everLoggedIn, directory.markAt key) := by
  have sameKey : Account.keyOf account.first account.last = key := key_of_stored? stored
  rw [recordLogin, find?_stored stored, sameKey]
  rfl

theorem recordLogin_eq_none {directory : Directory} {first last : String}
    (absent : directory.stored? (Account.keyOf first last) = none) :
    directory.recordLogin first last = none := by
  rw [recordLogin, find?, absent]
  rfl

/-! ## Flags -/

theorem flagAt_of_stored? {directory : Directory} {key : String} {account : Account}
    (stored : directory.stored? key = some account) :
    directory.flagAt key = account.everLoggedIn := by
  rw [flagAt, stored]
  rfl

theorem flagAt_markAt {directory : Directory} {key : String} {account : Account}
    (stored : directory.stored? key = some account) (other : String) :
    (directory.markAt key).flagAt other = (directory.flagAt other || decide (other = key)) := by
  rw [flagAt, stored?_markAt, flagAt]
  by_cases same : other = key
  · subst same
    simp [stored, Account.used]
  · simp [same]

theorem flagAt_register {directory after : Directory} {account : Account}
    (registered : directory.register account = .ok after) (unused : account.everLoggedIn = false)
    (key : String) : after.flagAt key = directory.flagAt key := by
  rw [flagAt, stored?_register registered, flagAt]
  split
  · next same =>
      rw [same, (register_eq_ok registered).1]
      exact unused
  · rfl

end Directory

end ViewerLogin
