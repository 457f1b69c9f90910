import ViewerLogin.Proofs.Account.Directory
import ViewerLogin.Proofs.Account.FoldedName

/-!
# Rolls

A roll is a map from pairs of folded names to accounts. It keeps the two names apart, judges
them one after the other and counts the registrations. A directory, which joins the names to
one key, cannot be told from a roll by any operations: the names that reach an account are
those that fold to its own.
-/

namespace ViewerLogin

namespace Directory

/-! ## Operations -/

inductive Operation where
  | register (account : Account)
  | find (first last : String)
  | recordLogin (first last : String)

inductive Result where
  | registered (account : Except RegistrationError Account)
  | found (account : Option Account)
  | recorded (before : Option Bool)
  deriving DecidableEq

def perform (directory : Directory) : Operation → Result × Directory
  | .register account =>
      match directory.register account with
      | .ok after => (.registered (.ok account), after)
      | .error error => (.registered (.error error), directory)
  | .find first last => (.found (directory.find? first last), directory)
  | .recordLogin first last =>
      match directory.recordLogin first last with
      | some (before, after) => (.recorded (some before), after)
      | none => (.recorded none, directory)

def Operation.run {State : Type} (perform : State → Operation → Result × State)
    (size : State → Nat) (state : State) : List Operation → List (Result × Nat) × State
  | [] => ([], state)
  | operation :: rest =>
      let (result, after) := perform state operation
      let (results, last) := run perform size after rest
      ((result, size after) :: results, last)

def run (directory : Directory) (operations : List Operation) :
    List (Result × Nat) × Directory :=
  Operation.run perform size directory operations

end Directory

/-! ## Rolls -/

structure Roll where
  account? : FoldedName → Option Account
  size : Nat

namespace Roll

open Directory (RegistrationError Operation Result)

def empty : Roll := ⟨fun _ => none, 0⟩

def find? (roll : Roll) (first last : String) : Option Account := roll.account? (.of first last)

def put (roll : Roll) (name : FoldedName) (account : Account) : Roll :=
  { roll with account? := fun other => if other = name then some account else roll.account? other }

theorem account?_put (roll : Roll) (name other : FoldedName) (account : Account) :
    (roll.put name account).account? other =
      if other = name then some account else roll.account? other :=
  rfl

theorem size_put (roll : Roll) (name : FoldedName) (account : Account) :
    (roll.put name account).size = roll.size :=
  rfl

def complaint? (name : String) : Option RegistrationError :=
  if Text.trim name = "" then some .emptyName
  else if (Text.trim name).toList.any Text.isBlank then some (.invalidName name)
  else none

def register (roll : Roll) (account : Account) : Except RegistrationError Roll :=
  match [account.first, account.last].findSome? complaint? with
  | some error => .error error
  | none =>
      match roll.account? account.foldedName with
      | some _ => .error .alreadyExists
      | none => .ok { roll.put account.foldedName account with size := roll.size + 1 }

def recordLogin (roll : Roll) (first last : String) : Option (Bool × Roll) :=
  (roll.find? first last).map fun account =>
    (account.everLoggedIn, roll.put (.of first last) account.used)

def perform (roll : Roll) : Operation → Result × Roll
  | .register account =>
      match roll.register account with
      | .ok after => (.registered (.ok account), after)
      | .error error => (.registered (.error error), roll)
  | .find first last => (.found (roll.find? first last), roll)
  | .recordLogin first last =>
      match roll.recordLogin first last with
      | some (before, after) => (.recorded (some before), after)
      | none => (.recorded none, roll)

def run (roll : Roll) (operations : List Operation) : List (Result × Nat) × Roll :=
  Operation.run perform size roll operations

end Roll

/-! ## Complaints about names -/

namespace Directory

def errorOf : Account.NameFault → RegistrationError
  | .blank => .emptyName
  | .severalWords name => .invalidName name

theorem complaint?_eq_faultOf? (name : String) :
    Roll.complaint? name = (Account.faultOf? name).map errorOf := by
  have trimmed : (Text.trim name).toList = Text.trimCharacters name.toList :=
    String.toList_ofList
  have empty : Text.trim name = "" ↔ Text.isBlankText name = true := by
    rw [Text.isBlankText, List.isEmpty_iff, ← trimmed, String.toList_eq_nil_iff]
  unfold Roll.complaint? Account.faultOf? Text.isWord
  rw [trimmed]
  cases blank : Text.isBlankText name with
  | true =>
      rw [if_pos (empty.mpr blank), if_pos rfl]
      rfl
  | false =>
      have filled : Text.trim name ≠ "" := fun nothing => by
        rw [empty.mp nothing] at blank
        contradiction
      rw [if_neg filled, if_neg Bool.false_ne_true]
      cases (Text.trimCharacters name.toList).any Text.isBlank <;> rfl

theorem complaints_eq_nameFault? (account : Account) :
    [account.first, account.last].findSome? Roll.complaint? = account.nameFault?.map errorOf := by
  rw [Account.nameFault?, List.findSome?_cons, complaint?_eq_faultOf?, List.findSome?_cons,
    complaint?_eq_faultOf?]
  cases Account.faultOf? account.first with
  | some _ => rfl
  | none => cases Account.faultOf? account.last <;> rfl

/-! ## Registration -/

theorem register_of_faulty (directory : Directory) {account : Account} {fault : Account.NameFault}
    (faulty : account.nameFault? = some fault) :
    directory.register account = .error (errorOf fault) := by
  unfold register
  split
  · next blank =>
      rw [← Option.some.inj (blank.symm.trans faulty)]
      rfl
  · next several =>
      rw [← Option.some.inj (several.symm.trans faulty)]
      rfl
  · next sound => exact nomatch sound.symm.trans faulty

/-- Only whether the key is free matters for an account whose names are in order. -/
theorem register_of_sound (directory : Directory) {account : Account}
    (sound : account.nameFault? = none) :
    (∃ taken, directory.stored? account.key = some taken ∧
      directory.register account = .error .alreadyExists) ∨
    (directory.stored? account.key = none ∧ ∃ after, directory.register account = .ok after ∧
      after.entries = (account.key, account) :: directory.entries) := by
  unfold register
  split
  · next blank => exact nomatch sound.symm.trans blank
  · next several => exact nomatch sound.symm.trans several
  · split
    · next taken =>
        cases stored : directory.stored? account.key with
        | none => exact absurd taken (stored?_eq_none_iff.mp stored)
        | some other => exact .inl ⟨other, rfl, rfl⟩
    · next free => exact .inr ⟨stored?_eq_none_iff.mpr free, _, rfl, rfl⟩

/-- Directories that hold the same under the key of an account register it alike. -/
theorem register_congr {left right : Directory} {account : Account}
    (same : left.stored? account.key = right.stored? account.key) :
    (∃ error, left.register account = .error error ∧ right.register account = .error error) ∨
    (∃ leftAfter rightAfter, left.register account = .ok leftAfter ∧
      right.register account = .ok rightAfter) := by
  cases faulty : account.nameFault? with
  | some fault =>
      exact .inl ⟨_, left.register_of_faulty faulty, right.register_of_faulty faulty⟩
  | none =>
      rcases left.register_of_sound faulty with ⟨_, stored, refused⟩ | ⟨free, after, added, _⟩
      · rcases right.register_of_sound faulty with ⟨_, _, rightRefused⟩ | ⟨rightFree, _⟩
        · exact .inl ⟨_, refused, rightRefused⟩
        · rw [same, rightFree] at stored
          contradiction
      · rcases right.register_of_sound faulty with
          ⟨_, rightStored, _⟩ | ⟨_, rightAfter, rightAdded, _⟩
        · rw [same, rightStored] at free
          contradiction
        · exact .inr ⟨after, rightAfter, added, rightAdded⟩

/-! ## Names and keys -/

theorem nameFault?_of_stored? {directory : Directory} {key : String} {account : Account}
    (stored : directory.stored? key = some account) : account.nameFault? = none :=
  directory.named (key, account) (mem_entries_of_stored? stored)

/-- Only names that fold to those of an account reach it. -/
theorem foldedName_of_find? {directory : Directory} {first last : String} {account : Account}
    (found : directory.find? first last = some account) :
    account.foldedName = .of first last :=
  ((Account.keyOf_eq_key_iff (nameFault?_of_stored? found) first last).mp
    (key_of_stored? found).symm).symm

/-! ## A directory is a roll -/

/-- A roll that tells of all names what a directory tells of them. -/
structure Represents (roll : Roll) (directory : Directory) : Prop where
  find? : ∀ first last, directory.find? first last = roll.find? first last
  size : directory.size = roll.size

namespace Represents

variable {roll : Roll} {directory : Directory}

theorem empty : Represents .empty .empty := ⟨fun _ _ => rfl, rfl⟩

theorem register (represents : Represents roll directory) (account : Account) :
    (∃ error, directory.register account = .error error ∧
      roll.register account = .error error) ∨
    (∃ after rollAfter, directory.register account = .ok after ∧
      roll.register account = .ok rollAfter ∧ Represents rollAfter after) := by
  have rollRegister := Roll.register.eq_1 roll account
  rw [complaints_eq_nameFault?] at rollRegister
  have sameTaken : roll.account? account.foldedName = directory.stored? account.key :=
    (represents.find? account.first account.last).symm
  cases faulty : account.nameFault? with
  | some fault =>
      rw [faulty] at rollRegister
      exact .inl ⟨_, directory.register_of_faulty faulty, rollRegister⟩
  | none =>
      rw [faulty] at rollRegister
      rcases directory.register_of_sound faulty with
        ⟨taken, stored, refused⟩ | ⟨free, after, added, entries⟩
      · simp only [Option.map_none, sameTaken, stored] at rollRegister
        exact .inl ⟨_, refused, rollRegister⟩
      · simp only [Option.map_none, sameTaken, free] at rollRegister
        refine .inr ⟨after, _, added, rollRegister, ?_, ?_⟩
        · intro first last
          rw [Directory.find?, stored?_register added]
          simp only [Roll.find?, Roll.account?_put]
          by_cases same : FoldedName.of first last = account.foldedName
          · rw [if_pos same, if_pos ((Account.keyOf_eq_key_iff faulty first last).mpr same)]
          · rw [if_neg same, if_neg fun keys =>
              same ((Account.keyOf_eq_key_iff faulty first last).mp keys)]
            exact represents.find? first last
        · rw [Directory.size, entries, List.length_cons]
          exact congrArg (· + 1) represents.size

theorem recordLogin (represents : Represents roll directory) (first last : String) :
    (directory.recordLogin first last = none ∧ roll.recordLogin first last = none) ∨
    (∃ before after rollAfter, directory.recordLogin first last = some (before, after) ∧
      roll.recordLogin first last = some (before, rollAfter) ∧ Represents rollAfter after) := by
  have same := represents.find? first last
  cases found : directory.find? first last with
  | none =>
      rw [found] at same
      refine .inl ⟨recordLogin_eq_none found, ?_⟩
      rw [Roll.recordLogin, ← same]
      rfl
  | some account =>
      rw [found] at same
      refine .inr ⟨account.everLoggedIn, directory.markAt (Account.keyOf first last),
        roll.put (.of first last) account.used, ?_, ?_, ?_, ?_⟩
      · rw [Directory.recordLogin, found]
        rfl
      · rw [Roll.recordLogin, ← same]
        rfl
      · -- The key of the account is its own, so both sides mark the same names.
        have sound := nameFault?_of_stored? found
        have ownKey : account.key = Account.keyOf first last := key_of_stored? found
        have ownName := foldedName_of_find? found
        intro otherFirst otherLast
        rw [Directory.find?, stored?_markAt, Roll.find?, Roll.account?_put, ← ownKey, ← ownName]
        by_cases marked : FoldedName.of otherFirst otherLast = account.foldedName
        · have keys := (Account.keyOf_eq_key_iff sound otherFirst otherLast).mpr marked
          have stored : directory.stored? account.key = some account := ownKey ▸ found
          rw [if_pos marked, keys, stored, Option.map_some, if_pos rfl]
        · have keys := mt (Account.keyOf_eq_key_iff sound otherFirst otherLast).mp marked
          simp only [if_neg keys, if_neg marked, Option.map_id']
          exact represents.find? otherFirst otherLast
      · rw [Roll.size_put, ← represents.size]
        exact List.length_map _

/-- One operation has the same result on both sides and leaves them alike. -/
theorem perform (represents : Represents roll directory) (operation : Operation) :
    (directory.perform operation).1 = (roll.perform operation).1 ∧
      Represents (roll.perform operation).2 (directory.perform operation).2 := by
  cases operation with
  | register account =>
      rcases represents.register account with
        ⟨error, refused, rollRefused⟩ | ⟨after, rollAfter, added, rollAdded, still⟩
      · simp only [Directory.perform, Roll.perform, refused, rollRefused]
        exact ⟨trivial, represents⟩
      · simp only [Directory.perform, Roll.perform, added, rollAdded]
        exact ⟨trivial, still⟩
  | find first last => exact ⟨congrArg Result.found (represents.find? first last), represents⟩
  | recordLogin first last =>
      rcases represents.recordLogin first last with
        ⟨absent, rollAbsent⟩ | ⟨before, after, rollAfter, recorded, rollRecorded, still⟩
      · simp only [Directory.perform, Roll.perform, absent, rollAbsent]
        exact ⟨trivial, represents⟩
      · simp only [Directory.perform, Roll.perform, recorded, rollRecorded]
        exact ⟨trivial, still⟩

theorem run (represents : Represents roll directory) (operations : List Operation) :
    (directory.run operations).1 = (roll.run operations).1 ∧
      Represents (roll.run operations).2 (directory.run operations).2 := by
  -- Each operation leaves a roll that represents the directory.
  induction operations generalizing roll directory with
  | nil => exact ⟨rfl, represents⟩
  | cons operation rest induction =>
      rcases represents.perform operation with ⟨sameResult, still⟩
      rcases induction still with ⟨sameResults, last⟩
      refine ⟨?_, last⟩
      simp only [Directory.run, Roll.run, Operation.run] at sameResults ⊢
      rw [sameResult, still.size, sameResults]

end Represents

/-- Whatever operations are performed, a directory gives the results and counts of a roll, and
none but the names that fold to those of an account ever reach it. -/
theorem run_empty_eq_roll (operations : List Operation) :
    (empty.run operations).1 = (Roll.empty.run operations).1 ∧
      ∀ first last account, (empty.run operations).2.find? first last = some account →
        account.foldedName = .of first last :=
  ⟨(Represents.empty.run operations).1, fun _ _ _ => foldedName_of_find?⟩

end Directory

end ViewerLogin
