import ViewerLogin.Proofs.Service.History
import ViewerLogin.Proofs.Text.LetterCase

/-!
# Spellings of names

Whoever logs in may spell the name of the account in any case of its ASCII letters and with
blanks around it. No step of a run shows the difference, nor does any later one, and the response
has the names as they were registered. The password has one spelling.
-/

namespace ViewerLogin

/-! ## Spellings of one name -/

theorem Account.keyOf_eq_of_alike {first last otherFirst otherLast : String}
    (firstAlike : Text.Alike first otherFirst) (lastAlike : Text.Alike last otherLast) :
    keyOf otherFirst otherLast = keyOf first last := by
  rw [keyOf, keyOf, foldName, foldName, foldName, foldName, firstAlike.lowerCase_trim_eq,
    lastAlike.lowerCase_trim_eq]

namespace Request

def named (request : Request) (first last : String) : Request :=
  { request with first := first, last := last }

variable {request : Request} {first last : String}

theorem firstBlank?_named (firstAlike : Text.Alike request.first first)
    (lastAlike : Text.Alike request.last last) :
    (request.named first last).firstBlank? = request.firstBlank? := by
  have same (field : RequiredField) : Text.isBlankText ((request.named first last).required field) =
      Text.isBlankText (request.required field) := by
    cases field with
    | first => exact firstAlike.isBlankText_eq.symm
    | last => exact lastAlike.isBlankText_eq.symm
    | passwd => rfl
    | start => rfl
  simp only [firstBlank?, same]

end Request

namespace Service

variable {request : Request} {first last : String}

theorem authorize_named (service : Service) (firstAlike : Text.Alike request.first first)
    (lastAlike : Text.Alike request.last last) :
    service.authorize (request.named first last) = service.authorize request := by
  have found : service.directory.find? (request.named first last).first
      (request.named first last).last = service.directory.find? request.first request.last := by
    rw [Directory.find?, Directory.find?]
    exact congrArg _ (Account.keyOf_eq_of_alike firstAlike lastAlike)
  rw [authorize, authorize, Request.firstBlank?_named firstAlike lastAlike, found]
  rfl

theorem authenticate_named (service : Service) (draw : Draw)
    (firstAlike : Text.Alike request.first first) (lastAlike : Text.Alike request.last last) :
    service.authenticate draw (request.named first last) = service.authenticate draw request := by
  rw [authenticate, authenticate, authorize_named service firstAlike lastAlike]
  rfl

/-! ## Spellings along a run -/

/-- Two steps that differ at most in how they spell a name. -/
inductive Step.Alike : Step → Step → Prop where
  | same (step : Step) : Alike step step
  | find {first last otherFirst otherLast : String} (firstAlike : Text.Alike first otherFirst)
      (lastAlike : Text.Alike last otherLast) :
      Alike (.find first last) (.find otherFirst otherLast)
  | recordLogin {first last otherFirst otherLast : String}
      (firstAlike : Text.Alike first otherFirst) (lastAlike : Text.Alike last otherLast) :
      Alike (.recordLogin first last) (.recordLogin otherFirst otherLast)
  | authenticate (draw : Draw) {request : Request} {first last : String}
      (firstAlike : Text.Alike request.first first) (lastAlike : Text.Alike request.last last) :
      Alike (.authenticate draw request) (.authenticate draw (request.named first last))
  | login (draw : Draw) {request : Request} {first last : String}
      (firstAlike : Text.Alike request.first first) (lastAlike : Text.Alike request.last last) :
      Alike (.login draw request) (.login draw (request.named first last))

theorem step_eq_of_alike (service : Service) {step other : Step} (alike : step.Alike other) :
    service.step other = service.step step := by
  cases alike with
  | same => rfl
  | find firstAlike lastAlike =>
      simp only [Service.step, Directory.find?, Account.keyOf_eq_of_alike firstAlike lastAlike]
  | recordLogin firstAlike lastAlike =>
      simp only [Service.step, Directory.recordLogin, Directory.find?,
        Account.keyOf_eq_of_alike firstAlike lastAlike]
  | authenticate draw firstAlike lastAlike =>
      simp only [Service.step, authenticate_named service draw firstAlike lastAlike]
  | login draw firstAlike lastAlike =>
      simp only [Service.step, Service.login, authenticate_named service draw firstAlike lastAlike]

theorem run_eq_of_alike (service : Service) {steps others : List Step}
    (alike : List.Forall₂ Step.Alike steps others) : service.run others = service.run steps := by
  induction alike generalizing service with
  | nil => rfl
  | cons firstAlike _ induction =>
      simp only [run, step_eq_of_alike service firstAlike, induction]

/-! ## Where names come from -/

/-- A step keeps the names of an account, or registers it. -/
theorem names_of_stored?_step {service : Service} {step : Step} {key : String} {account : Account}
    (stored : (service.step step).2.directory.stored? key = some account) :
    (∃ earlier, service.directory.stored? key = some earlier ∧
      account.first = earlier.first ∧ account.last = earlier.last) ∨
    (step = .register account ∧ account.key = key ∧
      ∃ directory, service.directory.register account = .ok directory) := by
  cases service.change step with
  | registers added isRegistration registered _ =>
      rw [Directory.stored?_register registered] at stored
      split at stored
      · next same =>
          cases stored
          exact .inr ⟨isRegistration, same.symm, _, registered⟩
      · exact .inl ⟨account, stored, rfl, rfl⟩
  | enters entered _ _ _ marked =>
      rw [marked, Directory.stored?_markAt] at stored
      obtain ⟨earlier, found, same⟩ := Option.map_eq_some_iff.mp stored
      refine .inl ⟨earlier, found, ?_⟩
      rw [← same]
      split <;> exact ⟨rfl, rfl⟩
  | keeps _ same =>
      rw [same] at stored
      exact .inl ⟨account, stored, rfl, rfl⟩

def Registers (service : Service) (steps : List Step) (key : String) (account : Account) : Prop :=
  ∃ before after directory, steps = before ++ .register account :: after ∧
    (service.run before).2.directory.register account = .ok directory ∧ account.key = key

/-- An account has the names that it had before the run, or was registered with in the run. -/
theorem names_of_stored?_run {service : Service} {steps : List Step} {key : String}
    {account : Account} (stored : (service.run steps).2.directory.stored? key = some account) :
    (∃ earlier, service.directory.stored? key = some earlier ∧
      account.first = earlier.first ∧ account.last = earlier.last) ∨
    ∃ registered, service.Registers steps key registered ∧
      account.first = registered.first ∧ account.last = registered.last := by
  -- An account that a later run finds was there after the first step, or is registered later.
  induction steps generalizing service with
  | nil => exact .inl ⟨account, stored, rfl, rfl⟩
  | cons step rest induction =>
      obtain ⟨middle, found, firstSame, lastSame⟩ | ⟨registered, registers, names⟩ :=
        induction stored
      · obtain ⟨earlier, foundEarlier, firstEarlier, lastEarlier⟩ | ⟨isStep, sameKey, accepted⟩ :=
          names_of_stored?_step found
        · exact .inl ⟨earlier, foundEarlier, firstSame.trans firstEarlier,
            lastSame.trans lastEarlier⟩
        · obtain ⟨directory, accepted⟩ := accepted
          have registers : service.Registers (step :: rest) key middle :=
            ⟨[], rest, directory, by rw [isStep, List.nil_append], accepted, sameKey⟩
          exact .inr ⟨middle, registers, firstSame, lastSame⟩
      · obtain ⟨before, after, directory, split, accepted⟩ := registers
        have registers : service.Registers (step :: rest) key registered :=
          ⟨step :: before, after, directory, by rw [split, List.cons_append], accepted⟩
        exact .inr ⟨registered, registers, names⟩

theorem names_of_stored?_run_empty {grid : Grid} {settings : RunSettings} {steps : List Step}
    {key : String} {account : Account}
    (stored : ((empty grid settings).run steps).2.directory.stored? key = some account) :
    ∃ registered, (empty grid settings).Registers steps key registered ∧
      account.first = registered.first ∧ account.last = registered.last := by
  obtain ⟨earlier, impossible, _⟩ | registered := names_of_stored?_run stored
  · contradiction
  · exact registered

/-- Runs whose steps spell names in different ways have the same results and leave the same
service. At every point of a run that starts without accounts an accepted attempt is answered
with the names as the account was registered under them, and an attempt with another password
than that of the account is not accepted. -/
theorem run_of_alike (grid : Grid) (settings : RunSettings) {steps others : List Step}
    (alike : List.Forall₂ Step.Alike steps others) :
    (∀ service : Service, service.run others = service.run steps) ∧
    ∀ before step draw request,
      let service := ((empty grid settings).run before).2
      let key := Account.keyOf request.first request.last
      service.attempt? step = some (draw, request) →
      (∀ response, (service.authenticate draw request).1 = .ok response →
        (service.step step).1 = report request response step ∧
        ∃ registered, (empty grid settings).Registers before key registered ∧
          response.firstName = some registered.first ∧
          response.lastName = some registered.last) ∧
      ∀ account, service.directory.stored? key = some account →
        account.passwd ≠ request.passwd →
        ∀ response, (service.authenticate draw request).1 ≠ .ok response := by
  refine ⟨fun service => run_eq_of_alike service alike, ?_⟩
  intro before step draw request service key attempted
  constructor
  · intro response accepted
    refine ⟨step_fst_of_accepted attempted accepted, ?_⟩
    obtain ⟨account, admits⟩ :=
      (exists_authenticate_eq_ok_iff service draw request).mp ⟨response, accepted⟩
    obtain ⟨registered, registers, firstSame, lastSame⟩ :=
      names_of_stored?_run_empty admits.stored
    rw [authenticate_of_admits admits] at accepted
    cases accepted
    exact ⟨registered, registers, congrArg some firstSame, congrArg some lastSame⟩
  · intro account stored different response accepted
    obtain ⟨other, admits⟩ :=
      (exists_authenticate_eq_ok_iff service draw request).mp ⟨response, accepted⟩
    have same : some account = some other := stored.symm.trans admits.stored
    rw [Option.some.inj same] at different
    exact different admits.passwd

def hellene : Account := .new ⟨.ofNat 1, .ofNat 2, fun _ => .ofNat 3⟩ "AΣ" "Linden" "secret"

theorem run_of_alike_hellene :
    let draw : Draw := ⟨.nil, .nil, .nil, 0, 0⟩
    let request : Request := .of "AΣ" "Linden" "secret" "last"
    let steps : List Step := [.register hellene, .login draw request, .find "AΣ" "Linden"]
    let others : List Step :=
      [.register hellene, .login draw (request.named " aΣ" "LINDEN"), .find " aΣ" "LINDEN"]
    let service := ((empty .standard .standard).run steps).2
    List.Forall₂ Step.Alike steps others ∧
      (empty .standard .standard).run others = (empty .standard .standard).run steps ∧
      (∃ response registered, (service.authenticate draw request).1 = .ok response ∧
        (empty .standard .standard).Registers steps (Account.keyOf "AΣ" "Linden") registered ∧
        response.firstName = some registered.first) ∧
      ∀ response,
        (service.authenticate draw (.of "AΣ" "Linden" "Secret" "last")).1 ≠ .ok response := by
  intro draw request steps others service
  have firstAlike : Text.Alike "AΣ" " aΣ" :=
    ⟨['A', 'Σ'], ['a', 'Σ'], .refl _,
      ⟨[' '], [], List.forall_mem_singleton.mpr rfl, List.forall_mem_nil _, rfl⟩, by decide⟩
  have lastAlike : Text.Alike "Linden" "LINDEN" :=
    ⟨"Linden".toList, "LINDEN".toList, .refl _, .refl _, by decide⟩
  have alike : List.Forall₂ Step.Alike steps others :=
    .cons (.same _) (.cons (.login draw firstAlike lastAlike)
      (.cons (.find firstAlike lastAlike) .nil))
  have stored : service.directory.stored? (Account.keyOf "AΣ" "Linden") = some hellene.used := by
    decide +kernel
  have admits : service.Admits request hellene.used :=
    { enabled := by decide +kernel
      filled := by intro field; cases field <;> decide
      stored := stored
      passwd := rfl
      active := rfl }
  obtain ⟨same, points⟩ := run_of_alike .standard .standard alike
  obtain ⟨response, accepted⟩ :=
    (exists_authenticate_eq_ok_iff service draw request).mpr ⟨hellene.used, admits⟩
  obtain ⟨_, registered, registers, firstSame, _⟩ :=
    (points steps (.authenticate draw request) draw request rfl).1 response accepted
  refine ⟨alike, same _, ⟨response, registered, accepted, registers, firstSame⟩, ?_⟩
  exact (points steps (.authenticate draw (.of "AΣ" "Linden" "Secret" "last")) draw _ rfl).2
    hellene.used stored (by decide)

end Service

end ViewerLogin
