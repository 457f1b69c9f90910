import ViewerLogin.Proofs.Service.Attempt

/-!
# The history of accounts

The flag of an account says whether a login to it was recorded earlier in the run. Each step
either registers an account, or marks the one that it lets someone in to, or leaves the
directory as it is; the statement about whole runs follows step by step.
-/

namespace ViewerLogin.Service

/-! ## Steps -/

def acceptedKey? (service : Service) : Option (Draw × Request) → Option String
  | none => none
  | some (draw, request) =>
      match (service.authenticate draw request).1 with
      | .ok _ => some (Account.keyOf request.first request.last)
      | .error _ => none

/-- The key of the account that a step records a login to, if it records one. -/
def entered? (service : Service) : Step → Option String
  | .recordLogin first last =>
      (service.directory.find? first last).map fun _ => Account.keyOf first last
  | step => service.acceptedKey? (service.attempt? step)

inductive Change (service : Service) (step : Step) : Prop where
  | registers (account : Account)
      (isRegistration : step = .register account)
      (registered : service.directory.register account = .ok (service.step step).2.directory)
      (entersNone : service.entered? step = none)
  | enters (key : String) (account : Account)
      (entersKey : service.entered? step = some key)
      (stored : service.directory.stored? key = some account)
      (marked : (service.step step).2.directory = service.directory.markAt key)
  | keeps
      (entersNone : service.entered? step = none)
      (same : (service.step step).2.directory = service.directory)

theorem change_of_attempt {service : Service} {step : Step} {draw : Draw} {request : Request}
    (attempted : service.attempt? step = some (draw, request))
    (entersAs : service.entered? step = service.acceptedKey? (service.attempt? step)) :
    service.Change step := by
  have after := step_snd_of_attempt attempted
  rw [attempted, acceptedKey?] at entersAs
  cases outcome : service.authorize request with
  | error refusal =>
      rw [authenticate_of_refused outcome draw] at after entersAs
      exact .keeps entersAs (by rw [after])
  | ok account =>
      have admits := (authorize_eq_ok_iff service request account).mp outcome
      rw [authenticate_of_admits admits draw] at after entersAs
      exact .enters _ account entersAs admits.stored (by rw [after])

theorem change_of_posted? {service : Service} {step : Step} {draw : Draw} {body : List UInt8}
    (attempts : service.attempt? step =
      (service.posted? body).map fun request => (draw, request))
    (entersAs : service.entered? step = service.acceptedKey? (service.attempt? step))
    (after : (service.step step).2 = (service.post draw body).2) : service.Change step := by
  cases posted : service.posted? body with
  | none =>
      rw [attempts, posted] at entersAs
      exact .keeps entersAs (by rw [after, post_snd_of_not_posted posted])
  | some request =>
      rw [posted] at attempts
      exact change_of_attempt attempts entersAs

/-- Every step registers an account, enters one or keeps the directory. -/
theorem change (service : Service) (step : Step) : service.Change step := by
  cases step with
  | register account =>
      cases registered : service.directory.register account with
      | error error =>
          apply Change.keeps rfl
          simp only [step, register, registered]
          rfl
      | ok directory =>
          apply Change.registers account rfl _ rfl
          simp only [step, register, registered]
          rfl
  | find first last => exact .keeps rfl rfl
  | recordLogin first last =>
      cases stored : service.directory.stored? (Account.keyOf first last) with
      | none =>
          have nothing := Directory.recordLogin_eq_none stored
          apply Change.keeps
          · rw [entered?, Directory.find?, stored]
            rfl
          · rw [step, nothing]
      | some account =>
          refine .enters (Account.keyOf first last) account ?_ stored ?_
          · rw [entered?, Directory.find?, stored]
            rfl
          · rw [step, Directory.recordLogin, Directory.find?, stored]
            rfl
  | set _ _ => exact .keeps rfl rfl
  | authenticate _ _ => exact change_of_attempt rfl rfl
  | login _ _ => exact change_of_attempt rfl rfl
  | post _ _ => exact change_of_posted? rfl rfl rfl
  | clientLogin _ _ => exact change_of_posted? rfl rfl rfl
  | clientCall _ _ => exact change_of_posted? rfl rfl rfl

/-! ## Flags along a run -/

def Unused : Step → Prop
  | .register account => account.everLoggedIn = false
  | _ => True

theorem flagAt_step (service : Service) {step : Step} (unused : Unused step) (key : String) :
    (service.step step).2.directory.flagAt key =
      (service.directory.flagAt key || decide (service.entered? step = some key)) := by
  cases service.change step with
  | registers account isRegistration registered entersNone =>
      subst isRegistration
      rw [entersNone, Directory.flagAt_register registered unused]
      simp
  | enters entered account entersKey stored marked =>
      rw [marked, Directory.flagAt_markAt stored, entersKey]
      simp [eq_comm]
  | keeps entersNone same =>
      rw [same, entersNone]
      simp

/-- Some step of a run records a login to the account under a key. -/
def Entered (service : Service) (key : String) : List Step → Prop
  | [] => False
  | step :: rest => service.entered? step = some key ∨ Entered (service.step step).2 key rest

theorem flagAt_run (service : Service) {steps : List Step} (unused : ∀ step ∈ steps, Unused step)
    (key : String) :
    (service.run steps).2.directory.flagAt key = true ↔
      service.directory.flagAt key = true ∨ service.Entered key steps := by
  -- A step changes the flag only by entering the account, see `flagAt_step`.
  induction steps generalizing service with
  | nil => simp [run, Entered]
  | cons step rest induction =>
      have stepUnused := unused step List.mem_cons_self
      have restUnused := fun each member => unused each (List.mem_cons_of_mem step member)
      have after := induction (service.step step).2 restUnused
      rw [flagAt_step service stepUnused] at after
      simp only [run, Entered]
      rw [after, Bool.or_eq_true, decide_eq_true_eq, or_assoc]

/-- A flag that is set stays set, and the account it belongs to stays as it is. -/
theorem stored?_step_of_used {service : Service} {key : String} {account : Account}
    (stored : service.directory.stored? key = some account) (used : account.everLoggedIn = true)
    (step : Step) : (service.step step).2.directory.stored? key = some account := by
  have unchanged : account.used = account := by
    rw [Account.used, ← used]
  cases service.change step with
  | registers added _ registered _ =>
      rw [Directory.stored?_register registered, stored]
      split
      · next same =>
          rw [same, (Directory.register_eq_ok registered).1] at stored
          contradiction
      · rfl
  | enters entered _ _ _ marked =>
      rw [marked, Directory.stored?_markAt, stored, Option.map_some, unchanged, ite_self]
  | keeps _ same => rw [same, stored]

theorem stored?_run_of_used {service : Service} {key : String} {account : Account}
    (stored : service.directory.stored? key = some account) (used : account.everLoggedIn = true)
    (steps : List Step) : (service.run steps).2.directory.stored? key = some account := by
  induction steps generalizing service with
  | nil => exact stored
  | cons step rest induction => exact induction (stored?_step_of_used stored used step)

/-! ## Runs from an empty directory -/

theorem flagAt_run_empty (grid : Grid) (settings : RunSettings) {steps : List Step}
    (unused : ∀ step ∈ steps, Unused step) (key : String) :
    ((empty grid settings).run steps).2.directory.flagAt key = true ↔
      (empty grid settings).Entered key steps := by
  have nobody : (empty grid settings).directory.flagAt key = false := rfl
  rw [flagAt_run _ unused, nobody]
  simp

/-- What an accepted attempt reports and changes. -/
theorem change_of_accepted {service : Service} {draw : Draw} {request : Request}
    {response : Response} (accepted : (service.authenticate draw request).1 = .ok response) :
    ∃ account, service.Admits request account ∧
      response.loginFlags.everLoggedIn =
        some (service.directory.flagAt (Account.keyOf request.first request.last)) ∧
      (service.directory.recordLogin account.first account.last).isSome = true ∧
      ∀ other, (service.authenticate draw request).2.directory.stored? other =
        if other = Account.keyOf request.first request.last then some account.used
        else service.directory.stored? other := by
  rcases (exists_authenticate_eq_ok_iff service draw request).mp ⟨response, accepted⟩ with
    ⟨account, admits⟩
  refine ⟨account, admits, ?_, ?_, ?_⟩
  · rw [authenticate_of_admits admits] at accepted
    injection accepted with same
    rw [← same, Directory.flagAt_of_stored? admits.stored]
    rfl
  · rw [Directory.recordLogin_stored admits.stored]
    rfl
  · intro other
    rw [authenticate_of_admits admits, Directory.stored?_markAt]
    split
    · next atKey => rw [atKey, admits.stored, Option.map_some]
    · rw [Option.map_id']

/-- At every point of every run that starts without accounts: an attempt is accepted exactly
when its request is admitted; an accepted attempt reports whether a login to the account was
recorded before and sets the flag of that account, which then stays; and a step that neither
records a login nor registers an account leaves the directory as it is. -/
theorem attempt_of_run (grid : Grid) (settings : RunSettings) (before : List Step)
    (unused : ∀ step ∈ before, Unused step) (step : Step) :
    let service := ((empty grid settings).run before).2
    let after := (service.step step).2
    (∀ draw request, service.attempt? step = some (draw, request) →
      ((∃ response, (service.authenticate draw request).1 = .ok response) ↔
        ∃ account, service.Admits request account) ∧
      ∀ response, (service.authenticate draw request).1 = .ok response →
        let key := Account.keyOf request.first request.last
        (service.step step).1 = report request response step ∧
        (∃ used, response.loginFlags.everLoggedIn = some used ∧
          (used = true ↔ (empty grid settings).Entered key before)) ∧
        ∃ account, service.directory.stored? key = some account ∧
          (service.directory.recordLogin account.first account.last).isSome = true ∧
          ∀ other, after.directory.stored? other =
            if other = key then some account.used else service.directory.stored? other) ∧
    (∀ key account later, service.directory.stored? key = some account →
      account.everLoggedIn = true →
        (after.run later).2.directory.stored? key = some account) ∧
    (service.entered? step = none →
      (∀ account directory, step = .register account →
        service.directory.register account ≠ .ok directory) →
      after.directory = service.directory) := by
  intro service after
  refine ⟨?_, ?_, ?_⟩
  · intro draw request attempted
    refine ⟨exists_authenticate_eq_ok_iff service draw request, ?_⟩
    intro response accepted key
    rcases change_of_accepted accepted with ⟨account, admits, reported, recorded, changed⟩
    refine ⟨step_fst_of_accepted attempted accepted, ⟨_, reported, ?_⟩,
      account, admits.stored, recorded, ?_⟩
    · exact flagAt_run_empty grid settings unused key
    · intro other
      rw [← changed other, ← step_snd_of_attempt attempted]
  · intro key account later stored used
    exact stored?_run_of_used (stored?_step_of_used stored used step) used later
  · intro entersNone notRegistered
    cases service.change step with
    | registers account isRegistration registered _ =>
        exact absurd registered (notRegistered account _ isRegistration)
    | enters key _ entersKey _ _ =>
        rw [entersNone] at entersKey
        contradiction
    | keeps _ same => exact same

def resident : Account := .new ⟨.ofNat 1, .ofNat 2, fun _ => .ofNat 3⟩ "Ruth" "Linden" "secret"

theorem register_resident : ∃ directory, Directory.empty.register resident = .ok directory := by
  have accepts : (Directory.empty.register resident).isOk = true := by decide +kernel
  cases outcome : Directory.empty.register resident with
  | error error =>
      rw [outcome] at accepts
      contradiction
  | ok directory => exact ⟨directory, rfl⟩

/-- The second login of an account reports the first, however the name is spelled. -/
theorem attempt_of_run_resident :
    let draw : Draw := ⟨.nil, .nil, .nil, 0, 0⟩
    let before : List Step :=
      [.register resident, .login draw (.of "ruth" " LINDEN" "secret" "last")]
    (∀ step ∈ before, Unused step) ∧
      ∃ response,
        (((empty .standard .standard).run before).2.authenticate draw
          (.of "RUTH " "linden" "secret" "home")).1 = .ok response ∧
        response.loginFlags.everLoggedIn = some true := by
  intro draw before
  have unused : ∀ step ∈ before, Unused step := by
    intro step member
    rcases List.mem_cons.mp member with rfl | inRest
    · rfl
    · rw [List.mem_singleton.mp inRest]
      trivial
  have admits : ((empty .standard .standard).run before).2.Admits
      (.of "RUTH " "linden" "secret" "home") resident.used :=
    { enabled := by decide +kernel
      filled := by intro field; cases field <;> decide
      stored := by decide +kernel
      passwd := rfl
      active := rfl }
  have entered : (empty .standard .standard).Entered (Account.keyOf "RUTH " "linden") before :=
    .inr (.inl (by decide +kernel))
  have holds := (attempt_of_run .standard .standard before unused
    (.authenticate draw (.of "RUTH " "linden" "secret" "home"))).1 _ _ rfl
  rcases holds.1.mpr ⟨resident.used, admits⟩ with ⟨response, accepted⟩
  rcases holds.2 response accepted with ⟨_, ⟨used, reported, isUsed⟩, _⟩
  exact ⟨unused, response, accepted, isUsed.mpr entered ▸ reported⟩

end ViewerLogin.Service
