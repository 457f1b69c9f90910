import ViewerLogin.Proofs.Account.Roll
import ViewerLogin.Proofs.Client.Login
import ViewerLogin.Proofs.Service.Agreement
import ViewerLogin.Proofs.Service.History

/-!
# Accounts do not interfere

Most steps of a run give a pair of names. A step with other names leaves the account of a pair
as it is, and a step with these names, or with none, is answered by what stands under the pair
alone. So what other accounts do can be struck from a run without any result of the rest being
different, whatever keys the names are joined to.
-/

namespace ViewerLogin

/-! ## The names in a step -/

def Request.nameIn? (members : Json.Members) : Option FoldedName :=
  match members.get? "first", members.get? "last" with
  | some (.text first), some (.text last) => some (.of first last)
  | _, _ => none

theorem Request.nameIn?_of_ofMembers {members : Json.Members} {request : Request}
    (read : ofMembers members = .ok request) :
    nameIn? members = some (.of request.first request.last) := by
  have required := (ofMembers_eq_ok_iff.mp read).1
  have first : members.get? "first" = some (.text request.first) :=
    (checkRequired_eq_ok_iff.mp (required .first)).1
  have last : members.get? "last" = some (.text request.last) :=
    (checkRequired_eq_ok_iff.mp (required .last)).1
  simp only [nameIn?, first, last]

namespace Call

def name? (call : Call) : Option FoldedName :=
  if call.method = loginMethod then
    match call.params with
    | .map members :: _ => Request.nameIn? members
    | _ => none
  else none

theorem name?_of_request? {call : Call} {request : Request}
    (carried : call.request? = some request) :
    call.name? = some (.of request.first request.last) := by
  unfold request? at carried
  unfold name?
  split at carried
  · next isLogin =>
      rw [if_pos isLogin]
      split at carried
      · contradiction
      · next parameters rest given =>
          rw [given]
          cases parameters with
          | map members =>
              cases read : Request.ofMembers members with
              | error error =>
                  rw [Request.ofJson, read] at carried
                  contradiction
              | ok found =>
                  rw [Request.ofJson, read] at carried
                  cases carried
                  exact Request.nameIn?_of_ofMembers read
          | _ => contradiction
  · contradiction

def nameIn? (body : List UInt8) : Option FoldedName := (ofOctets? body).bind name?

end Call

namespace Service

theorem nameIn?_of_posted? {service : Service} {body : List UInt8} {request : Request}
    (posted : service.posted? body = some request) :
    Call.nameIn? body = some (.of request.first request.last) := by
  unfold posted? at posted
  split at posted
  · contradiction
  · rcases Option.bind_eq_some_iff.mp posted with ⟨call, read, carried⟩
    rw [Call.nameIn?, read, Option.bind_some]
    exact Call.name?_of_request? carried

theorem nameIn?_loginCall (request : Request) :
    Call.nameIn? (Client.loginCall request).toOctets =
      some (.of request.first request.last) := by
  have first : request.toMembers.get? "first" = some (.text request.first) :=
    Request.get?_toMembers (request.required_mem_slots .first)
  have last : request.toMembers.get? "last" = some (.text request.last) :=
    Request.get?_toMembers (request.required_mem_slots .last)
  rw [Call.nameIn?, Client.ofOctets?_loginCall, Option.bind_some, Call.name?, Client.loginCall,
    if_pos rfl]
  simp only [Request.nameIn?, first, last]

namespace Step

def name? : Step → Option FoldedName
  | .register account => some account.foldedName
  | .find first last | .recordLogin first last => some (.of first last)
  | .set _ _ => none
  | .authenticate _ request | .login _ request | .clientLogin _ request =>
      some (.of request.first request.last)
  | .post _ body => Call.nameIn? body
  | .clientCall _ call => Call.nameIn? call.toOctets

def concerns (step : Step) (name : FoldedName) : Bool :=
  step.name? = none || step.name? = some name

theorem concerns_eq_true_iff {step : Step} {name : FoldedName} :
    step.concerns name = true ↔ ∀ other, step.name? = some other → other = name := by
  unfold concerns
  cases step.name? <;> simp

theorem concerns_eq_false_iff {step : Step} {name : FoldedName} :
    step.concerns name = false ↔ ∃ other, step.name? = some other ∧ other ≠ name := by
  unfold concerns
  cases step.name? <;> simp

end Step

theorem name?_of_attempt? {service : Service} {step : Step} {draw : Draw} {request : Request}
    (attempted : service.attempt? step = some (draw, request)) :
    step.name? = some (.of request.first request.last) := by
  cases step with
  | authenticate _ _ | login _ _ =>
      cases attempted
      rfl
  | clientLogin _ asked =>
      rcases Option.map_eq_some_iff.mp attempted with ⟨carried, posted, same⟩
      cases same
      exact (nameIn?_loginCall asked).symm.trans (nameIn?_of_posted? posted)
  | post _ _ | clientCall _ _ =>
      rcases Option.map_eq_some_iff.mp attempted with ⟨carried, posted, same⟩
      cases same
      exact nameIn?_of_posted? posted
  | _ => contradiction

/-! ## Steps with other names -/

theorem key_of_entered? {service : Service} {step : Step} {name : FoldedName} {key : String}
    (named : step.name? = some name) (enters : service.entered? step = some key) :
    key = name.key := by
  have ofAttempt (attempt : Option (Draw × Request)) (attempted : service.attempt? step = attempt)
      (accepted : service.acceptedKey? attempt = some key) : key = name.key := by
    unfold acceptedKey? at accepted
    split at accepted
    · contradiction
    · next draw request =>
        split at accepted
        · rw [name?_of_attempt? attempted] at named
          rw [← Option.some.inj accepted, ← Option.some.inj named]
          rfl
        · contradiction
  cases step with
  | recordLogin first last =>
      rcases Option.map_eq_some_iff.mp enters with ⟨_, _, same⟩
      rw [← same, ← Option.some.inj named]
      rfl
  | _ => exact ofAttempt _ rfl enters

theorem step_keeps (service : Service) {step : Step} {name : FoldedName}
    (named : step.name? = some name) :
    (service.step step).2.grid = service.grid ∧
      (service.step step).2.settings = service.settings := by
  cases step with
  | register account =>
      rw [step, register]
      cases service.directory.register account <;> exact ⟨rfl, rfl⟩
  | find _ _ => exact ⟨rfl, rfl⟩
  | recordLogin first last =>
      rw [step]
      cases service.directory.recordLogin first last <;> exact ⟨rfl, rfl⟩
  | set _ _ => contradiction
  | authenticate draw request => exact service.authenticate_keeps draw request
  | login draw request =>
      simp only [step, login_snd]
      exact service.authenticate_keeps draw request
  | post draw body => exact service.post_keeps draw body
  | clientLogin draw request => exact service.post_keeps draw _
  | clientCall draw call => exact service.post_keeps draw _

/-- Names that an account does not have do not lead to its key. -/
theorem key_ne_key_of_other {account : Account} {name other : FoldedName}
    (sound : account.nameFault? = none) (own : account.foldedName = other)
    (different : other ≠ name) : name.key ≠ account.key := by
  intro same
  have ownToo : name = account.foldedName := (FoldedName.key_eq_key_iff sound name).mp same
  exact different (own.symm.trans ownToo.symm)

/-- What a step does, it does under the key of the names it gives. If an account stands there,
its names are these; other names that are joined to the same key belong to no account. -/
theorem stored?_step_of_other {service : Service} {step : Step} {name other : FoldedName}
    (named : step.name? = some other) (different : other ≠ name) :
    (service.step step).2.directory.stored? name.key = service.directory.stored? name.key := by
  cases service.change step with
  | registers account isRegistration registered _ =>
      subst isRegistration
      have stored := Directory.stored?_register registered
      have sound := Directory.nameFault?_of_stored? ((stored account.key).trans (if_pos rfl))
      rw [stored, if_neg (key_ne_key_of_other sound (Option.some.inj named) different)]
  | enters key account entersKey stored marked =>
      rw [key_of_entered? named entersKey] at stored marked
      have sound := Directory.nameFault?_of_stored? stored
      have ownKey : account.key = other.key := Directory.key_of_stored? stored
      have own : other = account.foldedName :=
        (FoldedName.key_eq_key_iff sound other).mp ownKey.symm
      have elsewhere := key_ne_key_of_other sound own.symm different
      rw [marked, Directory.stored?_markAt, ← ownKey]
      simp only [if_neg elsewhere, Option.map_id']
  | keeps _ same => rw [same]

/-! ## Steps with the same names -/

namespace AgreeOn

variable {name : FoldedName} {left right : Service}

theorem step_of_other (agree : AgreeOn (· = name.key) left right) {step : Step}
    {other : FoldedName} (named : step.name? = some other) (different : other ≠ name) :
    AgreeOn (· = name.key) (left.step step).2 right where
  grid := (left.step_keeps named).1.trans agree.grid
  settings := (left.step_keeps named).2.trans agree.settings
  stored := by
    rintro _ rfl
    rw [stored?_step_of_other named different, agree.stored _ rfl]

theorem register (agree : AgreeOn (· = name.key) left right) {account : Account}
    (named : account.foldedName = name) :
    (left.step (.register account)).1 = (right.step (.register account)).1 ∧
      AgreeOn (· = name.key) (left.step (.register account)).2
        (right.step (.register account)).2 := by
  have ownKey : account.key = name.key := by
    rw [← named]
    rfl
  simp only [Service.step, Service.register]
  rcases Directory.register_congr (agree.stored account.key ownKey) with
    ⟨error, refused, rightRefused⟩ | ⟨leftAfter, rightAfter, added, rightAdded⟩
  · rw [refused, rightRefused]
    exact ⟨rfl, agree⟩
  · rw [added, rightAdded]
    refine ⟨rfl, agree.grid, agree.settings, fun key shared => ?_⟩
    calc leftAfter.stored? key
        = if key = account.key then some account else left.directory.stored? key :=
          Directory.stored?_register added key
      _ = if key = account.key then some account else right.directory.stored? key := by
          rw [agree.stored key shared]
      _ = rightAfter.stored? key := (Directory.stored?_register rightAdded key).symm

theorem recordLogin (agree : AgreeOn (· = name.key) left right) {first last : String}
    (named : FoldedName.of first last = name) :
    (left.step (.recordLogin first last)).1 = (right.step (.recordLogin first last)).1 ∧
      AgreeOn (· = name.key) (left.step (.recordLogin first last)).2
        (right.step (.recordLogin first last)).2 := by
  have found : left.directory.find? first last = right.directory.find? first last := by
    apply agree.stored
    rw [← named]
    rfl
  simp only [Service.step, Directory.recordLogin, found]
  cases right.directory.find? first last with
  | none => exact ⟨rfl, agree⟩
  | some account => exact ⟨rfl, agree.markAt _⟩

/-- A body that gives these names, or none, is answered alike. -/
theorem post_of_concerned (agree : AgreeOn (· = name.key) left right) {body : List UInt8}
    (concerned : ∀ other, Call.nameIn? body = some other → other = name) (draw : Draw) :
    (left.post draw body).1 = (right.post draw body).1 ∧
      AgreeOn (· = name.key) (left.post draw body).2 (right.post draw body).2 := by
  refine agree.post (fun request posted => agree.authorize_eq ?_) draw
  rw [← concerned _ (nameIn?_of_posted? posted)]
  rfl

/-- A step that gives these names, or none, has the same result for both. -/
theorem step (agree : AgreeOn (· = name.key) left right) {step : Step}
    (concerned : ∀ other, step.name? = some other → other = name) :
    (left.step step).1 = (right.step step).1 ∧
      AgreeOn (· = name.key) (left.step step).2 (right.step step).2 := by
  have atKey {first last : String} (named : step.name? = some (.of first last)) :
      Account.keyOf first last = name.key := by
    rw [← concerned _ named]
    rfl
  cases step with
  | register account => exact agree.register (concerned _ rfl)
  | find first last => exact ⟨congrArg Result.found (agree.stored _ (atKey rfl)), agree⟩
  | recordLogin first last => exact agree.recordLogin (concerned _ rfl)
  | set loginsEnabled maxRequestBytes =>
      rw [Service.step, Service.step, agree.settings]
      exact ⟨rfl, agree.grid, rfl, agree.stored⟩
  | authenticate draw request =>
      rcases agree.authenticate (agree.authorize_eq (atKey rfl)) draw with ⟨sameAnswer, still⟩
      exact ⟨congrArg Result.response sameAnswer, still⟩
  | login draw request =>
      rcases agree.login (agree.authorize_eq (atKey rfl)) draw with ⟨sameAnswer, still⟩
      exact ⟨congrArg Result.response sameAnswer, still⟩
  | post draw body =>
      rcases agree.post_of_concerned concerned draw with ⟨sameAnswer, still⟩
      exact ⟨congrArg Result.answer sameAnswer, still⟩
  | clientLogin draw request =>
      have sameName := fun other named =>
        concerned other ((nameIn?_loginCall request).symm.trans named)
      rcases agree.post_of_concerned sameName draw with ⟨sameAnswer, still⟩
      have sameOutcome := congrArg
        (fun answer : Answer => Client.readLogin answer.status answer.octets) sameAnswer
      exact ⟨congrArg Result.outcome sameOutcome, still⟩
  | clientCall draw call =>
      rcases agree.post_of_concerned concerned draw with ⟨sameAnswer, still⟩
      have sameParams := congrArg
        (fun answer : Answer => Client.readReply call.method answer.status answer.octets) sameAnswer
      exact ⟨congrArg Result.params sameParams, still⟩

end AgreeOn

/-! ## Runs -/

def log (service : Service) (steps : List Step) : List (Step × Result) :=
  steps.zip (service.run steps).1

theorem log_cons (service : Service) (step : Step) (rest : List Step) :
    service.log (step :: rest) =
      (step, (service.step step).1) :: (service.step step).2.log rest :=
  rfl

theorem filter_log_of_agreeOn {name : FoldedName} {left right : Service}
    (agree : AgreeOn (· = name.key) left right) (steps : List Step) :
    (left.log steps).filter (fun entry => entry.1.concerns name) =
      right.log (steps.filter fun step => step.concerns name) := by
  -- The two services go on agreeing under the key, whether or not a step is struck out.
  induction steps generalizing left right with
  | nil => rfl
  | cons step rest induction =>
      rw [log_cons, List.filter_cons, List.filter_cons]
      cases concerned : step.concerns name with
      | true =>
          rcases agree.step (Step.concerns_eq_true_iff.mp concerned) with ⟨sameResult, still⟩
          rw [if_pos rfl, if_pos rfl, log_cons, sameResult, induction still]
      | false =>
          rcases Step.concerns_eq_false_iff.mp concerned with ⟨other, named, different⟩
          exact induction (agree.step_of_other named different)

/-- What others do does not show: when all steps with other names are struck from a run, the
steps that are left have the results they had. -/
theorem filter_log_concerns (service : Service) (name : FoldedName) (steps : List Step) :
    (service.log steps).filter (fun entry => entry.1.concerns name) =
      service.log (steps.filter fun step => step.concerns name) :=
  filter_log_of_agreeOn ⟨rfl, rfl, fun _ _ => rfl⟩ steps

end Service

end ViewerLogin
