import ViewerLogin.Proofs.Service.Demand

/-!
# Services that agree on some accounts

Two services of one grid, with the same settings, may hold the same accounts under some keys
and others elsewhere. What only concerns the accounts they share is answered alike by both, and
they agree on these accounts afterwards as before.
-/

namespace ViewerLogin.Service

/-! ## What a login changes -/

theorem authenticate_keeps (service : Service) (draw : Draw) (request : Request) :
    (service.authenticate draw request).2.grid = service.grid ∧
      (service.authenticate draw request).2.settings = service.settings := by
  rcases service.authenticate_cases draw request with ⟨_, _, refused⟩ | ⟨_, _, admitted⟩
  · rw [refused]
    exact ⟨rfl, rfl⟩
  · rw [admitted]
    exact ⟨rfl, rfl⟩

theorem post_keeps (service : Service) (draw : Draw) (body : List UInt8) :
    (service.post draw body).2.grid = service.grid ∧
      (service.post draw body).2.settings = service.settings := by
  cases posted : service.posted? body with
  | none =>
      rw [post_snd_of_not_posted posted]
      exact ⟨rfl, rfl⟩
  | some request =>
      rw [post_snd_of_posted posted]
      exact service.authenticate_keeps draw request

/-! ## What a login is answered -/

theorem login_fst_congr {left right : Service} {draw : Draw} {request : Request}
    (same : (left.authenticate draw request).1 = (right.authenticate draw request).1) :
    (left.login draw request).1 = (right.login draw request).1 := by
  unfold login
  generalize left.authenticate draw request = leftAnswer at same
  generalize right.authenticate draw request = rightAnswer at same
  rcases leftAnswer with ⟨result, leftAfter⟩
  rcases rightAnswer with ⟨_, rightAfter⟩
  subst same
  rcases result with refusal | response
  · cases refusal <;> rfl
  · rfl

theorem resultOfLogin_fst_congr (request : Request)
    {left right : Except Refusal Response × Service} (same : left.1 = right.1) :
    (resultOfLogin request left).1 = (resultOfLogin request right).1 := by
  rcases left with ⟨result, leftAfter⟩
  rcases right with ⟨_, rightAfter⟩
  subst same
  cases result <;> rfl

/-! ## Agreement -/

structure AgreeOn (keys : String → Prop) (left right : Service) : Prop where
  grid : left.grid = right.grid
  settings : left.settings = right.settings
  stored : ∀ key, keys key → left.directory.stored? key = right.directory.stored? key

namespace AgreeOn

variable {keys : String → Prop} {left right : Service}

theorem authorize_eq (agree : AgreeOn keys left right) {request : Request}
    (shared : keys (Account.keyOf request.first request.last)) :
    left.authorize request = right.authorize request := by
  have sameFound : left.directory.find? request.first request.last =
      right.directory.find? request.first request.last :=
    agree.stored _ shared
  rw [authorize, authorize, agree.settings, sameFound]

theorem markAt (agree : AgreeOn keys left right) (key : String) :
    AgreeOn keys { left with directory := left.directory.markAt key }
      { right with directory := right.directory.markAt key } :=
  { grid := agree.grid
    settings := agree.settings
    stored := fun other shared => by
      rw [Directory.stored?_markAt, Directory.stored?_markAt, agree.stored other shared] }

/-- A request that both judge alike is answered alike. -/
theorem authenticate (agree : AgreeOn keys left right) {request : Request}
    (same : left.authorize request = right.authorize request) (draw : Draw) :
    (left.authenticate draw request).1 = (right.authenticate draw request).1 ∧
      AgreeOn keys (left.authenticate draw request).2 (right.authenticate draw request).2 := by
  cases outcome : right.authorize request with
  | error refusal =>
      rw [authenticate_of_refused outcome, authenticate_of_refused (same.trans outcome)]
      exact ⟨rfl, agree⟩
  | ok account =>
      have rightAdmits := (authorize_eq_ok_iff right request account).mp outcome
      have leftAdmits := (authorize_eq_ok_iff left request account).mp (same.trans outcome)
      rw [authenticate_of_admits leftAdmits, authenticate_of_admits rightAdmits]
      refine ⟨?_, agree.markAt _⟩
      rw [agree.grid]

theorem login (agree : AgreeOn keys left right) {request : Request}
    (same : left.authorize request = right.authorize request) (draw : Draw) :
    (left.login draw request).1 = (right.login draw request).1 ∧
      AgreeOn keys (left.login draw request).2 (right.login draw request).2 := by
  rcases agree.authenticate same draw with ⟨sameAnswer, still⟩
  rw [login_snd, login_snd]
  exact ⟨login_fst_congr sameAnswer, still⟩

/-- A body is answered alike if the request in it, should there be one, is judged alike. -/
theorem post (agree : AgreeOn keys left right) {body : List UInt8}
    (same : ∀ request, right.posted? body = some request →
      left.authorize request = right.authorize request) (draw : Draw) :
    (left.post draw body).1 = (right.post draw body).1 ∧
      AgreeOn keys (left.post draw body).2 (right.post draw body).2 := by
  rw [post_eq_fulfil, post_eq_fulfil, agree.settings]
  cases demanded : right.settings.demand body with
  | error fault => exact ⟨rfl, agree⟩
  | ok demand =>
      cases demand with
      | echo params => exact ⟨rfl, agree⟩
      | login request =>
          have posted : right.posted? body = some request := posted?_eq_some_iff.mpr demanded
          rcases agree.login (same request posted) draw with ⟨sameAnswer, still⟩
          refine ⟨congrArg Answer.ofResult (resultOfLogin_fst_congr request sameAnswer), ?_⟩
          simp only [fulfil, resultOfLogin_snd]
          exact still

end AgreeOn

end ViewerLogin.Service
