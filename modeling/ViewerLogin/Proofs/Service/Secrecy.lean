import ViewerLogin.Proofs.Client.Login
import ViewerLogin.Proofs.Service.Agreement
import ViewerLogin.Proofs.Service.History

/-!
# What can be learned without the password

Two services that differ only in what stands under one key give the same answers to everything
that is posted to them, as long as nobody posts the password that stands there. A wrong
password is answered as if there were no account, and neither changes anything, so that the
two services go on differing only there.
-/

namespace ViewerLogin

def RunSettings.refusalOf (settings : RunSettings) (request : Request) : Refusal :=
  if settings.loginsEnabled then
    match request.firstBlank? with
    | some field => .malformed field
    | none => .authenticationFailed
  else .gridUnavailable

namespace Service

/-- Nothing but the account under a key tells two services apart. -/
structure AgreeExcept (key : String) (left right : Service) : Prop where
  grid : left.grid = right.grid
  settings : left.settings = right.settings
  others : ∀ other, other ≠ key →
    left.directory.stored? other = right.directory.stored? other

def Misses (service : Service) (key : String) (request : Request) : Prop :=
  Account.keyOf request.first request.last = key →
    ∀ account, service.directory.stored? key = some account → account.passwd ≠ request.passwd

/-! ## One request -/

theorem authorize_of_misses {service : Service} {key : String} {request : Request}
    (misses : service.Misses key request)
    (atKey : Account.keyOf request.first request.last = key) :
    service.authorize request = .error (service.settings.refusalOf request) := by
  unfold authorize RunSettings.refusalOf
  cases service.settings.loginsEnabled with
  | false => rfl
  | true =>
      cases request.firstBlank? with
      | some field => rfl
      | none =>
          cases stored : service.directory.stored? key with
          | none => simp [Directory.find?, atKey, stored]
          | some account =>
              have different := misses atKey account stored
              simp [Directory.find?, atKey, stored, different]

/-- A request changes nothing under a key whose password it misses. -/
theorem stored?_authenticate {service : Service} {key : String} {request : Request}
    (misses : service.Misses key request) (draw : Draw) :
    (service.authenticate draw request).2.directory.stored? key =
      service.directory.stored? key := by
  by_cases atKey : Account.keyOf request.first request.last = key
  · rw [authenticate_of_refused (authorize_of_misses misses atKey)]
  · have elsewhere : ¬key = Account.keyOf request.first request.last :=
      fun same => atKey same.symm
    rcases service.authenticate_cases draw request with ⟨_, _, refused⟩ | ⟨_, _, admitted⟩
    · rw [refused]
    · rw [admitted, Directory.stored?_markAt]
      simp only [if_neg elsewhere, Option.map_id']

namespace AgreeExcept

variable {key : String} {left right : Service}

theorem agreeOn (agree : AgreeExcept key left right) : AgreeOn (· ≠ key) left right :=
  ⟨agree.grid, agree.settings, agree.others⟩

theorem of_agreeOn (agree : AgreeOn (· ≠ key) left right) : AgreeExcept key left right :=
  ⟨agree.grid, agree.settings, agree.stored⟩

theorem authorize_eq (agree : AgreeExcept key left right) {request : Request}
    (leftMisses : left.Misses key request) (rightMisses : right.Misses key request) :
    left.authorize request = right.authorize request := by
  by_cases atKey : Account.keyOf request.first request.last = key
  · rw [authorize_of_misses leftMisses atKey, authorize_of_misses rightMisses atKey,
      agree.settings]
  · exact agree.agreeOn.authorize_eq atKey

end AgreeExcept

/-! ## One posted body -/

theorem settings_post (service : Service) (draw : Draw) (body : List UInt8) :
    (service.post draw body).2.settings = service.settings :=
  (service.post_keeps draw body).2

/-- No request in a body gives the password of the account under a key. -/
def Withholds (service : Service) (key : String) (body : List UInt8) : Prop :=
  ∀ request, service.posted? body = some request → service.Misses key request

namespace Withholds

variable {service : Service} {key : String} {body : List UInt8}

theorem congr {other : Service} (settings : other.settings = service.settings)
    (stored : other.directory.stored? key = service.directory.stored? key)
    (withholds : service.Withholds key body) : other.Withholds key body := by
  intro request posted atKey account inOther
  rw [posted?_eq_some_iff, settings, ← posted?_eq_some_iff] at posted
  rw [stored] at inOther
  exact withholds request posted atKey account inOther

theorem stored?_post (withholds : service.Withholds key body) (draw : Draw) :
    (service.post draw body).2.directory.stored? key = service.directory.stored? key := by
  cases posted : service.posted? body with
  | none => rw [post_snd_of_not_posted posted]
  | some request =>
      rw [post_snd_of_posted posted, stored?_authenticate (withholds request posted)]

end Withholds

/-- A body that misses the password gets the same answer from both, and they go on differing only
under the key. -/
theorem AgreeExcept.post {key : String} {left right : Service} {body : List UInt8}
    (agree : AgreeExcept key left right) (leftWithholds : left.Withholds key body)
    (rightWithholds : right.Withholds key body) (draw : Draw) :
    (left.post draw body).1 = (right.post draw body).1 ∧
      AgreeExcept key (left.post draw body).2 (right.post draw body).2 := by
  have same (request : Request) (posted : right.posted? body = some request) :
      left.authorize request = right.authorize request := by
    have leftPosted : left.posted? body = some request := by
      rwa [posted?_eq_some_iff, agree.settings, ← posted?_eq_some_iff]
    exact agree.authorize_eq (leftWithholds request leftPosted) (rightWithholds request posted)
  rcases agree.agreeOn.post same draw with ⟨sameAnswer, still⟩
  exact ⟨sameAnswer, of_agreeOn still⟩

/-! ## Runs of posted bodies -/

/-- Whoever posts bodies without the password of an account gets the same answers whether or
not there is an account, whatever it is like, and leaves it as it is. -/
theorem run_posts_of_agreeExcept {key : String} {left right : Service}
    (agree : AgreeExcept key left right) (posts : List (Draw × List UInt8))
    (withheld : ∀ post ∈ posts,
      left.Withholds key post.2 ∧ right.Withholds key post.2) :
    let steps := posts.map fun post => Step.post post.1 post.2
    (left.run steps).1 = (right.run steps).1 ∧
      (left.run steps).2.directory.stored? key = left.directory.stored? key ∧
      (right.run steps).2.directory.stored? key = right.directory.stored? key := by
  intro steps
  -- Bodies withhold the password of the account as it is stored, and it stays as it is.
  induction posts generalizing left right with
  | nil => exact ⟨rfl, rfl, rfl⟩
  | cons post rest induction =>
      rcases post with ⟨draw, body⟩
      rcases withheld _ List.mem_cons_self with ⟨leftWithholds, rightWithholds⟩
      rcases agree.post leftWithholds rightWithholds draw with ⟨sameAnswer, still⟩
      have leftStored := leftWithholds.stored?_post draw
      have rightStored := rightWithholds.stored?_post draw
      have restWithheld : ∀ post ∈ rest,
          (left.post draw body).2.Withholds key post.2 ∧
            (right.post draw body).2.Withholds key post.2 := by
        intro post member
        rcases withheld post (List.mem_cons_of_mem _ member) with ⟨inLeft, inRight⟩
        exact ⟨inLeft.congr (settings_post _ _ _) leftStored,
          inRight.congr (settings_post _ _ _) rightStored⟩
      rcases induction still restWithheld with ⟨sameAnswers, leftKept, rightKept⟩
      refine ⟨?_, leftKept.trans leftStored, rightKept.trans rightStored⟩
      exact congrArg₂ (fun answer answers => Result.answer answer :: answers)
        sameAnswer sameAnswers

theorem run_posts_of_agreeExcept_resident :
    ∃ directory, Directory.empty.register resident = .ok directory ∧
      let inhabited : Service := ⟨directory, .standard, .standard⟩
      let deserted : Service := empty .standard .standard
      let guess : Request := .of "ruth" "linden" "guess" "last"
      let posts : List (Draw × List UInt8) :=
        [(⟨.nil, .nil, .nil, 0, 0⟩, (Client.loginCall guess).toOctets)]
      let steps := posts.map fun post => Step.post post.1 post.2
      AgreeExcept resident.key inhabited deserted ∧
        (∀ post ∈ posts, inhabited.posted? post.2 = some guess ∧
          inhabited.Withholds resident.key post.2 ∧ deserted.Withholds resident.key post.2) ∧
        (inhabited.run steps).1 = (deserted.run steps).1 := by
  rcases register_resident with ⟨directory, outcome⟩
  refine ⟨directory, outcome, ?_⟩
  intro inhabited deserted guess posts steps
  have agree : AgreeExcept resident.key inhabited deserted :=
    { grid := rfl
      settings := rfl
      others := fun other different =>
        (Directory.stored?_register outcome other).trans (if_neg different) }
  have small : ¬RunSettings.standard.maxRequestBytes <
      (Client.loginCall guess).toOctets.length := by
    decide +kernel
  have posted : inhabited.posted? (Client.loginCall guess).toOctets = some guess :=
    Client.posted?_loginCall small (by decide +kernel)
  have stored : inhabited.directory.stored? resident.key = some resident :=
    (Directory.stored?_register outcome _).trans (if_pos rfl)
  have withheld : ∀ post ∈ posts, inhabited.posted? post.2 = some guess ∧
      inhabited.Withholds resident.key post.2 ∧ deserted.Withholds resident.key post.2 := by
    intro post member
    rw [List.mem_singleton.mp member]
    refine ⟨posted, ?_, ?_⟩
    · intro request read _ account found
      rw [← Option.some.inj (posted.symm.trans read),
        ← Option.some.inj (stored.symm.trans found)]
      decide
    · intro request _ _ account found
      contradiction
  exact ⟨agree, withheld,
    (run_posts_of_agreeExcept agree posts fun post member => (withheld post member).2).1⟩

end Service

end ViewerLogin
