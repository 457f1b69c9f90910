import ViewerLogin.Proofs.Account.Directory
import ViewerLogin.Proofs.Request
import ViewerLogin.Service.Basic

/-!
# Who is let in

The conditions under which a request is let in, what the service answers then and what it
changes. The order of the checks decides what a request with several faults is told.
-/

namespace ViewerLogin

namespace Service

/-! ## Admission -/

/-- All that a request must meet to be let in to an account. -/
structure Admits (service : Service) (request : Request) (account : Account) : Prop where
  enabled : service.settings.loginsEnabled = true
  filled : ∀ field, Text.isBlankText (request.required field) = false
  stored : service.directory.stored? (Account.keyOf request.first request.last) = some account
  passwd : account.passwd = request.passwd
  active : account.disabled = false

theorem authorize_eq_ok_iff (service : Service) (request : Request) (account : Account) :
    service.authorize request = .ok account ↔ service.Admits request account := by
  constructor
  · intro allowed
    unfold authorize at allowed
    split at allowed
    · contradiction
    · next enabled =>
        split at allowed
        · contradiction
        · next filled =>
            split at allowed
            · contradiction
            · next found stored =>
                split at allowed
                · contradiction
                · next passwd =>
                    split at allowed
                    · contradiction
                    · next active =>
                        injection allowed with same
                        subst same
                        exact {
                          enabled := by simpa using enabled
                          filled := request.firstBlank?_eq_none_iff.mp filled
                          stored := stored
                          passwd := Decidable.of_not_not passwd
                          active := by simpa using active }
  · intro admits
    have filled := request.firstBlank?_eq_none_iff.mpr admits.filled
    have found : service.directory.find? request.first request.last = some account :=
      admits.stored
    simp [authorize, admits.enabled, filled, found, admits.passwd, admits.active]

/-- A request that is let in is answered with the flag of the account as it was before, and
marks the account. The login is always recorded: the answer for an account that is not found
again is never given. -/
theorem authenticate_of_admits {service : Service} {request : Request} {account : Account}
    (admits : service.Admits request account) (draw : Draw) :
    service.authenticate draw request =
      (.ok (service.grid.welcomeResponse draw account request.start account.everLoggedIn),
        { service with
          directory :=
            service.directory.markAt (Account.keyOf request.first request.last) }) := by
  have allowed := (authorize_eq_ok_iff service request account).mpr admits
  have recorded := Directory.recordLogin_stored admits.stored
  simp only [authenticate, allowed, recorded]

theorem authenticate_of_refused {service : Service} {request : Request} {refusal : Refusal}
    (refused : service.authorize request = .error refusal) (draw : Draw) :
    service.authenticate draw request = (.error refusal, service) := by
  simp only [authenticate, refused]

/-- All that authentication can do: it refuses and leaves no trace, or it lets in to an account
and marks that. -/
theorem authenticate_cases (service : Service) (draw : Draw) (request : Request) :
    (∃ refusal, service.authorize request = .error refusal ∧
      service.authenticate draw request = (.error refusal, service)) ∨
    (∃ account, service.Admits request account ∧
      service.authenticate draw request =
        (.ok (service.grid.welcomeResponse draw account request.start account.everLoggedIn),
          { service with
            directory :=
              service.directory.markAt (Account.keyOf request.first request.last) })) := by
  cases outcome : service.authorize request with
  | error refusal => exact .inl ⟨refusal, rfl, authenticate_of_refused outcome draw⟩
  | ok account =>
      have admits := (authorize_eq_ok_iff service request account).mp outcome
      exact .inr ⟨account, admits, authenticate_of_admits admits draw⟩

/-- Whether a request is let in does not depend on what is drawn. -/
theorem exists_authenticate_eq_ok_iff (service : Service) (draw : Draw) (request : Request) :
    (∃ response, (service.authenticate draw request).1 = .ok response) ↔
      ∃ account, service.Admits request account := by
  constructor
  · rintro ⟨response, answered⟩
    rcases service.authenticate_cases draw request with ⟨_, _, refused⟩ | ⟨account, admits, _⟩
    · rw [refused] at answered
      contradiction
    · exact ⟨account, admits⟩
  · rintro ⟨account, admits⟩
    rw [authenticate_of_admits admits]
    exact ⟨_, rfl⟩

/-! ## Logins -/

theorem login_snd (service : Service) (draw : Draw) (request : Request) :
    (service.login draw request).2 = (service.authenticate draw request).2 := by
  unfold login
  split
  · next answered => rw [answered]
  · next answered => rw [answered]
  · next answered => rw [answered]

theorem login_of_ok {service : Service} {draw : Draw} {request : Request} {response : Response}
    (accepted : (service.authenticate draw request).1 = .ok response) :
    service.login draw request =
      (.ok response, (service.authenticate draw request).2) := by
  rw [login]
  generalize service.authenticate draw request = answer at accepted
  rcases answer with ⟨result, after⟩
  rw [show result = .ok response from accepted]

/-! ## Malformed requests -/

theorem authorize_ne_malformed {service : Service} {request : Request}
    (filled : request.firstBlank? = none) (field : Request.RequiredField) :
    service.authorize request ≠ .error (.malformed field) := by
  intro refused
  simp only [authorize, filled] at refused
  split at refused
  · exact nomatch refused
  · split at refused
    · exact nomatch refused
    · split at refused
      · exact nomatch refused
      · split at refused <;> exact nomatch refused

theorem login_of_refused {service : Service} {request : Request} {refusal : Refusal}
    (refused : service.authorize request = .error refusal)
    (filled : request.firstBlank? = none) (draw : Draw) :
    service.login draw request = (.ok (.refusal refusal.message), service) := by
  rw [login, authenticate_of_refused refused]
  cases refusal with
  | malformed field => exact absurd refused (authorize_ne_malformed filled field)
  | _ => rfl

/-- A blank field is complained about only while logins are enabled; otherwise the answer is a
response all the same. Nothing changes either way. -/
theorem login_of_blank (service : Service) (draw : Draw) (request : Request)
    (field : Request.RequiredField) (blank : request.firstBlank? = some field) :
    service.login draw request =
      (if service.settings.loginsEnabled then .error (.malformed field)
        else .ok (.refusal Refusal.gridUnavailable.message),
        service) := by
  cases enabled : service.settings.loginsEnabled with
  | true =>
      have refused : service.authorize request = .error (.malformed field) := by
        simp [authorize, enabled, blank]
      rw [login, authenticate_of_refused refused]
      rfl
  | false =>
      have refused : service.authorize request = .error .gridUnavailable := by
        simp [authorize, enabled]
      rw [login, authenticate_of_refused refused]
      rfl

theorem login_of_blank_enabled :
    (Request.of "Ruth" " " "" "last").firstBlank? = some .last ∧
      (Service.mk .empty .standard .standard).login ⟨.nil, .nil, .nil, 0, 0⟩
          (.of "Ruth" " " "" "last") =
        (.error (.malformed .last), .mk .empty .standard .standard) := by
  have blank : (Request.of "Ruth" " " "" "last").firstBlank? = some .last := by decide
  exact ⟨blank, login_of_blank _ _ _ .last blank⟩

/-- With logins disabled a malformed request is answered with a response. -/
theorem login_of_blank_disabled :
    (Request.of "" "" "" "").firstBlank? = some .first ∧
      ∃ response,
        ((Service.mk .empty .standard ⟨false, 65536⟩).login ⟨.nil, .nil, .nil, 0, 0⟩
          (.of "" "" "" "")).1 = .ok response :=
  ⟨by decide, _, rfl⟩

end Service

end ViewerLogin
