import ViewerLogin.Client.Exchange
import ViewerLogin.Proofs.Response.Stable

/-!
# Outcomes that were read

A client looks at the login flag of a map before it decides whether to read the rest. It has a
rule of its own for that look, which agrees on every value with the reading of the flag in a
response: a map is accepted exactly when it reads as a successful response, and a map that does
not say that the viewer is let in is rejected, whatever else is wrong with it.
-/

namespace ViewerLogin

/-! ## The login flag -/

namespace Wire.Codec

theorem parseTruth?_eq_true_iff {spelling : String} :
    parseTruth? spelling = some true ↔ spelling = "true" := by
  unfold parseTruth?
  split
  · simp
  · simp
  · next notTrue _ => simpa using notTrue

theorem truth_eq_true_iff {key : String} {slot : Option Json} :
    truth.read key slot = .ok (some true) ↔
      slot = some (.truth true) ∨ slot = some (.text "true") := by
  constructor
  · intro read
    simp only [truth] at read
    split at read
    · contradiction
    · next value isPresent =>
        cases read
        exact .inl (Option.filter_eq_some_iff.mp isPresent).1
    · next spelling isPresent =>
        split at read
        · next value parsed =>
            cases read
            rw [parseTruth?_eq_true_iff.mp parsed] at isPresent
            exact .inr (Option.filter_eq_some_iff.mp isPresent).1
        · contradiction
    · contradiction
  · rintro (rfl | rfl)
    · rfl
    · rfl

end Wire.Codec

namespace Outcome

/-- The map says, in one of two spellings, that the viewer is let in. -/
def Grants (members : Json.Members) : Prop :=
  members.get? "login" = some (.truth true) ∨ members.get? "login" = some (.text "true")

theorem saysAccepted_iff {members : Json.Members} :
    saysAccepted members = true ↔ Grants members := by
  unfold saysAccepted Grants
  split
  · next value found => simp [found]
  · next text found => simp [found]
  · next notTruth notText =>
      constructor
      · exact nofun
      · rintro (isTruth | isText)
        · exact absurd isTruth (notTruth true)
        · exact absurd isText (notText "true")

theorem isSuccess_iff_grants {members : Json.Members} {response : Response}
    (read : Response.ofMembers members = .ok response) :
    response.isSuccess = true ↔ Grants members := by
  have loginRead : Wire.Codec.truth.read "login" (members.get? "login") = .ok response.login :=
    Response.ofMembers_eq_ok_iff.mp read (.core .login)
  have granted := @Wire.Codec.truth_eq_true_iff "login" (members.get? "login")
  rw [loginRead, Except.ok.injEq] at granted
  rw [Response.isSuccess, decide_eq_true_iff]
  exact granted

/-! ## Classification -/

theorem ofMembers_of_grants {members : Json.Members} (grants : Grants members) :
    ofMembers members = (Response.ofMembers members).map .accepted :=
  if_pos (saysAccepted_iff.mpr grants)

theorem ofMembers_of_not_grants {members : Json.Members} (denies : ¬Grants members) :
    ofMembers members = .ok (.rejected (remark members "reason") (remark members "message")) :=
  if_neg (mt saysAccepted_iff.mp denies)

theorem ofMembers_eq_accepted_iff {members : Json.Members} {response : Response} :
    ofMembers members = .ok (.accepted response) ↔
      Response.ofMembers members = .ok response ∧ response.isSuccess = true := by
  by_cases grants : Grants members
  · rw [ofMembers_of_grants grants]
    cases outcome : Response.ofMembers members with
    | error error => simp [Except.map]
    | ok found =>
        have success := (isSuccess_iff_grants outcome).mpr grants
        constructor
        · rintro ⟨⟩
          exact ⟨rfl, success⟩
        · rintro ⟨⟨⟩, _⟩
          rfl
  · rw [ofMembers_of_not_grants grants]
    constructor
    · exact nofun
    · rintro ⟨read, success⟩
      exact absurd ((isSuccess_iff_grants read).mp success) grants

theorem ofMembers_eq_error_iff {members : Json.Members} {error : Wire.Error} :
    ofMembers members = .error error ↔
      Grants members ∧ Response.ofMembers members = .error error := by
  by_cases grants : Grants members
  · rw [ofMembers_of_grants grants]
    cases outcome : Response.ofMembers members with
    | error found => simp [Except.map, grants]
    | ok response => simp [Except.map]
  · rw [ofMembers_of_not_grants grants]
    simp [grants]

theorem remark_eq_some_iff {members : Json.Members} {key text : String} :
    remark members key = some text ↔
      members.get? key = some (.text text) ∧ text ≠ Wire.placeholder := by
  unfold remark
  split
  · next found given =>
      rw [given, Option.some.injEq, Json.text.injEq]
      split
      · next reserved =>
          constructor
          · exact nofun
          · rintro ⟨same, different⟩
            exact absurd (same.symm.trans reserved) different
      · next different =>
          rw [Option.some.injEq]
          exact ⟨fun same => ⟨same, same ▸ different⟩, And.left⟩
  · next notText =>
      constructor
      · exact nofun
      · rintro ⟨isText, _⟩
        exact absurd isText (notText text)

end Outcome

namespace Client

/-! ## Answers -/

theorem readReply_eq_ok_iff {method : String} {status : Nat} {body : List UInt8}
    {params : List Json} :
    readReply method status body = .ok params ↔
      (200 ≤ status ∧ status ≤ 299) ∧ Reply.ofOctets? body = some ⟨params⟩ := by
  have inRange : Status.isSuccess status = true ↔ 200 ≤ status ∧ status ≤ 299 := by
    rw [Status.isSuccess, Bool.and_eq_true, decide_eq_true_iff, decide_eq_true_iff]
    omega
  unfold readReply
  split
  · next success =>
      rw [← inRange]
      cases read : Reply.ofOctets? body with
      | none => simp
      | some reply =>
          rcases reply with ⟨found⟩
          simp [success]
  · next failed =>
      rw [← inRange]
      simp [failed]

theorem readOutcome_eq_ok_iff {params : List Json} {outcome : Outcome} :
    readOutcome params = .ok outcome ↔
      ∃ members rest, params = .map members :: rest ∧ Outcome.ofMembers members = .ok outcome := by
  unfold readOutcome
  split
  · next members rest =>
      cases read : Outcome.ofMembers members with
      | error error => simp [Except.mapError, read]
      | ok found => simp [Except.mapError, read]
  · next notMap =>
      constructor
      · exact nofun
      · rintro ⟨members, rest, isMap, _⟩
        exact absurd isMap (notMap members rest)

/-- An answer that tells of an outcome: its status is one of success, and its body is a reply of
which the first parameter is a map with this outcome. -/
def Tells (status : Nat) (body : List UInt8) (outcome : Outcome) : Prop :=
  (200 ≤ status ∧ status ≤ 299) ∧
    ∃ members rest, Reply.ofOctets? body = some ⟨.map members :: rest⟩ ∧
      Outcome.ofMembers members = .ok outcome

theorem readLogin_eq_ok_iff {status : Nat} {body : List UInt8} {outcome : Outcome} :
    readLogin status body = .ok outcome ↔ Tells status body outcome := by
  unfold readLogin Tells
  cases reply : readReply Call.loginMethod status body with
  | error failure =>
      constructor
      · exact nofun
      · rintro ⟨inRange, members, rest, read, _⟩
        rw [readReply_eq_ok_iff.mpr ⟨inRange, read⟩] at reply
        contradiction
  | ok params =>
      rcases readReply_eq_ok_iff.mp reply with ⟨inRange, read⟩
      constructor
      · intro decided
        rcases readOutcome_eq_ok_iff.mp decided with ⟨members, rest, rfl, classified⟩
        exact ⟨inRange, members, rest, read, classified⟩
      · rintro ⟨_, members, rest, readAgain, classified⟩
        cases read.symm.trans readAgain
        exact readOutcome_eq_ok_iff.mpr ⟨members, rest, rfl, classified⟩

/-! ## Agreement with the reading of responses -/

/-- A map is accepted exactly when it reads as a successful response, and fails exactly when it
says that the viewer is let in but cannot be read. In every other case it is rejected with the
texts it gives for that. A client returns exactly the outcomes that answers tell of. -/
theorem readLogin_agrees (members : Json.Members) (status : Nat) (body : List UInt8) :
    (∀ response, Outcome.ofMembers members = .ok (.accepted response) ↔
      Response.ofMembers members = .ok response ∧ response.isSuccess = true) ∧
    (∀ error, Outcome.ofMembers members = .error error ↔
      Outcome.Grants members ∧ Response.ofMembers members = .error error) ∧
    ((∀ response, ¬(Response.ofMembers members = .ok response ∧ response.isSuccess = true)) →
      (∀ error, ¬(Outcome.Grants members ∧ Response.ofMembers members = .error error)) →
      ∃ reason message, Outcome.ofMembers members = .ok (.rejected reason message) ∧
        (∀ text, reason = some text ↔
          members.get? "reason" = some (.text text) ∧ text ≠ Wire.placeholder) ∧
        (∀ text, message = some text ↔
          members.get? "message" = some (.text text) ∧ text ≠ Wire.placeholder)) ∧
    (∀ outcome, readLogin status body = .ok outcome ↔ Tells status body outcome) ∧
    ((∀ outcome, ¬Tells status body outcome) →
      ∃ failure, readLogin status body = .error failure) := by
  refine ⟨fun _ => Outcome.ofMembers_eq_accepted_iff, fun _ => Outcome.ofMembers_eq_error_iff,
    ?_, fun _ => readLogin_eq_ok_iff, ?_⟩
  · intro notAccepted notFailed
    have denies : ¬Outcome.Grants members := by
      intro grants
      cases outcome : Response.ofMembers members with
      | error error => exact notFailed error ⟨grants, outcome⟩
      | ok response =>
          exact notAccepted response ⟨outcome, (Outcome.isSuccess_iff_grants outcome).mpr grants⟩
    exact ⟨_, _, Outcome.ofMembers_of_not_grants denies, fun _ => Outcome.remark_eq_some_iff,
      fun _ => Outcome.remark_eq_some_iff⟩
  · intro silent
    cases result : readLogin status body with
    | error failure => exact ⟨failure, rfl⟩
    | ok outcome => exact absurd (readLogin_eq_ok_iff.mp result) (silent outcome)

def rebuff : Json.Members := .ofList [
  ("login", .text "None"),
  ("message", .text "Try again later."),
  ("reason", .text "None"),
  ("sim_port", .list [])]

theorem readLogin_agrees_rebuff :
    Response.ofMembers rebuff = .error (.wrongShape "sim_port" .integer) ∧
      Outcome.ofMembers rebuff = .ok (.rejected none (some "Try again later.")) ∧
      (∀ outcome, ¬Tells 404 [] outcome) ∧ ∃ failure, readLogin 404 [] = .error failure := by
  have unreadable : Response.ofMembers rebuff = .error (.wrongShape "sim_port" .integer) := by
    decide +kernel
  have denies : ¬Outcome.Grants rebuff := by
    unfold Outcome.Grants
    decide +kernel
  have reasonGiven : rebuff.get? "reason" = some (.text Wire.placeholder) := by decide +kernel
  have silent : ∀ outcome, ¬Tells 404 [] outcome := by
    rintro outcome ⟨⟨_, inRange⟩, _⟩
    omega
  rcases readLogin_agrees rebuff 404 [] with ⟨_, _, otherwise, _, fails⟩
  have notAccepted (response : Response) :
      ¬(Response.ofMembers rebuff = .ok response ∧ response.isSuccess = true) := by
    rintro ⟨read, _⟩
    rw [unreadable] at read
    contradiction
  rcases otherwise notAccepted fun _ failed => denies failed.1 with
    ⟨reason, message, rejected, reasons, messages⟩
  have noReason : reason = none := by
    rw [Option.eq_none_iff_forall_ne_some]
    intro text given
    rcases (reasons text).mp given with ⟨found, different⟩
    rw [reasonGiven] at found
    injection found with found
    injection found with found
    exact different found.symm
  have said : message = some "Try again later." :=
    (messages _).mpr ⟨by decide +kernel, by decide⟩
  rw [rejected, noReason, said]
  exact ⟨unreadable, rfl, silent, fails silent⟩

end Client

end ViewerLogin
