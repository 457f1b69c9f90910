import ViewerLogin.Proofs.Call.Meaning
import ViewerLogin.Proofs.Service.Reply

/-!
# The spelling of posted calls

What a body is answered with and what it leaves behind depend on the call that it means and on
nothing else about it. Of the parameters of a login only the first one counts. A body that means
no call is refused, as one is that gives its method or its parameters twice.
-/

namespace ViewerLogin

namespace Call

/-- The method or the parameters are given twice, or the parameters are given as null. -/
def Spoils (members : List (List Piece × Tree)) : Prop :=
  1 < (valuesAt members "methodName").length ∨ 1 < (valuesAt members "params").length ∨
    .null ∈ valuesAt members "params"

theorem not_means_of_spoils {members : List (List Piece × Tree)} (spoils : Spoils members)
    (call : Call) : ¬Means (.map members) call := by
  intro meaning
  rcases call with ⟨method, params⟩
  cases meaning with
  | members _ once _ params =>
      unfold Spoils at spoils
      rw [once] at spoils
      generalize valuesAt members "params" = given at spoils params
      cases params with
      | leftOut => simp at spoils
      | given => simp at spoils

theorem not_denotes_of_spoils {body : List UInt8} {members : List (List Piece × Tree)}
    (spelled : (Tree.map members).SpelledBy body) (spoils : Spoils members) (call : Call) :
    ¬Denotes body call :=
  fun denotes => not_means_of_spoils spoils call ((denotes_iff_of_spelledBy spelled).mp denotes)

end Call

namespace Service

open Call (Denotes)

variable {service : Service} {body : List UInt8}

theorem receive_of_denotes (small : ¬service.TooLarge body) {call : Call}
    (denotes : Denotes body call) (draw : Draw) :
    service.receive draw body = service.dispatch draw call := by
  have within : ¬service.settings.maxRequestBytes < body.length := small
  rw [receive, if_neg within, Call.ofOctets?_eq_some_iff.mpr denotes]

theorem post_of_not_denotes (small : ¬service.TooLarge body)
    (nothing : ∀ call, ¬Denotes body call) (draw : Draw) :
    service.post draw body = (.ofFault .unreadable, service) := by
  have within : ¬service.settings.maxRequestBytes < body.length := small
  have unread : Call.ofOctets? body = none :=
    Option.eq_none_iff_forall_ne_some.mpr fun call read =>
      nothing call (Call.ofOctets?_eq_some_iff.mp read)
  rw [post, receive, if_neg within, unread]
  rfl

theorem post_of_dispatch {other : List UInt8} (small : ¬service.TooLarge body)
    (otherSmall : ¬service.TooLarge other) {call otherCall : Call} (denotes : Denotes body call)
    (otherDenotes : Denotes other otherCall) {draw : Draw}
    (same : service.dispatch draw otherCall = service.dispatch draw call) :
    service.post draw other = service.post draw body := by
  rw [post, post, receive_of_denotes small denotes, receive_of_denotes otherSmall otherDenotes,
    same]

theorem dispatch_login {call other : Call} (isLogin : call.method = Call.loginMethod)
    (otherIsLogin : other.method = Call.loginMethod)
    (same : other.params.head? = call.params.head?) (draw : Draw) :
    service.dispatch draw other = service.dispatch draw call := by
  rw [dispatch, dispatch, if_pos isLogin, if_pos otherIsLogin]
  cases given : call.params with
  | nil =>
      rw [given, List.head?_nil, List.head?_eq_none_iff] at same
      rw [same]
  | cons first rest =>
      rw [given, List.head?_cons, List.head?_eq_some_iff] at same
      rcases same with ⟨others, otherGiven⟩
      rw [otherGiven]
      rfl

/-- Bodies that mean the same call get the same answer and have the same effect. The order of
members, other members, an empty list of parameters and the form of the call make no difference;
neither do the parameters of a login after the first. A body that means no call is refused and
changes nothing; in particular this is so for maps that give the method or the parameters twice,
and for those that give null for parameters. -/
theorem post_call_spelling (service : Service) (draw : Draw) {body : List UInt8}
    (small : ¬service.TooLarge body) :
    (∀ other call, ¬service.TooLarge other → Denotes body call → Denotes other call →
      service.post draw other = service.post draw body) ∧
    (∀ other call tree otherTree, ¬service.TooLarge other → Denotes body call →
      Tree.SpelledBy tree body → Tree.SpelledBy otherTree other →
      Relation.EqvGen Call.Respells tree otherTree →
      service.post draw other = service.post draw body) ∧
    (∀ other call otherCall, ¬service.TooLarge other → Denotes body call →
      Denotes other otherCall → call.method = Call.loginMethod →
      otherCall.method = Call.loginMethod → otherCall.params.head? = call.params.head? →
      service.post draw other = service.post draw body) ∧
    ((∀ call, ¬Denotes body call) →
      (service.post draw body).1.status = 400 ∧ (service.post draw body).2 = service) ∧
    (∀ members, (Tree.map members).SpelledBy body → Call.Spoils members →
      (service.post draw body).1.status = 400 ∧ (service.post draw body).2 = service) := by
  have refused (nothing : ∀ call, ¬Denotes body call) :
      (service.post draw body).1.status = 400 ∧ (service.post draw body).2 = service := by
    rw [post_of_not_denotes small nothing]
    exact ⟨rfl, rfl⟩
  refine ⟨?_, ?_, ?_, refused, ?_⟩
  · intro other call otherSmall denotes otherDenotes
    exact post_of_dispatch small otherSmall denotes otherDenotes rfl
  · intro other call tree otherTree otherSmall denotes spelled otherSpelled respelled
    have otherDenotes := Call.denotes_of_eqvGen spelled otherSpelled respelled denotes
    exact post_of_dispatch small otherSmall denotes otherDenotes rfl
  · intro other call otherCall otherSmall denotes otherDenotes isLogin otherIsLogin same
    exact post_of_dispatch small otherSmall denotes otherDenotes
      (dispatch_login isLogin otherIsLogin same draw)
  · intro members spelled spoils
    exact refused (Call.not_denotes_of_spoils spelled spoils)

def spelledBody (text : String) : List UInt8 := Text.Utf8.encode text.toList

def loginParameter : Json :=
  .map [("first", .text "ruth"), ("last", .text "linden"), ("passwd", .text "secret"),
    ("start", .text "home")]

def usualLogin : List UInt8 := spelledBody <|
  "\x7b\"methodName\":\"login_to_simulator\",\"params\":[\x7b\"first\":\"ruth\"," ++
    "\"last\":\"linden\",\"passwd\":\"secret\",\"start\":\"home\"\x7d]\x7d"

def unusualLogin : List UInt8 := spelledBody <|
  " \x7b\"id\": \"\\ud800\",\t\"params\": [\x7b\"start\":\"home\",\"last\":\"linden\"," ++
    "\"passwd\":\"\\u0073ecret\",\"first\":\"ruth\"\x7d],\n\"method\\u004eame\"" ++
    ":\"login\\u005fto_simulator\", \"id\": 1e999\x7d\r\n"

def placedLogin : List UInt8 := spelledBody <|
  "[\"login_to_simulator\",[\x7b\"first\":\"ruth\",\"last\":\"linden\"," ++
    "\"passwd\":\"secret\",\"start\":\"home\"\x7d,null]]"

def echoText : Tree := .text (Piece.ofText "echo")

/-- A resident gets in with any of the three spellings, and an echo of nothing has two. An empty
body is no call, nor are a map that names its method twice and one that gives null for
parameters. -/
theorem post_call_spelling_resident :
    ∃ directory, Directory.empty.register resident = .ok directory ∧
      let service : Service := ⟨directory, .standard, .standard⟩
      let draw : Draw := ⟨.nil, .nil, .nil, 0, 0⟩
      let echo := spelledBody "\x7b\"methodName\":\"echo\",\"params\":[]\x7d"
      let bareEcho := spelledBody "[\"echo\"]"
      let twice := spelledBody "\x7b\"methodName\":\"echo\",\"methodName\":\"echo\"\x7d"
      let null := spelledBody "\x7b\"methodName\":\"echo\",\"params\":null\x7d"
      service.post draw unusualLogin = service.post draw usualLogin ∧
        service.post draw bareEcho = service.post draw echo ∧
        service.post draw placedLogin = service.post draw usualLogin ∧
        ((service.post draw []).1.status = 400 ∧ (service.post draw []).2 = service) ∧
        ((service.post draw twice).1.status = 400 ∧ (service.post draw twice).2 = service) ∧
        (service.post draw null).1.status = 400 ∧ (service.post draw null).2 = service := by
  rcases register_resident with ⟨directory, registered⟩
  refine ⟨directory, registered, ?_⟩
  intro service draw echo bareEcho twice null
  have small {body : List UInt8} (within : body.length ≤ 65536) : ¬service.TooLarge body :=
    Nat.not_lt.mpr within
  have usual : Denotes usualLogin ⟨Call.loginMethod, [loginParameter]⟩ := by decide +kernel
  have unusual : Denotes unusualLogin ⟨Call.loginMethod, [loginParameter]⟩ := by decide +kernel
  have placed : Denotes placedLogin ⟨Call.loginMethod, [loginParameter, .null]⟩ := by
    decide +kernel
  have usualSmall : ¬service.TooLarge usualLogin := small (by decide +kernel)
  have unusualSmall : ¬service.TooLarge unusualLogin := small (by decide +kernel)
  have placedSmall : ¬service.TooLarge placedLogin := small (by decide +kernel)
  have nothing (call : Call) : ¬Denotes [] call := by
    have unread : Call.ofOctets? [] = none := by decide +kernel
    rw [← Call.ofOctets?_eq_some_iff, unread]
    exact nofun
  have isMethod := Piece.text?_eq_some_iff.mp (Piece.text?_ofText "methodName")
  have isParams := Piece.text?_eq_some_iff.mp (Piece.text?_ofText "params")
  have respelled := Relation.EqvGen.trans _ _ _
    (.rel _ _ (Call.Respells.places isMethod isParams echoText [.list []]))
    (.symm _ _ (.rel _ _ (.noParams echoText)))
  rcases post_call_spelling service draw usualSmall with ⟨sameCall, _, sameHead, _, _⟩
  rcases @post_call_spelling service draw echo (small (by decide +kernel)) with
    ⟨_, sameEcho, _, _, _⟩
  refine ⟨sameCall _ _ unusualSmall usual unusual,
    sameEcho bareEcho ⟨Call.echoMethod, []⟩ _ _ (small (by decide +kernel)) (by decide +kernel)
      (by decide +kernel) (by decide +kernel) respelled,
    sameHead _ _ _ placedSmall usual placed rfl rfl rfl,
    (post_call_spelling service draw (small (Nat.zero_le _))).2.2.2.1 nothing, ?_, ?_⟩
  · apply (@post_call_spelling service draw twice (small (by decide +kernel))).2.2.2.2
      [(Piece.ofText "methodName", echoText), (Piece.ofText "methodName", echoText)]
    · decide +kernel
    · exact .inl (by decide +kernel)
  · apply (@post_call_spelling service draw null (small (by decide +kernel))).2.2.2.2
      [(Piece.ofText "methodName", echoText), (Piece.ofText "params", .null)]
    · decide +kernel
    · exact .inr (.inr (List.mem_map.mpr ⟨_, List.mem_filter.mpr
        ⟨List.mem_cons_of_mem _ List.mem_cons_self, by decide +kernel⟩, rfl⟩))

end Service

end ViewerLogin
