import Mathlib.Logic.Relation
import ViewerLogin.Call.Basic
import ViewerLogin.Proofs.Json.Lexing
import ViewerLogin.Proofs.Json.Meaning

/-!
# What bodies mean as calls

A body is the spelling of a tree, and a tree may mean a call. The name of the method and the
parameters stand in members or in places, and of a map only the members with these two names
have a say: the others need not mean anything. Reading finds the call that a body means and
finds none where it means none.
-/

namespace ViewerLogin

namespace Tree

def SpelledBy (tree : Tree) (octets : List UInt8) : Prop :=
  Token.Lexes (Text.Utf8.decode octets) tree.tokens

instance (tree : Tree) (octets : List UInt8) : Decidable (tree.SpelledBy octets) :=
  decidable_of_iff _ Token.scan?_eq_some_iff

theorem ofSymbols?_eq_some_iff {octets : List UInt8} {tree : Tree} :
    ofSymbols? (Text.Utf8.decode octets) = some tree ↔ tree.SpelledBy octets := by
  simp only [ofSymbols?, Option.bind_eq_some_iff, Token.scan?_eq_some_iff, ofTokens?_eq_some_iff]
  constructor
  · rintro ⟨tokens, lexed, rfl⟩
    exact lexed
  · intro lexed
    exact ⟨tree.tokens, lexed, rfl⟩

end Tree

namespace Call

/-! ## The meaning of trees -/

def valuesAt (members : List (List Piece × Tree)) (name : String) : List Tree :=
  (members.filter fun member => Piece.text? member.1 = some name).map Prod.snd

inductive ParamsMean : List Tree → List Json → Prop where
  | leftOut : ParamsMean [] []
  | given {items : List (Tree × Json)}
      (each : ∀ item ∈ items, item.1.Means paramNesting item.2) :
      ParamsMean [.list (items.map Prod.fst)] (items.map Prod.snd)

inductive Means : Tree → Call → Prop where
  | members {members : List (List Piece × Tree)} {pieces : List Piece} {call : Call}
      (named : ∀ member ∈ members, ∃ name : String, Piece.Means member.1 name.toList)
      (once : valuesAt members "methodName" = [.text pieces])
      (method : Piece.Means pieces call.method.toList)
      (params : ParamsMean (valuesAt members "params") call.params) :
      Means (.map members) call
  | places {pieces : List Piece} {others : List Tree} {call : Call}
      (method : Piece.Means pieces call.method.toList) (params : ParamsMean others call.params) :
      Means (.list (.text pieces :: others)) call

/-- The call that a body means. -/
def Denotes (body : List UInt8) (call : Call) : Prop :=
  ∃ tree : Tree, tree.SpelledBy body ∧ Means tree call

/-! ## Parts -/

theorem readMethod?_eq_some_iff {value : Tree} {method : String} :
    readMethod? value = some method ↔
      ∃ pieces, value = .text pieces ∧ Piece.Means pieces method.toList := by
  constructor
  · intro read
    unfold readMethod? at read
    split at read
    · exact ⟨_, rfl, Piece.text?_eq_some_iff.mp read⟩
    · contradiction
  · rintro ⟨pieces, rfl, meaning⟩
    exact Piece.text?_eq_some_iff.mpr meaning

theorem readParams?_eq_some_iff {value : Tree} {params : List Json} :
    readParams? value = some params ↔ ParamsMean [value] params := by
  constructor
  · intro read
    unfold readParams? at read
    split at read
    · rcases Json.itemsOfTrees?_eq_some_iff.mp read with ⟨items, rfl, rfl, each⟩
      exact .given fun item member => Json.ofTree?_eq_some_iff.mp (each item member)
    · contradiction
  · intro meaning
    cases meaning with
    | given each =>
        exact Json.itemsOfTrees?_eq_some_iff.mpr
          ⟨_, rfl, rfl, fun item member => Json.ofTree?_eq_some_iff.mpr (each item member)⟩

/-! ## Members -/

theorem valuesAt_cons (key : List Piece) (value : Tree) (others : List (List Piece × Tree))
    (name : String) :
    valuesAt ((key, value) :: others) name =
      if Piece.text? key = some name then value :: valuesAt others name
      else valuesAt others name := by
  unfold valuesAt
  rw [List.filter_cons]
  by_cases named : Piece.text? key = some name <;> simp [named]

def readOnce? {Value : Type} (read : Tree → Option Value) :
    Option Value → List Tree → Option (Option Value)
  | before, [] => some before
  | some _, _ :: _ => none
  | none, value :: others => (read value).bind fun found => readOnce? read (some found) others

theorem readOnce?_none_eq_some_iff {Value : Type} {read : Tree → Option Value}
    {values : List Tree} {result : Option Value} :
    readOnce? read none values = some result ↔
      values = [] ∧ result = none ∨
        ∃ value found, values = [value] ∧ read value = some found ∧ result = some found := by
  match values with
  | [] => simp [readOnce?, eq_comm]
  | [value] => cases found : read value <;> simp [readOnce?, found, eq_comm]
  | value :: second :: others => cases found : read value <;> simp [readOnce?, found]

theorem readOnce?_readMethod?_eq_some_iff {values : List Tree} {method : String} :
    readOnce? readMethod? none values = some (some method) ↔
      ∃ pieces, values = [.text pieces] ∧ Piece.Means pieces method.toList := by
  rw [readOnce?_none_eq_some_iff]
  constructor
  · rintro (⟨_, absent⟩ | ⟨value, found, rfl, read, same⟩)
    · contradiction
    · cases same
      rcases readMethod?_eq_some_iff.mp read with ⟨pieces, rfl, meaning⟩
      exact ⟨pieces, rfl, meaning⟩
  · rintro ⟨pieces, rfl, meaning⟩
    exact .inr ⟨_, method, rfl, readMethod?_eq_some_iff.mpr ⟨pieces, rfl, meaning⟩, rfl⟩

theorem paramsMean_iff_readOnce? {values : List Tree} {params : List Json} :
    ParamsMean values params ↔
      ∃ found, readOnce? readParams? none values = some found ∧ found.getD [] = params := by
  simp only [readOnce?_none_eq_some_iff]
  constructor
  · intro meaning
    cases meaning with
    | leftOut => exact ⟨none, .inl ⟨rfl, rfl⟩, rfl⟩
    | given each =>
        exact ⟨some _, .inr ⟨_, _, rfl, readParams?_eq_some_iff.mpr (.given each), rfl⟩, rfl⟩
  · rintro ⟨_, ⟨rfl, rfl⟩ | ⟨value, found, rfl, read, rfl⟩, rfl⟩
    · exact .leftOut
    · exact readParams?_eq_some_iff.mp read

theorem ofMembers?_eq_some_iff {parts parts' : Parts} {members : List (List Piece × Tree)} :
    parts.ofMembers? members = some parts' ↔
      (∀ member ∈ members, ∃ name, Piece.text? member.1 = some name) ∧
        readOnce? readMethod? parts.method (valuesAt members "methodName") =
          some parts'.method ∧
        readOnce? readParams? parts.params (valuesAt members "params") = some parts'.params := by
  -- A part that has been read already must not be given again, so the parts are arbitrary.
  induction members generalizing parts with
  | nil =>
      rcases parts with ⟨method, params⟩
      rcases parts' with ⟨method', params'⟩
      simp [Parts.ofMembers?, valuesAt, readOnce?]
  | cons first others induction =>
      rcases first with ⟨key, value⟩
      simp only [Parts.ofMembers?, valuesAt_cons, List.forall_mem_cons]
      cases named : Piece.text? key with
      | none => simp
      | some name =>
          rw [Option.bind_some]
          rcases parts with ⟨method, params⟩
          by_cases isMethod : name = "methodName"
          · subst isMethod
            cases method with
            | some method => simp [Parts.add?, readOnce?]
            | none =>
                cases read : readMethod? value with
                | none => simp [Parts.add?, readOnce?, read]
                | some method => simp [Parts.add?, readOnce?, read, induction]
          · by_cases isParams : name = "params"
            · subst isParams
              cases params with
              | some params => simp [Parts.add?, readOnce?]
              | none =>
                  cases read : readParams? value with
                  | none => simp [Parts.add?, readOnce?, read]
                  | some params => simp [Parts.add?, readOnce?, read, induction]
            · simp [Parts.add?, isMethod, isParams, induction]

/-! ## Calls -/

theorem ofTree?_map_eq_some_iff {members : List (List Piece × Tree)} {call : Call} :
    ofTree? (.map members) = some call ↔ Means (.map members) call := by
  constructor
  · intro read
    rw [ofTree?, Option.bind_eq_some_iff] at read
    rcases read with ⟨⟨method, params⟩, partsRead, read⟩
    rcases Option.map_eq_some_iff.mp read with ⟨method, rfl, rfl⟩
    rcases ofMembers?_eq_some_iff.mp partsRead with ⟨named, methodRead, paramsRead⟩
    rcases readOnce?_readMethod?_eq_some_iff.mp methodRead with ⟨pieces, once, meaning⟩
    refine .members (fun member inside => ?_) once meaning
      (paramsMean_iff_readOnce?.mpr ⟨params, paramsRead, rfl⟩)
    rcases named member inside with ⟨name, keyRead⟩
    exact ⟨name, Piece.text?_eq_some_iff.mp keyRead⟩
  · intro meaning
    rcases call with ⟨method, params⟩
    cases meaning with
    | members named once isMethod isParams =>
        rcases paramsMean_iff_readOnce?.mp isParams with ⟨found, paramsRead, rfl⟩
        have methodRead := readOnce?_readMethod?_eq_some_iff.mpr ⟨_, once, isMethod⟩
        have keysRead : ∀ member ∈ members, ∃ name, Piece.text? member.1 = some name := by
          intro member inside
          rcases named member inside with ⟨name, meaning⟩
          exact ⟨name, Piece.text?_eq_some_iff.mpr meaning⟩
        have partsRead : Parts.empty.ofMembers? members = some ⟨some method, found⟩ :=
          ofMembers?_eq_some_iff.mpr ⟨keysRead, methodRead, paramsRead⟩
        rw [ofTree?, partsRead]
        rfl

theorem ofTree?_list_eq_some_iff {items : List Tree} {call : Call} :
    ofTree? (.list items) = some call ↔ Means (.list items) call := by
  rcases call with ⟨method, params⟩
  constructor
  · intro read
    unfold ofTree? at read
    split at read
    · contradiction
    · next value same =>
        cases same
        rcases Option.map_eq_some_iff.mp read with ⟨method, found, same⟩
        cases same
        rcases readMethod?_eq_some_iff.mp found with ⟨pieces, rfl, meaning⟩
        exact .places meaning .leftOut
    · next value given same =>
        cases same
        rcases Option.bind_eq_some_iff.mp read with ⟨method, found, read⟩
        rcases Option.map_eq_some_iff.mp read with ⟨params, paramsRead, same⟩
        cases same
        rcases readMethod?_eq_some_iff.mp found with ⟨pieces, rfl, meaning⟩
        exact .places meaning (readParams?_eq_some_iff.mp paramsRead)
    · contradiction
  · intro meaning
    cases meaning with
    | places isMethod isParams =>
        have methodRead : readMethod? _ = some method :=
          readMethod?_eq_some_iff.mpr ⟨_, rfl, isMethod⟩
        cases isParams with
        | leftOut =>
            rw [ofTree?, methodRead]
            rfl
        | given each =>
            rw [ofTree?, methodRead, Option.bind_some, readParams?_eq_some_iff.mpr (.given each)]
            rfl

theorem ofTree?_eq_some_iff {tree : Tree} {call : Call} :
    ofTree? tree = some call ↔ Means tree call := by
  cases tree with
  | map members => exact ofTree?_map_eq_some_iff
  | list items => exact ofTree?_list_eq_some_iff
  | _ => exact ⟨nofun, nofun⟩

theorem ofOctets?_eq_some_iff {body : List UInt8} {call : Call} :
    ofOctets? body = some call ↔ Denotes body call := by
  simp only [ofOctets?, Option.bind_eq_some_iff, Tree.ofSymbols?_eq_some_iff, ofTree?_eq_some_iff,
    Denotes]

instance (body : List UInt8) (call : Call) : Decidable (Denotes body call) :=
  decidable_of_iff _ ofOctets?_eq_some_iff

/-- A body spells one tree only. -/
theorem denotes_iff_of_spelledBy {tree : Tree} {body : List UInt8} (spelled : tree.SpelledBy body)
    {call : Call} : Denotes body call ↔ Means tree call := by
  constructor
  · rintro ⟨other, otherSpelled, meaning⟩
    have same := (Tree.ofSymbols?_eq_some_iff.mpr spelled).symm.trans
      (Tree.ofSymbols?_eq_some_iff.mpr otherSpelled)
    cases same
    exact meaning
  · exact fun meaning => ⟨tree, spelled, meaning⟩

/-! ## Differences that do not matter -/

theorem valuesAt_perm {members others : List (List Piece × Tree)} (same : members.Perm others)
    (name : String) : (valuesAt members name).Perm (valuesAt others name) :=
  (same.filter _).map _

theorem paramsMean_perm {values others : List Tree} (same : values.Perm others)
    {params : List Json} (meaning : ParamsMean values params) : ParamsMean others params := by
  cases meaning with
  | leftOut =>
      rw [List.nil_perm.mp same]
      exact .leftOut
  | given each =>
      rw [← List.singleton_perm.mp same]
      exact .given each

/-- The order of the members does not matter. -/
theorem Means.perm {members others : List (List Piece × Tree)} {call : Call}
    (meaning : Means (.map members) call) (same : members.Perm others) :
    Means (.map others) call := by
  cases meaning with
  | members named once method params =>
      refine .members (fun member inside => named member (same.mem_iff.mpr inside)) ?_ method
        (paramsMean_perm (valuesAt_perm same "params") params)
      have perm := valuesAt_perm same "methodName"
      rw [once] at perm
      exact (List.singleton_perm.mp perm).symm

/-- A member with any other name may hold anything, and may be given any number of times. -/
theorem means_cons_iff {key : List Piece} {name : String} (named : Piece.Means key name.toList)
    (notMethod : name ≠ "methodName") (notParams : name ≠ "params") (value : Tree)
    {members : List (List Piece × Tree)} {call : Call} :
    Means (.map ((key, value) :: members)) call ↔ Means (.map members) call := by
  have keyRead := Piece.text?_eq_some_iff.mpr named
  have other {wanted : String} (different : name ≠ wanted) :
      valuesAt ((key, value) :: members) wanted = valuesAt members wanted := by
    rw [valuesAt_cons, if_neg]
    rw [keyRead]
    exact fun same => different (Option.some.inj same)
  constructor
  · intro meaning
    cases meaning with
    | members named once method params =>
        rw [other notMethod] at once
        rw [other notParams] at params
        exact .members (List.forall_mem_cons.mp named).2 once method params
  · intro meaning
    cases meaning with
    | members others once method params =>
        rw [← other notMethod] at once
        rw [← other notParams] at params
        exact .members (List.forall_mem_cons.mpr ⟨⟨name, named⟩, others⟩) once method params

/-- An empty list of parameters is as good as none. -/
theorem paramsMean_empty_iff {params : List Json} :
    ParamsMean [.list []] params ↔ ParamsMean [] params := by
  constructor
  · intro meaning
    have read := readParams?_eq_some_iff.mpr meaning
    cases read
    exact .leftOut
  · intro meaning
    cases meaning
    exact readParams?_eq_some_iff.mp rfl

theorem valuesAt_map (key : List Piece) (values : List Tree) (name : String) :
    valuesAt (values.map fun value => (key, value)) name =
      if Piece.text? key = some name then values else [] := by
  induction values with
  | nil => exact (ite_self []).symm
  | cons first others induction =>
      rw [List.map_cons, valuesAt_cons, induction]
      split <;> rfl

/-- Values in their places mean what they mean as members with the two names. -/
theorem means_list_iff {methodKey paramsKey : List Piece}
    (isMethod : Piece.Means methodKey "methodName".toList)
    (isParams : Piece.Means paramsKey "params".toList) {method : Tree} {others : List Tree}
    {call : Call} :
    Means (.list (method :: others)) call ↔
      Means (.map ((methodKey, method) :: others.map fun value => (paramsKey, value))) call := by
  have methodRead := Piece.text?_eq_some_iff.mpr isMethod
  have paramsRead := Piece.text?_eq_some_iff.mpr isParams
  have methods : valuesAt ((methodKey, method) :: others.map fun value => (paramsKey, value))
      "methodName" = [method] := by
    rw [valuesAt_cons, if_pos methodRead, valuesAt_map, if_neg]
    rw [paramsRead]
    decide
  have params : valuesAt ((methodKey, method) :: others.map fun value => (paramsKey, value))
      "params" = others := by
    rw [valuesAt_cons, if_neg, valuesAt_map, if_pos paramsRead]
    rw [methodRead]
    decide
  constructor
  · intro meaning
    cases meaning with
    | places isText given =>
        refine .members (List.forall_mem_cons.mpr ⟨⟨_, isMethod⟩, ?_⟩) methods isText ?_
        · intro member inside
          rcases List.mem_map.mp inside with ⟨value, _, rfl⟩
          exact ⟨_, isParams⟩
        · rw [params]
          exact given
  · intro meaning
    cases meaning with
    | members _ once isText given =>
        rw [methods] at once
        cases once
        rw [params] at given
        exact .places isText given

theorem means_noParams_iff {method : Tree} {call : Call} :
    Means (.list [method, .list []]) call ↔ Means (.list [method]) call := by
  constructor
  · intro meaning
    cases meaning with
    | places isMethod given => exact .places isMethod (paramsMean_empty_iff.mp given)
  · intro meaning
    cases meaning with
    | places isMethod given => exact .places isMethod (paramsMean_empty_iff.mpr given)

/-- One difference that makes no other call of a tree. -/
inductive Respells : Tree → Tree → Prop where
  | order {members others : List (List Piece × Tree)} (same : members.Perm others) :
      Respells (.map members) (.map others)
  | other {key : List Piece} {name : String} (named : Piece.Means key name.toList)
      (notMethod : name ≠ "methodName") (notParams : name ≠ "params") (value : Tree)
      (members : List (List Piece × Tree)) :
      Respells (.map members) (.map ((key, value) :: members))
  | noParams (method : Tree) : Respells (.list [method]) (.list [method, .list []])
  | places {methodKey paramsKey : List Piece}
      (isMethod : Piece.Means methodKey "methodName".toList)
      (isParams : Piece.Means paramsKey "params".toList) (method : Tree) (others : List Tree) :
      Respells (.map ((methodKey, method) :: others.map fun value => (paramsKey, value)))
        (.list (method :: others))

theorem means_iff_of_respells {tree other : Tree} (respelled : Respells tree other)
    (call : Call) : Means tree call ↔ Means other call := by
  cases respelled with
  | order same => exact ⟨fun meaning => meaning.perm same, fun meaning => meaning.perm same.symm⟩
  | other named notMethod notParams value =>
      exact (means_cons_iff named notMethod notParams value).symm
  | noParams => exact means_noParams_iff.symm
  | places isMethod isParams => exact (means_list_iff isMethod isParams).symm

theorem means_iff_of_eqvGen {tree other : Tree}
    (respelled : Relation.EqvGen Respells tree other) (call : Call) :
    Means tree call ↔ Means other call := by
  induction respelled with
  | rel tree other respelled => exact means_iff_of_respells respelled call
  | refl => exact Iff.rfl
  | symm tree other _ same => exact same.symm
  | trans tree middle other _ _ first second => exact first.trans second

theorem denotes_of_eqvGen {body otherBody : List UInt8} {tree other : Tree}
    (spelled : tree.SpelledBy body) (otherSpelled : other.SpelledBy otherBody)
    (respelled : Relation.EqvGen Respells tree other) {call : Call}
    (denotes : Denotes body call) : Denotes otherBody call :=
  ⟨other, otherSpelled,
    (means_iff_of_eqvGen respelled call).mp ((denotes_iff_of_spelledBy spelled).mp denotes)⟩

end Call

end ViewerLogin
