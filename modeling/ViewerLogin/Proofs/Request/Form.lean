import ViewerLogin.Request.Canonical

/-!
# Forms of request fields

The fields of a request beside the required texts have four forms. A form says which values a key
may hold and what each of them means. A key is read as what it means, and any other value is
refused.
-/

namespace ViewerLogin.Request

variable {members : Json.Members}

inductive Form where
  | text
  | flag
  | event
  | names
  deriving DecidableEq, Repr

namespace Form

@[reducible] def Value : Form → Type
  | .text => Option String
  | .flag => Option Bool
  | .event => Option Int64
  | .names => Selector

def Takes : Form → Json → Prop
  | .text, value =>
      value = .null ∨ (∃ text, value = .text text) ∨ ∃ number, value = .number number
  | .flag, value =>
      value = .null ∨ (∃ truth, value = .truth truth) ∨ value = .text "true" ∨
        value = .text "false"
  | .event, value =>
      ∃ integer : Int, -0x8000000000000000 ≤ integer ∧ integer < 0x8000000000000000 ∧
        value = .number (.integer integer)
  | .names, value => ∃ names : List String, value = .list (names.map .text)

def shape : Form → Wire.Shape
  | .text => .text
  | .flag => .truth
  | .event => .integer
  | .names => .optionNames

/-! ## What a key means -/

inductive MeansText : Option Json → Option String → Prop where
  | absent : MeansText none none
  | null : MeansText (some .null) none
  | text (text : String) : MeansText (some (.text text)) (some text)
  | number (number : Number) : MeansText (some (.number number)) (some number.text)

inductive MeansFlag : Option Json → Option Bool → Prop where
  | absent : MeansFlag none none
  | null : MeansFlag (some .null) none
  | truth (value : Bool) : MeansFlag (some (.truth value)) (some value)
  | trueText : MeansFlag (some (.text "true")) (some true)
  | falseText : MeansFlag (some (.text "false")) (some false)

inductive MeansEvent : Option Json → Option Int64 → Prop where
  | absent : MeansEvent none none
  | integer (event : Int64) : MeansEvent (some (.number (.integer event.toInt))) (some event)

inductive MeansNames : Option Json → Selector → Prop where
  | absent : MeansNames none .none
  | names (names : List String) : MeansNames (some (.list (names.map .text))) (.ofNames names)

/-- What a field of this form is when a map has this at its key. -/
def Means : (form : Form) → Option Json → form.Value → Prop
  | .text => MeansText
  | .flag => MeansFlag
  | .event => MeansEvent
  | .names => MeansNames

def write : (form : Form) → form.Value → Option Json
  | .text, value => value.map .text
  | .flag, value => value.map .truth
  | .event, value => value.map fun event => .ofInt event.toInt
  | .names, value => some value.toJson

theorem exists_means_none (form : Form) : ∃ value, form.Means none value := by
  cases form with
  | text => exact ⟨none, .absent⟩
  | flag => exact ⟨none, .absent⟩
  | event => exact ⟨none, .absent⟩
  | names => exact ⟨.none, .absent⟩

/-- Every value that a form takes means something, and no other does. -/
theorem takes_iff_exists_means {form : Form} {json : Json} :
    form.Takes json ↔ ∃ value, form.Means (some json) value := by
  constructor
  · intro takes
    cases form with
    | text =>
        obtain rfl | ⟨text, rfl⟩ | ⟨number, rfl⟩ := takes
        · exact ⟨none, .null⟩
        · exact ⟨some text, .text text⟩
        · exact ⟨some number.text, .number number⟩
    | flag =>
        obtain rfl | ⟨truth, rfl⟩ | rfl | rfl := takes
        · exact ⟨none, .null⟩
        · exact ⟨some truth, .truth truth⟩
        · exact ⟨some true, .trueText⟩
        · exact ⟨some false, .falseText⟩
    | event =>
        obtain ⟨integer, low, high, rfl⟩ := takes
        have same : (Int64.ofInt integer).toInt = integer := Int64.toInt_ofInt_of_le low high
        have means := MeansEvent.integer (Int64.ofInt integer)
        rw [same] at means
        exact ⟨Int64.ofInt integer, means⟩
    | names =>
        obtain ⟨names, rfl⟩ := takes
        exact ⟨.ofNames names, .names names⟩
  · intro ⟨value, means⟩
    cases form with
    | text =>
        cases means with
        | null => exact .inl rfl
        | text text => exact .inr (.inl ⟨text, rfl⟩)
        | number number => exact .inr (.inr ⟨number, rfl⟩)
    | flag =>
        cases means with
        | null => exact .inl rfl
        | truth truth => exact .inr (.inl ⟨truth, rfl⟩)
        | trueText => exact .inr (.inr (.inl rfl))
        | falseText => exact .inr (.inr (.inr rfl))
    | event =>
        cases means with
        | integer event => exact ⟨event.toInt, event.le_toInt, event.toInt_lt, rfl⟩
    | names =>
        cases means with
        | names names => exact ⟨names, rfl⟩

/-! ## Reading -/

variable {key : String}

def read : (form : Form) → Json.Members → String → Except Error form.Value
  | .text => readText
  | .flag => readFlag
  | .event => readEvent
  | .names => readSelector

theorem mapM_textOf? (names : List String) : (names.map Json.text).mapM textOf? = some names := by
  induction names with
  | nil => rfl
  | cons first rest induction =>
      rw [List.map_cons, List.mapM_cons, induction]
      rfl

theorem read_of_means {form : Form} {value : form.Value}
    (means : form.Means (members.get? key) value) : form.read members key = .ok value := by
  cases form with
  | text =>
      rw [read, readText]
      generalize members.get? key = slot at means
      cases means <;> rfl
  | flag =>
      rw [read, readFlag]
      generalize members.get? key = slot at means
      cases means <;> rfl
  | event =>
      rw [read, readEvent]
      generalize members.get? key = slot at means
      cases means with
      | absent => rfl
      | integer event =>
          have fits : Wire.Word.ofInt? event.toInt = some event := Wire.Word.ofInt?_toInt event
          simp only [fits]
  | names =>
      rw [read, readSelector]
      generalize members.get? key = slot at means
      cases means with
      | absent => rfl
      | names names => simp only [mapM_textOf?]

theorem eq_map_text_of_mapM {items : List Json} {names : List String}
    (texts : items.mapM textOf? = some names) : items = names.map .text := by
  induction items generalizing names with
  | nil =>
      cases texts
      rfl
  | cons first rest induction =>
      rw [List.mapM_cons] at texts
      obtain ⟨name, isText, others⟩ := Option.bind_eq_some_iff.mp texts
      obtain ⟨restNames, restTexts, same⟩ := Option.bind_eq_some_iff.mp others
      cases same
      cases first with
      | text text =>
          cases isText
          rw [List.map_cons, induction restTexts]
      | _ => contradiction

theorem read_of_not_takes {form : Form} {json : Json} (found : members.get? key = some json)
    (foreign : ¬form.Takes json) :
    form.read members key = .error (.wrongShape key form.shape) := by
  cases form with
  | text =>
      cases json with
      | null => exact absurd (.inl rfl) foreign
      | text text => exact absurd (.inr (.inl ⟨text, rfl⟩)) foreign
      | number number => exact absurd (.inr (.inr ⟨number, rfl⟩)) foreign
      | truth _ | list _ | map _ => rw [read, readText, found]; rfl
  | flag =>
      cases json with
      | null => exact absurd (.inl rfl) foreign
      | truth truth => exact absurd (.inr (.inl ⟨truth, rfl⟩)) foreign
      | text text =>
          have notTrue : text ≠ "true" := fun same => foreign (same ▸ .inr (.inr (.inl rfl)))
          have notFalse : text ≠ "false" := fun same => foreign (same ▸ .inr (.inr (.inr rfl)))
          simp [read, readFlag, found, shape, notTrue, notFalse]
      | number _ | list _ | map _ => rw [read, readFlag, found]; rfl
  | event =>
      cases json with
      | number number =>
          cases number with
          | integer integer =>
              have unfit : (Wire.Word.ofInt? integer : Option Int64) = none := by
                apply if_neg
                intro range
                exact foreign ⟨integer, range.1, range.2, rfl⟩
              simp only [read, readEvent, found, unfit, shape]
          | real _ => rw [read, readEvent, found]; rfl
      | null | truth _ | text _ | list _ | map _ => rw [read, readEvent, found]; rfl
  | names =>
      cases json with
      | list items =>
          cases texts : items.mapM textOf? with
          | some names => exact absurd ⟨names, by rw [eq_map_text_of_mapM texts]⟩ foreign
          | none => simp only [read, readSelector, found, texts, shape]
      | null | truth _ | text _ | number _ | map _ => rw [read, readSelector, found]; rfl

/-- All that reading a key can do: it gives what the key means, or it refuses a value that the
form does not take. -/
theorem read_cases (form : Form) (members : Json.Members) (key : String) :
    (∃ value, form.Means (members.get? key) value) ∨
      ∃ json, members.get? key = some json ∧ ¬form.Takes json ∧
        form.read members key = .error (.wrongShape key form.shape) := by
  cases found : members.get? key with
  | none => exact .inl form.exists_means_none
  | some json =>
      by_cases takes : form.Takes json
      · exact .inl (takes_iff_exists_means.mp takes)
      · exact .inr ⟨json, rfl, takes, read_of_not_takes found takes⟩

theorem read_congr (form : Form) {left right : Json.Members}
    (same : left.get? key = right.get? key) : form.read left key = form.read right key := by
  cases form with
  | text => rw [read, readText, readText, same]
  | flag => rw [read, readFlag, readFlag, same]
  | event => rw [read, readEvent, readEvent, same]
  | names => rw [read, readSelector, readSelector, same]

theorem read_eq_ok_iff {form : Form} {value : form.Value} :
    form.read members key = .ok value ↔ form.Means (members.get? key) value := by
  constructor
  · intro reads
    obtain ⟨other, means⟩ | ⟨_, _, _, refused⟩ := form.read_cases members key
    · rw [read_of_means means] at reads
      cases reads
      exact means
    · rw [refused] at reads
      contradiction
  · exact read_of_means

theorem read_eq_error_iff {form : Form} {error : Error} :
    form.read members key = .error error ↔
      (∃ json, members.get? key = some json ∧ ¬form.Takes json) ∧
        error = .wrongShape key form.shape := by
  obtain ⟨value, means⟩ | ⟨json, found, foreign, refused⟩ := form.read_cases members key
  · rw [read_of_means means]
    constructor
    · intro impossible
      contradiction
    · intro ⟨⟨json, found, foreign⟩, _⟩
      rw [found] at means
      exact absurd (takes_iff_exists_means.mpr ⟨value, means⟩) foreign
  · rw [refused]
    constructor
    · intro same
      exact ⟨⟨json, found, foreign⟩, (Except.error.inj same).symm⟩
    · intro ⟨_, same⟩
      rw [same]

end Form

end ViewerLogin.Request
