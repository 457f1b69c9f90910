import ViewerLogin.Json.Numeral

/-!
# Spellings of numerals

A numeral says which digits it has, but not how its exponent is marked, nor whether a plus sign
is written. The scanner takes the longest spelling there is at the head of a text, and takes
nothing that is not a spelling.
-/

namespace ViewerLogin.Numeral

open Text (Symbol)

/-! ## Runs of digits -/

def EndsDigits (rest : List Symbol) : Prop :=
  ∀ character, rest.head? = some (some character) → character.isDigit = false

theorem takeDigits_append {digits : List Char} (allDigits : ∀ each ∈ digits, each.isDigit = true)
    {rest : List Symbol} (ends : EndsDigits rest) :
    takeDigits (digits.map some ++ rest) = (digits, rest) := by
  induction digits with
  | nil =>
      match rest with
      | [] => rfl
      | none :: _ => rfl
      | some character :: after =>
          rw [List.map_nil, List.nil_append, takeDigits, if_neg]
          rw [ends character rfl]
          exact Bool.false_ne_true
  | cons first others induction =>
      have othersTaken := induction fun each member =>
        allDigits each (List.mem_cons_of_mem _ member)
      rw [List.map_cons, List.cons_append, takeDigits, if_pos (allDigits first List.mem_cons_self),
        othersTaken]

theorem takeDigits_eq_iff {symbols rest : List Symbol} {digits : List Char} :
    takeDigits symbols = (digits, rest) ↔
      symbols = digits.map some ++ rest ∧ (∀ each ∈ digits, each.isDigit = true) ∧
        EndsDigits rest := by
  constructor
  · intro taken
    fun_induction takeDigits symbols generalizing digits rest with
    | case1 character after isDigit found remaining equal induction =>
        cases taken
        rcases induction equal with ⟨split, allDigits, ends⟩
        refine ⟨by rw [split]; rfl, ?_, ends⟩
        intro each member
        rcases List.mem_cons.mp member with rfl | inFound
        · exact isDigit
        · exact allDigits each inFound
    | case2 character after notDigit =>
        cases taken
        refine ⟨rfl, by simp, ?_⟩
        rintro _ ⟨⟩
        exact Bool.eq_false_iff.mpr notDigit
    | case3 symbols noCharacter =>
        cases taken
        refine ⟨rfl, by simp, ?_⟩
        intro character head
        cases symbols with
        | nil => contradiction
        | cons first after =>
            cases head
            exact absurd rfl (noCharacter character after)
  · rintro ⟨rfl, allDigits, ends⟩
    exact takeDigits_append allDigits ends

structure Digits (characters : List Char) : Prop where
  nonempty : characters ≠ []
  digits : ∀ each ∈ characters, each.isDigit = true

structure Whole (characters : List Char) : Prop extends Digits characters where
  alone : ∀ rest, characters = '0' :: rest → rest = []

theorem takeWhole?_eq_some_iff {symbols rest : List Symbol} {digits : List Char} :
    takeWhole? symbols = some (digits, rest) ↔
      symbols = digits.map some ++ rest ∧ Whole digits ∧ EndsDigits rest := by
  unfold takeWhole?
  constructor
  · intro taken
    split at taken
    · contradiction
    · contradiction
    · next nonempty notLeading equal =>
        cases taken
        rcases takeDigits_eq_iff.mp equal with ⟨split, allDigits, ends⟩
        refine ⟨split, ⟨⟨nonempty, allDigits⟩, ?_⟩, ends⟩
        intro others same
        cases others with
        | nil => rfl
        | cons second others => exact absurd same (notLeading second others)
  · rintro ⟨split, whole, ends⟩
    rw [takeDigits_eq_iff.mpr ⟨split, whole.digits, ends⟩]
    split
    · next equal => exact absurd (Prod.mk.inj equal).1 whole.nonempty
    · next equal => exact absurd (whole.alone _ (Prod.mk.inj equal).1) (List.cons_ne_nil _ _)
    · next equal => rw [equal]

/-! ## Fractions -/

inductive FractionSpelling : List Char → List Char → Prop where
  | none : FractionSpelling [] []
  | some {digits : List Char} (some : Digits digits) : FractionSpelling ('.' :: digits) digits

def LeavesFraction (symbols : List Symbol) (digits : List Char) (rest : List Symbol) : Prop :=
  ∃ characters, symbols = characters.map some ++ rest ∧ FractionSpelling characters digits ∧
    (digits = [] → rest.head? ≠ some (some '.')) ∧ (digits ≠ [] → EndsDigits rest)

theorem takeFraction?_eq_some_iff {symbols rest : List Symbol} {digits : List Char} :
    takeFraction? symbols = some (digits, rest) ↔ LeavesFraction symbols digits rest := by
  unfold takeFraction?
  constructor
  · intro taken
    split at taken
    · next after =>
        split at taken
        · contradiction
        · next nonempty equal =>
            cases taken
            rcases takeDigits_eq_iff.mp equal with ⟨split, allDigits, ends⟩
            exact ⟨'.' :: digits, by rw [split]; rfl, .some ⟨nonempty, allDigits⟩,
              fun empty => absurd empty nonempty, fun _ => ends⟩
    · next noPoint =>
        cases taken
        refine ⟨[], rfl, .none, fun _ head => ?_, fun nonempty => absurd rfl nonempty⟩
        rcases List.head?_eq_some_iff.mp head with ⟨after, same⟩
        exact noPoint after same
  · rintro ⟨characters, rfl, spelled, noPoint, ends⟩
    cases spelled with
    | none =>
        rw [List.map_nil, List.nil_append]
        split
        · exact absurd rfl (noPoint rfl)
        · rfl
    | some spelled =>
        rw [List.map_cons, List.cons_append]
        simp only
        rw [takeDigits_append spelled.digits (ends spelled.nonempty)]
        split
        · next equal => exact absurd (Prod.mk.inj equal).1 spelled.nonempty
        · next equal => rw [equal]

/-! ## Exponents -/

inductive SignSpelling : List Char → Bool → Prop where
  | none : SignSpelling [] false
  | plus : SignSpelling ['+'] false
  | minus : SignSpelling ['-'] true

inductive ExponentSpelling : List Char → Option (Bool × List Char) → Prop where
  | none : ExponentSpelling [] none
  | some {mark : Char} (marks : mark = 'e' ∨ mark = 'E') {sign digits : List Char}
      {negative : Bool} (signed : SignSpelling sign negative) (some : Digits digits) :
      ExponentSpelling (mark :: (sign ++ digits)) (.some (negative, digits))

theorem takeExponentDigits?_eq_some_iff {negative : Bool} {symbols rest : List Symbol}
    {exponent : Option (Bool × List Char)} :
    takeExponentDigits? negative symbols = some (exponent, rest) ↔
      ∃ digits, exponent = some (negative, digits) ∧ symbols = digits.map some ++ rest ∧
        Digits digits ∧ EndsDigits rest := by
  unfold takeExponentDigits?
  constructor
  · intro taken
    split at taken
    · contradiction
    · next digits _ nonempty equal =>
        cases taken
        rcases takeDigits_eq_iff.mp equal with ⟨split, allDigits, ends⟩
        exact ⟨digits, rfl, split, ⟨nonempty, allDigits⟩, ends⟩
  · rintro ⟨digits, rfl, rfl, spelled, ends⟩
    rw [takeDigits_append spelled.digits ends]
    split
    · next equal => exact absurd (Prod.mk.inj equal).1 spelled.nonempty
    · next equal =>
        cases equal
        rfl

def EndsExponent (rest : List Symbol) : Prop :=
  ∀ character, rest.head? = some (some character) → character ≠ 'e' ∧ character ≠ 'E'

theorem takeExponent?_of_mark {mark : Char} (marks : mark = 'e' ∨ mark = 'E')
    {sign digits : List Char} {negative : Bool} (signed : SignSpelling sign negative)
    (spelled : Digits digits) (rest : List Symbol) :
    takeExponent? (some mark :: (sign.map some ++ (digits.map some ++ rest))) =
      takeExponentDigits? negative (digits.map some ++ rest) := by
  simp only [takeExponent?, if_pos marks]
  cases signed with
  | plus => rfl
  | minus => rfl
  | none =>
      cases digits with
      | nil => exact absurd rfl spelled.nonempty
      | cons first others =>
          have isDigit := spelled.digits first List.mem_cons_self
          rw [List.map_nil, List.nil_append, List.map_cons, List.cons_append]
          split
          · next equal =>
              cases equal
              contradiction
          · next equal =>
              cases equal
              contradiction
          · rfl

def LeavesExponent (symbols : List Symbol) (exponent : Option (Bool × List Char))
    (rest : List Symbol) : Prop :=
  ∃ characters, symbols = characters.map some ++ rest ∧ ExponentSpelling characters exponent ∧
    (exponent = none → EndsExponent rest) ∧ (exponent ≠ none → EndsDigits rest)

theorem leavesExponent_of_takeExponentDigits? {mark : Char} (marks : mark = 'e' ∨ mark = 'E')
    {sign : List Char} {negative : Bool} (signed : SignSpelling sign negative)
    {after rest : List Symbol} {exponent : Option (Bool × List Char)}
    (taken : takeExponentDigits? negative after = some (exponent, rest)) :
    LeavesExponent (some mark :: (sign.map some ++ after)) exponent rest := by
  rcases takeExponentDigits?_eq_some_iff.mp taken with ⟨digits, rfl, split, spelled, ends⟩
  exact ⟨mark :: (sign ++ digits), by simp [split], .some marks signed spelled, nofun,
    fun _ => ends⟩

theorem takeExponent?_eq_some_iff {symbols rest : List Symbol}
    {exponent : Option (Bool × List Char)} :
    takeExponent? symbols = some (exponent, rest) ↔ LeavesExponent symbols exponent rest := by
  constructor
  · intro taken
    unfold takeExponent? at taken
    split at taken
    · next character after =>
        split at taken
        · next marks =>
            split at taken
            · exact leavesExponent_of_takeExponentDigits? marks .plus taken
            · exact leavesExponent_of_takeExponentDigits? marks .minus taken
            · exact leavesExponent_of_takeExponentDigits? marks .none taken
        · next noMark =>
            cases taken
            refine ⟨[], rfl, .none, ?_, fun present => absurd rfl present⟩
            rintro _ _ ⟨⟩
            exact not_or.mp noMark
    · next noCharacter =>
        cases taken
        refine ⟨[], rfl, .none, ?_, fun present => absurd rfl present⟩
        intro _ character head
        rcases List.head?_eq_some_iff.mp head with ⟨after, same⟩
        exact absurd same (noCharacter character after)
  · rintro ⟨characters, rfl, spelled, noMark, ends⟩
    cases spelled with
    | none =>
        rw [List.map_nil, List.nil_append]
        unfold takeExponent?
        split
        · next character after =>
            rw [if_neg (not_or.mpr (noMark rfl character rfl))]
        · rfl
    | some marks signed spelled =>
        rw [List.map_cons, List.map_append, List.cons_append, List.append_assoc,
          takeExponent?_of_mark marks signed spelled]
        exact takeExponentDigits?_eq_some_iff.mpr ⟨_, rfl, rfl, spelled, ends nofun⟩

/-! ## Numerals -/

inductive UnsignedSpelling (negative : Bool) : List Char → Numeral → Prop where
  | parts {whole afterPoint digits marked : List Char} {exponent : Option (Bool × List Char)}
      (isWhole : Whole whole) (isFraction : FractionSpelling afterPoint digits)
      (isExponent : ExponentSpelling marked exponent) :
      UnsignedSpelling negative (whole ++ (afterPoint ++ marked))
        ⟨negative, whole, digits, exponent⟩

inductive Spelling : List Char → Numeral → Prop where
  | plain {characters : List Char} {numeral : Numeral}
      (spelled : UnsignedSpelling false characters numeral) : Spelling characters numeral
  | minus {characters : List Char} {numeral : Numeral}
      (spelled : UnsignedSpelling true characters numeral) : Spelling ('-' :: characters) numeral

structure Ends (numeral : Numeral) (rest : List Symbol) : Prop where
  digits : EndsDigits rest
  fraction : numeral.exponent = none → numeral.fraction = [] → rest.head? ≠ some (some '.')
  exponent : numeral.exponent = none → EndsExponent rest

theorem endsDigits_fraction {characters digits : List Char} {rest : List Symbol}
    (spelled : FractionSpelling characters digits) (ends : digits = [] → EndsDigits rest) :
    EndsDigits (characters.map some ++ rest) := by
  cases spelled with
  | none => exact ends rfl
  | some =>
      rintro _ ⟨⟩
      decide

theorem endsDigits_exponent {characters : List Char} {exponent : Option (Bool × List Char)}
    {rest : List Symbol} (spelled : ExponentSpelling characters exponent)
    (ends : exponent = none → EndsDigits rest) : EndsDigits (characters.map some ++ rest) := by
  cases spelled with
  | none => exact ends rfl
  | some marks =>
      rintro _ ⟨⟩
      rcases marks with rfl | rfl <;> decide

theorem head_ne_point {characters : List Char} {exponent : Option (Bool × List Char)}
    {rest : List Symbol} (spelled : ExponentSpelling characters exponent)
    (ends : exponent = none → rest.head? ≠ some (some '.')) :
    (characters.map some ++ rest).head? ≠ some (some '.') := by
  cases spelled with
  | none => exact ends rfl
  | some marks =>
      rintro ⟨⟩
      contradiction

theorem takeUnsigned?_eq_some_iff {negative : Bool} {symbols rest : List Symbol}
    {numeral : Numeral} :
    takeUnsigned? negative symbols = some (numeral, rest) ↔
      ∃ characters, symbols = characters.map some ++ rest ∧
        UnsignedSpelling negative characters numeral ∧ numeral.Ends rest := by
  simp only [takeUnsigned?, Option.bind_eq_bind, Option.bind_eq_some_iff, Prod.exists]
  constructor
  · rintro ⟨whole, afterWhole, wholeTaken, digits, afterFraction, fractionTaken, exponent, after,
      exponentTaken, same⟩
    cases same
    rcases takeWhole?_eq_some_iff.mp wholeTaken with ⟨rfl, isWhole, wholeEnds⟩
    rcases takeFraction?_eq_some_iff.mp fractionTaken with
      ⟨afterPoint, rfl, isFraction, noPoint, fractionEnds⟩
    rcases takeExponent?_eq_some_iff.mp exponentTaken with
      ⟨marked, rfl, isExponent, noMark, exponentEnds⟩
    refine ⟨_, by simp, .parts isWhole isFraction isExponent, ?_, ?_, noMark⟩
    · by_cases hasExponent : exponent = none
      · subst hasExponent
        cases isExponent
        by_cases hasFraction : digits = []
        · subst hasFraction
          cases isFraction with
          | none => exact wholeEnds
          | some spelled => exact absurd rfl spelled.nonempty
        · exact fractionEnds hasFraction
      · exact exponentEnds hasExponent
    · intro noExponent noFraction
      subst noExponent
      cases isExponent
      exact noPoint noFraction
  · rintro ⟨_, rfl, ⟨isWhole, isFraction, isExponent⟩, ends⟩
    have exponentEnds := endsDigits_exponent isExponent fun _ => ends.digits
    refine ⟨_, _, takeWhole?_eq_some_iff.mpr ⟨?_, isWhole, endsDigits_fraction isFraction
        fun _ => exponentEnds⟩, _, _, takeFraction?_eq_some_iff.mpr ⟨_, rfl, isFraction, ?_,
        fun _ => exponentEnds⟩, _, _, takeExponent?_eq_some_iff.mpr ⟨_, rfl, isExponent,
        ends.exponent, fun _ => ends.digits⟩, rfl⟩
    · simp
    · exact fun noFraction =>
        head_ne_point isExponent fun noExponent => ends.fraction noExponent noFraction

/-- A numeral is read off the head of a text exactly where one is spelled that what follows
does not go on with. -/
theorem take?_eq_some_iff {symbols rest : List Symbol} {numeral : Numeral} :
    take? symbols = some (numeral, rest) ↔
      ∃ characters, symbols = characters.map some ++ rest ∧ Spelling characters numeral ∧
        numeral.Ends rest := by
  constructor
  · intro taken
    unfold take? at taken
    split at taken
    · rcases takeUnsigned?_eq_some_iff.mp taken with ⟨characters, rfl, spelled, ends⟩
      exact ⟨'-' :: characters, rfl, .minus spelled, ends⟩
    · rcases takeUnsigned?_eq_some_iff.mp taken with ⟨characters, rfl, spelled, ends⟩
      exact ⟨characters, rfl, .plain spelled, ends⟩
  · rintro ⟨characters, rfl, spelled, ends⟩
    cases spelled with
    | minus spelled => exact takeUnsigned?_eq_some_iff.mpr ⟨_, rfl, spelled, ends⟩
    | plain spelled =>
        have taken := takeUnsigned?_eq_some_iff.mpr ⟨characters, rfl, spelled, ends⟩
        unfold take?
        split
        · next after same =>
            -- A numeral without a minus sign begins with a digit.
            cases spelled with
            | @parts whole _ _ _ _ isWhole =>
                cases whole with
                | nil => exact absurd rfl isWhole.nonempty
                | cons first others =>
                    cases same
                    exact absurd (isWhole.digits '-' List.mem_cons_self) (by decide)
        · exact taken

end ViewerLogin.Numeral
