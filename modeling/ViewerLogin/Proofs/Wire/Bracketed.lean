import ViewerLogin.Proofs.Text.Split
import ViewerLogin.Proofs.Text.Trim

/-!
# Coordinates in one text

A list of coordinates may come as one text, with or without brackets around it and with blanks
anywhere. Blanks at the ends of the text are blanks at an end of its first or its last coordinate,
where they do not matter; so the coordinates are those between the commas, whichever brackets
are there.
-/

namespace ViewerLogin

namespace Wire

open Text (isBlank split trimCharacters)

/-! ## Blanks do not matter -/

theorem ne_comma_of_isBlank {character : Char} (blank : isBlank character = true) :
    character ≠ ',' := by
  rintro rfl
  exact absurd blank (by decide)

theorem untag_congr {left right : List Char} (same : trimCharacters left = trimCharacters right) :
    untag left = untag right := by
  rw [untag, untag, same]

theorem map_untag_split_dropWhile (characters : List Char) :
    (split ',' (characters.dropWhile isBlank)).map untag = (split ',' characters).map untag := by
  induction characters with
  | nil => rfl
  | cons first rest induction =>
      by_cases blank : isBlank first = true
      · rcases Text.split_cons (ne_comma_of_isBlank blank) rest with ⟨piece, pieces, before, after⟩
        rw [List.dropWhile_cons_of_pos blank, induction, before, after, List.map_cons,
          List.map_cons, untag_congr (Text.trimCharacters_of_isBlank blank piece)]
      · rw [List.dropWhile_cons_of_neg blank]

theorem map_untag_split_dropEndWhile (characters : List Char) :
    (split ',' (Text.dropEndWhile isBlank characters)).map untag =
      (split ',' characters).map untag := by
  induction characters using List.reverseRecOn with
  | nil => rfl
  | append_singleton rest last induction =>
      cases blank : isBlank last with
      | true =>
          rcases Text.split_append_singleton (ne_comma_of_isBlank blank) rest with
            ⟨pieces, piece, before, after⟩
          rw [Text.dropEndWhile_append_of_pos blank, induction, before, after, List.map_append,
            List.map_append, List.map_singleton, List.map_singleton,
            untag_congr (Text.trimCharacters_append_of_isBlank blank piece)]
      | false => rw [Text.dropEndWhile_append_of_neg blank]

/-! ## Brackets -/

def fields (characters : List Char) : List Coordinate := (split ',' characters).map untag

variable {inside : List Char}

structure Open (inside : List Char) : Prop where
  start : (inside.dropWhile isBlank).head? ≠ some '['
  close : ']' ∉ inside

namespace Open

theorem of_not_mem (noOpening : '[' ∉ inside) (noClosing : ']' ∉ inside) : Open inside :=
  ⟨fun begins => noOpening ((List.dropWhile_sublist _).mem (List.mem_of_mem_head? begins)),
    noClosing⟩

theorem dropWhile_bracket {characters : List Char} (start : characters.head? ≠ some '[') :
    characters.dropWhile (· == '[') = characters := by
  apply Text.dropWhile_of_head?
  intro first begins
  have different : first ≠ '[' := fun same => start (same ▸ begins)
  simpa using different

theorem dropEndWhile_bracket {characters : List Char} (close : ']' ∉ characters) :
    Text.dropEndWhile (· == ']') characters = characters := by
  apply Text.dropEndWhile_of_forall
  intro each member
  have different : each ≠ ']' := fun same => close (same ▸ member)
  simpa using different

end Open

theorem splitCoordinates_bracketed (start : inside.head? ≠ some '[') (close : ']' ∉ inside) :
    splitCoordinates ('[' :: inside ++ [']']) = fields inside := by
  have begins : (inside ++ [']']).head? ≠ some '[' := by
    cases inside with
    | nil => decide
    | cons first rest => exact start
  rw [splitCoordinates, Text.trimCharacters_enclosed (by decide) (by decide), List.cons_append,
    List.dropWhile_cons_of_pos (by decide), Open.dropWhile_bracket begins,
    Text.dropEndWhile_append_of_pos (by decide), Open.dropEndWhile_bracket close, fields]

namespace Open

theorem splitCoordinates_closed (opened : Open inside) :
    splitCoordinates (inside ++ [']']) = fields inside := by
  have closes : isBlank ']' = false := by decide
  have trimmed : trimCharacters (inside ++ [']']) = inside.dropWhile isBlank ++ [']'] := by
    rw [trimCharacters, List.dropWhile_append]
    split
    · next nothing =>
        rw [List.isEmpty_iff.mp nothing]
        rfl
    · exact Text.dropEndWhile_append_of_neg closes _
  have begins : (inside.dropWhile isBlank ++ [']']).head? ≠ some '[' := by
    have start := opened.start
    revert start
    cases inside.dropWhile isBlank with
    | nil => decide
    | cons first rest => exact id
  have kept : ']' ∉ inside.dropWhile isBlank := fun member =>
    opened.close ((List.dropWhile_sublist _).mem member)
  rw [splitCoordinates, trimmed, dropWhile_bracket begins,
    Text.dropEndWhile_append_of_pos (by decide), dropEndWhile_bracket kept,
    map_untag_split_dropWhile, fields]

theorem splitCoordinates_bare (opened : Open inside) : splitCoordinates inside = fields inside := by
  have shorter : trimCharacters inside <+: inside.dropWhile isBlank :=
    List.rdropWhile_prefix _ _
  have begins : (trimCharacters inside).head? ≠ some '[' := by
    intro begins
    rcases shorter with ⟨rest, whole⟩
    apply opened.start
    rw [← whole, List.head?_append, begins, Option.some_or]
  have kept : ']' ∉ trimCharacters inside := by
    intro member
    exact opened.close ((List.dropWhile_sublist _).mem (shorter.mem member))
  rw [splitCoordinates, dropWhile_bracket begins, dropEndWhile_bracket kept, trimCharacters,
    map_untag_split_dropEndWhile, map_untag_split_dropWhile, fields]

end Open

/-! ## Lists and texts -/

theorem fields_join {pieces : List (List Char)} (nonempty : pieces ≠ [])
    (clear : ∀ piece ∈ pieces, ',' ∉ piece) :
    fields (Text.join [','] pieces) = pieces.map untag := by
  rw [fields, Text.split_join nonempty clear]

theorem fields_nil : fields [] = [none] := by decide +kernel

inductive Item where
  | integer (value : Int)
  | text (text : String)
  deriving DecidableEq, Repr

namespace Item

def toJson : Item → Json
  | .integer value => .ofInt value
  | .text content => .text content

def characters : Item → List Char
  | .integer value => Decimal.integer value
  | .text content => content.toList

def coordinate (item : Item) : Coordinate := untag item.characters

def bracketed (items : List Item) : String :=
  String.ofList ('[' :: Text.join [','] (items.map characters) ++ [']'])

example : bracketed [.integer 1, .text " r0 "] = "[1, r0 ]" := by decide +kernel

/-- Whether an item can be told from the commas and brackets around it. -/
def Plain (item : Item) : Prop :=
  ',' ∉ item.characters ∧ '[' ∉ item.characters ∧ ']' ∉ item.characters

instance (item : Item) : Decidable item.Plain :=
  inferInstanceAs (Decidable (_ ∧ _ ∧ _))

theorem plain_integer (value : Int) : (integer value).Plain := by
  have absent (character : Char) (noNumeral : Decimal.isNumeric character = false) :
      character ∉ Decimal.integer value := by
    intro member
    rw [Decimal.isNumeric_of_mem_integer member] at noNumeral
    contradiction
  exact ⟨absent ',' (by decide), absent '[' (by decide), absent ']' (by decide)⟩

end Item

theorem untag_integer (value : Int) :
    untag (Decimal.integer value) = some (Number.integer value).text := by
  have numeric : ∀ each ∈ Decimal.integer value, Decimal.isNumeric each = true :=
    fun _ => Decimal.isNumeric_of_mem_integer
  have trimmed : trimCharacters (Decimal.integer value) = Decimal.integer value := by
    have visible : ∀ each ∈ Decimal.integer value, isBlank each = false :=
      fun each member => Decimal.isBlank_of_isNumeric (numeric each member)
    have nothing : ∀ each ∈ ([] : List Char), isBlank each = true := nofun
    have between := Text.trimCharacters_between nothing visible nothing
    rwa [List.nil_append, List.append_nil] at between
  have untagged : removeTag (Decimal.integer value) = Decimal.integer value := by
    cases written : Decimal.integer value with
    | nil => rfl
    | cons first rest =>
        rw [removeTag, if_neg]
        rintro rfl
        exact absurd (numeric realTag (written ▸ List.mem_cons_self)) (by decide)
  have different : Decimal.integer value ≠ placeholder.toList := by
    intro same
    exact absurd (numeric 'N' (same ▸ by decide +kernel)) (by decide)
  rw [untag]
  simp only [trimmed, untagged]
  have nonempty : Decimal.integer value ≠ [] := (Number.integer value).characters_ne_nil
  rw [if_neg (not_or.mpr ⟨nonempty, different⟩)]
  rfl

theorem readItem_toJson (key : String) (item : Item) :
    readItem key item.toJson = .ok item.coordinate := by
  cases item with
  | integer value => exact congrArg Except.ok (untag_integer value).symm
  | text content => rfl

theorem readItems_map_toJson (key : String) (items : List Item) :
    readItems key (items.map Item.toJson) = .ok (items.map Item.coordinate) := by
  induction items with
  | nil => rfl
  | cons first rest induction =>
      rw [List.map_cons, List.map_cons, readItems, readItem_toJson, induction]

theorem splitCoordinates_bracketed_items {items : List Item} (nonempty : items ≠ [])
    (plain : ∀ item ∈ items, item.Plain) :
    splitCoordinates (Item.bracketed items).toList = items.map Item.coordinate := by
  have clear (character : Char) (different : character ∉ [','])
      (absent : ∀ item ∈ items, character ∉ item.characters) :
      character ∉ Text.join [','] (items.map Item.characters) := by
    intro member
    rcases Text.mem_join member with inSeparator | ⟨_, inPieces, inPiece⟩
    · exact different inSeparator
    · rcases List.mem_map.mp inPieces with ⟨item, inItems, rfl⟩
      exact absent item inItems inPiece
  have noOpening := clear '[' (by decide) fun item member => (plain item member).2.1
  have noClosing := clear ']' (by decide) fun item member => (plain item member).2.2
  have commas : ∀ piece ∈ items.map Item.characters, ',' ∉ piece := by
    intro piece inPieces
    rcases List.mem_map.mp inPieces with ⟨item, member, rfl⟩
    exact (plain item member).1
  rw [Item.bracketed, String.toList_ofList,
    splitCoordinates_bracketed (fun begins => noOpening (List.mem_of_mem_head? begins)) noClosing,
    fields_join (by simpa using nonempty) commas, List.map_map]
  rfl

theorem splitCoordinates_bracketed_nil :
    splitCoordinates (Item.bracketed []).toList = [none] := by decide +kernel

theorem bracketed_ne_placeholder (items : List Item) : Item.bracketed items ≠ placeholder := by
  intro same
  have characters := congrArg String.toList same
  rw [Item.bracketed, String.toList_ofList] at characters
  exact absurd (List.cons.inj characters).1 (by decide)

namespace Codec

variable {α : Type} {size : Nat} {toList : α → List Coordinate}
  {ofList? : List Coordinate → Option α} {unset : α}

theorem coordinates_list (key : String) (items : List Item) :
    (coordinates size toList ofList? unset).read key (some (.list (items.map Item.toJson))) =
      (ofList? (items.map Item.coordinate)).elim (.error (.wrongLength key size)) .ok := by
  have isPresent : present (some (.list (items.map Item.toJson))) =
    some (.list (items.map Item.toJson)) := rfl
  simp only [coordinates, isPresent, readItems_map_toJson]
  cases ofList? (items.map Item.coordinate) <;> rfl

/-- One text with brackets is read like the list of its items. That nothing between brackets is
one blank item makes no difference where neither none nor one is the right number. -/
theorem coordinates_bracketed (tooFew : ofList? [] = none ∧ ofList? [none] = none) (key : String)
    {items : List Item} (plain : ∀ item ∈ items, item.Plain) :
    (coordinates size toList ofList? unset).read key (some (.text (Item.bracketed items))) =
      (coordinates size toList ofList? unset).read key (some (.list (items.map Item.toJson))) := by
  have isPresent := present_text_of_ne (bracketed_ne_placeholder items)
  rw [coordinates_list]
  simp only [coordinates, isPresent]
  cases items with
  | nil =>
      rw [splitCoordinates_bracketed_nil, List.map_nil, tooFew.1, tooFew.2]
      rfl
  | cons first rest =>
      rw [splitCoordinates_bracketed_items (List.cons_ne_nil _ _) plain]
      cases ofList? ((first :: rest).map Item.coordinate) <;> rfl

end Codec

end Wire

end ViewerLogin
