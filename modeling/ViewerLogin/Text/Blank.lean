/-!
# Blank characters and trimming

A blank is a character with the Unicode property White_Space. Names, numerals and
coordinates are read without the blanks at their two ends.
-/

namespace ViewerLogin.Text

def isBlank (character : Char) : Bool :=
  let code := character.toNat
  (0x09 ≤ code && code ≤ 0x0D) || code == 0x20 || code == 0x85 || code == 0xA0 ||
    code == 0x1680 || (0x2000 ≤ code && code ≤ 0x200A) || code == 0x2028 ||
    code == 0x2029 || code == 0x202F || code == 0x205F || code == 0x3000

example : ['\t', ' ', '\u00a0', '\u2003', '\u3000'].all isBlank = true := by decide

example : ['a', '_', '\u200b', '\ufeff'].any isBlank = false := by decide

/-! ## Dropping at the end

Dropping at the start of a list is the library's own `dropWhile`. -/

def dropEndWhile (test : Char → Bool) (characters : List Char) : List Char :=
  (characters.reverse.dropWhile test).reverse

example : dropEndWhile (· == '/') "caps//".toList = "caps".toList := by decide

/-! ## Trimming -/

def trimCharacters (characters : List Char) : List Char :=
  dropEndWhile isBlank (characters.dropWhile isBlank)

def trim (text : String) : String :=
  String.ofList (trimCharacters text.toList)

example : trimCharacters " \t Ruth\u3000 ".toList = "Ruth".toList := by decide

def isBlankText (text : String) : Bool :=
  (trimCharacters text.toList).isEmpty

def isWord (text : String) : Bool :=
  !isBlankText text && !(trimCharacters text.toList).any isBlank

example : isWord " Ruth " = true ∧ isWord "Ruth Linden" = false ∧ isWord " " = false := by
  decide

end ViewerLogin.Text
