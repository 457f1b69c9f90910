/-!
# UTF-8

Bodies arrive as octets. Reading them gives one symbol for each encoded character and one
for each octet that is part of no character, so that a reader can refuse the latter where
it matters and skip them where it does not.
-/

namespace ViewerLogin.Text

abbrev Symbol := Option Char

namespace Utf8

/-! ## Writing -/

def encodeCharacter (character : Char) : List UInt8 :=
  let code := character.toNat
  if code < 0x80 then
    [code.toUInt8]
  else if code < 0x800 then
    [(0xC0 + code / 0x40).toUInt8, (0x80 + code % 0x40).toUInt8]
  else if code < 0x10000 then
    [(0xE0 + code / 0x1000).toUInt8, (0x80 + code / 0x40 % 0x40).toUInt8,
      (0x80 + code % 0x40).toUInt8]
  else
    [(0xF0 + code / 0x40000).toUInt8, (0x80 + code / 0x1000 % 0x40).toUInt8,
      (0x80 + code / 0x40 % 0x40).toUInt8, (0x80 + code % 0x40).toUInt8]

def encode (characters : List Char) : List UInt8 :=
  characters.flatMap encodeCharacter

example : encode ['A', 'é', '日', '😀'] =
    [0x41, 0xC3, 0xA9, 0xE6, 0x97, 0xA5, 0xF0, 0x9F, 0x98, 0x80] := by decide

/-! ## Reading -/

def continuation? : (count code : Nat) → List UInt8 → Option Nat
  | 0, code, _ => some code
  | _ + 1, _, [] => none
  | count + 1, code, octet :: rest =>
      if 0x80 ≤ octet.toNat ∧ octet.toNat < 0xC0 then
        continuation? count (code * 0x40 + (octet.toNat - 0x80)) rest
      else
        none

def scalar? (least code : Nat) : Option Char :=
  if least ≤ code ∧ code.isValidChar then some (Char.ofNat code) else none

def character? : List UInt8 → Option (Char × Nat)
  | [] => none
  | lead :: rest =>
      let code := lead.toNat
      if code < 0x80 then
        some (Char.ofNat code, 0)
      else if code < 0xC0 then
        none
      else if code < 0xE0 then
        ((continuation? 1 (code - 0xC0) rest).bind (scalar? 0x80)).map (·, 1)
      else if code < 0xF0 then
        ((continuation? 2 (code - 0xE0) rest).bind (scalar? 0x800)).map (·, 2)
      else if code < 0xF8 then
        ((continuation? 3 (code - 0xF0) rest).bind (scalar? 0x10000)).map (·, 3)
      else
        none

/-- Reads on after passing over `skip` octets of a character already read. -/
def decodeFrom : (skip : Nat) → List UInt8 → List Symbol
  | _, [] => []
  | skip + 1, _ :: rest => decodeFrom skip rest
  | 0, lead :: rest =>
      match character? (lead :: rest) with
      | some (character, extra) => some character :: decodeFrom extra rest
      | none => none :: decodeFrom 0 rest

def decode (octets : List UInt8) : List Symbol :=
  decodeFrom 0 octets

example : decode [0x41, 0xC3, 0xA9, 0xC3, 0x22] =
    [some 'A', some 'é', none, some '"'] := by decide

example : decode [0xED, 0xA0, 0x80] = [none, none, none] ∧ decode [0xC0, 0x80] = [none, none] := by
  decide

end Utf8

end ViewerLogin.Text
