import ViewerLogin.Decimal.Integer
import ViewerLogin.Text.Hex
import ViewerLogin.Text.Split

/-!
# Addresses of simulators

A simulator has an address of four octets or of eight groups of sixteen bits. Long addresses
are written with their longest run of zero groups left out.
-/

namespace ViewerLogin

inductive IpAddress where
  | v4 (first second third fourth : UInt8)
  | v6 (first second third fourth fifth sixth seventh eighth : UInt16)
  deriving DecidableEq, Repr

namespace IpAddress

/-! ## Addresses of four octets -/

/-- At most three digits without a leading zero. -/
def octet? (characters : List Char) : Option UInt8 :=
  if characters.length ≤ 3 ∧ (characters.head? ≠ some '0' ∨ characters.length = 1) then
    (Decimal.readNatural? characters).bind fun value =>
      if value < 256 then some (UInt8.ofNat value) else none
  else
    none

def octets? (characters : List Char) : Option (List UInt8) :=
  ((Text.split '.' characters).mapM octet?).bind fun octets =>
    if octets.length = 4 then some octets else none

def writeOctets (octets : List UInt8) : List Char :=
  Text.join ['.'] (octets.map fun octet => Decimal.natural octet.toNat)

/-! ## Addresses of eight groups -/

def group? (characters : List Char) : Option UInt16 :=
  if characters ≠ [] ∧ characters.length ≤ 4 then
    (Text.Hex.read? characters).map UInt16.ofNat
  else
    none

def groups? (octetsAllowed : Bool) : List (List Char) → Option (List UInt16)
  | [] => some []
  | [last] =>
      match group? last with
      | some group => some [group]
      | none =>
          -- The last two groups may be written as four octets.
          if octetsAllowed then
            match octets? last with
            | some [first, second, third, fourth] =>
                some [UInt16.ofNat (first.toNat * 256 + second.toNat),
                  UInt16.ofNat (third.toNat * 256 + fourth.toNat)]
            | _ => none
          else
            none
  | piece :: rest =>
      (group? piece).bind fun group => (groups? octetsAllowed rest).map (group :: ·)

def groupsOf? (octetsAllowed : Bool) (characters : List Char) : Option (List UInt16) :=
  if characters = [] then some [] else groups? octetsAllowed (Text.split ':' characters)

/-- A double colon stands for the groups that are missing, at least one. -/
def eightGroups? (characters : List Char) : Option (List UInt16) :=
  match Text.cutAtPair? ':' ':' characters with
  | none => groupsOf? true characters
  | some (before, after) =>
      (groupsOf? false before).bind fun front =>
        (groupsOf? true after).bind fun back =>
          if front.length + back.length < 8 then
            some (front ++ List.replicate (8 - front.length - back.length) 0 ++ back)
          else
            none

def writeGroup (group : UInt16) : List Char :=
  match (Text.Hex.write 4 group.toNat).dropWhile (· == '0') with
  | [] => ['0']
  | digits => digits

def writeGroups (groups : List UInt16) : List Char :=
  Text.join [':'] (groups.map writeGroup)

structure Run where
  start : Nat
  length : Nat
  deriving DecidableEq, Repr

def longestRun (current longest : Run) (index : Nat) : List UInt16 → Run
  | [] => longest
  | group :: rest =>
      if group = 0 then
        let current := if current.length = 0 then ⟨index, 1⟩ else ⟨current.start, current.length + 1⟩
        -- Of runs with the same length the first stays.
        longestRun current (if longest.length < current.length then current else longest)
          (index + 1) rest
      else
        longestRun ⟨0, 0⟩ longest (index + 1) rest

example : longestRun ⟨0, 0⟩ ⟨0, 0⟩ 0 [1, 0, 0, 2, 0, 0, 3, 4] = ⟨1, 2⟩ := by decide

/-- A single zero group is written out. -/
def writeCompressed (groups : List UInt16) : List Char :=
  let run := longestRun ⟨0, 0⟩ ⟨0, 0⟩ 0 groups
  if 1 < run.length then
    writeGroups (groups.take run.start) ++ "::".toList ++
      writeGroups (groups.drop (run.start + run.length))
  else
    writeGroups groups

/-! ## Writing and reading -/

/-- Addresses that stand for one of four octets keep the notation of octets. -/
def characters : IpAddress → List Char
  | .v4 first second third fourth => writeOctets [first, second, third, fourth]
  | .v6 0 0 0 0 0 0xFFFF seventh eighth =>
      "::ffff:".toList ++ writeOctets [(seventh / 256).toUInt8, seventh.toUInt8,
        (eighth / 256).toUInt8, eighth.toUInt8]
  | .v6 first second third fourth fifth sixth seventh eighth =>
      writeCompressed [first, second, third, fourth, fifth, sixth, seventh, eighth]

def text (address : IpAddress) : String := String.ofList address.characters

def parseCharacters? (characters : List Char) : Option IpAddress :=
  match octets? characters with
  | some [first, second, third, fourth] => some (.v4 first second third fourth)
  | _ =>
      match eightGroups? characters with
      | some [first, second, third, fourth, fifth, sixth, seventh, eighth] =>
          some (.v6 first second third fourth fifth sixth seventh eighth)
      | _ => none

def parse? (text : String) : Option IpAddress := parseCharacters? text.toList

def loopback : IpAddress := .v4 127 0 0 1

example : loopback.characters = "127.0.0.1".toList := by decide +kernel

example : (IpAddress.v6 0 0 0 0 0 0 0 1).characters = "::1".toList := by decide +kernel

example : (parse? "1:0:0:2::3:4").map characters = some "1::2:0:0:3:4".toList := by
  decide +kernel

example : parse? "127.0.0.01" = none ∧ parse? "1::2::3" = none := by decide +kernel

end IpAddress

end ViewerLogin
