/-!
# Maturity tiers

Agents and regions belong to a maturity tier. Each tier travels as a short tag.
-/

namespace ViewerLogin

inductive Maturity where
  | parental
  | mature
  | adult
  /-- Sent by some older grids in place of `parental`. -/
  | general
  deriving DecidableEq, Repr

namespace Maturity

def tag : Maturity → String
  | .parental => "PG"
  | .mature => "M"
  | .adult => "A"
  | .general => "G"

def ofTag? : String → Option Maturity
  | "PG" => some .parental
  | "M" => some .mature
  | "A" => some .adult
  | "G" => some .general
  | _ => none

theorem ofTag?_tag (maturity : Maturity) : ofTag? maturity.tag = some maturity := by
  cases maturity <;> rfl

end Maturity

end ViewerLogin
