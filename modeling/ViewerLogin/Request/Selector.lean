import ViewerLogin.Json.Basic
import ViewerLogin.Response.Block

/-!
# Selectors

A request selects the blocks it wants by their keys. Names that are no keys of blocks are kept
in their order, each once, since other grids may know them.
-/

namespace ViewerLogin

def firstOccurrences : List String → List String
  | [] => []
  | name :: rest => name :: (firstOccurrences rest).filter (· ≠ name)

example : firstOccurrences ["a", "b", "a", "c", "b"] = ["a", "b", "c"] := by decide

theorem firstOccurrences_nodup (names : List String) : (firstOccurrences names).Nodup := by
  induction names with
  | nil => exact .nil
  | cons name rest induction =>
      apply List.nodup_cons.mpr
      exact ⟨by simp, induction.filter _⟩

theorem mem_firstOccurrences (names : List String) (name : String) :
    name ∈ firstOccurrences names ↔ name ∈ names := by
  induction names with
  | nil => simp [firstOccurrences]
  | cons first rest induction =>
      by_cases equal : name = first <;> simp [firstOccurrences, induction, equal]

structure Selector where
  includes : Block → Bool
  extra : List String
  extra_nodup : extra.Nodup
  extra_unknown : ∀ name ∈ extra, Block.ofKey? name = none

namespace Selector

def blocks (selector : Selector) : List Block := Block.all.filter selector.includes

theorem ext_iff (left right : Selector) :
    left = right ↔ left.blocks = right.blocks ∧ left.extra = right.extra := by
  constructor
  · rintro rfl
    exact ⟨rfl, rfl⟩
  · rcases left with ⟨leftIncludes, leftExtra, _, _⟩
    rcases right with ⟨rightIncludes, rightExtra, _, _⟩
    rintro ⟨sameBlocks, sameExtra⟩
    have sameIncludes : leftIncludes = rightIncludes := by
      funext block
      have member (includes : Block → Bool) :
          block ∈ Block.all.filter includes ↔ includes block = true := by
        simp [Block.mem_all]
      have both := (member leftIncludes).symm.trans
        ((iff_of_eq (congrArg (block ∈ ·) sameBlocks)).trans (member rightIncludes))
      exact Bool.eq_iff_iff.mpr both
    simp only at sameExtra
    subst sameIncludes sameExtra
    rfl

instance : DecidableEq Selector := fun left right =>
  decidable_of_iff _ (ext_iff left right).symm

/-! ## Building selectors -/

def none : Selector := ⟨fun _ => false, [], .nil, nofun⟩

def all : Selector := ⟨fun _ => true, [], .nil, nofun⟩

def insert (selector : Selector) (block : Block) : Selector :=
  { selector with includes := fun other => other = block || selector.includes other }

def erase (selector : Selector) (block : Block) : Selector :=
  { selector with includes := fun other => other ≠ block && selector.includes other }

def unknownNames (names : List String) : List String :=
  firstOccurrences (names.filter fun name => (Block.ofKey? name).isNone)

def ofNames (names : List String) : Selector where
  includes block := names.contains block.key
  extra := unknownNames names
  extra_nodup := firstOccurrences_nodup _
  extra_unknown name member := by
    rw [unknownNames, mem_firstOccurrences, List.mem_filter] at member
    simpa using member.2

/-! ## The wire form -/

def names (selector : Selector) : List String :=
  selector.blocks.map Block.key ++ selector.extra

def toJson (selector : Selector) : Json := .list (selector.names.map .text)

example : (ofNames ["voice", "gestures", "buddy-list", "voice"]).names =
    ["buddy-list", "gestures", "voice"] := by decide +kernel

end Selector

end ViewerLogin
