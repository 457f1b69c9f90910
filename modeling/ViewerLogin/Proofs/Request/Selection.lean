import ViewerLogin.Proofs.Request
import ViewerLogin.Proofs.Response.Keys

/-!
# Selectors along a run

A selector starts out with no block, with all of them or as a list of names asks for. Then
blocks are taken in and left out, and the selector may be written and read again in between.
What is said last of a block counts; the names that are no keys of blocks are never touched.
-/

namespace ViewerLogin

/-! ## First occurrences -/

theorem firstOccurrences_filter (keep : String → Bool) (names : List String) :
    firstOccurrences (names.filter keep) = (firstOccurrences names).filter keep := by
  induction names with
  | nil => rfl
  | cons name rest induction =>
      rw [List.filter_cons, firstOccurrences, List.filter_cons]
      split
      · rw [firstOccurrences, induction, List.filter_filter, List.filter_filter]
        simp only [Bool.and_comm]
      · next dropped =>
          rw [induction, List.filter_filter]
          apply List.filter_congr
          intro other _
          by_cases same : other = name
          · simp [same, dropped]
          · simp [same]

theorem pairwise_firstOccurrences (names : List String) :
    (firstOccurrences names).Pairwise fun left right => names.idxOf left < names.idxOf right := by
  induction names with
  | nil => exact .nil
  | cons name rest induction =>
      have later {other : String} (different : other ≠ name) :
          (name :: rest).idxOf other = rest.idxOf other + 1 :=
        List.idxOf_cons_ne rest different.symm
      have filtered {other : String}
          (member : other ∈ (firstOccurrences rest).filter (· ≠ name)) : other ≠ name := by
        simpa using (List.mem_filter.mp member).2
      apply List.Pairwise.cons
      · intro other member
        rw [List.idxOf_cons_self, later (filtered member)]
        exact Nat.succ_pos _
      · apply (induction.filter _).imp_of_mem
        intro left right leftMember rightMember before
        rw [later (filtered leftMember), later (filtered rightMember)]
        exact Nat.succ_lt_succ before

namespace Selector

structure ListsUnknown (names extra : List String) : Prop where
  mem_iff : ∀ name, name ∈ extra ↔ name ∈ names ∧ ∀ block : Block, block.key ≠ name
  ordered : extra.Pairwise fun left right => names.idxOf left < names.idxOf right

theorem isNone_ofKey?_iff {name : String} :
    (Block.ofKey? name).isNone = true ↔ ∀ block : Block, block.key ≠ name := by
  rw [Option.isNone_iff_eq_none]
  constructor
  · intro unknown block same
    rw [← same, Block.ofKey?_key] at unknown
    contradiction
  · intro unknown
    rw [Option.eq_none_iff_forall_ne_some]
    exact fun block found => unknown block (Block.key_of_ofKey? found)

theorem listsUnknown_unknownNames (names : List String) :
    ListsUnknown names (unknownNames names) where
  mem_iff name := by
    rw [unknownNames, mem_firstOccurrences, List.mem_filter, isNone_ofKey?_iff]
  ordered := by
    rw [unknownNames, firstOccurrences_filter]
    exact (pairwise_firstOccurrences names).filter _

theorem nodup_names (selector : Selector) : selector.names.Nodup := by
  have keysDistinct : (selector.blocks.map Block.key).Nodup :=
    (Block.nodup_all.filter _).map Block.key_injective
  apply keysDistinct.append selector.extra_nodup
  intro name inBlocks inExtra
  obtain ⟨block, _, same⟩ := List.mem_map.mp inBlocks
  have unknown := selector.extra_unknown name inExtra
  rw [← same, Block.ofKey?_key] at unknown
  contradiction

/-! ## Starting -/

inductive Start where
  | none
  | all
  | listed (names : List String)

namespace Start

def selector : Start → Selector
  | .none => .none
  | .all => .all
  | .listed names => .ofNames names

def names : Start → List String
  | .none | .all => []
  | .listed names => names

def asks : Start → Block → Bool
  | .none, _ => false
  | .all, _ => true
  | .listed names, block => block.key ∈ names

theorem includes_selector (start : Start) (block : Block) :
    start.selector.includes block = start.asks block := by
  cases start with
  | none | all => rfl
  | listed names => exact Bool.eq_iff_iff.mpr (by simp [selector, ofNames, asks])

theorem listsUnknown_selector (start : Start) :
    ListsUnknown start.names start.selector.extra := by
  cases start with
  | none | all => exact ⟨fun name => by simp [selector, Selector.none, Selector.all, names], .nil⟩
  | listed names => exact listsUnknown_unknownNames names

end Start

/-! ## Steps -/

inductive Step where
  | insert (block : Block)
  | erase (block : Block)
  | rebuild

def step (selector : Selector) : Step → Selector
  | .insert block => selector.insert block
  | .erase block => selector.erase block
  | .rebuild => .ofNames selector.names

def Step.word? (block : Block) : Step → Option Bool
  | .insert other => if block = other then some true else .none
  | .erase other => if block = other then some false else .none
  | .rebuild => .none

theorem includes_step (selector : Selector) (step : Step) (block : Block) :
    (selector.step step).includes block = (step.word? block).getD (selector.includes block) := by
  cases step with
  | insert other =>
      by_cases same : block = other <;> simp [Selector.step, insert, Step.word?, same]
  | erase other =>
      by_cases same : block = other <;> simp [Selector.step, erase, Step.word?, same]
  | rebuild => rw [Selector.step, ofNames_names, Step.word?, Option.getD_none]

theorem extra_step (selector : Selector) (step : Step) :
    (selector.step step).extra = selector.extra := by
  cases step with
  | insert | erase => rfl
  | rebuild => rw [Selector.step, ofNames_names]

/-! ## Runs -/

def run (selector : Selector) (steps : List Step) : Selector := steps.foldl step selector

def lastWord? (block : Block) (steps : List Step) : Option Bool :=
  (steps.filterMap (Step.word? block)).getLast?

theorem getD_lastWord?_cons (block : Block) (first : Step) (rest : List Step) (otherwise : Bool) :
    (lastWord? block (first :: rest)).getD otherwise =
      (lastWord? block rest).getD ((first.word? block).getD otherwise) := by
  rw [lastWord?, lastWord?, List.filterMap_cons]
  cases first.word? block with
  | none => rfl
  | some word => rw [List.getLast?_cons, Option.getD_some, Option.getD_some]

theorem includes_run (selector : Selector) (steps : List Step) (block : Block) :
    (selector.run steps).includes block =
      (lastWord? block steps).getD (selector.includes block) := by
  induction steps generalizing selector with
  | nil => rfl
  | cons first rest induction =>
      rw [getD_lastWord?_cons, ← includes_step]
      exact induction (selector.step first)

theorem extra_run (selector : Selector) (steps : List Step) :
    (selector.run steps).extra = selector.extra := by
  induction steps generalizing selector with
  | nil => rfl
  | cons first rest induction =>
      rw [← extra_step selector first]
      exact induction (selector.step first)

/-- After every run a selector includes what was said last, or else what the start asked for,
and has the unknown names of the start; it is written with the key of each included block once,
in the order of the blocks, and then these names, and reads as itself again. So a list of names
that was read and written once is in its normal form. -/
theorem run_selects (start : Start) (steps : List Step) :
    let selector := start.selector.run steps
    let written := (Block.all.filter selector.includes).map Block.key ++ selector.extra
    (∀ block, selector.includes block = (lastWord? block steps).getD (start.asks block)) ∧
    ListsUnknown start.names selector.extra ∧
    selector.toJson = .list (written.map .text) ∧
    written.Nodup ∧ (∀ block : Block, block.key ∈ written ↔ selector.includes block = true) ∧
    ofNames written = selector ∧
    ∀ names : List String, (ofNames (ofNames names).names).names = (ofNames names).names := by
  intro selector written
  refine ⟨?_, ?_, rfl, selector.nodup_names, fun _ => key_mem_names, ofNames_names selector, ?_⟩
  · intro block
    rw [← Start.includes_selector]
    exact includes_run start.selector steps block
  · rw [extra_run]
    exact start.listsUnknown_selector
  · intro names
    rw [ofNames_names]

example :
    ((Start.listed ["voice", "gestures", "voice", "ui-config"]).selector.run
      [.erase .gestures, .rebuild, .insert .buddies, .insert .gestures, .erase .viewerSettings]
      ).names = ["buddy-list", "gestures", "voice"] := by
  decide +kernel

end Selector

end ViewerLogin
