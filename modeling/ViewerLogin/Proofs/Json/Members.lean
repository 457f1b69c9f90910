import Mathlib.Data.List.Nodup
import ViewerLogin.Json.Basic

/-!
# Members of maps

What a map made from a list of pairs holds, and the order in which it holds it. A key has the
value that the last of its pairs gives, and the keys always ascend.
-/

namespace ViewerLogin

theorem lookup_eq_none_iff_not_mem {Value : Type} {entries : List (String × Value)}
    {key : String} : entries.lookup key = none ↔ key ∉ entries.map Prod.fst := by
  rw [List.lookup_eq_none_iff]
  constructor
  · intro absent member
    rcases List.mem_map.mp member with ⟨entry, inEntries, same⟩
    have different := absent entry inEntries
    simp [same] at different
  · intro absent entry member
    have different : key ≠ entry.1 := fun same =>
      absent (List.mem_map.mpr ⟨entry, member, same.symm⟩)
    simpa using different

namespace Json.Members

/-! ## Looking up -/

theorem lookup_pair (name key : String) (value : Json) :
    [(name, value)].lookup key = if key = name then some value else none :=
  get?_cons [] name key value

theorem get?_foldl_insert (pairs : List (String × Json)) (before : Members) (key : String) :
    get? (pairs.foldl (fun members (name, value) => members.insert name value) before) key =
      (pairs.reverse.lookup key).or (get? before key) := by
  induction pairs generalizing before with
  | nil => rfl
  | cons first rest induction =>
      rcases first with ⟨firstKey, firstValue⟩
      rw [List.foldl_cons, induction, get?_insert, List.reverse_cons, List.lookup_append,
        lookup_pair, Option.or_assoc]
      by_cases equal : key = firstKey <;> simp [equal]

theorem get?_ofList (pairs : List (String × Json)) (key : String) :
    (ofList pairs).get? key = pairs.reverse.lookup key := by
  rw [ofList, get?_foldl_insert, get?_nil, Option.or_none]

theorem get?_ofList_eq_none {pairs : List (String × Json)} {key : String}
    (absent : ∀ value, (key, value) ∉ pairs) : (ofList pairs).get? key = none := by
  rw [get?_ofList, List.lookup_eq_none_iff]
  rintro ⟨name, value⟩ member
  have different : key ≠ name := fun equal =>
    absent value (equal ▸ List.mem_reverse.mp member)
  simpa using different

/-- A key whose pairs all give the same value has that value. -/
theorem get?_ofList_eq_some {pairs : List (String × Json)} {key : String} {value : Json}
    (member : (key, value) ∈ pairs)
    (only : ∀ other, (key, other) ∈ pairs → other = value) :
    (ofList pairs).get? key = some value := by
  rw [get?_ofList]
  cases found : pairs.reverse.lookup key with
  | none =>
      rw [List.lookup_eq_none_iff] at found
      have differs := found (key, value) (List.mem_reverse.mpr member)
      simp at differs
  | some other =>
      rcases List.lookup_eq_some_iff.mp found with ⟨before, after, split, _⟩
      have inPairs : (key, other) ∈ pairs := by
        rw [← List.mem_reverse, split]
        simp
      rw [only other inPairs]

theorem get?_ofList_of_nodup {pairs : List (String × Json)} {key : String} {value : Json}
    (distinct : (pairs.map Prod.fst).Nodup) (member : (key, value) ∈ pairs) :
    (ofList pairs).get? key = some value :=
  get?_ofList_eq_some member fun _ other =>
    (Prod.mk.inj (List.inj_on_of_nodup_map distinct other member rfl)).2

/-! ## Order -/

def Ascending (members : Members) : Prop :=
  members.Pairwise fun left right => left.1 < right.1

theorem ascending_nil : Ascending [] := .nil

theorem mem_insert {members : Members} {key : String} {value : Json} {entry : String × Json}
    (member : entry ∈ insert members key value) : entry = (key, value) ∨ entry ∈ members := by
  induction members with
  | nil => exact .inl (List.mem_singleton.mp member)
  | cons first rest induction =>
      unfold insert at member
      split at member
      · rcases List.mem_cons.mp member with equal | inside
        · exact .inl equal
        · exact .inr inside
      · split at member
        · rcases List.mem_cons.mp member with equal | inside
          · exact .inl equal
          · exact .inr (List.mem_cons_of_mem _ inside)
        · rcases List.mem_cons.mp member with equal | inside
          · exact .inr (equal ▸ List.mem_cons_self)
          · rcases induction inside with equal | inside
            · exact .inl equal
            · exact .inr (List.mem_cons_of_mem _ inside)

theorem lt_of_not_lt {left right : String} (notLess : ¬left < right) (different : left ≠ right) :
    right < left :=
  String.not_le.mp fun le => different (String.le_antisymm le (String.not_lt.mp notLess))

theorem ascending_insert {members : Members} (ascending : Ascending members) (key : String)
    (value : Json) : Ascending (insert members key value) := by
  induction members with
  | nil => exact List.pairwise_singleton _ _
  | cons first rest induction =>
      rcases first with ⟨firstKey, firstValue⟩
      rcases List.pairwise_cons.mp ascending with ⟨below, restAscending⟩
      unfold insert
      split
      · next smaller =>
          refine List.pairwise_cons.mpr ⟨?_, ascending⟩
          intro entry member
          rcases List.mem_cons.mp member with equal | inside
          · rw [equal]
            exact smaller
          · exact String.lt_trans smaller (below entry inside)
      · split
        · next equal =>
            subst equal
            exact List.pairwise_cons.mpr ⟨below, restAscending⟩
        · next notSmaller different =>
            refine List.pairwise_cons.mpr ⟨?_, induction restAscending⟩
            intro entry member
            rcases mem_insert member with equal | inside
            · rw [equal]
              exact lt_of_not_lt notSmaller different
            · exact below entry inside

theorem ascending_foldl_insert (pairs : List (String × Json)) {before : Members}
    (ascending : Ascending before) :
    Ascending
      (pairs.foldl (fun members (key, value) => Members.insert members key value) before) := by
  induction pairs generalizing before with
  | nil => exact ascending
  | cons first rest induction => exact induction (ascending_insert ascending first.1 first.2)

theorem ascending_ofList (pairs : List (String × Json)) : Ascending (ofList pairs) :=
  ascending_foldl_insert pairs ascending_nil

theorem mem_foldl_insert {pairs : List (String × Json)} {before : Members}
    {entry : String × Json}
    (member : entry ∈
      pairs.foldl (fun members (key, value) => Members.insert members key value) before) :
    entry ∈ before ∨ entry ∈ pairs := by
  induction pairs generalizing before with
  | nil => exact .inl member
  | cons first rest induction =>
      rcases induction member with inBefore | inRest
      · rcases mem_insert inBefore with equal | inBefore
        · exact .inr (equal ▸ List.mem_cons_self)
        · exact .inl inBefore
      · exact .inr (List.mem_cons_of_mem _ inRest)

theorem mem_ofList {pairs : List (String × Json)} {entry : String × Json}
    (member : entry ∈ ofList pairs) : entry ∈ pairs := by
  rcases mem_foldl_insert member with inside | inside
  · exact absurd inside List.not_mem_nil
  · exact inside

theorem insert_of_above {members : Members} {key : String} (value : Json)
    (above : ∀ entry ∈ members, entry.1 < key) :
    insert members key value = members ++ [(key, value)] := by
  induction members with
  | nil => rfl
  | cons first rest induction =>
      have firstBelow := above first List.mem_cons_self
      have notBelow : ¬key < first.1 := String.lt_asymm firstBelow
      have different : key ≠ first.1 := fun equal =>
        String.lt_irrefl key (by rw [equal] at firstBelow ⊢; exact firstBelow)
      rw [insert, if_neg notBelow, if_neg different,
        induction fun entry member => above entry (List.mem_cons_of_mem _ member)]
      rfl

/-! ## Maps that hold the same -/

theorem nodup_keys {members : Members} (ascending : Ascending members) :
    (members.map Prod.fst).Nodup :=
  ascending.map Prod.fst fun _ _ below same => String.lt_irrefl _ (same ▸ below)

theorem get?_eq_some_iff {members : Members} (ascending : Ascending members) {key : String}
    {value : Json} : members.get? key = some value ↔ (key, value) ∈ members := by
  rw [get?, List.lookup_eq_some_iff]
  constructor
  · rintro ⟨before, after, split, _⟩
    rw [split]
    exact List.mem_append_right _ List.mem_cons_self
  · intro member
    rcases List.append_of_mem member with ⟨before, after, split⟩
    refine ⟨before, after, split, fun entry inBefore => ?_⟩
    have below : entry.1 < key := by
      rw [split] at ascending
      exact (List.pairwise_append.mp ascending).2.2 entry inBefore (key, value)
        List.mem_cons_self
    have different : key ≠ entry.1 := fun same => String.lt_irrefl _ (same ▸ below)
    simpa using different

/-- Maps in order are equal when they have the same value at every key. -/
theorem ext {left right : Members} (leftAscending : Ascending left)
    (rightAscending : Ascending right) (same : ∀ key, left.get? key = right.get? key) :
    left = right := by
  have members (entry : String × Json) : entry ∈ left ↔ entry ∈ right := by
    rw [← get?_eq_some_iff leftAscending, same, get?_eq_some_iff rightAscending]
  have permutation : left.Perm right :=
    (List.perm_ext_iff_of_nodup (nodup_keys leftAscending).of_map
      (nodup_keys rightAscending).of_map).mpr members
  refine permutation.eq_of_pairwise (fun first second _ _ below above => ?_) leftAscending
    rightAscending
  exact absurd (String.lt_trans below above) (String.lt_irrefl _)

theorem mem_keys_iff {members : Members} {key : String} :
    key ∈ members.map Prod.fst ↔ ∃ value, members.get? key = some value := by
  rw [get?, ← Option.isSome_iff_exists, ← not_iff_not, Option.not_isSome_iff_eq_none,
    lookup_eq_none_iff_not_mem]

/-- Maps in order that have the same keys list them alike. -/
theorem keys_eq {left right : Members} (leftAscending : Ascending left)
    (rightAscending : Ascending right)
    (same : ∀ key, key ∈ left.map Prod.fst ↔ key ∈ right.map Prod.fst) :
    left.map Prod.fst = right.map Prod.fst := by
  have permutation : (left.map Prod.fst).Perm (right.map Prod.fst) :=
    (List.perm_ext_iff_of_nodup (nodup_keys leftAscending) (nodup_keys rightAscending)).mpr same
  apply permutation.eq_of_pairwise _ (List.pairwise_map.mpr leftAscending)
    (List.pairwise_map.mpr rightAscending)
  intro first second _ _ below above
  exact absurd (String.lt_trans below above) (String.lt_irrefl _)

/-! ## Some of the keys -/

theorem ascending_filter {members : Members} (ascending : Ascending members)
    (keep : String × Json → Bool) : Ascending (members.filter keep) :=
  List.Pairwise.filter keep ascending

theorem get?_filter_key (members : Members) (keep : String → Bool) (key : String) :
    get? (members.filter fun entry => keep entry.1) key =
      if keep key then members.get? key else none := by
  induction members with
  | nil => exact (ite_self none).symm
  | cons first rest induction =>
      obtain ⟨firstKey, firstValue⟩ := first
      rw [List.filter_cons, get?_cons]
      by_cases atFirst : key = firstKey
      · subst atFirst
        rw [if_pos rfl]
        split
        · rw [get?_cons, if_pos rfl]
        · next dropped => rw [induction, if_neg dropped]
      · rw [if_neg atFirst, ← induction]
        split
        · rw [get?_cons, if_neg atFirst]
        · rfl

end Json.Members

end ViewerLogin
