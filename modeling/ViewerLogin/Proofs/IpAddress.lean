import ViewerLogin.IpAddress
import ViewerLogin.Proofs.Text.Split

/-!
# Addresses read back

The notation of an address reads as that address again. For addresses of eight groups this
rests on the run that is left out being one of zeros, and on the first double colon of the
text being the one that stands for it.
-/

namespace ViewerLogin

namespace IpAddress

/-! ## Four octets -/

theorem octet?_natural (octet : UInt8) : octet? (Decimal.natural octet.toNat) = some octet := by
  have all : ∀ value : Fin 256,
      octet? (Decimal.natural value.val) = some (UInt8.ofNat value.val) := by decide +kernel
  have reads := all ⟨octet.toNat, octet.toNat_lt⟩
  simpa using reads

theorem not_mem_natural {character : Char} (noDigit : character.isDigit = false) (value : Nat) :
    character ∉ Decimal.natural value := by
  intro member
  have digit := Nat.isDigit_of_mem_toDigits (by decide) (by decide) member
  rw [noDigit] at digit
  contradiction

theorem octets?_writeOctets (first second third fourth : UInt8) :
    octets? (writeOctets [first, second, third, fourth]) =
      some [first, second, third, fourth] := by
  have clear : ∀ piece ∈ [first, second, third, fourth].map
      (fun octet => Decimal.natural octet.toNat), '.' ∉ piece := by
    intro piece member
    rcases List.mem_map.mp member with ⟨octet, _, rfl⟩
    exact not_mem_natural (by decide) _
  rw [octets?, writeOctets, Text.split_join (by simp) clear]
  simp [octet?_natural]

theorem octet?_eq_none {characters : List Char} {character : Char}
    (member : character ∈ characters) (noDigit : character.isDigit = false) :
    octet? characters = none := by
  have unreadable : Decimal.readNatural? characters = none := by
    rw [Decimal.readNatural?, if_neg]
    rintro ⟨_, digits⟩
    rw [List.all_eq_true.mp digits character member] at noDigit
    contradiction
  rw [octet?, unreadable]
  split <;> rfl

theorem mapM_octet?_eq_none {pieces : List (List Char)} {piece : List Char}
    (member : piece ∈ pieces) (unreadable : octet? piece = none) :
    pieces.mapM octet? = none := by
  induction pieces with
  | nil => exact absurd member List.not_mem_nil
  | cons head others induction =>
      rw [List.mapM_cons]
      rcases List.mem_cons.mp member with equal | inOthers
      · rw [← equal, unreadable]
        rfl
      · rw [induction inOthers]
        cases octet? head <;> rfl

theorem octets?_eq_none {characters : List Char} (colon : ':' ∈ characters) :
    octets? characters = none := by
  have different : ':' ≠ '.' := by decide
  rcases Text.exists_mem_split colon different with ⟨piece, inPieces, inPiece⟩
  rw [octets?, mapM_octet?_eq_none inPieces (octet?_eq_none inPiece (by decide))]
  rfl

/-! ## Groups -/

theorem readFrom_dropWhile_zero (digits : List Char) :
    Text.Hex.readFrom 0 (digits.dropWhile (· == '0')) = Text.Hex.readFrom 0 digits := by
  induction digits with
  | nil => rfl
  | cons first rest induction =>
      by_cases zero : first = '0'
      · subst zero
        rw [List.dropWhile_cons_of_pos (by decide), induction]
        rfl
      · rw [List.dropWhile_cons_of_neg (by simpa using zero)]

theorem read?_writeGroup (group : UInt16) :
    Text.Hex.read? (writeGroup group) = some group.toNat := by
  have reads := Text.Hex.read?_write 4 group.toNat group.toNat_lt
  rw [Text.Hex.read?, ← readFrom_dropWhile_zero] at reads
  unfold writeGroup
  split
  · next zeros =>
      rw [zeros] at reads
      exact reads
  · exact reads

theorem writeGroup_ne_nil (group : UInt16) : writeGroup group ≠ [] := by
  unfold writeGroup
  split
  · exact List.cons_ne_nil _ _
  · next digits => exact digits

theorem length_writeGroup (group : UInt16) : (writeGroup group).length ≤ 4 := by
  have shorter : ((Text.Hex.write 4 group.toNat).dropWhile (· == '0')).length ≤ 4 := by
    rw [← Text.Hex.length_write 4 group.toNat]
    exact (List.dropWhile_sublist _).length_le
  unfold writeGroup
  split
  · decide
  · exact shorter

theorem colon_not_mem_writeGroup (group : UInt16) : ':' ∉ writeGroup group := by
  have digits (width value : Nat) : ':' ∉ Text.Hex.write width value := by
    induction width generalizing value with
    | zero => exact List.not_mem_nil
    | succ width induction =>
        intro member
        rcases List.mem_append.mp member with inFront | atLast
        · exact induction _ inFront
        · have all : ∀ small : Fin 16, ':' ≠ Text.Hex.digit small.val := by decide
          rw [List.mem_singleton, ← Text.Hex.digit_mod] at atLast
          exact all ⟨value % 16, Nat.mod_lt _ (by decide)⟩ atLast
  unfold writeGroup
  split
  · decide
  · exact fun member => digits 4 group.toNat ((List.dropWhile_sublist _).subset member)

theorem group?_writeGroup (group : UInt16) : group? (writeGroup group) = some group := by
  rw [group?, if_pos ⟨writeGroup_ne_nil group, length_writeGroup group⟩, read?_writeGroup]
  simp

theorem groups?_map_writeGroup (octetsAllowed : Bool) (groups : List UInt16) :
    groups? octetsAllowed (groups.map writeGroup) = some groups := by
  induction groups with
  | nil => rfl
  | cons group rest induction =>
      cases rest with
      | nil =>
          rw [List.map_cons, List.map_nil, groups?, group?_writeGroup]
      | cons next others =>
          rw [List.map_cons, List.map_cons, groups?, group?_writeGroup, Option.bind_some,
            ← List.map_cons, induction]
          · rfl
          · exact fun equal => List.cons_ne_nil _ _ equal

theorem clear_map_writeGroup {groups : List UInt16} {piece : List Char}
    (member : piece ∈ groups.map writeGroup) : ':' ∉ piece ∧ piece ≠ [] := by
  rcases List.mem_map.mp member with ⟨group, _, rfl⟩
  exact ⟨colon_not_mem_writeGroup group, writeGroup_ne_nil group⟩

theorem writeGroups_ne_nil {groups : List UInt16} (nonempty : groups ≠ []) :
    writeGroups groups ≠ [] := by
  match groups with
  | [group] => exact writeGroup_ne_nil group
  | group :: next :: rest =>
      intro equal
      rw [writeGroups, List.map_cons, List.map_cons, Text.join] at equal
      · simp [writeGroup_ne_nil] at equal
      · exact fun equal => List.cons_ne_nil _ _ equal

theorem groupsOf?_writeGroups (octetsAllowed : Bool) (groups : List UInt16) :
    groupsOf? octetsAllowed (writeGroups groups) = some groups := by
  by_cases empty : groups = []
  · subst empty
    rfl
  · rw [groupsOf?, if_neg (writeGroups_ne_nil empty), writeGroups,
      Text.split_join (by simpa using empty) fun piece member => (clear_map_writeGroup member).1,
      groups?_map_writeGroup]

/-! ## The run that is left out -/

def Run.IsZero (run : Run) (groups : List UInt16) : Prop :=
  ∀ index, run.start ≤ index → index < run.start + run.length → groups[index]? = some 0

/-- A run that ends before a zero group grows by it, or starts anew with it. -/
theorem Run.isZero_grow {groups : List UInt16} {current : Run} {index : Nat}
    (currentZero : current.IsZero groups)
    (currentEnds : current.length = 0 ∨ current.start + current.length = index)
    (atIndex : groups[index]? = some 0) :
    let grown : Run :=
      if current.length = 0 then ⟨index, 1⟩ else ⟨current.start, current.length + 1⟩
    grown.IsZero groups ∧ grown.start + grown.length = index + 1 := by
  by_cases fresh : current.length = 0
  · simp only [fresh, if_true]
    refine ⟨fun position low high => ?_, trivial⟩
    simp only at low high
    have equal : position = index := by omega
    rw [equal, atIndex]
  · have ends := currentEnds.resolve_left fresh
    simp only [fresh, if_false]
    refine ⟨fun position low high => ?_, by omega⟩
    simp only at low high
    by_cases last : position = index
    · rw [last, atIndex]
    · exact currentZero position low (by omega)

theorem longestRun_isZero {groups : List UInt16} {current longest : Run}
    {before rest : List UInt16} (whole : groups = before ++ rest)
    (currentZero : current.IsZero groups)
    (currentEnds : current.length = 0 ∨ current.start + current.length = before.length)
    (longestZero : longest.IsZero groups) :
    (longestRun current longest before.length rest).IsZero groups := by
  -- `before` grows by the groups that have been passed: `current` ends where it does.
  induction rest generalizing before current longest with
  | nil => exact longestZero
  | cons group rest induction =>
      have shifted : groups = (before ++ [group]) ++ rest := by
        rw [whole, List.append_assoc]
        rfl
      have next : before.length + 1 = (before ++ [group]).length := by simp
      have atGroup : groups[before.length]? = some group := by
        rw [whole, List.getElem?_append_right (Nat.le_refl _), Nat.sub_self]
        rfl
      rw [longestRun]
      split
      · next isZero =>
          have grown := Run.isZero_grow currentZero currentEnds (isZero ▸ atGroup)
          rw [next]
          refine induction shifted grown.1 (.inr (grown.2.trans next)) ?_
          by_cases longer : longest.length <
              (if current.length = 0 then (⟨before.length, 1⟩ : Run)
                else ⟨current.start, current.length + 1⟩).length
          · rw [if_pos longer]
            exact grown.1
          · rw [if_neg longer]
            exact longestZero
      · rw [next]
        exact induction shifted (fun _ low high => absurd high (Nat.not_lt.mpr low)) (.inl rfl)
          longestZero

theorem take_append_zeros_append_drop {groups : List UInt16} {run : Run}
    (isZero : run.IsZero groups) (positive : 0 < run.length) :
    groups.take run.start ++ List.replicate run.length 0 ++ groups.drop (run.start + run.length) =
        groups ∧
      run.start + run.length ≤ groups.length := by
  have inside : run.start + run.length ≤ groups.length := by
    have last := isZero (run.start + run.length - 1) (by omega) (by omega)
    have bound := (List.getElem?_eq_some_iff.mp last).1
    omega
  have zeros : (groups.drop run.start).take run.length = List.replicate run.length 0 := by
    apply List.ext_getElem?
    intro index
    by_cases small : index < run.length
    · rw [List.getElem?_take_of_lt small, List.getElem?_drop,
        isZero _ (Nat.le_add_right _ _) (by omega), List.getElem?_replicate, if_pos small]
    · rw [List.getElem?_eq_none (by simp; omega), List.getElem?_eq_none (by simp; omega)]
  refine ⟨?_, inside⟩
  rw [← zeros, List.append_assoc, ← List.drop_drop, List.take_append_drop, List.take_append_drop]

theorem eightGroups?_writeCompressed {groups : List UInt16} (size : groups.length = 8) :
    eightGroups? (writeCompressed groups) = some groups := by
  have noRun : Run.IsZero ⟨0, 0⟩ groups := fun _ low high => absurd high (Nat.not_lt.mpr low)
  have isZero : (longestRun ⟨0, 0⟩ ⟨0, 0⟩ 0 groups).IsZero groups :=
    @longestRun_isZero groups _ _ [] groups rfl noRun (.inl rfl) noRun
  unfold writeCompressed
  simp only
  split
  · next long =>
      rcases take_append_zeros_append_drop isZero (by omega) with ⟨whole, inside⟩
      generalize longestRun ⟨0, 0⟩ ⟨0, 0⟩ 0 groups = run at *
      have cut : Text.cutAtPair? ':' ':' (writeGroups (groups.take run.start) ++
          ':' :: ':' :: writeGroups (groups.drop (run.start + run.length))) =
            some (writeGroups (groups.take run.start),
              writeGroups (groups.drop (run.start + run.length))) :=
        (Text.cutAtPair?_join fun _ member => clear_map_writeGroup member).2 _
      have colons : "::".toList = [':', ':'] := by decide
      rw [eightGroups?, colons, List.append_assoc, List.cons_append, List.cons_append,
        List.nil_append, cut]
      simp only [groupsOf?_writeGroups, Option.bind_some]
      have frontSize : (groups.take run.start).length = run.start := by simp; omega
      have backSize : (groups.drop (run.start + run.length)).length =
          8 - run.start - run.length := by simp; omega
      -- As many groups are missing from eight as the run has.
      have missing : 8 - run.start - (8 - run.start - run.length) = run.length := by omega
      rw [frontSize, backSize, missing, if_pos (by omega), whole]
  · have cut : Text.cutAtPair? ':' ':' (writeGroups groups) = none :=
      (Text.cutAtPair?_join fun _ member => clear_map_writeGroup member).1
    rw [eightGroups?, cut]
    exact groupsOf?_writeGroups true groups

theorem colon_mem_writeGroups {groups : List UInt16} (several : 2 ≤ groups.length) :
    ':' ∈ writeGroups groups := by
  match groups with
  | first :: second :: rest =>
      rw [writeGroups, List.map_cons, List.map_cons, Text.join]
      · simp
      · exact fun equal => List.cons_ne_nil _ _ equal

theorem colon_mem_writeCompressed {groups : List UInt16} (several : 2 ≤ groups.length) :
    ':' ∈ writeCompressed groups := by
  unfold writeCompressed
  simp only
  split
  · simp
  · exact colon_mem_writeGroups several

/-! ## Addresses that stand for one of four octets -/

theorem group?_writeOctets (first second third fourth : UInt8) :
    group? (writeOctets [first, second, third, fourth]) = none := by
  have size (octet : UInt8) : 0 < (Decimal.natural octet.toNat).length :=
    Nat.length_toDigits_pos
  have long : 4 < (writeOctets [first, second, third, fourth]).length := by
    have sizes := And.intro (size first) (And.intro (size second) (And.intro (size third)
      (size fourth)))
    simp only [writeOctets, List.map_cons, List.map_nil, Text.join, List.length_append,
      List.length_singleton]
    omega
  rw [group?, if_neg fun both => absurd both.2 (Nat.not_le.mpr long)]

theorem colon_not_mem_writeOctets (octets : List UInt8) : ':' ∉ writeOctets octets := by
  induction octets with
  | nil => exact List.not_mem_nil
  | cons octet rest induction =>
      have clear : ':' ∉ Decimal.natural octet.toNat := not_mem_natural (by decide) _
      cases rest with
      | nil => exact clear
      | cons next others =>
          rw [writeOctets, List.map_cons, List.map_cons, Text.join]
          · simp only [List.mem_append, List.mem_singleton]
            rintro ((inFirst | atDot) | inRest)
            · exact clear inFirst
            · exact absurd atDot (by decide)
            · exact induction inRest
          · exact fun equal => List.cons_ne_nil _ _ equal

theorem ofNat_octets (group : UInt16) :
    UInt16.ofNat ((group / 256).toUInt8.toNat * 256 + group.toUInt8.toNat) = group := by
  apply UInt16.toNat_inj.mp
  have bound := group.toNat_lt
  have high : (group / 256).toUInt8.toNat = group.toNat / 256 % 256 := by
    simp [UInt16.toNat_toUInt8, UInt16.toNat_div]
  have low : group.toUInt8.toNat = group.toNat % 256 := by
    simp [UInt16.toNat_toUInt8]
  rw [high, low, UInt16.toNat_ofNat']
  omega

theorem eightGroups?_mapped (seventh eighth : UInt16) :
    eightGroups? ("::ffff:".toList ++ writeOctets [(seventh / 256).toUInt8, seventh.toUInt8,
        (eighth / 256).toUInt8, eighth.toUInt8]) =
      some [0, 0, 0, 0, 0, 0xFFFF, seventh, eighth] := by
  generalize written : writeOctets [(seventh / 256).toUInt8, seventh.toUInt8,
    (eighth / 256).toUInt8, eighth.toUInt8] = octets
  have noGroup : group? octets = none := written ▸ group?_writeOctets _ _ _ _
  have reads : octets? octets = some [(seventh / 256).toUInt8, seventh.toUInt8,
      (eighth / 256).toUInt8, eighth.toUInt8] := written ▸ octets?_writeOctets _ _ _ _
  have clear : ':' ∉ octets := written ▸ colon_not_mem_writeOctets _
  have spelled : "::ffff:".toList ++ octets =
      ':' :: ':' :: (['f', 'f', 'f', 'f'] ++ ':' :: octets) := by
    have start : "::ffff:".toList = [':', ':', 'f', 'f', 'f', 'f', ':'] := by decide
    rw [start]
    rfl
  have prefixClear : ':' ∉ ['f', 'f', 'f', 'f'] := by decide
  have prefixGroup : group? ['f', 'f', 'f', 'f'] = some 0xFFFF := by decide
  have back : groupsOf? true (['f', 'f', 'f', 'f'] ++ ':' :: octets) =
      some [0xFFFF, seventh, eighth] := by
    rw [groupsOf?, if_neg (by simp), Text.split_append_cons prefixClear,
      Text.split_of_not_mem clear, groups?, prefixGroup, Option.bind_some, groups?, noGroup]
    · simp only [if_true, reads, ofNat_octets]
      rfl
    · exact fun equal => List.cons_ne_nil _ _ equal
  rw [eightGroups?, spelled, Text.cutAtPair?_double]
  simp only [back, Option.bind_some]
  rfl

/-! ## Whole addresses -/

theorem eightGroups?_characters {address : IpAddress}
    {first second third fourth fifth sixth seventh eighth : UInt16}
    (long : address = .v6 first second third fourth fifth sixth seventh eighth) :
    ':' ∈ address.characters ∧ eightGroups? address.characters =
      some [first, second, third, fourth, fifth, sixth, seventh, eighth] := by
  rw [characters.eq_def]
  split
  · cases long
  · cases long
    exact ⟨List.mem_append_left _ (by decide), eightGroups?_mapped _ _⟩
  · cases long
    exact ⟨colon_mem_writeCompressed (by simp), eightGroups?_writeCompressed rfl⟩

theorem parse?_text (address : IpAddress) : parse? address.text = some address := by
  rw [parse?, text, String.toList_ofList, parseCharacters?]
  cases long : address with
  | v4 first second third fourth =>
      have written : (v4 first second third fourth).characters =
        writeOctets [first, second, third, fourth] := rfl
      rw [written, octets?_writeOctets]
  | v6 first second third fourth fifth sixth seventh eighth =>
      have reads := eightGroups?_characters long
      rw [long] at reads
      rw [octets?_eq_none reads.1, reads.2]

end IpAddress

end ViewerLogin
