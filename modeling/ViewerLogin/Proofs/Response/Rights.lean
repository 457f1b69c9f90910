import ViewerLogin.Proofs.Response.Integers

/-!
# Rights in a response

An entry of the friends list grants rights by the bits of two integers. Of an integer below 32
bits each right is read from a bit of its own: higher bits do not matter, and joined or shared
bits give joined or shared rights.
-/

namespace ViewerLogin

open Wire (Codec Record Spells)

/-! ## Rights as sets of bits -/

namespace Rights

@[simp] theorem has_ofPredicate (granted : Right → Bool) (right : Right) :
    (ofPredicate granted).has right = granted right := by
  cases right <;> rfl

@[simp] theorem has_ofBits (value : Nat) (right : Right) :
    (ofBits value).has right = value.testBit right.bit :=
  has_ofPredicate _ right

theorem ext_has {left right : Rights} (same : ∀ each, left.has each = right.has each) :
    left = right :=
  calc
    left = ofPredicate left.has := rfl
    _ = ofPredicate right.has := by rw [funext same]
    _ = right := rfl

theorem ofBits_mod (value : Nat) : ofBits (value % 8) = ofBits value := by
  apply ext_has
  intro each
  have low : each.bit < 3 := by cases each <;> decide
  have masked : (value % 8).testBit each.bit =
      (decide (each.bit < 3) && value.testBit each.bit) :=
    Nat.testBit_mod_two_pow value 3 each.bit
  rw [has_ofBits, has_ofBits, masked, decide_eq_true low, Bool.true_and]

theorem ofBits_or (left right : Nat) :
    ofBits (left ||| right) = (ofBits left).union (ofBits right) := by
  apply ext_has
  intro each
  rw [union, has_ofPredicate, has_ofBits, has_ofBits, has_ofBits, Nat.testBit_or]

theorem ofBits_and (left right : Nat) :
    ofBits (left &&& right) = (ofBits left).common (ofBits right) := by
  apply ext_has
  intro each
  rw [common, has_ofPredicate, has_ofBits, has_ofBits, has_ofBits, Nat.testBit_and]

end Rights

theorem Buddy.read_rights {value : Json} {number : Nat} (spells : Spells value number)
    (narrow : number < 0x100000000) (key : String) :
    rights.read key (some value) = .ok (Rights.ofBits number) := by
  obtain ⟨granted, isRead, shows⟩ := (takesIntegers_rights key).fits spells (by omega) (by omega)
  rw [isRead, shows (by omega), Int.toNat_natCast]

/-! ## One entry of a block -/

/-- In a map that can be read, another map in place of one record of a block gives that block
another record there. -/
theorem Response.ofMembers_insert_entry {α : Type} {field : Field} {record : Record α}
    {recordAt? : field.Value → Nat → Option α} {keepsAll : Bool}
    (holds : field.codec.HoldsRecords record recordAt? keepsAll) {members entry : Json.Members}
    {position : Wire.Position} {base : Response}
    (valid : ofMembers (members.insert field.key (position.enclose entry)) = .ok base) :
    ∃ value, record.read entry = .ok value ∧
      ∃ settle : α → Response,
        (∀ other, ofMembers (members.insert field.key (position.enclose other)) =
          (record.read other).map settle) ∧
        ∀ other, keepsAll = true ∨ position.index = 0 →
          recordAt? ((settle other).value field) position.index = some other := by
  have blockValid : field.codec.read field.key (some (position.enclose entry)) =
      .ok (base.value field) :=
    (readField_insert_same members field _).symm.trans (ofMembers_eq_ok_iff.mp valid field)
  obtain ⟨place, reads, kept⟩ := holds _ _ _ _ blockValid
  obtain ⟨value, entryRead, _⟩ := Wire.map_eq_ok_iff.mp ((reads entry).symm.trans blockValid)
  refine ⟨value, entryRead, fun other => base.set field (place other), ?_, ?_⟩
  · intro other
    rw [ofMembers_insert valid, reads, Wire.map_map]
  · intro other keeps
    rw [value_set_same]
    exact kept other keeps

/-! ## Rights at their places -/

namespace IntegerPlace

def rightsOf? : IntegerPlace → Buddy → Option Rights
  | .given, buddy => some buddy.given
  | .has, buddy => some buddy.has
  | _, _ => none

def Grants (place : IntegerPlace) (around : Surroundings) (value : Json) (rights : Rights) : Prop :=
  ∃ response, Response.ofMembers (place.put around value) = .ok response ∧
    response.buddies[around.position.index]?.bind place.rightsOf? = some rights

variable {place : IntegerPlace}

theorem put_of_isRights (isRights : place.IsRights) (around : Surroundings) (value : Json) :
    place.put around value = around.members.insert (Field.block .buddies).key
      (around.position.enclose (around.entry.insert place.key value)) := by
  rcases isRights with rfl | rfl <;> rfl

theorem exists_change (isRights : place.IsRights) {entry : Json.Members} {before : Json}
    {base : Buddy} (valid : Buddy.record.read (entry.insert place.key before) = .ok base) :
    ∃ change : Rights → Buddy,
      (∀ value, Buddy.record.read (entry.insert place.key value) =
        (Buddy.rights.read place.key (some value)).map change) ∧
      ∀ rights, place.rightsOf? (change rights) = some rights := by
  rcases isRights with rfl | rfl
  · exact ⟨fun given => { base with given }, Buddy.replaces_given _ _ _ valid, fun _ => rfl⟩
  · exact ⟨fun has => { base with has }, Buddy.replaces_has _ _ _ valid, fun _ => rfl⟩

theorem exists_settle (isRights : place.IsRights) {around : Surroundings} {before : Json}
    {base : Response} (valid : Response.ofMembers (place.put around before) = .ok base) :
    ∃ settle : Rights → Response,
      (∀ value, Response.ofMembers (place.put around value) =
        (Buddy.rights.read place.key (some value)).map settle) ∧
      ∀ rights, (settle rights).buddies[around.position.index]?.bind place.rightsOf? =
        some rights := by
  have holds : (Field.block .buddies).codec.HoldsRecords Buddy.record
      (fun buddies index => buddies[index]?) true := Codec.holdsRecords_listOf Buddy.record
  rw [put_of_isRights isRights] at valid
  obtain ⟨buddy, entryRead, settle, reads, kept⟩ := Response.ofMembers_insert_entry holds valid
  obtain ⟨change, changes, changed⟩ := exists_change isRights entryRead
  refine ⟨fun rights => settle (change rights), ?_, ?_⟩
  · intro value
    rw [put_of_isRights isRights, reads, changes, Wire.map_map]
  · intro rights
    have entry : (settle (change rights)).buddies[around.position.index]? =
        some (change rights) := kept (change rights) (.inl rfl)
    rw [entry, Option.bind_some, changed]

/-- Where the rest of a map can be read, rights below 32 bits are granted one by one by the three
low bits of an integer, as number or as text. An integer with the same low bits makes the same
response, and joined or shared bits grant joined or shared rights. -/
theorem grants_put (isRights : place.IsRights) {around : Surroundings} {before : Json}
    {base : Response} (valid : Response.ofMembers (place.put around before) = .ok base) :
    (∀ (value : Json) (number : Nat), number < 0x100000000 → Spells value number →
      (∃ rights, place.Grants around value rights ∧
        ∀ right, rights.has right = number.testBit right.bit) ∧
      ∀ low, Spells low (number % 8 : Nat) →
        Response.ofMembers (place.put around low) = Response.ofMembers (place.put around value)) ∧
    ∀ (first second joined shared : Json) (left right : Nat),
      left < 0x100000000 → right < 0x100000000 → Spells first left → Spells second right →
      Spells joined (left ||| right : Nat) → Spells shared (left &&& right : Nat) →
      ∃ ofFirst ofSecond, place.Grants around first ofFirst ∧ place.Grants around second ofSecond ∧
        place.Grants around joined (ofFirst.union ofSecond) ∧
        place.Grants around shared (ofFirst.common ofSecond) := by
  obtain ⟨settle, reads, settled⟩ := exists_settle isRights valid
  have put_eq {value : Json} {number : Nat} (spells : Spells value number)
      (narrow : number < 0x100000000) :
      Response.ofMembers (place.put around value) = .ok (settle (Rights.ofBits number)) := by
    rw [reads, Buddy.read_rights spells narrow]
    rfl
  have grants {value : Json} {number : Nat} (spells : Spells value number)
      (narrow : number < 0x100000000) : place.Grants around value (Rights.ofBits number) :=
    ⟨_, put_eq spells narrow, settled _⟩
  constructor
  · intro value number narrow spells
    refine ⟨⟨_, grants spells narrow, Rights.has_ofBits number⟩, ?_⟩
    intro low lowSpells
    rw [put_eq spells narrow, put_eq lowSpells (by omega), Rights.ofBits_mod]
  · intro first second joined shared left right leftNarrow rightNarrow firstSpells secondSpells
      joinedSpells sharedSpells
    have joinedNarrow : left ||| right < 0x100000000 :=
      Nat.or_lt_two_pow (n := 32) leftNarrow rightNarrow
    have sharedNarrow : left &&& right < 0x100000000 :=
      Nat.lt_of_le_of_lt Nat.and_le_left leftNarrow
    refine ⟨_, _, grants firstSpells leftNarrow, grants secondSpells rightNarrow, ?_, ?_⟩
    · rw [← Rights.ofBits_or]
      exact grants joinedSpells joinedNarrow
    · rw [← Rights.ofBits_and]
      exact grants sharedSpells sharedNarrow

theorem grants_put_soleFriend :
    IsRights .has ∧ (∃ base, Response.ofMembers (put .has soleFriend .null) = .ok base) ∧
      (∃ rights, Grants .has soleFriend (.text " +0253 ") rights ∧
        ∀ right, rights.has right = Nat.testBit 253 right.bit) ∧
      Response.ofMembers (put .has soleFriend (.ofNat 5)) =
        Response.ofMembers (put .has soleFriend (.text " +0253 ")) ∧
      ∃ ofFirst ofSecond, Grants .has soleFriend (.text " +0253 ") ofFirst ∧
        Grants .has soleFriend (.ofNat 10) ofSecond ∧
        Grants .has soleFriend (.ofNat 255) (ofFirst.union ofSecond) ∧
        Grants .has soleFriend (.ofNat 8) (ofFirst.common ofSecond) := by
  have isRights : IsRights .has := .inr rfl
  have readable : (Response.ofMembers (put .has soleFriend .null)).map (fun _ => ()) =
      .ok () := by decide +kernel
  obtain ⟨base, valid, _⟩ := Wire.map_eq_ok_iff.mp readable
  have padded : Spells (.text " +0253 ") (253 : Nat) :=
    Wire.integer?_eq_some_iff.mp (by decide +kernel)
  obtain ⟨single, paired⟩ := grants_put isRights valid
  obtain ⟨granted, low⟩ := single _ 253 (by decide) padded
  refine ⟨isRights, ⟨base, valid⟩, granted, low _ (.number 5), ?_⟩
  exact paired _ _ _ _ 253 10 (by decide) (by decide) padded (.number 10) (.number 255) (.number 8)

/-- From 32 bits on an integer grants nothing, whatever its low bits are. -/
theorem grants_none_wide :
    (4294967301 : Int) < limit .has ∧ Spells (.text "4294967301") (4294967301 : Nat) ∧
      Nat.testBit 4294967301 Right.seeOnline.bit = true ∧
      (∃ response,
        Response.ofMembers (put .has soleFriend (.text "4294967301")) = .ok response ∧
        response.buddies.map (fun buddy => buddy.has.has .seeOnline) = [false]) ∧
      4294967301 % 8 = 5 ∧
      Response.ofMembers (put .has soleFriend (.ofNat 5)) ≠
        Response.ofMembers (put .has soleFriend (.text "4294967301")) := by
  have spells : Spells (.text "4294967301") (4294967301 : Nat) :=
    Wire.integer?_eq_some_iff.mp (by decide +kernel)
  have withheld : (Response.ofMembers (put .has soleFriend (.text "4294967301"))).map
      (fun response => response.buddies.map fun buddy => buddy.has.has .seeOnline) =
        .ok [false] := by decide +kernel
  obtain ⟨response, read, nothing⟩ := Wire.map_eq_ok_iff.mp withheld
  exact ⟨by decide, spells, by decide, ⟨response, read, nothing⟩, by decide, by decide +kernel⟩

end IntegerPlace

end ViewerLogin
