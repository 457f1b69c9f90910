import ViewerLogin.Json.Reader
import ViewerLogin.Proofs.Json.Nesting

/-!
# What trees mean

How a tree is spelled is one thing and what it means another: pieces mean characters, and a tree
means a value, in which a map has the last of the values given for a key. Not every tree means
something. The reader gives a value exactly where a tree means it.
-/

namespace ViewerLogin

namespace Piece

/-! ## Strings -/

inductive Means : List Piece → List Char → Prop where
  | nil : Means [] []
  | symbol {character : Char} {pieces : List Piece} {characters : List Char}
      (others : Means pieces characters) :
      Means (.symbol (some character) :: pieces) (character :: characters)
  | unit {value : Nat} {pieces : List Piece} {characters : List Char}
      (notLeading : isLeading value = false) (notTrailing : isTrailing value = false)
      (others : Means pieces characters) :
      Means (.unit value :: pieces) (Char.ofNat value :: characters)
  | pair {leading trailing : Nat} {pieces : List Piece} {characters : List Char}
      (leads : isLeading leading = true) (trails : isTrailing trailing = true)
      (others : Means pieces characters) :
      Means (.unit leading :: .unit trailing :: pieces) (joined leading trailing :: characters)

theorem characters?_unit {value : Nat} (notLeading : isLeading value = false)
    (notTrailing : isTrailing value = false) (rest : List Piece) :
    characters? (.unit value :: rest) = (characters? rest).map (Char.ofNat value :: ·) := by
  cases rest with
  | nil => simp [characters?, notLeading, notTrailing]
  | cons next others =>
      cases next with
      | symbol symbol => simp [characters?, notLeading, notTrailing]
      | unit trailing => simp [characters?, notLeading, notTrailing]

theorem characters?_eq_some_iff {pieces : List Piece} {characters : List Char} :
    characters? pieces = some characters ↔ Means pieces characters := by
  constructor
  · intro read
    -- What a unit means depends on the piece after it, so the cases are those of the recursion.
    fun_induction characters? pieces generalizing characters with
    | case1 =>
        cases read
        exact .nil
    | case2 => contradiction
    | case3 character rest induction =>
        rcases Option.map_eq_some_iff.mp read with ⟨others, found, rfl⟩
        exact .symbol (induction found)
    | case4 leading trailing rest paired induction =>
        rcases Option.map_eq_some_iff.mp read with ⟨others, found, rfl⟩
        exact .pair paired.1 paired.2 (induction found)
    | case5 => contradiction
    | case6 leading trailing rest _ single induction =>
        rcases Option.map_eq_some_iff.mp read with ⟨others, found, rfl⟩
        rcases not_or.mp single with ⟨notLeading, notTrailing⟩
        exact .unit (Bool.eq_false_iff.mpr notLeading) (Bool.eq_false_iff.mpr notTrailing)
          (induction found)
    | case7 => contradiction
    | case8 value rest _ single induction =>
        rcases Option.map_eq_some_iff.mp read with ⟨others, found, rfl⟩
        rcases not_or.mp single with ⟨notLeading, notTrailing⟩
        exact .unit (Bool.eq_false_iff.mpr notLeading) (Bool.eq_false_iff.mpr notTrailing)
          (induction found)
  · intro means
    induction means with
    | nil => rfl
    | symbol _ induction =>
        rw [characters?, induction]
        rfl
    | unit notLeading notTrailing _ induction =>
        rw [characters?_unit notLeading notTrailing, induction]
        rfl
    | pair leads trails _ induction =>
        rw [characters?, if_pos ⟨leads, trails⟩, induction]
        rfl

theorem text?_eq_some_iff {pieces : List Piece} {text : String} :
    text? pieces = some text ↔ Means pieces text.toList := by
  rw [text?, Option.map_eq_some_iff, ← characters?_eq_some_iff]
  constructor
  · rintro ⟨characters, read, rfl⟩
    rw [read, String.toList_ofList]
  · intro read
    exact ⟨text.toList, read, String.ofList_toList⟩

end Piece

namespace Tree

/-! ## Values -/

structure Entry where
  key : List Piece
  name : String
  tree : Tree
  value : Json

def Entry.member (entry : Entry) : List Piece × Tree := (entry.key, entry.tree)

def Entry.pair (entry : Entry) : String × Json := (entry.name, entry.value)

inductive Means : Nat → Tree → Json → Prop where
  | null {depth : Nat} : Means depth .null .null
  | truth {depth : Nat} (value : Bool) : Means depth (.truth value) (.truth value)
  | numeral {depth : Nat} {spelled : Numeral} {number : Number}
      (value : spelled.number? = some number) : Means depth (.numeral spelled) (.number number)
  | text {depth : Nat} {pieces : List Piece} {text : String}
      (meaning : Piece.Means pieces text.toList) : Means depth (.text pieces) (.text text)
  | list {depth : Nat} {items : List (Tree × Json)}
      (each : ∀ item ∈ items, Means depth item.1 item.2) :
      Means (depth + 1) (.list (items.map Prod.fst)) (.list (items.map Prod.snd))
  | map {depth : Nat} {entries : List Entry}
      (keys : ∀ entry ∈ entries, Piece.Means entry.key entry.name.toList)
      (each : ∀ entry ∈ entries, Means depth entry.tree entry.value) :
      Means (depth + 1) (.map (entries.map Entry.member)) (Json.object (entries.map Entry.pair))

end Tree

namespace Json

variable {depth : Nat}

theorem itemsOfTrees?_eq_some_iff {trees : List Tree} {values : List Json} :
    itemsOfTrees? depth trees = some values ↔
      ∃ items : List (Tree × Json), trees = items.map Prod.fst ∧ values = items.map Prod.snd ∧
        ∀ item ∈ items, ofTree? depth item.1 = some item.2 := by
  constructor
  · intro read
    induction trees generalizing values with
    | nil =>
        cases read
        exact ⟨[], rfl, rfl, List.forall_mem_nil _⟩
    | cons first others induction =>
        rw [itemsOfTrees?, Option.bind_eq_some_iff] at read
        rcases read with ⟨value, firstRead, read⟩
        rcases Option.map_eq_some_iff.mp read with ⟨others, othersRead, rfl⟩
        rcases induction othersRead with ⟨items, rfl, rfl, each⟩
        exact ⟨(first, value) :: items, rfl, rfl, List.forall_mem_cons.mpr ⟨firstRead, each⟩⟩
  · rintro ⟨items, rfl, rfl, each⟩
    induction items with
    | nil => rfl
    | cons first others induction =>
        rcases List.forall_mem_cons.mp each with ⟨firstRead, othersRead⟩
        rw [List.map_cons, itemsOfTrees?, firstRead, Option.bind_some, induction othersRead]
        rfl

theorem membersOfTrees?_eq_some_iff {before after : Members}
    {members : List (List Piece × Tree)} :
    membersOfTrees? depth before members = some after ↔
      ∃ entries : List Tree.Entry, members = entries.map Tree.Entry.member ∧
        after = (entries.map Tree.Entry.pair).foldl
          (fun members (key, value) => members.insert key value) before ∧
        ∀ entry ∈ entries, Piece.text? entry.key = some entry.name ∧
          ofTree? depth entry.tree = some entry.value := by
  constructor
  · intro read
    -- A later member may replace an earlier one, so the members read before are arbitrary.
    induction members generalizing before with
    | nil =>
        cases read
        exact ⟨[], rfl, rfl, List.forall_mem_nil _⟩
    | cons first others induction =>
        rcases first with ⟨key, tree⟩
        simp only [membersOfTrees?, Option.bind_eq_some_iff] at read
        rcases read with ⟨name, keyRead, value, valueRead, othersRead⟩
        rcases induction othersRead with ⟨entries, rfl, rfl, each⟩
        exact ⟨⟨key, name, tree, value⟩ :: entries, rfl, rfl,
          List.forall_mem_cons.mpr ⟨⟨keyRead, valueRead⟩, each⟩⟩
  · rintro ⟨entries, rfl, rfl, each⟩
    induction entries generalizing before with
    | nil => rfl
    | cons first others induction =>
        rcases List.forall_mem_cons.mp each with ⟨⟨keyRead, valueRead⟩, othersRead⟩
        rw [List.map_cons, Tree.Entry.member, membersOfTrees?, keyRead, Option.bind_some, valueRead,
          Option.bind_some, induction othersRead]
        rfl

/-- A tree is read as the value that it means. -/
theorem ofTree?_eq_some_iff {tree : Tree} {value : Json} :
    ofTree? depth tree = some value ↔ tree.Means depth value := by
  constructor
  · intro read
    -- The reader goes down into lists of trees, so the induction is on the tree, at every depth.
    induction tree using Tree.inductionOn generalizing depth value with
    | null =>
        cases read
        exact .null
    | truth value =>
        cases read
        exact .truth value
    | numeral spelled =>
        rw [ofTree?] at read
        rcases Option.map_eq_some_iff.mp read with ⟨number, found, rfl⟩
        exact .numeral found
    | text pieces =>
        rw [ofTree?] at read
        rcases Option.map_eq_some_iff.mp read with ⟨text, found, rfl⟩
        exact .text (Piece.text?_eq_some_iff.mp found)
    | list items each =>
        unfold ofTree? at read
        split at read
        · contradiction
        · next room =>
            rcases Nat.exists_eq_succ_of_ne_zero room with ⟨below, rfl⟩
            rcases Option.map_eq_some_iff.mp read with ⟨values, found, rfl⟩
            rcases itemsOfTrees?_eq_some_iff.mp found with ⟨pairs, rfl, rfl, reads⟩
            exact .list fun item member =>
              each item.1 (List.mem_map_of_mem member) (reads item member)
    | map members each =>
        unfold ofTree? at read
        split at read
        · contradiction
        · next room =>
            rcases Nat.exists_eq_succ_of_ne_zero room with ⟨below, rfl⟩
            rcases Option.map_eq_some_iff.mp read with ⟨values, found, rfl⟩
            rcases membersOfTrees?_eq_some_iff.mp found with ⟨entries, rfl, rfl, reads⟩
            exact .map
              (fun entry member => Piece.text?_eq_some_iff.mp (reads entry member).1)
              (fun entry member =>
                each entry.member (List.mem_map_of_mem member) (reads entry member).2)
  · intro means
    induction means with
    | null => rfl
    | truth => rfl
    | numeral value =>
        rw [ofTree?, value]
        rfl
    | text meaning =>
        rw [ofTree?, Piece.text?_eq_some_iff.mpr meaning]
        rfl
    | list _ each =>
        rw [ofTree?, if_neg (Nat.succ_ne_zero _), Nat.add_sub_cancel,
          itemsOfTrees?_eq_some_iff.mpr ⟨_, rfl, rfl, each⟩]
        rfl
    | map keys _ each =>
        rw [ofTree?, if_neg (Nat.succ_ne_zero _), Nat.add_sub_cancel,
          membersOfTrees?_eq_some_iff.mpr ⟨_, rfl, rfl, fun entry member =>
            ⟨Piece.text?_eq_some_iff.mpr (keys entry member), each entry member⟩⟩]
        rfl

end Json

end ViewerLogin
