import ViewerLogin.Json.Tree

/-!
# Trees as tokens

Each tree has its tokens. They build the tree, and a list of tokens that builds a tree is the
list of the tokens of that tree, so that nothing is passed over or counted twice on the way.
-/

namespace ViewerLogin.Tree

/-- What holds of the trees inside a tree has to be shown to hold of it as well. -/
theorem inductionOn {motive : Tree → Prop} (tree : Tree) (null : motive .null)
    (truth : ∀ value, motive (.truth value)) (numeral : ∀ spelled, motive (.numeral spelled))
    (text : ∀ pieces, motive (.text pieces))
    (list : ∀ items, (∀ item ∈ items, motive item) → motive (.list items))
    (map : ∀ members, (∀ member ∈ members, motive member.2) → motive (.map members)) :
    motive tree :=
  @Tree.rec motive (fun items => ∀ item ∈ items, motive item)
    (fun members => ∀ member ∈ members, motive member.2) (fun member => motive member.2)
    null truth numeral text list map
    (List.forall_mem_nil _) (fun _ _ first rest => List.forall_mem_cons.mpr ⟨first, rest⟩)
    (List.forall_mem_nil _) (fun _ _ first rest => List.forall_mem_cons.mpr ⟨first, rest⟩)
    (fun _ _ value => value) tree

/-! ## The tokens of a tree -/

def separated : List (List Token) → List Token
  | [] => []
  | [part] => part
  | part :: others => part ++ .comma :: separated others

theorem separated_cons (part : List Token) {others : List (List Token)} (more : others ≠ []) :
    separated (part :: others) = part ++ .comma :: separated others := by
  cases others with
  | nil => exact absurd rfl more
  | cons => rfl

theorem exists_separated (part : List Token) (others : List (List Token)) :
    ∃ after, separated (part :: others) = part ++ after := by
  cases others with
  | nil => exact ⟨[], (List.append_nil part).symm⟩
  | cons => exact ⟨_, rfl⟩

theorem separated_concat (parts : List (List Token)) (last : List Token) :
    separated (parts ++ [last]) = (parts.flatMap fun part => part ++ [.comma]) ++ last := by
  induction parts with
  | nil => rfl
  | cons first others induction =>
      have more : others ++ [last] ≠ [] := List.append_ne_nil_of_right_ne_nil _ (by simp)
      rw [List.cons_append, separated_cons first more, induction]
      simp

mutual

def tokens : Tree → List Token
  | .null => [.null]
  | .truth value => [.truth value]
  | .numeral spelled => [.numeral spelled]
  | .text pieces => [.text pieces]
  | .list items => .openList :: (separated (itemTokens items) ++ [.closeList])
  | .map members => .openMap :: (separated (memberTokens members) ++ [.closeMap])

def itemTokens : List Tree → List (List Token)
  | [] => []
  | item :: others => tokens item :: itemTokens others

def memberTokens : List (List Piece × Tree) → List (List Token)
  | [] => []
  | (key, value) :: others => (.text key :: .colon :: tokens value) :: memberTokens others

end

theorem itemTokens_eq_map (items : List Tree) : itemTokens items = items.map tokens := by
  induction items with
  | nil => rfl
  | cons first others induction => rw [itemTokens, induction, List.map_cons]

theorem memberTokens_eq_map (members : List (List Piece × Tree)) :
    memberTokens members =
      members.map fun member => .text member.1 :: .colon :: member.2.tokens := by
  induction members with
  | nil => rfl
  | cons first others induction => rw [memberTokens, induction, List.map_cons]

/-! ## The tokens build the tree -/

/-- The tokens build the tree where a value is expected. -/
def Builds (tokens : List Token) (tree : Tree) : Prop :=
  ∀ stack rest, build? stack .value (tokens ++ rest) = build? stack (.afterValue tree) rest

theorem build?_of_step? {stack stack' : List Frame} {expected expected' : Expected}
    {token : Token} (stepped : step? stack token expected = some (stack', expected'))
    (rest : List Token) :
    build? stack expected (token :: rest) = build? stack' expected' rest := by
  rw [build?, stepped]

theorem builds_items (before : List Tree) {items : List Tree} (nonempty : items ≠ [])
    (each : ∀ item ∈ items, Builds item.tokens item) (stack : List Frame) (rest : List Token) :
    build? (.items before :: stack) .value (separated (itemTokens items) ++ .closeList :: rest) =
      build? stack (.afterValue (.list (before.reverse ++ items))) rest := by
  -- The items already built stand in `before`, the last of them first.
  induction items generalizing before with
  | nil => contradiction
  | cons first others induction =>
      have firstBuilds := each first List.mem_cons_self
      have othersEach := fun item member => each item (List.mem_cons_of_mem first member)
      cases others with
      | nil =>
          rw [itemTokens, itemTokens, separated, firstBuilds, build?_of_step? rfl,
            List.reverse_cons]
      | cons second others =>
          have more : itemTokens (second :: others) ≠ [] := List.cons_ne_nil _ _
          rw [itemTokens, separated_cons _ more, List.append_assoc, firstBuilds, List.cons_append,
            build?_of_step? rfl, induction _ (List.cons_ne_nil _ _) othersEach, List.reverse_cons,
            List.append_assoc, List.singleton_append]

theorem builds_members (before : List (List Piece × Tree)) {members : List (List Piece × Tree)}
    (nonempty : members ≠ []) (each : ∀ member ∈ members, Builds member.2.tokens member.2)
    (stack : List Frame) (rest : List Token) :
    build? stack (.key before) (separated (memberTokens members) ++ .closeMap :: rest) =
      build? stack (.afterValue (.map (before.reverse ++ members))) rest := by
  induction members generalizing before with
  | nil => contradiction
  | cons first others induction =>
      rcases first with ⟨key, value⟩
      have valueBuilds := each (key, value) List.mem_cons_self
      have othersEach := fun item member => each item (List.mem_cons_of_mem (key, value) member)
      have named (after : List Token) :
          build? stack (.key before) (.text key :: .colon :: (value.tokens ++ after)) =
            build? (.member before key :: stack) (.afterValue value) after := by
        rw [build?_of_step? rfl, build?_of_step? rfl, valueBuilds]
      cases others with
      | nil =>
          rw [memberTokens, memberTokens, separated, List.cons_append, List.cons_append, named,
            build?_of_step? rfl, List.reverse_cons]
      | cons second others =>
          have more : memberTokens (second :: others) ≠ [] := List.cons_ne_nil _ _
          rw [memberTokens, separated_cons _ more, List.append_assoc, List.cons_append,
            List.cons_append, named, List.cons_append, build?_of_step? rfl,
            induction _ (List.cons_ne_nil _ _) othersEach, List.reverse_cons, List.append_assoc,
            List.singleton_append]

/-- A list that might end goes on with an item in the same way as one that may not. -/
theorem build?_valueOrEnd (first : Tree) (after : List Token) (stack : List Frame) :
    build? (.items [] :: stack) .valueOrEnd (first.tokens ++ after) =
      build? (.items [] :: stack) .value (first.tokens ++ after) := by
  cases first with
  | _ => rfl

theorem builds_tokens (tree : Tree) : Builds tree.tokens tree := by
  induction tree using inductionOn with
  | null | truth | numeral | text =>
      intro stack rest
      exact build?_of_step? rfl rest
  | list items each =>
      intro stack rest
      rw [tokens, List.cons_append, List.append_assoc, List.singleton_append, build?_of_step? rfl]
      cases items with
      | nil => exact build?_of_step? rfl rest
      | cons first others =>
          have built := builds_items [] (List.cons_ne_nil first others) each stack rest
          rcases exists_separated first.tokens (itemTokens others) with ⟨after, parts⟩
          -- The first token of the first item settles that the list is not empty.
          rw [itemTokens, parts, List.append_assoc] at built ⊢
          exact (build?_valueOrEnd first _ stack).trans built
  | map members each =>
      intro stack rest
      rw [tokens, List.cons_append, List.append_assoc, List.singleton_append, build?_of_step? rfl]
      cases members with
      | nil => exact build?_of_step? rfl rest
      | cons first others =>
          have built := builds_members [] (List.cons_ne_nil first others) each stack rest
          rcases first with ⟨key, value⟩
          rcases exists_separated (.text key :: .colon :: value.tokens) (memberTokens others) with
            ⟨after, parts⟩
          rw [memberTokens, parts] at built ⊢
          exact built

theorem ofTokens?_tokens (tree : Tree) : ofTokens? tree.tokens = some tree := by
  have built := builds_tokens tree [] []
  rw [List.append_nil] at built
  exact built

/-! ## A tree is built from its tokens only -/

def Frame.tokens : Frame → List Token
  | .items before =>
      .openList :: (itemTokens before.reverse).flatMap fun part => part ++ [.comma]
  | .member before key =>
      .openMap :: ((memberTokens before.reverse).flatMap fun part => part ++ [.comma]) ++
        [.text key, .colon]

def opened : List Frame → List Token
  | [] => []
  | frame :: outer => opened outer ++ frame.tokens

/-- The tokens read so far are the ones that the state stands for. -/
def Consumed (read : List Token) (stack : List Frame) : Expected → Prop
  | .value | .valueOrEnd => read = opened stack
  | .key before =>
      read = opened stack ++
        .openMap :: (memberTokens before.reverse).flatMap fun part => part ++ [.comma]
  | .keyOrEnd => read = opened stack ++ [.openMap]
  | .colon => read ++ [.colon] = opened stack
  | .afterValue value => read = opened stack ++ value.tokens

theorem consumed_of_start? {read : List Token} {stack stack' : List Frame} {token : Token}
    {expected : Expected} (started : start? stack token = some (stack', expected))
    (consumed : read = opened stack) : Consumed (read ++ [token]) stack' expected := by
  subst consumed
  cases token with
  | openList =>
      cases started
      rfl
  | openMap =>
      cases started
      rfl
  | null | truth | numeral | text =>
      cases started
      rfl
  | _ => contradiction

theorem consumed_of_resume? {read : List Token} {stack stack' : List Frame} {token : Token}
    {value : Tree} {expected : Expected}
    (resumed : resume? value stack token = some (stack', expected))
    (consumed : read = opened stack ++ value.tokens) :
    Consumed (read ++ [token]) stack' expected := by
  subst consumed
  unfold resume? at resumed
  split at resumed
  · next before outer =>
      cases resumed
      simp [Consumed, opened, Frame.tokens, itemTokens_eq_map]
  · next before outer =>
      cases resumed
      simp [Consumed, opened, Frame.tokens, tokens, itemTokens_eq_map, separated_concat]
  · next before key outer =>
      cases resumed
      simp [Consumed, opened, Frame.tokens, memberTokens_eq_map]
  · next before key outer =>
      cases resumed
      simp [Consumed, opened, Frame.tokens, tokens, memberTokens_eq_map, separated_concat]
  · contradiction

/-- Each step accounts for its token. -/
theorem consumed_step {read : List Token} {stack stack' : List Frame} {token : Token}
    {expected expected' : Expected}
    (stepped : step? stack token expected = some (stack', expected'))
    (consumed : Consumed read stack expected) : Consumed (read ++ [token]) stack' expected' := by
  cases expected with
  | value => exact consumed_of_start? stepped consumed
  | afterValue value => exact consumed_of_resume? stepped consumed
  | valueOrEnd =>
      simp only [step?] at stepped
      split at stepped
      · cases stepped
        subst consumed
        simp [Consumed, opened, Frame.tokens, tokens, itemTokens, separated]
      · exact consumed_of_start? stepped consumed
  | key before =>
      simp only [step?] at stepped
      split at stepped
      · cases stepped
        subst consumed
        simp [Consumed, opened, Frame.tokens]
      · contradiction
  | keyOrEnd =>
      simp only [step?] at stepped
      split at stepped
      · cases stepped
        subst consumed
        simp [Consumed, opened, Frame.tokens, memberTokens]
      · cases stepped
        subst consumed
        simp [Consumed, tokens, memberTokens, separated]
      · contradiction
  | colon =>
      simp only [step?] at stepped
      split at stepped
      · cases stepped
        exact consumed
      · contradiction

theorem tokens_of_build? {read : List Token} {stack : List Frame} {expected : Expected}
    {rest : List Token} {tree : Tree} (built : build? stack expected rest = some tree)
    (consumed : Consumed read stack expected) : read ++ rest = tree.tokens := by
  -- `Consumed` is kept by every step and leaves nothing open at the end.
  induction rest generalizing read stack expected with
  | nil =>
      unfold build? at built
      split at built
      · cases built
        rw [List.append_nil, consumed]
        rfl
      · contradiction
  | cons token rest induction =>
      rw [build?] at built
      split at built
      · next stack' expected' stepped =>
          have whole := induction built (consumed_step stepped consumed)
          rw [List.append_assoc, List.singleton_append] at whole
          exact whole
      · contradiction

/-- A tree is built from its tokens and from nothing else. -/
theorem ofTokens?_eq_some_iff {tokens : List Token} {tree : Tree} :
    ofTokens? tokens = some tree ↔ tokens = tree.tokens := by
  constructor
  · exact fun built => tokens_of_build? built rfl
  · rintro rfl
    exact ofTokens?_tokens tree

end ViewerLogin.Tree
