import Mathlib.Data.List.Basic
import MarkedTree.Expr

/-!
# Paths to the nodes of a tree

A path names a node by the indices of the children that lead to it from the
root.  Equal subexpressions at different places are different nodes, so
whatever has to tell nodes apart speaks of paths and not of expressions.

`paths` lists the paths of a tree in the order in which `walk` comes to their
nodes; `paths_map_at?` ties the two together.
-/

namespace MarkedTree

namespace Expr

/-- The indices of the children to follow from the root, the first one first. -/
abbrev Path := List Nat

/-- The subexpression that a path leads to, if the tree has that path. -/
def at? : Expr → Path → Option Expr
  | expr, [] => some expr
  | expr, index :: rest => expr.children[index]?.bind fun child => child.at? rest

@[simp] theorem at?_nil (expr : Expr) : expr.at? [] = some expr := rfl

@[simp] theorem at?_cons (expr : Expr) (index : Nat) (rest : Path) :
    expr.at? (index :: rest) = expr.children[index]?.bind fun child => child.at? rest := rfl

/-- Paths that go on into the children of a node, given the paths to take
`inside` each of them. -/
def intoChildren (expr : Expr) (inside : Expr → List Path) : List Path :=
  expr.children.zipIdx.flatMap fun child => (inside child.1).map (child.2 :: ·)

/-- The paths of a tree in pre-order, the one to the root first. -/
def paths (expr : Expr) : List Path :=
  [] :: expr.children.attach.zipIdx.flatMap fun child => (paths child.1.1).map (child.2 :: ·)
termination_by expr
decreasing_by exact sizeOf_lt_of_mem_children child.1.2

private theorem flatMap_zipIdx_attach {α β : Type} (items : List α) (f : α → Nat → List β) :
    (items.attach.zipIdx.flatMap fun item => f item.1.1 item.2) =
      items.zipIdx.flatMap fun item => f item.1 item.2 := by
  conv => rhs; rw [← List.attach_map_subtype_val items, List.zipIdx_map, List.flatMap_map]
  rfl

/-- The path to the root comes first, and then those into the children. -/
theorem paths_eq (expr : Expr) : expr.paths = [] :: expr.intoChildren paths := by
  rw [paths, intoChildren]
  congr 1
  exact flatMap_zipIdx_attach expr.children fun child index => (paths child).map (index :: ·)

/-- A child taken from the numbered list of children is the one at its number. -/
theorem getElem?_children_of_mem {expr : Expr} {child : Expr × Nat}
    (member : child ∈ expr.children.zipIdx) : expr.children[child.2]? = some child.1 :=
  List.mem_zipIdx_iff_getElem?.mp member

/-- The paths into the children, read as nodes of the whole tree, are the paths
inside the children, read there. -/
theorem flatMap_intoChildren {β : Type} (expr : Expr) (inside : Expr → List Path)
    (look : Path → List β) (lookIn : Expr → Path → List β)
    (agree : ∀ index child, expr.children[index]? = some child →
      ∀ path ∈ inside child, look (index :: path) = lookIn child path) :
    (expr.intoChildren inside).flatMap look =
      expr.children.flatMap fun child => (inside child).flatMap (lookIn child) := by
  have numbered : (expr.children.flatMap fun child => (inside child).flatMap (lookIn child)) =
      expr.children.zipIdx.flatMap fun child => (inside child.1).flatMap (lookIn child.1) := by
    conv => lhs; rw [← List.zipIdx_map_fst 0 expr.children, List.flatMap_map]
  rw [numbered, intoChildren, List.flatMap_assoc]
  apply List.flatMap_congr
  intro child member
  rw [List.flatMap_map]
  apply List.flatMap_congr
  intro path inChild
  exact agree child.2 child.1 (getElem?_children_of_mem member) path inChild

theorem filterMap_intoChildren {β : Type} (expr : Expr) (inside : Expr → List Path)
    (look : Path → Option β) (lookIn : Expr → Path → Option β)
    (agree : ∀ index child, expr.children[index]? = some child →
      ∀ path ∈ inside child, look (index :: path) = lookIn child path) :
    (expr.intoChildren inside).filterMap look =
      expr.children.flatMap fun child => (inside child).filterMap (lookIn child) := by
  simp only [List.filterMap_eq_flatMap_toList]
  apply expr.flatMap_intoChildren inside
  intro index child found path inChild
  rw [agree index child found path inChild]

/-- A choice among the paths into the children is made inside each child. -/
theorem filter_intoChildren (expr : Expr) (inside : Expr → List Path)
    (keep : Path → Bool) (keepIn : Expr → Path → Bool)
    (agree : ∀ index child, expr.children[index]? = some child →
      ∀ path, keep (index :: path) = keepIn child path) :
    (expr.intoChildren inside).filter keep =
      expr.intoChildren fun child => (inside child).filter (keepIn child) := by
  rw [intoChildren, intoChildren, List.filter_flatMap]
  apply List.flatMap_congr
  intro child member
  rw [List.filter_map]
  congr 1
  apply List.filter_congr
  intro path _
  exact agree child.2 child.1 (getElem?_children_of_mem member) path

/-- A relation holds from earlier to later paths into the children if it holds
so inside each child and from every path through a child to every path through
a later one. -/
theorem pairwise_intoChildren {relation : Path → Path → Prop} (expr : Expr)
    {inside : Expr → List Path}
    (sameChild : ∀ index, ∀ child ∈ expr.children, (inside child).Pairwise fun first second =>
      relation (index :: first) (index :: second))
    (laterChild : ∀ index later, index < later → ∀ first second,
      relation (index :: first) (later :: second)) :
    (expr.intoChildren inside).Pairwise relation := by
  have numbered : expr.children.zipIdx.Pairwise fun first second => first.2 < second.2 := by
    apply List.pairwise_map.mp
    rw [List.zipIdx_map_snd]
    exact List.pairwise_lt_range'
  refine List.pairwise_flatMap.mpr
    ⟨fun child member => ?_, numbered.imp fun {first second} earlier => ?_⟩
  · exact List.pairwise_map.mpr
      (sameChild child.2 child.1 (List.mem_of_getElem? (getElem?_children_of_mem member)))
  · intro path inFirst path' inSecond
    rcases List.mem_map.mp inFirst with ⟨_, _, rfl⟩
    rcases List.mem_map.mp inSecond with ⟨_, _, rfl⟩
    exact laterChild _ _ earlier _ _

theorem cons_mem_intoChildren {expr : Expr} {inside : Expr → List Path} {index : Nat}
    {rest : Path} :
    index :: rest ∈ expr.intoChildren inside ↔
      ∃ child, expr.children[index]? = some child ∧ rest ∈ inside child := by
  simp only [intoChildren, List.mem_flatMap, List.mem_map, List.cons.injEq]
  constructor
  · rintro ⟨child, member, path, inChild, rfl, rfl⟩
    exact ⟨child.1, getElem?_children_of_mem member, inChild⟩
  · rintro ⟨child, found, inChild⟩
    exact ⟨(child, index), List.mem_zipIdx_iff_getElem?.mpr found, rest, inChild, rfl, rfl⟩

/-- The paths of a tree are those that lead to a node. -/
theorem mem_paths_iff {expr : Expr} {path : Path} :
    path ∈ expr.paths ↔ (expr.at? path).isSome := by
  induction path generalizing expr with
  | nil => simp [paths_eq]
  | cons index rest hypothesis =>
      rw [paths_eq, List.mem_cons, cons_mem_intoChildren, at?_cons]
      simp only [List.cons_ne_nil, false_or, Option.isSome_bind, Option.any_eq_true, hypothesis]

/-- The paths ascend in the order of a dictionary: each comes before those that go on from
it, and all that go through a child come before those through a later one. -/
theorem paths_ascending (expr : Expr) : expr.paths.Pairwise (List.Lex (· < ·)) := by
  induction expr using childrenInduction with
  | node expr hypothesis =>
      rw [paths_eq]
      refine List.pairwise_cons.mpr ⟨fun path member => ?_, ?_⟩
      · cases path with
        | nil => simp [intoChildren] at member
        | cons index rest => exact .nil
      · apply expr.pairwise_intoChildren
        · intro index child member
          exact (hypothesis child member).imp .cons
        · exact fun index later earlier first second => .rel earlier

theorem paths_nodup (expr : Expr) : expr.paths.Nodup := by
  refine expr.paths_ascending.imp fun {path other} earlier same => ?_
  exact List.lex_irrefl Nat.lt_irrefl path (same ▸ earlier)

/-- A walk visits the node at each path, in the order of `paths`. -/
theorem paths_map_at? (expr : Expr) : expr.paths.map expr.at? = expr.walk.map some := by
  induction expr using childrenInduction with
  | node expr hypothesis =>
      have below : (expr.intoChildren paths).map expr.at? =
          expr.children.flatMap fun child => child.walk.map some := by
        rw [List.map_eq_flatMap,
          expr.flatMap_intoChildren paths _ fun child path => [child.at? path]]
        · apply List.flatMap_congr
          intro child member
          rw [← List.map_eq_flatMap, hypothesis child member]
        · intro index child found path _
          simp only [at?_cons, found, Option.bind_some]
      rw [paths_eq, walk_eq, List.map_cons, List.map_cons, at?_nil, List.map_flatMap, below]

/-!
## Rebuilding a node

`withChildren` is meant for as many children as the node has.  Used so, it
changes the children and nothing else: the shape and the span of the node stay,
and the children are those that were supplied.
-/

/-- Parts that are taken as entries and listed again are the same parts, unless
there is one left over. -/
theorem flatMap_pairUp : ∀ {items : List Expr} {count : Nat}, items.length = 2 * count →
    ((pairUp items).flatMap fun entry => [entry.1, entry.2]) = items ∧
      (pairUp items).length = count
  | [], count, even => by
      have none : count = 0 := by simp at even; omega
      simp [pairUp, none]
  | [_], _, odd => by simp at odd; omega
  | key :: value :: rest, count, even => by
      have restEven : rest.length = 2 * (count - 1) := by simp at even; omega
      rcases flatMap_pairUp restEven with ⟨sameRest, restCount⟩
      have some : 0 < count := by simp at even; omega
      constructor
      · simp [pairUp, sameRest]
      · rw [pairUp, List.length_cons, restCount]
        omega

private theorem length_flatMap_entries (entries : List (Expr × Expr)) :
    (entries.flatMap fun entry => [entry.1, entry.2]).length = 2 * entries.length := by
  induction entries with
  | nil => rfl
  | cons entry rest hypothesis =>
      rw [List.flatMap_cons, List.length_append, hypothesis, List.length_cons]
      simp only [List.length_cons, List.length_nil]
      omega

/-- A node rebuilt from as many children as it has holds exactly these children,
and its shape and its span are what they were. -/
theorem withChildren_spec {expr : Expr} {items : List Expr}
    (sameLength : items.length = expr.children.length) :
    (expr.withChildren items).children = items ∧
      (expr.withChildren items).shape = expr.shape ∧
      (expr.withChildren items).span = expr.span := by
  cases expr with
  | constant | var =>
      have empty : items = [] := List.eq_nil_of_length_eq_zero sameLength
      subst empty
      exact ⟨rfl, rfl, rfl⟩
  | property | not | cast =>
      rcases List.length_eq_one_iff.mp sameLength with ⟨item, rfl⟩
      exact ⟨rfl, rfl, rfl⟩
  | binary =>
      rcases List.length_eq_two.mp sameLength with ⟨left, right, rfl⟩
      exact ⟨rfl, rfl, rfl⟩
  | ternary =>
      rcases List.length_eq_three.mp sameLength with ⟨condition, thenValue, elseValue, rfl⟩
      exact ⟨rfl, rfl, rfl⟩
  | list elements span =>
      exact ⟨rfl, congrArg Shape.list sameLength, rfl⟩
  | map entries span =>
      have even : items.length = 2 * entries.length :=
        sameLength.trans (length_flatMap_entries entries)
      rcases flatMap_pairUp even with ⟨sameItems, sameCount⟩
      exact ⟨sameItems, congrArg Shape.map sameCount, rfl⟩
  | call receiver method arguments span =>
      cases receiver with
      | none => exact ⟨rfl, congrArg (Shape.call false method) sameLength, rfl⟩
      | some object =>
          cases items with
          | nil => cases sameLength
          | cons first others =>
              have sameCount : others.length = arguments.length := Nat.succ.inj sameLength
              exact ⟨rfl, congrArg (Shape.call true method) sameCount, rfl⟩

theorem children_withChildren {expr : Expr} {items : List Expr}
    (sameLength : items.length = expr.children.length) :
    (expr.withChildren items).children = items :=
  (withChildren_spec sameLength).1

theorem shape_withChildren {expr : Expr} {items : List Expr}
    (sameLength : items.length = expr.children.length) :
    (expr.withChildren items).shape = expr.shape :=
  (withChildren_spec sameLength).2.1

theorem span_withChildren {expr : Expr} {items : List Expr}
    (sameLength : items.length = expr.children.length) :
    (expr.withChildren items).span = expr.span :=
  (withChildren_spec sameLength).2.2

/-- A node rebuilt from its own children is the same node. -/
theorem withChildren_children (expr : Expr) : expr.withChildren expr.children = expr :=
  ext_children (shape_withChildren rfl) (span_withChildren rfl) (children_withChildren rfl)

/-- Of two rebuilds with as many children each, the second one counts. -/
theorem withChildren_withChildren {expr : Expr} {items others : List Expr}
    (sameLength : items.length = expr.children.length)
    (otherLength : others.length = expr.children.length) :
    (expr.withChildren items).withChildren others = expr.withChildren others := by
  have again : others.length = (expr.withChildren items).children.length := by
    rw [children_withChildren sameLength, otherLength, sameLength]
  apply ext_children
  · rw [shape_withChildren again, shape_withChildren sameLength, shape_withChildren otherLength]
  · rw [span_withChildren again, span_withChildren sameLength, span_withChildren otherLength]
  · rw [children_withChildren again, children_withChildren otherLength]

def Shape.kind : Shape → ExprKind
  | .constant _ => .constant
  | .var _ => .var
  | .call .. => .methodCall
  | .property _ => .property
  | .binary _ => .binary
  | .not => .not
  | .ternary => .ternary
  | .list _ => .list
  | .map _ => .map
  | .cast _ => .cast

theorem kind_shape (expr : Expr) : expr.shape.kind = expr.kind := by
  cases expr <;> rfl

/-!
## Replacing subtrees at given paths

A patch is an expression to put at a path.  `graft` puts all patches of a list
into a tree at once: a patched subtree is replaced as a whole, and nothing that
lies inside it matters any more.  `Patched` says the same of a result without
saying how to build it, and `graft_patched` that grafting achieves it when no
patch lies inside another one.
-/

/-- An expression and the path at which it is to stand. -/
abbrev Patch := Path × Expr

/-- The patches that lie in the child of this index, with their paths inside it. -/
def within (index : Nat) (patches : List Patch) : List Patch :=
  patches.filterMap fun patch =>
    match patch.1 with
    | [] => none
    | first :: rest => if first = index then some (rest, patch.2) else none

theorem mem_within {index : Nat} {patches : List Patch} {path : Path} {value : Expr} :
    (path, value) ∈ within index patches ↔ (index :: path, value) ∈ patches := by
  simp only [within, List.mem_filterMap]
  constructor
  · rintro ⟨⟨patchPath, patchValue⟩, member, isPatch⟩
    cases patchPath with
    | nil => cases isPatch
    | cons first rest =>
        dsimp only at isPatch
        split at isPatch
        case isTrue same =>
          cases isPatch
          exact same ▸ member
        case isFalse => cases isPatch
  · intro member
    exact ⟨_, member, by simp⟩

theorem within_append (index : Nat) (first second : List Patch) :
    within index (first ++ second) = within index first ++ within index second :=
  List.filterMap_append

/-- Patches that all lie in one child are, for that child, what they were before
its index was put in front. -/
theorem within_map_cons (index : Nat) (patches : List Patch) :
    within index (patches.map fun patch => (index :: patch.1, patch.2)) = patches := by
  simp [within, List.filterMap_map]

/-- Patches of other children do not concern a child. -/
theorem within_eq_nil {index : Nat} {patches : List Patch}
    (elsewhere : ∀ patch ∈ patches, patch.1.head? ≠ some index) : within index patches = [] := by
  apply List.filterMap_eq_nil_iff.mpr
  intro patch member
  have other := elsewhere patch member
  split
  · rfl
  case h_2 first rest isCons =>
    rw [isCons] at other
    exact if_neg fun same => other (congrArg some same)

/-- The tree with the subtree at the path of each patch replaced by the patch. -/
def graft (expr : Expr) (patches : List Patch) : Expr :=
  match patches.lookup [] with
  | some value => value
  | none => expr.withChildren (expr.children.attach.zipIdx.map fun child =>
      graft child.1.1 (within child.2 patches))
termination_by expr
decreasing_by exact sizeOf_lt_of_mem_children child.1.2

def graftChildren (expr : Expr) (patches : List Patch) : List Expr :=
  expr.children.zipIdx.map fun child => child.1.graft (within child.2 patches)

/-- A patch of the root replaces the whole tree; otherwise the root stays and
the patches go to the children. -/
theorem graft_eq (expr : Expr) (patches : List Patch) :
    expr.graft patches =
      match patches.lookup [] with
      | some value => value
      | none => expr.withChildren (expr.graftChildren patches) := by
  rw [graft]
  cases patches.lookup [] with
  | some value => rfl
  | none =>
      have detach : (expr.children.attach.zipIdx.map fun child =>
          graft child.1.1 (within child.2 patches)) = expr.graftChildren patches := by
        rw [graftChildren]
        conv => rhs; rw [← List.attach_map_subtype_val expr.children, List.zipIdx_map, List.map_map]
        rfl
      exact congrArg expr.withChildren detach

theorem graft_of_root {patches : List Patch} {value : Expr} (expr : Expr)
    (atRoot : patches.lookup [] = some value) : expr.graft patches = value := by
  rw [graft_eq, atRoot]

theorem graft_of_not_root {patches : List Patch} (expr : Expr)
    (notRoot : patches.lookup [] = none) :
    expr.graft patches = expr.withChildren (expr.graftChildren patches) := by
  rw [graft_eq, notRoot]

theorem length_graftChildren (expr : Expr) (patches : List Patch) :
    (expr.graftChildren patches).length = expr.children.length := by
  rw [graftChildren, List.length_map, List.length_zipIdx]

/-- Without patches a tree stays as it is. -/
theorem graft_nil (expr : Expr) : expr.graft [] = expr := by
  induction expr using childrenInduction with
  | node expr hypothesis =>
      have sameChildren : expr.graftChildren [] = expr.children := by
        have kept : ∀ child ∈ expr.children.zipIdx, child.1.graft [] = child.1 := by
          intro child member
          exact hypothesis child.1 (List.mem_of_getElem? (getElem?_children_of_mem member))
        calc
          expr.graftChildren [] = expr.children.zipIdx.map fun child => child.1.graft [] := rfl
          _ = expr.children.zipIdx.map Prod.fst := List.map_congr_left kept
          _ = expr.children := List.zipIdx_map_fst 0 expr.children
      rw [graft_of_not_root expr rfl, sameChildren, withChildren_children]

/-- A node whose root is not patched has the grafted children, one by one. -/
theorem getElem?_children_graft {patches : List Patch} (expr : Expr)
    (notRoot : patches.lookup [] = none) (index : Nat) :
    (expr.graft patches).children[index]? =
      expr.children[index]?.map fun child => child.graft (within index patches) := by
  rw [graft_of_not_root expr notRoot, children_withChildren (length_graftChildren expr patches),
    graftChildren, List.getElem?_map, List.getElem?_zipIdx, Option.map_map]
  simp only [Nat.zero_add, Function.comp_def]

/-- A result is a tree with some subtrees replaced: at the path of each patch
stands the patch, whole and unchanged, and every node of the tree that is
neither patched nor inside a patched subtree keeps its path, its span and its
shape, that is, all that it holds apart from its children. -/
structure Patched (expr : Expr) (patches : List Patch) (result : Expr) : Prop where
  replaced : ∀ path value, (path, value) ∈ patches → result.at? path = some value
  kept : ∀ path node, expr.at? path = some node → (∀ patch ∈ patches, ¬ patch.1 <+: path) →
    ∃ same, result.at? path = some same ∧ same.shape = node.shape ∧ same.span = node.span

/-- No patch stands at or inside the path of another one. -/
def Apart (patches : List Patch) : Prop :=
  patches.Pairwise fun first second => ¬ first.1 <+: second.1 ∧ ¬ second.1 <+: first.1

theorem apart_of_paths {patches : List Patch} (separate : (patches.map Prod.fst).Pairwise
    fun first second => ¬ first <+: second ∧ ¬ second <+: first) : Apart patches :=
  List.pairwise_map.mp separate

theorem Apart.within {patches : List Patch} (apart : Apart patches) (index : Nat) :
    Apart (within index patches) := by
  refine List.Pairwise.filterMap _ ?_ apart
  rintro ⟨firstPath, _⟩ ⟨secondPath, _⟩ separate patch isFirst patch' isSecond
  cases firstPath with
  | nil => cases isFirst
  | cons first rest =>
      cases secondPath with
      | nil => cases isSecond
      | cons second rest' =>
          simp only [Option.ite_none_right_eq_some, Option.some.injEq] at isFirst isSecond
          rcases isFirst with ⟨rfl, rfl⟩
          rcases isSecond with ⟨rfl, rfl⟩
          simpa only [List.cons_prefix_cons, true_and] using separate

/-- Of patches apart from one another, the one at the root is alone. -/
theorem Apart.eq_singleton {patches : List Patch} (apart : Apart patches) {value : Expr}
    (atRoot : ([], value) ∈ patches) : patches = [([], value)] := by
  induction patches with
  | nil => cases atRoot
  | cons patch rest hypothesis =>
      rcases List.pairwise_cons.mp apart with ⟨separate, restApart⟩
      rcases List.mem_cons.mp atRoot with isPatch | inRest
      · cases rest with
        | nil => rw [isPatch]
        | cons next _ =>
            have apartFromNext := (separate next List.mem_cons_self).1
            rw [← isPatch] at apartFromNext
            exact absurd List.nil_prefix apartFromNext
      · exact absurd List.nil_prefix (separate _ inRest).2

private theorem lookup_root_eq_none {patches : List Patch}
    (notRoot : ∀ patch ∈ patches, patch.1 ≠ []) : patches.lookup [] = none := by
  apply List.lookup_eq_none_iff.mpr
  intro patch member
  exact bne_iff_ne.mpr (notRoot patch member).symm

theorem at?_graft_of_mem {expr : Expr} {patches : List Patch} {path : Path} {value : Expr}
    (apart : Apart patches) (member : (path, value) ∈ patches)
    (inside : (expr.at? path).isSome) : (expr.graft patches).at? path = some value := by
  induction path generalizing expr patches with
  | nil =>
      rw [apart.eq_singleton member, graft_of_root expr (by rfl), at?_nil]
  | cons index rest hypothesis =>
      have notRoot : patches.lookup [] = none := by
        apply lookup_root_eq_none
        rintro ⟨_, other⟩ isPatch rfl
        have alone := apart.eq_singleton isPatch
        rw [alone, List.mem_singleton] at member
        cases member
      rw [at?_cons] at inside ⊢
      rw [getElem?_children_graft expr notRoot]
      cases found : expr.children[index]? with
      | none => simp [found] at inside
      | some child =>
          rw [found, Option.bind_some] at inside
          rw [Option.map_some, Option.bind_some]
          exact hypothesis (apart.within index) (mem_within.mpr member) inside

theorem at?_graft_of_not_patched {expr node : Expr} {patches : List Patch} {path : Path}
    (found : expr.at? path = some node) (outside : ∀ patch ∈ patches, ¬ patch.1 <+: path) :
    ∃ same, (expr.graft patches).at? path = some same ∧
      same.shape = node.shape ∧ same.span = node.span := by
  induction path generalizing expr patches with
  | nil =>
      have notRoot : patches.lookup [] = none := by
        apply lookup_root_eq_none
        intro patch member isRoot
        exact outside patch member (isRoot ▸ List.nil_prefix)
      cases found
      refine ⟨_, at?_nil _, ?_⟩
      rw [graft_of_not_root _ notRoot]
      exact ⟨shape_withChildren (length_graftChildren _ patches),
        span_withChildren (length_graftChildren _ patches)⟩
  | cons index rest hypothesis =>
      have notRoot : patches.lookup [] = none := by
        apply lookup_root_eq_none
        intro patch member isRoot
        exact outside patch member (isRoot ▸ List.nil_prefix)
      rw [at?_cons] at found ⊢
      rw [getElem?_children_graft expr notRoot]
      rcases Option.bind_eq_some_iff.mp found with ⟨child, isChild, inChild⟩
      rw [isChild, Option.map_some, Option.bind_some]
      apply hypothesis inChild
      rintro ⟨patchPath, value⟩ member isPrefix
      exact outside _ (mem_within.mp member) (List.cons_prefix_cons.mpr ⟨rfl, isPrefix⟩)

/-- Grafting patches that stand apart, at paths of the tree, replaces these
subtrees and nothing else. -/
theorem graft_patched {expr : Expr} {patches : List Patch} (apart : Apart patches)
    (inside : ∀ patch ∈ patches, (expr.at? patch.1).isSome) :
    expr.Patched patches (expr.graft patches) where
  replaced path value member := at?_graft_of_mem apart member (inside (path, value) member)
  kept _ _ found outside := at?_graft_of_not_patched found outside

end Expr

end MarkedTree
