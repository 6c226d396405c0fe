import MarkedTree.Proofs.Expr.Path
import MarkedTree.Replacement

/-!
# Outermost matches

Which nodes of a tree a criteria would be asked about, and which of them it
would match, is a question about paths: a node is `Exposed` if none of its
proper ancestors matches, `visited` lists the exposed nodes, and `outermost`
those of them that match themselves.  None of this mentions how a tree is
replaced; the equations below show that the lists can nevertheless be read off
the root and the children.
-/

namespace MarkedTree

namespace Criteria

variable {τ : Type}

/-- Handing back is all that a selection needs for following it down a tree to
end: each one that does so is that of a criteria. -/
theorem exists_handsBack {select : Expr → Selection τ}
    (handsBack : ∀ {expr back}, select expr = .rejected back → back = expr) :
    ∃ criteria : Criteria τ, criteria.select = select ∧ criteria.HandsBack := by
  have ends : WellFounded (Selection.LeadsTo select) := by
    refine Subrelation.wf ?_ (measure (sizeOf : Expr → Nat)).wf
    rintro child expr ⟨back, rejected, member⟩
    cases handsBack rejected
    exact Expr.sizeOf_lt_of_mem_children member
  exact ⟨⟨select, ends⟩, rfl, handsBack⟩

/-- The target that an expression is, if it matches. -/
def target? (criteria : Criteria τ) (expr : Expr) : Option τ :=
  match criteria.select expr with
  | .matched target => some target
  | .rejected _ => none

def selects (criteria : Criteria τ) (expr : Expr) : Bool :=
  (criteria.select expr).isMatch

theorem target?_of_matched {criteria : Criteria τ} {expr : Expr} {target : τ}
    (isMatch : criteria.select expr = .matched target) : criteria.target? expr = some target := by
  rw [target?, isMatch]

theorem target?_of_rejected {criteria : Criteria τ} {expr back : Expr}
    (noMatch : criteria.select expr = .rejected back) : criteria.target? expr = none := by
  rw [target?, noMatch]

theorem selects_of_matched {criteria : Criteria τ} {expr : Expr} {target : τ}
    (isMatch : criteria.select expr = .matched target) : criteria.selects expr = true := by
  rw [selects, isMatch, Selection.isMatch]

theorem selects_of_rejected {criteria : Criteria τ} {expr back : Expr}
    (noMatch : criteria.select expr = .rejected back) : criteria.selects expr = false := by
  rw [selects, noMatch, Selection.isMatch]

theorem isSome_target? (criteria : Criteria τ) (expr : Expr) :
    (criteria.target? expr).isSome = criteria.selects expr := by
  rw [target?, selects]
  cases criteria.select expr <;> rfl

theorem selects_narrowing (pick : Expr → Option τ) (expr : Expr) :
    (narrowing pick).selects expr = (pick expr).isSome := by
  rw [selects, narrowing]
  dsimp only
  cases pick expr <;> rfl

/-- The target that the node at a path is, if there is such a node and it
matches. -/
def targetAt? (criteria : Criteria τ) (expr : Expr) (path : Expr.Path) : Option τ :=
  (expr.at? path).bind criteria.target?

/-- Whether there is a node at a path that matches. -/
def selectsAt (criteria : Criteria τ) (expr : Expr) (path : Expr.Path) : Bool :=
  (expr.at? path).any criteria.selects

/-- No proper ancestor of the node at a path matches. -/
def Exposed (criteria : Criteria τ) (expr : Expr) (path : Expr.Path) : Prop :=
  ∀ depth < path.length, criteria.selectsAt expr (path.take depth) = false

instance (criteria : Criteria τ) (expr : Expr) (path : Expr.Path) :
    Decidable (criteria.Exposed expr path) :=
  inferInstanceAs (Decidable (∀ depth < path.length, _))

/-- The paths to the nodes without a matching proper ancestor, in the order of
a walk. -/
def visited (criteria : Criteria τ) (expr : Expr) : List Expr.Path :=
  expr.paths.filter fun path => criteria.Exposed expr path

/-- The paths to the outermost matches, in the order of a walk: nodes that match
and of whose proper ancestors none does. -/
def outermost (criteria : Criteria τ) (expr : Expr) : List Expr.Path :=
  (criteria.visited expr).filter fun path => criteria.selectsAt expr path

def visitedNodes (criteria : Criteria τ) (expr : Expr) : List Expr :=
  (criteria.visited expr).filterMap expr.at?

/-- The targets that the outermost matches are. -/
def targets (criteria : Criteria τ) (expr : Expr) : List τ :=
  (criteria.outermost expr).filterMap fun path => criteria.targetAt? expr path

theorem selectsAt_cons (criteria : Criteria τ) {expr child : Expr} {index : Nat}
    (found : expr.children[index]? = some child) (path : Expr.Path) :
    criteria.selectsAt expr (index :: path) = criteria.selectsAt child path := by
  rw [selectsAt, Expr.at?_cons, found, Option.bind_some, selectsAt]

theorem exposed_nil (criteria : Criteria τ) (expr : Expr) : criteria.Exposed expr [] := by
  intro depth inside
  cases inside

/-- A node below the root is exposed if the root does not match and the node is
exposed in the child that it lies in. -/
theorem exposed_cons (criteria : Criteria τ) {expr child : Expr} {index : Nat}
    (found : expr.children[index]? = some child) (path : Expr.Path) :
    criteria.Exposed expr (index :: path) ↔
      criteria.selects expr = false ∧ criteria.Exposed child path := by
  constructor
  · intro exposed
    refine ⟨exposed 0 (Nat.succ_pos _), fun depth inside => ?_⟩
    have above := exposed (depth + 1) (Nat.succ_lt_succ inside)
    rwa [List.take_succ_cons, criteria.selectsAt_cons found] at above
  · rintro ⟨notRoot, exposed⟩ depth inside
    cases depth with
    | zero => exact notRoot
    | succ depth =>
        rw [List.take_succ_cons, criteria.selectsAt_cons found]
        exact exposed depth (Nat.lt_of_succ_lt_succ inside)

theorem visited_of_selects (criteria : Criteria τ) {expr : Expr}
    (isMatch : criteria.selects expr = true) : criteria.visited expr = [[]] := by
  have hidden : (expr.intoChildren Expr.paths).filter
      (fun path => criteria.Exposed expr path) = [] := by
    rw [expr.filter_intoChildren _ _ fun _ _ => false]
    · simp [Expr.intoChildren]
    · intro index child found path
      simp [criteria.exposed_cons found, isMatch]
  rw [visited, Expr.paths_eq, List.filter_cons_of_pos (by simpa using criteria.exposed_nil expr),
    hidden]

theorem visited_of_not_selects (criteria : Criteria τ) {expr : Expr}
    (noMatch : criteria.selects expr = false) :
    criteria.visited expr = [] :: expr.intoChildren criteria.visited := by
  have shown : (expr.intoChildren Expr.paths).filter (fun path => criteria.Exposed expr path) =
      expr.intoChildren criteria.visited := by
    apply expr.filter_intoChildren
    intro index child found path
    simp [criteria.exposed_cons found, noMatch]
  rw [visited, Expr.paths_eq, List.filter_cons_of_pos (by simpa using criteria.exposed_nil expr),
    shown]

theorem outermost_of_selects (criteria : Criteria τ) {expr : Expr}
    (isMatch : criteria.selects expr = true) : criteria.outermost expr = [[]] := by
  rw [outermost, criteria.visited_of_selects isMatch]
  exact List.filter_cons_of_pos isMatch

theorem outermost_of_not_selects (criteria : Criteria τ) {expr : Expr}
    (noMatch : criteria.selects expr = false) :
    criteria.outermost expr = expr.intoChildren criteria.outermost := by
  have notRoot : ¬ criteria.selectsAt expr [] = true := by
    intro isMatch
    exact Bool.false_ne_true (noMatch.symm.trans isMatch)
  rw [outermost, criteria.visited_of_not_selects noMatch, List.filter_cons_of_neg notRoot]
  apply expr.filter_intoChildren
  intro index child found path
  exact criteria.selectsAt_cons found path

theorem visitedNodes_of_selects (criteria : Criteria τ) {expr : Expr}
    (isMatch : criteria.selects expr = true) : criteria.visitedNodes expr = [expr] := by
  rw [visitedNodes, criteria.visited_of_selects isMatch]
  rfl

theorem visitedNodes_of_not_selects (criteria : Criteria τ) {expr : Expr}
    (noMatch : criteria.selects expr = false) :
    criteria.visitedNodes expr = expr :: expr.children.flatMap criteria.visitedNodes := by
  rw [visitedNodes, criteria.visited_of_not_selects noMatch,
    List.filterMap_cons_some (Expr.at?_nil expr),
    expr.filterMap_intoChildren _ _ fun child path => child.at? path]
  · rfl
  · intro index child found path _
    rw [Expr.at?_cons, found, Option.bind_some]

/-- Matches are counted among paths as they are among the nodes there. -/
theorem countP_selectsAt (criteria : Criteria τ) (expr : Expr) (paths : List Expr.Path) :
    paths.countP (criteria.selectsAt expr) =
      (paths.filterMap expr.at?).countP criteria.selects := by
  rw [List.countP_filterMap]
  apply List.countP_congr
  intro path _
  rw [selectsAt]
  cases expr.at? path <;> simp

/-- There are as many outermost matches as visited expressions that match. -/
theorem length_outermost (criteria : Criteria τ) (expr : Expr) :
    (criteria.outermost expr).length = (criteria.visitedNodes expr).countP criteria.selects := by
  rw [outermost, ← List.countP_eq_length_filter, visitedNodes, criteria.countP_selectsAt]

/-- The targets of a tree are those among the visited expressions. -/
theorem targets_eq (criteria : Criteria τ) (expr : Expr) :
    criteria.targets expr = (criteria.visitedNodes expr).filterMap criteria.target? := by
  rw [targets, outermost, visitedNodes, List.filterMap_filter, List.filterMap_filterMap]
  apply List.filterMap_congr
  intro path _
  rw [selectsAt, targetAt?]
  cases expr.at? path with
  | none => rfl
  | some node =>
      rw [Option.any_some, Option.bind_some, ← criteria.isSome_target? node]
      cases criteria.target? node <;> rfl

theorem isSome_at?_of_mem_outermost (criteria : Criteria τ) {expr : Expr} {path : Expr.Path}
    (member : path ∈ criteria.outermost expr) : (expr.at? path).isSome := by
  have isMatch : criteria.selectsAt expr path = true := (List.mem_filter.mp member).2
  rw [selectsAt] at isMatch
  rcases (Option.any_eq_true _ _).mp isMatch with ⟨node, found, _⟩
  exact Option.isSome_iff_exists.mpr ⟨node, found⟩

/-- A list of what is found at each of some paths skips none of them if something is found
at each. -/
theorem map_some_filterMap {β : Type} {paths : List Expr.Path}
    {look : Expr.Path → Option β} (each : ∀ path ∈ paths, (look path).isSome) :
    (paths.filterMap look).map some = paths.map look := by
  rw [List.map_filterMap]
  apply List.filterMap_eq_map_iff_forall_eq_some.mpr
  intro path member
  rcases Option.isSome_iff_exists.mp (each path member) with ⟨found, isFound⟩
  rw [isFound, Option.map_some]

/-- Each outermost match has a target, so the list of targets skips none. -/
theorem map_targetAt?_outermost (criteria : Criteria τ) (expr : Expr) :
    (criteria.outermost expr).map (criteria.targetAt? expr) =
      (criteria.targets expr).map some := by
  refine (map_some_filterMap fun path member => ?_).symm
  have isMatch : criteria.selectsAt expr path = true := (List.mem_filter.mp member).2
  rw [selectsAt] at isMatch
  rcases (Option.any_eq_true _ _).mp isMatch with ⟨node, found, selected⟩
  rw [targetAt?, found, Option.bind_some, criteria.isSome_target?, selected]

/-- No outermost match lies at or below another one. -/
theorem outermost_pairwise (criteria : Criteria τ) (expr : Expr) :
    (criteria.outermost expr).Pairwise fun first second =>
      ¬ first <+: second ∧ ¬ second <+: first := by
  induction expr using Expr.childrenInduction with
  | node expr hypothesis =>
      cases selected : criteria.selects expr with
      | true =>
          rw [criteria.outermost_of_selects selected]
          exact List.pairwise_singleton _ _
      | false =>
          rw [criteria.outermost_of_not_selects selected]
          apply expr.pairwise_intoChildren
          · intro index child member
            apply (hypothesis child member).imp
            intro first second separate
            simpa only [List.cons_prefix_cons, true_and] using separate
          · intro index later earlier first second
            simp only [List.cons_prefix_cons]
            omega

end Criteria

/-!
## Replacement as one pass over the visited nodes

A replacer recurses through the tree and rebuilds it on the way back.  Its
effects do not depend on this: they are those of one `pass` over the list of
visited nodes, which asks the criteria about each of them and runs the transform
on the matches.  `replaceIn_eq_pass` splits a replacement into the pass, which
has all the effects, and a graft of the outputs, which has none.  What is to be
said about the order of runs, about failures or about contexts can so be said of
a list.
-/

/-- The outermost matches stand apart, so that an output for each of them can be
grafted in. -/
theorem Criteria.graft_patched_outermost {τ : Type} (criteria : Criteria τ) {expr : Expr}
    {outputs : List Expr} (sameLength : outputs.length = (criteria.outermost expr).length) :
    expr.Patched ((criteria.outermost expr).zip outputs)
      (expr.graft ((criteria.outermost expr).zip outputs)) := by
  have patchPaths : ((criteria.outermost expr).zip outputs).map Prod.fst =
      criteria.outermost expr :=
    List.map_fst_zip (Nat.le_of_eq sameLength.symm)
  apply Expr.graft_patched
  · apply Expr.apart_of_paths
    rw [patchPaths]
    exact criteria.outermost_pairwise expr
  · intro patch member
    apply criteria.isSome_at?_of_mem_outermost
    rw [← patchPaths]
    exact List.mem_map_of_mem member

namespace Replacer

variable {τ σ : Type}

/-- Asks the criteria about each expression in turn and runs the transform on
the targets.  The outputs are collected; the first failure ends the pass. -/
def pass (replacer : Replacer τ σ) :
    List Expr → ExceptT Failure (Action (Session σ)) (List Expr)
  | [] => pure []
  | expr :: rest => do
      ExceptT.lift (Session.ask expr)
      match replacer.criteria.select expr with
      | .matched target =>
          ExceptT.lift (Session.matched expr.kind)
          let output ← ExceptT.mk (Session.hook (replacer.transform target))
          (output :: ·) <$> replacer.pass rest
      | .rejected _ => replacer.pass rest

theorem pass_cons_of_matched (replacer : Replacer τ σ) {expr : Expr} {target : τ}
    (isMatch : replacer.criteria.select expr = .matched target) (rest : List Expr) :
    replacer.pass (expr :: rest) = (do
      ExceptT.lift (Session.ask expr)
      ExceptT.lift (Session.matched expr.kind)
      let output ← ExceptT.mk (Session.hook (replacer.transform target))
      (output :: ·) <$> replacer.pass rest) := by
  rw [pass, isMatch]

theorem pass_cons_of_rejected (replacer : Replacer τ σ) {expr back : Expr}
    (noMatch : replacer.criteria.select expr = .rejected back) (rest : List Expr) :
    replacer.pass (expr :: rest) = (do
      ExceptT.lift (Session.ask expr)
      replacer.pass rest) := by
  rw [pass, noMatch]

/-- A pass over two lists is a pass over the first and then one over the second. -/
theorem pass_append (replacer : Replacer τ σ) (first second : List Expr) :
    replacer.pass (first ++ second) = (do
      let outputs ← replacer.pass first
      let others ← replacer.pass second
      pure (outputs ++ others)) := by
  induction first with
  | nil => simp [pass]
  | cons expr rest hypothesis =>
      rw [List.cons_append]
      cases selected : replacer.criteria.select expr with
      | matched target =>
          rw [replacer.pass_cons_of_matched selected, replacer.pass_cons_of_matched selected,
            hypothesis]
          simp
      | rejected back =>
          rw [replacer.pass_cons_of_rejected selected, replacer.pass_cons_of_rejected selected,
            hypothesis]
          simp

/-- What follows a pass may rely on one output for each match. -/
theorem pass_bind_congr {β : Type} (replacer : Replacer τ σ) (exprs : List Expr)
    {next other : List Expr → ExceptT Failure (Action (Session σ)) β}
    (agree : ∀ outputs : List Expr,
      outputs.length = exprs.countP replacer.criteria.selects → next outputs = other outputs) :
    replacer.pass exprs >>= next = replacer.pass exprs >>= other := by
  induction exprs generalizing next other with
  | nil => simpa [pass] using agree []
  | cons expr rest hypothesis =>
      cases selected : replacer.criteria.select expr with
      | matched target =>
          have isMatch := Criteria.selects_of_matched selected
          rw [replacer.pass_cons_of_matched selected]
          simp only [bind_assoc, bind_map_left]
          refine bind_congr fun _ => bind_congr fun _ => bind_congr fun output => ?_
          apply hypothesis
          intro outputs sameLength
          apply agree
          rw [List.countP_cons_of_pos isMatch, List.length_cons, sameLength]
      | rejected back =>
          have noMatch := Bool.eq_false_iff.mp (Criteria.selects_of_rejected selected)
          rw [replacer.pass_cons_of_rejected selected]
          simp only [bind_assoc]
          refine bind_congr fun _ => ?_
          apply hypothesis
          intro outputs sameLength
          apply agree
          rw [List.countP_cons_of_neg noMatch, sameLength]

/-- The patches that put outputs at the outermost matches of siblings, which are
numbered from `first`. -/
private def siblingPatches (criteria : Criteria τ) (first : Nat) (siblings outputs : List Expr) :
    List Expr.Patch :=
  ((siblings.zipIdx first).flatMap fun child =>
    (criteria.outermost child.1).map (child.2 :: ·)).zip outputs

private theorem siblingPatches_cons (criteria : Criteria τ) (first : Nat) (child : Expr)
    (rest : List Expr) {outputs : List Expr} (others : List Expr)
    (sameLength : outputs.length = (criteria.outermost child).length) :
    siblingPatches criteria first (child :: rest) (outputs ++ others) =
      ((criteria.outermost child).zip outputs).map (fun patch => (first :: patch.1, patch.2)) ++
        siblingPatches criteria (first + 1) rest others := by
  rw [siblingPatches, siblingPatches, List.zipIdx_cons, List.flatMap_cons,
    List.zip_append (by rw [List.length_map, sameLength]), List.zip_map_left]
  rfl

/-- Patches of siblings lie in children of their numbers. -/
private theorem head?_of_mem_siblingPatches {criteria : Criteria τ} {first : Nat}
    {siblings outputs : List Expr} {patch : Expr.Patch}
    (member : patch ∈ siblingPatches criteria first siblings outputs) :
    ∃ index, first ≤ index ∧ patch.1.head? = some index := by
  have inPaths := (List.of_mem_zip (a := patch.1) (b := patch.2) member).1
  rcases List.mem_flatMap.mp inPaths with ⟨child, isChild, inChild⟩
  rcases List.mem_map.mp inChild with ⟨path, _, isPath⟩
  exact ⟨child.2, List.le_snd_of_mem_zipIdx isChild, isPath ▸ rfl⟩

private theorem within_siblingPatches_head (criteria : Criteria τ) (first : Nat) (child : Expr)
    (rest : List Expr) {outputs : List Expr} (others : List Expr)
    (sameLength : outputs.length = (criteria.outermost child).length) :
    Expr.within first (siblingPatches criteria first (child :: rest) (outputs ++ others)) =
      (criteria.outermost child).zip outputs := by
  have elsewhere : Expr.within first (siblingPatches criteria (first + 1) rest others) = [] := by
    apply Expr.within_eq_nil
    intro patch member isFirst
    rcases head?_of_mem_siblingPatches member with ⟨index, later, isIndex⟩
    have same : index = first := Option.some.inj (isIndex.symm.trans isFirst)
    omega
  rw [siblingPatches_cons criteria first child rest others sameLength, Expr.within_append,
    Expr.within_map_cons, elsewhere, List.append_nil]

private theorem within_siblingPatches_tail (criteria : Criteria τ) {first index : Nat}
    (later : first < index) (child : Expr) (rest : List Expr) {outputs : List Expr}
    (others : List Expr) (sameLength : outputs.length = (criteria.outermost child).length) :
    Expr.within index (siblingPatches criteria first (child :: rest) (outputs ++ others)) =
      Expr.within index (siblingPatches criteria (first + 1) rest others) := by
  have elsewhere : Expr.within index (((criteria.outermost child).zip outputs).map
      fun patch => (first :: patch.1, patch.2)) = [] := by
    apply Expr.within_eq_nil
    intro patch member isIndex
    rcases List.mem_map.mp member with ⟨_, _, rfl⟩
    have same : first = index := Option.some.inj isIndex
    omega
  rw [siblingPatches_cons criteria first child rest others sameLength, Expr.within_append,
    elsewhere, List.nil_append]

/-- If replacing in each sibling is a pass and a graft, then so is replacing in
all of them: one pass over the nodes of all siblings, whose outputs are dealt
out from left to right. -/
private theorem mapM_replaceIn (replacer : Replacer τ σ) (first : Nat) (siblings : List Expr)
    (each : ∀ child ∈ siblings, replacer.replaceIn child =
      (fun outputs => child.graft ((replacer.criteria.outermost child).zip outputs)) <$>
        replacer.pass (replacer.criteria.visitedNodes child)) :
    siblings.mapM replacer.replaceIn =
      (fun outputs => (siblings.zipIdx first).map fun child => child.1.graft
        (Expr.within child.2 (siblingPatches replacer.criteria first siblings outputs))) <$>
        replacer.pass (siblings.flatMap replacer.criteria.visitedNodes) := by
  induction siblings generalizing first with
  | nil => simp [pass]
  | cons child rest hypothesis =>
      have inRest := hypothesis (first + 1) fun other member =>
        each other (List.mem_cons_of_mem _ member)
      rw [List.mapM_cons, each child List.mem_cons_self, inRest, List.flatMap_cons,
        replacer.pass_append]
      simp only [bind_map_left, map_bind, map_pure]
      apply replacer.pass_bind_congr
      intro outputs counted
      have sameLength : outputs.length = (replacer.criteria.outermost child).length := by
        rw [counted, replacer.criteria.length_outermost]
      refine bind_congr fun others => congrArg pure ?_
      rw [List.zipIdx_cons, List.map_cons,
        within_siblingPatches_head replacer.criteria first child rest others sameLength]
      congr 1
      apply List.map_congr_left
      intro other member
      rw [within_siblingPatches_tail replacer.criteria
        (List.le_snd_of_mem_zipIdx member) child rest others sameLength]

private theorem lookup_root_siblingPatches (criteria : Criteria τ) (first : Nat)
    (siblings outputs : List Expr) :
    (siblingPatches criteria first siblings outputs).lookup [] = none := by
  apply List.lookup_eq_none_iff.mpr
  intro patch member
  rcases head?_of_mem_siblingPatches member with ⟨index, _, isIndex⟩
  apply bne_iff_ne.mpr
  intro isRoot
  rw [← isRoot] at isIndex
  cases isIndex

/-- With a criteria that hands back what it rejects, a replacement is one pass
over the visited nodes, and its result is the tree with the outputs of the pass
grafted in at the outermost matches. -/
theorem replaceIn_eq_pass (replacer : Replacer τ σ) (handsBack : replacer.criteria.HandsBack)
    (expr : Expr) :
    replacer.replaceIn expr =
      (fun outputs => expr.graft ((replacer.criteria.outermost expr).zip outputs)) <$>
        replacer.pass (replacer.criteria.visitedNodes expr) := by
  induction expr using Expr.childrenInduction with
  | node expr hypothesis =>
      rw [replaceIn_eq]
      cases selected : replacer.criteria.select expr with
      | matched target =>
          have isMatch := Criteria.selects_of_matched selected
          have atRoot : ∀ output, expr.graft ([([], output)]) = output := fun output =>
            Expr.graft_of_root expr rfl
          rw [replacer.criteria.visitedNodes_of_selects isMatch,
            replacer.criteria.outermost_of_selects isMatch, replacer.pass_cons_of_matched selected]
          simp [pass, atRoot]
      | rejected back =>
          have noMatch := Criteria.selects_of_rejected selected
          have children := replacer.mapM_replaceIn 0 expr.children hypothesis
          have rebuilt : ∀ outputs, expr.withChildren ((expr.children.zipIdx).map fun child =>
              child.1.graft (Expr.within child.2
                (siblingPatches replacer.criteria 0 expr.children outputs))) =
              expr.graft ((expr.intoChildren replacer.criteria.outermost).zip outputs) :=
            fun outputs => (expr.graft_of_not_root
              (lookup_root_siblingPatches replacer.criteria 0 expr.children outputs)).symm
          rw [replacer.criteria.visitedNodes_of_not_selects noMatch,
            replacer.criteria.outermost_of_not_selects noMatch,
            replacer.pass_cons_of_rejected selected]
          dsimp only
          rw [handsBack selected, Expr.mapChildren_eq, children]
          simp only [map_bind, Functor.map_map, rebuilt]

end Replacer

end MarkedTree
