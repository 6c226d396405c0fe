import Mathlib
import MarkedTree.Proofs.Replacement.Run
import MarkedTree.Proofs.Replacement.SideBySide
import MarkedTree.Proofs.Replacement.Slotwise

/-!
# What the criteria is asked about

A criteria that hands back is asked about nodes of the input only, in the order in
which they are visited, slot after slot.  A failure cuts this short.  What a host
learns of a match is therefore what stood in the input.
-/

namespace MarkedTree

namespace Replacer

variable {τ σ : Type} {α β : Type}

/-- The work asks about these expressions one after the other, and about all of them
unless it fails. -/
def AsksAlong (exprs : List Expr) (work : ExceptT Failure (Action (Session σ)) α) : Prop :=
  ∀ session, ∃ asked, asked <+: exprs ∧
    (work.run.run session).context.asked = asked.reverse ++ session.asked ∧
    ∀ value, (work.run.run session).result = .ok value → asked = exprs

namespace AsksAlong

theorem nothing {work : ExceptT Failure (Action (Session σ)) α}
    (noneAsked : ∀ session, (work.run.run session).context.asked = session.asked) :
    AsksAlong [] work :=
  fun session => ⟨[], List.prefix_refl [], noneAsked session, fun _ _ => rfl⟩

theorem bind {exprs more : List Expr} {work : ExceptT Failure (Action (Session σ)) α}
    {next : α → ExceptT Failure (Action (Session σ)) β} (asks : AsksAlong exprs work)
    (nextAsks : ∀ value, AsksAlong more (next value)) :
    AsksAlong (exprs ++ more) (work >>= next) := by
  intro session
  rcases asks session with ⟨asked, isPrefix, noted, complete⟩
  rw [ExceptT.run_bind, Action.run_bind]
  cases result : (work.run.run session).result with
  | error failure =>
      exact ⟨asked, isPrefix.trans (List.prefix_append exprs more), noted, nofun⟩
  | ok value =>
      rcases nextAsks value (work.run.run session).context with
        ⟨later, isLaterPrefix, laterNoted, laterComplete⟩
      -- The first part has asked about all of its expressions, or it would have failed.
      cases complete value result
      refine ⟨exprs ++ later, (List.prefix_append_right_inj exprs).mpr isLaterPrefix, ?_,
        fun output succeeds => congrArg (exprs ++ ·) (laterComplete output succeeds)⟩
      rw [List.reverse_append, List.append_assoc, ← noted]
      exact laterNoted

theorem map {exprs : List Expr} {work : ExceptT Failure (Action (Session σ)) α}
    (asks : AsksAlong exprs work) (f : α → β) : AsksAlong exprs (f <$> work) := by
  rw [map_eq_pure_bind, ← List.append_nil exprs]
  exact asks.bind fun value => nothing fun _ => rfl

/-- The same operation on each of some inputs. -/
theorem mapM {ι : Type} {visits : ι → List Expr}
    {operation : ι → ExceptT Failure (Action (Session σ)) α}
    (each : ∀ input, AsksAlong (visits input) (operation input)) (inputs : List ι) :
    AsksAlong (inputs.flatMap visits) (inputs.mapM operation) := by
  induction inputs with
  | nil => exact nothing fun _ => rfl
  | cons input rest hypothesis =>
      rw [List.mapM_cons, List.flatMap_cons]
      refine (each input).bind fun value => ?_
      simp only [bind_pure_comp]
      exact hypothesis.map _

end AsksAlong

theorem pass_asksAlong (replacer : Replacer τ σ) (exprs : List Expr) :
    AsksAlong exprs (replacer.pass exprs) := by
  induction exprs with
  | nil => exact .nothing fun _ => rfl
  | cons expr rest hypothesis =>
      have asking : AsksAlong [expr]
          (ExceptT.lift (Session.ask expr) : ExceptT Failure (Action (Session σ)) Unit) :=
        fun session => ⟨[expr], List.prefix_refl [expr], rfl, fun _ _ => rfl⟩
      cases selected : replacer.criteria.select expr with
      | rejected back =>
          rw [replacer.pass_cons_of_rejected selected]
          exact asking.bind fun _ => hypothesis
      | matched target =>
          have matching : AsksAlong [] (ExceptT.lift (Session.matched expr.kind) :
              ExceptT Failure (Action (Session σ)) Unit) := .nothing fun _ => rfl
          have running : AsksAlong [] (ExceptT.mk (Session.hook (replacer.transform target))) :=
            .nothing fun _ => rfl
          rw [replacer.pass_cons_of_matched selected]
          exact asking.bind fun _ => matching.bind fun _ => running.bind fun output =>
            hypothesis.map (output :: ·)

theorem replaceIn_asksAlong (replacer : Replacer τ σ) (handsBack : replacer.criteria.HandsBack)
    (expr : Expr) : AsksAlong (replacer.criteria.visitedNodes expr) (replacer.replaceIn expr) := by
  rw [replacer.replaceIn_eq_pass handsBack]
  exact (replacer.pass_asksAlong _).map _

/-- The slots that a call works on. -/
def Call.slots : Call → List Expr
  | .expr value => [value]
  | .option value => value.toList
  | .slot value => [value]
  | .block value => Block.slots value
  | .method value => value.slots

/-- A call leaves the session as a replacement in each of its slots in turn leaves it. -/
theorem perform_context (replacer : Replacer τ σ) (call : Call) (session : Session σ) :
    ((replacer.perform call).run session).context =
      ((call.slots.mapM replacer.replaceIn).run.run session).context := by
  rw [run_mapM_replaceIn]
  have single : ∀ expr, ((replacer.replaceIn expr).run.run session).context =
      Run.lastContext session (replacer.inSlot.trial session [expr]) :=
    fun expr => (replacer.inSlot.lastContext_trial_singleton session expr).symm
  cases call with
  | expr value => exact single value
  | option value =>
      cases value with
      | none => rfl
      | some value =>
          refine Eq.trans ?_ (single value)
          rw [perform, replaceInOption, ExceptT.run_map, Action.run_map]
  | slot value =>
      refine Eq.trans ?_ (single value)
      rw [perform, run_replaceInSlot]
      dsimp only
      split <;> rfl
  | block value => exact (replacer.replaceInBlock_alongSlots value session).inContext
  | method value => exact (replacer.replaceInMethod_alongSlots value session).inContext

/-- A call fails as a replacement in its slots in turn does. -/
theorem perform_failure (replacer : Replacer τ σ) (call : Call) (session : Session σ) :
    call.failure? ((replacer.perform call).run session).result =
      (replacer.inSlot.trial session call.slots).findSome? Run.failure? := by
  have single : ∀ expr, (replacer.inSlot.trial session [expr]).findSome? Run.failure? =
      Run.failure? ⟨expr, session, (replacer.replaceIn expr).run.run session⟩ :=
    fun expr => replacer.inSlot.findSome?_failure?_trial_singleton session expr
  cases call with
  | expr value =>
      refine Eq.trans ?_ (single value).symm
      rw [perform, Run.failure?]
      cases ((replacer.replaceIn value).run.run session).result <;> rfl
  | option value =>
      cases value with
      | none => rfl
      | some value =>
          refine Eq.trans ?_ (single value).symm
          rw [perform, replaceInOption, ExceptT.run_map, Action.run_map, Run.failure?]
          cases ((replacer.replaceIn value).run.run session).result <;> rfl
  | slot value =>
      refine Eq.trans ?_ (single value).symm
      rw [perform, run_replaceInSlot, inSlot, Run.failure?]
      dsimp only
      cases ((replacer.replaceIn value).run.run session).result <;> rfl
  | block value => exact (replacer.replaceInBlock_alongSlots value session).failed
  | method value => exact (replacer.replaceInMethod_alongSlots value session).failed

/-- With a criteria that hands back, a call asks about the nodes of its slots, in the
order in which they are visited, and about all of them unless it fails. -/
theorem perform_asks (replacer : Replacer τ σ) (handsBack : replacer.criteria.HandsBack)
    (call : Call) (session : Session σ) :
    let nodes := call.slots.flatMap replacer.criteria.visitedNodes
    let reply := (replacer.perform call).run session
    ∃ asked, asked <+: nodes ∧ reply.context.asked = asked.reverse ++ session.asked ∧
      (call.failure? reply.result = none → asked = nodes) := by
  intro nodes reply
  rcases AsksAlong.mapM (replacer.replaceIn_asksAlong handsBack) call.slots session with
    ⟨asked, isPrefix, noted, complete⟩
  refine ⟨asked, isPrefix, by rw [perform_context, noted], fun succeeded => ?_⟩
  rw [perform_failure] at succeeded
  rw [run_mapM_replaceIn, Run.mapM_result, succeeded] at complete
  exact complete _ rfl

end Replacer

/-!
## Visits

A walk comes to all nodes of a tree, a replacement to the visited ones only: below a
match it asks about nothing.  Here the two are compared.  A walk lists the visited nodes
in their order, and after each match the descendants of it that the replacement passes
over (`walk_eq_flatMap_visitedNodes`).  How many nodes are visited, and that without a
match all of them are, can be read off this.
-/

/-- The nodes below the root, in the order of a walk. -/
def Expr.descendants (expr : Expr) : List Expr :=
  expr.children.flatMap walk

theorem Expr.walk_eq_cons_descendants (expr : Expr) : expr.walk = expr :: expr.descendants :=
  expr.walk_eq

namespace Criteria

variable {τ : Type}

theorem mem_visited_iff (criteria : Criteria τ) {expr : Expr} {path : Expr.Path} :
    path ∈ criteria.visited expr ↔ (expr.at? path).isSome ∧ criteria.Exposed expr path := by
  rw [visited, List.mem_filter, Expr.mem_paths_iff, decide_eq_true_iff]

/-- No node is visited twice. -/
theorem count_visited (criteria : Criteria τ) (expr : Expr) (path : Expr.Path) :
    (criteria.visited expr).count path =
      if (expr.at? path).isSome ∧ criteria.Exposed expr path then 1 else 0 := by
  have once : (criteria.visited expr).Nodup := expr.paths_nodup.filter _
  rw [once.count]
  exact if_congr criteria.mem_visited_iff rfl rfl

/-- The visited expressions are the nodes at the visited paths. -/
theorem map_at?_visited (criteria : Criteria τ) (expr : Expr) :
    (criteria.visited expr).map expr.at? = (criteria.visitedNodes expr).map some :=
  (map_some_filterMap fun _ member => (criteria.mem_visited_iff.mp member).1).symm

/-- The nodes that match and of whose proper ancestors none does. -/
def outermostNodes (criteria : Criteria τ) (expr : Expr) : List Expr :=
  (criteria.outermost expr).filterMap expr.at?

theorem outermostNodes_eq (criteria : Criteria τ) (expr : Expr) :
    criteria.outermostNodes expr = (criteria.visitedNodes expr).filter criteria.selects := by
  rw [outermostNodes, outermost, visitedNodes, List.filterMap_filter, List.filter_filterMap]
  apply List.filterMap_congr
  intro path _
  rw [selectsAt]
  cases expr.at? path <;> rfl

/-- A walk lists the visited nodes, and after each of them that matches all that is
below it. -/
theorem walk_eq_flatMap_visitedNodes (criteria : Criteria τ) (expr : Expr) :
    expr.walk = (criteria.visitedNodes expr).flatMap fun node =>
      if criteria.selects node then node.walk else [node] := by
  induction expr using Expr.childrenInduction with
  | node expr hypothesis =>
      cases selected : criteria.selects expr with
      | true =>
          rw [criteria.visitedNodes_of_selects selected, List.flatMap_singleton, if_pos selected]
      | false =>
          rw [criteria.visitedNodes_of_not_selects selected, List.flatMap_cons,
            if_neg (Bool.eq_false_iff.mp selected), List.flatMap_assoc, expr.walk_eq,
            List.singleton_append]
          exact congrArg (expr :: ·) (List.flatMap_congr hypothesis)

/-- The nodes of a tree are those that are visited and those below the outermost matches. -/
theorem length_visitedNodes_add (criteria : Criteria τ) (expr : Expr) :
    (criteria.visitedNodes expr).length +
        ((criteria.outermostNodes expr).map fun node => node.descendants.length).sum =
      expr.walk.length := by
  rw [criteria.walk_eq_flatMap_visitedNodes expr, criteria.outermostNodes_eq]
  induction criteria.visitedNodes expr with
  | nil => rfl
  | cons node rest hypothesis =>
      rw [List.flatMap_cons, List.length_append, ← hypothesis]
      cases selected : criteria.selects node with
      | true =>
          rw [List.filter_cons_of_pos selected, if_pos rfl, node.walk_eq_cons_descendants]
          simp only [List.map_cons, List.sum_cons, List.length_cons]
          omega
      | false =>
          rw [List.filter_cons_of_neg (Bool.eq_false_iff.mp selected)]
          simp only [List.length_cons, Bool.false_eq_true, if_false, List.length_nil]
          omega

/-- If no node of a tree matches, all of them are visited. -/
theorem visitedNodes_eq_walk (criteria : Criteria τ) {expr : Expr}
    (noMatch : ∀ node ∈ expr.walk, criteria.selects node = false) :
    criteria.visitedNodes expr = expr.walk := by
  induction expr using Expr.childrenInduction with
  | node expr hypothesis =>
      rw [expr.walk_eq] at noMatch ⊢
      rcases List.forall_mem_cons.mp noMatch with ⟨notRoot, below⟩
      rw [criteria.visitedNodes_of_not_selects notRoot]
      apply congrArg (expr :: ·)
      apply List.flatMap_congr
      intro child member
      apply hypothesis child member
      intro node inside
      exact below node (List.mem_flatMap.mpr ⟨child, member, inside⟩)

end Criteria

namespace Replacer

variable {τ σ : Type}

theorem run_pass_of_noMatch (replacer : Replacer τ σ) {exprs : List Expr}
    (noMatch : ∀ expr ∈ exprs, replacer.criteria.selects expr = false) (session : Session σ) :
    (replacer.pass exprs).run.run session =
      ⟨.ok [], { session with asked := exprs.reverse ++ session.asked }, []⟩ := by
  induction exprs generalizing session with
  | nil => rfl
  | cons expr rest hypothesis =>
      rcases List.forall_mem_cons.mp noMatch with ⟨notFirst, notLater⟩
      cases selected : replacer.criteria.select expr with
      | matched target =>
          cases notFirst.symm.trans (Criteria.selects_of_matched selected)
      | rejected back =>
          rw [replacer.run_pass_of_rejected selected, hypothesis notLater, List.reverse_cons,
            List.append_assoc, List.singleton_append]

/-- In a tree without a match a replacement asks about every node and does nothing else. -/
theorem run_replaceIn_of_noMatch (replacer : Replacer τ σ)
    (handsBack : replacer.criteria.HandsBack) {expr : Expr}
    (noMatch : ∀ node ∈ expr.walk, replacer.criteria.selects node = false)
    (session : Session σ) :
    (replacer.replaceIn expr).run.run session =
      ⟨.ok expr, { session with asked := expr.walk.reverse ++ session.asked }, []⟩ := by
  have unchanged : expr.graft ((replacer.criteria.outermost expr).zip []) = expr := by
    rw [List.zip_nil_right, expr.graft_nil]
  rw [replacer.replaceIn_eq_pass handsBack, replacer.criteria.visitedNodes_eq_walk noMatch,
    ExceptT.run_map, Action.run_map, replacer.run_pass_of_noMatch noMatch]
  dsimp only [Except.map]
  rw [unchanged]

/-- In a tree without a match the transform does not run. -/
theorem runsIn_of_noMatch (replacer : Replacer τ σ) (handsBack : replacer.criteria.HandsBack)
    {expr : Expr} (noMatch : ∀ node ∈ expr.walk, replacer.criteria.selects node = false)
    (session : Session σ) : replacer.runsIn expr session = [] := by
  rw [runsIn, replacer.logged.run_replaceIn_of_noMatch handsBack noMatch]

/-- If no run of the transform fails, a replacement asks about each visited node once, in
the order of a walk, always about the node as it stands in the tree, and about nothing
else.  What it has asked about and what lies below the outermost matches is together as
much as a walk comes to; without a match it asks along the whole walk. -/
theorem replaceIn_asksEachOnce (replacer : Replacer τ σ)
    (handsBack : replacer.criteria.HandsBack) (expr : Expr) (session : Session σ)
    (noFailure : ∀ run ∈ replacer.runsIn expr session, run.output?.isSome) :
    let reply := (replacer.replaceIn expr).run.run session
    ∃ (places : List Expr.Path) (asked : List Expr),
      reply.context.asked = asked.reverse ++ session.asked ∧
      places.map expr.at? = asked.map some ∧
      (∀ path, places.count path =
        if (expr.at? path).isSome ∧ replacer.criteria.Exposed expr path then 1 else 0) ∧
      (places.Sublist expr.paths ∧ expr.paths.map expr.at? = expr.walk.map some) ∧
      asked.length +
          ((replacer.criteria.outermostNodes expr).map fun node => node.descendants.length).sum =
        expr.walk.length ∧
      ((∀ node ∈ expr.walk, replacer.criteria.selects node = false) → asked = expr.walk) := by
  intro reply
  have succeeds := replacer.result_replaceIn_of_success handsBack noFailure
  rcases replacer.replaceIn_asksAlong handsBack expr session with ⟨asked, _, noted, complete⟩
  cases complete _ succeeds
  exact ⟨replacer.criteria.visited expr, replacer.criteria.visitedNodes expr, noted,
    replacer.criteria.map_at?_visited expr, replacer.criteria.count_visited expr,
    ⟨List.filter_sublist, expr.paths_map_at?⟩, replacer.criteria.length_visitedNodes_add expr,
    replacer.criteria.visitedNodes_eq_walk⟩

theorem replaceIn_asksEachOnce_numberedLogs :
    (∀ run ∈ numberedLogs.runsIn nestedLogs ⟨0, 0, []⟩, run.output?.isSome) ∧
      ((numberedLogs.replaceIn nestedLogs).run.run ⟨0, 0, []⟩).context.asked.length + 1 =
        nestedLogs.walk.length := by
  have below : ((numberedLogs.criteria.outermostNodes nestedLogs).map
      fun node => node.descendants.length).sum = 1 := by cbv
  rcases numberedLogs.replaceIn_asksEachOnce numberedLogs_handsBack nestedLogs ⟨0, 0, []⟩
    numberedLogs_succeeds with ⟨_, asked, noted, _, _, _, counted, _⟩
  rw [below] at counted
  refine ⟨numberedLogs_succeeds, ?_⟩
  rw [noted, List.append_nil, List.length_reverse]
  exact counted

end Replacer

end MarkedTree
