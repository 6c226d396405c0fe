import Mathlib.Data.List.Permutation
import MarkedTree.Proofs.Replacement.Run
import MarkedTree.Proofs.Replacement.Slotwise

/-!
# Where a failing replacement stops

A run of the transform that fails is the last one.  The main statement says what
is left behind then: the runs that there were, the context and the count that
they left, and the nodes that the criteria was asked about.  These nodes are
named by their paths, since a tree may hold equal expressions at several places.
-/

namespace MarkedTree

namespace Criteria

variable {τ : Type}

/-- A visited node divides the paths of the tree into those before its own path
and those after it.  The nodes visited before it are the exposed ones among the
former, and if it matches, it is the outermost match with the number of those
among them that match. -/
theorem exists_path_of_visitedNodes (criteria : Criteria τ) {expr node : Expr}
    {before after : List Expr} (divided : criteria.visitedNodes expr = before ++ node :: after)
    (isMatch : criteria.selects node = true) :
    ∃ prior path later, expr.paths = prior ++ path :: later ∧
      (criteria.outermost expr)[before.countP criteria.selects]? = some path ∧
      ((prior.filter fun other => criteria.Exposed expr other) ++ [path]).filterMap expr.at? =
        before ++ [node] := by
  rw [visitedNodes, visited, List.filterMap_filter] at divided
  rcases List.filterMap_eq_append_iff.mp divided with ⟨first, rest, allPaths, isBefore, isRest⟩
  -- Between the nodes before and this one there may be paths below a match (`hidden`).
  rcases List.filterMap_eq_cons_iff.mp isRest with
    ⟨hidden, path, later, isSecond, noNodes, isNode, _⟩
  have exposed : criteria.Exposed expr path := by
    by_contra covered
    rw [if_neg (by simpa using covered)] at isNode
    cases isNode
  have found : expr.at? path = some node := by
    rwa [if_pos (by simpa using exposed)] at isNode
  have nodesBefore : ((first ++ hidden).filter fun other =>
      criteria.Exposed expr other).filterMap expr.at? = before := by
    rw [List.filterMap_filter, List.filterMap_append, isBefore,
      List.filterMap_eq_nil_iff.mpr noNodes, List.append_nil]
  refine ⟨first ++ hidden, path, later, ?_, ?_, ?_⟩
  · rw [allPaths, isSecond, List.append_assoc]
  · have matchesBefore : before.countP criteria.selects =
        (((first ++ hidden).filter fun other => criteria.Exposed expr other).filter
          fun other => criteria.selectsAt expr other).length := by
      rw [← nodesBefore, ← criteria.countP_selectsAt, List.countP_eq_length_filter]
    have selected : criteria.selectsAt expr path = true := by
      rw [selectsAt, found]
      exact isMatch
    rw [outermost, visited, allPaths, isSecond, ← List.append_assoc, List.filter_append,
      List.filter_cons_of_pos (by simpa using exposed), List.filter_append,
      List.filter_cons_of_pos selected, matchesBefore, List.getElem?_append_right (Nat.le_refl _),
      Nat.sub_self, List.getElem?_cons_zero]
  · rw [List.filterMap_append, nodesBefore, List.filterMap_cons_some found, List.filterMap_nil]

end Criteria

namespace Replacer

variable {τ σ : Type}

/-- A pass in which a run of the transform fails ends there.  It has asked about
the expressions up to the match that the run was for, and about no other. -/
theorem run_pass_of_failure (replacer : Replacer τ σ) (exprs : List Expr) (session : Session σ)
    {run : Run τ σ} {failure : Failure} (fails : run.reply.result = .error failure)
    (isRun : run ∈ replacer.transform.trial session.context
      (exprs.filterMap replacer.criteria.target?)) :
    ∃ before expr after, exprs = before ++ expr :: after ∧
      replacer.criteria.selects expr = true ∧
      (replacer.transform.trial session.context
        (exprs.filterMap replacer.criteria.target?)).length =
          before.countP replacer.criteria.selects + 1 ∧
      ((replacer.pass exprs).run.run session).result = .error failure ∧
      ((replacer.pass exprs).run.run session).context =
        ⟨run.reply.context, session.replacements + (before.countP replacer.criteria.selects + 1),
          (before ++ [expr]).reverse ++ session.asked⟩ := by
  induction exprs generalizing session with
  | nil => cases isRun
  | cons expr rest hypothesis =>
      cases selected : replacer.criteria.select expr with
      | rejected back =>
          have noMatch := Bool.eq_false_iff.mp (Criteria.selects_of_rejected selected)
          rw [List.filterMap_cons_none (Criteria.target?_of_rejected selected)] at isRun ⊢
          rcases hypothesis { session with asked := expr :: session.asked } isRun with
            ⟨before, last, after, divided, isMatch, counted, result, left⟩
          rw [replacer.run_pass_of_rejected selected]
          refine ⟨expr :: before, last, after, by rw [divided]; rfl, isMatch, ?_, result, ?_⟩
          · rw [List.countP_cons_of_neg noMatch]
            exact counted
          · rw [left, List.countP_cons_of_neg noMatch]
            simp
      | matched target =>
          have isMatch := Criteria.selects_of_matched selected
          rw [List.filterMap_cons_some (Criteria.target?_of_matched selected)] at isRun ⊢
          rw [replacer.run_pass_of_matched selected]
          cases result : ((replacer.transform target).run session.context).result with
          | error other =>
              rw [replacer.transform.trial_cons_of_error result] at isRun ⊢
              cases List.mem_singleton.mp isRun
              cases result.symm.trans fails
              dsimp only
              rw [result]
              exact ⟨[], expr, rest, rfl, isMatch, rfl, rfl, rfl⟩
          | ok output =>
              rw [replacer.transform.trial_cons_of_ok result] at isRun ⊢
              dsimp only
              rw [result]
              rcases List.mem_cons.mp isRun with rfl | inRest
              · cases result.symm.trans fails
              · rcases hypothesis ⟨_, _, _⟩ inRest with
                  ⟨before, last, after, divided, isLast, counted, restResult, left⟩
                refine ⟨expr :: before, last, after, by rw [divided]; rfl, isLast, ?_, ?_, ?_⟩
                · rw [List.countP_cons_of_pos isMatch, List.length_cons, counted]
                · exact congrArg (Except.map (output :: ·)) restResult
                · refine left.trans ?_
                  rw [List.countP_cons_of_pos isMatch]
                  simp [Nat.add_assoc, Nat.add_comm 1]

/-- What a replacement leaves behind whose run of number `index`, counted from
zero, fails. -/
structure Stops (replacer : Replacer τ σ) (expr : Expr) (session : Session σ) (index : Nat)
    (run : Run τ σ) (failure : Failure) : Prop where
  result : ((replacer.replaceIn expr).run.run session).result = .error failure
  noMoreRuns : (replacer.runsIn expr session).length = index + 1
  succeeded : ∀ earlier ∈ (replacer.runsIn expr session).take index, earlier.output?.isSome
  onFirstMatches : ((replacer.runsIn expr session).map fun other => some other.target) =
    ((replacer.criteria.outermost expr).take (index + 1)).map (replacer.criteria.targetAt? expr)
  threads : replacer.transform.Threads session.context (replacer.runsIn expr session)
    run.reply.context
  inContext : ((replacer.replaceIn expr).run.run session).context.context = run.reply.context
  counted : ((replacer.replaceIn expr).run.run session).context.replacements =
    session.replacements + (index + 1)
  /-- A counter that stays at its largest value shows the same before it has come to it. -/
  shown : ∀ largest, session.replacements + (index + 1) ≤ largest →
    ((replacer.replaceIn expr).run.run session).context.shown largest =
      session.shown largest + (index + 1)
  /-- The criteria was asked about the exposed nodes before the match of the run,
  about the match, and about no node after it. -/
  asked : ∃ prior path later, expr.paths = prior ++ path :: later ∧
    (replacer.criteria.outermost expr)[index]? = some path ∧
    ((replacer.replaceIn expr).run.run session).context.asked =
      (((prior.filter fun other => replacer.criteria.Exposed expr other) ++ [path]).filterMap
        expr.at?).reverse ++ session.asked

/-- If a run of the transform fails, the replacement ends with its failure and
leaves everything as this run left it.  No later match is reached, and the slot
that held the expression still holds it.  The count is exact; on a counter of limited
size it is so up to the largest value of the counter. -/
theorem replaceIn_stops (replacer : Replacer τ σ) (handsBack : replacer.criteria.HandsBack)
    (expr : Expr) (session : Session σ) {index : Nat} {run : Run τ σ}
    (isRun : (replacer.runsIn expr session)[index]? = some run) {failure : Failure}
    (fails : run.reply.result = .error failure) :
    replacer.Stops expr session index run failure ∧
      (replacer.replaceInSlot expr).run session =
        ⟨⟨expr, some failure⟩, ((replacer.replaceIn expr).run.run session).context,
          ((replacer.replaceIn expr).run.run session).events⟩ ∧
      expr.paths.map expr.at? = expr.walk.map some := by
  have tried : replacer.runsIn expr session =
      replacer.transform.trial session.context (replacer.criteria.targets expr) :=
    replacer.runsIn_eq_trial handsBack expr session
  rw [tried] at isRun
  rcases replacer.transform.trial_of_failure isRun fails with ⟨sameLength, succeed, isLast⟩
  have inPass := List.mem_of_getElem? isRun
  rw [replacer.criteria.targets_eq] at inPass
  rcases replacer.run_pass_of_failure _ session fails inPass with
    ⟨before, node, after, divided, isMatch, counted, passResult, passContext⟩
  rw [← replacer.criteria.targets_eq, sameLength] at counted
  have sameIndex : before.countP replacer.criteria.selects = index := (Nat.succ.inj counted).symm
  rcases replacer.criteria.exists_path_of_visitedNodes divided isMatch with
    ⟨prior, path, later, allPaths, isOutermost, nodes⟩
  have result : ((replacer.replaceIn expr).run.run session).result = .error failure := by
    rw [replacer.replaceIn_eq_pass handsBack, ExceptT.run_map, Action.run_map, passResult]
    rfl
  have left : ((replacer.replaceIn expr).run.run session).context =
      ⟨run.reply.context, session.replacements + (index + 1),
        (before ++ [node]).reverse ++ session.asked⟩ := by
    rw [replacer.replaceIn_eq_pass handsBack, ExceptT.run_map, Action.run_map, passContext,
      sameIndex]
  refine ⟨⟨result, ?_, ?_, ?_, ?_, ?_, ?_, fun largest fits => ?_, prior, path, later, allPaths,
    ?_, ?_⟩, ?_, expr.paths_map_at?⟩
  · rw [tried, sameLength]
  · rw [tried]
    exact succeed
  · have targets := replacer.transform.map_target_trial_eq_take session.context
      (replacer.criteria.targets expr)
    rw [sameLength] at targets
    rw [tried, List.map_take, replacer.criteria.map_targetAt?_outermost, ← List.map_take,
      ← targets, List.map_map]
    rfl
  · rw [tried, ← isLast]
    exact replacer.transform.trial_threads session.context (replacer.criteria.targets expr)
  · rw [left]
  · rw [left]
  · rw [left, Session.shown, Session.shown, Nat.min_eq_left fits,
      Nat.min_eq_left (Nat.le_trans (Nat.le_add_right _ _) fits)]
  · rw [← sameIndex]
    exact isOutermost
  · rw [left, nodes]
  · rw [replaceInSlot, Edited.store, Action.run_bind, result]
    simp

/-- Replaces each call of `log` by its number and refuses the second one. -/
def refusingSecond : Replacer MethodCall Nat where
  criteria := .byCallName "log"
  transform _ := ⟨fun count =>
    ⟨if count = 1 then .error (.failed "second" none) else .ok (.constant (.int (.ofNat count))),
      count + 1, []⟩⟩

/-- Three calls of `log`, of which the second one lies deeper than the others. -/
def threeLogs : Expr :=
  .list [.call none "log" [], .not (.call none "log" []), .call none "log" []]

theorem replaceIn_stops_refusingSecond :
    ∃ run, (refusingSecond.runsIn threeLogs ⟨0, 0, []⟩)[1]? = some run ∧
      run.reply.result = .error (.failed "second" none) ∧ run.reply.context = 2 ∧
      refusingSecond.Stops threeLogs ⟨0, 0, []⟩ 1 run (.failed "second" none) := by
  have handsBack : refusingSecond.criteria.HandsBack := Criteria.narrowing_handsBack _
  have isRun : (refusingSecond.runsIn threeLogs ⟨0, 0, []⟩)[1]? =
      some ⟨⟨none, "log", [], none⟩, 1, .error (.failed "second" none), 2, []⟩ := by
    rw [refusingSecond.runsIn_eq_trial handsBack]
    cbv
  exact ⟨_, isRun, rfl, rfl, (refusingSecond.replaceIn_stops handsBack threeLogs _ isRun rfl).1⟩

end Replacer

/-!
## Edits in place that fail half-way

When the replacement in a slot of a block or of a method fails, the edit ends
there.  The main statement divides the slots at this one: those before it hold
what was made of them, also within the statement that it belongs to, and it and
those behind it hold what they held.  No summary is emitted for what was done.
-/

namespace Replacer

variable {τ σ : Type} {α β : Type}

/-- What an edit in place leaves behind that fails in the slot of number `index`,
counted from zero.  The runs are the replacements in slots that there were. -/
structure StopsAtSlot (replacer : Replacer τ σ) (slots : α → List Expr) (outline : α → β)
    (held : α) (session : Session σ) (reply : Reply (Session σ) (Edited Failure α))
    (runs : List (Run Expr (Session σ))) (index : Nat) (failure : Failure) : Prop where
  failed : reply.result.failure = some failure
  onFirstSlots : runs.map Run.target = (slots held).take (index + 1)
  threads : replacer.inSlot.Threads session runs reply.context
  inSlot : runs[index]?.bind Run.failure? = some failure
  succeeded : ∀ run ∈ runs.take index, run.output?.isSome
  before : (slots reply.result.value).take index = (runs.take index).filterMap Run.output?
  after : (slots reply.result.value).drop index = (slots held).drop index
  sameOutline : outline reply.result.value = outline held
  /-- Only runs of the transform itself can have emitted summaries. -/
  noSummary : reply.events.filter Event.isSummary =
    (runs.flatMap fun run => (replacer.runsIn run.target run.start).flatMap fun inner =>
      inner.reply.events).filter Event.isSummary

/-- The summaries that replacements in slots emit were emitted by the transform
itself. -/
theorem summaries_of_threads (replacer : Replacer τ σ) {first last : Session σ}
    {runs : List (Run Expr (Session σ))} (threads : replacer.inSlot.Threads first runs last) :
    (runs.flatMap fun run => run.reply.events).filter Event.isSummary =
      (runs.flatMap fun run => (replacer.runsIn run.target run.start).flatMap fun inner =>
        inner.reply.events).filter Event.isSummary := by
  rw [List.filter_flatMap, List.filter_flatMap]
  refine List.flatMap_congr fun run member => ?_
  rw [threads.reply_eq member]
  exact replacer.summaries_replaceIn run.target run.start

/-- An edit along the slots stops at the first one that fails. -/
theorem stopsAtSlot_of_alongSlots (replacer : Replacer τ σ) {slots : α → List Expr}
    {outline : α → β} {held : α} {session : Session σ}
    {reply : Reply (Session σ) (Edited Failure α)}
    (along : AlongSlots slots outline held session (replacer.inSlot.trial session (slots held))
      reply) {failure : Failure} (failed : reply.result.failure = some failure) :
    ∃ runs index, replacer.StopsAtSlot slots outline held session reply runs index failure := by
  have threads := replacer.inSlot.trial_threads session (slots held)
  have onSlots := replacer.inSlot.map_target_trial_eq_take session (slots held)
  rcases replacer.inSlot.exists_last_of_failure (along.failed.symm.trans failed) with
    ⟨earlier, last, divided, fails, succeeded⟩
  rw [← along.inContext] at threads
  rw [divided] at threads onSlots
  -- The last run has no output, so there is one output for each slot before it.
  have sameLength := Run.length_outputs_of_success succeeded
  have replaced := along.replaced
  rw [divided, Run.outputs_append_of_error earlier fails, sameLength] at replaced
  rcases along.emitted with ⟨more, emitted, onlyAfterSuccess⟩
  rw [onlyAfterSuccess failure failed, List.append_nil, divided] at emitted
  refine ⟨earlier ++ [last], earlier.length, failed, ?_, threads, ?_, ?_, ?_, ?_,
    along.sameOutline, ?_⟩
  · rw [onSlots, List.length_append, List.length_singleton]
  · rw [List.getElem?_concat_length]
    exact last.failure?_eq_some_iff.mpr fails
  · rw [List.take_left]
    exact succeeded
  · rw [List.take_left, replaced, List.take_left' sameLength]
  · rw [replaced, List.drop_left' sameLength]
  · rw [emitted]
    exact replacer.summaries_of_threads threads

/-- If replacing in a block or in a method fails, the slots before the one that
failed hold what was made of them, and all else is as it was.  The criteria need not
hand back, but it ends on every expression, as each criteria of a replacer does
(`Criteria.ends`); nothing is said of one that would go on forever on an expression
that is in none of the slots. -/
theorem replaceIn_stopsAtSlot (replacer : Replacer τ σ) (session : Session σ) :
    (∀ block failure, ((replacer.replaceInBlock block).run session).result.failure = some failure →
      ∃ runs index, replacer.StopsAtSlot Block.slots Block.outline block session
        ((replacer.replaceInBlock block).run session) runs index failure) ∧
    ∀ method failure,
      ((replacer.replaceInMethod method).run session).result.failure = some failure →
      ∃ runs index, replacer.StopsAtSlot Method.slots Method.outline method session
        ((replacer.replaceInMethod method).run session) runs index failure :=
  ⟨fun block _ failed =>
      replacer.stopsAtSlot_of_alongSlots (replacer.replaceInBlock_alongSlots block session) failed,
    fun method _ failed =>
      replacer.stopsAtSlot_of_alongSlots (replacer.replaceInMethod_alongSlots method session)
        failed⟩

/-- A branch with a call of `log` in its condition and in each of its bodies. -/
def branchOnLogs : Block :=
  [.branch (.call none "log" []) [.evaluate (.call none "log" [])]
    (some [.evaluate (.call none "log" [])])]

/-- A method with a call of `log` as the default of its only parameter. -/
def defaultOfLog : Method :=
  { name := "report"
    parameters :=
      [{ name := "level", typeName := "int", defaultValue := some (.call none "log" []) }]
    body := branchOnLogs }

theorem replaceIn_stopsAtSlot_refusingSecond :
    ((refusingSecond.replaceInBlock branchOnLogs).run ⟨0, 0, []⟩).result =
        ⟨[.branch (.constant (.int 0)) [.evaluate (.call none "log" [])]
          (some [.evaluate (.call none "log" [])])], some (.failed "second" none)⟩ ∧
      (∃ runs index, refusingSecond.StopsAtSlot Block.slots Block.outline branchOnLogs ⟨0, 0, []⟩
        ((refusingSecond.replaceInBlock branchOnLogs).run ⟨0, 0, []⟩) runs index
        (.failed "second" none)) ∧
      ∃ runs index, refusingSecond.StopsAtSlot Method.slots Method.outline defaultOfLog ⟨0, 0, []⟩
        ((refusingSecond.replaceInMethod defaultOfLog).run ⟨0, 0, []⟩) runs index
        (.failed "second" none) := by
  rcases refusingSecond.replaceIn_stopsAtSlot ⟨0, 0, []⟩ with ⟨inBlocks, inMethods⟩
  have inBlock := (refusingSecond.replaceInBlock_continues branchOnLogs ⟨0, 0, []⟩).sameResult
  have inMethod := (refusingSecond.replaceInMethod_continues defaultOfLog ⟨0, 0, []⟩).sameResult
  have blockFails : ((refusingSecond.replaceInBlock branchOnLogs).run ⟨0, 0, []⟩).result.failure =
      some (.failed "second" none) := by
    rw [inBlock]
    cbv
  have methodFails :
      ((refusingSecond.replaceInMethod defaultOfLog).run ⟨0, 0, []⟩).result.failure =
        some (.failed "second" none) := by
    rw [inMethod]
    cbv
  exact ⟨inBlock.trans (by cbv), inBlocks branchOnLogs _ blockFails,
    inMethods defaultOfLog _ methodFails⟩

end Replacer

end MarkedTree
