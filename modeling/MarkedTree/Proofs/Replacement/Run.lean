import Mathlib.Data.List.Permutation
import MarkedTree.Proofs.Replacement.Outermost

/-!
# Runs of a transform

A run is one use of the transform: its target, the context it started in, and
its reply.  `Replacer.runsIn` reads the runs of a replacement off a log that a
logging transform keeps, so it says what did run and not what should.  The
theorems here compute that log: it is a `trial` of the transform on the targets
at the outermost matches, which ends with the first run that fails.
-/

namespace MarkedTree

structure Run (τ σ : Type) where
  target : τ
  start : σ
  reply : Reply σ (Except Failure Expr)

namespace Run

variable {τ σ : Type}

def output? (run : Run τ σ) : Option Expr := run.reply.result.toOption

def failure? (run : Run τ σ) : Option Failure :=
  match run.reply.result with
  | .ok _ => none
  | .error failure => some failure

theorem failure?_eq_some_iff (run : Run τ σ) {failure : Failure} :
    run.failure? = some failure ↔ run.reply.result = .error failure := by
  cases result : run.reply.result <;> simp [failure?, result]

theorem isSome_output?_iff (run : Run τ σ) : run.output?.isSome ↔ run.failure? = none := by
  cases result : run.reply.result <;> simp [output?, failure?, result, Except.toOption]

theorem findSome?_failure?_eq_none_iff {runs : List (Run τ σ)} :
    runs.findSome? failure? = none ↔ ∀ run ∈ runs, run.output?.isSome := by
  simp only [List.findSome?_eq_none_iff, isSome_output?_iff]

/-- The context that the last of some runs left; without a run, the one before. -/
def lastContext (context : σ) (runs : List (Run τ σ)) : σ :=
  runs.foldl (fun _ run => run.reply.context) context

/-- The results of runs are their outputs or the first failure. -/
theorem mapM_result (runs : List (Run τ σ)) :
    runs.mapM (fun run => run.reply.result) =
      match runs.findSome? failure? with
      | none => .ok (runs.filterMap output?)
      | some failure => .error failure := by
  induction runs with
  | nil => rfl
  | cons run rest hypothesis =>
      rw [List.mapM_cons, hypothesis]
      cases result : run.reply.result with
      | error failure =>
          have isFailure := run.failure?_eq_some_iff.mpr result
          rw [List.findSome?_cons_of_isSome (by rw [isFailure]; rfl), isFailure]
          rfl
      | ok output =>
          have isOutput : run.output? = some output := by rw [output?, result]; rfl
          have noFailure : run.failure? = none := by rw [failure?, result]
          rw [List.findSome?_cons_of_isNone (by rw [noFailure]; rfl),
            List.filterMap_cons_some isOutput]
          cases rest.findSome? failure? <;> rfl

/-- The results of runs none of which failed are their outputs. -/
theorem mapM_result_of_success {runs : List (Run τ σ)}
    (noFailure : ∀ run ∈ runs, run.output?.isSome) :
    runs.mapM (fun run => run.reply.result) = .ok (runs.filterMap output?) := by
  rw [mapM_result, findSome?_failure?_eq_none_iff.mpr noFailure]

/-- A run that fails has no output. -/
theorem outputs_append_of_error (earlier : List (Run τ σ)) {last : Run τ σ} {failure : Failure}
    (fails : last.reply.result = .error failure) :
    (earlier ++ [last]).filterMap output? = earlier.filterMap output? := by
  have noOutput : last.output? = none := by
    rw [output?, fails]
    rfl
  rw [List.filterMap_append, List.filterMap_cons_none noOutput, List.filterMap_nil,
    List.append_nil]

theorem length_outputs_of_success {runs : List (Run τ σ)}
    (noFailure : ∀ run ∈ runs, run.output?.isSome) :
    (runs.filterMap output?).length = runs.length := by
  rw [List.length_filterMap_eq_countP]
  exact List.countP_eq_length.mpr noFailure

end Run

namespace Transform

variable {τ σ : Type}

/-- The same transform, which also appends each of its runs to a log. -/
def logged (transform : Transform τ σ) : Transform τ (σ × List (Run τ σ)) := fun target =>
  ⟨fun state =>
    let reply := (transform target).run state.1
    ⟨reply.result, (reply.context, state.2 ++ [⟨target, state.1, reply⟩]), reply.events⟩⟩

/-- The runs of a transform on one target after the other, each in the context
that the one before it left.  After a failure there are no more. -/
def trial (transform : Transform τ σ) : σ → List τ → List (Run τ σ)
  | _, [] => []
  | context, target :: rest =>
      let reply := (transform target).run context
      ⟨target, context, reply⟩ ::
        match reply.result with
        | .ok _ => transform.trial reply.context rest
        | .error _ => []

/-- Runs of a transform that follow upon one another: each starts in the context
that the one before it left, and replies as the transform does there. -/
def Threads (transform : Transform τ σ) : σ → List (Run τ σ) → σ → Prop
  | first, [], last => last = first
  | first, run :: rest, last =>
      run.start = first ∧ run.reply = (transform run.target).run first ∧
        transform.Threads run.reply.context rest last

theorem trial_cons_of_ok (transform : Transform τ σ) {context : σ} {target : τ} {output : Expr}
    (succeeds : ((transform target).run context).result = .ok output) (rest : List τ) :
    transform.trial context (target :: rest) =
      ⟨target, context, (transform target).run context⟩ ::
        transform.trial ((transform target).run context).context rest := by
  rw [trial, succeeds]

theorem trial_cons_of_error (transform : Transform τ σ) {context : σ} {target : τ}
    {failure : Failure} (fails : ((transform target).run context).result = .error failure)
    (rest : List τ) :
    transform.trial context (target :: rest) =
      [⟨target, context, (transform target).run context⟩] := by
  rw [trial, fails]

theorem lastContext_trial_singleton (transform : Transform τ σ) (context : σ) (target : τ) :
    Run.lastContext context (transform.trial context [target]) =
      ((transform target).run context).context := by
  cases result : ((transform target).run context).result with
  | ok output => rw [transform.trial_cons_of_ok result]; rfl
  | error failure => rw [transform.trial_cons_of_error result]; rfl

theorem findSome?_failure?_trial_singleton (transform : Transform τ σ) (context : σ) (target : τ) :
    (transform.trial context [target]).findSome? Run.failure? =
      Run.failure? ⟨target, context, (transform target).run context⟩ := by
  cases result : ((transform target).run context).result with
  | ok output =>
      rw [transform.trial_cons_of_ok result]
      simp [Run.failure?, result, trial]
  | error failure =>
      rw [transform.trial_cons_of_error result]
      simp [Run.failure?, result]

theorem trial_threads (transform : Transform τ σ) (context : σ) (targets : List τ) :
    transform.Threads context (transform.trial context targets)
      (Run.lastContext context (transform.trial context targets)) := by
  induction targets generalizing context with
  | nil => rfl
  | cons target rest hypothesis =>
      cases result : ((transform target).run context).result with
      | ok output =>
          rw [transform.trial_cons_of_ok result]
          exact ⟨rfl, rfl, hypothesis _⟩
      | error failure =>
          rw [transform.trial_cons_of_error result]
          exact ⟨rfl, rfl, rfl⟩

/-- Each of the runs replies as the transform does from where the run starts. -/
theorem Threads.reply_eq {transform : Transform τ σ} {first last : σ} {runs : List (Run τ σ)}
    (threads : transform.Threads first runs last) {run : Run τ σ} (member : run ∈ runs) :
    run.reply = (transform run.target).run run.start := by
  induction runs generalizing first with
  | nil => cases member
  | cons other rest hypothesis =>
      rcases threads with ⟨start, reply, following⟩
      rcases List.mem_cons.mp member with rfl | later
      · rw [reply, start]
      · exact hypothesis following later

/-- A trial in which no run fails gets to all targets. -/
theorem map_target_trial (transform : Transform τ σ) (context : σ) (targets : List τ)
    (noFailure : ∀ run ∈ transform.trial context targets, run.output?.isSome) :
    (transform.trial context targets).map Run.target = targets := by
  induction targets generalizing context with
  | nil => rfl
  | cons target rest hypothesis =>
      cases result : ((transform target).run context).result with
      | ok output =>
          rw [transform.trial_cons_of_ok result] at noFailure ⊢
          rw [List.map_cons, hypothesis _ fun run member =>
            noFailure run (List.mem_cons_of_mem _ member)]
      | error failure =>
          rw [transform.trial_cons_of_error result] at noFailure
          have succeeds := noFailure _ List.mem_cons_self
          rw [Run.output?, result] at succeeds
          cases succeeds

/-- A trial gets to as many of its targets as it has runs, from the first one on. -/
theorem map_target_trial_eq_take (transform : Transform τ σ) (context : σ) (targets : List τ) :
    (transform.trial context targets).map Run.target =
      targets.take (transform.trial context targets).length := by
  induction targets generalizing context with
  | nil => rfl
  | cons target rest hypothesis =>
      cases result : ((transform target).run context).result with
      | ok output =>
          rw [transform.trial_cons_of_ok result, List.map_cons, hypothesis, List.length_cons,
            List.take_succ_cons]
      | error failure =>
          rw [transform.trial_cons_of_error result]
          rfl

/-- In a trial a run that fails is the last one, and all before it succeed. -/
theorem trial_of_failure (transform : Transform τ σ) {context : σ} {targets : List τ}
    {index : Nat} {run : Run τ σ} (isRun : (transform.trial context targets)[index]? = some run)
    {failure : Failure} (fails : run.reply.result = .error failure) :
    (transform.trial context targets).length = index + 1 ∧
      (∀ earlier ∈ (transform.trial context targets).take index, earlier.output?.isSome) ∧
      Run.lastContext context (transform.trial context targets) = run.reply.context := by
  induction targets generalizing context index with
  | nil => cases isRun
  | cons target rest hypothesis =>
      cases result : ((transform target).run context).result with
      | error other =>
          rw [transform.trial_cons_of_error result] at isRun ⊢
          cases index with
          | zero =>
              cases isRun
              exact ⟨rfl, fun earlier member => absurd member List.not_mem_nil, rfl⟩
          | succ index => cases isRun
      | ok output =>
          rw [transform.trial_cons_of_ok result] at isRun ⊢
          cases index with
          | zero =>
              cases isRun
              cases result.symm.trans fails
          | succ index =>
              rcases hypothesis isRun with ⟨sameLength, succeed, last⟩
              refine ⟨congrArg Nat.succ sameLength, fun earlier member => ?_, last⟩
              rcases List.mem_cons.mp member with rfl | later
              · simp only [Run.output?, result]
                rfl
              · exact succeed earlier later

/-- If there is a failure in a trial, it is that of the last run alone. -/
theorem exists_last_of_failure (transform : Transform τ σ) {context : σ} {targets : List τ}
    {failure : Failure}
    (failed : (transform.trial context targets).findSome? Run.failure? = some failure) :
    ∃ earlier last, transform.trial context targets = earlier ++ [last] ∧
      last.reply.result = .error failure ∧ ∀ run ∈ earlier, run.output?.isSome := by
  rcases List.findSome?_eq_some_iff.mp failed with ⟨earlier, last, rest, divided, isFailure, _⟩
  have fails : last.reply.result = .error failure := last.failure?_eq_some_iff.mp isFailure
  have isRun : (transform.trial context targets)[earlier.length]? = some last := by
    rw [divided, List.getElem?_append_right (Nat.le_refl _), Nat.sub_self, List.getElem?_cons_zero]
  rcases transform.trial_of_failure isRun fails with ⟨sameLength, succeeded, _⟩
  rw [divided] at sameLength succeeded
  have isLast : rest = [] := by simpa using sameLength
  rw [List.take_left] at succeeded
  exact ⟨earlier, last, by rw [divided, isLast], fails, succeeded⟩

/-- A trial of the logging transform leaves the context and the log of the trial
that it logs. -/
theorem lastContext_trial_logged (transform : Transform τ σ) (context : σ)
    (log : List (Run τ σ)) (targets : List τ) :
    Run.lastContext (context, log) (transform.logged.trial (context, log) targets) =
      (Run.lastContext context (transform.trial context targets),
        log ++ transform.trial context targets) := by
  induction targets generalizing context log with
  | nil => simp [trial, Run.lastContext]
  | cons target rest hypothesis =>
      cases result : ((transform target).run context).result with
      | ok output =>
          have logs : ((transform.logged target).run (context, log)).result = .ok output := result
          rw [transform.trial_cons_of_ok result, transform.logged.trial_cons_of_ok logs]
          have tail := hypothesis ((transform target).run context).context
            (log ++ [⟨target, context, (transform target).run context⟩])
          rw [List.append_assoc] at tail
          exact tail
      | error failure =>
          have logs : ((transform.logged target).run (context, log)).result = .error failure :=
            result
          rw [transform.trial_cons_of_error result, transform.logged.trial_cons_of_error logs]
          rfl

end Transform

namespace Session

variable {σ α : Type}

@[simp] theorem run_ask (expr : Expr) (session : Session σ) :
    (ask expr).run session = ⟨(), { session with asked := expr :: session.asked }, []⟩ := rfl

@[simp] theorem run_matched (kind : ExprKind) (session : Session σ) :
    (matched kind).run session =
      ⟨(), { session with replacements := session.replacements + 1 },
        [.criteriaMatched kind]⟩ := rfl

@[simp] theorem run_hook (action : Action σ α) (session : Session σ) :
    (hook action).run session =
      ⟨(action.run session.context).result,
        { session with context := (action.run session.context).context },
        (action.run session.context).events⟩ := rfl

end Session

namespace Replacer

variable {τ σ : Type}

/-- At a match a pass asks, announces and runs the transform.  It goes on in the
context that the run left unless the run failed. -/
theorem run_pass_of_matched (replacer : Replacer τ σ) {expr : Expr} {target : τ}
    (isMatch : replacer.criteria.select expr = .matched target) (rest : List Expr)
    (session : Session σ) :
    (replacer.pass (expr :: rest)).run.run session =
      let reply := (replacer.transform target).run session.context
      let next : Session σ := ⟨reply.context, session.replacements + 1, expr :: session.asked⟩
      match reply.result with
      | .ok output =>
          let others := (replacer.pass rest).run.run next
          ⟨others.result.map (output :: ·), others.context,
            .criteriaMatched expr.kind :: (reply.events ++ others.events)⟩
      | .error failure => ⟨.error failure, next, .criteriaMatched expr.kind :: reply.events⟩ := by
  rw [replacer.pass_cons_of_matched isMatch]
  cases result : ((replacer.transform target).run session.context).result <;>
    simp [ExceptT.run_bind, result]

/-- At any other node a pass asks and goes on. -/
theorem run_pass_of_rejected (replacer : Replacer τ σ) {expr back : Expr}
    (noMatch : replacer.criteria.select expr = .rejected back) (rest : List Expr)
    (session : Session σ) :
    (replacer.pass (expr :: rest)).run.run session =
      (replacer.pass rest).run.run { session with asked := expr :: session.asked } := by
  rw [replacer.pass_cons_of_rejected noMatch]
  simp

/-- A pass tries the transform on the targets among its expressions: it ends in
the context that the trial leaves, and with all outputs or the first failure. -/
theorem run_pass (replacer : Replacer τ σ) (exprs : List Expr) (session : Session σ) :
    let runs := replacer.transform.trial session.context (exprs.filterMap replacer.criteria.target?)
    ((replacer.pass exprs).run.run session).result = runs.mapM (fun run => run.reply.result) ∧
      ((replacer.pass exprs).run.run session).context.context =
        Run.lastContext session.context runs := by
  induction exprs generalizing session with
  | nil => exact ⟨rfl, rfl⟩
  | cons expr rest hypothesis =>
      cases selected : replacer.criteria.select expr with
      | rejected back =>
          rw [replacer.run_pass_of_rejected selected,
            List.filterMap_cons_none (Criteria.target?_of_rejected selected)]
          exact hypothesis _
      | matched target =>
          rw [replacer.run_pass_of_matched selected,
            List.filterMap_cons_some (Criteria.target?_of_matched selected)]
          cases result : ((replacer.transform target).run session.context).result with
          | error failure =>
              rw [replacer.transform.trial_cons_of_error result]
              dsimp only
              rw [result]
              exact ⟨by rw [List.mapM_cons, result]; rfl, rfl⟩
          | ok output =>
              rw [replacer.transform.trial_cons_of_ok result]
              dsimp only
              rw [result]
              rcases hypothesis ⟨_, _, _⟩ with ⟨sameResult, sameContext⟩
              refine ⟨?_, sameContext⟩
              rw [List.mapM_cons, result]
              exact congrArg (Except.map (output :: ·)) sameResult

/-- A replacement tries the transform on the targets at the outermost matches,
ends in the context that the trial leaves, and grafts the outputs in. -/
theorem run_replaceIn (replacer : Replacer τ σ) (handsBack : replacer.criteria.HandsBack)
    (expr : Expr) (session : Session σ) :
    let runs := replacer.transform.trial session.context (replacer.criteria.targets expr)
    ((replacer.replaceIn expr).run.run session).result =
        (runs.mapM fun run : Run τ σ => run.reply.result).map (fun outputs =>
          expr.graft ((replacer.criteria.outermost expr).zip outputs)) ∧
      ((replacer.replaceIn expr).run.run session).context.context =
        Run.lastContext session.context runs := by
  have pass := replacer.run_pass (replacer.criteria.visitedNodes expr) session
  rw [← replacer.criteria.targets_eq] at pass
  rw [replacer.replaceIn_eq_pass handsBack, ExceptT.run_map, Action.run_map]
  exact ⟨congrArg (Except.map _) pass.1, pass.2⟩

/-- The replacer whose transform logs its runs. -/
def logged (replacer : Replacer τ σ) : Replacer τ (σ × List (Run τ σ)) :=
  ⟨replacer.criteria, replacer.transform.logged⟩

/-- The runs of the transform while a replacer works on an expression, first to
last. -/
def runsIn (replacer : Replacer τ σ) (expr : Expr) (session : Session σ) : List (Run τ σ) :=
  ((replacer.logged.replaceIn expr).run.run
    { session with context := (session.context, []) }).context.context.2

/-- The log of a replacement is the trial of the transform on the targets at the
outermost matches. -/
theorem runsIn_eq_trial (replacer : Replacer τ σ) (handsBack : replacer.criteria.HandsBack)
    (expr : Expr) (session : Session σ) :
    replacer.runsIn expr session =
      replacer.transform.trial session.context (replacer.criteria.targets expr) := by
  have logs := (replacer.logged.run_replaceIn handsBack expr
    { session with context := (session.context, []) }).2
  have tried := replacer.transform.lastContext_trial_logged session.context []
    (replacer.criteria.targets expr)
  exact congrArg Prod.snd (logs.trans tried)

/-- If no run fails, a replacement gives the tree with the outputs of its runs. -/
theorem result_replaceIn_of_success (replacer : Replacer τ σ)
    (handsBack : replacer.criteria.HandsBack) {expr : Expr} {session : Session σ}
    (noFailure : ∀ run ∈ replacer.runsIn expr session, run.output?.isSome) :
    ((replacer.replaceIn expr).run.run session).result =
      .ok (expr.graft ((replacer.criteria.outermost expr).zip
        ((replacer.runsIn expr session).filterMap Run.output?))) := by
  have result := (replacer.run_replaceIn handsBack expr session).1
  rw [← replacer.runsIn_eq_trial handsBack, Run.mapM_result_of_success noFailure] at result
  exact result

/-!
## Replacement substitutes the outermost matches

The main statement about a replacement that does not fail: the transform runs
once for each outermost match, in the order of a walk, each run in the context
that the one before it left; and the result is the tree with the outputs of the
runs put in at these matches, whole, and everything else as it was.
-/

/-- If no run of the transform fails, a replacement gives a result.  The runs are
those on the targets at the outermost matches, one for each, in the order in
which a walk comes to them, and each starts in the context that the one before
it left.  In the result the output of each run stands at its match; all other
nodes outside the matches keep their paths, their spans and their shapes. -/
theorem replaceIn_substitutes_outermost (replacer : Replacer τ σ)
    (handsBack : replacer.criteria.HandsBack) (expr : Expr) (session : Session σ)
    (noFailure : ∀ run ∈ replacer.runsIn expr session, run.output?.isSome) :
    let runs := replacer.runsIn expr session
    let patches := (replacer.criteria.outermost expr).zip (runs.filterMap Run.output?)
    let reply := (replacer.replaceIn expr).run.run session
    (∃ result, reply.result = .ok result ∧ result = expr.graft patches ∧
      expr.Patched patches result) ∧
    patches.map Prod.fst = replacer.criteria.outermost expr ∧
    (runs.map fun run => some run.target) =
      (replacer.criteria.outermost expr).map (replacer.criteria.targetAt? expr) ∧
    replacer.transform.Threads session.context runs reply.context.context ∧
    expr.paths.map expr.at? = expr.walk.map some := by
  intro runs patches reply
  have tried : runs = replacer.transform.trial session.context (replacer.criteria.targets expr) :=
    replacer.runsIn_eq_trial handsBack expr session
  have onTargets : runs.map Run.target = replacer.criteria.targets expr := by
    rw [tried]
    apply replacer.transform.map_target_trial
    exact tried ▸ noFailure
  have targetsInOrder : (runs.map fun run => some run.target) =
      (replacer.criteria.outermost expr).map (replacer.criteria.targetAt? expr) := by
    rw [replacer.criteria.map_targetAt?_outermost, ← onTargets, List.map_map]
    rfl
  rcases replacer.run_replaceIn handsBack expr session with ⟨result, context⟩
  rw [← tried] at result context
  have sameLength : (runs.filterMap Run.output?).length =
      (replacer.criteria.outermost expr).length := by
    rw [Run.length_outputs_of_success noFailure]
    simpa using congrArg List.length targetsInOrder
  refine ⟨⟨expr.graft patches, ?_, rfl, replacer.criteria.graft_patched_outermost sameLength⟩,
    List.map_fst_zip (Nat.le_of_eq sameLength.symm), targetsInOrder, ?_, expr.paths_map_at?⟩
  · rw [Run.mapM_result_of_success noFailure] at result
    exact result
  · dsimp only [reply]
    rw [context, tried]
    exact replacer.transform.trial_threads session.context (replacer.criteria.targets expr)

/-- Gives each call of `log` its number in place of its arguments. -/
def numberedLogs : Replacer MethodCall Nat where
  criteria := .byCallName "log"
  transform call := ⟨fun count =>
    ⟨.ok (.call call.receiver call.method [.constant (.int (.ofNat count))] call.span),
      count + 1, []⟩⟩

/-- A list of a call of `log` in a call of `log` and one in a call of `print`. -/
def nestedLogs : Expr :=
  .list [.call none "log" [.call none "log" []], .not (.call none "print" [.call none "log" []])]

theorem numberedLogs_handsBack : numberedLogs.criteria.HandsBack :=
  Criteria.narrowing_handsBack _

theorem numberedLogs_succeeds :
    ∀ run ∈ numberedLogs.runsIn nestedLogs ⟨0, 0, []⟩, run.output?.isSome := by
  rw [numberedLogs.runsIn_eq_trial numberedLogs_handsBack]
  exact List.all_eq_true.mp (by cbv)

theorem replaceIn_substitutes_outermost_numberedLogs :
    (∀ run ∈ numberedLogs.runsIn nestedLogs ⟨0, 0, []⟩, run.output?.isSome) ∧
      ∃ result, ((numberedLogs.replaceIn nestedLogs).run.run ⟨0, 0, []⟩).result = .ok result ∧
        result.at? [0] = some (.call none "log" [.constant (.int 0)]) ∧
        result.at? [1, 0, 0] = some (.call none "log" [.constant (.int 1)]) := by
  have patches : (numberedLogs.criteria.outermost nestedLogs).zip
      ((numberedLogs.runsIn nestedLogs ⟨0, 0, []⟩).filterMap Run.output?) =
      [([0], .call none "log" [.constant (.int 0)]),
        ([1, 0, 0], .call none "log" [.constant (.int 1)])] := by
    rw [numberedLogs.runsIn_eq_trial numberedLogs_handsBack]
    cbv
  rcases numberedLogs.replaceIn_substitutes_outermost numberedLogs_handsBack nestedLogs ⟨0, 0, []⟩
    numberedLogs_succeeds with ⟨⟨result, isResult, _, patched⟩, _⟩
  rw [patches] at patched
  refine ⟨numberedLogs_succeeds, result, isResult, patched.replaced _ _ ?_,
    patched.replaced _ _ ?_⟩
  · exact List.mem_cons_self
  · exact List.mem_cons_of_mem _ List.mem_cons_self

end Replacer

end MarkedTree
