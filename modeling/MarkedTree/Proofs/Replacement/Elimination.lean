import Mathlib
import MarkedTree.Proofs.Action.Uses
import MarkedTree.Proofs.Replacement.Asked
import MarkedTree.Proofs.Replacement.Slotwise

/-!
# Elimination of calls

A replacer by name is no fixed point: what the transform puts in is not looked at again,
and may hold calls of that name itself.  It is exact all the same.  All calls of the name
outside the outermost matches would be matches themselves, and those inside are gone with
their match, so that the calls in the result are those in the outputs
(`replaceIn_balances`).  Without calls in the outputs there is none left for another
replacement to find.
-/

namespace MarkedTree

namespace Expr

/-- How many nodes of some trees pass a test. -/
def tally (test : Expr → Bool) (exprs : List Expr) : Nat :=
  (exprs.map fun expr => expr.walk.countP test).sum

theorem tally_append (test : Expr → Bool) (first second : List Expr) :
    tally test (first ++ second) = tally test first + tally test second := by
  rw [tally, List.map_append, List.sum_append]
  rfl

theorem countP_walk (test : Expr → Bool) (expr : Expr) :
    expr.walk.countP test = tally test expr.children + if test expr then 1 else 0 := by
  rw [walk_eq, List.countP_cons, List.countP_flatMap]
  rfl

end Expr

/-- The targets of a criteria include all nodes that pass a test, and whether a node passes
shows in its shape. -/
structure Criteria.Covers {τ : Type} (criteria : Criteria τ) (test : Expr → Bool) : Prop where
  byShape : ∀ {first second : Expr}, first.shape = second.shape → test first = test second
  onTargets : ∀ {expr : Expr}, test expr = true → criteria.selects expr = true

namespace Replacer

variable {τ σ : Type}

/-- As many nodes pass the test in the trees that a work returns, if it succeeds, as in the
outputs that it adds to the log. -/
def Balances {α : Type} (test : Expr → Bool) (trees : α → List Expr)
    (work : ExceptT Failure (Action (LoggingSession τ σ)) α) : Prop :=
  ∀ session value, (work.run.run session).result = .ok value → ∃ runs : List (Run τ σ),
    (work.run.run session).context.context.2 = session.context.2 ++ runs ∧
    Expr.tally test (trees value) = Expr.tally test (runs.filterMap Run.output?)

private theorem exists_of_map_eq_ok {ε α β : Type} {f : α → β} {result : Except ε α} {output : β}
    (succeeds : result.map f = .ok output) : ∃ value, result = .ok value ∧ f value = output := by
  cases result with
  | error problem => cases succeeds
  | ok value => exact ⟨value, rfl, Except.ok.inj succeeds⟩

/-- Siblings balance if each of them does. -/
theorem Balances.mapM {ι : Type} {test : Expr → Bool}
    {operation : ι → ExceptT Failure (Action (LoggingSession τ σ)) Expr} {inputs : List ι}
    (each : ∀ input ∈ inputs, Balances test (fun value => [value]) (operation input)) :
    Balances test id (inputs.mapM operation) := by
  induction inputs with
  | nil =>
      intro session values succeeds
      cases succeeds
      exact ⟨[], (List.append_nil _).symm, rfl⟩
  | cons input rest hypothesis =>
      intro session values succeeds
      rcases List.forall_mem_cons.mp each with ⟨first, others⟩
      cases result : ((operation input).run.run session).result with
      | error failure =>
          rw [Action.run_mapM_cons_of_error result] at succeeds
          cases succeeds
      | ok value =>
          rw [Action.run_mapM_cons_of_ok result] at succeeds ⊢
          rcases exists_of_map_eq_ok succeeds with ⟨restValues, restResult, rfl⟩
          rcases first session value result with ⟨runs, inLog, balanced⟩
          rcases hypothesis others _ restValues restResult with
            ⟨restRuns, restInLog, restBalanced⟩
          refine ⟨runs ++ restRuns, ?_, ?_⟩
          · rw [← List.append_assoc, ← inLog]
            exact restInLog
          · rw [List.filterMap_append, Expr.tally_append, ← balanced, ← restBalanced]
            exact Expr.tally_append test [value] restValues

/-- If the criteria covers a test, the nodes of the result that pass it are those of the
outputs. -/
theorem replaceIn_balances (replacer : Replacer τ σ) (handsBack : replacer.criteria.HandsBack)
    {test : Expr → Bool} (covers : replacer.criteria.Covers test) (expr : Expr) :
    Balances test (fun value => [value]) (replacer.logged.replaceIn expr) := by
  induction expr using Expr.childrenInduction with
  | node expr hypothesis =>
      intro session value succeeds
      cases selected : replacer.criteria.select expr with
      | matched target =>
          rw [replacer.logged.run_replaceIn_of_matched selected] at succeeds ⊢
          let run : Run τ σ :=
            ⟨target, session.context.1, (replacer.transform target).run session.context.1⟩
          have isOutput : run.output? = some value := congrArg Except.toOption succeeds
          refine ⟨[run], rfl, ?_⟩
          rw [List.filterMap_cons_some isOutput, List.filterMap_nil]
      | rejected back =>
          cases handsBack selected
          -- The root is no target, so it does not pass the test, and neither does its rebuild.
          have notRoot : test expr = false := by
            apply Bool.eq_false_iff.mpr
            intro passes
            have isTarget := covers.onTargets passes
            rw [Criteria.selects_of_rejected selected] at isTarget
            cases isTarget
          rw [replacer.logged.run_replaceIn_of_rejected selected] at succeeds ⊢
          rcases exists_of_map_eq_ok succeeds with ⟨values, result, rfl⟩
          rcases Balances.mapM hypothesis _ values result with ⟨runs, inLog, balanced⟩
          have sameLength := Action.length_of_mapM result
          refine ⟨runs, inLog, ?_⟩
          rw [← balanced, Expr.tally, List.map_singleton, List.sum_singleton,
            Expr.countP_walk, Expr.children_withChildren sameLength,
            covers.byShape (Expr.shape_withChildren sameLength), notRoot]
          rfl

/-- If no run fails, the nodes of the result that pass a covered test are those of the
outputs of the runs. -/
theorem exists_result_balanced (replacer : Replacer τ σ)
    (handsBack : replacer.criteria.HandsBack) {test : Expr → Bool}
    (covers : replacer.criteria.Covers test) (expr : Expr) (session : Session σ)
    (noFailure : ∀ run ∈ replacer.runsIn expr session, run.output?.isSome) :
    ∃ result, ((replacer.replaceIn expr).run.run session).result = .ok result ∧
      result.walk.countP test =
        Expr.tally test ((replacer.runsIn expr session).filterMap Run.output?) := by
  let start : LoggingSession τ σ := { session with context := (session.context, []) }
  have sameResult : ((replacer.replaceIn expr).run.run session).result =
      ((replacer.logged.replaceIn expr).run.run start).result :=
    (replacer.replaceIn_logged_mirrors expr).result start
  obtain ⟨result, succeeds⟩ : ∃ result, ((replacer.replaceIn expr).run.run session).result =
      .ok result := ⟨_, replacer.result_replaceIn_of_success handsBack noFailure⟩
  rcases replacer.replaceIn_balances handsBack covers expr start result
    (sameResult.symm.trans succeeds) with ⟨runs, inLog, balanced⟩
  have isLog : replacer.runsIn expr session = runs := inLog
  refine ⟨result, succeeds, ?_⟩
  rw [isLog, ← balanced, Expr.tally, List.map_singleton, List.sum_singleton]

end Replacer

def Expr.Shape.isCallTo (method : String) : Shape → Bool
  | .call _ name _ => name == method
  | _ => false

theorem Expr.isCallTo_shape (method : String) (expr : Expr) :
    expr.shape.isCallTo method = expr.isCallTo method := by
  cases expr <;> rfl

def Expr.callsTo (method : String) (expr : Expr) : Nat :=
  expr.walk.countP (isCallTo method)

theorem Criteria.selects_byCallName (name : String) (expr : Expr) :
    (byCallName name).selects expr = expr.isCallTo name := by
  rw [byCallName, selects_narrowing, Option.isSome_filter, Expr.isCallTo]

theorem Criteria.byCallName_covers (name : String) :
    (byCallName name).Covers (Expr.isCallTo name) where
  byShape {first second} sameShape := by
    rw [← first.isCallTo_shape, sameShape, second.isCallTo_shape]
  onTargets isCall := by rw [selects_byCallName, isCall]

namespace Replacer

variable {σ : Type}

/-- If no run fails, a replacement of the calls of a method gives a result with as many of
these calls as all outputs of the transform together have.  If the outputs have none, then
neither has the result, and another replacement of these calls, with whatever transform,
returns it as it is, without a run and without counting one. -/
theorem replaceIn_eliminates (name : String) (transform : Transform MethodCall σ) (expr : Expr)
    (session : Session σ)
    (noFailure : ∀ run ∈ runsIn ⟨.byCallName name, transform⟩ expr session, run.output?.isSome) :
    let outputs := (runsIn ⟨.byCallName name, transform⟩ expr session).filterMap Run.output?
    ∃ result,
      ((replaceIn ⟨.byCallName name, transform⟩ expr).run.run session).result = .ok result ∧
      result.callsTo name = (outputs.map (Expr.callsTo name)).sum ∧
      ((∀ output ∈ outputs, output.callsTo name = 0) →
        result.callsTo name = 0 ∧
        ∀ {ρ : Type} (other : Transform MethodCall ρ) (later : Session ρ),
          let again := (replaceIn ⟨.byCallName name, other⟩ result).run.run later
          again.result = .ok result ∧
            runsIn ⟨.byCallName name, other⟩ result later = [] ∧
            again.context.replacements = later.replacements) := by
  intro outputs
  have handsBack : (Criteria.byCallName name).HandsBack := Criteria.narrowing_handsBack _
  rcases exists_result_balanced ⟨.byCallName name, transform⟩ handsBack
    (Criteria.byCallName_covers name) expr session noFailure with ⟨result, succeeds, balanced⟩
  refine ⟨result, succeeds, balanced, fun noCalls => ?_⟩
  have noneLeft : result.callsTo name = 0 := by
    apply balanced.trans
    apply List.sum_eq_zero
    intro count member
    rcases List.mem_map.mp member with ⟨output, isOutput, rfl⟩
    exact noCalls output isOutput
  have noMatch : ∀ node ∈ result.walk, (Criteria.byCallName name).selects node = false := by
    intro node member
    rw [Criteria.selects_byCallName]
    exact Bool.eq_false_iff.mpr (List.countP_eq_zero.mp noneLeft node member)
  refine ⟨noneLeft, fun other later => ?_⟩
  have unchanged := run_replaceIn_of_noMatch ⟨.byCallName name, other⟩ handsBack noMatch later
  have noRuns := runsIn_of_noMatch ⟨.byCallName name, other⟩ handsBack noMatch later
  dsimp only
  rw [unchanged]
  exact ⟨rfl, noRuns, rfl⟩

/-- Puts its number in place of each call of `log`. -/
def countedLogs : Replacer MethodCall Nat where
  criteria := .byCallName "log"
  transform _ := ⟨fun count => ⟨.ok (.constant (.int (.ofNat count))), count + 1, []⟩⟩

theorem replaceIn_eliminates_logs :
    (∃ result, ((numberedLogs.replaceIn nestedLogs).run.run ⟨0, 0, []⟩).result = .ok result ∧
      result.callsTo "log" = 2) ∧
    (∀ run ∈ countedLogs.runsIn nestedLogs ⟨0, 0, []⟩, run.output?.isSome) ∧
    ∃ result, ((countedLogs.replaceIn nestedLogs).run.run ⟨0, 0, []⟩).result = .ok result ∧
      result.callsTo "log" = 0 ∧
      ((numberedLogs.replaceIn result).run.run ⟨2, 2, []⟩).result = .ok result := by
  have countedLogs_handsBack : countedLogs.criteria.HandsBack := Criteria.narrowing_handsBack _
  have noFailure : ∀ run ∈ countedLogs.runsIn nestedLogs ⟨0, 0, []⟩, run.output?.isSome := by
    rw [countedLogs.runsIn_eq_trial countedLogs_handsBack]
    exact List.all_eq_true.mp (by cbv)
  have numbers : (countedLogs.runsIn nestedLogs ⟨0, 0, []⟩).filterMap Run.output? =
      [.constant (.int 0), .constant (.int 1)] := by
    rw [countedLogs.runsIn_eq_trial countedLogs_handsBack]
    cbv
  have calls : (numberedLogs.runsIn nestedLogs ⟨0, 0, []⟩).filterMap Run.output? =
      [.call none "log" [.constant (.int 0)], .call none "log" [.constant (.int 1)]] := by
    rw [numberedLogs.runsIn_eq_trial numberedLogs_handsBack]
    cbv
  constructor
  · rcases replaceIn_eliminates "log" numberedLogs.transform nestedLogs ⟨0, 0, []⟩
      numberedLogs_succeeds with ⟨result, succeeds, counted, _⟩
    have inOutputs : result.callsTo "log" =
        (((numberedLogs.runsIn nestedLogs ⟨0, 0, []⟩).filterMap Run.output?).map
          (Expr.callsTo "log")).sum := counted
    rw [calls] at inOutputs
    exact ⟨result, succeeds, inOutputs.trans (by cbv)⟩
  · rcases replaceIn_eliminates "log" countedLogs.transform nestedLogs ⟨0, 0, []⟩ noFailure with
      ⟨result, succeeds, _, eliminates⟩
    have noCalls : ∀ output ∈ (countedLogs.runsIn nestedLogs ⟨0, 0, []⟩).filterMap Run.output?,
        output.callsTo "log" = 0 := by
      rw [numbers]
      intro output member
      fin_cases member <;> cbv
    rcases eliminates noCalls with ⟨noneLeft, again⟩
    exact ⟨noFailure, result, succeeds, noneLeft, (again numberedLogs.transform ⟨2, 2, []⟩).1⟩

end Replacer

end MarkedTree
