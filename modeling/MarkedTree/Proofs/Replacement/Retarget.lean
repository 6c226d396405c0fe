import MarkedTree.Proofs.Replacement.SideBySide
import MarkedTree.Proofs.Replacement.Slotwise

/-!
# Targets seen otherwise

Two criteria that answer alike may differ in what they hand to the transform: one finds
calls, the other one expressions that are calls.  A replacer whose transform takes a view
of each target is the same as one whose criteria finds this view
(`replaceIn_retarget`), and so is all that a host can ask of it: answers, what is left,
the session, the events and the runs, which are those of the other one with their targets
seen otherwise.  The stock criteria are tests of expressions in this sense.
-/

namespace MarkedTree

variable {τ ρ σ : Type}

namespace Selection

def map (view : τ → ρ) : Selection τ → Selection ρ
  | .matched target => .matched (view target)
  | .rejected back => .rejected back

theorem map_eq_rejected_iff {view : τ → ρ} {selection : Selection τ} {back : Expr} :
    selection.map view = .rejected back ↔ selection = .rejected back := by
  cases selection <;> simp [map]

end Selection

namespace Criteria

/-- The same decisions with targets made of those that were found. -/
def retarget (criteria : Criteria τ) (view : τ → ρ) : Criteria ρ where
  select expr := (criteria.select expr).map view
  ends := by
    refine Subrelation.wf (r := Selection.LeadsTo criteria.select) ?_ criteria.ends
    rintro child expr ⟨back, rejected, member⟩
    exact ⟨back, Selection.map_eq_rejected_iff.mp rejected, member⟩

theorem select_retarget (criteria : Criteria τ) (view : τ → ρ) (expr : Expr) :
    (criteria.retarget view).select expr = (criteria.select expr).map view := rfl

/-- A criteria is what it answers. -/
theorem ext_select {first second : Criteria τ}
    (same : ∀ expr, first.select expr = second.select expr) : first = second := by
  cases first
  cases second
  cases funext same
  rfl

theorem retarget_narrowing (pick : Expr → Option τ) (view : τ → ρ) :
    (narrowing pick).retarget view = narrowing fun expr => (pick expr).map view := by
  apply ext_select
  intro expr
  simp only [select_retarget, narrowing]
  cases pick expr <;> rfl

/-- The calls by name, as expressions, are the expressions that are calls by that name. -/
theorem retarget_byCallName (name : String) :
    (byCallName name).retarget MethodCall.toExpr = predicate (Expr.isCallTo name) := by
  rw [byCallName, retarget_narrowing, predicate]
  congr 1
  funext expr
  cases expr with
  | call receiver method arguments span =>
      by_cases named : method = name <;>
        simp [Expr.asCall?, Expr.isCallTo, MethodCall.toExpr, named]
  | _ => rfl

/-- Every expression passes the test that is always true. -/
theorem predicate_true : predicate (fun _ => true) = everything := rfl

end Criteria

def Run.retarget (view : τ → ρ) (run : Run τ σ) : Run ρ σ :=
  ⟨view run.target, run.start, run.reply⟩

namespace Transform

/-- A transform of expressions that does with a call what a transform of calls does with
its parts.  What it does with other expressions is left open. -/
def onCalls (transform : Transform MethodCall σ) (otherwise : Transform Expr σ) :
    Transform Expr σ := fun expr =>
  match expr.asCall? with
  | some call => transform call
  | none => otherwise expr

theorem onCalls_toExpr (transform : Transform MethodCall σ) (otherwise : Transform Expr σ)
    (call : MethodCall) : transform.onCalls otherwise call.toExpr = transform call := rfl

/-- Whether targets are seen otherwise before or after they are logged makes no
difference but for how they stand in the log. -/
theorem logged_mirrors_retarget (transform : Transform ρ σ) (view : τ → ρ) (target : τ) :
    (logged (fun target => transform (view target)) target).Mirrors
      (Prod.map id (List.map (Run.retarget view))) .exact (transform.logged (view target)) := by
  refine ⟨fun _ => rfl, fun state => ?_, fun _ => rfl⟩
  rw [logged, logged]
  simp [Run.retarget]

end Transform

namespace Replacer

/-- All that a replacer does is put together from replacements in expressions. -/
theorem perform_congr {replacer : Replacer τ σ} {other : Replacer ρ σ}
    (same : ∀ expr, replacer.replaceIn expr = other.replaceIn expr) (call : Call) :
    replacer.perform call = other.perform call := by
  have inSlot : replacer.replaceInSlot = other.replaceInSlot := by
    funext slot
    rw [replaceInSlot, replaceInSlot, same]
  have inBlock : replacer.replaceInBlock = other.replaceInBlock := by
    funext block
    rw [replaceInBlock_eq, replaceInBlock_eq, inSlot]
  have inDefault : replacer.replaceInDefault = other.replaceInDefault := by
    funext parameter
    rw [replaceInDefault, replaceInDefault, inSlot]
  cases call with
  | expr value => rw [perform, perform, same]
  | option value =>
      cases value with
      | none => rfl
      | some value => rw [perform, perform, replaceInOption, replaceInOption, same]
  | slot value => rw [perform, perform, inSlot]
  | block value => rw [perform, perform, inBlock]
  | method value =>
      rw [perform, perform, replaceInMethod, replaceInMethod, inDefault, inBlock]

/-- It is the same to hand a view of each target to a transform, or to have the criteria
find that view. -/
theorem replaceIn_retarget (criteria : Criteria τ) (view : τ → ρ) (transform : Transform ρ σ)
    (expr : Expr) :
    replaceIn ⟨criteria, fun target => transform (view target)⟩ expr =
      replaceIn ⟨criteria.retarget view, transform⟩ expr := by
  -- Both go on with what is handed back, which may be any expression.
  induction expr using criteria.ends.induction with
  | _ expr hypothesis =>
      have answer := criteria.select_retarget view expr
      cases selected : criteria.select expr with
      | matched target =>
          rw [selected] at answer
          rw [replaceIn_of_matched _ selected, replaceIn_of_matched _ answer]
          rfl
      | rejected back =>
          rw [selected] at answer
          rw [replaceIn_of_rejected _ selected, replaceIn_of_rejected _ answer,
            Expr.mapChildren_eq, Expr.mapChildren_eq]
          congr 1
          funext _
          congr 1
          exact Congruence.equal.mapM back.children fun child member =>
            hypothesis child ⟨back, selected, member⟩

/-- Two replacers do the same in all that a host can ask of them, and the runs of their
transforms are the same but for how the targets are seen. -/
structure WorksAlike (replacer : Replacer τ σ) (other : Replacer ρ σ) (view : τ → ρ) : Prop where
  sameReply : ∀ call session,
    (replacer.perform call).run session = (other.perform call).run session
  sameRuns : ∀ call session, runsDuring (other.logged.perform call) session =
    (runsDuring (replacer.logged.perform call) session).map (Run.retarget view)

theorem worksAlike_retarget (criteria : Criteria τ) (view : τ → ρ) (transform : Transform ρ σ) :
    WorksAlike ⟨criteria, fun target => transform (view target)⟩
      ⟨criteria.retarget view, transform⟩ view := by
  refine ⟨fun call session => ?_, fun call session => ?_⟩
  · rw [perform_congr (replaceIn_retarget criteria view transform)]
  · have mirrors : (perform ⟨criteria, Transform.logged fun target => transform (view target)⟩
        call).Mirrors (Session.map (Prod.map id (List.map (Run.retarget view)))) .exact
          (perform ⟨criteria, fun target => transform.logged (view target)⟩ call) :=
      perform_mirrors (transform.logged_mirrors_retarget view) call
    rw [perform_congr (replaceIn_retarget criteria view transform.logged)] at mirrors
    exact congrArg (fun session => session.context.2)
      (mirrors.context { session with context := (session.context, []) })

/-- A replacer by name does what a replacer by the test for calls of that name does, if the
second one has a transform that does with these calls what the first one does.  A replacer
of everything does what one by the test does that is always true. -/
theorem stock_criteria_are_tests (name : String) (onTargets : Transform MethodCall σ)
    (otherwise transform : Transform Expr σ) :
    WorksAlike ⟨.byCallName name, onTargets⟩
      ⟨.predicate (Expr.isCallTo name), onTargets.onCalls otherwise⟩ MethodCall.toExpr ∧
    WorksAlike ⟨.everything, transform⟩ ⟨.predicate fun _ => true, transform⟩ id := by
  constructor
  · have onCalls : onTargets = fun call => onTargets.onCalls otherwise call.toExpr :=
      funext fun call => (onTargets.onCalls_toExpr otherwise call).symm
    rw [← Criteria.retarget_byCallName, onCalls]
    exact worksAlike_retarget (.byCallName name) MethodCall.toExpr (onTargets.onCalls otherwise)
  · rw [Criteria.predicate_true]
    exact ⟨fun _ _ => rfl, fun _ _ => (List.map_id _).symm⟩

end Replacer

end MarkedTree
