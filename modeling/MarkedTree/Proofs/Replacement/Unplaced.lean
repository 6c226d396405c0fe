import Mathlib.Data.List.Permutation
import MarkedTree.Proofs.Edited.Relation
import MarkedTree.Proofs.Replacement.Slotwise
import MarkedTree.Proofs.Unplaced

/-!
# Spans do not steer a replacer

Two readings of one program that differ in nothing but spans are replaced in alike, if the
transforms do not go by spans either.  What is compared are two whole runs, each with a
transform and a context of its own: both fail or neither does, what comes out is the same
but for spans, and the transforms run in step on targets that are alike.  All that is
needed of a criteria is that it answers alike for expressions that are alike
(`Criteria.IgnoresSpans`), which the one by name does.
-/

namespace MarkedTree

variable {τ ρ σ : Type}

/-- Answers that are the same but for spans.  When targets are so depends on their type. -/
inductive Selection.Alike (targets : τ → τ → Prop) : Selection τ → Selection τ → Prop
  | matched {target other : τ} (related : targets target other) :
      Alike targets (.matched target) (.matched other)
  | rejected {back other : Expr} (alike : back.Alike other) :
      Alike targets (.rejected back) (.rejected other)

/-- The criteria answers alike for expressions that are the same but for spans. -/
def Criteria.IgnoresSpans (criteria : Criteria τ) (targets : τ → τ → Prop) : Prop :=
  ∀ {first second : Expr}, first.Alike second →
    Selection.Alike targets (criteria.select first) (criteria.select second)

def MethodCall.Alike (first second : MethodCall) : Prop := first.toExpr.Alike second.toExpr

def Expr.Shape.method? : Shape → Option String
  | .call _ method _ => some method
  | _ => none

theorem Expr.method?_shape (expr : Expr) :
    expr.shape.method? = expr.asCall?.map MethodCall.method := by
  cases expr <;> rfl

/-- What is called shows in the shape of a call. -/
theorem Criteria.byCallName_ignoresSpans (name : String) :
    (byCallName name).IgnoresSpans MethodCall.Alike := by
  intro first second alike
  have sameMethod : first.asCall?.map MethodCall.method =
      second.asCall?.map MethodCall.method := by
    rw [← Expr.method?_shape, (Expr.alike_iff.mp alike).1, Expr.method?_shape]
  simp only [byCallName, narrowing]
  cases isFirst : first.asCall? with
  | none =>
      cases isSecond : second.asCall? with
      | none => exact .rejected alike
      | some other => simp [isFirst, isSecond] at sameMethod
  | some call =>
      cases isSecond : second.asCall? with
      | none => simp [isFirst, isSecond] at sameMethod
      | some other =>
          have sameName : call.method = other.method := by
            simpa [isFirst, isSecond] using sameMethod
          cases Expr.asCall?_eq_some.mp isFirst
          cases Expr.asCall?_eq_some.mp isSecond
          rw [Option.filter_some, Option.filter_some, sameName]
          cases other.method == name with
          | true => exact .matched alike
          | false => exact .rejected alike

/-- The contexts are related, and as many replacements have been counted on both sides since
the counts were `count` and `otherCount`. -/
structure Session.InStep (contexts : ρ → σ → Prop) (count otherCount : Nat)
    (session : Session ρ) (other : Session σ) : Prop where
  context : contexts session.context other.context
  counted : session.replacements + otherCount = other.replacements + count

namespace Session

variable {contexts : ρ → σ → Prop} {likeness : Likeness} {count otherCount : Nat}

theorem ask_parallel (expr other : Expr) :
    Action.Parallel (InStep contexts count otherCount) likeness (fun _ _ => True) (ask expr)
      (ask other) :=
  .update fun inStep => ⟨inStep.context, inStep.counted⟩

theorem matched_parallel (kind : ExprKind) :
    Action.Parallel (InStep contexts count otherCount) likeness (fun _ _ => True) (matched kind)
      (matched kind) := by
  refine (Action.Parallel.emit _).inOrder fun _ _ _ => .update fun {session other} inStep => ?_
  refine ⟨inStep.context, ?_⟩
  have counted := inStep.counted
  dsimp only
  omega

theorem hook_parallel {α β : Type} {values : α → β → Prop} {action : Action ρ α}
    {other : Action σ β} (parallel : Action.Parallel contexts likeness values action other) :
    Action.Parallel (InStep contexts count otherCount) likeness values (hook action)
      (hook other) where
  result inStep := parallel.result inStep.context
  context inStep := ⟨parallel.context inStep.context, inStep.counted⟩
  events inStep := parallel.events inStep.context

end Session

namespace Replacer

open Session

namespace Call

def unplaced : Call → Call
  | .expr value => .expr value.unplaced
  | .option value => .option (value.map Expr.unplaced)
  | .slot value => .slot value.unplaced
  | .block value => .block (Block.unplaced value)
  | .method value => .method value.unplaced

/-- What there is after a call, as what the same call could be given next.  If it fails,
nothing comes out of a call that does not edit in place. -/
def left? : (call : Call) → call.Answer → Option Call
  | .expr _, .ok value => some (.expr value)
  | .expr _, .error _ => none
  | .option _, .ok value => some (.option value)
  | .option _, .error _ => none
  | .slot _, edited => some (.slot edited.value)
  | .block _, edited => some (.block edited.value)
  | .method _, edited => some (.method edited.value)

/-- Both calls failed or neither did, and what there is after them is the same but for
spans. -/
structure AnswersAlike (call other : Call) (answer : call.Answer) (otherAnswer : other.Answer) :
    Prop where
  failure : (call.failure? answer).isSome = (other.failure? otherAnswer).isSome
  left : (call.left? answer).map unplaced = (other.left? otherAnswer).map unplaced

end Call

/-- From related contexts, two transforms go in step on targets that are the same but for
spans: both fail or neither does, their outputs are the same but for spans, and they leave
related contexts.  How alike their own events have to be is a parameter. -/
def TransformsAlike (contexts : ρ → σ → Prop) (likeness : Likeness) (targets : τ → τ → Prop)
    (transform : Transform τ ρ) (other : Transform τ σ) : Prop :=
  ∀ {target otherTarget}, targets target otherTarget →
    Action.Parallel contexts likeness (SameEnding Expr.Alike) (transform target) (other otherTarget)

section

variable {contexts : ρ → σ → Prop} {likeness : Likeness} {targets : τ → τ → Prop}
  {criteria : Criteria τ} {transform : Transform τ ρ} {other : Transform τ σ}
  {count otherCount : Nat}

/-- The summaries say the same of blocks with as many statements. -/
theorem summing_parallel {values : Block → Block → Prop} {block otherBlock : Block}
    (sameLength : block.length = otherBlock.length)
    {edits : Action (Session ρ) (Edited Failure Block)}
    {otherEdits : Action (Session σ) (Edited Failure Block)}
    (parallel : Action.Parallel (InStep contexts count otherCount) likeness (Edited.Alike values)
      edits otherEdits) :
    Action.Parallel (InStep contexts count otherCount) likeness (Edited.Alike values)
      (summing block edits) (summing otherBlock otherEdits) := by
  refine Action.Parallel.current.inOrder fun before otherBefore inStep => ?_
  refine parallel.inOrder fun edited otherEdited alike => ?_
  rcases edited with ⟨value, _ | failure⟩ <;>
    rcases otherEdited with ⟨otherValue, _ | otherFailure⟩
  case some.some => exact .nothing alike
  case none.some | some.none => cases alike.failure
  case none.none =>
    refine Action.Parallel.current.inOrder fun after otherAfter inStepToo => ?_
    -- Both counts have grown by the same number since the start.
    have sameGrowth : after.replacements - before.replacements =
        otherAfter.replacements - otherBefore.replacements := by
      have counted := inStep.counted
      have countedToo := inStepToo.counted
      omega
    rw [sameLength, sameGrowth]
    exact (Action.Parallel.emit _).inOrder fun _ _ _ => .nothing alike

variable (ignores : criteria.IgnoresSpans targets)
  (transforms : TransformsAlike contexts likeness targets transform other)

include ignores transforms

theorem replaceIn_parallel {first second : Expr} (alike : first.Alike second) :
    Action.Parallel (InStep contexts count otherCount) likeness (SameEnding Expr.Alike)
      (replaceIn ⟨criteria, transform⟩ first).run (replaceIn ⟨criteria, other⟩ second).run := by
  induction first using criteria.ends.induction generalizing second with
  | _ first hypothesis =>
      have answers := ignores alike
      generalize selected : criteria.select first = answer at answers
      generalize otherSelected : criteria.select second = otherAnswer at answers
      cases answers with
      | matched related =>
          rw [replaceIn_of_matched _ selected, replaceIn_of_matched _ otherSelected]
          refine (ask_parallel first second).inOrder fun _ _ _ => ?_
          rw [alike.kind]
          refine (matched_parallel second.kind).inOrder fun _ _ _ => ?_
          exact hook_parallel (transforms related)
      | @rejected back otherBack backAlike =>
          rw [replaceIn_of_rejected _ selected, replaceIn_of_rejected _ otherSelected,
            Expr.mapChildren_eq, Expr.mapChildren_eq, ExceptT.run_bind_lift,
            ExceptT.run_bind_lift, ExceptT.run_map, ExceptT.run_map]
          refine (ask_parallel first second).inOrder fun _ _ _ => ?_
          have pairs := (List.forall₂_and_left _ _).mpr
            ⟨fun child (member : child ∈ back.children) => member, (Expr.alike_iff.mp backAlike).2⟩
          have inChildren : List.Forall₂ (fun child otherChild =>
              Action.Parallel (InStep contexts count otherCount) likeness (SameEnding Expr.Alike)
                (replaceIn ⟨criteria, transform⟩ child).run
                (replaceIn ⟨criteria, other⟩ otherChild).run)
              back.children otherBack.children :=
            pairs.imp fun child _ pair => hypothesis child ⟨back, selected, pair.1⟩ pair.2
          exact (Action.Parallel.mapM inChildren).map fun _ _ same => same.map fun _ _ related =>
            backAlike.withChildren related.1 related.2

theorem replaceInOption_parallel {value otherValue : Option Expr}
    (alike : Option.Rel Expr.Alike value otherValue) :
    Action.Parallel (InStep contexts count otherCount) likeness (SameEnding (Option.Rel Expr.Alike))
      (replaceInOption ⟨criteria, transform⟩ value).run
      (replaceInOption ⟨criteria, other⟩ otherValue).run := by
  cases alike with
  | none => exact .nothing (.ok .none)
  | some alike =>
      rw [replaceInOption, replaceInOption, ExceptT.run_map, ExceptT.run_map]
      exact (replaceIn_parallel ignores transforms alike).map fun _ _ same =>
        same.map fun _ _ => .some

theorem replaceInSlot_parallel {slot otherSlot : Expr} (alike : slot.Alike otherSlot) :
    Action.Parallel (InStep contexts count otherCount) likeness (Edited.Alike Expr.Alike)
      (replaceInSlot ⟨criteria, transform⟩ slot) (replaceInSlot ⟨criteria, other⟩ otherSlot) :=
  .store alike (replaceIn_parallel ignores transforms alike)

theorem replaceInBlock_parallel {block otherBlock : Block}
    (same : Block.unplaced block = Block.unplaced otherBlock) :
    Action.Parallel (InStep contexts count otherCount) likeness
      (Edited.Alike fun left otherLeft => Block.unplaced left = Block.unplaced otherLeft)
      (replaceInBlock ⟨criteria, transform⟩ block)
      (replaceInBlock ⟨criteria, other⟩ otherBlock) := by
  rcases Block.unplaced_eq_unplaced_iff.mp same with ⟨sameOutline, slotsAlike⟩
  rw [replaceInBlock_eq, replaceInBlock_eq]
  apply summing_parallel
  · rw [← Block.length_outline, sameOutline, Block.length_outline]
  · refine (Action.Parallel.slotwise (fun _ _ => replaceInSlot_parallel ignores transforms)
      (Block.editSlots_editsSlots _ block) (Block.editSlots_editsSlots _ otherBlock)
      sameOutline slotsAlike).mono fun _ _ alike => ⟨?_, alike.failure⟩
    exact Block.unplaced_eq_unplaced_iff.mpr alike.value

theorem replaceInDefault_parallel {parameter otherParameter : Parameter}
    (same : parameter.unplaced = otherParameter.unplaced) :
    Action.Parallel (InStep contexts count otherCount) likeness
      (Edited.Alike fun left otherLeft => left.unplaced = otherLeft.unplaced)
      (replaceInDefault ⟨criteria, transform⟩ parameter)
      (replaceInDefault ⟨criteria, other⟩ otherParameter) := by
  simp only [Parameter.unplaced, Parameter.mk.injEq] at same
  rcases same with ⟨sameHeader, sameType, sameDefault⟩
  refine (Action.Parallel.option (fun _ _ => replaceInSlot_parallel ignores transforms)
    (Expr.rel_alike_iff.mpr sameDefault)).edited fun value otherValue alike => ?_
  simp only [Parameter.unplaced, sameHeader, sameType, Expr.rel_alike_iff.mp alike]

theorem replaceInMethod_parallel {method otherMethod : Method}
    (same : method.unplaced = otherMethod.unplaced) :
    Action.Parallel (InStep contexts count otherCount) likeness
      (Edited.Alike fun left otherLeft => left.unplaced = otherLeft.unplaced)
      (replaceInMethod ⟨criteria, transform⟩ method)
      (replaceInMethod ⟨criteria, other⟩ otherMethod) := by
  simp only [Method.unplaced, Method.mk.injEq] at same
  rcases same with ⟨sameHeader, sameParameters, sameType, sameBody⟩
  have related := (forall₂_same_image_iff Parameter.unplaced).mpr sameParameters
  refine (Action.Parallel.both
    (.list (fun _ _ => replaceInDefault_parallel ignores transforms) related)
    (replaceInBlock_parallel ignores transforms sameBody) sameBody).edited
    fun parts otherParts alike => ?_
  have sameDefaults := (forall₂_same_image_iff Parameter.unplaced).mp alike.1
  simp only [Method.unplaced, sameHeader, sameType, sameDefaults, alike.2]

/-- Calls that are given the same but for spans have answers that are the same but for
spans. -/
theorem perform_parallel {call otherCall : Call} (same : call.unplaced = otherCall.unplaced) :
    Action.Parallel (InStep contexts count otherCount) likeness (call.AnswersAlike otherCall)
      (perform ⟨criteria, transform⟩ call) (perform ⟨criteria, other⟩ otherCall) := by
  cases call <;> cases otherCall <;>
    simp only [Call.unplaced, reduceCtorEq, Call.expr.injEq, Call.option.injEq, Call.slot.injEq,
      Call.block.injEq, Call.method.injEq] at same
  case expr.expr =>
    refine (replaceIn_parallel ignores transforms same).mono fun _ _ ending => ?_
    cases ending with
    | ok alike => exact ⟨rfl, congrArg (some ∘ Call.expr) alike⟩
    | error failure other => exact ⟨rfl, rfl⟩
  case option.option =>
    refine (replaceInOption_parallel ignores transforms
      (Expr.rel_alike_iff.mpr same)).mono fun _ _ ending => ?_
    cases ending with
    | ok alike => exact ⟨rfl, congrArg (some ∘ Call.option) (Expr.rel_alike_iff.mp alike)⟩
    | error failure other => exact ⟨rfl, rfl⟩
  case slot.slot =>
    exact (replaceInSlot_parallel ignores transforms same).mono fun _ _ alike =>
      ⟨alike.failure, congrArg (some ∘ Call.slot) alike.value⟩
  case block.block =>
    exact (replaceInBlock_parallel ignores transforms same).mono fun _ _ alike =>
      ⟨alike.failure, congrArg (some ∘ Call.block) alike.value⟩
  case method.method =>
    exact (replaceInMethod_parallel ignores transforms same).mono fun _ _ alike =>
      ⟨alike.failure, congrArg (some ∘ Call.method) alike.value⟩

end

/-- Two runs of transforms that are the same but for spans, in contexts that are related. -/
structure RunsAlike (contexts : ρ → σ → Prop) (targets : τ → τ → Prop) (run : Run τ ρ)
    (other : Run τ σ) : Prop where
  target : targets run.target other.target
  start : contexts run.start other.start
  result : SameEnding Expr.Alike run.reply.result other.reply.result
  context : contexts run.reply.context other.reply.context

/-- Transforms that are in step are so also if they log their runs. -/
theorem TransformsAlike.logged {contexts : ρ → σ → Prop} {likeness : Likeness}
    {targets : τ → τ → Prop} {transform : Transform τ ρ} {other : Transform τ σ}
    (transforms : TransformsAlike contexts likeness targets transform other) :
    TransformsAlike
      (fun state otherState => contexts state.1 otherState.1 ∧
        List.Forall₂ (RunsAlike contexts targets) state.2 otherState.2)
      likeness targets transform.logged other.logged := by
  intro target otherTarget related
  have parallel := transforms related
  refine ⟨fun states => parallel.result states.1, fun states => ⟨parallel.context states.1, ?_⟩,
    fun states => parallel.events states.1⟩
  have run : RunsAlike contexts targets ⟨target, _, _⟩ ⟨otherTarget, _, _⟩ :=
    ⟨related, states.1, parallel.result states.1, parallel.context states.1⟩
  exact List.rel_append states.2 (.cons run .nil)

/-- Two replacers go through calls alike that are given the same but for spans.  Both fail or
neither does, and what is left is the same but for spans.  The runs of the transforms
correspond one by one, so there are as many of them and as many replacements counted.  What
the replacers themselves emit is the same, above all the kinds that are matched in their order,
and what they emit with the transforms is as alike as what the transforms emit. -/
structure GoAlike (contexts : ρ → σ → Prop) (likeness : Likeness) (targets : τ → τ → Prop)
    (replacer : Replacer τ ρ) (other : Replacer τ σ) (call otherCall : Call)
    (session : Session ρ) (otherSession : Session σ) : Prop where
  answers : call.AnswersAlike otherCall ((replacer.perform call).run session).result
    ((other.perform otherCall).run otherSession).result
  inStep : InStep contexts session.replacements otherSession.replacements
    ((replacer.perform call).run session).context
    ((other.perform otherCall).run otherSession).context
  runs : List.Forall₂ (RunsAlike contexts targets)
    (runsDuring (replacer.logged.perform call) session)
    (runsDuring (other.logged.perform otherCall) otherSession)
  ownEvents : ((replacer.muted.perform call).run session).events =
    ((other.muted.perform otherCall).run otherSession).events
  events : likeness.like ((replacer.perform call).run session).events
    ((other.perform otherCall).run otherSession).events

/-- If a criteria ignores spans and transforms do, then so does all that a host can ask for. -/
theorem goAlike_of_ignoresSpans {contexts : ρ → σ → Prop} {likeness : Likeness}
    {targets : τ → τ → Prop} {criteria : Criteria τ} {transform : Transform τ ρ}
    {other : Transform τ σ} (ignores : criteria.IgnoresSpans targets)
    (transforms : TransformsAlike contexts likeness targets transform other)
    {call otherCall : Call} (same : call.unplaced = otherCall.unplaced)
    {session : Session ρ} {otherSession : Session σ}
    (related : contexts session.context otherSession.context) :
    GoAlike contexts likeness targets ⟨criteria, transform⟩ ⟨criteria, other⟩ call otherCall
      session otherSession := by
  have started : InStep contexts session.replacements otherSession.replacements session
      otherSession := ⟨related, Nat.add_comm ..⟩
  let start : LoggingSession τ ρ := { session with context := (session.context, []) }
  let otherStart : LoggingSession τ σ :=
    { otherSession with context := (otherSession.context, []) }
  have logging : InStep
      (fun state otherState => contexts state.1 otherState.1 ∧
        List.Forall₂ (RunsAlike contexts targets) state.2 otherState.2)
      session.replacements otherSession.replacements start otherStart :=
    ⟨⟨related, .nil⟩, started.counted⟩
  have muted : TransformsAlike contexts .exact targets (fun target => (transform target).muted)
      fun target => (other target).muted :=
    fun targetsRelated => (transforms targetsRelated).muted .exact
  exact {
    answers := (perform_parallel ignores transforms same).result started
    inStep := (perform_parallel ignores transforms same).context started
    runs := ((perform_parallel ignores transforms.logged same).context logging).context.2
    ownEvents := (perform_parallel ignores muted same).events started
    events := (perform_parallel ignores transforms same).events started }

/-- Spans do not steer the replacement of calls by name.  If two transforms go in step on calls
that are the same but for spans, then so do replacers by one name with these transforms in
all that a host can ask for: the one in one reading of an expression, a block or a method, the
other one in another reading. -/
theorem spans_never_steer (name : String) {contexts : ρ → σ → Prop} {likeness : Likeness}
    {transform : Transform MethodCall ρ} {other : Transform MethodCall σ}
    (transforms : TransformsAlike contexts likeness MethodCall.Alike transform other)
    {call otherCall : Call} (same : call.unplaced = otherCall.unplaced)
    {session : Session ρ} {otherSession : Session σ}
    (related : contexts session.context otherSession.context) :
    GoAlike contexts likeness MethodCall.Alike ⟨.byCallName name, transform⟩
      ⟨.byCallName name, other⟩ call otherCall session otherSession :=
  goAlike_of_ignoresSpans (Criteria.byCallName_ignoresSpans name) transforms same related

/-- Puts its number in place of each call of `log`. -/
def numbering (place : MethodCall → Option Span) : Replacer MethodCall Nat where
  criteria := .byCallName "log"
  transform call := ⟨fun count =>
    ⟨.ok (.constant (.int (.ofNat count)) (place call)), count + 1, []⟩⟩

/-- A method with a call of `log` as a default and another one within a call of `print`. -/
def reportAt (span : Option Span) : Method where
  name := "report"
  span := span
  parameters :=
    [{ name := "level", typeName := "int", defaultValue := some (.call none "log" [] span) }]
  body := [.evaluate (.call none "print" [.call none "log" [.var "level" span] span] span)]

def seventhLine : Span := .onLine 7 0 1

theorem spans_never_steer_report :
    TransformsAlike Eq .exact MethodCall.Alike (numbering MethodCall.span).transform
      (numbering fun _ => none).transform ∧
    (Call.method (reportAt (some seventhLine))).unplaced =
      (Call.method (reportAt none)).unplaced ∧
    GoAlike Eq .exact MethodCall.Alike (numbering MethodCall.span) (numbering fun _ => none)
      (.method (reportAt (some seventhLine))) (.method (reportAt none)) ⟨0, 0, []⟩ ⟨0, 5, []⟩ ∧
    (((numbering MethodCall.span).perform (.method (reportAt (some seventhLine)))).run
      ⟨0, 0, []⟩).result.value.body = [.evaluate (.call none "print"
        [.constant (.int 1) (some seventhLine)] (some seventhLine))] ∧
    (((numbering fun _ => none).perform (.method (reportAt none))).run
      ⟨0, 5, []⟩).result.value.body = [.evaluate (.call none "print" [.constant (.int 1)])] := by
  have transforms : TransformsAlike Eq .exact MethodCall.Alike
      (numbering MethodCall.span).transform (numbering fun _ => none).transform := by
    intro call other _
    refine ⟨?_, fun started => congrArg (· + 1) started, fun _ => rfl⟩
    rintro count _ rfl
    exact .ok (Expr.alike_iff.mpr ⟨rfl, .nil⟩)
  have same : (Call.method (reportAt (some seventhLine))).unplaced =
      (Call.method (reportAt none)).unplaced := by
    cbv
  have placed := ((numbering MethodCall.span).replaceInMethod_continues
    (reportAt (some seventhLine)) ⟨0, 0, []⟩).sameResult
  have unplaced := ((numbering fun _ => none).replaceInMethod_continues (reportAt none)
    ⟨0, 5, []⟩).sameResult
  exact ⟨transforms, same, spans_never_steer "log" transforms same rfl,
    (congrArg (fun edited => edited.value.body) placed).trans (by cbv),
    (congrArg (fun edited => edited.value.body) unplaced).trans (by cbv)⟩

end Replacer

end MarkedTree
