import Mathlib.Data.List.Permutation
import MarkedTree.Proofs.Action.Uses
import MarkedTree.Proofs.Dispatch.Decision

/-!
# A rule has no memory of its own

A host keeps a rule and makes call after call, each with elements and a context of
its own.  All that passes from one call to the next is what the handler keeps.  The
main statement says of any sequence of calls that each one is decided as it would be
by a rule that was built just now, that what the handler keeps goes through the
calls for which it runs and through no other, and that each call emits one event.
Calls whose handler fails are calls like any other.
-/

namespace MarkedTree.Rule

variable {κ η : Type}

/-- Answers a call of a host that brings elements and a context.  The rule keeps
what the handler keeps, and the host gets its context back. -/
def serve (rule : Rule (κ × η)) (offer : List Element × κ) : Action η (Offer × κ) := ⟨fun kept =>
  let reply := (rule.dispatch offer.1).run (offer.2, kept)
  ⟨(reply.result, reply.context.1), reply.context.2, reply.events⟩⟩

theorem run_serve (rule : Rule (κ × η)) (offer : List Element × κ) (kept : η) :
    (rule.serve offer).run kept =
      ⟨(((rule.dispatch offer.1).run (offer.2, kept)).result,
          ((rule.dispatch offer.1).run (offer.2, kept)).context.1),
        ((rule.dispatch offer.1).run (offer.2, kept)).context.2,
        ((rule.dispatch offer.1).run (offer.2, kept)).events⟩ := rfl

abbrev Call (κ η : Type) := Use (List Element × κ) η (Offer × κ)

def runsInCall (rule : Rule (κ × η)) (call : Call κ η) :
    List (HandlerRun rule.binding.kind (κ × η)) :=
  rule.runsOn call.input.1 (call.input.2, call.start)

/-- A call for which the handler ran once.  The event names the declaration as it was
offered. -/
structure Applied (rule : Rule (κ × η)) (call : Call κ η)
    (run : HandlerRun rule.binding.kind (κ × η)) : Prop where
  offered : call.input.1 = [.marker run.marker, .node rule.binding.kind run.node]
  ran : rule.runsInCall call = [run]
  started : run.start = (call.input.2, call.start)
  ended : call.reply.context = run.reply.context.2
  answered : ∀ reason, call.reply.result.1.answer ≠ .ok (.skipped reason)
  reported : call.reply.events =
    [.handlerApplied rule.binding run.marker.type (NodeKind.header run.node).name]
  told : call.reply.events.map Event.report =
    [⟨.trace, Event.dispatchTarget, "applying marker handler",
      [("rule", .text rule.binding.text), ("marker", .text run.marker.text),
        ("node", .text (NodeKind.header run.node).name)]⟩]

/-- A call for which the handler did not run, and which has changed nothing. -/
structure PassedOver (rule : Rule (κ × η)) (call : Call κ η) (reason : SkipReason) : Prop where
  ran : rule.runsInCall call = []
  ended : call.reply.context = call.start
  answered : call.reply.result = (⟨call.input.1, .ok (.skipped reason)⟩, call.input.2)
  reported : call.reply.events = [.pairSkipped rule.binding reason]
  told : call.reply.events.map Event.report =
    [⟨.debug, Event.dispatchTarget, "skipping node pair",
      [("rule", .text rule.binding.text), ("reason", .text reason.text)]⟩]

/-- The call is decided as it is by another rule in any state that is offered the same
elements. -/
structure DecidedLike {ρ : Type} (rule : Rule (κ × η)) (call : Call κ η) (other : Rule ρ)
    (state : ρ) : Prop where
  runs : rule.runsInCall call ≠ [] ↔ other.runsOn call.input.1 state ≠ []
  skips : ∀ reason, call.reply.result.1.answer = .ok (.skipped reason) ↔
    ((other.dispatch call.input.1).run state).result.answer = .ok (.skipped reason)

/-- Runs of the handler each of which starts with what the one before it kept, whatever
contexts they are given. -/
def HandsOn (rule : Rule (κ × η)) : η → List (HandlerRun rule.binding.kind (κ × η)) → η → Prop
  | first, [], last => last = first
  | first, run :: rest, last =>
      run.start.2 = first ∧ run.reply = (rule.handler run.marker run.node).run run.start ∧
        rule.HandsOn run.reply.context.2 rest last

variable {rule : Rule (κ × η)}

theorem applied_of_accepted {call : Call κ η}
    (served : call.reply = (rule.serve call.input).run call.start) {marker : Marker}
    {node : rule.binding.kind.Node}
    (accepted : rule.binding.verdict rule.catalog call.input.1 = .ok (marker, node))
    (silent : ∀ state, ((rule.handler marker node).run state).events = []) :
    rule.Applied call ⟨marker, node, (call.input.2, call.start),
      (rule.handler marker node).run (call.input.2, call.start)⟩ := by
  have dispatched := rule.run_dispatch_of_accepted accepted (call.input.2, call.start)
  have notRefused := Binding.refusal?_eq_none_iff.mpr ⟨marker, node, accepted⟩
  have reported : call.reply.events =
      [.handlerApplied rule.binding marker.type (NodeKind.header node).name] := by
    rw [served, run_serve, dispatched]
    simp [apply, silent]
  refine ⟨(Binding.verdict_eq_ok_iff.mp accepted).1, rule.runsOn_of_accepted accepted _, rfl,
    ?_, fun reason skipped => ?_, reported, by rw [reported]; rfl⟩
  · rw [served, run_serve, dispatched]
    rfl
  · rw [served, run_serve, answer_eq_skipped_iff, notRefused] at skipped
    cases skipped

theorem passedOver_of_refused {call : Call κ η}
    (served : call.reply = (rule.serve call.input).run call.start) {reason : SkipReason}
    (refused : rule.binding.verdict rule.catalog call.input.1 = .error reason) :
    rule.PassedOver call reason := by
  have dispatched := rule.run_dispatch_of_refused refused (call.input.2, call.start)
  refine ⟨rule.runsOn_of_refused refused _, ?_, ?_, ?_, ?_⟩ <;>
    rw [served, run_serve, dispatched]
  rfl

/-- The handler and the states have no part in what is decided. -/
theorem decidedLike {call : Call κ η}
    (served : call.reply = (rule.serve call.input).run call.start) {ρ : Type} {other : Rule ρ}
    (sameBinding : other.binding = rule.binding) (sameCatalog : other.catalog = rule.catalog)
    (state : ρ) : rule.DecidedLike call other state where
  runs := by rw [runsInCall, runsOn_ne_nil_iff, runsOn_ne_nil_iff, sameBinding, sameCatalog]
  skips reason := by
    rw [served, run_serve, answer_eq_skipped_iff, answer_eq_skipped_iff, sameBinding, sameCatalog]

/-- What the handler keeps goes from run to run, past the calls without one. -/
theorem handsOn_uses (rule : Rule (κ × η)) (kept : η) (offers : List (List Element × κ)) :
    rule.HandsOn kept ((Action.uses rule.serve kept offers).flatMap rule.runsInCall)
      (Use.end kept (Action.uses rule.serve kept offers)) := by
  induction offers generalizing kept with
  | nil => rfl
  | cons offer rest hypothesis =>
      rw [Action.uses, List.flatMap_cons]
      dsimp only [Use.end, List.foldl_cons, runsInCall]
      have following := hypothesis ((rule.serve offer).run kept).context
      cases decided : rule.binding.verdict rule.catalog offer.1 with
      | error reason =>
          have unchanged : ((rule.serve offer).run kept).context = kept := by
            rw [run_serve, rule.run_dispatch_of_refused decided]
          rw [rule.runsOn_of_refused decided, List.nil_append, unchanged]
          rwa [unchanged] at following
      | ok accepted =>
          have left : ((rule.serve offer).run kept).context =
              ((rule.handler accepted.1 accepted.2).run (offer.2, kept)).context.2 := by
            rw [run_serve, rule.run_dispatch_of_accepted decided]
            rfl
          rw [rule.runsOn_of_accepted decided, List.singleton_append]
          rw [left] at following ⊢
          exact ⟨rfl, rfl, following⟩

/-- Each call of an accepted rule is decided as a rule would decide it that was just
built over the same catalog for the same type and kind, with any handler in any state.
What the handler keeps goes through its runs alone, in the order of the calls.  If the
handler emits no events, each call emits one. -/
theorem calls_decided_alone {catalog : Catalog} {type : MarkerType} {kind : NodeKind}
    {handler : Handler kind (κ × η)} (built : build? catalog type kind handler = .ok rule)
    (silent : ∀ marker node state, ((handler marker node).run state).events = [])
    (kept : η) (offers : List (List Element × κ)) :
    let calls := Action.uses rule.serve kept offers
    let reply := (offers.mapM rule.serve).run kept
    calls.map Use.input = offers ∧
    reply.result = calls.map (fun call => call.reply.result) ∧
    reply.events = calls.flatMap (fun call => call.reply.events) ∧
    rule.HandsOn kept (calls.flatMap rule.runsInCall) reply.context ∧
    ∀ call ∈ calls,
      ((∃ run, rule.Applied call run) ∨ ∃ reason, rule.PassedOver call reason) ∧
      ∀ {ρ : Type} {otherHandler : Handler kind ρ} {fresh : Rule ρ},
        build? catalog type kind otherHandler = .ok fresh →
          ∀ state, rule.DecidedLike call fresh state := by
  intro calls reply
  have replied : reply = ⟨calls.map fun call => call.reply.result, Use.end kept calls,
      calls.flatMap fun call => call.reply.events⟩ :=
    Action.run_mapM rule.serve offers kept
  rcases build?_eq_ok_iff.mp built with ⟨_, _, rfl⟩
  refine ⟨Action.map_input_uses _ kept offers, by rw [replied], by rw [replied],
    by rw [replied]; exact handsOn_uses _ kept offers, fun call member => ⟨?_, ?_⟩⟩
  · have served := Action.reply_eq_of_mem_uses member
    cases decided : Binding.verdict ⟨type, kind⟩ catalog call.input.1 with
    | ok accepted =>
        exact .inl ⟨_, applied_of_accepted served decided (silent accepted.1 accepted.2)⟩
    | error reason => exact .inr ⟨reason, passedOver_of_refused served decided⟩
  · intro ρ otherHandler fresh builtToo state
    rcases build?_eq_ok_iff.mp builtToo with ⟨_, _, rfl⟩
    apply decidedLike (Action.reply_eq_of_mem_uses member) <;> rfl

/-- Gives a method the name of the marker that it carries.  The handler counts its
runs and fails in the second one, after it has changed the method. -/
def failingAgain : Handler .method (Nat × Nat) := fun marker node => ⟨fun state =>
  ⟨⟨{ node with name := marker.type.name },
      if state.2 = 1 then some (.failed "again" none) else none⟩,
    (state.1, state.2 + 1), []⟩⟩

def namesOnce : Rule (Nat × Nat) := ⟨⟨⟨"Logged"⟩, .method⟩, Catalog.tracing, failingAgain⟩

/-- Two offers that the rule waits for, with one in between that it does not. -/
def greetings : List (List Element × Nat) :=
  [([.marker (bare "Traced"), .node .method { name := "greet" }], 5), ([], 6),
    ([.marker (bare "Logged"), .node .method { name := "part" }], 7)]

theorem calls_decided_alone_greetings :
    build? Catalog.tracing ⟨"Logged"⟩ .method failingAgain = .ok namesOnce ∧
    (∀ marker node state, ((failingAgain marker node).run state).events = []) ∧
    ((greetings.mapM namesOnce.serve).run 0).events =
      [.handlerApplied namesOnce.binding ⟨"Traced"⟩ "greet", .pairSkipped namesOnce.binding .empty,
        .handlerApplied namesOnce.binding ⟨"Logged"⟩ "part"] ∧
    namesOnce.HandsOn 0
      ((Action.uses namesOnce.serve 0 greetings).flatMap namesOnce.runsInCall) 2 := by
  have built : build? Catalog.tracing ⟨"Logged"⟩ .method failingAgain = .ok namesOnce :=
    build?_eq_ok_iff.mpr ⟨by decide, by decide, rfl⟩
  have silent : ∀ marker node state, ((failingAgain marker node).run state).events = [] :=
    fun _ _ _ => rfl
  have kept : ((greetings.mapM namesOnce.serve).run 0).context = 2 := by cbv
  have decided := calls_decided_alone built silent 0 greetings
  refine ⟨built, silent, by cbv, ?_⟩
  rw [← kept]
  exact decided.2.2.2.1

end MarkedTree.Rule
