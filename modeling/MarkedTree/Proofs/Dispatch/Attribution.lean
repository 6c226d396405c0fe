import MarkedTree.Proofs.Dispatch.Decision

/-!
# Whom a failure is attributed to

A handler may do to a declaration what it likes before it fails, and it may offer
declarations to other rules on the way.  The failure that a dispatch gives back names the
pair as it was offered: the marker's own type, and the name and the span that the
declaration had then.  What the handler left stays.  Failures that come from further
inside are wrapped once by each dispatch that they pass on their way out
(`FailsThrough.answer_eq`, by induction on this way).
-/

namespace MarkedTree

/-- What a wrapper says of the dispatch that a failure came from. -/
structure Attribution where
  marker : MarkerType
  kind : NodeKind
  name : String
  span : Option Span
deriving DecidableEq

namespace Attribution

def wrap (attribution : Attribution) (source : Failure) : Failure :=
  .handler attribution.marker attribution.kind attribution.name attribution.span source

end Attribution

/-- A pair as it is offered to a rule: the marker's own type, the bound kind, and the name
and the span that the declaration has then. -/
def Binding.attribution (binding : Binding) (marker : Marker) (node : binding.kind.Node) :
    Attribution :=
  ⟨marker.type, binding.kind, (NodeKind.header node).name, (NodeKind.header node).span⟩

/-- The attribution of a run goes by what the handler was given. -/
def Rule.attributed {σ : Type} (rule : Rule σ) (run : HandlerRun rule.binding.kind σ)
    (source : Failure) : Failure :=
  (rule.binding.attribution run.marker run.node).wrap source

/-- What is left of a declaration that was offered to another rule, and why that failed. -/
def Offer.edited {kind : NodeKind} (offered : kind.Node) (offer : Offer) :
    Edited Failure kind.Node where
  value := (offer.elements.getLast?.bind (Element.narrow? kind)).getD offered
  failure := match offer.answer with
    | .ok _ => none
    | .error failure => some failure

namespace Rule

variable {σ ρ : Type} {rule : Rule σ} {elements : List Element} {context : σ}

/-- The answer to a pair that is handed to the handler. -/
theorem run_dispatch_of_refines {marker : Marker} {node : rule.binding.kind.Node}
    (related : rule.catalog.refines marker.type rule.binding.markerType = true) (context : σ) :
    let left := (rule.handler marker node).run context
    let reply := (rule.dispatch [.marker marker, .node rule.binding.kind node]).run context
    reply.result.elements = [.marker marker, .node rule.binding.kind left.result.value] ∧
      reply.context = left.context ∧
      reply.result.answer = match left.result.failure with
        | none => .ok .applied
        | some source => .error ((rule.binding.attribution marker node).wrap source) := by
  have accepted : rule.binding.verdict rule.catalog [.marker marker, .node rule.binding.kind node] =
      .ok (marker, node) := Binding.verdict_eq_ok_iff.mpr ⟨rfl, related⟩
  intro left reply
  dsimp only [reply]
  rw [rule.run_dispatch_of_accepted accepted]
  exact ⟨rfl, rfl, rfl⟩

theorem answer_eq_error_iff {failure : Failure} :
    ((rule.dispatch elements).run context).result.answer = .error failure ↔
      ∃ run source, rule.runsOn elements context = [run] ∧
        run.reply.result.failure = some source ∧ failure = rule.attributed run source := by
  cases decided : rule.binding.verdict rule.catalog elements with
  | error reason =>
      rw [rule.run_dispatch_of_refused decided, rule.runsOn_of_refused decided]
      simp
  | ok accepted =>
      rcases accepted with ⟨marker, node⟩
      rw [rule.run_dispatch_of_accepted decided, rule.runsOn_of_accepted decided]
      cases failed : ((rule.handler marker node).run context).result.failure with
      | none => simp [apply, failed]
      | some source =>
          simp [apply, failed, attributed, Binding.attribution, Attribution.wrap, eq_comm]

theorem answer_eq_applied_iff :
    ((rule.dispatch elements).run context).result.answer = .ok .applied ↔
      ∃ run, rule.runsOn elements context = [run] ∧ run.reply.result.failure = none := by
  cases decided : rule.binding.verdict rule.catalog elements with
  | error reason =>
      rw [rule.run_dispatch_of_refused decided, rule.runsOn_of_refused decided]
      simp
  | ok accepted =>
      rcases accepted with ⟨marker, node⟩
      rw [rule.run_dispatch_of_accepted decided, rule.runsOn_of_accepted decided]
      cases failed : ((rule.handler marker node).run context).result.failure <;>
        simp [apply, failed]

/-- The handler of a rule runs on a pair and fails.  Either the failure is its own, or it is
the one that it got from another rule, to which it offered something while it ran.  The
attributions are those of the dispatches on the way, the outermost first, and the source is
the failure of the innermost handler. -/
inductive FailsThrough :
    {σ : Type} → Rule σ → List Element → σ → List Attribution → Failure → Prop
  | own {σ : Type} {rule : Rule σ} {marker : Marker} {node : rule.binding.kind.Node}
      {context : σ} {source : Failure}
      (related : rule.catalog.refines marker.type rule.binding.markerType = true)
      (fails : ((rule.handler marker node).run context).result.failure = some source) :
      FailsThrough rule [.marker marker, .node rule.binding.kind node] context
        [rule.binding.attribution marker node] source
  | passedOn {σ ρ : Type} {rule : Rule σ} {marker : Marker} {node : rule.binding.kind.Node}
      {context : σ} {inner : Rule ρ} {offered : List Element} {start : ρ} {failure : Failure}
      {levels : List Attribution} {source : Failure}
      (related : rule.catalog.refines marker.type rule.binding.markerType = true)
      (deeper : FailsThrough inner offered start levels source)
      (got : ((inner.dispatch offered).run start).result.answer = .error failure)
      (fails : ((rule.handler marker node).run context).result.failure = some failure) :
      FailsThrough rule [.marker marker, .node rule.binding.kind node] context
        (rule.binding.attribution marker node :: levels) source

/-- Each dispatch on the way of a failure adds its own attribution to what it gets. -/
theorem FailsThrough.answer_eq {levels : List Attribution} {source : Failure}
    (through : rule.FailsThrough elements context levels source) :
    ((rule.dispatch elements).run context).result.answer =
      .error (levels.foldr Attribution.wrap source) := by
  induction through with
  | own related fails =>
      rw [(run_dispatch_of_refines related _).2.2, fails]
      rfl
  | passedOn related deeper got fails hypothesis =>
      -- What the handler got is what the induction says of the inner dispatch.
      cases got.symm.trans hypothesis
      rw [(run_dispatch_of_refines related _).2.2, fails]
      rfl

/-- Does its own work and then offers what it leaves of the declaration to another rule for
this kind.  It fails with whatever fails first. -/
def handingOn {kind : NodeKind} (own : Handler kind σ) (type : MarkerType) (catalog : Catalog)
    (next : Handler kind σ) : Handler kind σ := fun marker node => do
  let edited ← own marker node
  match edited.failure with
  | some failure => pure ⟨edited.value, some failure⟩
  | none =>
      Offer.edited edited.value <$>
        dispatch ⟨⟨type, kind⟩, catalog, next⟩ [.marker marker, .node kind edited.value]

/-- If the own work of such a handler succeeds, the failure of the other rule is passed on.
The other rule is offered the declaration as the own work left it. -/
theorem FailsThrough.handingOn {kind : NodeKind} {own next : Handler kind σ}
    {type innerType : MarkerType} {catalog innerCatalog : Catalog} {marker : Marker}
    {node : kind.Node} {levels : List Attribution} {source : Failure}
    (related : catalog.refines marker.type type = true)
    (succeeds : ((own marker node).run context).result.failure = none)
    (deeper : FailsThrough ⟨⟨innerType, kind⟩, innerCatalog, next⟩
      [.marker marker, .node kind ((own marker node).run context).result.value]
      ((own marker node).run context).context levels source) :
    FailsThrough ⟨⟨type, kind⟩, catalog, Rule.handingOn own innerType innerCatalog next⟩
      [.marker marker, .node kind node] context
      (Binding.attribution ⟨type, kind⟩ marker node :: levels) source := by
  have got := deeper.answer_eq
  have passesOn : ((Rule.handingOn own innerType innerCatalog next marker node).run
      context).result.failure = some (levels.foldr Attribution.wrap source) := by
    simp [Rule.handingOn, succeeds, got, Offer.edited]
  exact @passedOn _ _ ⟨⟨type, kind⟩, catalog, Rule.handingOn own innerType innerCatalog next⟩
    _ _ _ _ _ _ _ _ _ related deeper got passesOn

/-- A failure of an accepted rule tells which pair was offered to it, whatever the handler
has made of the declaration since: the marker's own type, and the name and the span that the
declaration had.  What the handler left and its own failure are as they were.  A rule fails
only if its handler ran and failed, and applies only if it ran and succeeded.  If handlers
offer something to other rules and pass on their failures, this holds at each level. -/
theorem failures_attributed {catalog : Catalog} {type : MarkerType} {kind : NodeKind}
    {handler : Handler kind σ} (built : build? catalog type kind handler = .ok rule) :
    rule = ⟨⟨type, kind⟩, catalog, handler⟩ ∧
    (∀ (marker : Marker) (node : rule.binding.kind.Node) (context : σ) (source : Failure),
      let left := (rule.handler marker node).run context
      let reply := (rule.dispatch [.marker marker, .node rule.binding.kind node]).run context
      catalog.refines marker.type type = true → left.result.failure = some source →
        reply.result.answer = .error (.handler marker.type kind (NodeKind.header node).name
          (NodeKind.header node).span source) ∧
        reply.result.elements = [.marker marker, .node rule.binding.kind left.result.value] ∧
        reply.context = left.context) ∧
    (∀ elements context failure,
      ((rule.dispatch elements).run context).result.answer = .error failure ↔
        ∃ run source, rule.runsOn elements context = [run] ∧
          run.reply.result.failure = some source ∧ failure = rule.attributed run source) ∧
    (∀ elements context, ((rule.dispatch elements).run context).result.answer = .ok .applied ↔
      ∃ run, rule.runsOn elements context = [run] ∧ run.reply.result.failure = none) ∧
    ∀ elements context levels source, rule.FailsThrough elements context levels source →
      ((rule.dispatch elements).run context).result.answer =
        .error (levels.foldr Attribution.wrap source) := by
  rcases build?_eq_ok_iff.mp built with ⟨_, _, rfl⟩
  refine ⟨rfl, fun marker node context source => ?_, fun _ _ _ => answer_eq_error_iff,
    fun _ _ => answer_eq_applied_iff, fun _ _ _ _ through => through.answer_eq⟩
  intro left reply related failed
  rcases @run_dispatch_of_refines _ ⟨⟨type, kind⟩, catalog, handler⟩ _ _ related context with
    ⟨leaves, inContext, answered⟩
  refine ⟨?_, leaves, inContext⟩
  rw [failed] at answered
  exact answered

/-- Renames a method, moves it to another line and counts. -/
def moving (name : String) (line : UInt32) : Handler .method Nat := fun _ node => ⟨fun count =>
  ⟨⟨{ node with name := name, span := some (.onLine line 0 1) }, none⟩, count + 1, []⟩⟩

/-- Takes a method its name and its span and fails. -/
def losing : Handler .method Nat := fun _ node => ⟨fun count =>
  ⟨⟨{ node with name := "", span := none }, some (.failed "lost" none)⟩, count + 1, []⟩⟩

/-- Handlers that move a method twice before it gets lost, each within the one before it. -/
def movingOn : Handler .method Nat :=
  handingOn (moving "first" 1) ⟨"Traced"⟩ Catalog.tracing
    (handingOn (moving "second" 2) ⟨"Logged"⟩ Catalog.tracing losing)

def greeting : Method := { name := "greet", span := some (.onLine 0 0 1) }

/-- This method with a marker that is more special than what the rule is bound to. -/
def greetingOffer : List Element := [.marker (bare "Traced"), .node .method greeting]

def movesLogged : Rule Nat := ⟨⟨⟨"Logged"⟩, .method⟩, Catalog.tracing, movingOn⟩

theorem failures_attributed_movesLogged :
    build? Catalog.tracing ⟨"Logged"⟩ .method movingOn = .ok movesLogged ∧
    Catalog.tracing.refines ⟨"Traced"⟩ ⟨"Logged"⟩ = true ∧
    movesLogged.FailsThrough greetingOffer 0
      [⟨⟨"Traced"⟩, .method, "greet", some (.onLine 0 0 1)⟩,
        ⟨⟨"Traced"⟩, .method, "first", some (.onLine 1 0 1)⟩,
        ⟨⟨"Traced"⟩, .method, "second", some (.onLine 2 0 1)⟩] (.failed "lost" none) ∧
    ((movesLogged.dispatch greetingOffer).run 0).result.answer =
      .error (.handler ⟨"Traced"⟩ .method "greet" (some (.onLine 0 0 1))
        (.handler ⟨"Traced"⟩ .method "first" (some (.onLine 1 0 1))
          (.handler ⟨"Traced"⟩ .method "second" (some (.onLine 2 0 1)) (.failed "lost" none)))) ∧
    ((movesLogged.dispatch greetingOffer).run 0).result.elements =
      [.marker (bare "Traced"), .node .method { greeting with name := "", span := none }] ∧
    ((movesLogged.dispatch greetingOffer).run 0).context = 3 := by
  have built : build? Catalog.tracing ⟨"Logged"⟩ .method movingOn = .ok movesLogged :=
    build?_eq_ok_iff.mpr ⟨by decide, by decide, rfl⟩
  have isLogged : Catalog.tracing.refines ⟨"Traced"⟩ ⟨"Logged"⟩ = true := by cbv
  have isTraced : Catalog.tracing.refines ⟨"Traced"⟩ ⟨"Traced"⟩ = true := by cbv
  rcases failures_attributed built with ⟨_, ofPair, _, _, throughLevels⟩
  have innermost : FailsThrough ⟨⟨⟨"Logged"⟩, .method⟩, Catalog.tracing, losing⟩
      [.marker (bare "Traced"), .node .method { name := "second", span := some (.onLine 2 0 1) }] 2
      [⟨⟨"Traced"⟩, .method, "second", some (.onLine 2 0 1)⟩] (.failed "lost" none) :=
    .own isLogged rfl
  have through : movesLogged.FailsThrough greetingOffer 0
      [⟨⟨"Traced"⟩, .method, "greet", some (.onLine 0 0 1)⟩,
        ⟨⟨"Traced"⟩, .method, "first", some (.onLine 1 0 1)⟩,
        ⟨⟨"Traced"⟩, .method, "second", some (.onLine 2 0 1)⟩] (.failed "lost" none) :=
    .handingOn isLogged rfl (.handingOn isTraced rfl innermost)
  have answered := throughLevels _ _ _ _ through
  have fails : ((movesLogged.handler (bare "Traced") greeting).run 0).result.failure =
      some (.handler ⟨"Traced"⟩ .method "first" (some (.onLine 1 0 1))
        (.handler ⟨"Traced"⟩ .method "second" (some (.onLine 2 0 1)) (.failed "lost" none))) := by
    cbv
  rcases ofPair (bare "Traced") greeting 0 _ isLogged fails with ⟨_, leaves, inContext⟩
  exact ⟨built, isLogged, through, answered, leaves.trans (by cbv), inContext.trans (by cbv)⟩

end Rule

/-!
## Failures within failures

Each dispatch that a failure passes on its way out wraps it once more, so that failures
are nested to any depth.  A nested failure is a list of wrappers around an origin, which
is what a transform or a handler failed with itself.  Text and span are defined by
recursion on the nesting; here they are said of the list.  The text is read from the
outermost wrapper inwards.  The span is looked for the other way round: that of the
origin comes first, and then that of the innermost wrapper that has one, whichever of the
others have spans and whichever have not.
-/

namespace Failure

/-- A failure that wraps no other. -/
inductive Origin
  | failed (message : String) (span : Option Span)
  | foreign (error : ForeignError)
deriving DecidableEq

namespace Origin

def failure : Origin → Failure
  | .failed message span => .failed message span
  | .foreign error => .foreign error

def text : Origin → String
  | .failed message _ => message
  | .foreign error => error.message

/-- Where it failed, if it says so.  Code outside this library never does. -/
def span : Origin → Option Span
  | .failed _ span => span
  | .foreign _ => none

/-- The failure within wrappers, the outermost first. -/
def within (origin : Origin) (wrappers : List Attribution) : Failure :=
  wrappers.foldr Attribution.wrap origin.failure

theorem within_cons (origin : Origin) (wrapper : Attribution) (wrappers : List Attribution) :
    origin.within (wrapper :: wrappers) = wrapper.wrap (origin.within wrappers) := rfl

end Origin

/-- The wrappers of a failure, the outermost first. -/
def wrappers : Failure → List Attribution
  | .failed .. => []
  | .handler marker kind name span source => ⟨marker, kind, name, span⟩ :: source.wrappers
  | .foreign _ => []

/-- What the wrappers of a failure are around. -/
def origin : Failure → Origin
  | .failed message span => .failed message span
  | .handler _ _ _ _ source => source.origin
  | .foreign error => .foreign error

theorem within_wrappers (failure : Failure) : failure.origin.within failure.wrappers = failure := by
  induction failure with
  | failed message span => rfl
  | handler marker kind name span source hypothesis =>
      exact congrArg (Failure.handler marker kind name span) hypothesis
  | foreign error => rfl

theorem wrappers_within (origin : Origin) (wrappers : List Attribution) :
    (origin.within wrappers).wrappers = wrappers := by
  induction wrappers with
  | nil => cases origin <;> rfl
  | cons wrapper wrappers hypothesis => exact congrArg (wrapper :: ·) hypothesis

theorem origin_within (origin : Origin) (wrappers : List Attribution) :
    (origin.within wrappers).origin = origin := by
  induction wrappers with
  | nil => cases origin <;> rfl
  | cons wrapper wrappers hypothesis => exact hypothesis

end Failure

open Failure

namespace Attribution

/-- What a wrapper puts in front of the text of its source. -/
def heading (wrapper : Attribution) : String :=
  "@" ++ wrapper.marker.name ++ " on " ++ wrapper.kind.text ++ " `" ++ wrapper.name ++ "` failed: "

/-- The place is that of the innermost of these wrappers that have one. -/
def Innermost (wrappers : List Attribution) (place : Span) : Prop :=
  ∃ outer wrapper inner, wrappers = outer ++ wrapper :: inner ∧ wrapper.span = some place ∧
    ∀ other ∈ inner, other.span = none

theorem text_wrap (wrapper : Attribution) (source : Failure) :
    (wrapper.wrap source).text = wrapper.heading ++ source.text := rfl

theorem span_wrap (wrapper : Attribution) (source : Failure) :
    (wrapper.wrap source).span = source.span.or wrapper.span := by
  change (source.span <|> wrapper.span) = _
  cases source.span <;> rfl

/-- Looked for from the inside, the first span found is the innermost one. -/
theorem findSome?_reverse_eq_some_iff {wrappers : List Attribution} {place : Span} :
    wrappers.reverse.findSome? Attribution.span = some place ↔ Innermost wrappers place := by
  rw [List.findSome?_eq_some_iff]
  constructor
  · rintro ⟨inner, wrapper, outer, reversed, found, noneInside⟩
    refine ⟨outer.reverse, wrapper, inner.reverse, ?_, found, fun other member => ?_⟩
    · simpa using congrArg List.reverse reversed
    · exact noneInside other (List.mem_reverse.mp member)
  · rintro ⟨outer, wrapper, inner, rfl, found, noneInside⟩
    refine ⟨inner.reverse, wrapper, outer.reverse, by simp, found, fun other member => ?_⟩
    exact noneInside other (List.mem_reverse.mp member)

end Attribution

open Attribution

namespace Failure.Origin

variable (origin : Origin) (wrappers : List Attribution)

theorem text_within :
    (origin.within wrappers).text = String.join (wrappers.map heading) ++ origin.text := by
  induction wrappers with
  | nil => cases origin <;> simp [within, failure, Failure.text, text]
  | cons wrapper wrappers hypothesis =>
      rw [within_cons, text_wrap, hypothesis, List.map_cons, String.join_cons, String.append_assoc]

theorem span_within :
    (origin.within wrappers).span =
      origin.span.or (wrappers.reverse.findSome? Attribution.span) := by
  induction wrappers with
  | nil => cases origin <;> simp [within, failure, Failure.span, span]
  | cons wrapper wrappers hypothesis =>
      rw [within_cons, span_wrap, hypothesis, List.reverse_cons, List.findSome?_append,
        Option.or_assoc]
      simp

theorem span_within_eq_some_iff {place : Span} :
    (origin.within wrappers).span = some place ↔
      origin.span = some place ∨ origin.span = none ∧ Innermost wrappers place := by
  rw [span_within, Option.or_eq_some_iff, findSome?_reverse_eq_some_iff]

theorem span_within_eq_none_iff :
    (origin.within wrappers).span = none ↔
      origin.span = none ∧ ∀ wrapper ∈ wrappers, wrapper.span = none := by
  rw [span_within, Option.or_eq_none_iff, List.findSome?_eq_none_iff]
  simp only [List.mem_reverse]

end Failure.Origin

namespace Failure

/-- A failure is made in one way of wrappers around an origin, any number of them.  Its
text is the headings of the wrappers, the outermost first, and then the text of the
origin.  Its span is that of the origin, or else that of the innermost wrapper that has
one, and there is none if none of them has one. -/
theorem nested_text_and_span (failure : Failure) :
    (∀ origin wrappers, origin.within wrappers = failure ↔
      origin = failure.origin ∧ wrappers = failure.wrappers) ∧
    failure.text = String.join (failure.wrappers.map heading) ++ failure.origin.text ∧
    (∀ place, failure.span = some place ↔ failure.origin.span = some place ∨
      failure.origin.span = none ∧ Innermost failure.wrappers place) ∧
    (failure.span = none ↔
      failure.origin.span = none ∧ ∀ wrapper ∈ failure.wrappers, wrapper.span = none) := by
  have apart := failure.within_wrappers
  refine ⟨fun origin wrappers => ⟨?_, ?_⟩, ?_, fun place => ?_, ?_⟩
  · rintro rfl
    exact ⟨(origin_within origin wrappers).symm, (wrappers_within origin wrappers).symm⟩
  · rintro ⟨rfl, rfl⟩
    exact apart
  · conv => lhs; rw [← apart, Origin.text_within]
  · conv => lhs; rw [← apart, Origin.span_within_eq_some_iff]
  · conv => lhs; rw [← apart, Origin.span_within_eq_none_iff]

/-- Wrappers without a span are passed over, and the inner one of two spans is taken. -/
example (inner outer : Span) :
    ((Origin.failed "no level" none).within [⟨⟨"Traced"⟩, .method, "run", none⟩,
      ⟨⟨"Audit"⟩, .method, "run", some outer⟩, ⟨⟨"Logged"⟩, .method, "log", some inner⟩,
      ⟨⟨"Cached"⟩, .method, "log", none⟩]).span = some inner := rfl

end Failure

end MarkedTree
