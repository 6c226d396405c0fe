import MarkedTree.Dispatch
import MarkedTree.Proofs.Catalog.Reachable

/-!
# What a rule decides about an offer

An offer is either one that a rule waits for (`Matches`) or one that it refuses
for one reason (`Refuses`).  Both are said here of the offered elements and of
the parents recorded in the catalog, without a look at how a rule goes about its
checks.  Whether the handler did run is read off a log that a logging handler
keeps, so the main statement compares what a rule waits for with what happened.
-/

namespace MarkedTree

namespace Binding

/-- A marker of this type is for the rule: it is of the bound type or has that
type among its ancestors. -/
def Accepts (binding : Binding) (catalog : Catalog) (type : MarkerType) : Prop :=
  type = binding.markerType ∨ Relation.TransGen catalog.HasParent type binding.markerType

/-- The offer is the marker and the declaration that a rule waits for. -/
structure Matches (binding : Binding) (catalog : Catalog) (elements : List Element)
    (marker : Marker) (node : binding.kind.Node) : Prop where
  isPair : elements = [.marker marker, .node binding.kind node]
  accepted : binding.Accepts catalog marker.type

/-- The offer is none that a rule waits for.  A reason presupposes that the
offer has no flaw of the kinds that come before it. -/
inductive Refuses (binding : Binding) (catalog : Catalog) : List Element → SkipReason → Prop
  | empty : Refuses binding catalog [] .empty
  | wrongArity {elements} (notEmpty : elements ≠ []) (notPair : elements.length ≠ 2) :
      Refuses binding catalog elements (.wrongArity elements.length)
  | firstNotMarker {first last} (notMarker : ∀ marker, first ≠ .marker marker) :
      Refuses binding catalog [first, last] .firstNotMarker
  | lastNotAnnotated {marker last} (notNode : ∀ kind node, last ≠ .node kind node) :
      Refuses binding catalog [.marker marker, last] .lastNotAnnotated
  | markerMismatch {marker kind node} (unrelated : ¬ binding.Accepts catalog marker.type) :
      Refuses binding catalog [.marker marker, .node kind node] (.markerMismatch marker.type)
  | kindMismatch {marker kind node} (accepted : binding.Accepts catalog marker.type)
      (differs : kind ≠ binding.kind) :
      Refuses binding catalog [.marker marker, .node kind node] (.kindMismatch kind)

variable {binding : Binding} {catalog : Catalog}

/-- Without cycles, asking the catalog for refinement is asking whether the bound
type is the type or one of its ancestors. -/
theorem accepts_iff (acyclic : catalog.Acyclic) {type : MarkerType} :
    binding.Accepts catalog type ↔ catalog.refines type binding.markerType = true := by
  rw [Catalog.refines_iff acyclic, Relation.reflTransGen_iff_eq_or_transGen, Accepts]
  exact or_congr_left eq_comm

/-- Only declared types have ancestors. -/
theorem Accepts.declared (bound : catalog.contains binding.markerType = true) {type : MarkerType}
    (accepted : binding.Accepts catalog type) : catalog.contains type = true := by
  rcases accepted with same | above
  · exact same ▸ bound
  · rcases Relation.TransGen.head'_iff.mp above with ⟨parent, recorded, _⟩
    exact Catalog.contains_iff_mem_keys.mpr (Catalog.mem_keys_of_parent? recorded)

/-- There is no third case: what a rule does not wait for it refuses. -/
theorem matches_or_refuses (binding : Binding) (catalog : Catalog) (elements : List Element) :
    (∃ marker node, binding.Matches catalog elements marker node) ∨
      ∃ reason, binding.Refuses catalog elements reason := by
  match elements with
  | [] => exact .inr ⟨_, .empty⟩
  | [_] => exact .inr ⟨_, .wrongArity (List.cons_ne_nil _ _) (by simp)⟩
  | _ :: _ :: _ :: _ => exact .inr ⟨_, .wrongArity (List.cons_ne_nil _ _) (by simp)⟩
  | [first, last] =>
      cases first with
      | node | stmt | expr => exact .inr ⟨_, .firstNotMarker nofun⟩
      | marker marker =>
          cases last with
          | marker | stmt | expr => exact .inr ⟨_, .lastNotAnnotated nofun⟩
          | node kind node =>
              by_cases accepted : binding.Accepts catalog marker.type
              · by_cases same : kind = binding.kind
                · subst same
                  exact .inl ⟨marker, node, rfl, accepted⟩
                · exact .inr ⟨_, .kindMismatch accepted same⟩
              · exact .inr ⟨_, .markerMismatch accepted⟩

end Binding

structure HandlerRun (kind : NodeKind) (σ : Type) where
  marker : Marker
  node : kind.Node
  start : σ
  reply : Reply σ (Edited Failure kind.Node)

namespace Rule

variable {σ : Type} {rule : Rule σ}

/-- The same rule with a handler that also appends each of its runs to a log. -/
def logged (rule : Rule σ) : Rule (σ × List (HandlerRun rule.binding.kind σ)) where
  binding := rule.binding
  catalog := rule.catalog
  handler marker node := ⟨fun state =>
    let reply := (rule.handler marker node).run state.1
    ⟨reply.result, (reply.context, state.2 ++ [⟨marker, node, state.1, reply⟩]), reply.events⟩⟩

/-- The runs of the handler while a rule looks at an offer, first to last. -/
def runsOn (rule : Rule σ) (elements : List Element) (context : σ) :
    List (HandlerRun rule.binding.kind σ) :=
  ((rule.logged.dispatch elements).run (context, [])).context.2

theorem build?_eq_ok_iff {catalog : Catalog} {markerType : MarkerType} {kind : NodeKind}
    {handler : Handler kind σ} :
    build? catalog markerType kind handler = .ok rule ↔
      markerType.isBlank = false ∧ catalog.contains markerType = true ∧
        rule = ⟨⟨markerType, kind⟩, catalog, handler⟩ := by
  rw [build?]
  cases markerType.isBlank with
  | true => simp
  | false => cases catalog.contains markerType <;> simp [eq_comm]

/-- What a rule waits for goes to the handler. -/
theorem dispatch_of_matches (rule : Rule σ) (acyclic : rule.catalog.Acyclic)
    {elements : List Element} {marker : Marker} {node : rule.binding.kind.Node}
    (isMatch : rule.binding.Matches rule.catalog elements marker node) :
    rule.dispatch elements = rule.apply marker node := by
  have related := (Binding.accepts_iff acyclic).mp isMatch.accepted
  rw [isMatch.isPair]
  simp only [dispatch, Element.asMarker?, Element.annotatedKind?, related, if_true,
    Element.narrow?_node_self]

/-- What a rule refuses is left as it is, for the reason for which it is refused. -/
theorem dispatch_of_refuses (rule : Rule σ) (acyclic : rule.catalog.Acyclic)
    {elements : List Element} {reason : SkipReason}
    (refused : rule.binding.Refuses rule.catalog elements reason) :
    rule.dispatch elements = rule.skip elements reason := by
  cases refused with
  | empty => rfl
  | wrongArity notEmpty notPair =>
      match elements, notEmpty, notPair with
      | [_], _, _ => rfl
      | _ :: _ :: _ :: _, _, _ => rfl
  | @firstNotMarker first _ notMarker =>
      cases first with
      | marker marker => exact absurd rfl (notMarker marker)
      | node | stmt | expr => rfl
  | @lastNotAnnotated _ last notNode =>
      cases last with
      | node kind node => exact absurd rfl (notNode kind node)
      | marker | stmt | expr => rfl
  | markerMismatch unrelated =>
      have notRefined := mt (Binding.accepts_iff acyclic).mpr unrelated
      simp only [dispatch, Element.asMarker?, Element.annotatedKind?, if_neg notRefined]
  | kindMismatch accepted differs =>
      have related := (Binding.accepts_iff acyclic).mp accepted
      simp only [dispatch, Element.asMarker?, Element.annotatedKind?, Element.narrow?, related,
        if_true, dif_neg differs]

/-- The handler ran once, on this marker and this node, and the rule did not
answer that it skipped the offer. -/
structure Handled (rule : Rule σ) (elements : List Element) (context : σ) (marker : Marker)
    (node : rule.binding.kind.Node) : Prop where
  ranOnce : rule.runsOn elements context =
    [⟨marker, node, context, (rule.handler marker node).run context⟩]
  leaves : ((rule.dispatch elements).run context).result.elements =
    [.marker marker, .node rule.binding.kind ((rule.handler marker node).run context).result.value]
  inContext : ((rule.dispatch elements).run context).context =
    ((rule.handler marker node).run context).context
  answered : ∀ reason, ((rule.dispatch elements).run context).result.answer ≠ .ok (.skipped reason)

/-- The handler did not run, and nothing has changed. -/
structure Skipped (rule : Rule σ) (elements : List Element) (context : σ) (reason : SkipReason) :
    Prop where
  ranNever : rule.runsOn elements context = []
  result : ((rule.dispatch elements).run context).result = ⟨elements, .ok (.skipped reason)⟩
  inContext : ((rule.dispatch elements).run context).context = context

theorem handled_of_matches (acyclic : rule.catalog.Acyclic) {elements : List Element}
    {marker : Marker} {node : rule.binding.kind.Node}
    (isMatch : rule.binding.Matches rule.catalog elements marker node) (context : σ) :
    rule.Handled elements context marker node := by
  have applies := rule.dispatch_of_matches acyclic isMatch
  have logs := rule.logged.dispatch_of_matches acyclic isMatch
  refine ⟨?_, ?_, ?_, fun reason skipped => ?_⟩
  · rw [runsOn, logs]
    rfl
  · rw [applies]
    rfl
  · rw [applies]
    rfl
  · rw [applies] at skipped
    cases failed : ((rule.handler marker node).run context).result.failure <;>
      simp [apply, failed] at skipped

theorem skipped_of_refuses (acyclic : rule.catalog.Acyclic) {elements : List Element}
    {reason : SkipReason} (refused : rule.binding.Refuses rule.catalog elements reason)
    (context : σ) : rule.Skipped elements context reason := by
  have skips := rule.dispatch_of_refuses acyclic refused
  have logs := rule.logged.dispatch_of_refuses acyclic refused
  refine ⟨?_, ?_, ?_⟩
  · rw [runsOn, logs]
    rfl
  · rw [skips]
    rfl
  · rw [skips]
    rfl

theorem Skipped.unique {elements : List Element} {context : σ} {first second : SkipReason}
    (skipped : rule.Skipped elements context first)
    (skippedToo : rule.Skipped elements context second) : first = second := by
  have same := skipped.result.symm.trans skippedToo.result
  simpa using same

/-- A rule that was built over a catalog that a host can come by runs its handler
exactly on what it waits for, once, and skips all else for the first reason that
there is, without an effect.  It never changes the marker that it is offered, and
the declaration only through the handler. -/
theorem dispatch_decides {catalog : Catalog} (reachable : catalog.Reachable)
    {markerType : MarkerType} {kind : NodeKind} {handler : Handler kind σ}
    (built : build? catalog markerType kind handler = .ok rule) (elements : List Element)
    (context : σ) :
    let runs := rule.runsOn elements context
    let left := ((rule.dispatch elements).run context).result.elements
    rule = ⟨⟨markerType, kind⟩, catalog, handler⟩ ∧
    (runs ≠ [] ↔ ∃ marker node, rule.binding.Matches catalog elements marker node) ∧
    (∀ marker node, rule.binding.Matches catalog elements marker node →
      rule.Handled elements context marker node ∧ catalog.contains marker.type = true) ∧
    ((¬ ∃ marker node, rule.binding.Matches catalog elements marker node) →
      ∃ reason, rule.Skipped elements context reason ∧
        ∀ other, rule.binding.Refuses catalog elements other ↔ other = reason) ∧
    left.head? = elements.head? ∧
    (left = elements ∨ ∃ run ∈ runs,
      elements = [.marker run.marker, .node rule.binding.kind run.node] ∧
        left = [.marker run.marker, .node rule.binding.kind run.reply.result.value]) := by
  intro runs left
  rcases build?_eq_ok_iff.mp built with ⟨_, declared, isRule⟩
  have ofCatalog : rule.catalog = catalog := by rw [isRule]
  have bound : catalog.contains rule.binding.markerType = true := by rw [isRule]; exact declared
  subst ofCatalog
  have acyclic := reachable.wellFormed.acyclic
  rcases rule.binding.matches_or_refuses rule.catalog elements with
    ⟨marker, node, isMatch⟩ | ⟨reason, refused⟩
  · have handled := handled_of_matches acyclic isMatch context
    let run : HandlerRun rule.binding.kind σ :=
      ⟨marker, node, context, (rule.handler marker node).run context⟩
    have ran : runs = [run] := handled.ranOnce
    have leaves : left = [.marker marker, .node rule.binding.kind run.reply.result.value] :=
      handled.leaves
    refine ⟨isRule, iff_of_true (ran ▸ List.cons_ne_nil _ _) ⟨marker, node, isMatch⟩,
      fun other otherNode isOther => ⟨handled_of_matches acyclic isOther context,
        isOther.accepted.declared bound⟩,
      fun noMatch => absurd ⟨marker, node, isMatch⟩ noMatch, ?_,
      .inr ⟨run, ran ▸ List.mem_singleton_self _, isMatch.isPair, leaves⟩⟩
    rw [isMatch.isPair, leaves]
    rfl
  · have skipped := skipped_of_refuses acyclic refused context
    have unchanged : left = elements := congrArg Offer.elements skipped.result
    have noMatch : ¬ ∃ marker node, rule.binding.Matches rule.catalog elements marker node := by
      rintro ⟨marker, node, isMatch⟩
      have ran := (handled_of_matches acyclic isMatch context).ranOnce
      exact List.cons_ne_nil _ _ (ran.symm.trans skipped.ranNever)
    -- The outcome names one reason, so no other reason can be given for the offer.
    refine ⟨isRule, iff_of_false (not_not_intro skipped.ranNever) noMatch,
      fun marker node isMatch => absurd ⟨marker, node, isMatch⟩ noMatch,
      fun _ => ⟨reason, skipped, fun other => ⟨fun refusedToo => ?_, fun same => same ▸ refused⟩⟩,
      congrArg List.head? unchanged, .inl unchanged⟩
    exact (skipped_of_refuses acyclic refusedToo context).unique skipped

/-- Gives a method the name of the marker that it carries, and counts how often
it did so. -/
def naming : Handler .method Nat := fun marker node =>
  ⟨fun count => ⟨⟨{ node with name := marker.type.name }, none⟩, count + 1, []⟩⟩

/-- The rule that names methods by markers that refine `Logged`. -/
def namesLogged : Rule Nat := ⟨⟨⟨"Logged"⟩, .method⟩, Catalog.tracing, naming⟩

def bare (name : String) : Marker := { type := ⟨name⟩ }

theorem dispatch_decides_namesLogged :
    Catalog.tracing.Reachable ∧
      build? Catalog.tracing ⟨"Logged"⟩ .method naming = .ok namesLogged ∧
      (∀ node : Method, namesLogged.Handled
        [.marker (bare "Traced"), .node .method node] 3 (bare "Traced") node) ∧
      ∀ node : Method, namesLogged.Skipped
        [.marker (bare "Unknown"), .node .method node] 3 (.markerMismatch ⟨"Unknown"⟩) := by
  have built : build? Catalog.tracing ⟨"Logged"⟩ .method naming = .ok namesLogged := by
    exact build?_eq_ok_iff.mpr ⟨by decide, by decide, rfl⟩
  have acyclic := Catalog.tracing_reachable.wellFormed.acyclic
  have traced : namesLogged.binding.Accepts Catalog.tracing ⟨"Traced"⟩ :=
    (Binding.accepts_iff acyclic).mpr (by cbv)
  have unknown : ¬ namesLogged.binding.Accepts Catalog.tracing ⟨"Unknown"⟩ :=
    mt (Binding.accepts_iff acyclic).mp (by cbv; decide)
  refine ⟨Catalog.tracing_reachable, built, fun node => ?_, fun node => ?_⟩
  · have decides := dispatch_decides Catalog.tracing_reachable built
      [.marker (bare "Traced"), .node .method node] 3
    exact (decides.2.2.1 (bare "Traced") node ⟨rfl, traced⟩).1
  · have decides := dispatch_decides Catalog.tracing_reachable built
      [.marker (bare "Unknown"), .node .method node] 3
    have noMatch : ¬ ∃ marker other, namesLogged.binding.Matches Catalog.tracing
        [.marker (bare "Unknown"), .node .method node] marker other := by
      rintro ⟨marker, other, isPair, accepted⟩
      cases isPair
      exact unknown accepted
    rcases decides.2.2.2.1 noMatch with ⟨reason, skipped, refusedFor⟩
    rw [(refusedFor (.markerMismatch ⟨"Unknown"⟩)).mp (.markerMismatch unknown)]
    exact skipped

end Rule

/-!
## What a rule decides, apart from what it does then

`Binding.verdict` is the decision of a rule as a function of its binding, of the
catalog and of what is offered: neither the handler nor any state has a part in it.
A dispatch is this decision followed by the handler or by a skip
(`dispatch_eq_verdict`).  Nothing is assumed of the catalog here.

Whether an offer is refused, and for which reason, does not depend on what the
offered declaration holds.  A rule therefore decides the same about what another
rule leaves of an offer (`refusal?_left`).
-/

namespace Binding

/-- The marker and the declaration that a rule hands to its handler, or the reason
why it hands over nothing. -/
def verdict (binding : Binding) (catalog : Catalog) :
    List Element → Except SkipReason (Marker × binding.kind.Node)
  | [] => .error .empty
  | [first, last] =>
      match first, last with
      | .marker marker, .node kind node =>
          if catalog.refines marker.type binding.markerType then
            if same : kind = binding.kind then .ok (marker, same ▸ node)
            else .error (.kindMismatch kind)
          else .error (.markerMismatch marker.type)
      | .marker _, _ => .error .lastNotAnnotated
      | _, _ => .error .firstNotMarker
  | elements => .error (.wrongArity elements.length)

def refusal? (binding : Binding) (catalog : Catalog) (elements : List Element) :
    Option SkipReason :=
  match binding.verdict catalog elements with
  | .ok _ => none
  | .error reason => some reason

variable {binding : Binding} {catalog : Catalog} {elements : List Element}

theorem verdict_eq_ok_iff {marker : Marker} {node : binding.kind.Node} :
    binding.verdict catalog elements = .ok (marker, node) ↔
      elements = [.marker marker, .node binding.kind node] ∧
        catalog.refines marker.type binding.markerType = true := by
  constructor
  · intro accepted
    match elements with
    | [] | [_] | _ :: _ :: _ :: _ => cases accepted
    | [.node .., _] | [.stmt _, _] | [.expr _, _] => cases accepted
    | [.marker _, .marker _] | [.marker _, .stmt _] | [.marker _, .expr _] => cases accepted
    | [.marker offered, .node kind value] =>
        simp only [verdict] at accepted
        split at accepted
        case isFalse => cases accepted
        case isTrue related =>
          split at accepted
          case isFalse => cases accepted
          case isTrue same =>
            subst same
            cases accepted
            exact ⟨rfl, related⟩
  · rintro ⟨rfl, related⟩
    simp only [verdict, related, if_true, dif_pos]

theorem refusal?_eq_none_iff : binding.refusal? catalog elements = none ↔
    ∃ marker node, binding.verdict catalog elements = .ok (marker, node) := by
  rw [refusal?]
  cases binding.verdict catalog elements with
  | error reason => simp
  | ok accepted => exact iff_of_true rfl ⟨accepted.1, accepted.2, rfl⟩

theorem refusal?_eq_some_iff {reason : SkipReason} :
    binding.refusal? catalog elements = some reason ↔
      binding.verdict catalog elements = .error reason := by
  rw [refusal?]
  cases binding.verdict catalog elements <;> simp

/-- What a declaration holds has no part in whether it is refused. -/
theorem refusal?_node (binding : Binding) (catalog : Catalog) (marker : Marker) {kind : NodeKind}
    (node other : kind.Node) :
    binding.refusal? catalog [.marker marker, .node kind node] =
      binding.refusal? catalog [.marker marker, .node kind other] := by
  simp only [refusal?, verdict]
  by_cases related : catalog.refines marker.type binding.markerType = true
  · by_cases same : kind = binding.kind
    · simp only [related, if_true, dif_pos same]
    · simp only [related, if_true, dif_neg same]
  · simp only [related, Bool.false_eq_true, if_false]

end Binding

namespace Rule

variable {σ : Type} {rule : Rule σ} {elements : List Element}

/-- A dispatch is the verdict, followed by the handler or by a skip. -/
theorem dispatch_eq_verdict (rule : Rule σ) (elements : List Element) :
    rule.dispatch elements =
      match rule.binding.verdict rule.catalog elements with
      | .ok (marker, node) => rule.apply marker node
      | .error reason => rule.skip elements reason := by
  match elements with
  | [] | [_] | _ :: _ :: _ :: _ => rfl
  | [.node .., _] | [.stmt _, _] | [.expr _, _] => rfl
  | [.marker _, .marker _] | [.marker _, .stmt _] | [.marker _, .expr _] => rfl
  | [.marker marker, .node kind node] =>
      simp only [dispatch, Element.asMarker?, Element.annotatedKind?, Element.narrow?,
        Binding.verdict]
      by_cases related : rule.catalog.refines marker.type rule.binding.markerType = true
      · by_cases same : kind = rule.binding.kind
        · simp only [related, if_true, dif_pos same]
        · simp only [related, if_true, dif_neg same]
      · simp only [related, Bool.false_eq_true, if_false]

theorem run_dispatch_of_accepted {marker : Marker} {node : rule.binding.kind.Node}
    (accepted : rule.binding.verdict rule.catalog elements = .ok (marker, node)) (context : σ) :
    (rule.dispatch elements).run context = (rule.apply marker node).run context := by
  rw [dispatch_eq_verdict, accepted]

theorem run_dispatch_of_refused {reason : SkipReason}
    (refused : rule.binding.verdict rule.catalog elements = .error reason) (context : σ) :
    (rule.dispatch elements).run context =
      ⟨⟨elements, .ok (.skipped reason)⟩, context, [.pairSkipped rule.binding reason]⟩ := by
  rw [dispatch_eq_verdict, refused]
  rfl

theorem runsOn_of_accepted {marker : Marker} {node : rule.binding.kind.Node}
    (accepted : rule.binding.verdict rule.catalog elements = .ok (marker, node)) (context : σ) :
    rule.runsOn elements context =
      [⟨marker, node, context, (rule.handler marker node).run context⟩] := by
  have logs := rule.logged.run_dispatch_of_accepted accepted (context, [])
  rw [runsOn, logs]
  rfl

theorem runsOn_of_refused {reason : SkipReason}
    (refused : rule.binding.verdict rule.catalog elements = .error reason) (context : σ) :
    rule.runsOn elements context = [] := by
  rw [runsOn, rule.logged.run_dispatch_of_refused refused]

/-- The handler runs if and only if the offer is not refused. -/
theorem runsOn_ne_nil_iff {context : σ} :
    rule.runsOn elements context ≠ [] ↔
      rule.binding.refusal? rule.catalog elements = none := by
  cases decided : rule.binding.verdict rule.catalog elements with
  | ok accepted => simp [rule.runsOn_of_accepted decided, Binding.refusal?, decided]
  | error reason => simp [rule.runsOn_of_refused decided, Binding.refusal?, decided]

/-- A rule answers that it skips an offer for the reason for which it refuses it. -/
theorem answer_eq_skipped_iff {context : σ} {reason : SkipReason} :
    ((rule.dispatch elements).run context).result.answer = .ok (.skipped reason) ↔
      rule.binding.refusal? rule.catalog elements = some reason := by
  cases decided : rule.binding.verdict rule.catalog elements with
  | error other =>
      rw [rule.run_dispatch_of_refused decided, Binding.refusal?, decided]
      simp
  | ok accepted =>
      rw [rule.run_dispatch_of_accepted decided, Binding.refusal?, decided]
      cases failed : ((rule.handler accepted.1 accepted.2).run context).result.failure <;>
        simp [apply, failed]

/-- All that a dispatch changes of an offer is what its declaration holds. -/
theorem left_cases (rule : Rule σ) (elements : List Element) (context : σ) :
    let left := ((rule.dispatch elements).run context).result.elements
    left = elements ∨ ∃ marker kind node other,
      elements = [.marker marker, .node kind node] ∧ left = [.marker marker, .node kind other] := by
  intro left
  cases decided : rule.binding.verdict rule.catalog elements with
  | error reason =>
      refine .inl ?_
      dsimp only [left]
      rw [rule.run_dispatch_of_refused decided]
  | ok accepted =>
      rcases accepted with ⟨marker, node⟩
      refine .inr ⟨marker, rule.binding.kind, node,
        ((rule.handler marker node).run context).result.value,
        (Binding.verdict_eq_ok_iff.mp decided).1, ?_⟩
      dsimp only [left]
      rw [rule.run_dispatch_of_accepted decided]
      rfl

/-- What a rule leaves of an offer is refused, for the same reason, by whom the
offer itself is. -/
theorem refusal?_left (rule : Rule σ) (elements : List Element) (context : σ)
    (binding : Binding) (catalog : Catalog) :
    binding.refusal? catalog ((rule.dispatch elements).run context).result.elements =
      binding.refusal? catalog elements := by
  rcases rule.left_cases elements context with unchanged | ⟨marker, kind, node, other, rfl, left⟩
  · rw [unchanged]
  · rw [left]
    exact binding.refusal?_node catalog marker other node

end Rule

end MarkedTree
