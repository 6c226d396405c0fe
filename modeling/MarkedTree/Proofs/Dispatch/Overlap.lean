import MarkedTree.Proofs.Dispatch.Decision

/-!
# Two rules over one catalog

A host offers what it finds to all of its rules.  Whether two rules can get into
each other's way is read off their bindings: the offers for which their handlers
run are nested if the kinds are the same and one bound type refines the other, and
have nothing in common otherwise.  That there is no third case rests on the
catalog, in which the types that one type refines form a chain, and that the order
of the rules does not matter in the second case on the fact that a skip has no
effect.  Handlers may change the declaration and the context as they like.
-/

namespace MarkedTree.Rule

variable {σ : Type}

/-- The handler runs once on the offer, on the very marker and declaration that it
consists of. -/
def Takes (rule : Rule σ) (elements : List Element) (context : σ) : Prop :=
  ∃ run, rule.runsOn elements context = [run] ∧
    elements = [.marker run.marker, .node rule.binding.kind run.node]

/-- Offers elements to two rules in turn.  The second one gets what the first one
leaves, whatever the first one answers. -/
def inTurn (first second : Rule σ) (elements : List Element) : Action σ (Offer × Offer) := do
  let offer ← first.dispatch elements
  let other ← second.dispatch offer.elements
  pure (offer, other)

/-- It does not matter which of two rules gets an offer first. -/
structure EitherOrder (first second : Rule σ) (elements : List Element) (context : σ) : Prop where
  firstAnswer : ((first.inTurn second elements).run context).result.1.answer =
    ((second.inTurn first elements).run context).result.2.answer
  secondAnswer : ((first.inTurn second elements).run context).result.2.answer =
    ((second.inTurn first elements).run context).result.1.answer
  sameElements : ((first.inTurn second elements).run context).result.2.elements =
    ((second.inTurn first elements).run context).result.2.elements
  sameContext : ((first.inTurn second elements).run context).context =
    ((second.inTurn first elements).run context).context

/-- Two rules that have no offer in common. -/
structure Apart (first second : Rule σ) : Prop where
  neverBoth : ∀ elements context other,
    first.runsOn elements context = [] ∨ second.runsOn elements other = []
  eitherOrder : ∀ elements context, first.EitherOrder second elements context

/-- All that the handler of one rule runs on the other rule takes as well: on its own,
after the handler of the first one, and when it is offered before the first one,
which then runs its handler all the same. -/
structure Within (narrow broad : Rule σ) : Prop where
  alone : ∀ elements context other, narrow.runsOn elements context ≠ [] →
    broad.Takes elements other
  afterNarrow : ∀ elements context, narrow.runsOn elements context ≠ [] →
    let reply := (narrow.dispatch elements).run context
    broad.Takes reply.result.elements reply.context
  beforeNarrow : ∀ elements context,
    let reply := (broad.dispatch elements).run context
    narrow.runsOn reply.result.elements reply.context ≠ [] → broad.Takes elements context
  narrowAfter : ∀ elements context, narrow.runsOn elements context ≠ [] →
    let reply := (broad.dispatch elements).run context
    narrow.Takes reply.result.elements reply.context

variable {first second : Rule σ} {elements : List Element} {context : σ}

theorem takes_iff {rule : Rule σ} :
    rule.Takes elements context ↔ rule.binding.refusal? rule.catalog elements = none := by
  constructor
  · rintro ⟨run, ran, _⟩
    exact runsOn_ne_nil_iff.mp (ran ▸ List.cons_ne_nil _ _)
  · intro notRefused
    rcases Binding.refusal?_eq_none_iff.mp notRefused with ⟨marker, node, accepted⟩
    exact ⟨_, rule.runsOn_of_accepted accepted context, (Binding.verdict_eq_ok_iff.mp accepted).1⟩

/-- What is not refused is a marker whose type refines the bound one, with a
declaration of the bound kind. -/
theorem exists_of_runsOn {rule : Rule σ} (runs : rule.runsOn elements context ≠ []) :
    ∃ marker node, elements = [.marker marker, .node rule.binding.kind node] ∧
      rule.catalog.refines marker.type rule.binding.markerType = true := by
  rcases Binding.refusal?_eq_none_iff.mp (runsOn_ne_nil_iff.mp runs) with ⟨marker, node, accepted⟩
  exact ⟨marker, node, Binding.verdict_eq_ok_iff.mp accepted⟩

theorem EitherOrder.symm (same : first.EitherOrder second elements context) :
    second.EitherOrder first elements context :=
  ⟨same.secondAnswer.symm, same.firstAnswer.symm, same.sameElements.symm, same.sameContext.symm⟩

/-- A rule that refuses an offer may be asked before or after another one. -/
theorem eitherOrder_of_refused (second : Rule σ) (context : σ) {reason : SkipReason}
    (refused : first.binding.refusal? first.catalog elements = some reason) :
    first.EitherOrder second elements context := by
  have skips := first.run_dispatch_of_refused (Binding.refusal?_eq_some_iff.mp refused) context
  -- What the second rule leaves is refused for the same reason, so it stays as it is.
  have refusedThen := refused
  rw [← second.refusal?_left elements context] at refusedThen
  have skipsThen := first.run_dispatch_of_refused (Binding.refusal?_eq_some_iff.mp refusedThen)
    ((second.dispatch elements).run context).context
  refine ⟨?_, ?_, ?_, ?_⟩ <;>
    simp only [inTurn, Action.run_bind, Action.run_pure, skips, skipsThen]

theorem apart_of_neverBoth
    (neverBoth : ∀ elements context other,
      first.runsOn elements context = [] ∨ second.runsOn elements other = []) :
    first.Apart second := by
  refine ⟨neverBoth, fun elements context => ?_⟩
  cases refused : first.binding.refusal? first.catalog elements with
  | some reason => exact eitherOrder_of_refused second context refused
  | none =>
      cases refusedToo : second.binding.refusal? second.catalog elements with
      | some reason => exact (eitherOrder_of_refused first context refusedToo).symm
      | none =>
          rcases neverBoth elements context context with none | none
          · exact absurd none (runsOn_ne_nil_iff.mpr refused)
          · exact absurd none (runsOn_ne_nil_iff.mpr refusedToo)

theorem within_of_accepts {narrow broad : Rule σ}
    (accepts : ∀ elements, narrow.binding.refusal? narrow.catalog elements = none →
      broad.binding.refusal? broad.catalog elements = none) : narrow.Within broad where
  alone elements context other runs := takes_iff.mpr (accepts elements (runsOn_ne_nil_iff.mp runs))
  afterNarrow elements context runs := by
    intro reply
    apply takes_iff.mpr
    rw [narrow.refusal?_left]
    exact accepts elements (runsOn_ne_nil_iff.mp runs)
  beforeNarrow elements context := by
    intro reply runs
    have notRefused := runsOn_ne_nil_iff.mp runs
    rw [broad.refusal?_left] at notRefused
    exact takes_iff.mpr (accepts elements notRefused)
  narrowAfter elements context runs := by
    intro reply
    apply takes_iff.mpr
    rw [broad.refusal?_left]
    exact runsOn_ne_nil_iff.mp runs

/-- Two rules over a catalog that a host can come by have no offer in common if
their kinds differ or if their types are unrelated, and otherwise the rule for the
broader type takes all that the other one runs on. -/
theorem apart_or_within {catalog : Catalog} (reachable : catalog.Reachable)
    {type otherType : MarkerType} {kind otherKind : NodeKind} {handler : Handler kind σ}
    {otherHandler : Handler otherKind σ}
    (built : build? catalog type kind handler = .ok first)
    (builtToo : build? catalog otherType otherKind otherHandler = .ok second) :
    (kind ≠ otherKind ∨
        (catalog.refines type otherType = false ∧ catalog.refines otherType type = false) →
      first.Apart second) ∧
    (kind = otherKind → catalog.refines type otherType = true → first.Within second) := by
  have acyclic := reachable.wellFormed.acyclic
  rcases build?_eq_ok_iff.mp built with ⟨_, _, rfl⟩
  rcases build?_eq_ok_iff.mp builtToo with ⟨_, _, rfl⟩
  refine ⟨fun unrelated => ?_, fun sameKind related => ?_⟩
  · apply apart_of_neverBoth
    intro elements context other
    by_contra both
    rw [not_or] at both
    rcases exists_of_runsOn both.1 with ⟨marker, node, isPair, refines⟩
    rcases exists_of_runsOn both.2 with ⟨_, _, isPairToo, refinesToo⟩
    rw [isPair] at isPairToo
    cases isPairToo
    rcases unrelated with differ | ⟨notBelow, notAbove⟩
    · exact differ rfl
    · -- Both bound types are ancestors of the marker's type, hence comparable.
      rw [Catalog.refines_iff acyclic] at refines refinesToo
      rcases Relation.ReflTransGen.total_of_right_unique catalog.hasParent_rightUnique
        refines refinesToo with below | above
      · exact Bool.false_ne_true (notBelow.symm.trans ((Catalog.refines_iff acyclic).mpr below))
      · exact Bool.false_ne_true (notAbove.symm.trans ((Catalog.refines_iff acyclic).mpr above))
  · subst sameKind
    apply within_of_accepts
    intro elements notRefused
    rcases Binding.refusal?_eq_none_iff.mp notRefused with ⟨marker, node, accepted⟩
    rcases Binding.verdict_eq_ok_iff.mp accepted with ⟨isPair, refines⟩
    have refinesToo : catalog.refines marker.type otherType = true := by
      rw [Catalog.refines_iff acyclic] at refines related ⊢
      exact refines.trans related
    exact Binding.refusal?_eq_none_iff.mpr
      ⟨marker, node, Binding.verdict_eq_ok_iff.mpr ⟨isPair, refinesToo⟩⟩

/-- A catalog with two roots, of which one has refinements of refinements. -/
def caching : Catalog :=
  .stating [⟨⟨"Audit"⟩, some ⟨"Logged"⟩⟩, ⟨⟨"Logged"⟩, none⟩, ⟨⟨"Traced"⟩, some ⟨"Audit"⟩⟩,
    ⟨⟨"Cached"⟩, none⟩]

def namesBy (name : String) : Rule Nat := ⟨⟨⟨name⟩, .method⟩, caching, naming⟩

def keepsFields : Rule Nat := ⟨⟨⟨"Logged"⟩, .field⟩, caching, fun _ node => pure ⟨node, none⟩⟩

theorem apart_or_within_caching :
    caching.Reachable ∧
    (namesBy "Cached").Apart (namesBy "Logged") ∧ (namesBy "Logged").Apart keepsFields ∧
    (namesBy "Audit").Within (namesBy "Logged") ∧
    ∀ node : Method, (namesBy "Logged").Takes [.marker (bare "Traced"), .node .method node] 3 := by
  have added : (Catalog.tracing.enter ⟨⟨"Cached"⟩, none⟩).value = caching := by decide
  have reachable : caching.Reachable := added ▸ Catalog.tracing_reachable.attempted _
  have logged : build? caching ⟨"Logged"⟩ .method naming = .ok (namesBy "Logged") :=
    build?_eq_ok_iff.mpr ⟨by decide, by decide, rfl⟩
  have audit : build? caching ⟨"Audit"⟩ .method naming = .ok (namesBy "Audit") :=
    build?_eq_ok_iff.mpr ⟨by decide, by decide, rfl⟩
  have cached : build? caching ⟨"Cached"⟩ .method naming = .ok (namesBy "Cached") :=
    build?_eq_ok_iff.mpr ⟨by decide, by decide, rfl⟩
  have fields : build? caching ⟨"Logged"⟩ .field (fun _ node => pure ⟨node, none⟩) =
      .ok keepsFields :=
    build?_eq_ok_iff.mpr ⟨by decide, by decide, rfl⟩
  have within := (apart_or_within reachable audit logged).2 rfl (by cbv)
  refine ⟨reachable, (apart_or_within reachable cached logged).1 (.inr ⟨by cbv, by cbv⟩),
    (apart_or_within reachable logged fields).1 (.inl (by decide)), within, fun node => ?_⟩
  apply within.alone _ 0
  apply runsOn_ne_nil_iff.mpr
  have refines : caching.refines ⟨"Traced"⟩ ⟨"Audit"⟩ = true := by cbv
  exact Binding.refusal?_eq_none_iff.mpr
    ⟨bare "Traced", node, Binding.verdict_eq_ok_iff.mpr ⟨rfl, refines⟩⟩

end MarkedTree.Rule
