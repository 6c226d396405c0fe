import Mathlib.Data.List.Perm.Subperm
import MarkedTree.Proofs.Catalog.Loading

/-!
# Catalogs that a host can come by

A host starts from the empty catalog, a document or the text of one, and then
tries declarations, of which some may be refused.  Each of these steps leads to
a well-formed catalog, whatever came before.  The main statement is what this
means for walks up the parents: nothing in them guards against a cycle, and
they end all the same.
-/

namespace MarkedTree

namespace Catalog

/-- The catalogs that a host can come by. -/
inductive Reachable : Catalog → Prop
  | empty : Reachable {}
  | loaded {document catalog} (loads : ofDocument? document = .ok catalog) : Reachable catalog
  | read {text catalog} (reads : ofText? text = .ok catalog) : Reachable catalog
  | attempted {catalog} (reachable : Reachable catalog) (declaration : MarkerDeclaration) :
      Reachable (catalog.enter declaration).value

variable {catalog : Catalog}

/-- Each way to come by a catalog keeps the invariant. -/
theorem Reachable.wellFormed (reachable : catalog.Reachable) : catalog.WellFormed := by
  induction reachable with
  | empty => exact wellFormed_empty
  | loaded loads => exact (ofDocument?_eq_ok_iff.mp loads).2
  | read reads =>
      rcases ofDocument?_of_ofText? reads with ⟨document, loads⟩
      exact (ofDocument?_eq_ok_iff.mp loads).2
  | attempted _ declaration hypothesis => exact hypothesis.enter declaration

/-- All ancestors of a declared type are declared. -/
theorem WellFormed.lineage_subset (wellFormed : catalog.WellFormed) {marker : MarkerType}
    (declared : marker ∈ catalog.keys) : catalog.lineage marker ⊆ catalog.keys := by
  intro ancestor member
  have reaches := (mem_lineage_iff wellFormed.acyclic).mp member
  induction reaches with
  | refl => exact declared
  | tail before recorded hypothesis =>
      exact wellFormed.closed _ _ recorded

theorem WellFormed.length_lineage_le (wellFormed : catalog.WellFormed) {marker : MarkerType}
    (declared : marker ∈ catalog.keys) : (catalog.lineage marker).length ≤ catalog.size := by
  have distinct := lineage_nodup wellFormed.acyclic marker
  have fewer := (distinct.subperm (wellFormed.lineage_subset declared)).length_le
  rwa [keys, List.length_map] at fewer

/-- What a host can rely on when it walks up from a type: the walk ends, it hands
out these types and no others, and they are a path without repetitions from the
type to one that refines nothing. -/
structure HandsOut (catalog : Catalog) (marker : MarkerType) (items : List MarkerType) : Prop where
  yields : Lineage.Yields ⟨catalog, some marker⟩ items
  only : ∀ others, Lineage.Yields ⟨catalog, some marker⟩ others → others = items
  distinct : items.Nodup
  starts : items.head? = some marker
  climbs : items.IsChain catalog.HasParent
  ends : ∀ last ∈ items.getLast?, catalog.parent? last = none
  short : catalog.contains marker = true → items.length ≤ catalog.size
  alone : catalog.contains marker = false → items = [marker]

theorem WellFormed.handsOut_lineage (wellFormed : catalog.WellFormed) (marker : MarkerType) :
    catalog.HandsOut marker (catalog.lineage marker) := by
  have yields := lineage_yields wellFormed.acyclic marker
  refine ⟨yields, fun others otherYields => otherYields.unique yields,
    lineage_nodup wellFormed.acyclic marker, yields.head?_eq, yields.isChain,
    yields.parent?_getLast, fun declared => ?_, fun undeclared => ?_⟩
  · exact wellFormed.length_lineage_le (contains_iff_mem_keys.mp declared)
  · apply lineage_of_root wellFormed.acyclic
    cases recorded : catalog.parent? marker with
    | none => rfl
    | some parent =>
        have declared := contains_iff_mem_keys.mpr (mem_keys_of_parent? recorded)
        cases undeclared.symm.trans declared

/-- In every catalog that a host can come by, the declared names are not blank,
the parents are declared and without a cycle, and a walk up from any type ends. -/
theorem Reachable.walks_end (reachable : catalog.Reachable) :
    (∀ marker, catalog.contains marker = true →
      ∃ c ∈ marker.name.toList, Text.isWhiteSpace c = false) ∧
    (∀ marker parent, catalog.parent? marker = some parent → catalog.contains parent = true) ∧
    catalog.Acyclic ∧
    ∀ marker, catalog.HandsOut marker (catalog.lineage marker) := by
  have wellFormed := reachable.wellFormed
  refine ⟨fun marker declared => ?_, fun marker parent recorded => ?_, wellFormed.acyclic,
    wellFormed.handsOut_lineage⟩
  · have notBlank := wellFormed.named marker (contains_iff_mem_keys.mp declared)
    rcases List.all_eq_false.mp notBlank with ⟨c, member, notWhiteSpace⟩
    exact ⟨c, member, Bool.eq_false_iff.mpr notWhiteSpace⟩
  · exact contains_iff_mem_keys.mpr (wellFormed.closed marker parent recorded)

/-- What comes of a document with a refinement before its parent, a declaration
that is refused and one that is accepted. -/
def tracing : Catalog :=
  stating [⟨⟨"Audit"⟩, some ⟨"Logged"⟩⟩, ⟨⟨"Logged"⟩, none⟩, ⟨⟨"Traced"⟩, some ⟨"Audit"⟩⟩]

theorem tracing_reachable : tracing.Reachable := by
  have loads : ofDocument? ⟨[⟨⟨"Audit"⟩, some ⟨"Logged"⟩⟩, ⟨⟨"Logged"⟩, none⟩]⟩ =
      .ok (stating [⟨⟨"Audit"⟩, some ⟨"Logged"⟩⟩, ⟨⟨"Logged"⟩, none⟩]) :=
    ofDocument?_eq_ok_iff_passes.mpr ⟨_, rfl, by decide, by cbv⟩
  have tried := ((Reachable.loaded loads).attempted ⟨⟨"Logged"⟩, some ⟨"Audit"⟩⟩).attempted
    ⟨⟨"Traced"⟩, some ⟨"Audit"⟩⟩
  have same : (((stating [⟨⟨"Audit"⟩, some ⟨"Logged"⟩⟩, ⟨⟨"Logged"⟩, none⟩]).enter
      ⟨⟨"Logged"⟩, some ⟨"Audit"⟩⟩).value.enter ⟨⟨"Traced"⟩, some ⟨"Audit"⟩⟩).value = tracing := by
    decide
  rwa [same] at tried

theorem Reachable.walks_end_tracing :
    tracing.Reachable ∧
    tracing.HandsOut ⟨"Traced"⟩ [⟨"Traced"⟩, ⟨"Audit"⟩, ⟨"Logged"⟩] ∧
    tracing.HandsOut ⟨"Unknown"⟩ [⟨"Unknown"⟩] := by
  have traced : tracing.lineage ⟨"Traced"⟩ = [⟨"Traced"⟩, ⟨"Audit"⟩, ⟨"Logged"⟩] := by cbv
  have unknown : tracing.lineage ⟨"Unknown"⟩ = [⟨"Unknown"⟩] := by cbv
  have handsOut := (Reachable.walks_end tracing_reachable).2.2.2
  refine ⟨tracing_reachable, ?_, ?_⟩
  · rw [← traced]
    exact handsOut _
  · rw [← unknown]
    exact handsOut _

/-!
## Refinement as an order

Refinement is the reflexive and transitive closure of the recorded parents.
That it is antisymmetric rests on the absence of cycles, and that the ancestors
of a type are comparable on there being one parent at most.  Undeclared types
take part: they are related to themselves alone.
-/

/-- Without cycles, refinement is reachability by steps to a parent. -/
theorem refines_iff (acyclic : catalog.Acyclic) {marker ancestor : MarkerType} :
    catalog.refines marker ancestor = true ↔
      Relation.ReflTransGen catalog.HasParent marker ancestor := by
  rw [refines, List.contains_iff_mem]
  exact mem_lineage_iff acyclic

theorem Acyclic.reaches_antisymm (acyclic : catalog.Acyclic) {marker other : MarkerType}
    (above : Relation.ReflTransGen catalog.HasParent marker other)
    (below : Relation.ReflTransGen catalog.HasParent other marker) : marker = other := by
  rcases Relation.reflTransGen_iff_eq_or_transGen.mp above with same | climbs
  · exact same.symm
  · exact absurd (climbs.trans_left below) (acyclic marker)

/-- The types that a host can ask for form a forest under refinement, in every
catalog that it can come by. -/
theorem Reachable.refines_forest (reachable : catalog.Reachable) :
    (∀ marker, catalog.refines marker marker = true) ∧
    (∀ lower middle upper, catalog.refines lower middle = true →
      catalog.refines middle upper = true → catalog.refines lower upper = true) ∧
    (∀ marker other, catalog.refines marker other = true →
      catalog.refines other marker = true → marker = other) ∧
    (∀ marker first second, catalog.refines marker first = true →
      catalog.refines marker second = true →
        catalog.refines first second = true ∨ catalog.refines second first = true) := by
  have acyclic := reachable.wellFormed.acyclic
  simp only [refines_iff acyclic]
  refine ⟨fun marker => .refl, fun lower middle upper => .trans,
    fun marker other => acyclic.reaches_antisymm, fun marker first second => ?_⟩
  exact Relation.ReflTransGen.total_of_right_unique catalog.hasParent_rightUnique

theorem Reachable.refines_forest_tracing :
    tracing.Reachable ∧ tracing.refines ⟨"Traced"⟩ ⟨"Logged"⟩ = true ∧
      (tracing.refines ⟨"Audit"⟩ ⟨"Logged"⟩ = true ∨
        tracing.refines ⟨"Logged"⟩ ⟨"Audit"⟩ = true) := by
  have refinesAudit : tracing.refines ⟨"Traced"⟩ ⟨"Audit"⟩ = true := by cbv
  have refinesLogged : tracing.refines ⟨"Traced"⟩ ⟨"Logged"⟩ = true := by cbv
  have forest := Reachable.refines_forest tracing_reachable
  exact ⟨tracing_reachable, refinesLogged,
    forest.2.2.2 ⟨"Traced"⟩ ⟨"Audit"⟩ ⟨"Logged"⟩ refinesAudit refinesLogged⟩

end Catalog

/-!
## Growing a catalog type by type

A host may try a declaration on any catalog that it has come by.  The declaration
is refused for the first thing that is wrong with it and nothing changes, or it is
accepted and its type is added.  The main statement says so, and that the catalog
then answers every question about another type as it did before.  The new entry
alone does not give that: a lineage would change if it came to the new type.  None
does, because all recorded parents were declared before.
-/

namespace Catalog

variable {catalog : Catalog} {declaration : MarkerDeclaration}

/-- A later catalog has one type more.  The lineage of the new type goes on with that
of its parent, and everything that can be asked about another type, declared or not,
is answered as before.  Walks up the parents still end. -/
structure Adds (catalog : Catalog) (declaration : MarkerDeclaration) (next : Catalog) : Prop where
  declared : next.contains declaration.name = true
  size : next.size = catalog.size + 1
  parent : next.parent? declaration.name = declaration.refines
  lineage : next.lineage declaration.name =
    declaration.name :: declaration.refines.elim [] catalog.lineage
  sameContains : ∀ other, other ≠ declaration.name → next.contains other = catalog.contains other
  sameParent : ∀ other, other ≠ declaration.name → next.parent? other = catalog.parent? other
  sameLineage : ∀ other, other ≠ declaration.name → next.lineage other = catalog.lineage other
  sameRefines : ∀ other, other ≠ declaration.name → ∀ ancestor,
    next.refines other ancestor = catalog.refines other ancestor
  walksEnd : ∀ marker, Lineage.Yields ⟨next, some marker⟩ (next.lineage marker)

theorem contains_append (catalog : Catalog) (declaration : MarkerDeclaration)
    (marker : MarkerType) :
    (catalog.append declaration).contains marker = true ↔
      catalog.contains marker = true ∨ marker = declaration.name := by
  rw [contains_iff_mem_keys, keys_append, List.mem_append, List.mem_singleton,
    contains_iff_mem_keys]

/-- The lineage of another type stays the same: each of its members but the first is a
recorded parent, and none of these is the new type. -/
theorem WellFormed.lineage_append_of_ne (wellFormed : catalog.WellFormed)
    (admits : catalog.Admits declaration) {other : MarkerType}
    (differs : other ≠ declaration.name) :
    (catalog.append declaration).lineage other = catalog.lineage other := by
  have nextAcyclic := (wellFormed.append admits).acyclic
  -- The induction is on the old lineage, which says how far the parents lead.
  generalize isLineage : catalog.lineage other = items
  induction items generalizing other with
  | nil =>
      have starts := (lineage_yields wellFormed.acyclic other).head?_eq
      rw [isLineage] at starts
      cases starts
  | cons first rest hypothesis =>
      have sameParent : (catalog.append declaration).parent? other = catalog.parent? other :=
        parent?_append_of_ne differs
      cases recorded : catalog.parent? other with
      | none =>
          rw [recorded] at sameParent
          rw [lineage_of_root nextAcyclic sameParent, ← isLineage,
            lineage_of_root wellFormed.acyclic recorded]
      | some parent =>
          rw [recorded] at sameParent
          rw [lineage_of_parent wellFormed.acyclic recorded] at isLineage
          cases isLineage
          have parentDiffers : parent ≠ declaration.name := by
            intro isNew
            exact admits.fresh (isNew ▸ wellFormed.closed _ parent recorded)
          rw [lineage_of_parent nextAcyclic sameParent, hypothesis parentDiffers rfl]

/-- An admissible declaration adds its type and leaves all else as it was. -/
theorem WellFormed.adds (wellFormed : catalog.WellFormed)
    (admits : catalog.Admits declaration) :
    catalog.Adds declaration (catalog.append declaration) := by
  have nextAcyclic := (wellFormed.append admits).acyclic
  have isParent : (catalog.append declaration).parent? declaration.name = declaration.refines :=
    parent?_append_self admits.fresh
  refine ⟨(contains_append ..).mpr (.inr rfl), ?_, isParent, ?_, fun other differs => ?_,
    fun other differs => parent?_append_of_ne differs,
    fun other differs => wellFormed.lineage_append_of_ne admits differs,
    fun other differs ancestor => ?_, lineage_yields nextAcyclic⟩
  · rw [size, Catalog.append, List.length_append, List.length_singleton, size]
  · cases refined : declaration.refines with
    | none => exact lineage_of_root nextAcyclic (isParent.trans refined)
    | some parent =>
        have parentDiffers : parent ≠ declaration.name := by
          intro isNew
          exact admits.fresh (isNew ▸ admits.refinesDeclared parent refined)
        rw [lineage_of_parent nextAcyclic (isParent.trans refined),
          wellFormed.lineage_append_of_ne admits parentDiffers, Option.elim_some]
  · rw [Bool.eq_iff_iff, contains_append, or_iff_left differs]
  · rw [refines, refines, wellFormed.lineage_append_of_ne admits differs]

/-- What was declared keeps its parent and its lineage, whatever declarations are tried
later and whether they are refused or not. -/
theorem WellFormed.keeps_declared (wellFormed : catalog.WellFormed)
    (declarations : List MarkerDeclaration) {marker : MarkerType}
    (declared : catalog.contains marker = true) :
    let later := declarations.foldl (fun earlier next => (earlier.enter next).value) catalog
    later.contains marker = true ∧ later.parent? marker = catalog.parent? marker ∧
      later.lineage marker = catalog.lineage marker := by
  induction declarations generalizing catalog with
  | nil => exact ⟨declared, rfl, rfl⟩
  | cons declaration rest hypothesis =>
      rw [List.foldl_cons]
      rcases catalog.enter_cases declaration with ⟨admits, added⟩ | ⟨problem, _, refused⟩
      · rw [added]
        have adds := wellFormed.adds admits
        have differs : marker ≠ declaration.name := by
          rintro rfl
          exact admits.fresh (contains_iff_mem_keys.mp declared)
        rw [← adds.sameParent marker differs, ← adds.sameLineage marker differs]
        exact hypothesis (wellFormed.append admits)
          ((adds.sameContains marker differs).trans declared)
      · rw [refused]
        exact hypothesis wellFormed declared

/-- A declaration that is tried on a catalog that a host has come by fails with the
first thing that is wrong with it and changes nothing, or it succeeds and adds its type
to a catalog that is otherwise the same. -/
theorem Reachable.attempt_conservative (reachable : catalog.Reachable)
    (declaration : MarkerDeclaration) :
    let entered := catalog.enter declaration
    (∀ problem, entered.failure = some problem ↔ catalog.Refuses declaration problem) ∧
    match entered.failure with
    | some _ => entered.value = catalog
    | none => catalog.Adds declaration entered.value := by
  refine ⟨fun problem => failure_enter_eq_some_iff, ?_⟩
  rcases catalog.enter_cases declaration with ⟨admits, added⟩ | ⟨problem, _, refused⟩
  · rw [added]
    exact reachable.wellFormed.adds admits
  · rw [refused]

theorem Reachable.attempt_conservative_tracing :
    tracing.Reachable ∧
    (tracing.enter ⟨⟨"Timed"⟩, some ⟨"Timed"⟩⟩).failure =
      some (.unknownParent ⟨"Timed"⟩ ⟨"Timed"⟩) ∧
    tracing.Refuses ⟨⟨"Timed"⟩, some ⟨"Timed"⟩⟩ (.unknownParent ⟨"Timed"⟩ ⟨"Timed"⟩) ∧
    (tracing.enter ⟨⟨"Timed"⟩, some ⟨"Timed"⟩⟩).value = tracing ∧
    tracing.Adds ⟨⟨"Timed"⟩, some ⟨"Audit"⟩⟩
      (tracing.enter ⟨⟨"Timed"⟩, some ⟨"Audit"⟩⟩).value := by
  have fails : (tracing.enter ⟨⟨"Timed"⟩, some ⟨"Timed"⟩⟩).failure =
      some (.unknownParent ⟨"Timed"⟩ ⟨"Timed"⟩) := by decide
  have succeeds : (tracing.enter ⟨⟨"Timed"⟩, some ⟨"Audit"⟩⟩).failure = none := by decide
  have refused := Reachable.attempt_conservative tracing_reachable ⟨⟨"Timed"⟩, some ⟨"Timed"⟩⟩
  have accepted := Reachable.attempt_conservative tracing_reachable ⟨⟨"Timed"⟩, some ⟨"Audit"⟩⟩
  dsimp only at refused accepted
  rw [fails] at refused
  rw [succeeds] at accepted
  exact ⟨tracing_reachable, fails, (refused.1 _).mp rfl, refused.2, accepted.2⟩

end Catalog

end MarkedTree
