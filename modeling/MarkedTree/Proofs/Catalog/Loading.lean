import MarkedTree.Proofs.Catalog.CycleSearch
import MarkedTree.Proofs.Catalog.WellFormed

/-!
# Catalogs that documents declare

Loading passes twice over a document.  Between the passes, and in the middle of
the second one, the catalog holds the parents of the declarations that were
treated and no others.  Such half-loaded catalogs are not well formed in
general: a parent may be missing yet, and there may be a cycle.  Only the end
result is, and the main statement is that nothing else is refused.
-/

namespace MarkedTree

namespace Catalog

/-- The names of all declarations, with the parents of the first ones only. -/
def halfLoaded (treated waiting : List MarkerDeclaration) : Catalog :=
  ⟨treated.map (fun declaration => (declaration.name, declaration.refines)) ++
    waiting.map fun declaration => (declaration.name, none)⟩

theorem halfLoaded_nil (declarations : List MarkerDeclaration) :
    halfLoaded declarations [] = stating declarations :=
  congrArg Catalog.mk (List.append_nil _)

theorem keys_halfLoaded (treated waiting : List MarkerDeclaration) :
    (halfLoaded treated waiting).keys = (treated ++ waiting).map MarkerDeclaration.name := by
  rw [keys, halfLoaded, List.map_append, List.map_append, List.map_map, List.map_map]
  rfl

/-- Recording a declaration as a root is the step of the first pass. -/
theorem insert_none_halfLoaded {declarations : List MarkerDeclaration}
    {declaration : MarkerDeclaration}
    (fresh : declaration.name ∉ declarations.map MarkerDeclaration.name) :
    (halfLoaded [] declarations).insert declaration.name none =
      halfLoaded [] (declarations ++ [declaration]) := by
  have absent : declaration.name ∉ (halfLoaded [] declarations).keys := by
    rwa [keys_halfLoaded, List.nil_append]
  refine congrArg Catalog.mk ((insertEntry_of_not_mem absent).trans ?_)
  rw [halfLoaded, List.map_nil, List.nil_append, List.nil_append, List.map_append]
  rfl

theorem insertEntry_append_cons {marker : MarkerType} {parent old : Option MarkerType}
    {before after : List (MarkerType × Option MarkerType)}
    (fresh : marker ∉ before.map Prod.fst) :
    insertEntry marker parent (before ++ (marker, old) :: after) =
      before ++ (marker, parent) :: after := by
  induction before with
  | nil => rw [List.nil_append, insertEntry, if_pos rfl, List.nil_append]
  | cons entry rest hypothesis =>
      rw [List.map_cons, List.mem_cons, not_or] at fresh
      rw [List.cons_append, insertEntry, if_neg (Ne.symm fresh.1), hypothesis fresh.2,
        List.cons_append]

/-- Recording a stated parent, or none, is the step of the second pass. -/
theorem insert_refines_halfLoaded {treated rest : List MarkerDeclaration}
    {declaration : MarkerDeclaration}
    (fresh : declaration.name ∉ treated.map MarkerDeclaration.name) :
    (halfLoaded treated (declaration :: rest)).insert declaration.name declaration.refines =
      halfLoaded (treated ++ [declaration]) rest := by
  have absent : declaration.name ∉ (stating treated).keys := by
    rwa [keys_stating]
  refine congrArg Catalog.mk ((insertEntry_append_cons absent).trans ?_)
  rw [List.map_append, List.append_assoc]
  rfl

theorem halfLoaded_of_root {treated rest : List MarkerDeclaration}
    {declaration : MarkerDeclaration} (isRoot : declaration.refines = none) :
    halfLoaded treated (declaration :: rest) = halfLoaded (treated ++ [declaration]) rest := by
  rw [halfLoaded, halfLoaded, List.map_append, List.append_assoc, List.map_cons, ← isRoot]
  rfl

theorem takeNames_cons_of_new {catalog : Catalog} {declaration : MarkerDeclaration}
    {rest : List MarkerDeclaration} (isNew : catalog.checkNew declaration.name = .ok ()) :
    catalog.takeNames (declaration :: rest) =
      (catalog.insert declaration.name none).takeNames rest := by
  rw [takeNames, isNew]
  rfl

theorem takeNames_cons_of_error {catalog : Catalog} {declaration : MarkerDeclaration}
    {rest : List MarkerDeclaration} {problem : CatalogError}
    (refused : catalog.checkNew declaration.name = .error problem) :
    catalog.takeNames (declaration :: rest) = .error problem := by
  rw [takeNames, refused]
  rfl

/-- The first pass accepts names that are not blank and differ. -/
theorem takeNames_eq_ok_iff {done declarations : List MarkerDeclaration} {next : Catalog}
    (doneDistinct : (done.map MarkerDeclaration.name).Nodup) :
    (halfLoaded [] done).takeNames declarations = .ok next ↔
      ((∀ declaration ∈ declarations, declaration.name.isBlank = false) ∧
        ((done ++ declarations).map MarkerDeclaration.name).Nodup) ∧
      next = halfLoaded [] (done ++ declarations) := by
  induction declarations generalizing done with
  | nil =>
      rw [List.append_nil, takeNames]
      constructor
      · intro taken
        cases taken
        exact ⟨⟨fun _ member => absurd member List.not_mem_nil, doneDistinct⟩, rfl⟩
      · rintro ⟨_, rfl⟩
        rfl
  | cons declaration rest hypothesis =>
      have isNewIff : (halfLoaded [] done).checkNew declaration.name = .ok () ↔
          declaration.name.isBlank = false ∧
            declaration.name ∉ done.map MarkerDeclaration.name := by
        rw [checkNew_eq_ok_iff, keys_halfLoaded, List.nil_append]
      cases check : (halfLoaded [] done).checkNew declaration.name with
      | error problem =>
          rw [takeNames_cons_of_error check]
          constructor
          · intro taken
            cases taken
          · rintro ⟨⟨named, distinct⟩, _⟩
            have isNew := isNewIff.mpr
              ⟨named declaration List.mem_cons_self, name_not_mem_of_nodup distinct⟩
            cases check.symm.trans isNew
      | ok =>
          rcases isNewIff.mp check with ⟨notBlank, fresh⟩
          have nextDistinct : ((done ++ [declaration]).map MarkerDeclaration.name).Nodup := by
            rw [List.map_append, List.map_singleton, ← List.concat_eq_append]
            exact doneDistinct.concat fresh
          rw [takeNames_cons_of_new check, insert_none_halfLoaded fresh, hypothesis nextDistinct,
            List.append_assoc, List.singleton_append, List.forall_mem_cons]
          simp only [notBlank, true_and]

section

variable {catalog : Catalog} {declaration : MarkerDeclaration} {rest : List MarkerDeclaration}
  {parent : MarkerType}

theorem takeParents_cons_of_root (isRoot : declaration.refines = none) :
    catalog.takeParents (declaration :: rest) = catalog.takeParents rest := by
  rw [takeParents, isRoot]

theorem takeParents_cons_of_declared (refined : declaration.refines = some parent)
    (declared : catalog.contains parent = true) :
    catalog.takeParents (declaration :: rest) =
      (catalog.insert declaration.name declaration.refines).takeParents rest := by
  rw [takeParents, refined]
  exact if_pos declared

theorem takeParents_cons_of_unknown (refined : declaration.refines = some parent)
    (unknown : ¬ catalog.contains parent = true) :
    catalog.takeParents (declaration :: rest) =
      .error (.unknownParent declaration.name parent) := by
  rw [takeParents, refined]
  exact if_neg unknown

end

/-- The second pass accepts parents that are declared anywhere in the document. -/
theorem takeParents_eq_ok_iff {treated declarations : List MarkerDeclaration} {next : Catalog}
    (distinct : ((treated ++ declarations).map MarkerDeclaration.name).Nodup) :
    (halfLoaded treated declarations).takeParents declarations = .ok next ↔
      (∀ declaration ∈ declarations, ∀ parent, declaration.refines = some parent →
        parent ∈ (treated ++ declarations).map MarkerDeclaration.name) ∧
      next = stating (treated ++ declarations) := by
  induction declarations generalizing treated with
  | nil =>
      rw [List.append_nil, takeParents, halfLoaded_nil]
      constructor
      · intro taken
        cases taken
        exact ⟨fun _ member => absurd member List.not_mem_nil, rfl⟩
      · rintro ⟨_, rfl⟩
        rfl
  | cons declaration rest hypothesis =>
      have shifted : treated ++ declaration :: rest = (treated ++ [declaration]) ++ rest :=
        (List.append_assoc treated [declaration] rest).symm
      have fresh := name_not_mem_of_nodup distinct
      have declared : ∀ parent, (halfLoaded treated (declaration :: rest)).contains parent = true ↔
          parent ∈ (treated ++ declaration :: rest).map MarkerDeclaration.name := by
        intro parent
        rw [contains_iff_mem_keys, keys_halfLoaded]
      have later := hypothesis (shifted ▸ distinct)
      rw [← shifted] at later
      rw [List.forall_mem_cons, and_assoc]
      cases refined : declaration.refines with
      | none =>
          rw [takeParents_cons_of_root refined, halfLoaded_of_root refined, later]
          simp only [reduceCtorEq, false_implies, implies_true, true_and]
      | some parent =>
          by_cases isDeclared : (halfLoaded treated (declaration :: rest)).contains parent = true
          · have inDocument := (declared parent).mp isDeclared
            rw [takeParents_cons_of_declared refined isDeclared, insert_refines_halfLoaded fresh,
              later]
            simp only [Option.some.injEq, forall_eq', inDocument, true_and]
          · rw [takeParents_cons_of_unknown refined isDeclared]
            constructor
            · intro taken
              cases taken
            · rintro ⟨isKnown, _⟩
              exact absurd ((declared parent).mpr (isKnown parent rfl)) isDeclared

theorem parent?_stating_iff {declarations : List MarkerDeclaration}
    (distinct : (declarations.map MarkerDeclaration.name).Nodup) {marker parent : MarkerType} :
    (stating declarations).parent? marker = some parent ↔ ⟨marker, some parent⟩ ∈ declarations := by
  rw [← keys_stating] at distinct
  rw [parent?_eq_some_iff distinct, stating, List.mem_map]
  constructor
  · rintro ⟨⟨name, refined⟩, member, same⟩
    cases same
    exact member
  · intro member
    exact ⟨_, member, rfl⟩

/-- A stated parent, or that there is none, is read back from the entry. -/
theorem parent?_stating_of_mem {declarations : List MarkerDeclaration}
    (distinct : (declarations.map MarkerDeclaration.name).Nodup) {declaration : MarkerDeclaration}
    (member : declaration ∈ declarations) :
    (stating declarations).parent? declaration.name = declaration.refines := by
  apply Option.ext
  intro parent
  rw [parent?_stating_iff distinct]
  constructor
  · intro stated
    have same := List.inj_on_of_nodup_map distinct stated member rfl
    exact same ▸ rfl
  · intro refined
    rwa [← refined]

private theorem wellFormed_stating_iff {declarations : List MarkerDeclaration}
    (distinct : (declarations.map MarkerDeclaration.name).Nodup) :
    (stating declarations).WellFormed ↔
      (∀ declaration ∈ declarations, declaration.name.isBlank = false) ∧
      (∀ declaration ∈ declarations, ∀ parent, declaration.refines = some parent →
        parent ∈ declarations.map MarkerDeclaration.name) ∧
      (stating declarations).Acyclic := by
  constructor
  · intro wellFormed
    have named := wellFormed.named
    have closed := wellFormed.closed
    rw [keys_stating] at named closed
    refine ⟨fun declaration member => ?_, ?_, wellFormed.acyclic⟩
    · exact named _ (List.mem_map_of_mem member)
    · rintro ⟨name, refined⟩ member parent rfl
      exact closed name parent ((parent?_stating_iff distinct).mpr member)
  · rintro ⟨named, closed, acyclic⟩
    refine ⟨keys_stating declarations ▸ distinct, ?_, ?_, acyclic⟩
    · intro marker member
      rw [keys_stating] at member
      rcases List.mem_map.mp member with ⟨declaration, inDocument, rfl⟩
      exact named declaration inDocument
    · intro marker parent recorded
      rw [keys_stating]
      exact closed _ ((parent?_stating_iff distinct).mp recorded) parent rfl

/-- Loading consists of the two passes and the search for cycles. -/
theorem ofDocument?_eq_ok_iff_passes {document : CatalogDocument} {catalog : Catalog} :
    ofDocument? document = .ok catalog ↔
      ∃ named, takeNames {} document.markers = .ok named ∧
        named.takeParents document.markers = .ok catalog ∧ catalog.ensureAcyclic = .ok () := by
  rw [ofDocument?]
  constructor
  · intro loaded
    cases names : takeNames {} document.markers with
    | error problem =>
        rw [names] at loaded
        cases loaded
    | ok named =>
        rw [names] at loaded
        change named.takeParents document.markers >>= _ = .ok catalog at loaded
        cases parents : named.takeParents document.markers with
        | error problem =>
            rw [parents] at loaded
            cases loaded
        | ok complete =>
            rw [parents] at loaded
            change complete.ensureAcyclic >>= _ = .ok catalog at loaded
            cases search : complete.ensureAcyclic with
            | error problem =>
                rw [search] at loaded
                cases loaded
            | ok =>
                rw [search] at loaded
                cases loaded
                exact ⟨named, rfl, parents, search⟩
  · rintro ⟨named, names, parents, search⟩
    rw [names]
    change named.takeParents document.markers >>= _ = .ok catalog
    rw [parents]
    change catalog.ensureAcyclic >>= _ = .ok catalog
    rw [search]
    rfl

/-- A document is accepted exactly if the catalog with the entries that it states
is well formed, and then declares that catalog. -/
theorem ofDocument?_eq_ok_iff {document : CatalogDocument} {catalog : Catalog} :
    ofDocument? document = .ok catalog ↔
      catalog = stating document.markers ∧ catalog.WellFormed := by
  have firstPass : ∀ next, takeNames {} document.markers = .ok next ↔ _ :=
    fun next => @takeNames_eq_ok_iff [] document.markers next .nil
  have secondPass := fun distinct next => @takeParents_eq_ok_iff [] document.markers next distinct
  rw [List.nil_append] at firstPass secondPass
  rw [ofDocument?_eq_ok_iff_passes]
  constructor
  · rintro ⟨named, names, parents, search⟩
    rcases (firstPass named).mp names with ⟨⟨notBlank, distinct⟩, rfl⟩
    rcases (secondPass distinct catalog).mp parents with ⟨closed, rfl⟩
    exact ⟨rfl, (wellFormed_stating_iff distinct).mpr
      ⟨notBlank, closed, ensureAcyclic_eq_ok_iff.mp search⟩⟩
  · rintro ⟨rfl, wellFormed⟩
    have distinct := wellFormed.distinct
    rw [keys_stating] at distinct
    rcases (wellFormed_stating_iff distinct).mp wellFormed with ⟨notBlank, closed, acyclic⟩
    exact ⟨halfLoaded [] document.markers, (firstPass _).mpr ⟨⟨notBlank, distinct⟩, rfl⟩,
      (secondPass distinct _).mpr ⟨closed, rfl⟩, ensureAcyclic_eq_ok_iff.mpr acyclic⟩

/-- Text is loaded by way of the document that it stands for. -/
theorem ofDocument?_of_ofText? {text : String} {catalog : Catalog}
    (loaded : ofText? text = .ok catalog) : ∃ document, ofDocument? document = .ok catalog := by
  rw [ofText?] at loaded
  cases reading : CatalogDocument.ofText? text with
  | error fault =>
      rw [reading] at loaded
      cases loaded
  | ok document =>
      rw [reading] at loaded
      exact ⟨document, loaded⟩

/-!
## The order of declarations

A document may state its declarations in any order, a host that declares them
itself has to begin with the parents.  The two agree: a document is accepted
exactly if its declarations can be performed one by one in some order.  Such an
order cannot be read off the document; it is found by the length of lineages,
which grows with each step down from a parent and exists since there is no
cycle.
-/

/-- The same types are declared with the same parents, in whatever order. -/
structure Agrees (first second : Catalog) : Prop where
  contains : ∀ marker, first.contains marker = second.contains marker
  parent? : ∀ marker, first.parent? marker = second.parent? marker
  size : first.size = second.size

theorem Agrees.mem_keys_iff {first second : Catalog} (agrees : first.Agrees second)
    {marker : MarkerType} : marker ∈ first.keys ↔ marker ∈ second.keys := by
  rw [← contains_iff_mem_keys, ← contains_iff_mem_keys, agrees.contains]

theorem Agrees.wellFormed {first second : Catalog} (agrees : first.Agrees second)
    (distinct : second.keys.Nodup) (wellFormed : first.WellFormed) : second.WellFormed where
  distinct := distinct
  named marker declared := wellFormed.named marker (agrees.mem_keys_iff.mpr declared)
  closed marker parent recorded :=
    agrees.mem_keys_iff.mp
      (wellFormed.closed marker parent ((agrees.parent? marker).trans recorded))
  acyclic := by
    have sameParents : first.HasParent = second.HasParent := by
      funext marker parent
      rw [HasParent, HasParent, agrees.parent?]
    intro marker
    rw [← sameParents]
    exact wellFormed.acyclic marker

variable {declarations order : List MarkerDeclaration}

/-- The order of declarations does not matter where their names differ. -/
theorem agrees_stating_of_perm (permutes : order.Perm declarations)
    (distinct : (declarations.map MarkerDeclaration.name).Nodup) :
    (stating declarations).Agrees (stating order) := by
  have names := permutes.map MarkerDeclaration.name
  have orderDistinct := names.nodup_iff.mpr distinct
  refine ⟨fun marker => ?_, fun marker => ?_, ?_⟩
  · rw [Bool.eq_iff_iff, contains_iff_mem_keys, contains_iff_mem_keys, keys_stating, keys_stating,
      names.mem_iff]
  · apply Option.ext
    intro parent
    rw [parent?_stating_iff distinct, parent?_stating_iff orderDistinct, permutes.mem_iff]
  · rw [size, size, stating, stating, List.length_map, List.length_map, permutes.length_eq]

theorem wellFormed_stating_of_perm (permutes : order.Perm declarations)
    (wellFormed : (stating declarations).WellFormed) : (stating order).WellFormed := by
  have distinct := wellFormed.distinct
  rw [keys_stating] at distinct
  apply (agrees_stating_of_perm permutes distinct).wellFormed _ wellFormed
  rw [keys_stating]
  exact (permutes.map MarkerDeclaration.name).nodup_iff.mpr distinct

/-- Sorting by a key leaves the keys in order. -/
theorem pairwise_mergeSort_by {α β : Type} [LE β] [DecidableLE β] [Std.IsLinearPreorder β]
    (key : α → β) (items : List α) :
    (items.mergeSort fun first second => decide (key first ≤ key second)).Pairwise
      fun first second => key first ≤ key second := by
  refine (List.pairwise_mergeSort ?_ ?_ items).imp of_decide_eq_true
  · intro first second third firstSecond secondThird
    exact decide_eq_true
      (Std.le_trans (of_decide_eq_true firstSecond) (of_decide_eq_true secondThird))
  · intro first second
    rw [Bool.or_eq_true]
    exact Std.le_total.imp decide_eq_true decide_eq_true

/-- Whether the first declaration has no longer a lineage than the second one. -/
def noDeeper (catalog : Catalog) (first second : MarkerDeclaration) : Bool :=
  decide ((catalog.lineage first.name).length ≤ (catalog.lineage second.name).length)

/-- The declarations with the shortest lineages first. -/
def byDepth (declarations : List MarkerDeclaration) : List MarkerDeclaration :=
  declarations.mergeSort (stating declarations).noDeeper

theorem byDepth_perm (declarations : List MarkerDeclaration) :
    (byDepth declarations).Perm declarations :=
  List.mergeSort_perm declarations _

theorem byDepth_pairwise (declarations : List MarkerDeclaration) :
    (byDepth declarations).Pairwise fun first second =>
      ((stating declarations).lineage first.name).length ≤
        ((stating declarations).lineage second.name).length :=
  pairwise_mergeSort_by _ declarations

/-- A parent has a shorter lineage than what refines it, so that it comes first. -/
theorem parentsFirst_byDepth (wellFormed : (stating declarations).WellFormed) :
    ParentsFirst (byDepth declarations) := by
  intro before declaration after split parent refined
  have distinct := wellFormed.distinct
  rw [keys_stating] at distinct
  have inDocument : declaration ∈ declarations := by
    rw [← (byDepth_perm declarations).mem_iff, split]
    exact List.mem_append_right _ List.mem_cons_self
  have recorded : (stating declarations).parent? declaration.name = some parent :=
    (parent?_stating_iff distinct).mpr (refined ▸ inDocument)
  have shorter : ((stating declarations).lineage parent).length <
      ((stating declarations).lineage declaration.name).length := by
    rw [lineage_of_parent wellFormed.acyclic recorded]
    exact Nat.lt_succ_self _
  have declared := wellFormed.closed _ _ recorded
  rw [keys_stating, ← ((byDepth_perm declarations).map _).mem_iff, split, List.map_append,
    List.mem_append] at declared
  rcases declared with isBefore | notBefore
  · exact isBefore
  · rcases List.mem_map.mp notBefore with ⟨other, member, rfl⟩
    have sorted := byDepth_pairwise declarations
    rw [split] at sorted
    rcases List.mem_cons.mp member with rfl | isAfter
    · exact absurd shorter (Nat.lt_irrefl _)
    · have noShorter := List.rel_of_pairwise_cons (List.pairwise_append.mp sorted).2.1 isAfter
      exact absurd shorter (Nat.not_lt.mpr noShorter)

/-- Any order in which the declarations can be performed leaves the entries that
they state, in a well-formed catalog. -/
theorem stating_of_enterAll_empty {last : Catalog} (entered : enterAll {} order = ⟨last, none⟩) :
    last = stating order ∧ last.WellFormed :=
  @stating_of_enterAll [] order last wellFormed_empty entered

private theorem exists_order_iff (document : CatalogDocument) :
    (∃ loaded, ofDocument? document = .ok loaded) ↔
      ∃ order, order.Perm document.markers ∧ ∃ entered, enterAll {} order = ⟨entered, none⟩ := by
  constructor
  · rintro ⟨loaded, loads⟩
    rcases ofDocument?_eq_ok_iff.mp loads with ⟨rfl, wellFormed⟩
    have permutes := byDepth_perm document.markers
    exact ⟨byDepth document.markers, permutes, stating (byDepth document.markers),
      @enterAll_of_parentsFirst [] _ (wellFormed_stating_of_perm permutes wellFormed)
        (parentsFirst_byDepth wellFormed)⟩
  · rintro ⟨order, permutes, entered, enters⟩
    rcases stating_of_enterAll_empty enters with ⟨rfl, wellFormed⟩
    exact ⟨stating document.markers,
      ofDocument?_eq_ok_iff.mpr ⟨rfl, wellFormed_stating_of_perm permutes.symm wellFormed⟩⟩

/-- Loading a document and performing its declarations in an order of the host's
choice accept the same documents and lead to the same catalog, and so the order
in which a document states its declarations does not matter. -/
theorem ofDocument?_agrees_with_enterAll (document : CatalogDocument) :
    ((∃ loaded, ofDocument? document = .ok loaded) ↔
      ∃ order, order.Perm document.markers ∧ ∃ entered, enterAll {} order = ⟨entered, none⟩) ∧
    (∀ order loaded entered, order.Perm document.markers →
      ofDocument? document = .ok loaded → enterAll {} order = ⟨entered, none⟩ →
        loaded.Agrees entered) ∧
    ∀ other : CatalogDocument, other.markers.Perm document.markers →
      ((∃ loaded, ofDocument? document = .ok loaded) ↔
        ∃ loaded, ofDocument? other = .ok loaded) ∧
      ∀ first second, ofDocument? document = .ok first → ofDocument? other = .ok second →
        first.Agrees second := by
  have distinct : ∀ {loaded}, ofDocument? document = .ok loaded →
      loaded = stating document.markers ∧ (document.markers.map MarkerDeclaration.name).Nodup := by
    intro loaded loads
    rcases ofDocument?_eq_ok_iff.mp loads with ⟨rfl, wellFormed⟩
    exact ⟨rfl, keys_stating document.markers ▸ wellFormed.distinct⟩
  refine ⟨exists_order_iff document, ?_, ?_⟩
  · intro order loaded entered permutes loads enters
    rcases distinct loads with ⟨rfl, distinct⟩
    rw [(stating_of_enterAll_empty enters).1]
    exact agrees_stating_of_perm permutes distinct
  · intro other permutes
    refine ⟨?_, ?_⟩
    · rw [exists_order_iff document, exists_order_iff other]
      constructor
      · rintro ⟨order, orders, enters⟩
        exact ⟨order, orders.trans permutes.symm, enters⟩
      · rintro ⟨order, orders, enters⟩
        exact ⟨order, orders.trans permutes, enters⟩
    · intro first second loadsFirst loadsSecond
      rcases distinct loadsFirst with ⟨rfl, distinct⟩
      rw [(ofDocument?_eq_ok_iff.mp loadsSecond).1]
      exact agrees_stating_of_perm permutes distinct

theorem ofDocument?_agrees_with_enterAll_audit : ∃ loaded entered,
    ofDocument? ⟨[⟨⟨"Audit"⟩, some ⟨"Logged"⟩⟩, ⟨⟨"Logged"⟩, none⟩]⟩ = .ok loaded ∧
      enterAll {} [⟨⟨"Logged"⟩, none⟩, ⟨⟨"Audit"⟩, some ⟨"Logged"⟩⟩] = ⟨entered, none⟩ ∧
      loaded.Agrees entered := by
  have loads : ofDocument? ⟨[⟨⟨"Audit"⟩, some ⟨"Logged"⟩⟩, ⟨⟨"Logged"⟩, none⟩]⟩ =
      .ok (stating [⟨⟨"Audit"⟩, some ⟨"Logged"⟩⟩, ⟨⟨"Logged"⟩, none⟩]) :=
    ofDocument?_eq_ok_iff_passes.mpr ⟨_, rfl, by decide, by cbv⟩
  have enters : enterAll {} [⟨⟨"Logged"⟩, none⟩, ⟨⟨"Audit"⟩, some ⟨"Logged"⟩⟩] =
      ⟨stating [⟨⟨"Logged"⟩, none⟩, ⟨⟨"Audit"⟩, some ⟨"Logged"⟩⟩], none⟩ := by decide
  exact ⟨_, _, loads, enters,
    (ofDocument?_agrees_with_enterAll _).2.1 _ _ _ (List.Perm.swap _ _ _) loads enters⟩

end Catalog

end MarkedTree
