import MarkedTree.Proofs.Catalog.Loading

/-!
# Why a document is refused

A document may have several faults at once.  Which one is reported is fixed up to
one choice: the first name that is blank or taken comes before all else, then the
first parent that is not declared anywhere, and a cycle is reported only where
there is nothing else.  The one choice left open is that of a type on the cycle.
It depends on the order in which the types are searched, which is a parameter here
(`ofDocumentIn?`); the main statement holds for every such order.
-/

namespace MarkedTree

namespace MarkerDeclaration

/-- No name is blank, and none comes twice. -/
structure NamesApart (declarations : List MarkerDeclaration) : Prop where
  named : ∀ declaration ∈ declarations, declaration.name.isBlank = false
  distinct : (declarations.map name).Nodup

/-- The parents that declarations state are among these names. -/
def ParentsAmong (names : List MarkerType) (declarations : List MarkerDeclaration) : Prop :=
  ∀ declaration ∈ declarations, ∀ parent, declaration.refines = some parent → parent ∈ names

/-- One of the declarations states this parent for this type. -/
def States (declarations : List MarkerDeclaration) (marker parent : MarkerType) : Prop :=
  ⟨marker, some parent⟩ ∈ declarations

/-- Following stated parents leads from the type back to it, in one step or more. -/
def OnCycle (declarations : List MarkerDeclaration) (marker : MarkerType) : Prop :=
  Relation.TransGen (States declarations) marker marker

variable {declarations : List MarkerDeclaration} {declaration : MarkerDeclaration}

theorem namesApart_nil : NamesApart [] :=
  ⟨fun _ member => absurd member List.not_mem_nil, .nil⟩

theorem NamesApart.append_singleton (apart : NamesApart declarations)
    (notBlank : declaration.name.isBlank = false)
    (fresh : declaration.name ∉ declarations.map name) :
    NamesApart (declarations ++ [declaration]) where
  named := by
    rw [List.forall_mem_append, List.forall_mem_singleton]
    exact ⟨apart.named, notBlank⟩
  distinct := by
    rw [List.map_append, List.map_singleton, ← List.concat_eq_append]
    exact apart.distinct.concat fresh

end MarkerDeclaration

open MarkerDeclaration

/-- What holds of the empty list and not of all items is lost at a first one. -/
theorem exists_first_loss {α : Type} {holds : List α → Prop} {items : List α} (start : holds [])
    (lost : ¬ holds items) :
    ∃ before item after, items = before ++ item :: after ∧ holds before ∧
      ¬ holds (before ++ [item]) := by
  induction items using List.reverseRecOn with
  | nil => exact absurd start lost
  | append_singleton items item hypothesis =>
      by_cases still : holds items
      · exact ⟨items, item, [], rfl, still, lost⟩
      · rcases hypothesis still with ⟨before, first, after, rfl, beforeHolds, firstLost⟩
        exact ⟨before, first, after ++ [item], List.append_assoc .., beforeHolds, firstLost⟩

namespace Catalog

theorem takeNames_append (catalog : Catalog) (before rest : List MarkerDeclaration) :
    catalog.takeNames (before ++ rest) =
      catalog.takeNames before >>= fun next => next.takeNames rest := by
  induction before generalizing catalog with
  | nil => rfl
  | cons declaration before hypothesis =>
      rw [List.cons_append]
      cases check : catalog.checkNew declaration.name with
      | error problem =>
          rw [takeNames_cons_of_error check, takeNames_cons_of_error check]
          rfl
      | ok => rw [takeNames_cons_of_new check, takeNames_cons_of_new check, hypothesis]

/-- The first pass comes to the end of names that are apart. -/
theorem takeNames_of_namesApart {declarations : List MarkerDeclaration}
    (apart : NamesApart declarations) :
    takeNames {} declarations = .ok (halfLoaded [] declarations) :=
  (@takeNames_eq_ok_iff [] declarations _ .nil).mpr ⟨⟨apart.named, apart.distinct⟩, rfl⟩

/-- The second pass comes to the end of declarations whose parents are known. -/
theorem takeParents_of_parentsAmong {treated before rest : List MarkerDeclaration}
    (distinct : ((treated ++ before ++ rest).map MarkerDeclaration.name).Nodup)
    (known : ParentsAmong ((treated ++ before ++ rest).map MarkerDeclaration.name) before) :
    (halfLoaded treated (before ++ rest)).takeParents (before ++ rest) =
      (halfLoaded (treated ++ before) rest).takeParents rest := by
  induction before generalizing treated with
  | nil => rw [List.nil_append, List.append_nil]
  | cons declaration before hypothesis =>
      have shifted : treated ++ declaration :: before = (treated ++ [declaration]) ++ before :=
        (List.append_assoc treated [declaration] before).symm
      have fresh := name_not_mem_of_nodup (List.append_assoc .. ▸ distinct)
      rcases List.forall_mem_cons.mp known with ⟨firstKnown, othersKnown⟩
      rw [shifted] at distinct othersKnown ⊢
      rw [List.cons_append, ← hypothesis distinct othersKnown]
      cases refined : declaration.refines with
      | none => rw [takeParents_cons_of_root refined, halfLoaded_of_root refined]
      | some parent =>
          have isDeclared :
              (halfLoaded treated (declaration :: (before ++ rest))).contains parent = true := by
            rw [contains_iff_mem_keys, keys_halfLoaded, ← List.cons_append, ← List.append_assoc]
            exact firstKnown parent refined
          rw [takeParents_cons_of_declared refined isDeclared, insert_refines_halfLoaded fresh]

/-- The catalog has the types that the declarations name and no others, each with
the parent that is stated for it. -/
structure Declares (catalog : Catalog) (declarations : List MarkerDeclaration) : Prop where
  contains : ∀ marker, catalog.contains marker = true ↔
    marker ∈ declarations.map MarkerDeclaration.name
  parent? : ∀ declaration ∈ declarations, catalog.parent? declaration.name = declaration.refines
  size : catalog.size = declarations.length

/-- The answer names what is wrong with the first name that cannot be declared. -/
def BadName (declarations : List MarkerDeclaration) (answer : Except CatalogError Catalog) : Prop :=
  ∃ before declaration after, declarations = before ++ declaration :: after ∧ NamesApart before ∧
    ((declaration.name.isBlank = true ∧ answer = .error .blankName) ∨
      (declaration.name.isBlank = false ∧ declaration.name ∈ before.map MarkerDeclaration.name ∧
        answer = .error (.duplicate declaration.name)))

/-- The answer names the first parent that is not declared anywhere, and the type
that refines it. -/
def UnknownParent (declarations : List MarkerDeclaration) (answer : Except CatalogError Catalog) :
    Prop :=
  ∃ before declaration after parent, declarations = before ++ declaration :: after ∧
    ParentsAmong (declarations.map MarkerDeclaration.name) before ∧
    declaration.refines = some parent ∧ parent ∉ declarations.map MarkerDeclaration.name ∧
    answer = .error (.unknownParent declaration.name parent)

/-- The answer that declarations call for: names come before parents, and parents
before cycles. -/
structure Verdict (declarations : List MarkerDeclaration) (answer : Except CatalogError Catalog) :
    Prop where
  badName : ¬ NamesApart declarations → BadName declarations answer
  unknownParent : NamesApart declarations →
    ¬ ParentsAmong (declarations.map MarkerDeclaration.name) declarations →
      UnknownParent declarations answer
  cycle : NamesApart declarations →
    ParentsAmong (declarations.map MarkerDeclaration.name) declarations →
      (∃ marker, OnCycle declarations marker) →
        ∃ culprit, OnCycle declarations culprit ∧ answer = .error (.cycle culprit)
  accepted : NamesApart declarations →
    ParentsAmong (declarations.map MarkerDeclaration.name) declarations →
      (¬ ∃ marker, OnCycle declarations marker) →
        ∃ catalog, answer = .ok catalog ∧ catalog.Declares declarations

/-- Loading, with the types of a catalog searched for cycles in a given order. -/
def ofDocumentIn? (order : Catalog → List MarkerType) (document : CatalogDocument) :
    Except CatalogError Catalog := do
  let catalog ← takeNames {} document.markers
  let catalog ← catalog.takeParents document.markers
  catalog.verify [] (order catalog)
  pure catalog

theorem ofDocumentIn?_keys (document : CatalogDocument) :
    ofDocumentIn? keys document = ofDocument? document :=
  rfl

variable {declarations : List MarkerDeclaration}

theorem badName_of_not_namesApart (order : Catalog → List MarkerType)
    (faulty : ¬ NamesApart declarations) :
    BadName declarations (ofDocumentIn? order ⟨declarations⟩) := by
  rcases exists_first_loss namesApart_nil faulty with
    ⟨before, declaration, after, rfl, apart, notApart⟩
  have stops : ∀ {problem}, (halfLoaded [] before).checkNew declaration.name = .error problem →
      ofDocumentIn? order ⟨before ++ declaration :: after⟩ = .error problem := by
    intro problem refused
    rw [ofDocumentIn?, takeNames_append, takeNames_of_namesApart apart]
    change (halfLoaded [] before).takeNames (declaration :: after) >>= _ = _
    rw [takeNames_cons_of_error refused]
    rfl
  refine ⟨before, declaration, after, rfl, apart, ?_⟩
  by_cases isBlank : declaration.name.isBlank = true
  · exact .inl ⟨isBlank, stops (if_pos isBlank)⟩
  · have notBlank := Bool.eq_false_iff.mpr isBlank
    have taken : declaration.name ∈ before.map MarkerDeclaration.name := by
      by_contra fresh
      exact notApart (apart.append_singleton notBlank fresh)
    have isTaken : (halfLoaded [] before).contains declaration.name = true := by
      rwa [contains_iff_mem_keys, keys_halfLoaded, List.nil_append]
    exact .inr ⟨notBlank, taken, stops ((if_neg isBlank).trans (if_pos isTaken))⟩

theorem unknownParent_of_not_parentsAmong (order : Catalog → List MarkerType)
    (apart : NamesApart declarations)
    (faulty : ¬ ParentsAmong (declarations.map MarkerDeclaration.name) declarations) :
    UnknownParent declarations (ofDocumentIn? order ⟨declarations⟩) := by
  rcases exists_first_loss (fun _ member => absurd member List.not_mem_nil) faulty with
    ⟨before, declaration, after, split, known, notKnown⟩
  have atFault : ¬ ∀ parent, declaration.refines = some parent →
      parent ∈ declarations.map MarkerDeclaration.name := by
    intro declarationKnown
    exact notKnown (List.forall_mem_append.mpr
      ⟨known, List.forall_mem_singleton.mpr declarationKnown⟩)
  push Not at atFault
  rcases atFault with ⟨parent, refined, unknown⟩
  have notDeclared :
      ¬ (halfLoaded before (declaration :: after)).contains parent = true := by
    rwa [contains_iff_mem_keys, keys_halfLoaded, ← split]
  refine ⟨before, declaration, after, parent, split, known, refined, unknown, ?_⟩
  rw [ofDocumentIn?, takeNames_of_namesApart apart]
  change (halfLoaded [] declarations).takeParents declarations >>= _ = _
  have distinct := apart.distinct
  rw [split] at distinct known ⊢
  rw [@takeParents_of_parentsAmong [] _ _ distinct known, List.nil_append,
    takeParents_cons_of_unknown refined notDeclared]
  rfl

/-- Past the two passes, only the search for cycles is left. -/
theorem ofDocumentIn?_of_known (order : Catalog → List MarkerType)
    (apart : NamesApart declarations)
    (known : ParentsAmong (declarations.map MarkerDeclaration.name) declarations) :
    ofDocumentIn? order ⟨declarations⟩ =
      (stating declarations).verify [] (order (stating declarations)) >>= fun _ =>
        .ok (stating declarations) := by
  have parents : (halfLoaded [] declarations).takeParents declarations =
      .ok (stating declarations) :=
    (@takeParents_eq_ok_iff [] declarations _ apart.distinct).mpr ⟨known, rfl⟩
  rw [ofDocumentIn?, takeNames_of_namesApart apart]
  change (halfLoaded [] declarations).takeParents declarations >>= _ = _
  rw [parents]
  rfl

/-- The parents of the loaded catalog are those that are stated. -/
theorem hasParent_stating (apart : NamesApart declarations) :
    (stating declarations).HasParent = States declarations := by
  funext marker parent
  exact propext (parent?_stating_iff apart.distinct)

theorem declares_stating (apart : NamesApart declarations) :
    (stating declarations).Declares declarations where
  contains marker := by rw [contains_iff_mem_keys, keys_stating]
  parent? _ member := parent?_stating_of_mem apart.distinct member
  size := List.length_map ..

theorem verdict_ofDocumentIn? {order : Catalog → List MarkerType}
    (enumerates : ∀ catalog, (order catalog).Perm catalog.keys) :
    Verdict declarations (ofDocumentIn? order ⟨declarations⟩) := by
  have search := @verify_eq_ok_iff (stating declarations) (order (stating declarations))
    fun marker declared => (enumerates _).mem_iff.mpr declared
  refine ⟨badName_of_not_namesApart order, unknownParent_of_not_parentsAmong order,
    fun apart known onCycle => ?_, fun apart known noCycle => ?_⟩
  · rcases onCycle with ⟨marker, cycle⟩
    rw [ofDocumentIn?_of_known order apart known]
    cases searched : (stating declarations).verify [] (order (stating declarations)) with
    | ok =>
        have acyclic := search.mp searched marker
        rw [hasParent_stating apart] at acyclic
        exact absurd cycle acyclic
    | error problem =>
        rcases cycle_of_verify searched with ⟨culprit, rfl, culpritCycle⟩
        rw [hasParent_stating apart] at culpritCycle
        exact ⟨culprit, culpritCycle, rfl⟩
  · have acyclic : (stating declarations).Acyclic := by
      rw [Acyclic, hasParent_stating apart]
      exact not_exists.mp noCycle
    rw [ofDocumentIn?_of_known order apart known, search.mpr acyclic]
    exact ⟨_, rfl, declares_stating apart⟩

/-- Every document gets the verdict that its declarations call for, in whatever
order the search for cycles takes the types. -/
theorem ofDocument?_verdict (document : CatalogDocument) :
    Verdict document.markers (ofDocument? document) ∧
    ∀ order : Catalog → List MarkerType, (∀ catalog, (order catalog).Perm catalog.keys) →
      Verdict document.markers (ofDocumentIn? order document) := by
  constructor
  · rw [← ofDocumentIn?_keys]
    exact verdict_ofDocumentIn? fun _ => .refl _
  · exact fun _ enumerates => verdict_ofDocumentIn? enumerates

/-- Two types that refine each other, and one that leads to them without being on
the cycle. -/
def ring : List MarkerDeclaration :=
  [⟨⟨"Traced"⟩, some ⟨"Audit"⟩⟩, ⟨⟨"Audit"⟩, some ⟨"Logged"⟩⟩, ⟨⟨"Logged"⟩, some ⟨"Audit"⟩⟩]

theorem ofDocument?_verdict_ring :
    (∀ catalog : Catalog, catalog.keys.reverse.Perm catalog.keys) ∧
    ∃ culprit, OnCycle ring culprit ∧
      ofDocumentIn? (fun catalog => catalog.keys.reverse) ⟨ring⟩ = .error (.cycle culprit) := by
  have enumerates : ∀ catalog : Catalog, catalog.keys.reverse.Perm catalog.keys :=
    fun catalog => List.reverse_perm _
  have apart : NamesApart ring := ⟨by decide, by decide⟩
  have known : ParentsAmong (ring.map MarkerDeclaration.name) ring := by
    simp [ParentsAmong, ring]
  have up : States ring ⟨"Audit"⟩ ⟨"Logged"⟩ := by simp [States, ring]
  have back : States ring ⟨"Logged"⟩ ⟨"Audit"⟩ := by simp [States, ring]
  have cycle : OnCycle ring ⟨"Audit"⟩ := .tail (.single up) back
  exact ⟨enumerates,
    ((ofDocument?_verdict ⟨ring⟩).2 _ enumerates).cycle apart known ⟨_, cycle⟩⟩

end Catalog

end MarkedTree
