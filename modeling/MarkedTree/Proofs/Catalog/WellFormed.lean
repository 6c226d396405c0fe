import Mathlib.Data.List.Chain
import Mathlib.Data.List.Nodup
import Mathlib.Data.List.Perm.Basic
import Mathlib.Logic.Relation
import MarkedTree.Catalog
import MarkedTree.Json.Forms

/-!
# Lineages and well-formed catalogs

A host reads a lineage item by item: each step hands out the type that the walk
has come to and moves on to its parent.  Nothing in such a walk notices that it
has been somewhere before, so on a cycle of parents it would never end.
`Lineage.Yields` says that a walk ends and what it hands out; it does not refer
to `Catalog.lineage`, which stops by itself.  The main statement is that in a
catalog without cycles the two agree, and what such a lineage looks like.
-/

namespace MarkedTree

namespace Catalog

/-- The second type is recorded as what the first one refines directly. -/
def HasParent (catalog : Catalog) (marker parent : MarkerType) : Prop :=
  catalog.parent? marker = some parent

/-- No type comes back to itself after one or more steps to a parent. -/
def Acyclic (catalog : Catalog) : Prop :=
  ∀ marker, ¬ Relation.TransGen catalog.HasParent marker marker

theorem hasParent_rightUnique (catalog : Catalog) : Relator.RightUnique catalog.HasParent :=
  fun _ _ _ first second => Option.some.inj (first.symm.trans second)

end Catalog

/-- A walk up the parents: the type that it hands out next, if it has not ended. -/
structure Lineage where
  catalog : Catalog
  next? : Option MarkerType

namespace Lineage

/-- Hands out the next type and moves on to its parent. -/
def step? (walk : Lineage) : Option (MarkerType × Lineage) :=
  walk.next?.map fun marker => (marker, ⟨walk.catalog, walk.catalog.parent? marker⟩)

/-- The walk ends, after it has handed out these types. -/
inductive Yields : Lineage → List MarkerType → Prop
  | ended {walk} (atEnd : walk.step? = none) : Yields walk []
  | handedOut {walk marker others items} (step : walk.step? = some (marker, others))
      (rest : Yields others items) : Yields walk (marker :: items)

/-- A walk hands out one list of types only. -/
theorem Yields.unique {walk : Lineage} {items others : List MarkerType}
    (first : walk.Yields items) (second : walk.Yields others) : items = others := by
  induction first generalizing others with
  | ended atEnd =>
      cases second with
      | ended => rfl
      | handedOut step _ => cases atEnd.symm.trans step
  | handedOut step _ hypothesis =>
      cases second with
      | ended atEnd => cases atEnd.symm.trans step
      | handedOut step' rest' =>
          cases step.symm.trans step'
          rw [hypothesis rest']

private theorem step?_eq_some {walk others : Lineage} {marker : MarkerType}
    (step : walk.step? = some (marker, others)) :
    walk.next? = some marker ∧ others = ⟨walk.catalog, walk.catalog.parent? marker⟩ := by
  rcases Option.map_eq_some_iff.mp step with ⟨_, isNext, same⟩
  cases same
  exact ⟨isNext, rfl⟩

theorem Yields.head?_eq {walk : Lineage} {items : List MarkerType} (yields : walk.Yields items) :
    items.head? = walk.next? := by
  cases yields with
  | ended atEnd => exact (Option.map_eq_none_iff.mp atEnd).symm
  | handedOut step rest => exact (step?_eq_some step).1.symm

theorem Yields.isChain {walk : Lineage} {items : List MarkerType} (yields : walk.Yields items) :
    items.IsChain walk.catalog.HasParent := by
  induction yields with
  | ended atEnd => exact .nil
  | handedOut step rest hypothesis =>
      rcases step?_eq_some step with ⟨_, rfl⟩
      refine List.isChain_cons.mpr ⟨fun next isNext => ?_, hypothesis⟩
      exact rest.head?_eq.symm.trans isNext

theorem Yields.parent?_getLast {walk : Lineage} {items : List MarkerType}
    (yields : walk.Yields items) : ∀ last ∈ items.getLast?, walk.catalog.parent? last = none := by
  induction yields with
  | ended atEnd => intro last isLast; cases isLast
  | @handedOut walk marker others items step rest hypothesis =>
      rcases step?_eq_some step with ⟨_, rfl⟩
      cases items with
      | nil =>
          intro last isLast
          cases isLast
          exact rest.head?_eq.symm
      | cons next rest => exact hypothesis

/-- A walk comes to the types that can be reached by steps to a parent. -/
theorem Yields.mem_iff {walk : Lineage} {items : List MarkerType} (yields : walk.Yields items)
    {marker ancestor : MarkerType} (starts : walk.next? = some marker) :
    ancestor ∈ items ↔ Relation.ReflTransGen walk.catalog.HasParent marker ancestor := by
  induction yields generalizing marker with
  | ended atEnd => cases (Option.map_eq_none_iff.mp atEnd).symm.trans starts
  | handedOut step rest hypothesis =>
      rcases step?_eq_some step with ⟨isNext, rfl⟩
      cases isNext.symm.trans starts
      rw [List.mem_cons]
      constructor
      · intro member
        rcases member with rfl | inRest
        · exact .refl
        · cases rest with
          | ended atEnd => cases inRest
          | handedOut step' rest' =>
              have recorded := (step?_eq_some step').1
              exact .head recorded ((hypothesis recorded).mp inRest)
      · intro reaches
        rcases Relation.ReflTransGen.cases_head reaches with rfl | ⟨parent, recorded, above⟩
        · exact .inl rfl
        · exact .inr ((hypothesis recorded).mpr above)

theorem yields_none (catalog : Catalog) : Yields ⟨catalog, none⟩ [] :=
  .ended rfl

theorem yields_some {catalog : Catalog} {marker : MarkerType} {items : List MarkerType}
    (rest : Yields ⟨catalog, catalog.parent? marker⟩ items) :
    Yields ⟨catalog, some marker⟩ (marker :: items) :=
  .handedOut rfl rest

end Lineage

namespace Catalog

variable {catalog : Catalog}

/-- If all types on the path lead to the type that a climb starts from, then in
a catalog without cycles the climb is a walk: it never meets the path. -/
theorem climb_yields (acyclic : catalog.Acyclic) (path : List MarkerType) (marker : MarkerType)
    (leadsHere : ∀ other ∈ path, Relation.TransGen catalog.HasParent other marker) :
    Lineage.Yields ⟨catalog, some marker⟩ (catalog.climb path marker) := by
  induction path, marker using climb.induct catalog with
  | case1 path marker onPath =>
      exact absurd (leadsHere marker (List.contains_iff_mem.mp onPath)) (acyclic marker)
  | case2 path marker fresh hypothesis =>
      rw [climb, if_neg fresh]
      apply Lineage.yields_some
      split
      case h_1 noParent => exact noParent ▸ Lineage.yields_none catalog
      case h_2 parent recorded =>
        rw [recorded]
        apply hypothesis parent recorded
        intro other member
        rcases List.mem_cons.mp member with rfl | onPath
        · exact .single recorded
        · exact (leadsHere other onPath).tail recorded

/-- Without cycles a walk from any type ends, and hands out the lineage. -/
theorem lineage_yields (acyclic : catalog.Acyclic) (marker : MarkerType) :
    Lineage.Yields ⟨catalog, some marker⟩ (catalog.lineage marker) :=
  climb_yields acyclic [] marker fun _ member => absurd member List.not_mem_nil

theorem lineage_of_root (acyclic : catalog.Acyclic) {marker : MarkerType}
    (noParent : catalog.parent? marker = none) : catalog.lineage marker = [marker] := by
  apply (lineage_yields acyclic marker).unique
  apply Lineage.yields_some
  rw [noParent]
  exact Lineage.yields_none catalog

/-- The lineage of a refinement is that of its parent with the type in front. -/
theorem lineage_of_parent (acyclic : catalog.Acyclic) {marker parent : MarkerType}
    (recorded : catalog.parent? marker = some parent) :
    catalog.lineage marker = marker :: catalog.lineage parent := by
  apply (lineage_yields acyclic marker).unique
  apply Lineage.yields_some
  rw [recorded]
  exact lineage_yields acyclic parent

theorem mem_lineage_iff (acyclic : catalog.Acyclic) {marker ancestor : MarkerType} :
    ancestor ∈ catalog.lineage marker ↔
      Relation.ReflTransGen catalog.HasParent marker ancestor :=
  (lineage_yields acyclic marker).mem_iff rfl

/-- Without cycles no type comes twice in a lineage. -/
theorem lineage_nodup (acyclic : catalog.Acyclic) (marker : MarkerType) :
    (catalog.lineage marker).Nodup := by
  have chain : (catalog.lineage marker).IsChain (Relation.TransGen catalog.HasParent) :=
    (lineage_yields acyclic marker).isChain.imp fun _ _ recorded => .single recorded
  apply chain.pairwise.imp
  intro lower upper above same
  exact acyclic upper (same ▸ above)

/-!
## The invariant of catalogs

A catalog is well formed if each type is declared once and under a name that is
not blank, if all parents are declared, and if there is no cycle of parents.
A declaration that is accepted adds one entry at the end of such a catalog and
keeps it so: its parent was declared before, and nothing can refine the new type
yet.
-/

theorem contains_iff_mem_keys {marker : MarkerType} :
    catalog.contains marker = true ↔ marker ∈ catalog.keys :=
  List.contains_iff_mem

/-- Where each type is declared once, a parent is read back from its entry. -/
theorem parent?_eq_some_iff (distinct : catalog.keys.Nodup) {marker parent : MarkerType} :
    catalog.parent? marker = some parent ↔ (marker, some parent) ∈ catalog.entries := by
  rcases catalog with ⟨entries⟩
  simp only [parent?, keys] at *
  induction entries with
  | nil =>
      constructor
      · intro recorded
        cases recorded
      · intro member
        cases member
  | cons entry rest hypothesis =>
      rcases List.nodup_cons.mp distinct with ⟨fresh, restDistinct⟩
      rcases entry with ⟨name, refined⟩
      by_cases same : marker = name
      · subst same
        have notInRest : (marker, some parent) ∉ rest := fun member =>
          fresh (List.mem_map.mpr ⟨_, member, rfl⟩)
        simp only [List.lookup_cons_self, Option.join_some, List.mem_cons, Prod.mk.injEq, true_and,
          notInRest, or_false]
        exact eq_comm
      · rw [List.lookup_cons, beq_false_of_ne same]
        simp only [List.mem_cons, Prod.mk.injEq, same, false_and, false_or]
        exact hypothesis restDistinct

/-- What holds of every catalog that a host can come by. -/
structure WellFormed (catalog : Catalog) : Prop where
  distinct : catalog.keys.Nodup
  named : ∀ marker ∈ catalog.keys, marker.isBlank = false
  closed : ∀ marker parent, catalog.parent? marker = some parent → parent ∈ catalog.keys
  acyclic : catalog.Acyclic

theorem wellFormed_empty : WellFormed {} where
  distinct := List.nodup_nil
  named _ member := absurd member List.not_mem_nil
  closed _ _ recorded := nomatch recorded
  acyclic marker cycle := by
    rcases Relation.TransGen.head'_iff.mp cycle with ⟨parent, recorded, _⟩
    cases recorded

def append (catalog : Catalog) (declaration : MarkerDeclaration) : Catalog :=
  ⟨catalog.entries ++ [(declaration.name, declaration.refines)]⟩

theorem keys_append (catalog : Catalog) (declaration : MarkerDeclaration) :
    (catalog.append declaration).keys = catalog.keys ++ [declaration.name] := by
  rw [keys, append, List.map_append]
  rfl

theorem parent?_append_self {declaration : MarkerDeclaration}
    (fresh : declaration.name ∉ catalog.keys) :
    (catalog.append declaration).parent? declaration.name = declaration.refines := by
  have absent : catalog.entries.lookup declaration.name = none := by
    apply List.lookup_eq_none_iff.mpr
    intro entry member
    apply bne_iff_ne.mpr
    intro same
    exact fresh (same ▸ List.mem_map_of_mem member)
  rw [parent?, append, List.lookup_append, absent, Option.none_or, List.lookup_cons_self,
    Option.join_some]

theorem parent?_append_of_ne {declaration : MarkerDeclaration} {marker : MarkerType}
    (differs : marker ≠ declaration.name) :
    (catalog.append declaration).parent? marker = catalog.parent? marker := by
  rw [parent?, append, List.lookup_append, List.lookup_cons, beq_false_of_ne differs,
    List.lookup_nil, Option.or_none, parent?]

/-- What a declaration has to be like to be added: it names a new type, and it
refines a declared one if it refines any. -/
structure Admits (catalog : Catalog) (declaration : MarkerDeclaration) : Prop where
  named : declaration.name.isBlank = false
  fresh : declaration.name ∉ catalog.keys
  refinesDeclared : ∀ parent, declaration.refines = some parent → parent ∈ catalog.keys

section

variable {declaration : MarkerDeclaration} {lower upper : MarkerType}

/-- No entry refines the new type, not even its own: all parents were declared
before. -/
private theorem Admits.parent_mem_keys (admits : catalog.Admits declaration)
    (wellFormed : catalog.WellFormed)
    (recorded : (catalog.append declaration).HasParent lower upper) : upper ∈ catalog.keys := by
  by_cases isNew : lower = declaration.name
  · subst isNew
    exact admits.refinesDeclared upper ((parent?_append_self admits.fresh).symm.trans recorded)
  · exact wellFormed.closed lower upper ((parent?_append_of_ne isNew).symm.trans recorded)

/-- A path up from another type was there before. -/
private theorem Admits.transGen_of_ne (admits : catalog.Admits declaration)
    (wellFormed : catalog.WellFormed) (differs : lower ≠ declaration.name)
    (path : Relation.TransGen (catalog.append declaration).HasParent lower upper) :
    Relation.TransGen catalog.HasParent lower upper := by
  induction path with
  | single recorded => exact .single ((parent?_append_of_ne differs).symm.trans recorded)
  | @tail middle upper earlier recorded hypothesis =>
      rcases Relation.TransGen.tail'_iff.mp earlier with ⟨below, _, recordedBelow⟩
      have notNew : middle ≠ declaration.name := by
        intro isNew
        exact admits.fresh (isNew ▸ admits.parent_mem_keys wellFormed recordedBelow)
      exact hypothesis.tail ((parent?_append_of_ne notNew).symm.trans recorded)

end

/-- An admissible declaration keeps a catalog well formed. -/
theorem WellFormed.append (wellFormed : catalog.WellFormed) {declaration : MarkerDeclaration}
    (admits : catalog.Admits declaration) : (catalog.append declaration).WellFormed := by
  refine ⟨?_, ?_, ?_, ?_⟩
  · rw [keys_append]
    refine List.nodup_append.mpr ⟨wellFormed.distinct, List.nodup_singleton _, ?_⟩
    intro marker member other isNew same
    exact admits.fresh (List.mem_singleton.mp isNew ▸ same ▸ member)
  · intro marker member
    rw [keys_append] at member
    rcases List.mem_append.mp member with declared | isNew
    · exact wellFormed.named marker declared
    · exact List.mem_singleton.mp isNew ▸ admits.named
  · intro marker parent recorded
    rw [keys_append]
    exact List.mem_append_left _ (admits.parent_mem_keys wellFormed recorded)
  · intro marker cycle
    rcases Relation.TransGen.tail'_iff.mp cycle with ⟨below, _, recorded⟩
    have notNew : marker ≠ declaration.name := fun isNew =>
      admits.fresh (isNew ▸ admits.parent_mem_keys wellFormed recorded)
    exact wellFormed.acyclic marker (admits.transGen_of_ne wellFormed notNew cycle)

/-!
## Declaring one type after the other

A declaration of a document can also be performed on its own: as the declaration
of a root if it refines nothing, and of a refinement otherwise.  It is accepted
exactly if the catalog admits it, and then adds its entry; otherwise it is refused
for a reason and changes nothing (`enter_cases`).  A sequence of
declarations that succeeds therefore leaves the entries that it states, in its
own order, and it succeeds whenever parents come first.
-/

/-- Performs a declaration on its own. -/
def enter (catalog : Catalog) (declaration : MarkerDeclaration) : Edited CatalogError Catalog :=
  match declaration.refines with
  | none => catalog.declare declaration.name
  | some parent => catalog.declareRefinement declaration.name parent

/-- What a declaration on its own is refused for.  A blank name comes before one that
is taken, and both come before a parent that is not declared.  A new type that is to
refine itself has a parent of this last kind. -/
inductive Refuses (catalog : Catalog) (declaration : MarkerDeclaration) : CatalogError → Prop
  | blank (blank : declaration.name.isBlank = true) :
      Refuses catalog declaration .blankName
  | taken (named : declaration.name.isBlank = false)
      (declared : catalog.contains declaration.name = true) :
      Refuses catalog declaration (.duplicate declaration.name)
  | orphaned {parent : MarkerType} (named : declaration.name.isBlank = false)
      (fresh : catalog.contains declaration.name = false)
      (refined : declaration.refines = some parent)
      (undeclared : catalog.contains parent = false) :
      Refuses catalog declaration (.unknownParent declaration.name parent)

variable {declaration : MarkerDeclaration} {problem : CatalogError}

theorem admits_or_refuses (catalog : Catalog) (declaration : MarkerDeclaration) :
    catalog.Admits declaration ∨ ∃ problem, catalog.Refuses declaration problem := by
  cases blank : declaration.name.isBlank with
  | true => exact .inr ⟨_, .blank blank⟩
  | false =>
      cases declared : catalog.contains declaration.name with
      | true => exact .inr ⟨_, .taken blank declared⟩
      | false =>
          have fresh : declaration.name ∉ catalog.keys := by
            rw [← contains_iff_mem_keys]
            exact Bool.eq_false_iff.mp declared
          cases refined : declaration.refines with
          | none => exact .inl ⟨blank, fresh, by rw [refined]; nofun⟩
          | some parent =>
              cases parentDeclared : catalog.contains parent with
              | false => exact .inr ⟨_, .orphaned blank declared refined parentDeclared⟩
              | true =>
                  refine .inl ⟨blank, fresh, fun other isParent => ?_⟩
                  cases refined.symm.trans isParent
                  exact contains_iff_mem_keys.mp parentDeclared

theorem insertEntry_of_not_mem {marker : MarkerType} {parent : Option MarkerType}
    {entries : List (MarkerType × Option MarkerType)} (fresh : marker ∉ entries.map Prod.fst) :
    insertEntry marker parent entries = entries ++ [(marker, parent)] := by
  induction entries with
  | nil => rfl
  | cons entry rest hypothesis =>
      rw [List.map_cons, List.mem_cons, not_or] at fresh
      rw [insertEntry, if_neg (Ne.symm fresh.1), hypothesis fresh.2, List.cons_append]

theorem checkNew_eq_ok_iff {marker : MarkerType} :
    catalog.checkNew marker = .ok () ↔ marker.isBlank = false ∧ marker ∉ catalog.keys := by
  rw [checkNew, ← contains_iff_mem_keys]
  cases marker.isBlank <;> cases catalog.contains marker <;> simp

/-- A declaration that is admitted adds its entry. -/
theorem enter_of_admits (admits : catalog.Admits declaration) :
    catalog.enter declaration = ⟨catalog.append declaration, none⟩ := by
  rcases declaration with ⟨name, refined⟩
  have passes : catalog.checkNew name = .ok () :=
    checkNew_eq_ok_iff.mpr ⟨admits.named, admits.fresh⟩
  have inserted : catalog.insert name refined = catalog.append ⟨name, refined⟩ :=
    congrArg Catalog.mk (insertEntry_of_not_mem admits.fresh)
  cases refined with
  | none => rw [enter, declare, passes, inserted]
  | some parent =>
      have declared : catalog.contains parent = true :=
        contains_iff_mem_keys.mpr (admits.refinesDeclared parent rfl)
      simp only [enter, declareRefinement, passes, if_pos declared, inserted]

/-- A name that cannot be declared is refused with and without a parent. -/
theorem enter_of_checkNew_error (check : catalog.checkNew declaration.name = .error problem) :
    catalog.enter declaration = ⟨catalog, some problem⟩ := by
  cases refined : declaration.refines <;>
    simp only [enter, refined, declare, declareRefinement, check]

/-- A declaration that is refused changes nothing. -/
theorem Refuses.enter_eq (refuses : catalog.Refuses declaration problem) :
    catalog.enter declaration = ⟨catalog, some problem⟩ := by
  cases refuses with
  | blank blank => exact enter_of_checkNew_error (if_pos blank)
  | taken named declared =>
      apply enter_of_checkNew_error
      rw [checkNew, if_neg (Bool.eq_false_iff.mp named)]
      exact if_pos declared
  | @orphaned parent named fresh isParent undeclared =>
      have check : catalog.checkNew declaration.name = .ok () := by
        rw [checkNew, if_neg (Bool.eq_false_iff.mp named)]
        exact if_neg (Bool.eq_false_iff.mp fresh)
      simp only [enter, isParent, declareRefinement, check, undeclared, Bool.false_eq_true,
        if_false]

/-- All that can come of a declaration.  What is said of declarations below is said of
these two cases. -/
theorem enter_cases (catalog : Catalog) (declaration : MarkerDeclaration) :
    (catalog.Admits declaration ∧
      catalog.enter declaration = ⟨catalog.append declaration, none⟩) ∨
    ∃ problem, catalog.Refuses declaration problem ∧
      catalog.enter declaration = ⟨catalog, some problem⟩ := by
  rcases catalog.admits_or_refuses declaration with admits | ⟨problem, refuses⟩
  · exact .inl ⟨admits, enter_of_admits admits⟩
  · exact .inr ⟨problem, refuses, refuses.enter_eq⟩

theorem failure_enter_eq_some_iff :
    (catalog.enter declaration).failure = some problem ↔
      catalog.Refuses declaration problem := by
  constructor
  · intro fails
    rcases catalog.enter_cases declaration with ⟨_, added⟩ | ⟨other, refuses, refused⟩
    · rw [added] at fails
      cases fails
    · rw [refused] at fails
      cases fails
      exact refuses
  · intro refuses
    rw [refuses.enter_eq]

theorem WellFormed.enter (wellFormed : catalog.WellFormed) (declaration : MarkerDeclaration) :
    (catalog.enter declaration).value.WellFormed := by
  rcases catalog.enter_cases declaration with ⟨admits, added⟩ | ⟨problem, _, refused⟩
  · rw [added]
    exact wellFormed.append admits
  · rw [refused]
    exact wellFormed

/-- The catalog with the entries that declarations state, in their order. -/
def stating (declarations : List MarkerDeclaration) : Catalog :=
  ⟨declarations.map fun declaration => (declaration.name, declaration.refines)⟩

theorem keys_stating (declarations : List MarkerDeclaration) :
    (stating declarations).keys = declarations.map MarkerDeclaration.name := by
  rw [keys, stating, List.map_map]
  rfl

theorem name_not_mem_of_nodup {before after : List MarkerDeclaration}
    (distinct : ((before ++ declaration :: after).map MarkerDeclaration.name).Nodup) :
    declaration.name ∉ before.map MarkerDeclaration.name := by
  rw [List.map_append, List.map_cons] at distinct
  intro taken
  exact (List.nodup_append.mp distinct).2.2 _ taken _ List.mem_cons_self rfl

theorem stating_append (declarations : List MarkerDeclaration) (declaration : MarkerDeclaration) :
    (stating declarations).append declaration = stating (declarations ++ [declaration]) := by
  rw [append, stating, stating, List.map_append]
  rfl

/-- Performs declarations in turn, until one is refused. -/
def enterAll (catalog : Catalog) : List MarkerDeclaration → Edited CatalogError Catalog
  | [] => ⟨catalog, none⟩
  | declaration :: rest =>
      let entered := catalog.enter declaration
      match entered.failure with
      | none => entered.value.enterAll rest
      | some problem => ⟨entered.value, some problem⟩

theorem enterAll_cons_of_admits (admits : catalog.Admits declaration)
    (rest : List MarkerDeclaration) :
    catalog.enterAll (declaration :: rest) = (catalog.append declaration).enterAll rest := by
  rw [enterAll, enter_of_admits admits]

/-- Declarations that were all accepted leave the entries that they state, in a
well-formed catalog. -/
theorem stating_of_enterAll {done declarations : List MarkerDeclaration} {last : Catalog}
    (wellFormed : (stating done).WellFormed)
    (entered : (stating done).enterAll declarations = ⟨last, none⟩) :
    last = stating (done ++ declarations) ∧ last.WellFormed := by
  induction declarations generalizing done with
  | nil =>
      cases entered
      rw [List.append_nil]
      exact ⟨rfl, wellFormed⟩
  | cons declaration rest hypothesis =>
      rcases (stating done).enter_cases declaration with ⟨admits, _⟩ | ⟨problem, _, refused⟩
      · have nextWellFormed := wellFormed.append admits
        rw [enterAll_cons_of_admits admits, stating_append] at entered
        rw [stating_append] at nextWellFormed
        have rest := hypothesis nextWellFormed entered
        rwa [List.append_assoc] at rest
      · rw [enterAll, refused] at entered
        cases entered

/-- Each declaration that refines a type comes after one that names it. -/
def ParentsFirst (declarations : List MarkerDeclaration) : Prop :=
  ∀ before declaration after, declarations = before ++ declaration :: after →
    ∀ parent, declaration.refines = some parent → parent ∈ before.map MarkerDeclaration.name

/-- Declarations that together make a well-formed catalog are accepted in any
order in which parents come first. -/
theorem enterAll_of_parentsFirst {done declarations : List MarkerDeclaration}
    (wellFormed : (stating (done ++ declarations)).WellFormed)
    (parentsFirst : ParentsFirst (done ++ declarations)) :
    (stating done).enterAll declarations = ⟨stating (done ++ declarations), none⟩ := by
  induction declarations generalizing done with
  | nil => rw [List.append_nil, enterAll]
  | cons declaration rest hypothesis =>
      have admits : (stating done).Admits declaration := by
        have distinct := wellFormed.distinct
        rw [keys_stating] at distinct
        refine ⟨?_, ?_, ?_⟩
        · apply wellFormed.named
          rw [keys_stating]
          exact List.mem_map_of_mem (List.mem_append_right _ List.mem_cons_self)
        · rw [keys_stating]
          exact name_not_mem_of_nodup distinct
        · rw [keys_stating]
          exact parentsFirst done declaration rest rfl
      have shifted : done ++ declaration :: rest = (done ++ [declaration]) ++ rest :=
        (List.append_assoc done [declaration] rest).symm
      rw [shifted] at wellFormed parentsFirst ⊢
      rw [enterAll_cons_of_admits admits, stating_append]
      exact hypothesis wellFormed parentsFirst

end Catalog

end MarkedTree
