import MarkedTree.Proofs.ByteOrder
import MarkedTree.Proofs.Catalog.Loading
import MarkedTree.Proofs.Catalog.Reachable

/-!
# Documents that list a catalog

The document written of a catalog has its declarations in ascending order of name,
whatever order the entries of the catalog are in.  That order puts refinements
before their parents as often as not, so that the document could not be performed
declaration by declaration; loading it succeeds because loading does not depend on
the order.  Reading back and writing again are inverse to each other up to order.
-/

namespace MarkedTree

namespace MarkerDeclaration

/-- The names ascend strictly, both character by character and by the bytes that
they have in UTF-8. -/
structure Ascending (declarations : List MarkerDeclaration) : Prop where
  byCharacter : declarations.Pairwise fun first second => first.name.name < second.name.name
  byByte : declarations.Pairwise fun first second =>
    Text.utf8 first.name.name < Text.utf8 second.name.name

theorem ascending_of_characters {declarations : List MarkerDeclaration}
    (byCharacter : declarations.Pairwise fun first second => first.name.name < second.name.name) :
    Ascending declarations :=
  ⟨byCharacter, byCharacter.imp Text.utf8_lt_utf8_iff.mpr⟩

/-- There is one ascending order only. -/
theorem Ascending.eq_of_perm {first second : List MarkerDeclaration}
    (firstAscends : Ascending first) (secondAscends : Ascending second)
    (permutes : first.Perm second) : first = second :=
  Text.eq_of_perm_of_ascending firstAscends.byCharacter secondAscends.byCharacter permutes

theorem Ascending.nodup {declarations : List MarkerDeclaration} (ascends : Ascending declarations) :
    declarations.Nodup :=
  (Text.nodup_map_of_ascending ascends.byCharacter).of_map

end MarkerDeclaration

open MarkerDeclaration

namespace Catalog

/-- The declarations that an entry each stands for. -/
def declarations (catalog : Catalog) : List MarkerDeclaration :=
  catalog.entries.map fun entry => ⟨entry.1, entry.2⟩

theorem stating_declarations (catalog : Catalog) : stating catalog.declarations = catalog := by
  rw [stating, declarations, List.map_map]
  exact congrArg Catalog.mk (List.map_id _)

theorem declarations_stating (declarations : List MarkerDeclaration) :
    (stating declarations).declarations = declarations := by
  rw [Catalog.declarations, stating, List.map_map]
  exact List.map_id _

theorem map_name_declarations (catalog : Catalog) :
    catalog.declarations.map MarkerDeclaration.name = catalog.keys := by
  rw [← keys_stating, stating_declarations]

variable {catalog : Catalog}

/-- Where each type is declared once, its entry says with which parent. -/
theorem mem_declarations_iff (distinct : catalog.keys.Nodup) {declaration : MarkerDeclaration} :
    declaration ∈ catalog.declarations ↔ catalog.contains declaration.name = true ∧
      catalog.parent? declaration.name = declaration.refines := by
  have atMost : (catalog.declarations.map MarkerDeclaration.name).Nodup := by
    rwa [map_name_declarations]
  have parentOf : ∀ other ∈ catalog.declarations,
      catalog.parent? other.name = other.refines := by
    intro other member
    rw [← parent?_stating_of_mem atMost member, stating_declarations]
  rw [contains_iff_mem_keys, ← map_name_declarations, List.mem_map]
  constructor
  · intro member
    exact ⟨⟨declaration, member, rfl⟩, parentOf declaration member⟩
  · rintro ⟨⟨other, member, sameName⟩, recorded⟩
    have sameParent : other.refines = declaration.refines := by
      rw [← parentOf other member, sameName, recorded]
    rcases other with ⟨name, refined⟩
    cases sameName
    cases sameParent
    exact member

theorem toDocument_perm (catalog : Catalog) :
    catalog.toDocument.markers.Perm catalog.declarations :=
  List.mergeSort_perm _ _

/-- The document ascends, if no type is declared twice. -/
theorem ascending_toDocument (distinct : catalog.keys.Nodup) :
    Ascending catalog.toDocument.markers := by
  have weakly : catalog.toDocument.markers.Pairwise fun first second =>
      first.name.name ≤ second.name.name :=
    pairwise_mergeSort_by (fun declaration => declaration.name.name) catalog.declarations
  have apart : catalog.toDocument.markers.Pairwise fun first second =>
      first.name ≠ second.name := by
    rw [← map_name_declarations, ← (catalog.toDocument_perm.map _).nodup_iff] at distinct
    exact List.pairwise_map.mp distinct
  apply ascending_of_characters
  refine (weakly.and apart).imp fun {first second} both => Std.lt_of_le_of_ne both.1 ?_
  intro sameName
  exact both.2 (congrArg MarkerType.mk sameName)

theorem mem_toDocument_iff (distinct : catalog.keys.Nodup) {declaration : MarkerDeclaration} :
    declaration ∈ catalog.toDocument.markers ↔ catalog.contains declaration.name = true ∧
      catalog.parent? declaration.name = declaration.refines := by
  rw [catalog.toDocument_perm.mem_iff, mem_declarations_iff distinct]

/-- Nothing but the declared types and their parents has a part in the document. -/
theorem toDocument_congr {other : Catalog} (distinct : catalog.keys.Nodup)
    (otherDistinct : other.keys.Nodup)
    (contains : ∀ marker, other.contains marker = catalog.contains marker)
    (parents : ∀ marker, other.parent? marker = catalog.parent? marker) :
    other.toDocument = catalog.toDocument := by
  have ascends := ascending_toDocument distinct
  have otherAscends := ascending_toDocument otherDistinct
  have permutes : other.toDocument.markers.Perm catalog.toDocument.markers := by
    rw [List.perm_ext_iff_of_nodup otherAscends.nodup ascends.nodup]
    intro declaration
    rw [mem_toDocument_iff otherDistinct, mem_toDocument_iff distinct, contains, parents]
  exact congrArg CatalogDocument.mk (otherAscends.eq_of_perm ascends permutes)

/-- The document of a catalog that a host can come by declares that catalog. -/
theorem WellFormed.ofDocument?_toDocument (wellFormed : catalog.WellFormed) :
    ∃ loaded, ofDocument? catalog.toDocument = .ok loaded ∧ loaded.Agrees catalog := by
  have permutes := catalog.toDocument_perm
  have stated := stating_declarations catalog
  have distinct : (catalog.declarations.map MarkerDeclaration.name).Nodup := by
    rw [map_name_declarations]
    exact wellFormed.distinct
  have documentDistinct := (permutes.map MarkerDeclaration.name).nodup_iff.mpr distinct
  have loads : ofDocument? catalog.toDocument = .ok (stating catalog.toDocument.markers) :=
    ofDocument?_eq_ok_iff.mpr ⟨rfl, wellFormed_stating_of_perm permutes (stated.symm ▸ wellFormed)⟩
  have agrees := agrees_stating_of_perm permutes.symm documentDistinct
  rw [stated] at agrees
  exact ⟨_, loads, agrees⟩

end Catalog

/-- A document lists a catalog: it has each declared type once, with the parent
recorded for it, and in ascending order. -/
structure CatalogDocument.Lists (document : CatalogDocument) (catalog : Catalog) : Prop where
  ascending : Ascending document.markers
  once : ∀ marker, (document.markers.map MarkerDeclaration.name).count marker =
    (catalog.contains marker).toNat
  parents : ∀ declaration ∈ document.markers,
    declaration.refines = catalog.parent? declaration.name

namespace Catalog

theorem WellFormed.lists_toDocument {catalog : Catalog} (wellFormed : catalog.WellFormed) :
    catalog.toDocument.Lists catalog where
  ascending := ascending_toDocument wellFormed.distinct
  once marker := by
    have permutes := catalog.toDocument_perm.map MarkerDeclaration.name
    rw [map_name_declarations] at permutes
    rw [permutes.count_eq, wellFormed.distinct.count]
    by_cases declared : catalog.contains marker = true
    · rw [if_pos (contains_iff_mem_keys.mp declared), declared, Bool.toNat_true]
    · rw [if_neg (mt contains_iff_mem_keys.mpr declared), Bool.eq_false_iff.mpr declared,
        Bool.toNat_false]
  parents _ member := ((mem_toDocument_iff wellFormed.distinct).mp member).2.symm

/-- Catalogs and documents are inverse to each other up to the order of
declarations.  The document of a catalog depends on its types and parents alone. -/
theorem toDocument_inverse :
    (∀ catalog : Catalog, catalog.Reachable →
      catalog.toDocument.Lists catalog ∧
      (∀ entries, entries.Perm catalog.entries →
        (Catalog.mk entries).toDocument = catalog.toDocument) ∧
      (∀ other : Catalog, other.Reachable →
        (∀ marker, other.contains marker = catalog.contains marker) →
        (∀ marker, other.parent? marker = catalog.parent? marker) →
          other.toDocument = catalog.toDocument) ∧
      ∃ loaded, ofDocument? catalog.toDocument = .ok loaded ∧ loaded.Agrees catalog) ∧
    ∀ document catalog, ofDocument? document = .ok catalog →
      catalog.toDocument.markers.Perm document.markers ∧
        Ascending catalog.toDocument.markers := by
  constructor
  · intro catalog reachable
    have wellFormed := reachable.wellFormed
    have distinct := wellFormed.distinct
    refine ⟨wellFormed.lists_toDocument, fun entries permutes => ?_,
      fun other otherReachable contains parents => ?_, wellFormed.ofDocument?_toDocument⟩
    · have declarationsPermute : (Catalog.mk entries).declarations.Perm catalog.declarations :=
        permutes.map _
      have agrees := agrees_stating_of_perm declarationsPermute
        ((map_name_declarations catalog).symm ▸ distinct)
      rw [stating_declarations, stating_declarations] at agrees
      exact toDocument_congr distinct ((permutes.map Prod.fst).nodup_iff.mpr distinct)
        (fun marker => (agrees.contains marker).symm) fun marker => (agrees.parent? marker).symm
    · exact toDocument_congr distinct otherReachable.wellFormed.distinct contains parents
  · intro document catalog loads
    rcases ofDocument?_eq_ok_iff.mp loads with ⟨rfl, wellFormed⟩
    have permutes := toDocument_perm (stating document.markers)
    rw [declarations_stating] at permutes
    exact ⟨permutes, ascending_toDocument wellFormed.distinct⟩

theorem toDocument_inverse_tracing :
    tracing.Reachable ∧
    tracing.toDocument.Lists tracing ∧
    ∃ loaded, ofDocument? tracing.toDocument = .ok loaded ∧ loaded.Agrees tracing ∧
      loaded.toDocument.markers.Perm tracing.toDocument.markers := by
  rcases toDocument_inverse.1 tracing tracing_reachable with ⟨lists, _, _, loaded, loads, agrees⟩
  exact ⟨tracing_reachable, lists, loaded, loads, agrees, (toDocument_inverse.2 _ _ loads).1⟩

end Catalog

end MarkedTree
