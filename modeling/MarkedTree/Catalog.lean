import MarkedTree.Edited
import MarkedTree.Json.Forms
import MarkedTree.Json.Reader
import MarkedTree.Marker

/-!
# Catalogs of marker types

A catalog records the declared marker types and, for each refinement, the
broader type that it refines directly.  Following these parents from a type
gives its lineage, and a type refines every member of its lineage.

Declaring one type at a time keeps the parents free of cycles, since a parent
has to be declared before.  The order of a document is free, so that its parents
have to be checked for cycles as a whole.
-/

namespace MarkedTree

/-- Why a declaration or a document was refused. -/
inductive CatalogError
  | blankName
  | duplicate (marker : MarkerType)
  | unknownParent (marker parent : MarkerType)
  | cycle (marker : MarkerType)
  | unreadable (fault : Json.Fault)
deriving DecidableEq, Repr

namespace CatalogError

/-- The message of an error.  Where a text is not JSON there is no more to say
than that the document is malformed. -/
def text : CatalogError → String
  | .blankName => "marker type names must not be blank"
  | .duplicate marker => "marker type `" ++ marker.name ++ "` is already declared"
  | .unknownParent marker parent =>
      "marker type `" ++ marker.name ++ "` refines undeclared marker type `" ++ parent.name ++ "`"
  | .cycle marker => "marker type `" ++ marker.name ++ "` is part of a refinement cycle"
  | .unreadable (.mismatch problem) => "malformed marker catalog: " ++ problem.text
  | .unreadable _ => "malformed marker catalog"

end CatalogError

/-- Declared marker types with the types they refine, in order of declaration.
The first entry of a type counts. -/
structure Catalog where
  entries : List (MarkerType × Option MarkerType) := []
deriving DecidableEq, Repr, Inhabited

namespace Catalog

def keys (catalog : Catalog) : List MarkerType := catalog.entries.map Prod.fst

def contains (catalog : Catalog) (marker : MarkerType) : Bool := catalog.keys.contains marker

/-- The type that a marker type refines directly, if it is declared as a
refinement. -/
def parent? (catalog : Catalog) (marker : MarkerType) : Option MarkerType :=
  (catalog.entries.lookup marker).join

def size (catalog : Catalog) : Nat := catalog.entries.length

def isEmpty (catalog : Catalog) : Bool := catalog.entries.isEmpty

theorem mem_keys_of_parent? {catalog : Catalog} {marker parent : MarkerType}
    (recorded : catalog.parent? marker = some parent) : marker ∈ catalog.keys := by
  obtain ⟨entries⟩ := catalog
  simp only [parent?, keys] at *
  induction entries with
  | nil => cases recorded
  | cons entry rest hypothesis =>
      rw [List.lookup_cons] at recorded
      split at recorded
      · rename_i same
        simp [beq_iff_eq.mp same]
      · exact List.mem_cons_of_mem _ (hypothesis recorded)

/-- The declared types that a path has not come to. -/
def ahead (catalog : Catalog) (path : List MarkerType) : Nat :=
  catalog.keys.countP fun key => !path.contains key

theorem countP_cons_le (path : List MarkerType) (marker : MarkerType)
    (keys : List MarkerType) :
    (keys.countP fun key => !(marker :: path).contains key) ≤
      keys.countP fun key => !path.contains key := by
  apply List.countP_mono_left
  intro key _ notSeen
  simp_all

/-- A path that goes on from a declared type has fewer types ahead. -/
theorem ahead_cons_lt {catalog : Catalog} {path : List MarkerType} {marker : MarkerType}
    (declared : marker ∈ catalog.keys) (fresh : ¬ path.contains marker = true) :
    catalog.ahead (marker :: path) < catalog.ahead path := by
  simp only [ahead]
  generalize catalog.keys = keys at declared
  induction keys with
  | nil => cases declared
  | cons key rest hypothesis =>
      have fewer := countP_cons_le path marker rest
      rcases List.mem_cons.mp declared with rfl | inRest
      · rw [List.countP_cons_of_neg (by simp), List.countP_cons_of_pos (by simpa using fresh)]
        omega
      · have smaller := hypothesis inRest
        have step : (if (!(marker :: path).contains key) = true then 1 else 0) ≤
            if (!path.contains key) = true then 1 else 0 := by
          split <;> simp_all
        simp only [List.countP_cons]
        omega

/-- A type and the types above it that are not on the path, as far as the
parents lead. -/
def climb (catalog : Catalog) (path : List MarkerType) (marker : MarkerType) : List MarkerType :=
  if path.contains marker then []
  else
    marker ::
      match _ : catalog.parent? marker with
      | none => []
      | some parent => climb catalog (marker :: path) parent
termination_by catalog.ahead path
decreasing_by exact ahead_cons_lt (mem_keys_of_parent? ‹_›) ‹_›

/-- A type, its parent, the parent of that, and so on.  An undeclared type has
a lineage of its own alone.  Parents that led back to an earlier type would not
be followed again; in a catalog that was built by declarations they never do. -/
def lineage (catalog : Catalog) (marker : MarkerType) : List MarkerType :=
  catalog.climb [] marker

/-- Whether a type is the other one or refines it, directly or not. -/
def refines (catalog : Catalog) (marker ancestor : MarkerType) : Bool :=
  (catalog.lineage marker).contains ancestor

/-- The entries with the type recorded; an entry of that type is replaced. -/
def insertEntry (marker : MarkerType) (parent : Option MarkerType) :
    List (MarkerType × Option MarkerType) → List (MarkerType × Option MarkerType)
  | [] => [(marker, parent)]
  | entry :: rest =>
      if entry.1 = marker then (marker, parent) :: rest
      else entry :: insertEntry marker parent rest

def insert (catalog : Catalog) (marker : MarkerType) (parent : Option MarkerType) : Catalog :=
  ⟨insertEntry marker parent catalog.entries⟩

/-- Refuses a name that cannot be declared: one that is blank or taken. -/
def checkNew (catalog : Catalog) (marker : MarkerType) : Except CatalogError Unit :=
  if marker.isBlank then .error .blankName
  else if catalog.contains marker then .error (.duplicate marker)
  else .ok ()

/-- Declares a type that refines nothing.  Like every declaration that is refused, one
of a name that cannot be declared leaves the catalog as it was. -/
def declare (catalog : Catalog) (marker : MarkerType) : Edited CatalogError Catalog :=
  match catalog.checkNew marker with
  | .error problem => ⟨catalog, some problem⟩
  | .ok () => ⟨catalog.insert marker none, none⟩

def declareRefinement (catalog : Catalog) (marker parent : MarkerType) :
    Edited CatalogError Catalog :=
  match catalog.checkNew marker with
  | .error problem => ⟨catalog, some problem⟩
  | .ok () =>
      if catalog.contains parent then ⟨catalog.insert marker (some parent), none⟩
      else ⟨catalog, some (.unknownParent marker parent)⟩

/-!
## Loading catalogs from documents

The declarations of a document come in any order.  Loading first takes all
names, then the parents, and then looks for a cycle of parents; what is wrong
with the names is reported before what is wrong with the parents, and both
before a cycle.
-/

/-- Follows the parents of a type until it comes to a type that is verified or
has no parent.  The result is the path taken, newest first; coming back to the
path is an error that names the type come back to. -/
def follow (catalog : Catalog) (verified path : List MarkerType) (marker : MarkerType) :
    Except CatalogError (List MarkerType) :=
  if verified.contains marker then .ok path
  else if path.contains marker then .error (.cycle marker)
  else
    match _ : catalog.parent? marker with
    | none => .ok (marker :: path)
    | some parent => follow catalog verified (marker :: path) parent
termination_by catalog.ahead path
decreasing_by exact ahead_cons_lt (mem_keys_of_parent? ‹_›) ‹_›

/-- Follows the parents of each type in turn.  The types of a path that came to
an end are verified from then on. -/
def verify (catalog : Catalog) (verified : List MarkerType) :
    List MarkerType → Except CatalogError Unit
  | [] => .ok ()
  | start :: rest => do
      let path ← catalog.follow verified [] start
      verify catalog (path ++ verified) rest

/-- Refuses a catalog in which following parents leads from a type back to
itself. -/
def ensureAcyclic (catalog : Catalog) : Except CatalogError Unit :=
  catalog.verify [] catalog.keys

/-- Declares the names of a document, all of them without a parent. -/
def takeNames (catalog : Catalog) : List MarkerDeclaration → Except CatalogError Catalog
  | [] => .ok catalog
  | declaration :: rest => do
      catalog.checkNew declaration.name
      takeNames (catalog.insert declaration.name none) rest

/-- Records the parents that a document states. -/
def takeParents (catalog : Catalog) : List MarkerDeclaration → Except CatalogError Catalog
  | [] => .ok catalog
  | declaration :: rest =>
      match declaration.refines with
      | none => takeParents catalog rest
      | some parent =>
          if catalog.contains parent then
            takeParents (catalog.insert declaration.name (some parent)) rest
          else .error (.unknownParent declaration.name parent)

/-- The catalog that a document declares. -/
def ofDocument? (document : CatalogDocument) : Except CatalogError Catalog := do
  let catalog ← takeNames {} document.markers
  let catalog ← catalog.takeParents document.markers
  catalog.ensureAcyclic
  pure catalog

def ofText? (text : String) : Except CatalogError Catalog :=
  match CatalogDocument.ofText? text with
  | .ok document => ofDocument? document
  | .error fault => .error (.unreadable fault)

/-- The document that declares the types of a catalog, in ascending order of
name by code point. -/
def toDocument (catalog : Catalog) : CatalogDocument where
  markers :=
    (catalog.entries.map fun entry => ⟨entry.1, entry.2⟩).mergeSort fun first second =>
      decide (first.name.name ≤ second.name.name)

end Catalog

end MarkedTree
