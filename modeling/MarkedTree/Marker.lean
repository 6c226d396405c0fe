import MarkedTree.Expr
import MarkedTree.Text

/-!
# Markers

A marker is written on a declaration, like `@Logged(level: "debug")`.  It has a type,
members and, if known, a span.  A marker type is a name that a host declares, such as
`Logged`; two types are the same if their names are, character for character.
-/

namespace MarkedTree

/-- The name of a kind of marker. -/
structure MarkerType where
  name : String
deriving DecidableEq, Repr, Inhabited

namespace MarkerType

/-- A type whose name is blank can be written but never declared. -/
def isBlank (type : MarkerType) : Bool := Text.isBlank type.name

end MarkerType

/-!
## Named values

The members of a marker are values under distinct names.  They are kept in
ascending order of name, by code point, so that members that give every name
the same value are equal however they were supplied.
-/

/-- Values under names, in strictly ascending order of name. -/
structure Members where
  entries : List (String × Expr) := []
  ascending : entries.Pairwise fun first second => first.1 < second.1 := by simp

namespace Members

/-- Puts an entry in its place among entries in ascending order.  An entry of
that name is replaced. -/
def insertEntry (name : String) (value : Expr) : List (String × Expr) → List (String × Expr)
  | [] => [(name, value)]
  | entry :: rest =>
      if name < entry.1 then (name, value) :: entry :: rest
      else if name = entry.1 then (name, value) :: rest
      else entry :: insertEntry name value rest

theorem mem_insertEntry {name : String} {value : Expr} {entry : String × Expr} :
    ∀ {entries : List (String × Expr)}, entry ∈ insertEntry name value entries →
      entry = (name, value) ∨ entry ∈ entries
  | [], member => by simp_all [insertEntry]
  | head :: rest, member => by
      simp only [insertEntry] at member
      split at member
      · simpa using member
      · split at member
        · simp only [List.mem_cons] at member ⊢
          exact member.imp_right .inr
        · simp only [List.mem_cons] at member ⊢
          rcases member with isHead | inRest
          · exact .inr (.inl isHead)
          · exact (mem_insertEntry inRest).imp_right .inr

theorem insertEntry_ascending (name : String) (value : Expr) :
    ∀ {entries : List (String × Expr)},
      (entries.Pairwise fun first second => first.1 < second.1) →
      (insertEntry name value entries).Pairwise fun first second => first.1 < second.1
  | [], _ => by simp [insertEntry]
  | head :: rest, ordered => by
      obtain ⟨headBelow, restOrdered⟩ := List.pairwise_cons.mp ordered
      simp only [insertEntry]
      split
      case isTrue below =>
        refine List.pairwise_cons.mpr ⟨fun entry member => ?_, ordered⟩
        rcases List.mem_cons.mp member with rfl | inRest
        · exact below
        · exact String.lt_trans below (headBelow entry inRest)
      case isFalse notBelow =>
        split
        case isTrue same =>
          exact List.pairwise_cons.mpr ⟨fun entry member => same ▸ headBelow entry member,
            restOrdered⟩
        case isFalse differs =>
          refine List.pairwise_cons.mpr ⟨fun entry member => ?_,
            insertEntry_ascending name value restOrdered⟩
          rcases mem_insertEntry member with rfl | inRest
          · show head.1 < name
            grind
          · exact headBelow entry inRest

/-- Adds a value under a name, in place of any earlier value of that name. -/
def insert (members : Members) (name : String) (value : Expr) : Members where
  entries := insertEntry name value members.entries
  ascending := insertEntry_ascending name value members.ascending

def get? (members : Members) (name : String) : Option Expr :=
  (members.entries.find? fun entry => entry.1 == name).map Prod.snd

end Members

/-- A marker as it stands on a declaration. -/
structure Marker where
  type : MarkerType
  members : Members := {}
  span : Option Span := none

namespace Marker

/-- Supplies a member; the last value supplied under a name counts. -/
def withMember (marker : Marker) (name : String) (value : Expr) : Marker :=
  { marker with members := marker.members.insert name value }

def withSpan (marker : Marker) (place : Span) : Marker :=
  { marker with span := some place }

def member? (marker : Marker) (name : String) : Option Expr :=
  marker.members.get? name

/-- The marker in reports: an at sign and its type. -/
def text (marker : Marker) : String := "@" ++ marker.type.name

end Marker

end MarkedTree
