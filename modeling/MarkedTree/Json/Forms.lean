import MarkedTree.Declaration
import MarkedTree.Expr
import MarkedTree.Json.Reader
import MarkedTree.Json.Record
import MarkedTree.Marker

/-!
# The JSON forms of the library

Positions, spans, kinds of declaration and catalog documents as they stand in JSON.
Which fields there are, what they are called and which keys are refused is up to this
library; how such a record is read and written is not (`Json.Record`).  Positions and
spans pass over keys that they do not know.
-/

namespace MarkedTree

namespace Position

def format : Json.Record (Option UInt32 × Option UInt32) Position where
  name := "LineCol"
  fields := [
    Json.Record.field "line" Prod.fst (fun draft line => (some line, draft.2)) Json.word32,
    Json.Record.field "column" Prod.snd (fun draft column => (draft.1, some column)) Json.word32]
  skipsUnknown := true
  blank := (none, none)
  build draft := do
    let line ← Json.Record.need "line" draft.1
    let column ← Json.Record.need "column" draft.2
    pure ⟨line, column⟩

def write (position : Position) : List Char :=
  Json.writeObject [("line", Json.writeNat position.line.toNat),
    ("column", Json.writeNat position.column.toNat)]

end Position

namespace Span

def format : Json.Record (Option Position × Option Position) Span where
  name := "Span"
  fields := [
    Json.Record.field "start" Prod.fst (fun draft start => (some start, draft.2))
      Position.format.read,
    Json.Record.field "end" Prod.snd (fun draft stop => (draft.1, some stop))
      Position.format.read]
  skipsUnknown := true
  blank := (none, none)
  build draft := do
    let start ← Json.Record.need "start" draft.1
    let stop ← Json.Record.need "end" draft.2
    pure ⟨start, stop⟩

def write (span : Span) : List Char :=
  Json.writeObject [("start", span.start.write), ("end", span.stop.write)]

end Span

namespace NodeKind

def read : Json.Reader NodeKind :=
  Json.variant (all.map fun kind => (kind.text, kind))

def write (kind : NodeKind) : List Char := Json.writeString kind.text

end NodeKind

/-!
## Catalog documents

A document declares marker types in any order.  Its JSON form is a record of
declarations; both kinds of record refuse keys that they do not know.  A
document says nothing yet about whether its declarations make sense together.
-/

/-- The declaration of a marker type, and the broader type that it refines. -/
structure MarkerDeclaration where
  name : MarkerType
  refines : Option MarkerType := none
deriving DecidableEq, Repr

/-- Declarations in the order in which they are written. -/
structure CatalogDocument where
  markers : List MarkerDeclaration := []
deriving DecidableEq, Repr

namespace MarkerType

def read : Json.Reader MarkerType := fun text => do
  let (name, text) ← Json.string text
  pure (⟨name⟩, text)

def write (type : MarkerType) : List Char := Json.writeString type.name

end MarkerType

namespace MarkerDeclaration

/-- The form of a declaration.  A missing parent is the same as `null`. -/
def format : Json.Record (Option MarkerType × Option (Option MarkerType)) MarkerDeclaration where
  name := "MarkerDecl"
  fields := [
    Json.Record.field "name" Prod.fst (fun draft name => (some name, draft.2)) MarkerType.read,
    Json.Record.field "refines" Prod.snd (fun draft parent => (draft.1, some parent))
      (Json.optional MarkerType.read)]
  skipsUnknown := false
  blank := (none, none)
  build draft := do
    let name ← Json.Record.need "name" draft.1
    pure ⟨name, draft.2.join⟩

/-- Writes a declaration as an object; without a parent it has one key only. -/
def write (declaration : MarkerDeclaration) : List Char :=
  Json.writeObject (("name", declaration.name.write) ::
    match declaration.refines with
    | none => []
    | some parent => [("refines", parent.write)])

end MarkerDeclaration

namespace CatalogDocument

/-- The form of a document.  Without the key there are no declarations. -/
def format : Json.Record (Option (List MarkerDeclaration)) CatalogDocument where
  name := "CatalogDocument"
  fields := [Json.Record.field "markers" id (fun _ markers => some markers)
    (Json.sequence MarkerDeclaration.format.read)]
  skipsUnknown := false
  blank := none
  build draft := .ok ⟨draft.getD []⟩

def write (document : CatalogDocument) : List Char :=
  Json.writeObject [("markers", Json.writeSequence (document.markers.map MarkerDeclaration.write))]

def text (document : CatalogDocument) : String := String.ofList document.write

def ofText? (text : String) : Except Json.Fault CatalogDocument :=
  Json.decode format.read text

end CatalogDocument

end MarkedTree
