import MarkedTree.Edited
import MarkedTree.Expr
import MarkedTree.Marker

/-!
# Statements, declarations and elements

A statement owns expressions directly (its slots) and blocks, which own slots
in turn.  `slots` lists them in source order and `editSlots` edits them in that
order; neither looks inside an expression.
-/

namespace MarkedTree

/-- A statement.  A branch without an `elseBody` differs from one whose
`elseBody` is empty. -/
inductive Stmt
  | evaluate (value : Expr)
  | declare (name : String) (initial : Option Expr)
  | result (value : Option Expr)
  | branch (condition : Expr) (thenBody : List Stmt) (elseBody : Option (List Stmt))
  | block (body : List Stmt)
deriving Repr

/-- Statements in source order. -/
abbrev Block := List Stmt

instance : Inhabited Stmt := ⟨.block []⟩

mutual

/-- The expressions a statement owns, in source order: the condition of a
branch comes first, then its two bodies. -/
def Stmt.slots : Stmt → List Expr
  | .evaluate value => [value]
  | .declare _ initial => initial.toList
  | .result value => value.toList
  | .branch condition thenBody elseBody =>
      condition :: (Block.slots thenBody ++
        match elseBody with
        | none => []
        | some body => Block.slots body)
  | .block body => Block.slots body

def Block.slots : List Stmt → List Expr
  | [] => []
  | stmt :: rest => stmt.slots ++ Block.slots rest

end

section

variable {ε : Type} {m : Type → Type} [Monad m]

mutual

/-- Edits the slots of a statement in source order.  All else of the statement
stays, and so do the slots behind the first one that fails. -/
def Stmt.editSlots (edit : Expr → m (Edited ε Expr)) : Stmt → m (Edited ε Stmt)
  | .evaluate value => Edited.map .evaluate <$> edit value
  | .declare name initial => Edited.map (.declare name) <$> Edited.option edit initial
  | .result value => Edited.map .result <$> Edited.option edit value
  | .branch condition thenBody elseBody =>
      Edited.map (fun parts => .branch parts.1 parts.2.1 parts.2.2) <$>
        Edited.both (edit condition)
          (Edited.both (Block.editSlots edit thenBody)
            (match elseBody with
              | none => pure ⟨none, none⟩
              | some body => Edited.map some <$> Block.editSlots edit body)
            elseBody)
          (thenBody, elseBody)
  | .block body => Edited.map .block <$> Block.editSlots edit body

def Block.editSlots (edit : Expr → m (Edited ε Expr)) : List Stmt → m (Edited ε (List Stmt))
  | [] => pure ⟨[], none⟩
  | stmt :: rest =>
      Edited.map (fun pair => pair.1 :: pair.2) <$>
        Edited.both (stmt.editSlots edit) (Block.editSlots edit rest) rest

end

end

/-!
## Declarations

Only declarations carry markers: classes, methods, fields and parameters.  They
share a header with a name, markers and a span.  The kind of a declaration
determines its type, so that what is bound to a kind can be given declarations
of that kind only.
-/

inductive NodeKind
  | «class» | method | field | parameter
deriving DecidableEq, Repr

namespace NodeKind

/-- All kinds, in the order in which messages list them. -/
def all : List NodeKind := [.class, .method, .field, .parameter]

def text : NodeKind → String
  | .class => "class"
  | .method => "method"
  | .field => "field"
  | .parameter => "parameter"

/-- The name of a kind as a constructor, with a capital letter. -/
def capitalized : NodeKind → String
  | .class => "Class"
  | .method => "Method"
  | .field => "Field"
  | .parameter => "Parameter"

/-- The kind of exactly this name. -/
def ofText? (name : String) : Option NodeKind :=
  all.find? fun kind => kind.text == name

/-- The kind of this name, the case of ASCII letters apart.  Other letters have
no case here, and blanks around the name are not dropped. -/
def ofTextIgnoringCase? (name : String) : Option NodeKind :=
  all.find? fun kind => kind.text.toList == name.toList.map Char.toLower

end NodeKind

/-- What every declaration has. -/
structure Header where
  name : String
  markers : List Marker := []
  span : Option Span := none

structure Parameter extends Header where
  typeName : String
  defaultValue : Option Expr := none

structure Method extends Header where
  parameters : List Parameter := []
  returnType : String := "void"
  body : Block := []

structure Field extends Header where
  typeName : String
  initialValue : Option Expr := none

structure Class extends Header where
  fields : List Field := []
  methods : List Method := []

namespace NodeKind

/-- The declarations of a kind. -/
abbrev Node : NodeKind → Type
  | .class => Class
  | .method => Method
  | .field => Field
  | .parameter => Parameter

def header : {kind : NodeKind} → kind.Node → Header
  | .class, node => node.toHeader
  | .method, node => node.toHeader
  | .field, node => node.toHeader
  | .parameter, node => node.toHeader

def withHeader : {kind : NodeKind} → kind.Node → Header → kind.Node
  | .class, node, header => { node with toHeader := header }
  | .method, node, header => { node with toHeader := header }
  | .field, node, header => { node with toHeader := header }
  | .parameter, node, header => { node with toHeader := header }

@[simp] theorem header_withHeader {kind : NodeKind} (node : kind.Node) (header : Header) :
    NodeKind.header (withHeader node header) = header := by
  cases kind <;> rfl

end NodeKind

namespace Header

/-- Whether a marker of exactly this type is present. -/
def hasMarker (header : Header) (type : MarkerType) : Bool :=
  header.markers.any fun marker => marker.type == type

end Header

/-!
## Elements

An element is anything a host may offer to a rule, declaration or not.  What is
wanted from it is asked for by kind, and every other element answers with
nothing.
-/

/-- An element that a host offers to a rule. -/
inductive Element
  | marker (value : Marker)
  | node (kind : NodeKind) (value : kind.Node)
  | stmt (value : Stmt)
  | expr (value : Expr)

namespace Element

/-- The kind of a declaration; other elements cannot carry markers. -/
def annotatedKind? : Element → Option NodeKind
  | .node kind _ => some kind
  | _ => none

def asMarker? : Element → Option Marker
  | .marker value => some value
  | _ => none

/-- The declaration, if the element is one of the wanted kind. -/
def narrow? (wanted : NodeKind) : Element → Option wanted.Node
  | .node kind value => if same : kind = wanted then some (same ▸ value) else none
  | _ => none

@[simp] theorem narrow?_node_self (kind : NodeKind) (node : kind.Node) :
    (Element.node kind node).narrow? kind = some node := by
  simp [narrow?]

end Element

end MarkedTree
