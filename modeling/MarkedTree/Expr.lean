/-!
# Expressions and their places

A position is a line and a column, both counted from zero.  A span is a pair
of positions.  No order between its two ends is required: a span records what
a front end reported, and nothing in this library compares positions.

Expressions are trees with a span at each node.  This module has their nodes, the
direct subexpressions of a node, the walk through a whole tree, calls apart from
other expressions, and labels for messages.
-/

namespace MarkedTree

/-- A line and a column, both counted from zero and both 32-bit words. -/
structure Position where
  line : UInt32
  column : UInt32
deriving DecidableEq, Repr, Inhabited

namespace Position

/-- The line, a colon and the column, in decimal. -/
def text (position : Position) : String :=
  position.line.toNat.repr ++ ":" ++ position.column.toNat.repr

end Position

/-- The region a node or marker was read from: `start` belongs to it and
`stop` is the first position behind it. -/
structure Span where
  start : Position
  stop : Position
deriving DecidableEq, Repr, Inhabited

namespace Span

def onLine (line startColumn stopColumn : UInt32) : Span :=
  ⟨⟨line, startColumn⟩, ⟨line, stopColumn⟩⟩

/-- Both ends, joined by a hyphen. -/
def text (span : Span) : String :=
  span.start.text ++ "-" ++ span.stop.text

end Span

/-!
## Expressions

An expression is one of ten kinds of node.  Each node carries its own data
(a literal, a name, an operator), its direct subexpressions and, if known, the
span it was read from.  Equality of expressions is structural and includes
spans.
-/

/-- The value of a constant.  Integers are 64-bit words with sign. -/
inductive Literal
  | null
  | bool (value : Bool)
  | int (value : Int64)
  | str (value : String)
deriving DecidableEq, Repr, Inhabited

inductive BinaryOp
  | add | sub | mul | eq | ne | lt | and | or
deriving DecidableEq, Repr

namespace BinaryOp

def text : BinaryOp → String
  | add => "+"
  | sub => "-"
  | mul => "*"
  | eq => "=="
  | ne => "!="
  | lt => "<"
  | and => "&&"
  | or => "||"

end BinaryOp

inductive ExprKind
  | constant | var | methodCall | property | binary | not | ternary | list | map | cast
deriving DecidableEq, Repr

namespace ExprKind

def all : List ExprKind :=
  [.constant, .var, .methodCall, .property, .binary, .not, .ternary, .list, .map, .cast]

/-- The name of a kind in reports: lower case, words joined by underscores. -/
def text : ExprKind → String
  | constant => "constant"
  | var => "variable"
  | methodCall => "method_call"
  | property => "property"
  | binary => "binary"
  | not => "not"
  | ternary => "ternary"
  | list => "list"
  | map => "map"
  | cast => "cast"

end ExprKind

/-- An expression tree.  A call without a receiver is a call on the enclosing
object.  The entries of a map are written `key: value`. -/
inductive Expr
  | constant (value : Literal) (span : Option Span := none)
  | var (name : String) (span : Option Span := none)
  | call (receiver : Option Expr) (method : String) (arguments : List Expr)
      (span : Option Span := none)
  | property (object : Expr) (name : String) (span : Option Span := none)
  | binary (op : BinaryOp) (left right : Expr) (span : Option Span := none)
  | not (operand : Expr) (span : Option Span := none)
  | ternary (condition thenValue elseValue : Expr) (span : Option Span := none)
  | list (elements : List Expr) (span : Option Span := none)
  | map (entries : List (Expr × Expr)) (span : Option Span := none)
  | cast (typeName : String) (operand : Expr) (span : Option Span := none)
deriving Repr

namespace Expr

instance : Inhabited Expr := ⟨.constant .null⟩

def kind : Expr → ExprKind
  | .constant .. => .constant
  | .var .. => .var
  | .call .. => .methodCall
  | .property .. => .property
  | .binary .. => .binary
  | .not .. => .not
  | .ternary .. => .ternary
  | .list .. => .list
  | .map .. => .map
  | .cast .. => .cast

def span : Expr → Option Span
  | .constant _ span | .var _ span | .call _ _ _ span | .property _ _ span
  | .binary _ _ _ span | .not _ span | .ternary _ _ _ span | .list _ span
  | .map _ span | .cast _ _ span => span

def withSpan (place : Span) : Expr → Expr
  | .constant value _ => .constant value (some place)
  | .var name _ => .var name (some place)
  | .call receiver method arguments _ => .call receiver method arguments (some place)
  | .property object name _ => .property object name (some place)
  | .binary op left right _ => .binary op left right (some place)
  | .not operand _ => .not operand (some place)
  | .ternary condition thenValue elseValue _ =>
      .ternary condition thenValue elseValue (some place)
  | .list elements _ => .list elements (some place)
  | .map entries _ => .map entries (some place)
  | .cast typeName operand _ => .cast typeName operand (some place)

@[simp] theorem span_withSpan (place : Span) (expr : Expr) :
    (expr.withSpan place).span = some place := by
  cases expr <;> rfl

@[simp] theorem kind_withSpan (place : Span) (expr : Expr) :
    (expr.withSpan place).kind = expr.kind := by
  cases expr <;> rfl

/-!
## Direct subexpressions

`children` lists the direct subexpressions of a node in source order and
`mapChildren` rebuilds a node from them, one effect after the other.  The
second is written for each kind of node on its own; `mapChildren_eq` says that
it is the first followed by a rebuild, so that recursion over trees can be
stated over lists of children.

A node is determined by its shape (all that it holds apart from its span and
its children), its span and its children: `Expr.ext_children`.  Equality of
expressions is decided along this split.
-/

/-- The direct subexpressions in source order.  A call lists its receiver, if
it has one, before its arguments; a map lists each key before its value. -/
def children : Expr → List Expr
  | .constant .. | .var .. => []
  | .call receiver _ arguments _ => receiver.toList ++ arguments
  | .property object _ _ => [object]
  | .binary _ left right _ => [left, right]
  | .not operand _ => [operand]
  | .ternary condition thenValue elseValue _ => [condition, thenValue, elseValue]
  | .list elements _ => elements
  | .map entries _ => entries.flatMap fun entry => [entry.1, entry.2]
  | .cast _ operand _ => [operand]

/-- Consecutive items taken as the key and the value of one entry each. -/
def pairUp : List Expr → List (Expr × Expr)
  | key :: value :: rest => (key, value) :: pairUp rest
  | _ => []

/-- The node with other children.  It is meant for as many children as the
node has; a node of fixed arity ignores a list of another length. -/
def withChildren (expr : Expr) (replacements : List Expr) : Expr :=
  match expr, replacements with
  | .call (some _) method _ span, receiver :: arguments =>
      .call (some receiver) method arguments span
  | .call none method _ span, arguments => .call none method arguments span
  | .property _ name span, [object] => .property object name span
  | .binary op _ _ span, [left, right] => .binary op left right span
  | .not _ span, [operand] => .not operand span
  | .ternary _ _ _ span, [condition, thenValue, elseValue] =>
      .ternary condition thenValue elseValue span
  | .list _ span, elements => .list elements span
  | .map _ span, items => .map (pairUp items) span
  | .cast typeName _ span, [operand] => .cast typeName operand span
  | unchanged, _ => unchanged

/-- Rebuilds a node with each child replaced by what `f` makes of it, in
source order.  A leaf is returned without running `f`; in a monad with
failure the first failure ends the rebuild. -/
def mapChildren {m : Type → Type} [Monad m] (f : Expr → m Expr) : Expr → m Expr
  | .constant value span => pure (.constant value span)
  | .var name span => pure (.var name span)
  | .call receiver method arguments span => do
      let receiver ← receiver.mapM f
      let arguments ← arguments.mapM f
      pure (.call receiver method arguments span)
  | .property object name span => do
      let object ← f object
      pure (.property object name span)
  | .binary op left right span => do
      let left ← f left
      let right ← f right
      pure (.binary op left right span)
  | .not operand span => do
      let operand ← f operand
      pure (.not operand span)
  | .ternary condition thenValue elseValue span => do
      let condition ← f condition
      let thenValue ← f thenValue
      let elseValue ← f elseValue
      pure (.ternary condition thenValue elseValue span)
  | .list elements span => do
      let elements ← elements.mapM f
      pure (.list elements span)
  | .map entries span => do
      let entries ← entries.mapM fun entry => do
        let key ← f entry.1
        let value ← f entry.2
        pure (key, value)
      pure (.map entries span)
  | .cast typeName operand span => do
      let operand ← f operand
      pure (.cast typeName operand span)

private theorem mapM_entries {m : Type → Type} [Monad m] [LawfulMonad m] (f : Expr → m Expr)
    (entries : List (Expr × Expr)) :
    (entries.mapM fun entry => do
      let key ← f entry.1
      Prod.mk key <$> f entry.2) =
    pairUp <$> (entries.flatMap fun entry => [entry.1, entry.2]).mapM f := by
  induction entries with
  | nil => simp [pairUp]
  | cons entry rest hypothesis => simp [hypothesis, pairUp]

/-- Mapping over children is mapping over their list, then rebuilding. -/
theorem mapChildren_eq {m : Type → Type} [Monad m] [LawfulMonad m] (f : Expr → m Expr)
    (expr : Expr) : expr.mapChildren f = expr.withChildren <$> expr.children.mapM f := by
  cases expr with
  | call receiver method arguments span =>
      cases receiver with
      | none =>
          have rebuild : (call none method arguments span).withChildren =
            fun items => call none method items span := rfl
          simp [mapChildren, children, rebuild]
      | some object => simp [mapChildren, children, withChildren]
  | list elements span =>
      have rebuild : (list elements span).withChildren = fun items => list items span := rfl
      simp [mapChildren, children, rebuild]
  | map entries span =>
      have rebuild : (map entries span).withChildren = fun items => map (pairUp items) span := rfl
      simp [mapChildren, children, rebuild, mapM_entries]
  | _ => simp [mapChildren, children, withChildren]

/-- A child is smaller than its parent, which is why recursion over children
ends. -/
theorem sizeOf_lt_of_mem_children {child expr : Expr} (member : child ∈ expr.children) :
    sizeOf child < sizeOf expr := by
  cases expr with
  | constant | var => simp [children] at member
  | call receiver method arguments span =>
      simp only [children, List.mem_append] at member
      rcases member with inReceiver | inArguments
      · cases receiver with
        | none => simp at inReceiver
        | some object =>
            simp only [Option.toList_some, List.mem_singleton] at inReceiver
            subst inReceiver
            simp +arith
      · have smaller := List.sizeOf_lt_of_mem inArguments
        simp +arith
        omega
  | list elements span =>
      have smaller := List.sizeOf_lt_of_mem (show child ∈ elements from member)
      simp +arith
      omega
  | map entries span =>
      simp only [children, List.mem_flatMap] at member
      obtain ⟨entry, inEntries, isPart⟩ := member
      have smaller := List.sizeOf_lt_of_mem inEntries
      obtain ⟨key, value⟩ := entry
      have entrySize : sizeOf (key, value) = 1 + sizeOf key + sizeOf value := rfl
      simp only [List.mem_cons, List.not_mem_nil, or_false] at isPart
      rcases isPart with rfl | rfl <;> simp +arith <;> omega
  | property | not | cast | binary | ternary =>
      simp only [children, List.mem_cons, List.not_mem_nil, or_false] at member
      rcases member with rfl | rfl | rfl <;> simp +arith

/-- To prove a statement of every expression, prove it of a node whose
children all satisfy it. -/
theorem childrenInduction {motive : Expr → Prop}
    (node : ∀ expr, (∀ child ∈ expr.children, motive child) → motive expr) (expr : Expr) :
    motive expr :=
  node expr fun child _ => childrenInduction node child
termination_by expr
decreasing_by exact sizeOf_lt_of_mem_children ‹_›

/-- What a node holds apart from its span and its children. -/
inductive Shape
  | constant (value : Literal)
  | var (name : String)
  | call (hasReceiver : Bool) (method : String) (argumentCount : Nat)
  | property (name : String)
  | binary (op : BinaryOp)
  | not
  | ternary
  | list (elementCount : Nat)
  | map (entryCount : Nat)
  | cast (typeName : String)
deriving DecidableEq, Repr

def shape : Expr → Shape
  | .constant value _ => .constant value
  | .var name _ => .var name
  | .call receiver method arguments _ => .call receiver.isSome method arguments.length
  | .property _ name _ => .property name
  | .binary op _ _ _ => .binary op
  | .not .. => .not
  | .ternary .. => .ternary
  | .list elements _ => .list elements.length
  | .map entries _ => .map entries.length
  | .cast typeName _ _ => .cast typeName

private theorem entries_eq_of_flatMap_eq : ∀ {first second : List (Expr × Expr)},
    (first.flatMap fun entry => [entry.1, entry.2]) =
      (second.flatMap fun entry => [entry.1, entry.2]) → first = second
  | [], [], _ => rfl
  | [], _ :: _, same => by simp at same
  | _ :: _, [], same => by simp at same
  | (_, _) :: _, (_, _) :: _, same => by
      simp only [List.flatMap_cons, List.cons_append, List.nil_append, List.cons.injEq] at same
      obtain ⟨rfl, rfl, rest⟩ := same
      rw [entries_eq_of_flatMap_eq rest]

/-- Two nodes of one shape, one span and one list of children are equal. -/
theorem ext_children {first second : Expr} (sameShape : first.shape = second.shape)
    (sameSpan : first.span = second.span) (sameChildren : first.children = second.children) :
    first = second := by
  cases first <;> cases second <;> simp only [shape, reduceCtorEq] at sameShape <;>
    simp_all [span, children]
  case call.call receiver _ _ _ receiver' _ _ _ =>
    cases receiver <;> cases receiver' <;> simp_all
  case map.map => exact entries_eq_of_flatMap_eq sameChildren

/-- Decides equality of two lists from equality with the items of the first. -/
private def decideLists : (first second : List Expr) →
    ((item : Expr) → item ∈ first → (other : Expr) → Decidable (item = other)) →
    Decidable (first = second)
  | [], [], _ => isTrue rfl
  | [], _ :: _, _ => isFalse (by simp)
  | _ :: _, [], _ => isFalse (by simp)
  | item :: rest, other :: others, decideItem =>
      match decideItem item (by simp) other with
      | isFalse differ => isFalse (by simp [differ])
      | isTrue same =>
          match decideLists rest others fun next member => decideItem next (by simp [member]) with
          | isFalse differ => isFalse (by simp [differ])
          | isTrue sameRest => isTrue (by rw [same, sameRest])

/-- Decides equality by shape, span and children. -/
def decideEq (first second : Expr) : Decidable (first = second) :=
  if own : first.shape = second.shape ∧ first.span = second.span then
    match decideLists first.children second.children fun child _ other => decideEq child other with
    | isTrue same => isTrue (ext_children own.1 own.2 same)
    | isFalse differ => isFalse fun equal => differ (equal ▸ rfl)
  else
    isFalse fun equal => own (equal ▸ ⟨rfl, rfl⟩)
termination_by first
decreasing_by exact sizeOf_lt_of_mem_children ‹_›

instance : DecidableEq Expr := decideEq

/-!
## Visiting a whole tree

`walk` lists every node of a tree: each node before its descendants, and all
that is under one sibling before all that is under the next.
-/

/-- The nodes of a tree in pre-order, the root first. -/
def walk (expr : Expr) : List Expr :=
  expr :: expr.children.attach.flatMap fun child => walk child.1
termination_by expr
decreasing_by exact sizeOf_lt_of_mem_children child.2

/-- A walk is the root followed by the walks of its children. -/
theorem walk_eq (expr : Expr) : expr.walk = expr :: expr.children.flatMap walk := by
  rw [walk]
  simp only [List.flatMap_subtype, List.unattach_attach]

end Expr

/-!
## Method calls

A method call on its own, apart from the other kinds of expression.  It is what
a transform receives that is only ever run on calls; turning it back into an
expression loses nothing.
-/

/-- The parts of a call.  No receiver means a call on the enclosing object. -/
structure MethodCall where
  receiver : Option Expr
  method : String
  arguments : List Expr
  span : Option Span

namespace MethodCall

def toExpr (call : MethodCall) : Expr :=
  .call call.receiver call.method call.arguments call.span

end MethodCall

namespace Expr

/-- The parts of an expression that is a call. -/
def asCall? : Expr → Option MethodCall
  | .call receiver method arguments span => some ⟨receiver, method, arguments, span⟩
  | _ => none

/-- Whether this is a call of the method so named, letter for letter. -/
def isCallTo (method : String) (expr : Expr) : Bool :=
  expr.asCall?.any fun call => call.method == method

theorem asCall?_eq_some {expr : Expr} {call : MethodCall} :
    expr.asCall? = some call ↔ expr = call.toExpr := by
  cases expr <;> cases call <;> simp [asCall?, MethodCall.toExpr]

end Expr

/-!
## Labels

A short name for a node in messages: its kind and what tells it apart from
other nodes of that kind at a glance.
-/

namespace Literal

def label : Literal → String
  | .null => "null"
  | .bool value => "bool:" ++ if value then "true" else "false"
  | .int value => "int:" ++ value.toInt.repr
  | .str value => "str:" ++ value

end Literal

namespace Expr

/-- What tells a node apart from others of its kind: a name, an operator or a
count.  Negations and conditionals have nothing of the sort. -/
def detail : Expr → Option String
  | .constant value _ => some value.label
  | .var name _ => some name
  | .call _ method _ _ => some method
  | .property _ name _ => some name
  | .binary op _ _ _ => some op.text
  | .not .. | .ternary .. => none
  | .list elements _ => some elements.length.repr
  | .map entries _ => some entries.length.repr
  | .cast typeName _ _ => some typeName

/-- The kind of a node, followed by its detail if it has one. -/
def label (expr : Expr) : String :=
  match expr.detail with
  | some detail => expr.kind.text ++ ":" ++ detail
  | none => expr.kind.text

/-- How many nodes of each kind a tree holds.  Kinds that do not occur are left
out. -/
def census (expr : Expr) : List (ExprKind × Nat) :=
  let kinds := expr.walk.map kind
  (ExprKind.all.map fun kind => (kind, kinds.count kind)).filter fun entry => entry.2 != 0

end Expr

end MarkedTree
