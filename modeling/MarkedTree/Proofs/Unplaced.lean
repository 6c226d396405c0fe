import Mathlib.Data.List.Forall2
import MarkedTree.Declaration
import MarkedTree.Expr
import MarkedTree.Proofs.Edited.Slots
import MarkedTree.Proofs.Expr.Path

/-!
# Expressions without their places

Two readings of one program agree in all but spans.  `unplaced` takes all spans out of a
tree, so that expressions are alike in this sense if what is left of them is the same.
Along the recursion of a tree this is to have the same shape and children that are alike
one by one (`alike_iff`).
-/

namespace MarkedTree

/-- Items have the same images one by one if the lists of their images are the same. -/
theorem forall₂_same_image_iff {α β : Type} (f : α → β) {items others : List α} :
    List.Forall₂ (fun item other => f item = f other) items others ↔
      items.map f = others.map f := by
  rw [← List.forall₂_eq_eq_eq, List.forall₂_map_left_iff, List.forall₂_map_right_iff]

namespace Expr

def withoutSpan : Expr → Expr
  | .constant value _ => .constant value
  | .var name _ => .var name
  | .call receiver method arguments _ => .call receiver method arguments
  | .property object name _ => .property object name
  | .binary op left right _ => .binary op left right
  | .not operand _ => .not operand
  | .ternary condition thenValue elseValue _ => .ternary condition thenValue elseValue
  | .list elements _ => .list elements
  | .map entries _ => .map entries
  | .cast typeName operand _ => .cast typeName operand

/-- The same tree without any spans. -/
def unplaced (expr : Expr) : Expr :=
  (expr.withChildren (expr.children.attach.map fun child => unplaced child.1)).withoutSpan
termination_by expr
decreasing_by exact sizeOf_lt_of_mem_children child.2

theorem unplaced_eq (expr : Expr) :
    expr.unplaced = (expr.withChildren (expr.children.map unplaced)).withoutSpan := by
  rw [unplaced]
  simp only [List.map_subtype, List.unattach_attach]

@[simp] theorem shape_withoutSpan (expr : Expr) : expr.withoutSpan.shape = expr.shape := by
  cases expr <;> rfl

@[simp] theorem children_withoutSpan (expr : Expr) :
    expr.withoutSpan.children = expr.children := by
  cases expr <;> rfl

@[simp] theorem span_withoutSpan (expr : Expr) : expr.withoutSpan.span = none := by
  cases expr <;> rfl

@[simp] theorem shape_unplaced (expr : Expr) : expr.unplaced.shape = expr.shape := by
  rw [unplaced_eq, shape_withoutSpan, shape_withChildren (List.length_map _)]

@[simp] theorem children_unplaced (expr : Expr) :
    expr.unplaced.children = expr.children.map unplaced := by
  rw [unplaced_eq, children_withoutSpan, children_withChildren (List.length_map _)]

@[simp] theorem span_unplaced (expr : Expr) : expr.unplaced.span = none := by
  rw [unplaced_eq, span_withoutSpan]

/-- No node of the tree keeps its span. -/
theorem span_of_mem_walk_unplaced (expr : Expr) : ∀ node ∈ expr.unplaced.walk,
    node.span = none := by
  induction expr using childrenInduction with
  | node expr hypothesis =>
      rw [walk_eq, List.forall_mem_cons, children_unplaced]
      refine ⟨span_unplaced expr, fun node member => ?_⟩
      rcases List.mem_flatMap.mp member with ⟨image, isImage, inside⟩
      rcases List.mem_map.mp isImage with ⟨child, isChild, rfl⟩
      exact hypothesis child isChild node inside

/-- The expressions are the same but for spans. -/
def Alike (first second : Expr) : Prop := first.unplaced = second.unplaced

theorem forall₂_alike_iff {exprs others : List Expr} :
    List.Forall₂ Alike exprs others ↔ exprs.map unplaced = others.map unplaced :=
  forall₂_same_image_iff unplaced

theorem rel_alike_iff {value other : Option Expr} :
    Option.Rel Alike value other ↔ value.map unplaced = other.map unplaced := by
  constructor
  · rintro (alike | _)
    · exact congrArg some alike
    · rfl
  · intro same
    cases value <;> cases other
    case none.none => exact .none
    case some.some => exact .some (Option.some.inj same)
    case none.some | some.none => cases same

/-- Nodes are alike if their shapes are the same and their children are alike. -/
theorem alike_iff {first second : Expr} :
    first.Alike second ↔
      first.shape = second.shape ∧ List.Forall₂ Alike first.children second.children := by
  rw [forall₂_alike_iff]
  constructor
  · intro alike
    have same : first.unplaced = second.unplaced := alike
    constructor
    · rw [← first.shape_unplaced, same, shape_unplaced]
    · rw [← first.children_unplaced, same, children_unplaced]
  · rintro ⟨sameShape, sameChildren⟩
    apply ext_children
    · rw [shape_unplaced, shape_unplaced, sameShape]
    · rw [span_unplaced, span_unplaced]
    · rw [children_unplaced, children_unplaced, sameChildren]

theorem Alike.kind {first second : Expr} (alike : first.Alike second) :
    first.kind = second.kind := by
  rw [← kind_shape, (alike_iff.mp alike).1, kind_shape]

/-- Nodes that are alike are so after a rebuild from children that are alike. -/
theorem Alike.withChildren {first second : Expr} {items others : List Expr}
    (alike : first.Alike second) (fits : items.length = first.children.length)
    (itemsAlike : List.Forall₂ Alike items others) :
    (first.withChildren items).Alike (second.withChildren others) := by
  rcases alike_iff.mp alike with ⟨sameShape, childrenAlike⟩
  have otherFits : others.length = second.children.length := by
    rw [← itemsAlike.length_eq, fits, childrenAlike.length_eq]
  apply alike_iff.mpr
  rw [shape_withChildren fits, shape_withChildren otherFits, children_withChildren fits,
    children_withChildren otherFits]
  exact ⟨sameShape, itemsAlike⟩

end Expr

/-!
## A block is its outline and its slots

The outline of a block tells how many slots each part of it has, so the slots can be put
back one after the other (`Block.refill_outline`), and two blocks of one outline are the
same if their slots are (`Block.ext_slots`).  What changes slots only may therefore be
defined by an edit that never fails, and is known by what it does with the list of slots.
-/

/-- The first of some expressions in place of the one that is there, if any, and the
expressions that are left over. -/
def Expr.refillOption : Option Expr → List Expr → Option Expr × List Expr
  | none, slots => (none, slots)
  | some _, slots => (some (slots.headD .blank), slots.tail)

mutual

/-- The statement with the first of some expressions in its slots, and the expressions that
are left over.  There should be as many as it has slots. -/
def Stmt.refill : Stmt → List Expr → Stmt × List Expr
  | .evaluate _, slots => (.evaluate (slots.headD .blank), slots.tail)
  | .declare name initial, slots => (Expr.refillOption initial slots).map (.declare name) id
  | .result value, slots => (Expr.refillOption value slots).map .result id
  | .branch _ thenBody none, slots =>
      (Block.refill thenBody slots.tail).map (.branch (slots.headD .blank) · none) id
  | .branch _ thenBody (some elseBody), slots =>
      let inThen := Block.refill thenBody slots.tail
      (Block.refill elseBody inThen.2).map
        (fun body => .branch (slots.headD .blank) inThen.1 (some body)) id
  | .block body, slots => (Block.refill body slots).map .block id

/-- The statements in turn, each with what is left over by those before it. -/
def Block.refill : List Stmt → List Expr → List Stmt × List Expr
  | [], slots => ([], slots)
  | stmt :: rest, slots =>
      let first := stmt.refill slots
      (Block.refill rest first.2).map (first.1 :: ·) id

end

theorem Expr.refillOption_outline (value : Option Expr) (more : List Expr) :
    refillOption (value.map fun _ => blank) (value.toList ++ more) = (value, more) := by
  cases value <;> rfl

mutual

theorem Stmt.refill_outline : ∀ (stmt : Stmt) (more : List Expr),
    stmt.outline.refill (stmt.slots ++ more) = (stmt, more)
  | .evaluate value, more => by
      rw [Stmt.outline, Stmt.slots, Stmt.refill]
      rfl
  | .declare name initial, more => by
      rw [Stmt.outline, Stmt.slots, Stmt.refill, Expr.refillOption_outline]
      rfl
  | .result value, more => by
      rw [Stmt.outline, Stmt.slots, Stmt.refill, Expr.refillOption_outline]
      rfl
  | .branch condition thenBody none, more => by
      rw [Stmt.outline, Stmt.slots, Stmt.refill, List.cons_append, List.append_nil, List.tail_cons,
        Block.refill_outline]
      rfl
  | .branch condition thenBody (some elseBody), more => by
      rw [Stmt.outline, Stmt.slots, Stmt.refill, List.cons_append, List.append_assoc,
        List.tail_cons, Block.refill_outline, Block.refill_outline]
      rfl
  | .block body, more => by
      rw [Stmt.outline, Stmt.slots, Stmt.refill, Block.refill_outline]
      rfl

theorem Block.refill_outline : ∀ (block : List Stmt) (more : List Expr),
    Block.refill (Block.outline block) (Block.slots block ++ more) = (block, more)
  | [], more => by
      rw [Block.outline, Block.slots, Block.refill, List.nil_append]
  | stmt :: rest, more => by
      rw [Block.outline, Block.slots, Block.refill, List.append_assoc, Stmt.refill_outline,
        Block.refill_outline]
      rfl

end

/-- Blocks of one outline are the same if they have the same slots. -/
theorem Block.ext_slots {first second : Block}
    (sameOutline : Block.outline first = Block.outline second)
    (sameSlots : Block.slots first = Block.slots second) : first = second := by
  have refilled := Block.refill_outline first []
  rw [sameOutline, sameSlots, Block.refill_outline] at refilled
  exact (congrArg Prod.fst refilled).symm

theorem Block.length_outline (block : Block) : (Block.outline block).length = block.length := by
  induction block with
  | nil => rw [Block.outline]
  | cons stmt rest hypothesis => rw [Block.outline, List.length_cons, hypothesis, List.length_cons]

/-- The block with `f` applied to each slot, which is what an edit leaves that does just
this and never fails. -/
def Block.mapSlots (f : Expr → Expr) (block : Block) : Block :=
  (Block.editSlots (fun slot => (pure ⟨f slot, none⟩ : Id (Edited Empty Expr))) block).run.value

private theorem outline_slots_mapSlots (f : Expr → Expr) (block : Block) :
    (Block.outline (block.mapSlots f), Block.slots (block.mapSlots f)) =
      (Block.outline block, (Block.slots block).map f) := by
  have edits := Block.editSlots_editsSlots
    (fun slot => (pure ⟨f slot, none⟩ : Id (Edited Empty Expr))) block
  rw [Edited.EditsSlots, Edited.list_pure, map_pure] at edits
  exact congrArg (fun work => (Id.run work).value) edits

@[simp] theorem Block.outline_mapSlots (f : Expr → Expr) (block : Block) :
    Block.outline (block.mapSlots f) = Block.outline block :=
  congrArg Prod.fst (outline_slots_mapSlots f block)

@[simp] theorem Block.slots_mapSlots (f : Expr → Expr) (block : Block) :
    Block.slots (block.mapSlots f) = (Block.slots block).map f :=
  congrArg Prod.snd (outline_slots_mapSlots f block)

/-- Two blocks are the same after a change of their slots if they have one outline and
their slots are the same after it. -/
theorem Block.mapSlots_eq_mapSlots_iff {f : Expr → Expr} {first second : Block} :
    first.mapSlots f = second.mapSlots f ↔
      Block.outline first = Block.outline second ∧
        (Block.slots first).map f = (Block.slots second).map f := by
  constructor
  · intro same
    constructor
    · rw [← outline_mapSlots f first, same, outline_mapSlots]
    · rw [← slots_mapSlots, same, slots_mapSlots]
  · rintro ⟨sameOutline, sameSlots⟩
    apply Block.ext_slots
    · rw [outline_mapSlots, outline_mapSlots, sameOutline]
    · rw [slots_mapSlots, slots_mapSlots, sameSlots]

/-!
## Blocks and declarations without their places

Spans are taken out of blocks slot by slot, and out of the headers of declarations
together with those of the markers and of what the markers give as values.  A block is
known but for its spans if its outline is known, and its slots are but for theirs.
-/

def Block.unplaced (block : Block) : Block := block.mapSlots Expr.unplaced

def Members.unplaced (members : Members) : Members where
  entries := members.entries.map fun entry => (entry.1, entry.2.unplaced)
  ascending := List.pairwise_map.mpr members.ascending

def Marker.unplaced (marker : Marker) : Marker :=
  { marker with members := marker.members.unplaced, span := none }

def Header.unplaced (header : Header) : Header :=
  { header with markers := header.markers.map Marker.unplaced, span := none }

def Parameter.unplaced (parameter : Parameter) : Parameter where
  toHeader := parameter.toHeader.unplaced
  typeName := parameter.typeName
  defaultValue := parameter.defaultValue.map Expr.unplaced

def Method.unplaced (method : Method) : Method where
  toHeader := method.toHeader.unplaced
  parameters := method.parameters.map Parameter.unplaced
  returnType := method.returnType
  body := Block.unplaced method.body

/-- Blocks are the same but for spans if they have one outline and slots that are alike. -/
theorem Block.unplaced_eq_unplaced_iff {first second : Block} :
    Block.unplaced first = Block.unplaced second ↔
      Block.outline first = Block.outline second ∧
        List.Forall₂ Expr.Alike (Block.slots first) (Block.slots second) := by
  rw [Expr.forall₂_alike_iff]
  exact Block.mapSlots_eq_mapSlots_iff

end MarkedTree
