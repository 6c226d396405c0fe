import MarkedTree.Declaration
import MarkedTree.Proofs.Action.Relation
import MarkedTree.Proofs.Edited.Slots

/-!
# Edits side by side

Two edits of an expression that are related, in whatever monads they work, make
the edits of all slots of a statement, of a block or of a method related.  All
that is used of the relation is that it is a congruence, so what is compared may
be results, states or events.
-/

namespace MarkedTree

namespace Congruence

variable {ε α β : Type} {m n : Type → Type} [Monad m] [Monad n]
  {Related : (α : Type) → m α → n α → Prop}

theorem store (congruence : Congruence Related) (held : α) {replacement : ExceptT ε m α}
    {other : ExceptT ε n α} (related : Related (Except ε α) replacement.run other.run) :
    Related (Edited ε α) (Edited.store held replacement) (Edited.store held other) := by
  refine congruence.inOrder related fun result => ?_
  cases result <;> exact congruence.nothing _

variable [LawfulMonad m] [LawfulMonad n]

theorem both (congruence : Congruence Related) {first : m (Edited ε α)} {other : n (Edited ε α)}
    {second : m (Edited ε β)} {otherSecond : n (Edited ε β)} (untouched : β)
    (related : Related (Edited ε α) first other)
    (relatedToo : Related (Edited ε β) second otherSecond) :
    Related (Edited ε (α × β)) (Edited.both first second untouched)
      (Edited.both other otherSecond untouched) := by
  refine congruence.inOrder related fun left => ?_
  rcases left with ⟨value, _ | failure⟩
  · exact congruence.map (Edited.map (Prod.mk value)) relatedToo
  · exact congruence.nothing _

theorem list (congruence : Congruence Related) {edit : α → m (Edited ε α)}
    {other : α → n (Edited ε α)}
    (each : ∀ item, Related (Edited ε α) (edit item) (other item)) (items : List α) :
    Related (Edited ε (List α)) (Edited.list edit items) (Edited.list other items) := by
  induction items with
  | nil => exact congruence.nothing _
  | cons item rest hypothesis =>
      exact congruence.map _ (congruence.both rest (each item) hypothesis)

theorem option (congruence : Congruence Related) {edit : α → m (Edited ε α)}
    {other : α → n (Edited ε α)}
    (each : ∀ item, Related (Edited ε α) (edit item) (other item)) (item? : Option α) :
    Related (Edited ε (Option α)) (Edited.option edit item?) (Edited.option other item?) := by
  cases item? with
  | none => exact congruence.nothing _
  | some item => exact congruence.map _ (each item)

variable {edit : Expr → m (Edited ε Expr)} {other : Expr → n (Edited ε Expr)}

mutual

theorem stmt (congruence : Congruence Related)
    (each : ∀ slot, Related (Edited ε Expr) (edit slot) (other slot)) : ∀ stmt : Stmt,
    Related (Edited ε Stmt) (stmt.editSlots edit) (stmt.editSlots other)
  | .evaluate value => by
      rw [Stmt.editSlots, Stmt.editSlots]
      exact congruence.map _ (each value)
  | .declare _ initial => by
      rw [Stmt.editSlots, Stmt.editSlots]
      exact congruence.map _ (congruence.option each initial)
  | .result value => by
      rw [Stmt.editSlots, Stmt.editSlots]
      exact congruence.map _ (congruence.option each value)
  | .branch condition thenBody none => by
      unfold Stmt.editSlots
      refine congruence.map _ (congruence.both _ (each condition) ?_)
      exact congruence.both _ (congruence.block each thenBody) (congruence.nothing _)
  | .branch condition thenBody (some elseBody) => by
      unfold Stmt.editSlots
      refine congruence.map _ (congruence.both _ (each condition) ?_)
      exact congruence.both _ (congruence.block each thenBody)
        (congruence.map _ (congruence.block each elseBody))
  | .block body => by
      rw [Stmt.editSlots, Stmt.editSlots]
      exact congruence.map _ (congruence.block each body)

theorem block (congruence : Congruence Related)
    (each : ∀ slot, Related (Edited ε Expr) (edit slot) (other slot)) : ∀ block : Block,
    Related (Edited ε Block) (Block.editSlots edit block) (Block.editSlots other block)
  | [] => by
      rw [Block.editSlots, Block.editSlots]
      exact congruence.nothing _
  | stmt :: rest => by
      rw [Block.editSlots, Block.editSlots]
      exact congruence.map _ (congruence.both _ (congruence.stmt each stmt)
        (congruence.block each rest))

end

end Congruence

/-!
## Edits in parallel

Edits of two values that go in step leave values that are related, and both of them fail
or neither does.  This passes from the parts of a value to the value, from items to lists,
and by `EditsSlots` from slots to whatever is edited slot by slot: then the outlines are
the same afterwards, and the slots are related one by one.
-/

namespace Edited

variable {ρ σ ε α β γ δ : Type}

/-- The edits have left related values, and both failed or neither did. -/
structure Alike (values : α → β → Prop) (edited : Edited ε α) (other : Edited ε β) : Prop where
  value : values edited.value other.value
  failure : edited.failure.isSome = other.failure.isSome

variable {contexts : ρ → σ → Prop} {likeness : Likeness} {values : α → β → Prop}
  {others : γ → δ → Prop}

theorem Alike.map {edited : Edited ε α} {other : Edited ε β} {f : α → γ} {g : β → δ}
    (alike : Alike values edited other)
    (each : ∀ value other, values value other → others (f value) (g other)) :
    Alike others (edited.map f) (other.map g) :=
  ⟨each _ _ alike.value, alike.failure⟩

end Edited

namespace Action.Parallel

open Edited

variable {ρ σ ε α β γ δ : Type} {contexts : ρ → σ → Prop} {likeness : Likeness}
  {values : α → β → Prop} {others : γ → δ → Prop}

theorem edited {first : Action ρ (Edited ε α)} {second : Action σ (Edited ε β)} {f : α → γ}
    {g : β → δ} (parallel : Parallel contexts likeness (Alike values) first second)
    (each : ∀ value other, values value other → others (f value) (g other)) :
    Parallel contexts likeness (Alike others) (Edited.map f <$> first) (Edited.map g <$> second) :=
  parallel.map fun _ _ alike => alike.map each

theorem store {held : α} {otherHeld : β} {replacement : ExceptT ε (Action ρ) α}
    {other : ExceptT ε (Action σ) β} (related : values held otherHeld)
    (parallel : Parallel contexts likeness (SameEnding values) replacement.run other.run) :
    Parallel contexts likeness (Alike values) (Edited.store held replacement)
      (Edited.store otherHeld other) := by
  refine parallel.inOrder fun result otherResult same => ?_
  cases same with
  | ok relatedToo => exact nothing ⟨relatedToo, rfl⟩
  | error failure other => exact nothing ⟨related, rfl⟩

theorem both {first : Action ρ (Edited ε α)} {second : Action ρ (Edited ε γ)}
    {otherFirst : Action σ (Edited ε β)} {otherSecond : Action σ (Edited ε δ)} {untouched : γ}
    {otherUntouched : δ} (parallel : Parallel contexts likeness (Alike values) first otherFirst)
    (parallelToo : Parallel contexts likeness (Alike others) second otherSecond)
    (related : others untouched otherUntouched) :
    Parallel contexts likeness
      (Alike fun pair otherPair => values pair.1 otherPair.1 ∧ others pair.2 otherPair.2)
      (Edited.both first second untouched) (Edited.both otherFirst otherSecond otherUntouched) := by
  refine parallel.inOrder fun left otherLeft alike => ?_
  rcases left with ⟨value, _ | failure⟩ <;> rcases otherLeft with ⟨otherValue, _ | otherFailure⟩
  case none.none =>
    exact parallelToo.edited fun _ _ relatedToo => ⟨alike.value, relatedToo⟩
  case some.some => exact nothing ⟨⟨alike.value, related⟩, rfl⟩
  case none.some | some.none => cases alike.failure

/-- Items that are related one by one, and whose edits go in step. -/
theorem list {inputs : α → β → Prop} {edit : α → Action ρ (Edited ε α)}
    {other : β → Action σ (Edited ε β)}
    (each : ∀ item otherItem, inputs item otherItem →
      Parallel contexts likeness (Alike inputs) (edit item) (other otherItem))
    {items : List α} {otherItems : List β} (related : List.Forall₂ inputs items otherItems) :
    Parallel contexts likeness (Alike (List.Forall₂ inputs)) (Edited.list edit items)
      (Edited.list other otherItems) := by
  induction related with
  | nil => exact nothing ⟨.nil, rfl⟩
  | cons first rest hypothesis =>
      exact (both (each _ _ first) hypothesis rest).edited fun _ _ parts =>
        .cons parts.1 parts.2

theorem option {inputs : α → β → Prop} {edit : α → Action ρ (Edited ε α)}
    {other : β → Action σ (Edited ε β)}
    (each : ∀ item otherItem, inputs item otherItem →
      Parallel contexts likeness (Alike inputs) (edit item) (other otherItem))
    {item? : Option α} {otherItem? : Option β} (related : Option.Rel inputs item? otherItem?) :
    Parallel contexts likeness (Alike (Option.Rel inputs)) (Edited.option edit item?)
      (Edited.option other otherItem?) := by
  cases related with
  | none => exact nothing ⟨.none, rfl⟩
  | some related => exact (each _ _ related).edited fun _ _ relatedToo => .some relatedToo

/-- Edits slot by slot of two values of one outline, whose slots are related one by one. -/
theorem slotwise {slots : α → List Expr} {outline : α → β} {inputs : Expr → Expr → Prop}
    {edit : Expr → Action ρ (Edited ε Expr)} {other : Expr → Action σ (Edited ε Expr)}
    (each : ∀ slot otherSlot, inputs slot otherSlot →
      Parallel contexts likeness (Alike inputs) (edit slot) (other otherSlot))
    {held otherHeld : α} {work : Action ρ (Edited ε α)} {otherWork : Action σ (Edited ε α)}
    (edits : EditsSlots edit slots outline held work)
    (otherEdits : EditsSlots other slots outline otherHeld otherWork)
    (sameOutline : outline held = outline otherHeld)
    (related : List.Forall₂ inputs (slots held) (slots otherHeld)) :
    Parallel contexts likeness
      (Alike fun left otherLeft =>
        outline left = outline otherLeft ∧ List.Forall₂ inputs (slots left) (slots otherLeft))
      work otherWork := by
  have inLists : Parallel contexts likeness
      (Alike fun (parts otherParts : β × List Expr) =>
        parts.1 = otherParts.1 ∧ List.Forall₂ inputs parts.2 otherParts.2)
      (Edited.map (Prod.mk (outline held)) <$> Edited.list edit (slots held))
      (Edited.map (Prod.mk (outline otherHeld)) <$> Edited.list other (slots otherHeld)) :=
    (list each related).edited fun _ _ slotsRelated => ⟨sameOutline, slotsRelated⟩
  rw [← edits, ← otherEdits] at inLists
  exact inLists.of_map fun _ _ alike => ⟨alike.value, alike.failure⟩

end Action.Parallel

end MarkedTree
