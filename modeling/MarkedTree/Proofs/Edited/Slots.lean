import MarkedTree.Declaration
import MarkedTree.Edited
import MarkedTree.Proofs.Action.Uses

/-!
# Editing the slots of a tree as editing a list

A statement is known when its slots are known and its outline, which is all the
rest: the number, the kinds and the order of statements, the names, and what is
absent.  `EditsSlots` says of an edit of a whole value that it edits the slots
one after the other, as if they stood in a list, and that it keeps the outline.
It is an equation between computations, so nothing is lost that the edits do on
the way or that a failure leaves.  It passes from the parts of a value to the
value, and the main statements are that the edits of statements, blocks and
parameters have this form.
-/

namespace MarkedTree

/-- What stands in the slots of an outline. -/
def Expr.blank : Expr := .constant .null

mutual

/-- The statement with the blank expression in each slot. -/
def Stmt.outline : Stmt → Stmt
  | .evaluate _ => .evaluate .blank
  | .declare name initial => .declare name (initial.map fun _ => .blank)
  | .result value => .result (value.map fun _ => .blank)
  | .branch _ thenBody elseBody =>
      .branch .blank (Block.outline thenBody)
        (match elseBody with
          | none => none
          | some body => some (Block.outline body))
  | .block body => .block (Block.outline body)

def Block.outline : List Stmt → List Stmt
  | [] => []
  | stmt :: rest => stmt.outline :: Block.outline rest

end

def Parameter.slots (parameter : Parameter) : List Expr := parameter.defaultValue.toList

def Parameter.outline (parameter : Parameter) : Parameter :=
  { parameter with defaultValue := parameter.defaultValue.map fun _ => .blank }

/-- The defaults that there are in the order of the parameters, and then the
slots of the body. -/
def Method.slots (method : Method) : List Expr :=
  method.parameters.flatMap Parameter.slots ++ Block.slots method.body

/-- The method with the blank expression in each slot: its header, its return
type, its parameters and the outline of its body. -/
def Method.outline (method : Method) : Method :=
  { method with
    parameters := method.parameters.map Parameter.outline
    body := Block.outline method.body }

namespace Edited

variable {ε α β γ δ : Type} {m : Type → Type} [Monad m]

/-- The work edits the slots of what is held as the list of them would be edited,
and keeps all the rest. -/
def EditsSlots (edit : Expr → m (Edited ε Expr)) (slots : α → List Expr) (outline : α → β)
    (held : α) (work : m (Edited ε α)) : Prop :=
  map (fun left => (outline left, slots left)) <$> work =
    map (Prod.mk (outline held)) <$> list edit (slots held)

namespace EditsSlots

variable [LawfulMonad m] {edit : Expr → m (Edited ε Expr)}

/-- A value made of another one, with the same slots and around its outline. -/
theorem map {slots : α → List Expr} {outline : α → β} {held : α} {work : m (Edited ε α)}
    (edits : EditsSlots edit slots outline held work) {outer : γ → List Expr}
    {outerOutline : γ → δ} (make : α → γ) (around : β → δ)
    (sameSlots : ∀ value, outer (make value) = slots value)
    (sameOutline : ∀ value, outerOutline (make value) = around (outline value)) :
    EditsSlots edit outer outerOutline (make held) (Edited.map make <$> work) := by
  have wrapped := congrArg (Edited.map (Prod.map around id) <$> ·) edits
  simp only [Functor.map_map] at wrapped
  rw [EditsSlots, Functor.map_map, sameSlots, sameOutline]
  refine Eq.trans (congrArg (· <$> work) (funext fun edited => ?_)) wrapped
  simp only [Edited.map, sameSlots, sameOutline]
  rfl

/-- Two values one after the other. -/
theorem both {slots : α → List Expr} {outline : α → β} {held : α} {work : m (Edited ε α)}
    (edits : EditsSlots edit slots outline held work) {otherSlots : γ → List Expr}
    {otherOutline : γ → δ} {other : γ} {otherWork : m (Edited ε γ)}
    (otherEdits : EditsSlots edit otherSlots otherOutline other otherWork) :
    EditsSlots edit (fun pair => slots pair.1 ++ otherSlots pair.2)
      (Prod.map outline otherOutline) (held, other) (Edited.both work otherWork other) := by
  -- Outlines and slots are taken of each part first, where the equations of the parts apply,
  -- and joined behind the two edits.
  let join : (β × List Expr) × (δ × List Expr) → (β × δ) × List Expr := fun parts =>
    ((parts.1.1, parts.2.1), parts.1.2 ++ parts.2.2)
  have split := both_map (fun left => (outline left, slots left))
    (fun left => (otherOutline left, otherSlots left)) work otherWork other
  have splitLists := both_map (Prod.mk (outline held)) (Prod.mk (otherOutline other))
    (list edit (slots held)) (list edit (otherSlots other)) (otherSlots other)
  calc Edited.map (fun left => (Prod.map outline otherOutline left,
          slots left.1 ++ otherSlots left.2)) <$> Edited.both work otherWork other
      = Edited.map join <$> Edited.both
          (Edited.map (fun left => (outline left, slots left)) <$> work)
          (Edited.map (fun left => (otherOutline left, otherSlots left)) <$> otherWork)
          (otherOutline other, otherSlots other) := by
        rw [split, Functor.map_map]
        rfl
    _ = Edited.map join <$> Edited.both
          (Edited.map (Prod.mk (outline held)) <$> list edit (slots held))
          (Edited.map (Prod.mk (otherOutline other)) <$> list edit (otherSlots other))
          (otherOutline other, otherSlots other) := by
        rw [edits, otherEdits]
    _ = Edited.map (Prod.mk (outline held, otherOutline other)) <$>
          list edit (slots held ++ otherSlots other) := by
        rw [splitLists, list_append, Functor.map_map, Functor.map_map]
        rfl

/-- A value without slots is left as it is. -/
theorem nothing {slots : α → List Expr} {outline : α → β} {held : α} (none : slots held = []) :
    EditsSlots edit slots outline held (pure ⟨held, .none⟩) := by
  rw [EditsSlots, none, list, map_pure, map_pure, Edited.map, none]
  rfl

/-- An expression in a slot. -/
theorem slot (held : Expr) : EditsSlots edit (fun value => [value]) (fun _ => Expr.blank) held
    (edit held) := by
  rw [EditsSlots, list_singleton, Functor.map_map]
  rfl

/-- An expression that may be absent. -/
theorem option (held : Option Expr) : EditsSlots edit Option.toList
    (Option.map fun _ => Expr.blank) held (Edited.option edit held) := by
  cases held with
  | none => exact nothing rfl
  | some value => exact (slot value).map some some (fun _ => rfl) (fun _ => rfl)

/-- Values one after the other in a list. -/
theorem list {slots : α → List Expr} {outline : α → β} {editItem : α → m (Edited ε α)}
    (items : List α) (each : ∀ item, EditsSlots edit slots outline item (editItem item)) :
    EditsSlots edit (List.flatMap slots) (List.map outline) items (Edited.list editItem items) := by
  induction items with
  | nil => exact nothing rfl
  | cons item rest hypothesis =>
      exact ((each item).both hypothesis).map (fun pair => pair.1 :: pair.2)
        (fun pair => pair.1 :: pair.2) (fun _ => List.flatMap_cons) (fun _ => rfl)

end EditsSlots

end Edited

section

open Edited

variable {ε : Type} {m : Type → Type} [Monad m] [LawfulMonad m]

mutual

theorem Stmt.editSlots_editsSlots (edit : Expr → m (Edited ε Expr)) : ∀ stmt : Stmt,
    EditsSlots edit Stmt.slots Stmt.outline stmt (stmt.editSlots edit)
  | .evaluate value => by
      rw [Stmt.editSlots]
      exact (EditsSlots.slot value).map Stmt.evaluate Stmt.evaluate
        (fun _ => by rw [Stmt.slots]) (fun _ => by rw [Stmt.outline])
  | .declare name initial => by
      rw [Stmt.editSlots]
      exact (EditsSlots.option initial).map (Stmt.declare name) (Stmt.declare name)
        (fun _ => by rw [Stmt.slots]) (fun _ => by rw [Stmt.outline])
  | .result value => by
      rw [Stmt.editSlots]
      exact (EditsSlots.option value).map Stmt.result Stmt.result
        (fun _ => by rw [Stmt.slots]) (fun _ => by rw [Stmt.outline])
  | .branch condition thenBody elseBody => by
      have elseEdits : EditsSlots edit (fun other => other.elim [] Block.slots)
          (Option.map Block.outline) elseBody
          (match elseBody with
            | none => pure ⟨none, none⟩
            | some body => Edited.map some <$> Block.editSlots edit body) := by
        cases elseBody with
        | none => exact EditsSlots.nothing rfl
        | some body =>
            exact (Block.editSlots_editsSlots edit body).map some some
              (fun _ => rfl) (fun _ => rfl)
      unfold Stmt.editSlots
      refine ((EditsSlots.slot condition).both
        ((Block.editSlots_editsSlots edit thenBody).both elseEdits)).map
        (fun parts => Stmt.branch parts.1 parts.2.1 parts.2.2)
        (fun parts => Stmt.branch parts.1 parts.2.1 parts.2.2) ?_ ?_
      · rintro ⟨_, _, _ | _⟩ <;>
        · rw [Stmt.slots]
          rfl
      · rintro ⟨_, _, _ | _⟩ <;>
        · rw [Stmt.outline]
          rfl
  | .block body => by
      rw [Stmt.editSlots]
      exact (Block.editSlots_editsSlots edit body).map Stmt.block Stmt.block
        (fun _ => by rw [Stmt.slots]) (fun _ => by rw [Stmt.outline])

theorem Block.editSlots_editsSlots (edit : Expr → m (Edited ε Expr)) : ∀ block : List Stmt,
    EditsSlots edit Block.slots Block.outline block (Block.editSlots edit block)
  | [] => by
      rw [Block.editSlots]
      exact EditsSlots.nothing (by rw [Block.slots])
  | stmt :: rest => by
      rw [Block.editSlots]
      exact ((Stmt.editSlots_editsSlots edit stmt).both
        (Block.editSlots_editsSlots edit rest)).map (fun pair => pair.1 :: pair.2)
        (fun pair => pair.1 :: pair.2)
        (fun _ => by rw [Block.slots]) (fun _ => by rw [Block.outline]; rfl)

end

def Parameter.editSlots (edit : Expr → m (Edited ε Expr)) (parameter : Parameter) :
    m (Edited ε Parameter) :=
  Edited.map (fun value => { parameter with defaultValue := value }) <$>
    Edited.option edit parameter.defaultValue

/-- Edits the defaults of the parameters in order, and then the body. -/
def Method.editSlots (edit : Expr → m (Edited ε Expr)) (method : Method) : m (Edited ε Method) :=
  Edited.map (fun parts => { method with parameters := parts.1, body := parts.2 }) <$>
    Edited.both (Edited.list (Parameter.editSlots edit) method.parameters)
      (Block.editSlots edit method.body) method.body

theorem Parameter.editSlots_editsSlots (edit : Expr → m (Edited ε Expr)) (parameter : Parameter) :
    EditsSlots edit Parameter.slots Parameter.outline parameter (parameter.editSlots edit) :=
  (EditsSlots.option parameter.defaultValue).map
    (fun value => { parameter with defaultValue := value })
    (fun value => { parameter with defaultValue := value }) (fun _ => rfl) (fun _ => rfl)

theorem Method.editSlots_editsSlots (edit : Expr → m (Edited ε Expr)) (method : Method) :
    EditsSlots edit Method.slots Method.outline method (method.editSlots edit) :=
  ((EditsSlots.list method.parameters (Parameter.editSlots_editsSlots edit)).both
    (Block.editSlots_editsSlots edit method.body)).map
    (fun parts => { method with parameters := parts.1, body := parts.2 })
    (fun parts => { method with parameters := parts.1, body := parts.2 })
    (fun _ => rfl) (fun _ => rfl)

end

/-!
## Visits of slots

An edit of slots in order calls a function slot by slot and stops after the first call
that fails.  The calls are read off a log that the function keeps (`callsDuring`), so
that they are observed and not defined together with the traversal.  The main statement
is that the slots of statements and blocks are visited in this way: each once, in order,
on what it held, and nothing else.
-/

namespace Edited

variable {σ ε α β : Type}

/-- The calls of an edit on the items of a list in turn.  After one that fails there are no
more. -/
def calls (edit : α → Action σ (Edited ε α)) : σ → List α → List (Use α σ (Edited ε α)) :=
  Action.usesUntil (fun edited => edited.failure.isSome) edit

section

variable {edit : α → Action σ (Edited ε α)} {start : σ} {item : α}

theorem calls_cons_of_success (succeeds : ((edit item).run start).result.failure = none)
    (rest : List α) :
    calls edit start (item :: rest) =
      ⟨item, start, (edit item).run start⟩ ::
        calls edit ((edit item).run start).context rest :=
  Action.usesUntil_cons_of_not_stops (by rw [succeeds, Option.isSome_none]) rest

theorem calls_cons_of_failure {problem : ε}
    (fails : ((edit item).run start).result.failure = some problem) (rest : List α) :
    calls edit start (item :: rest) = [⟨item, start, (edit item).run start⟩] :=
  Action.usesUntil_cons_of_stops (by rw [fails, Option.isSome_some]) rest

end

/-- To edit a list is to make these calls.  The items that are called hold what the edit
left in them, and all others what they held. -/
theorem run_list (edit : α → Action σ (Edited ε α)) (items : List α) (start : σ) :
    let made := calls edit start items
    (list edit items).run start =
      ⟨⟨made.map (fun call => call.reply.result.value) ++ items.drop made.length,
          made.findSome? fun call => call.reply.result.failure⟩,
        Use.end start made, made.flatMap fun call => call.reply.events⟩ := by
  induction items generalizing start with
  | nil => rfl
  | cons item rest hypothesis =>
      cases result : ((edit item).run start).result.failure with
      | some problem =>
          rw [calls_cons_of_failure result]
          simp [list, both, result, map, Use.end]
      | none =>
          rw [calls_cons_of_success result]
          simp [list, both, result, hypothesis, map, Use.end]

/-- Either none of the calls fails and there is one for each item, or the last one fails and
none before it. -/
theorem calls_end (edit : α → Action σ (Edited ε α)) (items : List α) (start : σ) :
    let made := calls edit start items
    let failure? := made.findSome? fun call => call.reply.result.failure
    (failure? = none ∧ made.map Use.input = items ∧
      ∀ call ∈ made, call.reply.result.failure = none) ∨
    ∃ problem earlier last, failure? = some problem ∧ made = earlier ++ [last] ∧
      last.reply.result.failure = some problem ∧
      ∀ call ∈ earlier, call.reply.result.failure = none := by
  intro made failure?
  have none_of_goesOn : ∀ {edited : Edited ε α}, edited.failure.isSome = false →
      edited.failure = none :=
    fun goesOn => Option.isNone_iff_eq_none.mp (Option.isSome_eq_false_iff.mp goesOn)
  rcases Action.usesUntil_cases (fun edited => edited.failure.isSome) edit start items with
    ⟨inputs, goOn⟩ | ⟨earlier, last, divided, stops, goOn⟩
  · have succeeded : ∀ call ∈ made, call.reply.result.failure = none :=
      fun call member => none_of_goesOn (goOn call member)
    exact .inl ⟨List.findSome?_eq_none_iff.mpr succeeded, inputs, succeeded⟩
  · have succeeded : ∀ call ∈ earlier, call.reply.result.failure = none :=
      fun call member => none_of_goesOn (goOn call member)
    rcases Option.isSome_iff_exists.mp stops with ⟨problem, fails⟩
    have isLast : made = earlier ++ [last] := divided
    refine .inr ⟨problem, earlier, last, ?_, isLast, fails, succeeded⟩
    dsimp only [failure?]
    rw [isLast, List.findSome?_append, List.findSome?_eq_none_iff.mpr succeeded]
    simp [fails]

/-- The calls of an edit in a work that keeps a log of them, first to last. -/
def callsDuring (work : Action (σ × List (Use Expr σ (Edited ε Expr))) β) (start : σ) :
    List (Use Expr σ (Edited ε Expr)) :=
  (work.run (start, [])).context.2

/-- What a visit of the slots of a value does with an edit that keeps state and may fail.
The edit is called on the slots from the first one on in their order, each once, on what the
slot held and where the call before it ended.  Either there is a call for each slot and none
fails, or the last call fails and none before it.  A slot for which there was a call holds
what the edit left in it, also if the call failed; the others hold what they held.  All but
the slots is as it was. -/
structure VisitsSlots (edit : Expr → Action σ (Edited ε Expr)) (slots : α → List Expr)
    (outline : α → β) (held : α) (start : σ) (calls : List (Use Expr σ (Edited ε Expr)))
    (reply : Reply σ (Edited ε α)) : Prop where
  inOrder : calls = Action.uses edit start ((slots held).take calls.length)
  ended : reply.context = Use.end start calls
  emitted : reply.events = calls.flatMap fun call => call.reply.events
  stopped :
    (reply.result.failure = none ∧ calls.map Use.input = slots held ∧
      ∀ call ∈ calls, call.reply.result.failure = none) ∨
    ∃ problem earlier last, reply.result.failure = some problem ∧ calls = earlier ++ [last] ∧
      last.reply.result.failure = some problem ∧
      ∀ call ∈ earlier, call.reply.result.failure = none
  left : slots reply.result.value =
    calls.map (fun call => call.reply.result.value) ++ (slots held).drop calls.length
  sameOutline : outline reply.result.value = outline held

/-- To edit slots in order, whatever the edit does, is to visit them. -/
theorem visitsSlots_of_editsSlots {slots : α → List Expr} {outline : α → β} {held : α}
    (traverse : {ρ : Type} → (Expr → Action ρ (Edited ε Expr)) → Action ρ (Edited ε α))
    (edits : ∀ {ρ : Type} (edit : Expr → Action ρ (Edited ε Expr)),
      EditsSlots edit slots outline held (traverse edit))
    (edit : Expr → Action σ (Edited ε Expr)) (start : σ) :
    VisitsSlots edit slots outline held start
      (callsDuring (traverse (Action.recording edit)) start) ((traverse edit).run start) := by
  have replies := congrArg (Action.run · start) (edits edit)
  have logs := congrArg (fun work => (Action.run work (start, [])).context)
    (edits (Action.recording edit))
  simp only [Action.run_map, run_list, map, Reply.mk.injEq, Edited.mk.injEq,
    Prod.mk.injEq] at replies
  simp only [Action.run_map, run_list, calls, Action.end_usesUntil_recording,
    List.nil_append] at logs
  rcases replies with ⟨⟨⟨sameOutline, left⟩, failed⟩, ended, emitted⟩
  have isLog : callsDuring (traverse (Action.recording edit)) start =
      calls edit start (slots held) :=
    congrArg Prod.snd logs
  rw [isLog]
  refine ⟨Action.usesUntil_eq_uses _ edit start (slots held), ended, emitted, ?_, left, sameOutline⟩
  rw [failed]
  exact calls_end edit (slots held) start

/-- An edit of the slots of a statement or of a block visits them: those of a branch in the
condition first and then in its two bodies, and those of a block statement by statement. -/
theorem editSlots_visits_in_order (edit : Expr → Action σ (Edited ε Expr)) (start : σ) :
    (∀ stmt : Stmt, VisitsSlots edit Stmt.slots Stmt.outline stmt start
      (callsDuring (stmt.editSlots (Action.recording edit)) start)
      ((stmt.editSlots edit).run start)) ∧
    ∀ block : Block, VisitsSlots edit Block.slots Block.outline block start
      (callsDuring (Block.editSlots (Action.recording edit) block) start)
      ((Block.editSlots edit block).run start) :=
  ⟨fun stmt => visitsSlots_of_editsSlots (fun edit => stmt.editSlots edit)
      (fun edit => Stmt.editSlots_editsSlots edit stmt) edit start,
    fun block => visitsSlots_of_editsSlots (fun edit => Block.editSlots edit block)
      (fun edit => Block.editSlots_editsSlots edit block) edit start⟩

/-- Puts its number into a slot, and fails in the second one after that. -/
def failingInSecond : Expr → Action Nat (Edited String Expr) := fun _ => ⟨fun count =>
  ⟨⟨.constant (.int (.ofNat count)), if count = 1 then some "second" else none⟩, count + 1, []⟩⟩

example : ((Block.editSlots failingInSecond
    [.branch (.var "a") [.evaluate (.var "b")] (some [.evaluate (.var "c")])]).run 0).result =
      ⟨[.branch (.constant (.int 0)) [.evaluate (.constant (.int 1))]
        (some [.evaluate (.var "c")])], some "second"⟩ := rfl

end Edited

end MarkedTree
