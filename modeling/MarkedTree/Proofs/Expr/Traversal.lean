import MarkedTree.Proofs.Action.Uses
import MarkedTree.Proofs.Expr.Path

/-!
# Mapping over children as a traversal

Which children a node has and how it is rebuilt from them are two case distinctions
that know nothing of each other.  The main statement is that they agree under every
function, also under one that keeps state, emits events and fails: the function is
called on the children in their order, each once, until it fails, and what it gives
takes the places of the children.  The laws of a traversal follow, and so does that
nothing of a node is lost between its shape, its span and its children.
-/

namespace MarkedTree

namespace Expr

variable {σ ε : Type}

/-- The calls of a function while it is mapped over the children of a node, first to
last.  They are read off a log that the function keeps. -/
def visits (f : Expr → ExceptT ε (Action σ) Expr) (expr : Expr) (start : σ) :
    List (Use Expr σ (Except ε Expr)) :=
  ((expr.mapChildren (Action.logging f)).run.run (start, [])).context.2

theorem visits_eq (f : Expr → ExceptT ε (Action σ) Expr) (expr : Expr) (start : σ) :
    visits f expr start = Action.attempts f start expr.children := by
  rw [visits, mapChildren_eq, ExceptT.run_map, Action.run_map, Action.log_mapM_logging]

/-- What mapping a function over the children of a node does.  The calls are those on
the first children, in their order, each where the one before it ended.  Either the last
of them fails, and with it the whole, or there is one for each child and the node holds
what they gave in place of its children.  All else that it holds is as it was: a call
has a receiver if it had one, and there are as many arguments, elements or entries. -/
structure Traverses (f : Expr → ExceptT ε (Action σ) Expr) (expr : Expr) (start : σ)
    (calls : List (Use Expr σ (Except ε Expr))) (reply : Reply σ (Except ε Expr)) : Prop where
  inOrder : calls =
    Action.uses (fun child => (f child).run) start (expr.children.take calls.length)
  ended : reply.context = Use.end start calls
  emitted : reply.events = calls.flatMap fun call => call.reply.events
  stopped : ∀ problem, reply.result = .error problem →
    ∃ earlier last, calls = earlier ++ [last] ∧ last.reply.result = .error problem ∧
      ∀ call ∈ earlier, ∃ value, call.reply.result = .ok value
  rebuilt : ∀ result, reply.result = .ok result →
    calls.map Use.input = expr.children ∧
    calls.map (fun call => call.reply.result) = result.children.map Except.ok ∧
    result.kind = expr.kind ∧ result.shape = expr.shape ∧ result.span = expr.span

theorem mapChildren_traverses (f : Expr → ExceptT ε (Action σ) Expr) (expr : Expr) (start : σ) :
    Traverses f expr start (visits f expr start) ((expr.mapChildren f).run.run start) := by
  rcases Action.run_mapM_attempts f start expr.children with ⟨ended, emitted⟩
  rw [visits_eq, mapChildren_eq, ExceptT.run_map, Action.run_map]
  refine ⟨Action.attempts_eq_uses f start expr.children, ended, emitted, ?_, ?_⟩
  · intro problem fails
    rcases Action.result_mapM_attempts f start expr.children with
      ⟨values, succeeds, _⟩ | ⟨other, earlier, last, stops, isLast, lastFails, succeeded⟩
    · rw [succeeds] at fails
      cases fails
    · rw [stops] at fails
      cases fails
      exact ⟨earlier, last, isLast, lastFails, succeeded⟩
  · intro result isResult
    rcases Action.result_mapM_attempts f start expr.children with
      ⟨values, succeeds, inputs, results⟩ | ⟨problem, _, _, stops, _⟩
    · rw [succeeds] at isResult
      cases isResult
      have sameLength := Action.length_of_mapM succeeds
      have sameShape := shape_withChildren sameLength
      refine ⟨inputs, ?_, ?_, sameShape, span_withChildren sameLength⟩
      · rw [results, children_withChildren sameLength]
      · rw [← kind_shape, sameShape, kind_shape]
    · rw [stops] at isResult
      cases isResult

section

variable {m : Type → Type} [Monad m] [LawfulMonad m]

/-- A function without effects is applied to each child. -/
theorem mapChildren_pure (expr : Expr) (f : Expr → Expr) :
    expr.mapChildren (fun child => (pure (f child) : m Expr)) =
      pure (expr.withChildren (expr.children.map f)) := by
  rw [mapChildren_eq, List.mapM_pure, map_pure]

theorem mapChildren_pure_id (expr : Expr) :
    expr.mapChildren (pure : Expr → m Expr) = pure expr := by
  have mapped := expr.mapChildren_pure (m := m) id
  rw [List.map_id, withChildren_children] at mapped
  exact mapped

/-- Two functions without effects, one after the other, are as good as one. -/
theorem mapChildren_pure_comp (expr : Expr) (f g : Expr → Expr) :
    (expr.withChildren (expr.children.map f)).mapChildren
        (fun child => (pure (g child) : m Expr)) =
      expr.mapChildren fun child => pure (g (f child)) := by
  have sameLength : (expr.children.map f).length = expr.children.length := List.length_map _
  rw [mapChildren_pure, mapChildren_pure, children_withChildren sameLength, List.map_map,
    withChildren_withChildren sameLength (List.length_map _)]
  rfl

end

/-- Mapping over children is a traversal: it calls a function as `Traverses` says, does
nothing if the function does nothing, and puts functions without effects together.  A
node is what its shape, its span and its children make of it. -/
theorem mapChildren_lawful (f : Expr → ExceptT ε (Action σ) Expr) (expr : Expr) (start : σ) :
    Traverses f expr start (visits f expr start) ((expr.mapChildren f).run.run start) ∧
    expr.mapChildren (fun child => (.ok child : Except ε Expr)) = .ok expr ∧
    (∀ g h : Expr → Expr, ∃ first both,
      expr.mapChildren (fun child => (.ok (g child) : Except ε Expr)) = .ok first ∧
      first.mapChildren (fun child => (.ok (h child) : Except ε Expr)) = .ok both ∧
      expr.mapChildren (fun child => (.ok (h (g child)) : Except ε Expr)) = .ok both) ∧
    ∀ other, expr = other ↔
      expr.shape = other.shape ∧ expr.span = other.span ∧ expr.children = other.children := by
  refine ⟨mapChildren_traverses f expr start, expr.mapChildren_pure_id, fun g h => ?_,
    fun other => ⟨?_, ?_⟩⟩
  · have composed := expr.mapChildren_pure (m := Except ε) fun child => h (g child)
    exact ⟨_, _, expr.mapChildren_pure g, (expr.mapChildren_pure_comp g h).trans composed, composed⟩
  · rintro rfl
    exact ⟨rfl, rfl, rfl⟩
  · rintro ⟨sameShape, sameSpan, sameChildren⟩
    exact ext_children sameShape sameSpan sameChildren

/-- Puts a number in place of each child and refuses the third one. -/
def refusingThird : Expr → ExceptT String (Action Nat) Expr := fun _ =>
  ExceptT.mk ⟨fun count =>
    ⟨if count = 2 then .error "third" else .ok (.constant (.int (.ofNat count))), count + 1, []⟩⟩

example : (visits refusingThird (.map [(.var "a", .var "b"), (.var "c", .var "d")]) 0).map
    Use.input = [.var "a", .var "b", .var "c"] := rfl

end Expr

/-!
## The positions that a walk comes to

`walk` lists the nodes of a tree, and a list does not say from which places in the tree
its items are: subexpressions that are equal stand for each other in it.  The main
statement ties it to the positions, which are the lists of indices by which one can go
down the children: there is one item for each position, and they come in the order of a
dictionary.

A host does something at each node and may keep a state meanwhile.  `visitEach` is the
walk with such effects.  It is a recursion of its own over the children; that it comes to
visiting the listed nodes one after the other holds in any monad.
-/

/-- If the effect of each item is that of the list inside it, then the effects of all are
those of these lists put together. -/
theorem forM_eq_forM_flatMap {m : Type → Type} [Monad m] [LawfulMonad m] {α β : Type}
    {items : List α} {inside : α → List β} {effect : β → m Unit} {whole : α → m Unit}
    (agree : ∀ item ∈ items, whole item = forM (inside item) effect) :
    forM items whole = forM (items.flatMap inside) effect := by
  induction items with
  | nil => rfl
  | cons item rest hypothesis =>
      rcases List.forall_mem_cons.mp agree with ⟨first, others⟩
      rw [List.flatMap_cons, List.forM_append, List.forM_cons, first, hypothesis others]

namespace Expr

section

variable {m : Type → Type} [Monad m]

/-- Visits a node, and then all that is under its children, one child after the other. -/
def visitEach (visit : Expr → m Unit) (expr : Expr) : m Unit := do
  visit expr
  forM expr.children.attach fun child => visitEach visit child.1
termination_by expr
decreasing_by exact sizeOf_lt_of_mem_children child.2

variable [LawfulMonad m]

theorem visitEach_eq (visit : Expr → m Unit) (expr : Expr) :
    expr.visitEach visit =
      visit expr >>= fun _ => forM expr.children (visitEach visit) := by
  rw [visitEach]
  conv => rhs; rw [← List.attach_map_subtype_val expr.children, List.forM_map]

/-- The visits are those to the nodes that a walk lists. -/
theorem visitEach_eq_forM_walk (visit : Expr → m Unit) (expr : Expr) :
    expr.visitEach visit = forM expr.walk visit := by
  induction expr using childrenInduction with
  | node expr hypothesis =>
      rw [visitEach_eq, walk_eq, List.forM_cons, forM_eq_forM_flatMap hypothesis]

end

variable {σ : Type}

/-- The visits of a walk, first to last, as the visitor itself records them. -/
def walkVisits (visit : Expr → Action σ Unit) (expr : Expr) (start : σ) : List (Use Expr σ Unit) :=
  ((expr.visitEach (Action.recording visit)).run (start, [])).context.2

theorem walkVisits_eq (visit : Expr → Action σ Unit) (expr : Expr) (start : σ) :
    walkVisits visit expr start = Action.uses visit start expr.walk := by
  rw [walkVisits, visitEach_eq_forM_walk, Action.run_forM, Action.end_uses_recording]
  rfl

/-- Nodes listed by position: each position of the tree once, each before those that go on
from it, and all that go through a child before those through a later one. -/
structure ListsPositions (expr : Expr) (positions : List Path) (nodes : List Expr) : Prop where
  complete : ∀ position, position ∈ positions ↔ (expr.at? position).isSome
  once : positions.Nodup
  ascending : positions.Pairwise (List.Lex (· < ·))
  nodes : nodes.map some = positions.map expr.at?

theorem listsPositions_walk (expr : Expr) : ListsPositions expr expr.paths expr.walk where
  complete _ := mem_paths_iff
  once := expr.paths_nodup
  ascending := expr.paths_ascending
  nodes := expr.paths_map_at?.symm

/-- A walk comes to each position of the tree once and to nothing else, in the order of a
dictionary.  So do the visits that are made on the way, whatever they do to the state
that they share: each starts where the one before it ended. -/
theorem walk_visits_positions (visit : Expr → Action σ Unit) (expr : Expr) (start : σ) :
    ∃ positions, ListsPositions expr positions expr.walk ∧
      ListsPositions expr positions ((walkVisits visit expr start).map Use.input) ∧
      walkVisits visit expr start = Action.uses visit start expr.walk ∧
      (expr.visitEach visit).run start =
        ⟨(), Use.end start (walkVisits visit expr start),
          (walkVisits visit expr start).flatMap fun call => call.reply.events⟩ := by
  refine ⟨expr.paths, expr.listsPositions_walk, ?_, walkVisits_eq visit expr start, ?_⟩
  · rw [walkVisits_eq, Action.map_input_uses]
    exact expr.listsPositions_walk
  · rw [walkVisits_eq, visitEach_eq_forM_walk, Action.run_forM]

end Expr

end MarkedTree
