/-!
# Edits that may stop half-way

An edit in place leaves a value behind even when it fails.  Its outcome is
therefore a pair: the value as the edit left it, and the failure that ended it,
if any.  Edits of several places run in order; after a failure the places that
were not reached keep what they held.
-/

namespace MarkedTree

/-- What an edit left behind, and why it stopped early if it did. -/
structure Edited (ε α : Type) where
  value : α
  failure : Option ε := none
deriving DecidableEq

namespace Edited

variable {ε α β : Type} {m : Type → Type}

/-- The same edit seen as an edit of a larger value. -/
def map (f : α → β) (edited : Edited ε α) : Edited ε β :=
  ⟨f edited.value, edited.failure⟩

/-- Edits two places in order.  The second one, which holds `untouched`, is
reached only if the first edit did not fail. -/
def both [Monad m] (first : m (Edited ε α)) (second : m (Edited ε β)) (untouched : β) :
    m (Edited ε (α × β)) := do
  let left ← first
  match left.failure with
  | some failure => pure ⟨(left.value, untouched), some failure⟩
  | none => map (Prod.mk left.value) <$> second

def list [Monad m] (edit : α → m (Edited ε α)) : List α → m (Edited ε (List α))
  | [] => pure ⟨[], none⟩
  | item :: rest =>
      map (fun pair => pair.1 :: pair.2) <$> both (edit item) (list edit rest) rest

def option [Monad m] (edit : α → m (Edited ε α)) : Option α → m (Edited ε (Option α))
  | none => pure ⟨none, none⟩
  | some item => map some <$> edit item

/-- Runs a replacement that may fail and stores its result: on failure the
place keeps what it held. -/
def store [Monad m] (held : α) (replacement : ExceptT ε m α) : m (Edited ε α) := do
  match ← replacement.run with
  | .ok value => pure ⟨value, none⟩
  | .error failure => pure ⟨held, some failure⟩

end Edited

/-!
## Laws of edits in order

Edits of several places may be regrouped and may be seen as edits of larger
values before or after they are put in order.  The laws hold in every lawful
monad, whatever effects an edit has, and also when it fails: then `both` hands on
the untouched value of the place that was not reached.
-/

namespace Edited

variable {ε α β γ δ : Type} {m : Type → Type} [Monad m] [LawfulMonad m]

/-- Both parts may be seen as parts of larger values before or after. -/
theorem both_map (f : α → γ) (g : β → δ) (first : m (Edited ε α)) (second : m (Edited ε β))
    (untouched : β) :
    both (map f <$> first) (map g <$> second) (g untouched) =
      map (Prod.map f g) <$> both first second untouched := by
  simp only [both, bind_map_left, map_bind]
  refine bind_congr fun left => ?_
  rcases left with ⟨value, _ | failure⟩
  · simp only [map, Functor.map_map]
    rfl
  · rw [map_pure]
    rfl

theorem both_map_left (f : α → γ) (first : m (Edited ε α)) (second : m (Edited ε β))
    (untouched : β) :
    both (map f <$> first) second untouched =
      map (Prod.map f id) <$> both first second untouched := by
  have whole := both_map f id first second untouched
  rwa [show (map id : Edited ε β → Edited ε β) = id from rfl, id_map] at whole

theorem both_map_right (g : β → δ) (first : m (Edited ε α)) (second : m (Edited ε β))
    (untouched : β) :
    both first (map g <$> second) (g untouched) =
      map (Prod.map id g) <$> both first second untouched := by
  have whole := both_map id g first second untouched
  rwa [show (map id : Edited ε α → Edited ε α) = id from rfl, id_map] at whole

/-- A second part that has nothing to edit only completes the first one. -/
theorem both_pure (first : m (Edited ε α)) (untouched : β) :
    both first (pure ⟨untouched, none⟩) untouched =
      map (fun value => (value, untouched)) <$> first := by
  rw [both, map_eq_pure_bind]
  refine bind_congr fun left => ?_
  rcases left with ⟨value, _ | failure⟩
  · rw [map_pure]
    rfl
  · rfl

theorem pure_both (value : α) (second : m (Edited ε β)) (untouched : β) :
    both (pure ⟨value, none⟩) second untouched = map (Prod.mk value) <$> second := by
  rw [both, pure_bind]

/-- Three places in order may be grouped either way. -/
theorem both_assoc (first : m (Edited ε α)) (second : m (Edited ε β)) (third : m (Edited ε γ))
    (untouched : β) (last : γ) :
    both (both first second untouched) third last =
      map (fun parts => ((parts.1, parts.2.1), parts.2.2)) <$>
        both first (both second third last) (untouched, last) := by
  simp only [both, bind_assoc, map_bind]
  refine bind_congr fun left => ?_
  rcases left with ⟨value, _ | failure⟩
  · simp only [bind_map_left, map_bind]
    refine bind_congr fun middle => ?_
    rcases middle with ⟨other, _ | failure⟩
    · rw [Functor.map_map, Functor.map_map]
      rfl
    · simp [map]
  · simp [map]

/-- To edit two lists in order is to edit the longer list that they make. -/
theorem list_append (edit : α → m (Edited ε α)) (items others : List α) :
    list edit (items ++ others) =
      map (fun lists => lists.1 ++ lists.2) <$>
        both (list edit items) (list edit others) others := by
  induction items with
  | nil =>
      rw [list, pure_both, Functor.map_map]
      exact (id_map _).symm
  | cons item rest hypothesis =>
      rw [List.cons_append, list, list, hypothesis, both_map_left, both_assoc]
      have regrouped := both_map_right (fun lists : List α × List α => lists.1 ++ lists.2)
        (edit item) (both (list edit rest) (list edit others) others) (rest, others)
      rw [regrouped, Functor.map_map, Functor.map_map, Functor.map_map]
      rfl

theorem list_singleton (edit : α → m (Edited ε α)) (item : α) :
    list edit [item] = map (fun value => [value]) <$> edit item := by
  rw [list, list, both_pure, Functor.map_map]
  rfl

/-- An edit without effects that never fails is applied to each item. -/
theorem list_pure (f : α → α) (items : List α) :
    list (fun item => (pure ⟨f item, none⟩ : m (Edited ε α))) items =
      pure ⟨items.map f, none⟩ := by
  induction items with
  | nil => rfl
  | cons item rest hypothesis =>
      rw [list, hypothesis, pure_both, map_pure, map_pure]
      rfl

end Edited

end MarkedTree
