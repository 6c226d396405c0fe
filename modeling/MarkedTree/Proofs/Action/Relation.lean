import Mathlib.Data.List.Forall2
import MarkedTree.Action

/-!
# Relations between works

Two programs of the same shape may be compared although they work in different
monads: over contexts of different types, or one of them with a log.  A relation
that holds if neither side does anything, and that passes from works to the work
of doing one after the other, holds of the whole as soon as it holds of the steps
in which the programs differ.  Works that may fail inherit it: after a failure
neither side goes on.
-/

namespace MarkedTree

/-- A relation between the works of two monads that passes from parts to wholes. -/
structure Congruence {m n : Type → Type} [Monad m] [Monad n]
    (Related : (α : Type) → m α → n α → Prop) : Prop where
  nothing : ∀ {α : Type} (value : α), Related α (pure value) (pure value)
  inOrder : ∀ {α β : Type} {first : m α} {second : n α} {next : α → m β} {after : α → n β},
    Related α first second → (∀ value, Related β (next value) (after value)) →
      Related β (first >>= next) (second >>= after)

namespace Congruence

/-- What is to be said of one work alone relates it to itself. -/
theorem diagonal {m : Type → Type} [Monad m] {Kept : (α : Type) → m α → Prop}
    (nothing : ∀ {α : Type} (value : α), Kept α (pure value))
    (inOrder : ∀ {α β : Type} {first : m α} {next : α → m β},
      Kept α first → (∀ value, Kept β (next value)) → Kept β (first >>= next)) :
    Congruence fun α (first second : m α) => first = second ∧ Kept α first where
  nothing value := ⟨rfl, nothing value⟩
  inOrder := by
    rintro α β first _ next after ⟨rfl, kept⟩ following
    have same : next = after := funext fun value => (following value).1
    subst same
    exact ⟨rfl, inOrder kept fun value => (following value).2⟩

/-- Works that are equal step by step are equal. -/
theorem equal {m : Type → Type} [Monad m] :
    Congruence fun α (first second : m α) => first = second where
  nothing _ := rfl
  inOrder := by
    rintro α β first _ next after rfl following
    rw [funext following]

variable {α β : Type} {m n : Type → Type} [Monad m] [Monad n]
  {Related : (α : Type) → m α → n α → Prop}

theorem except (congruence : Congruence Related) (ε : Type) :
    Congruence fun α (first : ExceptT ε m α) (second : ExceptT ε n α) =>
      Related (Except ε α) first.run second.run where
  nothing value := congruence.nothing (Except.ok value)
  inOrder related following := by
    rw [ExceptT.run_bind, ExceptT.run_bind]
    refine congruence.inOrder related fun result => ?_
    cases result with
    | ok value => exact following value
    | error failure => exact congruence.nothing (Except.error failure)

variable [LawfulMonad m] [LawfulMonad n]

theorem map (congruence : Congruence Related) (f : α → β) {first : m α} {second : n α}
    (related : Related α first second) : Related β (f <$> first) (f <$> second) := by
  rw [map_eq_pure_bind, map_eq_pure_bind]
  exact congruence.inOrder related fun value => congruence.nothing (f value)

/-- The same operation on each input of a list. -/
theorem mapM {ι : Type} (congruence : Congruence Related) {operation : ι → m α}
    {other : ι → n α} (inputs : List ι)
    (each : ∀ input ∈ inputs, Related α (operation input) (other input)) :
    Related (List α) (inputs.mapM operation) (inputs.mapM other) := by
  induction inputs with
  | nil => exact congruence.nothing []
  | cons input rest hypothesis =>
      rw [List.mapM_cons, List.mapM_cons]
      refine congruence.inOrder (each input List.mem_cons_self) fun value => ?_
      refine congruence.inOrder (hypothesis fun item member => ?_) fun values => ?_
      · exact each item (List.mem_cons_of_mem _ member)
      · exact congruence.nothing (value :: values)

end Congruence

/-!
## The same work over another context

An action mirrors another one along a map of contexts if, in the image of a
context, it gives the result that the other one gives in the context, and leaves
the image of what the other one leaves.  How their events have to agree is a
parameter: hooks of a user may emit events of their own, which need not be alike
even if the hooks do the same otherwise.

Nothing here looks at what the actions do.  Mirroring is a congruence, so that whatever
is composed of mirroring actions mirrors.
-/

/-- How the events of two actions are compared. -/
structure Likeness where
  like : List Event → List Event → Prop
  same : ∀ events, like events events
  append : ∀ {first second third fourth}, like first second → like third fourth →
    like (first ++ third) (second ++ fourth)

namespace Likeness

/-- All events have to be the same. -/
def exact : Likeness where
  like := Eq
  same _ := rfl
  append same sameToo := by rw [same, sameToo]

/-- Events are not compared. -/
def ignored : Likeness where
  like _ _ := True
  same _ := trivial
  append _ _ := trivial

end Likeness

namespace Action

variable {ρ σ α : Type}

/-- The image does over the image of a context what the action does over the
context. -/
structure Mirrors (φ : ρ → σ) (likeness : Likeness) (action : Action ρ α) (image : Action σ α) :
    Prop where
  result : ∀ start, (image.run (φ start)).result = (action.run start).result
  context : ∀ start, (image.run (φ start)).context = φ (action.run start).context
  events : ∀ start, likeness.like (action.run start).events (image.run (φ start)).events

def muted (action : Action σ α) : Action σ α :=
  ⟨fun start => { action.run start with events := [] }⟩

variable {φ : ρ → σ} {likeness : Likeness}

theorem mirrors_congruence (φ : ρ → σ) (likeness : Likeness) :
    Congruence fun α (action : Action ρ α) (image : Action σ α) =>
      action.Mirrors φ likeness image where
  nothing value := ⟨fun _ => rfl, fun _ => rfl, fun _ => likeness.same []⟩
  inOrder {_ _ first second _ _} mirrors following := by
    -- Where the second part starts on one side is the image of where it starts on the other.
    refine ⟨fun start => ?_, fun start => ?_, fun start => ?_⟩
    · rw [run_bind, run_bind, mirrors.result, mirrors.context]
      exact (following (first.run start).result).result _
    · rw [run_bind, run_bind, mirrors.result, mirrors.context]
      exact (following (first.run start).result).context _
    · rw [run_bind, run_bind, mirrors.result, mirrors.context]
      exact likeness.append (mirrors.events start)
        ((following (first.run start).result).events _)

theorem mirrors_emit (event : Event) : (emit event).Mirrors φ likeness (emit event) :=
  ⟨fun _ => rfl, fun _ => rfl, fun _ => likeness.same [event]⟩

theorem mirrors_update {change : ρ → ρ} {other : σ → σ}
    (commutes : ∀ start, other (φ start) = φ (change start)) :
    (update change).Mirrors φ likeness (update other) :=
  ⟨fun _ => rfl, commutes, fun _ => likeness.same []⟩

/-- What is done with the current context is done with its image. -/
theorem mirrors_context_bind {next : ρ → Action ρ α} {other : σ → Action σ α}
    (each : ∀ start, (next start).Mirrors φ likeness (other (φ start))) :
    (context >>= next).Mirrors φ likeness (context >>= other) :=
  ⟨fun start => (each start).result start, fun start => (each start).context start,
    fun start => (each start).events start⟩

/-- Without their own events, actions that agree otherwise agree in all. -/
theorem Mirrors.muted {action : Action ρ α} {image : Action σ α}
    (mirrors : action.Mirrors φ likeness image) (other : Likeness) :
    action.muted.Mirrors φ other image.muted :=
  ⟨mirrors.result, mirrors.context, fun _ => other.same []⟩

end Action

/-!
## Works in parallel

Two works over different contexts may differ in what they read, and still go in step:
from related contexts they come to related results, and leave related contexts.  Where
works mirror each other, one side is a function of the other; here neither has to be.
Relations of results pass from parts to wholes, also over lists whose items are related
one by one, and through failures, as long as both sides fail or neither does.
-/

/-- Both results are values, and these are related, or both are failures. -/
inductive SameEnding {ε ζ α β : Type} (values : α → β → Prop) :
    Except ε α → Except ζ β → Prop
  | ok {value : α} {other : β} (related : values value other) :
      SameEnding values (.ok value) (.ok other)
  | error (failure : ε) (other : ζ) : SameEnding values (.error failure) (.error other)

theorem SameEnding.map {ε ζ α β γ δ : Type} {values : α → β → Prop} {others : γ → δ → Prop}
    {f : α → γ} {g : β → δ} {result : Except ε α} {other : Except ζ β}
    (same : SameEnding values result other)
    (each : ∀ value other, values value other → others (f value) (g other)) :
    SameEnding others (result.map f) (other.map g) := by
  cases same with
  | ok related => exact .ok (each _ _ related)
  | error failure other => exact .error failure other

namespace Action

variable {ρ σ α β γ δ ε ζ ι κ : Type}

/-- From related contexts, two works come to related results and leave related contexts,
and their events are alike. -/
structure Parallel (contexts : ρ → σ → Prop) (likeness : Likeness) (values : α → β → Prop)
    (first : Action ρ α) (second : Action σ β) : Prop where
  result : ∀ {start other}, contexts start other →
    values (first.run start).result (second.run other).result
  context : ∀ {start other}, contexts start other →
    contexts (first.run start).context (second.run other).context
  events : ∀ {start other}, contexts start other →
    likeness.like (first.run start).events (second.run other).events

namespace Parallel

variable {contexts : ρ → σ → Prop} {likeness : Likeness} {values : α → β → Prop}
  {others : γ → δ → Prop} {first : Action ρ α} {second : Action σ β}

theorem nothing {value : α} {other : β} (related : values value other) :
    Parallel contexts likeness values (pure value : Action ρ α) (pure other : Action σ β) :=
  ⟨fun _ => related, id, fun _ => likeness.same []⟩

theorem inOrder {next : α → Action ρ γ} {after : β → Action σ δ}
    (parallel : Parallel contexts likeness values first second)
    (following : ∀ value other, values value other →
      Parallel contexts likeness others (next value) (after other)) :
    Parallel contexts likeness others (first >>= next) (second >>= after) where
  result started := (following _ _ (parallel.result started)).result (parallel.context started)
  context started := (following _ _ (parallel.result started)).context (parallel.context started)
  events started := likeness.append (parallel.events started)
    ((following _ _ (parallel.result started)).events (parallel.context started))

theorem map {f : α → γ} {g : β → δ} (parallel : Parallel contexts likeness values first second)
    (each : ∀ value other, values value other → others (f value) (g other)) :
    Parallel contexts likeness others (f <$> first) (g <$> second) :=
  ⟨fun started => each _ _ (parallel.result started), parallel.context, parallel.events⟩

theorem mono {coarser : α → β → Prop}
    (parallel : Parallel contexts likeness values first second)
    (each : ∀ value other, values value other → coarser value other) :
    Parallel contexts likeness coarser first second :=
  ⟨fun started => each _ _ (parallel.result started), parallel.context, parallel.events⟩

/-- Results are related if they are in what relates their images. -/
theorem of_map {f : α → γ} {g : β → δ}
    (parallel : Parallel contexts likeness others (f <$> first) (g <$> second))
    (each : ∀ value other, others (f value) (g other) → values value other) :
    Parallel contexts likeness values first second :=
  ⟨fun started => each _ _ (parallel.result started), parallel.context, parallel.events⟩

theorem emit (event : Event) :
    Parallel contexts likeness (fun _ _ => True) (Action.emit event) (Action.emit event) :=
  ⟨fun _ => trivial, id, fun _ => likeness.same [event]⟩

theorem update {change : ρ → ρ} {other : σ → σ}
    (keeps : ∀ {start otherStart}, contexts start otherStart →
      contexts (change start) (other otherStart)) :
    Parallel contexts likeness (fun _ _ => True) (Action.update change) (Action.update other) :=
  ⟨fun _ => trivial, keeps, fun _ => likeness.same []⟩

theorem current :
    Parallel contexts likeness contexts (Action.context : Action ρ ρ)
      (Action.context : Action σ σ) :=
  ⟨id, id, fun _ => likeness.same []⟩

theorem muted (parallel : Parallel contexts likeness values first second) (other : Likeness) :
    Parallel contexts other values first.muted second.muted :=
  ⟨parallel.result, parallel.context, fun _ => other.same []⟩

theorem inOrder_except {first : ExceptT ε (Action ρ) α} {second : ExceptT ζ (Action σ) β}
    {next : α → ExceptT ε (Action ρ) γ} {after : β → ExceptT ζ (Action σ) δ}
    (parallel : Parallel contexts likeness (SameEnding values) first.run second.run)
    (following : ∀ value other, values value other →
      Parallel contexts likeness (SameEnding others) (next value).run (after other).run) :
    Parallel contexts likeness (SameEnding others) (first >>= next).run
      (second >>= after).run := by
  rw [ExceptT.run_bind, ExceptT.run_bind]
  refine parallel.inOrder fun result other same => ?_
  cases same with
  | ok related => exact following _ _ related
  | error failure other => exact nothing (.error failure other)

/-- Operations on inputs that are related one by one, which have a result for each. -/
theorem mapM {operation : ι → ExceptT ε (Action ρ) α} {other : κ → ExceptT ζ (Action σ) β}
    {inputs : List ι} {otherInputs : List κ}
    (each : List.Forall₂ (fun input otherInput => Parallel contexts likeness (SameEnding values)
      (operation input).run (other otherInput).run) inputs otherInputs) :
    Parallel contexts likeness
      (SameEnding fun results otherResults =>
        results.length = inputs.length ∧ List.Forall₂ values results otherResults)
      (inputs.mapM operation).run (otherInputs.mapM other).run := by
  induction each with
  | nil => exact nothing (.ok ⟨rfl, .nil⟩)
  | cons parallel _ hypothesis =>
      rw [List.mapM_cons, List.mapM_cons]
      refine parallel.inOrder_except fun value otherValue related => ?_
      refine hypothesis.inOrder_except fun rest otherRest restRelated => ?_
      exact nothing (.ok ⟨congrArg (· + 1) restRelated.1, .cons related restRelated.2⟩)

end Parallel

end Action

end MarkedTree
