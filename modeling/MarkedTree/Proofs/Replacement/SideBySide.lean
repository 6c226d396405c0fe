import MarkedTree.Proofs.Action.Relation
import MarkedTree.Proofs.Edited.Relation
import MarkedTree.Replacement

/-!
# Replacers compared call by call

All that a host can ask of a replacer is one of five calls.  What is to be said of
every one of them, or of a sequence in which they take turns, is said of `perform`.
-/

namespace MarkedTree

namespace Replacer

/-- What a host asks a replacer to work on. -/
inductive Call
  | expr (value : Expr)
  | option (value : Option Expr)
  | slot (value : Expr)
  | block (value : Block)
  | method (value : Method)

namespace Call

/-- What a host gets back.  An edit in place gives back what it left also when it
failed. -/
abbrev Answer : Call → Type
  | .expr _ => Except Failure Expr
  | .option _ => Except Failure (Option Expr)
  | .slot _ => Edited Failure Expr
  | .block _ => Edited Failure Block
  | .method _ => Edited Failure Method

def failure? : (call : Call) → call.Answer → Option Failure
  | .expr _, .ok _ => none
  | .expr _, .error failure => some failure
  | .option _, .ok _ => none
  | .option _, .error failure => some failure
  | .slot _, edited => edited.failure
  | .block _, edited => edited.failure
  | .method _, edited => edited.failure

end Call

variable {τ σ : Type}

def perform (replacer : Replacer τ σ) : (call : Call) → Action (Session σ) call.Answer
  | .expr value => (replacer.replaceIn value).run
  | .option value => (replacer.replaceInOption value).run
  | .slot value => replacer.replaceInSlot value
  | .block value => replacer.replaceInBlock value
  | .method value => replacer.replaceInMethod value

end Replacer

/-!
## Two replacers side by side

Replacers with one criteria and two transforms go through a tree alike: they ask
about the same expressions and run their transforms on the same targets, as long
as the transforms succeed and fail alike.  A relation that holds of their works
step by step (`SideBySide`) therefore holds of whole replacements and of whatever
a host can ask for (`SideBySide.perform`).  This is so for every criteria, also for
one that hands back other expressions than it was given.

A replacer may be put beside itself.  What each of its steps keeps (`Keeps`) is then
kept by all that it does.
-/

namespace Replacer

variable {τ ρ σ : Type}

/-- What a replacer does with an expression that matches. -/
def atMatch (transform : Transform τ σ) (expr : Expr) (target : τ) :
    Action (Session σ) (Except Failure Expr) := do
  Session.ask expr
  Session.matched expr.kind
  Session.hook (transform target)

theorem replaceIn_of_matched (replacer : Replacer τ σ) {expr : Expr} {target : τ}
    (isMatch : replacer.criteria.select expr = .matched target) :
    replacer.replaceIn expr = ExceptT.mk (atMatch replacer.transform expr target) := by
  rw [replaceIn_eq, isMatch]
  apply ExceptT.ext
  rw [ExceptT.run_bind_lift]
  exact bind_congr fun _ => ExceptT.run_bind_lift _ _

theorem replaceIn_of_rejected (replacer : Replacer τ σ) {expr back : Expr}
    (noMatch : replacer.criteria.select expr = .rejected back) :
    replacer.replaceIn expr = (do
      ExceptT.lift (Session.ask expr)
      back.mapChildren replacer.replaceIn) := by
  rw [replaceIn_eq, noMatch]

theorem run_replaceIn_of_matched (replacer : Replacer τ σ) {expr : Expr} {target : τ}
    (isMatch : replacer.criteria.select expr = .matched target) (session : Session σ) :
    (replacer.replaceIn expr).run.run session =
      let reply := (replacer.transform target).run session.context
      ⟨reply.result, ⟨reply.context, session.replacements + 1, expr :: session.asked⟩,
        .criteriaMatched expr.kind :: reply.events⟩ := by
  rw [replacer.replaceIn_of_matched isMatch]
  rfl

theorem run_replaceIn_of_rejected (replacer : Replacer τ σ) {expr back : Expr}
    (noMatch : replacer.criteria.select expr = .rejected back) (session : Session σ) :
    (replacer.replaceIn expr).run.run session =
      let reply := (back.children.mapM replacer.replaceIn).run.run
        { session with asked := expr :: session.asked }
      ⟨reply.result.map back.withChildren, reply.context, reply.events⟩ := by
  rw [replacer.replaceIn_of_rejected noMatch, Expr.mapChildren_eq, ExceptT.run_bind_lift,
    Action.run_bind, ExceptT.run_map, Action.run_map]
  rfl

/-- Edits of a block, followed by the summary if they did not fail. -/
def summing (block : Block) (edits : Action (Session σ) (Edited Failure Block)) :
    Action (Session σ) (Edited Failure Block) := do
  let before ← Action.context
  let edited ← edits
  if edited.failure.isNone then
    let after ← Action.context
    Action.emit (.blockDone block.length (after.replacements - before.replacements))
  pure edited

theorem replaceInBlock_eq (replacer : Replacer τ σ) (block : Block) :
    replacer.replaceInBlock block =
      summing block (Block.editSlots replacer.replaceInSlot block) := rfl

theorem run_summing (block : Block) (edits : Action (Session σ) (Edited Failure Block))
    (session : Session σ) :
    (summing block edits).run session =
      let reply := edits.run session
      ⟨reply.result, reply.context, reply.events ++
        match reply.result.failure with
        | none => [.blockDone block.length
            (reply.context.replacements - session.replacements)]
        | some _ => []⟩ := by
  rw [summing]
  cases failed : (edits.run session).result.failure <;> simp [failed]

/-- A congruence that holds of asking about an expression that does not match, and of
the whole of what is done at a match. -/
structure SideBySide (criteria : Criteria τ) (transform : Transform τ ρ) (other : Transform τ σ)
    (Related : (α : Type) → Action (Session ρ) α → Action (Session σ) α → Prop) : Prop where
  congruence : Congruence Related
  asking : ∀ {expr back}, criteria.select expr = .rejected back →
    Related Unit (Session.ask expr) (Session.ask expr)
  running : ∀ {expr target}, criteria.select expr = .matched target →
    Related (Except Failure Expr) (atMatch transform expr target) (atMatch other expr target)

namespace SideBySide

variable {criteria : Criteria τ} {transform : Transform τ ρ} {other : Transform τ σ}
  {Related : (α : Type) → Action (Session ρ) α → Action (Session σ) α → Prop}

theorem expr (side : SideBySide criteria transform other Related) (held : Expr) :
    Related (Except Failure Expr) (replaceIn ⟨criteria, transform⟩ held).run
      (replaceIn ⟨criteria, other⟩ held).run := by
  have inExcept := side.congruence.except Failure
  -- A rejection may hand back any expression, so the induction follows the criteria and
  -- not the tree.
  induction held using criteria.ends.induction with
  | _ held hypothesis =>
      cases selected : criteria.select held with
      | matched target =>
          rw [replaceIn_of_matched _ selected, replaceIn_of_matched _ selected]
          exact side.running selected
      | rejected back =>
          rw [replaceIn_of_rejected _ selected, replaceIn_of_rejected _ selected]
          refine inExcept.inOrder (side.congruence.map Except.ok (side.asking selected)) fun _ => ?_
          rw [Expr.mapChildren_eq, Expr.mapChildren_eq]
          refine inExcept.map _ (inExcept.mapM back.children fun child member => ?_)
          exact hypothesis child ⟨back, selected, member⟩

theorem option (side : SideBySide criteria transform other Related) (held : Option Expr) :
    Related (Except Failure (Option Expr)) (replaceInOption ⟨criteria, transform⟩ held).run
      (replaceInOption ⟨criteria, other⟩ held).run := by
  cases held with
  | none => exact side.congruence.nothing _
  | some held => exact (side.congruence.except Failure).map some (side.expr held)

theorem slot (side : SideBySide criteria transform other Related) (held : Expr) :
    Related (Edited Failure Expr) (replaceInSlot ⟨criteria, transform⟩ held)
      (replaceInSlot ⟨criteria, other⟩ held) :=
  side.congruence.store held (side.expr held)

/-- The slots of a block, without the summary. -/
theorem slots (side : SideBySide criteria transform other Related) (block : Block) :
    Related (Edited Failure Block) (Block.editSlots (replaceInSlot ⟨criteria, transform⟩) block)
      (Block.editSlots (replaceInSlot ⟨criteria, other⟩) block) :=
  side.congruence.block side.slot block

/-- The defaults of the parameters of a method. -/
theorem defaults (side : SideBySide criteria transform other Related)
    (parameters : List Parameter) :
    Related (Edited Failure (List Parameter))
      (Edited.list (replaceInDefault ⟨criteria, transform⟩) parameters)
      (Edited.list (replaceInDefault ⟨criteria, other⟩) parameters) := by
  refine side.congruence.list (fun parameter => side.congruence.map _ ?_) parameters
  exact side.congruence.option side.slot parameter.defaultValue

/-- If the relation in addition passes to the work with a summary, it holds between
all that the two replacers do for a host. -/
theorem perform (side : SideBySide criteria transform other Related)
    (summary : ∀ block edits otherEdits, Related (Edited Failure Block) edits otherEdits →
      Related (Edited Failure Block) (summing block edits) (summing block otherEdits))
    (call : Call) :
    Related call.Answer (Replacer.perform ⟨criteria, transform⟩ call)
      (Replacer.perform ⟨criteria, other⟩ call) := by
  have inBlock : ∀ block, Related (Edited Failure Block)
      (replaceInBlock ⟨criteria, transform⟩ block) (replaceInBlock ⟨criteria, other⟩ block) :=
    fun block => summary block _ _ (side.slots block)
  cases call with
  | expr value => exact side.expr value
  | option value => exact side.option value
  | slot value => exact side.slot value
  | block value => exact inBlock value
  | method value =>
      exact side.congruence.map _
        (side.congruence.both _ (side.defaults value.parameters) (inBlock value.body))

end SideBySide

/-- What is said of works passes from parts to wholes and holds of the steps of the
replacer. -/
structure Keeps (replacer : Replacer τ σ) (Kept : {α : Type} → Action (Session σ) α → Prop) :
    Prop where
  nothing : ∀ {α : Type} (value : α), Kept (pure value)
  inOrder : ∀ {α β : Type} {first : Action (Session σ) α} {next : α → Action (Session σ) β},
    Kept first → (∀ value, Kept (next value)) → Kept (first >>= next)
  asking : ∀ {expr back}, replacer.criteria.select expr = .rejected back →
    Kept (Session.ask expr)
  running : ∀ {expr target}, replacer.criteria.select expr = .matched target →
    Kept (atMatch replacer.transform expr target)

namespace Keeps

variable {replacer : Replacer τ σ} {Kept : {α : Type} → Action (Session σ) α → Prop}

theorem sideBySide (keeps : replacer.Keeps Kept) :
    SideBySide replacer.criteria replacer.transform replacer.transform
      fun α (first second : Action (Session σ) α) => first = second ∧ Kept first where
  congruence := .diagonal keeps.nothing keeps.inOrder
  asking noMatch := ⟨rfl, keeps.asking noMatch⟩
  running isMatch := ⟨rfl, keeps.running isMatch⟩

theorem expr (keeps : replacer.Keeps Kept) (held : Expr) : Kept (replacer.replaceIn held).run :=
  (keeps.sideBySide.expr held).2

theorem option (keeps : replacer.Keeps Kept) (held : Option Expr) :
    Kept (replacer.replaceInOption held).run :=
  (keeps.sideBySide.option held).2

theorem slot (keeps : replacer.Keeps Kept) (held : Expr) : Kept (replacer.replaceInSlot held) :=
  (keeps.sideBySide.slot held).2

/-- The slots of a block, without the summary. -/
theorem slots (keeps : replacer.Keeps Kept) (block : Block) :
    Kept (Block.editSlots replacer.replaceInSlot block) :=
  (keeps.sideBySide.slots block).2

theorem defaults (keeps : replacer.Keeps Kept) (parameters : List Parameter) :
    Kept (Edited.list replacer.replaceInDefault parameters) :=
  (keeps.sideBySide.defaults parameters).2

theorem perform (keeps : replacer.Keeps Kept)
    (summary : ∀ block edits, Kept edits → Kept (summing block edits)) (call : Call) :
    Kept (replacer.perform call) := by
  refine (keeps.sideBySide.perform ?_ call).2
  rintro block edits _ ⟨rfl, kept⟩
  exact ⟨rfl, summary block edits kept⟩

end Keeps

end Replacer

/-!
## Replacers over another context

A replacer passes its context on to the transform and does nothing else with it.
If a transform does over one type of context what another one does over another
type, then so does everything that a host can ask of the two replacers: with the
same answers, the same count and the same expressions asked about.
-/

namespace Session

variable {ρ σ : Type}

def map (φ : ρ → σ) (session : Session ρ) : Session σ :=
  ⟨φ session.context, session.replacements, session.asked⟩

variable {φ : ρ → σ} {likeness : Likeness}

theorem ask_mirrors (expr : Expr) : (ask expr).Mirrors (map φ) likeness (ask expr) :=
  Action.mirrors_update fun _ => rfl

theorem matched_mirrors (kind : ExprKind) :
    (matched kind).Mirrors (map φ) likeness (matched kind) :=
  (Action.mirrors_congruence (map φ) likeness).inOrder (Action.mirrors_emit _) fun _ =>
    Action.mirrors_update fun _ => rfl

theorem hook_mirrors {α : Type} {action : Action ρ α} {image : Action σ α}
    (mirrors : action.Mirrors φ likeness image) :
    (hook action).Mirrors (map φ) likeness (hook image) where
  result session := mirrors.result session.context
  context session := congrArg (fun context => (⟨context, session.replacements, session.asked⟩ :
    Session σ)) (mirrors.context session.context)
  events session := mirrors.events session.context

end Session

namespace Replacer

variable {τ ρ σ : Type} {φ : ρ → σ} {likeness : Likeness}

def muted (replacer : Replacer τ σ) : Replacer τ σ :=
  ⟨replacer.criteria, fun target => (replacer.transform target).muted⟩

theorem summing_mirrors (block : Block) {edits : Action (Session ρ) (Edited Failure Block)}
    {image : Action (Session σ) (Edited Failure Block)}
    (mirrors : edits.Mirrors (Session.map φ) likeness image) :
    (summing block edits).Mirrors (Session.map φ) likeness (summing block image) := by
  have congruence := Action.mirrors_congruence (Session.map φ) likeness
  -- The summary reads the count of the session before and after, which both sides share.
  refine Action.mirrors_context_bind fun before => congruence.inOrder mirrors fun edited => ?_
  cases edited.failure.isNone with
  | false => exact congruence.nothing edited
  | true =>
      refine Action.mirrors_context_bind fun after => ?_
      exact congruence.inOrder (Action.mirrors_emit _) fun _ => congruence.nothing edited

theorem mirrors_sideBySide (criteria : Criteria τ) {transform : Transform τ ρ}
    {image : Transform τ σ}
    (mirrors : ∀ target, (transform target).Mirrors φ likeness (image target)) :
    SideBySide criteria transform image fun α (action : Action (Session ρ) α) other =>
      action.Mirrors (Session.map φ) likeness other where
  congruence := Action.mirrors_congruence (Session.map φ) likeness
  asking _ := Session.ask_mirrors _
  running {expr target} _ := by
    have congruence := Action.mirrors_congruence (Session.map φ) likeness
    refine congruence.inOrder (Session.ask_mirrors expr) fun _ => ?_
    refine congruence.inOrder (Session.matched_mirrors expr.kind) fun _ => ?_
    exact Session.hook_mirrors (mirrors target)

/-- What transforms have in common over two types of context, replacers with these
transforms have in common. -/
theorem perform_mirrors {criteria : Criteria τ} {transform : Transform τ ρ}
    {image : Transform τ σ}
    (mirrors : ∀ target, (transform target).Mirrors φ likeness (image target)) (call : Call) :
    (perform ⟨criteria, transform⟩ call).Mirrors (Session.map φ) likeness
      (perform ⟨criteria, image⟩ call) :=
  (mirrors_sideBySide criteria mirrors).perform (fun block _ _ => summing_mirrors block) call

end Replacer

end MarkedTree
