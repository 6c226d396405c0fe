import MarkedTree.Action
import MarkedTree.Expr

/-!
# Replacement

A replacer goes through a tree and replaces what its criteria selects by what its
transform makes of it.

A criteria decides whether an expression is a target of a replacer.  It answers
with the target, narrowed to what the transform expects, or hands the
expression back; criteria and transform can therefore not disagree about what a
target is.

A replacer goes on with the children of what a rejection hands back.  A
criteria has to be such that this comes to an end on every expression, whatever it
hands back; one that goes on forever on some expressions is no criteria here, not even
for the expressions on which it ends.  If it hands back what it was given, as every
criteria of this library does, it ends because trees are finite.
-/

namespace MarkedTree

inductive Selection (τ : Type)
  | matched (target : τ)
  | rejected (back : Expr)

namespace Selection

def isMatch {τ : Type} : Selection τ → Bool
  | .matched _ => true
  | .rejected _ => false

end Selection

/-- Whether a replacer that rejects `expr` goes on to `child`. -/
def Selection.LeadsTo {τ : Type} (select : Expr → Selection τ) (child expr : Expr) : Prop :=
  ∃ back, select expr = .rejected back ∧ child ∈ back.children

/-- A decision about expressions, and the reason why following it down a tree
ends. -/
structure Criteria (τ : Type) where
  select : Expr → Selection τ
  ends : WellFounded (Selection.LeadsTo select)

namespace Criteria

variable {τ : Type}

/-- A criteria hands back if it rejects an expression by returning exactly that
expression. -/
def HandsBack (criteria : Criteria τ) : Prop :=
  ∀ {expr back : Expr}, criteria.select expr = .rejected back → back = expr

/-- The criteria whose targets are what `pick` finds; all else is handed back. -/
def narrowing (pick : Expr → Option τ) : Criteria τ where
  select expr :=
    match pick expr with
    | some target => .matched target
    | none => .rejected expr
  ends := by
    refine Subrelation.wf (r := fun child expr : Expr => sizeOf child < sizeOf expr) ?_
      (measure sizeOf).wf
    intro child expr ⟨back, rejected, member⟩
    dsimp only at rejected
    split at rejected
    · cases rejected
    · cases rejected
      exact Expr.sizeOf_lt_of_mem_children member

/-- The calls of the method so named, letter for letter. -/
def byCallName (name : String) : Criteria MethodCall :=
  narrowing fun expr => expr.asCall?.filter fun call => call.method == name

/-- Every expression, so that only the root of a tree is a target. -/
def everything : Criteria Expr :=
  narrowing some

def predicate (test : Expr → Bool) : Criteria Expr :=
  narrowing fun expr => if test expr then some expr else none

theorem narrowing_handsBack (pick : Expr → Option τ) : (narrowing pick).HandsBack := by
  intro expr back rejected
  simp only [narrowing] at rejected
  split at rejected
  · cases rejected
  · cases rejected
    rfl

end Criteria

/-!
## Replacing targets in expressions

A replacer tests an expression before it looks at its children.  A match is
replaced by what the transform makes of it, and the replacement is not visited
again; any other expression is rebuilt from its children after they have been
visited.  Each branch of a tree is therefore changed at most once, at its
outermost match.  The first failure of the transform ends the run.

A session is what a replacer carries from one call to the next.
-/

/-- Makes the replacement of a target, or fails.  The context holds what the
host passes along and what the transform itself remembers. -/
abbrev Transform (τ σ : Type) := τ → Action σ (Except Failure Expr)

/-- A criteria with the transform of its targets. -/
structure Replacer (τ σ : Type) where
  criteria : Criteria τ
  transform : Transform τ σ

/-- The state of a replacer between calls: the context, how often the transform
has run, and the expressions the criteria was asked about, newest first.  The count
has no largest value; what is said of it holds of a machine word as long as the word
does not come to its own (`Session.shown`). -/
structure Session (σ : Type) where
  context : σ
  replacements : Nat := 0
  asked : List Expr := []

namespace Session

variable {σ α : Type}

/-- Notes that the criteria is asked about an expression. -/
def ask (expr : Expr) : Action (Session σ) Unit :=
  .update fun session => { session with asked := expr :: session.asked }

/-- Announces a match of an expression of this kind and counts it. -/
def matched (kind : ExprKind) : Action (Session σ) Unit := do
  .emit (.criteriaMatched kind)
  .update fun session => { session with replacements := session.replacements + 1 }

/-- The count as a host reads it off a counter that stays at its largest value. -/
def shown (largest : Nat) (session : Session σ) : Nat := min session.replacements largest

/-- Such a counter is raised by one for each match until it stays where it is. -/
theorem shown_matched (largest : Nat) (kind : ExprKind) (session : Session σ) :
    ((matched kind).run session).context.shown largest =
      min (session.shown largest + 1) largest := by
  change min (session.replacements + 1) largest = min (min session.replacements largest + 1) largest
  omega

/-- Runs a hook of the user, which sees the context only. -/
def hook (action : Action σ α) : Action (Session σ) α :=
  action.within context fun session context => { session with context }

end Session

namespace Replacer

variable {τ σ : Type}

/-- Replaces the outermost matches of a tree and returns the rebuilt tree. -/
def replaceIn (replacer : Replacer τ σ) (expr : Expr) :
    ExceptT Failure (Action (Session σ)) Expr := do
  ExceptT.lift (Session.ask expr)
  match _ : replacer.criteria.select expr with
  | .matched target =>
      ExceptT.lift (Session.matched expr.kind)
      ExceptT.mk (Session.hook (replacer.transform target))
  | .rejected back =>
      back.withChildren <$> back.children.attach.mapM fun child => replacer.replaceIn child.1
termination_by replacer.criteria.ends.wrap expr
decreasing_by exact ⟨back, ‹_›, child.2⟩

/-- One step of a replacer: a match runs the transform, and a rejection goes on
with the children of what was handed back. -/
theorem replaceIn_eq (replacer : Replacer τ σ) (expr : Expr) :
    replacer.replaceIn expr = (do
      ExceptT.lift (Session.ask expr)
      match replacer.criteria.select expr with
      | .matched target =>
          ExceptT.lift (Session.matched expr.kind)
          ExceptT.mk (Session.hook (replacer.transform target))
      | .rejected back => back.mapChildren replacer.replaceIn) := by
  rw [replaceIn]
  congr 1
  funext _
  split <;> simp_all [Expr.mapChildren_eq, List.mapM_subtype]

/-- Replaces in an expression if there is one; otherwise nothing is asked. -/
def replaceInOption (replacer : Replacer τ σ) :
    Option Expr → ExceptT Failure (Action (Session σ)) (Option Expr)
  | none => pure none
  | some expr => some <$> replacer.replaceIn expr

/-- Replaces in the expression of a slot.  On failure the slot keeps it. -/
def replaceInSlot (replacer : Replacer τ σ) (slot : Expr) :
    Action (Session σ) (Edited Failure Expr) :=
  Edited.store slot (replacer.replaceIn slot)

/-!
## Replacing in blocks and methods

A block is visited slot by slot, and a method by its parameter defaults and then
its body.  After a failure the slots visited before keep their new expressions
and all later slots keep what they held.
-/

/-- Replaces in every slot of a block in source order.  A run without failure
ends with an event that counts the statements of the block and the replacements
of this run. -/
def replaceInBlock (replacer : Replacer τ σ) (block : Block) :
    Action (Session σ) (Edited Failure Block) := do
  let before ← Action.context
  let edited ← Block.editSlots replacer.replaceInSlot block
  if edited.failure.isNone then
    let after ← Action.context
    Action.emit (.blockDone block.length (after.replacements - before.replacements))
  pure edited

def replaceInDefault (replacer : Replacer τ σ) (parameter : Parameter) :
    Action (Session σ) (Edited Failure Parameter) :=
  Edited.map (fun value => { parameter with defaultValue := value }) <$>
    Edited.option replacer.replaceInSlot parameter.defaultValue

/-- Replaces in the defaults of the parameters in order, and then in the body. -/
def replaceInMethod (replacer : Replacer τ σ) (method : Method) :
    Action (Session σ) (Edited Failure Method) :=
  Edited.map (fun parts => { method with parameters := parts.1, body := parts.2 }) <$>
    Edited.both (Edited.list replacer.replaceInDefault method.parameters)
      (replacer.replaceInBlock method.body) method.body

/-!
## Replacing in whole declarations

All that a declaration of any kind holds, as far as it is made of expressions:
the initial value of a field, the default of a parameter, defaults and body of
a method, and the fields and then the methods of a class.  Markers are not
touched.
-/

/-- Replaces in a value that may be absent.  On failure it stays as it was. -/
def replaceInValue (replacer : Replacer τ σ) (value : Option Expr) :
    Action (Session σ) (Edited Failure (Option Expr)) :=
  Edited.store value (replacer.replaceInOption value)

def replaceInField (replacer : Replacer τ σ) (node : Field) :
    Action (Session σ) (Edited Failure Field) :=
  Edited.map (fun value => { node with initialValue := value }) <$>
    replacer.replaceInValue node.initialValue

/-- Replaces in all that a declaration holds. -/
def replaceInNode (replacer : Replacer τ σ) :
    {kind : NodeKind} → kind.Node → Action (Session σ) (Edited Failure kind.Node)
  | .method, node => replacer.replaceInMethod node
  | .field, node => replacer.replaceInField node
  | .parameter, node =>
      Edited.map (fun value => { node with defaultValue := value }) <$>
        replacer.replaceInValue node.defaultValue
  | .class, node =>
      Edited.map (fun parts => { node with fields := parts.1, methods := parts.2 }) <$>
        Edited.both (Edited.list replacer.replaceInField node.fields)
          (Edited.list replacer.replaceInMethod node.methods) node.methods

end Replacer

end MarkedTree
