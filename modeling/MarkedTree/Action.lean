import MarkedTree.Declaration
import MarkedTree.Expr
import MarkedTree.Text

/-!
# Actions, and what they report

Everything the engines do, and every hook that a user supplies, is an action: it reads
and changes a context, and it emits events.  An event names the rule that it is about,
so the binding of a rule and the reasons to skip an offer come first.

A rule is bound to one marker type and one kind of declaration.  All else that
it is offered is expected traffic: it is skipped for a stated reason.
-/

namespace MarkedTree

/-- The marker type and the kind of declaration that a rule is bound to. -/
structure Binding where
  markerType : MarkerType
  kind : NodeKind
deriving DecidableEq, Repr

namespace Binding

def text (binding : Binding) : String :=
  "@" ++ binding.markerType.name ++ " on " ++ binding.kind.text

/-- The binding as it is shown to someone who debugs a rule: a record with its
fields, the name of the marker type in quotes. -/
def inspect (binding : Binding) : String :=
  "DispatchRule \x7b binding: RuleBinding \x7b marker_type: MarkerType(" ++
    Text.quoted binding.markerType.name ++ "), node_kind: " ++ binding.kind.capitalized ++
    " \x7d, .. \x7d"

end Binding

/-- Why a rule did not run its handler. -/
inductive SkipReason
  | empty
  | wrongArity (count : Nat)
  | firstNotMarker
  | lastNotAnnotated
  | markerMismatch (found : MarkerType)
  | kindMismatch (found : NodeKind)
deriving DecidableEq, Repr

namespace SkipReason

def text : SkipReason → String
  | .empty => "no elements"
  | .wrongArity count => "expected 2 elements, found " ++ count.repr
  | .firstNotMarker => "first element is not a marker"
  | .lastNotAnnotated => "last element is not an annotatable node"
  | .markerMismatch found => "unrelated marker @" ++ found.name
  | .kindMismatch found => "unexpected node kind " ++ found.text

end SkipReason

/-!
## Trace events

What the engines report about their own work.  A host may listen or not; no
decision depends on it.
-/

/-- A step of an engine.  The kind of a match is that of the expression before
it was transformed; the name of a node is the one it had before its handler
ran. -/
inductive Event
  | criteriaMatched (kind : ExprKind)
  | blockDone (statements replacements : Nat)
  | handlerApplied (rule : Binding) (marker : MarkerType) (nodeName : String)
  | pairSkipped (rule : Binding) (reason : SkipReason)
deriving DecidableEq, Repr

/-- How closely a host has to listen to be told of an event. -/
inductive Level
  | trace | debug
deriving DecidableEq, Repr

def Level.text : Level → String
  | trace => "TRACE"
  | debug => "DEBUG"

inductive Detail
  | text (value : String)
  | number (value : Nat)
deriving DecidableEq, Repr

/-- An event as a host is told of it: the engine that it comes from, a message that
is the same for all events of a kind, and under names what this one is about. -/
structure Report where
  level : Level
  target : String
  message : String
  fields : List (String × Detail)
deriving DecidableEq, Repr

namespace Event

def rewriteTarget : String := "graft::rewrite"

def dispatchTarget : String := "graft::dispatch"

def report : Event → Report
  | .criteriaMatched kind =>
      ⟨.trace, rewriteTarget, "criteria matched", [("kind", .text kind.text)]⟩
  | .blockDone statements replacements =>
      ⟨.debug, rewriteTarget, "rewrote block",
        [("statements", .number statements), ("replacements", .number replacements)]⟩
  | .handlerApplied rule marker nodeName =>
      ⟨.trace, dispatchTarget, "applying marker handler",
        [("rule", .text rule.text), ("marker", .text ("@" ++ marker.name)),
          ("node", .text nodeName)]⟩
  | .pairSkipped rule reason =>
      ⟨.debug, dispatchTarget, "skipping node pair",
        [("rule", .text rule.text), ("reason", .text reason.text)]⟩

end Event

/-!
## Failures of transforms and handlers

Transforms and handlers are supplied by users and may fail.  The engines never
catch a failure; dispatch wraps it once, naming the marker and the declaration
that were being processed.
-/

/-- An error of code outside this library: its text, and the text of what
caused it if that is known. -/
structure ForeignError where
  message : String
  cause : Option String := none
deriving DecidableEq, Repr, Inhabited

/-- Why a transform or a handler failed. -/
inductive Failure
  | failed (message : String) (span : Option Span)
  | handler (marker : MarkerType) (kind : NodeKind) (name : String) (span : Option Span)
      (source : Failure)
  | foreign (error : ForeignError)
deriving DecidableEq, Repr, Inhabited

namespace Failure

/-- The text of a failure.  Each wrapper puts the declaration it names in front
of the text of its source. -/
def text : Failure → String
  | .failed message _ => message
  | .handler marker kind name _ source =>
      "@" ++ marker.name ++ " on " ++ kind.text ++ " `" ++ name ++ "` failed: " ++ source.text
  | .foreign error => error.message

/-- The most specific span known: that of the source comes before that of its
wrapper. -/
def span : Failure → Option Span
  | .failed _ span => span
  | .handler _ _ _ span source => source.span <|> span
  | .foreign _ => none

/-- The text of what caused the failure, if it has a cause of its own. -/
def cause : Failure → Option String
  | .failed .. => none
  | .handler _ _ _ _ source => some source.text
  | .foreign error => error.cause

end Failure

/-!
## Actions

Events are only ever appended: what was emitted before an action can neither be read
nor erased by it.
-/

/-- What an action gives back: its result, the context it leaves and the events
it emitted, first to last. -/
structure Reply (σ α : Type) where
  result : α
  context : σ
  events : List Event := []

/-- A computation over a context of type `σ` that emits events. -/
@[ext] structure Action (σ α : Type) where
  run : σ → Reply σ α

namespace Action

variable {σ ρ α β : Type}

instance : Monad (Action σ) where
  map f action := ⟨fun context =>
    let reply := action.run context
    ⟨f reply.result, reply.context, reply.events⟩⟩
  pure value := ⟨fun context => ⟨value, context, []⟩⟩
  bind action next := ⟨fun context =>
    let first := action.run context
    let second := (next first.result).run first.context
    ⟨second.result, second.context, first.events ++ second.events⟩⟩

@[simp] theorem run_pure (value : α) (context : σ) :
    (pure value : Action σ α).run context = ⟨value, context, []⟩ := rfl

@[simp] theorem run_bind (action : Action σ α) (next : α → Action σ β) (context : σ) :
    (action >>= next).run context =
      ⟨((next (action.run context).result).run (action.run context).context).result,
        ((next (action.run context).result).run (action.run context).context).context,
        (action.run context).events ++
          ((next (action.run context).result).run (action.run context).context).events⟩ := rfl

@[simp] theorem run_map (f : α → β) (action : Action σ α) (context : σ) :
    (f <$> action).run context =
      ⟨f (action.run context).result, (action.run context).context,
        (action.run context).events⟩ := rfl

instance : LawfulMonad (Action σ) :=
  LawfulMonad.mk' _
    (fun action => by ext context; simp)
    (fun value next => by ext context; simp)
    (fun action next last => by ext context; simp)
    (fun value action => rfl)
    (fun first second => rfl)
    (fun first second => rfl)
    (fun f action => by ext context; simp)
    (fun f action => rfl)

def emit (event : Event) : Action σ Unit := ⟨fun context => ⟨(), context, [event]⟩⟩

def context : Action σ σ := ⟨fun context => ⟨context, context, []⟩⟩

def update (change : σ → σ) : Action σ Unit := ⟨fun context => ⟨(), change context, []⟩⟩

@[simp] theorem run_emit (event : Event) (start : σ) :
    (emit event).run start = ⟨(), start, [event]⟩ := rfl

@[simp] theorem run_context (start : σ) :
    (context : Action σ σ).run start = ⟨start, start, []⟩ := rfl

/-- Runs an action on a part of a larger context. -/
def within (part : ρ → σ) (put : ρ → σ → ρ) (action : Action σ α) : Action ρ α :=
  ⟨fun whole =>
    let reply := action.run (part whole)
    ⟨reply.result, put whole reply.context, reply.events⟩⟩

end Action

/-!
## Diagnostics

A plain collection of reported problems, for hosts that bring no other place to
report to.  The engines never look at it: it is one possible context.
-/

inductive Severity
  | error | warning
deriving DecidableEq, Repr

namespace Severity

def text : Severity → String
  | error => "error"
  | warning => "warning"

end Severity

structure Diagnostic where
  severity : Severity
  message : String
  span : Option Span
deriving DecidableEq, Repr

namespace Diagnostic

/-- Severity and message, followed by the start of the span if there is one. -/
def text (diagnostic : Diagnostic) : String :=
  diagnostic.severity.text ++ ": " ++ diagnostic.message ++
    match diagnostic.span with
    | none => ""
    | some span => " at " ++ span.start.text

end Diagnostic

/-- Reported problems in the order of their reports. -/
structure Diagnostics where
  entries : List Diagnostic := []
deriving DecidableEq, Repr, Inhabited

namespace Diagnostics

/-- Records a problem behind all earlier ones. -/
def push (diagnostics : Diagnostics) (diagnostic : Diagnostic) : Diagnostics :=
  ⟨diagnostics.entries ++ [diagnostic]⟩

def error (diagnostics : Diagnostics) (message : String) (span : Option Span) : Diagnostics :=
  diagnostics.push ⟨.error, message, span⟩

def warning (diagnostics : Diagnostics) (message : String) (span : Option Span) : Diagnostics :=
  diagnostics.push ⟨.warning, message, span⟩

def hasErrors (diagnostics : Diagnostics) : Bool :=
  diagnostics.entries.any fun entry => entry.severity == .error

def size (diagnostics : Diagnostics) : Nat := diagnostics.entries.length

def isEmpty (diagnostics : Diagnostics) : Bool := diagnostics.entries.isEmpty

/-- One line per problem, without a line break at the end. -/
def text (diagnostics : Diagnostics) : String :=
  "\n".intercalate (diagnostics.entries.map Diagnostic.text)

end Diagnostics

end MarkedTree
