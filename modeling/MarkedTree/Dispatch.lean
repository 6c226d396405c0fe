import MarkedTree.Action
import MarkedTree.Catalog
import MarkedTree.Declaration
import MarkedTree.Edited

/-!
# Dispatching marked declarations

A host offers pairs of a marker and a declaration to its rules.  A rule runs its
handler if the marker is of the bound type or of one that refines it and the
declaration is of the bound kind.  All other offers are skipped, and skipping
has no effect but an event.  A rule keeps nothing from one offer to the next.

To build a rule without a declared marker type is a mistake of configuration
and fails at once.
-/

namespace MarkedTree

/-- What a user attaches to a marker type on declarations of a kind.  The
handler may change the declaration, also when it fails in the end. -/
abbrev Handler (kind : NodeKind) (σ : Type) :=
  Marker → kind.Node → Action σ (Edited Failure kind.Node)

/-- Why a rule could not be built. -/
inductive RuleError
  | missingMarkerType
  | undeclaredMarker (marker : MarkerType)
deriving DecidableEq, Repr

namespace RuleError

def text : RuleError → String
  | .missingMarkerType => "dispatch rule requires a marker type"
  | .undeclaredMarker marker =>
      "marker type `" ++ marker.name ++ "` is not declared in the catalog"

end RuleError

/-- A handler with what it is bound to and the catalog that says which types
refine which. -/
structure Rule (σ : Type) where
  binding : Binding
  catalog : Catalog
  handler : Handler binding.kind σ

/-- The answer of a rule to an offer that did not fail. -/
inductive Dispatch
  | applied
  | skipped (reason : SkipReason)
deriving DecidableEq, Repr

namespace Dispatch

def isApplied : Dispatch → Bool
  | .applied => true
  | .skipped _ => false

def skipReason? : Dispatch → Option SkipReason
  | .applied => none
  | .skipped reason => some reason

end Dispatch

/-- An offer after a rule has seen it: the elements as they are left, and the
answer or the failure. -/
structure Offer where
  elements : List Element
  answer : Except Failure Dispatch

namespace Rule

variable {σ : Type}

/-- Binds a handler to a marker type that the catalog declares. -/
def build? (catalog : Catalog) (markerType : MarkerType) (kind : NodeKind)
    (handler : Handler kind σ) : Except RuleError (Rule σ) :=
  if markerType.isBlank then .error .missingMarkerType
  else if catalog.contains markerType then .ok ⟨⟨markerType, kind⟩, catalog, handler⟩
  else .error (.undeclaredMarker markerType)

/-- Leaves an offer as it is, for a reason. -/
def skip (rule : Rule σ) (elements : List Element) (reason : SkipReason) : Action σ Offer := do
  .emit (.pairSkipped rule.binding reason)
  pure ⟨elements, .ok (.skipped reason)⟩

/-- Runs the handler.  A failure is wrapped with the marker's own type and with
the name and the span that the declaration had before the handler ran. -/
def apply (rule : Rule σ) (marker : Marker) (node : rule.binding.kind.Node) : Action σ Offer := do
  let header := NodeKind.header node
  .emit (.handlerApplied rule.binding marker.type header.name)
  let edited ← rule.handler marker node
  let answer := match edited.failure with
    | none => .ok .applied
    | some source =>
        .error (.handler marker.type rule.binding.kind header.name header.span source)
  pure ⟨[.marker marker, .node rule.binding.kind edited.value], answer⟩

/-- Offers elements to a rule.  The reasons to skip are tried in the order of
`SkipReason`. -/
def dispatch (rule : Rule σ) (elements : List Element) : Action σ Offer :=
  match elements with
  | [] => rule.skip elements .empty
  | [first, last] =>
      match first.asMarker? with
      | none => rule.skip elements .firstNotMarker
      | some marker =>
          match last.annotatedKind? with
          | none => rule.skip elements .lastNotAnnotated
          | some kind =>
              if rule.catalog.refines marker.type rule.binding.markerType then
                match last.narrow? rule.binding.kind with
                | none => rule.skip elements (.kindMismatch kind)
                | some node => rule.apply marker node
              else rule.skip elements (.markerMismatch marker.type)
  | _ => rule.skip elements (.wrongArity elements.length)

end Rule

end MarkedTree
