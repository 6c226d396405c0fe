import Mathlib.Data.List.Permutation
import MarkedTree.Action
import MarkedTree.Proofs.Action.Relation
import MarkedTree.Proofs.Dispatch.Decision
import MarkedTree.Proofs.Replacement.Run
import MarkedTree.Proofs.Replacement.SideBySide

/-!
# The engines and their contexts

A replacer passes its context on to the transform (`Replacer.perform_mirrors`), and a rule
passes it on to the handler or leaves it alone.  If a handler does over one type of
context what another one does over another type, then so does a dispatch: the verdict,
which comes before the handler, is about no context.
-/

namespace MarkedTree

namespace Rule

variable {ρ σ : Type} {φ : ρ → σ} {likeness : Likeness}

def muted (rule : Rule σ) : Rule σ where
  binding := rule.binding
  catalog := rule.catalog
  handler marker node := (rule.handler marker node).muted

/-- What handlers have in common over two types of context, rules with these
handlers have in common. -/
theorem dispatch_mirrors {binding : Binding} {catalog : Catalog} {handler : Handler binding.kind ρ}
    {image : Handler binding.kind σ}
    (mirrors : ∀ marker node, (handler marker node).Mirrors φ likeness (image marker node))
    (elements : List Element) :
    (dispatch ⟨binding, catalog, handler⟩ elements).Mirrors φ likeness
      (dispatch ⟨binding, catalog, image⟩ elements) := by
  have congruence := Action.mirrors_congruence φ likeness
  rw [dispatch_eq_verdict, dispatch_eq_verdict]
  cases binding.verdict catalog elements with
  | error reason =>
      exact congruence.inOrder (Action.mirrors_emit _) fun _ => congruence.nothing _
  | ok accepted =>
      refine congruence.inOrder (Action.mirrors_emit _) fun _ => ?_
      exact congruence.inOrder (mirrors accepted.1 accepted.2) fun _ => congruence.nothing _

end Rule

/-!
## The engines do not look at the context

A replacer and a rule are given a context of a type that they know nothing about.
The main statement says of two hooks, over contexts of two types and related by a
map between them, that whatever an engine does with the one it does with the other:
the map takes what it leaves to what it leaves.  Hooks may also emit events that
their partners do not.  The events of the engines are then compared by leaving out
those of the hooks.

Diagnostics are one case: a host that already has some gets them back, followed by
those that would have been recorded without them.
-/

def Diagnostics.followedBy (earlier later : Diagnostics) : Diagnostics :=
  ⟨earlier.entries ++ later.entries⟩

namespace Action

variable {η α : Type}

/-- The action does the same whatever was recorded before, and records its own
diagnostics behind it.  The second part of the context is for all else. -/
def OnlyRecords (action : Action (Diagnostics × η) α) : Prop :=
  ∀ kept, ∃ result recorded after, ∀ earlier : Diagnostics,
    (action.run (earlier, kept)).result = result ∧
      (action.run (earlier, kept)).context = (earlier.followedBy recorded, after)

/-- To only record is to mirror itself whatever is put in front of the diagnostics. -/
theorem onlyRecords_iff {action : Action (Diagnostics × η) α} : action.OnlyRecords ↔
    ∀ earlier : Diagnostics, action.Mirrors (Prod.map earlier.followedBy id) .ignored action := by
  constructor
  · intro records earlier
    refine ⟨?_, ?_, fun _ => trivial⟩ <;> rintro ⟨present, kept⟩ <;>
      rcases records kept with ⟨result, recorded, after, same⟩
    · exact (same (earlier.followedBy present)).1.trans (same present).1.symm
    · rw [(same present).2]
      refine (same (earlier.followedBy present)).2.trans ?_
      simp [Diagnostics.followedBy]
  · intro mirrors kept
    refine ⟨(action.run ({}, kept)).result, (action.run ({}, kept)).context.1,
      (action.run ({}, kept)).context.2, fun earlier => ?_⟩
    have start : (earlier, kept) = Prod.map earlier.followedBy id (({} : Diagnostics), kept) := by
      simp [Diagnostics.followedBy]
    rw [start]
    exact ⟨(mirrors earlier).result _, (mirrors earlier).context _⟩

end Action

/-- What a replacer leaves that starts with earlier diagnostics are these, followed by
what it leaves if it starts with none.  The transform has to be one that only
records. -/
theorem Replacer.perform_followedBy {τ η : Type} {criteria : Criteria τ}
    {transform : Transform τ (Diagnostics × η)} (records : ∀ target, (transform target).OnlyRecords)
    (call : Call) (earlier : Diagnostics) (kept : η) (replacements : Nat) (asked : List Expr) :
    let work := perform ⟨criteria, transform⟩ call
    let alone := work.run ⟨({}, kept), replacements, asked⟩
    let behind := work.run ⟨(earlier, kept), replacements, asked⟩
    behind.result = alone.result ∧
      behind.context = alone.context.map (Prod.map earlier.followedBy id) := by
  intro work alone behind
  have mirrors : work.Mirrors (Session.map (Prod.map earlier.followedBy id)) .ignored work :=
    perform_mirrors (fun target => Action.onlyRecords_iff.mp (records target) earlier) call
  have start : (⟨(earlier, kept), replacements, asked⟩ : Session (Diagnostics × η)) =
      Session.map (Prod.map earlier.followedBy id) ⟨({}, kept), replacements, asked⟩ := by
    simp [Session.map, Diagnostics.followedBy]
  dsimp only [behind]
  rw [start]
  exact ⟨mirrors.result _, mirrors.context _⟩

/-- If hooks are related by a map of contexts, then so is all that the engines do
with them: the results, what they leave in place, the counts and the contexts.  Their
events are as much alike as those of the hooks, and without the events of the hooks
they are the same.  If hooks only record diagnostics, then what was recorded before
stays in front of what is recorded without it.  The criteria is any that ends on every
expression (`Criteria.ends`); of one that does not, nothing is said even for the
expressions on which it does. -/
theorem engines_ignore_context {τ ρ σ η : Type} (φ : ρ → σ) (likeness : Likeness) :
    (∀ (criteria : Criteria τ) {transform : Transform τ ρ} {image : Transform τ σ},
      (∀ target, (transform target).Mirrors φ likeness (image target)) → ∀ call,
        (Replacer.perform ⟨criteria, transform⟩ call).Mirrors (Session.map φ) likeness
          (Replacer.perform ⟨criteria, image⟩ call) ∧
        (Replacer.perform (Replacer.muted ⟨criteria, transform⟩) call).Mirrors (Session.map φ)
          .exact (Replacer.perform (Replacer.muted ⟨criteria, image⟩) call)) ∧
    (∀ (binding : Binding) (catalog : Catalog) {handler : Handler binding.kind ρ}
      {image : Handler binding.kind σ},
      (∀ marker node, (handler marker node).Mirrors φ likeness (image marker node)) →
        ∀ elements,
          (Rule.dispatch ⟨binding, catalog, handler⟩ elements).Mirrors φ likeness
            (Rule.dispatch ⟨binding, catalog, image⟩ elements) ∧
          (Rule.dispatch (Rule.muted ⟨binding, catalog, handler⟩) elements).Mirrors φ
            .exact (Rule.dispatch (Rule.muted ⟨binding, catalog, image⟩) elements)) ∧
    (∀ (criteria : Criteria τ) {transform : Transform τ (Diagnostics × η)},
      (∀ target, (transform target).OnlyRecords) →
        ∀ call earlier kept replacements asked,
          let work := Replacer.perform ⟨criteria, transform⟩ call
          let alone := work.run ⟨({}, kept), replacements, asked⟩
          let behind := work.run ⟨(earlier, kept), replacements, asked⟩
          behind.result = alone.result ∧
            behind.context = alone.context.map (Prod.map earlier.followedBy id)) ∧
    ∀ (binding : Binding) (catalog : Catalog) {handler : Handler binding.kind (Diagnostics × η)},
      (∀ marker node, (handler marker node).OnlyRecords) →
        ∀ elements, (Rule.dispatch ⟨binding, catalog, handler⟩ elements).OnlyRecords := by
  refine ⟨fun criteria _ _ mirrors call => ⟨?_, ?_⟩,
    fun binding catalog _ _ mirrors elements => ⟨?_, ?_⟩, fun criteria _ records call => ?_,
    fun binding catalog _ records elements => ?_⟩
  · exact Replacer.perform_mirrors mirrors call
  · exact Replacer.perform_mirrors (fun target => (mirrors target).muted .exact) call
  · exact Rule.dispatch_mirrors mirrors elements
  · exact Rule.dispatch_mirrors (fun marker node => (mirrors marker node).muted .exact) elements
  · exact Replacer.perform_followedBy records call
  · refine Action.onlyRecords_iff.mpr fun earlier => ?_
    exact Rule.dispatch_mirrors (fun marker node =>
      Action.onlyRecords_iff.mp (records marker node) earlier) elements

/-- Does what `numberedLogs` does and warns of each call that it replaces. -/
def warningLogs : Replacer MethodCall (Diagnostics × Nat) where
  criteria := .byCallName "log"
  transform call := ⟨fun state =>
    ⟨.ok (.call call.receiver call.method [.constant (.int (.ofNat state.2))] call.span),
      (state.1.warning call.method call.span, state.2 + 1), []⟩⟩

/-- Does what `Rule.naming` does and warns of the name that a method loses. -/
def warningNaming : Handler .method (Diagnostics × Nat) := fun marker node => ⟨fun state =>
  ⟨⟨{ node with name := marker.type.name }, none⟩,
    (state.1.warning node.name node.span, state.2 + 1), []⟩⟩

/-- The rule of `warningNaming`, bound like `Rule.namesLogged`. -/
def warnsLogged : Rule (Diagnostics × Nat) :=
  ⟨Rule.namesLogged.binding, Rule.namesLogged.catalog, warningNaming⟩

theorem engines_ignore_context_warningLogs :
    (∀ target, (warningLogs.transform target).Mirrors Prod.snd .exact
      (Replacer.numberedLogs.transform target)) ∧
    (∀ marker node, (warningNaming marker node).Mirrors Prod.snd .exact
      (Rule.naming marker node)) ∧
    (∀ target, (warningLogs.transform target).OnlyRecords) ∧
    (∀ marker node, (warningNaming marker node).OnlyRecords) ∧
    ((Replacer.numberedLogs.perform (.expr Replacer.nestedLogs)).run ⟨0, 0, []⟩).context =
      ((warningLogs.perform (.expr Replacer.nestedLogs)).run ⟨({}, 0), 0, []⟩).context.map
        Prod.snd ∧
    (∀ elements, ((Rule.namesLogged.dispatch elements).run 3).events =
      ((warnsLogged.dispatch elements).run ({}, 3)).events) ∧
    ((warningLogs.perform (.expr Replacer.nestedLogs)).run
      ⟨(⟨[⟨.error, "before", none⟩]⟩, 0), 0, []⟩).context.context.1.entries =
        [⟨.error, "before", none⟩, ⟨.warning, "log", none⟩, ⟨.warning, "log", none⟩] ∧
    ∀ elements, (warnsLogged.dispatch elements).OnlyRecords := by
  have transforms : ∀ target, (warningLogs.transform target).Mirrors Prod.snd .exact
      (Replacer.numberedLogs.transform target) :=
    fun _ => ⟨fun _ => rfl, fun _ => rfl, fun _ => rfl⟩
  have handlers : ∀ marker node, (warningNaming marker node).Mirrors Prod.snd .exact
      (Rule.naming marker node) :=
    fun _ _ => ⟨fun _ => rfl, fun _ => rfl, fun _ => rfl⟩
  have transformRecords : ∀ target, (warningLogs.transform target).OnlyRecords :=
    fun target kept =>
      ⟨.ok (.call target.receiver target.method [.constant (.int (.ofNat kept))] target.span),
        ⟨[⟨.warning, target.method, target.span⟩]⟩, kept + 1, fun _ => ⟨rfl, rfl⟩⟩
  have handlerRecords : ∀ marker node, (warningNaming marker node).OnlyRecords :=
    fun marker node kept => ⟨⟨{ node with name := marker.type.name }, none⟩,
      ⟨[⟨.warning, node.name, node.span⟩]⟩, kept + 1, fun _ => ⟨rfl, rfl⟩⟩
  have alone : ((warningLogs.perform (.expr Replacer.nestedLogs)).run
      ⟨({}, 0), 0, []⟩).context.context.1 =
        ⟨[⟨.warning, "log", none⟩, ⟨.warning, "log", none⟩]⟩ := by cbv
  rcases engines_ignore_context (τ := MethodCall) (η := Nat)
    (Prod.snd : Diagnostics × Nat → Nat) .exact with ⟨inReplacer, inRule, behind, records⟩
  refine ⟨transforms, handlers, transformRecords, handlerRecords, ?_, fun elements => ?_, ?_, ?_⟩
  · have mirrors := (inReplacer warningLogs.criteria transforms (.expr Replacer.nestedLogs)).1
    exact mirrors.context ⟨({}, 0), 0, []⟩
  · exact ((inRule _ _ handlers elements).1.events ({}, 3)).symm
  · have left := (behind warningLogs.criteria transformRecords (.expr Replacer.nestedLogs)
      ⟨[⟨.error, "before", none⟩]⟩ 0 0 []).2
    refine (congrArg (fun session => session.context.1.entries) left).trans ?_
    exact congrArg ([⟨.error, "before", none⟩] ++ ·) (congrArg Diagnostics.entries alone)
  · exact records _ _ handlerRecords

end MarkedTree
