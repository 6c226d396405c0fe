import MarkedTree.Proofs.Edited.Slots
import MarkedTree.Proofs.Replacement.Run
import MarkedTree.Proofs.Replacement.SideBySide
import MarkedTree.Replacement

/-!
# Blocks and methods slot by slot

To replace in a block or in a method is to replace in its slots one after the
other.  A replacement in a slot is a run of its own kind: its target is the
slot and its context is the session.  `alongSlots` says in these terms what an
edit in place leaves behind, whether it fails or not.  The main statement is that
it does the same as a replacement in the elements of one list that holds the
slots, and keeps the outline.
-/

namespace MarkedTree

namespace Replacer

variable {τ σ : Type} {α β : Type}

/-- The replacement in a slot, taken as a transform of slots that works in the
session. -/
def inSlot (replacer : Replacer τ σ) : Transform Expr (Session σ) :=
  fun slot => (replacer.replaceIn slot).run

def replaceInElements (replacer : Replacer τ σ) (exprs : List Expr) :
    ExceptT Failure (Action (Session σ)) Expr :=
  (Expr.list exprs).mapChildren replacer.replaceIn

theorem run_replaceInSlot (replacer : Replacer τ σ) (slot : Expr) (session : Session σ) :
    (replacer.replaceInSlot slot).run session =
      let reply := (replacer.inSlot slot).run session
      match reply.result with
      | .ok value => ⟨⟨value, none⟩, reply.context, reply.events⟩
      | .error failure => ⟨⟨slot, some failure⟩, reply.context, reply.events⟩ := by
  rw [replaceInSlot, Edited.store, Action.run_bind, inSlot]
  cases result : ((replacer.replaceIn slot).run.run session).result <;> simp [result]

/-- Editing slots in order is a trial of the replacement on the slots.  The slots
behind the first failure, and the slot that it came up in, keep what they held. -/
theorem run_list_replaceInSlot (replacer : Replacer τ σ) (slots : List Expr)
    (session : Session σ) :
    let runs := replacer.inSlot.trial session slots
    let outputs := runs.filterMap Run.output?
    (Edited.list replacer.replaceInSlot slots).run session =
      ⟨⟨outputs ++ slots.drop outputs.length, runs.findSome? Run.failure?⟩,
        Run.lastContext session runs, runs.flatMap fun run => run.reply.events⟩ := by
  induction slots generalizing session with
  | nil => rfl
  | cons slot rest hypothesis =>
      cases result : ((replacer.inSlot slot).run session).result with
      | error failure =>
          rw [replacer.inSlot.trial_cons_of_error result]
          simp [Edited.list, Edited.both, run_replaceInSlot, result, Edited.map, Run.output?,
            Run.failure?, Run.lastContext, Except.toOption]
      | ok output =>
          rw [replacer.inSlot.trial_cons_of_ok result]
          simp [Edited.list, Edited.both, run_replaceInSlot, result, hypothesis, Edited.map,
            Run.output?, Run.failure?, Run.lastContext, Except.toOption]

theorem run_mapM_replaceIn (replacer : Replacer τ σ) (slots : List Expr) (session : Session σ) :
    let runs := replacer.inSlot.trial session slots
    (slots.mapM replacer.replaceIn).run.run session =
      ⟨runs.mapM fun run => run.reply.result, Run.lastContext session runs,
        runs.flatMap fun run => run.reply.events⟩ := by
  induction slots generalizing session with
  | nil => rfl
  | cons slot rest hypothesis =>
      have isRun : (replacer.replaceIn slot).run = replacer.inSlot slot := rfl
      cases result : ((replacer.inSlot slot).run session).result with
      | error failure =>
          rw [replacer.inSlot.trial_cons_of_error result]
          simp [ExceptT.run_bind, isRun, result, Run.lastContext]
      | ok output =>
          rw [replacer.inSlot.trial_cons_of_ok result]
          simp only [List.mapM_cons, bind_pure_comp, ExceptT.run_bind, ExceptT.run_map,
            Action.run_bind, Action.run_map, isRun, result, hypothesis, Run.lastContext,
            List.foldl_cons, List.flatMap_cons]
          rfl

theorem run_replaceInElements (replacer : Replacer τ σ) (exprs : List Expr)
    (session : Session σ) :
    let runs := replacer.inSlot.trial session exprs
    (replacer.replaceInElements exprs).run.run session =
      ⟨(runs.mapM fun run : Run Expr (Session σ) => run.reply.result).map Expr.list,
        Run.lastContext session runs, runs.flatMap fun run => run.reply.events⟩ := by
  rw [replaceInElements, Expr.mapChildren_eq, ExceptT.run_map, Action.run_map]
  exact congrArg (fun reply => (⟨reply.result.map Expr.list, reply.context, reply.events⟩ :
    Reply (Session σ) (Except Failure Expr))) (replacer.run_mapM_replaceIn exprs session)

/-- A reply with some more events in the end, unless it is that of a failure. -/
def Continues (reply longer : Reply (Session σ) (Edited Failure α)) : Prop :=
  ∃ more, longer = ⟨reply.result, reply.context, reply.events ++ more⟩ ∧
    ∀ failure, reply.result.failure = some failure → more = []

theorem Continues.sameResult {reply longer : Reply (Session σ) (Edited Failure α)}
    (continues : Continues reply longer) : longer.result = reply.result := by
  rcases continues with ⟨_, rfl, _⟩
  rfl

/-- The reply of an edit in place that goes along the slots of what is held: it
is that of these runs on the slots, and all but the slots is as it was.  After a
success there may be more events in the end. -/
structure AlongSlots (slots : α → List Expr) (outline : α → β) (held : α)
    (session : Session σ) (runs : List (Run Expr (Session σ)))
    (reply : Reply (Session σ) (Edited Failure α)) : Prop where
  replaced : slots reply.result.value =
    runs.filterMap Run.output? ++ (slots held).drop (runs.filterMap Run.output?).length
  failed : reply.result.failure = runs.findSome? Run.failure?
  inContext : reply.context = Run.lastContext session runs
  sameOutline : outline reply.result.value = outline held
  emitted : ∃ more, reply.events = (runs.flatMap fun run => run.reply.events) ++ more ∧
    ∀ failure, reply.result.failure = some failure → more = []

/-- An edit of all slots in order goes along them, and so does one that only emits
more than it. -/
theorem alongSlots_of_editsSlots (replacer : Replacer τ σ) {slots : α → List Expr}
    {outline : α → β} {held : α} {work : Action (Session σ) (Edited Failure α)}
    (edits : Edited.EditsSlots replacer.replaceInSlot slots outline held work)
    {session : Session σ} {reply : Reply (Session σ) (Edited Failure α)}
    (continues : Continues (work.run session) reply) :
    AlongSlots slots outline held session (replacer.inSlot.trial session (slots held)) reply := by
  have replies := congrArg (Action.run · session) edits
  simp only [Action.run_map, run_list_replaceInSlot, Edited.map, Reply.mk.injEq, Edited.mk.injEq,
    Prod.mk.injEq] at replies
  rcases replies with ⟨⟨⟨sameOutline, replaced⟩, failed⟩, inContext, emitted⟩
  rcases continues with ⟨more, rfl, onlyAfterSuccess⟩
  exact ⟨replaced, failed, inContext, sameOutline, more, by rw [emitted], onlyAfterSuccess⟩

/-- A block is edited slot by slot.  What a success adds is the summary. -/
theorem replaceInBlock_continues (replacer : Replacer τ σ) (block : Block)
    (session : Session σ) :
    Continues ((Block.editSlots replacer.replaceInSlot block).run session)
      ((replacer.replaceInBlock block).run session) := by
  rw [replaceInBlock]
  cases failed : ((Block.editSlots replacer.replaceInSlot block).run session).result.failure with
  | some failure =>
      exact ⟨[], by simp [failed], fun _ _ => rfl⟩
  | none =>
      refine ⟨[.blockDone block.length
        (((Block.editSlots replacer.replaceInSlot block).run session).context.replacements -
          session.replacements)], by simp [failed], fun failure fails => ?_⟩
      cases failed.symm.trans fails

/-- A method is edited slot by slot.  The summary of its body stands in the end. -/
theorem replaceInMethod_continues (replacer : Replacer τ σ) (method : Method)
    (session : Session σ) :
    Continues ((method.editSlots replacer.replaceInSlot).run session)
      ((replacer.replaceInMethod method).run session) := by
  have sameDefaults : replacer.replaceInDefault = Parameter.editSlots replacer.replaceInSlot := rfl
  rw [replaceInMethod, Method.editSlots, Edited.both, Edited.both, sameDefaults]
  -- The defaults are edited alike on both sides; only what comes after them differs.
  generalize Edited.list (Parameter.editSlots replacer.replaceInSlot) method.parameters = defaults
  cases failed : (defaults.run session).result.failure with
  | some failure =>
      exact ⟨[], by simp [failed], fun _ _ => rfl⟩
  | none =>
      rcases replacer.replaceInBlock_continues method.body (defaults.run session).context with
        ⟨more, body, onlyAfterSuccess⟩
      refine ⟨more, by simp [failed, body], fun failure fails => onlyAfterSuccess failure ?_⟩
      simpa [failed, Edited.map] using fails

theorem replaceInBlock_alongSlots (replacer : Replacer τ σ) (block : Block)
    (session : Session σ) :
    AlongSlots Block.slots Block.outline block session
      (replacer.inSlot.trial session (Block.slots block))
      ((replacer.replaceInBlock block).run session) :=
  replacer.alongSlots_of_editsSlots (Block.editSlots_editsSlots _ block)
    (replacer.replaceInBlock_continues block session)

theorem replaceInMethod_alongSlots (replacer : Replacer τ σ) (method : Method)
    (session : Session σ) :
    AlongSlots Method.slots Method.outline method session
      (replacer.inSlot.trial session method.slots)
      ((replacer.replaceInMethod method).run session) :=
  replacer.alongSlots_of_editsSlots (Method.editSlots_editsSlots _ method)
    (replacer.replaceInMethod_continues method session)

/-- The runs of the transform in a work of a replacer that logs them, first to last. -/
def runsDuring (work : Action (Session (σ × List (Run τ σ))) α) (session : Session σ) :
    List (Run τ σ) :=
  (work.run { session with context := (session.context, []) }).context.context.2

/-- Editing what is held does the same as replacing in the elements of one list of
its slots, from the same session on.  In particular, if it succeeds the slots hold
the elements of the list that comes out. -/
structure Slotwise (replacer : Replacer τ σ)
    (edit : {ρ : Type} → Replacer τ ρ → α → Action (Session ρ) (Edited Failure α))
    (slots : α → List Expr) (outline : α → β) (held : α) (session : Session σ) : Prop where
  sameElements : ((replacer.replaceInElements (slots held)).run.run session).result =
    match ((edit replacer held).run session).result.failure with
    | none => .ok (.list (slots ((edit replacer held).run session).result.value))
    | some failure => .error failure
  sameRuns : runsDuring (edit replacer.logged held) session =
    runsDuring (replacer.logged.replaceInElements (slots held)).run session
  sameSession : ((edit replacer held).run session).context =
    ((replacer.replaceInElements (slots held)).run.run session).context
  sameOutline : outline ((edit replacer held).run session).result.value = outline held

theorem slotwise_of_alongSlots (replacer : Replacer τ σ)
    {edit : {ρ : Type} → Replacer τ ρ → α → Action (Session ρ) (Edited Failure α)}
    {slots : α → List Expr} {outline : α → β} {held : α} {session : Session σ}
    (along : ∀ {ρ : Type} (other : Replacer τ ρ) (start : Session ρ),
      AlongSlots slots outline held start (other.inSlot.trial start (slots held))
        ((edit other held).run start)) :
    replacer.Slotwise edit slots outline held session := by
  have edited := along replacer session
  refine ⟨?_, ?_, ?_, edited.sameOutline⟩
  · rw [run_replaceInElements, edited.failed, edited.replaced, Run.mapM_result]
    cases failed : (replacer.inSlot.trial session (slots held)).findSome? Run.failure? with
    | some failure => rfl
    | none =>
        -- Without a failure there is an output for every slot, and nothing is left to keep.
        have noFailure := Run.findSome?_failure?_eq_none_iff.mp failed
        have allSlots := replacer.inSlot.map_target_trial session (slots held) noFailure
        have sameLength := congrArg List.length allSlots
        rw [List.length_map, ← Run.length_outputs_of_success noFailure] at sameLength
        rw [sameLength, List.drop_length, List.append_nil]
        rfl
  · rw [runsDuring, runsDuring, run_replaceInElements, (along replacer.logged _).inContext]
  · rw [run_replaceInElements, edited.inContext]

/-- To replace in a block or in a method is to replace in the list of its slots:
with the same results, by the same runs and to the same session.  As everywhere, the
criteria is one that ends on every expression (`Criteria.ends`), and not only on those
in the slots. -/
theorem replaceIn_slotwise (replacer : Replacer τ σ) (session : Session σ) :
    (∀ block, replacer.Slotwise replaceInBlock Block.slots Block.outline block session) ∧
      ∀ method, replacer.Slotwise replaceInMethod Method.slots Method.outline method session :=
  ⟨fun block => replacer.slotwise_of_alongSlots fun other start =>
      other.replaceInBlock_alongSlots block start,
    fun method => replacer.slotwise_of_alongSlots fun other start =>
      other.replaceInMethod_alongSlots method start⟩

end Replacer

/-!
## The log of a replacement

A replacer that logs its runs does what the plain one does: the log has no effect
on what is done.  It accounts for all summaries among the events, since a
replacement in an expression emits none itself.
-/

def Event.isSummary : Event → Bool
  | .blockDone .. => true
  | _ => false

theorem Event.isSummary_eq_message (event : Event) :
    event.isSummary = (event.report.message == "rewrote block") := by
  cases event <;> rfl

namespace Replacer

variable {τ σ : Type}

/-- The session of a replacer that logs its runs. -/
abbrev LoggingSession (τ σ : Type) := Session (σ × List (Run τ σ))

/-- Without its log, a logging transform is the plain one. -/
theorem logged_mirrors (replacer : Replacer τ σ) (likeness : Likeness) (target : τ) :
    (replacer.logged.transform target).Mirrors Prod.fst likeness (replacer.transform target) :=
  ⟨fun _ => rfl, fun _ => rfl, fun _ => likeness.same _⟩

theorem replaceIn_logged_mirrors (replacer : Replacer τ σ) (expr : Expr) :
    (replacer.logged.replaceIn expr).run.Mirrors (Session.map Prod.fst) .exact
      (replacer.replaceIn expr).run :=
  perform_mirrors (replacer.logged_mirrors .exact) (.expr expr)

/-- What a work adds to the log accounts for the summaries that it emits. -/
def Logs {α : Type} (work : Action (LoggingSession τ σ) α) : Prop :=
  ∀ session, ∃ runs, (work.run session).context.context.2 = session.context.2 ++ runs ∧
    (work.run session).events.filter Event.isSummary =
      (runs.flatMap fun run => run.reply.events).filter Event.isSummary

/-- A replacer that logs its runs has them all in its log. -/
theorem keeps_logs (replacer : Replacer τ σ) : replacer.logged.Keeps Logs where
  nothing value session := ⟨[], (List.append_nil _).symm, rfl⟩
  inOrder {_ _ first _} logs nextLogs session := by
    rcases logs session with ⟨runs, inLog, summaries⟩
    rcases nextLogs (first.run session).result (first.run session).context with
      ⟨nextRuns, nextInLog, nextSummaries⟩
    refine ⟨runs ++ nextRuns, ?_, ?_⟩
    · rw [Action.run_bind, nextInLog, inLog, List.append_assoc]
    · rw [Action.run_bind, List.filter_append, summaries, nextSummaries, List.flatMap_append,
        List.filter_append]
  asking _ session := ⟨[], (List.append_nil _).symm, rfl⟩
  running {_ target} _ session := by
    refine ⟨[⟨target, session.context.1, (replacer.transform target).run session.context.1⟩],
      rfl, ?_⟩
    simp [logged, atMatch, Event.isSummary, Transform.logged]

/-- All summaries among the events of a replacement were emitted by the transform
itself. -/
theorem summaries_replaceIn (replacer : Replacer τ σ) (expr : Expr) (session : Session σ) :
    ((replacer.replaceIn expr).run.run session).events.filter Event.isSummary =
      ((replacer.runsIn expr session).flatMap fun run => run.reply.events).filter
        Event.isSummary := by
  let start : LoggingSession τ σ := { session with context := (session.context, []) }
  have sameEvents : ((replacer.logged.replaceIn expr).run.run start).events =
      ((replacer.replaceIn expr).run.run session).events :=
    (replacer.replaceIn_logged_mirrors expr).events start
  rcases replacer.keeps_logs.expr expr start with ⟨runs, inLog, summaries⟩
  have isLog : replacer.runsIn expr session = runs := inLog
  rw [← sameEvents, isLog]
  exact summaries

end Replacer

end MarkedTree
