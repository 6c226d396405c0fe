import Mathlib
import MarkedTree.Proofs.Action.Uses
import MarkedTree.Proofs.Replacement.Asked
import MarkedTree.Proofs.Replacement.Slotwise
import MarkedTree.Proofs.Replacement.Stopping

/-!
# The account of a replacer

A replacer counts its matches over all its calls, and it emits an event for each of
them.  Both agree with the runs of its transform, whatever calls there were and
whether they failed or not.  An `Account` says so of any work of a replacer; it
passes from parts to wholes, and in the end to a sequence of calls.  The summaries of
blocks are accounted for call by call, because each one is about its own block only
(`Reports`).
-/

namespace MarkedTree

def Event.isMatch : Event → Bool
  | .criteriaMatched _ => true
  | _ => false

theorem Event.isMatch_eq_message (event : Event) :
    event.isMatch = (event.report.message == "criteria matched") := by
  cases event <;> rfl

theorem Event.isSummary_of_isMatch {event : Event} (isMatch : event.isMatch = true) :
    ¬ event.isSummary = true := by
  cases event <;> simp_all [Event.isMatch, isSummary]

def Transform.Silent {τ σ : Type} (transform : Transform τ σ) : Prop :=
  ∀ target context, ((transform target).run context).events = []

namespace Replacer

variable {τ σ : Type} {α β : Type}

def announcing (exprs : List Expr) : List Event :=
  exprs.map fun expr => .criteriaMatched expr.kind

@[simp] theorem announcing_append (first second : List Expr) :
    announcing (first ++ second) = announcing first ++ announcing second :=
  List.map_append

@[simp] theorem length_announcing (exprs : List Expr) : (announcing exprs).length = exprs.length :=
  List.length_map _

/-- What a logging work did in which the criteria was asked about these expressions
and the transform had these runs, first to last: there is a run, and an event, for each
match among the expressions, and the runs are counted. -/
structure Account (criteria : Criteria τ) (session : LoggingSession τ σ)
    (reply : Reply (LoggingSession τ σ) α) (asked : List Expr) (runs : List (Run τ σ)) :
    Prop where
  noted : reply.context.asked = asked.reverse ++ session.asked
  inLog : reply.context.context.2 = session.context.2 ++ runs
  counted : reply.context.replacements = session.replacements + runs.length
  targets : runs.map (fun run => some run.target) =
    (asked.filter criteria.selects).map criteria.target?
  announced : reply.events.filter Event.isMatch = announcing (asked.filter criteria.selects)

theorem Account.append {criteria : Criteria τ} {session : LoggingSession τ σ}
    {first : Reply (LoggingSession τ σ) α} {second : Reply (LoggingSession τ σ) β}
    {asked later : List Expr} {runs laterRuns : List (Run τ σ)}
    (account : Account criteria session first asked runs)
    (next : Account criteria first.context second later laterRuns) :
    Account criteria session ⟨second.result, second.context, first.events ++ second.events⟩
      (asked ++ later) (runs ++ laterRuns) where
  noted := by rw [next.noted, account.noted, List.reverse_append, List.append_assoc]
  inLog := by rw [next.inLog, account.inLog, List.append_assoc]
  counted := by rw [next.counted, account.counted, List.length_append, Nat.add_assoc]
  targets := by
    rw [List.map_append, account.targets, next.targets, List.filter_append, List.map_append]
  announced := by
    rw [List.filter_append, account.announced, next.announced, List.filter_append,
      announcing_append]

/-- The work has an account wherever it starts. -/
def Accounts (criteria : Criteria τ) (work : Action (LoggingSession τ σ) α) : Prop :=
  ∀ session, ∃ asked runs, Account criteria session (work.run session) asked runs

/-- If the transform emits no events, a replacer that logs its runs accounts for them. -/
theorem keeps_accounts (replacer : Replacer τ σ) (silent : replacer.transform.Silent) :
    replacer.logged.Keeps (Accounts replacer.criteria) where
  nothing value session := ⟨[], [], rfl, (List.append_nil _).symm, rfl, rfl, rfl⟩
  inOrder accounts nextAccounts session := by
    rcases accounts session with ⟨asked, runs, account⟩
    rcases nextAccounts _ _ with ⟨later, laterRuns, next⟩
    exact ⟨_, _, account.append next⟩
  asking {expr back} noMatch session := by
    have notSelected : ¬ replacer.criteria.selects expr = true :=
      Bool.eq_false_iff.mp (Criteria.selects_of_rejected noMatch)
    refine ⟨[expr], [], rfl, (List.append_nil _).symm, rfl, ?_, ?_⟩ <;>
    · rw [List.filter_cons_of_neg notSelected]
      rfl
  running {expr target} isMatch session := by
    have selected : replacer.criteria.selects expr = true := Criteria.selects_of_matched isMatch
    have found : replacer.criteria.target? expr = some target :=
      Criteria.target?_of_matched isMatch
    refine ⟨[expr],
      [⟨target, session.context.1, (replacer.transform target).run session.context.1⟩],
      rfl, rfl, rfl, ?_, ?_⟩
    · rw [List.filter_cons_of_pos selected, List.filter_nil, List.map_singleton,
        List.map_singleton, found]
    · rw [List.filter_cons_of_pos selected, List.filter_nil]
      simp [logged, atMatch, Transform.logged, silent target, Event.isMatch, announcing]

/-- A summary announces no match, so it does not change the account. -/
theorem Accounts.summing {criteria : Criteria τ}
    {edits : Action (LoggingSession τ σ) (Edited Failure Block)}
    (accounts : Accounts criteria edits) (block : Block) :
    Accounts criteria (summing block edits) := by
  intro session
  rcases accounts session with ⟨asked, runs, account⟩
  rw [run_summing]
  refine ⟨asked, runs, account.noted, account.inLog, account.counted, account.targets, ?_⟩
  rw [List.filter_append, account.announced]
  cases (edits.run session).result.failure <;> simp [Event.isMatch]

/-- The account of a work of a plain replacer, whose runs are read off the log of a
work that it mirrors. -/
theorem Accounts.mirrored {criteria : Criteria τ} {logging : Action (LoggingSession τ σ) α}
    {work : Action (Session σ) α} (accounts : Accounts criteria logging)
    (mirrors : logging.Mirrors (Session.map Prod.fst) .exact work) (session : Session σ) :
    let reply := work.run session
    let runs := runsDuring logging session
    ∃ asked : List Expr, reply.context.asked = asked.reverse ++ session.asked ∧
      reply.context.replacements = session.replacements + runs.length ∧
      runs.map (fun run => some run.target) =
        (asked.filter criteria.selects).map criteria.target? ∧
      reply.events.filter Event.isMatch = announcing (asked.filter criteria.selects) := by
  intro reply runs
  let start : LoggingSession τ σ := { session with context := (session.context, []) }
  rcases accounts start with ⟨asked, logged, account⟩
  have left : reply.context = (logging.run start).context.map Prod.fst := mirrors.context start
  have isLog : runs = logged := account.inLog
  have emitted : reply.events = (logging.run start).events := (mirrors.events start).symm
  exact ⟨asked, by rw [left]; exact account.noted, by rw [left, isLog]; exact account.counted,
    by rw [isLog]; exact account.targets, by rw [emitted]; exact account.announced⟩

/-!
## The counts and the events of a replacer

A host makes call after call to a replacer, and some of them fail.  The main statement
says that the count of the replacer, the runs of its transform and the events that
announce matches agree after any sequence of calls, and what each call emits on its
own: the announcements of its matches, and behind them a summary for each block that it
got through, which counts the matches since it began with this block.
-/

/-- All that a work emits are announcements, and it counts each of them. -/
def Announces (work : Action (Session σ) α) : Prop :=
  ∀ session, (∀ event ∈ (work.run session).events, event.isMatch = true) ∧
    (work.run session).context.replacements =
      session.replacements + (work.run session).events.length

/-- If the transform emits no events, a replacer emits announcements only, as long as
it does not sum up. -/
theorem keeps_announces (replacer : Replacer τ σ) (silent : replacer.transform.Silent) :
    replacer.Keeps Announces where
  nothing value session := ⟨fun event member => absurd member List.not_mem_nil, rfl⟩
  inOrder announces nextAnnounces session := by
    rcases announces session with ⟨only, counted⟩
    rcases nextAnnounces _ _ with ⟨nextOnly, nextCounted⟩
    refine ⟨fun event member => ?_, ?_⟩
    · rcases List.mem_append.mp member with earlier | later
      · exact only event earlier
      · exact nextOnly event later
    · rw [Action.run_bind, nextCounted, counted, List.length_append, Nat.add_assoc]
  asking _ session := ⟨fun event member => absurd member List.not_mem_nil, rfl⟩
  running {expr target} _ session := by
    have events : ((atMatch replacer.transform expr target).run session).events =
        [.criteriaMatched expr.kind] := by simp [atMatch, silent target]
    rw [events]
    exact ⟨fun event member => List.mem_singleton.mp member ▸ rfl, rfl⟩

/-- The events of a replacement in a block: it announces its matches, and if it does
not fail it ends with a summary that counts the statements and these announcements. -/
def SumsUp (block : Block) (failure? : Option Failure) (events : List Event) : Prop :=
  let announced := events.filter Event.isMatch
  events = announced ++
    match failure? with
    | none => [.blockDone block.length announced.length]
    | some _ => []

theorem replaceInBlock_sumsUp (replacer : Replacer τ σ) (silent : replacer.transform.Silent)
    (session : Session σ) (block : Block) :
    let reply := (replacer.replaceInBlock block).run session
    SumsUp block reply.result.failure reply.events := by
  rcases (replacer.keeps_announces silent).slots block session with ⟨only, counted⟩
  have difference := Nat.sub_eq_of_eq_add' counted
  have announced := List.filter_eq_self.mpr only
  rw [replaceInBlock_eq, run_summing]
  dsimp only [SumsUp]
  rw [difference, List.filter_append, announced]
  cases ((Block.editSlots replacer.replaceInSlot block).run session).result.failure <;>
    simp [Event.isMatch]

/-- Replaces in the defaults of the parameters of a method, as it is done before its
body is begun with. -/
def replaceInDefaults (replacer : Replacer τ σ) (method : Method) :
    Action (Session σ) (Edited Failure (List Parameter)) :=
  Edited.list replacer.replaceInDefault method.parameters

theorem replaceInMethod_eq (replacer : Replacer τ σ) (method : Method) :
    replacer.replaceInMethod method =
      Edited.map (fun parts => { method with parameters := parts.1, body := parts.2 }) <$>
        Edited.both (replacer.replaceInDefaults method) (replacer.replaceInBlock method.body)
          method.body := rfl

/-- The events of a replacement in a method: those of its defaults, which are
announcements, and unless one of them fails those of its body.  The summary of the body
does not count what was announced before. -/
structure SumsUpMethod (replacer : Replacer τ σ) (session : Session σ) (method : Method)
    (failure? : Option Failure) (events : List Event) : Prop where
  defaults : ∀ event ∈ ((replacer.replaceInDefaults method).run session).events,
    event.isMatch = true
  inDefaults : ∀ failure,
    ((replacer.replaceInDefaults method).run session).result.failure = some failure →
      failure? = some failure ∧
        events = ((replacer.replaceInDefaults method).run session).events
  inBody : ((replacer.replaceInDefaults method).run session).result.failure = none →
    let defaults := (replacer.replaceInDefaults method).run session
    let body := (replacer.replaceInBlock method.body).run defaults.context
    failure? = body.result.failure ∧ events = defaults.events ++ body.events ∧
      SumsUp method.body body.result.failure body.events

theorem replaceInMethod_sumsUp (replacer : Replacer τ σ) (silent : replacer.transform.Silent)
    (session : Session σ) (method : Method) :
    let reply := (replacer.replaceInMethod method).run session
    replacer.SumsUpMethod session method reply.result.failure reply.events := by
  refine ⟨((replacer.keeps_announces silent).defaults method.parameters session).1,
    fun failure failed => ?_, fun succeeded => ?_⟩
  · rw [replaceInMethod_eq]
    simp [Edited.both, Edited.map, failed]
  · intro defaults body
    refine ⟨?_, ?_, replacer.replaceInBlock_sumsUp silent defaults.context method.body⟩ <;>
    · rw [replaceInMethod_eq]
      simp [Edited.both, Edited.map, succeeded, defaults, body]

/-- Does what a host asks for and says why it failed, if it did. -/
def attend (replacer : Replacer τ σ) (call : Call) : Action (Session σ) (Option Failure) :=
  call.failure? <$> replacer.perform call

/-- The events of a call.  Where no block is asked for there is no summary. -/
def Reports (replacer : Replacer τ σ) (session : Session σ) (failure? : Option Failure)
    (events : List Event) : Call → Prop
  | .block block => SumsUp block failure? events
  | .method method => replacer.SumsUpMethod session method failure? events
  | _ => ∀ event ∈ events, event.isMatch = true

theorem attend_reports (replacer : Replacer τ σ) (silent : replacer.transform.Silent)
    (session : Session σ) (call : Call) :
    let reply := (replacer.attend call).run session
    replacer.Reports session reply.result reply.events call := by
  have keeps := replacer.keeps_announces silent
  cases call with
  | expr value => exact (keeps.expr value session).1
  | option value => exact (keeps.option value session).1
  | slot value => exact (keeps.slot value session).1
  | block value => exact replacer.replaceInBlock_sumsUp silent session value
  | method value => exact replacer.replaceInMethod_sumsUp silent session value

/-- Without the log, the calls of a logging replacer are those of the plain one. -/
theorem attend_mirrors (replacer : Replacer τ σ) (call : Call) :
    (replacer.logged.attend call).Mirrors (Session.map Prod.fst) .exact (replacer.attend call) :=
  (Action.mirrors_congruence (Session.map Prod.fst) .exact).map call.failure?
    (perform_mirrors (replacer.logged_mirrors .exact) call)

theorem attend_accounts (replacer : Replacer τ σ) (silent : replacer.transform.Silent)
    (call : Call) : Accounts replacer.criteria (replacer.logged.attend call) := by
  have keeps := replacer.keeps_accounts silent
  refine (keeps.sideBySide.congruence.map call.failure? ⟨rfl, ?_⟩).2
  exact keeps.perform (fun block _ accounts => accounts.summing block) call

/-- The block that a call sums up if it gets through it. -/
def Call.block? : Call → Option Block
  | .block value => some value
  | .method value => some value.body
  | _ => none

/-- The summaries of a call with so many replacements in its block. -/
def Call.summaries (call : Call) (failure? : Option Failure) (count : Nat) : List Event :=
  if failure?.isNone then call.block?.toList.map fun block => .blockDone block.length count else []

/-- What a call emits before it begins with its block. -/
def eventsBeforeBlock (replacer : Replacer τ σ) (session : Session σ) : Call → List Event
  | .method method => ((replacer.replaceInDefaults method).run session).events
  | _ => []

theorem filter_isSummary_of_isMatch {events : List Event}
    (only : ∀ event ∈ events, event.isMatch = true) : events.filter Event.isSummary = [] :=
  List.filter_eq_nil_iff.mpr fun event member => Event.isSummary_of_isMatch (only event member)

theorem SumsUp.filter_isSummary {block : Block} {failure? : Option Failure} {events : List Event}
    (sumsUp : SumsUp block failure? events) :
    events.filter Event.isSummary =
      if failure?.isNone then [.blockDone block.length (events.countP Event.isMatch)] else [] := by
  have noSummary : (events.filter Event.isMatch).filter Event.isSummary = [] :=
    filter_isSummary_of_isMatch fun event member => (List.mem_filter.mp member).2
  rw [sumsUp, List.filter_append, noSummary, ← sumsUp, List.countP_eq_length_filter]
  cases failure? <;> rfl

/-- What a call sums up: nothing if it fails, and otherwise its block, with as many
replacements as were announced since the block was begun. -/
theorem Reports.filter_isSummary {replacer : Replacer τ σ} {session : Session σ}
    {failure? : Option Failure} {events : List Event} {call : Call}
    (reports : replacer.Reports session failure? events call) :
    events.filter Event.isSummary =
      call.summaries failure? (events.countP Event.isMatch -
        (replacer.eventsBeforeBlock session call).countP Event.isMatch) := by
  have otherwise : (∀ event ∈ events, event.isMatch = true) → call.block? = none →
      ∀ count, events.filter Event.isSummary = call.summaries failure? count := by
    intro only noBlock count
    rw [filter_isSummary_of_isMatch only, Call.summaries, noBlock]
    split <;> rfl
  cases call with
  | expr value => exact otherwise reports rfl _
  | option value => exact otherwise reports rfl _
  | slot value => exact otherwise reports rfl _
  | block block => exact SumsUp.filter_isSummary reports
  | method method =>
      have noneBefore := filter_isSummary_of_isMatch reports.defaults
      cases failed : ((replacer.replaceInDefaults method).run session).result.failure with
      | some failure =>
          rcases reports.inDefaults failure failed with ⟨rfl, rfl⟩
          exact noneBefore
      | none =>
          rcases reports.inBody failed with ⟨rfl, rfl, sumsUp⟩
          rw [List.filter_append, noneBefore, List.nil_append, sumsUp.filter_isSummary,
            List.countP_append, eventsBeforeBlock, Nat.add_sub_cancel_left]
          rfl

/-- One of the calls that a replacer has attended to. -/
abbrev Attended (σ : Type) := Use Call (Session σ) (Option Failure)

/-- What a call has emitted.  Its announcements are those of the matches among the
expressions it asked about, which are nodes of its slots if the criteria hands back, and
all visited ones unless it failed. -/
structure Told (replacer : Replacer τ σ) (call : Attended σ) : Prop where
  reports : replacer.Reports call.start call.reply.result call.reply.events call.input
  summaries : (call.reply.events.map Event.report).filter
      (fun report => report.message == "rewrote block") =
    if call.reply.result.isNone then
      call.input.block?.toList.map fun block => ⟨.debug, Event.rewriteTarget, "rewrote block",
        [("statements", .number block.length),
          ("replacements", .number (call.reply.events.countP Event.isMatch -
            (replacer.eventsBeforeBlock call.start call.input).countP Event.isMatch))]⟩
    else []
  announced : ∃ asked : List Expr, call.reply.context.asked = asked.reverse ++ call.start.asked ∧
    call.reply.events.filter Event.isMatch =
      announcing (asked.filter replacer.criteria.selects) ∧
    (replacer.criteria.HandsBack →
      asked <+: call.input.slots.flatMap replacer.criteria.visitedNodes ∧
      (call.reply.result = none →
        asked = call.input.slots.flatMap replacer.criteria.visitedNodes))

/-- To filter reports by their message is to filter events. -/
theorem filter_report {message : String} {test : Event → Bool}
    (isTest : ∀ event : Event, test event = (event.report.message == message))
    (events : List Event) :
    (events.map Event.report).filter (fun report => report.message == message) =
      (events.filter test).map Event.report := by
  rw [List.filter_map]
  congr 2
  funext event
  exact (isTest event).symm

theorem told (replacer : Replacer τ σ) (silent : replacer.transform.Silent)
    {call : Attended σ} (attended : call.reply = (replacer.attend call.input).run call.start) :
    replacer.Told call := by
  have reports := replacer.attend_reports silent call.start call.input
  rcases (replacer.attend_accounts silent call.input).mirrored (replacer.attend_mirrors call.input)
    call.start with ⟨asked, noted, _, _, announced⟩
  refine ⟨?_, ?_, asked, ?_, ?_, fun handsBack => ?_⟩ <;> rw [attended]
  · exact reports
  · rw [filter_report Event.isSummary_eq_message, reports.filter_isSummary, Call.summaries]
    split
    · rw [List.map_map]
      rfl
    · rfl
  · exact noted
  · exact announced
  -- Both lists were noted on top of what had been asked before, so they are the same.
  · rcases replacer.perform_asks handsBack call.input call.start with
      ⟨others, isPrefix, othersNoted, complete⟩
    have same : asked.reverse = others.reverse :=
      List.append_cancel_right (noted.symm.trans othersNoted)
    rw [List.reverse_injective same]
    exact ⟨isPrefix, complete⟩

/-- After any calls, also after those that failed, the count of a replacer is the number
of the runs of its transform.  Each match has led to one run, on the target that the
criteria made of it, and to one event, with its kind, all in the same order.  What
each call tells on its own is said by `Told`.  A counter of limited size shows the same
count until it comes to its largest value.  The criteria may be any that ends on every
expression (`Criteria.ends`); one that ends only on the expressions of these calls is
not covered. -/
theorem counts_agree (replacer : Replacer τ σ) (silent : replacer.transform.Silent)
    (context : σ) (calls : List Call) :
    let start : Session σ := { context := context }
    let reply := (calls.mapM replacer.attend).run start
    let runs := runsDuring (calls.mapM replacer.logged.attend) start
    let matched := reply.context.asked.reverse.filter replacer.criteria.selects
    reply.context.replacements = runs.length ∧
    (∀ largest, runs.length ≤ largest → reply.context.shown largest = runs.length) ∧
    (reply.events.filter Event.isMatch).length = runs.length ∧
    reply.events.filter Event.isMatch = announcing matched ∧
    (reply.events.map Event.report).filter (fun report => report.message == "criteria matched") =
      matched.map (fun expr => ⟨.trace, Event.rewriteTarget, "criteria matched",
        [("kind", .text expr.kind.text)]⟩) ∧
    runs.map (fun run => some run.target) = matched.map replacer.criteria.target? ∧
    ∀ call ∈ Action.uses replacer.attend start calls, replacer.Told call := by
  intro start reply runs matched
  have congruence := (replacer.keeps_accounts silent).sideBySide.congruence
  have accounts : Accounts replacer.criteria (calls.mapM replacer.logged.attend) :=
    (congruence.mapM calls fun call _ => ⟨rfl, replacer.attend_accounts silent call⟩).2
  have mirrors : (calls.mapM replacer.logged.attend).Mirrors (Session.map Prod.fst) .exact
      (calls.mapM replacer.attend) :=
    (Action.mirrors_congruence (Session.map Prod.fst) .exact).mapM calls
      fun call _ => replacer.attend_mirrors call
  rcases accounts.mirrored mirrors start with ⟨asked, noted, counted, targets, announced⟩
  have isMatched : matched = asked.filter replacer.criteria.selects := by
    have allAsked : reply.context.asked.reverse = asked := by
      rw [noted, List.append_nil, List.reverse_reverse]
    exact congrArg (List.filter replacer.criteria.selects) allAsked
  rw [← isMatched] at targets announced
  have counts : reply.context.replacements = runs.length := counted.trans (Nat.zero_add _)
  refine ⟨counts, fun largest fits => ?_, ?_, announced, ?_, targets, fun call member =>
    replacer.told silent (Action.reply_eq_of_mem_uses member)⟩
  · rw [Session.shown, counts, Nat.min_eq_left fits]
  · have sameLength := congrArg List.length targets
    rw [List.length_map, List.length_map] at sameLength
    rw [announced, length_announcing, sameLength]
  · rw [filter_report Event.isMatch_eq_message, announced, announcing, List.map_map]
    rfl

/-- A call that fails in the body of a method, and calls that succeed. -/
def callsForLogs : List Call :=
  [.method defaultOfLog, .block branchOnLogs, .option none,
    .option (some (.not (.call none "log" []))), .slot (.call none "log" [])]

theorem counts_agree_callsForLogs :
    refusingSecond.transform.Silent ∧
    (runsDuring (callsForLogs.mapM refusingSecond.logged.attend) ⟨0, 0, []⟩).length = 7 ∧
    ((callsForLogs.mapM refusingSecond.attend).run ⟨0, 0, []⟩).result =
      [some (.failed "second" none), none, none, none, none] ∧
    ((callsForLogs.mapM refusingSecond.attend).run ⟨0, 0, []⟩).events =
      [.criteriaMatched .methodCall, .criteriaMatched .methodCall, .criteriaMatched .methodCall,
        .criteriaMatched .methodCall, .criteriaMatched .methodCall, .blockDone 1 3,
        .criteriaMatched .methodCall, .criteriaMatched .methodCall] := by
  have silent : refusingSecond.transform.Silent := fun _ _ => rfl
  have counted : ((callsForLogs.mapM refusingSecond.attend).run
    ⟨0, 0, []⟩).context.replacements = 7 := by cbv
  have agree := refusingSecond.counts_agree silent 0 callsForLogs
  exact ⟨silent, agree.1.symm.trans counted, by cbv, by cbv⟩

end Replacer

end MarkedTree
