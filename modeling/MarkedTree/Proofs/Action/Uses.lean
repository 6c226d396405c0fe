import MarkedTree.Action

/-!
# One use after the other

A host uses a rule or a replacer many times, and each use starts where the one
before it ended.  `uses` lists such a sequence use by use.  What is to be said of
the whole sequence, of its events in order or of the states in between can so be
said of a list.
-/

namespace MarkedTree

/-- One use of an operation: what it was given, where it started and its reply. -/
structure Use (ι σ α : Type) where
  input : ι
  start : σ
  reply : Reply σ α

/-- Where the last of some uses ended; without a use, where they were to start. -/
def Use.end {ι σ α : Type} (start : σ) (uses : List (Use ι σ α)) : σ :=
  uses.foldl (fun _ use => use.reply.context) start

namespace Action

variable {ι σ α : Type}

/-- The uses of an operation on the inputs of a list in turn. -/
def uses (operation : ι → Action σ α) : σ → List ι → List (Use ι σ α)
  | _, [] => []
  | start, input :: rest =>
      let reply := (operation input).run start
      ⟨input, start, reply⟩ :: uses operation reply.context rest

theorem map_input_uses (operation : ι → Action σ α) (start : σ) (inputs : List ι) :
    (uses operation start inputs).map Use.input = inputs := by
  induction inputs generalizing start with
  | nil => rfl
  | cons input rest hypothesis => rw [uses, List.map_cons, hypothesis]

theorem reply_eq_of_mem_uses {operation : ι → Action σ α} {start : σ} {inputs : List ι}
    {use : Use ι σ α} (member : use ∈ uses operation start inputs) :
    use.reply = (operation use.input).run use.start := by
  induction inputs generalizing start with
  | nil => cases member
  | cons input rest hypothesis =>
      rcases List.mem_cons.mp member with rfl | later
      · rfl
      · exact hypothesis later

/-- A sequence of uses gives their results, ends where the last one does, and emits
their events one use after the other. -/
theorem run_mapM (operation : ι → Action σ α) (inputs : List ι) (start : σ) :
    (inputs.mapM operation).run start =
      ⟨(uses operation start inputs).map fun use => use.reply.result,
        Use.end start (uses operation start inputs),
        (uses operation start inputs).flatMap fun use => use.reply.events⟩ := by
  induction inputs generalizing start with
  | nil => rfl
  | cons input rest hypothesis =>
      simp only [List.mapM_cons, run_bind, run_pure, hypothesis, List.append_nil]
      rfl

/-- The same of a sequence whose results say nothing. -/
theorem run_forM (operation : ι → Action σ Unit) (inputs : List ι) (start : σ) :
    (forM inputs operation).run start =
      ⟨(), Use.end start (uses operation start inputs),
        (uses operation start inputs).flatMap fun use => use.reply.events⟩ := by
  induction inputs generalizing start with
  | nil => rfl
  | cons input rest hypothesis =>
      simp only [List.forM_cons, run_bind, hypothesis]
      rfl

end Action

/-!
## Uses up to the first one that stops

A sequence of uses may end early, with the first use whose result says so.  What such a
sequence consists of does not depend on what the results are.  The same holds of a log:
an operation that records its uses is used as often as the plain one, and in the end it
has recorded all of them.
-/

namespace Action

variable {ι σ α : Type} {stops : α → Bool} {operation : ι → Action σ α} {start : σ} {input : ι}

/-- The uses of an operation on the inputs of a list in turn, up to the first one whose
result stops the sequence. -/
def usesUntil (stops : α → Bool) (operation : ι → Action σ α) : σ → List ι → List (Use ι σ α)
  | _, [] => []
  | start, input :: rest =>
      let reply := (operation input).run start
      ⟨input, start, reply⟩ ::
        if stops reply.result then [] else usesUntil stops operation reply.context rest

theorem usesUntil_cons_of_stops (stopped : stops ((operation input).run start).result = true)
    (rest : List ι) :
    usesUntil stops operation start (input :: rest) =
      [⟨input, start, (operation input).run start⟩] := by
  rw [usesUntil, if_pos stopped]

theorem usesUntil_cons_of_not_stops
    (goesOn : stops ((operation input).run start).result = false) (rest : List ι) :
    usesUntil stops operation start (input :: rest) =
      ⟨input, start, (operation input).run start⟩ ::
        usesUntil stops operation ((operation input).run start).context rest := by
  rw [usesUntil, if_neg (Bool.eq_false_iff.mp goesOn)]

/-- They are uses on the inputs from the first one on, as far as they go. -/
theorem usesUntil_eq_uses (stops : α → Bool) (operation : ι → Action σ α) (start : σ)
    (inputs : List ι) :
    usesUntil stops operation start inputs =
      uses operation start (inputs.take (usesUntil stops operation start inputs).length) := by
  induction inputs generalizing start with
  | nil => rfl
  | cons input rest hypothesis =>
      cases stopped : stops ((operation input).run start).result with
      | true =>
          rw [usesUntil_cons_of_stops stopped]
          rfl
      | false =>
          rw [usesUntil_cons_of_not_stops stopped, List.length_cons, List.take_succ_cons, uses,
            ← hypothesis]

/-- If nothing stops the sequence, they are all the uses. -/
theorem usesUntil_never (operation : ι → Action σ α) (start : σ) (inputs : List ι) :
    usesUntil (fun _ => false) operation start inputs = uses operation start inputs := by
  induction inputs generalizing start with
  | nil => rfl
  | cons input rest hypothesis => exact congrArg (_ :: ·) (hypothesis _)

/-- Either there is a use for each input and none stops, or the last use stops and none
before it. -/
theorem usesUntil_cases (stops : α → Bool) (operation : ι → Action σ α) (start : σ)
    (inputs : List ι) :
    let made := usesUntil stops operation start inputs
    (made.map Use.input = inputs ∧ ∀ use ∈ made, stops use.reply.result = false) ∨
    ∃ earlier last, made = earlier ++ [last] ∧ stops last.reply.result = true ∧
      ∀ use ∈ earlier, stops use.reply.result = false := by
  induction inputs generalizing start with
  | nil => exact .inl ⟨rfl, fun _ member => nomatch member⟩
  | cons input rest hypothesis =>
      cases stopped : stops ((operation input).run start).result with
      | true =>
          rw [usesUntil_cons_of_stops stopped]
          exact .inr ⟨[], _, rfl, stopped, fun _ member => nomatch member⟩
      | false =>
          rw [usesUntil_cons_of_not_stops stopped]
          rcases hypothesis ((operation input).run start).context with
            ⟨inputs, goOn⟩ | ⟨earlier, last, divided, lastStops, goOn⟩
          · exact .inl ⟨congrArg (input :: ·) inputs, List.forall_mem_cons.mpr ⟨stopped, goOn⟩⟩
          · exact .inr ⟨_ :: earlier, last, congrArg (_ :: ·) divided, lastStops,
              List.forall_mem_cons.mpr ⟨stopped, goOn⟩⟩

/-- The same operation, which also appends each of its uses to a log. -/
def recording (operation : ι → Action σ α) : ι → Action (σ × List (Use ι σ α)) α := fun input =>
  ⟨fun state =>
    let reply := (operation input).run state.1
    ⟨reply.result, (reply.context, state.2 ++ [⟨input, state.1, reply⟩]), reply.events⟩⟩

/-- The log has no effect on what is done, and in the end it holds the uses. -/
theorem end_usesUntil_recording (stops : α → Bool) (operation : ι → Action σ α) (start : σ)
    (log : List (Use ι σ α)) (inputs : List ι) :
    Use.end (start, log) (usesUntil stops (recording operation) (start, log) inputs) =
      (Use.end start (usesUntil stops operation start inputs),
        log ++ usesUntil stops operation start inputs) := by
  induction inputs generalizing start log with
  | nil => simp [usesUntil, Use.end]
  | cons input rest hypothesis =>
      have sameResult : ((recording operation input).run (start, log)).result =
          ((operation input).run start).result := rfl
      cases stopped : stops ((operation input).run start).result with
      | true =>
          rw [usesUntil_cons_of_stops stopped, usesUntil_cons_of_stops (sameResult ▸ stopped)]
          rfl
      | false =>
          rw [usesUntil_cons_of_not_stops stopped,
            usesUntil_cons_of_not_stops (sameResult ▸ stopped)]
          have tail := hypothesis ((operation input).run start).context
            (log ++ [⟨input, start, (operation input).run start⟩])
          rw [List.append_assoc] at tail
          exact tail

theorem end_uses_recording (operation : ι → Action σ α) (start : σ) (log : List (Use ι σ α))
    (inputs : List ι) :
    Use.end (start, log) (uses (recording operation) (start, log) inputs) =
      (Use.end start (uses operation start inputs), log ++ uses operation start inputs) := by
  rw [← usesUntil_never, ← usesUntil_never]
  exact end_usesUntil_recording _ operation start log inputs

end Action

/-!
## Attempts

An operation that may fail is tried on one input after the other, and the first
failure ends it.  `attempts` lists the uses that come about in this way, use by use,
and `logging` keeps a log of the uses that there really were.  The theorems here say
that mapping the operation over the inputs comes to the same: the log of such a map
holds the attempts, and its result is that of the attempts together.
-/

namespace Action

variable {ι σ ε α : Type}

/-- The uses of an operation on the inputs of a list in turn.  After a failure there
are no more. -/
def attempts (operation : ι → ExceptT ε (Action σ) α) :
    σ → List ι → List (Use ι σ (Except ε α))
  | _, [] => []
  | start, input :: rest =>
      let reply := (operation input).run.run start
      ⟨input, start, reply⟩ ::
        match reply.result with
        | .ok _ => attempts operation reply.context rest
        | .error _ => []

variable {operation : ι → ExceptT ε (Action σ) α} {start : σ} {input : ι}

theorem attempts_cons_of_ok {value : α}
    (succeeds : ((operation input).run.run start).result = .ok value) (rest : List ι) :
    attempts operation start (input :: rest) =
      ⟨input, start, (operation input).run.run start⟩ ::
        attempts operation ((operation input).run.run start).context rest := by
  rw [attempts, succeeds]

theorem attempts_cons_of_error {problem : ε}
    (fails : ((operation input).run.run start).result = .error problem) (rest : List ι) :
    attempts operation start (input :: rest) =
      [⟨input, start, (operation input).run.run start⟩] := by
  rw [attempts, fails]

/-- Attempts are uses up to the first one that fails. -/
theorem attempts_eq_usesUntil (operation : ι → ExceptT ε (Action σ) α) (start : σ)
    (inputs : List ι) :
    attempts operation start inputs =
      usesUntil (fun result => !result.isOk) (fun input => (operation input).run) start inputs := by
  induction inputs generalizing start with
  | nil => rfl
  | cons input rest hypothesis =>
      rw [attempts, usesUntil]
      cases ((operation input).run.run start).result with
      | error problem => rfl
      | ok value => exact congrArg (_ :: ·) (hypothesis _)

/-- The attempts are uses on the inputs from the first one on, as far as they go. -/
theorem attempts_eq_uses (operation : ι → ExceptT ε (Action σ) α) (start : σ)
    (inputs : List ι) :
    attempts operation start inputs =
      uses (fun input => (operation input).run) start
        (inputs.take (attempts operation start inputs).length) := by
  rw [attempts_eq_usesUntil]
  exact usesUntil_eq_uses _ _ start inputs

theorem run_mapM_cons_of_ok {value : α}
    (succeeds : ((operation input).run.run start).result = .ok value) (rest : List ι) :
    ((input :: rest).mapM operation).run.run start =
      let reply := (operation input).run.run start
      let others := (rest.mapM operation).run.run reply.context
      ⟨others.result.map (value :: ·), others.context, reply.events ++ others.events⟩ := by
  rw [List.mapM_cons, ExceptT.run_bind]
  simp [succeeds]

theorem run_mapM_cons_of_error {problem : ε}
    (fails : ((operation input).run.run start).result = .error problem) (rest : List ι) :
    ((input :: rest).mapM operation).run.run start =
      let reply := (operation input).run.run start
      ⟨.error problem, reply.context, reply.events⟩ := by
  rw [List.mapM_cons, ExceptT.run_bind]
  simp [fails]

/-- How a map over inputs ends: either all attempts succeed, there is one for each input
and the map gives what they gave, or the last attempt fails, all before it succeed and
the map fails likewise. -/
theorem result_mapM_attempts (operation : ι → ExceptT ε (Action σ) α) (start : σ)
    (inputs : List ι) :
    let made := attempts operation start inputs
    (∃ values : List α, ((inputs.mapM operation).run.run start).result = .ok values ∧
      made.map Use.input = inputs ∧
      made.map (fun use => use.reply.result) = values.map Except.ok) ∨
    ∃ problem earlier last, ((inputs.mapM operation).run.run start).result = .error problem ∧
      made = earlier ++ [last] ∧ last.reply.result = .error problem ∧
      ∀ use ∈ earlier, ∃ value, use.reply.result = .ok value := by
  induction inputs generalizing start with
  | nil => exact .inl ⟨[], rfl, rfl, rfl⟩
  | cons input rest hypothesis =>
      cases result : ((operation input).run.run start).result with
      | error problem =>
          rw [attempts_cons_of_error result, run_mapM_cons_of_error result]
          exact .inr ⟨problem, [], _, rfl, rfl, result, fun _ member => nomatch member⟩
      | ok value =>
          rw [attempts_cons_of_ok result, run_mapM_cons_of_ok result]
          rcases hypothesis ((operation input).run.run start).context with
            ⟨values, restResult, inputs, results⟩ |
            ⟨problem, earlier, last, restResult, isLast, fails, succeeded⟩
          · refine .inl ⟨value :: values, congrArg (Except.map (value :: ·)) restResult, ?_, ?_⟩
            · rw [List.map_cons, inputs]
            · rw [List.map_cons, results, result, List.map_cons]
          · refine .inr ⟨problem, _ :: earlier, last,
              congrArg (Except.map (value :: ·)) restResult, by rw [isLast]; rfl, fails, ?_⟩
            rw [List.forall_mem_cons]
            exact ⟨⟨value, result⟩, succeeded⟩

theorem length_of_mapM {inputs : List ι} {values : List α}
    (succeeds : ((inputs.mapM operation).run.run start).result = .ok values) :
    values.length = inputs.length := by
  rcases result_mapM_attempts operation start inputs with
    ⟨others, result, onInputs, results⟩ | ⟨_, _, _, failed, _⟩
  · cases succeeds.symm.trans result
    have asValues := congrArg List.length results
    have asInputs := congrArg List.length onInputs
    rw [List.length_map, List.length_map] at asValues
    rw [List.length_map] at asInputs
    exact asValues.symm.trans asInputs
  · cases succeeds.symm.trans failed

/-- A map over inputs ends where the attempts end, and emits their events one after the
other. -/
theorem run_mapM_attempts (operation : ι → ExceptT ε (Action σ) α) (start : σ)
    (inputs : List ι) :
    let reply := (inputs.mapM operation).run.run start
    reply.context = Use.end start (attempts operation start inputs) ∧
      reply.events = (attempts operation start inputs).flatMap fun use => use.reply.events := by
  induction inputs generalizing start with
  | nil => exact ⟨rfl, rfl⟩
  | cons input rest hypothesis =>
      cases result : ((operation input).run.run start).result with
      | error problem =>
          rw [attempts_cons_of_error result, run_mapM_cons_of_error result]
          exact ⟨rfl, (List.flatMap_singleton ..).symm⟩
      | ok value =>
          rw [attempts_cons_of_ok result, run_mapM_cons_of_ok result]
          rcases hypothesis ((operation input).run.run start).context with ⟨ended, emitted⟩
          refine ⟨ended, ?_⟩
          dsimp only
          rw [List.flatMap_cons, emitted]

def logging (operation : ι → ExceptT ε (Action σ) α) :
    ι → ExceptT ε (Action (σ × List (Use ι σ (Except ε α)))) α := fun input =>
  ExceptT.mk ⟨fun state =>
    let reply := (operation input).run.run state.1
    ⟨reply.result, (reply.context, state.2 ++ [⟨input, state.1, reply⟩]), reply.events⟩⟩

/-- The log has no effect on what is done, and in the end it holds the attempts. -/
private theorem end_attempts_logging (operation : ι → ExceptT ε (Action σ) α) (start : σ)
    (log : List (Use ι σ (Except ε α))) (inputs : List ι) :
    Use.end (start, log) (attempts (logging operation) (start, log) inputs) =
      (Use.end start (attempts operation start inputs),
        log ++ attempts operation start inputs) := by
  rw [attempts_eq_usesUntil, attempts_eq_usesUntil]
  exact end_usesUntil_recording _ _ start log inputs

/-- Mapping a logging operation over inputs, from an empty log on, logs the attempts. -/
theorem log_mapM_logging (operation : ι → ExceptT ε (Action σ) α) (start : σ)
    (inputs : List ι) :
    ((inputs.mapM (logging operation)).run.run (start, [])).context.2 =
      attempts operation start inputs := by
  rw [(run_mapM_attempts (logging operation) (start, []) inputs).1, end_attempts_logging]
  rfl

end Action

end MarkedTree
