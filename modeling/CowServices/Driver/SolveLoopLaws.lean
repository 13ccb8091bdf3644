import CowServices.Driver.SolveLoopView

/-! Every log of the solve loop obeys the laws of its events, by a simulation of the loop by
the view of its log: each step keeps the two in step, so every run does.
-/

namespace CowServices.Driver

variable {SolverAuction Summary : Type}

-----------------------------------------------------------------------------------------
-- The view mirrors the loop
-----------------------------------------------------------------------------------------

/-- The stage the loop's own state stands at. -/
def SolveLoop.stage (loop : SolveLoop SolverAuction Summary) : Stage SolverAuction :=
  match loop.result, loop.inFlight with
  | some _, _ => .stopped
  | none, none => .idle
  | none, some (.converting block) => .converting block
  | none, some (.committing auction) => .committing auction

/-- The view's reading of the block stream matches the channel and the receiver. The seen
version never passes the channel's, and the two differ exactly when a block is unread.
-/
structure StreamMirrors (loop : SolveLoop SolverAuction Summary)
    (view : View SolverAuction Summary) : Prop where
  latest : view.latest = loop.channel.value
  closed : view.closed = loop.channel.closed
  seen_le : loop.stream.seen ≤ loop.channel.version
  unread : view.unread = (loop.stream.primed || loop.stream.seen != loop.channel.version)

/-- The view of a log mirrors the loop that wrote it. -/
structure Mirrors (loop : SolveLoop SolverAuction Summary) (view : View SolverAuction Summary)
    extends StreamMirrors loop view : Prop where
  stage : view.stage = loop.stage
  last : view.last = loop.currentSolution

/-- Steps that touch neither the channel, the stream, nor the view's reading of them keep
the stream part of the mirror.
-/
theorem StreamMirrors.keep {loop loop' : SolveLoop SolverAuction Summary}
    {view view' : View SolverAuction Summary} (h : StreamMirrors loop view)
    (channel : loop'.channel = loop.channel) (stream : loop'.stream = loop.stream)
    (latest : view'.latest = view.latest) (closed : view'.closed = view.closed)
    (unread : view'.unread = view.unread) : StreamMirrors loop' view' := by
  obtain ⟨hl, hc, hs, hu⟩ := h
  exact ⟨by rw [latest, channel, hl], by rw [closed, channel, hc],
    by rw [stream, channel]; exact hs, by rw [unread, channel, stream, hu]⟩

/-- A loop that has not returned is at some stage short of stopped. -/
theorem SolveLoop.stage_ne_stopped {loop : SolveLoop SolverAuction Summary}
    (free : loop.result = none) : loop.stage ≠ .stopped := by
  unfold SolveLoop.stage
  rw [free]
  split <;> simp_all

/-- A step's events are lawful at the view before them, and the view after them mirrors
the loop after the step.
-/
def StepMirrors (view : View SolverAuction Summary)
    (next : SolveLoop SolverAuction Summary × List (Event SolverAuction Summary)) : Prop :=
  Admitted Lawful view next.2 ∧ Mirrors next.1 (view.observe next.2)

/-- The loop before its first poll and the empty log agree. -/
theorem Mirrors.start (channel : WatchChannel)
    : Mirrors (SolveLoop.start channel : SolveLoop SolverAuction Summary) (View.start channel) :=
  ⟨⟨rfl, rfl, le_refl _, by simp [View.start, SolveLoop.start, intoStream]⟩, rfl, rfl⟩

/-- A step that changes nothing and logs nothing keeps the mirror. -/
theorem StepMirrors.idle {loop : SolveLoop SolverAuction Summary}
    {view : View SolverAuction Summary} (h : Mirrors loop view) : StepMirrors view (loop, []) :=
  ⟨trivial, h⟩

-----------------------------------------------------------------------------------------
-- Each kind of step keeps the mirror
-----------------------------------------------------------------------------------------

/-- The producer's steps keep the mirror: a send leaves a block unread, since the seen
version cannot reach the bumped one.
-/
theorem StepMirrors.producer {loop : SolveLoop SolverAuction Summary}
    {view : View SolverAuction Summary} (h : Mirrors loop view)
    : (∀ block, StepMirrors view (loop.step (.publish block)))
      ∧ StepMirrors view (loop.step .close) := by
  obtain ⟨⟨hl, hc, hs, hu⟩, hst, hlast⟩ := h
  refine ⟨fun block => ?_, ?_⟩ <;> by_cases closed : loop.channel.closed
  all_goals simp only [SolveLoop.step, closed, if_true, if_false, Bool.false_eq_true]
  all_goals first
    | exact ⟨trivial, ⟨⟨hl, hc, hs, hu⟩, hst, hlast⟩⟩
    | refine ⟨by simp [Admitted, Lawful, InOrder, ReturnsLast], ?_⟩
  · have fresh : loop.stream.seen ≠ loop.channel.version + 1 := by omega
    exact ⟨⟨rfl, by simpa [View.step, WatchChannel.send] using hc,
      by simp only [WatchChannel.send]; omega, by simp [View.step, WatchChannel.send, fresh]⟩,
      hst, hlast⟩
  · exact ⟨⟨hl, rfl, hs, hu⟩, hst, hlast⟩

/-- A completed computation, lawful at the view before it, becomes the last result and
leaves the loop idle.
-/
theorem StepMirrors.complete {loop : SolveLoop SolverAuction Summary}
    {view : View SolverAuction Summary} (h : StreamMirrors loop view)
    (free : loop.result = none) {result : Except Error Summary}
    (lawful : Lawful view (.computed result))
    : StepMirrors view (loop.complete result) :=
  ⟨⟨lawful, trivial⟩, ⟨h.keep rfl rfl rfl rfl rfl,
    by simp [View.step, SolveLoop.stage, SolveLoop.complete, free], rfl⟩⟩

/-- A poll with nothing in flight keeps the mirror: the stream yields the latest block while
one is unread, ends once the sender is gone, and otherwise waits.
-/
theorem StepMirrors.pollStream {loop : SolveLoop SolverAuction Summary}
    {view : View SolverAuction Summary} (h : Mirrors loop view)
    (free : loop.result = none) (idle : loop.inFlight = none)
    : StepMirrors view loop.pollStream := by
  have hidle : view.stage = .idle := by rw [h.stage]; simp [SolveLoop.stage, free, idle]
  by_cases unread : (loop.stream.primed || loop.stream.seen != loop.channel.version) = true
  · have taken : Lawful view (.taken loop.channel.value) :=
      ⟨⟨hidle, h.unread ▸ unread, h.latest.symm⟩, by simp [ReturnsLast, hidle]⟩
    have after : StreamMirrors
        { loop with stream := { seen := loop.channel.version, primed := false } }
        (view.step (.taken loop.channel.value)) :=
      ⟨h.latest, h.closed, le_refl _, by simp [View.step]⟩
    simp only [SolveLoop.pollStream, WatchStream.pollNext, unread, if_true]
    cases number : loop.channel.value.number with
    | none =>
        have refused : blockNumber loop.channel.value = .error (.msg "no block number") := by
          simp [blockNumber, number]
        simp only [SolveLoop.computeSolutionForBlock, refused]
        obtain ⟨lawful, mirrors⟩ := StepMirrors.complete after free
          ⟨.inl ⟨_, rfl, number, rfl⟩, by simp [ReturnsLast, View.step]⟩
        exact ⟨⟨taken, lawful⟩, mirrors⟩
    | some block =>
        have numbered : blockNumber loop.channel.value = .ok block := by
          simp [blockNumber, number]
        simp only [SolveLoop.computeSolutionForBlock, numbered]
        exact ⟨⟨taken, ⟨⟨_, rfl, number⟩, by simp [ReturnsLast, View.step]⟩, trivial⟩,
          ⟨after.keep rfl rfl rfl rfl rfl, by simp [View.step, SolveLoop.stage, free],
            h.last⟩⟩
  · simp only [Bool.not_eq_true] at unread
    by_cases closed : loop.channel.closed = true
    · simp only [SolveLoop.pollStream, WatchStream.pollNext, unread, closed, if_true,
        Bool.false_eq_true, if_false]
      exact ⟨⟨⟨trivial, by simp [ReturnsLast, hidle, h.last, h.closed, h.unread, closed, unread]⟩,
        trivial⟩, ⟨h.toStreamMirrors.keep rfl rfl rfl rfl rfl,
          by simp [View.step, SolveLoop.stage], h.last⟩⟩
    · simp only [Bool.not_eq_true] at closed
      simp only [SolveLoop.pollStream, WatchStream.pollNext, unread, closed, Bool.false_eq_true,
        if_false]
      exact StepMirrors.idle h

/-- The loop's own steps keep the mirror while it has not returned. -/
theorem StepMirrors.react {loop : SolveLoop SolverAuction Summary}
    {view : View SolverAuction Summary} (h : Mirrors loop view) (free : loop.result = none)
    (action : Action SolverAuction Summary) : StepMirrors view (loop.react action) := by
  cases action with
  | publish block => exact StepMirrors.idle h
  | close => exact StepMirrors.idle h
  | poll =>
      cases idle : loop.inFlight with
      | none => simpa [SolveLoop.react, idle] using StepMirrors.pollStream h free idle
      | some computation => simpa [SolveLoop.react, idle] using StepMirrors.idle h
  | converted result =>
      cases flight : loop.inFlight with
      | none => simpa [SolveLoop.react, flight] using StepMirrors.idle h
      | some computation =>
          cases computation with
          | committing auction => simpa [SolveLoop.react, flight] using StepMirrors.idle h
          | converting block =>
              have converting : view.stage = .converting block := by
                simp [h.stage, SolveLoop.stage, free, flight]
              cases result with
              | error err =>
                  simpa [SolveLoop.react, flight] using StepMirrors.complete h.toStreamMirrors
                    free ⟨.inr (.inl ⟨block, err, converting, rfl⟩),
                      by simp [ReturnsLast, converting]⟩
              | ok auction =>
                  simp only [SolveLoop.react, flight]
                  exact ⟨⟨⟨⟨block, converting⟩, by simp [ReturnsLast, converting]⟩, trivial⟩,
                    ⟨h.toStreamMirrors.keep rfl rfl rfl rfl rfl,
                      by simp [View.step, SolveLoop.stage, free], h.last⟩⟩
  | committed result =>
      cases flight : loop.inFlight with
      | none => simpa [SolveLoop.react, flight] using StepMirrors.idle h
      | some computation =>
          cases computation with
          | converting block => simpa [SolveLoop.react, flight] using StepMirrors.idle h
          | committing auction =>
              have committing : view.stage = .committing auction := by
                simp [h.stage, SolveLoop.stage, free, flight]
              simpa [SolveLoop.react, flight] using StepMirrors.complete h.toStreamMirrors free
                ⟨.inr (.inr ⟨auction, committing⟩), by simp [ReturnsLast, committing]⟩
  | deadline =>
      have running : view.stage ≠ .stopped := h.stage ▸ SolveLoop.stage_ne_stopped free
      exact ⟨⟨⟨trivial, by simp [ReturnsLast, running, h.last]⟩, trivial⟩,
        ⟨h.toStreamMirrors.keep rfl rfl rfl rfl rfl,
          by simp [SolveLoop.react, View.step, SolveLoop.stage], h.last⟩⟩

/-- Every step keeps the mirror, the loop's own steps doing nothing once it has returned. -/
theorem StepMirrors.step {loop : SolveLoop SolverAuction Summary}
    {view : View SolverAuction Summary} (h : Mirrors loop view)
    (action : Action SolverAuction Summary) : StepMirrors view (loop.step action) := by
  cases action with
  | publish block => exact (StepMirrors.producer h).1 block
  | close => exact (StepMirrors.producer h).2
  | _ =>
      cases free : loop.result with
      | none => simpa [SolveLoop.step, free] using StepMirrors.react h free _
      | some _ => simpa [SolveLoop.step, free] using StepMirrors.idle h

/-- Every run keeps the mirror and logs only lawful events, by schedule induction. -/
theorem StepMirrors.run {loop : SolveLoop SolverAuction Summary}
    {view : View SolverAuction Summary} (h : Mirrors loop view)
    (schedule : List (Action SolverAuction Summary)) : StepMirrors view (loop.run schedule) := by
  induction schedule generalizing loop view with
  | nil => exact StepMirrors.idle h
  | cons action rest ih =>
      obtain ⟨lawful, mirrors⟩ := StepMirrors.step h action
      obtain ⟨lawful', mirrors'⟩ := ih mirrors
      exact ⟨(admitted_append _ _ _).mpr ⟨lawful, lawful'⟩, by simpa using mirrors'⟩

/-- Every log of `solve_until_deadline` is lawful, and its view mirrors the loop. -/
theorem solveUntilDeadline_mirrors (channel : WatchChannel)
    (schedule : List (Action SolverAuction Summary))
    : StepMirrors (View.start channel) (solveUntilDeadline channel schedule) :=
  StepMirrors.run (Mirrors.start channel) schedule

end CowServices.Driver
