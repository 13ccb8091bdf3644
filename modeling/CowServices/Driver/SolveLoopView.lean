import CowServices.Driver.SolveLoop

/-! What a log of the solve loop says, read event by event, and the laws each event must
obey given the events before it. The loop's version counters are mirrored by a flag for
an unread block.
-/

namespace CowServices.Driver

variable {SolverAuction Summary : Type}

-----------------------------------------------------------------------------------------
-- Reading a log
-----------------------------------------------------------------------------------------

/-- Where the current iteration stands, as the log shows it. -/
inductive Stage (SolverAuction : Type)
  | idle
  | taken (block : Block)
  | converting (block : UInt64)
  | committing (auction : SolverAuction)
  | stopped

/-- What the log so far says: the latest block published, whether the stream has a block
it has not yielded yet, whether the sender is gone, the stage of the current iteration,
and the result of the last completed iteration (the sentinel error before any).
-/
structure View (SolverAuction Summary : Type) where
  latest : Block
  unread : Bool
  closed : Bool
  stage : Stage SolverAuction
  last : Except Error Summary

/-- Nothing logged yet: the stream owes its first block. -/
def View.start (channel : WatchChannel) : View SolverAuction Summary :=
  { latest := channel.value, unread := true, closed := channel.closed, stage := .idle,
    last := .error deadlineWithoutResult }

/-- One more logged event. -/
def View.step (view : View SolverAuction Summary)
    : Event SolverAuction Summary → View SolverAuction Summary
  | .published block => { view with latest := block, unread := true }
  | .closed => { view with closed := true }
  | .taken block => { view with unread := false, stage := .taken block }
  | .convertCalled block => { view with stage := .converting block }
  | .commitCalled auction => { view with stage := .committing auction }
  | .computed result => { view with stage := .idle, last := result }
  | .returned _ _ => { view with stage := .stopped }

/-- The view after a whole log. -/
def View.observe (view : View SolverAuction Summary) (log : List (Event SolverAuction Summary))
    : View SolverAuction Summary :=
  log.foldl View.step view

@[simp] theorem View.observe_nil (view : View SolverAuction Summary) : view.observe [] = view :=
  rfl

@[simp] theorem View.observe_cons (view : View SolverAuction Summary)
    (event : Event SolverAuction Summary) (log : List (Event SolverAuction Summary))
    : view.observe (event :: log) = (view.step event).observe log := rfl

@[simp] theorem View.observe_append (view : View SolverAuction Summary)
    (first second : List (Event SolverAuction Summary))
    : view.observe (first ++ second) = (view.observe first).observe second :=
  List.foldl_append _ _ _ _

-----------------------------------------------------------------------------------------
-- Laws of one event
-----------------------------------------------------------------------------------------

/-- The order the spec gives the iterations: the latest unread block is taken between
iterations, its number goes to `convert_auction` and the auction to `commit`, and the
iteration completes with the first error or the commit's result.
-/
def InOrder (view : View SolverAuction Summary) : Event SolverAuction Summary → Prop
  | .taken block => view.stage = .idle ∧ view.unread = true ∧ block = view.latest
  | .convertCalled number => ∃ block, view.stage = .taken block ∧ block.number = some number
  | .commitCalled _ => ∃ number, view.stage = .converting number
  | .computed result =>
      (∃ block, view.stage = .taken block ∧ block.number = none
        ∧ result = .error (.msg "no block number"))
      ∨ (∃ number err, view.stage = .converting number ∧ result = .error err)
      ∨ ∃ auction, view.stage = .committing auction
  | .published _ => True
  | .closed => True
  | .returned _ _ => True

/-- The loop returns once, with the result of the last completed iteration, and only at
the timeout or at the end of the stream: the sender gone, no block unread and no
computation in flight. Nothing of the loop follows its return.
-/
def ReturnsLast (view : View SolverAuction Summary) : Event SolverAuction Summary → Prop
  | .returned reason result =>
      view.stage ≠ .stopped ∧ result = view.last
        ∧ (reason = .streamEnded → view.closed = true ∧ view.unread = false ∧ view.stage = .idle)
  | .published _ => True
  | .closed => True
  | _ => view.stage ≠ .stopped

/-- Both laws of one event. -/
def Lawful (view : View SolverAuction Summary) (event : Event SolverAuction Summary) : Prop :=
  InOrder view event ∧ ReturnsLast view event

/-- Every event of `log` obeys `law` at the view of the events before it. -/
def Admitted (law : View SolverAuction Summary → Event SolverAuction Summary → Prop)
    : View SolverAuction Summary → List (Event SolverAuction Summary) → Prop
  | _, [] => True
  | view, event :: rest => law view event ∧ Admitted law (view.step event) rest

/-- A log is admitted exactly when both of its parts are, by induction on the first part. -/
theorem admitted_append {law : View SolverAuction Summary → Event SolverAuction Summary → Prop}
    (view : View SolverAuction Summary) (first second : List (Event SolverAuction Summary))
    : Admitted law view (first ++ second)
      ↔ Admitted law view first ∧ Admitted law (view.observe first) second := by
  induction first generalizing view with
  | nil => simp [Admitted]
  | cons event rest ih => simp [Admitted, ih, and_assoc]

/-- An admitted log obeys the law at each of its positions. -/
theorem Admitted.at {law : View SolverAuction Summary → Event SolverAuction Summary → Prop}
    {view : View SolverAuction Summary} {before after : List (Event SolverAuction Summary)}
    {event : Event SolverAuction Summary} (h : Admitted law view (before ++ event :: after))
    : law (view.observe before) event :=
  ((admitted_append view before _).mp h).2.1

/-- Admission under both laws gives admission under each. -/
theorem Admitted.mono
    {law law' : View SolverAuction Summary → Event SolverAuction Summary → Prop}
    (weaken : ∀ view event, law view event → law' view event)
    {view : View SolverAuction Summary} {log : List (Event SolverAuction Summary)}
    (h : Admitted law view log) : Admitted law' view log := by
  induction log generalizing view with
  | nil => trivial
  | cons event rest ih => exact ⟨weaken _ _ h.1, ih h.2⟩

end CowServices.Driver
