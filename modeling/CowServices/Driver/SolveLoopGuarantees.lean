import CowServices.Driver.SolveLoopLaws

/-! What `solve_until_deadline` guarantees over every schedule: the order and freshness of
its iterations, and the value it returns and when.
-/

namespace CowServices.Driver

variable {SolverAuction Summary : Type}

/-- The log of `solve_until_deadline` under a schedule. -/
def solveLog (channel : WatchChannel) (schedule : List (Action SolverAuction Summary))
    : List (Event SolverAuction Summary) :=
  (solveUntilDeadline channel schedule).2

/-- What the log of a schedule says at its end. -/
def solveView (channel : WatchChannel) (schedule : List (Action SolverAuction Summary))
    : View SolverAuction Summary :=
  (View.start channel).observe (solveLog channel schedule)

-----------------------------------------------------------------------------------------
-- Order and freshness of the iterations
-----------------------------------------------------------------------------------------

/-- A completed computation logs its result and nothing else. -/
@[simp] theorem SolveLoop.complete_events (loop : SolveLoop SolverAuction Summary)
    (result : Except Error Summary) : (loop.complete result).2 = [.computed result] := rfl

/-- Whether an event starts an iteration: the stream yielded a block. -/
@[simp] def Event.startsIteration : Event SolverAuction Summary → Bool
  | .taken _ => true
  | _ => false

/-- Whether an event completes an iteration: its result replaced the current solution. -/
@[simp] def Event.completesIteration : Event SolverAuction Summary → Bool
  | .computed _ => true
  | _ => false

/-- How the iterations a log started and completed stand at the view after it: between
iterations every one started has completed, during one exactly one has not, and after the
return at most one has not (the computation the timeout dropped).
-/
def Balanced (view : View SolverAuction Summary) (started completed : Nat) : Prop :=
  match view.stage with
  | .idle => started = completed
  | .stopped => completed ≤ started ∧ started ≤ completed + 1
  | _ => started = completed + 1

/-- Whatever the stage, at most one iteration is open. -/
theorem Balanced.bounds {view : View SolverAuction Summary} {started completed : Nat}
    (h : Balanced view started completed)
    : completed ≤ started ∧ started ≤ completed + 1 := by
  unfold Balanced at h
  split at h <;> omega

/-- An event in order keeps the balance: a block is taken only between iterations, and an
iteration completes only while one is under way. By cases on the event.
-/
theorem Balanced.step {view : View SolverAuction Summary} {started completed : Nat}
    {event : Event SolverAuction Summary} (h : Balanced view started completed)
    (order : InOrder view event)
    : Balanced (view.step event) (started + if event.startsIteration then 1 else 0)
        (completed + if event.completesIteration then 1 else 0) := by
  cases event with
  | published _ | closed => exact h
  | taken _ =>
      obtain ⟨idle, -⟩ := order
      simp only [Balanced, idle] at h
      simp [Balanced, View.step, h]
  | convertCalled _ =>
      obtain ⟨_, taken, -⟩ := order
      simpa [Balanced, View.step, taken] using h
  | commitCalled _ =>
      obtain ⟨_, converting⟩ := order
      simpa [Balanced, View.step, converting] using h
  | computed _ =>
      have busy : started = completed + 1 := by
        rcases order with ⟨_, stage, -⟩ | ⟨_, _, stage, -⟩ | ⟨_, stage⟩ <;>
          simpa [Balanced, stage] using h
      simp [Balanced, View.step, busy]
  | returned _ _ => simpa [Balanced, View.step] using h.bounds

/-- A log in order keeps the balance, counting the iterations it starts and completes. By
induction on the log, one event at a time.
-/
theorem Balanced.observe {view : View SolverAuction Summary} {started completed : Nat}
    {log : List (Event SolverAuction Summary)} (h : Balanced view started completed)
    (order : Admitted InOrder view log)
    : Balanced (view.observe log) (started + log.countP Event.startsIteration)
        (completed + log.countP Event.completesIteration) := by
  induction log generalizing view started completed with
  | nil => exact h
  | cons event rest ih =>
      have next := ih (h.step order.1) order.2
      simp only [List.countP_cons, View.observe_cons] at next ⊢
      convert next using 1 <;> omega

/-- Under every schedule the loop neither loses nor duplicates an iteration: each result
completes the one block taken before it, and between iterations every block taken has its
result. By the simulation of every run and the balance each event keeps.
-/
theorem solveUntilDeadline_iterations_balanced (channel : WatchChannel)
    (schedule : List (Action SolverAuction Summary))
    : let started := (solveLog channel schedule).countP Event.startsIteration
      let completed := (solveLog channel schedule).countP Event.completesIteration
      (completed ≤ started ∧ started ≤ completed + 1)
        ∧ ((solveView channel schedule).stage = .idle → started = completed) := by
  have order := Admitted.mono (fun _ _ lawful => lawful.1)
    (solveUntilDeadline_mirrors channel schedule).1
  have balanced : Balanced (solveView channel schedule) _ _ :=
    (show Balanced (View.start channel : View SolverAuction Summary) 0 0 from rfl).observe order
  simp only [Nat.zero_add] at balanced
  refine ⟨balanced.bounds, fun idle => ?_⟩
  simpa [Balanced, idle] using balanced

end CowServices.Driver
