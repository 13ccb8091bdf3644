import CowServices.Basic.Primitives

/-! `Driver::solve_until_deadline` as a state machine driven by a schedule.
A schedule interleaves the block producer, the collaborators' futures resolving, the loop's
polls and the timeout; every step logs what it observably did.
-/

namespace CowServices.Driver

-----------------------------------------------------------------------------------------
-- The block stream: a tokio watch channel read through a `WatchStream`
-----------------------------------------------------------------------------------------

/-- A block of the `CurrentBlockStream`; the solve loop reads only its number. -/
structure Block where
  number : Option UInt64
  deriving DecidableEq, Repr

/-- The slot a tokio `watch` channel shares between sender and receivers: the last value
sent, the version every send bumps, and whether the sender was dropped.
-/
structure WatchChannel where
  value : Block
  version : Nat
  closed : Bool
  deriving DecidableEq, Repr

/-- `Sender::send` stores the block and bumps the version. -/
def WatchChannel.send (channel : WatchChannel) (block : Block) : WatchChannel :=
  { channel with value := block, version := channel.version + 1 }

/-- A `WatchStream`: the version its receiver last marked seen, and whether it still holds
the ready future it is created with.
-/
structure WatchStream where
  seen : Nat
  primed : Bool
  deriving DecidableEq, Repr

/-- Modelled from the spec: `shared::current_block::into_stream` is not in the repository's
files; a `WatchStream` over the receiver, yielding the current block at once and then only the
latest block after a change.
-/
def intoStream (channel : WatchChannel) : WatchStream :=
  { seen := channel.version, primed := true }

/-- One poll of a stream: an item, its end, or nothing yet. -/
inductive StreamPoll (α : Type)
  | item (value : α)
  | ended
  | pending

/-- `WatchStream::poll_next`. The ready future yields the current block once; after that
`changed` reports a newer version before it reports a dropped sender, and
`borrow_and_update` reads the latest block and marks its version seen.
-/
def WatchStream.pollNext (stream : WatchStream) (channel : WatchChannel)
    : StreamPoll Block × WatchStream :=
  if stream.primed || stream.seen != channel.version then
    (.item channel.value, { seen := channel.version, primed := false })
  else if channel.closed then (.ended, stream)
  else (.pending, stream)

/-- Modelled from the spec: `shared::current_block::block_number` is not in the
repository's files; a block without a number is refused with "no block number".
-/
def blockNumber (block : Block) : Except Error UInt64 :=
  match block.number with
  | some number => .ok number
  | none => .error (.msg "no block number")

/-- The current solution `solve_until_deadline` starts from. -/
def deadlineWithoutResult : Error := .msg "reached the deadline without a result"

-----------------------------------------------------------------------------------------
-- Schedules, logs and the loop's state
-----------------------------------------------------------------------------------------

/-- The await point of the `compute_solution_for_block` future that `.then` holds. -/
inductive Computation (SolverAuction : Type)
  | converting (block : UInt64)
  | committing (auction : SolverAuction)

/-- Which of the loop's two `return` statements ended it. -/
inductive ReturnReason
  | deadline
  | streamEnded
  deriving DecidableEq, Repr

/-- What happens next: the producer sends a block or drops its sender, the loop polls
`compute_solutions`, the in-flight `convert_auction` or `commit` resolves, or the select
takes its timeout branch.
-/
inductive Action (SolverAuction Summary : Type)
  | publish (block : Block)
  | close
  | poll
  | converted (result : Except Error SolverAuction)
  | committed (result : Except Error Summary)
  | deadline

/-- What a step shows: a block published, the sender dropped, a block taken by the stream,
a collaborator called, a result computed (the loop's "computed new result"), or the
loop's return.
-/
inductive Event (SolverAuction Summary : Type)
  | published (block : Block)
  | closed
  | taken (block : Block)
  | convertCalled (block : UInt64)
  | commitCalled (auction : SolverAuction)
  | computed (result : Except Error Summary)
  | returned (reason : ReturnReason) (result : Except Error Summary)

/-- The channel, the stream over it, the future `.then` is driving, `current_solution`,
and the value the loop returned once it has.
-/
structure SolveLoop (SolverAuction Summary : Type) where
  channel : WatchChannel
  stream : WatchStream
  inFlight : Option (Computation SolverAuction)
  currentSolution : Except Error Summary
  result : Option (Except Error Summary)

variable {SolverAuction Summary : Type}

/-- `solve_until_deadline` before its first poll, reading from `channel`. -/
def SolveLoop.start (channel : WatchChannel) : SolveLoop SolverAuction Summary :=
  { channel, stream := intoStream channel, inFlight := none,
    currentSolution := .error deadlineWithoutResult, result := none }

-----------------------------------------------------------------------------------------
-- One step of the loop
-----------------------------------------------------------------------------------------

/-- `compute_solutions` yields `result`; it becomes `current_solution`. -/
def SolveLoop.complete (loop : SolveLoop SolverAuction Summary)
    (result : Except Error Summary)
    : SolveLoop SolverAuction Summary × List (Event SolverAuction Summary) :=
  ({ loop with inFlight := none, currentSolution := result }, [.computed result])

/-- `compute_solution_for_block` up to its first await: `block_number(&block)?` fails at
once, or `convert_auction` is called with the number.
-/
def SolveLoop.computeSolutionForBlock (loop : SolveLoop SolverAuction Summary) (block : Block)
    : SolveLoop SolverAuction Summary × List (Event SolverAuction Summary) :=
  match blockNumber block with
  | .error err => loop.complete (.error err)
  | .ok number => ({ loop with inFlight := some (.converting number) }, [.convertCalled number])

/-- A poll of `compute_solutions.next()` with no computation in flight: `.then` starts a
computation on the block the watch stream yields, or the stream has ended and the loop
returns its current solution.
-/
def SolveLoop.pollStream (loop : SolveLoop SolverAuction Summary)
    : SolveLoop SolverAuction Summary × List (Event SolverAuction Summary) :=
  match loop.stream.pollNext loop.channel with
  | (.item block, stream) =>
      let next := { loop with stream }.computeSolutionForBlock block
      (next.1, .taken block :: next.2)
  | (.ended, _) =>
      ({ loop with result := some loop.currentSolution },
        [.returned .streamEnded loop.currentSolution])
  | (.pending, _) => (loop, [])

/-- The loop's own steps while it has not returned. A resolved `convert_auction` error ends
the computation through `?`; a resolved auction is passed to `commit` in the same poll.
The timeout drops the computation in flight.
-/
def SolveLoop.react (loop : SolveLoop SolverAuction Summary)
    : Action SolverAuction Summary
      → SolveLoop SolverAuction Summary × List (Event SolverAuction Summary)
  | .poll =>
      match loop.inFlight with
      | none => loop.pollStream
      | some _ => (loop, [])
  | .converted result =>
      match loop.inFlight, result with
      | some (.converting _), .error err => loop.complete (.error err)
      | some (.converting _), .ok auction =>
          ({ loop with inFlight := some (.committing auction) }, [.commitCalled auction])
      | _, _ => (loop, [])
  | .committed result =>
      match loop.inFlight with
      | some (.committing _) => loop.complete result
      | _ => (loop, [])
  | .deadline =>
      ({ loop with inFlight := none, result := some loop.currentSolution },
        [.returned .deadline loop.currentSolution])
  | .publish _ => (loop, [])
  | .close => (loop, [])

/-- One action of the schedule. The producer can send only while it holds its sender; the
loop does nothing once it has returned.
-/
def SolveLoop.step (loop : SolveLoop SolverAuction Summary)
    : Action SolverAuction Summary
      → SolveLoop SolverAuction Summary × List (Event SolverAuction Summary)
  | .publish block =>
      if loop.channel.closed then (loop, [])
      else ({ loop with channel := loop.channel.send block }, [.published block])
  | .close =>
      if loop.channel.closed then (loop, [])
      else ({ loop with channel := { loop.channel with closed := true } }, [.closed])
  | action => if loop.result.isSome then (loop, []) else loop.react action

/-- The actions of a schedule in turn, with the log of all their events. -/
def SolveLoop.run (loop : SolveLoop SolverAuction Summary)
    : List (Action SolverAuction Summary)
      → SolveLoop SolverAuction Summary × List (Event SolverAuction Summary)
  | [] => (loop, [])
  | action :: rest =>
      let next := loop.step action
      let later := next.1.run rest
      (later.1, next.2 ++ later.2)

/-- `solve_until_deadline` on a receiver of `channel`, under `schedule`. -/
def solveUntilDeadline (channel : WatchChannel) (schedule : List (Action SolverAuction Summary))
    : SolveLoop SolverAuction Summary × List (Event SolverAuction Summary) :=
  (SolveLoop.start channel).run schedule

@[simp] theorem SolveLoop.run_nil (loop : SolveLoop SolverAuction Summary)
    : loop.run [] = (loop, []) := rfl

@[simp] theorem SolveLoop.run_cons (loop : SolveLoop SolverAuction Summary)
    (action : Action SolverAuction Summary) (rest : List (Action SolverAuction Summary))
    : loop.run (action :: rest)
      = (((loop.step action).1.run rest).1,
          (loop.step action).2 ++ ((loop.step action).1.run rest).2) := rfl

end CowServices.Driver
