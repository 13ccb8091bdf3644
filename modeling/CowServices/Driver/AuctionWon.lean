import CowServices.Basic.Primitives

/-! `Driver::on_auction_won`: reveal the settlement, validate it by simulation, submit it.
The collaborators are the driver's fields, each an arbitrary function of its arguments, and
the log of calls shows what was asked of them.
-/

namespace CowServices

namespace Driver

/-- What `simulate_settlements` reports for one settlement: the solver and settlement it
simulated, and the gas estimate or the simulation's error.
-/
structure SimulationDetails (Solver Settlement : Type) where
  solver : Solver
  settlement : Settlement
  gasEstimate : Except Error U256

/-- The receipt of a mined settlement; the driver reads its hash. -/
structure TransactionReceipt where
  transactionHash : H256

/-- Modelled from the spec: `api::execute::ExecuteError` is not in the repository's files.
A solver that declines is `ExecutionRejected`; any other failure is carried as an error.
-/
inductive ExecuteError
  | executionRejected
  | other (error : Error)

end Driver

/-- The collaborators `on_auction_won` calls: the commit-reveal solver's `reveal`, the gas
price estimator, the adapter that wraps the solver for rating, the settlement rater, the
solution submitter behind `submit_settlement`, and `SubmissionError::into_anyhow`.
-/
structure Driver (Summary Settlement GasPrice Solver SubmissionError : Type) where
  reveal : Summary → Except Error (Option Settlement)
  estimate : Except Error GasPrice
  adapter : Solver
  simulateSettlements
    : List (Solver × Settlement) → GasPrice
      → Except Error (List (Driver.SimulationDetails Solver Settlement))
  submit : Solver → Settlement → U256 → Option Nat
    → Except SubmissionError Driver.TransactionReceipt
  intoAnyhow : SubmissionError → Error

namespace Driver

/-- A call to a collaborator. -/
inductive Call (Summary Settlement GasPrice Solver : Type)
  | reveal (summary : Summary)
  | estimate
  | simulate (settlements : List (Solver × Settlement)) (gasPrice : GasPrice)
  | submit (solver : Solver) (settlement : Settlement) (gasEstimate : U256)
      (settlementId : Option Nat)

variable {Summary Settlement GasPrice Solver SubmissionError : Type}

/-- Whether a call submits a transaction. -/
def Call.isSubmit : Call Summary Settlement GasPrice Solver → Bool
  | .submit .. => true
  | _ => false

@[simp] theorem Call.isSubmit_reveal (summary : Summary)
    : (Call.reveal summary : Call Summary Settlement GasPrice Solver).isSubmit = false := rfl

@[simp] theorem Call.isSubmit_estimate
    : (Call.estimate : Call Summary Settlement GasPrice Solver).isSubmit = false := rfl

@[simp] theorem Call.isSubmit_simulate (settlements : List (Solver × Settlement))
    (gasPrice : GasPrice)
    : (Call.simulate settlements gasPrice : Call Summary Settlement GasPrice Solver).isSubmit
      = false := rfl

/-- `Driver::validate_settlement`: estimate the gas price, simulate the settlement alone,
take the last result with `pop`, and refuse it unless it carries a gas estimate.
-/
def validateSettlement
    (driver : Driver Summary Settlement GasPrice Solver SubmissionError) (settlement : Settlement)
    : List (Call Summary Settlement GasPrice Solver)
      × Except Error (SimulationDetails Solver Settlement) :=
  match driver.estimate with
  | .error err => ([.estimate], .error err)
  | .ok gasPrice =>
      let calls := [.estimate, .simulate [(driver.adapter, settlement)] gasPrice]
      match driver.simulateSettlements [(driver.adapter, settlement)] gasPrice with
      | .error err => (calls, .error err)
      | .ok results =>
          match results.getLast? with
          | none => (calls, .error (.msg "simulation returned no results"))
          | some details =>
              match details.gasEstimate with
              | .error err => (calls, .error (err.context "simulation failed"))
              | .ok _ => (calls, .ok details)

/-- `Driver::submit_settlement`; `none` where its `expect` on the gas estimate panics. -/
def submitSettlement
    (driver : Driver Summary Settlement GasPrice Solver SubmissionError)
    (details : SimulationDetails Solver Settlement)
    : Option (List (Call Summary Settlement GasPrice Solver) × Except SubmissionError H256) :=
  match details.gasEstimate with
  | .error _ => none
  | .ok gasEstimate =>
      some ([.submit details.solver details.settlement gasEstimate none],
        (driver.submit details.solver details.settlement gasEstimate none).map
          TransactionReceipt.transactionHash)

/-- `Driver::on_auction_won`: the calls made and the result, or `none` for a panic. -/
def onAuctionWon (driver : Driver Summary Settlement GasPrice Solver SubmissionError)
    (summary : Summary)
    : Option (List (Call Summary Settlement GasPrice Solver) × Except ExecuteError H256) :=
  match driver.reveal summary with
  | .error err => some ([.reveal summary], .error (.other err))
  | .ok none => some ([.reveal summary], .error .executionRejected)
  | .ok (some settlement) =>
      match driver.validateSettlement settlement with
      | (calls, .error err) => some (.reveal summary :: calls, .error (.other err))
      | (calls, .ok details) =>
          (driver.submitSettlement details).map fun submitted =>
            (.reveal summary :: calls ++ submitted.1,
              submitted.2.mapError fun err => .other (driver.intoAnyhow err))

-----------------------------------------------------------------------------------------
-- The per-auction state machine
-----------------------------------------------------------------------------------------

/-- The checks before a submission: the solver revealed `settlement`, the gas price was
estimated, and `details`, the last result of simulating the settlement, has a gas estimate.
-/
structure Validated (driver : Driver Summary Settlement GasPrice Solver SubmissionError)
    (summary : Summary) (settlement : Settlement) (gasPrice : GasPrice)
    (details : SimulationDetails Solver Settlement) (gasEstimate : U256) : Prop where
  revealed : driver.reveal summary = .ok (some settlement)
  estimated : driver.estimate = .ok gasPrice
  simulated : ∃ results, driver.simulateSettlements [(driver.adapter, settlement)] gasPrice
    = .ok results ∧ results.getLast? = some details
  estimate : details.gasEstimate = .ok gasEstimate

/-- `validate_settlement` accepts exactly the settlements whose last simulation result has
a gas estimate, and never submits; by cases on each collaborator's outcome.
-/
theorem validateSettlement_spec
    (driver : Driver Summary Settlement GasPrice Solver SubmissionError) (settlement : Settlement)
    : (∃ gasPrice details gasEstimate, driver.estimate = .ok gasPrice
        ∧ (∃ results, driver.simulateSettlements [(driver.adapter, settlement)] gasPrice
            = .ok results ∧ results.getLast? = some details)
        ∧ details.gasEstimate = .ok gasEstimate
        ∧ driver.validateSettlement settlement
          = ([.estimate, .simulate [(driver.adapter, settlement)] gasPrice], .ok details))
      ∨ ((∀ gasPrice details gasEstimate, driver.estimate = .ok gasPrice
            → (∃ results, driver.simulateSettlements [(driver.adapter, settlement)] gasPrice
                = .ok results ∧ results.getLast? = some details)
            → details.gasEstimate ≠ .ok gasEstimate)
        ∧ (∀ call ∈ (driver.validateSettlement settlement).1, call.isSubmit = false)
        ∧ ∃ err, (driver.validateSettlement settlement).2 = .error err) := by
  cases estimated : driver.estimate with
  | error err =>
      simp only [Driver.validateSettlement, estimated]
      exact .inr ⟨(fun _ _ _ ok => by cases ok), by simp, err, rfl⟩
  | ok gasPrice =>
      cases simulated : driver.simulateSettlements [(driver.adapter, settlement)] gasPrice with
      | error err =>
          simp only [Driver.validateSettlement, estimated, simulated]
          refine .inr ⟨?_, by simp, err, rfl⟩
          rintro _ _ _ ⟨⟩ ⟨_, found, _⟩
          simp [simulated] at found
      | ok results =>
          cases last : results.getLast? with
          | none =>
              simp only [Driver.validateSettlement, estimated, simulated, last]
              refine .inr ⟨?_, by simp, _, rfl⟩
              rintro _ _ _ ⟨⟩ ⟨_, found, lastFound⟩
              simp only [simulated, Except.ok.injEq] at found
              simp [← found, last] at lastFound
          | some details =>
              cases gas : details.gasEstimate with
              | error err =>
                  simp only [Driver.validateSettlement, estimated, simulated, last, gas]
                  refine .inr ⟨?_, by simp, _, rfl⟩
                  rintro _ _ _ ⟨⟩ ⟨_, found, lastFound⟩
                  simp only [simulated, Except.ok.injEq] at found
                  simp only [← found, last, Option.some.injEq] at lastFound
                  simp [← lastFound, gas]
              | ok gasEstimate =>
                  simp only [Driver.validateSettlement, estimated, simulated, last, gas]
                  exact .inl ⟨gasPrice, details, gasEstimate, rfl, ⟨results, simulated, last⟩,
                    gas, rfl⟩

/-- `on_auction_won` never panics; a declined reveal is `ExecutionRejected`, and a single
submission follows a revealed settlement with a gas estimate, its receipt's hash the result.
By the specification of `validate_settlement` and cases on the reveal.
-/
theorem onAuctionWon_follows_state_machine
    (driver : Driver Summary Settlement GasPrice Solver SubmissionError) (summary : Summary)
    : ∃ calls result, driver.onAuctionWon summary = some (calls, result)
      ∧ (driver.reveal summary = .ok none
          → calls = [.reveal summary] ∧ result = .error .executionRejected)
      ∧ ((∃ settlement gasPrice details gasEstimate,
            Validated driver summary settlement gasPrice details gasEstimate
            ∧ calls = [.reveal summary, .estimate,
                .simulate [(driver.adapter, settlement)] gasPrice,
                .submit details.solver details.settlement gasEstimate none]
            ∧ ∀ hash, result = .ok hash ↔ ∃ receipt,
                driver.submit details.solver details.settlement gasEstimate none = .ok receipt
                ∧ receipt.transactionHash = hash)
        ∨ ((∀ settlement gasPrice details gasEstimate,
              ¬ Validated driver summary settlement gasPrice details gasEstimate)
            ∧ (∀ call ∈ calls, call.isSubmit = false) ∧ ∃ err, result = .error err)) := by
  cases revealed : driver.reveal summary with
  | error err =>
      refine ⟨[.reveal summary], .error (.other err), by simp [Driver.onAuctionWon, revealed],
        by simp, .inr ⟨?_, by simp, _, rfl⟩⟩
      exact fun _ _ _ _ valid => by simpa [revealed] using valid.revealed
  | ok revelation =>
      cases revelation with
      | none =>
          refine ⟨[.reveal summary], .error .executionRejected,
            by simp [Driver.onAuctionWon, revealed], fun _ => ⟨rfl, rfl⟩,
            .inr ⟨?_, by simp, _, rfl⟩⟩
          exact fun _ _ _ _ valid => by simpa [revealed] using valid.revealed
      | some settlement =>
          rcases driver.validateSettlement_spec settlement with
            ⟨gasPrice, details, gasEstimate, estimated, simulated, gas, validated⟩
            | ⟨refused, noSubmit, err, failed⟩
          · refine ⟨_, ((driver.submit details.solver details.settlement gasEstimate none).map
                TransactionReceipt.transactionHash).mapError
                  fun err => .other (driver.intoAnyhow err),
              by simp [Driver.onAuctionWon, revealed, validated, Driver.submitSettlement, gas],
              by simp, .inl ⟨settlement, gasPrice, details, gasEstimate,
                ⟨revealed, estimated, simulated, gas⟩, rfl, fun hash => ?_⟩⟩
            cases driver.submit details.solver details.settlement gasEstimate none <;>
              simp [Except.mapError, Except.map]
          · rcases validated : driver.validateSettlement settlement with ⟨calls, result⟩
            rw [validated] at noSubmit failed
            subst failed
            refine ⟨.reveal summary :: calls, .error (.other err),
              by simp [Driver.onAuctionWon, revealed, validated], by simp,
              .inr ⟨fun other g d e valid => ?_, by simpa using noSubmit, _,
                rfl⟩⟩
            have same : other = settlement := by simpa [revealed] using valid.revealed.symm
            subst same
            exact refused g d e valid.estimated valid.simulated valid.estimate

end Driver

end CowServices
