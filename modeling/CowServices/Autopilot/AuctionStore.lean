import CowServices.Basic.Primitives

/-! The current-auction slot: `Postgres::replace_current_auction` deletes every row and
inserts the new auction in one transaction, and `most_recent_auction` reads it back.
The table is a single slot over every sequence of calls, whatever point each one fails at.
-/

namespace CowServices.Autopilot

-----------------------------------------------------------------------------------------
-- The table and its transactions
-----------------------------------------------------------------------------------------

/-- A row of the `auctions` table: the id the `BIGSERIAL` column gave it and its JSON. -/
structure AuctionRow (Json : Type) where
  id : Int
  json : Json

/-- The committed rows, and the next value of the sequence behind the id column, which a
rolled-back transaction does not give back.
-/
structure AuctionTable (Json : Type) where
  rows : List (AuctionRow Json)
  nextId : Int

/-- Where a call fails on the database: `begin`, `delete_all_auctions`, `save` (after the
sequence handed out an id, or before), or `commit`. A failed transaction is rolled back.
-/
inductive DbFailure
  | begin (error : Error)
  | deleteAll (error : Error)
  | save (idTaken : Bool) (error : Error)
  | commit (error : Error)

variable {Auction Json : Type}

/-- Modelled from the spec: `database::auction::delete_all_auctions` is not in the
repository's files; it removes every row the transaction sees.
-/
def deleteAllAuctions (_rows : List (AuctionRow Json)) : List (AuctionRow Json) := []

/-- Modelled from the spec: `database::auction::save` is not in the repository's files; it
inserts the JSON under the sequence's next id and returns that id.
-/
def save (rows : List (AuctionRow Json)) (id : Int) (json : Json) : List (AuctionRow Json) :=
  rows ++ [⟨id, json⟩]

/-- `Postgres::replace_current_auction`: serialise the auction, then in one transaction
delete all rows, save the JSON and commit. The table and the id returned, or the error.
-/
def replaceCurrentAuction (toValue : Auction → Except Error Json) (table : AuctionTable Json)
    (auction : Auction) (failure : Option DbFailure) : AuctionTable Json × Except Error Int :=
  match toValue auction with
  | .error err => (table, .error err)
  | .ok data =>
      match failure with
      | some (.begin err) => (table, .error err)
      | some (.deleteAll err) => (table, .error err)
      | some (.save idTaken err) =>
          ({ table with nextId := if idTaken then table.nextId + 1 else table.nextId }, .error err)
      | some (.commit err) => ({ table with nextId := table.nextId + 1 }, .error err)
      | none =>
          ({ rows := save (deleteAllAuctions table.rows) table.nextId data,
              nextId := table.nextId + 1 }, .ok table.nextId)

/-- A sequence of calls, each with the point it fails at if any; the table after them and
each call with its result.
-/
def replaceAll (toValue : Auction → Except Error Json) (table : AuctionTable Json)
    : List (Auction × Option DbFailure) → AuctionTable Json × List (Auction × Except Error Int)
  | [] => (table, [])
  | (auction, failure) :: rest =>
      let next := replaceCurrentAuction toValue table auction failure
      let later := replaceAll toValue next.1 rest
      (later.1, (auction, next.2) :: later.2)

/-- Modelled from the spec: `database::auction::load_most_recent` is not in the
repository's files; it reads the row with the greatest id, if there is one.
-/
def loadMostRecent (rows : List (AuctionRow Json)) : Option (AuctionRow Json) :=
  rows.foldl (fun best row =>
    match best with
    | some kept => if kept.id < row.id then some row else some kept
    | none => some row) none

/-- `AuctionRetrieval::most_recent_auction`: the connection or the query may fail; no row
is `None`; a row's JSON is decoded.
-/
def mostRecentAuction (fromValue : Json → Except Error Auction) (readFailure : Option Error)
    (table : AuctionTable Json) : Except Error (Option Auction) :=
  match readFailure with
  | some err => .error err
  | none =>
      match loadMostRecent table.rows with
      | none => .ok none
      | some row => (fromValue row.json).map some

-----------------------------------------------------------------------------------------
-- One call, and every sequence of calls
-----------------------------------------------------------------------------------------

/-- The row the latest successful call of a log left, if one succeeded after `start`. -/
def latestRow (toValue : Auction → Except Error Json) (start : Option (AuctionRow Json))
    (log : List (Auction × Except Error Int)) : Option (AuctionRow Json) :=
  log.foldl (fun latest entry =>
    match entry.2, toValue entry.1 with
    | .ok id, .ok json => some ⟨id, json⟩
    | _, _ => latest) start

/-- The ids the successful calls of a log returned, in order. -/
def returnedIds (log : List (Auction × Except Error Int)) : List Int :=
  log.filterMap fun entry => entry.2.toOption

/-- One call either fails, leaving the rows as they were and the sequence no lower, or
succeeds, leaving only its own row under the sequence's next id, which it returns. By cases
on the serialisation and the failure point.
-/
theorem replaceCurrentAuction_spec (toValue : Auction → Except Error Json)
    (table : AuctionTable Json) (auction : Auction) (failure : Option DbFailure)
    : ((∃ err, (replaceCurrentAuction toValue table auction failure).2 = .error err)
        ∧ (replaceCurrentAuction toValue table auction failure).1.rows = table.rows
        ∧ table.nextId ≤ (replaceCurrentAuction toValue table auction failure).1.nextId)
      ∨ ∃ json, toValue auction = .ok json
        ∧ (replaceCurrentAuction toValue table auction failure).2 = .ok table.nextId
        ∧ (replaceCurrentAuction toValue table auction failure).1
          = ⟨[⟨table.nextId, json⟩], table.nextId + 1⟩ := by
  unfold replaceCurrentAuction
  split
  · exact .inl ⟨⟨_, rfl⟩, rfl, Int.le_refl _⟩
  · rename_i json stored
    split
    · exact .inl ⟨⟨_, rfl⟩, rfl, Int.le_refl _⟩
    · exact .inl ⟨⟨_, rfl⟩, rfl, Int.le_refl _⟩
    · exact .inl ⟨⟨_, rfl⟩, rfl, by dsimp only; split <;> omega⟩
    · exact .inl ⟨⟨_, rfl⟩, rfl, by dsimp only; omega⟩
    · exact .inr ⟨json, stored, rfl, rfl⟩

/-- Over every sequence of calls the rows are the latest successful call's row, or the
rows before if none succeeded; the ids returned strictly increase, and all lie from the
sequence's value before the calls up to its value after. By induction on the calls.
-/
theorem replaceAll_spec (toValue : Auction → Except Error Json) (table : AuctionTable Json)
    (start : Option (AuctionRow Json)) (calls : List (Auction × Option DbFailure))
    (slot : table.rows = start.toList)
    : (replaceAll toValue table calls).1.rows
        = (latestRow toValue start (replaceAll toValue table calls).2).toList
      ∧ (returnedIds (replaceAll toValue table calls).2).Pairwise (· < ·)
      ∧ (∀ id ∈ returnedIds (replaceAll toValue table calls).2,
          table.nextId ≤ id ∧ id < (replaceAll toValue table calls).1.nextId)
      ∧ table.nextId ≤ (replaceAll toValue table calls).1.nextId := by
  induction calls generalizing table start with
  | nil => exact ⟨slot, List.Pairwise.nil, by simp [replaceAll, returnedIds], Int.le_refl _⟩
  | cons call rest ih =>
      obtain ⟨auction, failure⟩ := call
      rcases replaceCurrentAuction_spec toValue table auction failure with
        ⟨⟨err, failed⟩, rows, grows⟩ | ⟨json, stored, succeeded, next⟩
      · obtain ⟨rows', sorted, bounds, grows'⟩ := ih _ start (rows.trans slot)
        simp only [replaceAll, returnedIds, latestRow, failed, List.foldl_cons,
          List.filterMap_cons, Except.toOption] at rows' sorted bounds grows' ⊢
        exact ⟨rows', sorted,
          fun id mem => ⟨Int.le_trans grows (bounds id mem).1, (bounds id mem).2⟩,
          Int.le_trans grows grows'⟩
      · have advanced : (replaceCurrentAuction toValue table auction failure).1.nextId
            = table.nextId + 1 := by rw [next]
        obtain ⟨rows', sorted, bounds, grows'⟩ :=
          ih (replaceCurrentAuction toValue table auction failure).1 (some ⟨table.nextId, json⟩)
            (by rw [next]; rfl)
        rw [advanced] at bounds grows'
        simp only [replaceAll, returnedIds, latestRow, succeeded, stored, List.foldl_cons,
          List.filterMap_cons, Except.toOption] at rows' sorted bounds ⊢
        refine ⟨rows', List.pairwise_cons.mpr ⟨fun id mem => ?_, sorted⟩,
          fun id mem => ?_, by omega⟩
        · have := (bounds id mem).1
          omega
        · rcases List.mem_cons.mp mem with rfl | mem
          · exact ⟨Int.le_refl _, by omega⟩
          · exact ⟨by have := (bounds id mem).1; omega, (bounds id mem).2⟩

-----------------------------------------------------------------------------------------
-- The single slot
-----------------------------------------------------------------------------------------

/-- From an empty table the slot holds only the latest successful call's row; a failed call
keeps the rows, a call that goes through stores its JSON under the id it returns, the ids
increase, and `most_recent_auction` reads the latest row back. By the run lemma.
-/
theorem replaceCurrentAuction_single_slot (toValue : Auction → Except Error Json)
    (fromValue : Json → Except Error Auction) (nextId : Int)
    (calls : List (Auction × Option DbFailure)) (readFailure : Option Error)
    : (replaceAll toValue ⟨[], nextId⟩ calls).1.rows
        = (latestRow toValue none (replaceAll toValue ⟨[], nextId⟩ calls).2).toList
      ∧ (replaceAll toValue ⟨[], nextId⟩ calls).1.rows.length ≤ 1
      ∧ (∀ table auction failure,
          ((∃ err, (replaceCurrentAuction toValue table auction failure).2 = .error err)
            ∧ (replaceCurrentAuction toValue table auction failure).1.rows = table.rows)
          ∨ ∃ id json, (replaceCurrentAuction toValue table auction failure).2 = .ok id
            ∧ toValue auction = .ok json
            ∧ (replaceCurrentAuction toValue table auction failure).1.rows = [⟨id, json⟩])
      ∧ (∀ table auction json, toValue auction = .ok json
          → replaceCurrentAuction toValue table auction none
            = (⟨[⟨table.nextId, json⟩], table.nextId + 1⟩, .ok table.nextId))
      ∧ (returnedIds (replaceAll toValue ⟨[], nextId⟩ calls).2).Pairwise (· < ·)
      ∧ mostRecentAuction fromValue readFailure (replaceAll toValue ⟨[], nextId⟩ calls).1
        = match readFailure, latestRow toValue none (replaceAll toValue ⟨[], nextId⟩ calls).2 with
          | some err, _ => .error err
          | none, none => .ok none
          | none, some row => (fromValue row.json).map some := by
  obtain ⟨rows, sorted, -, -⟩ := replaceAll_spec toValue ⟨[], nextId⟩ none calls rfl
  refine ⟨rows, by rw [rows]; cases latestRow toValue none _ <;> simp,
    fun table auction failure => ?_, fun table auction json serialised => ?_, sorted, ?_⟩
  · rcases replaceCurrentAuction_spec toValue table auction failure with
      ⟨failed, kept, -⟩ | ⟨json, stored, returned, next⟩
    · exact .inl ⟨failed, kept⟩
    · exact .inr ⟨_, json, returned, stored, by rw [next]⟩
  · simp only [replaceCurrentAuction, serialised]
    rfl
  · generalize latestRow toValue none (replaceAll toValue ⟨[], nextId⟩ calls).2 = latest
      at rows ⊢
    cases readFailure <;> cases latest <;> simp [mostRecentAuction, rows, loadMostRecent]

end CowServices.Autopilot
