import CowServices.Basic.TextCodecs

/-! `model::solver_competition`: the record of an auction's competition and the JSON that
`serde_json::to_value` writes for it. Reading that JSON back gives the record exactly when its
floats are finite; a NaN or an infinity is written as `null`, which no `f64` reads.
-/

namespace CowServices.Model

open Json

-----------------------------------------------------------------------------------------
-- The record
-----------------------------------------------------------------------------------------

/-- `solver_competition::Objective`. -/
structure Objective where
  total : F64
  surplus : F64
  fees : F64
  cost : F64
  gas : UInt64

/-- `solver_competition::Order`: an order of a solution and the amount it executed. -/
structure Order where
  id : OrderUid
  executedAmount : U256

/-- `SolverSettlement`. -/
structure SolverSettlement where
  solver : String
  objective : Objective
  clearingPrices : BTreeMap H160 U256
  orders : List Order
  callData : List UInt8

/-- `CompetitionAuction`. -/
structure CompetitionAuction where
  orders : List OrderUid
  prices : BTreeMap H160 U256

/-- `SolverCompetition`; `AuctionId` is an `i64`. -/
structure SolverCompetition where
  auctionId : I64
  gasPrice : F64
  auctionStartBlock : UInt64
  liquidityCollectedBlock : UInt64
  competitionSimulationBlock : UInt64
  transactionHash : Option H256
  auction : CompetitionAuction
  solutions : List SolverSettlement

/-- Every float of an objective is finite. -/
def Objective.finite (objective : Objective) : Bool :=
  objective.total.isFinite && objective.surplus.isFinite && objective.fees.isFinite
    && objective.cost.isFinite

/-- The gas price and every float of every solution's objective are finite. -/
def SolverCompetition.finite (competition : SolverCompetition) : Bool :=
  competition.gasPrice.isFinite
    && competition.solutions.all fun solution => solution.objective.finite

-----------------------------------------------------------------------------------------
-- The derived `Serialize`, with `rename_all = "camelCase"`
-----------------------------------------------------------------------------------------

/-- A map of prices with `serde_as(as = "BTreeMap<_, DecimalU256>")`. -/
def pricesToValue (prices : BTreeMap H160 U256) : Value :=
  mapToValue FixedBytes.toHex u256ToValue prices

def Objective.toValue (objective : Objective) : Value :=
  structToValue [("total", f64ToValue objective.total), ("surplus", f64ToValue objective.surplus),
    ("fees", f64ToValue objective.fees), ("cost", f64ToValue objective.cost),
    ("gas", u64ToValue objective.gas)]

def Order.toValue (order : Order) : Value :=
  structToValue [("id", fixedBytesToValue order.id),
    ("executedAmount", u256ToValue order.executedAmount)]

def SolverSettlement.toValue (settlement : SolverSettlement) : Value :=
  structToValue [("solver", .string settlement.solver),
    ("objective", settlement.objective.toValue),
    ("clearingPrices", pricesToValue settlement.clearingPrices),
    ("orders", vecToValue Order.toValue settlement.orders),
    ("callData", bytesToValue settlement.callData)]

def CompetitionAuction.toValue (auction : CompetitionAuction) : Value :=
  structToValue [("orders", vecToValue fixedBytesToValue auction.orders),
    ("prices", pricesToValue auction.prices)]

/-- `serde_json::to_value(&competition)`, which cannot fail for this type. -/
def SolverCompetition.toValue (competition : SolverCompetition) : Value :=
  structToValue [("auctionId", i64ToValue competition.auctionId),
    ("gasPrice", f64ToValue competition.gasPrice),
    ("auctionStartBlock", u64ToValue competition.auctionStartBlock),
    ("liquidityCollectedBlock", u64ToValue competition.liquidityCollectedBlock),
    ("competitionSimulationBlock", u64ToValue competition.competitionSimulationBlock),
    ("transactionHash", optionToValue fixedBytesToValue competition.transactionHash),
    ("auction", competition.auction.toValue),
    ("solutions", vecToValue SolverSettlement.toValue competition.solutions)]

-----------------------------------------------------------------------------------------
-- The derived `Deserialize`
-----------------------------------------------------------------------------------------

/-- The reader of a map of prices. -/
def pricesFromValue : Value → Except Error (BTreeMap H160 U256) :=
  mapFromValue (FixedBytes.fromHex 20) u256FromValue

def Objective.fromValue : Value → Except Error Objective
  | .object entries => do
      let total ← field entries "total" f64FromValue
      let surplus ← field entries "surplus" f64FromValue
      let fees ← field entries "fees" f64FromValue
      let cost ← field entries "cost" f64FromValue
      let gas ← field entries "gas" u64FromValue
      pure { total, surplus, fees, cost, gas }
  | value => .error (invalidType value "struct Objective")

def Order.fromValue : Value → Except Error Order
  | .object entries => do
      let id ← field entries "id" (fixedBytesFromValue 56)
      let executedAmount ← field entries "executedAmount" u256FromValue
      pure { id, executedAmount }
  | value => .error (invalidType value "struct Order")

def SolverSettlement.fromValue : Value → Except Error SolverSettlement
  | .object entries => do
      let solver ← field entries "solver" stringFromValue
      let objective ← field entries "objective" Objective.fromValue
      let clearingPrices ← field entries "clearingPrices" pricesFromValue
      let orders ← field entries "orders" (vecFromValue Order.fromValue)
      let callData ← field entries "callData" bytesFromValue
      pure { solver, objective, clearingPrices, orders, callData }
  | value => .error (invalidType value "struct SolverSettlement")

def CompetitionAuction.fromValue : Value → Except Error CompetitionAuction
  | .object entries => do
      let orders ← field entries "orders" (vecFromValue (fixedBytesFromValue 56))
      let prices ← field entries "prices" pricesFromValue
      pure { orders, prices }
  | value => .error (invalidType value "struct CompetitionAuction")

/-- `serde_json::from_value::<SolverCompetition>`. The auction id has `#[serde(default)]`,
and a missing transaction hash is `None`.
-/
def SolverCompetition.fromValue : Value → Except Error SolverCompetition
  | .object entries => do
      let auctionId ← fieldOr ⟨0, by norm_num, by norm_num⟩ entries "auctionId" i64FromValue
      let gasPrice ← field entries "gasPrice" f64FromValue
      let auctionStartBlock ← field entries "auctionStartBlock" u64FromValue
      let liquidityCollectedBlock ← field entries "liquidityCollectedBlock" u64FromValue
      let competitionSimulationBlock ← field entries "competitionSimulationBlock" u64FromValue
      let transactionHash ← fieldOr none entries "transactionHash"
        (optionFromValue (fixedBytesFromValue 32))
      let auction ← field entries "auction" CompetitionAuction.fromValue
      let solutions ← field entries "solutions" (vecFromValue SolverSettlement.fromValue)
      pure ⟨auctionId, gasPrice, auctionStartBlock, liquidityCollectedBlock,
        competitionSimulationBlock, transactionHash, auction, solutions⟩
  | value => .error (invalidType value "struct SolverCompetition")

-----------------------------------------------------------------------------------------
-- Reading back what was written
-----------------------------------------------------------------------------------------

@[simp] theorem pricesFromValue_pricesToValue (prices : BTreeMap H160 U256)
    : pricesFromValue (pricesToValue prices) = .ok prices :=
  mapFromValue_mapToValue FixedBytes.toHex_strictMono FixedBytes.fromHex_toHex
    u256FromValue_u256ToValue prices

/-- An objective reads back when its floats are finite, by the reader of each field. -/
@[simp] theorem Objective.fromValue_toValue (objective : Objective)
    : Objective.fromValue objective.toValue
      = if objective.finite then .ok objective else .error nullF64 := by
  simp [Objective.toValue, structToValue, Objective.fromValue, field, fieldWith,
    Objective.finite, ite_and]

@[simp] theorem Order.fromValue_toValue (order : Order)
    : Order.fromValue order.toValue = .ok order := by
  simp [Order.toValue, structToValue, Order.fromValue, field, fieldWith]
  rfl

/-- A solution reads back when its objective does. -/
@[simp] theorem SolverSettlement.fromValue_toValue (settlement : SolverSettlement)
    : SolverSettlement.fromValue settlement.toValue
      = if settlement.objective.finite then .ok settlement else .error nullF64 := by
  simp [SolverSettlement.toValue, structToValue, SolverSettlement.fromValue, field, fieldWith]
  split <;> rfl

@[simp] theorem CompetitionAuction.fromValue_toValue (auction : CompetitionAuction)
    : CompetitionAuction.fromValue auction.toValue = .ok auction := by
  simp [CompetitionAuction.toValue, structToValue, CompetitionAuction.fromValue, field, fieldWith]
  rfl

/-- What `from_value` makes of what `to_value` wrote: the record itself when its floats are
finite, and otherwise the error of reading `null` as an `f64`. By the reader of each field.
-/
theorem SolverCompetition.fromValue_toValue (competition : SolverCompetition)
    : SolverCompetition.fromValue competition.toValue
      = if competition.finite then .ok competition else .error nullF64 := by
  have hash := optionFromValue_optionToValue (fixedBytesFromValue_fixedBytesToValue (n := 32))
    (fun _ => Value.noConfusion) competition.transactionHash
  have solutions := vecFromValue_vecToValue SolverSettlement.fromValue_toValue competition.solutions
  simp [SolverCompetition.toValue, structToValue, SolverCompetition.fromValue, field, fieldWith,
    fieldOr, hash, solutions, SolverCompetition.finite, ite_and]
  split
  · split <;> rfl
  · rfl

-----------------------------------------------------------------------------------------
-- The round trip
-----------------------------------------------------------------------------------------

/-- Every record whose floats are finite reads back from the JSON written for it as itself,
absent hashes, `U256::MAX`, call data of any length and the order of every list included. By
the reader of each field.
-/
theorem solverCompetition_round_trip (competition : SolverCompetition)
    (finite : competition.finite = true)
    : SolverCompetition.fromValue competition.toValue = .ok competition := by
  rw [SolverCompetition.fromValue_toValue, if_pos finite]

/-- Twenty, thirty-two or fifty-six copies of one byte. -/
def FixedBytes.replicate (n : Nat) (byte : UInt8) : FixedBytes n :=
  ⟨List.replicate n byte, List.length_replicate n byte⟩

/-- The record of the crate's test `serialize`. -/
def serializeTestRecord : SolverCompetition where
  auctionId := ⟨0, by norm_num, by norm_num⟩
  gasPrice := ⟨0x3FF0000000000000⟩
  auctionStartBlock := 13
  liquidityCollectedBlock := 14
  competitionSimulationBlock := 15
  transactionHash := some (FixedBytes.replicate 32 0x11)
  auction :=
    { orders := [FixedBytes.replicate 56 0x11, FixedBytes.replicate 56 0x22,
        FixedBytes.replicate 56 0x33]
      prices := ((BTreeMap.empty.insert (FixedBytes.replicate 20 0x11) ⟨1000, by norm_num⟩).insert
        (FixedBytes.replicate 20 0x22) ⟨2000, by norm_num⟩).insert
        (FixedBytes.replicate 20 0x33) ⟨3000, by norm_num⟩ }
  solutions := [
    { solver := "2"
      objective := ⟨⟨0x4008000000000000⟩, ⟨0x4010000000000000⟩, ⟨0x4014000000000000⟩,
        ⟨0x4018000000000000⟩, 7⟩
      clearingPrices := BTreeMap.empty.insert (FixedBytes.replicate 20 0x22) ⟨8, by norm_num⟩
      orders := [⟨FixedBytes.replicate 56 0x33, ⟨12, by norm_num⟩⟩]
      callData := [0x13] }]

/-- The test's record, with its gas price 1 and objective 3, 4, 5, 6, reads back as itself. -/
theorem serialize_test_record_round_trips
    : serializeTestRecord.finite = true
      ∧ SolverCompetition.fromValue serializeTestRecord.toValue = .ok serializeTestRecord :=
  ⟨by decide, solverCompetition_round_trip _ (by decide)⟩

-----------------------------------------------------------------------------------------
-- Records stored before a field existed
-----------------------------------------------------------------------------------------

/-- The JSON written for a record, without its auction id, reads as the record with auction id
0, and without its transaction hash as the record with none. By the reader of each field,
the removed one falling back to its default.
-/
theorem SolverCompetition.fromValue_without_field (competition : SolverCompetition)
    : SolverCompetition.fromValue (competition.toValue.removeField "auctionId")
        = (if competition.finite
            then .ok { competition with auctionId := ⟨0, by norm_num, by norm_num⟩ }
            else .error nullF64)
      ∧ SolverCompetition.fromValue (competition.toValue.removeField "transactionHash")
        = (if competition.finite then .ok { competition with transactionHash := none }
            else .error nullF64) := by
  have hash := optionFromValue_optionToValue (fixedBytesFromValue_fixedBytesToValue (n := 32))
    (fun _ => Value.noConfusion) competition.transactionHash
  have solutions := vecFromValue_vecToValue SolverSettlement.fromValue_toValue competition.solutions
  constructor
  all_goals
    simp [SolverCompetition.toValue, structToValue, Value.removeField, SolverCompetition.fromValue,
      field, fieldWith, fieldOr, hash, solutions, SolverCompetition.finite, ite_and, bind,
      Except.bind]
    split_ifs <;> rfl

end CowServices.Model
