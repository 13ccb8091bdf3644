import CowServices.Basic.BigDecimal

/-! The autopilot's materialisation of stored orders: `full_order_into_model_order` turns a row
of the orders query into a solvable `Order`, and `Postgres::solvable_orders` does so for every
row the query yields, failing as a whole at the first row that does not materialise.
-/

namespace CowServices.Autopilot

-----------------------------------------------------------------------------------------
-- The stored row and the solvable order
-----------------------------------------------------------------------------------------

/-- `database::orders::OrderKind`. -/
inductive DbOrderKind
  | buy
  | sell
  deriving DecidableEq

/-- `database::orders::SellTokenSource`. -/
inductive DbSellTokenSource
  | erc20
  | internal
  | external

/-- `database::orders::BuyTokenDestination`. -/
inductive DbBuyTokenDestination
  | erc20
  | internal

/-- `database::orders::SigningScheme`. -/
inductive DbSigningScheme
  | eip712
  | ethSign
  | eip1271
  | preSign

/-- Modelled from the spec: `model::order::OrderKind` is not in the repository's files. -/
inductive OrderKind
  | buy
  | sell

/-- Modelled from the spec: `model::order::SellTokenSource` is not in the repository's files. -/
inductive SellTokenSource
  | erc20
  | internal
  | external

/-- Modelled from the spec: `model::order::BuyTokenDestination` is not in the repository's
files.
-/
inductive BuyTokenDestination
  | erc20
  | internal

/-- Modelled from the spec: `model::signature::SigningScheme` is not in the repository's
files.
-/
inductive SigningScheme
  | eip712
  | ethSign
  | eip1271
  | preSign

/-- Modelled from the spec: `database::orders::FullOrder` is not in the repository's files;
the columns `full_order_into_model_order` reads. The creation time is copied as it is.
-/
structure FullOrder where
  uid : OrderUid
  owner : H160
  creationTimestamp : Int
  sellToken : H160
  buyToken : H160
  receiver : Option H160
  sellAmount : BigDecimal
  buyAmount : BigDecimal
  validTo : I64
  appData : FixedBytes 32
  feeAmount : BigDecimal
  fullFeeAmount : BigDecimal
  kind : DbOrderKind
  partiallyFillable : Bool
  signature : List UInt8
  sumSell : BigDecimal
  sumBuy : BigDecimal
  sumFee : BigDecimal
  sellTokenBalance : DbSellTokenSource
  buyTokenBalance : DbBuyTokenDestination
  signingScheme : DbSigningScheme
  isLiquidityOrder : Bool

/-- Modelled from the spec: `model::auction::OrderMetadata` is not in the repository's files;
the fields `full_order_into_model_order` sets.
-/
structure OrderMetadata where
  creationDate : Int
  owner : H160
  uid : OrderUid
  executedAmount : U256
  fullFeeAmount : U256
  isLiquidityOrder : Bool

/-- Modelled from the spec: `model::order::OrderData` is not in the repository's files. -/
structure OrderData where
  sellToken : H160
  buyToken : H160
  receiver : Option H160
  sellAmount : U256
  buyAmount : U256
  validTo : UInt32
  appData : FixedBytes 32
  feeAmount : U256
  kind : OrderKind
  partiallyFillable : Bool
  sellTokenBalance : SellTokenSource
  buyTokenBalance : BuyTokenDestination

/-- Modelled from the spec: `model::auction::Order` is not in the repository's files. -/
structure Order (Signature : Type) where
  metadata : OrderMetadata
  data : OrderData
  signature : Signature

-----------------------------------------------------------------------------------------
-- `full_order_into_model_order`
-----------------------------------------------------------------------------------------

/-- `order_kind_from`. -/
def orderKindFrom : DbOrderKind → OrderKind
  | .buy => .buy
  | .sell => .sell

/-- `sell_token_source_from`. -/
def sellTokenSourceFrom : DbSellTokenSource → SellTokenSource
  | .erc20 => .erc20
  | .internal => .internal
  | .external => .external

/-- `buy_token_destination_from`. -/
def buyTokenDestinationFrom : DbBuyTokenDestination → BuyTokenDestination
  | .erc20 => .erc20
  | .internal => .internal

/-- `signing_scheme_from`. -/
def signingSchemeFrom : DbSigningScheme → SigningScheme
  | .eip712 => .eip712
  | .ethSign => .ethSign
  | .eip1271 => .eip1271
  | .preSign => .preSign

/-- `big_decimal_to_u256(value)`, failing with `message` when the decimal does not fit: the
`ok_or_else(|| anyhow!(message))` of four columns and the `context(message)` of the executed
amount.
-/
def u256Column (value : BigDecimal) (message : String) : Except Error U256 :=
  match bigDecimalToU256 value with
  | some amount => .ok amount
  | none => .error (.msg message)

/-- `u32::try_from(i64)`. -/
def u32TryFrom (n : I64) : Except Error UInt32 :=
  if 0 ≤ n.val ∧ n.val < 2 ^ 32 then .ok (UInt32.ofNat n.val.toNat)
  else .error (.msg "out of range integral type conversion attempted")

/-- The decimal the executed amount is taken from: `sum_buy` for a buy order, and
`sum_sell - sum_fee` for a sell order.
-/
def executedDecimal (order : FullOrder) : BigDecimal :=
  match order.kind with
  | .buy => order.sumBuy
  | .sell => order.sumSell - order.sumFee

/-- The `OrderMetadata` literal of `full_order_into_model_order`. -/
def orderMetadataOf (order : FullOrder) : Except Error OrderMetadata := do
  let executedAmount ← u256Column (executedDecimal order) "executed_amount does not fit into u256"
  let fullFeeAmount ← u256Column order.fullFeeAmount "full_fee_amount is not U256"
  pure
    { creationDate := order.creationTimestamp, owner := order.owner, uid := order.uid,
      executedAmount := executedAmount, fullFeeAmount := fullFeeAmount,
      isLiquidityOrder := order.isLiquidityOrder }

/-- The `OrderData` literal of `full_order_into_model_order`. -/
def orderDataOf (order : FullOrder) : Except Error OrderData := do
  let sellAmount ← u256Column order.sellAmount "sell_amount is not U256"
  let buyAmount ← u256Column order.buyAmount "buy_amount is not U256"
  let validTo ← (u32TryFrom order.validTo).mapError (·.context "valid_to is not u32")
  let feeAmount ← u256Column order.feeAmount "fee_amount is not U256"
  pure
    { sellToken := order.sellToken, buyToken := order.buyToken, receiver := order.receiver,
      sellAmount := sellAmount, buyAmount := buyAmount, validTo := validTo,
      appData := order.appData, feeAmount := feeAmount, kind := orderKindFrom order.kind,
      partiallyFillable := order.partiallyFillable,
      sellTokenBalance := sellTokenSourceFrom order.sellTokenBalance,
      buyTokenBalance := buyTokenDestinationFrom order.buyTokenBalance }

variable {Signature : Type}

/-- `full_order_into_model_order`. `fromBytes` is `Signature::from_bytes`, which is not in the
repository's files.
-/
def fullOrderIntoModelOrder (fromBytes : SigningScheme → List UInt8 → Except Error Signature)
    (order : FullOrder) : Except Error (Order Signature) := do
  let metadata ← orderMetadataOf order
  let data ← orderDataOf order
  let signingScheme := signingSchemeFrom order.signingScheme
  let signature ← fromBytes signingScheme order.signature
  pure { metadata := metadata, data := data, signature := signature }

-----------------------------------------------------------------------------------------
-- `solvable_orders`
-----------------------------------------------------------------------------------------

/-- `SolvableOrders`. -/
structure SolvableOrders (Signature : Type) where
  orders : List (Order Signature)
  latestSettlementBlock : UInt64

/-- The closure `solvable_orders` maps over the stream: a row materialised, or the database's
error.
-/
def materialise (fromBytes : SigningScheme → List UInt8 → Except Error Signature)
    : Except Error FullOrder → Except Error (Order Signature)
  | .ok order => fullOrderIntoModelOrder fromBytes order
  | .error err => .error err

/-- `Postgres::solvable_orders`: begin a transaction, materialise in turn the rows the query
yields, stopping at the first failure as `try_collect` does, then read the latest settlement
block and cast it with `as u64`. The query is given by the rows it yields.
-/
def solvableOrders (fromBytes : SigningScheme → List UInt8 → Except Error Signature)
    (began : Except Error Unit) (rows : List (Except Error FullOrder))
    (latestSettlementBlock : Except Error I64) : Except Error (SolvableOrders Signature) := do
  began
  let orders ← rows.mapM (materialise fromBytes)
  let block ← latestSettlementBlock
  pure { orders := orders, latestSettlementBlock := UInt64.ofNat (block.val % 2 ^ 64).toNat }

-----------------------------------------------------------------------------------------
-- Each step
-----------------------------------------------------------------------------------------

/-- A column converts to the `U256` its decimal stands for, and only to that. -/
theorem u256Column_eq_ok (value : BigDecimal) (message : String) (amount : U256)
    : u256Column value message = .ok amount ↔ value.value = amount.val := by
  rw [← bigDecimalToU256_eq_some]
  unfold u256Column
  split <;> simp_all

/-- `u32::try_from` gives the `u32` with the value of the `i64`, and only that. -/
theorem u32TryFrom_eq_ok (n : I64) (t : UInt32)
    : u32TryFrom n = .ok t ↔ (t.toNat : Int) = n.val := by
  have := t.toNat_lt
  unfold u32TryFrom
  split
  · have value : (UInt32.ofNat n.val.toNat).toNat = n.val.toNat :=
      UInt32.toNat_ofNat_of_lt (by simp only [UInt32.size]; omega)
    exact ⟨by rintro ⟨⟩; omega,
      fun same => congrArg Except.ok (UInt32.toNat.inj (by omega))⟩
  · simp only [reduceCtorEq, false_iff]
    omega

/-- The spec's executed value: `sum_buy` for a buy order, and `sum_sell - sum_fee` computed
exactly for a sell order.
-/
def executedValue (order : FullOrder) : ℚ :=
  match order.kind with
  | .buy => order.sumBuy.value
  | .sell => order.sumSell.value - order.sumFee.value

/-- The decimal the code takes the executed amount from stands for the spec's value. -/
theorem executedDecimal_value (order : FullOrder)
    : (executedDecimal order).value = executedValue order := by
  unfold executedDecimal executedValue
  split <;> simp [BigDecimal.value_sub]

/-- The metadata literal evaluates exactly to metadata with the executed amount and the full
fee the row's decimals stand for, and the row's other values.
-/
theorem orderMetadataOf_eq_ok (order : FullOrder) (metadata : OrderMetadata)
    : orderMetadataOf order = .ok metadata
      ↔ (metadata.executedAmount.val : ℚ) = executedValue order
        ∧ (metadata.fullFeeAmount.val : ℚ) = order.fullFeeAmount.value
        ∧ metadata.creationDate = order.creationTimestamp ∧ metadata.owner = order.owner
        ∧ metadata.uid = order.uid ∧ metadata.isLiquidityOrder = order.isLiquidityOrder := by
  simp only [orderMetadataOf, bind_eq_ok, u256Column_eq_ok, executedDecimal_value]
  constructor
  · rintro ⟨executed, stands, fee, feeStands, done⟩
    cases done
    exact ⟨stands.symm, feeStands.symm, rfl, rfl, rfl, rfl⟩
  · rintro ⟨stands, feeStands, created, owner, uid, liquidity⟩
    exact ⟨_, stands.symm, _, feeStands.symm, by cases metadata; simp_all [pure, Except.pure]⟩

/-- The data literal evaluates exactly to data with the amounts the row's decimals stand for,
the `u32` of its `valid_to`, the images of its enums, and its other values.
-/
theorem orderDataOf_eq_ok (order : FullOrder) (data : OrderData)
    : orderDataOf order = .ok data
      ↔ (data.sellAmount.val : ℚ) = order.sellAmount.value
        ∧ (data.buyAmount.val : ℚ) = order.buyAmount.value
        ∧ (data.validTo.toNat : Int) = order.validTo.val
        ∧ (data.feeAmount.val : ℚ) = order.feeAmount.value
        ∧ data.sellToken = order.sellToken ∧ data.buyToken = order.buyToken
        ∧ data.receiver = order.receiver ∧ data.appData = order.appData
        ∧ data.kind = orderKindFrom order.kind ∧ data.partiallyFillable = order.partiallyFillable
        ∧ data.sellTokenBalance = sellTokenSourceFrom order.sellTokenBalance
        ∧ data.buyTokenBalance = buyTokenDestinationFrom order.buyTokenBalance := by
  have validTo : ∀ t,
      (u32TryFrom order.validTo).mapError (·.context "valid_to is not u32") = .ok t
      ↔ (t.toNat : Int) = order.validTo.val := by
    intro t
    rw [← u32TryFrom_eq_ok]
    cases u32TryFrom order.validTo <;> simp [Except.mapError]
  simp only [orderDataOf, bind_eq_ok, u256Column_eq_ok, validTo]
  constructor
  · rintro ⟨sell, sellStands, buy, buyStands, valid, validStands, fee, feeStands, done⟩
    cases done
    exact ⟨sellStands.symm, buyStands.symm, validStands, feeStands.symm, rfl, rfl, rfl, rfl, rfl,
      rfl, rfl, rfl⟩
  · rintro ⟨sellStands, buyStands, validStands, feeStands, copied⟩
    exact ⟨_, sellStands.symm, _, buyStands.symm, _, validStands, _, feeStands.symm,
      by cases data; simp_all [pure, Except.pure]⟩

/-- A row materialises into exactly the order of its metadata, its data and the signature
`from_bytes` reads under the mapped scheme.
-/
theorem fullOrderIntoModelOrder_eq_ok
    (fromBytes : SigningScheme → List UInt8 → Except Error Signature) (row : FullOrder)
    (order : Order Signature)
    : fullOrderIntoModelOrder fromBytes row = .ok order
      ↔ orderMetadataOf row = .ok order.metadata ∧ orderDataOf row = .ok order.data
        ∧ fromBytes (signingSchemeFrom row.signingScheme) row.signature
          = .ok order.signature := by
  simp only [fullOrderIntoModelOrder, bind_eq_ok]
  constructor
  · rintro ⟨metadata, meta, data, dat, signature, signed, done⟩
    cases done
    exact ⟨meta, dat, signed⟩
  · rintro ⟨meta, dat, signed⟩
    exact ⟨_, meta, _, dat, _, signed, rfl⟩

-----------------------------------------------------------------------------------------
-- When a row materialises, and into what
-----------------------------------------------------------------------------------------

/-- What a row must satisfy to materialise: the executed value and the four amount columns
stand for integers in `[0, 2 ^ 256)`, `valid_to` fits a `u32`, and `from_bytes` accepts the
signature under the mapped scheme.
-/
structure Materialises (fromBytes : SigningScheme → List UInt8 → Except Error Signature)
    (row : FullOrder) : Prop where
  executed : InU256 (executedValue row)
  fullFeeAmount : InU256 row.fullFeeAmount.value
  sellAmount : InU256 row.sellAmount.value
  buyAmount : InU256 row.buyAmount.value
  feeAmount : InU256 row.feeAmount.value
  validTo : 0 ≤ row.validTo.val ∧ row.validTo.val < 2 ^ 32
  signature : ∃ signature, fromBytes (signingSchemeFrom row.signingScheme) row.signature
    = .ok signature

/-- What a materialised order keeps of its row: the values its decimals and its `valid_to`
stand for, its addresses, app data and flags, each enum's variant carried to its namesake,
and the signature `from_bytes` read.
-/
structure Faithful (fromBytes : SigningScheme → List UInt8 → Except Error Signature)
    (row : FullOrder) (order : Order Signature) : Prop where
  executedAmount : (order.metadata.executedAmount.val : ℚ) = executedValue row
  fullFeeAmount : (order.metadata.fullFeeAmount.val : ℚ) = row.fullFeeAmount.value
  sellAmount : (order.data.sellAmount.val : ℚ) = row.sellAmount.value
  buyAmount : (order.data.buyAmount.val : ℚ) = row.buyAmount.value
  feeAmount : (order.data.feeAmount.val : ℚ) = row.feeAmount.value
  validTo : (order.data.validTo.toNat : Int) = row.validTo.val
  creationDate : order.metadata.creationDate = row.creationTimestamp
  owner : order.metadata.owner = row.owner
  uid : order.metadata.uid = row.uid
  isLiquidityOrder : order.metadata.isLiquidityOrder = row.isLiquidityOrder
  sellToken : order.data.sellToken = row.sellToken
  buyToken : order.data.buyToken = row.buyToken
  receiver : order.data.receiver = row.receiver
  appData : order.data.appData = row.appData
  partiallyFillable : order.data.partiallyFillable = row.partiallyFillable
  kind : order.data.kind = match row.kind with
    | .buy => .buy
    | .sell => .sell
  sellTokenBalance : order.data.sellTokenBalance = match row.sellTokenBalance with
    | .erc20 => .erc20
    | .internal => .internal
    | .external => .external
  buyTokenBalance : order.data.buyTokenBalance = match row.buyTokenBalance with
    | .erc20 => .erc20
    | .internal => .internal
  signature : fromBytes (signingSchemeFrom row.signingScheme) row.signature = .ok order.signature

/-- A `U256` standing for a number shows the number is in range. -/
theorem inU256_of_eq {q : ℚ} {amount : U256} (stands : (amount.val : ℚ) = q) : InU256 q :=
  ⟨amount.val, amount.lt, stands.symm⟩

/-- A row materialises exactly when it meets `Materialises`, into an order `Faithful` to it;
a sell row then has `sum_sell ≥ sum_fee`, and the signature has the mapped scheme. By the
specification of each literal.
-/
theorem fullOrderIntoModelOrder_spec
    (fromBytes : SigningScheme → List UInt8 → Except Error Signature)
    (schemeOf : Signature → SigningScheme)
    (contract : ∀ scheme bytes signature, fromBytes scheme bytes = .ok signature
      → schemeOf signature = scheme)
    (row : FullOrder)
    : ((∃ order, fullOrderIntoModelOrder fromBytes row = .ok order) ↔ Materialises fromBytes row)
      ∧ ∀ order, fullOrderIntoModelOrder fromBytes row = .ok order
        → Faithful fromBytes row order
          ∧ (row.kind = .sell → row.sumFee.value ≤ row.sumSell.value)
          ∧ schemeOf order.signature = signingSchemeFrom row.signingScheme := by
  have faithful : ∀ order, fullOrderIntoModelOrder fromBytes row = .ok order
      → Faithful fromBytes row order := by
    intro order materialised
    obtain ⟨meta, dat, signed⟩ :=
      (fullOrderIntoModelOrder_eq_ok fromBytes row order).mp materialised
    obtain ⟨executed, fullFee, created, owner, uid, liquidity⟩ :=
      (orderMetadataOf_eq_ok row _).mp meta
    obtain ⟨sell, buy, valid, fee, sellToken, buyToken, receiver, appData, kind, fillable,
      sellBalance, buyBalance⟩ := (orderDataOf_eq_ok row _).mp dat
    exact ⟨executed, fullFee, sell, buy, fee, valid, created, owner, uid, liquidity, sellToken,
      buyToken, receiver, appData, fillable, kind.trans (by cases row.kind <;> rfl),
      sellBalance.trans (by cases row.sellTokenBalance <;> rfl),
      buyBalance.trans (by cases row.buyTokenBalance <;> rfl), signed⟩
  refine ⟨⟨fun ⟨order, materialised⟩ => ?_, fun conditions => ?_⟩,
    fun order materialised => ?_⟩
  · have kept := faithful order materialised
    exact ⟨inU256_of_eq kept.executedAmount, inU256_of_eq kept.fullFeeAmount,
      inU256_of_eq kept.sellAmount, inU256_of_eq kept.buyAmount, inU256_of_eq kept.feeAmount,
      ⟨by have := kept.validTo; omega,
        by have := kept.validTo; have := order.data.validTo.toNat_lt; omega⟩,
      ⟨_, kept.signature⟩⟩
  · obtain ⟨⟨executed, executedLt, executedStands⟩, ⟨fullFee, fullFeeLt, fullFeeStands⟩,
      ⟨sell, sellLt, sellStands⟩, ⟨buy, buyLt, buyStands⟩, ⟨fee, feeLt, feeStands⟩,
      validTo,
      ⟨signature, signed⟩⟩ := conditions
    let metadata : OrderMetadata := ⟨row.creationTimestamp, row.owner, row.uid,
      ⟨executed, executedLt⟩, ⟨fullFee, fullFeeLt⟩, row.isLiquidityOrder⟩
    let data : OrderData := ⟨row.sellToken, row.buyToken, row.receiver, ⟨sell, sellLt⟩,
      ⟨buy, buyLt⟩, UInt32.ofNat row.validTo.val.toNat, row.appData, ⟨fee, feeLt⟩,
      orderKindFrom row.kind, row.partiallyFillable, sellTokenSourceFrom row.sellTokenBalance,
      buyTokenDestinationFrom row.buyTokenBalance⟩
    have validValue : ((UInt32.ofNat row.validTo.val.toNat).toNat : Int) = row.validTo.val := by
      rw [UInt32.toNat_ofNat_of_lt (by simp only [UInt32.size]; omega)]
      omega
    refine ⟨⟨metadata, data, signature⟩, (fullOrderIntoModelOrder_eq_ok fromBytes row _).mpr
      ⟨(orderMetadataOf_eq_ok row _).mpr
        ⟨executedStands.symm, fullFeeStands.symm, rfl, rfl, rfl, rfl⟩,
      (orderDataOf_eq_ok row _).mpr ⟨sellStands.symm, buyStands.symm, validValue,
        feeStands.symm, rfl, rfl, rfl, rfl, rfl, rfl, rfl, rfl⟩, signed⟩⟩
  · have kept := faithful order materialised
    refine ⟨kept, fun sold => ?_, contract _ _ _ kept.signature⟩
    have executed := kept.executedAmount
    simp only [executedValue, sold] at executed
    have nonneg : (0 : ℚ) ≤ order.metadata.executedAmount.val := Nat.cast_nonneg _
    linarith

/-- Signatures as the scheme and bytes they were read from. -/
def tagScheme (scheme : SigningScheme) (bytes : List UInt8)
    : Except Error (SigningScheme × List UInt8) :=
  .ok (scheme, bytes)

/-- A sell order of 150 with a fee of 50.0, the fee written at scale one. -/
def sampleSellRow : FullOrder where
  uid := ⟨List.replicate 56 1, List.length_replicate _ _⟩
  owner := ⟨List.replicate 20 2, List.length_replicate _ _⟩
  creationTimestamp := 0
  sellToken := ⟨List.replicate 20 3, List.length_replicate _ _⟩
  buyToken := ⟨List.replicate 20 4, List.length_replicate _ _⟩
  receiver := none
  sellAmount := ⟨150, 0⟩
  buyAmount := ⟨100, 0⟩
  validTo := ⟨4000000000, by norm_num, by norm_num⟩
  appData := ⟨List.replicate 32 0, List.length_replicate _ _⟩
  feeAmount := ⟨500, 1⟩
  fullFeeAmount := ⟨50, 0⟩
  kind := .sell
  partiallyFillable := false
  signature := List.replicate 65 0
  sumSell := ⟨150, 0⟩
  sumBuy := ⟨100, 0⟩
  sumFee := ⟨500, 1⟩
  sellTokenBalance := .erc20
  buyTokenBalance := .erc20
  signingScheme := .eip712
  isLiquidityOrder := false

/-- With a `from_bytes` that keeps the scheme it is given, the sample row materialises
exactly when its conditions hold.
-/
theorem sample_sell_row_materialises_iff
    : (∀ scheme bytes signature, tagScheme scheme bytes = .ok signature → signature.1 = scheme)
      ∧ ((∃ order, fullOrderIntoModelOrder tagScheme sampleSellRow = .ok order)
        ↔ Materialises tagScheme sampleSellRow) :=
  have keeps : ∀ scheme bytes signature, tagScheme scheme bytes = .ok signature
      → signature.1 = scheme := fun _ _ _ tagged => by cases tagged; rfl
  ⟨keeps, (fullOrderIntoModelOrder_spec tagScheme Prod.fst keeps sampleSellRow).1⟩

-----------------------------------------------------------------------------------------
-- All rows or none
-----------------------------------------------------------------------------------------

/-- `solvable_orders` succeeds exactly when its transaction begins, every row materialises and
the latest settlement block is read, with the rows' materialisations in order; one failing
row fails the call. By the specification of `mapM`.
-/
theorem solvableOrders_all_or_nothing
    (fromBytes : SigningScheme → List UInt8 → Except Error Signature)
    (began : Except Error Unit) (rows : List (Except Error FullOrder))
    (latestSettlementBlock : Except Error I64)
    : (∀ result, solvableOrders fromBytes began rows latestSettlementBlock = .ok result
        ↔ began = .ok ()
          ∧ List.Forall₂ (fun row order => ∃ stored, row = .ok stored
              ∧ fullOrderIntoModelOrder fromBytes stored = .ok order) rows result.orders
          ∧ ∃ block, latestSettlementBlock = .ok block
            ∧ result.latestSettlementBlock = UInt64.ofNat (block.val % 2 ^ 64).toNat)
      ∧ ((∃ row ∈ rows, ∀ order, materialise fromBytes row ≠ .ok order)
        → ∃ err, solvableOrders fromBytes began rows latestSettlementBlock = .error err) := by
  have each : ∀ row order, materialise fromBytes row = .ok order
      ↔ ∃ stored, row = .ok stored
        ∧ fullOrderIntoModelOrder fromBytes stored = .ok order := by
    intro row order
    cases row <;> simp [materialise]
  refine ⟨fun result => ?_, fun ⟨row, mem, fails⟩ => ?_⟩
  · simp only [solvableOrders, bind_eq_ok, mapM_eq_ok]
    constructor
    · rintro ⟨⟨⟩, begun, orders, materialised, block, read, done⟩
      cases done
      exact ⟨begun, materialised.imp fun {_ _} => (each _ _).mp, block, read, rfl⟩
    · rintro ⟨begun, materialised, block, read, stamped⟩
      exact ⟨(), begun, result.orders, materialised.imp fun {_ _} => (each _ _).mpr, block, read,
        by cases result; simp_all [pure, Except.pure]⟩
  · cases called : solvableOrders fromBytes began rows latestSettlementBlock with
    | error err => exact ⟨err, rfl⟩
    | ok result =>
        simp only [solvableOrders, bind_eq_ok, mapM_eq_ok] at called
        obtain ⟨_, _, orders, materialised, _⟩ := called
        obtain ⟨order, related⟩ := forall₂_exists_of_mem materialised mem
        exact (fails order related).elim

end CowServices.Autopilot
