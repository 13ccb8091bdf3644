import CowServices.Basic.BTreeMap

/-! `solver::SellVolumeFilteringSolver`: where `solve` panics, which orders it hands on when
every price is there, and why two such solvers stacked act as one with the larger minimum.
-/
namespace CowServices.Solver

-----------------------------------------------------------------------------------------
-- The auction
-----------------------------------------------------------------------------------------

/-- Modelled from the spec: `settlement::external_prices::ExternalPrices` is not in the
repository's files; the price of each token in the native token, as a map.
-/
structure ExternalPrices where
  prices : BTreeMap H160 ℚ

/-- The price of a token, if it has one. -/
def ExternalPrices.price (externalPrices : ExternalPrices) (token : H160) : Option ℚ :=
  lookup token externalPrices.prices.entries

/-- Modelled from the spec: `ExternalPrices::get_native_amount` is not in the repository's
files; the token's price times the amount, and `none` for its panic on a token without one.
-/
def ExternalPrices.getNativeAmount (externalPrices : ExternalPrices) (token : H160)
    (amount : ℚ) : Option ℚ :=
  (externalPrices.price token).map (· * amount)

/-- Modelled from the spec: `liquidity::LimitOrder` is not in the repository's files; the
tokens and amounts the filter reads.
-/
structure LimitOrder where
  sellToken : H160
  buyToken : H160
  sellAmount : U256
  buyAmount : U256
  deriving DecidableEq

/-- `solver::Auction`. The filter reads only the orders and the external prices; the
liquidity and the deadline are carried as they are.
-/
structure Auction (Liquidity Instant : Type) where
  id : I64
  run : UInt64
  orders : List LimitOrder
  liquidity : List Liquidity
  liquidityFetchBlock : UInt64
  gasPrice : F64
  deadline : Instant
  externalPrices : ExternalPrices

/-- The spec's invariant of an auction: its external prices cover the buy and sell tokens of
all its orders.
-/
def Auction.PricesCover {Liquidity Instant : Type} (auction : Auction Liquidity Instant) : Prop :=
  ∀ order ∈ auction.orders, (auction.externalPrices.price order.buyToken).isSome
    ∧ (auction.externalPrices.price order.sellToken).isSome

-----------------------------------------------------------------------------------------
-- The solver
-----------------------------------------------------------------------------------------

/-- `SellVolumeFilteringSolver`: the inner solver, as the result its `solve` gives for each
auction, and the minimum value as a `BigRational`.
-/
structure SellVolumeFilteringSolver (Liquidity Instant Settlement : Type) where
  inner : Auction Liquidity Instant → Except Error (List Settlement)
  minValue : ℚ

/-- `SellVolumeFilteringSolver::new`: `min_value.to_big_rational()`. -/
def SellVolumeFilteringSolver.new {Liquidity Instant Settlement : Type}
    (inner : Auction Liquidity Instant → Except Error (List Settlement)) (minValue : U256)
    : SellVolumeFilteringSolver Liquidity Instant Settlement :=
  ⟨inner, minValue.val⟩

/-- The closure `is_minimum_volume`: the amount's native value is at least the minimum;
`none` where `get_native_amount` panics.
-/
def isMinimumVolume (externalPrices : ExternalPrices) (minValue : ℚ) (token : H160)
    (amount : U256) : Option Bool :=
  (externalPrices.getNativeAmount token amount.val).map fun nativeAmount =>
    decide (minValue ≤ nativeAmount)

/-- The closure `retain` keeps an order by: the buy side, and the sell side only when the
buy side falls short, as `||` evaluates.
-/
def keepsOrder (externalPrices : ExternalPrices) (minValue : ℚ) (order : LimitOrder)
    : Option Bool := do
  let buy ← isMinimumVolume externalPrices minValue order.buyToken order.buyAmount
  if buy then pure true
  else isMinimumVolume externalPrices minValue order.sellToken order.sellAmount

/-- `filter_orders`: `orders.retain(..)` visits the orders in turn and keeps, in order, those
the closure accepts; a panic at any order is a panic of the whole.
-/
def filterOrders (externalPrices : ExternalPrices) (minValue : ℚ)
    : List LimitOrder → Option (List LimitOrder)
  | [] => some []
  | order :: rest => do
      let keep ← keepsOrder externalPrices minValue order
      let kept ← filterOrders externalPrices minValue rest
      pure (if keep then order :: kept else kept)

/-- `usize` subtraction, which panics on underflow in a debug build. -/
def usizeSub (a b : Nat) : Option Nat := if b ≤ a then some (a - b) else none

/-- `SellVolumeFilteringSolver::solve`: the auctions passed to the inner solver, and its
result; `none` for a panic. The subtraction is the count of dropped orders that
`tracing::debug!` logs.
-/
def SellVolumeFilteringSolver.solve {Liquidity Instant Settlement : Type}
    (solver : SellVolumeFilteringSolver Liquidity Instant Settlement)
    (auction : Auction Liquidity Instant)
    : Option (List (Auction Liquidity Instant) × Except Error (List Settlement)) := do
  let originalLength := auction.orders.length
  let orders ← filterOrders auction.externalPrices solver.minValue auction.orders
  let auction := { auction with orders := orders }
  let _filtered ← usizeSub originalLength auction.orders.length
  pure ([auction], solver.inner auction)

-----------------------------------------------------------------------------------------
-- Where `solve` panics
-----------------------------------------------------------------------------------------

/-- The closure panics exactly when the buy token has no price, or the buy side falls short
and the sell token has no price.
-/
theorem keepsOrder_eq_none_iff (externalPrices : ExternalPrices) (minValue : ℚ)
    (order : LimitOrder)
    : keepsOrder externalPrices minValue order = none
      ↔ externalPrices.price order.buyToken = none
        ∨ ∃ price, externalPrices.price order.buyToken = some price
          ∧ price * order.buyAmount.val < minValue
          ∧ externalPrices.price order.sellToken = none := by
  unfold keepsOrder isMinimumVolume ExternalPrices.getNativeAmount
  cases buy : externalPrices.price order.buyToken with
  | none => simp
  | some price =>
      by_cases short : price * order.buyAmount.val < minValue
      · simp [short, not_le.mpr short]
      · simp [short, le_of_not_lt short]

/-- `retain` panics exactly when the closure panics at one of the orders, by induction on the
orders.
-/
theorem filterOrders_eq_none_iff (externalPrices : ExternalPrices) (minValue : ℚ)
    (orders : List LimitOrder)
    : filterOrders externalPrices minValue orders = none
      ↔ ∃ order ∈ orders, keepsOrder externalPrices minValue order = none := by
  induction orders with
  | nil => simp [filterOrders]
  | cons order rest ih =>
      simp only [filterOrders, List.mem_cons, exists_eq_or_imp, ← ih]
      cases keepsOrder externalPrices minValue order
      <;> cases filterOrders externalPrices minValue rest <;> simp

/-- What `retain` keeps is a subsequence of the orders, by induction on the orders. -/
theorem filterOrders_sublist {externalPrices : ExternalPrices} {minValue : ℚ}
    {orders kept : List LimitOrder}
    (filtered : filterOrders externalPrices minValue orders = some kept)
    : kept.Sublist orders := by
  induction orders generalizing kept with
  | nil => cases filtered; exact .slnil
  | cons order rest ih =>
      simp only [filterOrders, Option.bind_eq_bind, Option.bind_eq_some, Option.pure_def,
        Option.some.injEq] at filtered
      obtain ⟨keep, -, kept', later, rfl⟩ := filtered
      cases keep
      · exact .cons _ (ih later)
      · exact .cons₂ _ (ih later)

/-- The count of dropped orders never underflows: `solve` hands the inner solver the auction
with the orders `retain` keeps, and panics exactly when the filter does.
-/
theorem solve_eq_map {Liquidity Instant Settlement : Type}
    (solver : SellVolumeFilteringSolver Liquidity Instant Settlement)
    (auction : Auction Liquidity Instant)
    : solver.solve auction
      = (filterOrders auction.externalPrices solver.minValue auction.orders).map fun orders =>
          ([{ auction with orders }], solver.inner { auction with orders }) := by
  unfold SellVolumeFilteringSolver.solve
  cases filtered : filterOrders auction.externalPrices solver.minValue auction.orders with
  | none => rfl
  | some kept => simp [usizeSub, (filterOrders_sublist filtered).length_le]

/-- `solve` panics exactly when the filter does. -/
theorem solve_eq_none_iff {Liquidity Instant Settlement : Type}
    (solver : SellVolumeFilteringSolver Liquidity Instant Settlement)
    (auction : Auction Liquidity Instant)
    : solver.solve auction = none
      ↔ filterOrders auction.externalPrices solver.minValue auction.orders = none := by
  rw [solve_eq_map, Option.map_eq_none']

/-- `solve` panics exactly when some order lacks a buy price, or falls short on its buy side
and lacks a sell price. By the subtraction's bound and the closure's panics, order by order.
-/
theorem sellVolumeFilteringSolver_solve_panics_iff {Liquidity Instant Settlement : Type}
    (solver : SellVolumeFilteringSolver Liquidity Instant Settlement)
    (auction : Auction Liquidity Instant)
    : solver.solve auction = none
      ↔ ∃ order ∈ auction.orders, auction.externalPrices.price order.buyToken = none
        ∨ ∃ price, auction.externalPrices.price order.buyToken = some price
          ∧ price * order.buyAmount.val < solver.minValue
          ∧ auction.externalPrices.price order.sellToken = none := by
  simp only [solve_eq_none_iff, filterOrders_eq_none_iff, keepsOrder_eq_none_iff]

-----------------------------------------------------------------------------------------
-- The filter when every price is there
-----------------------------------------------------------------------------------------

/-- The spec's selection: an order's buy amount or sell amount, valued in the native token,
is at least the minimum.
-/
def meetsMinimumVolume (externalPrices : ExternalPrices) (minValue : ℚ) (order : LimitOrder)
    : Bool :=
  (externalPrices.getNativeAmount order.buyToken order.buyAmount.val).any (minValue ≤ ·)
    || (externalPrices.getNativeAmount order.sellToken order.sellAmount.val).any (minValue ≤ ·)

/-- With both of its tokens priced, the closure decides an order as the spec's selection
does.
-/
theorem keepsOrder_of_priced {externalPrices : ExternalPrices} {minValue : ℚ}
    {order : LimitOrder} (buy : (externalPrices.price order.buyToken).isSome)
    (sell : (externalPrices.price order.sellToken).isSome)
    : keepsOrder externalPrices minValue order
      = some (meetsMinimumVolume externalPrices minValue order) := by
  obtain ⟨buyPrice, bought⟩ := Option.isSome_iff_exists.mp buy
  obtain ⟨sellPrice, sold⟩ := Option.isSome_iff_exists.mp sell
  by_cases enough : minValue ≤ buyPrice * order.buyAmount.val
  <;> simp [keepsOrder, isMinimumVolume, meetsMinimumVolume, ExternalPrices.getNativeAmount,
    bought, sold, enough]

/-- With every token priced, `retain` keeps exactly the orders of the spec's selection, in
order; by induction on the orders.
-/
theorem filterOrders_of_priced {externalPrices : ExternalPrices} {minValue : ℚ}
    {orders : List LimitOrder}
    (covered : ∀ order ∈ orders, (externalPrices.price order.buyToken).isSome
      ∧ (externalPrices.price order.sellToken).isSome)
    : filterOrders externalPrices minValue orders
      = some (orders.filter (meetsMinimumVolume externalPrices minValue)) := by
  induction orders with
  | nil => rfl
  | cons order rest ih =>
      have priced := covered order (List.mem_cons_self _ _)
      simp only [filterOrders, keepsOrder_of_priced priced.1 priced.2,
        ih fun other mem => covered other (List.mem_cons_of_mem _ mem), List.filter_cons]
      cases meetsMinimumVolume externalPrices minValue order <;> rfl

-----------------------------------------------------------------------------------------
-- `solve`
-----------------------------------------------------------------------------------------

/-- With every token priced, any filtering solver hands on the auction with the spec's
selection of its orders.
-/
theorem solve_of_priced {Liquidity Instant Settlement : Type}
    {solver : SellVolumeFilteringSolver Liquidity Instant Settlement}
    {auction : Auction Liquidity Instant} (covered : auction.PricesCover)
    : let kept :=
        auction.orders.filter (meetsMinimumVolume auction.externalPrices solver.minValue)
      solver.solve auction
        = some ([{ auction with orders := kept }], solver.inner { auction with orders := kept }) :=
        by
  rw [solve_eq_map, filterOrders_of_priced covered]
  rfl

/-- When the prices cover the orders, `solve` calls the inner solver once, on the auction with
the orders, in order, whose buy or sell side is worth the minimum. By the filter's
specification, and the sublist bound for the subtraction.
-/
theorem sellVolumeFilteringSolver_solve_filters {Liquidity Instant Settlement : Type}
    (inner : Auction Liquidity Instant → Except Error (List Settlement)) (minValue : U256)
    (auction : Auction Liquidity Instant) (covered : auction.PricesCover)
    : let kept := auction.orders.filter (meetsMinimumVolume auction.externalPrices minValue.val)
      (SellVolumeFilteringSolver.new inner minValue).solve auction
        = some ([{ auction with orders := kept }], inner { auction with orders := kept }) := by
  exact solve_of_priced covered

/-- The sell token of the crate's test, `H160::from_low_u64_be(1)`, also its native token. -/
def filteringTestSellToken : H160 := ⟨List.replicate 19 0 ++ [1], by simp⟩

/-- The buy token of the crate's test, `H160::from_low_u64_be(2)`. -/
def filteringTestBuyToken : H160 := ⟨List.replicate 19 0 ++ [2], by simp⟩

/-- A sell order of the crate's test: an amount of the sell token, with no buy amount. -/
def filteringTestOrder (sellAmount : U256) : LimitOrder :=
  ⟨filteringTestSellToken, filteringTestBuyToken, sellAmount, ⟨0, by norm_num⟩⟩

/-- The auction of `test_filtering_solver_removes_limit_orders_with_too_little_volume`: sell
orders of 100000, 500000 and 100 of the sell token, both tokens priced at 1, and every other
field at its default.
-/
def filteringTestAuction : Auction Unit Nat where
  id := ⟨0, by norm_num, by norm_num⟩
  run := 0
  orders := [filteringTestOrder ⟨100000, by norm_num⟩, filteringTestOrder ⟨500000, by norm_num⟩,
    filteringTestOrder ⟨100, by norm_num⟩]
  liquidity := []
  liquidityFetchBlock := 0
  gasPrice := ⟨0⟩
  deadline := 31622400
  externalPrices := ⟨(BTreeMap.empty.insert filteringTestSellToken 1).insert
    filteringTestBuyToken 1⟩

/-- In the crate's test, with a minimum of 50000, the two large orders reach the inner
solver.
-/
theorem filtering_test_passes_two_orders
    : filteringTestAuction.PricesCover
      ∧ ∃ kept : List LimitOrder,
        (SellVolumeFilteringSolver.new (fun _ => .ok ([] : List Unit))
            ⟨50000, by norm_num⟩).solve filteringTestAuction
          = some ([{ filteringTestAuction with orders := kept }], .ok [])
        ∧ kept.length = 2 := by
  have covered : filteringTestAuction.PricesCover := by
    unfold Auction.PricesCover
    decide
  refine ⟨covered, _, sellVolumeFilteringSolver_solve_filters _ _ _ covered, ?_⟩
  have sellPrice : filteringTestAuction.externalPrices.price filteringTestSellToken = some 1 :=
    rfl
  have buyPrice : filteringTestAuction.externalPrices.price filteringTestBuyToken = some 1 :=
    rfl
  simp only [filteringTestAuction, filteringTestOrder, List.filter, meetsMinimumVolume,
    ExternalPrices.getNativeAmount] at sellPrice buyPrice ⊢
  simp only [sellPrice, buyPrice]
  norm_num

-----------------------------------------------------------------------------------------
-- Stacked filters
-----------------------------------------------------------------------------------------

/-- The closure on an order's native values: it panics without a buy price; with a buy price
alone it keeps an order whose buy side is worth the minimum and panics otherwise; with both
prices it keeps an order whose larger side is worth the minimum.
-/
theorem keepsOrder_eq (externalPrices : ExternalPrices) (minValue : ℚ) (order : LimitOrder)
    : keepsOrder externalPrices minValue order
      = match externalPrices.getNativeAmount order.buyToken order.buyAmount.val,
          externalPrices.getNativeAmount order.sellToken order.sellAmount.val with
        | none, _ => none
        | some bought, none => if minValue ≤ bought then some true else none
        | some bought, some sold => some (decide (minValue ≤ max bought sold)) := by
  unfold keepsOrder isMinimumVolume
  cases externalPrices.getNativeAmount order.buyToken order.buyAmount.val with
  | none => rfl
  | some bought =>
      cases externalPrices.getNativeAmount order.sellToken order.sellAmount.val with
      | none => by_cases worth : minValue ≤ bought <;> simp [worth]
      | some sold => by_cases worth : minValue ≤ bought <;> simp [worth, le_max_iff]

/-- The closure at the larger of two minima is the closure at the first and then, on an order
it keeps, at the second, panics included: both compare the minima with the same values.
-/
theorem keepsOrder_max (externalPrices : ExternalPrices) (first second : ℚ) (order : LimitOrder)
    : keepsOrder externalPrices (max first second) order
      = (keepsOrder externalPrices first order).bind fun keep =>
          if keep then keepsOrder externalPrices second order else some false := by
  simp only [keepsOrder_eq]
  cases externalPrices.getNativeAmount order.buyToken order.buyAmount.val with
  | none => rfl
  | some bought =>
      cases externalPrices.getNativeAmount order.sellToken order.sellAmount.val with
      | none => by_cases worth : first ≤ bought <;> simp [worth]
      | some sold =>
          simp only [max_le_iff, Option.some_bind]
          by_cases worth : first ≤ max bought sold <;> simp [worth]

/-- `retain` at the larger minimum is `retain` at the first and then at the second on what it
kept, panics included; by induction on the orders.
-/
theorem filterOrders_max (externalPrices : ExternalPrices) (first second : ℚ)
    (orders : List LimitOrder)
    : filterOrders externalPrices (max first second) orders
      = (filterOrders externalPrices first orders).bind (filterOrders externalPrices second) := by
  induction orders with
  | nil => rfl
  | cons order rest ih =>
      simp only [filterOrders, keepsOrder_max, ih]
      cases keepsOrder externalPrices first order with
      | none => rfl
      | some keep =>
          cases filterOrders externalPrices first rest with
          | none => cases keep <;> simp
          | some kept => cases keep <;> simp [filterOrders]

/-- For every auction and every two minima, the auction a filtering solver hands on when it
does not panic, given to a second filtering solver, is handled, panics included, as a single
filtering solver with the larger minimum handles the original. By the filter's stacking law.
-/
theorem sellVolumeFilteringSolver_stacked_keeps_larger_minimum
    {Liquidity Instant Settlement : Type}
    (firstInner inner : Auction Liquidity Instant → Except Error (List Settlement))
    (first second : U256) (auction once : Auction Liquidity Instant)
    (firstResult : Except Error (List Settlement))
    (firstSolve : (SellVolumeFilteringSolver.new firstInner first).solve auction
      = some ([once], firstResult))
    : (SellVolumeFilteringSolver.new inner second).solve once
        = ({ inner := inner, minValue := max first.val second.val }
            : SellVolumeFilteringSolver Liquidity Instant Settlement).solve auction := by
  rw [solve_eq_map, Option.map_eq_some'] at firstSolve
  obtain ⟨kept, filtered, handed⟩ := firstSolve
  cases (Prod.mk.inj handed).1
  simp only [SellVolumeFilteringSolver.new] at filtered
  simp only [solve_eq_map, SellVolumeFilteringSolver.new, filterOrders_max, filtered,
    Option.some_bind]

/-- In the crate's test, the auction filtered at 50000 and then at 100000 reaches the inner
solver as when filtered once at 100000.
-/
theorem filtering_test_stacked_filters
    : (SellVolumeFilteringSolver.new (fun _ => .ok ([] : List Unit)) ⟨50000, by norm_num⟩).solve
          filteringTestAuction
        = some ([{ filteringTestAuction with
            orders := filteringTestAuction.orders.filter (meetsMinimumVolume
              filteringTestAuction.externalPrices (⟨50000, by norm_num⟩ : U256).val) }], .ok [])
      ∧ (SellVolumeFilteringSolver.new (fun _ => .ok ([] : List Unit))
            ⟨100000, by norm_num⟩).solve { filteringTestAuction with
              orders := filteringTestAuction.orders.filter (meetsMinimumVolume
                filteringTestAuction.externalPrices (⟨50000, by norm_num⟩ : U256).val) }
        = ({ inner := fun _ => .ok [],
              minValue :=
                max (⟨50000, by norm_num⟩ : U256).val (⟨100000, by norm_num⟩ : U256).val }
            : SellVolumeFilteringSolver Unit Nat Unit).solve filteringTestAuction := by
  have covered : filteringTestAuction.PricesCover := by
    unfold Auction.PricesCover
    decide
  exact ⟨solve_of_priced covered, sellVolumeFilteringSolver_stacked_keeps_larger_minimum
    (fun _ => .ok []) _ _ _ _ _ (.ok []) (solve_of_priced covered)⟩

end CowServices.Solver
