import CowServices.Basic.Primitives

/-! `bigdecimal::BigDecimal` with its subtraction, and `number_conversions::big_decimal_to_u256`:
both exact, the conversion succeeding on the decimals standing for integers in `[0, 2 ^ 256)`.
-/

namespace CowServices

/-- A `bigdecimal::BigDecimal`: `intVal` times ten to the power `-scale`. The crate's scale
is an `i64`; the scales of Postgres `NUMERIC` values stay far from its bounds.
-/
structure BigDecimal where
  intVal : Int
  scale : Int
  deriving DecidableEq

namespace BigDecimal

/-- The number a decimal stands for. -/
def value (d : BigDecimal) : ℚ := d.intVal * 10 ^ (-d.scale)

/-- `BigDecimal - BigDecimal`: `take_and_scale` brings the side with the smaller scale to
the larger one, then the integers are subtracted.
-/
def sub (a b : BigDecimal) : BigDecimal :=
  let scale := max a.scale b.scale
  ⟨a.intVal * 10 ^ (scale - a.scale).toNat - b.intVal * 10 ^ (scale - b.scale).toNat, scale⟩

instance : Sub BigDecimal := ⟨sub⟩

/-- `BigDecimal::is_integer`. -/
def isInteger (d : BigDecimal) : Bool :=
  if d.scale ≤ 0 then true else d.intVal % 10 ^ d.scale.toNat == 0

/-- `BigDecimal::to_bigint`, through `with_scale(0)`: a positive scale divides, truncating
toward zero.
-/
def toBigInt (d : BigDecimal) : Int :=
  if d.scale ≤ 0 then d.intVal * 10 ^ (-d.scale).toNat else d.intVal.tdiv (10 ^ d.scale.toNat)

end BigDecimal

/-- Modelled from the spec: `number_conversions::big_decimal_to_u256` is not in the
repository's files; an integral decimal in `[0, 2 ^ 256)` converts, any other does not.
-/
def bigDecimalToU256 (d : BigDecimal) : Option U256 :=
  if d.isInteger then
    if fits : 0 ≤ d.toBigInt ∧ d.toBigInt < 2 ^ 256 then some ⟨d.toBigInt.toNat, by omega⟩
    else none
  else none

/-- A number is an integer in `[0, 2 ^ 256)`. -/
def InU256 (q : ℚ) : Prop := ∃ n : ℕ, n < 2 ^ 256 ∧ q = n

namespace BigDecimal

-----------------------------------------------------------------------------------------
-- Exactness
-----------------------------------------------------------------------------------------

/-- Ten to a natural power is ten to that integer power. -/
theorem ten_pow_toNat {k : Int} (nonneg : 0 ≤ k) : (10 : ℚ) ^ k.toNat = 10 ^ k := by
  rw [← zpow_natCast, Int.toNat_of_nonneg nonneg]

/-- Subtraction is exact. -/
theorem value_sub (a b : BigDecimal) : (a - b).value = a.value - b.value := by
  have align : ∀ x : BigDecimal, x.scale ≤ max a.scale b.scale
      → (10 : ℚ) ^ (max a.scale b.scale - x.scale).toNat * 10 ^ (-max a.scale b.scale)
        = 10 ^ (-x.scale) := by
    intro x le
    rw [ten_pow_toNat (by omega), ← zpow_add₀ (by norm_num)]
    congr 1
    ring
  show ((a.intVal * 10 ^ (max a.scale b.scale - a.scale).toNat
      - b.intVal * 10 ^ (max a.scale b.scale - b.scale).toNat : ℤ) : ℚ)
      * 10 ^ (-max a.scale b.scale) = _
  push_cast
  rw [sub_mul, mul_assoc, mul_assoc, align a (le_max_left _ _), align b (le_max_right _ _)]
  rfl

/-- With a positive scale, a decimal is its integer over ten to the scale. -/
theorem value_of_pos {d : BigDecimal} (pos : 0 < d.scale)
    : d.value = d.intVal / (10 : ℚ) ^ d.scale.toNat := by
  rw [value, ten_pow_toNat pos.le, zpow_neg, div_eq_mul_inv]

/-- An integral decimal stands for its integer. -/
theorem value_eq_toBigInt {d : BigDecimal} (integral : d.isInteger = true)
    : d.value = d.toBigInt := by
  by_cases nonpos : d.scale ≤ 0
  · simp only [value, toBigInt, nonpos, if_true]
    push_cast
    rw [ten_pow_toNat (by omega)]
  · have divides : (10 : ℤ) ^ d.scale.toNat ∣ d.intVal := by
      simpa [isInteger, nonpos] using
        Int.dvd_of_emod_eq_zero (by simpa [isInteger, nonpos] using integral)
    simp only [toBigInt, nonpos, if_false, Int.tdiv_eq_ediv_of_dvd divides,
      value_of_pos (not_le.mp nonpos)]
    rw [Int.cast_div divides (by positivity)]
    push_cast
    rfl

/-- A decimal that stands for an integer is integral. -/
theorem isInteger_of_value_eq {d : BigDecimal} {n : ℤ} (h : d.value = n)
    : d.isInteger = true := by
  by_cases nonpos : d.scale ≤ 0
  · simp [isInteger, nonpos]
  · rw [value_of_pos (not_le.mp nonpos), div_eq_iff (by positivity)] at h
    have scaled : d.intVal = n * 10 ^ d.scale.toNat := by exact_mod_cast h
    simp [isInteger, nonpos, scaled]

end BigDecimal

/-- `big_decimal_to_u256` gives the `U256` a decimal stands for, and only that. -/
theorem bigDecimalToU256_eq_some (d : BigDecimal) (amount : U256)
    : bigDecimalToU256 d = some amount ↔ d.value = amount.val := by
  constructor
  · intro converted
    unfold bigDecimalToU256 at converted
    split at converted
    · rename_i integral
      split at converted
      · rename_i fits
        cases converted
        rw [BigDecimal.value_eq_toBigInt integral]
        exact_mod_cast (Int.toNat_of_nonneg fits.1).symm
      · cases converted
    · cases converted
  · intro stands
    have integral := BigDecimal.isInteger_of_value_eq (n := amount.val) (by exact_mod_cast stands)
    have same : d.toBigInt = amount.val := by
      exact_mod_cast (BigDecimal.value_eq_toBigInt integral).symm.trans stands
    have fits : 0 ≤ d.toBigInt ∧ d.toBigInt < 2 ^ 256 := by
      have := amount.lt
      omega
    simp only [bigDecimalToU256, integral, if_true, dif_pos fits, Option.some.injEq]
    cases amount
    simp [same]

/-- `big_decimal_to_u256` converts exactly the decimals standing for an integer in
`[0, 2 ^ 256)`.
-/
theorem bigDecimalToU256_isSome_iff (d : BigDecimal)
    : (∃ amount, bigDecimalToU256 d = some amount) ↔ InU256 d.value := by
  simp only [bigDecimalToU256_eq_some]
  constructor
  · rintro ⟨amount, stands⟩
    exact ⟨amount.val, amount.lt, stands⟩
  · rintro ⟨n, small, stands⟩
    exact ⟨⟨n, small⟩, stands⟩

end CowServices
