import Mathlib

/-! Values the services pass between their crates: `anyhow` errors as their chain of
messages, and the fixed-width integers and byte arrays of the wire types.
-/

namespace CowServices

/-- Results compare by their variant and payload. -/
instance exceptDecidableEq {ε α : Type} [DecidableEq ε] [DecidableEq α]
    : DecidableEq (Except ε α)
  | .ok a, .ok b => decidable_of_iff (a = b) (by simp)
  | .error a, .error b => decidable_of_iff (a = b) (by simp)
  | .ok _, .error _ => isFalse (by simp)
  | .error _, .ok _ => isFalse (by simp)

/-- A step of an `Except` computation succeeds exactly when its first part does and the
rest succeeds from there.
-/
theorem bind_eq_ok {ε α β : Type} {x : Except ε α} {f : α → Except ε β} {b : β}
    : x >>= f = .ok b ↔ ∃ a, x = .ok a ∧ f a = .ok b := by
  cases x <;> simp [bind, Except.bind]

/-- `mapM` in `Except` succeeds exactly when every item succeeds, the results in the items'
order; by induction on the items.
-/
theorem mapM_eq_ok {ε α β : Type} {f : α → Except ε β} {items : List α} {results : List β}
    : items.mapM f = .ok results ↔ List.Forall₂ (fun a b => f a = .ok b) items results := by
  induction items generalizing results with
  | nil =>
      rw [List.mapM_nil]
      cases results
      · exact ⟨(fun _ => .nil), (fun _ => rfl)⟩
      · exact ⟨(fun done => by cases done), (fun related => by cases related)⟩
  | cons a rest ih =>
      cases results with
      | nil => simp only [List.mapM_cons, bind_eq_ok]; simp [pure, Except.pure]
      | cons b others =>
          simp only [List.mapM_cons, bind_eq_ok, List.forall₂_cons, ← ih]
          constructor
          · rintro ⟨a', first, rest', later, done⟩
            cases done
            exact ⟨first, later⟩
          · rintro ⟨first, later⟩
            exact ⟨b, first, others, later, rfl⟩

/-- An item of the left list of a related pair has a partner, by induction on the pair. -/
theorem forall₂_exists_of_mem {α β : Type} {R : α → β → Prop} {items : List α}
    {partners : List β} (related : List.Forall₂ R items partners) {a : α} (mem : a ∈ items)
    : ∃ b, R a b := by
  induction related with
  | nil => cases mem
  | cons first _ ih =>
      rcases List.mem_cons.mp mem with rfl | mem
      · exact ⟨_, first⟩
      · exact ih mem

/-- An `anyhow::Error`, as the chain of its messages, outermost context first. -/
structure Error where
  messages : List String
  deriving DecidableEq, Repr

/-- `anyhow!(message)`. -/
def Error.msg (message : String) : Error := ⟨[message]⟩

/-- `Context::context` wraps the error in one more message. -/
def Error.context (error : Error) (message : String) : Error := ⟨message :: error.messages⟩

/-- `shared::clone_anyhow_error`: `anyhow!("{:#}", err)`, where the alternate format of an
`anyhow::Error` writes the messages of its chain joined by ": ".
-/
def cloneAnyhowError (err : Error) : Error := .msg (": ".intercalate err.messages)

/-- `primitive_types::U256`. -/
structure U256 where
  val : Nat
  lt : val < 2 ^ 256
  deriving DecidableEq

/-- An `i64`. -/
structure I64 where
  val : Int
  ge : -2 ^ 63 ≤ val
  lt : val < 2 ^ 63
  deriving DecidableEq

/-- An `f64`, as its IEEE-754 binary64 bits. -/
structure F64 where
  bits : UInt64
  deriving DecidableEq

/-- `f64::is_finite`: the eleven exponent bits are not all set. -/
def F64.isFinite (x : F64) : Bool := x.bits.toNat / 2 ^ 52 % 2 ^ 11 != 2 ^ 11 - 1

/-- A byte array of fixed length: `H160`, `H256` and `OrderUid` hold 20, 32 and 56 bytes. -/
structure FixedBytes (n : Nat) where
  bytes : List UInt8
  length_eq : bytes.length = n
  deriving DecidableEq

/-- Arrays with the same bytes are equal. -/
theorem FixedBytes.ext_bytes {n : Nat} {a b : FixedBytes n} (h : a.bytes = b.bytes) : a = b := by
  cases a; cases b; cases h; rfl

/-- The byte values, compared one after another as the derived `Ord` of `[u8; N]` does. -/
def FixedBytes.values {n : Nat} (x : FixedBytes n) : List Nat := x.bytes.map UInt8.toNat

theorem FixedBytes.values_injective {n : Nat} : Function.Injective (FixedBytes.values (n := n)) :=
  fun _ _ h => FixedBytes.ext_bytes ((List.map_injective_iff.mpr fun _ _ => UInt8.toNat.inj) h)

instance {n : Nat} : LinearOrder (FixedBytes n) :=
  LinearOrder.lift' FixedBytes.values FixedBytes.values_injective

/-- `primitive_types::H160`, an address. -/
abbrev H160 := FixedBytes 20

/-- `primitive_types::H256`, a hash. -/
abbrev H256 := FixedBytes 32

/-- `model::order::OrderUid`. -/
abbrev OrderUid := FixedBytes 56

end CowServices
