import CowServices.Basic.Json

/-! The text forms of the records' leaf values: byte strings and hashes as "0x" and lowercase
hex, `U256` in decimal. Each reader reads back what its writer wrote, and hex keeps the order
of the hashes, so a map keyed by them is written in its own order.
-/

namespace CowServices

-----------------------------------------------------------------------------------------
-- Hex
-----------------------------------------------------------------------------------------

/-- The two lowercase digits `hex::encode` writes for a byte, high half first. -/
def hexPair (byte : UInt8) : List Char :=
  [Nat.digitChar (byte.toNat / 16), Nat.digitChar (byte.toNat % 16)]

/-- `hex::encode`: two lowercase digits a byte. -/
def hexEncode (bytes : List UInt8) : List Char := bytes.flatMap hexPair

/-- Modelled from the spec: byte strings and hashes are written as "0x" followed by
`hex::encode` of their bytes.
-/
def toHex (bytes : List UInt8) : String :=
  ⟨'0' :: 'x' :: hexEncode bytes⟩

/-- The value of a hex digit of either case. -/
def hexDigitValue (c : Char) : Option Nat :=
  if '0' ≤ c ∧ c ≤ '9' then some (c.toNat - '0'.toNat)
  else if 'a' ≤ c ∧ c ≤ 'f' then some (c.toNat - 'a'.toNat + 10)
  else if 'A' ≤ c ∧ c ≤ 'F' then some (c.toNat - 'A'.toNat + 10)
  else none

/-- `hex::decode` after its length check: two digits to a byte. -/
def decodeHexPairs : List Char → Except Error (List UInt8)
  | [] => .ok []
  | [_] => .error (.msg "Odd number of digits")
  | high :: low :: rest =>
      match hexDigitValue high, hexDigitValue low with
      | some h, some l => (decodeHexPairs rest).map (UInt8.ofNat (16 * h + l) :: ·)
      | _, _ => .error (.msg "Invalid character")

/-- `hex::decode`: an odd number of digits is refused before any digit is read. -/
def hexDecode (digits : List Char) : Except Error (List UInt8) :=
  if digits.length % 2 = 1 then .error (.msg "Odd number of digits") else decodeHexPairs digits

/-- Modelled from the spec: `model::bytes_hex::deserialize` is not in the repository's
files; the text must start with "0x", and the rest is decoded as hex.
-/
def bytesFromHex (text : String) : Except Error (List UInt8) :=
  match text.toList with
  | '0' :: 'x' :: digits => hexDecode digits
  | _ => .error (.msg "missing 0x prefix")

/-- A hash or order uid written as hex. -/
def FixedBytes.toHex {n : Nat} (x : FixedBytes n) : String := CowServices.toHex x.bytes

/-- Modelled from the spec: the readers of `H160`, `H256` and `OrderUid` are not in the
repository's files; a hash is "0x" and exactly its number of bytes in hex.
-/
def FixedBytes.fromHex (n : Nat) (text : String) : Except Error (FixedBytes n) := do
  let bytes ← bytesFromHex text
  if h : bytes.length = n then pure ⟨bytes, h⟩ else .error (.msg "invalid length")

/-- Each of the sixteen digits reads back as its value. -/
theorem hexDigitValue_digitChar {d : Nat} (small : d < 16)
    : hexDigitValue (Nat.digitChar d) = some d := by
  have table : ∀ d : Fin 16, hexDigitValue (Nat.digitChar d.val) = some d.val := by decide
  exact table ⟨d, small⟩

/-- A byte is sixteen times its high digit plus its low digit. -/
theorem byte_of_halves (byte : UInt8)
    : UInt8.ofNat (16 * (byte.toNat / 16) + byte.toNat % 16) = byte :=
  UInt8.toNat.inj (by
    show (16 * (byte.toNat / 16) + byte.toNat % 16) % 256 = byte.toNat
    have := byte.toNat_lt
    omega)

@[simp] theorem hexEncode_nil : hexEncode [] = [] := rfl

@[simp] theorem hexEncode_cons (byte : UInt8) (rest : List UInt8)
    : hexEncode (byte :: rest) = Nat.digitChar (byte.toNat / 16) :: Nat.digitChar (byte.toNat % 16)
      :: hexEncode rest := rfl

@[simp] theorem hexEncode_append (first second : List UInt8)
    : hexEncode (first ++ second) = hexEncode first ++ hexEncode second :=
  List.flatMap_append _ _ _

/-- Two digits to a byte, by induction on the bytes. -/
@[simp] theorem length_hexEncode (bytes : List UInt8)
    : (hexEncode bytes).length = 2 * bytes.length := by
  induction bytes with
  | nil => rfl
  | cons byte rest ih =>
      simp only [hexEncode_cons, List.length_cons, ih]
      omega

/-- Decoding the digits of a byte string gives the bytes back, by induction on the bytes. -/
theorem decodeHexPairs_hexEncode (bytes : List UInt8)
    : decodeHexPairs (hexEncode bytes) = .ok bytes := by
  induction bytes with
  | nil => rfl
  | cons byte rest ih =>
      have high := hexDigitValue_digitChar (d := byte.toNat / 16) (by have := byte.toNat_lt; omega)
      have low := hexDigitValue_digitChar (d := byte.toNat % 16) (Nat.mod_lt _ (by norm_num))
      rw [hexEncode_cons, decodeHexPairs, high, low, ih]
      simp only [Except.map, byte_of_halves]

/-- Different bytes have different digits. -/
theorem hexEncode_injective {first second : List UInt8} (same : hexEncode first = hexEncode second)
    : first = second := by
  have read := decodeHexPairs_hexEncode first
  rw [same, decodeHexPairs_hexEncode] at read
  exact (Except.ok.inj read).symm

/-- Digits cut after an even number of them are the digits of the bytes before and after the
cut.
-/
theorem hexEncode_eq_append {bytes : List UInt8} {before after : List Char}
    (cut : hexEncode bytes = before ++ after) (even : before.length % 2 = 0)
    : before = hexEncode (bytes.take (before.length / 2))
      ∧ after = hexEncode (bytes.drop (before.length / 2)) := by
  have whole := hexEncode_append (bytes.take (before.length / 2)) (bytes.drop (before.length / 2))
  rw [List.take_append_drop, cut] at whole
  have within : before.length ≤ (hexEncode bytes).length := by
    rw [cut, List.length_append]
    omega
  rw [length_hexEncode] at within
  exact List.append_inj whole (by simp only [length_hexEncode, List.length_take]; omega)

@[simp] theorem bytesFromHex_toHex (bytes : List UInt8)
    : bytesFromHex (toHex bytes) = .ok bytes := by
  have even : (hexEncode bytes).length % 2 = 0 := by rw [length_hexEncode]; omega
  show hexDecode (hexEncode bytes) = _
  simp only [hexDecode, even]
  exact decodeHexPairs_hexEncode bytes

@[simp] theorem FixedBytes.fromHex_toHex {n : Nat} (x : FixedBytes n)
    : FixedBytes.fromHex n x.toHex = .ok x := by
  simp only [FixedBytes.fromHex, FixedBytes.toHex, bytesFromHex_toHex]
  exact dif_pos x.length_eq

/-- A lexicographic comparison of two nonempty lists decides at the heads or goes on. -/
theorem lex_cons_inv {a b : Nat} {l₁ l₂ : List Nat}
    (lex : List.Lex (· < ·) (a :: l₁) (b :: l₂))
    : a < b ∨ a = b ∧ List.Lex (· < ·) l₁ l₂ := by
  cases lex with
  | cons tails => exact .inr ⟨rfl, tails⟩
  | rel lt => exact .inl lt

/-- Two byte strings compare, from their first byte, as their lowercase hex digits do, by
induction on the bytes.
-/
theorem hexEncode_lex
    : ∀ {xs ys : List UInt8}, List.Lex (· < ·) (xs.map UInt8.toNat) (ys.map UInt8.toNat)
      → List.Lex (· < ·) (hexEncode xs) (hexEncode ys)
  | _, [], lex => absurd lex (List.Lex.not_nil_right _ _)
  | [], y :: ys, _ => by simp only [hexEncode_cons, hexEncode_nil]; exact List.Lex.nil
  | x :: xs, y :: ys, lex => by
      have digits : ∀ a b : Fin 16, a < b → Nat.digitChar a < Nat.digitChar b := by decide
      have xs_lt := x.toNat_lt
      have ys_lt := y.toNat_lt
      simp only [hexEncode_cons]
      rcases lex_cons_inv lex with lt | ⟨same, tails⟩
      · by_cases high : x.toNat / 16 < y.toNat / 16
        · exact .rel (digits ⟨_, by omega⟩ ⟨_, by omega⟩ high)
        · have same : x.toNat / 16 = y.toNat / 16 := by omega
          rw [same]
          exact .cons (.rel (digits ⟨_, Nat.mod_lt _ (by norm_num)⟩
            ⟨_, Nat.mod_lt _ (by norm_num)⟩ (Fin.mk_lt_mk.mpr (by omega))))
      · obtain rfl : x = y := UInt8.toNat.inj same
        exact .cons (.cons (hexEncode_lex tails))

/-- Hex keeps the order of hashes: the derived `Ord` of `[u8; N]` and the order of their
written strings agree.
-/
theorem FixedBytes.toHex_strictMono {n : Nat} : StrictMono (FixedBytes.toHex (n := n)) := by
  intro a b lt
  have lex : List.Lex (· < ·) a.toHex.toList b.toHex.toList := .cons (.cons (hexEncode_lex lt))
  exact String.lt_iff_toList_lt.mpr lex

-----------------------------------------------------------------------------------------
-- Decimal
-----------------------------------------------------------------------------------------

/-- The failures of `U256::from_dec_str`. -/
inductive FromDecStrErr
  | invalidCharacter
  | invalidLength

/-- `U256::from_dec_str` over the characters left, from the value of those read: a
non-digit is `InvalidCharacter`, and a value past `U256::MAX` is `InvalidLength`.
-/
def decDigits (acc : U256) : List Char → Except FromDecStrErr U256
  | [] => .ok acc
  | c :: rest =>
      if c.isDigit then
        if fits : acc.val * 10 + (c.toNat - '0'.toNat) < 2 ^ 256 then decDigits ⟨_, fits⟩ rest
        else .error .invalidLength
      else .error .invalidCharacter

/-- Modelled from the spec: `U256::from_dec_str` is not in the repository's files; it reads
the digits from the left, and the empty text is zero.
-/
def U256.fromDecStr (text : String) : Except FromDecStrErr U256 :=
  decDigits ⟨0, by norm_num⟩ text.toList

/-- Modelled from the spec: `model::u256_decimal` is not in the repository's files; it
writes a `U256` in decimal, as its `Display` does.
-/
def U256.toDecimal (x : U256) : String := x.val.repr

/-- Modelled from the spec: `model::u256_decimal` reads a `U256` with `from_dec_str`. -/
def U256.fromDecimal (text : String) : Except Error U256 :=
  match U256.fromDecStr text with
  | .ok x => .ok x
  | .error _ => .error (.msg ("failed to decode " ++ text ++ " as decimal u256"))

/-- The digits of `n` come before those already written, by induction on the fuel. -/
theorem toDigitsCore_append : ∀ (fuel n : Nat) (ds : List Char), n < fuel
    → Nat.toDigitsCore 10 fuel n ds = Nat.toDigitsCore 10 fuel n [] ++ ds
  | 0, _, _, small => absurd small (Nat.not_lt_zero _)
  | fuel + 1, n, ds, small => by
      simp only [Nat.toDigitsCore]
      split
      · rfl
      · have shorter : n / 10 < fuel := by omega
        rw [toDigitsCore_append fuel (n / 10) _ shorter,
          toDigitsCore_append fuel (n / 10) [_] shorter]
        simp

/-- Reading goes on from the value of what was read. -/
theorem decDigits_append (acc : U256) (first second : List Char)
    : decDigits acc (first ++ second)
      = decDigits acc first >>= fun acc => decDigits acc second := by
  induction first generalizing acc with
  | nil => rfl
  | cons c rest ih =>
      simp only [List.cons_append, decDigits]
      split
      · split
        · exact ih _
        · rfl
      · rfl

/-- The decimal digits of a value below `2 ^ 256` read back as that value, by induction on
the fuel of `Nat.toDigits`.
-/
theorem decDigits_toDigitsCore : ∀ (fuel n : Nat) (small : n < 2 ^ 256), n < fuel
    → decDigits ⟨0, by norm_num⟩ (Nat.toDigitsCore 10 fuel n []) = .ok ⟨n, small⟩
  | 0, _, _, short => absurd short (Nat.not_lt_zero _)
  | fuel + 1, n, small, short => by
      have digit : ∀ d : Fin 10, (Nat.digitChar d).isDigit = true
          ∧ (Nat.digitChar d).toNat - '0'.toNat = d := by decide
      obtain ⟨isDigit, value⟩ := digit ⟨n % 10, Nat.mod_lt _ (by norm_num)⟩
      simp only [Nat.toDigitsCore]
      split
      · simp only [decDigits, isDigit, value, if_true]
        rw [dif_pos (by omega)]
        simp only [decDigits, Except.ok.injEq, U256.mk.injEq]
        omega
      · rw [toDigitsCore_append fuel _ _ (by omega), decDigits_append,
          decDigits_toDigitsCore fuel (n / 10) (by omega) (by omega)]
        simp only [bind, Except.bind, decDigits, isDigit, value, if_true]
        rw [dif_pos (by omega)]
        simp only [decDigits, Except.ok.injEq, U256.mk.injEq]
        omega

@[simp] theorem U256.fromDecimal_toDecimal (x : U256) : U256.fromDecimal x.toDecimal = .ok x := by
  have read : U256.fromDecStr x.toDecimal = .ok x :=
    decDigits_toDigitsCore (x.val + 1) x.val x.lt (Nat.lt_succ_self _)
  simp [U256.fromDecimal, read]

-----------------------------------------------------------------------------------------
-- As JSON values
-----------------------------------------------------------------------------------------

namespace Json

/-- `Serialize` of a hash or order uid: its hex string. -/
def fixedBytesToValue {n : Nat} (x : FixedBytes n) : Value := .string x.toHex

/-- `Deserialize` of a hash or order uid, from a string. -/
def fixedBytesFromValue (n : Nat) : Value → Except Error (FixedBytes n)
  | .string text => FixedBytes.fromHex n text
  | value => .error (invalidType value "a 0x-prefixed hex string")

/-- `model::bytes_hex::serialize`. -/
def bytesToValue (bytes : List UInt8) : Value := .string (toHex bytes)

/-- `model::bytes_hex::deserialize`, from a string. -/
def bytesFromValue : Value → Except Error (List UInt8)
  | .string text => bytesFromHex text
  | value => .error (invalidType value "a 0x-prefixed hex string")

/-- `model::u256_decimal::serialize`, also `DecimalU256`. -/
def u256ToValue (x : U256) : Value := .string x.toDecimal

/-- `model::u256_decimal::deserialize`, also `DecimalU256`, from a string. -/
def u256FromValue : Value → Except Error U256
  | .string text => U256.fromDecimal text
  | value => .error (invalidType value "a u256 encoded as a decimal encoded string")

@[simp] theorem fixedBytesFromValue_fixedBytesToValue {n : Nat} (x : FixedBytes n)
    : fixedBytesFromValue n (fixedBytesToValue x) = .ok x :=
  FixedBytes.fromHex_toHex x

@[simp] theorem bytesFromValue_bytesToValue (bytes : List UInt8)
    : bytesFromValue (bytesToValue bytes) = .ok bytes :=
  bytesFromHex_toHex bytes

@[simp] theorem u256FromValue_u256ToValue (x : U256) : u256FromValue (u256ToValue x) = .ok x :=
  U256.fromDecimal_toDecimal x

end Json

end CowServices
