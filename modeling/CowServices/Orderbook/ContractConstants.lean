import CowServices.Basic.TextCodecs

/-! `orderbook::verify_deployed_contract_constants`: a substring search of the bytecode's hex
finds every constant the bytecode holds, and also digits shifted by half a byte that it does not.
-/

namespace CowServices.Orderbook

-----------------------------------------------------------------------------------------
-- The check
-----------------------------------------------------------------------------------------

/-- `verify_deployed_contract_constants`, the loaded code an input and `str::contains` a digit
search. Modelled from the spec: `DomainSeparator::new` and `OrderData::TYPE_HASH` are not in
the repository's files, so both are parameters.
-/
def verifyDeployedContractConstants (domainSeparator : UInt64 → H160 → H256) (typeHash : H256)
    (code : Except Error (List UInt8)) (chainId : UInt64) (address : H160) : Except Error Unit := do
  let deployed ← code.mapError (Error.context · "Could not load deployed bytecode")
  let bytecode := hexEncode deployed
  if ¬ hexEncode (domainSeparator chainId address).bytes <:+: bytecode then
    throw (Error.msg "Bytecode did not contain domain separator")
  if ¬ hexEncode typeHash.bytes <:+: bytecode then
    throw (Error.msg "Bytecode did not contain order type hash")
  pure ()

/-- The check passes exactly when the bytecode's digits hold the digits of both constants. -/
theorem verifyDeployedContractConstants_eq_ok (domainSeparator : UInt64 → H160 → H256)
    (typeHash : H256) (deployed : List UInt8) (chainId : UInt64) (address : H160)
    : verifyDeployedContractConstants domainSeparator typeHash (.ok deployed) chainId address
        = .ok ()
      ↔ hexEncode (domainSeparator chainId address).bytes <:+: hexEncode deployed
        ∧ hexEncode typeHash.bytes <:+: hexEncode deployed := by
  unfold verifyDeployedContractConstants
  by_cases separator : hexEncode (domainSeparator chainId address).bytes <:+: hexEncode deployed
  <;> by_cases hash : hexEncode typeHash.bytes <:+: hexEncode deployed
  <;> simp [Except.mapError, separator, hash, bind, Except.bind, throw, throwThe,
    MonadExceptOf.throw, pure, Except.pure]

-----------------------------------------------------------------------------------------
-- Digits at an even offset are bytes
-----------------------------------------------------------------------------------------

/-- A byte string inside another has its digits inside the other's, at twice its offset. -/
theorem hexEncode_of_infix {needle bytes : List UInt8} (found : needle <:+: bytes)
    : ∃ before after, hexEncode bytes = before ++ hexEncode needle ++ after
      ∧ before.length % 2 = 0 := by
  obtain ⟨prefix_, suffix_, rfl⟩ := found
  exact ⟨hexEncode prefix_, hexEncode suffix_, by simp, by simp⟩

/-- Digits found at an even offset are the digits of bytes found at half that offset: the
cut before them is a cut between bytes, and so is the cut after them.
-/
theorem infix_of_hexEncode {needle bytes : List UInt8} {before after : List Char}
    (found : hexEncode bytes = before ++ hexEncode needle ++ after) (even : before.length % 2 = 0)
    : needle <:+: bytes := by
  rw [List.append_assoc] at found
  obtain ⟨head, rest⟩ := hexEncode_eq_append found even
  obtain ⟨middle, tail⟩ := hexEncode_eq_append rest.symm (by simp)
  have same : needle = (bytes.drop (before.length / 2)).take needle.length := by
    simpa using hexEncode_injective middle
  refine ⟨bytes.take (before.length / 2),
    (bytes.drop (before.length / 2)).drop needle.length, ?_⟩
  conv_rhs => rw [← List.take_append_drop (before.length / 2) bytes,
    ← List.take_append_drop needle.length (bytes.drop _)]
  rw [← same, List.append_assoc]

/-- Occurrences of digits at an even offset are exactly the occurrences of bytes. -/
theorem hexEncode_even_iff_infix (needle bytes : List UInt8)
    : (∃ before after, hexEncode bytes = before ++ hexEncode needle ++ after
        ∧ before.length % 2 = 0) ↔ needle <:+: bytes :=
  ⟨fun ⟨_, _, found, even⟩ => infix_of_hexEncode found even, hexEncode_of_infix⟩

-----------------------------------------------------------------------------------------
-- Digits at an odd offset
-----------------------------------------------------------------------------------------

/-- The bytes whose digits are `high`, the digits of `bytes` and then `low`: every digit moved
one place to the right.
-/
def shiftHalf (high : Nat) : List UInt8 → Nat → List UInt8
  | [], low => [UInt8.ofNat (16 * high + low)]
  | byte :: rest, low =>
      UInt8.ofNat (16 * high + byte.toNat / 16) :: shiftHalf (byte.toNat % 16) rest low

/-- A byte made of two digits has them as its halves. -/
theorem toNat_ofNat_digits {high low : Nat} (small : high < 16) (small' : low < 16)
    : (UInt8.ofNat (16 * high + low)).toNat / 16 = high
      ∧ (UInt8.ofNat (16 * high + low)).toNat % 16 = low := by
  show (16 * high + low) % 256 / 16 = high ∧ (16 * high + low) % 256 % 16 = low
  omega

/-- The digits of the shifted bytes, by induction on the bytes. -/
theorem hexEncode_shiftHalf {high low : Nat} (small : high < 16) (small' : low < 16)
    (bytes : List UInt8)
    : hexEncode (shiftHalf high bytes low)
      = Nat.digitChar high :: hexEncode bytes ++ [Nat.digitChar low] := by
  induction bytes generalizing high with
  | nil =>
      obtain ⟨upper, lower⟩ := toNat_ofNat_digits small small'
      simp only [shiftHalf, hexEncode_cons, hexEncode_nil, upper, lower]
      rfl
  | cons byte rest ih =>
      have half : byte.toNat / 16 < 16 := by have := byte.toNat_lt; omega
      obtain ⟨upper, lower⟩ := toNat_ofNat_digits small half
      simp only [shiftHalf, hexEncode_cons, upper, lower, ih (Nat.mod_lt _ (by norm_num))]
      rfl

/-- Shifting adds one byte, by induction on the bytes. -/
theorem length_shiftHalf (high low : Nat) (bytes : List UInt8)
    : (shiftHalf high bytes low).length = bytes.length + 1 := by
  induction bytes generalizing high with
  | nil => rfl
  | cons byte rest ih => simp only [shiftHalf, List.length_cons, ih]

/-- The first shifted byte holds the new high digit and the first byte's high digit. -/
theorem head?_shiftHalf (high low : Nat) (byte : UInt8) (rest : List UInt8)
    : (shiftHalf high (byte :: rest) low).head?
      = some (UInt8.ofNat (16 * high + byte.toNat / 16)) :=
  rfl

/-- The last shifted byte holds the last byte's low digit and the new low digit, by induction
on the bytes before the last.
-/
theorem getLast?_shiftHalf (high low : Nat) (init : List UInt8) (last : UInt8)
    : (shiftHalf high (init ++ [last]) low).getLast?
      = some (UInt8.ofNat (16 * (last.toNat % 16) + low)) := by
  induction init generalizing high with
  | nil => rfl
  | cons byte rest ih => rw [List.cons_append, shiftHalf, List.getLast?_cons, ih]; rfl

-----------------------------------------------------------------------------------------
-- Where a needle can sit
-----------------------------------------------------------------------------------------

/-- A needle one item shorter than the list it is in starts it or ends it. -/
theorem head?_or_getLast?_of_infix {α : Type} {needle list : List α} (nonempty : needle ≠ [])
    (found : needle <:+: list) (longer : list.length = needle.length + 1)
    : list.head? = needle.head? ∨ list.getLast? = needle.getLast? := by
  obtain ⟨before, after, rfl⟩ := found
  obtain ⟨x, xs, rfl⟩ := List.exists_cons_of_ne_nil nonempty
  have one : before.length + after.length = 1 := by simp at longer; omega
  cases before with
  | nil => exact .inl rfl
  | cons item before =>
      rw [List.length_cons] at one
      obtain ⟨rfl, rfl⟩ : before = [] ∧ after = [] := by
        rw [← List.length_eq_zero, ← List.length_eq_zero]
        omega
      exact .inr (by simp)

/-- A needle that does not start with `c` and is found in a run of `c`s followed by `rest` is
found in `rest`.
-/
theorem infix_of_infix_replicate_append {α : Type} {needle rest : List α} {c : α} {m : Nat}
    (first : needle.head? ≠ some c) (found : needle <:+: List.replicate m c ++ rest)
    : needle <:+: rest := by
  obtain ⟨before, after, split⟩ := found
  rw [List.append_assoc, List.append_eq_append_iff] at split
  rcases split with ⟨run, run_eq, later⟩ | ⟨skipped, _, later⟩
  · cases run with
    | nil => exact ⟨[], after, by simpa using later⟩
    | cons item run =>
        have run_c : item = c := List.eq_of_mem_replicate (n := m) (by rw [run_eq]; simp)
        cases needle with
        | nil => exact List.nil_infix
        | cons head needle => simp_all
  · exact ⟨skipped, after, by simp [later]⟩

/-- A needle whose first and last items are not `c`, found in `front` then a run of at least
its length less one of `c`s then `rest`, is found in `front` or in `rest`: an occurrence that
reaches into the run ends in it, and one that starts in it starts with `c`.
-/
theorem infix_of_infix_append_replicate {α : Type} {needle front rest : List α} {c : α}
    {m : Nat} (short : needle.length ≤ m + 1) (first : needle.head? ≠ some c)
    (last : needle.getLast? ≠ some c) (found : needle <:+: front ++ (List.replicate m c ++ rest))
    : needle <:+: front ∨ needle <:+: rest := by
  obtain ⟨before, after, split⟩ := found
  rw [List.append_assoc, List.append_eq_append_iff] at split
  rcases split with ⟨inside, front_eq, later⟩ | ⟨skipped, _, later⟩
  · rcases List.append_eq_append_iff.mp later
      with ⟨more, inside_eq, _⟩ | ⟨reach, needle_eq, run⟩
    · exact .inl ⟨before, more, by rw [front_eq, inside_eq, List.append_assoc]⟩
    · cases inside with
      | nil =>
          exact .inr (infix_of_infix_replicate_append (m := m) first
            ⟨[], after, by simpa [needle_eq] using run.symm⟩)
      | cons item inside =>
          cases reach with
          | nil => exact .inl ⟨before, [], by simp [front_eq, needle_eq]⟩
          | cons step reach =>
              have within : (step :: reach).length ≤ m := by
                simp only [needle_eq, List.length_append, List.length_cons] at short ⊢
                omega
              have prefix_run : step :: reach <+: List.replicate m c :=
                List.prefix_of_prefix_length_le ⟨after, run.symm⟩ (List.prefix_append _ _)
                  (by simpa using within)
              have all_c : ∀ x ∈ step :: reach, x = c :=
                fun x mem => List.eq_of_mem_replicate (prefix_run.subset mem)
              have ends : needle.getLast? = some c := by
                rw [needle_eq, List.getLast?_append,
                  List.getLast?_eq_getLast _ (List.cons_ne_nil _ _)]
                simp [all_c _ (List.getLast_mem _)]
              exact absurd ends last
  · exact .inr (infix_of_infix_replicate_append (m := m) first
      ⟨skipped, after, by simp [later]⟩)

-----------------------------------------------------------------------------------------
-- The guarantee and its limit
-----------------------------------------------------------------------------------------

/-- The check passes exactly when the bytecode's digits hold both constants' digits, so
whenever its bytes hold their bytes; digits at an even offset are bytes. By the digits of a
concatenation and their injectivity.
-/
theorem verifyDeployedContractConstants_spec (domainSeparator : UInt64 → H160 → H256)
    (typeHash : H256) (deployed : List UInt8) (chainId : UInt64) (address : H160)
    : (verifyDeployedContractConstants domainSeparator typeHash (.ok deployed) chainId address
          = .ok ()
        ↔ hexEncode (domainSeparator chainId address).bytes <:+: hexEncode deployed
          ∧ hexEncode typeHash.bytes <:+: hexEncode deployed)
      ∧ ((domainSeparator chainId address).bytes <:+: deployed → typeHash.bytes <:+: deployed
          → verifyDeployedContractConstants domainSeparator typeHash (.ok deployed) chainId address
            = .ok ())
      ∧ ∀ needle : List UInt8,
          (∃ before after, hexEncode deployed = before ++ hexEncode needle ++ after
            ∧ before.length % 2 = 0) ↔ needle <:+: deployed := by
  refine ⟨verifyDeployedContractConstants_eq_ok .., fun separator hash => ?_,
    fun needle => hexEncode_even_iff_infix needle deployed⟩
  obtain ⟨_, _, separator_found, _⟩ := hexEncode_of_infix separator
  obtain ⟨_, _, hash_found, _⟩ := hexEncode_of_infix hash
  exact (verifyDeployedContractConstants_eq_ok ..).mpr
    ⟨⟨_, _, separator_found.symm⟩, ⟨_, _, hash_found.symm⟩⟩

/-- The first of the bytes 0, 1 and 2 that is neither `x` nor `y`. -/
def avoidingByte (x y : UInt8) : UInt8 :=
  if x.toNat ≠ 0 ∧ y.toNat ≠ 0 then 0 else if x.toNat ≠ 1 ∧ y.toNat ≠ 1 then 1 else 2

/-- Two bytes cannot rule out all three of 0, 1 and 2. -/
theorem avoidingByte_ne (x y : UInt8) : avoidingByte x y ≠ x ∧ avoidingByte x y ≠ y := by
  have differs : ∀ {a b : UInt8}, a.toNat ≠ b.toNat → a ≠ b :=
    fun ne same => ne (congrArg _ same)
  unfold avoidingByte
  split_ifs with zero one
  · exact ⟨differs (Ne.symm zero.1), differs (Ne.symm zero.2)⟩
  · exact ⟨differs (Ne.symm one.1), differs (Ne.symm one.2)⟩
  · exact ⟨differs (show 2 ≠ x.toNat by omega), differs (show 2 ≠ y.toNat by omega)⟩

/-- The digits of bytes are among the digits of their shift. -/
theorem hexEncode_infix_shiftHalf {high low : Nat} (small : high < 16) (small' : low < 16)
    (bytes : List UInt8) : hexEncode bytes <:+: hexEncode (shiftHalf high bytes low) :=
  ⟨[Nat.digitChar high], [Nat.digitChar low], (hexEncode_shiftHalf small small' bytes).symm⟩

/-- Bytes are not among the bytes of their shift when the new outer digits differ from the
high digit of their first byte and the low digit of their last: being one byte shorter, they
could only start or end it.
-/
theorem not_infix_shiftHalf {high low : Nat} {bytes : List UInt8} {first last : UInt8}
    (small : high < 16) (small' : low < 16) (starts : bytes.head? = some first)
    (ends : bytes.getLast? = some last) (high_ne : high ≠ first.toNat / 16)
    (low_ne : low ≠ last.toNat % 16)
    : ¬ bytes <:+: shiftHalf high bytes low := by
  intro found
  have nonempty : bytes ≠ [] := by rintro rfl; cases starts
  rcases head?_or_getLast?_of_infix nonempty found (length_shiftHalf _ _ _) with same | same
  · obtain ⟨tail, rfl⟩ := List.head?_eq_some_iff.mp starts
    rw [head?_shiftHalf, starts, Option.some.injEq] at same
    have half : first.toNat / 16 < 16 := by have := first.toNat_lt; omega
    exact high_ne (same ▸ (toNat_ofNat_digits small half).1).symm
  · obtain ⟨init, rfl⟩ := List.getLast?_eq_some_iff.mp ends
    rw [getLast?_shiftHalf, ends, Option.some.injEq] at same
    exact low_ne (same ▸ (toNat_ofNat_digits (Nat.mod_lt _ (by norm_num)) small').2).symm

/-- A bytecode that holds the separator's digits and not its bytes: the separator's digits one
place to the right, with outer digits that differ from the separator's own, then 32 bytes that
are neither end of the separator, then the type hash unless it is the separator.
-/
def shiftedBytecode (separator typeHash : H256) : List UInt8 :=
  let first := separator.bytes.headD 0
  let last := separator.bytes.getLastD 0
  shiftHalf (if first.toNat / 16 = 0 then 1 else 0) separator.bytes
      (if last.toNat % 16 = 0 then 1 else 0)
    ++ (List.replicate 32 (avoidingByte first last)
      ++ if typeHash = separator then [] else typeHash.bytes)

/-- Whatever the constants, the shifted bytecode passes the check without holding the
separator's bytes: every place they could start or end has a byte the separator lacks. By
cases on where an occurrence starts.
-/
theorem shiftedBytecode_passes_check (domainSeparator : UInt64 → H160 → H256) (typeHash : H256)
    (chainId : UInt64) (address : H160)
    : verifyDeployedContractConstants domainSeparator typeHash
        (.ok (shiftedBytecode (domainSeparator chainId address) typeHash)) chainId address = .ok ()
      ∧ ¬ (domainSeparator chainId address).bytes
        <:+: shiftedBytecode (domainSeparator chainId address) typeHash := by
  rw [verifyDeployedContractConstants_eq_ok]
  generalize domainSeparator chainId address = separator
  have nonempty : separator.bytes ≠ [] := fun empty => by simpa [empty] using separator.length_eq
  obtain ⟨first, starts⟩ :=
    Option.ne_none_iff_exists'.mp (List.head?_eq_none_iff.not.mpr nonempty)
  obtain ⟨last, ends⟩ :=
    Option.ne_none_iff_exists'.mp (List.getLast?_eq_none_iff.not.mpr nonempty)
  have first_eq : separator.bytes.headD 0 = first := by simp [List.headD_eq_head?, starts]
  have last_eq : separator.bytes.getLastD 0 = last := by simp [List.getLastD_eq_getLast?, ends]
  obtain ⟨high, high_small, high_ne, high_eq⟩ : ∃ high < 16, high ≠ first.toNat / 16
      ∧ (if first.toNat / 16 = 0 then 1 else 0) = high :=
    ⟨_, by split <;> norm_num, by split <;> omega, rfl⟩
  obtain ⟨low, low_small, low_ne, low_eq⟩ : ∃ low < 16, low ≠ last.toNat % 16
      ∧ (if last.toNat % 16 = 0 then 1 else 0) = low :=
    ⟨_, by split <;> norm_num, by split <;> omega, rfl⟩
  have shifted := hexEncode_infix_shiftHalf high_small low_small separator.bytes
  have absent : ∀ rest, ¬ separator.bytes <:+: rest → ¬ separator.bytes
      <:+: shiftHalf high separator.bytes low
        ++ (List.replicate 32 (avoidingByte first last) ++ rest) := by
    intro rest outside found
    obtain ⟨c_first, c_last⟩ := avoidingByte_ne first last
    rcases infix_of_infix_append_replicate (by simp [separator.length_eq])
      (by rw [starts]; simpa using Ne.symm c_first) (by rw [ends]; simpa using Ne.symm c_last)
      found with inside | later
    · exact not_infix_shiftHalf high_small low_small starts ends high_ne low_ne inside
    · exact outside later
  simp only [shiftedBytecode, first_eq, last_eq, high_eq, low_eq, hexEncode_append]
  by_cases same : typeHash = separator
  · subst typeHash
    simp only [if_true, hexEncode_nil, List.append_nil]
    exact ⟨⟨shifted.trans (List.prefix_append _ _).isInfix,
      shifted.trans (List.prefix_append _ _).isInfix⟩,
      absent [] fun found => nonempty (List.eq_nil_of_infix_nil found)⟩
  · simp only [same, if_false]
    exact ⟨⟨shifted.trans (List.prefix_append _ _).isInfix,
      (List.suffix_append _ _).isInfix.trans (List.suffix_append _ _).isInfix⟩,
      absent _ fun found => same (FixedBytes.ext_bytes
        (found.eq_of_length (by rw [separator.length_eq, typeHash.length_eq])).symm)⟩

/-- The hash of 32 bytes 0x12 taken as the domain separator for any chain and address. -/
def sampleSeparator : H256 := ⟨List.replicate 32 0x12, List.length_replicate _ _⟩

/-- The hash of 32 bytes 0x34 taken as the type hash. -/
def sampleTypeHash : H256 := ⟨List.replicate 32 0x34, List.length_replicate _ _⟩

/-- With these constants the shifted bytecode is 0x01, 31 bytes 0x21 and 0x20, then 32 bytes
0x00 and the type hash: its digits hold "1212…12" from the second digit on, and it holds no
byte 0x12, yet the check passes on chain 1 at the zero address.
-/
theorem shifted_separator_passes_check
    : verifyDeployedContractConstants (fun _ _ => sampleSeparator) sampleTypeHash
        (.ok (shiftedBytecode sampleSeparator sampleTypeHash)) 1
        ⟨List.replicate 20 0, List.length_replicate _ _⟩ = .ok ()
      ∧ ¬ sampleSeparator.bytes <:+: shiftedBytecode sampleSeparator sampleTypeHash :=
  shiftedBytecode_passes_check (fun _ _ => sampleSeparator) sampleTypeHash 1 _

end CowServices.Orderbook
