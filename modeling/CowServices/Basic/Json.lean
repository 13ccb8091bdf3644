import CowServices.Basic.BTreeMap

/-! `serde_json::Value` and the serde impls behind `to_value` and `from_value` for the
persisted records' field types. Each writer comes with what its reader makes of its output.
-/

namespace CowServices.Json

-----------------------------------------------------------------------------------------
-- Values
-----------------------------------------------------------------------------------------

/-- A `serde_json::Number`: a `u64`, a negative `i64`, or a finite `f64`. -/
inductive Number
  | posInt (n : UInt64)
  | negInt (n : I64) (negative : n.val < 0)
  | float (x : F64) (finite : x.isFinite = true)

/-- A `serde_json::Value`. An object is a `serde_json::Map`, a `BTreeMap<String, Value>`,
given by its entries in key order.
-/
inductive Value
  | null
  | bool (b : Bool)
  | number (n : Number)
  | string (s : String)
  | array (items : List Value)
  | object (entries : List (String × Value))

/-- How serde names a value it did not expect. -/
def Value.unexpected : Value → String
  | .null => "null"
  | .bool _ => "boolean"
  | .number (.float _ _) => "floating point"
  | .number _ => "integer"
  | .string _ => "string"
  | .array _ => "sequence"
  | .object _ => "map"

/-- `Error::invalid_type`. -/
def invalidType (value : Value) (expected : String) : Error :=
  .msg ("invalid type: " ++ value.unexpected ++ ", expected " ++ expected)

/-- What reading an `f64` from `null` fails with. -/
def nullF64 : Error := invalidType .null "f64"

/-- `Map::remove` on an object: the JSON without the entry of one name. -/
def Value.removeField (name : String) : Value → Value
  | .object entries => .object (entries.filter (·.1 != name))
  | value => value

-----------------------------------------------------------------------------------------
-- Writers: `serde_json::to_value`
-----------------------------------------------------------------------------------------

/-- `Serialize for u64`. -/
def u64ToValue (n : UInt64) : Value := .number (.posInt n)

/-- `Serialize for i64`: a negative value is kept as `NegInt`, any other as `PosInt`. -/
def i64ToValue (n : I64) : Value :=
  if negative : n.val < 0 then .number (.negInt n negative)
  else .number (.posInt (UInt64.ofNat n.val.toNat))

/-- `Serialize for f64`: `Value::from(f64)` is `Null` for a NaN or an infinity. -/
def f64ToValue (x : F64) : Value :=
  if finite : x.isFinite then .number (.float x finite) else .null

/-- `Serialize for Vec<T>`. -/
def vecToValue {α : Type} (toValue : α → Value) (items : List α) : Value :=
  .array (items.map toValue)

/-- `Serialize for Option<T>`. -/
def optionToValue {α : Type} (toValue : α → Value) : Option α → Value
  | none => .null
  | some a => toValue a

/-- `Serialize for BTreeMap<K, V>`: each key written as a string by the map-key serializer,
and each entry inserted into a `serde_json::Map`.
-/
def mapToValue {K V : Type} [LinearOrder K] (keyToString : K → String) (toValue : V → Value)
    (map : BTreeMap K V) : Value :=
  .object (map.entries.foldl
    (fun object entry => insertEntry (keyToString entry.1) (toValue entry.2) object) [])

/-- A derived `Serialize` for a struct: each field inserted under its name. -/
def structToValue (fields : List (String × Value)) : Value :=
  .object (fields.foldl (fun object field => insertEntry field.1 field.2 object) [])

-----------------------------------------------------------------------------------------
-- Readers: `serde_json::from_value`
-----------------------------------------------------------------------------------------

/-- `n as f64` for `n < 2 ^ 64`: the double nearest to `n`, a tie going to the even
significand. A significand rounded up to `2 ^ 53` carries into the exponent.
-/
def F64.ofNat (n : Nat) : F64 :=
  if n = 0 then ⟨0⟩
  else
    let e := Nat.log2 n
    let significand :=
      if e ≤ 52 then n * 2 ^ (52 - e)
      else
        let q := n / 2 ^ (e - 52)
        let r := n % 2 ^ (e - 52)
        if 2 ^ (e - 53) < r ∨ (r = 2 ^ (e - 53) ∧ q % 2 = 1) then q + 1 else q
    ⟨UInt64.ofNat ((e + 1023) * 2 ^ 52 + (significand - 2 ^ 52))⟩

/-- `i as f64` for an `i64`: the sign bit over the double of the magnitude. -/
def F64.ofInt (i : Int) : F64 :=
  if i < 0 then ⟨(F64.ofNat i.natAbs).bits ||| (1 : UInt64) <<< 63⟩ else F64.ofNat i.toNat

/-- `Deserialize for u64`. -/
def u64FromValue : Value → Except Error UInt64
  | .number (.posInt n) => .ok n
  | .number (.negInt _ _) => .error (.msg "invalid value: integer, expected u64")
  | value => .error (invalidType value "u64")

/-- `Deserialize for i64`: a `PosInt` above `i64::MAX` is refused. -/
def i64FromValue : Value → Except Error I64
  | .number (.posInt n) =>
      if small : n.toNat < 2 ^ 63 then .ok ⟨n.toNat, by omega, by omega⟩
      else .error (.msg "invalid value: integer, expected i64")
  | .number (.negInt n _) => .ok n
  | value => .error (invalidType value "i64")

/-- `Deserialize for f64`: a float as it is, an integer converted with `as f64`. -/
def f64FromValue : Value → Except Error F64
  | .number (.posInt n) => .ok (F64.ofNat n.toNat)
  | .number (.negInt n _) => .ok (F64.ofInt n.val)
  | .number (.float x _) => .ok x
  | value => .error (invalidType value "f64")

/-- `Deserialize for String`. -/
def stringFromValue : Value → Except Error String
  | .string s => .ok s
  | value => .error (invalidType value "a string")

/-- `Deserialize for Vec<T>`: the items in turn, stopping at the first error. -/
def vecFromValue {α : Type} (fromValue : Value → Except Error α) : Value → Except Error (List α)
  | .array items => items.mapM fromValue
  | value => .error (invalidType value "a sequence")

/-- `Deserialize for Option<T>`: `null` is `None`, anything else is read as a `T`. -/
def optionFromValue {α : Type} (fromValue : Value → Except Error α)
    : Value → Except Error (Option α)
  | .null => .ok none
  | value => (fromValue value).map some

/-- `Deserialize for BTreeMap<K, V>`: the entries in turn, each key read from its string and
each value read, and the pair inserted.
-/
def mapFromValue {K V : Type} [LinearOrder K] (keyFromString : String → Except Error K)
    (fromValue : Value → Except Error V) : Value → Except Error (BTreeMap K V)
  | .object entries => entries.foldlM (fun map entry => do
      let key ← keyFromString entry.1
      let value ← fromValue entry.2
      pure (map.insert key value)) BTreeMap.empty
  | value => .error (invalidType value "a map")

/-- A field of a derived `Deserialize` for a struct, read by its name; `missing` is what a
field absent from the object gives.
-/
def fieldWith {α : Type} (missing : Except Error α) (entries : List (String × Value))
    (name : String) (fromValue : Value → Except Error α) : Except Error α :=
  match lookup name entries with
  | some value => fromValue value
  | none => missing

/-- A required field: its absence is "missing field". -/
def field {α : Type} (entries : List (String × Value)) (name : String)
    (fromValue : Value → Except Error α) : Except Error α :=
  fieldWith (.error (.msg ("missing field `" ++ name ++ "`"))) entries name fromValue

/-- A field with `#[serde(default)]`, or of an `Option` type: its absence gives `default`. -/
def fieldOr {α : Type} (default : α) (entries : List (String × Value)) (name : String)
    (fromValue : Value → Except Error α) : Except Error α :=
  fieldWith (.ok default) entries name fromValue

-----------------------------------------------------------------------------------------
-- Reading back what was written
-----------------------------------------------------------------------------------------

@[simp] theorem u64FromValue_u64ToValue (n : UInt64) : u64FromValue (u64ToValue n) = .ok n :=
  rfl

/-- An `i64` reads back as itself, from either integer form. -/
@[simp] theorem i64FromValue_i64ToValue (n : I64) : i64FromValue (i64ToValue n) = .ok n := by
  obtain ⟨val, ge, lt⟩ := n
  dsimp only [i64ToValue]
  split
  · rfl
  · have fits : (UInt64.ofNat val.toNat).toNat = val.toNat :=
      UInt64.toNat_ofNat_of_lt (by simp only [UInt64.size]; omega)
    have small : (UInt64.ofNat val.toNat).toNat < 2 ^ 63 := by omega
    simp only [i64FromValue]
    rw [dif_pos small]
    congr 1
    simp only [I64.mk.injEq, fits]
    omega

/-- A finite `f64` reads back as itself; any other was written as `null` and is refused. -/
@[simp] theorem f64FromValue_f64ToValue (x : F64)
    : f64FromValue (f64ToValue x) = if x.isFinite then .ok x else .error nullF64 := by
  unfold f64ToValue
  split <;> simp_all [f64FromValue, nullF64]

/-- A field present in an object is read from its value. -/
@[simp] theorem fieldWith_of_lookup {α : Type} {missing : Except Error α}
    {entries : List (String × Value)} {name : String} {value : Value}
    (found : lookup name entries = some value) (fromValue : Value → Except Error α)
    : fieldWith missing entries name fromValue = fromValue value := by
  simp [fieldWith, found]

/-- A vector reads back item by item: as itself when every item does, and with the common
error otherwise; by induction on the items.
-/
theorem vecFromValue_vecToValue {α : Type} {toValue : α → Value}
    {fromValue : Value → Except Error α} {good : α → Bool} {error : Error}
    (item : ∀ a, fromValue (toValue a) = if good a then .ok a else .error error)
    (items : List α)
    : vecFromValue fromValue (vecToValue toValue items)
      = if items.all good then .ok items else .error error := by
  simp only [vecFromValue, vecToValue]
  induction items with
  | nil => rfl
  | cons a rest ih =>
      simp only [List.map_cons, List.mapM_cons, item, ih, List.all_cons, Bool.and_eq_true]
      by_cases ha : good a <;> by_cases hr : rest.all good <;> simp [ha, hr] <;> rfl

/-- A vector of items that each read back as themselves reads back as itself. -/
@[simp] theorem vecFromValue_vecToValue_of_ok {α : Type} {toValue : α → Value}
    {fromValue : Value → Except Error α} (item : ∀ a, fromValue (toValue a) = .ok a)
    (items : List α) : vecFromValue fromValue (vecToValue toValue items) = .ok items := by
  simpa using @vecFromValue_vecToValue α toValue fromValue (fun _ => true) (.msg "")
    (by simpa using item) items

/-- Binding a value that is there only under a condition. -/
@[simp] theorem bind_ite_ok {α β : Type} (c : Bool) (a : α) (e : Error)
    (f : α → Except Error β)
    : ((if c then .ok a else .error e) >>= f) = if c then f a else .error e := by
  cases c <;> rfl

/-- An option reads back as itself when its payload does and is never written as `null`. -/
theorem optionFromValue_optionToValue {α : Type} {toValue : α → Value}
    {fromValue : Value → Except Error α} (item : ∀ a, fromValue (toValue a) = .ok a)
    (notNull : ∀ a, toValue a ≠ .null) (option : Option α)
    : optionFromValue fromValue (optionToValue toValue option) = .ok option := by
  cases option with
  | none => rfl
  | some a =>
      have read : optionFromValue fromValue (toValue a) = (fromValue (toValue a)).map some := by
        cases written : toValue a <;> first | exact absurd written (notNull a) | rfl
      simp [optionToValue, read, item, Except.map]

/-- Reading, in order, entries whose keys ascend above those of `acc` inserts each one
after those before; by induction on the entries.
-/
theorem foldlM_insert_of_ascending {K V : Type} [LinearOrder K]
    {keyToString : K → String} {toValue : V → Value}
    {keyFromString : String → Except Error K} {fromValue : Value → Except Error V}
    (key : ∀ k, keyFromString (keyToString k) = .ok k)
    (value : ∀ v, fromValue (toValue v) = .ok v) (acc : BTreeMap K V) (entries : List (K × V))
    (sorted : KeysAscend (acc.entries ++ entries))
    : ∃ map, (entries.map fun entry => (keyToString entry.1, toValue entry.2)).foldlM
          (fun map entry => do
            let key ← keyFromString entry.1
            let value ← fromValue entry.2
            pure (map.insert key value)) acc = .ok map
        ∧ map.entries = acc.entries ++ entries := by
  induction entries generalizing acc with
  | nil => exact ⟨acc, rfl, by simp⟩
  | cons entry rest ih =>
      have above : ∀ other ∈ acc.entries, other.1 < entry.1 := fun other mem =>
        (List.pairwise_append.mp sorted).2.2 other mem entry (List.mem_cons_self _ _)
      have appended : (acc.insert entry.1 entry.2).entries = acc.entries ++ [entry] :=
        insertEntry_of_lt above
      obtain ⟨map, read, entries⟩ :=
        ih (acc.insert entry.1 entry.2) (by rw [appended]; simpa using sorted)
      refine ⟨map, ?_, by simp [entries, appended]⟩
      simp only [List.map_cons, List.foldlM_cons, key, value]
      exact read

/-- A map whose keys are written in their own order reads back as itself: the object lists
the entries in the map's order, and reading inserts each after those before.
-/
theorem mapFromValue_mapToValue {K V : Type} [LinearOrder K]
    {keyToString : K → String} {toValue : V → Value}
    {keyFromString : String → Except Error K} {fromValue : Value → Except Error V}
    (ordered : StrictMono keyToString) (key : ∀ k, keyFromString (keyToString k) = .ok k)
    (value : ∀ v, fromValue (toValue v) = .ok v) (map : BTreeMap K V)
    : mapFromValue keyFromString fromValue (mapToValue keyToString toValue map) = .ok map := by
  have written : KeysAscend (map.entries.map fun entry => (keyToString entry.1, toValue entry.2)) :=
    List.pairwise_map.mpr (map.sorted.imp fun lt => ordered lt)
  have object := foldl_insertEntry_of_ascending [] _ written
  rw [List.foldl_map] at object
  obtain ⟨read, readFrom, entries⟩ :=
    foldlM_insert_of_ascending key value BTreeMap.empty map.entries map.sorted
  simp only [mapToValue, mapFromValue, object, List.nil_append, readFrom]
  exact congrArg Except.ok (BTreeMap.ext_entries entries)

/-- A name looked up past a removed entry is found as before, unless it is the one removed. -/
@[simp] theorem lookup_filter_ne (name key : String) (entries : List (String × Value))
    : lookup key (entries.filter (·.1 != name))
      = if key = name then none else lookup key entries := by
  induction entries with
  | nil => simp [lookup]
  | cons entry rest ih =>
      by_cases same : entry.1 = name
      · by_cases found : key = name <;> simp_all [lookup, List.filter_cons]
      · by_cases found : key = entry.1 <;> simp_all [lookup, List.filter_cons]

end CowServices.Json
