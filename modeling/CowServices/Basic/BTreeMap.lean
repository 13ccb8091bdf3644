import CowServices.Basic.Primitives

/-! `std::collections::BTreeMap` as its entries in ascending key order. A `serde_json::Map`
is a `BTreeMap<String, Value>`, so the same insertion builds the JSON objects.
-/

namespace CowServices

variable {K V : Type}

-----------------------------------------------------------------------------------------
-- Entries in key order
-----------------------------------------------------------------------------------------

/-- `BTreeMap::insert` on the entries: a new key goes to its place in key order, and a key
already present gets the new value.
-/
def insertEntry [LinearOrder K] (key : K) (value : V) : List (K × V) → List (K × V)
  | [] => [(key, value)]
  | (key', value') :: rest =>
      if key < key' then (key, value) :: (key', value') :: rest
      else if key = key' then (key, value) :: rest
      else (key', value') :: insertEntry key value rest

/-- `BTreeMap::get`. -/
def lookup [DecidableEq K] (key : K) : List (K × V) → Option V
  | [] => none
  | (key', value) :: rest => if key = key' then some value else lookup key rest

/-- Entries whose keys strictly ascend. -/
def KeysAscend (entries : List (K × V)) [LT K] : Prop :=
  entries.Pairwise fun a b => a.1 < b.1

section Insert

variable [LinearOrder K]

/-- An insertion changes what its own key looks up and nothing else, by induction on the
entries.
-/
@[simp] theorem lookup_insertEntry [DecidableEq K] (key key' : K) (value : V)
    (entries : List (K × V))
    : lookup key' (insertEntry key value entries)
      = if key' = key then some value else lookup key' entries := by
  induction entries with
  | nil => rfl
  | cons entry rest ih =>
      obtain ⟨k, v⟩ := entry
      simp only [insertEntry]
      split_ifs <;> simp_all [lookup]

/-- A key above every key present is appended, by induction on the entries. -/
theorem insertEntry_of_lt {key : K} {value : V} {entries : List (K × V)}
    (above : ∀ entry ∈ entries, entry.1 < key)
    : insertEntry key value entries = entries ++ [(key, value)] := by
  induction entries with
  | nil => rfl
  | cons entry rest ih =>
      have below := above entry (List.mem_cons_self _ _)
      simp only [insertEntry, not_lt_of_gt below, below.ne', if_false, List.cons_append,
        ih fun other mem => above other (List.mem_cons_of_mem _ mem)]

/-- An entry after an insertion is the inserted one or one from before. -/
theorem mem_insertEntry {key : K} {value : V} {entries : List (K × V)} {entry : K × V}
    (mem : entry ∈ insertEntry key value entries)
    : entry = (key, value) ∨ entry ∈ entries := by
  induction entries with
  | nil => simpa [insertEntry] using mem
  | cons first rest ih =>
      simp only [insertEntry] at mem
      split_ifs at mem <;> simp only [List.mem_cons] at mem ⊢
      · exact mem
      · exact mem.imp_right Or.inr
      · rcases mem with rfl | mem
        · exact .inr (.inl rfl)
        · exact (ih mem).imp_right Or.inr

/-- Insertion keeps the keys strictly ascending, by induction on the entries. -/
theorem KeysAscend.insertEntry {entries : List (K × V)} (sorted : KeysAscend entries)
    (key : K) (value : V) : KeysAscend (insertEntry key value entries) := by
  induction entries with
  | nil => exact List.pairwise_singleton _ _
  | cons first rest ih =>
      obtain ⟨above, restSorted⟩ := List.pairwise_cons.mp sorted
      unfold CowServices.insertEntry
      split_ifs with lt eq
      · exact List.pairwise_cons.mpr ⟨fun entry mem => by
          rcases List.mem_cons.mp mem with rfl | mem
          · exact lt
          · exact lt_trans lt (above entry mem), sorted⟩
      · subst eq
        exact List.pairwise_cons.mpr ⟨above, restSorted⟩
      · have gt : first.1 < key := lt_of_le_of_ne (not_lt.mp lt) (Ne.symm eq)
        refine List.pairwise_cons.mpr ⟨fun entry mem => ?_, ih restSorted⟩
        rcases mem_insertEntry mem with rfl | mem
        · exact gt
        · exact above entry mem

/-- Inserting, in order, entries whose keys ascend above those already present appends
them; by induction on the entries.
-/
theorem foldl_insertEntry_of_ascending (acc entries : List (K × V))
    (sorted : KeysAscend (acc ++ entries))
    : entries.foldl (fun map entry => insertEntry entry.1 entry.2 map) acc = acc ++ entries := by
  induction entries generalizing acc with
  | nil => simp
  | cons entry rest ih =>
      have above : ∀ other ∈ acc, other.1 < entry.1 := fun other mem =>
        (List.pairwise_append.mp sorted).2.2 other mem entry (List.mem_cons_self _ _)
      rw [List.foldl_cons, insertEntry_of_lt above, ih]
      · simp
      · simpa using sorted

end Insert

-----------------------------------------------------------------------------------------
-- The map
-----------------------------------------------------------------------------------------

/-- A `BTreeMap<K, V>`: its entries, keys strictly ascending. -/
structure BTreeMap (K V : Type) [LinearOrder K] where
  entries : List (K × V)
  sorted : KeysAscend entries

namespace BTreeMap

variable [LinearOrder K]

/-- `BTreeMap::new`. -/
def empty : BTreeMap K V := ⟨[], List.Pairwise.nil⟩

/-- `BTreeMap::insert`. -/
def insert (map : BTreeMap K V) (key : K) (value : V) : BTreeMap K V :=
  ⟨insertEntry key value map.entries, map.sorted.insertEntry key value⟩

/-- Maps with the same entries are equal. -/
theorem ext_entries {a b : BTreeMap K V} (h : a.entries = b.entries) : a = b := by
  cases a; cases b; cases h; rfl

end BTreeMap

end CowServices
