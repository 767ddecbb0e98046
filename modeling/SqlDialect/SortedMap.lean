/-!
# Maps in the order of their keys

A finite map from texts, held as its entries in strictly increasing order of
their keys. The order is that of code points. Since the order is part of the
type, a map has one list of entries only, and two maps are equal as soon as
their entries are.

The main lemmas say what an insertion does to a lookup: the new key gets the
new value, and every other key keeps its own.
-/

namespace SqlDialect

/-- Keys stand in strictly increasing order. -/
def KeysIncrease (entries : List (String × α)) : Prop :=
  entries.Pairwise fun earlier later => earlier.1 < later.1

/-- A finite map whose entries are in the order of their keys. -/
structure SortedMap (α : Type) where
  entries : List (String × α)
  keysIncrease : KeysIncrease entries

/-- Put an entry at its place, instead of one with the same key. -/
def insertEntry (key : String) (value : α) :
    List (String × α) → List (String × α)
  | [] => [(key, value)]
  | entry :: rest =>
      if key < entry.1 then
        (key, value) :: entry :: rest
      else if key = entry.1 then
        (key, value) :: rest
      else
        entry :: insertEntry key value rest

/-- The value of the first entry with a key. -/
def findKey? (key : String) : List (String × α) → Option α
  | [] => none
  | entry :: rest =>
      if key = entry.1 then some entry.2 else findKey? key rest

theorem mem_insertEntry
    {key : String}
    {value : α}
    {entry : String × α}
    {entries : List (String × α)}
    (member : entry ∈ insertEntry key value entries) :
    entry = (key, value) ∨ entry ∈ entries := by
  induction entries with
  | nil => exact Or.inl (by simpa [insertEntry] using member)
  | cons first rest inductionHypothesis =>
      rw [insertEntry] at member
      split at member
      · simpa using member
      · split at member <;> grind

/-- Entries stay in the order of their keys. -/
theorem keysIncrease_insertEntry
    {key : String}
    {value : α}
    {entries : List (String × α)}
    (increase : KeysIncrease entries) :
    KeysIncrease (insertEntry key value entries) := by
  induction entries with
  | nil => exact List.pairwise_singleton _ _
  | cons first rest inductionHypothesis =>
      obtain ⟨firstBelow, restIncrease⟩ := List.pairwise_cons.mp increase
      rw [insertEntry]
      -- The new entry comes before the first one, replaces it, or goes to the rest.
      by_cases keyBelow : key < first.1
      · rw [if_pos keyBelow]
        refine List.pairwise_cons.mpr ⟨fun entry member => ?_, increase⟩
        rcases List.mem_cons.mp member with rfl | memberRest
        · exact keyBelow
        · exact String.lt_trans keyBelow (firstBelow entry memberRest)
      rw [if_neg keyBelow]
      by_cases sameKey : key = first.1
      · rw [if_pos sameKey]
        exact List.pairwise_cons.mpr
          ⟨fun entry member => sameKey ▸ firstBelow entry member, restIncrease⟩
      · rw [if_neg sameKey]
        refine List.pairwise_cons.mpr
          ⟨fun entry member => ?_, inductionHypothesis restIncrease⟩
        rcases mem_insertEntry member with rfl | memberRest
        · exact Std.lt_of_le_of_ne keyBelow (Ne.symm sameKey)
        · exact firstBelow entry memberRest

/-- An entry that is inserted is found by its key. -/
theorem findKey?_insertEntry_self
    (key : String)
    (value : α)
    (entries : List (String × α)) :
    findKey? key (insertEntry key value entries) = some value := by
  induction entries with
  | nil => simp [insertEntry, findKey?]
  | cons first rest inductionHypothesis =>
      rw [insertEntry]
      split
      · simp [findKey?]
      · by_cases sameKey : key = first.1
        · simp [findKey?, sameKey]
        · simp [findKey?, sameKey, inductionHypothesis]

/-- Inserting an entry changes nothing that is found by other keys. -/
theorem findKey?_insertEntry_of_ne
    {key other : String}
    (different : other ≠ key)
    (value : α)
    (entries : List (String × α)) :
    findKey? other (insertEntry key value entries) =
      findKey? other entries := by
  induction entries with
  | nil => simp [insertEntry, findKey?, different]
  | cons first rest inductionHypothesis =>
      rw [insertEntry]
      split
      · simp [findKey?, different]
      · by_cases sameKey : key = first.1
        · simp [findKey?, different, ← sameKey]
        · simp [findKey?, sameKey, inductionHypothesis]

namespace SortedMap

/-- A map is its entries. -/
@[ext] theorem ext
    {left right : SortedMap α}
    (sameEntries : left.entries = right.entries) :
    left = right := by
  cases left
  cases right
  simp_all

instance [DecidableEq α] : DecidableEq (SortedMap α) := fun left right =>
  decidable_of_iff (left.entries = right.entries)
    ⟨ext, fun same => congrArg entries same⟩

/-- The map without entries. -/
def empty : SortedMap α :=
  ⟨[], List.Pairwise.nil⟩

/-- The value of a key. -/
def find? (map : SortedMap α) (key : String) : Option α :=
  findKey? key map.entries

/-- Give a key a value, instead of the one that it has. -/
def insert (map : SortedMap α) (key : String) (value : α) : SortedMap α :=
  ⟨insertEntry key value map.entries,
    keysIncrease_insertEntry map.keysIncrease⟩

/-- The map of some pairs; of two with the same key the later one counts. -/
def ofList (pairs : List (String × α)) : SortedMap α :=
  pairs.foldl (fun map pair => map.insert pair.1 pair.2) empty

@[simp] theorem find?_empty (key : String) :
    (empty : SortedMap α).find? key = none := rfl

@[simp] theorem find?_insert_self
    (map : SortedMap α)
    (key : String)
    (value : α) :
    (map.insert key value).find? key = some value :=
  findKey?_insertEntry_self key value map.entries

theorem find?_insert_of_ne
    {key other : String}
    (different : other ≠ key)
    (map : SortedMap α)
    (value : α) :
    (map.insert key value).find? other = map.find? other :=
  findKey?_insertEntry_of_ne different value map.entries

end SortedMap

end SqlDialect
