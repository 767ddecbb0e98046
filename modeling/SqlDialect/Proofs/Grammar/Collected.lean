import Mathlib.Data.List.Sort
import SqlDialect.Proofs.Grammar.Defs

/-!
# Collecting labels and assignments

The clauses collect labels in a sorted map and assignments in a list, one after
the other in the order of the text. What they end up with is what the grammar
asks for, and nothing else is: the labels of a selection and the assignments of
an update are determined by what was written.
-/

namespace SqlDialect

/-! ## The last pair with a key -/

namespace Grammar

/-- The pair that comes last is the one that counts for its key. -/
@[simp] theorem lastValue?_concat
    (key : String)
    (pairs : List (String × String))
    (pair : String × String) :
    lastValue? key (pairs ++ [pair]) =
      if pair.1 = key then some pair.2 else lastValue? key pairs := by
  rw [lastValue?, List.reverse_concat, List.find?_cons]
  by_cases same : pair.1 = key <;> simp [same, lastValue?]

theorem mem_of_lastValue?
    {key value : String}
    {pairs : List (String × String)}
    (found : lastValue? key pairs = some value) :
    (key, value) ∈ pairs := by
  obtain ⟨pair, isLast, rfl⟩ := Option.map_eq_some_iff.mp found
  have sameKey : pair.1 = key := by
    simpa using List.find?_some isLast
  rw [← sameKey]
  exact List.mem_reverse.mp (List.mem_of_find?_eq_some isLast)

/-- Each key that occurs has a value that counts. -/
theorem exists_lastValue?_of_mem
    {pair : String × String}
    {pairs : List (String × String)}
    (member : pair ∈ pairs) :
    ∃ value, lastValue? pair.1 pairs = some value := by
  rw [← Option.isSome_iff_exists, lastValue?, Option.isSome_map, List.find?_isSome]
  exact ⟨pair, List.mem_reverse.mpr member, by simp⟩

end Grammar

/-! ## Sorted maps -/

/-- Among entries with rising keys the one that is found is the only one with its key. -/
theorem findKey?_eq_some_iff
    {key : String}
    {value : α}
    {entries : List (String × α)}
    (increase : KeysIncrease entries) :
    findKey? key entries = some value ↔ (key, value) ∈ entries := by
  induction entries with
  | nil => simp [findKey?]
  | cons first rest inductionHypothesis =>
      obtain ⟨firstBelow, restIncrease⟩ := List.pairwise_cons.mp increase
      rw [findKey?, List.mem_cons, ← inductionHypothesis restIncrease]
      by_cases sameKey : key = first.1
      · rw [if_pos sameKey]
        have notLater : findKey? key rest ≠ some value := by
          intro found
          have member := (inductionHypothesis restIncrease).mp found
          have below := firstBelow _ member
          rw [sameKey] at below
          exact String.lt_irrefl _ below
        rw [sameKey] at notLater ⊢
        simp [notLater, Prod.ext_iff, eq_comm]
      · rw [if_neg sameKey]
        have notFirst : (key, value) ≠ first := by
          rintro rfl
          exact sameKey rfl
        simp [notFirst]

namespace SortedMap

/-- A sorted map has what is found in it, and nothing else. -/
theorem find?_eq_some_iff
    {map : SortedMap α}
    {key : String}
    {value : α} :
    map.find? key = some value ↔ (key, value) ∈ map.entries :=
  findKey?_eq_some_iff map.keysIncrease

/-- Maps in which the same can be looked up are the same. -/
theorem ext_find?
    {left right : SortedMap α}
    (sameValues : ∀ key, left.find? key = right.find? key) :
    left = right := by
  have sameMembers (entry : String × α) :
      entry ∈ left.entries ↔ entry ∈ right.entries := by
    rw [← find?_eq_some_iff, ← find?_eq_some_iff, sameValues]
  have irreflexive : Std.Irrefl fun earlier later : String × α =>
      earlier.1 < later.1 := ⟨fun entry => String.lt_irrefl entry.1⟩
  have antisymmetric : Std.Antisymm fun earlier later : String × α =>
      earlier.1 < later.1 :=
    ⟨fun _ _ below above => absurd (String.lt_trans below above) (String.lt_irrefl _)⟩
  apply ext
  exact List.Subset.antisymm_of_pairwise left.keysIncrease right.keysIncrease
    (fun entry => (sameMembers entry).mp) (fun entry => (sameMembers entry).mpr)

/-- A map of pairs holds the last value of each key. -/
theorem find?_ofList (pairs : List (String × String)) (key : String) :
    (ofList pairs).find? key = Grammar.lastValue? key pairs := by
  induction pairs using List.reverseRecOn with
  | nil => rfl
  | append_singleton pairs pair inductionHypothesis =>
      rw [Grammar.lastValue?_concat, ← inductionHypothesis, ofList, ofList,
        List.foldl_concat]
      by_cases same : pair.1 = key
      · rw [if_pos same, ← same, find?_insert_self]
      · rw [if_neg same, find?_insert_of_ne (Ne.symm same)]

end SortedMap

namespace Grammar

/-- The labels of a selection are the map of the labels that were written. -/
theorem isLabelling_iff
    {items : List Clause.SelectedItem}
    {labels : SortedMap String} :
    IsLabelling items labels ↔
      labels = .ofList (items.filterMap Clause.SelectedItem.labelling?) := by
  unfold IsLabelling
  simp only [← SortedMap.find?_ofList]
  exact ⟨SortedMap.ext_find?, fun same name => by rw [same]⟩

/-- Every label that is held was written for one of the items. -/
theorem IsLabelling.exists_item
    {items : List Clause.SelectedItem}
    {labels : SortedMap String}
    (labelling : IsLabelling items labels)
    {entry : String × String}
    (member : entry ∈ labels.entries) :
    ∃ item ∈ items, item.labelling? = some entry := by
  have found : labels.find? entry.1 = some entry.2 :=
    SortedMap.find?_eq_some_iff.mpr member
  rw [labelling entry.1] at found
  exact List.mem_filterMap.mp (mem_of_lastValue? found)

end Grammar

/-! ## Assignments -/

/-- Setting a field keeps the assignments to all others. -/
theorem mem_setAssignment
    {field value : String}
    {assignment : String × String}
    {assignments : List (String × String)}
    (nodup : (assignments.map Prod.fst).Nodup)
    (member : assignment ∈ setAssignment field value assignments) :
    assignment = (field, value) ∨
      assignment.1 ≠ field ∧ assignment ∈ assignments := by
  induction assignments with
  | nil => exact Or.inl (List.mem_singleton.mp member)
  | cons first rest inductionHypothesis =>
      rw [List.map_cons, List.nodup_cons] at nodup
      rw [setAssignment] at member
      by_cases sameField : first.1 = field
      · rw [if_pos sameField] at member
        rcases List.mem_cons.mp member with rfl | later
        · exact Or.inl rfl
        · refine Or.inr ⟨fun again => nodup.1 ?_, List.mem_cons_of_mem _ later⟩
          rw [sameField, ← again]
          exact List.mem_map_of_mem later
      · rw [if_neg sameField] at member
        rcases List.mem_cons.mp member with rfl | later
        · exact Or.inr ⟨sameField, List.mem_cons_self⟩
        · rcases inductionHypothesis nodup.2 later with isNew | ⟨isOther, isOld⟩
          · exact Or.inl isNew
          · exact Or.inr ⟨isOther, List.mem_cons_of_mem _ isOld⟩

/-- Of a list with one more member the first occurrences are the same, unless the
member is new. -/
theorem eraseDups_concat [DecidableEq α] (list : List α) (last : α) :
    (list ++ [last]).eraseDups =
      if last ∈ list then list.eraseDups else list.eraseDups ++ [last] := by
  rw [List.eraseDups_append]
  by_cases member : last ∈ list <;>
    simp [List.removeAll, member, List.eraseDups_cons]

theorem nodup_eraseDups [DecidableEq α] (list : List α) : list.eraseDups.Nodup := by
  induction list using List.reverseRecOn with
  | nil => simp
  | append_singleton list last inductionHypothesis =>
      rw [eraseDups_concat]
      by_cases isOld : last ∈ list
      · rwa [if_pos isOld]
      · rw [if_neg isOld]
        refine List.nodup_append.mpr ⟨inductionHypothesis, by simp, ?_⟩
        rintro member old _ new rfl
        rw [List.mem_singleton.mp new, List.mem_eraseDups] at old
        exact isOld old

/-- A list in which nothing occurs twice has nothing to be erased. -/
theorem eraseDups_of_nodup [DecidableEq α]
    {list : List α}
    (nodup : list.Nodup) :
    list.eraseDups = list := by
  induction list using List.reverseRecOn with
  | nil => rfl
  | append_singleton list last inductionHypothesis =>
      obtain ⟨frontNodup, -, apart⟩ := List.nodup_append.mp nodup
      rw [eraseDups_concat, inductionHypothesis frontNodup, if_neg]
      exact fun member => apart last member last (List.mem_singleton_self last) rfl

namespace Grammar

theorem IsCollected.nodup
    {written collected : List (String × String)}
    (isCollected : IsCollected written collected) :
    (collected.map Prod.fst).Nodup := by
  rw [isCollected.fields]
  exact nodup_eraseDups _

/-- One more assignment keeps the collected ones as they have to be. -/
theorem IsCollected.concat
    {written collected : List (String × String)}
    (isCollected : IsCollected written collected)
    (assignment : String × String) :
    IsCollected (written ++ [assignment])
      (setAssignment assignment.1 assignment.2 collected) where
  fields := by
    rw [map_fst_setAssignment, isCollected.fields, List.map_append, List.map_cons,
      List.map_nil, eraseDups_concat]
    simp only [List.mem_eraseDups]
  values := by
    intro pair member
    rw [lastValue?_concat]
    rcases mem_setAssignment isCollected.nodup member with rfl | ⟨isOther, isOld⟩
    · rw [if_pos rfl]
    · rw [if_neg (Ne.symm isOther)]
      exact isCollected.values pair isOld

/-- Every assignment that is held was written. -/
theorem IsCollected.subset
    {written collected : List (String × String)}
    (isCollected : IsCollected written collected) :
    collected ⊆ written :=
  fun pair member => mem_of_lastValue? (isCollected.values pair member)

/-- Where something is assigned something is collected. -/
theorem IsCollected.ne_nil
    {written collected : List (String × String)}
    (isCollected : IsCollected written collected)
    (someWritten : written ≠ []) :
    collected ≠ [] := by
  rintro rfl
  have noFields : (written.map Prod.fst).eraseDups = [] := isCollected.fields.symm
  obtain ⟨first, rest, rfl⟩ := List.exists_cons_of_ne_nil someWritten
  rw [List.map_cons, List.eraseDups_cons] at noFields
  cases noFields

/-- The assignments of an update are those that were written, collected. -/
theorem isCollected_collectAssignments (written : List (String × String)) :
    IsCollected written (Clause.collectAssignments written) := by
  induction written using List.reverseRecOn with
  | nil => exact ⟨rfl, by simp [Clause.collectAssignments]⟩
  | append_singleton written assignment inductionHypothesis =>
      rw [Clause.collectAssignments, List.foldl_concat]
      exact inductionHypothesis.concat assignment

/-- What was written determines what is collected. -/
theorem IsCollected.eq_map
    {written collected : List (String × String)}
    (isCollected : IsCollected written collected) :
    collected = (written.map Prod.fst).eraseDups.map fun field =>
      (field, (lastValue? field written).getD "") := by
  rw [← isCollected.fields, List.map_map]
  calc
    collected = collected.map id := (List.map_id collected).symm
    _ = _ := List.map_congr_left fun pair member => by
      rw [Function.comp_apply, isCollected.values pair member]
      rfl

/-- What is collected is determined by what was written: the fields in the order of their
first occurrences, each with its last value. -/
theorem isCollected_iff
    {written collected : List (String × String)} :
    IsCollected written collected ↔
      collected = Clause.collectAssignments written := by
  constructor
  · intro isCollected
    rw [isCollected.eq_map, (isCollected_collectAssignments written).eq_map]
  · rintro rfl
    exact isCollected_collectAssignments written

/-- Assignments to different fields are collected as they are written. -/
theorem isCollected_self
    {assignments : List (String × String)}
    (nodup : (assignments.map Prod.fst).Nodup) :
    IsCollected assignments assignments where
  fields := (eraseDups_of_nodup nodup).symm
  values := by
    intro pair member
    obtain ⟨value, isLast⟩ := exists_lastValue?_of_mem member
    have same : pair = (pair.1, value) :=
      List.inj_on_of_nodup_map nodup member (mem_of_lastValue? isLast) rfl
    rw [isLast, same]

end Grammar

end SqlDialect
