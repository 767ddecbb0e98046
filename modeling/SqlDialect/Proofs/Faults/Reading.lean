import SqlDialect.Proofs.Grammar.Series

/-!
# Clauses that fail

A clause in a sequence fails where its first part does, or else where its second
part does on what the first one left. A list is such a sequence (`Series.run_clause`),
so it fails where an item does, or what has to follow an item, or the rest of the
list.
-/

namespace SqlDialect
namespace Clause

/-- Two clauses in a row fail where the first one does, or where the second one
does on the tokens that the first one leaves. -/
theorem run_bind_eq_error_iff
    {first : Clause α}
    {second : α → Clause β}
    {tokens : List Token}
    {fault : SyntaxFault} :
    (first >>= second).run tokens = .error fault ↔
      first.run tokens = .error fault ∨
        ∃ value between,
          first.run tokens = .ok (value, between) ∧
            (second value).run between = .error fault := by
  cases firstRun : first.run tokens with
  | error firstFault => simp [run_bind_of_error firstRun]
  | ok result =>
      obtain ⟨value, between⟩ := result
      rw [run_bind_of_ok firstRun]
      simp

/-- What is expected and not there is reported with the one fault given for it. -/
theorem run_expect_eq_error_iff
    {meaning : Token → Option α}
    {given fault : SyntaxFault}
    {tokens : List Token} :
    (expect meaning given).run tokens = .error fault ↔
      fault = given ∧ ∀ token ∈ tokens.head?, meaning token = none := by
  cases tokens with
  | nil => simp [expect, StateT.run, eq_comm]
  | cons token rest =>
      simp only [StateT.run, expect]
      split <;> simp_all [eq_comm]

/-- A word or a symbol that does not come first is reported with the one fault given for
it. -/
theorem run_skip_eq_error_iff
    {expected : Token}
    {given fault : SyntaxFault}
    {tokens : List Token} :
    (skip expected given).run tokens = .error fault ↔
      fault = given ∧ tokens.head? ≠ some expected := by
  cases tokens with
  | nil => simp [skip, StateT.run, eq_comm]
  | cons token rest =>
      simp only [StateT.run, skip]
      split <;> simp_all [eq_comm]

namespace Series

variable {series : Series α}

theorem read_of_item_error
    {tokens : List Token}
    {fault : SyntaxFault}
    (itemFailed : series.item.run tokens = .error fault) :
    series.read tokens = .error fault :=
  (series.run_clause tokens).trans (run_bind_of_error itemFailed)

theorem read_of_following_error
    {tokens afterItem : List Token}
    {value : α}
    {fault : SyntaxFault}
    (itemRead : series.item.run tokens = .ok (value, afterItem))
    (followingFailed : series.following.run afterItem = .error fault) :
    series.read tokens = .error fault := by
  refine (series.run_clause tokens).trans ?_
  rw [run_bind_of_ok itemRead]
  exact run_bind_of_error followingFailed

/-- A list fails where the rest of it does. -/
theorem read_of_another_error
    {tokens afterItem between : List Token}
    {value : α}
    {fault : SyntaxFault}
    (itemRead : series.item.run tokens = .ok (value, afterItem))
    (followed : series.following.run afterItem = .ok (.another, between))
    (othersFailed : series.read between = .error fault) :
    series.read tokens = .error fault := by
  refine (series.run_clause tokens).trans ?_
  rw [run_bind_of_ok itemRead, run_bind_of_ok followed]
  exact run_bind_of_error othersFailed

/-- A list whose first item is followed by another one is read as the rest of it is. -/
theorem read_of_another_eq
    {tokens afterItem between : List Token}
    {value : α}
    (itemRead : series.item.run tokens = .ok (value, afterItem))
    (followed : series.following.run afterItem = .ok (.another, between)) :
    series.read tokens =
      (series.read between).map fun others => (value :: others.1, others.2) := by
  cases othersRead : series.read between with
  | error fault => exact read_of_another_error itemRead followed othersRead
  | ok others => exact read_of_another itemRead followed othersRead

/-- Where a list that is not read has failed. -/
theorem read_eq_error_cases
    {tokens : List Token}
    {fault : SyntaxFault}
    (failed : series.read tokens = .error fault) :
    series.item.run tokens = .error fault ∨
      ∃ value afterItem,
        series.item.run tokens = .ok (value, afterItem) ∧
          (series.following.run afterItem = .error fault ∨
            ∃ between,
              series.following.run afterItem = .ok (.another, between) ∧
                series.read between = .error fault) := by
  have clauseFailed := (series.run_clause tokens).symm.trans failed
  rcases run_bind_eq_error_iff.mp clauseFailed with
    itemFailed | ⟨value, afterItem, itemRead, restFailed⟩
  · exact Or.inl itemFailed
  · refine Or.inr ⟨value, afterItem, itemRead, ?_⟩
    rcases run_bind_eq_error_iff.mp restFailed with
      followingFailed | ⟨next, between, followed, continuedFailed⟩
    · exact Or.inl followingFailed
    · cases next with
      | finished => cases continuedFailed
      | another =>
          refine Or.inr ⟨between, followed, ?_⟩
          rcases run_bind_eq_error_iff.mp continuedFailed with
            othersFailed | ⟨_, _, _, pureFailed⟩
          · exact othersFailed
          · cases pureFailed

/-- What holds of the faults of a list: it holds of those of an item and of what
has to follow one, and it is passed on from the rest of the list. -/
theorem fault_of_read
    {motive : List Token → SyntaxFault → Prop}
    (ofItem : ∀ {tokens fault}, series.item.run tokens = .error fault →
      motive tokens fault)
    (ofFollowing : ∀ {tokens value afterItem fault},
      series.item.run tokens = .ok (value, afterItem) →
      series.following.run afterItem = .error fault → motive tokens fault)
    (ofOthers : ∀ {tokens value afterItem between fault},
      series.item.run tokens = .ok (value, afterItem) →
      series.following.run afterItem = .ok (.another, between) →
      motive between fault → motive tokens fault)
    {tokens : List Token}
    {fault : SyntaxFault}
    (failed : series.read tokens = .error fault) :
    motive tokens fault := by
  induction length : tokens.length using Nat.strong_induction_on
    generalizing tokens with
  | _ size inductionHypothesis =>
      obtain itemFailed | ⟨value, afterItem, itemRead, followingFailed |
        ⟨between, followed, othersFailed⟩⟩ := read_eq_error_cases failed
      · exact ofItem itemFailed
      · exact ofFollowing itemRead followingFailed
      · have shorter := series.advances itemRead followed
        rw [length] at shorter
        exact ofOthers itemRead followed
          (inductionHypothesis _ shorter othersFailed rfl)

end Series

end Clause
end SqlDialect
