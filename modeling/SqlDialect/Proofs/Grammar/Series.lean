import SqlDialect.Proofs.Grammar.Defs

/-!
# Reading lists

A list is read exactly as the grammar derives it, if its items are and if the
tokens between two items are one fixed separator. An item need only be read
rightly where something follows that can follow an item, because reading goes on
to look at that: a name with no label is not read before the word `AS`, but
neither does a list of items go on with that word.
-/

namespace SqlDialect

open Grammar

namespace Clause

theorem run_bind_of_ok
    {first : Clause α}
    {second : α → Clause β}
    {tokens between : List Token}
    {value : α}
    (firstRead : first.run tokens = .ok (value, between)) :
    (first >>= second).run tokens = (second value).run between := by
  rw [StateT.run_bind, firstRead]
  rfl

theorem run_bind_of_error
    {first : Clause α}
    {second : α → Clause β}
    {tokens : List Token}
    {fault : SyntaxFault}
    (firstFailed : first.run tokens = .error fault) :
    (first >>= second).run tokens = .error fault := by
  rw [StateT.run_bind, firstFailed]
  rfl

namespace Series

variable {series : Series α}

/-- The rest of a list after an item, which what follows the item tells to be there
or not. -/
def continued
    (series : Series α)
    (value : α) : Following → Clause (List α)
  | .finished => pure [value]
  | .another => series.clause >>= fun values => pure (value :: values)

/-- A list is an item, what follows it, and the rest of the list. -/
theorem run_clause
    (series : Series α)
    (tokens : List Token) :
    series.clause.run tokens =
      (series.item >>= fun value =>
        series.following >>= series.continued value).run tokens := by
  change series.read tokens = _
  fun_cases read series tokens with
  | case1 fault itemFailed => rw [run_bind_of_error itemFailed]
  | case2 value afterItem itemRead fault followingFailed =>
      rw [run_bind_of_ok itemRead, run_bind_of_error followingFailed]
  | case3 value afterItem itemRead rest finished =>
      rw [run_bind_of_ok itemRead, run_bind_of_ok finished]
      rfl
  | case4 value afterItem itemRead between followed fault othersFailed =>
      rw [run_bind_of_ok itemRead, run_bind_of_ok followed]
      exact (run_bind_of_error othersFailed).symm
  | case5 value afterItem itemRead between followed others rest othersRead =>
      have clauseRead : series.clause.run between = .ok (others, rest) := othersRead
      rw [run_bind_of_ok itemRead, run_bind_of_ok followed, continued,
        run_bind_of_ok clauseRead]
      rfl

theorem read_of_finished
    {tokens afterItem rest : List Token}
    {value : α}
    (itemRead : series.item.run tokens = .ok (value, afterItem))
    (followed : series.following.run afterItem = .ok (.finished, rest)) :
    series.read tokens = .ok ([value], rest) := by
  refine (series.run_clause tokens).trans ?_
  rw [run_bind_of_ok itemRead, run_bind_of_ok followed]
  rfl

theorem read_of_another
    {tokens afterItem between rest : List Token}
    {value : α}
    {values : List α}
    (itemRead : series.item.run tokens = .ok (value, afterItem))
    (followed : series.following.run afterItem = .ok (.another, between))
    (othersRead : series.read between = .ok (values, rest)) :
    series.read tokens = .ok (value :: values, rest) := by
  refine (series.run_clause tokens).trans ?_
  rw [run_bind_of_ok itemRead, run_bind_of_ok followed]
  exact run_bind_of_ok othersRead

/-- What has been read when a list has been read. -/
theorem read_eq_ok_cases
    {tokens rest : List Token}
    {values : List α}
    (listRead : series.read tokens = .ok (values, rest)) :
    ∃ value afterItem,
      series.item.run tokens = .ok (value, afterItem) ∧
        ((series.following.run afterItem = .ok (.finished, rest) ∧
            values = [value]) ∨
          ∃ between others,
            series.following.run afterItem = .ok (.another, between) ∧
              series.read between = .ok (others, rest) ∧
              values = value :: others) := by
  have clauseRead := (series.run_clause tokens).symm.trans listRead
  obtain ⟨value, afterItem, itemRead, restRead⟩ := run_bind_eq_ok_iff.mp clauseRead
  refine ⟨value, afterItem, itemRead, ?_⟩
  obtain ⟨next, between, followed, continuedRead⟩ := run_bind_eq_ok_iff.mp restRead
  cases next with
  | finished =>
      obtain ⟨rfl, rfl⟩ := run_pure_eq_ok_iff.mp continuedRead
      exact Or.inl ⟨followed, rfl⟩
  | another =>
      obtain ⟨others, after, othersRead, whole⟩ := run_bind_eq_ok_iff.mp continuedRead
      obtain ⟨rfl, rfl⟩ := run_pure_eq_ok_iff.mp whole
      exact Or.inr ⟨between, others, followed, othersRead, rfl⟩

/-- A kind of list whose items are read as they are derived, with a fixed
separator between neighbours. -/
structure Follows
    (series : Series α)
    (separator : List Token)
    (Derives : α → List Token → Prop) : Prop where
  item :
    ∀ {tokens value rest following},
      series.following.run rest = .ok following →
        (series.item.run tokens = .ok (value, rest) ↔
          ∃ front, tokens = front ++ rest ∧ Derives value front)
  another :
    ∀ {tokens rest},
      series.following.run tokens = .ok (.another, rest) ↔
        tokens = separator ++ rest

/-- A list is read as it is derived, up to what says that it is over. -/
theorem Follows.read_eq_ok_iff
    {separator : List Token}
    {Derives : α → List Token → Prop}
    (follows : series.Follows separator Derives)
    {tokens rest : List Token}
    {values : List α} :
    series.read tokens = .ok (values, rest) ↔
      ∃ front last,
        tokens = front ++ last ∧
          Separated separator Derives values front ∧
          series.following.run last = .ok (.finished, rest) := by
  constructor
  · intro listRead
    -- The rest of the list is read from fewer tokens, since an item has been taken off.
    induction length : tokens.length using Nat.strong_induction_on
      generalizing tokens values with
    | _ size inductionHypothesis =>
        obtain ⟨value, afterItem, itemRead, ⟨followed, rfl⟩ |
          ⟨between, others, followed, othersRead, rfl⟩⟩ := read_eq_ok_cases listRead
        · obtain ⟨front, whole, derived⟩ := (follows.item followed).mp itemRead
          exact ⟨front, afterItem, whole, .single derived, followed⟩
        · have shorter := series.advances itemRead followed
          rw [length] at shorter
          obtain ⟨inner, last, betweenWhole, separated, finished⟩ :=
            inductionHypothesis _ shorter othersRead rfl
          obtain ⟨front, whole, derived⟩ := (follows.item followed).mp itemRead
          refine ⟨_, last, ?_, .cons derived separated, finished⟩
          rw [whole, follows.another.mp followed, betweenWhole]
          simp only [List.append_assoc]
  · rintro ⟨front, last, rfl, separated, finished⟩
    induction separated with
    | single derived =>
        exact read_of_finished ((follows.item finished).mpr ⟨_, rfl, derived⟩) finished
    | @cons value values front inner derived _ inductionHypothesis =>
        have followed : series.following.run (separator ++ (inner ++ last)) =
            .ok (.another, inner ++ last) := follows.another.mpr rfl
        refine read_of_another ((follows.item followed).mpr ⟨front, ?_, derived⟩)
          followed inductionHypothesis
        simp only [List.append_assoc]

end Series

end Clause

end SqlDialect
