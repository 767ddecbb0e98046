import SqlDialect.SyntaxFault
import SqlDialect.Token

/-!
# Clauses

A clause is a way to read a value off the front of some tokens: running it gives
the value and the tokens that are left, or the first fault. `expect` reads what
one token stands for, and `skip` passes over one given token.

Every list of the dialect, such as the fields of a selection or the conditions
of a statement, is a `Series`: items, each followed by what says that another
item comes or that the list is over. Its proof field says that going on to
another item uses up tokens, so `Series.clause` comes to an end.
-/

namespace SqlDialect

/-- A way to read a value off the front of some tokens. -/
abbrev Clause := StateT (List Token) (Except SyntaxFault)

namespace Clause

/-- Two clauses in a row succeed exactly if the first one does, and the second
one does on the tokens that the first one leaves. -/
theorem run_bind_eq_ok_iff
    {first : Clause α}
    {second : α → Clause β}
    {tokens rest : List Token}
    {value : β} :
    (first >>= second).run tokens = .ok (value, rest) ↔
      ∃ firstValue between,
        first.run tokens = .ok (firstValue, between) ∧
          (second firstValue).run between = .ok (value, rest) := by
  rw [StateT.run_bind]
  cases first.run tokens with
  | error fault => simp [bind, Except.bind]
  | ok result =>
      obtain ⟨firstValue, between⟩ := result
      simp only [bind, Except.bind, Except.ok.injEq, Prod.mk.injEq]
      constructor
      · intro secondRun
        exact ⟨firstValue, between, ⟨rfl, rfl⟩, secondRun⟩
      · rintro ⟨_, _, ⟨rfl, rfl⟩, secondRun⟩
        exact secondRun

@[simp] theorem run_pure_eq_ok_iff
    {given value : α}
    {tokens rest : List Token} :
    (pure given : Clause α).run tokens = .ok (value, rest) ↔
      value = given ∧ rest = tokens := by
  rw [StateT.run_pure]
  simp only [pure, Except.pure, Except.ok.injEq, Prod.mk.injEq]
  exact and_congr eq_comm eq_comm

/-- Read what the first token stands for. -/
def expect
    (meaning : Token → Option α)
    (fault : SyntaxFault) : Clause α
  | [] => .error fault
  | token :: rest =>
      match meaning token with
      | some value => .ok (value, rest)
      | none => .error fault

/-- Pass over the first token, which has to be the given one. -/
def skip
    (expected : Token)
    (fault : SyntaxFault) : Clause Unit
  | [] => .error fault
  | token :: rest => if token = expected then .ok ((), rest) else .error fault

/-- A token is expected with success if the first one has the meaning. -/
theorem run_expect_eq_ok_iff
    {meaning : Token → Option α}
    {fault : SyntaxFault}
    {tokens rest : List Token}
    {value : α} :
    (expect meaning fault).run tokens = .ok (value, rest) ↔
      ∃ token, tokens = token :: rest ∧ meaning token = some value := by
  cases tokens with
  | nil => simp [expect, StateT.run]
  | cons token tail =>
      simp only [StateT.run, expect]
      split <;> grind

/-- A word or a symbol is skipped if it is the first of the tokens. -/
theorem run_skip_eq_ok_iff
    {expected : Token}
    {fault : SyntaxFault}
    {tokens rest : List Token} :
    (skip expected fault).run tokens = .ok ((), rest) ↔
      tokens = expected :: rest := by
  cases tokens with
  | nil => simp [skip, StateT.run]
  | cons token tail =>
      simp only [StateT.run, skip]
      split <;> grind

/-- What comes after an item of a list. -/
inductive Following
  | another
  | finished
  deriving DecidableEq

/-- A kind of list: how to read an item, and how to tell what comes after it. -/
structure Series (α : Type) where
  item : Clause α
  following : Clause Following
  advances :
    ∀ {tokens value afterItem rest},
      item.run tokens = .ok (value, afterItem) →
      following.run afterItem = .ok (.another, rest) →
      rest.length < tokens.length

namespace Series

/-- Read a list of at least one item. -/
def read
    (series : Series α)
    (tokens : List Token) : Except SyntaxFault (List α × List Token) :=
  match _itemRead : series.item.run tokens with
  | .error fault => .error fault
  | .ok (value, afterItem) =>
      match _followed : series.following.run afterItem with
      | .error fault => .error fault
      | .ok (.finished, rest) => .ok ([value], rest)
      | .ok (.another, rest) =>
          match series.read rest with
          | .error fault => .error fault
          | .ok (values, afterList) => .ok (value :: values, afterList)
termination_by tokens.length
decreasing_by exact series.advances _itemRead _followed

/-- The clause that reads a list of at least one item. -/
def clause (series : Series α) : Clause (List α) :=
  series.read

end Series

end Clause
end SqlDialect
