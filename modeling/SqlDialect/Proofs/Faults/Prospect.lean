import SqlDialect.Proofs.Faults.Reading
import SqlDialect.Proofs.Grammar.Clauses

/-!
# What the front of a statement decides

Of some tokens that may go on it is often settled how a clause reads them. The
clause may have come to its end within them, or have found a fault that nothing
after them mends. Otherwise something can follow with which the clause is read.
`Prospect` says that one of the three is the case, and every clause here has a
prospect on all tokens (`Foreseeable`).

A clause in a sequence is foreseeable if its parts are, and so is a list if what
follows an item is told by its first token.
-/

namespace SqlDialect
namespace Clause

/-- What some tokens decide about a clause. With anything after them it is read
within them, or with everything in `Later` after them it has the same fault, or
it can be completed before everything in `Last`. -/
inductive Prospect
    (Later Last : List Token → Prop)
    (clause : Clause α)
    (tokens : List Token) : Prop
  | passed
      (value : α)
      (rest : List Token)
      (reads : ∀ later, clause.run (tokens ++ later) = .ok (value, rest ++ later))
  | refused
      (fault : SyntaxFault)
      (fails : ∀ later, Later later → clause.run (tokens ++ later) = .error fault)
  | pending
      (missing : List Token)
      (value : α)
      (reads : ∀ last, Last last →
        clause.run (tokens ++ (missing ++ last)) = .ok (value, last))

/-- A clause that can be read from nothing, and of which all tokens decide
something. -/
structure Foreseeable
    (Later Last : List Token → Prop)
    (clause : Clause α) : Prop where
  completable :
    ∃ missing value, ∀ last, Last last →
      clause.run (missing ++ last) = .ok (value, last)
  prospect : ∀ tokens, Prospect Later Last clause tokens

/-- What may follow a clause that has to be followed by nothing in particular. -/
abbrev Anything : List Token → Prop := fun _ => True

/-- What may follow a clause that has to come last. -/
abbrev Nothing : List Token → Prop := fun last => last = []

variable {Later Last : List Token → Prop}

namespace Prospect

/-- Without any tokens a clause is to be completed. -/
theorem nil
    {clause : Clause α}
    (completable : ∃ missing value, ∀ last, Last last →
      clause.run (missing ++ last) = .ok (value, last)) :
    Prospect Later Last clause [] := by
  obtain ⟨missing, value, reads⟩ := completable
  exact .pending missing value reads

/-- Clauses that go on alike have the same prospects. -/
theorem of_run_eq
    {clause other : Clause α}
    {tokens rest : List Token}
    (prospect : Prospect Later Last other rest)
    (same : ∀ more, clause.run (tokens ++ more) = other.run (rest ++ more)) :
    Prospect Later Last clause tokens := by
  cases prospect with
  | passed value after reads =>
      exact .passed value after fun later => (same _).trans (reads later)
  | refused fault fails =>
      exact .refused fault fun later isLater => (same _).trans (fails later isLater)
  | pending missing value reads =>
      exact .pending missing value fun last isLast => (same _).trans (reads last isLast)

end Prospect

namespace Foreseeable

theorem pure (value : α) :
    Foreseeable Later Last (pure value : Clause α) where
  completable := ⟨[], value, fun _ _ => rfl⟩
  prospect := fun tokens => .passed value tokens fun _ => rfl

/-- A token that is expected is settled by the first of the tokens, and a sample of it
completes none. -/
theorem expect
    {meaning : Token → Option α}
    {sample : Token}
    {value : α}
    (means : meaning sample = some value)
    (fault : SyntaxFault) :
    Foreseeable Later Last (expect meaning fault) := by
  have completable : ∃ missing value, ∀ last, Last last →
      (Clause.expect meaning fault).run (missing ++ last) = .ok (value, last) :=
    ⟨[sample], value, fun last _ => run_expect_eq_ok_iff.mpr ⟨sample, rfl, means⟩⟩
  refine ⟨completable, fun tokens => ?_⟩
  cases tokens with
  | nil => exact .nil completable
  | cons token rest =>
      cases found : meaning token with
      | some other =>
          exact .passed other rest fun later =>
            run_expect_eq_ok_iff.mpr ⟨token, rfl, found⟩
      | none =>
          refine .refused fault fun later _ => run_expect_eq_error_iff.mpr ⟨rfl, ?_⟩
          simpa using found

/-- A word or a symbol is settled by the first of the tokens, and is itself what completes
none. -/
theorem skip
    (expected : Token)
    (fault : SyntaxFault) :
    Foreseeable Later Last (skip expected fault) := by
  have completable : ∃ missing value, ∀ last, Last last →
      (Clause.skip expected fault).run (missing ++ last) = .ok (value, last) :=
    ⟨[expected], (), fun last _ => run_skip_eq_ok_iff.mpr rfl⟩
  refine ⟨completable, fun tokens => ?_⟩
  cases tokens with
  | nil => exact .nil completable
  | cons token rest =>
      by_cases isExpected : token = expected
      · refine .passed () rest fun later => run_skip_eq_ok_iff.mpr ?_
        rw [isExpected, List.cons_append]
      · refine .refused fault fun later _ => run_skip_eq_error_iff.mpr ⟨rfl, ?_⟩
        simpa using isExpected

/-- A clause that can be completed before more can be completed before less. -/
theorem mono
    {clause : Clause α}
    {FewerLast : List Token → Prop}
    (foreseen : Foreseeable Later Last clause)
    (subset : ∀ last, FewerLast last → Last last) :
    Foreseeable Later FewerLast clause := by
  constructor
  · obtain ⟨missing, value, reads⟩ := foreseen.completable
    exact ⟨missing, value, fun last isLast => reads last (subset last isLast)⟩
  · intro tokens
    cases foreseen.prospect tokens with
    | passed value rest reads => exact .passed value rest reads
    | refused fault fails => exact .refused fault fails
    | pending missing value reads =>
        exact .pending missing value fun last isLast => reads last (subset last isLast)

/-- Clauses in a row are foreseeable. Where the first one is to be completed, the
second one is completed from nothing. -/
theorem bind
    {first : Clause α}
    {second : α → Clause β}
    (firstForeseen : Foreseeable Later Anything first)
    (secondForeseen : ∀ value, Foreseeable Later Last (second value)) :
    Foreseeable Later Last (first >>= second) := by
  constructor
  · obtain ⟨missing, value, reads⟩ := firstForeseen.completable
    obtain ⟨more, result, readsMore⟩ := (secondForeseen value).completable
    refine ⟨missing ++ more, result, fun last isLast => ?_⟩
    rw [List.append_assoc, run_bind_of_ok (reads _ trivial)]
    exact readsMore last isLast
  · intro tokens
    cases firstForeseen.prospect tokens with
    | passed value rest reads =>
        cases (secondForeseen value).prospect rest with
        | passed result after readsMore =>
            refine .passed result after fun later => ?_
            rw [run_bind_of_ok (reads later)]
            exact readsMore later
        | refused fault fails =>
            refine .refused fault fun later isLater => ?_
            rw [run_bind_of_ok (reads later)]
            exact fails later isLater
        | pending missing result readsMore =>
            refine .pending missing result fun last isLast => ?_
            rw [run_bind_of_ok (reads _)]
            exact readsMore last isLast
    | refused fault fails =>
        exact .refused fault fun later isLater =>
          run_bind_of_error (fails later isLater)
    | pending missing value reads =>
        obtain ⟨more, result, readsMore⟩ := (secondForeseen value).completable
        refine .pending (missing ++ more) result fun last isLast => ?_
        rw [List.append_assoc, run_bind_of_ok (reads _ trivial)]
        exact readsMore last isLast

/-- A value that is made of what a clause reads. -/
theorem bind_pure
    {clause : Clause α}
    (foreseen : Foreseeable Later Last clause)
    (make : α → β) :
    Foreseeable Later Last (clause >>= fun value => Pure.pure (make value)) := by
  constructor
  · obtain ⟨missing, value, reads⟩ := foreseen.completable
    refine ⟨missing, make value, fun last isLast => ?_⟩
    rw [run_bind_of_ok (reads last isLast)]
    rfl
  · intro tokens
    cases foreseen.prospect tokens with
    | passed value rest reads =>
        refine .passed (make value) rest fun later => ?_
        rw [run_bind_of_ok (reads later)]
        rfl
    | refused fault fails =>
        exact .refused fault fun later isLater =>
          run_bind_of_error (fails later isLater)
    | pending missing value reads =>
        refine .pending missing (make value) fun last isLast => ?_
        rw [run_bind_of_ok (reads last isLast)]
        rfl

end Foreseeable

/-! ## Lists -/

/-- What follows an item of a list is told by its first token, and a list can be
closed. -/
structure Series.Decides
    (series : Series α)
    (closing : List Token)
    (Last : List Token → Prop) : Prop where
  closes :
    ∀ last, Last last →
      series.following.run (closing ++ last) = .ok (.finished, last)
  token :
    ∀ token,
      (∃ kind, ∀ rest, series.following.run (token :: rest) = .ok (kind, rest)) ∨
        ∃ fault, ∀ rest, series.following.run (token :: rest) = .error fault

/-- After an item and what another one follows, a list has the prospects of the rest of
it. -/
theorem Prospect.another
    {series : Series α}
    {tokens rest : List Token}
    {token : Token}
    {value : α}
    (others : Prospect Later Last series.clause rest)
    (reads : ∀ later,
      series.item.run (tokens ++ later) = .ok (value, token :: rest ++ later))
    (follows : ∀ rest, series.following.run (token :: rest) = .ok (.another, rest)) :
    Prospect Later Last series.clause tokens := by
  cases others with
  | passed values after readsMore =>
      exact .passed (value :: values) after fun later =>
        Series.read_of_another (reads later) (follows _) (readsMore later)
  | refused fault fails =>
      exact .refused fault fun later isLater =>
        Series.read_of_another_error (reads later) (follows _) (fails later isLater)
  | pending missing values readsMore =>
      exact .pending missing (value :: values) fun last isLast =>
        Series.read_of_another (reads _) (follows _) (readsMore last isLast)

/-- A list is foreseeable if its items are, before what closes the list. -/
theorem Foreseeable.series
    {series : Series α}
    {closing : List Token}
    (decides : series.Decides closing Last)
    (itemForeseen :
      Foreseeable Later (fun rest => ∃ last, Last last ∧ rest = closing ++ last)
        series.item) :
    Foreseeable Later Last series.clause := by
  have finishes {tokens last : List Token} {value : α}
      (isLast : Last last)
      (itemRead : series.item.run tokens = .ok (value, closing ++ last)) :
      series.clause.run tokens = .ok ([value], last) :=
    Series.read_of_finished itemRead (decides.closes last isLast)
  constructor
  · obtain ⟨missing, value, reads⟩ := itemForeseen.completable
    refine ⟨missing ++ closing, [value], fun last isLast => ?_⟩
    rw [List.append_assoc]
    exact finishes isLast (reads _ ⟨last, isLast, rfl⟩)
  · intro tokens
    -- A list goes on with the tokens after a whole item, of which there are fewer.
    induction length : tokens.length using Nat.strong_induction_on
      generalizing tokens with
    | _ size inductionHypothesis =>
        cases itemForeseen.prospect tokens with
        | refused fault fails =>
            exact .refused fault fun later isLater =>
              Series.read_of_item_error (fails later isLater)
        | pending missing value reads =>
            refine .pending (missing ++ closing) [value] fun last isLast => ?_
            rw [List.append_assoc]
            exact finishes isLast (reads _ ⟨last, isLast, rfl⟩)
        | passed value rest reads =>
            cases rest with
            | nil =>
                exact .pending closing [value] fun last isLast =>
                  finishes isLast (reads _)
            | cons token rest =>
                obtain ⟨_ | _, follows⟩ | ⟨fault, fails⟩ := decides.token token
                · have shorter : rest.length < tokens.length := by
                    have itemRead := reads []
                    rw [List.append_nil, List.append_nil] at itemRead
                    exact series.advances itemRead (follows rest)
                  have others := inductionHypothesis _ (length ▸ shorter) rest rfl
                  exact others.another reads follows
                · exact .passed [value] rest fun later =>
                    Series.read_of_finished (reads later) (follows _)
                · exact .refused fault fun later _ =>
                    Series.read_of_following_error (reads later) (fails _)

end Clause
end SqlDialect
