import Mathlib.Control.Monad.Basic
import SqlDialect.Statement.Reading

/-!
# Batches of statements

A batch is read in full exactly if each of its texts is (`readBatch_eq_ok_iff`), and
otherwise it stops at the first text that is refused by itself
(`readBatch_eq_error_iff`). Both conditions look at each text alone, so nothing is
carried over from one text to the next, and batches that are read one after another are
read as one batch (`readBatch_composes`).
-/

namespace SqlDialect

/-- Some texts spell some statements, one each and in order. -/
def ReadsEach (texts : List String) (statements : List Statement) : Prop :=
  texts.map Statement.ofText = statements.map Except.ok

namespace ReadsEach

theorem nil_iff {statements : List Statement} :
    ReadsEach [] statements ↔ statements = [] := by
  rw [ReadsEach, List.map_nil, eq_comm, List.map_eq_nil_iff]

theorem cons_iff
    {text : String}
    {texts : List String}
    {statements : List Statement} :
    ReadsEach (text :: texts) statements ↔
      ∃ statement others,
        statements = statement :: others ∧
          Statement.ofText text = .ok statement ∧ ReadsEach texts others := by
  rw [ReadsEach, List.map_cons, eq_comm, List.map_eq_cons_iff]
  constructor
  · rintro ⟨statement, others, rfl, read, same⟩
    exact ⟨statement, others, rfl, read.symm, same.symm⟩
  · rintro ⟨statement, others, rfl, read, same⟩
    exact ⟨statement, others, rfl, read.symm, same.symm⟩

/-- Texts that spell statements each spell them also as one sequence. -/
theorem append
    {texts more : List String}
    {statements others : List Statement}
    (reads : ReadsEach texts statements)
    (readsMore : ReadsEach more others) :
    ReadsEach (texts ++ more) (statements ++ others) := by
  rw [ReadsEach, List.map_append, List.map_append, reads, readsMore]

/-- There are as many statements as texts. -/
theorem length_eq
    {texts : List String}
    {statements : List Statement}
    (reads : ReadsEach texts statements) :
    texts.length = statements.length := by
  have lengths := congrArg List.length reads
  rwa [List.length_map, List.length_map] at lengths

/-- A text spells the statement that has its place. -/
theorem getElem?
    {texts : List String}
    {statements : List Statement}
    (reads : ReadsEach texts statements)
    {place : Nat}
    {text : String}
    (isThere : texts[place]? = some text) :
    ∃ statement,
      statements[place]? = some statement ∧ Statement.ofText text = .ok statement := by
  have same := congrArg (·[place]?) reads
  simp only [List.getElem?_map, isThere, Option.map_some] at same
  obtain ⟨statement, hasPlace, read⟩ := Option.map_eq_some_iff.mp same.symm
  exact ⟨statement, hasPlace, read.symm⟩

/-- Texts spell statements as soon as each of them spells one. -/
theorem exists_iff {texts : List String} :
    (∃ statements, ReadsEach texts statements) ↔
      ∀ text ∈ texts, ∃ statement, Statement.ofText text = .ok statement := by
  induction texts with
  | nil => simp [nil_iff]
  | cons text texts inductionHypothesis =>
      rw [List.forall_mem_cons, ← inductionHypothesis]
      simp only [cons_iff]
      constructor
      · rintro ⟨_, statement, others, -, read, reads⟩
        exact ⟨⟨statement, read⟩, others, reads⟩
      · rintro ⟨⟨statement, read⟩, others, reads⟩
        exact ⟨_, statement, others, rfl, read, reads⟩

end ReadsEach

/-- A batch is read in full exactly if its texts spell the statements. -/
theorem readBatch_eq_ok_iff
    {texts : List String}
    {statements : List Statement} :
    readBatch texts = .ok statements ↔ ReadsEach texts statements := by
  induction texts generalizing statements with
  | nil => rw [readBatch, Except.ok.injEq, ReadsEach.nil_iff, eq_comm]
  | cons text texts inductionHypothesis =>
      rw [ReadsEach.cons_iff, readBatch]
      simp only [← inductionHypothesis]
      cases Statement.ofText text with
      | error fault => simp
      | ok statement =>
          cases readBatch texts with
          | error later => simp
          | ok others => simp [eq_comm]

/-- A batch goes past a text that is a statement. -/
theorem readBatch_cons_of_ok
    {text : String}
    {statement : Statement}
    (read : Statement.ofText text = .ok statement)
    (texts : List String) :
    readBatch (text :: texts) =
      match readBatch texts with
      | .error later => .error ⟨statement :: later.before, later.fault⟩
      | .ok statements => .ok (statement :: statements) := by
  cases others : readBatch texts <;> simp only [readBatch, read, others]

/-- A batch stops at a text that is none. -/
theorem readBatch_cons_of_error
    {text : String}
    {fault : SyntaxFault}
    (refused : Statement.ofText text = .error fault)
    (texts : List String) :
    readBatch (text :: texts) = .error ⟨[], fault⟩ := by
  rw [readBatch, refused]

/-- A batch stops at the first text that is refused, with the statements of those before
it, whatever comes after. -/
theorem readBatch_of_refused
    {front : List String}
    {statements : List Statement}
    {text : String}
    {fault : SyntaxFault}
    (reads : ReadsEach front statements)
    (refused : Statement.ofText text = .error fault)
    (back : List String) :
    readBatch (front ++ text :: back) = .error ⟨statements, fault⟩ := by
  induction front generalizing statements with
  | nil =>
      rw [ReadsEach.nil_iff.mp reads]
      exact readBatch_cons_of_error refused back
  | cons first front inductionHypothesis =>
      obtain ⟨statement, others, rfl, read, othersRead⟩ := ReadsEach.cons_iff.mp reads
      rw [List.cons_append, readBatch_cons_of_ok read, inductionHypothesis othersRead]

/-- A batch stops at a text that is no statement and has only statements before it. -/
theorem readBatch_eq_error_iff
    {texts : List String}
    {fault : BatchFault} :
    readBatch texts = .error fault ↔
      ∃ front text back,
        texts = front ++ text :: back ∧
          ReadsEach front fault.before ∧ Statement.ofText text = .error fault.fault := by
  constructor
  · intro stopped
    induction texts generalizing fault with
    | nil => cases stopped
    | cons text texts inductionHypothesis =>
        cases read : Statement.ofText text with
        | error first =>
            rw [readBatch_cons_of_error read, Except.error.injEq] at stopped
            subst stopped
            exact ⟨[], text, texts, rfl, ReadsEach.nil_iff.mpr rfl, read⟩
        | ok statement =>
            -- The fault is one of the other texts, with this statement before it.
            rw [readBatch_cons_of_ok read] at stopped
            cases othersRead : readBatch texts with
            | ok others =>
                rw [othersRead] at stopped
                cases stopped
            | error later =>
                rw [othersRead] at stopped
                obtain rfl := Except.error.inj stopped
                obtain ⟨front, refused, back, rfl, reads, isRefused⟩ :=
                  inductionHypothesis othersRead
                exact ⟨text :: front, refused, back, rfl,
                  ReadsEach.cons_iff.mpr ⟨statement, _, rfl, read, reads⟩, isRefused⟩
  · rintro ⟨front, text, back, rfl, reads, refused⟩
    exact readBatch_of_refused reads refused back

/-- The place of a fault is that of the text that is no statement. -/
theorem BatchFault.index_eq_length
    {fault : BatchFault}
    {front : List String}
    (reads : ReadsEach front fault.before) :
    fault.index = front.length :=
  reads.length_eq.symm

/-- A batch that stops does so at the same text with more texts after it. -/
theorem readBatch_append_of_error
    {texts : List String}
    {fault : BatchFault}
    (stopped : readBatch texts = .error fault)
    (more : List String) :
    readBatch (texts ++ more) = .error fault := by
  obtain ⟨front, text, back, rfl, reads, refused⟩ := readBatch_eq_error_iff.mp stopped
  refine readBatch_eq_error_iff.mpr ⟨front, text, back ++ more, ?_, reads, refused⟩
  rw [List.append_assoc, List.cons_append]

/-- Batches that are read in full are read in full as one. -/
theorem readBatch_append_of_ok
    {texts more : List String}
    {statements others : List Statement}
    (read : readBatch texts = .ok statements)
    (moreRead : readBatch more = .ok others) :
    readBatch (texts ++ more) = .ok (statements ++ others) := by
  rw [readBatch_eq_ok_iff] at read moreRead ⊢
  exact read.append moreRead

/-- A batch that stops does so at the same text after one that is read in full, with the
statements of that one before its own. -/
theorem readBatch_append_of_later
    {texts more : List String}
    {statements : List Statement}
    {later : BatchFault}
    (read : readBatch texts = .ok statements)
    (stopped : readBatch more = .error later) :
    readBatch (texts ++ more) = .error ⟨statements ++ later.before, later.fault⟩ := by
  obtain ⟨front, text, back, rfl, reads, refused⟩ := readBatch_eq_error_iff.mp stopped
  refine readBatch_eq_error_iff.mpr ⟨texts ++ front, text, back, ?_, ?_, refused⟩
  · rw [List.append_assoc]
  · exact (readBatch_eq_ok_iff.mp read).append reads

/-- A batch that stops does so in every longer batch too, with the same fault, and one
that is read in full is read before what comes after it. A batch is read in full exactly
if each of its texts is, as these are read one by one. Otherwise it stops at the first
text that is no statement, for the reason for which that is none by itself, after the
statements of all the texts before it. -/
theorem readBatch_composes (texts : List String) :
    (∀ fault, readBatch texts = .error fault →
      ∀ more, readBatch (texts ++ more) = .error fault) ∧
    (∀ statements, readBatch texts = .ok statements →
      (∀ more others, readBatch more = .ok others →
        readBatch (texts ++ more) = .ok (statements ++ others)) ∧
      ∀ more later, readBatch more = .error later →
        ∃ fault, readBatch (texts ++ more) = .error fault ∧
          fault.fault = later.fault ∧
          fault.before = statements ++ later.before ∧
          fault.index = texts.length + later.index) ∧
    ((∃ statements, readBatch texts = .ok statements) ↔
      ∀ text ∈ texts, ∃ statement, Statement.ofText text = .ok statement) ∧
    (∀ statements, readBatch texts = .ok statements →
      statements.length = texts.length ∧
        ∀ (place : Nat) (text : String), texts[place]? = some text →
          ∃ statement,
            statements[place]? = some statement ∧
              Statement.ofText text = .ok statement) ∧
    ∀ fault, readBatch texts = .error fault →
      (∃ text,
        texts[fault.index]? = some text ∧
          Statement.ofText text = .error fault.fault) ∧
        fault.before.length = fault.index ∧
        ∀ place < fault.index, ∃ text statement,
          texts[place]? = some text ∧
            fault.before[place]? = some statement ∧
            Statement.ofText text = .ok statement := by
  refine ⟨fun fault => readBatch_append_of_error, fun statements read => ⟨?_, ?_⟩,
    ?_, fun statements read => ?_, fun fault stopped => ?_⟩
  · exact fun more others => readBatch_append_of_ok read
  · intro more later stopped
    refine ⟨_, readBatch_append_of_later read stopped, rfl, rfl, ?_⟩
    rw [(readBatch_eq_ok_iff.mp read).length_eq]
    exact List.length_append
  · simp only [readBatch_eq_ok_iff]
    exact ReadsEach.exists_iff
  · have reads := readBatch_eq_ok_iff.mp read
    exact ⟨reads.length_eq.symm, fun place text isThere => reads.getElem? isThere⟩
  · obtain ⟨front, text, back, rfl, reads, refused⟩ := readBatch_eq_error_iff.mp stopped
    rw [BatchFault.index_eq_length reads]
    refine ⟨⟨text, ?_, refused⟩, reads.length_eq.symm, fun place before => ?_⟩
    · rw [List.getElem?_append_right (Nat.le_refl _), Nat.sub_self]
      rfl
    · have isThere : front[place]? = some front[place] := List.getElem?_eq_getElem before
      obtain ⟨statement, hasPlace, read⟩ := reads.getElem? isThere
      refine ⟨front[place], statement, ?_, hasPlace, read⟩
      rw [List.getElem?_append_left before, isThere]

/-- A batch that stops at its second text, and that batch after another one and before
another one. -/
theorem readBatch_composes_secondRefused :
    ∃ selection deletion,
      readBatch ["SELECT a FROM 't'"] = .ok [selection] ∧
      readBatch ["DELETE FROM 't' WHERE a<b", "SELECT", "x"] =
        .error ⟨[deletion], .missingTable⟩ ∧
      readBatch (["DELETE FROM 't' WHERE a<b", "SELECT", "x"] ++ ["SELECT a FROM 't'"]) =
        .error ⟨[deletion], .missingTable⟩ ∧
      (∃ fault,
        readBatch (["SELECT a FROM 't'"] ++ ["DELETE FROM 't' WHERE a<b", "SELECT", "x"]) =
            .error fault ∧
          fault.fault = .missingTable ∧
          fault.before = [selection] ++ [deletion] ∧
          fault.index = 1 + 1) ∧
      ∃ text,
        ["DELETE FROM 't' WHERE a<b", "SELECT", "x"][1]? = some text ∧
          Statement.ofText text = .error .missingTable := by
  have read : readBatch ["SELECT a FROM 't'"] =
      .ok [{ Statement.ofTable .select "t" with fields := ["a"] }] := by decide +kernel
  have stopped : readBatch ["DELETE FROM 't' WHERE a<b", "SELECT", "x"] =
      .error ⟨[{ Statement.ofTable .delete "t" with
        conditions := [⟨.field "a", .less, .field "b"⟩] }], .missingTable⟩ := by decide +kernel
  exact ⟨_, _, read, stopped,
    (readBatch_composes _).1 _ stopped _,
    ((readBatch_composes _).2.1 _ read).2 _ _ stopped,
    ((readBatch_composes _).2.2.2.2 _ stopped).1⟩

end SqlDialect
