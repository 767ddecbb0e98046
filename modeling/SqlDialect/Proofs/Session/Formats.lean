import SqlDialect.Shell.OutputFormat
import SqlDialect.Text.SmallLetters

/-!
# Names of formats

The name of a format may be written in letters of any case, which is settled for the
letters of ASCII alone. In small letters, where capital letters of all scripts have
theirs, no more texts are names of formats (`OutputFormat.ofName?_eq_some_iff`), since
characters beyond ASCII become none of the letters that these names have. A name with a
k would be another matter: that is what the Kelvin sign becomes.
-/

namespace SqlDialect

/-- A small letter of ASCII that no character beyond ASCII becomes in small letters: any
of them but the k. -/
def IsOwnSmallLetter (character : Char) : Prop :=
  0x61 ≤ character.toNat ∧ character.toNat ≤ 0x7A ∧ character.toNat ≠ 0x6B

instance : DecidablePred IsOwnSmallLetter :=
  fun _ => inferInstanceAs (Decidable (_ ∧ _ ∧ _))

/-! ## Characters in small letters -/

/-- In ASCII only the case of letters changes. -/
theorem smallLetter_of_ascii
    {character : Char}
    (ascii : character.toNat < 128) :
    smallLetter character = [character.toLower] := by
  have alike : ∀ code : Fin 128,
      smallLetter (Char.ofNat code) = [(Char.ofNat code).toLower] := by
    decide +kernel
  have atCode := alike ⟨character.toNat, ascii⟩
  rwa [Char.ofNat_toNat] at atCode

/-- Beyond ASCII the case that ASCII knows does not change. -/
theorem toLower_of_beyond_ascii
    {character : Char}
    (beyond : 128 ≤ character.toNat) :
    character.toLower = character := by
  refine dif_neg ?_
  rintro ⟨-, atMost⟩
  have ascii : character.toNat ≤ 'Z'.toNat := atMost
  exact absurd (Nat.le_trans beyond ascii) (by decide)

theorem not_isOwnSmallLetter_of_beyond_ascii
    {character : Char}
    (beyond : 128 ≤ character.toNat) :
    ¬IsOwnSmallLetter character := by
  rintro ⟨-, atMost, -⟩
  omega

/-- Beyond ASCII the small letters of a run of capital letters are not among those of
ASCII, but for the k that the Kelvin sign becomes. -/
theorem capitalRuns_beyond_ascii :
    ∀ run ∈ capitalRuns,
      run.last < 128 ∨ 0x7A < run.first + run.distance ∨
        run.first = run.last ∧ run.first + run.distance = 0x6B := by
  decide +kernel

/-- A character beyond ASCII becomes something that is beyond the letters that it leaves
to ASCII. -/
theorem exists_mem_smallLetter_of_beyond_ascii
    {character : Char}
    (beyond : 128 ≤ character.toNat) :
    ∃ small ∈ smallLetter character, ¬IsOwnSmallLetter small := by
  by_cases isDotted : character = '\u0130'
  · rw [isDotted]
    exact ⟨'\u0307', by decide +kernel, by decide⟩
  rw [smallLetter, if_neg isDotted]
  cases found : capitalRuns.find? fun run => run.contains character.toNat with
  | none =>
      exact ⟨character, List.mem_singleton_self _,
        not_isOwnSmallLetter_of_beyond_ascii beyond⟩
  | some run =>
      refine ⟨_, List.mem_singleton_self _, ?_⟩
      rintro ⟨atLeast, atMost, notK⟩
      have inRun := List.find?_some found
      have code : (Char.ofNat (character.toNat + run.distance).toNat).toNat =
            (character.toNat + run.distance).toNat ∨
          (Char.ofNat (character.toNat + run.distance).toNat).toNat = 0 := by
        by_cases valid : (character.toNat + run.distance).toNat.isValidChar
        · exact .inl (congrArg Char.toNat (dif_pos valid))
        · exact .inr (congrArg Char.toNat (dif_neg valid))
      simp only [CapitalRun.contains, Bool.and_eq_true, decide_eq_true_eq] at inRun
      rcases capitalRuns_beyond_ascii run (List.mem_of_find?_eq_some found) with
        ascii | after | ⟨single, isK⟩ <;> omega

/-! ## Words in small letters -/

theorem smallLettersAfter_cons_of_ascii
    {character : Char}
    (ascii : character.toNat < 128)
    (before rest : List Char) :
    smallLettersAfter before (character :: rest) =
      character.toLower :: smallLettersAfter (character :: before) rest := by
  have notSigma : character ≠ 'Σ' := by
    rintro rfl
    exact absurd ascii (by decide)
  rw [smallLettersAfter, if_neg (by simp [notSigma]), smallLetter_of_ascii ascii]
  rfl

/-- A word that begins beyond ASCII has something among its small letters that is no
letter of ASCII of its own. -/
theorem exists_mem_smallLettersAfter_of_beyond_ascii
    {character : Char}
    (beyond : 128 ≤ character.toNat)
    (before rest : List Char) :
    ∃ small ∈ smallLettersAfter before (character :: rest), ¬IsOwnSmallLetter small := by
  rw [smallLettersAfter]
  split
  · exact ⟨'ς', by simp, by decide⟩
  · obtain ⟨small, member, foreign⟩ := exists_mem_smallLetter_of_beyond_ascii beyond
    exact ⟨small, List.mem_append_left _ member, foreign⟩

/-- If no character beyond ASCII becomes a letter of a word, the texts that are this word
in small letters are told by the case of the letters of ASCII. -/
theorem smallLettersAfter_eq_iff
    {word : List Char}
    (own : ∀ letter ∈ word, IsOwnSmallLetter letter)
    (before letters : List Char) :
    smallLettersAfter before letters = word ↔ letters.map Char.toLower = word := by
  induction letters generalizing before word with
  | nil => rfl
  | cons character rest inductionHypothesis =>
      rcases Nat.lt_or_ge character.toNat 128 with ascii | beyond
      · rw [smallLettersAfter_cons_of_ascii ascii, List.map_cons]
        cases word with
        | nil => simp
        | cons letter others =>
            rw [List.cons_eq_cons, List.cons_eq_cons,
              inductionHypothesis (List.forall_mem_cons.mp own).2]
      · refine iff_of_false ?_ ?_
        · rintro rfl
          obtain ⟨small, member, foreign⟩ :=
            exists_mem_smallLettersAfter_of_beyond_ascii beyond before rest
          exact foreign (own small member)
        · rintro rfl
          refine not_isOwnSmallLetter_of_beyond_ascii beyond ?_
          rw [← toLower_of_beyond_ascii beyond]
          exact own _ List.mem_cons_self

namespace OutputFormat

/-- Names of formats consist of small letters of ASCII, and none of them is a k. -/
theorem isOwnSmallLetter_of_mem_name (format : OutputFormat) :
    ∀ letter ∈ format.name.toList, IsOwnSmallLetter letter := by
  cases format <;> simp [name, IsOwnSmallLetter]

/-- A name in any case is the name of the format that it is in small letters. -/
theorem ofName?_eq_some_iff {name : String} {format : OutputFormat} :
    ofName? name = some format ↔ inSmallLetters name = format.name := by
  have caseOnly := smallLettersAfter_eq_iff format.isOwnSmallLetter_of_mem_name []
    name.toList
  rw [ofName?_eq_some_iff_foldCase, foldCase, ← caseOnly, inSmallLetters,
    ← String.toList_inj, String.toList_ofList]

end OutputFormat

end SqlDialect
