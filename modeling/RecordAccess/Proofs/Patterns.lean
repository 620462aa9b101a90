import Mathlib.Data.List.Forall2
import RecordAccess.Filter.Like

/-!
# What a pattern fits

`Pattern.Fits` says what it is for a text to fit a pattern: the text can be split into runs, one for
each character of the pattern, that a `%` may cover with any run and every other character with one
character. The search for a fit ends within a bound that is known from the two lengths, and its verdict
is that (`Pattern.accepts_iff_fits`).

The search gives up all `%` but the last. What carries the proof is that nothing is lost by it: as long as
no other `%` is met, the pattern behind the last one has been followed character by character
(`Pattern.Search.IsSound`), so whatever a longer run for it would fit is still in front of the search
(`Pattern.Search.exists_of_isExtensible`), where the next `%` can reach it too.
-/

namespace RecordAccess.Pattern

/-- A character of a pattern covers a run of a text: `%` any run, `_` any one character, and every other
character itself up to the case of the letters `a` to `z`. -/
def Covers (p : Char) (run : List Char) : Prop :=
  p = '%' ∨ ∃ c, run = [c] ∧ (p = '_' ∨ p.toLower = c.toLower)

/-- A text can be split into runs that the characters of a pattern cover, one after another. -/
def Fits (pattern text : List Char) : Prop :=
  ∃ runs : List (List Char), text = runs.flatten ∧ List.Forall₂ Covers pattern runs

variable {pattern matched text run rest : List Char} {p c : Char}

/-! ## Fits -/

theorem standsFor_iff : standsFor p c = true ↔ p = '_' ∨ p.toLower = c.toLower := by
  simp [standsFor, Text.sameLetter]

theorem fits_nil : Fits [] text ↔ text = [] := by
  simp [Fits]

theorem fits_cons : Fits (p :: pattern) text ↔
    ∃ run rest, text = run ++ rest ∧ Covers p run ∧ Fits pattern rest := by
  constructor
  · rintro ⟨runs, rfl, covered⟩
    obtain ⟨run, others, first, later, rfl⟩ := List.forall₂_cons_left_iff.1 covered
    exact ⟨run, others.flatten, rfl, first, others, rfl, later⟩
  · rintro ⟨run, -, rfl, first, others, rfl, later⟩
    exact ⟨run :: others, rfl, .cons first later⟩

/-- Any other character than `%` covers the first character of a text. -/
theorem fits_cons_of_ne (plain : p ≠ '%') : Fits (p :: pattern) text ↔
    ∃ c rest, text = c :: rest ∧ standsFor p c = true ∧ Fits pattern rest := by
  simp only [fits_cons, Covers, plain, false_or, standsFor_iff]
  constructor
  · rintro ⟨-, rest, rfl, ⟨c, rfl, stands⟩, fits⟩
    exact ⟨c, rest, rfl, stands, fits⟩
  · rintro ⟨c, rest, rfl, stands, fits⟩
    exact ⟨[c], rest, rfl, ⟨c, rfl, stands⟩, fits⟩

/-- What fits behind a `%` fits behind any run in front of it. -/
theorem Fits.wildcard (fits : Fits pattern rest) (run : List Char) :
    Fits ('%' :: pattern) (run ++ rest) :=
  fits_cons.2 ⟨run, rest, rfl, .inl rfl, fits⟩

theorem Fits.prepend (fits : Fits ('%' :: pattern) rest) (run : List Char) :
    Fits ('%' :: pattern) (run ++ rest) := by
  obtain ⟨skipped, others, rfl, -, fits⟩ := fits_cons.1 fits
  rw [← List.append_assoc]
  exact fits.wildcard _

/-- A `%` covers the empty run, or a run that begins with the first character of the text. -/
theorem fits_wildcard : Fits ('%' :: pattern) text ↔
    Fits pattern text ∨ text ≠ [] ∧ Fits ('%' :: pattern) text.tail := by
  constructor
  · intro fits
    obtain ⟨run, rest, rfl, -, behind⟩ := fits_cons.1 fits
    cases run with
    | nil => exact .inl behind
    | cons c run => exact .inr ⟨List.cons_ne_nil _ _, behind.wildcard run⟩
  · rintro (fits | ⟨nonempty, fits⟩)
    · exact fits.wildcard []
    · obtain ⟨c, rest, rfl⟩ := List.exists_cons_of_ne_nil nonempty
      exact fits.prepend [c]

/-- Only a pattern of nothing but `%` fits the empty text. -/
theorem fits_nil_right : Fits pattern [] ↔ pattern.all (· == '%') = true := by
  induction pattern with
  | nil => simp [fits_nil]
  | cons p pattern ih =>
    by_cases wild : p = '%'
    · rw [wild, fits_wildcard]
      simp [ih]
    · simp [wild, fits_cons_of_ne]

/-- The characters of a pattern up to its first `%` cover as many characters of the text. -/
theorem Fits.split (plain : '%' ∉ matched) (fits : Fits (matched ++ pattern) text) :
    ∃ run rest, text = run ++ rest ∧ run.length = matched.length ∧ Fits pattern rest := by
  induction matched generalizing text with
  | nil => exact ⟨[], text, rfl, rfl, fits⟩
  | cons p matched ih =>
    obtain ⟨other, others⟩ := not_or.1 (mt List.mem_cons.2 plain)
    obtain ⟨c, behind, rfl, -, fits⟩ := (fits_cons_of_ne (Ne.symm other)).1 fits
    obtain ⟨run, rest, rfl, same, fits⟩ := ih others fits
    exact ⟨c :: run, rest, rfl, by simp [same], fits⟩

/-! ## Searches -/

/-- A longer run for a `%` would do. -/
def Wildcard.IsExtensible (wildcard : Wildcard) : Prop :=
  wildcard.text ≠ [] ∧ Fits ('%' :: wildcard.pattern) wildcard.text.tail

namespace Search

/-- What a search is for: what is left of the text fits what is left of the pattern, or a longer run for
the last `%` would do. -/
def Succeeds (search : Search) : Prop :=
  Fits search.pattern search.text ∨ ∃ wildcard ∈ search.last, wildcard.IsExtensible

/-- Since the last `%`, the pattern has been followed character by character, and there was no other
`%`. -/
def IsSound (search : Search) : Prop :=
  ∀ wildcard ∈ search.last, ∃ matched passed, '%' ∉ matched ∧ passed.length = matched.length ∧
    wildcard.pattern = matched ++ search.pattern ∧ wildcard.text = passed ++ search.text

/-- What a step does. -/
inductive Steps : Search → Search ⊕ Bool → Prop
  | finish {pattern : List Char} {last : Option Wildcard} :
      Steps ⟨[], pattern, last⟩ (.inr (pattern.all (· == '%')))
  | wildcard {c : Char} {text pattern : List Char} {last : Option Wildcard} :
      Steps ⟨c :: text, '%' :: pattern, last⟩
        (.inl ⟨c :: text, pattern, some ⟨pattern, c :: text⟩⟩)
  | advance {c p : Char} {text pattern : List Char} {last : Option Wildcard} (plain : p ≠ '%')
      (stands : standsFor p c = true) :
      Steps ⟨c :: text, p :: pattern, last⟩ (.inl ⟨text, pattern, last⟩)
  | stuck {c : Char} {text pattern : List Char} {last : Option Wildcard}
      (unfit : ¬ Fits pattern (c :: text)) : Steps ⟨c :: text, pattern, last⟩ (retry last)

theorem steps_step (search : Search) : Steps search search.step := by
  unfold step
  split
  · exact .finish
  · exact .stuck (by simp [fits_nil])
  · split
    · next wild =>
      subst wild
      exact .wildcard
    · next plain =>
      split
      · next stands => exact .advance plain stands
      · next differs =>
        refine .stuck fun fits => ?_
        obtain ⟨_, _, same, stands, -⟩ := (fits_cons_of_ne plain).1 fits
        cases same
        exact differs stands

variable {search next : Search}

theorem isSound_step (sound : search.IsSound) (stepped : search.step = .inl next) :
    next.IsSound := by
  have steps := steps_step search
  rw [stepped] at steps
  generalize outcome : Sum.inl next = after at steps
  -- Behind a `%`, the search begins anew.
  have anew (pattern text : List Char) : IsSound ⟨text, pattern, some ⟨pattern, text⟩⟩ := by
    rintro _ ⟨⟩
    exact ⟨[], [], by simp⟩
  cases steps with
  | finish => cases outcome
  | wildcard =>
    cases outcome
    exact anew _ _
  | @advance c p text pattern last plain stands =>
    cases outcome
    intro wildcard met
    obtain ⟨matched, passed, none_met, same, pattern_eq, text_eq⟩ := sound wildcard met
    refine ⟨matched ++ [p], passed ++ [c], ?_, by simp [same], by simp [pattern_eq], by simp [text_eq]⟩
    simp [none_met, plain.symm]
  | @stuck c text pattern last unfit =>
    cases last with
    | none => cases outcome
    | some wildcard =>
      cases outcome
      exact anew _ _

/-- Whatever a longer run for the last `%` would fit is still in front of the search. -/
theorem exists_of_isExtensible (sound : search.IsSound) {wildcard : Wildcard}
    (met : wildcard ∈ search.last) (extensible : wildcard.IsExtensible) :
    ∃ run rest, run ≠ [] ∧ search.text = run ++ rest ∧ Fits search.pattern rest := by
  obtain ⟨nonempty, fits⟩ := extensible
  obtain ⟨matched, passed, plain, same, pattern_eq, text_eq⟩ := sound wildcard met
  obtain ⟨first, others, whole⟩ := List.exists_cons_of_ne_nil nonempty
  rw [whole, List.tail_cons] at fits
  obtain ⟨longer, behind, rfl, -, fits⟩ := fits_cons.1 fits
  rw [pattern_eq] at fits
  obtain ⟨again, rest, rfl, length_eq, fits⟩ := fits.split plain
  -- The two splittings of the text differ by more than the run that `%` was taken for.
  rw [text_eq] at whole
  have split : passed ++ search.text = (first :: longer ++ again) ++ rest := by simp [whole]
  have lengths := congrArg List.length split
  simp only [List.length_append, List.length_cons, same, length_eq] at lengths
  rcases List.append_eq_append_iff.1 split with ⟨run, -, found⟩ | ⟨run, -, found⟩
  · refine ⟨run, rest, ?_, found, fits⟩
    rintro rfl
    simp only [found, List.nil_append] at lengths
    omega
  · have longer := congrArg List.length found
    simp only [List.length_append] at longer
    omega

/-- Where a search begins behind a `%`, it succeeds if the text fits with the `%` in front. -/
theorem succeeds_anew (pattern text : List Char) :
    Succeeds ⟨text, pattern, some ⟨pattern, text⟩⟩ ↔ Fits ('%' :: pattern) text := by
  simp [Succeeds, Wildcard.IsExtensible, @fits_wildcard _ text]

/-- A step does not change whether the search succeeds. -/
theorem succeeds_step (sound : search.IsSound) (stepped : search.step = .inl next) :
    next.Succeeds ↔ search.Succeeds := by
  have steps := steps_step search
  rw [stepped] at steps
  generalize outcome : Sum.inl next = after at steps
  cases steps with
  | finish => cases outcome
  | @wildcard c text pattern last =>
    cases outcome
    rw [succeeds_anew]
    refine ⟨.inl, ?_⟩
    rintro (fits | ⟨wildcard, met, extensible⟩)
    · exact fits
    · -- The new `%` can take in what a longer run of the old one would.
      obtain ⟨run, rest, -, split, fits⟩ := exists_of_isExtensible sound met extensible
      change c :: text = run ++ rest at split
      rw [split]
      exact fits.prepend run
  | advance plain stands =>
    cases outcome
    refine or_congr_left ?_
    simp [fits_cons_of_ne plain, stands]
  | @stuck c text pattern last unfit =>
    cases last with
    | none => cases outcome
    | some wildcard =>
      cases outcome
      obtain ⟨matched, passed, -, -, -, text_eq⟩ := sound wildcard rfl
      have nonempty : wildcard.text ≠ [] := by simp [text_eq]
      rw [succeeds_anew]
      simp [Succeeds, unfit, Wildcard.IsExtensible, nonempty]

/-- The verdict of a search is whether it succeeds. -/
theorem verdict_iff (sound : search.IsSound) {verdict : Bool} (stepped : search.step = .inr verdict) :
    verdict = true ↔ search.Succeeds := by
  have steps := steps_step search
  rw [stepped] at steps
  generalize outcome : Sum.inr verdict = after at steps
  cases steps with
  | @finish pattern last =>
    cases outcome
    rw [← fits_nil_right]
    refine ⟨.inl, ?_⟩
    rintro (fits | ⟨wildcard, met, extensible⟩)
    · exact fits
    · obtain ⟨run, rest, nonempty, split, -⟩ := exists_of_isExtensible sound met extensible
      exact absurd (List.append_eq_nil_iff.1 split.symm).1 nonempty
  | wildcard | advance => cases outcome
  | @stuck c text pattern last unfit =>
    cases last with
    | some wildcard => cases outcome
    | none =>
      cases outcome
      simp [Succeeds, unfit]

/-- A search whose steps are sound says whether it succeeds. -/
theorem run_iff (sound : search.IsSound) : search.run = true ↔ search.Succeeds := by
  fun_induction run search with
  | case1 search next stepped ih =>
    rw [ih (isSound_step sound stepped)]
    exact succeeds_step sound stepped
  | case2 search verdict stepped => exact verdict_iff sound stepped

/-- A search ends after some number of steps with a verdict. -/
inductive Ends : Search → Nat → Bool → Prop
  | verdict {search : Search} {verdict : Bool} (stepped : search.step = .inr verdict) :
      Ends search 1 verdict
  | step {search next : Search} {steps : Nat} {verdict : Bool} (stepped : search.step = .inl next)
      (later : Ends next steps verdict) : Ends search (steps + 1) verdict

/-- A search ends within its bound, with its verdict. -/
theorem ends_run (search : Search) : ∃ steps ≤ search.bound + 1, Ends search steps search.run := by
  fun_induction run search with
  | case1 search next stepped ih =>
    obtain ⟨steps, within, ends⟩ := ih
    have nearer := bound_step_lt stepped
    exact ⟨steps + 1, by omega, .step stepped ends⟩
  | case2 search verdict stepped => exact ⟨1, by omega, .verdict stepped⟩

end Search

/-- For every text and pattern the search ends, within a number of steps that the two lengths bound, and
it accepts the text if and only if the text can be split along the pattern. -/
theorem accepts_iff_fits (pattern text : String) :
    (∃ steps ≤ text.length + text.length * (text.length + pattern.length) + 1,
      Search.Ends ⟨text.toList, pattern.toList, none⟩ steps (accepts pattern text)) ∧
    (accepts pattern text = true ↔ Fits pattern.toList text.toList) := by
  constructor
  · have ends := Search.ends_run ⟨text.toList, pattern.toList, none⟩
    simpa [Search.bound, Search.width, Search.depth, accepts, String.length_toList] using ends
  · have sound : Search.IsSound ⟨text.toList, pattern.toList, none⟩ := by
      rintro _ ⟨⟩
    simp [accepts, Search.run_iff sound, Search.Succeeds]

example : accepts "%B_%" "a%b_c" = true ∧ accepts "_homa" "Thomas" = false := by decide +kernel

end RecordAccess.Pattern
