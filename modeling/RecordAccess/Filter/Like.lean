import RecordAccess.Text.LetterCase

/-!
# Patterns

In a pattern `%` stands for any run of characters, also an empty one, `_` for any one character,
and every other character for itself up to the case of the letters `a` to `z`.

A fit is searched for from left to right. A `%` is taken for the empty run at first. When what follows
it turns out not to fit, the run of the last `%` is made longer by one character; the runs of those
before it stay as they are.
-/

namespace RecordAccess.Pattern

/-- Whether one character of a pattern, other than `%`, stands for a character. -/
def standsFor (p c : Char) : Bool :=
  p == '_' || Text.sameLetter p c

/-- A `%` that was met: what follows it in the pattern, and the text after the run that it is taken
for. -/
structure Wildcard where
  pattern : List Char
  text : List Char

/-- A search for a fit: what is left of the text and of the pattern, and the last `%` that was met. -/
structure Search where
  text : List Char
  pattern : List Char
  last : Option Wildcard

namespace Search

/-- Makes the run of the last `%` longer by one character, and goes on behind it. -/
def retry : Option Wildcard → Search ⊕ Bool
  | some ⟨pattern, text⟩ => .inl ⟨text.tail, pattern, some ⟨pattern, text.tail⟩⟩
  | none => .inr false

/-- One step of a search, or its verdict. -/
def step : Search → Search ⊕ Bool
  | ⟨[], pattern, _⟩ => .inr (pattern.all (· == '%'))
  | ⟨_ :: _, [], last⟩ => retry last
  | ⟨c :: text, p :: pattern, last⟩ =>
    if p = '%' then .inl ⟨c :: text, pattern, some ⟨pattern, c :: text⟩⟩
    else if standsFor p c then .inl ⟨text, pattern, last⟩
    else retry last

/-! ## The end of a search -/

/-- How much text a search can still have in front of it. -/
def width (search : Search) : Nat :=
  max search.text.length (search.last.elim 0 fun wildcard => wildcard.text.length)

/-- How much of the pattern a search can still have in front of it. -/
def depth (search : Search) : Nat :=
  max search.pattern.length (search.last.elim 0 fun wildcard => wildcard.pattern.length)

/-- A bound on the steps that a search can still take. -/
def bound (search : Search) : Nat :=
  search.text.length + search.width * (search.width + search.depth)

variable {search next : Search}

theorem bound_lt_of_text (shorter : next.text.length < search.text.length)
    (width_le : next.width ≤ search.width) (depth_le : next.depth ≤ search.depth) :
    next.bound < search.bound :=
  Nat.add_lt_add_of_lt_of_le shorter (Nat.mul_le_mul width_le (Nat.add_le_add width_le depth_le))

theorem bound_lt_of_depth (same : next.text.length = search.text.length)
    (some_text : 0 < search.width) (width_le : next.width ≤ search.width)
    (depth_lt : next.depth < search.depth) : next.bound < search.bound := by
  have wider : next.width * (next.width + next.depth) ≤ search.width * (next.width + next.depth) :=
    Nat.mul_le_mul_right _ width_le
  have deeper : search.width * (next.width + next.depth) <
      search.width * (search.width + search.depth) :=
    Nat.mul_lt_mul_of_pos_left (by omega) some_text
  unfold bound
  omega

theorem bound_lt_of_width (text_le : next.text.length ≤ next.width)
    (some_text : 0 < search.text.length) (width_lt : next.width < search.width)
    (depth_le : next.depth ≤ search.depth) : next.bound < search.bound := by
  have whole : next.width + next.width * (next.width + next.depth) ≤
      search.width * (search.width + search.depth) := by
    rw [Nat.add_comm, ← Nat.mul_succ]
    exact Nat.mul_le_mul (Nat.le_of_lt width_lt) (by omega)
  unfold bound
  omega

/-- Every step takes a search nearer to its end. -/
theorem bound_step_lt (stepped : search.step = .inl next) : next.bound < search.bound := by
  have retried {c : Char} {text pattern : List Char} {last : Option Wildcard}
      (again : retry last = .inl next) : next.bound < (Search.mk (c :: text) pattern last).bound := by
    cases last with
    | none => cases again
    | some wildcard =>
      cases again
      refine bound_lt_of_width (Nat.le_max_left _ _) (Nat.succ_pos _) ?_ ?_
      · simp only [width, Option.elim_some, List.length_tail, List.length_cons]
        omega
      · simp only [depth, Option.elim_some]
        omega
  unfold step at stepped
  split at stepped
  · cases stepped
  · exact retried stepped
  · split at stepped
    · cases stepped
      refine bound_lt_of_depth rfl ?_ ?_ ?_
      all_goals
        simp only [width, depth, Option.elim_some, List.length_cons]
        omega
    · split at stepped
      · cases stepped
        refine bound_lt_of_text (Nat.lt_succ_self _) ?_ ?_
        all_goals
          simp only [width, depth, List.length_cons]
          omega
      · exact retried stepped

/-- The verdict of a search. -/
def run (search : Search) : Bool :=
  match _stepped : search.step with
  | .inl next => run next
  | .inr verdict => verdict
termination_by search.bound
decreasing_by exact bound_step_lt _stepped

end Search

/-- Whether a text fits a pattern. -/
def accepts (pattern text : String) : Bool :=
  Search.run ⟨text.toList, pattern.toList, none⟩

end RecordAccess.Pattern
