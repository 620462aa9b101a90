import Mathlib.Data.List.TakeWhile
import RecordAccess.Proofs.Json.Numerals
import RecordAccess.Proofs.RowOrder

/-!
# Compared integers

Integers of 64 bits, with or without a sign, compare exactly, however they are given: as numbers, or one of
them as its decimal text between blanks (`Json.compare?_exact`). None of them is rounded on the way, not
where the signed ones end and not where floating point numbers no longer tell neighbours apart. Any two
values compare the other way round with the reverse result.
-/

namespace RecordAccess

namespace Text

theorem dropWhile_isBlank_eq_self {cs : List Char} (visible : ∀ c ∈ cs.head?, isBlank c = false) :
    cs.dropWhile isBlank = cs := by
  cases cs with
  | nil => rfl
  | cons c rest => simp [visible c rfl]

/-- The blanks around a text without blanks are trimmed off. -/
theorem trim_of_plain {before text after : String} (blankBefore : isAllBlank before = true)
    (plain : ∀ c ∈ text.toList, isBlank c = false) (blankAfter : isAllBlank after = true) :
    trim (before ++ text ++ after) = text := by
  have begins : (before.toList ++ (text.toList ++ after.toList)).dropWhile isBlank =
      (text.toList ++ after.toList).dropWhile isBlank :=
    List.dropWhile_append_of_pos (List.all_eq_true.1 blankBefore)
  have ends : (after.toList.reverse ++ text.toList.reverse).dropWhile isBlank =
      text.toList.reverse.dropWhile isBlank :=
    List.dropWhile_append_of_pos (by simpa using List.all_eq_true.1 blankAfter)
  rw [trim, String.toList_append, String.toList_append, List.append_assoc, begins]
  by_cases empty : text.toList = []
  · have none : after.toList.dropWhile isBlank = [] :=
      List.dropWhile_eq_nil_iff.2 (List.all_eq_true.1 blankAfter)
    simp [none, String.toList_eq_nil_iff.1 empty]
  · have first : (text.toList ++ after.toList).dropWhile isBlank = text.toList ++ after.toList := by
      refine dropWhile_isBlank_eq_self fun c head => plain c ?_
      rw [List.head?_append_of_ne_nil _ empty] at head
      exact List.mem_of_mem_head? head
    have last : text.toList.reverse.dropWhile isBlank = text.toList.reverse :=
      dropWhile_isBlank_eq_self fun c head =>
        plain c (List.mem_reverse.1 (List.mem_of_mem_head? head))
    simp only [first, List.reverse_append, ends, last, List.reverse_reverse, String.ofList_toList]

end Text

/-! ## Integers -/

/-- The text of an integer has no blank. -/
theorem Number.plain_integer_text (value : Int) :
    ∀ c ∈ (integer value).text.toList, Text.isBlank c = false := by
  intro c member
  rw [text, String.toList_ofList, chars, List.mem_append] at member
  rcases member with sign | digit
  · split at sign
    · rw [List.mem_singleton.1 sign]
      decide
    · cases sign
  · exact Text.isBlank_of_isDigit (isDigit_of_mem_decimalDigits digit)

/-- The text of an integer of 64 bits denotes it, whatever blanks are around it. -/
theorem Number.ofText?_integer {value : Int} (least : -(Nat.pow 2 63 : Nat) ≤ value)
    (greatest : value < (Nat.pow 2 64 : Nat)) {before after : String}
    (blankBefore : Text.isAllBlank before = true) (blankAfter : Text.isAllBlank after = true) :
    ofText? (before ++ (integer value).text ++ after) = some (integer value) := by
  have taken := take?_integer_chars value [] stops_nil
  rw [List.append_nil] at taken
  have denoted := reread?_integer least greatest
  rw [reread?, taken, Option.bind_some] at denoted
  rw [ofText?, Text.trim_of_plain blankBefore (plain_integer_text value) blankAfter, text,
    String.toList_ofList, taken]
  exact denoted

namespace Json

/-- A value gives an integer: as a number, or as its decimal text between blanks. -/
inductive Gives : Json → Int → Prop
  | number (value : Int) : Gives (integer value) value
  | text (value : Int) {before after : String} (blankBefore : Text.isAllBlank before = true)
      (blankAfter : Text.isAllBlank after = true) :
      Gives (string (before ++ (Number.integer value).text ++ after)) value

variable {a b : Json} {x y : Int}

/-- A number beside a value that gives an integer compares with that integer. -/
theorem compare?_integer_left (given : b.Gives y) (least : -(Nat.pow 2 63 : Nat) ≤ y)
    (greatest : y < (Nat.pow 2 64 : Nat)) : (integer x).compare? b = some (compare x y) := by
  rw [← Number.compare_integer]
  cases given with
  | number => rfl
  | text _ blankBefore blankAfter =>
    rw [integer, compare?, Number.ofText?_integer least greatest blankBefore blankAfter]
    rfl

/-- Any two integers of 64 bits, of which at most one is given as a text, compare as integers; and any two
values compare the other way round with the reverse result. -/
theorem compare?_exact :
    (∀ {a b : Json} {x y : Int}, a.Gives x → b.Gives y → a = integer x ∨ b = integer y →
      -(Nat.pow 2 63 : Nat) ≤ x → x < (Nat.pow 2 64 : Nat) →
      -(Nat.pow 2 63 : Nat) ≤ y → y < (Nat.pow 2 64 : Nat) →
      a.compare? b = some (compare x y)) ∧
    ∀ a b : Json, b.compare? a = (a.compare? b).map Ordering.swap := by
  refine ⟨?_, compare?_swap⟩
  intro a b x y first second numeric leastX greatestX leastY greatestY
  rcases numeric with rfl | rfl
  · exact compare?_integer_left second leastY greatestY
  · rw [compare?_swap (integer y) a, compare?_integer_left first leastX greatestX, Option.map_some,
      ← Std.OrientedOrd.eq_swap]

/-- Two neighbours that are rounded to one floating point number, and the greatest signed integer beside the
next one, compare as what they are. -/
theorem compare?_exact_neighbours :
    (string "\t9007199254740993 ").compare? (integer 9007199254740992) = some .gt ∧
      (integer 9223372036854775807).compare? (string "9223372036854775808") = some .lt := by
  have spelled : "\t9007199254740993 " = "\t" ++ (Number.integer 9007199254740993).text ++ " " := by
    decide +kernel
  have spelled' : "9223372036854775808" = "" ++ (Number.integer 9223372036854775808).text ++ "" := by
    decide +kernel
  rw [spelled, spelled']
  constructor
  · exact compare?_exact.1 (.text _ rfl rfl) (.number _) (.inr rfl) (by decide) (by decide) (by decide)
      (by decide)
  · exact compare?_exact.1 (.number _) (.text _ rfl rfl) (.inl rfl) (by decide) (by decide) (by decide)
      (by decide)

end Json

end RecordAccess
