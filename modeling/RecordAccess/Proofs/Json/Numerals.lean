import RecordAccess.Json.Token

/-!
# Written numbers are numerals

The text of every number is one numeral of JSON, whatever follows it, as long as that cannot be
taken for more of the number (`Number.take?_chars`). An integer of 64 bits is read back
(`Number.reread?_integer`). Of floating point numbers only the form is proved here: reading rounds
in steps, and its last bit may differ.
-/

namespace RecordAccess

/-! ## Digits -/

/-- A text that does not go on with what could be more of a number. -/
def Stops (rest : List Char) : Prop :=
  ∀ c ∈ rest.head?, c.isDigit = false ∧ c ≠ '.' ∧ c ≠ 'e' ∧ c ≠ 'E'

theorem stops_nil : Stops [] := fun _ member => nomatch member

namespace Numeral

theorem takeDigits?_append {digits rest : List Char} (nonempty : digits ≠ [])
    (decimal : ∀ c ∈ digits, c.isDigit = true) (stop : ∀ c ∈ rest.head?, c.isDigit = false) :
    takeDigits? (digits ++ rest) = some (digits.map digitValue, rest) := by
  have ended : rest.takeWhile Char.isDigit = [] ∧ rest.dropWhile Char.isDigit = rest := by
    cases rest with
    | nil => exact ⟨rfl, rfl⟩
    | cons c _ => simp [stop c rfl]
  unfold takeDigits?
  rw [List.takeWhile_append_of_pos decimal, List.dropWhile_append_of_pos decimal, ended.1, ended.2,
    List.append_nil]
  cases digits with
  | nil => exact absurd rfl nonempty
  | cons c others => rfl

/-- The digits before the point: none but a single zero starts with a zero. -/
def IsWhole (digits : List Char) : Prop :=
  digits ≠ [] ∧ (∀ c ∈ digits, c.isDigit = true) ∧ (digits.head? = some '0' → digits = ['0'])

theorem digitValue_eq_zero {c : Char} (decimal : c.isDigit = true) (zero : digitValue c = 0) :
    c = '0' := by
  have bounds : 48 ≤ c.toNat ∧ c.toNat ≤ 57 := by simpa using Char.isDigit_iff_toNat.1 decimal
  have code : c.toNat = '0'.toNat := by
    simp only [digitValue, Char.reduceToNat] at zero ⊢
    omega
  rw [← Char.ofNat_toNat c, code]
  rfl

theorem takeWhole?_append {digits rest : List Char} (whole : IsWhole digits)
    (stop : ∀ c ∈ rest.head?, c.isDigit = false) :
    takeWhole? (digits ++ rest) = some (digits.map digitValue, rest) := by
  obtain ⟨nonempty, decimal, leading⟩ := whole
  rw [takeWhole?, takeDigits?_append nonempty decimal stop, Option.filter_some]
  refine if_pos ?_
  cases digits with
  | nil => exact absurd rfl nonempty
  | cons c others =>
    by_cases zero : c = '0'
    · subst zero
      rw [leading rfl]
      rfl
    · have nonzero : digitValue c ≠ 0 := fun same =>
        zero (digitValue_eq_zero (decimal c (List.mem_cons_self ..)) same)
      simp [nonzero]

/-- A point with digits after it, or nothing. -/
def pointed (fraction : List Char) : List Char :=
  if fraction.isEmpty then [] else '.' :: fraction

theorem takeFraction?_append {fraction rest : List Char}
    (decimal : ∀ c ∈ fraction, c.isDigit = true)
    (stop : ∀ c ∈ rest.head?, c.isDigit = false ∧ c ≠ '.') :
    takeFraction? (pointed fraction ++ rest) = some (fraction.map digitValue, rest) := by
  cases fraction with
  | nil =>
    cases rest with
    | nil => rfl
    | cons c others =>
      have unpointed := (stop c rfl).2
      simp [pointed, takeFraction?, unpointed]
  | cons c others =>
    exact takeDigits?_append (List.cons_ne_nil _ _) decimal fun c member => (stop c member).1

theorem takeExponent?_of_stops {rest : List Char} (stops : Stops rest) :
    takeExponent? rest = some (none, rest) := by
  cases rest with
  | nil => rfl
  | cons c others =>
    obtain ⟨-, -, small, great⟩ := stops c rfl
    simp [takeExponent?, small, great]

/-- An exponent is read with its sign. -/
theorem takeExponent?_append {digits : List Char} {sign : Char}
    (signed : sign = '+' ∨ sign = '-') (nonempty : digits ≠ [])
    (decimal : ∀ c ∈ digits, c.isDigit = true) :
    ∃ value, ∀ rest : List Char, (∀ c ∈ rest.head?, c.isDigit = false) →
      takeExponent? ('e' :: sign :: digits ++ rest) = some (some value, rest) := by
  rcases signed with rfl | rfl
  · refine ⟨ofDigits (digits.map digitValue), fun rest stop => ?_⟩
    simp [takeExponent?, takeExponentValue?, takeSign, takeDigits?_append nonempty decimal stop]
  · refine ⟨-ofDigits (digits.map digitValue), fun rest stop => ?_⟩
    simp [takeExponent?, takeExponentValue?, takeSign, takeDigits?_append nonempty decimal stop]

/-- The text of a numeral in parts: a sign, digits, digits after a point, and what may be an
exponent. -/
theorem take?_append (negative : Bool) {whole fraction : List Char} (tail : List Char)
    {rest : List Char} (isWhole : IsWhole whole) (decimal : ∀ c ∈ fraction, c.isDigit = true)
    {exponent : Option Int} (tailStops : ∀ c ∈ (tail ++ rest).head?, c.isDigit = false ∧ c ≠ '.')
    (taken : takeExponent? (tail ++ rest) = some (exponent, rest)) :
    take? ((if negative then ['-'] else []) ++ whole ++ pointed fraction ++ tail ++ rest) =
      some (⟨negative, whole.map digitValue, fraction.map digitValue, exponent⟩, rest) := by
  have wholeStops : ∀ c ∈ (pointed fraction ++ (tail ++ rest)).head?, c.isDigit = false := by
    cases fraction with
    | nil => exact fun c member => (tailStops c member).1
    | cons first others =>
      intro c member
      cases member
      rfl
  have minus : takeMinus ((if negative then ['-'] else []) ++ whole ++ pointed fraction ++ tail ++
      rest) = (negative, whole ++ (pointed fraction ++ (tail ++ rest))) := by
    simp only [List.append_assoc]
    cases negative with
    | true => rfl
    | false =>
      obtain ⟨nonempty, digits, -⟩ := isWhole
      cases whole with
      | nil => exact absurd rfl nonempty
      | cons c others =>
        have unsigned : c ≠ '-' := by
          rintro rfl
          exact absurd (digits '-' (List.mem_cons_self ..)) (by decide)
        simp [takeMinus, unsigned]
  simp only [take?, minus, takeWhole?_append isWhole wholeStops, Option.bind_eq_bind,
    Option.bind_some, takeFraction?_append decimal tailStops, taken, Option.pure_def]

end Numeral

/-! ## Decimals -/

/-- Digits that denote a number of 64 bits are all taken into the significand. -/
theorem Numeral.continueSignificand_map (digits : List Char) {significand : Nat}
    (size : Nat.ofDigitChars 10 digits significand < Nat.pow 2 64) :
    continueSignificand significand (digits.map digitValue) =
      (Nat.ofDigitChars 10 digits significand, 0) := by
  induction digits generalizing significand with
  | nil => rfl
  | cons c rest ih =>
    rw [Nat.ofDigitChars_cons, Nat.mul_comm] at size ⊢
    have grows := @Nat.ofDigitChars_eq_ofDigitChars_zero rest (significand * 10 + (c.toNat - 48))
    have one_power : 1 ≤ 10 ^ rest.length := Nat.pow_pos (by decide)
    have below : significand * 10 + digitValue c ≤
        10 ^ rest.length * (significand * 10 + digitValue c) := Nat.le_mul_of_pos_left _ one_power
    have fits : significand * 10 + digitValue c < Nat.pow 2 64 := by
      refine Nat.lt_of_le_of_lt (Nat.le_trans below ?_) size
      exact grows ▸ Nat.le_add_right _ _
    simp only [List.map_cons, continueSignificand, fits, if_true]
    exact ih size

/-- Where no digit is left out, all of them are in the significand. -/
theorem Numeral.fst_continueSignificand (digits : List Char) {significand : Nat}
    (complete : (continueSignificand significand (digits.map digitValue)).2 = 0) :
    (continueSignificand significand (digits.map digitValue)).1 =
      Nat.ofDigitChars 10 digits significand := by
  induction digits generalizing significand with
  | nil => rfl
  | cons c rest ih =>
    rw [Nat.ofDigitChars_cons, Nat.mul_comm 10]
    rw [List.map_cons, continueSignificand] at complete ⊢
    split at complete
    · next fits =>
      rw [if_pos fits]
      exact ih complete
    · simp at complete

theorem Numeral.continueSignificand_decimalDigits {n : Nat} (size : n < Nat.pow 2 64) :
    continueSignificand 0 ((decimalDigits n).map digitValue) = (n, 0) := by
  have value : Nat.ofDigitChars 10 (decimalDigits n) 0 = n := Nat.ofDigitChars_ten_toDigits
  rw [continueSignificand_map _ (by rwa [value]), value]

theorem isDigit_of_mem_decimalDigits {n : Nat} {c : Char} (member : c ∈ decimalDigits n) :
    c.isDigit = true :=
  Nat.isDigit_of_mem_toDigits (by decide) (by decide) member

theorem decimalDigits_ne_nil (n : Nat) : decimalDigits n ≠ [] :=
  Nat.toDigits_ne_nil

/-- Only zero is written with a zero in front. -/
theorem head?_decimalDigits {n : Nat} (leading : (decimalDigits n).head? = some '0') : n = 0 := by
  induction n using Nat.strongRecOn with
  | ind n ih =>
    unfold decimalDigits at leading ih
    rw [Nat.toDigits_eq_if (by decide)] at leading
    split at leading
    · next small =>
      have cases : ∀ m < 10, m.digitChar = '0' → m = 0 := by decide
      exact cases n small (by simpa using leading)
    · next great =>
      obtain ⟨first, found⟩ := Option.isSome_iff_exists.1
        (List.isSome_head?.2 (@Nat.toDigits_ne_nil (n / 10) 10))
      rw [List.head?_append, found, Option.some_or] at leading
      have quotient : n / 10 = 0 := ih (n / 10) (by omega) (found.trans leading)
      omega

theorem isWhole_decimalDigits (n : Nat) : Numeral.IsWhole (decimalDigits n) := by
  refine ⟨decimalDigits_ne_nil n, fun c member => isDigit_of_mem_decimalDigits member, ?_⟩
  intro leading
  rw [head?_decimalDigits leading]
  rfl

/-- Nothing, or a signed exponent. -/
def Numeral.IsExponent (tail : List Char) : Prop :=
  tail = [] ∨ ∃ sign digits, tail = 'e' :: sign :: digits ∧ (sign = '+' ∨ sign = '-') ∧
    digits ≠ [] ∧ ∀ c ∈ digits, c.isDigit = true

/-- A text without a sign that has the parts of a numeral. -/
def Numeral.IsUnsigned (text : List Char) : Prop :=
  ∃ whole fraction tail, text = whole ++ pointed fraction ++ tail ∧ IsWhole whole ∧
    (∀ c ∈ fraction, c.isDigit = true) ∧ IsExponent tail

/-- A numeral is read up to its end. -/
theorem Numeral.IsUnsigned.take?_append {text : List Char} (unsigned : IsUnsigned text)
    (negative : Bool) : ∃ numeral, ∀ rest, Stops rest →
      take? ((if negative then ['-'] else []) ++ text ++ rest) = some (numeral, rest) := by
  obtain ⟨whole, fraction, tail, rfl, isWhole, decimal, rfl | ⟨sign, digits, rfl, signed, nonempty,
    exponents⟩⟩ := unsigned
  · refine ⟨⟨negative, whole.map digitValue, fraction.map digitValue, none⟩, fun rest stops => ?_⟩
    have read := Numeral.take?_append negative [] isWhole decimal
      (fun c member => ⟨(stops c member).1, (stops c member).2.1⟩) (takeExponent?_of_stops stops)
    simpa only [List.append_assoc, List.append_nil, List.nil_append] using read
  · obtain ⟨value, taken⟩ := takeExponent?_append signed nonempty exponents
    refine ⟨⟨negative, whole.map digitValue, fraction.map digitValue, some value⟩,
      fun rest stops => ?_⟩
    have read := Numeral.take?_append negative ('e' :: sign :: digits) isWhole decimal
      (fun c member => by cases member; exact ⟨rfl, by decide⟩)
      (taken rest fun c member => (stops c member).1)
    simpa only [List.append_assoc] using read

namespace Decimal

theorem isDigit_of_mem_zeros {n : Nat} {c : Char} (member : c ∈ List.replicate n '0') :
    c.isDigit = true := by
  rw [List.eq_of_mem_replicate member]
  rfl

/-- A point between digits, none of them a needless zero in front. -/
theorem isUnsigned_splitAtPoint {n : Nat} {exponent : Int} (positive : 0 < n)
    (negative : exponent < 0) :
    Numeral.IsUnsigned (splitAtPoint (decimalDigits n) exponent) := by
  simp only [splitAtPoint]
  generalize places_eq : (-exponent).toNat = places
  generalize padded_eq : List.replicate (places + 1 - (decimalDigits n).length) '0' ++
    decimalDigits n = padded
  have some_places : 0 < places := by omega
  have long : places + 1 ≤ padded.length := by
    rw [← padded_eq, List.length_append, List.length_replicate]
    omega
  have decimal : ∀ c ∈ padded, c.isDigit = true := by
    intro c member
    rw [← padded_eq] at member
    rcases List.mem_append.1 member with zero | digit
    · exact isDigit_of_mem_zeros zero
    · exact isDigit_of_mem_decimalDigits digit
  refine ⟨padded.take (padded.length - places), padded.drop (padded.length - places), [], ?_,
    ⟨?_, fun c member => decimal c (List.mem_of_mem_take member), fun leading => ?_⟩,
    fun c member => decimal c (List.mem_of_mem_drop member), .inl rfl⟩
  · have fraction : (padded.drop (padded.length - places)).isEmpty = false := by
      rw [List.isEmpty_eq_false_iff, ← List.length_pos_iff, List.length_drop]
      omega
    simp [Numeral.pointed, fraction]
  · rw [← List.length_pos_iff, List.length_take]
    omega
  · -- A zero in front was put there, and then it is all there is in front.
    have front : padded.length - places = 1 := by
      by_cases short : (decimalDigits n).length ≤ places
      · rw [← padded_eq, List.length_append, List.length_replicate]
        omega
      · have unpadded : padded = decimalDigits n := by
          rw [← padded_eq, show places + 1 - (decimalDigits n).length = 0 by omega]
          rfl
        rw [unpadded, List.head?_take, if_neg (by omega)] at leading
        have zero := head?_decimalDigits leading
        omega
    rw [front] at leading ⊢
    cases padded with
    | nil => simp at long
    | cons c others =>
      simp only [List.take_succ_cons, List.take_zero, List.head?_cons, Option.some.injEq] at leading
      rw [leading]
      rfl

theorem isUnsigned_positional {d : Decimal} (positive : 0 < d.digits) :
    Numeral.IsUnsigned d.positional := by
  unfold positional
  split
  · refine ⟨decimalDigits d.digits ++ List.replicate d.exponent.toNat '0', ['0'], [], ?_,
      ⟨?_, fun c member => ?_, fun leading => ?_⟩, fun c member => ?_, .inl rfl⟩
    · simp [Numeral.pointed]
    · simp [decimalDigits_ne_nil]
    · rcases List.mem_append.1 member with digit | zero
      · exact isDigit_of_mem_decimalDigits digit
      · exact isDigit_of_mem_zeros zero
    · obtain ⟨first, found⟩ := Option.isSome_iff_exists.1
        (List.isSome_head?.2 (decimalDigits_ne_nil d.digits))
      rw [List.head?_append, found, Option.some_or] at leading
      have zero := head?_decimalDigits (found.trans leading)
      omega
    · rw [List.mem_singleton.1 member]
      rfl
  · next negative => exact isUnsigned_splitAtPoint positive (Int.not_le.1 negative)

theorem isUnsigned_scientific {d : Decimal} (positive : 0 < d.digits) :
    Numeral.IsUnsigned d.scientific := by
  simp only [scientific]
  generalize d.exponent + ((decimalDigits d.digits).length - 1 : Nat) = magnitude
  have nonempty := decimalDigits_ne_nil d.digits
  refine ⟨(decimalDigits d.digits).take 1, (decimalDigits d.digits).tail,
    'e' :: (if magnitude < 0 then '-' else '+') :: decimalDigits magnitude.natAbs, ?_,
    ⟨?_, fun c member => isDigit_of_mem_decimalDigits (List.mem_of_mem_take member),
      fun leading => ?_⟩,
    fun c member => isDigit_of_mem_decimalDigits (List.mem_of_mem_tail member),
    .inr ⟨_, _, rfl, ?_, decimalDigits_ne_nil _, fun c member => isDigit_of_mem_decimalDigits member⟩⟩
  · generalize decimalDigits d.digits = digits at nonempty
    have fraction : Numeral.pointed digits.tail =
        if digits.length ≤ 1 then [] else '.' :: digits.tail := by
      have same : digits.tail.isEmpty = true ↔ digits.length ≤ 1 := by
        rw [List.isEmpty_iff, ← List.length_eq_zero_iff, List.length_tail]
        omega
      simp only [Numeral.pointed, same]
    rw [fraction]
  · rw [← List.length_pos_iff, List.length_take]
    have := List.length_pos_iff.2 nonempty
    omega
  · rw [List.head?_take, if_neg (by decide)] at leading
    have zero := head?_decimalDigits leading
    omega
  · split
    · exact .inr rfl
    · exact .inl rfl

theorem isUnsigned_text {d : Decimal} (positive : 0 < d.digits) :
    Numeral.IsUnsigned d.text := by
  simp only [text]
  split
  · exact isUnsigned_positional positive
  · exact isUnsigned_scientific positive

theorem digits_dropZeros_pos {d : Decimal} (positive : 0 < d.digits) (fuel : Nat) :
    0 < (d.dropZeros fuel).digits := by
  induction fuel generalizing d with
  | zero => exact positive
  | succ fuel ih =>
    unfold dropZeros
    split
    · exact ih (by simp only; omega)
    · exact positive

theorem digits_chosen_pos {below above : Decimal} (below_pos : 0 < below.digits)
    (above_pos : 0 < above.digits) (order : Ordering) : 0 < (below.chosen above order).digits := by
  cases order with
  | lt => exact above_pos
  | gt => exact below_pos
  | eq =>
    simp only [chosen]
    split
    · exact below_pos
    · exact above_pos

theorem compareQuarters_of_zero {d : Decimal} (zero : d.digits = 0) {quarters : Nat}
    (positive : 0 < quarters) : d.compareQuarters quarters = .lt := by
  have scaled : 0 < quarters * Nat.pow 10 (-d.exponent).toNat :=
    Nat.mul_pos positive (Nat.pow_pos (by decide))
  rw [compareQuarters, zero, Nat.zero_mul, Nat.zero_mul]
  exact Nat.compare_eq_lt.2 scaled

end Decimal

namespace Double

/-- Only zero reads back from zero. -/
theorem digits_pos_of_isReadBackFrom {x : Double} {d : Decimal} (nonzero : x.significand ≠ 0)
    (back : x.isReadBackFrom d = true) : 0 < d.digits := by
  refine Nat.pos_of_ne_zero fun zero => ?_
  have gap : x.halfGapBelow ≤ 2 * Nat.pow 2 x.exponent := by
    unfold halfGapBelow
    split
    · omega
    · exact Nat.le_refl _
  have above_zero : 0 < x.quarters - x.halfGapBelow := by
    have one_unit : Nat.pow 2 x.exponent ≤ x.significand * Nat.pow 2 x.exponent :=
      Nat.le_mul_of_pos_left _ (Nat.pos_of_ne_zero nonzero)
    have some_unit : 0 < Nat.pow 2 x.exponent := Nat.pow_pos (by decide)
    simp only [quarters, units]
    omega
  simp [isReadBackFrom, Decimal.compareQuarters_of_zero zero above_zero] at back

theorem digits_nearer_pos {x : Double} {below above : Decimal} (below_pos : 0 < below.digits)
    (above_pos : 0 < above.digits) : 0 < (x.nearer below above).digits := by
  unfold nearer
  exact Decimal.digits_chosen_pos below_pos above_pos _

theorem digits_decimalAt?_pos {x : Double} {exponent : Int} {d : Decimal}
    (nonzero : x.significand ≠ 0) (found : x.decimalAt? exponent = some d) : 0 < d.digits := by
  unfold decimalAt? at found
  generalize x.neighbours exponent = pair at found
  obtain ⟨below, above⟩ := pair
  cases isBelow : x.isReadBackFrom below <;> cases isAbove : x.isReadBackFrom above <;>
    simp only [isBelow, isAbove] at found
  · cases found
  · cases found
    exact digits_pos_of_isReadBackFrom nonzero isAbove
  · cases found
    exact digits_pos_of_isReadBackFrom nonzero isBelow
  · cases found
    exact digits_nearer_pos (digits_pos_of_isReadBackFrom nonzero isBelow)
      (digits_pos_of_isReadBackFrom nonzero isAbove)

theorem digits_shortest_pos {x : Double} (nonzero : x.significand ≠ 0) :
    0 < x.shortest.digits := by
  refine Decimal.digits_dropZeros_pos ?_ 18
  cases found : (List.range 17).findSome? fun n : Nat =>
      x.decimalAt? (x.decimalPoint - (n + 1)) with
  | none => exact Nat.mul_pos (Nat.pos_of_ne_zero nonzero) (Nat.pow_pos (by decide))
  | some d =>
    obtain ⟨_, -, chosen⟩ := List.exists_of_findSome?_eq_some found
    exact digits_decimalAt?_pos nonzero chosen

end Double

/-! ## Numbers -/

theorem Numeral.real?_ne_integer (negative : Bool) (significand : Nat) (exponent value : Int) :
    real? negative significand exponent ≠ some (.integer value) := by
  intro found
  obtain ⟨x, -, found⟩ := Option.bind_eq_some_iff.1 found
  obtain ⟨y, -, found⟩ := Option.bind_eq_some_iff.1 found
  cases found

namespace Number

/-- A number is written as a sign or none, and then a numeral without a sign. -/
theorem exists_unsigned (n : Number) : ∃ (negative : Bool) (text : List Char),
    Numeral.IsUnsigned text ∧ n.chars = (if negative then ['-'] else []) ++ text := by
  cases n with
  | integer value =>
    refine ⟨decide (value < 0), decimalDigits value.natAbs,
      ⟨decimalDigits value.natAbs, [], [], by simp [Numeral.pointed], isWhole_decimalDigits _,
        List.forall_mem_nil _, .inl rfl⟩, by simp [chars]⟩
  | real value =>
    refine ⟨value.negative, _, ?_, rfl⟩
    split
    · have zero : ∀ c ∈ ['0'], c.isDigit = true := List.forall_mem_singleton.2 rfl
      exact ⟨['0'], ['0'], [], rfl, ⟨List.cons_ne_nil _ _, zero, fun _ => rfl⟩, zero, .inl rfl⟩
    · next nonzero =>
      have significand : value.significand ≠ 0 := by simpa [Double.isZero] using nonzero
      exact Decimal.isUnsigned_text (Double.digits_shortest_pos significand)

/-- The text of a number is one numeral, whatever follows that is no more of it. -/
theorem take?_chars (n : Number) : ∃ numeral, ∀ rest, Stops rest →
    Numeral.take? (n.chars ++ rest) = some (numeral, rest) := by
  obtain ⟨negative, text, unsigned, same⟩ := n.exists_unsigned
  rw [same]
  exact unsigned.take?_append negative

/-- What the text of a number starts with. -/
theorem exists_cons_chars (n : Number) :
    ∃ c rest, n.chars = c :: rest ∧ (c = '-' ∨ c.isDigit = true) := by
  obtain ⟨negative, text, ⟨whole, fraction, tail, rfl, ⟨nonempty, decimal, -⟩, -⟩, same⟩ :=
    n.exists_unsigned
  cases negative with
  | true => exact ⟨'-', _, same, .inl rfl⟩
  | false =>
    cases whole with
    | nil => exact absurd rfl nonempty
    | cons c others => exact ⟨c, _, same, .inr (decimal c (List.mem_cons_self ..))⟩

/-- The number that the text of a number denotes, if it denotes one. -/
def reread? (n : Number) : Option Number :=
  (Numeral.take? n.chars).bind fun taken => taken.1.value?

theorem take?_reread (n : Number) : ∃ numeral, numeral.value? = n.reread? ∧
    ∀ rest, Stops rest → Numeral.take? (n.chars ++ rest) = some (numeral, rest) := by
  obtain ⟨numeral, taken⟩ := n.take?_chars
  refine ⟨numeral, ?_, taken⟩
  have alone := taken [] stops_nil
  rw [List.append_nil] at alone
  rw [reread?, alone]
  rfl

/-- The numeral of an integer. -/
theorem take?_integer_chars (value : Int) : ∀ rest, Stops rest →
    Numeral.take? ((integer value).chars ++ rest) =
      some (⟨value < 0, (decimalDigits value.natAbs).map Numeral.digitValue, [], none⟩, rest) := by
  intro rest stops
  have read := Numeral.take?_append (decide (value < 0)) [] (isWhole_decimalDigits value.natAbs)
    (List.forall_mem_nil _) (fun c member => ⟨(stops c member).1, (stops c member).2.1⟩)
    (Numeral.takeExponent?_of_stops stops)
  simpa [chars, Numeral.pointed] using read

/-- An integer of 64 bits, signed or unsigned, is read back. -/
theorem reread?_integer {value : Int} (least : -(Nat.pow 2 63 : Nat) ≤ value)
    (greatest : value < (Nat.pow 2 64 : Nat)) :
    (integer value).reread? = some (integer value) := by
  have alone := take?_integer_chars value [] stops_nil
  rw [List.append_nil] at alone
  have powers : Nat.pow 2 64 = 2 * Nat.pow 2 63 := rfl
  have size : value.natAbs < Nat.pow 2 64 := by omega
  have whole := Numeral.continueSignificand_decimalDigits size
  rw [reread?, alone, Option.bind_some]
  by_cases negative : value < 0
  · have bounds : 0 < value.natAbs ∧ value.natAbs ≤ Nat.pow 2 63 := by omega
    simp only [Numeral.value?, whole, negative, decide_true, bounds, List.isEmpty_nil,
      Option.isNone_none, Bool.and_self, beq_self_eq_true, if_true, Bool.not_true,
      Bool.false_eq_true, if_false, and_self]
    congr 2
    omega
  · simp only [Numeral.value?, whole, negative, decide_false, List.isEmpty_nil,
      Option.isNone_none, Bool.and_self, beq_self_eq_true, if_true, Bool.not_false]
    congr 2
    omega

/-- An integer that is read back as an integer is read back as itself. -/
theorem eq_of_reread?_integer {value other : Int}
    (read : (integer value).reread? = some (integer other)) : other = value := by
  have alone := take?_integer_chars value [] stops_nil
  rw [List.append_nil] at alone
  rw [reread?, alone, Option.bind_some] at read
  have whole := @Numeral.fst_continueSignificand (decimalDigits value.natAbs) 0
  rw [show Nat.ofDigitChars 10 (decimalDigits value.natAbs) 0 = value.natAbs from
    Nat.ofDigitChars_ten_toDigits] at whole
  simp only [Numeral.value?, List.isEmpty_nil, Option.isNone_none, Bool.and_self,
    Bool.true_and] at read
  generalize Numeral.continueSignificand 0 _ = taken at whole read
  by_cases complete : taken.2 = 0
  · rw [if_pos (beq_iff_eq.2 complete), whole complete] at read
    by_cases negative : value < 0
    · simp only [negative, decide_true, Bool.not_true, Bool.false_eq_true, if_false] at read
      split at read
      · cases read
        omega
      · exact absurd read (Numeral.real?_ne_integer _ _ _ _)
    · simp only [negative, decide_false, Bool.not_false, if_true] at read
      cases read
      omega
  · rw [if_neg (by simpa using complete)] at read
    exact absurd read (Numeral.real?_ne_integer _ _ _ _)

end Number

end RecordAccess
