import RecordAccess.Proofs.Json.Numerals

/-!
# Written tokens are read back

The characters of the tokens of a value are read as just these tokens (`Json.sequence_tokens`).
Only a number can come back as another: each number token is read as `Token.reread` tells.
-/

namespace RecordAccess.Json

namespace Token

/-! ## Strings -/

/-- Whether a text is the digits of a number of sixteen bits. -/
private def spells (n : Nat) : List Char → Bool
  | [a, b, c, d] => unit? a b c d == some n
  | _ => false

private theorem spells_fourHex : ∀ n < 0x20, spells n (fourHex n) = true := by
  decide

theorem unit?_fourHex {n : Nat} (control : n < 0x20) :
    ∃ a b c d, fourHex n = [a, b, c, d] ∧ unit? a b c d = some n := by
  have spelled := spells_fourHex n control
  unfold spells at spelled
  split at spelled
  · next a b c d same => exact ⟨a, b, c, d, same, by simpa using spelled⟩
  · cases spelled

/-- A character is read back, escaped or not. -/
theorem takeUnits?_escaped (c : Char) {cs rest : List Char} {units : List Nat}
    (taken : takeUnits? cs = some (units, rest)) :
    takeUnits? (escaped c ++ cs) = some (c.toNat :: units, rest) := by
  fun_cases escaped c with
  | case8 _ _ _ _ _ _ _ control =>
    obtain ⟨a, b, c', d, same, value⟩ := unit?_fourHex control
    simp [same, takeUnits?, value, taken]
  | case9 quote backslash _ _ _ _ _ printable =>
    simp only [beq_iff_eq] at quote backslash
    simp [takeUnits?, backslash, printable, taken]
  | case1 same => simp [eq_of_beq same, takeUnits?, shortEscape?, taken]
  | case2 _ same => simp [eq_of_beq same, takeUnits?, shortEscape?, taken]
  | case3 _ _ same => simp [eq_of_beq same, takeUnits?, shortEscape?, taken]
  | case4 _ _ _ same => simp [eq_of_beq same, takeUnits?, shortEscape?, taken]
  | case5 _ _ _ _ same => simp [eq_of_beq same, takeUnits?, shortEscape?, taken]
  | case6 _ _ _ _ _ same => simp [eq_of_beq same, takeUnits?, shortEscape?, taken]
  | case7 _ _ _ _ _ _ same => simp [eq_of_beq same, takeUnits?, shortEscape?, taken]

theorem takeUnits?_flatMap_escaped (cs rest : List Char) :
    takeUnits? (cs.flatMap escaped ++ '"' :: rest) = some (cs.map Char.toNat, rest) := by
  induction cs with
  | nil => rfl
  | cons c others ih =>
    rw [List.flatMap_cons, List.append_assoc]
    exact takeUnits?_escaped c ih

/-- No character is half of a pair. -/
theorem characters?_map_toNat (cs : List Char) : characters? (cs.map Char.toNat) = some cs := by
  induction cs with
  | nil => rfl
  | cons c rest ih =>
    have whole : isHighHalf c.toNat = false ∧ isLowHalf c.toNat = false := by
      have scalar : c.toNat < 0xd800 ∨ 0xdfff < c.toNat ∧ c.toNat < 0x110000 := c.valid
      simp only [isHighHalf, isLowHalf, Bool.and_eq_false_iff, decide_eq_false_iff_not]
      omega
    rw [List.map_cons, characters?.eq_def]
    simp [whole, ih]

/-! ## Single tokens -/

/-- What comes of a token that is written and read. -/
def reread : Token → Token
  | number (some n) => number n.reread?
  | token => token

/-- Whether a token shows by itself where it ends. A number does not. -/
def IsClosed : Token → Bool
  | number _ => false
  | string value => value.isSome
  | invalid => false
  | _ => true

theorem take?_of_number {c : Char} {cs : List Char} (start : c = '-' ∨ c.isDigit = true) :
    take? (c :: cs) =
      (Numeral.take? (c :: cs)).map fun taken => (number taken.1.value?, taken.2) := by
  unfold take?
  split
  case h_11 => rfl
  all_goals
    next same =>
      cases same
      exact absurd start (by decide)

theorem sequence_of_take? {c : Char} {cs after : List Char} {token : Token}
    (visible : isSpace c = false) (taken : take? (c :: cs) = some (token, after)) :
    sequence (c :: cs) = token :: sequence after := by
  rw [sequence.eq_def]
  simp only [visible, Bool.false_eq_true, if_false]
  split
  · next none_taken => rw [taken] at none_taken; cases none_taken
  · next some_taken =>
    rw [taken] at some_taken
    cases some_taken
    rfl

theorem isSpace_of_number {c : Char} (start : c = '-' ∨ c.isDigit = true) :
    isSpace c = false := by
  simp only [isSpace, Bool.or_eq_false_iff, beq_eq_false_iff_ne]
  refine ⟨⟨⟨?_, ?_⟩, ?_⟩, ?_⟩ <;> rintro rfl <;> exact absurd start (by decide)

/-- A token that shows where it ends is the first token of a text that starts with it. -/
theorem sequence_append {token : Token} (closed : token.IsClosed) (rest : List Char) :
    sequence (token.chars ++ rest) = token.reread :: sequence rest := by
  cases token with
  | invalid => cases closed
  | number value => cases closed
  | string value =>
    obtain ⟨text, rfl⟩ := Option.isSome_iff_exists.1 closed
    change sequence ('"' :: (text.toList.flatMap escaped ++ ['"'] ++ rest)) = _
    refine sequence_of_take? rfl ?_
    rw [List.append_assoc, List.singleton_append]
    change (takeUnits? _).map _ = _
    simp only [takeUnits?_flatMap_escaped, Option.map_some, characters?_map_toNat,
      String.ofList_toList, reread]
  | bool value =>
    cases value with
    | true => exact sequence_of_take? rfl rfl
    | false => exact sequence_of_take? rfl rfl
  | _ => exact sequence_of_take? rfl rfl

/-- A number is the first token of a text that starts with it and does not go on with it. -/
theorem sequence_number_append (n : Number) {rest : List Char} (stops : Stops rest) :
    sequence (n.chars ++ rest) = number n.reread? :: sequence rest := by
  obtain ⟨c, others, same, start⟩ := n.exists_cons_chars
  obtain ⟨numeral, value, taken⟩ := n.take?_reread
  have read := taken rest stops
  rw [same, List.cons_append] at read ⊢
  refine sequence_of_take? (isSpace_of_number start) ?_
  rw [take?_of_number start, read, Option.map_some, value]

end Token

/-! ## The tokens of a value -/

open Token (sequence reread)

theorem sequence_cons {token : Token} (closed : token.IsClosed) (others : List Token)
    (rest : List Char) :
    sequence ((token :: others).flatMap Token.chars ++ rest) =
      token.reread :: sequence (others.flatMap Token.chars ++ rest) := by
  rw [List.flatMap_cons, List.append_assoc]
  exact Token.sequence_append closed _

/-- What goes on with one of the marks after a value cannot be taken for more of a number. -/
theorem stops_of_mark {token : Token}
    (mark : token = .comma ∨ token = .closeArray ∨ token = .closeObject) (others : List Token)
    (rest : List Char) : Stops ((token :: others).flatMap Token.chars ++ rest) := by
  rcases mark with rfl | rfl | rfl <;>
    · intro c member
      cases member
      decide

/-- A value read where tokens follow it that begin with a mark. -/
theorem sequence_append_mark {value : List Token} {token : Token}
    (mark : token = .comma ∨ token = .closeArray ∨ token = .closeObject) {others : List Token}
    {rest : List Char}
    (read : ∀ rest, Stops rest →
      sequence (value.flatMap Token.chars ++ rest) = value.map reread ++ sequence rest) :
    sequence ((value ++ token :: others).flatMap Token.chars ++ rest) =
      value.map reread ++ token :: sequence (others.flatMap Token.chars ++ rest) := by
  rw [List.flatMap_append, List.append_assoc, read _ (stops_of_mark mark others rest)]
  congr 1
  rcases mark with rfl | rfl | rfl <;> exact sequence_cons rfl others rest

mutual

/-- The text of a value is read as its tokens, if nothing follows that could be more of a number. -/
theorem sequence_tokens (value : Json) (rest : List Char) (stops : Stops rest) :
    sequence (value.tokens.flatMap Token.chars ++ rest) =
      value.tokens.map reread ++ sequence rest := by
  cases value with
  | null => exact sequence_cons rfl [] rest
  | bool value => exact sequence_cons rfl [] rest
  | number value =>
    rw [tokens, List.flatMap_singleton]
    exact Token.sequence_number_append value stops
  | string value => exact sequence_cons rfl [] rest
  | array items =>
    rw [tokens, sequence_cons rfl, sequence_itemTokens items]
    rfl
  | object members =>
    rw [tokens, sequence_cons rfl, sequence_memberTokens members]
    rfl

theorem sequence_itemTokens (items : List Json) (rest : List Char) :
    sequence ((itemTokens items).flatMap Token.chars ++ rest) =
      (itemTokens items).map reread ++ sequence rest := by
  match items with
  | [] => exact sequence_cons rfl [] rest
  | [item] =>
    rw [itemTokens, sequence_append_mark (.inr (.inl rfl)) (sequence_tokens item)]
    simp [reread]
  | item :: next :: others =>
    rw [itemTokens, sequence_append_mark (.inl rfl) (sequence_tokens item),
      sequence_itemTokens (next :: others)]
    · simp [reread]
    · exact List.cons_ne_nil _ _

theorem sequence_memberTokens (members : List (String × Json)) (rest : List Char) :
    sequence ((memberTokens members).flatMap Token.chars ++ rest) =
      (memberTokens members).map reread ++ sequence rest := by
  match members with
  | [] => exact sequence_cons rfl [] rest
  | [(key, value)] =>
    rw [memberTokens, sequence_cons rfl, sequence_cons rfl,
      sequence_append_mark (.inr (.inr rfl)) (sequence_tokens value)]
    simp [reread]
  | (key, value) :: next :: others =>
    rw [memberTokens, sequence_cons rfl, sequence_cons rfl,
      sequence_append_mark (.inl rfl) (sequence_tokens value),
      sequence_memberTokens (next :: others)]
    · simp [reread]
    · exact List.cons_ne_nil _ _

end

/-- The tokens of a written value are those that it was written with, but for its numbers. -/
theorem sequence_text (value : Json) :
    sequence value.text.toList = value.tokens.map reread := by
  have read := sequence_tokens value [] stops_nil
  rw [List.append_nil] at read
  rw [text, String.toList_ofList, read]
  simp [Token.sequence]

end RecordAccess.Json
