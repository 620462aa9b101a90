import RecordAccess.Proofs.Json.Nesting
import RecordAccess.Proofs.Rejections

/-!
# Filters as values and as texts

The body of a query is a filter as a value, or a text that holds one. Which of the two it is makes no
difference (`Service.query_text`): a value and its text are decoded to one expression, or both queries are
answered as malformed. Null and texts are no such values. Null as a body asks for everything and its text
is no filter, and a text as a body is already the text of another value.

Only the wording of a refusal depends on the form. An array with more elements than an item has fields
is a fault of the item in a value, and a fault of the text in a text.
-/

namespace RecordAccess

/-- The text of a value has something in it. -/
theorem Json.isAllBlank_text (value : Json) : Text.isAllBlank value.text = false := by
  -- The first character is no blank, whatever the value is.
  suffices starts : ∃ c rest, value.tokens.flatMap Token.chars = c :: rest ∧ Text.isBlank c = false by
    obtain ⟨c, rest, same, visible⟩ := starts
    rw [Text.isAllBlank, text, String.toList_ofList, same, List.all_cons, visible, Bool.false_and]
  cases value with
  | null => exact ⟨'n', _, rfl, by decide⟩
  | bool flag =>
    cases flag with
    | true => exact ⟨'t', _, rfl, by decide⟩
    | false => exact ⟨'f', _, rfl, by decide⟩
  | string text => exact ⟨'"', _, rfl, by decide⟩
  | array items => exact ⟨'[', _, rfl, by decide⟩
  | object members => exact ⟨'\x7b', _, rfl, by decide⟩
  | number n =>
    obtain ⟨c, rest, same, start⟩ := n.exists_cons_chars
    refine ⟨c, rest, (List.append_nil _).trans same, ?_⟩
    rcases start with rfl | decimal
    · decide
    · exact Text.isBlank_of_isDigit decimal

namespace Service

variable {service : Service} {caller : Option Principal} {kind : String} {id : Option String}
  {value : Json}

/-! ## Bodies -/

/-- A value that is no text, and is there, is decoded as a filter. -/
theorem decodeFilter_of_value (notNull : value ≠ .null) (notText : ∀ text, value ≠ .string text) :
    decodeFilter (some value) = (FilterExpression.ofJson value).mapError .query := by
  cases value with
  | null => exact absurd rfl notNull
  | string text => exact absurd rfl (notText text)
  | _ => rfl

/-- The text of a value is read as a filter. -/
theorem decodeFilter_text (value : Json) :
    decodeFilter (some (.string value.text)) =
      (FilterExpression.ofText value.text).mapError .query := by
  rw [decodeFilter, value.isAllBlank_text, if_neg Bool.false_ne_true]

/-- A query depends on its body only by what the body decodes to. -/
theorem handle_query_congr {body other : Option Json} (same : decodeFilter body = decodeFilter other) :
    service.handle caller ⟨.query, kind, id, body⟩ =
      service.handle caller ⟨.query, kind, id, other⟩ := by
  unfold handle dispatch
  simp only [same]

/-- A query whose body does not decode is answered so at once. -/
theorem handle_of_decodeFilter_eq_error {body : Option Json} {schema : Schema} {error : ServiceError}
    (granted : service.registry.authorize kind .query = .ok schema)
    (refused : decodeFilter body = .error error) :
    service.handle caller ⟨.query, kind, id, body⟩ = .done (.ofError error) := by
  unfold handle dispatch
  simp only [granted, refused]
  rfl

/-! ## Malformed bodies -/

/-- A body is no filter. A query with it is answered so, without a call, wherever its kind may be
queried. -/
structure IsMalformedFilter (body : Json) : Prop where
  refused : ∃ cause, decodeFilter (some body) = .error (.query (.undecodable cause))
  answered : ∀ (service : Service) (caller : Option Principal) (kind : String) (id : Option String)
    (schema : Schema), service.registry.authorize kind .query = .ok schema →
      ∃ response, service.handle caller ⟨.query, kind, id, some body⟩ = .done response ∧
        response.code? = some "MALFORMED_FILTER"

theorem isMalformedFilter_of_eq_error {body : Json} {cause : DecodeError}
    (refused : decodeFilter (some body) = .error (.query (.undecodable cause))) :
    IsMalformedFilter body :=
  ⟨⟨cause, refused⟩, fun _ _ _ _ _ granted =>
    ⟨_, handle_of_decodeFilter_eq_error granted refused, Response.code?_ofError _⟩⟩

/-- A filter as a value and as a text are one filter: both bodies are decoded to the same expression,
and their queries do the same, or both are malformed. -/
theorem query_text (legible : value.IsLegible) (notNull : value ≠ .null)
    (notText : ∀ text, value ≠ .string text) :
    (∃ expression, decodeFilter (some value) = .ok expression ∧
      decodeFilter (some (.string value.text)) = .ok expression ∧
      ∀ (service : Service) (caller : Option Principal) (kind : String) (id : Option String),
        service.handle caller ⟨.query, kind, id, some (.string value.text)⟩ =
          service.handle caller ⟨.query, kind, id, some value⟩) ∨
    (IsMalformedFilter value ∧ IsMalformedFilter (.string value.text)) := by
  have asValue := decodeFilter_of_value notNull notText
  have asText := decodeFilter_text value
  unfold FilterExpression.ofJson at asValue
  unfold FilterExpression.ofText at asText
  rcases legible.ofText_agrees FilterExpression.decode with
    ⟨expression, decoded, read⟩ | ⟨cause, other, rejected, unread⟩
  · rw [decoded] at asValue
    rw [read] at asText
    exact .inl ⟨expression, asValue, asText, fun _ _ _ _ =>
      handle_query_congr (asText.trans asValue.symm)⟩
  · rw [rejected] at asValue
    rw [unread] at asText
    exact .inr ⟨isMalformedFilter_of_eq_error asValue, isMalformedFilter_of_eq_error asText⟩

/-- A query for the notes of rank 3, by title and then by rank. -/
def orderedBody : Json :=
  .object [("where", .array [.array [.string "rank", .string "=", .integer 3]]),
    ("order", .object [("title", .bool false), ("rank", .null)])]

/-- A query with an item of five elements, where an item has four fields. -/
def surplusBody : Json :=
  .object [("where", .array [.array [.string "rank", .string "=", .integer 3, .null, .null]])]

/-- An order keeps its sequence in both forms, and one element too many is malformed in both. -/
theorem query_text_orderedBody_surplusBody :
    (∃ expression, decodeFilter (some orderedBody) = .ok expression ∧
      decodeFilter (some (.string orderedBody.text)) = .ok expression ∧
      expression.order = [⟨"title", false⟩, ⟨"rank", false⟩]) ∧
    IsMalformedFilter surplusBody ∧ IsMalformedFilter (.string surplusBody.text) := by
  have three : (Number.integer 3).IsInteger := ⟨3, rfl, by decide, by decide⟩
  constructor
  · have legible : orderedBody.IsLegible := by
      refine ⟨?_, by decide⟩
      simp [orderedBody, Json.numbers, Json.itemNumbers, Json.memberNumbers, Json.integer, three]
    have decoded : ∃ expression, decodeFilter (some orderedBody) = .ok expression ∧
        expression.order = [⟨"title", false⟩, ⟨"rank", false⟩] := ⟨_, rfl, rfl⟩
    obtain ⟨known, found, order⟩ := decoded
    rcases query_text legible (by decide) (fun _ => Json.noConfusion) with
      ⟨expression, asValue, asText, -⟩ | ⟨malformed, -⟩
    · rw [found] at asValue
      cases asValue
      exact ⟨known, found, asText, order⟩
    · obtain ⟨cause, refused⟩ := malformed.refused
      rw [found] at refused
      cases refused
  · have legible : surplusBody.IsLegible := by
      refine ⟨?_, by decide⟩
      simp [surplusBody, Json.numbers, Json.itemNumbers, Json.memberNumbers, Json.integer, three]
    have refused : decodeFilter (some surplusBody) =
        .error (.query (.undecodable (.tooManyElements 5))) := by
      rfl
    rcases query_text legible (by decide) (fun _ => Json.noConfusion) with
      ⟨expression, asValue, -⟩ | malformed
    · rw [refused] at asValue
      cases asValue
    · exact malformed

end Service

end RecordAccess
