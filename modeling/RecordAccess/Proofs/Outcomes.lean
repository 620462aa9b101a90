import Mathlib.Data.List.Forall2

/-!
# Outcomes

Work that delivers a value or ends with an error, put together from parts: what a success of the
whole says of its parts, and which of several faults the whole ends with.
-/

namespace RecordAccess

/-! ## Successes -/

section Successes

variable {α β ε ε' : Type} {outcome : Except ε α}

/-- Work in two parts has succeeded only if both have. -/
theorem exists_of_bind_eq_ok {f : α → Except ε β} {result : β}
    (succeeded : outcome >>= f = .ok result) : ∃ value, outcome = .ok value ∧ f value = .ok result := by
  cases outcome with
  | error error => cases succeeded
  | ok value => exact ⟨value, rfl, succeeded⟩

/-- Another wording of the errors does not matter to what succeeds. -/
theorem ok_of_mapError {f : ε → ε'} {value : α} (succeeded : outcome.mapError f = .ok value) :
    outcome = .ok value := by
  cases outcome with
  | error error => cases succeeded
  | ok _ => exact congrArg _ (Except.ok.inj succeeded)

variable {attempt : α → Except ε β} {items : List α} {results : List β}

/-- What a list of attempts has delivered is what each of them has. -/
theorem forall₂_of_mapM (delivered : items.mapM attempt = .ok results) :
    List.Forall₂ (fun item result => attempt item = .ok result) items results := by
  induction items generalizing results with
  | nil =>
    cases delivered
    exact .nil
  | cons item rest ih =>
    rw [List.mapM_cons] at delivered
    obtain ⟨head, first, delivered⟩ := exists_of_bind_eq_ok delivered
    obtain ⟨tail, others, delivered⟩ := exists_of_bind_eq_ok delivered
    cases delivered
    exact .cons first (ih others)

/-- A list of attempts comes to the same for other items that are each attempted with the same
outcome. -/
theorem mapM_map_congr {attempt : α → Except ε β} {change : α → α} {items : List α}
    (same : ∀ item ∈ items, attempt (change item) = attempt item) :
    (items.map change).mapM attempt = items.mapM attempt := by
  induction items with
  | nil => rfl
  | cons item rest ih =>
    obtain ⟨first, others⟩ := List.forall_mem_cons.1 same
    rw [List.map_cons, List.mapM_cons, List.mapM_cons, first, ih others]

end Successes

/-! ## Lists that correspond -/

section Correspondence

variable {α β : Type} {R : α → β → Prop} {p : β → Bool} {P : α → Prop} {items : List α}
  {results : List β}

/-- A result corresponds to one of the items. -/
theorem exists_of_forall₂ {result : β} (related : List.Forall₂ R items results)
    (member : result ∈ results) : ∃ item ∈ items, R item result := by
  induction related with
  | nil => cases member
  | cons first _ ih =>
    rcases List.mem_cons.1 member with rfl | later
    · exact ⟨_, List.mem_cons_self .., first⟩
    · obtain ⟨item, among, found⟩ := ih later
      exact ⟨item, List.mem_cons_of_mem _ among, found⟩

/-- A test that passes exactly for what corresponds to a wanted item passes for one of the results
exactly when one of the items is wanted. -/
theorem any_of_forall₂ (related : List.Forall₂ R items results)
    (decides : ∀ item result, R item result → (p result = true ↔ P item)) :
    results.any p = true ↔ ∃ item ∈ items, P item := by
  induction related with
  | nil => simp
  | cons first _ ih => simp [decides _ _ first, ih]

theorem all_of_forall₂ (related : List.Forall₂ R items results)
    (decides : ∀ item result, R item result → (p result = true ↔ P item)) :
    results.all p = true ↔ ∀ item ∈ items, P item := by
  induction related with
  | nil => simp
  | cons first _ ih => simp [decides _ _ first, ih]

/-- What is put together from the results is put together from the items, when each result gives what
its item does. -/
theorem flatMap_eq_of_forall₂ {γ : Type} {f : β → List γ} {g : α → List γ}
    (related : List.Forall₂ R items results)
    (each : ∀ item result, R item result → f result = g item) :
    results.flatMap f = items.flatMap g := by
  induction related with
  | nil => rfl
  | cons first _ ih => rw [List.flatMap_cons, List.flatMap_cons, each _ _ first, ih]

/-- Results of two lists of items show the same, when those of corresponding items do. -/
theorem map_eq_of_forall₂ {γ : Type} {S : α → α → Prop} {shown : β → γ} {others : List α}
    {otherResults : List β} (corresponding : List.Forall₂ S items others)
    (related : List.Forall₂ R items results) (otherRelated : List.Forall₂ R others otherResults)
    (each : ∀ item other result otherResult, S item other → R item result →
      R other otherResult → shown result = shown otherResult) :
    results.map shown = otherResults.map shown := by
  induction corresponding generalizing results otherResults with
  | nil =>
    cases related
    cases otherRelated
    rfl
  | cons same _ ih =>
    obtain ⟨result, results, first, rest, rfl⟩ := List.forall₂_cons_left_iff.1 related
    obtain ⟨otherResult, otherResults, otherFirst, otherRest, rfl⟩ :=
      List.forall₂_cons_left_iff.1 otherRelated
    rw [List.map_cons, List.map_cons, each _ _ _ _ same first otherFirst, ih rest otherRest]

/-- What a list of attempts has delivered was delivered by one of them. -/
theorem exists_of_mapM {ε : Type} {attempt : α → Except ε β} {result : β}
    (delivered : items.mapM attempt = .ok results) (member : result ∈ results) :
    ∃ item ∈ items, attempt item = .ok result :=
  exists_of_forall₂ (R := fun item result => attempt item = .ok result) (forall₂_of_mapM delivered)
    member

end Correspondence

/-! ## Reported faults -/

section Reports

variable {α β ε : Type} {outcome : Except ε α} {faults others : List ε}

/-- An outcome is a success if there are no faults, and else the first of them. -/
def Reports (outcome : Except ε α) (faults : List ε) : Prop :=
  match outcome with
  | .ok _ => faults = []
  | .error error => faults.head? = some error

theorem Reports.ok_iff (reports : Reports outcome faults) :
    (∃ value, outcome = .ok value) ↔ faults = [] := by
  cases outcome with
  | ok value => exact ⟨fun _ => reports, fun _ => ⟨value, rfl⟩⟩
  | error error =>
    change faults.head? = some error at reports
    constructor
    · rintro ⟨value, impossible⟩
      cases impossible
    · intro none
      rw [none] at reports
      cases reports

theorem Reports.error_iff (reports : Reports outcome faults) (error : ε) :
    outcome = .error error ↔ faults.head? = some error := by
  cases outcome with
  | ok value =>
    change faults = [] at reports
    rw [reports]
    constructor <;> intro impossible <;> cases impossible
  | error first =>
    change faults.head? = some first at reports
    rw [reports]
    simp

/-- The faults of the first part come before those of the second. -/
theorem Reports.bind {f : α → Except ε β} (first : Reports outcome faults)
    (second : ∀ value, outcome = .ok value → Reports (f value) others) :
    Reports (outcome >>= f) (faults ++ others) := by
  cases outcome with
  | ok value =>
    change faults = [] at first
    rw [first]
    exact second value rfl
  | error error =>
    change faults.head? = some error at first
    change (faults ++ others).head? = some error
    rw [List.head?_append, first]
    rfl

theorem Reports.map {f : α → β} (reports : Reports outcome faults) :
    Reports (outcome >>= fun value => .ok (f value)) faults := by
  cases outcome with
  | ok value => exact reports
  | error error => exact reports

/-- Of a list, the faults of each part come before those of the later ones. -/
theorem reports_mapM {attempt : α → Except ε β} {faultsOf : α → List ε}
    (each : ∀ item, Reports (attempt item) (faultsOf item)) (items : List α) :
    Reports (items.mapM attempt) (items.flatMap faultsOf) := by
  induction items with
  | nil => rfl
  | cons item rest ih =>
    rw [List.mapM_cons, List.flatMap_cons]
    exact (each item).bind fun _ _ => ih.map

end Reports

end RecordAccess
