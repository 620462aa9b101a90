import RecordAccess.Proofs.Backend
import RecordAccess.Proofs.Permits
import RecordAccess.Proofs.Stages.Parts

/-!
# What a query shows

A query selects records, loads the relations that are asked for into them, and then drops the records
that the caller may not read. The records that were loaded along are not looked at: the array of a
relation holds every stored record that belongs to the result, whatever its own permission says. So
all that a query shows may be read by its caller exactly when nothing secret belongs to a result by a
relation that is asked for (`Service.confidential_iff`); in particular if none is.
-/

namespace RecordAccess

/-! ## Relations -/

namespace Store

variable {store : Store} {schema : Schema} {relations : List Relation} {relation : Relation}
  {record parent other : Record}

/-- The stored records that belong to a parent by a relation. -/
def related (store : Store) (relation : Relation) (parent : Record) : List Record :=
  (store.rows relation.kind).filter (isRelated relation parent)

/-- A record with relations loaded into it, one after another. -/
def loadAll (store : Store) (relations : List Relation) (record : Record) : Record :=
  relations.foldl (fun record relation => store.load relation record) record

theorem loadAll_snoc (relations : List Relation) (relation : Relation) (record : Record) :
    store.loadAll (relations ++ [relation]) record =
      store.load relation (store.loadAll relations record) :=
  List.foldl_append

/-- What belongs to a record depends on its id alone. -/
theorem related_congr (same : parent.id = other.id) :
    store.related relation parent = store.related relation other := by
  unfold related isRelated
  rw [same]

theorem id_loadAll (store : Store) (relations : List Relation) (record : Record) :
    (store.loadAll relations record).id = record.id := by
  induction relations using List.reverseRecOn with
  | nil => rfl
  | append_singleton relations relation ih =>
    rw [loadAll_snoc]
    exact ih

/-- Two entries that are the first of their list with a name of some form are the same entry if they
have the same name. -/
theorem eq_of_find?_name {all : List Relation} {p q : String → Bool} {one two : Relation}
    (first : all.find? (fun relation => p relation.name) = some one)
    (second : all.find? (fun relation => q relation.name) = some two)
    (same : one.name = two.name) : one = two := by
  have fits := List.find?_some first
  have also := List.find?_some second
  induction all with
  | nil => cases first
  | cons head rest ih =>
    rw [List.find?_cons] at first second
    cases here : p head.name <;> cases there : q head.name <;>
      simp only [here, there] at first second
    · exact ih first second
    · cases second
      rw [same, here] at fits
      cases fits
    · cases first
      rw [← same, there] at also
      cases also
    · exact (Option.some.inj first).symm.trans (Option.some.inj second)

/-- A name leads to one relation only, however it was spelled. -/
theorem relation?_unique {name otherName : String} {one two : Relation}
    (first : schema.relation? name = some one) (second : schema.relation? otherName = some two)
    (same : one.name = two.name) : one = two := by
  have found : ∀ {name found}, schema.relation? name = some found →
      ∃ p : String → Bool, schema.relations.find? (fun relation => p relation.name) = some found := by
    intro name found known
    simp only [Schema.relation?, Option.orElse_eq_orElse, Option.orElse_eq_or] at known
    rcases Option.or_eq_some_iff.1 known with exact | ⟨-, similar⟩
    · exact ⟨fun candidate => candidate = name, exact⟩
    · exact ⟨fun candidate => Text.equalIgnoringCase candidate name, similar⟩
  obtain ⟨p, one_found⟩ := found first
  obtain ⟨q, two_found⟩ := found second
  exact eq_of_find?_name one_found two_found same

/-- The relations of some names are relations of the schema. -/
theorem relation?_of_mem {names : List String}
    (resolved : Store.relations schema names = .ok relations) (member : relation ∈ relations) :
    ∃ name, schema.relation? name = some relation := by
  obtain ⟨name, -, found⟩ := exists_of_mapM resolved member
  refine ⟨name, ?_⟩
  split at found
  · next known =>
    cases found
    exact known
  · cases found

/-- Of the relations of some names, no two have the same name. -/
theorem eq_of_name_eq {names : List String}
    (resolved : Store.relations schema names = .ok relations) {one two : Relation}
    (first : one ∈ relations) (second : two ∈ relations) (same : one.name = two.name) : one = two := by
  obtain ⟨name, known⟩ := relation?_of_mem resolved first
  obtain ⟨other, alsoKnown⟩ := relation?_of_mem resolved second
  exact relation?_unique known alsoKnown same

/-- Each relation that was loaded is a field with all records that belong to the result. -/
theorem get?_loadAll
    (distinct : ∀ one ∈ relations, ∀ two ∈ relations, one.name = two.name → one = two)
    (member : relation ∈ relations) :
    (store.loadAll relations record).get? relation.name =
      some (.array ((store.related relation record).map Record.toJson)) := by
  induction relations using List.reverseRecOn with
  | nil => cases member
  | append_singleton relations last ih =>
    rw [loadAll_snoc]
    by_cases same : last.name = relation.name
    · obtain rfl := distinct last (by simp) relation member same
      rw [Record.get?, load, Record.withField, Keyed.find?_insert_self]
      change some (Json.array ((store.related last (store.loadAll relations record)).map _)) = _
      rw [related_congr (id_loadAll store relations record)]
    · rw [Record.get?, load, Record.withField, Keyed.find?_insert_of_ne _ _ same]
      refine ih (fun one first two second => distinct one ?_ two ?_) ?_
      · exact List.mem_append_left _ first
      · exact List.mem_append_left _ second
      · exact (List.mem_append.1 member).resolve_right fun only =>
          same (congrArg Relation.name (List.mem_singleton.1 only)).symm

end Store

/-! ## Queries -/

namespace Service

variable {service : Service} {caller : Option Principal} {kind : String}
  {expression : FilterExpression} {backend : Backend} {records : List Record}

/-- What a query answers, as a function of the store. -/
def queryAnswer (service : Service) (store : Store) (caller : Option Principal) (kind : String)
    (expression : FilterExpression) : Except ServiceError (List Record) := do
  let schema ← service.registry.authorize kind .query
  let filter ← (expression.compile schema.columns).mapError .query
  let records ← (store.findMany schema filter).mapError .ofStore
  return records.filter (isReadable schema caller)

/-- Whatever is cached of the records that are found, those that may be read are the answer. -/
theorem run_findReadable (service : Service) (clock : Nat → Nat) (backend : Backend)
    (caller : Option Principal) (schema : Schema) (filter : CompiledFilter) :
    (Program.run (Backend.answer clock) (ExceptT.run (do
      let records ← storing (Program.askStore (.findMany schema filter))
      caching (service.aside.onFetched schema filter records)
      return records.filter (isReadable schema caller))) backend).1 = (do
        let records ← (backend.store.findMany schema filter).mapError .ofStore
        return records.filter (isReadable schema caller)) := by
  rw [storing_bind, Program.run_bind, Backend.run_findMany]
  cases backend.store.findMany schema filter with
  | error error => rfl
  | ok records =>
    show (Program.run _ (((service.aside.onFetched schema filter records).bind _).bind _) _).1 = _
    rw [Program.bind_assoc, Program.run_bind]
    rfl

/-- Whatever is cached, a query is answered from the store. -/
theorem run_query (service : Service) (clock : Nat → Nat) (backend : Backend)
    (caller : Option Principal) (kind : String) (expression : FilterExpression) :
    ((service.query caller kind expression).run.run (Backend.answer clock) backend).1 =
      service.queryAnswer backend.store caller kind expression := by
  unfold query queryAnswer
  cases service.registry.authorize kind .query with
  | error error => rfl
  | ok schema =>
    change (Program.run (Backend.answer clock)
      (ExceptT.bind (decided ((expression.compile schema.columns).mapError .query)) _) backend).1 =
        Except.bind ((expression.compile schema.columns).mapError .query) _
    cases expression.compile schema.columns with
    | error error => rfl
    | ok filter =>
      exact run_findReadable service clock backend caller schema filter

/-- A query that is answered had a filter and relations to follow, and shows what may be read of what
the filter selects, with the relations loaded. -/
theorem exists_of_queryAnswer
    (answered : service.queryAnswer backend.store caller kind expression = .ok records) :
    ∃ schema filter relations, service.registry.authorize kind .query = .ok schema ∧
      expression.compile schema.columns = .ok filter ∧
      Store.relations schema filter.includes = .ok relations ∧
      records = ((backend.store.select schema filter).map (backend.store.loadAll relations)).filter
        (isReadable schema caller) := by
  obtain ⟨schema, granted, answered⟩ := exists_of_bind_eq_ok answered
  obtain ⟨filter, compiled, answered⟩ := exists_of_bind_eq_ok answered
  obtain ⟨loaded, found, shown⟩ := exists_of_bind_eq_ok answered
  obtain ⟨relations, resolved, selected⟩ := exists_of_bind_eq_ok (ok_of_mapError found)
  cases selected
  cases shown
  exact ⟨schema, filter, relations, granted, ok_of_mapError compiled, resolved, rfl⟩

end Service

/-! ## What is shown -/

/-- A record of a kind that an answer shows: as a result, or as one that was loaded into a result. -/
inductive Shown (store : Store) (kind : String) (relations : List Relation) (records : List Record) :
    String → Record → Prop where
  /-- A result, of the kind that was asked for. -/
  | result {record : Record} (member : record ∈ records) :
    Shown store kind relations records kind record
  /-- A record that belongs to a result, of the kind that the relation leads to. -/
  | loaded {record child : Record} {relation : Relation} (member : record ∈ records)
    (included : relation ∈ relations) (related : child ∈ store.related relation record) :
    Shown store kind relations records relation.kind child

/-- A caller may read all that is shown. -/
def Registry.IsConfidential (registry : Registry) (caller : Option Principal) (store : Store)
    (kind : String) (relations : List Relation) (records : List Record) : Prop :=
  ∀ shownKind record, Shown store kind relations records shownKind record →
    registry.Permits shownKind caller .read record

namespace Service

variable {service : Service} {caller : Option Principal} {kind : String}
  {expression : FilterExpression} {clock : Nat → Nat} {backend : Backend} {records : List Record}

/-- A query is answered with what its caller may read of what the filter selects. Into each result it
loads every stored record that belongs to it by a relation that is asked for, and the caller may read
all that is shown exactly if the caller may read each of those. -/
theorem confidential_iff (answered : ((service.query caller kind expression).run.run
      (Backend.answer clock) backend).1 = .ok records) :
    ∃ schema filter relations, service.registry.authorize kind .query = .ok schema ∧
      expression.compile schema.columns = .ok filter ∧
      Store.relations schema filter.includes = .ok relations ∧
      records = ((backend.store.select schema filter).map (backend.store.loadAll relations)).filter
        (isReadable schema caller) ∧
      (∀ record ∈ records, ∀ relation ∈ relations, record.get? relation.name =
        some (.array ((backend.store.related relation record).map Record.toJson))) ∧
      (service.registry.IsConfidential caller backend.store kind relations records ↔
        ∀ record ∈ records, ∀ relation ∈ relations,
          ∀ child ∈ backend.store.related relation record,
            service.registry.Permits relation.kind caller .read child) := by
  rw [run_query] at answered
  obtain ⟨schema, filter, relations, granted, compiled, resolved, rfl⟩ :=
    exists_of_queryAnswer answered
  refine ⟨schema, filter, relations, granted, compiled, resolved, rfl, ?_, ?_⟩
  · intro record member relation included
    obtain ⟨selected, -, rfl⟩ := List.mem_map.1 (List.mem_of_mem_filter member)
    rw [Store.get?_loadAll (fun one first two second => Store.eq_of_name_eq resolved first second)
      included, Store.related_congr (Store.id_loadAll backend.store relations selected)]
  · constructor
    · intro confidential record member relation included child related
      exact confidential _ _ (.loaded member included related)
    · intro readable shownKind record shown
      cases shown with
      | result member =>
        -- The results themselves have all passed the check.
        rw [Registry.permits_of_authorize granted, ← Schema.isReadable_eq_true]
        exact List.of_mem_filter member
      | loaded member included related => exact readable _ member _ included _ related

/-- The articles that a person wrote. -/
def authorship : Relation := ⟨"articles", "articles", "author_id"⟩

/-- People, each with the articles that they wrote. -/
def library : Service :=
  ⟨(Registry.empty.register
      ⟨((Schema.ofKind "users").addColumn "name").withRelation authorship, .all⟩).register
    ⟨(Schema.ofKind "articles").addColumn "author_id", .all⟩, ⟨false⟩⟩

/-- An article, with a permission. -/
def article (permission : Option Permission) : Record :=
  ⟨"a1", permission, 0, [("author_id", .string "u1")]⟩

/-- One person who wrote one article. -/
def oneArticle (permission : Option Permission) : Backend :=
  ⟨⟨[("users", [⟨"u1", none, 0, []⟩]), ("articles", [article permission])], ⟨0, 0, 0⟩, 0, Store.uuid⟩,
    .empty 0, 0⟩

/-- All people, with their articles. -/
def withArticles : FilterExpression := ⟨[], [], 0, 0, ["articles"]⟩

/-- The person, with the article. -/
def authorWith (permission : Option Permission) : Record :=
  ⟨"u1", none, 0, [("articles", .array [(article permission).toJson])]⟩

/-- All that is shown of a person who wrote an article for anyone may be read. -/
theorem isConfidential_article :
    ((library.query none "users" withArticles).run.run (Backend.answer id) (oneArticle none)).1 =
      .ok [authorWith none] ∧
    library.registry.IsConfidential none (oneArticle none).store "users" [authorship]
      [authorWith none] := by
  have answered : ((library.query none "users" withArticles).run.run (Backend.answer id)
      (oneArticle none)).1 = .ok [authorWith none] := by with_unfolding_all rfl
  obtain ⟨schema, filter, relations, granted, compiled, resolved, -, -, confidential⟩ :=
    confidential_iff answered
  cases granted
  cases compiled
  cases resolved
  refine ⟨answered, confidential.2 fun record _ relation included child related => ?_⟩
  cases List.mem_singleton.1 included
  cases List.mem_singleton.1 (List.mem_of_mem_filter related)
  rfl

/-- Anyone who asks for the people and their articles is shown an article that only admins may
read. -/
theorem not_isConfidential_article :
    ((library.query none "users" withArticles).run.run (Backend.answer id)
      (oneArticle (some (.restrictedTo ["admin"])))).1 =
        .ok [authorWith (some (.restrictedTo ["admin"]))] ∧
    ¬library.registry.IsConfidential none (oneArticle (some (.restrictedTo ["admin"]))).store "users"
      [authorship] [authorWith (some (.restrictedTo ["admin"]))] := by
  refine ⟨by with_unfolding_all rfl, fun confidential => ?_⟩
  have readable := confidential "articles" (article (some (.restrictedTo ["admin"])))
    (.loaded (List.mem_singleton_self _) (List.mem_singleton_self authorship)
      (by decide +kernel))
  cases readable

end Service

end RecordAccess
