import RecordAccess.Proofs.Framing

/-!
# Records that share a key

The key of a record spells its kind and its id with a colon between them. Nothing keeps a colon out of
a kind or an id, so two records share a key when they overlap: when the kind of one runs on with a colon
and a part of the id of the other (`Record.cacheKey_eq_iff`). What is then cached of one of them is
answered for the other, with the permission that the kind of the other gives it by default.

Records that do not overlap are isolated from each other at every service, and no others are
(`Service.isolates_iff`).
-/

namespace RecordAccess

open Service

/-! ## Keys -/

/-- The kind of one record is that of the other with a colon and a part behind it, and the id of the
other begins with this part and a colon. -/
def Record.Overlaps (kind id other otherId : String) : Prop :=
  ∃ part, (other = kind ++ ":" ++ part ∧ id = part ++ ":" ++ otherId) ∨
    (kind = other ++ ":" ++ part ∧ otherId = part ++ ":" ++ id)

/-- Where two keys are the same, either the kinds end at the same colon, or one of them runs over the
colon behind the other. -/
theorem Record.cacheKey_eq_iff {kind id other otherId : String} :
    Record.cacheKey kind id = Record.cacheKey other otherId ↔
      (kind = other ∧ id = otherId) ∨ Record.Overlaps kind id other otherId := by
  constructor
  · intro same
    have letters : kind.toList ++ ':' :: id.toList = other.toList ++ ':' :: otherId.toList := by
      simpa [cacheKey, String.toList_append] using congrArg String.toList same
    rcases List.append_eq_append_iff.1 letters with ⟨more, longer, rest⟩ | ⟨more, longer, rest⟩
    · cases more with
      | nil =>
        refine .inl ⟨String.ext (by simpa using longer.symm), String.ext ?_⟩
        exact (List.cons.inj rest).2
      | cons first part =>
        obtain ⟨rfl, rest⟩ := List.cons.inj rest
        refine .inr ⟨String.ofList part, .inl ⟨String.ext ?_, String.ext ?_⟩⟩
        · simpa using longer
        · simpa using rest
    · cases more with
      | nil =>
        refine .inl ⟨String.ext (by simpa using longer), String.ext ?_⟩
        exact (List.cons.inj rest).2.symm
      | cons first part =>
        obtain ⟨rfl, rest⟩ := List.cons.inj rest
        refine .inr ⟨String.ofList part, .inr ⟨String.ext ?_, String.ext ?_⟩⟩
        · simpa using longer
        · simpa using rest
  · rintro (⟨rfl, rfl⟩ | ⟨part, ⟨rfl, rfl⟩ | ⟨rfl, rfl⟩⟩)
    · rfl
    · simp only [cacheKey, String.append_assoc]
    · simp only [cacheKey, String.append_assoc]

/-- Records that overlap are of different kinds. -/
theorem Record.Overlaps.kind_ne {kind id other otherId : String}
    (overlaps : Record.Overlaps kind id other otherId) : kind ≠ other := by
  rintro rfl
  obtain ⟨part, longer⟩ : ∃ part, kind = kind ++ ":" ++ part := by
    obtain ⟨part, ⟨longer, -⟩ | ⟨longer, -⟩⟩ := overlaps <;> exact ⟨part, longer⟩
  have lengths := congrArg String.length longer
  rw [String.length_append, String.length_append] at lengths
  have one : ":".length = 1 := rfl
  omega

/-! ## What a create leaves in the cache -/

namespace Backend

variable {clock : Nat → Nat} {service : Service} {backend : Backend} {kind : String}

/-- Work goes on with what a part of it answers that does not fail. -/
theorem run_storing_bind {α β : Type} {program : Program (Except StoreError α)} {f : α → Work β}
    {value : α} (succeeded : (program.run (answer clock) backend).1 = .ok value) :
    Program.run (answer clock) (storing program >>= f).run backend =
      Program.run (answer clock) (f value).run (program.run (answer clock) backend).2 := by
  rw [storing_bind, Program.run_bind, succeeded]

/-- A create of a kind without revisions writes the text of what it has created to an open cache. -/
theorem cache_run_handle_create (clock : Nat → Nat) (backend : Backend) {caller : Option Principal}
    {body : Json} {schema : Schema} {payload created : Record}
    (granted : service.registry.authorize kind .create = .ok schema)
    (decoded : decodePayload body = .ok payload)
    (allowed : canPerform schema.defaultPermission caller .write = .ok ())
    (stored : (backend.store.create schema payload).1 = .ok created)
    (plain : schema.revisioned = false) (enabled : service.aside.enabled = true)
    (isOpen : backend.cache.closed = false) :
    (Program.run (answer clock) (service.handle caller (.create kind body)) backend).2.cache =
      backend.cache.write (clock (backend.calls + 1)) (Record.cacheKey schema.kind created.id)
        created.text := by
  have begun : (service.create caller kind body).run =
      ExceptT.run (storing (Program.askStore (.create schema payload)) >>= fun created =>
        caching (service.aside.onCreateOrUpdate schema created) >>= fun _ => pure created) := by
    unfold Service.create
    rw [granted, decoded]
    show ExceptT.run (decided ((canPerform schema.defaultPermission caller .write).mapError _) >>=
      fun _ => _) = _
    rw [allowed]
    rfl
  have answered : (Program.run (answer clock) (Program.askStore (.create schema payload)) backend).1 =
      .ok created := stored
  have ran : Program.run (answer clock) (service.create caller kind body).run backend =
      Program.run (answer clock) (ExceptT.run
          (caching (service.aside.onCreateOrUpdate schema created) >>= fun _ => pure created))
        (answer clock (.store (.create schema payload)) backend).2 :=
    (congrArg (fun work => Program.run (answer clock) work backend) begun).trans
      (run_storing_bind answered)
  have refreshes : service.aside.onCreateOrUpdate schema created =
      .call (.cache (.set (Record.cacheKey schema.kind created.id) created.text))
        fun _ => .done () := by
    simp only [CacheAside.onCreateOrUpdate, plain, CacheAside.put_eq, enabled, ↓reduceIte,
      Bool.false_eq_true]
  rw [handle_eq_of_map rfl, Program.run_bind]
  show (Program.run (answer clock) (service.create caller kind body).run backend).2.cache = _
  rw [ran, refreshes]
  show (backend.cache.answer (clock (backend.calls + 1)) (.set _ _)).2 = _
  rw [Cache.answer_of_isOpen isOpen]
  rfl

end Backend

/-! ## Isolation -/

/-- Requests for one record do not change what a read of another answers: at any time, it answers as
if they had not been made. -/
def Service.Isolates (service : Service) (kind id other otherId : String) : Prop :=
  ∀ (clock : Nat → Nat) (now : Nat) (backend : Backend) (requests : List (Option Principal × Request))
    (caller : Option Principal), (∀ entry ∈ requests, entry.2.IsOn service other otherId) →
    (Program.run (Backend.answer fun _ => now) (service.handle caller (.read kind id))
        (backend.after clock service requests)).1 =
      (Program.run (Backend.answer fun _ => now) (service.handle caller (.read kind id)) backend).1

namespace Service

variable {service : Service} {kind id other otherId : String}

/-- Records with different keys are isolated from each other. -/
theorem isolates_of_cacheKey_ne (built : service.registry.IsBuilt) (named : otherId ≠ "")
    (apart : Record.cacheKey other otherId ≠ Record.cacheKey kind id) :
    service.Isolates kind id other otherId := by
  intro clock now backend requests caller own
  rw [Backend.run_handle_read, Backend.run_handle_read]
  refine congrArg _ (Backend.readAnswer_congr fun schema granted => ?_)
  obtain rfl := built.kind_eq granted
  exact (Backend.sameAt_after built apart named own backend).fetched_eq service.aside now

/-- A service at which two kinds are registered, beside a cache. -/
def ofKinds (first second : Schema) : Service :=
  ⟨(Registry.empty.register ⟨first, .all⟩).register ⟨second, .all⟩, ⟨true⟩⟩

theorem isBuilt_ofKinds (first second : Schema) : (ofKinds first second).registry.IsBuilt :=
  ⟨[⟨first, .all⟩, ⟨second, .all⟩], rfl⟩

theorem authorize_first (first second : Schema) (different : first.kind ≠ second.kind)
    (operation : Operation) :
    (ofKinds first second).registry.authorize first.kind operation = .ok first := by
  have known : (ofKinds first second).registry.get? first.kind = some ⟨first, .all⟩ := by
    simp [ofKinds, Registry.get?, Registry.register, Keyed.find?_insert_of_ne _ _ different.symm]
  rw [Registry.authorize_eq, known]
  cases operation <;> rfl

theorem authorize_second (first second : Schema) (operation : Operation) :
    (ofKinds first second).registry.authorize second.kind operation = .ok second := by
  have known : (ofKinds first second).registry.get? second.kind = some ⟨second, .all⟩ :=
    Keyed.find?_insert_self _ _ _
  rw [Registry.authorize_eq, known]
  cases operation <;> rfl

/-- Of two kinds beside a cache, what is created of the second is read as a record of the first where
the two overlap. -/
theorem not_isolates_of_overlaps (identified : id ≠ "") (named : otherId ≠ "")
    (overlaps : Record.Overlaps kind id other otherId) :
    ¬(ofKinds (.ofKind kind) (.ofKind other)).Isolates kind id other otherId := by
  intro isolates
  let body : Json := .object [("id", .string otherId)]
  have decoded : decodePayload body = .ok (.ofId otherId) := rfl
  have own : ∀ entry ∈ [((none : Option Principal), Request.create other body)],
      entry.2.IsOn (ofKinds (.ofKind kind) (.ofKind other)) other otherId :=
    List.forall_mem_singleton.2 (Request.isOn_create decoded rfl)
  have same := isolates (fun _ => 0) 0 ⟨.empty Store.uuid, .empty 0, 0⟩ _ none own
  have granted := authorize_first (.ofKind kind) (.ofKind other) overlaps.kind_ne .read
  have asked : requireId id = .ok () := by simp [requireId, identified]
  have stored : ((Store.empty Store.uuid).create (.ofKind other) (.ofId otherId)).1 =
      .ok (.ofId otherId) := by
    simp [Store.create, Store.empty, Store.rows, Rows.find?, Record.ofId, named, Record.initial,
      Schema.ofKind, Schema.retainColumns, Keyed.ofList, Keyed.insertAll]
  have cached : (Backend.after (fun _ => 0) (ofKinds (.ofKind kind) (.ofKind other))
      [(none, .create other body)] ⟨.empty Store.uuid, .empty 0, 0⟩).cache =
        (Cache.empty 0).write 0 (Record.cacheKey other otherId) (Record.ofId otherId).text :=
    Backend.cache_run_handle_create (fun _ => 0) ⟨.empty Store.uuid, .empty 0, 0⟩
      (authorize_second (.ofKind kind) (.ofKind other) .create) decoded rfl stored rfl rfl rfl
  rw [← Record.cacheKey_eq_iff.2 (.inr overlaps)] at cached
  have decodes : CacheAside.decodeEntry (Record.ofId otherId).text = .record (.ofId otherId) := by
    rw [CacheAside.decodeEntry_text]
    rfl
  have found := Backend.run_handle_read_of_live? (fun _ => 0) _ none granted asked rfl
    (by rw [cached]; rfl) (by rw [cached]; exact Cache.live?_write_self ..) decodes rfl
  have missing := Backend.run_handle_read_of_absent (fun _ => 0) ⟨.empty Store.uuid, .empty 0, 0⟩ none
    granted asked rfl rfl
  have statuses : 200 = 404 := congrArg Response.status ((found.symm.trans same).trans missing)
  omega

/-- Two different records are isolated from each other at every service exactly when the cache keeps
them under different keys, and that is when they do not overlap. -/
theorem isolates_iff (identified : id ≠ "") (named : otherId ≠ "")
    (different : (kind, id) ≠ (other, otherId)) :
    ((∀ service : Service, service.registry.IsBuilt → service.Isolates kind id other otherId) ↔
      Record.cacheKey kind id ≠ Record.cacheKey other otherId) ∧
    (Record.cacheKey kind id ≠ Record.cacheKey other otherId ↔
      ¬Record.Overlaps kind id other otherId) := by
  have shared : Record.cacheKey kind id = Record.cacheKey other otherId ↔
      Record.Overlaps kind id other otherId := by
    rw [Record.cacheKey_eq_iff, or_iff_right]
    rintro ⟨rfl, rfl⟩
    exact different rfl
  refine ⟨⟨fun isolated same => ?_, fun apart service built => ?_⟩, not_congr shared⟩
  · exact not_isolates_of_overlaps identified named (shared.1 same) (isolated _ (isBuilt_ofKinds _ _))
  · exact isolates_of_cacheKey_ne built named apart.symm

/-- The second of two notes is created, looked for by its id, renamed and deleted. -/
def secondNote : List (Option Principal × Request) :=
  [(none, .create "note" (.object [("id", .string "2"), ("title", .string "a")])),
    (none, .query "note" (.object [("where", .array [.object [("key", .string "id"),
      ("op", .string "="), ("val", .string "2")]])])),
    (none, .update "note" "2" (.object [("title", .string "b"), ("revision", .integer 1)])),
    (none, .delete "note" "2")]

theorem isOn_secondNote : ∀ entry ∈ secondNote, entry.2.IsOn .notes "note" "2" := by
  intro entry member
  simp only [secondNote, List.mem_cons, List.not_mem_nil, or_false] at member
  rcases member with rfl | rfl | rfl | rfl
  · exact Request.isOn_create rfl rfl
  · refine ⟨rfl, fun expression schema filter record decoded granted compiled accepted => ?_⟩
    cases decoded
    cases granted
    have sole : filter.predicate = ⟨[⟨[⟨"id", .equal, .string "2"⟩]⟩]⟩ := by
      cases compiled
      rfl
    simp only [sole, Predicate.accepts, Clause.accepts, List.all_cons, List.any_cons, List.all_nil,
      List.any_nil, Bool.and_true, Bool.or_false] at accepted
    have apart : Schema.revisionColumn ≠ Schema.note.idColumn := by decide
    exact Record.id_of_accepts apart accepted
  · exact ⟨rfl, rfl⟩
  · exact ⟨rfl, rfl⟩

theorem isolates_iff_secondNote :
    (∀ entry ∈ secondNote, entry.2.IsOn .notes "note" "2") ∧
    Service.notes.Isolates "note" "1" "note" "2" := by
  have apart : Record.cacheKey "note" "1" ≠ Record.cacheKey "note" "2" := by decide
  have different : ("note", "1") ≠ ("note", "2") := by decide
  obtain ⟨isolated_iff, -⟩ := isolates_iff (by decide) (by decide) different
  exact ⟨isOn_secondNote, isolated_iff.2 apart .notes isBuilt_notes⟩

/-- The service at which two kinds are registered, of which the one extends the name of the other. Its
records are for administrators unless they have a permission of their own. -/
def nestedKinds : Service :=
  ofKinds ((Schema.ofKind "a").addColumn "title")
    (((Schema.ofKind "a:b").addColumn "title").withDefaultPermission (.restrictedTo ["admin"]))

/-- An administrator creates a record of the longer kind. -/
def nestedSecret : List (Option Principal × Request) :=
  [(some ((Principal.bare "u").withRole "admin"),
    .create "a:b" (.object [("id", .string "c"), ("title", .string "secret")]))]

/-- There is no record of the shorter kind. When the secret has been created, an anonymous caller
reads it as one of that kind, and may not read it as what it is. -/
theorem not_isolates_nestedSecret :
    Record.cacheKey "a" "b:c" = Record.cacheKey "a:b" "c" ∧
    (∀ entry ∈ nestedSecret, entry.2.IsOn nestedKinds "a:b" "c") ∧
    (Program.run (Backend.answer fun _ => 0) (nestedKinds.handle none (.read "a" "b:c"))
      ⟨.empty Store.uuid, .empty 0, 0⟩).1 = .ofError (.ofStore (.notFound "a" "b:c")) ∧
    (Program.run (Backend.answer fun _ => 0) (nestedKinds.handle none (.read "a" "b:c"))
      (Backend.after (fun _ => 0) nestedKinds nestedSecret ⟨.empty Store.uuid, .empty 0, 0⟩)).1 =
        .ok (.object [("id", .string "c"), ("title", .string "secret")]) ∧
    (Program.run (Backend.answer fun _ => 0) (nestedKinds.handle none (.read "a:b" "c"))
      (Backend.after (fun _ => 0) nestedKinds nestedSecret ⟨.empty Store.uuid, .empty 0, 0⟩)).1 =
        .ofError .permissionDenied ∧
    ¬nestedKinds.Isolates "a" "b:c" "a:b" "c" := by
  let secret : Record := ⟨"c", none, 0, [("title", .string "secret")]⟩
  let after := Backend.after (fun _ => 0) nestedKinds nestedSecret ⟨.empty Store.uuid, .empty 0, 0⟩
  have own : ∀ entry ∈ nestedSecret, entry.2.IsOn nestedKinds "a:b" "c" :=
    List.forall_mem_singleton.2 (Request.isOn_create rfl rfl)
  have cached : after.cache = (Cache.empty 0).write 0 "a:b:c" secret.text := rfl
  have held : after.cache.live? 0 "a:b:c" = some secret.text := by
    rw [cached]
    exact Cache.live?_write_self ..
  have decodes : CacheAside.decodeEntry secret.text = .record secret := by
    rw [CacheAside.decodeEntry_text]
    rfl
  have granted : nestedKinds.registry.authorize "a" .read =
      .ok ((Schema.ofKind "a").addColumn "title") := rfl
  have missing := Backend.run_handle_read_of_absent (fun _ => 0) ⟨.empty Store.uuid, .empty 0, 0⟩ none
    granted (show requireId "b:c" = .ok () from rfl) rfl rfl
  have found := Backend.run_handle_read_of_live? (fun _ => 0) after none granted
    (show requireId "b:c" = .ok () from rfl) rfl (by rw [cached]; rfl) held decodes rfl
  refine ⟨by decide, own, missing, found, ?_, fun isolates => ?_⟩
  · have told : after.lookup (fun _ => 0) nestedKinds.aside "a:b:c" = .record secret :=
      (Backend.lookup_of_live? rfl (by rw [cached]; rfl) held).trans decodes
    have granted : nestedKinds.registry.authorize "a:b" .read =
        .ok (((Schema.ofKind "a:b").addColumn "title").withDefaultPermission
          (.restrictedTo ["admin"])) := rfl
    rw [Backend.run_handle_read, Backend.readAnswer_of_granted granted rfl,
      Backend.fetched_of_lookup told]
    rfl
  · have same := isolates (fun _ => 0) 0 ⟨.empty Store.uuid, .empty 0, 0⟩ nestedSecret none own
    have statuses : 200 = 404 := congrArg Response.status ((found.symm.trans same).trans missing)
    omega

end Service

end RecordAccess
