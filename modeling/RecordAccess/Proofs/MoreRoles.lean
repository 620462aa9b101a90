import RecordAccess.Proofs.Confidentiality
import RecordAccess.Proofs.Effects
import RecordAccess.Proofs.Noninterference
import RecordAccess.Simulation.World

/-!
# More roles

A caller with more roles is never granted less: what is answered to a caller with success is answered
in the same way to one that holds the same roles and others, and has the same effect. Only a query may
show more to it, and that in addition to the rest and in the same order (`World.handle_of_holdsAll`).
This holds in every world, whatever is stored and cached in it, whichever calls of it are slow or fail
and when a request is given up.

Roles are looked at in checks only. So the work for the one caller makes the same calls as the work for
the other, until the one with fewer roles is refused (`Service.Grants`).
-/

namespace RecordAccess

/-! ## Checks -/

/-- A caller holds every role that another one holds. An anonymous caller holds none. -/
def HoldsAll (caller other : Option Principal) : Prop :=
  ∀ role ∈ rolesOf other, role ∈ rolesOf caller

instance (caller other : Option Principal) : Decidable (HoldsAll caller other) :=
  inferInstanceAs (Decidable (∀ role ∈ (rolesOf other).toList, role ∈ rolesOf caller))

section Checks

variable {caller other : Option Principal} {permission : Option Permission} {access : Access}
  {schema : Schema} {record : Record}

theorem canPerform_of_holdsAll (more : HoldsAll caller other)
    (permitted : canPerform permission other access = .ok ()) :
    canPerform permission caller access = .ok () := by
  cases permission with
  | none => rfl
  | some permission =>
    rw [canPerform] at permitted ⊢
    by_cases free : (permission.required access).isEmpty = true
    · exact if_pos free
    · rw [if_neg free] at permitted ⊢
      by_cases held : (permission.required access).intersects (rolesOf other) = true
      · obtain ⟨role, required, holds⟩ := RoleSet.intersects_iff.1 held
        exact if_pos (RoleSet.intersects_iff.2 ⟨role, required, more role holds⟩)
      · rw [if_neg held] at permitted
        cases permitted

theorem Schema.Permits.of_holdsAll (more : HoldsAll caller other)
    (permitted : schema.Permits other access record) : schema.Permits caller access record :=
  canPerform_of_holdsAll more permitted

theorem checkAccess_of_holdsAll (more : HoldsAll caller other)
    (passed : Service.checkAccess schema other access record = .ok ()) :
    Service.checkAccess schema caller access record = .ok () :=
  Schema.checkAccess_eq_ok.2 ((Schema.checkAccess_eq_ok.1 passed).of_holdsAll more)

end Checks

/-! ## Work that grants what other work grants -/

namespace Service

variable {α β γ : Type} {R : α → β → Prop}

/-- Work makes the same calls as other work, and has a related result where the other work has one.
Where the other work fails, it may do anything. -/
inductive Grants (R : α → β → Prop) :
    Program (Except ServiceError α) → Program (Except ServiceError β) → Prop
  | refused {error : ServiceError} {program : Program (Except ServiceError β)} :
      Grants R (.done (.error error)) program
  | granted {one : α} {two : β} (related : R one two) : Grants R (.done (.ok one)) (.done (.ok two))
  | call {next : Call} {resume : next.Reply → Program (Except ServiceError α)}
      {other : next.Reply → Program (Except ServiceError β)}
      (each : ∀ reply, Grants R (resume reply) (other reply)) :
      Grants R (.call next resume) (.call next other)

theorem Grants.bind {program : Program γ} {f : γ → Program (Except ServiceError α)}
    {g : γ → Program (Except ServiceError β)} (each : ∀ result, Grants R (f result) (g result)) :
    Grants R (program.bind f) (program.bind g) := by
  induction program with
  | done result => exact each result
  | call next resume ih => exact .call ih

/-- A check that passes on one side passes on the other. -/
theorem grants_decided {one two : Except ServiceError γ} {f : γ → Work α} {g : γ → Work β}
    (passes : ∀ value, one = .ok value → two = .ok value)
    (allowed : ∀ value, one = .ok value → Grants R (f value).run (g value).run) :
    Grants R (ExceptT.run (decided one >>= f)) (ExceptT.run (decided two >>= g)) := by
  cases one with
  | ok value =>
    rw [passes value rfl]
    exact allowed value rfl
  | error error => exact .refused

/-- The same decision on both sides. -/
theorem grants_same {outcome : Except ServiceError γ} {f : γ → Work α} {g : γ → Work β}
    (allowed : ∀ value, Grants R (f value).run (g value).run) :
    Grants R (ExceptT.run (decided outcome >>= f)) (ExceptT.run (decided outcome >>= g)) :=
  grants_decided (fun _ passed => passed) fun value _ => allowed value

theorem grants_storing {program : Program (Except StoreError γ)} {f : γ → Work α} {g : γ → Work β}
    (succeeded : ∀ value, Grants R (f value).run (g value).run) :
    Grants R (ExceptT.run (storing program >>= f)) (ExceptT.run (storing program >>= g)) := by
  rw [storing_bind, storing_bind]
  refine Grants.bind fun reply => ?_
  cases reply with
  | ok value => exact succeeded value
  | error error => exact .refused

theorem grants_caching {program : Program Unit} {one : α} {two : β} (related : R one two) :
    Grants R (ExceptT.run (caching program >>= fun _ => pure one))
      (ExceptT.run (caching program >>= fun _ => pure two)) := by
  rw [caching_pure, caching_pure]
  exact Grants.bind fun _ => .granted related

theorem grants_map {δ ε : Type} {S : δ → ε → Prop} {work : Work α} {other : Work β} {form : α → δ}
    {otherForm : β → ε} (grants : Grants R work.run other.run)
    (forms : ∀ one two, R one two → S (form one) (otherForm two)) :
    Grants S (ExceptT.run (form <$> work)) (ExceptT.run (otherForm <$> other)) := by
  rw [run_map, run_map]
  generalize work.run = program, other.run = otherProgram at grants
  induction grants with
  | refused => exact .refused
  | granted related => exact .granted (forms _ _ related)
  | call _ ih => exact .call ih

/-! ## The operations -/

section Operations

variable (service : Service) {caller other : Option Principal} (more : HoldsAll caller other)
  (kind id : String)

include more

theorem grants_read :
    Grants Eq (service.read other kind id).run (service.read caller kind id).run := by
  refine grants_same fun schema => grants_same fun _ => grants_storing fun record => ?_
  exact grants_decided (fun _ passed => checkAccess_of_holdsAll more passed) fun _ _ => .granted rfl

theorem grants_create (body : Json) :
    Grants Eq (service.create other kind body).run (service.create caller kind body).run := by
  refine grants_same fun schema => grants_same fun payload => grants_decided ?_ fun _ _ => ?_
  · intro _ passed
    rw [canPerform_of_holdsAll more (ok_of_mapError passed)]
    rfl
  · exact grants_storing fun created => grants_caching rfl

theorem grants_update (body : Json) :
    Grants Eq (service.update other kind id body).run (service.update caller kind id body).run := by
  refine grants_same fun schema => grants_same fun _ => grants_same fun payload => ?_
  refine grants_storing fun current => ?_
  refine grants_decided (fun _ passed => checkAccess_of_holdsAll more passed) fun _ _ => ?_
  exact grants_same fun expected => grants_storing fun updated => grants_caching rfl

theorem grants_delete :
    Grants Eq (service.delete other kind id).run (service.delete caller kind id).run := by
  refine grants_same fun schema => grants_same fun _ => grants_storing fun found => ?_
  refine grants_decided (fun _ passed => checkAccess_of_holdsAll more passed) fun _ _ => ?_
  exact grants_storing fun current => grants_storing fun _ => grants_caching rfl

/-- What the caller with fewer roles may read of the records that are found, the other one may. -/
theorem grants_query (expression : FilterExpression) :
    Grants List.Sublist (service.query other kind expression).run
      (service.query caller kind expression).run := by
  refine grants_same fun schema => grants_same fun filter => grants_storing fun records => ?_
  refine grants_caching (List.monotone_filter_right records fun record readable => ?_)
  exact Schema.isReadable_eq_true.2 ((Schema.isReadable_eq_true.1 readable).of_holdsAll more)

/-- A request that is no query has the same result for a caller with more roles. -/
theorem grants_dispatch {request : Request} (single : request.operation ≠ .query) :
    Grants Eq (service.dispatch other request).run (service.dispatch caller request).run := by
  unfold dispatch
  cases operation : request.operation with
  | read => exact grants_map (service.grants_read more _ _) fun _ _ => congrArg Record.toJson
  | create => exact grants_map (service.grants_create more _ _) fun _ _ => congrArg Record.toJson
  | update => exact grants_map (service.grants_update more _ _ _) fun _ _ => congrArg Record.toJson
  | delete => exact grants_map (service.grants_delete more _ _) fun _ _ => congrArg Record.toJson
  | query => exact absurd operation single

/-- A query shows a caller with more roles everything that it shows the other one, in the same
order. -/
theorem grants_dispatch_query {request : Request} (operation : request.operation = .query) :
    Grants (fun one two => ∃ few many, one = .array few ∧ two = .array many ∧ few.Sublist many)
      (service.dispatch other request).run (service.dispatch caller request).run := by
  unfold dispatch
  rw [operation]
  refine grants_same fun _ => grants_same fun expression => ?_
  refine grants_map (service.grants_query more _ expression) fun few many sublist => ?_
  exact ⟨_, _, rfl, rfl, sublist.map Record.toJson⟩

end Operations

end Service

/-! ## Runs -/

namespace World

variable {α β : Type} {deadline : Option Nat} {world after : World}

theorem runUntil_bind (program : Program α) (f : α → Program β) :
    runUntil deadline (program.bind f) world =
      match runUntil deadline program world with
      | (some result, later) => runUntil deadline (f result) later
      | (none, later) => (none, later) := by
  induction program generalizing world with
  | done result => rfl
  | call next resume ih =>
    rw [Program.bind, runUntil, runUntil]
    cases ask deadline next world with
    | mk reply later =>
      cases reply with
      | some reply => exact ih reply
      | none => rfl

/-- A run goes on with the reply to its first call. -/
theorem runUntil_call {next : Call} {resume : next.Reply → Program α} {reply : next.Reply}
    (answered : (ask deadline next world).1 = some reply) :
    runUntil deadline (.call next resume) world =
      runUntil deadline (resume reply) (ask deadline next world).2 := by
  generalize same : ask deadline next world = asked at answered
  obtain ⟨_, later⟩ := asked
  cases answered
  rw [runUntil, same]

/-- Where work has a result, work that grants it has a related one, and the same effect. -/
theorem runUntil_of_grants {R : α → β → Prop} {program : Program (Except ServiceError α)}
    {other : Program (Except ServiceError β)} (grants : Service.Grants R program other) {one : α}
    (finished : runUntil deadline program world = (some (.ok one), after)) :
    ∃ two, runUntil deadline other world = (some (.ok two), after) ∧ R one two := by
  induction grants generalizing world with
  | refused => cases finished
  | granted related =>
    cases finished
    exact ⟨_, rfl, related⟩
  | @call next resume otherResume _ ih =>
    rw [runUntil] at finished ⊢
    cases asked : ask deadline next world with
    | mk reply later =>
      rw [asked] at finished
      cases reply with
      | some reply => exact ih reply finished
      | none => cases finished

/-- A response has the status of a success exactly if the work for the request has a result. -/
theorem handle_eq_ok_iff {service : Service} {caller : Option Principal} {request : Request}
    {response : Response} :
    world.handle service caller deadline request = (response, after) ∧ response.status = 200 ↔
      ∃ body, response = .ok body ∧
        runUntil deadline (service.dispatch caller request).run world = (some (.ok body), after) := by
  rw [handle, UntrustedCache.handle_eq_bind, runUntil_bind]
  cases runUntil deadline (service.dispatch caller request).run world with
  | mk outcome later =>
    constructor
    · rintro ⟨answered, succeeded⟩
      cases outcome with
      | none =>
        cases answered
        exact absurd succeeded (UntrustedCache.status_ofError_ne _)
      | some outcome =>
        cases outcome with
        | error error =>
          cases answered
          exact absurd succeeded (UntrustedCache.status_ofError_ne error)
        | ok body =>
          cases answered
          exact ⟨body, rfl, rfl⟩
    · rintro ⟨body, rfl, finished⟩
      cases finished
      exact ⟨rfl, rfl⟩

/-- In every world, a request that is answered to a caller with success is answered with the same
response to a caller with at least the same roles, and leaves the same world. A query shows the one with
more roles all that it shows the other one, in the same order. -/
theorem handle_of_holdsAll {service : Service} {caller other : Option Principal}
    (more : HoldsAll caller other) {request : Request} {response : Response}
    (answered : world.handle service other deadline request = (response, after))
    (succeeded : response.status = 200) :
    (request.operation ≠ .query →
        world.handle service caller deadline request = (response, after)) ∧
      (request.operation = .query → ∃ few many, response = .ok (.array few) ∧
        world.handle service caller deadline request = (.ok (.array many), after) ∧
        few.Sublist many) := by
  obtain ⟨body, rfl, finished⟩ := handle_eq_ok_iff.1 ⟨answered, succeeded⟩
  constructor
  · intro single
    obtain ⟨_, same, rfl⟩ := runUntil_of_grants (service.grants_dispatch more single) finished
    exact (handle_eq_ok_iff.2 ⟨body, rfl, same⟩).1
  · intro operation
    obtain ⟨_, shown, few, many, rfl, rfl, sublist⟩ :=
      runUntil_of_grants (service.grants_dispatch_query more operation) finished
    exact ⟨few, many, rfl, (handle_eq_ok_iff.2 ⟨_, rfl, shown⟩).1, sublist⟩

/-- A note for admins between two notes for anyone, behind a store that is slow, beside a cache that
fails. -/
def guardedWorld : World :=
  { initial (some (.empty 300)) none with
    store := (Backend.guardedNote "a" 1).store
    storeFault := ⟨[], 10⟩
    cacheFault := ⟨["*"], 5⟩ }

/-- Asks for all notes. -/
def allNotes : Request := .query "note" .null

/-- The three notes of the guarded world. -/
def guardedNotes : List Record :=
  [⟨"1", none, 1, [("title", .string "c")]⟩,
    ⟨"2", some (.restrictedTo ["admin"]), 1, [("title", .string "a")]⟩,
    ⟨"3", none, 1, [("title", .string "b")]⟩]

/-- The filter without clauses, that all notes pass. -/
def unfiltered : CompiledFilter := ⟨⟨[]⟩, [], none, none, []⟩

/-- The store has found all notes well before the deadline. -/
theorem ask_guardedNotes : (ask (some 25) (.store (.findMany .note unfiltered)) guardedWorld).1 =
    some (.ok guardedNotes) := by
  change some (guardedWorld.store.findMany .note unfiltered) = _
  rw [Store.findMany_of_plain rfl, Store.select, unfiltered, sortRecords_nil]
  rfl

/-- Whoever asks for all notes is answered with those it may read, though none of them can be cached. -/
theorem handle_allNotes_eq (caller : Option Principal) :
    (guardedWorld.handle .notes caller (some 25) allNotes).1 =
      .ok (Service.recordsToJson (guardedNotes.filter (Service.isReadable .note caller))) := by
  obtain ⟨resume, same⟩ : ∃ resume, Service.notes.handle caller allNotes =
      .call (.store (.findMany .note unfiltered)) resume := ⟨_, rfl⟩
  rw [handle, same, runUntil_call ask_guardedNotes]
  cases same
  rfl

/-- Someone who holds the role of admins. -/
def admin : Principal := (Principal.bare "1").withRole "admin"

/-- A note of the first revision, with a title. -/
def titled (id title : String) (permission : Option Permission) : Json :=
  Record.toJson ⟨id, permission, 1, [("title", .string title)]⟩

/-- Anyone is shown two of the notes before the deadline, and an admin these two and the third between
them. -/
theorem handle_allNotes : HoldsAll (some admin) none ∧
    (guardedWorld.handle .notes none (some 25) allNotes).1.status = 200 ∧
    ∃ few many,
      (guardedWorld.handle .notes none (some 25) allNotes).1 = .ok (.array few) ∧
      (guardedWorld.handle .notes (some admin) (some 25) allNotes).1 = .ok (.array many) ∧
      few.Sublist many ∧ few = [titled "1" "c" none, titled "3" "b" none] ∧
      many = [titled "1" "c" none, titled "2" "a" (some (.restrictedTo ["admin"])),
        titled "3" "b" none] := by
  have more : HoldsAll (some admin) none := by decide
  have two : (guardedWorld.handle .notes none (some 25) allNotes).1 =
      .ok (.array [titled "1" "c" none, titled "3" "b" none]) := handle_allNotes_eq none
  have three : (guardedWorld.handle .notes (some admin) (some 25) allNotes).1 =
      .ok (.array [titled "1" "c" none, titled "2" "a" (some (.restrictedTo ["admin"])),
        titled "3" "b" none]) := handle_allNotes_eq (some admin)
  have succeeded : (guardedWorld.handle .notes none (some 25) allNotes).1.status = 200 := by
    rw [two]
    rfl
  obtain ⟨few, many, fewer, all, sublist⟩ := (handle_of_holdsAll more rfl succeeded).2 rfl
  have shown := congrArg Prod.fst all
  refine ⟨more, succeeded, few, many, fewer, shown, sublist, ?_⟩
  cases fewer.symm.trans two
  cases shown.symm.trans three
  exact ⟨rfl, rfl⟩

end World

end RecordAccess
