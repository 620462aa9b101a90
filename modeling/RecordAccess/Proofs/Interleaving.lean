import RecordAccess.Proofs.Rows
import RecordAccess.Service.Dispatch

/-!
# Interleaved requests

Many requests at work on one store and one cache. A `Scene` holds the store, the cache, the time
and the tasks under way; a `Move` lets a new request come in, or one task make its next call, or
time pass. Each call is one atomic step, and between two calls of one task any number of other
moves can fall. `Scene.run` plays a list of moves, so that a statement about all lists of moves is
one about all interleavings.

A cache call can also fail without effect, and a task can be given up between two calls.
Statements that do not allow for this ask that all moves be `Move.isPlain`.
-/

namespace RecordAccess

/-! ## What is asked -/

/-- One of the five operations, with all that it takes. -/
inductive Ask where
  | read (kind id : String)
  | create (kind : String) (body : Json)
  | update (kind id : String) (body : Json)
  | delete (kind id : String)
  | query (kind : String) (expression : FilterExpression)

/-- What an operation delivers when it succeeds. -/
inductive Delivery where
  | one (record : Record)
  | many (records : List Record)
deriving DecidableEq, Repr

/-- The work of an operation. -/
def Ask.work (service : Service) (caller : Option Principal) : Ask → Service.Work Delivery
  | read kind id => Delivery.one <$> service.read caller kind id
  | create kind body => Delivery.one <$> service.create caller kind body
  | update kind id body => Delivery.one <$> service.update caller kind id body
  | delete kind id => Delivery.one <$> service.delete caller kind id
  | query kind expression => Delivery.many <$> service.query caller kind expression

/-! ## Exchanges -/

/-- A call and what it was answered with. -/
structure Exchange where
  call : Call
  reply : call.Reply

namespace Exchange

/-- An exchange with the store. -/
def store (call : StoreCall) (reply : call.Reply) : Exchange := ⟨.store call, reply⟩

/-- An exchange with the cache. -/
def cache (call : CacheCall) (reply : call.Reply) : Exchange := ⟨.cache call, reply⟩

/-- Whether an exchange is one with the cache. -/
def isCache : Exchange → Bool
  | ⟨.cache _, _⟩ => true
  | ⟨.store _, _⟩ => false

end Exchange

/-! ## Scenes -/

/-- A request under way: who asks for what, and the work that remains. -/
structure Task where
  caller : Option Principal
  ask : Ask
  rest : Program (Except ServiceError Delivery)

/-- A task at its beginning. -/
def Task.begin (service : Service) (caller : Option Principal) (ask : Ask) : Task :=
  ⟨caller, ask, (ask.work service caller).run⟩

/-- The call that a task makes next; none when its work is done. -/
def Task.next? (task : Task) : Option Call :=
  match task.rest with
  | .call next _ => some next
  | .done _ => none

/-- What a task was answered with, once its work is done. -/
def Task.outcome? (task : Task) : Option (Except ServiceError Delivery) :=
  match task.rest with
  | .call _ _ => none
  | .done outcome => some outcome

/-- The store and the cache, the time, and all requests that have come in so far. -/
structure Scene where
  now : Nat
  store : Store
  cache : Cache
  tasks : List Task

/-- What can happen next. -/
inductive Move where
  /-- A request comes in. -/
  | begin (caller : Option Principal) (ask : Ask)
  /-- A task makes its next call. -/
  | proceed (task : Nat)
  /-- The next call of a task, if it is one of the cache, fails without effect. -/
  | fail (task : Nat) (error : CacheError)
  /-- A task is given up. -/
  | quit (task : Nat)
  /-- Time passes. -/
  | pass (duration : Nat)

/-- Whether a move neither lets a cache call fail nor gives a task up. -/
def Move.isPlain : Move → Bool
  | begin _ _ | proceed _ | pass _ => true
  | fail _ _ | quit _ => false

namespace Scene

/-- The record of a kind with an id, if one is stored. -/
def row? (scene : Scene) (kind id : String) : Option Record :=
  scene.store.row? kind id

/-- The text that the cache holds for a record. -/
def held? (scene : Scene) (kind id : String) : Option String :=
  scene.cache.live? scene.now (Record.cacheKey kind id)

/-- The call that a task makes next. -/
def next? (scene : Scene) (i : Nat) : Option Call :=
  scene.tasks[i]?.bind Task.next?

/-- What a task was answered with. -/
def outcome? (scene : Scene) (i : Nat) : Option (Except ServiceError Delivery) :=
  scene.tasks[i]?.bind Task.outcome?

/-- Answers a call. -/
def answer (scene : Scene) : (call : Call) → call.Reply × Scene
  | .store call =>
    let (reply, store) := scene.store.answer call
    (reply, { scene with store := store })
  | .cache call =>
    let (reply, cache) := scene.cache.answer scene.now call
    (reply, { scene with cache := cache })

/-- A call with the answer that it gets in a scene. -/
def exchange (scene : Scene) (call : Call) : Exchange :=
  ⟨call, (scene.answer call).1⟩

/-- The exchange that a move is for a task, if it is one. -/
def exchange? (scene : Scene) (i : Nat) : Move → Option Exchange
  | .proceed j => if j = i then (scene.next? i).map scene.exchange else none
  | .fail j error =>
    if j = i then
      match scene.next? i with
      | some (.cache call) => some (.cache call (.error error))
      | _ => none
    else none
  | _ => none

/-- The scene in which a task has other work left. -/
def setRest (scene : Scene) (i : Nat) (task : Task)
    (rest : Program (Except ServiceError Delivery)) : Scene :=
  { scene with tasks := scene.tasks.set i { task with rest := rest } }

/-- Lets a task make its next call. -/
def proceed (scene : Scene) (i : Nat) : Scene :=
  match scene.tasks[i]? with
  | some task =>
    match task.rest with
    | .call next resume =>
      let (reply, scene) := scene.answer next
      scene.setRest i task (resume reply)
    | .done _ => scene
  | none => scene

/-- Lets the next call of a task fail, if it is one of the cache. -/
def fail (scene : Scene) (i : Nat) (error : CacheError) : Scene :=
  match scene.tasks[i]? with
  | some task =>
    match task.rest with
    | .call (.cache _) resume => scene.setRest i task (resume (.error error))
    | _ => scene
  | none => scene

/-- Gives a task up, unless its work is done. -/
def quit (scene : Scene) (i : Nat) : Scene :=
  match scene.tasks[i]? with
  | some task =>
    match task.rest with
    | .call _ _ => scene.setRest i task (.done (.error .deadlineExceeded))
    | .done _ => scene
  | none => scene

/-- What a move makes of a scene. -/
def step (service : Service) (scene : Scene) : Move → Scene
  | .begin caller ask => { scene with tasks := scene.tasks ++ [.begin service caller ask] }
  | .proceed i => scene.proceed i
  | .fail i error => scene.fail i error
  | .quit i => scene.quit i
  | .pass duration => { scene with now := scene.now + duration }

/-- What a list of moves makes of a scene. -/
def run (service : Service) (scene : Scene) (moves : List Move) : Scene :=
  moves.foldl (step service) scene

@[simp] theorem setRest_store (scene : Scene) (i : Nat) (task : Task)
    (rest : Program (Except ServiceError Delivery)) :
    (scene.setRest i task rest).store = scene.store := rfl

@[simp] theorem setRest_cache (scene : Scene) (i : Nat) (task : Task)
    (rest : Program (Except ServiceError Delivery)) :
    (scene.setRest i task rest).cache = scene.cache := rfl

@[simp] theorem setRest_now (scene : Scene) (i : Nat) (task : Task)
    (rest : Program (Except ServiceError Delivery)) :
    (scene.setRest i task rest).now = scene.now := rfl

/-- Answering a call leaves all tasks as they are. -/
@[simp] theorem answer_tasks (scene : Scene) (call : Call) :
    (scene.answer call).2.tasks = scene.tasks := by
  cases call <;> rfl

@[simp] theorem answer_now (scene : Scene) (call : Call) :
    (scene.answer call).2.now = scene.now := by
  cases call <;> rfl

/-- Of the tasks of a scene, only the one whose work changes is another. -/
theorem setRest_cases {scene : Scene} {i j : Nat} {task found : Task}
    {rest : Program (Except ServiceError Delivery)}
    (there : (scene.setRest i task rest).tasks[j]? = some found) :
    (j = i ∧ found = { task with rest := rest }) ∨ (j ≠ i ∧ scene.tasks[j]? = some found) := by
  simp only [setRest, List.getElem?_set] at there
  split at there
  · next same =>
    split at there
    · exact .inl ⟨same.symm, (Option.some.inj there).symm⟩
    · cases there
  · next other => exact .inr ⟨fun same => other same.symm, there⟩

/-- A new task stands after those that were there before. -/
theorem begin_cases {tasks : List Task} {first found : Task} {j : Nat}
    (there : (tasks ++ [first])[j]? = some found) :
    tasks[j]? = some found ∨ (j = tasks.length ∧ found = first) := by
  rw [List.getElem?_append] at there
  split at there
  · exact .inl there
  · next beyond =>
    rw [List.getElem?_singleton] at there
    split at there
    · exact .inr ⟨by omega, (Option.some.inj there).symm⟩
    · cases there

@[simp] theorem run_nil (service : Service) (scene : Scene) : scene.run service [] = scene := rfl

theorem run_append (service : Service) (scene : Scene) (first second : List Move) :
    scene.run service (first ++ second) = (scene.run service first).run service second :=
  List.foldl_append

theorem run_snoc (service : Service) (scene : Scene) (moves : List Move) (move : Move) :
    scene.run service (moves ++ [move]) = (scene.run service moves).step service move := by
  rw [run_append]
  rfl

/-! ## What one move does -/

/-- The effect of a move, case by case: a request comes in, a task makes a call, a cache call
fails, a task is given up, or nothing but the time changes. -/
inductive Effect (service : Service) (scene : Scene) : Move → Scene → Prop
  | begin (caller : Option Principal) (ask : Ask) :
      Effect service scene (.begin caller ask)
        { scene with tasks := scene.tasks ++ [.begin service caller ask] }
  | call {i : Nat} {task : Task} {next : Call}
      {resume : next.Reply → Program (Except ServiceError Delivery)}
      (there : scene.tasks[i]? = some task) (rest : task.rest = .call next resume) :
      Effect service scene (.proceed i)
        ((scene.answer next).2.setRest i task (resume (scene.answer next).1))
  | fail {i : Nat} {task : Task} {next : CacheCall} {error : CacheError}
      {resume : (Call.cache next).Reply → Program (Except ServiceError Delivery)}
      (there : scene.tasks[i]? = some task) (rest : task.rest = .call (.cache next) resume) :
      Effect service scene (.fail i error) (scene.setRest i task (resume (.error error)))
  | quit {i : Nat} {task : Task} (there : scene.tasks[i]? = some task)
      (busy : task.outcome? = none) :
      Effect service scene (.quit i)
        (scene.setRest i task (.done (.error .deadlineExceeded)))
  | idle {move : Move} (now : Nat) (silent : ∀ i, scene.exchange? i move = none) :
      Effect service scene move { scene with now := now }

theorem next?_of_rest {scene : Scene} {i : Nat} {task : Task} {next : Call}
    {resume : next.Reply → Program (Except ServiceError Delivery)}
    (there : scene.tasks[i]? = some task) (rest : task.rest = .call next resume) :
    scene.next? i = some next := by
  rw [next?, there, Option.bind_some, Task.next?, rest]

/-- A task that makes no call has no exchange when it is its turn. -/
theorem exchange?_proceed_eq_none {scene : Scene} {i : Nat} (idle : scene.next? i = none) (j : Nat) :
    scene.exchange? j (.proceed i) = none := by
  simp only [exchange?]
  split
  · next same =>
    rw [← same, idle]
    rfl
  · rfl

/-- Nothing fails for a task that does not call the cache. -/
theorem exchange?_fail_eq_none {scene : Scene} {i : Nat}
    (idle : ∀ call, scene.next? i ≠ some (.cache call)) (error : CacheError) (j : Nat) :
    scene.exchange? j (.fail i error) = none := by
  simp only [exchange?]
  split
  · next same =>
    split
    · next call asked => exact absurd (same ▸ asked) (idle call)
    · rfl
  · rfl

theorem effect_proceed (service : Service) (scene : Scene) (i : Nat) :
    Effect service scene (.proceed i) (scene.proceed i) := by
  unfold proceed
  split
  · next task there =>
    split
    · next next resume rest => exact .call there rest
    · next outcome rest =>
      have idle : scene.next? i = none := by rw [next?, there, Option.bind_some, Task.next?, rest]
      exact .idle scene.now (exchange?_proceed_eq_none idle)
  · next absent =>
    have idle : scene.next? i = none := by rw [next?, absent, Option.bind_none]
    exact .idle scene.now (exchange?_proceed_eq_none idle)

theorem effect_fail (service : Service) (scene : Scene) (i : Nat) (error : CacheError) :
    Effect service scene (.fail i error) (scene.fail i error) := by
  unfold fail
  split
  · next task there =>
    split
    · next next resume rest => exact .fail there rest
    · next other =>
      refine .idle scene.now (exchange?_fail_eq_none (fun call asked => ?_) error)
      rw [next?, there, Option.bind_some, Task.next?] at asked
      split at asked
      · next next resume rest =>
        cases asked
        exact other call resume rest
      · cases asked
  · next absent =>
    refine .idle scene.now (exchange?_fail_eq_none (fun call asked => ?_) error)
    rw [next?, absent] at asked
    cases asked

theorem effect_quit (service : Service) (scene : Scene) (i : Nat) :
    Effect service scene (.quit i) (scene.quit i) := by
  unfold quit
  split
  · next task there =>
    split
    · next next resume rest => exact .quit there (by simp [Task.outcome?, rest])
    · exact .idle scene.now fun _ => rfl
  · exact .idle scene.now fun _ => rfl

/-- Every move has one of the effects listed. -/
theorem effect_step (service : Service) (scene : Scene) (move : Move) :
    Effect service scene move (scene.step service move) := by
  cases move with
  | begin caller ask => exact .begin caller ask
  | proceed i => exact effect_proceed service scene i
  | fail i error => exact effect_fail service scene i error
  | quit i => exact effect_quit service scene i
  | pass duration => exact .idle _ fun _ => rfl

end Scene

end RecordAccess
