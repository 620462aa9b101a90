import Mathlib.Data.List.Induction
import RecordAccess.Proofs.Interleaving

/-!
# Transcripts

What a task has been told determines what is left of its work. `Program.Leads` says what a program
has become after a list of exchanges, and `Scene.transcript` lists the exchanges of a task in a run.
Each of them took place at a move of the run (`Scene.moves_of_transcript`), and together they lead the
work of the task to what is left of it, unless it was given up (`Scene.isLed_transcript`).
-/

namespace RecordAccess

namespace Program

variable {α β : Type}

/-- After the calls of a transcript were made and answered, a program has become another. -/
inductive Leads : Program α → List Exchange → Program α → Prop
  | here {program : Program α} : Leads program [] program
  | after {next : Call} {resume : next.Reply → Program α} {reply : next.Reply}
      {log : List Exchange} {rest : Program α} (later : Leads (resume reply) log rest) :
      Leads (call next resume) (⟨next, reply⟩ :: log) rest

theorem Leads.snoc {program : Program α} {log : List Exchange} {next : Call}
    {resume : next.Reply → Program α} (leads : Leads program log (call next resume))
    (reply : next.Reply) : Leads program (log ++ [⟨next, reply⟩]) (resume reply) := by
  generalize same : call next resume = rest at leads
  induction leads with
  | here =>
    subst same
    exact .after .here
  | after _ ih => exact .after (ih same)

/-- Work that is done stays done. -/
theorem leads_done {result : α} {log : List Exchange} {rest : Program α} :
    Leads (done result) log rest ↔ log = [] ∧ rest = done result := by
  constructor
  · intro leads
    cases leads
    exact ⟨rfl, rfl⟩
  · rintro ⟨rfl, rfl⟩
    exact .here

/-- A program of two parts is in the first of them, or has done it and is in the second. -/
theorem leads_bind {program : Program α} {f : α → Program β} {log : List Exchange}
    {rest : Program β} (leads : Leads (program.bind f) log rest) :
    (∃ first, Leads program log first ∧ rest = first.bind f) ∨
    ∃ before after result, log = before ++ after ∧ Leads program before (done result) ∧
      Leads (f result) after rest := by
  induction program generalizing log with
  | done result => exact .inr ⟨[], log, result, rfl, .here, leads⟩
  | call next resume ih =>
    cases leads with
    | here => exact .inl ⟨_, .here, rfl⟩
    | after later =>
      rcases ih _ later with ⟨first, firstLeads, same⟩ | ⟨before, after, result, rfl, one, two⟩
      · exact .inl ⟨first, .after firstLeads, same⟩
      · exact .inr ⟨_ :: before, after, result, rfl, .after one, two⟩

/-- To change the result of a program is to change no call. -/
theorem leads_map {program : Program α} {f : α → β} {log : List Exchange} {rest : Program β}
    (leads : Leads (program.bind fun result => done (f result)) log rest) :
    ∃ first, Leads program log first ∧ rest = first.bind fun result => done (f result) := by
  rcases leads_bind leads with found | ⟨before, after, result, rfl, one, two⟩
  · exact found
  · obtain ⟨rfl, rfl⟩ := leads_done.1 two
    exact ⟨done result, by simpa using one, rfl⟩

end Program

namespace Scene

/-- The exchanges of a task in the run of some moves, in order. -/
def transcript (service : Service) (scene : Scene) (i : Nat) : List Move → List Exchange
  | [] => []
  | move :: rest =>
    (scene.exchange? i move).toList ++ transcript service (scene.step service move) i rest

variable {service : Service} {start scene : Scene} {moves : List Move} {i : Nat}

theorem transcript_append (service : Service) (scene : Scene) (i : Nat)
    (first second : List Move) :
    scene.transcript service i (first ++ second) =
      scene.transcript service i first ++
        (scene.run service first).transcript service i second := by
  induction first generalizing scene with
  | nil => rfl
  | cons move rest ih =>
    rw [List.cons_append, transcript, ih, transcript, List.append_assoc]
    rfl

theorem transcript_snoc (service : Service) (scene : Scene) (i : Nat) (moves : List Move)
    (move : Move) :
    scene.transcript service i (moves ++ [move]) =
      scene.transcript service i moves ++
        ((scene.run service moves).exchange? i move).toList := by
  rw [transcript_append]
  exact congrArg _ (List.append_nil _)

/-! ### Tasks come to stay -/

/-- No move takes a task away. -/
theorem length_tasks_step (service : Service) (scene : Scene) (move : Move) :
    scene.tasks.length ≤ (scene.step service move).tasks.length := by
  generalize found : scene.step service move = after
  have effect := effect_step service scene move
  rw [found] at effect
  cases effect <;> simp [setRest]

theorem length_tasks_run (service : Service) (scene : Scene) (moves : List Move) :
    scene.tasks.length ≤ (scene.run service moves).tasks.length := by
  induction moves generalizing scene with
  | nil => exact Nat.le_refl _
  | cons move rest ih => exact Nat.le_trans (length_tasks_step service scene move) (ih _)

theorem next?_eq_none (beyond : scene.tasks.length ≤ i) : scene.next? i = none := by
  rw [next?, List.getElem?_eq_none beyond]
  rfl

/-- Nothing is exchanged for a task that has not come in. -/
theorem exchange?_eq_none (idle : scene.next? i = none) (move : Move) :
    scene.exchange? i move = none := by
  cases move <;> simp [exchange?, idle]

theorem transcript_eq_nil (absent : (start.run service moves).tasks.length ≤ i) :
    start.transcript service i moves = [] := by
  induction moves using List.reverseRecOn with
  | nil => rfl
  | append_singleton moves move ih =>
    have before : (start.run service moves).tasks.length ≤ i := by
      rw [run_snoc] at absent
      exact Nat.le_trans (length_tasks_step service _ move) absent
    rw [transcript_snoc, ih before, exchange?_eq_none (next?_eq_none before)]
    rfl

/-- A task stays what it is, and what it was answered with stays its outcome. -/
theorem task_step (service : Service) {task : Task} (there : scene.tasks[i]? = some task)
    (move : Move) :
    ∃ rest, (scene.step service move).tasks[i]? = some { task with rest := rest } ∧
      ∀ outcome, task.rest = .done outcome → rest = .done outcome := by
  generalize found : scene.step service move = after
  have effect := effect_step service scene move
  rw [found] at effect
  have set : ∀ (k : Nat) (turn : Task) (rest : Program (Except ServiceError Delivery)),
      scene.tasks[k]? = some turn → (∀ outcome, turn.rest ≠ .done outcome) →
      ∃ rest', (scene.tasks.set k { turn with rest := rest })[i]? =
        some { task with rest := rest' } ∧ ∀ outcome, task.rest = .done outcome →
          rest' = .done outcome := by
    intro k turn rest there' busy
    by_cases same : k = i
    · subst same
      obtain rfl := Option.some.inj (there.symm.trans there')
      refine ⟨rest, ?_, fun outcome finished => absurd finished (busy outcome)⟩
      rw [List.getElem?_set_self (List.getElem?_eq_some_iff.1 there).1]
    · exact ⟨task.rest, by rw [List.getElem?_set_ne same, there], fun _ finished => finished⟩
  cases effect with
  | begin caller ask =>
    refine ⟨task.rest, ?_, fun _ finished => finished⟩
    exact List.getElem?_append_left (List.getElem?_eq_some_iff.1 there).1 ▸ there
  | call there' rest =>
    simp only [setRest, answer_tasks]
    exact set _ _ _ there' fun _ finished => by cases rest.symm.trans finished
  | fail there' rest => exact set _ _ _ there' fun _ finished => by cases rest.symm.trans finished
  | @quit k turn there' busy =>
    refine set _ _ _ there' fun outcome finished => ?_
    simp [Task.outcome?, finished] at busy
  | idle now silent => exact ⟨task.rest, there, fun _ finished => finished⟩

/-- A move that is no exchange of a task and does not give it up leaves it as it is. -/
theorem task_step_of_silent (service : Service) {task : Task} {move : Move}
    (there : scene.tasks[i]? = some task) (silent : scene.exchange? i move = none)
    (kept : move ≠ .quit i) : (scene.step service move).tasks[i]? = some task := by
  generalize found : scene.step service move = after
  have effect := effect_step service scene move
  rw [found] at effect
  cases effect with
  | begin caller ask =>
    exact List.getElem?_append_left (List.getElem?_eq_some_iff.1 there).1 ▸ there
  | @call k turn next resume there' rest =>
    have other : k ≠ i := by
      rintro rfl
      simp [exchange?, next?_of_rest there' rest] at silent
    simp only [setRest, answer_tasks]
    rwa [List.getElem?_set_ne other]
  | @fail k turn next error resume there' rest =>
    have other : k ≠ i := by
      rintro rfl
      simp [exchange?, next?_of_rest there' rest] at silent
    simp only [setRest]
    rwa [List.getElem?_set_ne other]
  | @quit k turn there' busy =>
    have other : k ≠ i := by
      rintro rfl
      exact kept rfl
    simp only [setRest]
    rwa [List.getElem?_set_ne other]
  | idle now silent => exact there

theorem task_run (service : Service) {task : Task} (there : scene.tasks[i]? = some task)
    (moves : List Move) :
    ∃ rest, (scene.run service moves).tasks[i]? = some { task with rest := rest } ∧
      ∀ outcome, task.rest = .done outcome → rest = .done outcome := by
  induction moves generalizing scene task with
  | nil => exact ⟨task.rest, there, fun _ finished => finished⟩
  | cons move moves ih =>
    obtain ⟨rest, there, kept⟩ := task_step service there move
    obtain ⟨last, there, keptLast⟩ := ih there
    exact ⟨last, there, fun outcome finished => keptLast outcome (kept outcome finished)⟩

/-- A task that was not there has come in by a move that was for its caller and its operation. -/
theorem begin_of_task (absent : start.tasks.length ≤ i) {task : Task}
    (there : (start.run service moves).tasks[i]? = some task) :
    .begin task.caller task.ask ∈ moves := by
  induction moves using List.reverseRecOn generalizing task with
  | nil =>
    rw [run_nil, List.getElem?_eq_none absent] at there
    cases there
  | append_singleton moves move ih =>
    rw [run_snoc] at there
    cases before : (start.run service moves).tasks[i]? with
    | some earlier =>
      obtain ⟨rest, still, -⟩ := task_step service before move
      have came := ih before
      cases still.symm.trans there
      exact List.mem_append_left _ came
    | none =>
      have beyond := List.getElem?_eq_none_iff.1 before
      generalize found : (start.run service moves).step service move = scene at there
      have effect := effect_step service (start.run service moves) move
      rw [found] at effect
      cases effect with
      | begin caller ask =>
        rcases begin_cases there with early | ⟨-, rfl⟩
        · cases before.symm.trans early
        · exact List.mem_append_right _ (List.mem_singleton.2 rfl)
      | _ =>
        rw [List.getElem?_eq_none (by simpa [setRest] using beyond)] at there
        cases there

/-- A task that has come in is the one that was begun. -/
theorem task_of_begin {caller : Option Principal} {ask : Ask} {arrived later : List Move} {task : Task}
    (there : (start.run service (arrived ++ .begin caller ask :: later)).tasks[
      (start.run service arrived).tasks.length]? = some task) :
    task.caller = caller ∧ task.ask = ask := by
  have came : ((start.run service arrived).step service (.begin caller ask)).tasks[
      (start.run service arrived).tasks.length]? = some (.begin service caller ask) := by
    simp [step]
  obtain ⟨left, still, -⟩ := task_run service came later
  rw [← run_snoc, ← run_append, ← List.append_cons, there] at still
  cases still
  exact ⟨rfl, rfl⟩

/-- A task for which nothing is exchanged, and which is not given up, stays as it is. -/
theorem task_run_of_silent (service : Service) {task : Task} {moves : List Move}
    (there : scene.tasks[i]? = some task) (silent : scene.transcript service i moves = [])
    (plain : ∀ move ∈ moves, move.isPlain = true) :
    (scene.run service moves).tasks[i]? = some task := by
  induction moves generalizing scene with
  | nil => exact there
  | cons move rest ih =>
    obtain ⟨first, later⟩ := List.append_eq_nil_iff.1 silent
    have kept : move ≠ .quit i := by
      rintro rfl
      cases plain _ (List.mem_cons_self ..)
    exact ih (task_step_of_silent service there (Option.toList_eq_nil_iff.1 first) kept) later
      fun other member => plain other (List.mem_cons_of_mem _ member)

theorem outcome?_eq_some {outcome : Except ServiceError Delivery} :
    scene.outcome? i = some outcome ↔
      ∃ task, scene.tasks[i]? = some task ∧ task.rest = .done outcome := by
  simp only [outcome?, Option.bind_eq_some_iff, Task.outcome?]
  refine exists_congr fun task => and_congr_right fun _ => ?_
  split
  · next rest => simp [rest]
  · next rest => simp [rest]

/-- What a task was answered with stays its outcome. -/
theorem outcome?_run {outcome : Except ServiceError Delivery}
    (finished : scene.outcome? i = some outcome) (moves : List Move) :
    (scene.run service moves).outcome? i = some outcome := by
  obtain ⟨task, there, rest⟩ := outcome?_eq_some.1 finished
  obtain ⟨last, there, kept⟩ := task_run service there moves
  exact outcome?_eq_some.2 ⟨_, there, kept outcome rest⟩

/-! ### Where an exchange took place -/

/-- An exchange of a transcript took place at a move of the run: when it was the turn of the task,
or by a failure of the cache. The exchanges before it had taken place by then. -/
theorem moves_of_transcript {before after : List Exchange} {exchange : Exchange}
    (found : start.transcript service i moves = before ++ exchange :: after) :
    ∃ earlier move later, moves = earlier ++ move :: later ∧
      start.transcript service i earlier = before ∧
      (start.run service earlier).exchange? i move = some exchange := by
  induction moves using List.reverseRecOn generalizing after with
  | nil => simp [transcript] at found
  | append_singleton moves move ih =>
    rw [transcript_snoc] at found
    cases last : (start.run service moves).exchange? i move with
    | none =>
      rw [last, Option.toList_none, List.append_nil] at found
      obtain ⟨earlier, place, later, rfl, same, there⟩ := ih found
      exact ⟨earlier, place, later ++ [move], by simp, same, there⟩
    | some other =>
      rw [last, Option.toList_some] at found
      rcases List.eq_nil_or_concat after with rfl | ⟨front, final, rfl⟩
      · obtain ⟨same, single⟩ := List.append_inj' found rfl
        cases single
        exact ⟨moves, move, [], rfl, same, last⟩
      · rw [List.concat_eq_append, ← List.cons_append, ← List.append_assoc] at found
        obtain ⟨earlier, place, later, rfl, same, there⟩ := ih (List.append_inj' found rfl).1
        exact ⟨earlier, place, later ++ [move], by simp, same, there⟩

/-- An exchange takes place when it is the turn of the task, or is a call of the cache that fails. -/
theorem exchange?_cases {move : Move} {made : Exchange}
    (took : scene.exchange? i move = some made) :
    (∃ next, move = .proceed i ∧ scene.next? i = some next ∧ made = scene.exchange next) ∨
      ∃ call error, move = .fail i error ∧ scene.next? i = some (.cache call) ∧
        made = .cache call (.error error) := by
  cases move with
  | proceed j =>
    obtain ⟨rfl, took⟩ := Option.ite_none_right_eq_some.1 took
    obtain ⟨next, asked, rfl⟩ := Option.map_eq_some_iff.1 took
    exact .inl ⟨next, rfl, asked, rfl⟩
  | fail j error =>
    obtain ⟨rfl, took⟩ := Option.ite_none_right_eq_some.1 took
    split at took
    · next call asked =>
      cases took
      exact .inr ⟨call, error, rfl, asked, rfl⟩
    · cases took
  | begin => cases took
  | quit => cases took
  | pass => cases took

/-- An exchange with the store took place when it was the turn of the task. -/
theorem exchange?_store {move : Move} {call : StoreCall} {reply : call.Reply}
    (took : scene.exchange? i move = some (.store call reply)) :
    move = .proceed i ∧ scene.next? i = some (.store call) ∧
      reply = (scene.store.answer call).1 := by
  rcases exchange?_cases took with ⟨next, rfl, asked, made⟩ | ⟨_, _, -, -, made⟩
  · cases made
    exact ⟨rfl, asked, rfl⟩
  · cases made

/-- Where no call fails, an exchange took place when it was the turn of the task. -/
theorem asked_of_exchange? {move : Move} {exchange : Exchange} (plain : move.isPlain = true)
    (took : scene.exchange? i move = some exchange) :
    move = .proceed i ∧ scene.next? i = some exchange.call := by
  rcases exchange?_cases took with ⟨next, rfl, asked, rfl⟩ | ⟨_, _, rfl, -, -⟩
  · exact ⟨rfl, asked⟩
  · cases plain

/-- An exchange with the store that is in a transcript took place at a move of the run. -/
theorem moves_of_mem_transcript {call : StoreCall} {reply : call.Reply}
    (member : .store call reply ∈ start.transcript service i moves) :
    ∃ earlier later, moves = earlier ++ .proceed i :: later ∧
      (start.run service earlier).next? i = some (.store call) ∧
      reply = ((start.run service earlier).store.answer call).1 := by
  obtain ⟨before, after, found⟩ := List.append_of_mem member
  obtain ⟨earlier, move, later, rfl, -, took⟩ := moves_of_transcript found
  obtain ⟨rfl, asked, answered⟩ := exchange?_store took
  exact ⟨earlier, later, rfl, asked, answered⟩

/-- After the last exchange of a task, the task stays as it is. -/
theorem outcome?_of_last {first last : List Move} {log : List Exchange} {exchange : Exchange}
    {next : Call} (logged : start.transcript service i (first ++ .proceed i :: last) =
      log ++ [exchange]) (before : start.transcript service i first = log)
    (took : (start.run service first).exchange? i (.proceed i) = some exchange)
    (asked : (start.run service first).next? i = some next)
    (plain : ∀ move ∈ last, move.isPlain = true) :
    (start.run service (first ++ .proceed i :: last)).outcome? i =
      (start.run service (first ++ [.proceed i])).outcome? i := by
  rw [List.append_cons] at logged ⊢
  rw [transcript_append, transcript_snoc, before, took] at logged
  have silent := List.append_cancel_left (logged.trans (List.append_nil _).symm)
  obtain ⟨task, there, -⟩ := Option.bind_eq_some_iff.1 asked
  obtain ⟨rest, there, -⟩ := task_step service there (.proceed i)
  rw [← run_snoc] at there
  rw [run_append, outcome?, outcome?, task_run_of_silent service there silent plain, there]

/-- Where a list of moves is given in full, what holds of every move and the moves before it can be
checked position by position. -/
theorem holds_of_split {moves first last : List Move} {move : Move} {holds : List Move → Move → Prop}
    (each : ∀ n, (inside : n < moves.length) → holds (moves.take n) moves[n])
    (split : moves = first ++ move :: last) : holds first move := by
  subst split
  simpa using each first.length (by simp)

/-! ### What a transcript leads to -/

/-- A transcript leads the work of a task to what is left of it. -/
def IsLed (service : Service) (task : Task) (log : List Exchange) : Prop :=
  (task.ask.work service task.caller).run.Leads log task.rest

/-- A task that makes a call is led by a transcript that is longer by this call. -/
theorem IsLed.snoc {task : Task} {log : List Exchange} {next : Call}
    {resume : next.Reply → Program (Except ServiceError Delivery)}
    (led : IsLed service task log) (rest : task.rest = .call next resume) (reply : next.Reply) :
    IsLed service { task with rest := resume reply } (log ++ [⟨next, reply⟩]) := by
  rw [IsLed, rest] at led
  exact led.snoc reply

/-- In a run from a scene without tasks, every task is led by its transcript, or was given up. -/
theorem isLed_transcript (fresh : start.tasks = []) {task : Task}
    (there : (start.run service moves).tasks[i]? = some task) :
    IsLed service task (start.transcript service i moves) ∨
      .quit i ∈ moves ∧ task.rest = .done (.error .deadlineExceeded) := by
  induction moves using List.reverseRecOn generalizing i task with
  | nil => simp [fresh] at there
  | append_singleton moves move ih =>
    rw [run_snoc] at there
    rw [transcript_snoc]
    generalize found : (start.run service moves).step service move = scene at there
    have effect := effect_step service (start.run service moves) move
    rw [found] at effect
    -- A task for which the move is no exchange is as it was, and for any other there is one more.
    have stays : (start.run service moves).exchange? i move = none →
        (start.run service moves).tasks[i]? = some task →
        IsLed service task (start.transcript service i moves ++
            ((start.run service moves).exchange? i move).toList) ∨
          .quit i ∈ moves ++ [move] ∧ task.rest = .done (.error .deadlineExceeded) := by
      intro silent there
      rw [silent, Option.toList_none, List.append_nil]
      exact (ih there).imp_right fun quit => ⟨List.mem_append_left _ quit.1, quit.2⟩
    have goesOn : ∀ {turn : Task} {next : Call} {resume reply},
        (start.run service moves).tasks[i]? = some turn → turn.rest = .call next resume →
        (start.run service moves).exchange? i move = some ⟨next, reply⟩ →
        IsLed service { turn with rest := resume reply } (start.transcript service i moves ++
          ((start.run service moves).exchange? i move).toList) := by
      intro turn next resume reply there rest made
      rw [made]
      rcases ih there with led | ⟨-, givenUp⟩
      · exact led.snoc rest reply
      · cases rest.symm.trans givenUp
    cases effect with
    | begin caller ask =>
      rcases begin_cases there with there | ⟨rfl, rfl⟩
      · exact stays rfl there
      · rw [transcript_eq_nil (Nat.le_refl _)]
        exact .inl .here
    | @call k turn next resume there' rest =>
      rcases setRest_cases there with ⟨rfl, rfl⟩ | ⟨other, there⟩
      · refine .inl (goesOn there' rest ?_)
        simp only [exchange?, next?_of_rest there' rest, ↓reduceIte]
        rfl
      · exact stays (if_neg fun same => other same.symm) (by rwa [answer_tasks] at there)
    | @fail k turn next error resume there' rest =>
      rcases setRest_cases there with ⟨rfl, rfl⟩ | ⟨other, there⟩
      · refine .inl (goesOn there' rest ?_)
        simp only [exchange?, next?_of_rest there' rest, ↓reduceIte]
        rfl
      · exact stays (if_neg fun same => other same.symm) there
    | @quit k turn there' busy =>
      rcases setRest_cases there with ⟨rfl, rfl⟩ | ⟨-, there⟩
      · exact .inr ⟨List.mem_append_right _ (List.mem_singleton.2 rfl), rfl⟩
      · exact stays rfl there
    | idle now silent => exact stays (silent i) there

end Scene

end RecordAccess
