import RecordAccess.Proofs.Stages.Operations

/-!
# Stages of a task

A task is at a stage of the operation that it was begun for. In a run, it is at a stage with its
transcript, unless it was given up.
-/

namespace RecordAccess

open Program (Leads)

/-- The work of an operation, with its result in the form in which all operations deliver it. -/
def Program.deliver {α : Type} (form : α → Delivery)
    (program : Program (Except ServiceError α)) : Program (Except ServiceError Delivery) :=
  program.bind fun outcome => .done (outcome.map form)

/-- The stages of a task: those of the operation that it was begun for. -/
inductive TaskStage (service : Service) : Task → List Exchange → Prop
  | read {caller : Option Principal} {kind id : String} {log : List Exchange}
      {rest : Program (Except ServiceError Record)}
      (stage : service.ReadStage caller kind id log rest) :
      TaskStage service ⟨caller, .read kind id, rest.deliver .one⟩ log
  | create {caller : Option Principal} {kind : String} {body : Json} {log : List Exchange}
      {rest : Program (Except ServiceError Record)}
      (stage : service.CreateStage caller kind body log rest) :
      TaskStage service ⟨caller, .create kind body, rest.deliver .one⟩ log
  | update {caller : Option Principal} {kind id : String} {body : Json} {log : List Exchange}
      {rest : Program (Except ServiceError Record)}
      (stage : service.UpdateStage caller kind id body log rest) :
      TaskStage service ⟨caller, .update kind id body, rest.deliver .one⟩ log
  | delete {caller : Option Principal} {kind id : String} {log : List Exchange}
      {rest : Program (Except ServiceError Record)}
      (stage : service.DeleteStage caller kind id log rest) :
      TaskStage service ⟨caller, .delete kind id, rest.deliver .one⟩ log
  | query {caller : Option Principal} {kind : String} {expression : FilterExpression}
      {log : List Exchange} {rest : Program (Except ServiceError (List Record))}
      (stage : service.QueryStage caller kind expression log rest) :
      TaskStage service ⟨caller, .query kind expression, rest.deliver .many⟩ log

theorem run_deliver {α : Type} (form : α → Delivery) (work : Service.Work α) :
    ExceptT.run (form <$> work) = work.run.deliver form :=
  Service.run_map form work

theorem leads_deliver {α : Type} {form : α → Delivery} {work : Service.Work α}
    {log : List Exchange} {rest : Program (Except ServiceError Delivery)}
    (leads : Leads (ExceptT.run (form <$> work)) log rest) :
    ∃ first, Leads work.run log first ∧ rest = first.deliver form := by
  rw [run_deliver] at leads
  exact Program.leads_map leads

/-- Work that was led by a transcript is at one of its stages. -/
theorem taskStage_of_leads {service : Service} {caller : Option Principal} {ask : Ask}
    {log : List Exchange} {rest : Program (Except ServiceError Delivery)}
    (leads : Leads (ask.work service caller).run log rest) :
    TaskStage service ⟨caller, ask, rest⟩ log := by
  cases ask with
  | read kind id =>
    obtain ⟨first, led, rfl⟩ := leads_deliver leads
    exact .read (Service.readStage_of_leads led)
  | create kind body =>
    obtain ⟨first, led, rfl⟩ := leads_deliver leads
    exact .create (Service.createStage_of_leads led)
  | update kind id body =>
    obtain ⟨first, led, rfl⟩ := leads_deliver leads
    exact .update (Service.updateStage_of_leads led)
  | delete kind id =>
    obtain ⟨first, led, rfl⟩ := leads_deliver leads
    exact .delete (Service.deleteStage_of_leads led)
  | query kind expression =>
    obtain ⟨first, led, rfl⟩ := leads_deliver leads
    exact .query (Service.queryStage_of_leads led)

/-- In a run from a scene without tasks, every task is at one of its stages with its transcript, or
was given up. -/
theorem Scene.stage_transcript {service : Service} {start : Scene} {moves : List Move}
    (fresh : start.tasks = []) {i : Nat} {task : Task}
    (there : (start.run service moves).tasks[i]? = some task) :
    TaskStage service task (start.transcript service i moves) ∨
      .quit i ∈ moves ∧ task.rest = .done (.error .deadlineExceeded) :=
  (isLed_transcript fresh there).imp_left taskStage_of_leads

/-- Nothing is given up in a run of plain moves. -/
theorem Scene.stage_of_plain {service : Service} {start : Scene} {moves : List Move}
    (fresh : start.tasks = []) (plain : ∀ move ∈ moves, move.isPlain = true) {i : Nat}
    {task : Task} (there : (start.run service moves).tasks[i]? = some task) :
    TaskStage service task (start.transcript service i moves) := by
  rcases stage_transcript fresh there with stage | ⟨quit, -⟩
  · exact stage
  · cases plain _ quit

end RecordAccess
