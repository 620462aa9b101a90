import RecordAccess.Cache.Basic
import RecordAccess.Store.Basic

/-!
# Programs of calls

A request does its work by calls of the store and of the cache, each of them one atomic step, and
decides by the answer to one call which is the next. `Program α` is such work as data: either it
is done and has a result, or there is a call to make and, for every answer, a program that goes
on from there.

A program says nothing of when its calls are made. It can be run from beginning to end, given up
between two calls, or run alternately with others.
-/

namespace RecordAccess

/-- A call of the store or of the cache. -/
inductive Call where
  | store (call : StoreCall)
  | cache (call : CacheCall)
deriving DecidableEq, Repr

/-- What a call is answered with. -/
def Call.Reply : Call → Type
  | store call => call.Reply
  | cache call => call.Reply

/-- Work that makes calls and has a result. -/
inductive Program (α : Type) where
  /-- The work is done. -/
  | done (result : α)
  /-- A call is to be made, and its answer decides how to go on. -/
  | call (next : Call) (resume : next.Reply → Program α)

namespace Program

variable {α β : Type}

/-- Goes on with the result of a program. -/
def bind : Program α → (α → Program β) → Program β
  | done result, f => f result
  | call next resume, f => call next fun reply => (resume reply).bind f

instance : Monad Program where
  pure := done
  bind := bind

/-- Makes a call of the store. -/
def askStore (next : StoreCall) : Program next.Reply :=
  call (.store next) done

/-- Makes a call of the cache. -/
def askCache (next : CacheCall) : Program next.Reply :=
  call (.cache next) done

/-- Runs a program from beginning to end on something that answers its calls and may change in
doing so. -/
def run {σ : Type} (answer : (call : Call) → σ → call.Reply × σ) : Program α → σ → α × σ
  | done result, state => (result, state)
  | call next resume, state =>
    let (reply, state) := answer next state
    (resume reply).run answer state

/-! ## Laws -/

@[simp] theorem done_bind (result : α) (f : α → Program β) : (done result).bind f = f result := rfl

@[simp] theorem bind_done (program : Program α) : program.bind done = program := by
  induction program with
  | done result => rfl
  | call next resume ih => simp [bind, ih]

theorem bind_assoc {γ : Type} (program : Program α) (f : α → Program β) (g : β → Program γ) :
    (program.bind f).bind g = program.bind fun result => (f result).bind g := by
  induction program with
  | done result => rfl
  | call next resume ih => simp [bind, ih]

instance : LawfulMonad Program :=
  LawfulMonad.mk' Program bind_done (fun _ _ => rfl) bind_assoc

/-- To run one program after another is to run the second on what the first leaves. -/
theorem run_bind {σ : Type} (answer : (call : Call) → σ → call.Reply × σ) (program : Program α)
    (f : α → Program β) (state : σ) :
    (program.bind f).run answer state =
      (f (program.run answer state).1).run answer (program.run answer state).2 := by
  induction program generalizing state with
  | done result => rfl
  | call next resume ih => exact ih _ _

end Program

end RecordAccess
