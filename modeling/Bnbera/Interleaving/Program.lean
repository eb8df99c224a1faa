import Mathlib.Logic.Relation

namespace Interleaving

section

/-- A sequential program over atomic calls. It returns a value, or makes one
call on the shared state and continues with the answer. -/
inductive Program (Op : Type) (Ans : Op → Type) (α : Type)
  | done (value : α)
  | call (op : Op) (next : Ans op → Program Op Ans α)

/-- What one call may answer and do: `exec op before answer after`. -/
abbrev Semantics (Op : Type) (Ans : Op → Type) (σ : Type) :=
  (op : Op) → σ → Ans op → σ → Prop

variable {Op : Type} {Ans : Op → Type} {α β ε σ : Type}

namespace Program

def bind : Program Op Ans α → (α → Program Op Ans β) → Program Op Ans β
  | done value, after => after value
  | call op next, after => call op fun answer => (next answer).bind after

instance : Monad (Program Op Ans) where
  pure := done
  bind := bind

@[simp] theorem pure_eq (value : α) : (pure value : Program Op Ans α) = done value := rfl

@[simp] theorem done_bind (value : α) (after : α → Program Op Ans β) :
    done value >>= after = after value := rfl

@[simp] theorem call_bind (op : Op) (next : Ans op → Program Op Ans α) (after : α → Program Op Ans β) :
    call op next >>= after = call op fun answer => next answer >>= after := rfl

theorem bind_done (program : Program Op Ans α) : program.bind done = program := by
  induction program with
  | done => rfl
  | call op next ih => exact congrArg (call op) (funext ih)

theorem bind_assoc {γ : Type} (program : Program Op Ans α) (first : α → Program Op Ans β)
    (second : β → Program Op Ans γ) :
    (program.bind first).bind second = program.bind fun value => (first value).bind second := by
  induction program with
  | done => rfl
  | call op next ih => exact congrArg (call op) (funext ih)

instance : LawfulMonad (Program Op Ans) :=
  LawfulMonad.mk' (Program Op Ans) bind_done (fun _ _ => rfl) bind_assoc

def ask (op : Op) : Program Op Ans (Ans op) := call op done

@[simp] theorem ask_bind (op : Op) (after : Ans op → Program Op Ans β) :
    ask op >>= after = call op after := rfl

def eval (answer : (op : Op) → σ → Ans op × σ) : Program Op Ans α → σ → α × σ
  | done value, s => (value, s)
  | call op next, s => (next (answer op s).1).eval answer (answer op s).2

@[simp] theorem eval_done (answer : (op : Op) → σ → Ans op × σ) (value : α) (s : σ) :
    (done value).eval answer s = (value, s) := rfl

@[simp] theorem eval_call (answer : (op : Op) → σ → Ans op × σ) (op : Op)
    (next : Ans op → Program Op Ans α) (s : σ) :
    (call op next).eval answer s = (next (answer op s).1).eval answer (answer op s).2 := rfl

@[simp] theorem eval_ask (answer : (op : Op) → σ → Ans op × σ) (op : Op) (s : σ) :
    (ask op).eval answer s = answer op s := rfl

@[simp] theorem eval_bind (answer : (op : Op) → σ → Ans op × σ) (program : Program Op Ans α)
    (after : α → Program Op Ans β) (s : σ) :
    (program >>= after).eval answer s =
      (after (program.eval answer s).1).eval answer (program.eval answer s).2 := by
  induction program generalizing s with
  | done => rfl
  | call op next ih => exact ih _ _

theorem eval_except_bind (answer : (op : Op) → σ → Ans op × σ) (program : ExceptT ε (Program Op Ans) α)
    (after : α → ExceptT ε (Program Op Ans) β) (s : σ) :
    (program >>= after).run.eval answer s =
      match program.run.eval answer s with
      | (.ok value, s') => (after value).run.eval answer s'
      | (.error error, s') => (.error error, s') := by
  rw [ExceptT.run_bind, eval_bind]
  cases program.run.eval answer s with
  | mk result s' => cases result <;> rfl

def Calls (allowed : Op → Prop) : Program Op Ans α → Prop
  | done _ => True
  | call op next => allowed op ∧ ∀ answer, (next answer).Calls allowed

theorem Calls.mono {allowed wider : Op → Prop} {program : Program Op Ans α} (calls : program.Calls allowed)
    (implies : ∀ op, allowed op → wider op) : program.Calls wider := by
  induction program with
  | done => trivial
  | call op next ih => exact ⟨implies op calls.1, fun answer => ih answer (calls.2 answer)⟩

theorem Calls.bind {allowed : Op → Prop} {program : Program Op Ans α} {after : α → Program Op Ans β}
    (first : program.Calls allowed) (rest : ∀ value, (after value).Calls allowed) :
    (program >>= after).Calls allowed := by
  induction program with
  | done value => exact rest value
  | call op next ih => exact ⟨first.1, fun answer => ih answer (first.2 answer)⟩

end Program

inductive Runs (exec : Semantics Op Ans σ) : Program Op Ans α → σ → α → σ → Prop
  | done {value s} : Runs exec (.done value) s value s
  | call {op next s answer middle value s'} : exec op s answer middle →
      Runs exec (next answer) middle value s' → Runs exec (.call op next) s value s'

namespace Runs

variable {exec : Semantics Op Ans σ}

@[simp] theorem done_iff {value result : α} {s s' : σ} :
    Runs exec (.done value) s result s' ↔ result = value ∧ s' = s := by
  constructor
  · rintro ⟨⟩
    exact ⟨rfl, rfl⟩
  · rintro ⟨rfl, rfl⟩
    exact .done

theorem call_iff {op : Op} {next : Ans op → Program Op Ans α} {s s' : σ} {result : α} :
    Runs exec (.call op next) s result s' ↔
      ∃ answer middle, exec op s answer middle ∧ Runs exec (next answer) middle result s' := by
  constructor
  · intro run
    cases run with
    | call step rest => exact ⟨_, _, step, rest⟩
  · rintro ⟨_, _, step, rest⟩
    exact .call step rest

theorem bind_iff {program : Program Op Ans α} {after : α → Program Op Ans β} {s s' : σ} {result : β} :
    Runs exec (program >>= after) s result s' ↔
      ∃ value middle, Runs exec program s value middle ∧ Runs exec (after value) middle result s' := by
  induction program generalizing s with
  | done value =>
    simp only [Program.done_bind, done_iff]
    constructor
    · exact fun run => ⟨value, s, ⟨rfl, rfl⟩, run⟩
    · rintro ⟨_, _, ⟨rfl, rfl⟩, run⟩
      exact run
  | call op next ih =>
    simp only [Program.call_bind, call_iff, ih]
    constructor
    · rintro ⟨answer, first, step, value, middle, run, rest⟩
      exact ⟨value, middle, ⟨answer, first, step, run⟩, rest⟩
    · rintro ⟨value, middle, ⟨answer, first, step, run⟩, rest⟩
      exact ⟨answer, first, step, value, middle, run, rest⟩

theorem except_bind_iff {program : ExceptT ε (Program Op Ans) α}
    {after : α → ExceptT ε (Program Op Ans) β} {s s' : σ} {result : Except ε β} :
    Runs exec (program >>= after).run s result s' ↔
      (∃ error, Runs exec program.run s (.error error) s' ∧ result = .error error) ∨
      ∃ value middle, Runs exec program.run s (.ok value) middle ∧ Runs exec (after value).run middle result s' := by
  rw [ExceptT.run_bind, bind_iff]
  constructor
  · rintro ⟨value | value, middle, run, rest⟩
    · obtain ⟨rfl, rfl⟩ := done_iff.mp rest
      exact .inl ⟨value, run, rfl⟩
    · exact .inr ⟨value, middle, run, rest⟩
  · rintro (⟨error, run, rfl⟩ | ⟨value, middle, run, rest⟩)
    · exact ⟨_, _, run, .done⟩
    · exact ⟨_, _, run, rest⟩

theorem of_eval {answer : (op : Op) → σ → Ans op × σ}
    (allowed : ∀ op s, exec op s (answer op s).1 (answer op s).2) (program : Program Op Ans α) (s : σ) :
    Runs exec program s (program.eval answer s).1 (program.eval answer s).2 := by
  induction program generalizing s with
  | done => exact .done
  | call op next ih => exact .call (allowed op s) (ih _ _)

theorem invariant {allowed : Op → Prop} {holds : σ → Prop}
    (step : ∀ op s answer s', allowed op → exec op s answer s' → holds s → holds s')
    {program : Program Op Ans α} {s s' : σ} {result : α} (calls : program.Calls allowed)
    (run : Runs exec program s result s') (start : holds s) : holds s' := by
  induction run with
  | done => exact start
  | call stepped _ ih => exact ih (calls.2 _) (step _ _ _ _ calls.1 stepped start)

end Runs

end

variable {Op : Type} {Ans : Op → Type} {α β ε σ ι : Type}

namespace Leads

variable {exec : Semantics Op Ans σ} {pre : σ → Prop} {post : α → σ → Prop}

end Leads

end Interleaving
