import Bnbera.Interleaving.Pool

namespace Interleaving

variable {Op : Type} {Ans : Op → Type} {α β ε σ : Type}

structure Answered (Op : Type) (Ans : Op → Type) where
  op : Op
  answer : Ans op

abbrev History (Op : Type) (Ans : Op → Type) := List (Answered Op Ans)

/-- The contract of a program with its own history: whatever it is answered, each of its calls is
permitted by the history before it, and so is what it returns by the whole history. -/
inductive Keeps (guard : History Op Ans → Op → Prop) (post : α → History Op Ans → Prop) :
    Program Op Ans α → History Op Ans → Prop
  | done {value history} : post value history → Keeps guard post (.done value) history
  | call {op next history} : guard history op → (∀ answer, Keeps guard post (next answer) (history ++ [⟨op, answer⟩])) →
      Keeps guard post (.call op next) history

namespace Keeps

variable {guard weaker : History Op Ans → Op → Prop} {history : History Op Ans}

theorem result {post : α → History Op Ans → Prop} {value : α} (keeps : Keeps guard post (.done value) history) :
    post value history := by
  cases keeps with
  | done holds => exact holds

theorem permitted {post : α → History Op Ans → Prop} {op : Op} {next : Ans op → Program Op Ans α}
    (keeps : Keeps guard post (.call op next) history) : guard history op := by
  cases keeps with
  | call permitted _ => exact permitted

theorem rest {post : α → History Op Ans → Prop} {op : Op} {next : Ans op → Program Op Ans α}
    (keeps : Keeps guard post (.call op next) history) (answer : Ans op) :
    Keeps guard post (next answer) (history ++ [⟨op, answer⟩]) := by
  cases keeps with
  | call _ rest => exact rest answer

theorem mono {post looser : α → History Op Ans → Prop} {program : Program Op Ans α}
    (keeps : Keeps guard post program history) (guards : ∀ history op, guard history op → weaker history op)
    (implies : ∀ value history, post value history → looser value history) :
    Keeps weaker looser program history := by
  induction keeps with
  | done holds => exact .done (implies _ _ holds)
  | call permitted _ ih => exact .call (guards _ _ permitted) ih

theorem post {post looser : α → History Op Ans → Prop} {program : Program Op Ans α}
    (keeps : Keeps guard post program history) (implies : ∀ value history, post value history → looser value history) :
    Keeps guard looser program history :=
  keeps.mono (fun _ _ permitted => permitted) implies

theorem grows {post : α → History Op Ans → Prop} {program : Program Op Ans α} (keeps : Keeps guard post program history) :
    Keeps guard (fun value after => post value after ∧ ∀ entry ∈ history, entry ∈ after) program history := by
  induction keeps with
  | done holds => exact .done ⟨holds, fun _ member => member⟩
  | call permitted _ ih =>
    refine .call permitted fun answer => (ih answer).post fun _ _ holds => ⟨holds.1, fun entry member => ?_⟩
    exact holds.2 entry (List.mem_append_left _ member)

theorem bind {post : β → History Op Ans → Prop} {program : Program Op Ans α} {after : α → Program Op Ans β}
    (keeps : Keeps guard (fun value history => Keeps guard post (after value) history) program history) :
    Keeps guard post (program >>= after) history := by
  generalize same : (fun value history => Keeps guard post (after value) history) = middle at keeps
  induction keeps with
  | done holds =>
    subst same
    exact holds
  | call permitted _ ih => exact .call permitted ih

theorem except_bind {post : Except ε β → History Op Ans → Prop} {program : ExceptT ε (Program Op Ans) α}
    {after : α → ExceptT ε (Program Op Ans) β}
    (keeps : Keeps guard (fun result history => match result with
      | .ok value => Keeps guard post (after value).run history
      | .error error => post (.error error) history) program.run history) :
    Keeps guard post (program >>= after).run history := by
  rw [ExceptT.run_bind]
  refine bind (keeps.post ?_)
  rintro (error | value) history holds
  · exact .done holds
  · exact holds

theorem outcome_bind {post : Except ε β → History Op Ans → Prop} {program : Program Op Ans α}
    {after : α → ExceptT ε (Program Op Ans) β}
    (keeps : Keeps guard (fun value history => Keeps guard post (after value).run history) program history) :
    Keeps guard post (ExceptT.lift program >>= after).run history := by
  have same : (ExceptT.lift program >>= after).run = program >>= fun value => (after value).run := by
    rw [ExceptT.run_bind_lift]
  rw [same]
  exact bind keeps

theorem ask_bind {post : Except ε β → History Op Ans → Prop} {op : Op} {after : Ans op → ExceptT ε (Program Op Ans) β}
    (permitted : guard history op)
    (rest : ∀ answer, Keeps guard post (after answer).run (history ++ [⟨op, answer⟩])) :
    Keeps guard post (ExceptT.lift (Program.ask op) >>= after).run history :=
  outcome_bind (.call permitted fun answer => .done (rest answer))

theorem except_map {post : Except ε β → History Op Ans → Prop} {program : ExceptT ε (Program Op Ans) α} {change : α → β}
    (keeps : Keeps guard (fun result history => post (result.map change) history) program.run history) :
    Keeps guard post (change <$> program).run history := by
  rw [ExceptT.run_map]
  refine bind (keeps.post fun result history holds => ?_)
  exact .done holds

end Keeps

/-- A program after a part of its run, whose calls were answered as the history says. -/
inductive Follows (start : Program Op Ans α) : History Op Ans → Program Op Ans α → Prop
  | nil : Follows start [] start
  | next {history op next answer} : Follows start history (.call op next) →
      Follows start (history ++ [⟨op, answer⟩]) (next answer)

theorem Follows.keeps_after {guard : History Op Ans → Op → Prop} {post : α → History Op Ans → Prop}
    {start program : Program Op Ans α} {before history : History Op Ans} (follows : Follows start history program)
    (keeps : Keeps guard post start before) : Keeps guard post program (before ++ history) := by
  induction follows with
  | nil => rwa [List.append_nil]
  | @next history op next answer _ ih =>
    rw [← List.append_assoc]
    exact ih.rest answer

theorem Follows.keeps {guard : History Op Ans → Op → Prop} {post : α → History Op Ans → Prop}
    {start program : Program Op Ans α} {history : History Op Ans} (follows : Follows start history program)
    (keeps : Keeps guard post start []) : Keeps guard post program history :=
  follows.keeps_after keeps

def Program.transcript (answers : (op : Op) → Ans op) : Program Op Ans α → History Op Ans × α
  | done value => ([], value)
  | call op next => (⟨op, answers op⟩ :: (transcript answers (next (answers op))).1, (transcript answers (next (answers op))).2)

theorem Program.transcript_answers {answers : (op : Op) → Ans op} {program : Program Op Ans α} :
    ∀ entry ∈ (program.transcript answers).1, entry.answer = answers entry.op := by
  induction program with
  | done => exact fun _ member => (List.not_mem_nil member).elim
  | call op next ih => exact List.forall_mem_cons.mpr ⟨rfl, ih (answers op)⟩

theorem Follows.prepend {op : Op} {answer : Ans op} {next : Ans op → Program Op Ans α} {program : Program Op Ans α}
    {history : History Op Ans} (follows : Follows (next answer) history program) :
    Follows (.call op next) (⟨op, answer⟩ :: history) program := by
  induction follows with
  | nil => exact Follows.nil.next
  | next _ ih => exact ih.next

theorem Follows.transcript (answers : (op : Op) → Ans op) (program : Program Op Ans α) :
    Follows program (program.transcript answers).1 (.done (program.transcript answers).2) := by
  induction program with
  | done => exact .nil
  | call op next ih => exact (ih (answers op)).prepend

namespace System

variable {Req Res : Type} {system : System Req Op Ans Res σ}

/-- The state keeps a log of the calls that were made, in order, by the numbers of their threads. -/
structure Logs (system : System Req Op Ans Res σ) (log : σ → List (Nat × Answered Op Ans)) : Prop where
  exec : ∀ i request op before answer after, system.exec i request op before answer after →
    log after = log before ++ [(i, ⟨op, answer⟩)]
  environment : ∀ before after, system.environment before after → log after = log before

def ownCalls (log : List (Nat × Answered Op Ans)) (i : Nat) : History Op Ans :=
  (log.filter fun entry => entry.1 = i).map (·.2)

theorem ownCalls_append {log rest : List (Nat × Answered Op Ans)} {i : Nat} :
    ownCalls (log ++ rest) i = ownCalls log i ++ ownCalls rest i := by
  simp only [ownCalls, List.filter_append, List.map_append]

theorem ownCalls_self {entry : Answered Op Ans} {i : Nat} : ownCalls [(i, entry)] i = [entry] := by
  simp [ownCalls]

theorem ownCalls_other {entry : Answered Op Ans} {i j : Nat} (apart : j ≠ i) : ownCalls [(j, entry)] i = [] := by
  simp [ownCalls, apart]

theorem mem_ownCalls {log : List (Nat × Answered Op Ans)} {i : Nat} {entry : Answered Op Ans} :
    entry ∈ ownCalls log i ↔ (i, entry) ∈ log := by
  simp [ownCalls]

variable {log : σ → List (Nat × Answered Op Ans)} {initial : σ → Prop} {pool : Pool Req Op Ans Res σ}

theorem Reach.requests {known : Req → Prop} (reach : system.Reach initial pool)
    (starts : ∀ pool request, system.mayStart pool request → known request) {i : Nat} {thread : Thread Req Op Ans Res}
    (found : pool.threads[i]? = some thread) : known thread.request := by
  induction reach generalizing i thread with
  | start => simp at found
  | next _ step ih =>
    rcases step.thread found with ⟨allowed, _⟩ | ⟨old, _⟩ | ⟨_, _, _, old, _⟩
    · exact starts _ _ allowed
    · exact ih old
    · have before := ih old
      exact before

theorem Reach.logged (reach : system.Reach initial pool) (logs : system.Logs log) (empty : ∀ s, initial s → log s = []) :
    ∀ entry ∈ log pool.state, entry.1 < pool.threads.length := by
  induction reach with
  | start first =>
    intro entry member
    rw [empty _ first] at member
    cases member
  | @next before after previous step ih =>
    cases step with
    | start =>
      intro entry member
      have old := ih entry member
      rw [List.length_append]
      omega
    | @call i request op next answer s found called =>
      intro entry member
      rw [List.length_set]
      rw [logs.exec _ _ _ _ _ _ called] at member
      rcases List.mem_append.mp member with old | new
      · exact ih entry old
      · cases List.mem_singleton.mp new
        exact (List.getElem?_eq_some_iff.mp found).1
    | environment moved =>
      rw [logs.environment _ _ moved]
      exact ih

/-- What a thread still has to do follows from its handler by the calls it logged. -/
theorem Reach.follows (reach : system.Reach initial pool) (logs : system.Logs log) (empty : ∀ s, initial s → log s = [])
    {i : Nat} {thread : Thread Req Op Ans Res} (found : pool.threads[i]? = some thread) :
    Follows (system.handler thread.request) (ownCalls (log pool.state) i) thread.program := by
  induction reach generalizing i thread with
  | start => simp at found
  | @next before after previous step ih =>
    cases step with
    | @start request allowed =>
      rcases Nat.lt_or_ge i before.threads.length with old | new
      · rw [List.getElem?_append_left old] at found
        exact ih found
      · have same : i = before.threads.length := by
          have bound := (List.getElem?_eq_some_iff.mp found).1
          simp only [List.length_append, List.length_singleton] at bound
          omega
        subst same
        rw [List.getElem?_concat_length] at found
        cases Option.some.inj found
        have unused : ownCalls (log before.state) before.threads.length = [] := by
          refine List.eq_nil_iff_forall_not_mem.mpr fun entry member => ?_
          exact absurd (previous.logged logs empty _ (mem_ownCalls.mp member)) (Nat.lt_irrefl _)
        show Follows _ (ownCalls (log before.state) before.threads.length) _
        rw [unused]
        exact .nil
    | @call j request op next answer s atThread called =>
      show Follows _ (ownCalls (log s) i) _
      rw [logs.exec _ _ _ _ _ _ called, ownCalls_append]
      by_cases same : j = i
      · subst same
        rw [List.getElem?_set_self (List.getElem?_eq_some_iff.mp atThread).1] at found
        cases Option.some.inj found
        rw [ownCalls_self]
        exact (ih atThread).next
      · rw [List.getElem?_set_ne same] at found
        rw [ownCalls_other same, List.append_nil]
        exact ih found
    | environment moved =>
      show Follows _ (ownCalls (log _) i) _
      rw [logs.environment _ _ moved]
      exact ih found

theorem Reach.guarded {holds : σ → Prop} {guard : Req → History Op Ans → Op → Prop}
    {post : Req → Res → History Op Ans → Prop} (reach : system.Reach initial pool) (logs : system.Logs log)
    (empty : ∀ s, initial s → log s = [])
    (contract : ∀ request, Keeps (guard request) (post request) (system.handler request) [])
    (start : ∀ s, initial s → holds s)
    (exec : ∀ pool i request op next answer after, system.Reach initial pool →
      pool.threads[i]? = some ⟨request, .call op next⟩ → system.exec i request op pool.state answer after →
      guard request (ownCalls (log pool.state) i) op → holds pool.state → holds after)
    (environment : ∀ before after, system.environment before after → holds before → holds after) :
    holds pool.state := by
  induction reach with
  | start first => exact start _ first
  | @next before after previous step ih =>
    cases step with
    | start => exact ih
    | @call i request op next answer s found called =>
      have keeps := (previous.follows logs empty found).keeps (contract request)
      exact exec before i request op next answer s previous found called keeps.permitted ih
    | environment moved => exact environment _ _ moved ih

theorem Reach.returned {guard : Req → History Op Ans → Op → Prop} {post : Req → Res → History Op Ans → Prop}
    (reach : system.Reach initial pool) (logs : system.Logs log) (empty : ∀ s, initial s → log s = [])
    (contract : ∀ request, Keeps (guard request) (post request) (system.handler request) []) {i : Nat} {request : Req}
    {result : Res} (found : pool.threads[i]? = some ⟨request, .done result⟩) :
    post request result (ownCalls (log pool.state) i) :=
  ((reach.follows logs empty found).keeps (contract request)).result

end System

end Interleaving
