import Bnbera.Interleaving.Traces

namespace Interleaving

section

section

variable {Op : Type} {Ans : Op → Type} {α β ε σ : Type}

theorem Keeps.lift_bind {guard : History Op Ans → Op → Prop} {post : Except ε α → History Op Ans → Prop}
    {history : History Op Ans} {result : Except ε β} {rest : β → ExceptT ε (Program Op Ans) α}
    (failed : ∀ error, result = .error error → post (.error error) history)
    (passed : ∀ value, result = .ok value → Keeps guard post (rest value).run history) :
    Keeps guard post ((liftM result : ExceptT ε (Program Op Ans) β) >>= rest).run history := by
  cases result with
  | error error => exact .done (failed error rfl)
  | ok value => exact passed value rfl

theorem Keeps.settle_bind {guard : History Op Ans → Op → Prop} {post : Except ε α → History Op Ans → Prop}
    {history : History Op Ans} {result : Except ε β} {rest : β → ExceptT ε (Program Op Ans) α}
    (failed : ∀ error, post (.error error) history)
    (passed : ∀ value, result = .ok value → Keeps guard post (rest value).run history) :
    Keeps guard post ((liftM result : ExceptT ε (Program Op Ans) β) >>= rest).run history :=
  Keeps.lift_bind (fun error _ => failed error) passed

theorem Keeps.renamed {guard : History Op Ans → Op → Prop} {post : Except ε α → History Op Ans → Prop}
    {history : History Op Ans} {program : ExceptT ε (Program Op Ans) α} (keeps : Keeps guard post program.run history)
    (change : α → β) :
    Keeps guard (fun result history => ∃ inner, result = inner.map change ∧ post inner history)
      (change <$> program).run history :=
  .except_map (keeps.post fun result _ holds => ⟨result, rfl, holds⟩)

theorem Keeps.except_catch {guard : History Op Ans → Op → Prop} {post : Except ε α → History Op Ans → Prop}
    {history : History Op Ans} {program : ExceptT ε (Program Op Ans) α} {handle : ε → ExceptT ε (Program Op Ans) α}
    (keeps : Keeps guard (fun result history => match result with
      | .ok value => post (.ok value) history
      | .error error => Keeps guard post (handle error).run history) program.run history) :
    Keeps guard post (tryCatch program handle).run history := by
  refine bind (keeps.post ?_)
  rintro (error | value) history holds
  · exact holds
  · exact .done holds

theorem Follows.permitted {guard : History Op Ans → Op → Prop} {post : α → History Op Ans → Prop}
    {start program : Program Op Ans α} {before history earlier later : History Op Ans} {entry : Answered Op Ans}
    (follows : Follows start history program) (keeps : Keeps guard post start before)
    (split : history = earlier ++ entry :: later) : guard (before ++ earlier) entry.op := by
  induction follows generalizing later with
  | nil => simp at split
  | @next history op next answer follows ih =>
    rcases List.eq_nil_or_concat later with rfl | ⟨middle, last, rfl⟩
    · obtain ⟨rfl, same⟩ := List.append_inj' split rfl
      cases List.singleton_inj.mp same
      exact (follows.keeps_after keeps).permitted
    · have longer : history ++ [⟨op, answer⟩] = (earlier ++ entry :: middle) ++ [last] := by
        rw [split, List.concat_eq_append, List.append_assoc, List.cons_append]
      exact ih (List.append_inj' longer rfl).1

namespace System

variable {Req Res : Type} {system : System Req Op Ans Res σ} {log : σ → List (Nat × Answered Op Ans)}
  {initial : σ → Prop} {pool : Pool Req Op Ans Res σ}

theorem Reach.caller (reach : system.Reach initial pool) (logs : system.Logs log) (empty : ∀ s, initial s → log s = [])
    {i : Nat} {entry : Answered Op Ans} (member : (i, entry) ∈ log pool.state) :
    ∃ thread, pool.threads[i]? = some thread :=
  ⟨_, List.getElem?_eq_getElem (reach.logged logs empty _ member)⟩

theorem Reach.permitted {guard : Req → History Op Ans → Op → Prop} {post : Req → Res → History Op Ans → Prop}
    (reach : system.Reach initial pool) (logs : system.Logs log) (empty : ∀ s, initial s → log s = [])
    (contract : ∀ request, Keeps (guard request) (post request) (system.handler request) []) {i : Nat}
    {thread : Thread Req Op Ans Res} (found : pool.threads[i]? = some thread) {earlier later : History Op Ans}
    {entry : Answered Op Ans} (split : ownCalls (log pool.state) i = earlier ++ entry :: later) :
    guard thread.request earlier entry.op :=
  (reach.follows logs empty found).permitted (contract thread.request) split

end System

end

variable {Op : Type} {Value : Op → Type} {α β ε : Type}

def Program.attempt (op : Op) : ExceptT ε (Program Op fun op => Except ε (Value op)) (Value op) :=
  ExceptT.mk (Program.ask op)

/-- The contract of a program that may throw: each of its calls is permitted by the calls before it, and what it
returns is warranted by all of them. -/
def Warrants {Ans : Op → Type} (guard : History Op Ans → Op → Prop) (fact : α → History Op Ans → Prop)
    (program : ExceptT ε (Program Op Ans) α) (history : History Op Ans) : Prop :=
  Keeps guard (fun result history => ∀ value, result = .ok value → fact value history) program.run history

namespace Warrants

section
variable {Ans : Op → Type} {guard : History Op Ans → Op → Prop} {history : History Op Ans} {fact : α → History Op Ans → Prop}

theorem returned {value : α} (holds : fact value history) :
    Warrants guard fact (pure value : ExceptT ε (Program Op Ans) α) history := by
  refine Keeps.done fun result same => ?_
  cases same
  exact holds

theorem thrown {error : ε} : Warrants guard fact (throw error : ExceptT ε (Program Op Ans) α) history :=
  Keeps.done fun _ same => nomatch same

theorem bind {program : ExceptT ε (Program Op Ans) α} {rest : α → ExceptT ε (Program Op Ans) β}
    {final : β → History Op Ans → Prop} (first : Warrants guard fact program history)
    (after : ∀ value later, (∀ entry ∈ history, entry ∈ later) → fact value later → Warrants guard final (rest value) later) :
    Warrants guard final (program >>= rest) history := by
  refine Keeps.except_bind ((Keeps.grows first).post fun result later holds => ?_)
  cases result with
  | error error => exact fun value same => nomatch same
  | ok value => exact after value later holds.2 (holds.1 value rfl)

theorem bind_any {program : ExceptT ε (Program Op Ans) α} {rest : α → ExceptT ε (Program Op Ans) β}
    {final : β → History Op Ans → Prop} (first : Warrants guard (fun _ _ => True) program history)
    (after : ∀ value later, (∀ entry ∈ history, entry ∈ later) → Warrants guard final (rest value) later) :
    Warrants guard final (program >>= rest) history :=
  first.bind fun value later grown _ => after value later grown

theorem settled {result : Except ε α} (holds : ∀ value, result = .ok value → fact value history) :
    Warrants guard fact (liftM result : ExceptT ε (Program Op Ans) α) history := by
  cases result with
  | error error => exact thrown
  | ok value => exact returned (holds value rfl)

theorem settled_bind {result : Except ε α} {rest : α → ExceptT ε (Program Op Ans) β} {final : β → History Op Ans → Prop}
    (after : ∀ value, result = .ok value → Warrants guard final (rest value) history) :
    Warrants guard final ((liftM result : ExceptT ε (Program Op Ans) α) >>= rest) history := by
  cases result with
  | error error => exact thrown
  | ok value => exact after value rfl

theorem caught {program : ExceptT ε (Program Op Ans) α} {handle : ε → ExceptT ε (Program Op Ans) α}
    (first : Warrants guard fact program history)
    (after : ∀ error later, (∀ entry ∈ history, entry ∈ later) → Warrants guard fact (handle error) later) :
    Warrants guard fact (tryCatch program handle) history := by
  refine Keeps.except_catch ((Keeps.grows first).post fun result later holds => ?_)
  cases result with
  | error error => exact after error later holds.2
  | ok value => exact holds.1

theorem map {change : α → β} {final : β → History Op Ans → Prop} {program : ExceptT ε (Program Op Ans) α}
    (first : Warrants guard (fun value => final (change value)) program history) : Warrants guard final (change <$> program) history := by
  rw [map_eq_pure_bind]
  exact bind first fun _ _ _ holds => returned holds

end

variable {guard : History Op (fun op => Except ε (Value op)) → Op → Prop} {history : History Op fun op => Except ε (Value op)}

theorem asked {op : Op} {fact : Value op → History Op (fun op => Except ε (Value op)) → Prop} (permitted : guard history op)
    (holds : ∀ value, fact value (history ++ [⟨op, .ok value⟩])) : Warrants guard fact (Program.attempt op) history := by
  refine Keeps.call permitted fun answer => Keeps.done fun value same => ?_
  cases same
  exact holds value

theorem asked_any (op : Op) (permitted : guard history op) :
    Warrants guard (fun _ _ => True) (Program.attempt op) history :=
  asked permitted fun _ => trivial

theorem asked_bind {op : Op} {rest : Value op → ExceptT ε (Program Op fun op => Except ε (Value op)) β}
    {final : β → History Op (fun op => Except ε (Value op)) → Prop} (permitted : guard history op)
    (after : ∀ value, Warrants guard final (rest value) (history ++ [⟨op, .ok value⟩])) :
    Warrants guard final (Program.attempt op >>= rest) history := by
  refine Keeps.except_bind (Keeps.call permitted fun answer => Keeps.done ?_)
  cases answer with
  | error error => exact fun value same => nomatch same
  | ok value => exact after value

end Warrants

end

variable {Op : Type} {Ans : Op → Type} {α β ε σ : Type}

def Truthful (truth : Answered Op Ans → Prop) (history : History Op Ans) : Prop := ∀ entry ∈ history, truth entry

theorem Truthful.snoc {truth : Answered Op Ans → Prop} {history : History Op Ans} {entry : Answered Op Ans} :
    Truthful truth (history ++ [entry]) ↔ Truthful truth history ∧ truth entry := by
  constructor
  · exact fun truthful => ⟨fun old member => truthful old (List.mem_append_left _ member),
      truthful entry (List.mem_append_right _ (List.mem_singleton_self _))⟩
  · rintro ⟨old, new⟩ other member
    rcases List.mem_append.mp member with earlier | last
    · exact old other earlier
    · exact List.mem_singleton.mp last ▸ new

def Relies (truth : Answered Op Ans → Prop) (guard : History Op Ans → Op → Prop) (post : α → History Op Ans → Prop)
    (program : Program Op Ans α) (history : History Op Ans) : Prop :=
  Keeps (fun history op => Truthful truth history → guard history op)
    (fun value history => Truthful truth history → post value history) program history

namespace Relies

variable {truth : Answered Op Ans → Prop} {guard : History Op Ans → Op → Prop} {history : History Op Ans}

theorem done {post : α → History Op Ans → Prop} {value : α} (holds : post value history) :
    Relies truth guard post (.done value) history :=
  Keeps.done fun _ => holds

theorem of_untrue {post : α → History Op Ans → Prop} {program : Program Op Ans α} (untrue : ¬Truthful truth history) :
    Relies truth guard post program history := by
  induction program generalizing history with
  | done value => exact Keeps.done fun truthful => absurd truthful untrue
  | call op next ih =>
    refine Keeps.call (fun truthful => absurd truthful untrue) fun answer => ih answer fun truthful => untrue ?_
    exact (Truthful.snoc.mp truthful).1

theorem of_truthful {post : α → History Op Ans → Prop} {program : Program Op Ans α}
    (relies : Truthful truth history → Relies truth guard post program history) : Relies truth guard post program history := by
  by_cases truthful : Truthful truth history
  · exact relies truthful
  · exact of_untrue truthful

theorem call {post : α → History Op Ans → Prop} {op : Op} {next : Ans op → Program Op Ans α} (permitted : guard history op)
    (rest : ∀ answer, truth ⟨op, answer⟩ → Relies truth guard post (next answer) (history ++ [⟨op, answer⟩])) :
    Relies truth guard post (.call op next) history := by
  refine Keeps.call (fun _ => permitted) fun answer => of_truthful fun truthful => ?_
  exact rest answer (Truthful.snoc.mp truthful).2

theorem post {post looser : α → History Op Ans → Prop} {program : Program Op Ans α}
    (relies : Relies truth guard post program history) (implies : ∀ value history, post value history → looser value history) :
    Relies truth guard looser program history :=
  Keeps.post relies fun value history holds truthful => implies value history (holds truthful)

theorem bind {post : β → History Op Ans → Prop} {program : Program Op Ans α} {after : α → Program Op Ans β}
    (relies : Relies truth guard (fun value history => Relies truth guard post (after value) history) program history) :
    Relies truth guard post (program >>= after) history :=
  Keeps.bind (Keeps.post relies fun _ _ rest => of_truthful rest)

theorem except_bind {post : Except ε β → History Op Ans → Prop} {program : ExceptT ε (Program Op Ans) α}
    {after : α → ExceptT ε (Program Op Ans) β}
    (relies : Relies truth guard (fun result history => match result with
      | .ok value => Relies truth guard post (after value).run history
      | .error error => post (.error error) history) program.run history) :
    Relies truth guard post (program >>= after).run history := by
  rw [ExceptT.run_bind]
  refine bind (relies.post ?_)
  rintro (error | value) history holds
  · exact done holds
  · exact holds

end Relies

namespace System

variable {Req Res : Type} {system : System Req Op Ans Res σ} {log : σ → List (Nat × Answered Op Ans)} {initial : σ → Prop}
  {pool : Pool Req Op Ans Res σ} {truth : Answered Op Ans → Prop}

end System

def Program.Guarded (may : (op : Op) → Ans op → Prop) (permitted : Op → Prop) : Program Op Ans α → Prop
  | .done _ => True
  | .call op next => permitted op ∧ ∀ answer, may op answer → (next answer).Guarded may permitted

namespace Program.Guarded

variable {may : (op : Op) → Ans op → Prop} {permitted : Op → Prop}

theorem bind {program : Program Op Ans α} {after : α → Program Op Ans β} (first : program.Guarded may permitted)
    (rest : ∀ value, (after value).Guarded may permitted) : (program >>= after).Guarded may permitted := by
  induction program with
  | done value => exact rest value
  | call op next ih => exact ⟨first.1, fun answer true => ih answer (first.2 answer true)⟩

theorem except_bind {program : ExceptT ε (Program Op Ans) α} {after : α → ExceptT ε (Program Op Ans) β}
    (first : program.run.Guarded may permitted) (rest : ∀ value, (after value).run.Guarded may permitted) :
    (program >>= after).run.Guarded may permitted := by
  rw [ExceptT.run_bind]
  refine bind first ?_
  rintro (error | value)
  · trivial
  · exact rest value

theorem attempt_bind {Value : Op → Type} {may : (op : Op) → Except ε (Value op) → Prop} {op : Op}
    {after : Value op → ExceptT ε (Program Op fun op => Except ε (Value op)) β} (allowed : permitted op)
    (rest : ∀ value, may op (.ok value) → (after value).run.Guarded may permitted) :
    (Program.attempt op >>= after).run.Guarded may permitted := by
  rw [ExceptT.run_bind]
  refine ⟨allowed, ?_⟩
  rintro (error | value) true
  · trivial
  · exact rest value true

end Program.Guarded

/-- An invariant of the shared state that every permitted call keeps, and under which every answer is one that may come. -/
theorem System.Reach.permitted_calls {Req Res : Type} {system : System Req Op Ans Res σ} {initial holds : σ → Prop}
    {pool : Pool Req Op Ans Res σ} {may : (op : Op) → Ans op → Prop} {permitted : Op → Prop}
    (reach : system.Reach initial pool) (handlers : ∀ request, (system.handler request).Guarded may permitted)
    (start : ∀ s, initial s → holds s)
    (exec : ∀ i request op before answer after, permitted op → system.exec i request op before answer after →
      holds before → may op answer ∧ holds after)
    (environment : ∀ before after, system.environment before after → holds before → holds after) :
    holds pool.state ∧ ∀ (i : Nat) (thread : Thread Req Op Ans Res), pool.threads[i]? = some thread →
      thread.program.Guarded may permitted := by
  induction reach with
  | start first =>
    refine ⟨start _ first, fun i thread found => ?_⟩
    rw [List.getElem?_nil] at found
    cases found
  | @next before after previous step ih =>
    have kept : ∀ (i : Nat) (thread : Thread Req Op Ans Res), after.threads[i]? = some thread →
        thread.program.Guarded may permitted := by
      intro i thread found
      rcases step.thread found with ⟨_, _, made, _⟩ | ⟨old, _⟩ | ⟨op, next, answer, old, made, called⟩
      · rw [made]
        exact handlers _
      · exact ih.2 i thread old
      · have guarded := ih.2 i _ old
        rw [made]
        exact guarded.2 answer (exec _ _ _ _ _ _ guarded.1 called ih.1).1
    refine ⟨?_, kept⟩
    cases step with
    | start => exact ih.1
    | call found called => exact (exec _ _ _ _ _ _ (ih.2 _ _ found).1 called ih.1).2
    | environment moved => exact environment _ _ moved ih.1

end Interleaving
