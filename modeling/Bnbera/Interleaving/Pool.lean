import Bnbera.Interleaving.Program

namespace Interleaving

section

/-- One request in progress: what was asked and what its program still has to do. -/
structure Thread (Req Op : Type) (Ans : Op → Type) (Res : Type) where
  request : Req
  program : Program Op Ans Res

structure Pool (Req Op : Type) (Ans : Op → Type) (Res σ : Type) where
  state : σ
  threads : List (Thread Req Op Ans Res)

/-- A service: every request runs its handler in a thread of its own. The number
of a thread is its identity, so `exec` may record who made a call. -/
structure System (Req Op : Type) (Ans : Op → Type) (Res σ : Type) where
  handler : Req → Program Op Ans Res
  exec : Nat → Req → Semantics Op Ans σ
  environment : σ → σ → Prop
  mayStart : Pool Req Op Ans Res σ → Req → Prop

variable {Req Op : Type} {Ans : Op → Type} {Res σ α β ε : Type}

namespace System

variable (system : System Req Op Ans Res σ)

/-- One step of the pool. A request may be delivered any number of times, and a
thread that is never chosen again models a crash of its process. -/
inductive Step : Pool Req Op Ans Res σ → Pool Req Op Ans Res σ → Prop
  | start {pool request} : system.mayStart pool request →
      Step pool ⟨pool.state, pool.threads ++ [⟨request, system.handler request⟩]⟩
  | call {pool : Pool Req Op Ans Res σ} {i request op next answer after} :
      pool.threads[i]? = some ⟨request, .call op next⟩ →
      system.exec i request op pool.state answer after →
      Step pool ⟨after, pool.threads.set i ⟨request, next answer⟩⟩
  | environment {pool after} : system.environment pool.state after →
      Step pool ⟨after, pool.threads⟩

inductive Reach (initial : σ → Prop) : Pool Req Op Ans Res σ → Prop
  | start {s} : initial s → Reach initial ⟨s, []⟩
  | next {before after} : Reach initial before → system.Step before after → Reach initial after

variable {system}

theorem Reach.invariant {initial holds : σ → Prop} {pool : Pool Req Op Ans Res σ}
    (reach : system.Reach initial pool) (start : ∀ s, initial s → holds s)
    (exec : ∀ i request op before answer after,
      system.exec i request op before answer after → holds before → holds after)
    (environment : ∀ before after, system.environment before after → holds before → holds after) :
    holds pool.state := by
  induction reach with
  | start first => exact start _ first
  | next _ step ih =>
    cases step with
    | start => exact ih
    | call _ called => exact exec _ _ _ _ _ _ called ih
    | environment moved => exact environment _ _ moved ih

/-- Where the thread with number `i` comes from: it just started, or it was there
before this step, with the same request. -/
theorem Step.thread {before after : Pool Req Op Ans Res σ} (step : system.Step before after) {i : Nat}
    {thread : Thread Req Op Ans Res} (found : after.threads[i]? = some thread) :
    (system.mayStart before thread.request ∧ i = before.threads.length ∧
      thread = ⟨thread.request, system.handler thread.request⟩ ∧ after.state = before.state) ∨
    before.threads[i]? = some thread ∧ (system.environment before.state after.state ∨ after.state = before.state ∨
      ∃ j request op next answer, j ≠ i ∧ before.threads[j]? = some ⟨request, .call op next⟩ ∧
        system.exec j request op before.state answer after.state) ∨
    ∃ op next answer, before.threads[i]? = some ⟨thread.request, .call op next⟩ ∧ thread.program = next answer ∧
      system.exec i thread.request op before.state answer after.state := by
  cases step with
  | @start request allowed =>
    rcases Nat.lt_or_ge i before.threads.length with old | new
    · rw [List.getElem?_append_left old] at found
      exact .inr (.inl ⟨found, .inr (.inl rfl)⟩)
    · have same : i = before.threads.length := by
        have bound := (List.getElem?_eq_some_iff.mp found).1
        simp only [List.length_append, List.length_singleton] at bound
        omega
      subst same
      rw [List.getElem?_concat_length] at found
      cases Option.some.inj found
      exact .inl ⟨allowed, rfl, rfl, rfl⟩
  | @call k request op next answer s' atThread called =>
    by_cases same : k = i
    · subst same
      rw [List.getElem?_set_self (List.getElem?_eq_some_iff.mp atThread).1] at found
      cases Option.some.inj found
      exact .inr (.inr ⟨op, next, answer, atThread, rfl, called⟩)
    · rw [List.getElem?_set_ne same] at found
      exact .inr (.inl ⟨found, .inr (.inr ⟨k, request, op, next, answer, same, atThread, called⟩)⟩)
  | environment moved => exact .inr (.inl ⟨found, .inl moved⟩)

/-- A fact about one thread and the shared state: it holds when the thread starts,
the thread's own calls keep it, and so does everyone else. -/
theorem Reach.thread {initial : σ → Prop} {pool : Pool Req Op Ans Res σ} {allowed : Req → Op → Prop}
    {holds : Nat → Req → σ → Prop} (reach : system.Reach initial pool)
    (only : ∀ request, (system.handler request).Calls (allowed request))
    (start : ∀ pool request, system.Reach initial pool → holds pool.threads.length request pool.state)
    (own : ∀ i request op before answer after, allowed request op →
      system.exec i request op before answer after → holds i request before → holds i request after)
    (others : ∀ i j request other op before answer after, j ≠ i →
      system.exec j other op before answer after → holds i request before → holds i request after)
    (environment : ∀ i request before after, system.environment before after →
      holds i request before → holds i request after)
    {i : Nat} {thread : Thread Req Op Ans Res} (found : pool.threads[i]? = some thread) :
    thread.program.Calls (allowed thread.request) ∧ holds i thread.request pool.state := by
  induction reach generalizing i thread with
  | start => simp at found
  | @next before after previous step ih =>
    rcases step.thread found with ⟨_, rfl, made, same⟩ | ⟨old, moved⟩ | ⟨op, next, answer, old, made, called⟩
    · rw [same]
      exact ⟨made ▸ only thread.request, start before thread.request previous⟩
    · obtain ⟨calls, held⟩ := ih old
      refine ⟨calls, ?_⟩
      rcases moved with moved | same | ⟨j, other, op, _, answer, differs, _, called⟩
      · exact environment _ _ _ _ moved held
      · exact same ▸ held
      · exact others _ _ _ _ _ _ _ _ differs called held
    · obtain ⟨calls, held⟩ := ih old
      exact ⟨made ▸ calls.2 answer, own _ _ _ _ _ _ calls.1 called held⟩

theorem Reach.runs {initial : σ → Prop} {s s' : σ} {threads : List (Thread Req Op Ans Res)}
    {i : Nat} {request : Req} {program : Program Op Ans Res} {result : Res}
    (reach : system.Reach initial ⟨s, threads⟩) (found : threads[i]? = some ⟨request, program⟩)
    (run : Runs (system.exec i request) program s result s') :
    system.Reach initial ⟨s', threads.set i ⟨request, .done result⟩⟩ := by
  induction run generalizing threads with
  | done =>
    obtain ⟨bound, same⟩ := List.getElem?_eq_some_iff.mp found
    rw [← same, List.set_getElem_self]
    exact reach
  | call stepped _ ih =>
    obtain ⟨bound, _⟩ := List.getElem?_eq_some_iff.mp found
    have next := ih (reach.next (.call found stepped)) (List.getElem?_set_self bound)
    rwa [List.set_set] at next

theorem Reach.handled {initial : σ → Prop} {pool : Pool Req Op Ans Res σ} {s' : σ} {request : Req} {result : Res}
    (reach : system.Reach initial pool) (allowed : system.mayStart pool request)
    (run : Runs (system.exec pool.threads.length request) (system.handler request) pool.state result s') :
    system.Reach initial ⟨s', pool.threads ++ [⟨request, .done result⟩]⟩ := by
  have finished := (reach.next (.start allowed)).runs (i := pool.threads.length)
    (List.getElem?_concat_length) run
  rwa [List.set_append_right _ _ (Nat.le_refl _), Nat.sub_self] at finished

end System

/-- The thread's view of a run. Between its calls others move as `rely` allows;
each call of its own stays within `guarantee`; what it returns satisfies `post`. -/
def Meets (exec : Semantics Op Ans σ) (rely guarantee : σ → σ → Prop) (post : α → σ → Prop) :
    Program Op Ans α → σ → Prop
  | .done value, s => ∀ s', rely s s' → post value s'
  | .call op next, s => ∀ s', rely s s' → ∀ answer after, exec op s' answer after →
      guarantee s' after ∧ Meets exec rely guarantee post (next answer) after

/-- What a thread may assume of the others: any number of their moves, and no move at all. -/
structure Rely (rely : σ → σ → Prop) : Prop where
  refl : ∀ s, rely s s
  trans : ∀ {s s' s''}, rely s s' → rely s' s'' → rely s s''

namespace Meets

variable {exec : Semantics Op Ans σ} {rely guarantee : σ → σ → Prop}

theorem stable {post : α → σ → Prop} {program : Program Op Ans α} {s s' : σ} (closed : Rely rely)
    (meets : Meets exec rely guarantee post program s) (moved : rely s s') :
    Meets exec rely guarantee post program s' := by
  cases program with
  | done => exact fun s'' later => meets s'' (closed.trans moved later)
  | call => exact fun s'' later => meets s'' (closed.trans moved later)

theorem mono {post weaker : α → σ → Prop} {program : Program Op Ans α} {s : σ}
    (meets : Meets exec rely guarantee post program s) (implies : ∀ value s, post value s → weaker value s) :
    Meets exec rely guarantee weaker program s := by
  induction program generalizing s with
  | done => exact fun s' moved => implies _ _ (meets s' moved)
  | call op next ih =>
    intro s' moved answer after called
    obtain ⟨kept, rest⟩ := meets s' moved answer after called
    exact ⟨kept, ih answer rest⟩

theorem bind {post : β → σ → Prop} {program : Program Op Ans α} {after : α → Program Op Ans β} {s : σ}
    (closed : Rely rely)
    (meets : Meets exec rely guarantee (fun value s => Meets exec rely guarantee post (after value) s) program s) :
    Meets exec rely guarantee post (program >>= after) s := by
  induction program generalizing s with
  | done => exact meets s (closed.refl s)
  | call op next ih =>
    intro s' moved answer after called
    obtain ⟨kept, rest⟩ := meets s' moved answer after called
    exact ⟨kept, ih answer rest⟩

theorem except_bind {post : Except ε β → σ → Prop} {program : ExceptT ε (Program Op Ans) α}
    {after : α → ExceptT ε (Program Op Ans) β} {s : σ} (closed : Rely rely)
    (meets : Meets exec rely guarantee (fun result s => match result with
      | .ok value => Meets exec rely guarantee post (after value).run s
      | .error error => Meets exec rely guarantee post (.done (.error error)) s) program.run s) :
    Meets exec rely guarantee post (program >>= after).run s := by
  rw [ExceptT.run_bind]
  refine bind closed (meets.mono ?_)
  rintro (error | value) s holds
  · exact holds
  · exact holds

theorem of_calls {allowed : Op → Prop} {holds : σ → Prop} {program : Program Op Ans α} {s : σ}
    (calls : program.Calls allowed) (others : ∀ s s', rely s s' → holds s → holds s')
    (kept : ∀ op s answer after, allowed op → exec op s answer after → holds s → guarantee s after ∧ holds after)
    (start : holds s) : Meets exec rely guarantee (fun _ s => holds s) program s := by
  induction program generalizing s with
  | done => exact fun s' moved => others s s' moved start
  | call op next ih =>
    intro s' moved answer after called
    obtain ⟨mine, still⟩ := kept op s' answer after calls.1 called (others s s' moved start)
    exact ⟨mine, ih answer (calls.2 answer) still⟩

end Meets

namespace System

variable {system : System Req Op Ans Res σ}

/-- What has to be checked for rely-guarantee reasoning about a service: each
thread alone, from the states it may start in, and that the moves of one thread
and of the environment are moves that every other thread relies on. -/
structure Contract (system : System Req Op Ans Res σ) (initial : σ → Prop)
    (rely guarantee : Nat → σ → σ → Prop) (post : Nat → Req → Res → σ → Prop) : Prop where
  closed : ∀ i, Rely (rely i)
  environment : ∀ i before after, system.environment before after → rely i before after
  fellows : ∀ i j before after, j ≠ i → guarantee i before after → rely j before after
  handlers : ∀ pool request, system.Reach initial pool → system.mayStart pool request →
    Meets (system.exec pool.threads.length request) (rely pool.threads.length) (guarantee pool.threads.length)
      (post pool.threads.length request) (system.handler request) pool.state

variable {initial : σ → Prop} {rely guarantee : Nat → σ → σ → Prop} {post : Nat → Req → Res → σ → Prop}
  {pool : Pool Req Op Ans Res σ}

theorem Contract.meets (contract : system.Contract initial rely guarantee post) (reach : system.Reach initial pool)
    {i : Nat} {thread : Thread Req Op Ans Res} (found : pool.threads[i]? = some thread) :
    Meets (system.exec i thread.request) (rely i) (guarantee i) (post i thread.request) thread.program
      pool.state := by
  induction reach generalizing i thread with
  | start => simp at found
  | @next before after previous step ih =>
    rcases step.thread found with ⟨allowed, rfl, made, same⟩ | ⟨old, moved⟩ | ⟨op, next, answer, old, made, called⟩
    · rw [same, made]
      exact contract.handlers _ _ previous allowed
    · refine (ih old).stable (contract.closed i) ?_
      rcases moved with moved | same | ⟨j, other, op, next, answer, differs, atThread, called⟩
      · exact contract.environment i _ _ moved
      · exact same ▸ (contract.closed i).refl _
      · exact contract.fellows j i _ _ (Ne.symm differs) (ih atThread _ ((contract.closed j).refl _) answer _ called).1
    · rw [made]
      exact (ih old _ ((contract.closed i).refl _) answer _ called).2

theorem Contract.post_of_done (contract : system.Contract initial rely guarantee post)
    (reach : system.Reach initial pool) {i : Nat} {request : Req} {result : Res}
    (found : pool.threads[i]? = some ⟨request, .done result⟩) : post i request result pool.state :=
  contract.meets reach found _ ((contract.closed i).refl _)

theorem Contract.invariant (contract : system.Contract initial rely guarantee post)
    (reach : system.Reach initial pool) {holds : σ → Prop} (start : ∀ s, initial s → holds s)
    (kept : ∀ i before after, guarantee i before after → holds before → holds after)
    (environment : ∀ before after, system.environment before after → holds before → holds after) :
    holds pool.state := by
  induction reach with
  | start first => exact start _ first
  | next previous step ih =>
    cases step with
    | start => exact ih
    | @call k request op next answer s' atThread called =>
      have mine := contract.meets previous atThread _ ((contract.closed k).refl _) answer s' called
      exact kept k _ _ mine.1 ih
    | environment moved => exact environment _ _ moved ih

end System

end

inductive Cue (Req : Type)
  | start (request : Req)
  | call (i : Nat)

variable {Req Op : Type} {Ans : Op → Type} {Res σ : Type}

abbrev Performance (Req Op : Type) (Ans : Op → Type) (σ : Type) := Nat → Req → (op : Op) → σ → Option (Ans op × σ)

namespace System

def advance (perform : Performance Req Op Ans σ) (pool : Pool Req Op Ans Res σ) (i : Nat) : Option (Pool Req Op Ans Res σ) :=
  match pool.threads[i]? with
  | some ⟨request, .call op next⟩ =>
    (perform i request op pool.state).map fun (answer, after) => ⟨after, pool.threads.set i ⟨request, next answer⟩⟩
  | _ => none

def play (handler : Req → Program Op Ans Res) (perform : Performance Req Op Ans σ) :
    List (Cue Req) → Pool Req Op Ans Res σ → Option (Pool Req Op Ans Res σ)
  | [], pool => some pool
  | .start request :: rest, pool => play handler perform rest ⟨pool.state, pool.threads ++ [⟨request, handler request⟩]⟩
  | .call i :: rest, pool => (advance perform pool i).bind (play handler perform rest)

variable {system : System Req Op Ans Res σ} {perform : Performance Req Op Ans σ} {initial : σ → Prop}
  {pool after : Pool Req Op Ans Res σ}

theorem advance_step {i : Nat}
    (sound : ∀ i request op s answer after, perform i request op s = some (answer, after) → system.exec i request op s answer after)
    (advanced : advance perform pool i = some after) : system.Step pool after := by
  unfold advance at advanced
  split at advanced
  · rename_i found
    obtain ⟨⟨answer, state⟩, performed, same⟩ := Option.map_eq_some_iff.mp advanced
    subst same
    exact .call found (sound _ _ _ _ _ _ performed)
  · cases advanced

theorem Reach.play {turns : List (Cue Req)} (reach : system.Reach initial pool)
    (sound : ∀ i request op s answer after, perform i request op s = some (answer, after) → system.exec i request op s answer after)
    (starts : ∀ pool request, .start request ∈ turns → system.mayStart pool request)
    (played : play system.handler perform turns pool = some after) : system.Reach initial after := by
  induction turns generalizing pool with
  | nil =>
    cases played
    exact reach
  | cons turn rest ih =>
    have later : ∀ pool request, .start request ∈ rest → system.mayStart pool request :=
      fun pool request member => starts pool request (List.mem_cons_of_mem _ member)
    cases turn with
    | start request => exact ih (reach.next (.start (starts _ _ List.mem_cons_self))) later played
    | call i =>
      obtain ⟨middle, advanced, continued⟩ := Option.bind_eq_some_iff.mp played
      exact ih (reach.next (advance_step sound advanced)) later continued

end System

end Interleaving
