import Bnbera.Interleaving.Program

namespace Interleaving

section

/-- A call that waits for its turn, or has it, with the work it still has to do. -/
structure Transaction (Call Op : Type) (Ans : Op → Type) (Res : Type) where
  call : Call
  work : Program Op Ans Res

/-- The transaction whose turn it is. It keeps a copy of the maps as they were when its
turn began; `since` counts the calls that had returned by then. -/
structure Turn (σ Call Op : Type) (Ans : Op → Type) (Res : Type) where
  snapshot : σ
  since : Nat
  transaction : Transaction Call Op Ans Res

/-- Maps in the memory of one process, and the calls on them that are not finished. -/
structure Process (σ Call Op : Type) (Ans : Op → Type) (Res : Type) where
  maps : σ
  waiting : List (Transaction Call Op Ans Res)
  turn : Option (Turn σ Call Op Ans Res)
  returned : List (Call × Res)

/-- A class whose methods share some maps. The first synchronous part of a method
answers the call, or joins the queue of transactions. A transaction whose result is
`failed` restores the copy it took. -/
structure Serialized (σ Call Op : Type) (Ans : Op → Type) (Res : Type) where
  answers : Call → σ → Res → σ → Prop
  joins : Call → σ → Program Op Ans Res → Prop
  exec : Semantics Op Ans σ
  failed : Res → Prop

inductive Moment (Call Op Res : Type)
  | called (call : Call)
  | entered
  | acted (call : Call) (op : Op)
  | left (call : Call) (result : Res)

variable {σ Call Op : Type} {Ans : Op → Type} {Res : Type}

namespace Serialized

variable (service : Serialized σ Call Op Ans Res)

/-- One step of the process: up to the next point at which another call may run. -/
inductive Step : Moment Call Op Res → Process σ Call Op Ans Res → Process σ Call Op Ans Res → Prop
  | answered {s : Process σ Call Op Ans Res} {call result maps} : service.answers call s.maps result maps →
      Step (.called call) s { s with maps := maps, returned := s.returned ++ [(call, result)] }
  | joined {s : Process σ Call Op Ans Res} {call work} : service.joins call s.maps work →
      Step (.called call) s { s with waiting := s.waiting ++ [⟨call, work⟩] }
  | entered {s : Process σ Call Op Ans Res} {transaction rest} : s.turn = none → s.waiting = transaction :: rest →
      Step .entered s
        { s with waiting := rest, turn := some ⟨s.maps, s.returned.length, transaction⟩ }
  | acted {s : Process σ Call Op Ans Res} {snapshot since call op next answer maps} :
      s.turn = some ⟨snapshot, since, ⟨call, .call op next⟩⟩ → service.exec op s.maps answer maps →
      Step (.acted call op) s { s with maps := maps, turn := some ⟨snapshot, since, ⟨call, next answer⟩⟩ }
  | kept {s : Process σ Call Op Ans Res} {snapshot since call result} :
      s.turn = some ⟨snapshot, since, ⟨call, .done result⟩⟩ → ¬service.failed result →
      Step (.left call result) s { s with turn := none, returned := s.returned ++ [(call, result)] }
  | undone {s : Process σ Call Op Ans Res} {snapshot since call result} :
      s.turn = some ⟨snapshot, since, ⟨call, .done result⟩⟩ → service.failed result →
      Step (.left call result) s
        { s with maps := snapshot, turn := none, returned := s.returned ++ [(call, result)] }

/-- The states of a process that starts on some maps and of which every step meets a condition. -/
inductive Reach (permits : Moment Call Op Res → Process σ Call Op Ans Res → Prop) (initial : σ → Prop) :
    Process σ Call Op Ans Res → Prop
  | start {maps} : initial maps → Reach permits initial ⟨maps, [], none, []⟩
  | next {moment before after} : Reach permits initial before → permits moment before →
      service.Step moment before after → Reach permits initial after

variable {service} {permits : Moment Call Op Res → Process σ Call Op Ans Res → Prop} {initial : σ → Prop}
  {s : Process σ Call Op Ans Res}

theorem Reach.waiting {allowed : Call → Program Op Ans Res → Prop} (reach : service.Reach permits initial s)
    (joins : ∀ (s : Process σ Call Op Ans Res) call work, permits (.called call) s → service.joins call s.maps work →
      allowed call work) : ∀ transaction ∈ s.waiting, allowed transaction.call transaction.work := by
  induction reach with
  | start => exact nofun
  | @next _ before _ _ permitted step ih =>
    cases step with
    | answered => exact ih
    | joined joined =>
      intro transaction member
      rcases List.mem_append.mp member with old | new
      · exact ih transaction old
      · cases List.mem_singleton.mp new
        exact joins before _ _ permitted joined
    | entered _ first => exact fun transaction member => ih transaction (first ▸ List.mem_cons_of_mem _ member)
    | acted => exact ih
    | kept => exact ih
    | undone => exact ih

theorem Reach.turn {allowed : Call → Program Op Ans Res → Prop} (reach : service.Reach permits initial s)
    (joins : ∀ (s : Process σ Call Op Ans Res) call work, permits (.called call) s → service.joins call s.maps work →
      allowed call work)
    (acted : ∀ call op next answer, allowed call (.call op next) → allowed call (next answer)) :
    ∀ turn, s.turn = some turn → allowed turn.transaction.call turn.transaction.work := by
  induction reach with
  | start => exact nofun
  | next previous _ step ih =>
    cases step with
    | answered => exact ih
    | joined => exact ih
    | entered _ first =>
      rintro turn ⟨⟩
      exact previous.waiting joins _ (first ▸ List.mem_cons_self)
    | acted turn =>
      rintro _ ⟨⟩
      exact acted _ _ _ _ (ih _ turn)
    | kept => exact nofun
    | undone => exact nofun

/-- A fact about the maps and the calls that have returned. It also holds of the copy
of the transaction whose turn it is, for the calls that had returned when it was taken. -/
theorem Reach.history {holds : List (Call × Res) → σ → Prop} (reach : service.Reach permits initial s)
    (begins : ∀ maps, initial maps → holds [] maps)
    (answers : ∀ (s : Process σ Call Op Ans Res) call result maps, permits (.called call) s →
      service.answers call s.maps result maps → holds s.returned s.maps → holds (s.returned ++ [(call, result)]) maps)
    (acted : ∀ (s : Process σ Call Op Ans Res) call op answer maps, permits (.acted call op) s →
      service.exec op s.maps answer maps → holds s.returned s.maps → holds s.returned maps)
    (kept : ∀ (s : Process σ Call Op Ans Res) snapshot since call result, permits (.left call result) s →
      s.turn = some ⟨snapshot, since, ⟨call, .done result⟩⟩ → ¬service.failed result → holds s.returned s.maps →
      holds (s.returned ++ [(call, result)]) s.maps)
    (undone : ∀ (s : Process σ Call Op Ans Res) snapshot since call result, permits (.left call result) s →
      s.turn = some ⟨snapshot, since, ⟨call, .done result⟩⟩ → service.failed result →
      holds (s.returned.take since) snapshot → holds (s.returned ++ [(call, result)]) snapshot) :
    holds s.returned s.maps ∧
      ∀ turn, s.turn = some turn → turn.since ≤ s.returned.length ∧ holds (s.returned.take turn.since) turn.snapshot := by
  induction reach with
  | start first => exact ⟨begins _ first, nofun⟩
  | @next _ before _ _ permitted step ih =>
    have grown (entry : Call × Res) {history : List (Call × Res)} {since : Nat} {snapshot : σ}
        (old : since ≤ history.length ∧ holds (history.take since) snapshot) :
        since ≤ (history ++ [entry]).length ∧ holds ((history ++ [entry]).take since) snapshot := by
      rw [List.take_append_of_le_length old.1, List.length_append]
      exact ⟨Nat.le_add_right_of_le old.1, old.2⟩
    cases step with
    | answered answered => exact ⟨answers before _ _ _ permitted answered ih.1, fun turn found => grown _ (ih.2 turn found)⟩
    | joined => exact ih
    | entered =>
      refine ⟨ih.1, ?_⟩
      rintro turn ⟨⟩
      refine ⟨Nat.le_refl _, ?_⟩
      rw [List.take_length]
      exact ih.1
    | acted turn executed =>
      refine ⟨acted before _ _ _ _ permitted executed ih.1, ?_⟩
      rintro _ ⟨⟩
      have old := ih.2 _ turn
      exact old
    | kept turn passed => exact ⟨kept before _ _ _ _ permitted turn passed ih.1, nofun⟩
    | undone turn failed => exact ⟨undone before _ _ _ _ permitted turn failed (ih.2 _ turn).2, nofun⟩

theorem Reach.invariant {holds : σ → Prop} (reach : service.Reach permits initial s)
    (begins : ∀ maps, initial maps → holds maps)
    (answers : ∀ (s : Process σ Call Op Ans Res) call result maps, permits (.called call) s →
      service.answers call s.maps result maps → holds s.maps → holds maps)
    (acted : ∀ (s : Process σ Call Op Ans Res) call op answer maps, permits (.acted call op) s →
      service.exec op s.maps answer maps → holds s.maps → holds maps) :
    holds s.maps ∧ ∀ turn, s.turn = some turn → holds turn.snapshot := by
  have both := @Reach.history _ _ _ _ _ service permits initial s (fun _ maps => holds maps) reach begins answers acted
    (fun _ _ _ _ _ _ _ _ held => held) (fun _ _ _ _ _ _ _ _ held => held)
  exact ⟨both.1, fun turn found => (both.2 turn found).2⟩

theorem Reach.refine {stronger : Moment Call Op Res → Process σ Call Op Ans Res → Prop}
    (reach : service.Reach permits initial s)
    (shows : ∀ moment s s', service.Reach permits initial s → permits moment s → service.Step moment s s' →
      stronger moment s) : service.Reach stronger initial s := by
  induction reach with
  | start first => exact .start first
  | next previous permitted step ih => exact ih.next (shows _ _ _ previous permitted step) step

theorem Reach.served {maps after : σ} {call op next result} {rest : List (Transaction Call Op Ans Res)}
    {answer : Ans op} {returned : List (Call × Res)}
    (reach : service.Reach permits initial ⟨maps, ⟨call, .call op next⟩ :: rest, none, returned⟩)
    (executed : service.exec op maps answer after) (finished : next answer = .done result) (passed : ¬service.failed result)
    (enters : ∀ now, permits .entered now) (acts : ∀ now, now.maps = maps → permits (.acted call op) now)
    (leaves : ∀ now, permits (.left call result) now) :
    service.Reach permits initial ⟨after, rest, none, returned ++ [(call, result)]⟩ := by
  have entered := reach.next (enters _) (.entered rfl rfl)
  have acted := entered.next (acts _ rfl) (.acted rfl executed)
  rw [finished] at acted
  exact acted.next (leaves _) (.kept rfl passed)

end Serialized

end

variable {σ Call Op : Type} {Ans : Op → Type} {Res ν : Type}

def Process.finishing (s : Process σ Call Op Ans Res) : List (Call × Res) :=
  match s.turn with
  | some ⟨_, _, ⟨call, .done result⟩⟩ => [(call, result)]
  | _ => []

def Process.noted (note : Call × Res → Option ν) (s : Process σ Call Op Ans Res) : List ν :=
  (s.returned ++ s.finishing).filterMap note

def IsSingle (work : Program Op Ans Res) : Prop :=
  ∃ op next, work = .call op next ∧ ∀ answer, ∃ result, next answer = .done result

namespace Serialized

/-- The laws of a class of which each transaction is one operation. Notes are taken of the
operations that succeed; everything else leaves the maps the same as far as `same` tells.
What is `ready` when it joins the queue stays so. -/
structure Committing (service : Serialized σ Call Op Ans Res)
    (permits : Moment Call Op Res → Process σ Call Op Ans Res → Prop) (note : Call × Res → Option ν) (same : σ → σ → Prop)
    (ready : σ → Call → Program Op Ans Res → Prop) (holds : List ν → σ → Prop) : Prop where
  refl : ∀ maps, same maps maps
  symm : ∀ a b, same a b → same b a
  trans : ∀ a b c, same a b → same b c → same a c
  moves : ∀ notes a b, same a b → holds notes a → holds notes b
  stays : ∀ a b call work, same a b → ready a call work → ready b call work
  failed : ∀ call result, service.failed result → note (call, result) = none
  joins : ∀ (s : Process σ Call Op Ans Res) call work notes, permits (.called call) s →
    service.joins call s.maps work → holds notes s.maps → IsSingle work ∧ ready s.maps call work
  answers : ∀ (s : Process σ Call Op Ans Res) call result maps, permits (.called call) s →
    service.answers call s.maps result maps → same s.maps maps ∧ note (call, result) = none
  refused : ∀ (s : Process σ Call Op Ans Res) call op next answer result maps, permits (.acted call op) s →
    service.exec op s.maps answer maps → ready s.maps call (.call op next) → next answer = .done result →
    service.failed result → same s.maps maps
  committed : ∀ (s : Process σ Call Op Ans Res) call op next answer result maps notes, permits (.acted call op) s →
    service.exec op s.maps answer maps → ready s.maps call (.call op next) → next answer = .done result →
    ¬service.failed result → holds notes s.maps → holds (notes ++ (note (call, result)).toList) maps ∧
      ∀ other work, ready s.maps other work → ready maps other work

structure Committed (service : Serialized σ Call Op Ans Res) (note : Call × Res → Option ν) (same : σ → σ → Prop)
    (ready : σ → Call → Program Op Ans Res → Prop) (holds : List ν → σ → Prop) (s : Process σ Call Op Ans Res) :
    Prop where
  held : holds (s.noted note) s.maps
  waiting : ∀ transaction ∈ s.waiting, IsSingle transaction.work ∧ ready s.maps transaction.call transaction.work
  turn : ∀ turn, s.turn = some turn →
    (IsSingle turn.transaction.work ∧ ready s.maps turn.transaction.call turn.transaction.work ∧
      same turn.snapshot s.maps) ∨
    ∃ result, turn.transaction.work = .done result ∧ (service.failed result → same turn.snapshot s.maps)

variable {service : Serialized σ Call Op Ans Res} {permits : Moment Call Op Res → Process σ Call Op Ans Res → Prop}
  {note : Call × Res → Option ν} {same : σ → σ → Prop} {ready : σ → Call → Program Op Ans Res → Prop}
  {holds : List ν → σ → Prop} {initial : σ → Prop} {s s' : Process σ Call Op Ans Res} {moment : Moment Call Op Res}

theorem Committed.moves (laws : Committing service permits note same ready holds)
    (before : Committed service note same ready holds s) {maps : σ} {returned : List (Call × Res)}
    (alike : same s.maps maps) (quiet : (returned ++ s.finishing).filterMap note = s.noted note) :
    Committed service note same ready holds { s with maps := maps, returned := returned } := by
  refine ⟨?_, fun transaction member => ?_, fun turn found => ?_⟩
  · have held := laws.moves _ _ _ alike before.held
    rw [← quiet] at held
    exact held
  · obtain ⟨single, prepared⟩ := before.waiting transaction member
    exact ⟨single, laws.stays _ _ _ _ alike prepared⟩
  · rcases before.turn turn found with ⟨single, prepared, kept⟩ | ⟨result, done, kept⟩
    · exact .inl ⟨single, laws.stays _ _ _ _ alike prepared, laws.trans _ _ _ kept alike⟩
    · exact .inr ⟨result, done, fun failed => laws.trans _ _ _ (kept failed) alike⟩

theorem Committed.step (laws : Committing service permits note same ready holds)
    (before : Committed service note same ready holds s) (permitted : permits moment s)
    (step : service.Step moment s s') : Committed service note same ready holds s' := by
  cases step with
  | answered answered =>
    rename_i call result maps
    obtain ⟨alike, silent⟩ := laws.answers s _ _ _ permitted answered
    refine before.moves laws alike ?_
    have nothing : [(call, result)].filterMap note = [] := by
      rw [List.filterMap_cons, silent, List.filterMap_nil]
    rw [Process.noted, List.filterMap_append, List.filterMap_append, nothing, List.append_nil, List.filterMap_append]
  | joined joined =>
    refine ⟨before.held, fun transaction member => ?_, before.turn⟩
    rcases List.mem_append.mp member with old | new
    · exact before.waiting transaction old
    · cases List.mem_singleton.mp new
      exact laws.joins s _ _ _ permitted joined before.held
  | entered idle first =>
    rename_i transaction rest
    obtain ⟨single, prepared⟩ := before.waiting transaction (first ▸ List.mem_cons_self)
    refine ⟨?_, fun other member => before.waiting other (first ▸ List.mem_cons_of_mem _ member), ?_⟩
    · have held := before.held
      have nobody : s.finishing = [] := by rw [Process.finishing, idle]
      rw [Process.noted, nobody] at held
      obtain ⟨op, next, work, _⟩ := single
      have busy : Process.finishing { s with
          waiting := rest, turn := some ⟨s.maps, s.returned.length, transaction⟩ } = [] := by
        obtain ⟨call, program⟩ := transaction
        cases work
        rfl
      rw [Process.noted, busy]
      exact held
    · intro turn found
      cases Option.some.inj found
      exact .inl ⟨single, prepared, laws.refl _⟩
  | acted turn executed =>
    rename_i snapshot since call op next answer maps
    rcases before.turn _ turn with ⟨⟨_, _, work, finishes⟩, prepared, kept⟩ | ⟨_, done, _⟩
    · cases work
      obtain ⟨result, finished⟩ := finishes answer
      have idle : s.finishing = [] := by rw [Process.finishing, turn]
      have held := before.held
      rw [Process.noted, idle, List.append_nil] at held
      have ends : Process.noted note { s with
          maps := maps, turn := some ⟨snapshot, since, ⟨call, .done result⟩⟩ } =
          s.returned.filterMap note ++ (note (call, result)).toList := by
        have last : Process.finishing { s with
            maps := maps, turn := some ⟨snapshot, since, ⟨call, .done result⟩⟩ } = [(call, result)] := rfl
        rw [Process.noted, last, List.filterMap_append]
        congr 1
      rw [finished]
      by_cases failed : service.failed result
      · have alike := laws.refused s _ _ _ _ _ _ permitted executed prepared finished failed
        refine ⟨?_, fun transaction member => ?_, fun turn' found => ?_⟩
        · rw [ends, laws.failed call result failed, Option.toList_none, List.append_nil]
          exact laws.moves _ _ _ alike held
        · obtain ⟨single, prepared⟩ := before.waiting transaction member
          exact ⟨single, laws.stays _ _ _ _ alike prepared⟩
        · cases Option.some.inj found
          exact .inr ⟨result, rfl, fun _ => laws.trans _ _ _ kept alike⟩
      · obtain ⟨extended, steady⟩ := laws.committed s _ _ _ _ _ _ _ permitted executed prepared finished failed held
        refine ⟨?_, fun transaction member => ?_, fun turn' found => ?_⟩
        · rw [ends]
          exact extended
        · obtain ⟨single, prepared⟩ := before.waiting transaction member
          exact ⟨single, steady _ _ prepared⟩
        · cases Option.some.inj found
          exact .inr ⟨result, rfl, fun failing => absurd failing failed⟩
    · cases done
  | kept turn passed =>
    rename_i snapshot since call result
    refine ⟨?_, before.waiting, fun turn found => (nomatch found)⟩
    have held := before.held
    have ends : s.finishing = [(call, result)] := by rw [Process.finishing, turn]
    rw [Process.noted, ends] at held
    have stays : Process.noted note { s with turn := none, returned := s.returned ++ [(call, result)] } =
      (s.returned ++ [(call, result)]).filterMap note := by rw [Process.noted, Process.finishing, List.append_nil]
    rw [stays]
    exact held
  | undone turn failed =>
    rename_i snapshot since call result
    rcases before.turn _ turn with ⟨⟨_, _, work, _⟩, _⟩ | ⟨_, done, kept⟩
    · cases work
    · cases done
      have back := laws.symm _ _ (kept failed)
      have held := laws.moves _ _ _ back before.held
      have ends : s.finishing = [(call, result)] := by rw [Process.finishing, turn]
      rw [Process.noted, ends] at held
      refine ⟨?_, fun transaction member => ?_, fun turn found => (nomatch found)⟩
      · have stays : Process.noted note
            { s with maps := snapshot, turn := none, returned := s.returned ++ [(call, result)] } =
          (s.returned ++ [(call, result)]).filterMap note := by rw [Process.noted, Process.finishing, List.append_nil]
        rw [stays]
        exact held
      · obtain ⟨single, prepared⟩ := before.waiting transaction member
        exact ⟨single, laws.stays _ _ _ _ back prepared⟩

theorem Reach.committed (laws : Committing service permits note same ready holds)
    (begins : ∀ maps, initial maps → holds [] maps) (reach : service.Reach permits initial s) :
    Committed service note same ready holds s := by
  induction reach with
  | start first => exact ⟨begins _ first, fun transaction member => (nomatch member), fun turn found => (nomatch found)⟩
  | next _ permitted step ih => exact ih.step laws permitted step

end Serialized

end Interleaving
