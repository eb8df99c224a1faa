import Bnbera.Creator.Once
import Bnbera.Creator.Sampling

namespace Bnbera.Creator

open Interleaving

section

def CreatorCall.writes : CreatorCall → Option String
  | .record id _ => some id
  | .recordIntent id => some id
  | .recordScaffoldIntent id => some id
  | _ => none

/-- An execution writes only while the row is not at a later stage than the one that it loaded, nor in a terminal state. -/
def inOrder : Circumstance := fun i op s => ∀ id, op.writes = some id →
  ∀ current row, Loaded id current (System.ownCalls s.log i) → s.tables.deployment id = some row →
    row.currentStep ≤ current.stage ∧ row.state.isTerminal = false

def Before (stage later : CreatorStage) : Prop := .studioScaffoldPackage ≤ stage ∧ stage.index < later.index

def HandedOverIn (id : String) (stage : CreatorStage) (log : List (Nat × CreatorEntry)) : Prop :=
  ∃ entry ∈ log, handsOver id stage entry.2 = true

theorem HandedOverIn.mono {id : String} {stage : CreatorStage} {log rest : List (Nat × CreatorEntry)}
    (handed : HandedOverIn id stage log) : HandedOverIn id stage (log ++ rest) := by
  obtain ⟨entry, member, found⟩ := handed
  exact ⟨entry, List.mem_append_left _ member, found⟩

theorem HandedOver.inLog {id : String} {stage : CreatorStage} {log : List (Nat × CreatorEntry)} {i : Nat}
    (handed : HandedOver id stage (System.ownCalls log i)) : HandedOverIn id stage log := by
  obtain ⟨entry, member, found⟩ := handed
  exact ⟨(i, entry), System.mem_ownCalls.mp member, found⟩

structure Handed (s : CreatorState) : Prop where
  rows : ∀ id row stage, s.tables.deployment id = some row → Before stage row.currentStep → HandedOverIn id stage s.log
  loads : ∀ id entry current stage, entry ∈ s.log → loadedBy id entry.2 = some current → Before stage current.stage →
    HandedOverIn id stage s.log

variable [Sha256]

/-- What an execution loads is at the stage of the row. -/
theorem load_stage {i : Nat} {op : CreatorCall} {s s' : CreatorState} {answer : op.Answer} {id : String}
    {current : LoadedDeployment} (called : op.exec i s answer s') (loaded : loadedBy id ⟨op, answer⟩ = some current) :
    ∃ row, s.tables.deployment id = some row ∧ row.currentStep = current.stage := by
  unfold loadedBy at loaded
  split at loaded
  · rename_i root other read same
    cases same
    split at loaded
    · rename_i same
      subst same
      cases loaded
      rcases called.2 with answered | ⟨_, failed⟩
      · unfold load at answered
        split at answered
        · cases answered
        · rename_i row draft found
          split at answered
          · cases answered
          · cases answered
            obtain ⟨found', atRow, joined⟩ := Option.bind_eq_some_iff.mp found
            obtain ⟨_, _, same⟩ := Option.map_eq_some_iff.mp joined
            cases same
            exact ⟨_, atRow, rfl⟩
      · cases failed
    · cases loaded
  · cases loaded

theorem handed_step {i : Nat} {op : CreatorCall} {s s' : CreatorState} {answer : op.Answer} (called : op.exec i s answer s')
    (logged : s'.log = s.log ++ [(i, ⟨op, answer⟩)]) (guarded : stepGuard (System.ownCalls s.log i) op) (before : Handed s) :
    Handed s' := by
  -- the stages before the one that this thread loaded
  have loadedBefore : ∀ id current stage, Loaded id current (System.ownCalls s.log i) → Before stage current.stage →
      HandedOverIn id stage s.log := by
    rintro id current stage ⟨entry, member, found⟩ earlier
    exact before.loads id (i, entry) current stage (System.mem_ownCalls.mp member) found earlier
  refine ⟨fun id row' stage found earlier => ?_, fun id entry current stage member loaded earlier => ?_⟩ <;> rw [logged]
  · cases there : s.tables.deployment id with
    | none =>
      obtain ⟨_, _, _, _, _, _, rfl⟩ := (exec_moves called).born there found
      exact absurd (Nat.lt_of_le_of_lt earlier.1 earlier.2) (Nat.lt_irrefl _)
    | some prior =>
      obtain ⟨row'', atRow, moved⟩ := (exec_moves called).deployment there
      cases atRow.symm.trans found
      cases moved with
      | kept | leased | scaffolded => exact (before.rows id _ stage there earlier).mono
      | intended =>
        obtain ⟨current, loaded, deploying⟩ := guarded
        exact (loadedBefore id current stage loaded (deploying ▸ earlier)).mono
      | @recorded input now =>
        obtain ⟨current, loaded, follows⟩ := guarded
        refine HandedOverIn.mono ?_
        rcases follows.stage with same | ⟨next, handed⟩
        · exact loadedBefore id current stage loaded ⟨earlier.1, same ▸ earlier.2⟩
        · have bound : stage.index < input.stage.index := earlier.2
          by_cases last : stage = current.stage
          · exact last ▸ handed.inLog
          · refine loadedBefore id current stage loaded ⟨earlier.1, ?_⟩
            have apart : stage.index ≠ current.stage.index := fun same => last (CreatorStage.index_injective same)
            omega
  · rw [logged] at member
    rcases List.mem_append.mp member with old | new
    · exact (before.loads id entry current stage old loaded earlier).mono
    · cases List.mem_singleton.mp new
      obtain ⟨row, found, same⟩ := load_stage called loaded
      exact (before.rows id row stage found ⟨earlier.1, same ▸ earlier.2⟩).mono

theorem handed {permits : Circumstance} {pool : CreatorPool} (reach : CreatorReach workersOnly permits pool) :
    Handed pool.state := by
  refine reach.guarded ?_ ?_ ?_
  · intro s blank
    refine ⟨fun id row stage found => ?_, fun id entry current stage member => ?_⟩
    · have member := Tables.deployment_mem found
      rw [blank.deployments] at member
      cases member
    · rw [blank.log] at member
      cases member
  · exact fun pool i op answer s' _ _ called logged guarded before => handed_step called logged guarded before
  · intro before after moved held
    refine ⟨?_, ?_⟩ <;> rw [moved.log]
    · rw [moved.tables]
      exact held.rows
    · exact held.loads

/-- A deployment goes on between two states of a run: its stage does not go back, a terminal state stays, and what it
is past has been handed over. -/
structure Forward (before after : CreatorPool) : Prop where
  goesOn : ∀ id row, before.state.tables.deployment id = some row → ∃ row', after.state.tables.deployment id = some row' ∧
    row.currentStep ≤ row'.currentStep ∧ (row.state.isTerminal = true → row'.state = row.state)
  entered : ∀ id row stage, after.state.tables.deployment id = some row → Before stage row.currentStep →
    HandedOverIn id stage after.state.log

theorem call_goesOn {i : Nat} {op : CreatorCall} {s s' : CreatorState} {answer : op.Answer} {id : String} {row : DeploymentRow}
    (called : op.exec i s answer s') (fresh : inOrder i op s) (guarded : stepGuard (System.ownCalls s.log i) op)
    (found : s.tables.deployment id = some row) :
    ∃ row', s'.tables.deployment id = some row' ∧ row.currentStep ≤ row'.currentStep ∧
      (row.state.isTerminal = true → row'.state = row.state) := by
  obtain ⟨row', atRow', moved⟩ := (exec_moves called).deployment found
  refine ⟨row', atRow', ?_⟩
  cases moved with
  | kept => exact ⟨CreatorStage.le_refl _, fun _ => rfl⟩
  | leased =>
    refine ⟨CreatorStage.le_refl _, fun terminal => if_neg fun queued => ?_⟩
    rw [queued] at terminal
    cases terminal
  | intended =>
    obtain ⟨current, loaded, deploying⟩ := guarded
    obtain ⟨ordered, working⟩ := fresh id rfl current row loaded found
    rw [deploying] at ordered
    exact ⟨ordered, fun terminal => nomatch working.symm.trans terminal⟩
  | scaffolded =>
    obtain ⟨current, loaded, _⟩ := guarded
    obtain ⟨_, working⟩ := fresh id rfl current row loaded found
    exact ⟨CreatorStage.le_refl _, fun terminal => nomatch working.symm.trans terminal⟩
  | recorded =>
    obtain ⟨current, loaded, follows⟩ := guarded
    obtain ⟨ordered, working⟩ := fresh id rfl current row loaded found
    exact ⟨CreatorStage.le_trans ordered follows.stage_le, fun terminal => nomatch working.symm.trans terminal⟩

/-- In every run of the worker in which its writes are in order, deployments only go on. -/
theorem studio_forward {before after : CreatorPool} (reach : CreatorReach workersOnly inOrder before)
    (run : Relation.ReflTransGen (creatorSystem workersOnly inOrder).Step before after) : Forward before after := by
  have later : CreatorReach workersOnly inOrder after := by
    induction run with
    | refl => exact reach
    | tail _ step ih => exact ih.next step
  refine ⟨?_, (handed later).rows⟩
  clear later
  induction run with
  | refl => exact fun id row found => ⟨row, found, CreatorStage.le_refl _, fun _ => rfl⟩
  | @tail middle last walked step ih =>
    have there : CreatorReach workersOnly inOrder middle := by
      clear ih step
      induction walked with
      | refl => exact reach
      | tail _ step ih => exact ih.next step
    intro id row found
    obtain ⟨row', found', ordered, kept⟩ := ih id row found
    cases step with
    | start => exact ⟨row', found', ordered, kept⟩
    | call atThread called =>
      obtain ⟨row'', found'', ordered', kept'⟩ := call_goesOn called.2.1 called.1 (CreatorReach.about there atThread) found'
      refine ⟨row'', found'', CreatorStage.le_trans ordered ordered', fun terminal => ?_⟩
      rw [kept' (kept terminal ▸ terminal), kept terminal]
    | environment moved =>
      refine ⟨row', ?_, ordered, kept⟩
      rw [moved.tables]
      exact found'

omit [Sha256] in
theorem inOrder_iff {i : Nat} {op : CreatorCall} {s : CreatorState} : inOrder i op s ↔
    ∀ id ∈ op.writes, ∀ entry ∈ System.ownCalls s.log i, ∀ current ∈ loadedBy id entry, ∀ row ∈ s.tables.deployment id,
      row.currentStep ≤ current.stage ∧ row.state.isTerminal = false :=
  ⟨fun fresh id writes entry member current loaded row found => fresh id writes current row ⟨entry, member, loaded⟩ found,
    fun fresh id writes current row ⟨entry, member, loaded⟩ found => fresh id writes entry member current loaded row found⟩

instance (i : Nat) (op : CreatorCall) (s : CreatorState) : Decidable (inOrder i op s) := decidable_of_iff _ inOrder_iff.symm

def CreatorPool.stageOf (pool : CreatorPool) (id : String) : Option CreatorStage :=
  (pool.state.tables.deployment id).map (·.currentStep)

omit [Sha256] in
theorem sample_admitted {request : CreatorRequest} {first second : List (Cue CreatorRequest)}
    (member : .start request ∈ queues "a" 0 ++ first ++ second)
    (admitted : ∀ request, .start request ∈ first ∨ .start request ∈ second → workersOnly request) : workersOnly request := by
  rcases List.mem_append.mp member with earlier | last
  · rcases List.mem_append.mp earlier with queued | middle
    · exact queues_admitted queued
    · exact admitted request (.inl middle)
  · exact admitted request (.inr last)

omit [Sha256] in
/-- The last record of a scaffold enters the deploy. -/
theorem studio_forward_scaffold : ∃ before after : CreatorPool, @CreatorReach nullSha256 workersOnly inOrder before ∧
    Forward before after ∧ CreatorPool.stageOf after "deployment-a" = some .deployReconcile := by
  have ends : ((@creatorRun nullSha256 inOrder _ (queues "a" 0 ++ executes "a" 2 4 ++ [])).any fun before =>
      (System.advance (@perform nullSha256 inOrder _) before 2).any fun after =>
        CreatorPool.stageOf after "deployment-a" = some .deployReconcile) = true := by decide +kernel
  obtain ⟨before, run, turned⟩ := (Option.any_eq_true _ _).mp ends
  obtain ⟨after, turn, entered⟩ := (Option.any_eq_true _ _).mp turned
  have reach : @CreatorReach nullSha256 workersOnly inOrder before := by
    refine @creatorRun_reach nullSha256 workersOnly inOrder _ _ before (fun request member => sample_admitted member ?_) run
    rintro request (first | none)
    · exact executes_admitted first
    · cases none
  have step := @creatorRun_step nullSha256 workersOnly inOrder _ before after 2 turn
  exact ⟨before, after, reach, @studio_forward nullSha256 before after reach (.single step), of_decide_eq_true entered⟩

omit [Sha256] in
/-- A worker that is delayed behind its materialization records the scaffold when a second one has already entered the deploy. -/
theorem studio_backward : ∃ before after : CreatorPool, @CreatorReach nullSha256 workersOnly anyTime before ∧
    Relation.ReflTransGen (@creatorSystem nullSha256 workersOnly anyTime).Step before after ∧ ¬Forward before after := by
  have ends : ((@creatorRun nullSha256 anyTime _ (queues "a" 0 ++ executes "a" 2 3 ++ executes "a" 3 5)).any fun before =>
      CreatorPool.stageOf before "deployment-a" = some .deployReconcile &&
        (System.advance (@perform nullSha256 anyTime _) before 2).any fun after =>
          CreatorPool.stageOf after "deployment-a" = some .studioScaffoldPackage) = true := by decide +kernel
  obtain ⟨before, run, turned⟩ := (Option.any_eq_true _ _).mp ends
  obtain ⟨late, turned⟩ := Bool.and_eq_true_iff.mp turned
  obtain ⟨after, turn, early⟩ := (Option.any_eq_true _ _).mp turned
  have reach : @CreatorReach nullSha256 workersOnly anyTime before := by
    refine @creatorRun_reach nullSha256 workersOnly anyTime _ _ before (fun request member => sample_admitted member ?_) run
    rintro request (first | second)
    · exact executes_admitted first
    · exact executes_admitted second
  have step := @creatorRun_step nullSha256 workersOnly anyTime _ before after 2 turn
  refine ⟨before, after, reach, .single step, fun forward => ?_⟩
  obtain ⟨row, found, stage⟩ := Option.map_eq_some_iff.mp (of_decide_eq_true late)
  obtain ⟨row', found', stage'⟩ := Option.map_eq_some_iff.mp (of_decide_eq_true early)
  obtain ⟨other, again, onward, _⟩ := forward.goesOn "deployment-a" row found
  cases again.symm.trans found'
  rw [stage, stage'] at onward
  exact absurd onward (by decide)

end

def CreatorCall.touches : CreatorCall → Option String
  | .materialize id _ => some id
  | .record id _ => some id
  | _ => none

/-- An execution that starts `studio.materialize` or records an outcome has not been overtaken: the row is not at a
later stage than the one that the execution loaded, and has the provider id that it loaded. -/
def unovertaken : Circumstance := fun i op s => ∀ id, op.touches = some id →
  ∀ current row, Loaded id current (System.ownCalls s.log i) → s.tables.deployment id = some row →
    row.currentStep ≤ current.stage ∧ row.agentCoreArn = current.publicId

variable [Sha256]

structure PastScaffold (s : CreatorState) : Prop where
  belongs : ∀ event ∈ s.tables.events, ∃ row, s.tables.deployment event.deploymentId = some row
  past : ∀ id row, Intended s.tables id → s.tables.deployment id = some row → .deployReconcile ≤ row.currentStep

omit [Sha256] in
theorem PastScaffold.row {s : CreatorState} (past : PastScaffold s) {id : String} (intended : Intended s.tables id) :
    ∃ row, s.tables.deployment id = some row := by
  obtain ⟨event, member, rfl, _⟩ := Tables.hasEvent_iff.mp intended
  exact past.belongs event member

omit [Sha256] in
theorem deployment_isSome {tables : Tables} {id : String} (present : ∃ row ∈ tables.deployments, row.id = id) :
    ∃ row, tables.deployment id = some row := by
  obtain ⟨row, member, same⟩ := present
  exact Option.isSome_iff_exists.mp (List.find?_isSome.mpr ⟨row, member, decide_eq_true same⟩)

theorem pastScaffold_step {i : Nat} {op : CreatorCall} {s s' : CreatorState} {answer : op.Answer}
    (called : op.exec i s answer s') (fresh : unovertaken i op s) (guarded : stepGuard (System.ownCalls s.log i) op)
    (before : PastScaffold s) : PastScaffold s' := by
  have moves := exec_moves called
  refine ⟨fun event member => ?_, fun id row' intended found => ?_⟩
  · obtain ⟨added, same, each⟩ := moves.events
    rw [same] at member
    rcases List.mem_append.mp member with old | new
    · obtain ⟨row, atRow⟩ := before.belongs event old
      obtain ⟨row', atRow', _⟩ := moves.deployment atRow
      exact ⟨row', atRow'⟩
    · exact deployment_isSome (each event new).1
  · rcases moves.intent (stepGuard_plain guarded) intended with already | ⟨row, atRow, stage⟩
    · obtain ⟨row, atRow⟩ := before.row already
      obtain ⟨row'', atRow'', moved⟩ := moves.deployment atRow
      cases atRow''.symm.trans found
      have past := before.past id row already atRow
      cases moved with
      | kept | leased | scaffolded => exact past
      | intended => exact CreatorStage.le_refl _
      | recorded =>
        obtain ⟨current, loaded, follows⟩ := guarded
        exact CreatorStage.le_trans past (CreatorStage.le_trans (fresh id rfl current row loaded atRow).1 follows.stage_le)
    · cases atRow.symm.trans found
      rw [stage]
      exact CreatorStage.le_refl _

theorem pastScaffold {pool : CreatorPool} (reach : CreatorReach workersOnly unovertaken pool) : PastScaffold pool.state := by
  refine reach.guarded ?_ ?_ ?_
  · intro s blank
    refine ⟨fun event member => ?_, fun id row _ found => ?_⟩
    · rw [blank.events] at member
      cases member
    · have member := Tables.deployment_mem found
      rw [blank.deployments] at member
      cases member
  · exact fun pool i op answer s' _ fresh called _ guarded before => pastScaffold_step called fresh guarded before
  · intro before after moved held
    have tables := moved.tables
    refine ⟨?_, ?_⟩ <;> rw [tables]
    · exact held.belongs
    · exact held.past

structure OneDeployment (before after : CreatorPool) : Prop where
  runs : ∀ id, (after.state.log.countP fun entry => starts id entry.2) ≤ 1
  materializes : ∀ i id current answer, after.state.log = before.state.log ++ [(i, ⟨.materialize id current, answer⟩)] →
    ¬Intended before.state.tables id
  named : ∀ id row arn, before.state.tables.deployment id = some row → row.agentCoreArn = some arn →
    ∃ row', after.state.tables.deployment id = some row' ∧ row'.agentCoreArn = some arn

omit [Sha256] in
theorem materialize_unintended {i : Nat} {id : String} {current : LoadedDeployment} {s : CreatorState}
    (fresh : unovertaken i (.materialize id current) s) (guarded : stepGuard (System.ownCalls s.log i) (.materialize id current))
    (past : PastScaffold s) : ¬Intended s.tables id := by
  intro intended
  obtain ⟨row, found⟩ := past.row intended
  obtain ⟨loadedNow, loaded, stage⟩ := guarded
  have early := (fresh id rfl loadedNow row loaded found).1
  rw [stage] at early
  have late := CreatorStage.le_trans (past.past id row intended found) early
  exact absurd late (by decide)

theorem call_named {i : Nat} {op : CreatorCall} {s s' : CreatorState} {answer : op.Answer} {id arn : String}
    {row : DeploymentRow} (called : op.exec i s answer s') (fresh : unovertaken i op s)
    (guarded : stepGuard (System.ownCalls s.log i) op) (found : s.tables.deployment id = some row)
    (named : row.agentCoreArn = some arn) : ∃ row', s'.tables.deployment id = some row' ∧ row'.agentCoreArn = some arn := by
  obtain ⟨row', atRow', moved⟩ := (exec_moves called).deployment found
  refine ⟨row', atRow', ?_⟩
  cases moved with
  | kept | leased | scaffolded => exact named
  | intended unnamed =>
    rw [named] at unnamed
    cases unnamed
  | @recorded input now =>
    obtain ⟨current, loaded, follows⟩ := guarded
    have same := (fresh id rfl current row loaded found).2
    rw [named] at same
    show input.publicId.or row.agentCoreArn = some arn
    rcases follows.named arn same.symm with unnamed | again
    · rw [unnamed, Option.none_or, named]
    · rw [again, Option.some_or]

/-- In every run of the worker in which no execution is overtaken, there is at most one Studio deployment. -/
theorem studio_oneDeployment {before after : CreatorPool} (reach : CreatorReach workersOnly unovertaken before)
    (step : (creatorSystem workersOnly unovertaken).Step before after) : OneDeployment before after := by
  have once := fun id => (studio_run_once (reach.next step) id).started
  cases step with
  | start =>
    refine ⟨once, fun i id current answer same => ?_, fun id row arn found named => ⟨row, found, named⟩⟩
    have length := congrArg List.length same
    simp at length
  | @call i request op next answer s' found called =>
    have guarded := CreatorReach.about reach found
    refine ⟨once, fun j id current outcome same => ?_, fun id row arn => call_named called.2.1 called.1 guarded⟩
    have logged := called.2.2.2.2
    rw [logged] at same
    cases List.singleton_inj.mp (List.append_cancel_left same)
    exact materialize_unintended called.1 guarded (pastScaffold reach)
  | environment moved =>
    refine ⟨once, fun i id current answer same => ?_, fun id row arn found named => ?_⟩
    · rw [moved.log] at same
      have length := congrArg List.length same
      simp at length
    · rw [moved.tables]
      exact ⟨row, found, named⟩

omit [Sha256] in
theorem unovertaken_iff {i : Nat} {op : CreatorCall} {s : CreatorState} : unovertaken i op s ↔
    ∀ id ∈ op.touches, ∀ entry ∈ System.ownCalls s.log i, ∀ current ∈ loadedBy id entry, ∀ row ∈ s.tables.deployment id,
      row.currentStep ≤ current.stage ∧ row.agentCoreArn = current.publicId :=
  ⟨fun fresh id touched entry member current loaded row found => fresh id touched current row ⟨entry, member, loaded⟩ found,
    fun fresh id touched current row ⟨entry, member, loaded⟩ found => fresh id touched entry member current loaded row found⟩

instance (i : Nat) (op : CreatorCall) (s : CreatorState) : Decidable (unovertaken i op s) := decidable_of_iff _ unovertaken_iff.symm

def deploying : List (Cue CreatorRequest) := queues "a" 0 ++ executes "a" 2 5 ++ executes "a" 3 5

omit [Sha256] in
/-- The second execution of a worker starts `studio.run`, once. -/
theorem studio_oneDeployment_deploying : ∃ before after : CreatorPool, @CreatorReach nullSha256 workersOnly unovertaken before ∧
    OneDeployment before after ∧ (after.state.log.countP fun entry => starts "deployment-a" entry.2) = 1 := by
  have ends : ((@creatorRun nullSha256 unovertaken _ deploying).any fun before =>
      (System.advance (@perform nullSha256 unovertaken _) before 3).any fun after =>
        (after.state.log.countP fun entry => starts "deployment-a" entry.2) = 1) = true := by decide +kernel
  obtain ⟨before, run, turned⟩ := (Option.any_eq_true _ _).mp ends
  obtain ⟨after, turn, once⟩ := (Option.any_eq_true _ _).mp turned
  have reach : @CreatorReach nullSha256 workersOnly unovertaken before := by
    refine @creatorRun_reach nullSha256 workersOnly unovertaken _ deploying before (fun request member => ?_) run
    rcases List.mem_append.mp member with earlier | second
    · rcases List.mem_append.mp earlier with queued | first
      · exact queues_admitted queued
      · exact executes_admitted first
    · exact executes_admitted second
  exact ⟨before, after, reach, @studio_oneDeployment nullSha256 before after reach
    (@creatorRun_step nullSha256 workersOnly unovertaken _ before after 3 turn), of_decide_eq_true once⟩

/-- A worker that has claimed the scaffold is delayed, while a second one reconciles it and a third one claims the deploy. -/
def overtaking : List (Cue CreatorRequest) := queues "a" 0 ++ executes "a" 2 2 ++ executes "a" 3 5 ++ executes "a" 4 4

omit [Sha256] in
theorem overtaking_admitted {request : CreatorRequest} (member : .start request ∈ overtaking) : workersOnly request := by
  simp only [overtaking, List.mem_append] at member
  rcases member with ((queued | first) | second) | third
  · exact queues_admitted queued
  · exact executes_admitted first
  · exact executes_admitted second
  · exact executes_admitted third

def CreatorPool.materializing (pool : CreatorPool) (i : Nat) : Option String :=
  match pool.threads[i]? with
  | some ⟨_, .call (.materialize id _) _⟩ => some id
  | _ => none

omit [Sha256] in
theorem CreatorPool.of_materializing {pool : CreatorPool} {i : Nat} {id : String} (starts : pool.materializing i = some id) :
    ∃ request current next, pool.threads[i]? = some ⟨request, .call (.materialize id current) next⟩ := by
  unfold materializing at starts
  split at starts
  · rename_i request other current next found
    cases starts
    exact ⟨request, current, next, found⟩
  · cases starts

omit [Sha256] in
/-- The delayed worker starts `studio.materialize` behind the intent of the deploy. -/
theorem studio_late_materialize : ∃ before after : CreatorPool, @CreatorReach nullSha256 workersOnly anyTime before ∧
    (@creatorSystem nullSha256 workersOnly anyTime).Step before after ∧ ¬OneDeployment before after := by
  have ends : ((@creatorRun nullSha256 anyTime _ overtaking).any fun before =>
      before.materializing 2 = some "deployment-a" && before.state.tables.hasEvent "deployment-a" "STUDIO_DEPLOY_INTENT") = true := by
    decide +kernel
  obtain ⟨before, run, ended⟩ := (Option.any_eq_true _ _).mp ends
  simp only [Bool.and_eq_true, decide_eq_true_eq] at ended
  obtain ⟨request, current, next, found⟩ := before.of_materializing ended.1
  have reach := @creatorRun_reach nullSha256 workersOnly anyTime _ overtaking before (fun _ => overtaking_admitted) run
  have called := @perform_exec nullSha256 workersOnly anyTime _ 2 request (.materialize "deployment-a" current) before.state
    (.ok .ready) _ rfl
  exact ⟨before, _, reach, .call found called, fun one => one.materializes 2 "deployment-a" current _ rfl ended.2⟩

end Bnbera.Creator
