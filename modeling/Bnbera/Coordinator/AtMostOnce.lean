import Bnbera.Coordinator.Replay

namespace Bnbera

open Interleaving OperationRepository

/-- Call `i` is an `executeSdk` of `prepared` under the normalized key. -/
def Executes (pool : CoordinatorPool) (i : Nat) (prepared : PreparedOperation) (key : String) : Prop :=
  ∃ approvals given authority program, parseIdempotencyKey given = .ok key ∧
    pool.threads[i]? = some ⟨.executeSdk approvals prepared given authority, program⟩

def Finished (pool : CoordinatorPool) (i : Nat) (result : CoordinatorAnswer) : Prop :=
  ∃ request, pool.threads[i]? = some ⟨request, .done result⟩

/-- Call `i` created the row with this identity. -/
def Created (pool : CoordinatorPool) (i : Nat) (id : String) : Prop :=
  ∃ reservation, pool.state.creator id = some (i, reservation)

def CoordinatorPool.refusal (pool : CoordinatorPool) (i : Nat) : Option CommerceErrorCode :=
  match pool.threads[i]? with
  | some ⟨_, .done (.error (.commerce error))⟩ => some error.code
  | _ => none

theorem CoordinatorPool.refusal_eq {pool : CoordinatorPool} {i : Nat} {code : CommerceErrorCode} (refused : pool.refusal i = some code) :
    ∃ error, Finished pool i (.error (.commerce error)) ∧ error.code = code := by
  unfold refusal at refused
  split at refused
  · rename_i request error found
    exact ⟨error, ⟨request, found⟩, Option.some.inj refused⟩
  · cases refused

section

variable [Sha256] {pool : CoordinatorPool}

/-- What the history of a pool guarantees for the calls of `executeSdk`. -/
structure SafeHistory (pool : CoordinatorPool) : Prop where
  /-- A call starts the SDK at most once. -/
  once : ∀ i, (pool.state.calls i).started.length ≤ 1
  /-- Of the calls under one key, at most one starts it. -/
  unique : ∀ i j first second key, Executes pool i first key → Executes pool j second key →
    (pool.state.calls i).started ≠ [] → (pool.state.calls j).started ≠ [] → i = j
  /-- It starts it for the one operation stored under its key. -/
  sender : ∀ i prepared key, Executes pool i prepared key → (pool.state.calls i).started ≠ [] →
    ∃ row, pool.state.table.getByIdempotencyKey key = some row ∧ (pool.state.calls i).started = [row.id]
  /-- Every other call throws, or returns that operation as a replay. -/
  others : ∀ j prepared key result, Executes pool j prepared key → Finished pool j result →
    (pool.state.calls j).started = [] → (∃ failure, result = .error failure) ∨
      ∃ answer row, result = .ok (some answer) ∧ answer.replayed = true ∧
        pool.state.table.getByIdempotencyKey key = some row ∧ answer.operation.id = row.id
  /-- A different request under the key of an operation reserved with a context conflicts,
  once it reaches its reservation, unless the database fails it. -/
  conflict : ∀ i j first second key id context result, Executes pool i first key → Created pool i id →
    first.context = some context → Executes pool j second key → i ≠ j → Finished pool j result →
    (pool.state.calls j).asked = true → (pool.state.calls j).failed = false →
    Differs first second → CollisionFree first second →
    ∃ error, result = .error (.commerce error) ∧ error.code = .idempotencyConflict
  /-- A repeat of the request that created the row never conflicts. -/
  repeated : ∀ i j prepared key id context result, Executes pool i prepared key → Created pool i id →
    prepared.context = some context → prepared.kind = .create ∨ prepared.jobId ≠ none →
    Executes pool j prepared key → i ≠ j → Finished pool j result →
    ∀ failure, result = .error failure → failure.hasCode .idempotencyConflict = false

theorem Finished.ended (reach : CoordinatorReach pool) {j : Nat} {prepared : PreparedOperation} {key : String}
    {result : CoordinatorAnswer} (executes : Executes pool j prepared key) (finished : Finished pool j result) :
    ∃ given inner, parseIdempotencyKey given = .ok key ∧ result = inner.map some ∧
      ExecuteEnded j (reserveInput prepared given) pool.state inner := by
  obtain ⟨approvals, given, authority, program, normal, found⟩ := executes
  obtain ⟨request, done⟩ := finished
  cases Option.some.inj (found.symm.trans done)
  obtain ⟨inner, same, ended⟩ := coordinator_contract.post_of_done reach found
  exact ⟨given, inner, normal, same, ended⟩

theorem Executes.reservation (reach : CoordinatorReach pool) {i : Nat} {prepared : PreparedOperation} {key id : String}
    {reservation : Reservation} (executes : Executes pool i prepared key)
    (known : pool.state.creator id = some (i, reservation)) :
    reservation.idempotencyKey = key ∧ ∃ given, ReservationOf (reserveInput prepared given) reservation := by
  obtain ⟨approvals, given, authority, program, normal, found⟩ := executes
  have fits : ReservationOf (reserveInput prepared given) reservation := reach.created found id reservation known
  exact ⟨Except.ok.inj (fits.idempotencyKey.symm.trans normal), given, fits⟩

theorem Executes.creator_unique (reach : CoordinatorReach pool) {i j : Nat} {first second : PreparedOperation}
    {key firstId secondId : String} {mine other : Reservation} (executes : Executes pool i first key)
    (again : Executes pool j second key) (known : pool.state.creator firstId = some (i, mine))
    (known' : pool.state.creator secondId = some (j, other)) : i = j ∧ firstId = secondId := by
  obtain ⟨sameKey, _⟩ := executes.reservation reach known
  obtain ⟨sameKey', _⟩ := again.reservation reach known'
  obtain ⟨row, found⟩ := Option.ne_none_iff_exists'.mp (reach.owned.known firstId (by simp [known]))
  obtain ⟨k, reservation, recorded, continues⟩ := reach.owned.row firstId row found
  cases Option.some.inj (known.symm.trans recorded)
  have byKey := OperationTable.getByIdempotencyKey_of_get found
  rw [continues.idempotencyKey] at byKey
  have stored : pool.state.table.getByIdempotencyKey key = some row := sameKey ▸ byKey
  obtain ⟨firstSame, _⟩ := reach.owned.creator_of_key stored known sameKey
  obtain ⟨secondSame, _⟩ := reach.owned.creator_of_key stored known' sameKey'
  have ids : firstId = secondId := firstSame.symm.trans secondSame
  subst ids
  cases Option.some.inj (known.symm.trans known')
  exact ⟨rfl, rfl⟩

theorem Executes.stored (reach : CoordinatorReach pool) {i : Nat} {prepared : PreparedOperation} {key id : String}
    {reservation : Reservation} (executes : Executes pool i prepared key)
    (known : pool.state.creator id = some (i, reservation)) {old : OperationRow}
    (stored : pool.state.Stored key old) : reservation.row.Continues old := by
  obtain ⟨sameKey, _⟩ := executes.reservation reach known
  obtain ⟨⟨other, j, origin, known', same⟩, row, found, continues⟩ := stored
  have key' : origin.idempotencyKey = key := by
    have atOld : old.idempotencyKey = origin.idempotencyKey := same.idempotencyKey
    rw [← atOld, ← continues.idempotencyKey]
    exact OperationTable.getByIdempotencyKey_key found
  obtain ⟨firstSame, _⟩ := reach.owned.creator_of_key found known sameKey
  obtain ⟨secondSame, _⟩ := reach.owned.creator_of_key found known' key'
  have ids : id = other := firstSame.symm.trans secondSame
  subst ids
  cases Option.some.inj (known.symm.trans known')
  exact same

/-- At most one start of the SDK per key, over every history of the coordinator. -/
theorem CoordinatorReach.at_most_once (reach : CoordinatorReach pool) : SafeHistory pool where
  once i := by
    rcases reach.sends i with unsent | ⟨id, _, _, started⟩
    · simp [unsent]
    · simp [started]
  unique i j first second key executes again sent sent' := by
    obtain ⟨id, mine, known, _⟩ := (reach.sends i).resolve_left sent
    obtain ⟨id', other, known', _⟩ := (reach.sends j).resolve_left sent'
    exact (executes.creator_unique reach again known known').1
  sender i prepared key executes sent := by
    obtain ⟨id, mine, known, started⟩ := (reach.sends i).resolve_left sent
    obtain ⟨sameKey, _⟩ := executes.reservation reach known
    obtain ⟨row, found⟩ := Option.ne_none_iff_exists'.mp (reach.owned.known id (by simp [known]))
    obtain ⟨k, reservation, recorded, continues⟩ := reach.owned.row id row found
    cases Option.some.inj (known.symm.trans recorded)
    have byKey := OperationTable.getByIdempotencyKey_of_get found
    rw [continues.idempotencyKey] at byKey
    exact ⟨row, sameKey ▸ byKey, started.trans (congrArg (fun id => [id]) (OperationTable.get_identity found).symm)⟩
  others j prepared key result executes finished unsent := by
    obtain ⟨given, inner, normal, rfl, ended⟩ := finished.ended reach executes
    cases ended with
    | sent sent =>
      obtain ⟨id, _, _, started⟩ := sent.started
      cases unsent.symm.trans started
    | refused => exact .inl ⟨_, rfl⟩
    | @replayed reservation old _ fits stored =>
      have sameKey : reservation.idempotencyKey = key := Except.ok.inj (fits.idempotencyKey.symm.trans normal)
      obtain ⟨row, found, continues⟩ := stored.now
      cases done : executeReplay (reserveInput prepared given) reservation old with
      | error failure => exact .inl ⟨failure, rfl⟩
      | ok answer =>
        obtain ⟨replayed, same⟩ := executeReplay_ok done
        exact .inr ⟨answer, row, rfl, replayed, sameKey ▸ found, same.trans continues.id.symm⟩
  conflict i j first second key id context result executes created present again distinct finished asked answered
      differs collisionFree := by
    obtain ⟨mine, known⟩ := created
    obtain ⟨sameKey, firstKey, given⟩ := executes.reservation reach known
    obtain ⟨secondKey, inner, normal, rfl, ended⟩ := finished.ended reach again
    cases ended with
    | sent sent =>
      obtain ⟨other, theirs, known', _⟩ := sent.started
      exact absurd (executes.creator_unique reach again known known').1 distinct
    | refused _ cause =>
      cases cause with
      | invalid unasked => cases unasked.symm.trans asked
      | early unasked => cases unasked.symm.trans asked
      | database failed => cases failed.symm.trans answered
    | @replayed reservation old _ replay stored =>
      rw [Except.ok.inj (replay.idempotencyKey.symm.trans normal)] at stored
      obtain ⟨record, read, record_of⟩ := given.record present (executes.stored reach known stored)
      obtain ⟨error, refused, code⟩ := record_of.conflict present given replay differs collisionFree
      refine ⟨error, ?_, code⟩
      rw [executeReplay_of read]
      have same : (reserveInput second secondKey).context = second.context := rfl
      rw [same, refused]
      rfl
  repeated i j prepared key id context result executes created present bound again distinct finished := by
    intro failure failed
    obtain ⟨mine, known⟩ := created
    obtain ⟨sameKey, firstKey, given⟩ := executes.reservation reach known
    obtain ⟨secondKey, inner, normal, rfl, ended⟩ := finished.ended reach again
    cases ended with
    | sent sent =>
      obtain ⟨other, theirs, known', _⟩ := sent.started
      exact absurd (executes.creator_unique reach again known known').1 distinct
    | refused _ cause =>
      cases failed
      cases cause with
      | invalid _ never =>
        refine absurd ?_ (never mine)
        exact ⟨sameKey ▸ normal, given.requestDigest, given.chainId, given.commerceContract, given.jobId, given.kind,
          given.signerRole, given.parsed, given.context⟩
      | early _ code => exact code
      | database _ code => exact code
    | @replayed reservation old _ replay stored =>
      rw [Except.ok.inj (replay.idempotencyKey.symm.trans normal)] at stored
      obtain ⟨record, read, record_of⟩ := given.record present (executes.stored reach known stored)
      have recognized := record_of.repeats present given replay bound
      rw [executeReplay_of read] at failed
      have same : (reserveInput prepared secondKey).context = prepared.context := rfl
      rw [same, recognized] at failed
      rcases replayReservation_cases record with ⟨answer, done, _, _⟩ | ⟨error, refused, code⟩
      · have ended : (replayReservation record).map some = .error failure := failed
        rw [done] at ended
        cases ended
      · have ended : (replayReservation record).map some = .error failure := failed
        rw [refused] at ended
        cases ended
        rw [Failure.hasCode, code]
        rfl

end

def sampleOutside (uuid : String) : (call : Call) → call.Answer
  | .randomUuid => uuid
  | .run _ => .error (.commerce { code := .transactionUnknown, message := "pending" })
  | call => offline 2 call

def sampleContract : String := "0x4444444444444444444444444444444444444444"
def buyer : Address := ⟨"0x5555555555555555555555555555555555555555", by decide +kernel, by decide +kernel⟩

def sampleDigest : String := "3333333333333333333333333333333333333333333333333333333333333333"

def sampleOperation (kind : OperationKind) (requestDigest : String) : PreparedOperation where
  kind := kind
  signerRole := .client
  chainId := .testnet
  commerceContract := sampleContract
  jobId := none
  requestDigest := requestDigest
  expectation := none
  value := 0
  target := none
  data := none
  context := some ⟨buyer, none, none, none, none, none, none, none, none⟩

def sampleCall (kind : OperationKind) (requestDigest walletAddress : String) : CoordinatorRequest :=
  .executeSdk false (sampleOperation kind requestDigest) "hire-key-1" ⟨walletAddress⟩

theorem sampleCall_executes {pool : CoordinatorPool} {i : Nat} {kind : OperationKind} {digest wallet : String}
    {result : CoordinatorAnswer} (found : pool.threads[i]? = some ⟨sampleCall kind digest wallet, .done result⟩) :
    Executes pool i (sampleOperation kind digest) "hire-key-1" :=
  ⟨_, _, _, _, by decide +kernel, found⟩

def otherDigest : String := "7777777777777777777777777777777777777777777777777777777777777777"

def otherWallet : String := "0x6666666666666666666666666666666666666666"

def reusedPool [Sha256] (walletAddress : String) : CoordinatorPool :=
  (emptyPool.serve (sampleOutside "operation-1") (sampleCall .create sampleDigest buyer.text)).serve
    (sampleOutside "operation-2") (sampleCall .create otherDigest walletAddress)

theorem reusedPool_reach [Sha256] (walletAddress : String) : CoordinatorReach (reusedPool walletAddress) :=
  (emptyPool_reach.serve _ _).serve _ _

def attachedPool [Sha256] : CoordinatorPool :=
  ((emptyPool.serve (sampleOutside "operation-1") (sampleCall .register sampleDigest buyer.text)).serve
    (offline 2) (.repository (.attachJobId "operation-1" "7"))).serve
    (sampleOutside "operation-2") (sampleCall .register sampleDigest buyer.text)

theorem reusedPool_calls [Sha256] (walletAddress : String) :
    Executes (reusedPool walletAddress) 0 (sampleOperation .create sampleDigest) "hire-key-1" ∧
    ∃ result, Finished (reusedPool walletAddress) 1 result ∧
      Executes (reusedPool walletAddress) 1 (sampleOperation .create otherDigest) "hire-key-1" := by
  obtain ⟨_, first⟩ := emptyPool.serve_last (sampleOutside "operation-1") (sampleCall .create sampleDigest buyer.text)
  obtain ⟨result, second⟩ := CoordinatorPool.serve_last (emptyPool.serve (sampleOutside "operation-1")
    (sampleCall .create sampleDigest buyer.text)) (sampleOutside "operation-2")
    (sampleCall .create otherDigest walletAddress)
  exact ⟨sampleCall_executes (CoordinatorPool.serve_earlier first), result, ⟨_, second⟩, sampleCall_executes second⟩

theorem CoordinatorReach.at_most_once_conflict :
    let _ := nullSha256
    ∃ error, Finished (reusedPool buyer.text) 1 (.error (.commerce error)) ∧ error.code = .idempotencyConflict := by
  intro _
  obtain ⟨first, result, finished, second⟩ := reusedPool_calls buyer.text
  have history : ((reusedPool buyer.text).state.creator "operation-1").map Prod.fst = some 0 ∧
      ((reusedPool buyer.text).state.calls 1).asked = true ∧
      ((reusedPool buyer.text).state.calls 1).failed = false := by decide +kernel
  obtain ⟨creator, asked, answered⟩ := history
  obtain ⟨⟨_, reservation⟩, recorded, rfl⟩ := Option.map_eq_some_iff.mp creator
  have differs : Differs (sampleOperation .create sampleDigest) (sampleOperation .create otherDigest) :=
    .requestDigest (by decide +kernel)
  have collisionFree : CollisionFree (sampleOperation .create sampleDigest) (sampleOperation .create otherDigest) := by
    intro a b atFirst atSecond
    cases Option.some.inj atFirst
    cases Option.some.inj atSecond
    exact ⟨fun _ => rfl, fun _ => rfl⟩
  obtain ⟨error, same, code⟩ := (CoordinatorReach.at_most_once (reusedPool_reach buyer.text)).conflict 0 1 _ _ _ _ _ _
    first ⟨reservation, recorded⟩ rfl second (by decide) finished asked answered differs collisionFree
  exact ⟨error, same ▸ finished, code⟩

/-- Reusing a key with another digest can be refused for the wallet before the key is
looked at, and a repeat of a request reserved without a job id conflicts once the row
has one. -/
theorem CoordinatorReach.key_reuse_otherwise :
    let _ := nullSha256
    (∃ pool first second error, CoordinatorReach pool ∧ Executes pool 0 first "hire-key-1" ∧
      (pool.state.calls 0).started = ["operation-1"] ∧ Executes pool 1 second "hire-key-1" ∧ Differs first second ∧
      Finished pool 1 (.error (.commerce error)) ∧ error.code = .unauthorizedActor) ∧
    ∃ pool prepared error, CoordinatorReach pool ∧ Executes pool 0 prepared "hire-key-1" ∧
      (pool.state.calls 0).started = ["operation-1"] ∧ Executes pool 2 prepared "hire-key-1" ∧
      Finished pool 2 (.error (.commerce error)) ∧ error.code = .idempotencyConflict := by
  intro _
  constructor
  · obtain ⟨first, _, _, second⟩ := reusedPool_calls otherWallet
    have history : (reusedPool otherWallet).refusal 1 = some .unauthorizedActor ∧
        ((reusedPool otherWallet).state.calls 0).started = ["operation-1"] := by decide +kernel
    obtain ⟨refused, started⟩ := history
    obtain ⟨error, finished, code⟩ := CoordinatorPool.refusal_eq refused
    exact ⟨_, _, _, error, reusedPool_reach otherWallet, first, started, second,
      .requestDigest (by decide +kernel), finished, code⟩
  · obtain ⟨_, first⟩ := emptyPool.serve_last (sampleOutside "operation-1")
      (sampleCall .register sampleDigest buyer.text)
    let middle := (emptyPool.serve (sampleOutside "operation-1") (sampleCall .register sampleDigest buyer.text)).serve
      (offline 2) (.repository (.attachJobId "operation-1" "7"))
    obtain ⟨_, last⟩ := middle.serve_last (sampleOutside "operation-2") (sampleCall .register sampleDigest buyer.text)
    have history : attachedPool.refusal 2 = some .idempotencyConflict ∧
        (attachedPool.state.calls 0).started = ["operation-1"] := by decide +kernel
    obtain ⟨refused, started⟩ := history
    obtain ⟨error, finished, code⟩ := CoordinatorPool.refusal_eq refused
    exact ⟨attachedPool, _, error, ((emptyPool_reach.serve _ _).serve _ _).serve _ _,
      sampleCall_executes (CoordinatorPool.serve_earlier (CoordinatorPool.serve_earlier first)), started,
      sampleCall_executes last, finished, code⟩

end Bnbera
