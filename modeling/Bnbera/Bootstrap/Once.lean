import Bnbera.Bootstrap.Activation

namespace Bnbera.Bootstrap

open Interleaving

def persisted (log : BootstrapLog) : Option PasskeyBootstrapRecord :=
  log.foldl (fun last entry => match entry.op with
    | .persist record => some record
    | _ => last) none

def saved (log : BootstrapLog) : Option PasskeyBootstrapRecord :=
  parsePasskeyBootstrapRecord ((persisted log).map serializePasskeyBootstrapRecord)

def issued : ExecuteAnswer → Option String
  | .returned result => normalizedHash (some result.callsId)
  | .threw _ cause => errorCallsId cause

/-- One more entry, and the executes of a wallet that may have taken effect: those that have reached the relay
and of whose calls id it has not said that they failed without a transaction. -/
def unresolvedAfter (wallet : String) (executes : List (Option String)) : BootstrapEntry → List (Option String)
  | ⟨.execute _, .threw false _⟩ => executes
  | ⟨.execute other, answer⟩ => if other = wallet then executes ++ [issued answer] else executes
  | ⟨.readStatus callsId, some ⟨.failed, _, none⟩⟩ => executes.filter (· ≠ some callsId)
  | _ => executes

def unresolved (wallet : String) (log : BootstrapLog) : List (Option String) := log.foldl (unresolvedAfter wallet) []

def ReportedFailed (callsId : String) (log : BootstrapLog) : Prop :=
  ∃ code, (⟨.readStatus callsId, some ⟨.failed, code, none⟩⟩ : BootstrapEntry) ∈ log

def IssuedFor (wallet callsId : String) (log : BootstrapLog) : Prop :=
  ∃ answer, (⟨.execute wallet, answer⟩ : BootstrapEntry) ∈ log ∧ issued answer = some callsId

/-- The wallet was found registered, its execute returned as confirmed, or the relay said so of its calls id. -/
inductive Confirmation (wallet : String) (log : BootstrapLog) : Prop
  | registered {input : ActivateInput} (entered : (⟨.entered (.activate input), ()⟩ : BootstrapEntry) ∈ log)
      (found : input.walletState = .already_registered) (same : lower input.walletAddress = wallet)
  | executed {result : PasskeyBootstrapExecuteResult} (returned : (⟨.execute wallet, .returned result⟩ : BootstrapEntry) ∈ log)
      (confirmed : result.status = .confirmed)
  | relayed {callsId : String} {result : PasskeyBootstrapRelayStatus} (own : IssuedFor wallet callsId log)
      (read : (⟨.readStatus callsId, some result⟩ : BootstrapEntry) ∈ log) (confirmed : result.status = .confirmed)

def Settled (wallet callsId : String) (log : BootstrapLog) : Prop := Confirmation wallet log ∨ ReportedFailed callsId log

structure Page where
  log : BootstrapLog
  running : Option (Program BootstrapCall BootstrapCall.Answer (Except String PasskeyBootstrapOutcome))

inductive PageEvent
  | entered (request : BootstrapRequest)
  | called (entry : BootstrapEntry)
  | left

def BootstrapRequest.work (request : BootstrapRequest) (record : Option PasskeyBootstrapRecord) :
    Option (Activation PasskeyBootstrapOutcome) :=
  match request with
  | activate input => some (activateFreshPasskeyWallet input record)
  | reconcile => record.map reconcilePasskeyBootstrapRecord

/-- One call runs at a time. A page may be left between any two of its steps, and after a call has returned. -/
inductive PageStep : Page → PageEvent → Page → Prop
  | entered {log request work} : request.work (saved log) = some work →
      PageStep ⟨log, none⟩ (.entered request) ⟨log ++ [⟨.entered request, ()⟩], some work.run⟩
  | called {log op next} (answer : op.Answer) :
      PageStep ⟨log, some (.call op next)⟩ (.called ⟨op, answer⟩) ⟨log ++ [⟨op, answer⟩], some (next answer)⟩
  | left {log running} : PageStep ⟨log, running⟩ .left ⟨log, none⟩

inductive PageReach (permits : Page → PageEvent → Prop) : Page → Prop
  | start : PageReach permits ⟨[], none⟩
  | next {page page' event} : PageReach permits page → permits page event → PageStep page event page' →
      PageReach permits page'

def SentOnce (log : BootstrapLog) : Prop :=
  ∀ before wallet answer after, log = before ++ ⟨.execute wallet, answer⟩ :: after → unresolved wallet before = []

def CallsIdsKept (log : BootstrapLog) : Prop :=
  ∀ before record after, log = before ++ ⟨.persist record, ()⟩ :: after →
    ∀ old callsId, saved before = some old → old.callsId = some callsId →
      record.callsId = some callsId ∨ Settled old.walletAddress callsId before

def ReadBack (log : BootstrapLog) : Prop :=
  ∀ record, (⟨.persist record, ()⟩ : BootstrapEntry) ∈ log →
    parsePasskeyBootstrapRecord (some (serializePasskeyBootstrapRecord record)) = some record

def AuthenticatesConfirmed (page : Page) : Prop :=
  ∀ result, page.running = some (.done (.ok result)) → result.shouldAuthenticate = true →
    Confirmation result.record.walletAddress page.log

/-- The first action of a passkey wallet is sent once at most, and the slot keeps what is known of it. -/
structure Durable (page : Page) : Prop where
  sentOnce : SentOnce page.log
  callsIdsKept : CallsIdsKept page.log
  authenticates : AuthenticatesConfirmed page
  readBack : ReadBack page.log

def SafeCode (code : Option String) : Prop := ∀ text, code = some text → isSafeIntegerText text = true

/-- An answer in the form that the slot reads back. An execute that has reached the relay does not throw what reads
like missing gas without its calls id. -/
def Faithful : BootstrapEntry → Prop
  | ⟨.execute _, .returned result⟩ => SafeCode result.statusCode
  | ⟨.execute _, .threw true cause⟩ => errorCallsId cause = none → isInsufficientGas cause = false
  | ⟨.readStatus _, some result⟩ => SafeCode result.statusCode ∧
      ∀ text, result.transactionHash = some text → isHash text = true ∧ lower text = text
  | _ => True

def MaySwitch (log : BootstrapLog) : BootstrapRequest → Prop
  | .activate input => ∀ old callsId, saved log = some old → old.callsId = some callsId →
      isWalletAddress (lower input.walletAddress) = true → old.walletAddress ≠ lower input.walletAddress →
        Settled old.walletAddress callsId log
  | .reconcile => True

def Orderly (page : Page) : PageEvent → Prop
  | .entered request => MaySwitch page.log request
  | .called entry => Faithful entry
  | .left => True

section
variable {log later : BootstrapLog} {entry : BootstrapEntry} {wallet callsId : String}

@[simp] theorem persisted_persist {record : PasskeyBootstrapRecord} :
    persisted (log ++ [⟨.persist record, ()⟩]) = some record := by
  rw [persisted, List.foldl_append]
  rfl

theorem persisted_quiet (quiet : ∀ record, entry.op ≠ .persist record) : persisted (log ++ [entry]) = persisted log := by
  rw [persisted, List.foldl_append, List.foldl_cons, List.foldl_nil]
  split
  · rename_i record same
    exact absurd same (quiet record)
  · rfl

theorem unresolved_snoc : unresolved wallet (log ++ [entry]) = unresolvedAfter wallet (unresolved wallet log) entry := by
  rw [unresolved, List.foldl_append]
  rfl

theorem unresolved_quiet (quiet : ∀ other, entry.op ≠ .execute other) :
    ∀ execute ∈ unresolved wallet (log ++ [entry]), execute ∈ unresolved wallet log := by
  intro execute member
  rw [unresolved_snoc, unresolvedAfter.eq_def] at member
  split at member
  · exact absurd rfl (quiet _)
  · exact absurd rfl (quiet _)
  · exact (List.mem_filter.mp member).1
  · exact member

theorem unresolved_execute {answer : ExecuteAnswer} (none : unresolved wallet log = []) :
    ∀ execute ∈ unresolved wallet (log ++ [⟨.execute wallet, answer⟩]), execute = issued answer ∧
      ∀ cause, answer ≠ .threw false cause := by
  intro execute member
  rw [unresolved_snoc, none] at member
  cases answer with
  | returned result =>
    simp only [unresolvedAfter, if_true, List.nil_append, List.mem_singleton] at member
    exact ⟨member, fun _ => nofun⟩
  | threw reached cause =>
    cases reached with
    | false => cases member
    | true =>
      simp only [unresolvedAfter, if_true, List.nil_append, List.mem_singleton] at member
      exact ⟨member, fun _ => nofun⟩

theorem ReportedFailed.grows (reported : ReportedFailed callsId log) (grown : ∀ entry ∈ log, entry ∈ later) :
    ReportedFailed callsId later :=
  reported.imp fun _ member => grown _ member

theorem IssuedFor.grows (own : IssuedFor wallet callsId log) (grown : ∀ entry ∈ log, entry ∈ later) :
    IssuedFor wallet callsId later :=
  own.imp fun _ holds => ⟨grown _ holds.1, holds.2⟩

theorem Confirmation.grows (confirmed : Confirmation wallet log) (grown : ∀ entry ∈ log, entry ∈ later) :
    Confirmation wallet later := by
  cases confirmed with
  | registered entered found same => exact .registered (grown _ entered) found same
  | executed returned confirmed => exact .executed (grown _ returned) confirmed
  | relayed own read confirmed => exact .relayed (own.grows grown) (grown _ read) confirmed

theorem Settled.grows (settled : Settled wallet callsId log) (grown : ∀ entry ∈ log, entry ∈ later) :
    Settled wallet callsId later :=
  settled.imp (·.grows grown) (·.grows grown)

theorem snoc_grows : ∀ old ∈ log, old ∈ log ++ [entry] := fun _ member => List.mem_append_left _ member

/-- What the log says of a record. Where it lets the wallet be executed without asking the relay, nothing is unresolved;
where it holds a calls id, nothing else is. -/
structure Held (record : PasskeyBootstrapRecord) (log : BootstrapLog) : Prop where
  readable : record.Readable
  own : ∀ callsId, record.callsId = some callsId → IssuedFor record.walletAddress callsId log
  confirmed : record.status = .confirmed → Confirmation record.walletAddress log
  resolved : (record.callsId = none → record.status ≠ .unknown ∧ record.status ≠ .confirmed) →
    ∀ execute ∈ unresolved record.walletAddress log, execute = record.callsId ∧ execute ≠ none

structure Quietly (log later : BootstrapLog) : Prop where
  last : persisted later = persisted log
  grows : ∀ entry ∈ log, entry ∈ later
  unresolved : ∀ wallet, ∀ execute ∈ unresolved wallet later, execute ∈ unresolved wallet log

theorem Quietly.snoc (executes : ∀ other, entry.op ≠ .execute other) (persists : ∀ record, entry.op ≠ .persist record) :
    Quietly log (log ++ [entry]) where
  last := persisted_quiet persists
  grows := snoc_grows
  unresolved _ := unresolved_quiet executes

theorem Held.grows {record : PasskeyBootstrapRecord} (held : Held record log) (grown : ∀ entry ∈ log, entry ∈ later)
    (quiet : ∀ execute ∈ unresolved record.walletAddress later, execute ∈ unresolved record.walletAddress log) :
    Held record later where
  readable := held.readable
  own callsId known := (held.own callsId known).grows grown
  confirmed known := (held.confirmed known).grows grown
  resolved asks execute member := held.resolved asks execute (quiet execute member)

theorem Held.marker {record : PasskeyBootstrapRecord} (readable : record.Readable) (unknown : record.status = .unknown)
    (none : record.callsId = none) : Held record log where
  readable := readable
  own callsId known := by rw [none] at known; cases known
  confirmed known := by rw [unknown] at known; cases known
  resolved asks := absurd unknown (asks none).1

/-- The log agrees with what was persisted last; before that nothing was executed. -/
structure Sound (log : BootstrapLog) : Prop where
  blank : persisted log = none → ∀ wallet, unresolved wallet log = []
  held : ∀ record, persisted log = some record → Held record log

theorem Sound.quiet (sound : Sound log) (quiet : Quietly log later) : Sound later where
  blank none wallet := by
    rw [quiet.last] at none
    refine List.eq_nil_iff_forall_not_mem.mpr fun execute member => ?_
    have old := quiet.unresolved wallet execute member
    rw [sound.blank none wallet] at old
    cases old
  held record last := by
    rw [quiet.last] at last
    exact (sound.held record last).grows quiet.grows (quiet.unresolved _)

theorem Sound.written {record : PasskeyBootstrapRecord} (held : Held record log) :
    Sound (log ++ [⟨.persist record, ()⟩]) where
  blank none := by rw [persisted_persist] at none; cases none
  held other last := by
    rw [persisted_persist] at last
    cases last
    exact held.grows snoc_grows (unresolved_quiet fun _ => nofun)

theorem Sound.executed {record : PasskeyBootstrapRecord} {answer : ExecuteAnswer} (last : persisted log = some record)
    (readable : record.Readable) (unknown : record.status = .unknown) (none : record.callsId = none) :
    Sound (log ++ [⟨.execute wallet, answer⟩]) := by
  have kept : persisted (log ++ [⟨.execute wallet, answer⟩]) = some record := by
    rw [← last]
    exact persisted_quiet fun _ => nofun
  refine ⟨fun blank => ?_, fun other same => ?_⟩
  · rw [kept] at blank
    cases blank
  · rw [kept] at same
    cases same
    exact .marker readable unknown none

theorem Sound.saved_eq (sound : Sound log) : saved log = persisted log := by
  cases last : persisted log with
  | none =>
    rw [saved, last]
    rfl
  | some record =>
    rw [saved, last]
    exact parse_serialize (sound.held record last).readable

def Replaces (record : PasskeyBootstrapRecord) (log : BootstrapLog) : Prop :=
  ∀ old callsId, saved log = some old → old.callsId = some callsId →
    record.callsId = some callsId ∨ Settled old.walletAddress callsId log

def Allowed (log : BootstrapLog) : BootstrapCall → Prop
  | .execute wallet => unresolved wallet log = []
  | .persist record => record.Readable ∧ Replaces record log
  | _ => True

def AllFaithful (log : BootstrapLog) : Prop := ∀ entry ∈ log, Faithful entry

def Permitted (log : BootstrapLog) (op : BootstrapCall) : Prop := AllFaithful log → Sound log ∧ Allowed log op

def Answers (result : Except String PasskeyBootstrapOutcome) (log : BootstrapLog) : Prop :=
  AllFaithful log → Sound log ∧ ∀ returned, result = .ok returned → returned.shouldAuthenticate = true →
    Confirmation returned.record.walletAddress log

def Safe (work : Activation PasskeyBootstrapOutcome) (log : BootstrapLog) : Prop := Keeps Permitted Answers work.run log

theorem keeps_unfaithful {work : Program BootstrapCall BootstrapCall.Answer (Except String PasskeyBootstrapOutcome)}
    (unfaithful : ¬AllFaithful log) : Keeps Permitted Answers work log := by
  induction work generalizing log with
  | done => exact .done fun faithful => absurd faithful unfaithful
  | call op next ih =>
    refine .call (fun faithful => absurd faithful unfaithful) fun answer => ih answer fun faithful => unfaithful ?_
    exact fun entry member => faithful entry (snoc_grows entry member)

theorem Safe.asked {op : BootstrapCall} {rest : op.Answer → Activation PasskeyBootstrapOutcome} (sound : Sound log)
    (allowed : Allowed log op) (after : ∀ answer, Faithful ⟨op, answer⟩ → Safe (rest answer) (log ++ [⟨op, answer⟩])) :
    Safe (ask op >>= rest) log := by
  refine Keeps.call (fun _ => ⟨sound, allowed⟩) fun answer => ?_
  by_cases faithful : Faithful ⟨op, answer⟩
  · exact after answer faithful
  · exact keeps_unfaithful fun all => faithful (all _ (List.mem_append_right _ (List.mem_singleton_self _)))

theorem Safe.now {rest : Timestamp → Activation PasskeyBootstrapOutcome} (sound : Sound log)
    (after : ∀ time later, Quietly log later → Sound later → Safe (rest time) later) : Safe (ask .now >>= rest) log := by
  refine .asked sound trivial fun time _ => ?_
  have quiet : Quietly log (log ++ [⟨.now, time⟩]) := .snoc (fun _ => nofun) fun _ => nofun
  exact after time _ quiet (sound.quiet quiet)

theorem Safe.read {rest : Option PasskeyBootstrapRelayStatus → Activation PasskeyBootstrapOutcome} (sound : Sound log)
    (after : ∀ answer, Faithful ⟨.readStatus callsId, answer⟩ → Quietly log (log ++ [⟨.readStatus callsId, answer⟩]) →
      Sound (log ++ [⟨.readStatus callsId, answer⟩]) → Safe (rest answer) (log ++ [⟨.readStatus callsId, answer⟩])) :
    Safe (ask (.readStatus callsId) >>= rest) log := by
  refine .asked sound trivial fun answer faithful => ?_
  have quiet : Quietly log (log ++ [⟨.readStatus callsId, answer⟩]) := .snoc (fun _ => nofun) fun _ => nofun
  exact after answer faithful quiet (sound.quiet quiet)

theorem Safe.returned {result : PasskeyBootstrapOutcome} (sound : Sound log)
    (confirmed : result.shouldAuthenticate = true → Confirmation result.record.walletAddress log) :
    Safe (pure result) log :=
  Keeps.done fun _ => ⟨sound, fun _ same => by cases same; exact confirmed⟩

theorem Safe.persist {record : PasskeyBootstrapRecord} {rest : Unit → Activation PasskeyBootstrapOutcome} (sound : Sound log)
    (held : Held record log) (replaces : Replaces record log)
    (after : Sound (log ++ [⟨.persist record, ()⟩]) → Safe (rest ()) (log ++ [⟨.persist record, ()⟩])) :
    Safe (ask (.persist record) >>= rest) log :=
  .asked sound ⟨held.readable, replaces⟩ fun _ _ => after (.written held)

theorem Safe.finish {record : PasskeyBootstrapRecord} {result : PasskeyBootstrapOutcome} (sound : Sound log)
    (held : Held record log) (replaces : Replaces record log)
    (confirmed : result.shouldAuthenticate = true → Confirmation result.record.walletAddress log) :
    Safe (do ask (.persist record); return result) log :=
  .persist sound held replaces fun sound => .returned sound fun asked => (confirmed asked).grows snoc_grows

end

end Bnbera.Bootstrap
