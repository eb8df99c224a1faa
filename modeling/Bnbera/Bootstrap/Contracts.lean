import Bnbera.Bootstrap.Once

namespace Bnbera.Bootstrap

open Interleaving

variable {log later : BootstrapLog} {current next : PasskeyBootstrapRecord} {wallet callsId : String}

theorem normalizedHash_eq {value : Option String} (known : normalizedHash value = some callsId) :
    isHash callsId = true ∧ lower callsId = callsId := by
  obtain ⟨text, _, checked⟩ := Option.bind_eq_some_iff.mp known
  by_cases hash : isHash text = true
  · rw [if_pos hash] at checked
    cases checked
    exact ⟨isHash_lower hash, lower_lower text⟩
  · rw [if_neg hash] at checked
    cases checked

theorem errorCallsId_eq {cause : PasskeyBootstrapExecutionError} (known : errorCallsId cause = some callsId) :
    isHash callsId = true ∧ lower callsId = callsId := by
  rcases Option.or_eq_some_iff.mp known with first | ⟨_, second⟩
  · exact normalizedHash_eq first
  · exact normalizedHash_eq second

theorem replaces_same (sound : Sound log) (last : persisted log = some current) (same : next.callsId = current.callsId) :
    Replaces next log := by
  intro old callsId found known
  rw [sound.saved_eq, last] at found
  cases found
  exact .inl (same.trans known)

theorem replaces_none (sound : Sound log) (last : persisted log = some current) (none : current.callsId = none) :
    Replaces next log := by
  intro old callsId found known
  rw [sound.saved_eq, last] at found
  cases found
  rw [none] at known
  cases known

theorem PasskeyBootstrapRecord.Readable.touched (readable : current.Readable) (time : Timestamp) :
    (withRecord current time).Readable where
  walletAddress := ⟨isWalletAddress_lower readable.walletAddress.1, lower_lower _⟩
  callsId := readable.callsId
  transactionHash := readable.transactionHash
  statusCode := readable.statusCode
  unregistered := readable.unregistered

theorem Held.rewritten (held : Held current log) (known : current.callsId = some callsId)
    (wallet : next.walletAddress = current.walletAddress) (same : next.callsId = some callsId) (readable : next.Readable)
    (confirmed : next.status = .confirmed → Confirmation current.walletAddress log) : Held next log where
  readable := readable
  own callsId' known' := by
    rw [wallet]
    exact held.own callsId' (by rw [known, ← same, known'])
  confirmed status := by
    rw [wallet]
    exact confirmed status
  resolved _ execute member := by
    rw [wallet] at member
    have resolved := held.resolved (fun none => by rw [known] at none; cases none) execute member
    exact ⟨resolved.1.trans (known.trans same.symm), resolved.2⟩

theorem relayedStatus_ne {result : PasskeyBootstrapRelayStatus} : relayedStatus result ≠ .unregistered := by
  unfold relayedStatus
  split <;> nofun

theorem relayedStatus_confirmed {result : PasskeyBootstrapRelayStatus} (confirmed : relayedStatus result = .confirmed) :
    result.status = .confirmed := by
  unfold relayedStatus at confirmed
  split at confirmed
  case h_1 same => exact same
  all_goals cases confirmed

theorem relayedStatus_failed {result : PasskeyBootstrapRelayStatus} (failed : relayedStatus result = .failed) :
    result.status = .failed ∧ result.transactionHash = none := by
  unfold relayedStatus at failed
  split at failed
  case h_2 status hash => exact ⟨status, hash⟩
  all_goals cases failed

theorem Held.relayed (held : Held current log) (known : current.callsId = some callsId) {result : PasskeyBootstrapRelayStatus}
    (faithful : Faithful ⟨.readStatus callsId, some result⟩) (read : (⟨.readStatus callsId, some result⟩ : BootstrapEntry) ∈ log)
    (time : Timestamp) : Held (relayRecord current result time) log := by
  have readable := held.readable
  refine held.rewritten known readable.walletAddress.2 known (.touched ⟨?_, ?_, ?_, ?_, ?_⟩ time) fun confirmed => ?_
  · exact readable.walletAddress
  · exact readable.callsId
  · intro text hash
    rcases Option.or_eq_some_iff.mp hash with answered | ⟨_, old⟩
    · exact faithful.2 text answered
    · exact readable.transactionHash text old
  · exact faithful.1
  · exact fun status => absurd status relayedStatus_ne
  · exact .relayed (held.own callsId known) read (relayedStatus_confirmed confirmed)

theorem unreadable_safe (sound : Sound log) (last : persisted log = some current) (known : current.callsId = some callsId) :
    Safe (unreadable current) log := by
  refine Safe.now sound fun time later quiet sound => ?_
  have last' : persisted later = some current := quiet.last.trans last
  have held := sound.held current last'
  have readable := held.readable
  refine Safe.finish sound ?_ (replaces_same sound last' rfl) nofun
  refine held.rewritten known readable.walletAddress.2 known (.touched ⟨?_, ?_, ?_, ?_, ?_⟩ time) nofun
  · exact readable.walletAddress
  · exact readable.callsId
  · exact readable.transactionHash
  · exact readable.statusCode
  · exact nofun

theorem readOutcome_confirmed (asked : (readOutcome current).shouldAuthenticate = true) : current.status = .confirmed := by
  unfold readOutcome at asked
  split at asked
  · rename_i confirmed
    exact confirmed
  all_goals cases asked

theorem readOutcome_record : (readOutcome current).record = current := by
  unfold readOutcome
  split <;> rfl

theorem reread_safe (sound : Sound log) (last : persisted log = some current) (known : current.callsId = some callsId) :
    Safe (reread current callsId) log := by
  refine Safe.read sound fun answer faithful quiet sound => ?_
  have last' := quiet.last.trans last
  cases answer with
  | none => exact unreadable_safe sound last' known
  | some result =>
    refine Safe.now sound fun time later quiet sound => ?_
    have last := quiet.last.trans last'
    have read := quiet.grows _ (List.mem_append_right log (List.mem_singleton_self _))
    have held := (sound.held current last).relayed known faithful read time
    refine Safe.finish sound held (replaces_same sound last rfl) fun asked => ?_
    rw [readOutcome_record]
    exact held.confirmed (readOutcome_confirmed asked)

/-- Behind an execute: the slot still holds the marker, and of the wallet's executes that one alone may be unresolved. -/
structure Executed (marker : PasskeyBootstrapRecord) (answer : ExecuteAnswer) (log : BootstrapLog) : Prop where
  last : persisted log = some marker
  readable : marker.Readable
  callsId : marker.callsId = none
  entry : (⟨.execute marker.walletAddress, answer⟩ : BootstrapEntry) ∈ log
  unresolved : ∀ execute ∈ unresolved marker.walletAddress log, execute = issued answer ∧ ∀ cause, answer ≠ .threw false cause

theorem Executed.quiet {marker : PasskeyBootstrapRecord} {answer : ExecuteAnswer} (executed : Executed marker answer log)
    (quiet : Quietly log later) : Executed marker answer later where
  last := quiet.last.trans executed.last
  readable := executed.readable
  callsId := executed.callsId
  entry := quiet.grows _ executed.entry
  unresolved execute member := executed.unresolved execute (quiet.unresolved _ execute member)

theorem afterThrow_safe {marker : PasskeyBootstrapRecord} {answer : ExecuteAnswer} {cause : PasskeyBootstrapExecutionError}
    (sound : Sound log) (executed : Executed marker answer log)
    (id : ∀ callsId, errorCallsId cause = some callsId → issued answer = some callsId)
    (gas : errorCallsId cause = none → isInsufficientGas cause = true → ∃ other, answer = .threw false other) :
    Safe (afterThrow marker cause) log := by
  refine Safe.now sound fun time later quiet sound => ?_
  have executed := executed.quiet quiet
  have readable := executed.readable
  refine Safe.finish sound ⟨.touched ⟨?_, ?_, ?_, ?_, ?_⟩ time, ?_, ?_, ?_⟩
    (replaces_none sound executed.last executed.callsId) nofun
  · exact readable.walletAddress
  · exact fun text known => errorCallsId_eq known
  · exact fun text known => nomatch (known : none = some text)
  · exact fun text known => nomatch (known : none = some text)
  · intro unregistered
    simp only [threwRecord] at unregistered
    split at unregistered <;> cases unregistered
  · intro callsId known
    refine ⟨answer, ?_, id callsId known⟩
    show (⟨.execute (lower marker.walletAddress), answer⟩ : BootstrapEntry) ∈ later
    rw [readable.walletAddress.2]
    exact executed.entry
  · intro confirmed
    simp only [withRecord, threwRecord] at confirmed
    split at confirmed <;> cases confirmed
  · intro asks execute member
    have same : (withRecord (threwRecord marker cause) time).walletAddress = marker.walletAddress := readable.walletAddress.2
    rw [same] at member
    obtain ⟨isIssued, reached⟩ := executed.unresolved execute member
    cases known : errorCallsId cause with
    | none =>
      have failed := (asks known).1
      by_cases insufficient : isInsufficientGas cause = true
      · obtain ⟨other, unreached⟩ := gas known insufficient
        exact absurd unreached (reached other)
      · simp only [withRecord, threwRecord, known, insufficient, and_false, if_false, ne_eq, not_true_eq_false,
          Bool.false_eq_true] at failed
    | some callsId =>
      have held : (withRecord (threwRecord marker cause) time).callsId = some callsId := known
      rw [held, isIssued, id callsId known]
      exact ⟨rfl, nofun⟩

theorem executionRecord_eq_ok {result : PasskeyBootstrapExecuteResult} {time : Timestamp}
    (read : executionRecord current result time = .ok next) : ∃ callsId, normalizedHash (some result.callsId) = some callsId ∧
      next = withRecord ⟨current.walletAddress, some callsId, normalizedHash result.transactionHash,
        executionStatus result.status, result.statusCode, current.updatedAt⟩ time := by
  unfold executionRecord at read
  cases known : normalizedHash (some result.callsId) with
  | none =>
    rw [known] at read
    cases read
  | some callsId =>
    refine ⟨callsId, rfl, ?_⟩
    simp only [known] at read
    split at read
    · cases read
    · cases read
      rfl

theorem executionRecord_eq_error {result : PasskeyBootstrapExecuteResult} {time : Timestamp} {message : String}
    (thrown : executionRecord current result time = .error message) : isInsufficientGas ⟨message, none, none⟩ = false := by
  unfold executionRecord at thrown
  cases known : normalizedHash (some result.callsId) with
  | none =>
    simp only [known] at thrown
    cases thrown
    decide +kernel
  | some callsId =>
    simp only [known] at thrown
    split at thrown
    · cases thrown
      decide +kernel
    · cases thrown

/-- The record of a result, behind its execute. -/
theorem Executed.returned {marker : PasskeyBootstrapRecord} {result : PasskeyBootstrapExecuteResult} {time : Timestamp}
    (executed : Executed marker (.returned result) log) (safe : SafeCode result.statusCode)
    (read : executionRecord marker result time = .ok next) :
    Held next log ∧ next.callsId = issued (.returned result) ∧ next.callsId ≠ none := by
  obtain ⟨callsId, known, rfl⟩ := executionRecord_eq_ok read
  have readable := executed.readable
  have wallet : lower marker.walletAddress = marker.walletAddress := readable.walletAddress.2
  have entry := executed.entry
  have alone := executed.unresolved
  rw [← wallet] at entry alone
  refine ⟨⟨.touched ⟨?_, ?_, ?_, ?_, ?_⟩ time, ?_, ?_, ?_⟩, known.symm, nofun⟩
  · exact readable.walletAddress
  · rintro text ⟨⟩
    exact normalizedHash_eq known
  · exact fun text hash => normalizedHash_eq hash
  · exact safe
  · intro unregistered
    cases status : result.status <;> simp [status, executionStatus] at unregistered
  · rintro callsId' ⟨⟩
    exact ⟨_, entry, known⟩
  · intro confirmed
    refine .executed entry ?_
    cases status : result.status <;> simp [status, executionStatus, withRecord] at confirmed ⊢
  · intro _ execute member
    have same := (alone execute member).1.trans known
    exact ⟨same, fun none => nomatch same.symm.trans none⟩

theorem markedRecord_readable (readable : current.Readable) : (markedRecord current).Readable where
  walletAddress := readable.walletAddress
  callsId _ known := nomatch (known : none = some _)
  transactionHash _ known := nomatch (known : none = some _)
  statusCode _ known := nomatch (known : none = some _)
  unregistered _ := rfl

/-- The write comes where nothing of the wallet is unresolved, and its marker takes the place of a known outcome only. -/
theorem submit_safe (sound : Sound log) (readable : current.Readable) (clear : unresolved current.walletAddress log = [])
    (settled : ∀ old callsId, saved log = some old → old.callsId = some callsId → Settled old.walletAddress callsId log) :
    Safe (submit current.walletAddress current) log := by
  refine Safe.now sound fun time later quiet sound => ?_
  have wallet : (withRecord (markedRecord current) time).walletAddress = current.walletAddress := readable.walletAddress.2
  have unknown : (withRecord (markedRecord current) time).status = .unknown := rfl
  have noId : (withRecord (markedRecord current) time).callsId = none := rfl
  have markedReadable := (markedRecord_readable readable).touched time
  generalize withRecord (markedRecord current) time = marker at wallet unknown noId markedReadable ⊢
  have replaces : Replaces marker later := by
    intro old callsId found known
    have same : saved later = saved log := by rw [saved, saved, quiet.last]
    exact .inr ((settled old callsId (same ▸ found) known).grows quiet.grows)
  rw [← wallet] at clear ⊢
  refine Safe.persist sound (.marker markedReadable unknown noId) replaces fun sound => ?_
  have clear : unresolved marker.walletAddress (later ++ [⟨.persist marker, ()⟩]) = [] := by
    have silent : ∀ other, BootstrapCall.persist marker ≠ .execute other := by rintro _ ⟨⟩
    refine List.eq_nil_iff_forall_not_mem.mpr fun execute member => ?_
    have old := quiet.unresolved _ execute (unresolved_quiet silent execute member)
    rw [clear] at old
    cases old
  refine Safe.asked sound clear fun answer faithful => ?_
  have kept : persisted (later ++ [⟨.persist marker, ()⟩] ++ [⟨.execute marker.walletAddress, answer⟩]) = some marker := by
    rw [persisted_quiet, persisted_persist]
    rintro _ ⟨⟩
  have executed : Executed marker answer (later ++ [⟨.persist marker, ()⟩] ++ [⟨.execute marker.walletAddress, answer⟩]) :=
    ⟨kept, markedReadable, noId, List.mem_append_right _ (List.mem_singleton_self _), unresolved_execute clear⟩
  have sound : Sound (later ++ [⟨.persist marker, ()⟩] ++ [⟨.execute marker.walletAddress, answer⟩]) :=
    .executed persisted_persist markedReadable unknown noId
  cases answer with
  | threw reached cause =>
    refine afterThrow_safe sound executed (fun _ => id) fun known insufficient => ?_
    cases reached with
    | false => exact ⟨cause, rfl⟩
    | true =>
      have other := faithful known
      rw [insufficient] at other
      cases other
  | returned result =>
    refine Safe.now sound fun time later quiet sound => ?_
    have executed := executed.quiet quiet
    cases read : executionRecord marker result time with
    | error message =>
      refine afterThrow_safe sound executed (by rintro _ ⟨⟩) fun _ insufficient => ?_
      rw [executionRecord_eq_error read] at insufficient
      cases insufficient
    | ok current =>
      obtain ⟨held, known, present⟩ := executed.returned faithful read
      refine Safe.persist sound held (replaces_none sound executed.last executed.callsId) fun sound => ?_
      obtain ⟨callsId, found⟩ := Option.ne_none_iff_exists'.mp present
      rw [found, Option.getD_some]
      split
      · rename_i confirmed
        exact Safe.returned sound fun _ => (held.confirmed confirmed).grows snoc_grows
      · exact Safe.returned sound (by rintro ⟨⟩)
      · exact reread_safe sound persisted_persist found

end Bnbera.Bootstrap
