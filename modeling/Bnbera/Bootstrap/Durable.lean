import Bnbera.Bootstrap.Contracts

namespace Bnbera.Bootstrap

open Interleaving

variable {log later : BootstrapLog} {current next : PasskeyBootstrapRecord} {wallet callsId : String}

theorem savedOrNew_none_bind (valid : isWalletAddress wallet = true)
    {rest : PasskeyBootstrapRecord → Activation PasskeyBootstrapOutcome} :
    savedOrNew wallet none >>= rest = ask .now >>= fun time => rest ⟨lower wallet, none, none, .unregistered, none, time⟩ := by
  unfold savedOrNew
  rw [bind_assoc]
  congr
  funext time
  rw [createUnregisteredPasskeyBootstrapRecord, if_pos valid]
  rfl

theorem fresh_safe (sound : Sound log) (blank : persisted log = none) (readable : current.Readable)
    (unregistered : current.status = .unregistered) : Safe (resume current.walletAddress current) log := by
  have found : saved log = none := by rw [sound.saved_eq, blank]
  rw [resume, if_neg (by rw [unregistered]; nofun), readable.unregistered unregistered]
  show Safe (if current.status = .unknown then _ else _) log
  rw [if_neg (by rw [unregistered]; nofun)]
  exact submit_safe sound readable (sound.blank blank _) fun old callsId other => by rw [found] at other; cases other

/-- The saved record of a wallet is taken up again. -/
theorem resume_safe (sound : Sound log) (last : persisted log = some current) :
    Safe (resume current.walletAddress current) log := by
  have held := sound.held current last
  unfold resume
  by_cases confirmed : current.status = .confirmed
  · rw [if_pos confirmed]
    exact Safe.returned sound fun _ => held.confirmed confirmed
  · rw [if_neg confirmed]
    cases known : current.callsId with
    | none =>
      by_cases unknown : current.status = .unknown
      · exact (if_pos unknown) ▸ Safe.returned sound nofun
      · show Safe (if current.status = .unknown then _ else _) log
        rw [if_neg unknown]
        refine submit_safe sound held.readable ?_ ?_
        · refine List.eq_nil_iff_forall_not_mem.mpr fun execute member => ?_
          have resolved := held.resolved (fun _ => ⟨unknown, confirmed⟩) execute member
          exact resolved.2 (resolved.1.trans known)
        · intro old callsId found other
          rw [sound.saved_eq, last] at found
          cases found
          rw [known] at other
          cases other
    | some callsId =>
      refine Safe.read sound fun answer faithful quiet sound => ?_
      have last' := quiet.last.trans last
      cases answer with
      | none => exact unreadable_safe sound last' known
      | some result =>
        have asked : (⟨.readStatus callsId, some result⟩ : BootstrapEntry) ∈ log ++ [⟨.readStatus callsId, some result⟩] :=
          List.mem_append_right log (List.mem_singleton_self _)
        refine Safe.now sound fun time later quiet' sound => ?_
        have last := quiet'.last.trans last'
        have heldLater := (sound.held current last).relayed known faithful (quiet'.grows _ asked) time
        refine Safe.persist sound heldLater (replaces_same sound last rfl) fun sound => ?_
        have wallet : (relayRecord current result time).walletAddress = current.walletAddress := held.readable.walletAddress.2
        by_cases failed : (relayRecord current result time).status = .failed
        · rw [if_pos failed, ← wallet]
          obtain ⟨status, hash⟩ := relayedStatus_failed failed
          obtain ⟨_, code, _⟩ := result
          cases status
          cases hash
          refine submit_safe sound heldLater.readable ?_ ?_
          · refine List.eq_nil_iff_forall_not_mem.mpr fun execute member => ?_
            have silent : ∀ other, BootstrapCall.persist (relayRecord current ⟨.failed, code, none⟩ time) ≠ .execute other :=
              fun _ => nofun
            have old := quiet'.unresolved _ execute (unresolved_quiet silent execute member)
            rw [wallet, unresolved_snoc] at old
            obtain ⟨old, other⟩ := List.mem_filter.mp old
            have resolved := held.resolved (fun none => by rw [known] at none; cases none) execute old
            rw [resolved.1, known] at other
            exact of_decide_eq_true other rfl
          · intro old callsId' found other
            rw [sound.saved_eq, persisted_persist] at found
            cases found
            cases known.symm.trans other
            exact .inr ⟨code, snoc_grows _ (quiet'.grows _ asked)⟩
        · rw [if_neg failed]
          refine Safe.returned sound fun authenticates => ?_
          rw [readOutcome_record]
          exact (heldLater.confirmed (readOutcome_confirmed authenticates)).grows snoc_grows

theorem Held.registered (held : Held current log) (found : Confirmation current.walletAddress log) (time : Timestamp) :
    Held (withRecord { current with status := .confirmed } time) log := by
  have readable := held.readable
  have wallet : lower current.walletAddress = current.walletAddress := readable.walletAddress.2
  have different : PasskeyBootstrapStatus.confirmed ≠ .unregistered := nofun
  refine ⟨.touched ⟨?_, ?_, ?_, ?_, fun other => absurd other different⟩ time, ?_, ?_, ?_⟩
  · exact readable.walletAddress
  · exact readable.callsId
  · exact readable.transactionHash
  · exact readable.statusCode
  · intro callsId known
    have own := held.own callsId known
    rwa [← wallet] at own
  · intro _
    rwa [← wallet] at found
  · intro asks execute member
    have present : current.callsId ≠ none := fun none => (asks none).2 rfl
    have same : (withRecord { current with status := .confirmed } time).walletAddress = current.walletAddress := wallet
    rw [same] at member
    exact held.resolved (fun none => absurd none present) execute member

theorem fresh_readable (valid : isWalletAddress wallet = true) (time : Timestamp) :
    PasskeyBootstrapRecord.Readable ⟨lower wallet, none, none, .unregistered, none, time⟩ where
  walletAddress := ⟨isWalletAddress_lower valid, lower_lower _⟩
  callsId _ := nofun
  transactionHash _ := nofun
  statusCode _ := nofun
  unregistered _ := rfl

theorem keepRegistered_saved (sound : Sound log) (last : persisted log = some current)
    (found : Confirmation current.walletAddress log) : Safe (keepRegistered wallet (some current)) log := by
  have held := sound.held current last
  show Safe (if current.status = .confirmed then _ else _) log
  by_cases confirmed : current.status = .confirmed
  · rw [if_pos confirmed]
    exact Safe.finish sound held (replaces_same sound last rfl) fun _ => found
  · rw [if_neg confirmed]
    refine Safe.now sound fun time later quiet sound => ?_
    have last := quiet.last.trans last
    have found := found.grows quiet.grows
    have registered := (sound.held current last).registered found time
    exact Safe.finish sound registered (replaces_same sound last rfl) fun _ => registered.confirmed rfl

theorem keepRegistered_new (sound : Sound log) (blank : persisted log = none) (valid : isWalletAddress wallet = true)
    (found : Confirmation (lower wallet) log) : Safe (keepRegistered wallet none) log := by
  unfold keepRegistered
  rw [savedOrNew_none_bind valid]
  refine Safe.now sound fun time later quiet sound => ?_
  have blank := quiet.last.trans blank
  have different : PasskeyBootstrapStatus.unregistered ≠ .confirmed := nofun
  rw [if_neg different]
  refine Safe.now sound fun time' later' quiet' sound => ?_
  have blank := quiet'.last.trans blank
  have found := (found.grows quiet.grows).grows quiet'.grows
  have held : Held ⟨lower wallet, none, none, .unregistered, none, time⟩ later' :=
    ⟨fresh_readable valid time, fun _ => nofun, nofun, fun _ execute member => by
      rw [sound.blank blank] at member
      cases member⟩
  have registered := held.registered found time'
  refine Safe.finish sound registered (fun old callsId other => ?_) fun _ => registered.confirmed rfl
  rw [sound.saved_eq, blank] at other
  cases other

theorem refuseDifferent_safe (sound : Sound log) (valid : isWalletAddress wallet = true)
    (settled : ∀ old callsId, saved log = some old → old.callsId = some callsId → Settled old.walletAddress callsId log) :
    Safe (refuseDifferent wallet) log := by
  unfold refuseDifferent
  rw [savedOrNew_none_bind valid]
  refine Safe.now sound fun time later quiet sound => ?_
  refine Safe.now sound fun time' later' quiet' sound => ?_
  have readable := fresh_readable valid time
  have unknown : PasskeyBootstrapRecord.Readable ⟨lower wallet, none, none, .unknown, none, time⟩ :=
    ⟨readable.walletAddress, readable.callsId, readable.transactionHash, readable.statusCode, nofun⟩
  refine Safe.finish sound (.marker (unknown.touched time') rfl rfl) (fun old callsId found known => ?_) nofun
  have same : saved later' = saved log := by rw [saved, saved, quiet'.last, quiet.last]
  exact .inr (((settled old callsId (same ▸ found) known).grows quiet.grows).grows quiet'.grows)

theorem activateNew_new (sound : Sound log) (blank : persisted log = none) (valid : isWalletAddress wallet = true)
    (lowered : lower wallet = wallet) : Safe (activateNew wallet none) log := by
  unfold activateNew
  rw [savedOrNew_none_bind valid]
  refine Safe.now sound fun time later quiet sound => ?_
  have safe := fresh_safe sound (quiet.last.trans blank) (fresh_readable valid time) rfl
  rwa [lowered] at safe ⊢

/-- Another wallet's record makes place where its outcome is known; the wallet's own is taken up again. -/
theorem activate_safe {input : ActivateInput} (sound : Sound log)
    (entered : (⟨.entered (.activate input), ()⟩ : BootstrapEntry) ∈ log) (may : MaySwitch log (.activate input)) :
    Safe (activateFreshPasskeyWallet input (saved log)) log := by
  have lowered : lower (lower input.walletAddress) = lower input.walletAddress := lower_lower _
  have registered (state : input.walletState = .already_registered) : Confirmation (lower input.walletAddress) log :=
    .registered entered state rfl
  unfold activateFreshPasskeyWallet
  by_cases valid : isWalletAddress (lower input.walletAddress) = true
  swap
  · rw [if_pos (Bool.not_eq_true _ ▸ valid)]
    exact Keeps.done fun _ => ⟨sound, fun _ => nofun⟩
  rw [if_neg (by rw [valid]; nofun)]
  cases last : persisted log with
  | none =>
    rw [sound.saved_eq, last, if_neg (by nofun)]
    cases state : input.walletState with
    | new_unregistered => exact activateNew_new sound last valid lowered
    | already_registered => exact keepRegistered_new sound last valid (lowered.symm ▸ registered state)
  | some current =>
    have own := (sound.held current last).readable.walletAddress.2
    rw [sound.saved_eq, last]
    by_cases apart : current.walletAddress = lower input.walletAddress
    · rw [if_neg (by rw [Option.any_some, own, apart]; simp)]
      cases state : input.walletState with
      | new_unregistered =>
        have safe := resume_safe sound last
        rwa [apart] at safe
      | already_registered => exact keepRegistered_saved sound last (apart ▸ registered state)
    · rw [if_pos (by rw [Option.any_some, own]; simpa using apart)]
      refine refuseDifferent_safe sound valid fun old callsId found known => ?_
      refine may old callsId found known valid fun same => apart ?_
      rw [sound.saved_eq, last] at found
      cases found
      exact same

theorem reconcile_safe (sound : Sound log) (last : persisted log = some current) :
    Safe (reconcilePasskeyBootstrapRecord current) log := by
  have held := sound.held current last
  unfold reconcilePasskeyBootstrapRecord
  cases known : current.callsId with
  | none =>
    exact Safe.returned sound fun confirmed => held.confirmed (of_decide_eq_true confirmed)
  | some callsId => exact reread_safe sound last known

theorem work_safe {request : BootstrapRequest} {work : Activation PasskeyBootstrapOutcome} (sound : Sound log)
    (may : MaySwitch log request) (does : request.work (saved log) = some work) :
    Safe work (log ++ [⟨.entered request, ()⟩]) := by
  have quiet : Quietly log (log ++ [⟨.entered request, ()⟩]) := .snoc (fun _ => nofun) fun _ => nofun
  have sound' := sound.quiet quiet
  have same : saved (log ++ [⟨.entered request, ()⟩]) = saved log := by rw [saved, saved, quiet.last]
  cases request with
  | activate input =>
    cases does
    have may' : MaySwitch (log ++ [⟨.entered (.activate input), ()⟩]) (.activate input) := fun old callsId found known valid apart =>
      (may old callsId (same ▸ found) known valid apart).grows quiet.grows
    have safe := activate_safe sound' (List.mem_append_right log (List.mem_singleton_self _)) may'
    rwa [same] at safe
  | reconcile =>
    obtain ⟨current, found, rfl⟩ := Option.map_eq_some_iff.mp does
    rw [sound.saved_eq] at found
    exact reconcile_safe sound' (quiet.last.trans found)

section
variable {new entry : BootstrapEntry} {before after : BootstrapLog}

theorem split_snoc (split : log ++ [new] = before ++ entry :: after) :
    (before = log ∧ entry = new) ∨ ∃ rest, log = before ++ entry :: rest := by
  rcases List.eq_nil_or_concat after with rfl | ⟨middle, last, rfl⟩
  · obtain ⟨rfl, same⟩ := List.append_inj' split rfl
    cases same
    exact .inl ⟨rfl, rfl⟩
  · have longer : log ++ [new] = (before ++ entry :: middle) ++ [last] := by
      rw [split, List.concat_eq_append, List.append_assoc, List.cons_append]
    exact .inr ⟨middle, (List.append_inj' longer rfl).1⟩

structure Going (page : Page) : Prop where
  faithful : AllFaithful page.log
  sound : Sound page.log
  running : ∀ program, page.running = some program → Keeps Permitted Answers program page.log
  sentOnce : SentOnce page.log
  callsIdsKept : CallsIdsKept page.log
  readBack : ReadBack page.log

theorem SentOnce.snoc (once : SentOnce log) (sent : ∀ wallet, new.op = .execute wallet → unresolved wallet log = []) :
    SentOnce (log ++ [new]) := by
  intro before wallet answer after split
  rcases split_snoc split with ⟨rfl, rfl⟩ | ⟨rest, old⟩
  · exact sent wallet rfl
  · exact once before wallet answer rest old

theorem CallsIdsKept.snoc (kept : CallsIdsKept log) (replaces : ∀ record, new.op = .persist record → Replaces record log) :
    CallsIdsKept (log ++ [new]) := by
  intro before record after split
  rcases split_snoc split with ⟨rfl, rfl⟩ | ⟨rest, old⟩
  · exact replaces record rfl
  · exact kept before record rest old

theorem ReadBack.snoc (back : ReadBack log) (readable : ∀ record, new.op = .persist record → record.Readable) :
    ReadBack (log ++ [new]) := by
  intro record member
  rcases List.mem_append.mp member with old | last
  · exact back record old
  · cases List.mem_singleton.mp last
    exact parse_serialize (readable record rfl)

theorem AllFaithful.snoc (all : AllFaithful log) (faithful : Faithful new) : AllFaithful (log ++ [new]) := by
  intro entry member
  rcases List.mem_append.mp member with old | last
  · exact all entry old
  · cases List.mem_singleton.mp last
    exact faithful

end

theorem Going.step {page page' : Page} {event : PageEvent} (going : Going page) (orderly : Orderly page event)
    (step : PageStep page event page') : Going page' := by
  cases step with
  | @entered log request work does =>
    have quiet : Quietly log (log ++ [⟨.entered request, ()⟩]) := .snoc (fun _ => nofun) fun _ => nofun
    refine ⟨going.faithful.snoc trivial, going.sound.quiet quiet, fun program same => ?_, going.sentOnce.snoc fun _ => nofun,
      going.callsIdsKept.snoc fun _ => nofun, going.readBack.snoc fun _ => nofun⟩
    cases same
    exact work_safe going.sound orderly does
  | @called log op next answer =>
    have keeps := going.running _ rfl
    obtain ⟨_, allowed⟩ := keeps.permitted going.faithful
    have faithful := going.faithful.snoc orderly
    have sound : Sound (log ++ [⟨op, answer⟩]) := by
      have rest := keeps.rest answer
      cases same : next answer with
      | done result =>
        rw [same] at rest
        exact (rest.result faithful).1
      | call op' next' =>
        rw [same] at rest
        exact (rest.permitted faithful).1
    refine ⟨faithful, sound, fun program same => ?_, going.sentOnce.snoc fun wallet same => ?_,
      going.callsIdsKept.snoc fun record same => ?_, going.readBack.snoc fun record same => ?_⟩
    · cases same
      exact keeps.rest answer
    all_goals
      cases same
    · exact allowed
    · exact allowed.2
    · exact allowed.1
  | left => exact { going with running := fun _ => nofun }

theorem PageReach.going {page : Page} (reach : PageReach Orderly page) : Going page := by
  induction reach with
  | start =>
    refine ⟨fun _ => nofun, ⟨fun _ _ => rfl, fun _ => nofun⟩, fun _ => nofun, ?_, ?_, fun _ => nofun⟩
    · exact fun before _ _ _ split => absurd split.symm (List.append_ne_nil_of_right_ne_nil before (List.cons_ne_nil _ _))
    · exact fun before _ _ split => absurd split.symm (List.append_ne_nil_of_right_ne_nil before (List.cons_ne_nil _ _))
  | next _ orderly step ih => exact ih.step orderly step

/-- Where every answer is faithful and another wallet is activated only behind a known outcome, a wallet's first action
is sent at most once and the slot keeps what is known of it. -/
theorem pages_durable {page : Page} (reach : PageReach Orderly page) : Durable page where
  sentOnce := reach.going.sentOnce
  callsIdsKept := reach.going.callsIdsKept
  authenticates result finished := (Keeps.result (reach.going.running _ finished) reach.going.faithful).2 result rfl
  readBack := reach.going.readBack

section
variable {permits : Page → PageEvent → Prop}
  {program rest : Program BootstrapCall BootstrapCall.Answer (Except String PasskeyBootstrapOutcome)}

theorem PageReach.followed (reach : PageReach permits ⟨log, some program⟩) (follows : Follows program later rest)
    (permitted : ∀ page, ∀ entry ∈ later, permits page (.called entry)) : PageReach permits ⟨log ++ later, some rest⟩ := by
  induction follows with
  | nil => rwa [List.append_nil]
  | next _ ih =>
    have before := ih fun page entry member => permitted page entry (List.mem_append_left _ member)
    rw [← List.append_assoc]
    exact .next before (permitted _ _ (List.mem_append_right _ (List.mem_singleton_self _))) (.called _)

theorem PageReach.returned {request : BootstrapRequest} {work : Activation PasskeyBootstrapOutcome}
    (answers : (op : BootstrapCall) → op.Answer) (reach : PageReach permits ⟨log, none⟩)
    (does : request.work (saved log) = some work) (enters : permits ⟨log, none⟩ (.entered request))
    (permitted : ∀ page op, permits page (.called ⟨op, answers op⟩)) :
    PageReach permits ⟨log ++ [⟨.entered request, ()⟩] ++ (work.run.transcript answers).1,
      some (.done (work.run.transcript answers).2)⟩ := by
  refine PageReach.followed (.next reach enters (.entered does)) (Follows.transcript answers work.run) fun page entry member => ?_
  obtain ⟨op, answer⟩ := entry
  have same : answer = answers op := Program.transcript_answers _ member
  rw [same]
  exact permitted page op

end

def firstWallet : String := "0x1111111111111111111111111111111111111111"
def secondWallet : String := "0x2222222222222222222222222222222222222222"
def sentCalls : String := "0x3333333333333333333333333333333333333333333333333333333333333333"

def midnight : Timestamp := ⟨0, by decide, by decide⟩

def acceptedUnread : (op : BootstrapCall) → op.Answer
  | .entered _ => ()
  | .now => midnight
  | .execute _ => .returned ⟨sentCalls, .pending, none, none⟩
  | .readStatus _ => none
  | .persist _ => ()

def activated (wallet : String) (log : BootstrapLog) : BootstrapLog :=
  log ++ [⟨.entered (.activate ⟨wallet, .new_unregistered⟩), ()⟩] ++
    ((activateFreshPasskeyWallet ⟨wallet, .new_unregistered⟩ (saved log)).run.transcript acceptedUnread).1

theorem activated_reach (permits : Page → PageEvent → Prop) (reach : PageReach permits ⟨log, none⟩)
    (enters : permits ⟨log, none⟩ (.entered (.activate ⟨wallet, .new_unregistered⟩)))
    (permitted : ∀ page op, permits page (.called ⟨op, acceptedUnread op⟩)) :
    ∃ result, PageReach permits ⟨activated wallet log, some (.done result)⟩ :=
  ⟨_, reach.returned acceptedUnread rfl enters permitted⟩

/-- The first wallet is activated, and its bundle cannot be read. -/
theorem pages_durable_activated : (activated firstWallet []).length = 10 ∧
    ∃ result, Durable ⟨activated firstWallet [], some (.done result)⟩ := by
  obtain ⟨result, reach⟩ := activated_reach Orderly .start (fun _ _ => nofun) fun page op => by
    cases op <;> first | trivial | exact fun _ => nofun
  exact ⟨rfl, result, pages_durable reach⟩

def tells : BootstrapEntry → Bool
  | ⟨.entered (.activate input), _⟩ => input.walletState = .already_registered
  | ⟨.execute _, .returned result⟩ => result.status = .confirmed
  | ⟨.readStatus _, some result⟩ => result.status ≠ .pending
  | _ => false

theorem Settled.tells (settled : Settled wallet callsId log) : log.any tells = true := by
  rw [List.any_eq_true]
  rcases settled with confirmed | ⟨code, read⟩
  · cases confirmed with
    | registered entered found same => exact ⟨_, entered, decide_eq_true found⟩
    | executed returned confirmed => exact ⟨_, returned, decide_eq_true confirmed⟩
    | relayed own read confirmed => exact ⟨_, read, by simp [Bootstrap.tells, confirmed]⟩
  · exact ⟨_, read, rfl⟩

def secondMarker : PasskeyBootstrapRecord := ⟨secondWallet, none, none, .unknown, none, midnight⟩

def beforeMarker : BootstrapLog := (activated secondWallet (activated firstWallet [])).dropLast

/-- Activating a second wallet removes the calls id of the first, whose outcome nobody knows. -/
theorem second_wallet_removes_callsId : ¬∀ page, PageReach (fun _ _ => True) page → Durable page := by
  intro always
  obtain ⟨_, first⟩ := activated_reach (fun _ _ => True) .start trivial fun _ _ => trivial
  obtain ⟨_, second⟩ := activated_reach (fun _ _ => True) (.next first trivial .left) trivial fun _ _ => trivial
  have split : activated secondWallet (activated firstWallet []) = beforeMarker ++ [⟨.persist secondMarker, ()⟩] := rfl
  have found : saved beforeMarker = some ⟨firstWallet, some sentCalls, none, .unknown, none, midnight⟩ := by rfl
  have silent : beforeMarker.any tells = false := rfl
  rcases (always _ second).callsIdsKept _ _ _ split _ _ found rfl with kept | settled
  · cases kept
  · rw [settled.tells] at silent
    cases silent

end Bnbera.Bootstrap
