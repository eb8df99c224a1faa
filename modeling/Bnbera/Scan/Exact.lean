import Bnbera.Scan.Catalogue

namespace Bnbera.Scan

open Ingestion (NormalizedCandidate IdentityCandidate IdentityInput normalizeCandidate normalizeIdentity
  parseErc8004Identity)
open Interleaving

variable {catalogue : ScanCatalogue} {adapter : EightHundredFourScanAdapter}

theorem truthful_nil : Truthful (Trusted catalogue) [] := fun _ member => (List.not_mem_nil member).elim

/-- What is left of `fetchPage` answers the query for a position. -/
def Fetches (catalogue : ScanCatalogue) (adapter : EightHundredFourScanAdapter) (query : EightHundredFourScanQuery) (position : Nat)
    (program : Program ScanCall ScanCall.Answer (Except ScanFailure CandidatePage)) (history : History ScanCall ScanCall.Answer) :
    Prop :=
  Relies (Trusted catalogue) (fun _ _ => True)
    (fun result _ => ∀ page, result = .ok page → CandidatesFor catalogue adapter query position page) program history

theorem fetchPage_fetches {query : EightHundredFourScanQuery} {position : Nat} (starts : catalogue.Starts query position) :
    Fetches catalogue adapter query position (adapter.fetchPage query).run [] :=
  (fetchPage_finds starts []).post fun _ _ holds _ same => by
    subst same
    exact holds

inductive Going (catalogue : ScanCatalogue) (adapter : EightHundredFourScanAdapter) (query : EightHundredFourScanQuery)
    (start : Nat) : Iteration → Prop
  | fetching {yielded program asked history position} : asked.filters = query.filters → start ≤ position →
      List.Forall₂ (IsCandidate adapter) (((catalogue.agents query).drop start).take (position - start)) yielded →
      Truthful (Trusted catalogue) history →
      Fetches catalogue adapter asked position program history → Going catalogue adapter query start ⟨yielded, .fetching program⟩
  | yielding {yielded rest next position} : start ≤ position →
      List.Forall₂ (IsCandidate adapter) (((catalogue.agents query).drop start).take (position - start)) (yielded ++ rest) →
      (next = none → (catalogue.agents query).length ≤ position) →
      (∀ asked, next = some asked → asked.filters = query.filters ∧ catalogue.Starts asked position ∧
        position < (catalogue.agents query).length) →
      Going catalogue adapter query start ⟨yielded, .yielding rest next⟩
  | ended {yielded} : List.Forall₂ (IsCandidate adapter) ((catalogue.agents query).drop start) yielded →
      Going catalogue adapter query start ⟨yielded, .ended⟩
  | thrown {yielded failure count} : List.Forall₂ (IsCandidate adapter) (((catalogue.agents query).drop start).take count) yielded →
      Going catalogue adapter query start ⟨yielded, .thrown failure⟩

variable {query : EightHundredFourScanQuery} {start : Nat} {s s' : Iteration}

theorem agents_eq {filters : ScanFilters} (checked : query.filters.check = .ok filters) :
    catalogue.agents query = catalogue.listed filters := by
  rw [ScanCatalogue.agents, checked]

theorem Going.fetch {asked : EightHundredFourScanQuery} {position : Nat} {yielded : List NormalizedCandidate}
    (same : asked.filters = query.filters) (after : start ≤ position)
    (known : List.Forall₂ (IsCandidate adapter) (((catalogue.agents query).drop start).take (position - start)) yielded)
    (starts : catalogue.Starts asked position) :
    Going catalogue adapter query start ⟨yielded, .fetching (adapter.fetchPage asked).run⟩ := by
  exact .fetching same after known truthful_nil (fetchPage_fetches starts)

theorem Going.called {op : ScanCall} {answer : op.Answer} (going : Going catalogue adapter query start s)
    (trusted : Trusted catalogue ⟨op, answer⟩) (step : IterateStep adapter query s (.called op answer) s') :
    Going catalogue adapter query start s' := by
  cases step with
  | called =>
    cases going with
    | fetching same after known truthful fetches =>
      exact .fetching same after known (Truthful.snoc.mpr ⟨truthful, trusted⟩) (Keeps.rest fetches answer)

theorem Going.moved (going : Going catalogue adapter query start s) (step : IterateStep adapter query s .moved s') :
    Going catalogue adapter query start s' := by
  cases step with
  | failed =>
    cases going with
    | fetching _ _ known _ _ => exact .thrown known
  | @fetched yielded page =>
    cases going with
    | @fetching _ _ asked history position same after known truthful fetches =>
      obtain ⟨filters, limit, checked, found⟩ := Keeps.result fetches truthful page rfl
      have found := found query same.symm
      have agents : catalogue.agents query = catalogue.listed filters := agents_eq (same ▸ checked)
      have window : position - start + limit = position + limit - start := by omega
      have further : List.Forall₂ (IsCandidate adapter)
          (((catalogue.agents query).drop start).take (position + limit - start)) (yielded ++ page.candidates) := by
        rw [← window, List.take_add, List.drop_drop, Nat.add_sub_cancel' after]
        exact List.rel_append known (agents ▸ found.candidates)
      exact .yielding (by omega) further (agents ▸ found.last) (agents ▸ found.next)
  | yielded =>
    cases going with
    | yielding after known last next =>
      refine .yielding after ?_ last next
      rw [List.append_assoc]
      exact known
  | turned =>
    cases going with
    | yielding after known last next =>
      obtain ⟨same, starts, _⟩ := next _ rfl
      rw [List.append_nil] at known
      exact .fetch same after known starts
  | finished =>
    cases going with
    | yielding after known last next =>
      rw [List.append_nil, List.take_of_length_le (by have := last rfl; rw [List.length_drop]; omega)] at known
      exact .ended known

def Behind (catalogue : ScanCatalogue) (adapter : EightHundredFourScanAdapter) (query : EightHundredFourScanQuery)
    (later s : Iteration) : Prop :=
  (∃ op answer, Trusted catalogue ⟨op, answer⟩ ∧ IterateStep adapter query s (.called op answer) later) ∨
    IterateStep adapter query s .moved later

theorem ended_ends {yielded : List NormalizedCandidate} : Acc (Behind catalogue adapter query) ⟨yielded, .ended⟩ :=
  .intro _ fun _ behind => by rcases behind with ⟨_, _, _, step⟩ | step <;> cases step

theorem thrown_ends {yielded : List NormalizedCandidate} {failure : ScanFailure} :
    Acc (Behind catalogue adapter query) ⟨yielded, .thrown failure⟩ :=
  .intro _ fun _ behind => by rcases behind with ⟨_, _, _, step⟩ | step <;> cases step

theorem yielding_ends {yielded rest : List NormalizedCandidate} {next : Option EightHundredFourScanQuery}
    (after : ∀ yielded asked, next = some asked → Acc (Behind catalogue adapter query) ⟨yielded, .fetching (adapter.fetchPage asked).run⟩) :
    Acc (Behind catalogue adapter query) ⟨yielded, .yielding rest next⟩ := by
  induction rest generalizing yielded with
  | nil =>
    refine .intro _ fun later behind => ?_
    rcases behind with ⟨_, _, _, step⟩ | step
    · cases step
    · cases step with
      | turned => exact after _ _ rfl
      | finished => exact ended_ends
  | cons candidate rest ih =>
    refine .intro _ fun later behind => ?_
    rcases behind with ⟨_, _, _, step⟩ | step
    · cases step
    · cases step with
      | yielded => exact ih

/-- Every page brings the traversal further, so that it comes to an end. -/
theorem fetching_ends {left position : Nat} {yielded : List NormalizedCandidate} {asked : EightHundredFourScanQuery}
    {program : Program ScanCall ScanCall.Answer (Except ScanFailure CandidatePage)} {history : History ScanCall ScanCall.Answer}
    (short : (catalogue.agents query).length - position ≤ left) (same : asked.filters = query.filters)
    (truthful : Truthful (Trusted catalogue) history)
    (fetches : Fetches catalogue adapter asked position program history) : Acc (Behind catalogue adapter query) ⟨yielded, .fetching program⟩ := by
  induction left using Nat.strong_induction_on generalizing position yielded asked program history with
  | _ left shorter =>
    induction program generalizing history with
    | done result =>
      refine .intro _ fun later behind => ?_
      rcases behind with ⟨_, _, _, step⟩ | step
      · cases step
      · cases step with
        | failed => exact thrown_ends
        | @fetched _ page =>
          obtain ⟨filters, limit, checked, found⟩ := Keeps.result fetches truthful page rfl
          have found := found query same.symm
          have agents : catalogue.agents query = catalogue.listed filters := agents_eq (same ▸ checked)
          have positive := found.positive
          refine yielding_ends fun yielded other next => ?_
          obtain ⟨kept, starts, inside⟩ := found.next other next
          rw [← agents] at inside
          have fewer : (catalogue.agents query).length - (position + limit) < left := by omega
          exact shorter _ fewer le_rfl kept truthful_nil (fetchPage_fetches starts)
    | call op next ih =>
      refine .intro _ fun later behind => ?_
      rcases behind with ⟨_, answer, trusted, step⟩ | step
      · cases step with
        | called => exact ih _ (Truthful.snoc.mpr ⟨truthful, trusted⟩) (Keeps.rest fetches _)
      · cases step

/-- Where no request to the list route fails in a way that is answered by the latest route, a traversal yields every agent
from its start on once and in order. It comes to an end, and unless it throws it has yielded all of them then. -/
theorem iterate_exact (starts : catalogue.Starts query start)
    (reach : IterateReach catalogue adapter query (Unaided catalogue) s) :
    Exact adapter ((catalogue.agents query).drop start) s ∧ Acc (Behind catalogue adapter query) s := by
  have going : Going catalogue adapter query start s := by
    induction reach with
    | start => exact .fetch rfl le_rfl (by rw [Nat.sub_self]; exact .nil) starts
    | called _ answered permitted step ih => exact ih.called ⟨answered, permitted⟩ step
    | moved _ step ih => exact ih.moved step
  cases going with
  | fetching same _ known truthful fetches => exact ⟨⟨⟨_, known⟩, nofun⟩, fetching_ends le_rfl same truthful fetches⟩
  | @yielding yielded rest _ position _ known _ next =>
    have first := List.forall₂_take_append _ yielded rest known
    rw [List.take_take] at first
    refine ⟨⟨⟨_, first⟩, nofun⟩, yielding_ends fun _ asked given => ?_⟩
    obtain ⟨same, starts, _⟩ := next asked given
    exact fetching_ends le_rfl same truthful_nil (fetchPage_fetches starts)
  | ended known =>
    refine ⟨⟨⟨((catalogue.agents query).drop start).length, ?_⟩, fun _ => known⟩, ended_ends⟩
    rw [List.take_length]
    exact known
  | thrown known => exact ⟨⟨⟨_, known⟩, nofun⟩, thrown_ends⟩

section

def Iteration.advance (adapter : EightHundredFourScanAdapter) (base : EightHundredFourScanQuery) (answers : (op : ScanCall) → op.Answer) :
    Iteration → Iteration
  | ⟨yielded, .fetching (.call op next)⟩ => ⟨yielded, .fetching (next (answers op))⟩
  | ⟨yielded, .fetching (.done (.error failure))⟩ => ⟨yielded, .thrown failure⟩
  | ⟨yielded, .fetching (.done (.ok page))⟩ => ⟨yielded, .yielding page.candidates (page.next base)⟩
  | ⟨yielded, .yielding (candidate :: rest) next⟩ => ⟨yielded ++ [candidate], .yielding rest next⟩
  | ⟨yielded, .yielding [] (some query)⟩ => ⟨yielded, .fetching (adapter.fetchPage query).run⟩
  | ⟨yielded, .yielding [] none⟩ => ⟨yielded, .ended⟩
  | s => s

theorem IterateReach.advanced {permits : (op : ScanCall) → op.Answer → Prop} {answers : (op : ScanCall) → op.Answer}
    (answered : ∀ op, catalogue.Answers op (answers op) ∧ permits op (answers op)) (steps : Nat)
    (reach : IterateReach catalogue adapter query permits s) :
    IterateReach catalogue adapter query permits ((Iteration.advance adapter query answers)^[steps] s) := by
  induction steps generalizing s with
  | zero => exact reach
  | succ steps ih =>
    rw [Function.iterate_succ_apply]
    refine ih ?_
    unfold Iteration.advance
    split
    · rename_i yielded op next
      exact .called reach (answered op).1 (answered op).2 .called
    · exact .moved reach .failed
    · exact .moved reach .fetched
    · exact .moved reach .yielded
    · exact .moved reach .turned
    · exact .moved reach .finished
    · exact reach

def sampleMapper : Json → Except ScanFailure MappedEightHundredFourScanCandidate
  | .str agentId => .ok ⟨⟨"eip155", 97, "0x1111111111111111111111111111111111111111", agentId⟩, "agent:" ++ agentId, some 0, none, none,
      none, none⟩
  | _ => .error (scanError .scanContractInvalid "The 8004scan identity tuple is malformed." "review_scan_mapper")

def sampleAdapter : EightHundredFourScanAdapter := ⟨sampleMapper, "v1"⟩

def noFilters : ScanFilters := ⟨none, none, none, none, none, none, none⟩

def sampleQuery : EightHundredFourScanQuery := ⟨none, none, some 1, noFilters⟩

def sampleCatalogue : ScanCatalogue where
  listed _ := [.str "1", .str "2"]
  latest _ _ := [.str "2", .str "1"]
  positionOf _ _ := none

def sampleBody (agentId offset : String) : Json :=
  .obj [("items", .arr [.str agentId]), ("total", .num "2"), ("limit", .num "1"), ("offset", .num offset)]

def failingAnswers : (op : ScanCall) → op.Answer
  | .getJson (.agents ⟨limit, position, _⟩) =>
    if limit = 1 ∧ position = .offset 0 then .ok (sampleBody "1" "0")
    else .error (scanError .scanUnavailable "The 8004scan service could not be reached." "retry_scan" true)
  | .getJson (.latest ⟨limit, offset, _, _⟩) =>
    if limit = 1 ∧ offset = 1 then .ok (sampleBody "1" "1")
    else .error (scanError .scanUnavailable "The 8004scan service could not be reached." "retry_scan" true)
  | .clock => (0 : Int)

def servedAnswers : (op : ScanCall) → op.Answer
  | .getJson (.agents ⟨limit, position, _⟩) =>
    if limit = 1 ∧ position = .offset 0 then .ok (sampleBody "1" "0")
    else if limit = 1 ∧ position = .offset 1 then .ok (sampleBody "2" "1")
    else .error (scanError .scanContractInvalid "The 8004scan response did not match the reviewed API contract." "review_scan_contract")
  | .getJson (.latest _) => .error (scanError .scanUnavailable "The 8004scan service could not be reached." "retry_scan" true)
  | .clock => (0 : Int)

def shownIds (s : Iteration) : List String × Bool :=
  (s.yielded.map (·.identity.agentId.text), match s.phase with
    | .ended => true
    | _ => false)

theorem failing_shown :
    shownIds ((Iteration.advance sampleAdapter sampleQuery failingAnswers)^[11] (sampleAdapter.iterate sampleQuery)) = (["1", "1"], true) := by
  decide +kernel

theorem served_shown :
    shownIds ((Iteration.advance sampleAdapter sampleQuery servedAnswers)^[10] (sampleAdapter.iterate sampleQuery)) = (["1", "2"], true) := by
  decide +kernel

theorem sampleBody_read (agentId : String) : listResponse (sampleBody agentId "0") = some ⟨[.str agentId], 2, 1, 0, none, none⟩ ∧
    listResponse (sampleBody agentId "1") = some ⟨[.str agentId], 2, 1, 1, none, none⟩ := by
  have two : wholeOf (some (.num "2")) = some 2 := by decide +kernel
  have one : wholeOf (some (.num "1")) = some 1 := by decide +kernel
  have zero : wholeOf (some (.num "0")) = some 0 := by decide +kernel
  simp [listResponse, sampleBody, fieldOf, itemsOf, two, one, zero, cursorOf, flagOf, maxPageSize]

theorem failing_answered (op : ScanCall) : sampleCatalogue.Answers op (failingAnswers op) := by
  cases op with
  | clock => trivial
  | getJson request =>
    cases request with
    | agents request =>
      obtain ⟨limit, position, filters⟩ := request
      by_cases first : limit = 1 ∧ position = .offset 0
      · obtain ⟨rfl, rfl⟩ := first
        exact ⟨_, 0, (sampleBody_read "1").1, ⟨rfl, rfl, rfl, rfl, fun _ => rfl, fun _ => nofun, nofun⟩⟩
      · show sampleCatalogue.Answers _ (if _ then _ else _)
        rw [if_neg first]
        trivial
    | latest request =>
      obtain ⟨limit, offset, chainId, isTestnet⟩ := request
      by_cases first : limit = 1 ∧ offset = 1
      · obtain ⟨rfl, rfl⟩ := first
        exact ⟨_, (sampleBody_read "1").2, ⟨rfl, rfl, rfl, rfl⟩⟩
      · show sampleCatalogue.Answers _ (if _ then _ else _)
        rw [if_neg first]
        trivial

theorem served_answered (op : ScanCall) :
    sampleCatalogue.Answers op (servedAnswers op) ∧ Unaided sampleCatalogue op (servedAnswers op) := by
  have uncursored {body : Json} {response : ListResponse} (read : listResponse body = some response)
      (bare : response.nextCursor = none) (request : ListRequest) :
      Unaided sampleCatalogue (.getJson (.agents request)) (.ok body) := by
    intro page cursor other given
    cases Option.some.inj (read.symm.trans other)
    rw [bare] at given
    cases given
  cases op with
  | clock => exact ⟨trivial, trivial⟩
  | getJson request =>
    cases request with
    | agents request =>
      obtain ⟨limit, position, filters⟩ := request
      by_cases first : limit = 1 ∧ position = .offset 0
      · obtain ⟨rfl, rfl⟩ := first
        exact ⟨⟨_, 0, (sampleBody_read "1").1, ⟨rfl, rfl, rfl, rfl, fun _ => rfl, fun _ => nofun, nofun⟩⟩,
          uncursored (sampleBody_read "1").1 rfl _⟩
      by_cases second : limit = 1 ∧ position = .offset 1
      · obtain ⟨rfl, rfl⟩ := second
        exact ⟨⟨_, 1, (sampleBody_read "2").2, ⟨rfl, rfl, rfl, rfl, fun _ => rfl, fun _ => nofun, nofun⟩⟩,
          uncursored (sampleBody_read "2").2 rfl _⟩
      · show sampleCatalogue.Answers _ (if _ then _ else if _ then _ else _) ∧ Unaided _ _ (if _ then _ else if _ then _ else _)
        rw [if_neg first, if_neg second]
        exact ⟨trivial, rfl⟩
    | latest request => exact ⟨trivial, trivial⟩

theorem normalizeCandidate_identity {input : IdentityCandidate} {candidate : NormalizedCandidate}
    (made : normalizeCandidate input = .ok candidate) : parseErc8004Identity input.identity = some candidate.identity := by
  unfold normalizeCandidate at made
  obtain ⟨identity, parsed, made⟩ := bind_eq_ok.mp made
  iterate 8 obtain ⟨_, _, made⟩ := bind_eq_ok.mp made
  cases Except.ok.inj made
  unfold normalizeIdentity at parsed
  split at parsed
  · rename_i known
    cases Except.ok.inj parsed
    exact known
  · cases parsed

theorem parseErc8004Identity_agentId {input : IdentityInput} {identity : Ingestion.Erc8004Identity}
    (parsed : parseErc8004Identity input = some identity) : identity.agentId.text = input.agentId := by
  obtain ⟨_, _, parsed⟩ := Option.bind_eq_some_iff.mp parsed
  obtain ⟨_, _, parsed⟩ := Option.bind_eq_some_iff.mp parsed
  obtain ⟨_, _, parsed⟩ := Option.bind_eq_some_iff.mp parsed
  obtain ⟨agentId, checked, parsed⟩ := Option.bind_eq_some_iff.mp parsed
  cases Option.some.inj parsed
  unfold check at checked
  split at checked
  · cases Option.some.inj checked
    rfl
  · cases checked

theorem IsCandidate.agentId {agentId : String} {candidate : NormalizedCandidate}
    (belongs : IsCandidate sampleAdapter (.str agentId) candidate) : candidate.identity.agentId.text = agentId := by
  obtain ⟨mapped, now, made, normal⟩ := belongs
  cases Except.ok.inj made
  unfold candidateOf at normal
  iterate 3 obtain ⟨_, _, normal⟩ := bind_eq_ok.mp normal
  exact parseErc8004Identity_agentId (normalizeCandidate_identity normal)

/-- Where the list route fails, the page of the latest route repeats the first agent, and the second one is left out. -/
theorem fallback_repeats : ¬∀ catalogue adapter query start s, ScanCatalogue.Starts catalogue query start →
    IterateReach catalogue adapter query (fun _ _ => True) s → Exact adapter ((catalogue.agents query).drop start) s := by
  intro claimed
  obtain ⟨s, reach, shown⟩ : ∃ s, IterateReach sampleCatalogue sampleAdapter sampleQuery (fun _ _ => True) s ∧
      shownIds s = (["1", "1"], true) :=
    ⟨_, IterateReach.advanced (fun op => ⟨failing_answered op, trivial⟩) 11 .start, failing_shown⟩
  have all := claimed sampleCatalogue sampleAdapter sampleQuery 0 s rfl reach
  obtain ⟨yielded, phase⟩ := s
  obtain ⟨ids, ended⟩ := Prod.mk.inj shown
  have whole : List.Forall₂ (IsCandidate sampleAdapter) [.str "1", .str "2"] yielded := by
    cases phase with
    | ended => exact all.whole rfl
    | _ => cases ended
  cases whole with
  | cons _ rest =>
    cases rest with
    | cons second rest =>
      cases rest
      have other := (List.cons.inj (List.cons.inj ids).2).1
      exact absurd (second.agentId.symm.trans other) (by decide)

theorem iterate_exact_served : ∃ s, shownIds s = (["1", "2"], true) ∧ Exact sampleAdapter [.str "1", .str "2"] s := by
  obtain ⟨s, reach, shown⟩ : ∃ s, IterateReach sampleCatalogue sampleAdapter sampleQuery (Unaided sampleCatalogue) s ∧
      shownIds s = (["1", "2"], true) := ⟨_, IterateReach.advanced served_answered 10 .start, served_shown⟩
  have starts : sampleCatalogue.Starts sampleQuery 0 := rfl
  exact ⟨s, shown, (iterate_exact starts reach).1⟩

end

end Bnbera.Scan
