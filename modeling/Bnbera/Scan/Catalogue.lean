import Bnbera.Scan.Adapter

namespace Bnbera.Scan

open Ingestion (NormalizedCandidate)
open Interleaving

/-- A provider that does not change: the agents of its list route and of its latest route, in their orders, and the
position that a cursor stands for. -/
structure ScanCatalogue where
  listed : ScanFilters → List Json
  latest : Option Int → Option Bool → List Json
  positionOf : ScanFilters → String → Option Nat

variable {catalogue : ScanCatalogue} {adapter : EightHundredFourScanAdapter} {α β : Type}

def ScanCatalogue.At (catalogue : ScanCatalogue) (filters : ScanFilters) (position : Nat) : PagePosition → Prop
  | .offset value => value = position
  | .cursor text => catalogue.positionOf filters text = some position

structure ServesList (catalogue : ScanCatalogue) (request : ListRequest) (position : Nat) (page : ListResponse) : Prop where
  at_position : catalogue.At request.filters position request.position
  limit : (page.limit : Int) = request.limit
  total : page.total = (catalogue.listed request.filters).length
  items : page.items = ((catalogue.listed request.filters).drop position).take page.limit
  offset : page.hasMore = none → page.offset = position
  more : ∀ hasMore, page.hasMore = some hasMore → hasMore = decide (position + page.limit < page.total)
  cursor : page.hasMore = some true →
    ∃ cursor, page.nextCursor = some cursor ∧ catalogue.positionOf request.filters cursor = some (position + page.limit)

structure ServesLatest (catalogue : ScanCatalogue) (request : LatestRequest) (page : ListResponse) : Prop where
  offset : (page.offset : Int) = request.offset
  limit : (page.limit : Int) = request.limit
  total : page.total = (catalogue.latest request.chainId request.isTestnet).length
  items : page.items = ((catalogue.latest request.chainId request.isTestnet).drop page.offset).take page.limit

def ScanCatalogue.Answers (catalogue : ScanCatalogue) : (op : ScanCall) → op.Answer → Prop
  | .getJson (.agents request), .ok body => ∃ page position, listResponse body = some page ∧ ServesList catalogue request position page
  | .getJson (.latest request), .ok body => ∃ page, listResponse body = some page ∧ ServesLatest catalogue request page
  | _, _ => True

inductive IterateReach (catalogue : ScanCatalogue) (adapter : EightHundredFourScanAdapter) (query : EightHundredFourScanQuery)
    (permits : (op : ScanCall) → op.Answer → Prop) : Iteration → Prop
  | start : IterateReach catalogue adapter query permits (adapter.iterate query)
  | called {s op answer s'} : IterateReach catalogue adapter query permits s → catalogue.Answers op answer → permits op answer →
      IterateStep adapter query s (.called op answer) s' → IterateReach catalogue adapter query permits s'
  | moved {s s'} : IterateReach catalogue adapter query permits s → IterateStep adapter query s .moved s' →
      IterateReach catalogue adapter query permits s'

/-- A request to the list route does not fail in a way that is answered by the latest route, and a cursor of digits only
stands for the offset that it spells. -/
def Unaided (catalogue : ScanCatalogue) : (op : ScanCall) → op.Answer → Prop
  | .getJson (.agents _), .error failure => shouldUseLatestFallback failure = false
  | .getJson (.agents request), .ok body => ∀ page cursor, listResponse body = some page → page.nextCursor = some cursor →
      isNumeric cursor = true → catalogue.positionOf request.filters cursor = some (decimalValue cursor)
  | _, _ => True

def ScanCatalogue.agents (catalogue : ScanCatalogue) (query : EightHundredFourScanQuery) : List Json :=
  match query.filters.check with
  | .ok filters => catalogue.listed filters
  | .error _ => []

def ScanCatalogue.Starts (catalogue : ScanCatalogue) (query : EightHundredFourScanQuery) (position : Nat) : Prop :=
  match query.offset, query.cursor with
  | none, none => position = 0
  | some offset, none => offset = position
  | none, some cursor => ∀ filters, query.filters.check = .ok filters → catalogue.positionOf filters (trim cursor) = some position
  | some _, some _ => False

def IsCandidate (adapter : EightHundredFourScanAdapter) (raw : Json) (candidate : NormalizedCandidate) : Prop :=
  ∃ mapped now, adapter.mapper raw = .ok mapped ∧ candidateOf adapter.normalizedIngestionVersion .agents now mapped = .ok candidate

/-- What is yielded are the candidates of the first agents, each once and in order, and of all when the traversal has ended. -/
structure Exact (adapter : EightHundredFourScanAdapter) (agents : List Json) (s : Iteration) : Prop where
  first : ∃ count, List.Forall₂ (IsCandidate adapter) (agents.take count) s.yielded
  whole : s.phase = .ended → List.Forall₂ (IsCandidate adapter) agents s.yielded

def Trusted (catalogue : ScanCatalogue) (entry : Answered ScanCall ScanCall.Answer) : Prop :=
  catalogue.Answers entry.op entry.answer ∧ Unaided catalogue entry.op entry.answer

abbrev Finds (catalogue : ScanCatalogue) (program : ExceptT ScanFailure (Program ScanCall ScanCall.Answer) α)
    (fact : α → Prop) (fails : ScanFailure → Prop) : Prop :=
  ∀ history, Relies (Trusted catalogue) (fun _ _ => True) (fun result _ => match result with
    | .ok value => fact value
    | .error failure => fails failure) program.run history

def NotAided (failure : ScanFailure) : Prop := shouldUseLatestFallback failure = false

namespace Finds

variable {program : ExceptT ScanFailure (Program ScanCall ScanCall.Answer) α} {fact : α → Prop} {fails : ScanFailure → Prop}

theorem returned {value : α} (holds : fact value) : Finds catalogue (pure value) fact fails := fun _ => Relies.done holds

theorem settled {result : Except ScanFailure α} (made : ∀ value, result = .ok value → fact value)
    (failed : ∀ failure, result = .error failure → fails failure) : Finds catalogue (liftM result) fact fails := by
  intro history
  cases result with
  | error failure => exact Relies.done (failed failure rfl)
  | ok value => exact Relies.done (made value rfl)

theorem bind {rest : α → ExceptT ScanFailure (Program ScanCall ScanCall.Answer) β} {final : β → Prop}
    (first : Finds catalogue program fact fails) (after : ∀ value, fact value → Finds catalogue (rest value) final fails) :
    Finds catalogue (program >>= rest) final fails := by
  intro history
  refine Relies.except_bind ((first history).post fun result history holds => ?_)
  cases result with
  | error failure => exact holds
  | ok value => exact after value holds history

theorem caught {handle : ScanFailure → ExceptT ScanFailure (Program ScanCall ScanCall.Answer) α} {thrown : ScanFailure → Prop}
    (first : Finds catalogue program fact thrown) (handled : ∀ failure, thrown failure → Finds catalogue (handle failure) fact fails) :
    Finds catalogue (tryCatch program handle) fact fails := by
  intro history
  refine Relies.bind ((first history).post fun result history holds => ?_)
  cases result with
  | error failure => exact handled failure holds history
  | ok value => exact Relies.done holds

theorem asked {request : ScanRequest} {fact : Json → Prop}
    (answered : ∀ body, Trusted catalogue ⟨.getJson request, .ok body⟩ → fact body)
    (failed : ∀ failure, Trusted catalogue ⟨.getJson request, .error failure⟩ → fails failure) :
    Finds catalogue (scanPort.getJson request) fact fails := by
  intro history
  refine Relies.call trivial fun answer trusted => ?_
  cases answer with
  | error failure => exact Relies.done (failed failure trusted)
  | ok body => exact Relies.done (answered body trusted)

end Finds

section
variable {result : Except ScanFailure α}

abbrev Refuses (result : Except ScanFailure α) : Prop := ∀ failure, result = .error failure → NotAided failure

theorem Refuses.returned {value : α} : Refuses (.ok value) := fun _ => nofun

theorem Refuses.bind {rest : α → Except ScanFailure β} (first : Refuses result) (after : ∀ value, Refuses (rest value)) :
    Refuses (result >>= rest) := by
  cases result with
  | error failure =>
    intro other same
    cases same
    exact first failure rfl
  | ok value => exact after value

theorem Refuses.map {change : α → β} (first : Refuses result) : Refuses (change <$> result) := by
  rw [map_eq_pure_bind]
  exact first.bind fun _ => .returned

theorem Refuses.refuseIf {condition : Prop} [Decidable condition] {failure : ScanFailure} (kind : NotAided failure) :
    Refuses (refuseIf condition failure) := by
  intro other same
  by_cases holds : condition
  · rw [Bnbera.refuseIf, if_pos holds] at same
    cases same
    exact kind
  · rw [Bnbera.refuseIf, if_neg holds] at same
    cases same

theorem boundedInteger_refuses (value : Option Int) (fallback minimum maximum : Int) (field : String) :
    Refuses (boundedInteger value fallback minimum maximum field) :=
  .bind (.refuseIf rfl) fun _ => .returned

theorem boundedText_refuses (value : Option String) (max : Nat) (field : String) : Refuses (boundedText value max field) := by
  cases value with
  | none => exact .returned
  | some text => exact .bind (.refuseIf rfl) fun _ => .returned

theorem check_refuses (filters : ScanFilters) : Refuses filters.check := by
  refine .bind ?_ fun _ => .bind (.refuseIf rfl) fun _ => .bind (boundedText_refuses _ _ _) fun _ =>
    .bind (boundedText_refuses _ _ _) fun _ => .returned
  cases filters.chainId with
  | none => exact .returned
  | some chainId => exact (boundedInteger_refuses _ _ _ _ _).map

theorem position_refuses (query : EightHundredFourScanQuery) : Refuses query.position := by
  unfold EightHundredFourScanQuery.position
  cases query.cursor with
  | none => exact (boundedInteger_refuses _ _ _ _ _).map
  | some cursor => exact .bind (boundedText_refuses _ _ _) fun _ => .returned

theorem mapPage_refuses (body : Json) (route : ScanRoute) : Refuses (mapPage body route) := by
  unfold mapPage
  cases listResponse body with
  | none =>
    intro failure same
    cases same
    rfl
  | some page =>
    dsimp only
    split
    · exact .bind (.refuseIf rfl) fun _ => .returned
    · exact .returned

end

theorem listResponse_trimmed {body : Json} {page : ListResponse} {cursor : String} (read : listResponse body = some page)
    (given : page.nextCursor = some cursor) : trim cursor = cursor := by
  unfold listResponse at read
  split at read
  · rename_i fields
    obtain ⟨items, _, read⟩ := Option.bind_eq_some_iff.mp read
    obtain ⟨total, _, read⟩ := Option.bind_eq_some_iff.mp read
    obtain ⟨limit, _, read⟩ := Option.bind_eq_some_iff.mp read
    obtain ⟨offset, _, read⟩ := Option.bind_eq_some_iff.mp read
    obtain ⟨nextCursor, found, read⟩ := Option.bind_eq_some_iff.mp read
    obtain ⟨hasMore, _, read⟩ := Option.bind_eq_some_iff.mp read
    split at read
    · cases Option.some.inj read
      cases given
      unfold cursorOf at found
      split at found
      · cases found
      · cases found
      · split at found
        · cases found
          exact trim_trim _
        · cases found
      · cases found
    · cases read
  · cases read

structure PageFound (catalogue : ScanCatalogue) (filters : ScanFilters) (position limit : Nat) (page : EightHundredFourScanPage) :
    Prop where
  items : page.items = ((catalogue.listed filters).drop position).take limit
  offset : ∀ offset, page.nextOffset = some offset → offset = position + limit
  cursor : page.nextOffset = none → ∀ cursor, page.nextCursor = some cursor →
    catalogue.positionOf filters cursor = some (position + limit) ∧ trim cursor = cursor ∧
      (isNumeric cursor = true → decimalValue cursor = position + limit)
  last : page.nextOffset = none → page.nextCursor = none → (catalogue.listed filters).length ≤ position + limit
  more : page.nextOffset ≠ none ∨ page.nextCursor ≠ none → position + limit < (catalogue.listed filters).length

theorem mapPage_found {request : ListRequest} {body : Json} {page : EightHundredFourScanPage}
    (trusted : Trusted catalogue ⟨.getJson (.agents request), .ok body⟩) (mapped : mapPage body .agents = .ok page) :
    ∃ position, catalogue.At request.filters position request.position ∧
      PageFound catalogue request.filters position request.limit.toNat page := by
  obtain ⟨⟨response, position, read, serves⟩, spelled⟩ := trusted
  have limit : response.limit = request.limit.toNat := by
    rw [← serves.limit]
    rfl
  refine ⟨position, serves.at_position, ?_⟩
  rw [← limit]
  unfold mapPage at mapped
  rw [read] at mapped
  dsimp only at mapped
  rw [if_pos rfl] at mapped
  cases known : response.hasMore with
  | none =>
    rw [known] at mapped
    cases Except.ok.inj mapped
    have here := serves.offset known
    have total := serves.total
    refine ⟨serves.items, fun offset next => ?_, fun stops cursor given => ?_, fun stops _ => ?_, fun goes => ?_⟩
    · simp only [ListResponse.nextOffset] at next
      split at next
      · cases next
        rw [here]
      · cases next
    · have shown : response.nextOffset.map toString = some cursor := given
      rw [show response.nextOffset = none from stops] at shown
      cases shown
    · simp only [ListResponse.nextOffset] at stops
      split at stops
      · cases stops
      · omega
    · have onward : response.nextOffset ≠ none := goes.elim id fun shown stops => shown (congrArg (Option.map toString) stops)
      by_cases within : response.offset + response.limit < response.total
      · omega
      · exact absurd (if_neg within) onward
  | some hasMore =>
    rw [known] at mapped
    obtain ⟨_, mapped⟩ := refuseIf_bind_eq_ok.mp mapped
    cases Except.ok.inj mapped
    have more := serves.more hasMore known
    refine ⟨serves.items, fun offset => nofun, fun _ cursor given => ?_, fun _ ends => ?_, fun goes => ?_⟩
    · cases hasMore with
      | false => cases given
      | true =>
        obtain ⟨other, same, stands⟩ := serves.cursor known
        cases Option.some.inj (same.symm.trans given)
        refine ⟨stands, listResponse_trimmed read given, fun numeric => ?_⟩
        have spells := spelled response _ read same numeric
        exact Option.some.inj (spells.symm.trans stands)
    · cases hasMore with
      | false =>
        have total := serves.total
        have exceeds := of_decide_eq_false more.symm
        omega
      | true =>
        obtain ⟨cursor, same, _⟩ := serves.cursor known
        have missing : response.nextCursor = none := ends
        rw [same] at missing
        cases missing
    · cases hasMore with
      | false => exact (goes.elim (fun some => some rfl) fun some => some rfl).elim
      | true => exact serves.total ▸ of_decide_eq_true more.symm

def PageFor (catalogue : ScanCatalogue) (query : EightHundredFourScanQuery) (position : Nat) (page : EightHundredFourScanPage) : Prop :=
  ∃ filters limit, query.filters.check = .ok filters ∧ boundedInteger query.limit 20 1 maxPageSize "page size" = .ok limit ∧
    PageFound catalogue filters position limit.toNat page

theorem boundedInteger_eq_ok {value : Option Int} {fallback minimum maximum result : Int} {field : String}
    (made : boundedInteger value fallback minimum maximum field = .ok result) :
    result = value.getD fallback ∧ minimum ≤ result ∧ result ≤ maximum := by
  obtain ⟨within, made⟩ := refuseIf_bind_eq_ok.mp made
  cases Except.ok.inj made
  rw [not_or, not_lt, not_lt] at within
  exact ⟨rfl, within⟩

/-- The position that is asked for is the one at which the query starts. -/
theorem position_at {query : EightHundredFourScanQuery} {start position : Nat} {asked : PagePosition} {filters : ScanFilters}
    (starts : catalogue.Starts query start) (checked : query.filters.check = .ok filters) (made : query.position = .ok asked)
    (found : catalogue.At filters position asked) : position = start := by
  unfold ScanCatalogue.Starts at starts
  unfold EightHundredFourScanQuery.position at made
  cases no_cursor : query.cursor with
  | none =>
    rw [no_cursor] at made starts
    obtain ⟨value, bounded, rfl⟩ := map_eq_ok.mp made
    obtain ⟨known, _⟩ := boundedInteger_eq_ok bounded
    have here : value = position := found
    cases given : query.offset with
    | none =>
      rw [given] at starts known
      have zero : start = 0 := starts
      have first : value = 0 := known
      omega
    | some offset =>
      rw [given] at starts known
      have same : offset = start := starts
      have first : value = offset := known
      omega
  | some cursor =>
    rw [no_cursor] at made starts
    cases given : query.offset with
    | none =>
      rw [given] at starts
      obtain ⟨text, bounded, made⟩ := bind_eq_ok.mp made
      obtain ⟨_, bounded⟩ := refuseIf_bind_eq_ok.mp bounded
      cases Except.ok.inj bounded
      cases Except.ok.inj made
      exact Option.some.inj (found.symm.trans (starts filters checked))
    | some offset =>
      rw [given] at starts
      exact starts.elim

theorem listPage_finds {query : EightHundredFourScanQuery} {start : Nat} (starts : catalogue.Starts query start) :
    Finds catalogue (listPage scanPort query) (PageFor catalogue query start) NotAided := by
  unfold listPage
  refine .bind (.settled (fun _ made => made) (boundedInteger_refuses _ _ _ _ _)) fun limit bounded => ?_
  refine .bind (.settled (fun _ made => made) (position_refuses query)) fun asked made => ?_
  refine .bind (.settled (fun _ made => made) (check_refuses _)) fun filters checked => ?_
  refine .bind (.asked (fun body trusted => trusted) fun failure trusted => trusted.2) fun body trusted => ?_
  refine .settled (fun page mapped => ?_) (mapPage_refuses body .agents)
  obtain ⟨position, found, rest⟩ := mapPage_found trusted mapped
  rw [position_at starts checked made found] at rest
  exact ⟨filters, limit, checked, bounded, rest⟩

/-- The bridge leads to the page at its offset. -/
theorem bridgeOffset_finds {query : EightHundredFourScanQuery} {offset limit : Int} {start : Nat}
    (uncursored : query.cursor = none) (starts : offset = start)
    (bounded : boundedInteger query.limit 20 1 maxPageSize "page size" = .ok limit) :
    Finds catalogue (bridgeOffset scanPort query offset limit) (PageFor catalogue query start) NotAided := by
  unfold bridgeOffset
  refine .bind (.settled (fun _ made => made) (Refuses.refuseIf rfl)) fun _ made => ?_
  have within : ¬(offset - limit < 0 ∨ shallowWindow < offset - limit) := fun refused => by
    rw [refuseIf, if_pos refused] at made
    cases made
  obtain ⟨_, positive, _⟩ := boundedInteger_eq_ok bounded
  obtain ⟨previous, same⟩ : ∃ previous : Nat, offset - limit = previous := ⟨(offset - limit).toNat, by omega⟩
  have before : catalogue.Starts { query with offset := some (offset - limit) } previous := by
    unfold ScanCatalogue.Starts
    rw [uncursored]
    exact same
  refine .bind (listPage_finds before) fun page found => ?_
  obtain ⟨filters, again, checked, known, found⟩ := found
  cases Except.ok.inj (known.symm.trans bounded)
  have failed : Finds catalogue (throw (scanError .scanContractInvalid "The provider omitted the handoff cursor." "review_scan_contract"))
      (PageFor catalogue query start) NotAided := fun _ => Relies.done rfl
  cases onward : page.nextOffset with
  | some _ => exact failed
  | none =>
    cases next : page.nextCursor with
    | none => exact failed
    | some cursor =>
      obtain ⟨stands, trimmed, _⟩ := found.cursor onward cursor next
      have there : previous + limit.toNat = start := by omega
      have after : catalogue.Starts { query with offset := none, cursor := some cursor } start := by
        intro other passed
        cases Except.ok.inj (checked.symm.trans passed)
        rw [trimmed, stands, there]
      exact listPage_finds after

theorem listCandidates_finds {query : EightHundredFourScanQuery} {start : Nat} (starts : catalogue.Starts query start) :
    Finds catalogue (listCandidates scanPort query) (PageFor catalogue query start) NotAided := by
  unfold listCandidates
  refine .bind (.settled (fun _ made => made) (Refuses.refuseIf rfl)) fun _ _ => ?_
  refine .bind (.settled (fun _ made => made) (boundedInteger_refuses _ _ _ _ _)) fun limit bounded => ?_
  cases given : query.offset with
  | none => exact listPage_finds starts
  | some offset =>
    dsimp only
    by_cases beyond : shallowWindow < offset
    · rw [if_pos beyond]
      cases uncursored : query.cursor with
      | none =>
        unfold ScanCatalogue.Starts at starts
        rw [given, uncursored] at starts
        exact bridgeOffset_finds uncursored starts bounded
      | some cursor =>
        unfold ScanCatalogue.Starts at starts
        rw [given, uncursored] at starts
        exact starts.elim
    · rw [if_neg beyond]
      exact listPage_finds starts

structure CandidatesFound (catalogue : ScanCatalogue) (adapter : EightHundredFourScanAdapter) (base : EightHundredFourScanQuery)
    (filters : ScanFilters) (start limit : Nat) (page : CandidatePage) : Prop where
  positive : 0 < limit
  candidates : List.Forall₂ (IsCandidate adapter) (((catalogue.listed filters).drop start).take limit) page.candidates
  last : page.next base = none → (catalogue.listed filters).length ≤ start + limit
  next : ∀ query, page.next base = some query → query.filters = base.filters ∧ catalogue.Starts query (start + limit) ∧
    start + limit < (catalogue.listed filters).length

theorem Finds.mapped {ι : Type} {items : List ι} {round : ι → ExceptT ScanFailure (Program ScanCall ScanCall.Answer) α}
    {belongs : ι → α → Prop} {fails : ScanFailure → Prop} (each : ∀ item ∈ items, Finds catalogue (round item) (belongs item) fails) :
    Finds catalogue (items.mapM round) (List.Forall₂ belongs items) fails := by
  induction items with
  | nil => exact .returned .nil
  | cons item items ih =>
    rw [List.mapM_cons]
    refine .bind (each item List.mem_cons_self) fun value holds => ?_
    refine .bind (ih fun other member => each other (List.mem_cons_of_mem item member)) fun values rest => ?_
    exact .returned (.cons holds rest)

theorem normalizeItem_finds (raw : Json) :
    Finds catalogue (normalizeItem scanPort adapter.mapper adapter.normalizedIngestionVersion .agents raw) (IsCandidate adapter raw)
      fun _ => True := by
  unfold normalizeItem
  refine .bind (.settled (fun _ made => made) fun _ _ => trivial) fun mapped made => ?_
  have clock : Finds catalogue (ExceptT.lift scanPort.now) (fun _ => True) fun _ => True :=
    fun _ => Relies.call trivial fun _ _ => Relies.done trivial
  refine .bind clock fun now _ => ?_
  refine .settled (fun candidate normalized => ?_) fun _ _ => trivial
  refine ⟨mapped, now, made, ?_⟩
  unfold normalizing at normalized
  cases given : candidateOf adapter.normalizedIngestionVersion .agents now mapped with
  | error failure =>
    rw [given] at normalized
    cases normalized
  | ok other =>
    rw [given] at normalized
    cases normalized
    rfl

/-- Where the page that is answered goes on. -/
theorem PageFound.onward {filters : ScanFilters} {position limit : Nat} {page : EightHundredFourScanPage} {answer : CandidatePage}
    {base : EightHundredFourScanQuery} (found : PageFound catalogue filters position limit page)
    (checked : base.filters.check = .ok filters) (nextCursor : answer.nextCursor = (page.nextCursor <|> page.nextOffset.map toString))
    (nextOffset : answer.nextOffset =
      (page.nextOffset <|> (page.nextCursor.filter isNumeric).map fun cursor => (decimalValue cursor : Int))) :
    (answer.next base = none → (catalogue.listed filters).length ≤ position + limit) ∧
      ∀ query, answer.next base = some query → query.filters = base.filters ∧ catalogue.Starts query (position + limit) ∧
        position + limit < (catalogue.listed filters).length := by
  unfold CandidatePage.next
  rw [nextCursor, nextOffset]
  cases offset : page.nextOffset with
  | some offset' =>
    refine ⟨nofun, fun query next => ?_⟩
    cases Option.some.inj next
    exact ⟨rfl, found.offset _ offset, found.more (.inl (offset ▸ nofun))⟩
  | none =>
    cases cursor : page.nextCursor with
    | none => exact ⟨fun _ => found.last offset cursor, fun _ => nofun⟩
    | some text =>
      obtain ⟨stands, trimmed, spells⟩ := found.cursor offset text cursor
      have goes := found.more (.inr (cursor ▸ nofun))
      by_cases numeric : isNumeric text = true
      · have filtered : (some text).filter isNumeric = some text := Option.filter_some_pos numeric
        rw [filtered]
        refine ⟨nofun, fun query next => ?_⟩
        cases Option.some.inj next
        exact ⟨rfl, congrArg Nat.cast (spells numeric), goes⟩
      · have filtered : (some text).filter isNumeric = none := Option.filter_some_neg (Bool.eq_false_iff.mpr numeric)
        rw [filtered]
        refine ⟨nofun, fun query next => ?_⟩
        cases Option.some.inj next
        refine ⟨rfl, fun other passed => ?_, goes⟩
        cases Except.ok.inj (checked.symm.trans passed)
        rw [trimmed, stands]

/-- What `fetchPage` answers a query for a position. -/
def CandidatesFor (catalogue : ScanCatalogue) (adapter : EightHundredFourScanAdapter) (query : EightHundredFourScanQuery) (start : Nat)
    (page : CandidatePage) : Prop :=
  ∃ filters limit, query.filters.check = .ok filters ∧ ∀ base : EightHundredFourScanQuery, base.filters = query.filters →
    CandidatesFound catalogue adapter base filters start limit page

theorem normalizePage_finds {query : EightHundredFourScanQuery} {page : EightHundredFourScanPage} {start : Nat} (requested : Int)
    (found : PageFor catalogue query start page) :
    Finds catalogue (normalizePage scanPort adapter.mapper adapter.normalizedIngestionVersion page .agents requested)
      (CandidatesFor catalogue adapter query start) fun _ => True := by
  obtain ⟨filters, limit, checked, bounded, found⟩ := found
  obtain ⟨_, positive, _⟩ := boundedInteger_eq_ok bounded
  unfold normalizePage
  refine .bind (.settled (fun _ _ => trivial) fun _ _ => trivial) fun _ (_ : True) => ?_
  refine .bind (.mapped fun raw _ => normalizeItem_finds raw) fun candidates belong => ?_
  refine .returned ⟨filters, limit.toNat, checked, fun base same => ?_⟩
  have known : base.filters.check = .ok filters := same ▸ checked
  exact ⟨by omega, found.items ▸ belong, (found.onward known rfl rfl).1, (found.onward known rfl rfl).2⟩

theorem fetchPage_finds {query : EightHundredFourScanQuery} {start : Nat} (starts : catalogue.Starts query start) :
    Finds catalogue (adapter.fetchPage query) (CandidatesFor catalogue adapter query start) fun _ => True := by
  unfold EightHundredFourScanAdapter.fetchPage fetchPage
  have listed : Finds catalogue (do return (← listCandidates scanPort query, ScanRoute.agents))
      (fun listed => PageFor catalogue query start listed.1 ∧ listed.2 = .agents) NotAided :=
    .bind (listCandidates_finds starts) fun page found => .returned ⟨found, rfl⟩
  refine .bind (.caught listed fun failure kind => ?_) fun page found => ?_
  · rw [kind]
    exact fun _ => Relies.done trivial
  · obtain ⟨page, route⟩ := page
    obtain ⟨found, rfl⟩ := found
    exact normalizePage_finds _ found

end Bnbera.Scan
