import Mathlib.Algebra.GroupWithZero.Nat
import Bnbera.Auth.Ports
import Bnbera.Delimited

/-! What a signed message tells of the request that it was formatted from. -/

namespace Bnbera.Auth

open Delimited

def SiweMessageFields.signed (fields : SiweMessageFields) : SiweMessageFields :=
  { fields with resources := some (fields.resources.getD []) }

def lineBreaks (text : String) : Nat := text.toList.count '\n'

structure SiweLayout where
  domain : Nat
  statement : Option Nat
  uri : Nat
  nonce : Nat
  resources : List Nat
deriving DecidableEq

def SiweMessageFields.layout (fields : SiweMessageFields) : SiweLayout where
  domain := lineBreaks fields.domain
  statement := fields.statement.map lineBreaks
  uri := lineBreaks fields.uri
  nonce := lineBreaks fields.nonce
  resources := (fields.resources.getD []).map lineBreaks

def OneLineDates [DateText] : Prop :=
  ∀ {time : Int}, time.natAbs ≤ 8640000000000000 → lineBreaks (DateText.toISOString time) = 0

theorem lineBreaks_append (s t : String) : lineBreaks (s ++ t) = lineBreaks s + lineBreaks t := by
  rw [lineBreaks, String.toList_append, List.count_append]
  rfl

section
variable [DateText] {fields other : SiweMessageFields}

def SiweMessageFields.body (fields : SiweMessageFields) : List String :=
  [fields.domain ++ " wants you to sign in with your Ethereum account:", fields.address, ""] ++
    ((fields.statement.map fun text => [text, ""]).getD [] ++
      ["URI: " ++ fields.uri, "Version: 1", "Chain ID: " ++ toString fields.chainId.value, "Nonce: " ++ fields.nonce,
        "Issued At: " ++ DateText.toISOString fields.issuedAt,
        "Expiration Time: " ++ DateText.toISOString fields.expirationTime])

def SiweMessageFields.trailer (fields : SiweMessageFields) : List String :=
  (fields.notBefore.map fun time => "Not Before: " ++ DateText.toISOString time).toList ++
    match fields.resources.getD [] with
    | [] => []
    | first :: rest => "Resources:" :: (first :: rest).map ("- " ++ ·)

omit [DateText] in
theorem intercalate_lines (first : String) (rest : List String) :
    ("\n".intercalate (first :: rest)).toList ++ ['\n'] = terminated '\n' ((first :: rest).map String.toList) := by
  rw [String.toList_intercalate]
  exact terminated_eq_intercalate _ _

theorem formatSiweMessage_lines (fields : SiweMessageFields) :
    (formatSiweMessage fields).toList ++ ['\n'] = terminated '\n' ((fields.body ++ fields.trailer).map String.toList) := by
  have shown : ((fields.statement.map (· ++ "\n\n")).getD "").toList =
      terminated '\n' (((fields.statement.map fun text => [text, ""]).getD []).map String.toList) := by
    cases fields.statement with
    | none => rfl
    | some text => simp
  unfold formatSiweMessage SiweMessageFields.body SiweMessageFields.trailer
  simp only [String.toList_append, List.append_assoc, List.cons_append, List.nil_append, intercalate_lines, shown,
    List.map_cons, List.map_append, terminated_cons, terminated_append]
  rcases fields.resources with _ | _ | ⟨first, rest⟩
  · rfl
  · rfl
  · have listed := intercalate_lines "Resources:" (("- " ++ first) :: rest.map ("- " ++ ·))
    simp only [Option.getD_some, List.map_cons, List.map_nil, terminated_cons, terminated_nil] at listed ⊢
    rw [listed]
    rfl

omit [DateText] in
theorem length_lines (parts : List String) : (utf16Units (String.ofList (terminated '\n' (parts.map String.toList)))).length =
    (parts.map fun part => (utf16Units part).length + 1).sum := by
  induction parts with
  | nil => rfl
  | cons part parts ih =>
    have cut : String.ofList (terminated '\n' ((part :: parts).map String.toList)) =
        part ++ ("\n" ++ String.ofList (terminated '\n' (parts.map String.toList))) := String.toList_injective (by simp)
    have mark : (utf16Units "\n").length = 1 := rfl
    rw [cut, utf16Units_append, utf16Units_append, List.length_append, List.length_append, mark, ih, List.map_cons,
      List.sum_cons, Nat.add_assoc]

theorem length_formatSiweMessage (fields : SiweMessageFields) : (utf16Units (formatSiweMessage fields)).length + 1 =
    ((fields.body ++ fields.trailer).map fun part => (utf16Units part).length + 1).sum := by
  have whole : formatSiweMessage fields ++ "\n" =
      String.ofList (terminated '\n' ((fields.body ++ fields.trailer).map String.toList)) :=
    String.toList_injective (String.toList_append.trans ((formatSiweMessage_lines fields).trans String.toList_ofList.symm))
  have mark : (utf16Units "\n").length = 1 := rfl
  rw [← length_lines, ← whole, utf16Units_append, List.length_append, mark]

theorem isBounded_formatSiweMessage {fields : SiweMessageFields}
    (short : ((fields.body ++ fields.trailer).map fun part => (utf16Units part).length + 1).sum ≤ 8193) :
    isBounded 1 8192 (formatSiweMessage fields) = true := by
  have present : 2 ≤ ((fields.body ++ fields.trailer).map fun part => (utf16Units part).length + 1).sum := by
    simp only [SiweMessageFields.body, List.cons_append, List.map_cons, List.sum_cons]
    omega
  rw [← length_formatSiweMessage] at short present
  unfold isBounded
  rw [Bool.and_eq_true, decide_eq_true_eq, decide_eq_true_eq]
  omega

/-- The texts of a message that the boundary checks or makes itself are single lines. -/
structure SiweMessageFields.OneLine (fields : SiweMessageFields) : Prop where
  address : lineBreaks fields.address = 0
  chainId : lineBreaks (toString fields.chainId.value) = 0
  issuedAt : lineBreaks (DateText.toISOString fields.issuedAt) = 0
  expirationTime : lineBreaks (DateText.toISOString fields.expirationTime) = 0
  notBefore : ∀ time ∈ fields.notBefore, lineBreaks (DateText.toISOString time) = 0

def SiweLayout.body (layout : SiweLayout) : List Nat :=
  [layout.domain, 0, 0] ++ ((layout.statement.map fun breaks => [breaks, 0]).getD [] ++ [layout.uri, 0, 0, layout.nonce, 0, 0])

def SiweLayout.list (layout : SiweLayout) : List Nat :=
  match layout.resources with
  | [] => []
  | first :: rest => 0 :: first :: rest

theorem SiweMessageFields.OneLine.body (line : fields.OneLine) : fields.body.map lineBreaks = fields.layout.body := by
  have chain : lineBreaks fields.chainId.value.repr = 0 := line.chainId
  unfold SiweMessageFields.body SiweLayout.body SiweMessageFields.layout
  cases fields.statement with
  | none =>
    simp [lineBreaks_append, line.address, chain, line.issuedAt, line.expirationTime]
    decide
  | some text =>
    simp [lineBreaks_append, line.address, chain, line.issuedAt, line.expirationTime]
    decide

omit [DateText] in
theorem lineBreaks_resources (resources : List String) :
    (resources.map ("- " ++ ·)).map lineBreaks = resources.map lineBreaks := by
  have bullet : lineBreaks "- " = 0 := by decide
  rw [List.map_map]
  refine List.map_congr_left fun resource _ => ?_
  rw [Function.comp_apply, lineBreaks_append, bullet, Nat.zero_add]

theorem SiweMessageFields.OneLine.trailer (line : fields.OneLine) : fields.trailer.map lineBreaks =
    (fields.notBefore.map fun _ => 0).toList ++ fields.layout.list := by
  have label : lineBreaks "Not Before: " = 0 := by decide
  have heading : lineBreaks "Resources:" = 0 := by decide
  unfold SiweMessageFields.trailer SiweLayout.list SiweMessageFields.layout
  rw [List.map_append]
  congr 1
  · have breaks := line.notBefore
    cases given : fields.notBefore with
    | none => rfl
    | some time =>
      have free := breaks time given
      simp [lineBreaks_append, label, free]
  · rcases fields.resources.getD [] with _ | ⟨first, rest⟩
    · rfl
    · rw [List.map_cons, lineBreaks_resources, heading, List.map_cons]

theorem trailer_notBefore
    (same : terminated '\n' (fields.trailer.map String.toList) = terminated '\n' (other.trailer.map String.toList)) :
    fields.notBefore.isSome = other.notBefore.isSome := by
  unfold SiweMessageFields.trailer at same
  cases given : fields.notBefore with
  | none =>
    cases given' : other.notBefore with
    | none => rfl
    | some time =>
      rw [given, given'] at same
      cases listed : fields.resources.getD [] <;> rw [listed] at same <;> simp at same
  | some time =>
    cases given' : other.notBefore with
    | none =>
      rw [given, given'] at same
      cases listed : other.resources.getD [] <;> rw [listed] at same <;> simp at same
    | some time' => rfl

theorem toISOString_inj (dates : LawfulDates) {time time' : Int} (range : time.natAbs ≤ 8640000000000000)
    (range' : time'.natAbs ≤ 8640000000000000) (same : DateText.toISOString time = DateText.toISOString time') :
    time = time' := by
  have readBack := dates.coerce range
  rw [same, dates.coerce range'] at readBack
  exact (Option.some.inj readBack).symm

structure SiweMessageFields.Dated (fields : SiweMessageFields) : Prop where
  issuedAt : fields.issuedAt.natAbs ≤ 8640000000000000
  expirationTime : fields.expirationTime.natAbs ≤ 8640000000000000
  notBefore : ∀ time ∈ fields.notBefore, time.natAbs ≤ 8640000000000000

omit [DateText] in
theorem chainId_eq_of_text {chainId chainId' : ChainId} (same : chainId.value.repr = chainId'.value.repr) :
    chainId = chainId' := by
  obtain ⟨value, low, high⟩ := chainId
  obtain ⟨value', low', high'⟩ := chainId'
  obtain ⟨n, rfl⟩ := Int.eq_ofNat_of_zero_le (show 0 ≤ value by omega)
  obtain ⟨n', rfl⟩ := Int.eq_ofNat_of_zero_le (show 0 ≤ value' by omega)
  have digits : n.repr = n'.repr := same
  have readBack := decimalValue_repr n
  rw [digits, decimalValue_repr] at readBack
  cases readBack
  rfl

omit [DateText] in
theorem listed_inj {resources resources' : List String}
    (same : (match resources with
      | [] => []
      | first :: rest => "Resources:" :: (first :: rest).map ("- " ++ ·)) =
      match resources' with
      | [] => []
      | first :: rest => "Resources:" :: (first :: rest).map ("- " ++ ·)) : resources = resources' := by
  cases resources with
  | nil =>
    cases resources' with
    | nil => rfl
    | cons first' rest' => cases same
  | cons first rest =>
    cases resources' with
    | nil => cases same
    | cons first' rest' =>
      have bullet : Function.Injective fun resource : String => "- " ++ resource :=
        fun _ _ equal => String.append_right_inj _ |>.mp equal
      exact List.map_injective_iff.mpr bullet (List.cons.inj same).2

/-- The parts of a message determine what was signed. -/
theorem signed_eq_of_parts (dates : LawfulDates) (dated : fields.Dated) (dated' : other.Dated)
    (body : fields.body = other.body) (trailer : fields.trailer = other.trailer)
    (statement : fields.statement.isSome = other.statement.isSome)
    (notBefore : fields.notBefore.isSome = other.notBefore.isSome) :
    fields.signed = other.signed := by
  obtain ⟨domain, address, text, uri, chainId, nonce, issuedAt, expirationTime, time, resources⟩ := fields
  obtain ⟨domain', address', text', uri', chainId', nonce', issuedAt', expirationTime', time', resources'⟩ := other
  have texts : text = text' ∧ domain = domain' ∧ address = address' ∧ uri = uri' ∧
      chainId.value.repr = chainId'.value.repr ∧ nonce = nonce' ∧
        DateText.toISOString issuedAt = DateText.toISOString issuedAt' ∧
        DateText.toISOString expirationTime = DateText.toISOString expirationTime' := by
    unfold SiweMessageFields.body at body
    cases text with
    | none =>
      cases text' with
      | none => simpa [String.append_left_inj, String.append_right_inj] using body
      | some text' => cases statement
    | some text =>
      cases text' with
      | none => cases statement
      | some text' => simpa [String.append_left_inj, String.append_right_inj, and_left_comm, and_assoc] using body
  obtain ⟨rfl, rfl, rfl, rfl, chain, rfl, issued, expiration⟩ := texts
  cases chainId_eq_of_text chain
  cases toISOString_inj dates dated.issuedAt dated'.issuedAt issued
  cases toISOString_inj dates dated.expirationTime dated'.expirationTime expiration
  have rest : time = time' ∧ resources.getD [] = resources'.getD [] := by
    unfold SiweMessageFields.trailer at trailer
    cases time with
    | none =>
      cases time' with
      | none => exact ⟨rfl, listed_inj (by simpa using trailer)⟩
      | some time' => cases notBefore
    | some time =>
      cases time' with
      | none => cases notBefore
      | some time' =>
        obtain ⟨first, others⟩ := List.cons.inj trailer
        rw [String.append_right_inj] at first
        cases toISOString_inj dates (dated.notBefore time rfl) (dated'.notBefore time' rfl) first
        exact ⟨rfl, listed_inj others⟩
  simp only [SiweMessageFields.signed, rest]

omit [DateText] in
theorem toLists_inj {parts parts' : List String} (same : parts.map String.toList = parts'.map String.toList) : parts = parts' :=
  List.map_injective_iff.mpr (fun _ _ equal => String.toList_injective equal) same

omit [DateText] in
theorem map_lines (parts : List String) : (parts.map String.toList).map (List.count '\n') = parts.map lineBreaks :=
  List.map_map

theorem signed_eq_of_layout (dates : LawfulDates) (dated : fields.Dated) (dated' : other.Dated) (line : fields.OneLine)
    (line' : other.OneLine) (same : formatSiweMessage fields = formatSiweMessage other)
    (layout : fields.layout = other.layout) :
    fields.signed = other.signed := by
  have lines := (formatSiweMessage_lines fields).symm.trans ((congrArg (String.toList · ++ ['\n']) same).trans
    (formatSiweMessage_lines other))
  rw [List.map_append, List.map_append] at lines
  obtain ⟨bodies, trailers⟩ := terminated_append_inj (by rw [map_lines, map_lines, line.body, line'.body, layout]) lines
  have notBefore := trailer_notBefore trailers
  have times : (fields.notBefore.map fun _ => 0).toList = (other.notBefore.map fun _ => 0).toList := by
    cases given : fields.notBefore <;> cases given' : other.notBefore <;> simp_all
  have rest := terminated_inj (by rw [map_lines, map_lines, line.trailer, line'.trailer, layout, times]) trailers
  have statement : fields.statement.isSome = other.statement.isSome := by
    have presence := congrArg (Option.isSome ·.statement) layout
    simpa only [SiweMessageFields.layout, Option.isSome_map] using presence
  exact signed_eq_of_parts dates dated dated' (toLists_inj bodies) (toLists_inj rest) statement notBefore

omit [DateText] in
theorem layout_eq_of_signed (same : fields.signed = other.signed) : fields.layout = other.layout := by
  simp only [SiweMessageFields.signed, SiweMessageFields.mk.injEq, Option.some.injEq] at same
  simp only [SiweMessageFields.layout, same]

end

section
variable [UrlParser] [DateText] {request other : SiweRequest}

/-- The comparison that `eoaSiweVerifier` makes before it asks for the signature. -/
def SiweRequest.Canonical (request : SiweRequest) : Prop := request.message.text = formatSiweMessage request.fields

omit [UrlParser] [DateText] in
theorem lineBreaks_repr (n : Nat) : lineBreaks n.repr = 0 := by
  refine List.count_eq_zero.mpr fun member => ?_
  rw [Nat.repr_eq_ofList_toDigits, String.toList_ofList] at member
  exact absurd (Nat.isDigit_of_mem_toDigits (by decide) (by decide) member) (by decide)

theorem SiweRequest.oneLine (breaks : OneLineDates) (dated : request.fields.Dated) : request.fields.OneLine where
  address := by
    obtain ⟨digits, same, _, hex⟩ := isEvmAddress_iff.mp request.address.accepted
    have outside : '\n' ∉ digits := fun member => absurd (List.all_eq_true.mp hex _ member) (by decide)
    refine List.count_eq_zero.mpr ?_
    show '\n' ∉ request.address.text.toList
    rw [same]
    simp [outside]
  chainId := by
    have positive := request.chainId.low_le
    obtain ⟨n, same⟩ := Int.eq_ofNat_of_zero_le (show 0 ≤ request.chainId.value by omega)
    show lineBreaks (toString request.chainId.value) = 0
    rw [same]
    exact lineBreaks_repr n
  issuedAt := breaks dated.issuedAt
  expirationTime := breaks dated.expirationTime
  notBefore := fun time given => breaks (dated.notBefore time given)

/-- Two accepted requests with one canonical message agree on every signed field exactly if each of
their texts has as many line breaks in the one as in the other. -/
theorem canonicalMessage_signed_iff (dates : LawfulDates) (breaks : OneLineDates) (dated : request.fields.Dated)
    (dated' : other.fields.Dated) (canonical : request.Canonical) (canonical' : other.Canonical)
    (same : request.message = other.message) :
    request.fields.signed = other.fields.signed ↔ request.fields.layout = other.fields.layout := by
  have message : formatSiweMessage request.fields = formatSiweMessage other.fields := by
    rw [← canonical, ← canonical', same]
  exact ⟨layout_eq_of_signed, signed_eq_of_layout dates dated dated' (request.oneLine breaks dated)
    (other.oneLine breaks dated') message⟩

end

/-- A URL parser that is right on the address of this machine, and on that address followed by a line of
a list with it, where the parser drops the line break. -/
@[reducible] def wrappedUrls : UrlParser where
  parse text :=
    if text = "http://localhost/" then some (localUrl "")
    else if text = "http://localhost/\n- http://localhost/" then
      some { localUrl "" with pathname := "/-%20http://localhost/", href := "http://localhost/-%20http://localhost/" }
    else none

def listedFields (resources : List String) : SiweMessageFields where
  domain := "localhost"
  address := localAddress.text
  uri := "http://localhost/"
  chainId := BscChainId.testnet.value
  nonce := "AAAAAAAA"
  issuedAt := 0
  expirationTime := sessionTtlMs
  resources := some resources

def listedMessage : Checked (isBounded 1 8192) :=
  ⟨@formatSiweMessage epochDates (listedFields ["http://localhost/", "http://localhost/"]),
    @isBounded_formatSiweMessage epochDates _ (by decide +kernel)⟩

def listedRequest (resources : List (@Checked (@isUrl wrappedUrls))) : @SiweRequest wrappedUrls :=
  @SiweRequest.mk wrappedUrls localAddress BscChainId.testnet.value ⟨"localhost", by decide⟩
    ⟨"http://localhost/", by decide⟩ ⟨"AAAAAAAA", by decide⟩ 0 sessionTtlMs none none (some resources) listedMessage
    ⟨"0x00", by decide⟩

def twoResources : @SiweRequest wrappedUrls :=
  listedRequest [⟨"http://localhost/", by decide⟩, ⟨"http://localhost/", by decide⟩]

def oneResource : @SiweRequest wrappedUrls :=
  listedRequest [⟨"http://localhost/\n- http://localhost/", by decide⟩]

theorem epochDates_oneLine : @OneLineDates epochDates := by
  intro time _
  show lineBreaks (epochText time) = 0
  unfold epochText
  split
  · decide
  · split
    · decide
    · rw [lineBreaks_append, lineBreaks_repr]
      split <;> decide

theorem listedFields_dated (resources : List String) : (listedFields resources).Dated :=
  ⟨show (0 : Int).natAbs ≤ _ by decide, show sessionTtlMs.natAbs ≤ _ by decide, fun time given => nomatch given⟩

theorem oneResource_canonical : @SiweRequest.Canonical wrappedUrls epochDates oneResource := by
  have lines := @formatSiweMessage_lines epochDates
  refine String.toList_injective (@List.append_cancel_right _ _ ['\n'] _ ?_)
  show (@formatSiweMessage epochDates (listedFields ["http://localhost/", "http://localhost/"])).toList ++ ['\n'] =
    (@formatSiweMessage epochDates (listedFields ["http://localhost/\n- http://localhost/"])).toList ++ ['\n']
  rw [lines, lines, List.map_append, List.map_append, terminated_append, terminated_append]
  congr 1

/-- A request with one resource and a request with two have one message. -/
theorem message_of_two_requests :
    @SiweRequest.Canonical wrappedUrls epochDates twoResources ∧ @SiweRequest.Canonical wrappedUrls epochDates oneResource ∧
      @SiweRequest.message wrappedUrls twoResources = @SiweRequest.message wrappedUrls oneResource ∧
      (@SiweRequest.fields wrappedUrls twoResources).signed ≠ (@SiweRequest.fields wrappedUrls oneResource).signed := by
  refine ⟨rfl, oneResource_canonical, rfl, fun same => ?_⟩
  exact absurd (layout_eq_of_signed same) (by decide)

theorem canonicalMessage_signed_iff_listed :
    (@SiweRequest.fields wrappedUrls twoResources).signed = (@SiweRequest.fields wrappedUrls oneResource).signed ↔
      (@SiweRequest.fields wrappedUrls twoResources).layout = (@SiweRequest.fields wrappedUrls oneResource).layout :=
  @canonicalMessage_signed_iff wrappedUrls epochDates _ _ epochDates_lawful epochDates_oneLine (listedFields_dated _)
    (listedFields_dated _) rfl oneResource_canonical rfl

end Bnbera.Auth
