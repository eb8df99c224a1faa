import Bnbera.Delimited
import Bnbera.JsonText.Scalars

/-! The reader of the event stream of an MCP response. -/

namespace Bnbera.Ingestion.McpEvents

open JsonText Delimited

/-- A `TextDecoder` of a stream: what it keeps of the bytes so far, and the text that a byte completes. -/
class TextDecoder where
  State : Type
  initial : State
  decode : State → UInt8 → State × Text

/-- A `protocolError`. -/
structure ProtocolError where
  code : String
  safeMessage : String
  nextAction : String
deriving DecidableEq

def contractInvalid (safeMessage nextAction : String) : ProtocolError :=
  ⟨"SERVICE_MCP_CONTRACT_INVALID", safeMessage, nextAction⟩

def emptyStream : ProtocolError := contractInvalid "The MCP stream is empty." "repair_mcp_transport"

def responseTooLarge : ProtocolError :=
  ⟨"SERVICE_RESPONSE_TOO_LARGE", "The MCP stream exceeded the response bound.", "reduce_probe_response"⟩

def invalidJson : ProtocolError := contractInvalid "The MCP stream contains invalid JSON." "repair_mcp_transport"

def noMatching : ProtocolError := contractInvalid "The MCP stream contains no matching response." "repair_mcp_transport"

def lf : CodeUnit := 0xa

def cr : CodeUnit := 0xd

/-! ### The structural bound -/

def foldCase (c : CodeUnit) : CodeUnit :=
  if 65 ≤ c.val ∧ c.val ≤ 90 then Fin.ofNat _ (c.val + 32)
  else if c.val = 0x17f then 0x73
  else if c.val = 0x212a then 0x6b
  else c

def credentialWords : List String :=
  ["privatekey", "private_key", "private-key", "secret", "password", "mnemonic", "seed phrase", "accesstoken", "access_token",
    "access-token", "apikey", "api_key", "api-key", "authorization", "credential"]

def isCredentialKey (key : Text) : Bool :=
  credentialWords.any fun word => (key.map foldCase).tails.any fun rest => (units word).isPrefixOf rest

def exceedsBound : ProtocolError := contractInvalid "The protocol schema exceeds the structural bound." "reduce_probe_response"

def unsupportedValue : ProtocolError :=
  contractInvalid "The protocol response has an unsupported value." "repair_service_contract"

section
variable {N : Type} [Numbers N]

def isBoundedScalar : Scalar N → Bool
  | .null => true
  | .bool _ => true
  | .num value => Numbers.isFinite value
  | .str text => text.length ≤ 10000

mutual

/-- `assertBoundedProtocolResponse`, with the nodes that were counted before and after. -/
def assertBoundedProtocolResponse (depth nodes : Nat) : JsonText.Tree (Scalar N) → Except ProtocolError Nat
  | .leaf value =>
    if 32 < depth ∨ 50000 < nodes then .error exceedsBound
    else if isBoundedScalar value then .ok (nodes + 1)
    else .error unsupportedValue
  | .arr items =>
    if 32 < depth ∨ 50000 < nodes then .error exceedsBound
    else if 1000 < items.length then
      .error (contractInvalid "The protocol array exceeds the structural bound." "reduce_probe_response")
    else assertBoundedItems (depth + 1) (nodes + 1) items
  | .obj fields =>
    if 32 < depth ∨ 50000 < nodes then .error exceedsBound else assertBoundedFields (depth + 1) (nodes + 1) fields

def assertBoundedItems (depth nodes : Nat) : List (JsonText.Tree (Scalar N)) → Except ProtocolError Nat
  | [] => .ok nodes
  | item :: items => do
    let nodes ← assertBoundedProtocolResponse depth nodes item
    assertBoundedItems depth nodes items

def assertBoundedFields (depth nodes : Nat) : List (Text × JsonText.Tree (Scalar N)) → Except ProtocolError Nat
  | [] => .ok nodes
  | (key, child) :: fields => do
    if isCredentialKey key then
      .error (contractInvalid "The protocol response contains credential-bearing fields." "repair_service_contract")
    else do
      let nodes ← assertBoundedProtocolResponse depth nodes child
      assertBoundedFields depth nodes fields

end

end

/-! ### Events -/

/-- `text.replace(/\r\n/gu, "\n")` -/
def replaceCrLf : Text → Text
  | [] => []
  | c :: rest => if c = cr ∧ rest.head? = some lf then replaceCrLf rest else c :: replaceCrLf rest

/-- `text.indexOf("\n\n")` -/
def indexOfBlank : Text → Option Nat
  | [] => none
  | c :: rest => if c = lf ∧ rest.head? = some lf then some 0 else (indexOfBlank rest).map (· + 1)

def dataOf (lines : List Text) : Text :=
  [lf].intercalate ((lines.filter fun line => (units "data:").isPrefixOf line).map fun line => (line.drop 5).dropWhile isWhite)

def eventData (event : Text) : Text := dataOf (event.splitOn lf)

abbrev Body (N : Type) := List (Text × JsonText.Tree (Scalar N))

def plainObject {N : Type} : JsonText.Tree (Scalar N) → Option (Body N)
  | .obj fields => some fields
  | _ => none

section
variable {N : Type} [Numbers N] [DecidableEq N]

/-- `body.id === id` -/
def hasId (id : N) (body : Body N) : Bool :=
  match body.lookup (units "id") with
  | some (.leaf (.num value)) => unsigned value = unsigned id
  | _ => false

def readData (id : N) (data : Text) : Option (Except ProtocolError (Body N)) :=
  if data = [] then none
  else match parse readScalar data with
  | none => some (.error invalidJson)
  | some value => match plainObject value with
    | none => none
    | some body =>
      if hasId id body then some ((assertBoundedProtocolResponse 0 0 (.obj body)).map fun _ => body) else none

inductive Drained (N : Type)
  | stopped (outcome : Except ProtocolError (Body N))
  | kept (text : Text)

theorem indexOfBlank_bound : ∀ {text : Text} {boundary : Nat}, indexOfBlank text = some boundary → boundary + 2 ≤ text.length
  | c :: rest, boundary, found => by
    unfold indexOfBlank at found
    split at found
    · next blank =>
      cases found
      cases rest with
      | nil => cases blank.2
      | cons d rest => simp
    · obtain ⟨later, earlier, rfl⟩ := Option.map_eq_some_iff.mp found
      have bound := indexOfBlank_bound earlier
      simp only [List.length_cons]
      omega

def drain (id : N) (text : Text) : Drained N :=
  match _found : indexOfBlank text with
  | none => .kept text
  | some boundary =>
    match readData id (eventData (text.take boundary)) with
    | some outcome => .stopped outcome
    | none => drain id (text.drop (boundary + 2))
termination_by text.length
decreasing_by
  have bound := indexOfBlank_bound _found
  simp only [List.length_drop]
  omega

variable [TextDecoder]

/-- `decoder.decode(chunk, { stream: true })` -/
def decodeChunk (state : TextDecoder.State) : List UInt8 → TextDecoder.State × Text
  | [] => (state, [])
  | byte :: bytes =>
    let (state, text) := TextDecoder.decode state byte
    let (state, more) := decodeChunk state bytes
    (state, text ++ more)

def readChunks (limit : Nat) (id : N) (size : Nat) (state : TextDecoder.State) (text : Text) :
    List (List UInt8) → Except ProtocolError (Body N)
  | [] => .error noMatching
  | chunk :: chunks =>
    if limit < size + chunk.length then .error responseTooLarge
    else
      let (state, more) := decodeChunk state chunk
      match drain id (replaceCrLf (text ++ more)) with
      | .stopped outcome => outcome
      | .kept text => readChunks limit id (size + chunk.length) state text chunks

/-- `readMcpEvent`, of the chunks of a body or of no body. -/
def readMcpEvent (body : Option (List (List UInt8))) (limit : Nat) (id : N) : Except ProtocolError (Body N) :=
  match body with
  | none => .error emptyStream
  | some chunks => readChunks limit id 0 TextDecoder.initial [] chunks

/-! ### The whole stream -/

def withoutCr (line : Text) : Text := if line.getLast? = some cr then line.dropLast else line

def completeLines (line : Text) : Text → List Text
  | [] => []
  | c :: rest => if c = lf then withoutCr line :: completeLines [] rest else completeLines (line ++ [c]) rest

def firstOutcome (id : N) (event : List Text) : List Text → Except ProtocolError (Body N)
  | [] => .error noMatching
  | [] :: lines => match readData id (dataOf event) with
    | some outcome => outcome
    | none => firstOutcome id [] lines
  | line :: lines => firstOutcome id (event ++ [line]) lines

def wholeStream (bytes : List UInt8) (id : N) : Except ProtocolError (Body N) :=
  firstOutcome id [] (completeLines [] (decodeChunk TextDecoder.initial bytes).2)

omit [Numbers N] [DecidableEq N] in
theorem decodeChunk_append (state : TextDecoder.State) (bytes more : List UInt8) :
    decodeChunk state (bytes ++ more) = ((decodeChunk (decodeChunk state bytes).1 more).1,
      (decodeChunk state bytes).2 ++ (decodeChunk (decodeChunk state bytes).1 more).2) := by
  induction bytes generalizing state with
  | nil => rfl
  | cons byte bytes ih =>
    simp only [List.cons_append, decodeChunk, ih, List.append_assoc]

omit [TextDecoder]

theorem drain_eq (id : N) (text : Text) : drain id text = match indexOfBlank text with
    | none => .kept text
    | some boundary => match readData id (eventData (text.take boundary)) with
      | some outcome => .stopped outcome
      | none => drain id (text.drop (boundary + 2)) := by
  rw [drain]
  split <;> rename_i found <;> rw [found]

def IsEvent (event : Text) : Prop := ∀ more, indexOfBlank (event ++ lf :: lf :: more) = some event.length

omit [Numbers N] [DecidableEq N] in
theorem indexOfBlank_event : ∀ {text : Text} {boundary : Nat}, indexOfBlank text = some boundary →
    ∃ event rest, text = event ++ lf :: lf :: rest ∧ boundary = event.length ∧ IsEvent event
  | c :: rest, boundary, found => by
    unfold indexOfBlank at found
    split at found
    · next blank =>
      cases found
      obtain ⟨rfl, next⟩ := blank
      cases rest with
      | nil => cases next
      | cons d rest =>
        cases next
        exact ⟨[], rest, rfl, rfl, fun more => if_pos ⟨rfl, rfl⟩⟩
    · next other =>
      obtain ⟨later, earlier, rfl⟩ := Option.map_eq_some_iff.mp found
      obtain ⟨event, rest, rfl, rfl, isEvent⟩ := indexOfBlank_event earlier
      refine ⟨c :: event, rest, rfl, rfl, fun more => ?_⟩
      have still : ¬(c = lf ∧ (event ++ lf :: lf :: more).head? = some lf) := by
        cases event <;> exact other
      rw [List.cons_append, indexOfBlank, if_neg still, isEvent more]
      rfl

theorem drain_event {id : N} {event : Text} (isEvent : IsEvent event) (more : Text) :
    drain id (event ++ lf :: lf :: more) = match readData id (eventData event) with
      | some outcome => .stopped outcome
      | none => drain id more := by
  rw [drain_eq, isEvent more]
  dsimp only
  rw [List.take_left, List.drop_length_add_append]
  rfl

omit [Numbers N] [DecidableEq N] in
theorem getLast?_event (event : Text) {read : Text} (last : ∀ c ∈ read.getLast?, c = lf) :
    ∀ c ∈ (event ++ lf :: lf :: read).getLast?, c = lf := by
  cases read with
  | nil => simp
  | cons d rest => simpa using last

omit [Numbers N] [DecidableEq N] in
theorem getLast?_append {read next : Text} (last : ∀ c ∈ read.getLast?, c = lf) (last' : ∀ c ∈ next.getLast?, c = lf) :
    ∀ c ∈ (read ++ next).getLast?, c = lf := by
  cases next with
  | nil => simpa using last
  | cons d rest => simpa using last'

theorem drain_kept {id : N} {text kept : Text} (drained : drain id text = .kept kept) :
    ∃ read, text = read ++ kept ∧ (∀ c ∈ read.getLast?, c = lf) ∧ indexOfBlank kept = none ∧
      ∀ more, drain id (read ++ more) = drain id more := by
  induction size : text.length using Nat.strong_induction_on generalizing text with
  | h size ih =>
    cases found : indexOfBlank text with
    | none =>
      rw [drain_eq, found] at drained
      cases drained
      exact ⟨[], rfl, nofun, found, fun _ => rfl⟩
    | some boundary =>
      obtain ⟨event, rest, rfl, rfl, isEvent⟩ := indexOfBlank_event found
      rw [drain_event isEvent] at drained
      cases ended : readData id (eventData event) with
      | some outcome =>
        rw [ended] at drained
        cases drained
      | none =>
        rw [ended] at drained
        obtain ⟨read, rfl, last, unread, again⟩ := ih rest.length (by subst size; simp; omega) drained rfl
        refine ⟨event ++ lf :: lf :: read, by simp, getLast?_event event last, unread, fun more => ?_⟩
        rw [List.append_assoc, List.cons_append, List.cons_append, drain_event isEvent, ended]
        exact again more

theorem drain_stopped {id : N} {text : Text} {outcome : Except ProtocolError (Body N)}
    (drained : drain id text = .stopped outcome) :
    ∃ read rest, text = read ++ rest ∧ (∀ c ∈ read.getLast?, c = lf) ∧ ∀ more, drain id (read ++ more) = .stopped outcome := by
  induction size : text.length using Nat.strong_induction_on generalizing text with
  | h size ih =>
    cases found : indexOfBlank text with
    | none =>
      rw [drain_eq, found] at drained
      cases drained
    | some boundary =>
      obtain ⟨event, rest, rfl, rfl, isEvent⟩ := indexOfBlank_event found
      rw [drain_event isEvent] at drained
      cases ended : readData id (eventData event) with
      | some ending =>
        rw [ended] at drained
        cases drained
        refine ⟨event ++ [lf, lf], rest, by simp, by simp, fun more => ?_⟩
        rw [List.append_assoc, List.cons_append, List.cons_append, List.nil_append, drain_event isEvent, ended]
      | none =>
        rw [ended] at drained
        obtain ⟨read, unread, rfl, last, again⟩ := ih rest.length (by subst size; simp; omega) drained rfl
        refine ⟨event ++ lf :: lf :: read, unread, by simp, getLast?_event event last, fun more => ?_⟩
        rw [List.append_assoc, List.cons_append, List.cons_append, drain_event isEvent, ended]
        exact again more

/-! ### Line ends -/

omit [Numbers N] [DecidableEq N] in
theorem replaceCrLf_length (text : Text) : (replaceCrLf text).length ≤ text.length := by
  induction text with
  | nil => rfl
  | cons c rest ih =>
    unfold replaceCrLf
    split
    · exact ih.trans (Nat.le_succ _)
    · exact Nat.succ_le_succ ih

omit [Numbers N] [DecidableEq N] in
theorem replaceCrLf_drop {c : CodeUnit} {rest : Text} (ends : c = cr ∧ rest.head? = some lf) :
    replaceCrLf (c :: rest) = replaceCrLf rest := if_pos ends

omit [Numbers N] [DecidableEq N] in
theorem replaceCrLf_keep {c : CodeUnit} {rest : Text} (other : ¬(c = cr ∧ rest.head? = some lf)) :
    replaceCrLf (c :: rest) = c :: replaceCrLf rest := if_neg other

omit [Numbers N] [DecidableEq N] in
theorem replaceCrLf_append {text : Text} (more : Text) (cut : ∀ c ∈ text.getLast?, c ≠ cr) :
    replaceCrLf (text ++ more) = replaceCrLf text ++ replaceCrLf more := by
  induction text with
  | nil => rfl
  | cons c rest ih =>
    cases rest with
    | nil =>
      have plain : c ≠ cr := cut c rfl
      rw [List.cons_append, replaceCrLf, if_neg fun both => plain both.1, replaceCrLf, if_neg fun both => plain both.1]
      rfl
    | cons d rest =>
      rw [List.cons_append, replaceCrLf, replaceCrLf, ih cut]
      by_cases ends : c = cr ∧ d = lf
      · obtain ⟨rfl, rfl⟩ := ends
        rfl
      · have still : ¬(c = cr ∧ some d = some lf) := fun both => ends ⟨both.1, Option.some.inj both.2⟩
        rw [List.cons_append, List.head?_cons, List.head?_cons, if_neg still, if_neg still]
        rfl

def PlainLineEnds (text : Text) : Prop := ¬[cr, cr, lf] <:+: text

omit [Numbers N] [DecidableEq N] in
theorem PlainLineEnds.tail {c : CodeUnit} {rest : Text} (plain : PlainLineEnds (c :: rest)) : PlainLineEnds rest :=
  fun inside => plain (inside.trans (List.suffix_cons c rest).isInfix)

omit [Numbers N] [DecidableEq N] in
theorem PlainLineEnds.left {text : Text} (more : Text) (plain : PlainLineEnds (text ++ more)) : PlainLineEnds text :=
  fun inside => plain (inside.trans (List.prefix_append text more).isInfix)

omit [Numbers N] [DecidableEq N] in
/-- Line ends that are replaced before a text goes on are replaced as in the whole. -/
theorem replaceCrLf_twice {text : Text} (more : Text) (plain : PlainLineEnds (text ++ more)) :
    replaceCrLf (replaceCrLf text ++ more) = replaceCrLf (text ++ more) := by
  induction text with
  | nil => rfl
  | cons c rest ih =>
    have again := ih plain.tail
    rw [List.cons_append]
    by_cases ends : c = cr ∧ rest.head? = some lf
    · have whole : c = cr ∧ (rest ++ more).head? = some lf := by
        cases rest with
        | nil => cases ends.2
        | cons d rest => exact ends
      rw [replaceCrLf_drop ends, again, replaceCrLf_drop whole]
    · have heads : c = cr → ((replaceCrLf rest ++ more).head? = some lf ↔ (rest ++ more).head? = some lf) := by
        rintro rfl
        cases rest with
        | nil => rfl
        | cons d rest =>
          by_cases twice : d = cr ∧ rest.head? = some lf
          · -- here a CR stands before a CRLF
            obtain ⟨rfl, next⟩ := twice
            obtain ⟨rest, rfl⟩ := List.head?_eq_some_iff.mp next
            exact absurd ⟨[], rest ++ more, by simp⟩ plain
          · rw [replaceCrLf_keep twice]
            rfl
      rw [replaceCrLf_keep ends, List.cons_append]
      by_cases later : c = cr ∧ (rest ++ more).head? = some lf
      · rw [replaceCrLf_drop later, replaceCrLf_drop ⟨later.1, (heads later.1).mpr later.2⟩, again]
      · rw [replaceCrLf_keep later, replaceCrLf_keep fun both => later ⟨both.1, (heads both.1).mp both.2⟩, again]

theorem replaceCrLf_read {text read rest : Text} (more : Text) (plain : PlainLineEnds (text ++ more))
    (replaced : replaceCrLf text = read ++ rest) (last : ∀ c ∈ read.getLast?, c = lf) :
    replaceCrLf (text ++ more) = read ++ replaceCrLf (rest ++ more) := by
  have cut : ∀ c ∈ read.getLast?, c ≠ cr := fun c member => last c member ▸ by decide
  have alone : PlainLineEnds (text ++ []) := (List.append_nil text).symm ▸ plain.left more
  have once : replaceCrLf read ++ replaceCrLf rest = read ++ rest := by
    rw [← replaceCrLf_append rest cut, ← replaced]
    simpa using replaceCrLf_twice [] alone
  have size : (replaceCrLf read).length = read.length := by
    have sizes := congrArg List.length once
    simp only [List.length_append] at sizes
    have := replaceCrLf_length read
    have := replaceCrLf_length rest
    omega
  rw [← replaceCrLf_twice more plain, replaced, List.append_assoc, replaceCrLf_append _ cut, (List.append_inj once size).1]

def Drained.ending : Drained N → Except ProtocolError (Body N)
  | .stopped outcome => outcome
  | .kept _ => .error noMatching

variable [TextDecoder]

/-- The chunks are read as the text that they hold as a whole. -/
theorem readChunks_whole {limit : Nat} {id : N} : ∀ {chunks : List (List UInt8)} {size : Nat} {state : TextDecoder.State}
    {text read kept : Text}, size + chunks.flatten.length ≤ limit → PlainLineEnds
      (text ++ (decodeChunk state chunks.flatten).2) →
    replaceCrLf text = read ++ kept → (∀ c ∈ read.getLast?, c = lf) → indexOfBlank kept = none →
    (∀ more, drain id (read ++ more) = drain id more) →
    readChunks limit id size state kept chunks =
      (drain id (replaceCrLf (text ++ (decodeChunk state chunks.flatten).2))).ending
  | [], size, state, text, read, kept, _, _, replaced, _, unread, again => by
    have whole : text ++ (decodeChunk state [].flatten).2 = text := List.append_nil text
    rw [whole, replaced, again, drain_eq, unread]
    rfl
  | chunk :: chunks, size, state, text, read, kept, small, plain, replaced, last, unread, again => by
    rw [List.flatten_cons, List.length_append] at small
    rw [List.flatten_cons, decodeChunk_append, ← List.append_assoc] at plain ⊢
    have within : ¬limit < size + chunk.length := by omega
    have once := replaceCrLf_read (decodeChunk state chunk).2 (plain.left _) replaced last
    unfold readChunks
    rw [if_neg within]
    dsimp only
    cases drained : drain id (replaceCrLf (kept ++ (decodeChunk state chunk).2)) with
    | stopped outcome =>
      obtain ⟨next, rest, same, last', stops⟩ := drain_stopped drained
      rw [same, ← List.append_assoc] at once
      rw [replaceCrLf_read _ plain once (getLast?_append last last'), List.append_assoc, again, stops]
      rfl
    | kept left =>
      obtain ⟨next, same, last', unread', again'⟩ := drain_kept drained
      rw [same, ← List.append_assoc] at once
      refine readChunks_whole (by omega) plain once (getLast?_append last last') unread' fun more => ?_
      rw [List.append_assoc, again, again']

/-! ### Lines -/

omit [Numbers N] [DecidableEq N] [TextDecoder] in
theorem withoutCr_cons (c d : CodeUnit) (line : Text) : withoutCr (c :: d :: line) = c :: withoutCr (d :: line) := by
  unfold withoutCr
  rw [List.getLast?_cons_cons]
  split <;> rfl

omit [Numbers N] [DecidableEq N] [TextDecoder] in
theorem replaceCrLf_line {line : Text} (rest : Text) (whole : lf ∉ line) :
    replaceCrLf (line ++ lf :: rest) = withoutCr line ++ lf :: replaceCrLf rest := by
  induction line with
  | nil => exact replaceCrLf_keep nofun
  | cons c line ih =>
    have later := ih fun inside => whole (List.mem_cons_of_mem _ inside)
    rw [List.cons_append]
    cases line with
    | nil =>
      by_cases back : c = cr
      · subst back
        rw [replaceCrLf_drop ⟨rfl, rfl⟩, later]
        rfl
      · have same : withoutCr [c] = [c] := if_neg fun last => back (Option.some.inj last)
        rw [replaceCrLf_keep fun both => back both.1, later, same]
        rfl
    | cons d line =>
      have next : ¬(c = cr ∧ (d :: line ++ lf :: rest).head? = some lf) := by
        rintro ⟨_, same⟩
        exact whole (List.mem_cons_of_mem _ (Option.some.inj same ▸ List.mem_cons_self))
      rw [replaceCrLf_keep next, later, withoutCr_cons, List.cons_append]

omit [Numbers N] [DecidableEq N] [TextDecoder] in
theorem replaceCrLf_open {line : Text} (whole : lf ∉ line) : replaceCrLf line = line := by
  induction line with
  | nil => rfl
  | cons c line ih =>
    have next : ¬(c = cr ∧ line.head? = some lf) := fun both => whole (List.mem_cons_of_mem _ (List.mem_of_head? both.2))
    rw [replaceCrLf_keep next, ih fun inside => whole (List.mem_cons_of_mem _ inside)]

omit [Numbers N] [DecidableEq N] [TextDecoder] in
theorem replaceCrLf_lines : ∀ {line : Text} (text : Text), lf ∉ line → ∃ rest, lf ∉ rest ∧
    replaceCrLf (line ++ text) = terminated lf (completeLines line text) ++ rest ∧ ∀ found ∈ completeLines line text, lf ∉ found
  | line, [], whole => ⟨line, whole, by rw [List.append_nil, replaceCrLf_open whole]; rfl, nofun⟩
  | line, c :: text, whole => by
    unfold completeLines
    by_cases ends : c = lf
    · subst ends
      obtain ⟨rest, free, same, lines⟩ := replaceCrLf_lines text List.not_mem_nil
      rw [if_pos rfl, replaceCrLf_line text whole]
      refine ⟨rest, free, ?_, List.forall_mem_cons.mpr ⟨?_, lines⟩⟩
      · rw [terminated_cons, List.append_assoc, List.cons_append, ← same, List.nil_append]
      · unfold withoutCr
        split
        · exact fun inside => whole (List.dropLast_subset _ inside)
        · exact whole
    · have longer : lf ∉ line ++ [c] := by
        intro inside
        rcases List.mem_append.mp inside with old | new
        · exact whole old
        · exact ends (List.mem_singleton.mp new).symm
      obtain ⟨rest, free, same, lines⟩ := replaceCrLf_lines text longer
      rw [if_neg ends]
      exact ⟨rest, free, by rw [← same, List.append_assoc]; rfl, lines⟩

omit [Numbers N] [DecidableEq N] [TextDecoder] in
theorem indexOfBlank_line {line : Text} (rest : Text) (whole : lf ∉ line) :
    indexOfBlank (line ++ lf :: rest) =
      if rest.head? = some lf then some line.length else (indexOfBlank rest).map (· + (line.length + 1)) := by
  induction line with
  | nil =>
    rw [List.nil_append, indexOfBlank]
    by_cases blank : rest.head? = some lf
    · rw [if_pos ⟨rfl, blank⟩, if_pos blank]
      rfl
    · rw [if_neg fun both => blank both.2, if_neg blank]
      rfl
  | cons c line ih =>
    have other : ¬(c = lf ∧ (line ++ lf :: rest).head? = some lf) := fun both => whole (both.1 ▸ List.mem_cons_self)
    rw [List.cons_append, indexOfBlank, if_neg other, ih fun inside => whole (List.mem_cons_of_mem _ inside)]
    split
    · rfl
    · rw [Option.map_map]
      rfl

omit [Numbers N] [DecidableEq N] [TextDecoder] in
theorem indexOfBlank_open {line : Text} (whole : lf ∉ line) : indexOfBlank line = none := by
  induction line with
  | nil => rfl
  | cons c line ih =>
    have other : ¬(c = lf ∧ line.head? = some lf) := fun both => whole (both.1 ▸ List.mem_cons_self)
    rw [indexOfBlank, if_neg other, ih fun inside => whole (List.mem_cons_of_mem _ inside)]
    rfl

omit [Numbers N] [DecidableEq N] [TextDecoder] in
theorem head?_line {line : Text} (rest : Text) (whole : lf ∉ line) (shown : line ≠ []) : (line ++ rest).head? ≠ some lf := by
  cases line with
  | nil => exact absurd rfl shown
  | cons c line => exact fun same => whole (Option.some.inj same ▸ List.mem_cons_self)

omit [Numbers N] [DecidableEq N] [TextDecoder] in
theorem intercalate_starts (first : Text) (lines : List Text) : ∃ rest, [lf].intercalate (first :: lines) = first ++ rest := by
  cases lines with
  | nil => exact ⟨[], by rw [List.intercalate_singleton, List.append_nil]⟩
  | cons second lines => exact ⟨_, List.intercalate_cons_cons.trans (List.append_assoc _ _ _)⟩

omit [Numbers N] [DecidableEq N] [TextDecoder] in
theorem isEvent_lines {first : Text} {lines : List Text} (whole : ∀ line ∈ first :: lines, lf ∉ line)
    (shown : ∀ line ∈ lines, line ≠ []) : IsEvent ([lf].intercalate (first :: lines)) := by
  intro more
  induction lines generalizing first with
  | nil =>
    rw [List.intercalate_singleton, indexOfBlank_line _ (whole first List.mem_cons_self)]
    exact if_pos rfl
  | cons second lines ih =>
    obtain ⟨free, whole'⟩ := List.forall_mem_cons.mp whole
    obtain ⟨present, shown'⟩ := List.forall_mem_cons.mp shown
    rw [List.intercalate_cons_cons, List.append_assoc, List.append_assoc, List.singleton_append, indexOfBlank_line _ free,
      if_neg, ih whole' shown']
    · simp only [Option.map_some, List.length_append, List.length_cons, List.length_nil]
      congr 1
      omega
    · obtain ⟨rest, starts⟩ := intercalate_starts second lines
      rw [starts, List.append_assoc]
      exact head?_line _ (whole' second List.mem_cons_self) present

omit [Numbers N] [DecidableEq N] [TextDecoder] in
theorem indexOfBlank_lines {first rest : Text} {lines : List Text} (whole : ∀ line ∈ first :: lines, lf ∉ line)
    (shown : ∀ line ∈ lines, line ≠ []) (free : lf ∉ rest) : indexOfBlank (terminated lf (first :: lines) ++ rest) = none := by
  induction lines generalizing first with
  | nil =>
    rw [terminated_cons, terminated_nil, List.append_assoc, List.singleton_append,
      indexOfBlank_line _ (whole first List.mem_cons_self), if_neg]
    · exact congrArg _ (indexOfBlank_open free)
    · exact fun same => free (List.mem_of_head? same)
  | cons second lines ih =>
    obtain ⟨free', whole'⟩ := List.forall_mem_cons.mp whole
    obtain ⟨present, shown'⟩ := List.forall_mem_cons.mp shown
    rw [terminated_cons, List.append_assoc, List.cons_append, indexOfBlank_line _ free', if_neg, ih whole' shown']
    · rfl
    · rw [terminated_cons, List.append_assoc]
      exact head?_line _ (whole' second List.mem_cons_self) present

omit [TextDecoder] in
theorem firstOutcome_cons {id : N} {event lines : List Text} {line : Text} (shown : line ≠ []) :
    firstOutcome id event (line :: lines) = firstOutcome id (event ++ [line]) lines := by
  cases line with
  | nil => exact absurd rfl shown
  | cons c line => rfl

omit [TextDecoder] in
theorem firstOutcome_shown {id : N} {event lines rest : List Text} (shown : ∀ line ∈ lines, line ≠ []) :
    firstOutcome id event (lines ++ rest) = firstOutcome id (event ++ lines) rest := by
  induction lines generalizing event with
  | nil => rw [List.nil_append, List.append_nil]
  | cons line lines ih =>
    obtain ⟨present, shown'⟩ := List.forall_mem_cons.mp shown
    rw [List.cons_append, firstOutcome_cons present, ih shown', List.append_assoc, List.singleton_append]

omit [TextDecoder] in
theorem firstOutcome_first {id : N} {first : Text} {lines rest : List Text} (shown : ∀ line ∈ lines, line ≠ []) :
    firstOutcome id [] (first :: lines ++ [] :: rest) = match readData id (dataOf (first :: lines)) with
      | some outcome => outcome
      | none => firstOutcome id [] rest := by
  by_cases blank : first = []
  · subst blank
    rw [List.cons_append, firstOutcome]
    have nothing : readData id (dataOf []) = none := rfl
    rw [nothing]
    dsimp only
    rw [firstOutcome_shown shown]
    rfl
  · rw [List.cons_append, firstOutcome_cons blank, firstOutcome_shown shown]
    rfl

omit [TextDecoder] in
theorem drain_lines {id : N} {rest : Text} (free : lf ∉ rest) {lines : List Text} (whole : ∀ line ∈ lines, lf ∉ line) :
    (drain id (terminated lf lines ++ rest)).ending = firstOutcome id [] lines := by
  induction size : lines.length using Nat.strong_induction_on generalizing lines with
  | h size ih =>
    cases lines with
    | nil =>
      rw [terminated_nil, List.nil_append, drain_eq, indexOfBlank_open free]
      rfl
    | cons first lines =>
      by_cases blank : [] ∈ lines
      · obtain ⟨event, later, rfl, absent⟩ := List.eq_append_cons_of_mem blank
        have shown : ∀ line ∈ event, line ≠ [] := fun line member same => absent (same ▸ member)
        rw [← List.cons_append] at whole ⊢
        obtain ⟨whole', later'⟩ := List.forall_mem_append.mp whole
        have text : terminated lf (first :: event ++ [] :: later) ++ rest =
            [lf].intercalate (first :: event) ++ lf :: lf :: (terminated lf later ++ rest) := by
          rw [terminated_append, ← terminated_eq_intercalate, terminated_cons]
          simp
        have data : eventData ([lf].intercalate (first :: event)) = dataOf (first :: event) :=
          congrArg dataOf (List.splitOn_intercalate lf whole' (List.cons_ne_nil _ _))
        rw [text, drain_event (isEvent_lines whole' shown), data, firstOutcome_first shown]
        cases readData id (dataOf (first :: event)) with
        | some outcome => rfl
        | none => exact ih later.length (by subst size; simp; omega) (fun line member => later' line
          (List.mem_cons_of_mem _ member)) rfl
      · have shown : ∀ line ∈ lines, line ≠ [] := fun line member same => blank (same ▸ member)
        rw [drain_eq, indexOfBlank_lines whole shown free, ← List.append_nil (first :: lines)]
        by_cases start : first = []
        · subst start
          rw [List.cons_append, firstOutcome]
          have nothing : readData id (dataOf []) = none := rfl
          rw [nothing]
          dsimp only
          rw [firstOutcome_shown shown]
          rfl
        · rw [List.cons_append, firstOutcome_cons start, firstOutcome_shown shown]
          rfl

omit [TextDecoder] in
theorem drain_whole (id : N) (text : Text) : (drain id (replaceCrLf text)).ending = firstOutcome id []
    (completeLines [] text) := by
  obtain ⟨rest, free, same, whole⟩ := replaceCrLf_lines text List.not_mem_nil
  rw [List.nil_append] at same
  rw [same, drain_lines free whole]

end

section

@[reducible] def plainDecoder : TextDecoder where
  State := Unit
  initial := ()
  decode _ byte := ((), [Fin.ofNat _ byte.toNat])

attribute [local instance] plainDecoder

def bytesOf (text : String) : List UInt8 := text.toList.map fun c => UInt8.ofNat c.toNat

def sampleChunks : List (List UInt8) := [bytesOf "data: \x7b\"id\":1\x7d\r", bytesOf "\n\r\n"]

def brokenChunks : List (List UInt8) := [bytesOf "data: \x7b\"id\":1,\n\r\r\n", bytesOf "data: \"result\":\x7b\x7d\x7d\n\n"]

end

end Bnbera.Ingestion.McpEvents
