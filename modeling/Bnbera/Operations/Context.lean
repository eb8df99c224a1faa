import Bnbera.Validation

namespace Bnbera

inductive SdkAction
  | hire
  | submit
  | settle
  | dispute
  | claimRefund
deriving DecidableEq

def SdkAction.text : SdkAction → String
  | hire => "hire"
  | submit => "submit"
  | settle => "settle"
  | dispute => "dispute"
  | claimRefund => "claim_refund"

inductive ExpectedState
  | funded
  | submitted
  | completed
  | rejected
  | expired
deriving DecidableEq

def ExpectedState.text : ExpectedState → String
  | funded => "FUNDED"
  | submitted => "SUBMITTED"
  | completed => "COMPLETED"
  | rejected => "REJECTED"
  | expired => "EXPIRED"

structure OperationExpectation where
  providerAddress : Option Address
  amountAtomic : Option DecimalUint
  digest : Option Hash
  expectedState : Option ExpectedState

/-- The public, replay-safe context of an operation. An absent field and a field
that is present but null are told apart where the source tells them apart; the
field `to` is `target` here. -/
structure OperationContext where
  signerAddress : Address
  sdkAction : Option SdkAction
  parameters : Option (List (String × Json))
  callsId : Option (Option HexData)
  dispatchClaimed : Option Bool
  target : Option Address
  data : Option HexData
  valueAtomic : Option DecimalUint
  expectation : Option (Option OperationExpectation)

mutual

/-- `String(value)` -/
def stringOf : Json → String
  | .null => "null"
  | .bool value => if value then "true" else "false"
  | .num text => text
  | .str text => text
  | .arr items => ",".intercalate (stringsOf items)
  | .obj _ => "[object Object]"

def stringsOf : List Json → List String
  | [] => []
  | .null :: rest => "" :: stringsOf rest
  | item :: rest => stringOf item :: stringsOf rest

end

def normalizeHash (value label : String) : Except Failure Hash :=
  match TextFormat.normalize _ value with
  | some hash => .ok hash
  | none => throwCommerce .onchainMismatch ("The persisted " ++ label ++ " is invalid.")

def assertHex (value : Json) (label : String) : Except Failure HexData :=
  match value with
  | .str text =>
    match TextFormat.normalize _ text with
    | some data => .ok data
    | none => throwCommerce .onchainMismatch ("The persisted " ++ label ++ " is invalid.")
  | _ => throwCommerce .onchainMismatch ("The persisted " ++ label ++ " is invalid.")

/-- A field that may be absent: `if (row.field !== undefined) …`. -/
def whenPresent {α : Type} (read : Json → Except Failure α) : Option Json → Except Failure (Option α)
  | none => .ok none
  | some value => (read value).map some

def whenNotNull {α : Type} (read : Json → Except Failure α) : Option Json → Except Failure (Option (Option α))
  | none => .ok none
  | some .null => .ok (some none)
  | some value => (read value).map fun parsed => some (some parsed)

def readDecimal (message : String) (value : Json) : Except Failure DecimalUint :=
  match value with
  | .str text =>
    match check isDecimal text with
    | some number => .ok number
    | none => throwCommerce .onchainMismatch message
  | _ => throwCommerce .onchainMismatch message

def readSigner : Option Json → Except Failure Address
  | some (.str text) => normalizeAddress text "operation signer"
  | _ => throwCommerce .onchainMismatch "The persisted operation context has no signer address."

def readName {α : Type} (names : List (String × α)) (message : String) (value : Json) : Except Failure α :=
  match value with
  | .str text =>
    match names.lookup text with
    | some found => .ok found
    | none => throwCommerce .onchainMismatch message
  | _ => throwCommerce .onchainMismatch message

def readSdkAction : Json → Except Failure SdkAction :=
  readName [("hire", .hire), ("submit", .submit), ("settle", .settle), ("dispute", .dispute),
    ("claim_refund", .claimRefund)] "The persisted SDK operation action is invalid."

def readExpectedState : Json → Except Failure ExpectedState :=
  readName [("FUNDED", .funded), ("SUBMITTED", .submitted), ("COMPLETED", .completed), ("REJECTED", .rejected),
    ("EXPIRED", .expired)] "The persisted operation expected state is invalid."

def readParameters : Json → Except Failure (List (String × Json))
  | .obj fields => .ok fields
  | _ => throwCommerce .onchainMismatch "The persisted operation parameters are invalid."

def readDispatchClaimed : Json → Except Failure Bool
  | .bool value => .ok value
  | _ => throwCommerce .onchainMismatch "The persisted operation dispatch claim is invalid."

def readExpectation : Json → Except Failure OperationExpectation
  | .obj source => do
    let providerAddress ← whenPresent (fun value => normalizeAddress (stringOf value) "operation provider")
      (fieldOf source "providerAddress")
    let amountAtomic ← whenPresent (readDecimal "The persisted operation amount is invalid.")
      (fieldOf source "amountAtomic")
    let digest ← whenPresent (fun value => normalizeHash (stringOf value) "operation digest")
      (fieldOf source "digest")
    let expectedState ← whenPresent readExpectedState (fieldOf source "expectedState")
    return { providerAddress, amountAtomic, digest, expectedState }
  | _ => throwCommerce .onchainMismatch "The persisted operation expectation is invalid."

/-- `parseContext` on the fields of an object. -/
def parseContextFields (row : List (String × Json)) : Except Failure OperationContext := do
  assertPublicPayloadSafe "operationContext" (.obj row)
  let signerAddress ← readSigner (fieldOf row "signerAddress")
  let sdkAction ← whenPresent readSdkAction (fieldOf row "sdkAction")
  let parameters ← whenPresent readParameters (fieldOf row "parameters")
  let callsId ← whenNotNull (fun value => assertHex value "relay calls ID") (fieldOf row "callsId")
  let dispatchClaimed ← whenPresent readDispatchClaimed (fieldOf row "dispatchClaimed")
  let target ← whenPresent (fun value => normalizeAddress (stringOf value) "operation target") (fieldOf row "to")
  let data ← whenPresent (fun value => assertHex value "operation calldata") (fieldOf row "data")
  let valueAtomic ← whenPresent (readDecimal "The persisted operation value is invalid.") (fieldOf row "valueAtomic")
  let expectation ← whenNotNull readExpectation (fieldOf row "expectation")
  return { signerAddress, sdkAction, parameters, callsId, dispatchClaimed, target, data, valueAtomic, expectation }

def parseContext : Option Json → Except Failure (Option OperationContext)
  | none => .ok none
  | some .null => .ok none
  | some (.obj row) => (parseContextFields row).map some
  | some _ => throwCommerce .onchainMismatch "The persisted operation context is invalid."

/-- A field of a serialized object; `JSON.stringify` leaves out what is `undefined`. -/
def entry (key : String) : Option Json → List (String × Json)
  | none => []
  | some value => [(key, value)]

def nullable {α : Type} (write : α → Json) : Option α → Json
  | none => .null
  | some value => write value

def OperationExpectation.fields (expectation : OperationExpectation) : List (String × Json) :=
  entry "providerAddress" (expectation.providerAddress.map fun address => .str address.text) ++
  entry "amountAtomic" (expectation.amountAtomic.map fun amount => .str amount.text) ++
  entry "digest" (expectation.digest.map fun digest => .str digest.text) ++
  entry "expectedState" (expectation.expectedState.map fun state => .str state.text)

/-- The context as the driver writes it into the `jsonb` column. -/
def OperationContext.fields (context : OperationContext) : List (String × Json) :=
  entry "signerAddress" (some (.str context.signerAddress.text)) ++
  entry "sdkAction" (context.sdkAction.map fun action => .str action.text) ++
  entry "parameters" (context.parameters.map .obj) ++
  entry "callsId" (context.callsId.map (nullable fun data => .str data.text)) ++
  entry "dispatchClaimed" (context.dispatchClaimed.map .bool) ++
  entry "to" (context.target.map fun address => .str address.text) ++
  entry "data" (context.data.map fun data => .str data.text) ++
  entry "valueAtomic" (context.valueAtomic.map fun value => .str value.text) ++
  entry "expectation" (context.expectation.map (nullable fun expectation => .obj expectation.fields))

def OperationContext.json (context : OperationContext) : Json := .obj context.fields

theorem parseContextFields_eq_ok {row : List (String × Json)} {context : OperationContext} :
    parseContextFields row = .ok context ↔
      assertPublicPayloadSafe "operationContext" (.obj row) = .ok () ∧
      readSigner (fieldOf row "signerAddress") = .ok context.signerAddress ∧
      whenPresent readSdkAction (fieldOf row "sdkAction") = .ok context.sdkAction ∧
      whenPresent readParameters (fieldOf row "parameters") = .ok context.parameters ∧
      whenNotNull (fun value => assertHex value "relay calls ID") (fieldOf row "callsId") = .ok context.callsId ∧
      whenPresent readDispatchClaimed (fieldOf row "dispatchClaimed") = .ok context.dispatchClaimed ∧
      whenPresent (fun value => normalizeAddress (stringOf value) "operation target") (fieldOf row "to") =
        .ok context.target ∧
      whenPresent (fun value => assertHex value "operation calldata") (fieldOf row "data") = .ok context.data ∧
      whenPresent (readDecimal "The persisted operation value is invalid.") (fieldOf row "valueAtomic") =
        .ok context.valueAtomic ∧
      whenNotNull readExpectation (fieldOf row "expectation") = .ok context.expectation := by
  constructor
  · intro parsed
    simp only [parseContextFields, bind_eq_ok] at parsed
    obtain ⟨_, safe, signer, h1, action, h2, parameters, h3, callsId, h4, claimed, h5, target, h6, data, h7,
      value, h8, expectation, h9, done⟩ := parsed
    cases done
    exact ⟨safe, h1, h2, h3, h4, h5, h6, h7, h8, h9⟩
  · rintro ⟨safe, h1, h2, h3, h4, h5, h6, h7, h8, h9⟩
    simp only [parseContextFields, safe, h1, h2, h3, h4, h5, h6, h7, h8, h9]
    rfl

theorem fieldOf_entry_append {key k : String} {value : Option Json} {rest : List (String × Json)} :
    fieldOf (entry k value ++ rest) key = if k = key then value.or (fieldOf rest key) else fieldOf rest key := by
  cases value with
  | none => simp only [entry, List.nil_append, Option.none_or, ite_self]
  | some value => simp only [entry, List.singleton_append, fieldOf_cons, Option.some_or]

theorem fieldOf_entry {key k : String} {value : Option Json} :
    fieldOf (entry k value) key = if k = key then value else none := by
  cases value with
  | none => simp only [entry, fieldOf_nil, ite_self]
  | some value => simp only [entry, fieldOf_cons, fieldOf_nil]

theorem whenPresent_map {α : Type} {read : Json → Except Failure α} {write : α → Json}
    (roundTrip : ∀ value, read (write value) = .ok value) (value : Option α) :
    whenPresent read (value.map write) = .ok value := by
  cases value with
  | none => rfl
  | some value => simp only [Option.map_some, whenPresent, roundTrip, Except.map]

theorem whenNotNull_map {α : Type} {read : Json → Except Failure α} {write : α → Json}
    (roundTrip : ∀ value, read (write value) = .ok value) (proper : ∀ value, write value ≠ .null)
    (value : Option (Option α)) : whenNotNull read (value.map (nullable write)) = .ok value := by
  match value with
  | none => rfl
  | some none => rfl
  | some (some value) =>
    have read := roundTrip value
    simp only [Option.map_some, nullable]
    cases written : write value with
    | null => exact absurd written (proper value)
    | _ =>
      rw [written] at read
      simp only [whenNotNull, read, Except.map]

theorem readSdkAction_text (action : SdkAction) : readSdkAction (.str action.text) = .ok action := by
  cases action <;> rfl

theorem readExpectedState_text (state : ExpectedState) : readExpectedState (.str state.text) = .ok state := by
  cases state <;> rfl

theorem readParameters_obj (fields : List (String × Json)) : readParameters (.obj fields) = .ok fields := rfl

theorem readDispatchClaimed_bool (claimed : Bool) : readDispatchClaimed (.bool claimed) = .ok claimed := rfl

theorem assertHex_text (label : String) (data : HexData) : assertHex (.str data.text) label = .ok data := by
  simp only [assertHex, TextFormat.normalize_text]

theorem normalizeAddress_text (label : String) (address : Address) :
    normalizeAddress address.text label = .ok address := by
  simp only [normalizeAddress, TextFormat.normalize_text]

theorem normalizeHash_text (label : String) (hash : Hash) : normalizeHash hash.text label = .ok hash := by
  simp only [normalizeHash, TextFormat.normalize_text]

theorem readDecimal_text (message : String) (value : DecimalUint) :
    readDecimal message (.str value.text) = .ok value := by
  simp only [readDecimal, check_text]

theorem readExpectation_fields (expectation : OperationExpectation) :
    readExpectation (.obj expectation.fields) = .ok expectation := by
  obtain ⟨provider, amount, digest, state⟩ := expectation
  have h1 : fieldOf (OperationExpectation.fields ⟨provider, amount, digest, state⟩) "providerAddress" =
      provider.map fun address => .str address.text := by
    simp [OperationExpectation.fields, fieldOf_entry_append, fieldOf_entry]
  have h2 : fieldOf (OperationExpectation.fields ⟨provider, amount, digest, state⟩) "amountAtomic" =
      amount.map fun amount => .str amount.text := by
    simp [OperationExpectation.fields, fieldOf_entry_append, fieldOf_entry]
  have h3 : fieldOf (OperationExpectation.fields ⟨provider, amount, digest, state⟩) "digest" =
      digest.map fun digest => .str digest.text := by
    simp [OperationExpectation.fields, fieldOf_entry_append, fieldOf_entry]
  have h4 : fieldOf (OperationExpectation.fields ⟨provider, amount, digest, state⟩) "expectedState" =
      state.map fun state => .str state.text := by
    simp [OperationExpectation.fields, fieldOf_entry_append, fieldOf_entry]
  simp only [readExpectation, h1, h2, h3, h4]
  rw [whenPresent_map (fun address => normalizeAddress_text _ address),
    whenPresent_map (fun amount => readDecimal_text _ amount),
    whenPresent_map (fun digest => normalizeHash_text _ digest), whenPresent_map readExpectedState_text]
  rfl

theorem assertFieldsSafe_entry {path key : String} {value : Option Json} {rest : List (String × Json)}
    (allowed : isForbiddenField key = false)
    (safe : ∀ child, value = some child → assertPublicPayloadSafe path child = .ok ())
    (others : assertFieldsSafe path rest = .ok ()) : assertFieldsSafe path (entry key value ++ rest) = .ok () := by
  cases value with
  | none => exact others
  | some child => exact assertFieldsSafe_cons allowed (safe child rfl) others

/-- The fields the repository writes itself are public; only the caller's
parameters can carry a forbidden name. -/
theorem OperationContext.fields_safe {context : OperationContext} {path : String}
    (parameters : ∀ fields, context.parameters = some fields → assertFieldsSafe path fields = .ok ()) :
    assertPublicPayloadSafe path context.json = .ok () := by
  have text : ∀ {α : Type} (write : α → String) (value : Option α) child,
      value.map (fun value => Json.str (write value)) = some child → assertPublicPayloadSafe path child = .ok () := by
    rintro α write (_ | value) child written
    · cases written
    · cases Option.some.inj written
      rfl
  have expectation : ∀ value : OperationExpectation, assertPublicPayloadSafe path (.obj value.fields) = .ok () := by
    intro value
    simp only [assertPublicPayloadSafe, OperationExpectation.fields, List.append_assoc]
    refine assertFieldsSafe_entry rfl (text _ _) (assertFieldsSafe_entry rfl (text _ _)
      (assertFieldsSafe_entry rfl (text _ _) ?_))
    rw [← List.append_nil (entry _ _)]
    exact assertFieldsSafe_entry rfl (text _ _) rfl
  simp only [json, assertPublicPayloadSafe, fields, List.append_assoc]
  refine assertFieldsSafe_entry rfl (fun _ written => by cases Option.some.inj written; rfl)
    (assertFieldsSafe_entry rfl (text _ _) (assertFieldsSafe_entry rfl ?_ (assertFieldsSafe_entry rfl ?_
      (assertFieldsSafe_entry rfl ?_ (assertFieldsSafe_entry rfl (text _ _) (assertFieldsSafe_entry rfl (text _ _)
        (assertFieldsSafe_entry rfl (text _ _) ?_)))))))
  · intro child written
    obtain ⟨given, found, rfl⟩ := Option.map_eq_some_iff.mp written
    exact parameters given found
  · intro child written
    obtain ⟨callsId, _, rfl⟩ := Option.map_eq_some_iff.mp written
    cases callsId <;> rfl
  · intro child written
    obtain ⟨claimed, _, rfl⟩ := Option.map_eq_some_iff.mp written
    rfl
  · rw [← List.append_nil (entry _ _)]
    refine assertFieldsSafe_entry rfl ?_ rfl
    intro child written
    obtain ⟨value, _, rfl⟩ := Option.map_eq_some_iff.mp written
    cases value with
    | none => rfl
    | some value => exact expectation value

theorem parseContextFields_fields {context : OperationContext}
    (parameters : ∀ fields, context.parameters = some fields →
      assertFieldsSafe "operationContext" fields = .ok ()) :
    parseContextFields context.fields = .ok context := by
  refine parseContextFields_eq_ok.mpr ⟨OperationContext.fields_safe parameters, ?_, ?_, ?_, ?_, ?_, ?_, ?_, ?_, ?_⟩
  all_goals simp only [OperationContext.fields, List.append_assoc, fieldOf_entry_append, String.reduceEq, ↓reduceIte,
    fieldOf_entry, Option.or_none]
  · exact normalizeAddress_text _ _
  · exact whenPresent_map readSdkAction_text _
  · exact whenPresent_map readParameters_obj _
  · exact whenNotNull_map (fun data => assertHex_text _ data) (fun _ => by simp) _
  · exact whenPresent_map readDispatchClaimed_bool _
  · exact whenPresent_map (fun address => normalizeAddress_text _ address) _
  · exact whenPresent_map (fun data => assertHex_text _ data) _
  · exact whenPresent_map (fun value => readDecimal_text _ value) _
  · exact whenNotNull_map readExpectation_fields (fun _ => by simp) _

theorem parseContextFields_setCallsId {row : List (String × Json)} {context : OperationContext}
    (parsed : parseContextFields row = .ok context) (callsId : HexData) :
    parseContextFields (setField row "callsId" (.str callsId.text)) =
      .ok { context with callsId := some (some callsId) } := by
  obtain ⟨safe, h1, h2, h3, _, h5, h6, h7, h8, h9⟩ := parseContextFields_eq_ok.mp parsed
  refine parseContextFields_eq_ok.mpr ⟨assertFieldsSafe_setField rfl rfl safe, ?_, ?_, ?_, ?_, ?_, ?_, ?_, ?_, ?_⟩
  all_goals simp only [fieldOf_setField, String.reduceEq, ↓reduceIte]
  · exact h1
  · exact h2
  · exact h3
  · simp only [whenNotNull, assertHex_text, Except.map]
  · exact h5
  · exact h6
  · exact h7
  · exact h8
  · exact h9

theorem parseContextFields_setDispatchClaimed {row : List (String × Json)} {context : OperationContext}
    (parsed : parseContextFields row = .ok context) (claimed : Bool) :
    parseContextFields (setField row "dispatchClaimed" (.bool claimed)) =
      .ok { context with dispatchClaimed := some claimed } := by
  obtain ⟨safe, h1, h2, h3, h4, _, h6, h7, h8, h9⟩ := parseContextFields_eq_ok.mp parsed
  refine parseContextFields_eq_ok.mpr ⟨assertFieldsSafe_setField rfl rfl safe, ?_, ?_, ?_, ?_, ?_, ?_, ?_, ?_, ?_⟩
  all_goals simp only [fieldOf_setField, String.reduceEq, ↓reduceIte]
  · exact h1
  · exact h2
  · exact h3
  · exact h4
  · rfl
  · exact h6
  · exact h7
  · exact h8
  · exact h9

end Bnbera
