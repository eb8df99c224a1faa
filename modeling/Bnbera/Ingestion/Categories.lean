import Mathlib.Data.List.Infix
import Mathlib.Data.Prod.Lex
import Bnbera.Ingestion.Normalize
import Bnbera.JsonText.Canonical
import Bnbera.Keyset
import Bnbera.Words

/-! The category of an agent from its public labels, and the evidence for it. -/

namespace Bnbera.Ingestion.Categories

open JsonText
open Words (words joined strip collapse holdsWord)

/-- What is taken from the language and from libraries: `toLocaleLowerCase("en-US")` and the SHA-256 of a text. -/
class Runtime where
  toLowerCase : Text → Text
  sha256Hex : Text → Text

def lowerUnit (c : CodeUnit) : CodeUnit := if 65 ≤ c.val ∧ c.val ≤ 90 then Fin.ofNat _ (c.val + 32) else c

/-- The documented behaviour: a space parts what stands on its two sides, and ASCII is lowered unit by unit. -/
class LawfulRuntime [Runtime] : Prop where
  toLowerCase_space : ∀ first second : Text,
    Runtime.toLowerCase (first ++ 0x20 :: second) = Runtime.toLowerCase first ++ 0x20 :: Runtime.toLowerCase second
  toLowerCase_ascii : ∀ {text : Text}, (∀ c ∈ text, c.val < 0x80) → Runtime.toLowerCase text = text.map lowerUnit
  sha256Hex_length : ∀ text : Text, (Runtime.sha256Hex text).length = 64

class Counting (N : Type) [Numbers N] where
  ofNat : Nat → N
  isFinite_ofNat : ∀ n, Numbers.isFinite (ofNat n) = true

abbrev Value (N : Type) := JsonText.Tree (Leaf N)

structure CategoryClassificationInput (N : Type) where
  name : Value N
  description : Value N
  protocols : Value N
  supportedProtocols : Value N
  skills : Value N
  advertisedSkills : Value N
  domains : Value N
  capabilities : Value N
  agentCard : Value N
  mcpCapabilities : Value N
  metadata : Option (List (Text × Value N))

/-! ### Rules -/

inductive AgentCategory
  | rebalancing
  | gridTrading
  | yieldOptimisation
  | healthFactor
  | uncategorized
deriving DecidableEq

def AgentCategory.text : AgentCategory → String
  | rebalancing => "rebalancing"
  | gridTrading => "grid-trading"
  | yieldOptimisation => "yield-optimisation"
  | healthFactor => "health-factor"
  | uncategorized => "uncategorized"

/-- The place of a category in the order of `localeCompare`. -/
def AgentCategory.place : AgentCategory → Nat
  | gridTrading => 0
  | healthFactor => 1
  | rebalancing => 2
  | uncategorized => 3
  | yieldOptimisation => 4

structure CategoryRule where
  category : AgentCategory
  terms : List String
  weights : List (String × Nat)

def categoryRules : List CategoryRule := [
  { category := .rebalancing
    terms := ["rebalance", "rebalancing", "portfolio allocation", "asset allocation", "index portfolio", "portfolio weights"]
    weights := [("capability", 28), ("protocol", 22), ("skill", 18), ("advertisedSkill", 26), ("domain", 18), ("name", 8),
      ("description", 6)] },
  { category := .gridTrading
    terms := ["grid", "grid trading", "grid-trader", "grid strategy", "range trading", "market making", "market-making", "maker"]
    weights := [("capability", 28), ("protocol", 22), ("skill", 18), ("advertisedSkill", 26), ("domain", 18), ("name", 8),
      ("description", 6)] },
  { category := .yieldOptimisation
    terms := ["yield", "yield optimizer", "yield optimiser", "apy", "apr", "vault", "staking", "liquidity mining", "farming",
      "lending"]
    weights := [("capability", 26), ("protocol", 20), ("skill", 18), ("advertisedSkill", 26), ("domain", 18), ("name", 10),
      ("description", 8)] },
  { category := .healthFactor
    terms := ["health factor", "liquidation", "liquidator", "collateral", "borrow", "debt ratio", "risk monitor", "solvency"]
    weights := [("capability", 28), ("protocol", 18), ("skill", 18), ("advertisedSkill", 26), ("domain", 18), ("name", 10),
      ("description", 8)] }]

def weakAdvertisedTerms : List String := ["maker", "vault"]

def applicableCategoryStructuredScoreThreshold : Nat := 25

structure CategoryEvidence where
  category : AgentCategory
  matchedTerms : List Text
  structuredMatches : List Text
  semanticMatches : List Text
  structuredScore : Nat
  semanticScore : Nat
deriving DecidableEq

/-- `match.split(":", 2)` is a field and a term. -/
def isWeakMatch (found : Text) : Bool :=
  match found.splitOn 0x3a with
  | fieldName :: term :: _ => fieldName == units "advertisedSkill" && weakAdvertisedTerms.any fun weak => term == units weak
  | _ => false

def hasOnlyWeakAdvertisedEvidence (evidence : CategoryEvidence) : Bool :=
  !evidence.structuredMatches.isEmpty && evidence.structuredMatches.all isWeakMatch

/-! ### Public texts -/

section
variable {N : Type}

def trim (text : Text) : Text := strip isWhite text

def hasControlUnit (text : Text) : Bool := text.any fun c => c.val ≤ 0x1f || c.val == 0x7f

def publicText (value : Value N) (max : Nat) : Text :=
  match value with
  | .leaf (.scalar (.str text)) => if hasControlUnit ((trim text).take max) then [] else (trim text).take max
  | _ => []

def property (fields : List (Text × Value N)) (key : String) : Value N :=
  match fields.find? fun field => field.1 = units key with
  | some field => field.2
  | none => .leaf .undefined

def recordOf (value : Value N) : List (Text × Value N) :=
  match value with
  | .obj fields => fields
  | _ => []

def itemsOf (value : Value N) : List (Value N) :=
  match value with
  | .arr items => items
  | _ => []

/-- `first ?? second` -/
def orElse (first second : Value N) : Value N :=
  match first with
  | .leaf .undefined => second
  | .leaf (.scalar .null) => second
  | _ => first

def itemTexts (item : Value N) : List Text :=
  match item with
  | .leaf (.scalar (.str _)) => [publicText item 256]
  | .obj fields =>
    ([property fields "id", property fields "name", property fields "title", property fields "description"] ++
      itemsOf (property fields "tags") ++ itemsOf (property fields "keywords")).map fun entry => publicText entry 256
  | _ => []

def labelsOf (items : List (Value N)) : List Text := (items.flatMap itemTexts).filter fun text => !text.isEmpty

def textList (value : Value N) (limit : Nat) : List Text := (labelsOf (itemsOf value)).take limit

def foldUnit (c : CodeUnit) : CodeUnit := if c.val = 0x17f then 115 else if c.val = 0x212a then 107 else lowerUnit c

def containsAny (names : List String) (key : Text) : Bool :=
  (key.map foldUnit).tails.any fun rest => names.any fun name => (units name).isPrefixOf rest

def secretNames : List String :=
  ["secret", "private", "password", "credential", "authorization", "token", "prompt", "runtime", "log"]

def descriptiveNames : List String :=
  ["id", "name", "title", "description", "tags", "skills", "tools", "actions", "capabilities", "requiredprotocols",
    "allowedactions", "inputschema", "outputschema", "protocol", "protocols"]

/-- `visit`, with so many levels left. -/
def visit : Nat → Value N → List Text → List Text
  | 0, _, result => result
  | levels + 1, value, result =>
    if 1024 ≤ result.length then result
    else match value with
      | .leaf (.scalar (.str _)) => result ++ [publicText value 512].filter fun text => !text.isEmpty
      | .arr items => items.foldl (fun result item => visit levels item result) result
      | .obj fields => fields.foldl (fun result field =>
          if containsAny secretNames field.1 then result
          else if descriptiveNames.any (fun name => field.1.map foldUnit == units name) then
            let keyText := if field.1 = units "inputSchema" ∨ field.1 = units "outputSchema" then []
              else [publicText (.leaf (.scalar (.str field.1)) : Value N) 128].filter fun text => !text.isEmpty
            visit levels field.2 (result ++ keyText)
          else result) result
      | _ => result

def capabilityTexts (value : Value N) : List Text := (visit 6 value []).eraseDups.take 1024

/-! ### Matches -/

def isDash (c : CodeUnit) : Bool := c = 0x2d || c = 0x5f

def isLetter (c : CodeUnit) : Bool := 97 ≤ (foldUnit c).val && (foldUnit c).val ≤ 122

variable [Runtime]

def normalizeText (text : Text) : Text :=
  trim (collapse isWhite 0x20 false (collapse isDash 0x20 false (Runtime.toLowerCase text)))

/-- A term of one word has no letter before or behind it; no term has a unit that a pattern would have to escape. -/
def containsTerm (text : Text) (term : String) : Bool :=
  let needle := normalizeText (units term)
  if needle.contains 0x20 || needle.contains 0x2d then decide (needle <:+: normalizeText text)
  else holdsWord (fun n c => foldUnit n == foldUnit c) isLetter needle true (normalizeText text)

abbrev Fields := List (String × Text)

def structuredFields : List String := ["capability", "protocol", "skill", "advertisedSkill", "domain"]

def CategoryRule.weight (rule : CategoryRule) (fieldName : String) : Nat := (rule.weights.lookup fieldName).getD 0

def entry (fieldName term : String) : Text := units fieldName ++ 0x3a :: units term

def foundPairs (rule : CategoryRule) (fields : Fields) : List (String × String) :=
  rule.terms.flatMap fun term => (fields.filter fun field => containsTerm field.2 term).map fun field => (field.1, term)

def isStructured (pair : String × String) : Bool := structuredFields.contains pair.1

/-- `[...set].sort()` of the set of these texts -/
def sortedSet (texts : List Text) : List Text := texts.eraseDups.insertionSort (· ≤ ·)

def scoreRule (rule : CategoryRule) (fields : Fields) : CategoryEvidence :=
  let pairs := foundPairs rule fields
  let structured := pairs.filter isStructured
  { category := rule.category
    matchedTerms := sortedSet (pairs.map fun pair => units pair.2)
    structuredMatches := sortedSet (structured.map fun pair => entry pair.1 pair.2)
    semanticMatches := sortedSet ((pairs.filter fun pair => !isStructured pair).map fun pair => entry pair.1 pair.2)
    structuredScore := min 100 (structured.map fun pair => rule.weight pair.1).sum
    semanticScore := min 100 (pairs.map fun pair => rule.weight pair.1).sum }

/-! ### Fields of an input -/

def isSensitiveKey (key : Text) : Bool := containsAny sensitiveWords key

section
variable [Numbers N]

mutual

/-- `assertSafePublicValue`; it returns the number of values it has visited. -/
def assertSafePublicValue (depth nodes : Nat) : Value N → Except IngestionFailure Nat
  | .leaf (.scalar (.num n)) => do
    let nodes ← countedNode depth nodes
    refuseIf (Numbers.isFinite n = false) (inputInvalid "The public metadata contains an invalid number." "fix_metadata")
    return nodes
  | .leaf (.scalar (.str text)) => do
    let nodes ← countedNode depth nodes
    refuseIf (10000 < text.length) (inputInvalid "The public metadata contains an oversized string." "reduce_metadata")
    return nodes
  | .leaf (.scalar _) => countedNode depth nodes
  | .leaf .classInstance => do
    let _ ← countedNode depth nodes
    .error (inputInvalid "The public metadata must contain plain JSON values." "fix_metadata")
  | .leaf _ => do
    let _ ← countedNode depth nodes
    .error (inputInvalid "The public metadata contains an unsupported value." "fix_metadata")
  | .arr items => do
    let nodes ← countedNode depth nodes
    refuseIf (128 < items.length) (inputInvalid "The public metadata contains too many array items." "reduce_metadata")
    assertSafeItems (depth + 1) nodes items
  | .obj fields => do
    let nodes ← countedNode depth nodes
    assertSafeFields (depth + 1) nodes fields

def assertSafeItems (depth nodes : Nat) : List (Value N) → Except IngestionFailure Nat
  | [] => .ok nodes
  | item :: rest => do assertSafeItems depth (← assertSafePublicValue depth nodes item) rest

def assertSafeFields (depth nodes : Nat) : List (Text × Value N) → Except IngestionFailure Nat
  | [] => .ok nodes
  | (key, child) :: rest => do
    refuseIf (isSensitiveKey key)
      (inputInvalid "Credential-bearing fields are not accepted as public agent metadata." "remove_sensitive_fields")
    assertSafeFields depth (← assertSafePublicValue depth nodes child) rest

end

def assertSafe (value : Value N) : Except IngestionFailure Unit :=
  match value with
  | .leaf .undefined => .ok ()
  | value => (assertSafePublicValue 0 0 value).map fun _ => ()

end

def joinTexts (texts : List Text) : Text := joined 0x20 texts

def metadataOf (input : CategoryClassificationInput N) : List (Text × Value N) := input.metadata.getD []

def metadataText (metadata : List (Text × Value N)) : Text :=
  (joinTexts ((metadata.flatMap fun field => [publicText (.leaf (.scalar (.str field.1)) : Value N) 128,
    publicText field.2 2000]).filter fun text => !text.isEmpty)).take 8000

def capabilityLabels (input : CategoryClassificationInput N) : List Text :=
  capabilityTexts input.capabilities ++ capabilityTexts input.mcpCapabilities

def protocolLabels (input : CategoryClassificationInput N) : List Text :=
  let metadata := metadataOf input
  textList input.protocols 64 ++ textList input.supportedProtocols 64 ++
    textList (orElse (property metadata "protocols") (property metadata "supportedProtocols")) 64 ++
    textList (property metadata "services") 64

def skillLabels (input : CategoryClassificationInput N) : List Text :=
  let metadata := metadataOf input
  textList input.skills 128 ++ textList (property metadata "skills") 128 ++
    textList (property (recordOf (property metadata "oasf")) "skills") 128

def cardLabels (card : Value N) : List Text := textList (property (recordOf card) "skills") 128

def advertisedSkillLabels (input : CategoryClassificationInput N) : List Text :=
  textList input.advertisedSkills 128 ++ match input.agentCard with
    | .arr cards => cards.flatMap cardLabels
    | card => cardLabels card

def domainLabels (input : CategoryClassificationInput N) : List Text :=
  let metadata := metadataOf input
  textList input.domains 128 ++ textList (property metadata "domains") 128 ++
    textList (property (recordOf (property metadata "oasf")) "domains") 128

/-- What `normalizeInput` returns for an input that is safe. -/
def fieldsOf (input : CategoryClassificationInput N) : Fields :=
  [("name", publicText input.name 160), ("description", publicText input.description 2000),
    ("protocol", joinTexts (protocolLabels input)), ("skill", joinTexts (skillLabels input)),
    ("domain", joinTexts (domainLabels input)), ("capability", joinTexts (capabilityLabels input)),
    ("metadata", metadataText (metadataOf input))] ++
  if (joinTexts (advertisedSkillLabels input)).isEmpty then []
  else [("advertisedSkill", joinTexts (advertisedSkillLabels input))]

def assertSafeMetadata [Numbers N] (metadata : Option (List (Text × Value N))) : Except IngestionFailure Unit :=
  match metadata with
  | none => .ok ()
  | some metadata => assertSafe (.obj metadata)

def normalizeInput [Numbers N] (input : CategoryClassificationInput N) : Except IngestionFailure Fields := do
  assertSafeMetadata input.metadata
  assertSafe input.capabilities
  assertSafe input.advertisedSkills
  assertSafe input.agentCard
  assertSafe input.mcpCapabilities
  return fieldsOf input

/-! ### Classification -/

def CategoryEvidence.key (evidence : CategoryEvidence) : Nat ×ₗ (Nat ×ₗ Natᵒᵈ) :=
  toLex (evidence.structuredScore, toLex (evidence.semanticScore, OrderDual.toDual evidence.category.place))

def confidenceFor (best : CategoryEvidence) (second : Option CategoryEvidence) (structuredPresent : Bool) : Nat :=
  if !structuredPresent || best.structuredScore < 25 then 0
  else
    let margin := best.structuredScore - (second.map CategoryEvidence.structuredScore).getD 0
    let base := 500 + min 400 (4 * best.structuredScore)
    min 1000 (base + min 100 (4 * margin))

inductive CategoryReviewState
  | auto
  | needsReview
deriving DecidableEq

def categoryClassifierVersion : String := "deterministic-rules-v3"

structure AcceptedEvidence where
  matchedTerms : List Text
  structuredMatches : List Text
  semanticMatches : List Text
  candidates : List (AgentCategory × Nat × Nat)
  /-- No field when it is empty. -/
  applicableCategories : List AgentCategory
  digest : Text
deriving DecidableEq

structure CategoryClassification where
  category : AgentCategory
  structuredScore : Nat
  semanticScore : Nat
  confidence : Nat
  evidence : AcceptedEvidence
  method : String
  classifierVersion : String
  reviewState : CategoryReviewState
deriving DecidableEq

section
variable [Numbers N]

def textValue (text : Text) : JsonText.Tree (Scalar N) := .leaf (.str text)

def textsValue (texts : List Text) : JsonText.Tree (Scalar N) := .arr (texts.map textValue)

def fieldsValue (fields : Fields) : JsonText.Tree (Scalar N) := .obj (fields.map fun field => (units field.1, textValue field.2))

variable [Counting N]

def scoreValue (score : Nat) : JsonText.Tree (Scalar N) := .leaf (.num (Counting.ofNat score))

def CategoryEvidence.value (evidence : CategoryEvidence) : JsonText.Tree (Scalar N) := .obj [
  (units "category", textValue (units evidence.category.text)), (units "matchedTerms", textsValue evidence.matchedTerms),
  (units "structuredMatches", textsValue evidence.structuredMatches),
  (units "semanticMatches", textsValue evidence.semanticMatches),
  (units "structuredScore", scoreValue evidence.structuredScore), (units "semanticScore", scoreValue evidence.semanticScore)]

def AcceptedEvidence.value (evidence : AcceptedEvidence) : JsonText.Tree (Scalar N) := .obj (
  [(units "matchedTerms", textsValue evidence.matchedTerms), (units "structuredMatches", textsValue evidence.structuredMatches),
    (units "semanticMatches", textsValue evidence.semanticMatches),
    (units "candidates", .arr (evidence.candidates.map fun candidate => .obj [
      (units "category", textValue (units candidate.1.text)), (units "structuredScore", scoreValue candidate.2.1),
      (units "semanticScore", scoreValue candidate.2.2)]))] ++
    (if evidence.applicableCategories.isEmpty then []
      else [(units "applicableCategories", textsValue (evidence.applicableCategories.map fun category => units category.text))]) ++
    [(units "digest", textValue evidence.digest)])

variable [DecidableEq N]

def canonicalSha256Hex (value : JsonText.Tree (Scalar N)) : Except IngestionFailure Text :=
  match JsonText.canonicalizeJson value.unknown with
  | .ok text => .ok (Runtime.sha256Hex text)
  | .error _ => .error (.foreign "TypeError")

end

def structuredPresent (fields : Fields) : Bool :=
  structuredFields.any fun name => !((fields.lookup name).getD []).isEmpty

def ranked (fields : Fields) : List CategoryEvidence :=
  Keyset.descending CategoryEvidence.key (categoryRules.map fun rule => scoreRule rule fields)

def applicableCategories (ranked : List CategoryEvidence) : List AgentCategory :=
  (((ranked.filter fun candidate => applicableCategoryStructuredScoreThreshold ≤ candidate.structuredScore).filter
    fun candidate => !hasOnlyWeakAdvertisedEvidence candidate).map CategoryEvidence.category).take 4

def promotes (best : CategoryEvidence) (second : Option CategoryEvidence) (confidence : Nat) : Bool :=
  !hasOnlyWeakAdvertisedEvidence best && applicableCategoryStructuredScoreThreshold ≤ best.structuredScore &&
    !best.matchedTerms.isEmpty && 550 ≤ confidence &&
    (second.map CategoryEvidence.structuredScore).getD 0 + 4 < best.structuredScore

section
variable [Numbers N] [Counting N] [DecidableEq N]

variable (N) in
def evidenceDigest (fields : Fields) : Except IngestionFailure Text :=
  canonicalSha256Hex (.obj [(units "fields", fieldsValue fields),
    (units "evidence", .arr (categoryRules.map fun rule => (scoreRule rule fields).value))] : JsonText.Tree (Scalar N))

/-- The classification of an input with these fields and this digest. -/
def classified (fields : Fields) (best : CategoryEvidence) (second : Option CategoryEvidence) (digest : Text) :
    CategoryClassification :=
  let confidence := confidenceFor best second (structuredPresent fields)
  let promote := promotes best second confidence
  { category := if promote then best.category else .uncategorized
    structuredScore := best.structuredScore
    semanticScore := best.semanticScore
    confidence := if promote then confidence else min confidence 540
    evidence := {
      matchedTerms := best.matchedTerms
      structuredMatches := best.structuredMatches
      semanticMatches := best.semanticMatches
      candidates := categoryRules.map fun rule =>
        (rule.category, (scoreRule rule fields).structuredScore, (scoreRule rule fields).semanticScore)
      applicableCategories := applicableCategories (ranked fields)
      digest }
    method := categoryClassifierVersion
    classifierVersion := categoryClassifierVersion
    reviewState := if promote then .auto else .needsReview }

def classifyAgent (input : CategoryClassificationInput N) : Except IngestionFailure CategoryClassification := do
  let fields ← normalizeInput input
  match ranked fields with
  | [] => .error (ingestionError .categoryClassificationFailed "No category rules are configured." "configure_classifier")
  | best :: rest => do
    let digest ← evidenceDigest N fields
    let classification := classified fields best rest.head? digest
    assertSafe (classification.evidence.value : JsonText.Tree (Scalar N)).unknown
    return classification

end

end

end Bnbera.Ingestion.Categories
