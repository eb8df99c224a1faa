import Bnbera.Errors
import Bnbera.Json

namespace Bnbera

/-- `throw new CommerceError({ code, message, nextAction })` -/
def throwCommerce {α : Type} (code : CommerceErrorCode) (message : String) (nextAction : String := "none") :
    Except Failure α :=
  .error (.commerce { code, message, nextAction })

def normalizeAddress (value label : String) : Except Failure Address :=
  match TextFormat.normalize _ value with
  | some address => .ok address
  | none => throwCommerce .invalidAddress (label ++ " must be a non-zero EVM address.")

theorem normalizeAddress_eq {value label : String} {address : Address}
    (read : normalizeAddress value label = .ok address) : address.text = lower value := by
  unfold normalizeAddress at read
  split at read
  · rename_i normal
    cases Except.ok.inj read
    exact TextFormat.normalize_eq normal
  · cases read

/-- One item of a pattern: a letter in either case, or `.?`. -/
inductive PatternItem
  | letter (c : Char)
  | optionalAny

def isLineTerminator (c : Char) : Bool := [0xa, 0xd, 0x2028, 0x2029].contains c.toNat

def startsWith : List PatternItem → List Char → Bool
  | [], _ => true
  | .letter p :: rest, c :: cs => c.toLower == p && startsWith rest cs
  | .letter _ :: _, [] => false
  | .optionalAny :: rest, c :: cs => startsWith rest (c :: cs) || (!isLineTerminator c && startsWith rest cs)
  | .optionalAny :: rest, [] => startsWith rest []

def occursIn (pattern : List PatternItem) : List Char → Bool
  | [] => startsWith pattern []
  | c :: cs => startsWith pattern (c :: cs) || occursIn pattern cs

/-- The two words of a pattern such as `private.?key`. -/
def words (first second : String) : List PatternItem :=
  first.toList.map .letter ++ .optionalAny :: second.toList.map .letter

def word (text : String) : List PatternItem := text.toList.map .letter

/-- `FORBIDDEN_FIELD` -/
def forbiddenFields : List (List PatternItem) :=
  [words "private" "key", word "seed", word "mnemonic", word "password", word "secret", word "credential",
    words "session" "token", words "access" "token", words "raw" "signature", words "wallet" "key"]

def isForbiddenField (key : String) : Bool := forbiddenFields.any fun pattern => occursIn pattern key.toList

mutual

def assertPublicPayloadSafe (path : String) : Json → Except Failure Unit
  | .arr items => assertItemsSafe path 0 items
  | .obj fields => assertFieldsSafe path fields
  | _ => .ok ()

def assertItemsSafe (path : String) (index : Nat) : List Json → Except Failure Unit
  | [] => .ok ()
  | item :: rest =>
    match assertPublicPayloadSafe (path ++ "[" ++ toString index ++ "]") item with
    | .ok () => assertItemsSafe path (index + 1) rest
    | .error failure => .error failure

def assertFieldsSafe (path : String) : List (String × Json) → Except Failure Unit
  | [] => .ok ()
  | (key, child) :: rest =>
    if isForbiddenField key then
      throwCommerce .invalidJob ("Sensitive field rejected at " ++ path ++ "." ++ key ++ ".")
    else
      match assertPublicPayloadSafe (path ++ "." ++ key) child with
      | .ok () => assertFieldsSafe path rest
      | .error failure => .error failure

end

mutual

theorem assertPublicPayloadSafe_path {path other : String} : ∀ {value : Json},
    assertPublicPayloadSafe path value = .ok () → assertPublicPayloadSafe other value = .ok ()
  | .null, _ => rfl
  | .bool _, _ => rfl
  | .num _, _ => rfl
  | .str _, _ => rfl
  | .arr _, safe => assertItemsSafe_path safe
  | .obj _, safe => assertFieldsSafe_path safe

theorem assertItemsSafe_path {path other : String} {index next : Nat} : ∀ {items : List Json},
    assertItemsSafe path index items = .ok () → assertItemsSafe other next items = .ok ()
  | [], _ => rfl
  | item :: rest, safe => by
    simp only [assertItemsSafe] at safe ⊢
    split at safe
    · rename_i first
      rw [assertPublicPayloadSafe_path first]
      exact assertItemsSafe_path safe
    · cases safe

theorem assertFieldsSafe_path {path other : String} : ∀ {fields : List (String × Json)},
    assertFieldsSafe path fields = .ok () → assertFieldsSafe other fields = .ok ()
  | [], _ => rfl
  | (key, child) :: rest, safe => by
    simp only [assertFieldsSafe] at safe ⊢
    split at safe
    · cases safe
    · rename_i allowed
      rw [if_neg allowed]
      split at safe
      · rename_i first
        rw [assertPublicPayloadSafe_path first]
        exact assertFieldsSafe_path safe
      · cases safe

end

theorem assertFieldsSafe_field {path key : String} {fields : List (String × Json)} {value : Json}
    (safe : assertFieldsSafe path fields = .ok ()) (found : fieldOf fields key = some value) :
    assertPublicPayloadSafe path value = .ok () := by
  induction fields with
  | nil => cases found
  | cons field rest ih =>
    obtain ⟨k, child⟩ := field
    simp only [assertFieldsSafe] at safe
    split at safe
    · cases safe
    · split at safe
      · rename_i first
        rw [fieldOf_cons] at found
        split at found
        · cases Option.some.inj found
          exact assertPublicPayloadSafe_path first
        · exact ih safe found
      · cases safe

theorem assertFieldsSafe_cons {path key : String} {child : Json} {rest : List (String × Json)}
    (allowed : isForbiddenField key = false) (first : assertPublicPayloadSafe path child = .ok ())
    (others : assertFieldsSafe path rest = .ok ()) : assertFieldsSafe path ((key, child) :: rest) = .ok () := by
  have child : assertPublicPayloadSafe (path ++ "." ++ key) child = .ok () := assertPublicPayloadSafe_path first
  simp only [assertFieldsSafe, allowed, Bool.false_eq_true, if_false, child, others]

theorem assertFieldsSafe_setField {path key : String} {fields : List (String × Json)} {value : Json}
    (allowed : isForbiddenField key = false) (fresh : assertPublicPayloadSafe path value = .ok ())
    (safe : assertFieldsSafe path fields = .ok ()) :
    assertFieldsSafe path (setField fields key value) = .ok () := by
  induction fields with
  | nil => exact assertFieldsSafe_cons allowed fresh rfl
  | cons field rest ih =>
    obtain ⟨k, child⟩ := field
    simp only [assertFieldsSafe] at safe
    split at safe
    · cases safe
    · rename_i kept
      split at safe
      · rename_i first
        simp only [setField]
        split
        · exact assertFieldsSafe_cons allowed fresh safe
        · exact assertFieldsSafe_cons (by simpa using kept) (assertPublicPayloadSafe_path first) (ih safe)
      · cases safe

variable {ε α β : Type}

/-- `if (fails) throw error;` -/
def refuseIf (fails : Prop) [Decidable fails] (error : ε) : Except ε Unit := if fails then .error error else .ok ()

/-- `if (applies) check();` -/
def checkIf (applies : Prop) [Decidable applies] (check : Except ε Unit) : Except ε Unit :=
  if applies then check else .ok ()

def commerceError (code : CommerceErrorCode) (message : String) (nextAction : String := "none") : Failure :=
  .commerce { code, message, nextAction }

theorem refuseIf_eq_ok {fails : Prop} [Decidable fails] {error : ε} {done : Unit} :
    refuseIf fails error = .ok done ↔ ¬fails := by
  unfold refuseIf
  split
  · exact ⟨nofun, fun passes => absurd ‹_› passes⟩
  · exact ⟨fun _ => ‹_›, fun _ => rfl⟩

theorem checkIf_eq_ok {applies : Prop} [Decidable applies] {check : Except ε Unit} {done : Unit} :
    checkIf applies check = .ok done ↔ (applies → check = .ok ()) := by
  unfold checkIf
  by_cases holds : applies
  · rw [if_pos holds]
    exact ⟨fun passed _ => passed, fun passed => passed holds⟩
  · rw [if_neg holds]
    exact ⟨fun _ present => absurd present holds, fun _ => rfl⟩

theorem forM_eq_ok {value : Option α} {check : α → Except ε PUnit} {done : PUnit} :
    value.forM check = .ok done ↔ ∀ given ∈ value, check given = .ok () := by
  cases value with
  | none => exact ⟨fun _ given member => (nomatch member), fun _ => rfl⟩
  | some given =>
    constructor
    · intro passed other member
      cases Option.some.inj (Option.mem_def.mp member)
      exact passed
    · intro passed
      exact passed given rfl

theorem bind_eq_ok {first : Except ε α} {rest : α → Except ε β} {result : β} :
    (first >>= rest) = .ok result ↔ ∃ value, first = .ok value ∧ rest value = .ok result := by
  cases first with
  | error error => exact ⟨nofun, nofun⟩
  | ok value => exact ⟨fun done => ⟨value, rfl, done⟩, fun ⟨_, same, done⟩ => by cases same; exact done⟩

theorem map_eq_ok {result : Except ε α} {change : α → β} {value : β} :
    result.map change = .ok value ↔ ∃ found, result = .ok found ∧ change found = value := by
  cases result with
  | error error => exact ⟨nofun, nofun⟩
  | ok found =>
    constructor
    · rintro ⟨⟩
      exact ⟨found, rfl, rfl⟩
    · rintro ⟨_, same, rfl⟩
      cases same
      rfl

theorem isOk_iff {result : Except ε α} : result.isOk = true ↔ ∃ value, result = .ok value := by
  cases result with
  | error error => exact ⟨nofun, nofun⟩
  | ok value => exact ⟨fun _ => ⟨value, rfl⟩, fun _ => rfl⟩

theorem toOption_eq_some {result : Except ε α} {value : α} : result.toOption = some value ↔ result = .ok value := by
  cases result with
  | error error => exact ⟨fun same => (nomatch same), fun same => (nomatch same)⟩
  | ok found => exact ⟨fun same => congrArg _ (Option.some.inj same), fun same => congrArg _ (Except.ok.inj same)⟩

theorem refuseIf_bind_eq_ok {fails : Prop} [Decidable fails] {error : ε} {rest : Unit → Except ε β} {result : β} :
    (refuseIf fails error >>= rest) = .ok result ↔ ¬fails ∧ rest () = .ok result := by
  rw [bind_eq_ok]
  constructor
  · rintro ⟨done, passed, finished⟩
    exact ⟨refuseIf_eq_ok.mp passed, finished⟩
  · rintro ⟨passes, finished⟩
    exact ⟨(), refuseIf_eq_ok.mpr passes, finished⟩

end Bnbera
