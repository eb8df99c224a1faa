import Bnbera.Auth.Passkeys
import Bnbera.Interleaving.Pool

namespace Bnbera.Auth

open Interleaving

/-- The four sign-in routes. Each runs in a process with an environment of its own. -/
inductive AuthRequest
  | eoaChallenge (env : Environment) (input : Json)
  | eoaSignIn (env : Environment) (input : Json)
  | passkeyChallenge (standardsLock : Bool) (env : Environment) (input : Json)
  | passkeySignIn (standardsLock : Bool) (env : Environment) (input : Json)

inductive AuthResponse
  | eoaChallenge (challenge : EoaSiweChallenge)
  | passkeyChallenge (challenge : WebAuthnChallenge)
  | session (session : AuthenticatedSession)

abbrev AuthOutcome := Except AuthFailure AuthResponse

/-- A row of `auth_nonces`. -/
structure NonceRow where
  domain : String
  chainId : ChainId
  nonceDigest : Digest
  expiresAt : Int
  consumedAt : Option Int

/-- The tables, the clock of the database and the calls that were answered. Beside a row of
`auth_sessions` stands the number of the thread that created it. -/
structure AuthState where
  nonces : List NonceRow
  sessions : List (Nat × SessionInput)
  now : Int
  log : List (Nat × AuthEntry)

def drawn : AuthEntry → Option String
  | ⟨.randomToken, token⟩ => some token
  | _ => none

def stored : AuthEntry → Option NonceInput
  | ⟨.insertNonce input _, _⟩ => some input
  | _ => none

def redeemed : AuthEntry → Option NonceInput
  | ⟨.consumeNonce input, .ok true⟩ => some input
  | _ => none

def opened : AuthEntry → Option SessionInput
  | ⟨.createSession session, _⟩ => some session
  | _ => none

def shown {α : Type} (what : AuthEntry → Option α) (log : List (Nat × AuthEntry)) : List (Nat × α) :=
  log.filterMap fun entry => (what entry.2).map fun value => (entry.1, value)

theorem mem_shown {α : Type} {what : AuthEntry → Option α} {log : List (Nat × AuthEntry)} {i : Nat} {value : α} :
    (i, value) ∈ shown what log ↔ ∃ entry, (i, entry) ∈ log ∧ what entry = some value := by
  simp only [shown, List.mem_filterMap, Option.map_eq_some_iff, Prod.mk.injEq, Prod.exists]
  constructor
  · rintro ⟨j, entry, member, value, found, rfl, rfl⟩
    exact ⟨entry, member, found⟩
  · rintro ⟨entry, member, found⟩
    exact ⟨i, entry, member, value, found, rfl, rfl⟩

theorem shown_append {α : Type} {what : AuthEntry → Option α} {log : List (Nat × AuthEntry)} {i : Nat} {entry : AuthEntry} :
    shown what (log ++ [(i, entry)]) = shown what log ++ ((what entry).map fun value => (i, value)).toList := by
  simp only [shown, List.filterMap_append]
  cases found : what entry with
  | none => simp [found]
  | some value => simp [found]

namespace AuthState

variable [Sha256]

def Initial (s : AuthState) : Prop := s.nonces = [] ∧ s.sessions = [] ∧ s.log = []

def issuedRow (input : NonceInput) (expiresAt : Int) : NonceRow :=
  ⟨input.domain, input.chainId, nonceDigest input, expiresAt, none⟩

/-- The rows that `consume` updates. -/
def isConsumable (s : AuthState) (input : NonceInput) (row : NonceRow) : Bool :=
  row.domain == input.domain && row.chainId == input.chainId && row.nonceDigest == nonceDigest input &&
    row.consumedAt.isNone && s.now < row.expiresAt

def consumable (s : AuthState) (input : NonceInput) : List NonceRow := s.nonces.filter (s.isConsumable input)

def consumed (s : AuthState) (input : NonceInput) : List NonceRow :=
  s.nonces.map fun row => if s.isConsumable input row then { row with consumedAt := some s.now } else row

/-- What a call may answer, and the tables after it. A call that fails may have been carried out. -/
def Answers (s : AuthState) (i : Nat) : AuthEntry → List NonceRow → List (Nat × SessionInput) → Prop
  | ⟨.randomToken, token⟩, nonces, sessions => isOpaqueToken token = true ∧
      (∀ entry ∈ s.log, drawn entry.2 ≠ some token) ∧ nonces = s.nonces ∧ sessions = s.sessions
  | ⟨.insertNonce input expiresAt, .inserted⟩, nonces, sessions =>
    (∀ row ∈ s.nonces, row.nonceDigest ≠ nonceDigest input) ∧ nonces = s.nonces ++ [issuedRow input expiresAt] ∧
      sessions = s.sessions
  | ⟨.insertNonce input _, .duplicate⟩, nonces, sessions =>
    (∃ row ∈ s.nonces, row.nonceDigest = nonceDigest input) ∧ nonces = s.nonces ∧ sessions = s.sessions
  | ⟨.insertNonce input expiresAt, .failed⟩, nonces, sessions =>
    (nonces = s.nonces ∨ (∀ row ∈ s.nonces, row.nonceDigest ≠ nonceDigest input) ∧
      nonces = s.nonces ++ [issuedRow input expiresAt]) ∧ sessions = s.sessions
  | ⟨.consumeNonce input, .ok answer⟩, nonces, sessions =>
    answer = decide ((s.consumable input).length = 1) ∧ nonces = s.consumed input ∧ sessions = s.sessions
  | ⟨.consumeNonce input, .error _⟩, nonces, sessions =>
    (nonces = s.nonces ∨ nonces = s.consumed input) ∧ sessions = s.sessions
  | ⟨.createSession session, .ok _⟩, nonces, sessions => nonces = s.nonces ∧ sessions = s.sessions ++ [(i, session)]
  | ⟨.createSession session, .error _⟩, nonces, sessions =>
    nonces = s.nonces ∧ (sessions = s.sessions ∨ sessions = s.sessions ++ [(i, session)])
  | _, nonces, sessions => nonces = s.nonces ∧ sessions = s.sessions

end AuthState

section
variable [UrlParser] [DateText] [Sha256] [PasskeyCodec]

def AuthRequest.handler : AuthRequest → Program AuthCall AuthCall.Answer AuthOutcome
  | eoaChallenge env input => (AuthResponse.eoaChallenge <$> createEoaSiweChallenge env input).run
  | eoaSignIn env input => (AuthResponse.session <$> authenticateEoa env input).run
  | passkeyChallenge lock env input => (AuthResponse.passkeyChallenge <$> createPasskeyChallenge lock env input).run
  | passkeySignIn lock env input => (AuthResponse.session <$> authenticatePasskey lock env input).run

def authSystem : System AuthRequest AuthCall AuthCall.Answer AuthOutcome AuthState where
  handler := AuthRequest.handler
  exec i _ op before answer after := before.Answers i ⟨op, answer⟩ after.nonces after.sessions ∧
    after.now = before.now ∧ after.log = before.log ++ [(i, ⟨op, answer⟩)]
  environment before after := ∃ now, after = { before with now := now }
  mayStart _ _ := True

abbrev AuthPool := Pool AuthRequest AuthCall AuthCall.Answer AuthOutcome AuthState

abbrev AuthReach (pool : AuthPool) : Prop := authSystem.Reach AuthState.Initial pool

theorem auth_logs : authSystem.Logs AuthState.log where
  exec _ _ _ _ _ _ called := called.2.2
  environment _ _ moved := by
    obtain ⟨now, rfl⟩ := moved
    rfl

end

end Bnbera.Auth
