import MacProvider.Gateway.Time
import MacProvider.Lib.Tables

/-! # The ledger of the coordinator

The tables of settlement and payout, and what makes a credit payable. Timestamps of fixed width
compare like instants, except for the clock of `spec022_payable_request_credits`, which has
milliseconds. -/

namespace MacProvider.Coordinator.Billing.Schema

open Gateway.Time Lib.Tables

theorem bind_ok {ε α β : Type} {x : Except ε α} {f : α → Except ε β} {r : β}
    (h : x >>= f = .ok r) : ∃ a, x = .ok a ∧ f a = .ok r := by
  cases x with
  | error e => cases h
  | ok a => exact ⟨a, rfl, h⟩

/-! ### Rows -/

/-- The status of a payout. -/
inductive PayoutStatus
  | ready | consumed | voided
deriving DecidableEq

/-- A row of `ledger_payout_ready`. -/
structure Payout where
  id : ℕ
  providerID : String
  windowStart : Instant
  windowEnd : Instant
  sourceCreditCount : ℤ
  grossCredits : ℤ
  providerCredits : ℤ
  operatorCredits : ℤ
  minPayoutCredits : ℤ
  payoutCurrency : Option String
  payoutExternalID : Option String
  status : PayoutStatus
  createdAt : Instant

/-- Whether a receipt is needed. -/
inductive PolicyMode
  | legacy | observe | enforce
deriving DecidableEq

/-- A row of `ledger_request_credits`. -/
structure Credit where
  id : ℕ
  requestID : String
  attemptN : ℕ
  providerID : String
  ts : Instant
  grossCredits : ℤ
  providerCredits : ℤ
  settled : Bool
  settlementID : Option ℕ
  quarantined : Bool
  quarantineReason : Option String
  accountScopeHash : Option String
  policyMode : PolicyMode
  policyVersion : Option String
deriving DecidableEq

/-- A row of `ledger_operator_credits`. -/
structure OperatorCredit where
  requestCreditID : ℕ
  operatorCredits : ℤ

/-- What an operator decides. -/
inductive ResolutionKind
  | forceVoid | forceCredit
deriving DecidableEq

/-- A row of `ledger_quarantine_resolutions`. -/
structure Resolution where
  id : ℕ
  requestCreditID : ℕ
  kind : ResolutionKind
  createdAt : Instant
  forceCreditMaturesAt : Option Instant
deriving DecidableEq

/-- A row of `settlement_route_snapshots`. -/
structure RouteSnapshot where
  accountScope : String
  requestID : String
  attemptN : ℕ
  providerID : String
  mode : PolicyMode
  policyVersion : String
  digest : String
deriving DecidableEq

/-- What a verdict comes to. -/
inductive SettlementOutcome
  | pending | verified | quarantined | zeroSettled
deriving DecidableEq

/-- A row of `settlement_receipt_verdicts`. -/
structure ReceiptVerdict where
  accountScopeHash : String
  requestID : String
  attemptN : ℕ
  providerID : String
  mode : PolicyMode
  policyVersion : String
  digest : String
  closed : Bool
  outcome : SettlementOutcome
deriving DecidableEq

/-- A row of `settlement_attempt_outputs`. -/
structure AttemptOutput where
  accountScope : String
  requestID : String
  attemptN : ℕ
  providerID : String
  overlappingOrDuplicate : Bool
deriving DecidableEq

/-- What operators and the verifier have said. -/
structure Evidence where
  resolutions : List Resolution
  snapshots : List RouteSnapshot
  verdicts : List ReceiptVerdict
  outputs : List AttemptOutput

/-- The tables. -/
structure Ledger where
  payouts : Table Payout.id
  credits : Table Credit.id
  operatorCredits : List OperatorCredit
  evidence : Evidence

/-! ### Payable credits -/

/-- `ORDER BY created_at_utc DESC, id DESC LIMIT 1`. -/
def Evidence.latestResolution (e : Evidence) (creditID : ℕ) : Option Resolution :=
  (e.resolutions.filter fun r => r.requestCreditID = creditID).foldl
    (fun best r =>
      match best with
      | none => some r
      | some b =>
        if b.createdAt < r.createdAt ∨ (b.createdAt = r.createdAt ∧ b.id < r.id) then some r
        else some b)
    none

/-- Of the last resolution. -/
def Evidence.forceCreditMaturity (e : Evidence) (creditID : ℕ) : Option Instant :=
  (e.latestResolution creditID).bind fun r =>
    if r.kind = .forceCredit then r.forceCreditMaturesAt else none

/-- Not quarantined, or the decision has matured. -/
def Evidence.released (e : Evidence) (matured : Instant → Bool) (c : Credit) : Bool :=
  !c.quarantined || (e.forceCreditMaturity c.id).any matured

/-- Closed and verified for its route, no overlap. -/
def Evidence.verified (e : Evidence) (c : Credit) (scopeHash version : String) : Bool :=
  e.snapshots.any fun srs =>
    srs.requestID == c.requestID && srs.attemptN == c.attemptN && srs.providerID == c.providerID &&
    srs.mode == .enforce && srs.policyVersion == version &&
    (e.verdicts.any fun srv =>
      srv.accountScopeHash == scopeHash && srv.requestID == srs.requestID &&
      srv.attemptN == srs.attemptN && srv.providerID == srs.providerID &&
      srv.digest == srs.digest && srv.mode == .enforce && srv.policyVersion == version &&
      srv.closed && srv.outcome == .verified) &&
    (e.outputs.any fun sao =>
      sao.accountScope == srs.accountScope && sao.requestID == srs.requestID &&
      sao.attemptN == srs.attemptN && sao.providerID == srs.providerID &&
      !sao.overlappingOrDuplicate)

/-- `enforce` needs evidence. -/
def Evidence.policyAllows (e : Evidence) (c : Credit) : Bool :=
  match c.policyMode, c.accountScopeHash, c.policyVersion with
  | .enforce, some scopeHash, some version => e.verified c scopeHash version
  | .enforce, _, _ => false
  | _, _, _ => true

/-- Nanoseconds in a millisecond. -/
def nanosPerMilli : ℕ := 1000000

/-- `spec022_payable_request_credits`: nanoseconds are compared with milliseconds as texts. -/
def Evidence.payable (e : Evidence) (now : Instant) (c : Credit) : Bool :=
  e.released (fun m => m / nanosPerMilli ≤ now / nanosPerMilli) c && e.policyAllows c

end MacProvider.Coordinator.Billing.Schema
