import MacProvider.Lib.Runs
import Mathlib.Data.Int.Notation
import Mathlib.Data.Nat.Notation
import Mathlib.Logic.Function.Basic

/-! # The registry of provider sessions

Which session a provider has, its state, and what the coordinator holds against it, as one `Entry` a
provider. What a provider reports passes `canApplyProviderStateLocked`, what the coordinator asks
for (`MarkState`, and `drain_status`) `canSetCoordinatorStateLocked`. -/

namespace MacProvider.Coordinator.Pool.Registry

/-- The state of a session. -/
inductive State
  | ready
  | busy
  | degraded
  | draining
  | unavailable
deriving DecidableEq

/-- How far a provider is trusted. -/
inductive Tier
  | pinned
  | provisional
  | rejected
deriving DecidableEq

/-- How a session was authenticated. -/
inductive AuthState
  | unmarked
  | bearerValidated
  | selfMinted
  | selfMintedVerified
  | bearerlessDuplicate
  | mintFailed
deriving DecidableEq

/-- How the models of a session were admitted. -/
inductive CatalogAdmissionMode
  | legacy
  | updateBridge
  | other
deriving DecidableEq

/-- Why a session is held. -/
inductive RecoveryReason
  | breaker
  | providerFailure
  | canary
  | operatorClear
deriving DecidableEq

/-- A registered session. -/
structure Provider where
  assignedID : String
  state : State
  tier : Tier
  authState : AuthState
  catalogAdmissionMode : CatalogAdmissionMode
  pendingReceiptPubkey : List UInt8
  benchmarkQuarantined : Bool
  admissionCeilingExcluded : Bool
  admissionEvidenceStale : Bool
  admissionSandboxed : Bool
  admissionSandboxCredentialBypassed : Bool
  slotsFree : ℤ
  slotsTotal : ℤ
  lastHeartbeatAt : Option ℤ
  canaryFailCount : ℕ
  canaryLastCheckedAt : Option ℤ
  canaryLastFailedAt : Option ℤ
deriving DecidableEq

/-- The session may be given requests. -/
def Provider.routingEligible (p : Provider) : Bool :=
  if p.authState = .bearerlessDuplicate ∨ p.authState = .selfMinted then false
  else if p.catalogAdmissionMode = .legacy ∨ p.catalogAdmissionMode = .updateBridge then false
  else if p.pendingReceiptPubkey ≠ [] then false
  else if p.benchmarkQuarantined then false
  else if p.admissionCeilingExcluded || p.admissionEvidenceStale || p.admissionSandboxed then false
  else p.state = .ready && 0 < p.slotsFree

/-- Degraded until it is released. -/
structure RecoveryHold where
  assignedID : String
  reason : RecoveryReason
deriving DecidableEq

/-- Failed canaries, as they are stored. -/
structure CanarySanction where
  failCount : ℕ
  lastCheckedAt : Option ℤ
  lastFailedAt : Option ℤ

/-- What the registry knows of one provider id. -/
structure Entry where
  provider : Option Provider
  breakerFaults : List ℤ
  recoveryHold : Option RecoveryHold
  canarySanction : Option CanarySanction
  lastBreakerRecovery : Option ℤ

namespace Entry

/-- If it is the provider's current one. -/
def current (e : Entry) (assignedID : String) : Option Provider :=
  e.provider.filter fun p => p.assignedID = assignedID

/-- The session is held. -/
def held (e : Entry) (assignedID : String) : Bool :=
  e.recoveryHold.any fun hold => hold.assignedID = assignedID

/-- Forget the faults and the hold. -/
def clearBreakerState (e : Entry) : Entry :=
  { e with breakerFaults := [], recoveryHold := none, lastBreakerRecovery := none }

/-- `setStateLocked`. -/
def setState (e : Entry) (p : Provider) (next : State) : Entry :=
  let e' := { e with provider := some { p with state := next } }
  if next = .unavailable then e'.clearBreakerState else e'

/-- The coordinator may set this state. -/
def canSetCoordinatorState (e : Entry) (p : Provider) (next : State) : Bool :=
  if next ≠ .ready then true
  else if e.held p.assignedID then false
  else p.state ≠ .unavailable

/-- A report of this state is followed. -/
def canApplyProviderState (e : Entry) (p : Provider) (next : State) : Bool :=
  if e.held p.assignedID then next = .degraded
  else if next ≠ .ready then true
  else p.state ≠ .unavailable

/-- What a heartbeat reports. -/
structure HeartbeatUpdate where
  status : Option State
  slotsFree : ℤ
  slotsTotal : ℤ
  time : ℤ

/-- `applyHeartbeatLocked`: the time since the last one. -/
def applyHeartbeat (e : Entry) (assignedID : String) (hb : HeartbeatUpdate) : Entry × Option ℤ :=
  match e.current assignedID with
  | none => (e, none)
  | some p =>
    let p' := { p with
      lastHeartbeatAt := some hb.time, slotsFree := hb.slotsFree, slotsTotal := hb.slotsTotal }
    let gap := match p.lastHeartbeatAt with
      | none => 0
      | some prev => hb.time - prev
    let e' := { e with provider := some p' }
    match hb.status with
    | none => (e', some gap)
    | some status =>
      if status ≠ p.state ∧ e.canApplyProviderState p status then (e'.setState p' status, some gap)
      else (e', some gap)

/-- What a state update reports. -/
structure StateUpdate where
  state : State
  slotsFree : Option ℤ
  slotsTotal : Option ℤ

/-- `ApplyStateUpdate`. -/
def applyStateUpdate (e : Entry) (assignedID : String) (update : StateUpdate) : Entry × Bool :=
  match e.current assignedID with
  | none => (e, false)
  | some p =>
    -- the slots, and the receipt key that this update commits
    let p' := { p with
      slotsFree := update.slotsFree.getD p.slotsFree
      slotsTotal := update.slotsTotal.getD p.slotsTotal
      pendingReceiptPubkey := [] }
    if e.canApplyProviderState p update.state then (e.setState p' update.state, true)
    else ({ e with provider := some p' }, true)

/-! ### What the coordinator asks for -/

/-- `MarkState`: whether the state was set. -/
def markState (e : Entry) (assignedID : String) (state : State) : Entry × Bool :=
  match e.current assignedID with
  | none => (e, false)
  | some p => if e.canSetCoordinatorState p state then (e.setState p state, true) else (e, false)

/-- Degrade the session and hold it. -/
def hold (e : Entry) (p : Provider) (reason : RecoveryReason) : Entry :=
  { e.setState p .degraded with recoveryHold := some ⟨p.assignedID, reason⟩ }

/-- A hold for a canary is kept. -/
def markDegradedForRecovery (e : Entry) (assignedID : String) (reason : RecoveryReason) :
    Entry × Bool :=
  match e.current assignedID with
  | none => (e, false)
  | some p =>
    if e.recoveryHold = some ⟨assignedID, .canary⟩ then (e, false) else (e.hold p reason, true)

/-- A hold ends, unless it is for a canary. -/
def markRecovered (e : Entry) (assignedID : String) (time : ℤ) : Entry × Bool :=
  match e.current assignedID, e.recoveryHold with
  | some p, some hold =>
    if hold.assignedID ≠ assignedID ∨ hold.reason = .canary then (e, false)
    else
      let e' := { e.setState p .ready with breakerFaults := [], recoveryHold := none }
      (if hold.reason = .breaker then { e' with lastBreakerRecovery := some time } else e', true)
  | _, _ => (e, false)

/-- What a fault led to. -/
inductive Trip
  | none
  | degraded
  | unavailable
  | floorHeld
deriving DecidableEq

/-- The faults in the window, and what they led to. -/
structure BreakerFaultResult where
  count : ℕ
  threshold : ℤ
  tripped : Trip

/-- `RecordBreakerFault`: too many faults degrade; just recovered, it is taken out. -/
def recordBreakerFault (e : Entry) (assignedID : String) (time threshold window : ℤ) :
    Entry × BreakerFaultResult :=
  let threshold := if threshold ≤ 0 then 2 else threshold
  let window := if window ≤ 0 then 120000000000 else window
  match e.current assignedID with
  | .none => (e, ⟨0, threshold, .none⟩)
  | some p =>
    if p.state ≠ .ready ∧ p.state ≠ .busy then (e, ⟨0, threshold, .none⟩)
    else
      let kept := e.breakerFaults.filter (fun faultAt => time - window ≤ faultAt) ++ [time]
      let e' := { e with breakerFaults := kept }
      if (kept.length : ℤ) < threshold then (e', ⟨kept.length, threshold, .none⟩)
      else if e.lastBreakerRecovery.any fun recoveredAt => time - recoveredAt ≤ window then
        (e'.setState p .unavailable, ⟨kept.length, threshold, .unavailable⟩)
      else (e'.hold p .breaker, ⟨kept.length, threshold, .degraded⟩)

/-- What is reported about a canary. -/
structure CanaryResult where
  current : Bool
  passed : Bool
  count : ℕ
  threshold : ℤ
  tier : Option Tier
  tripped : Trip
  sanctionCleared : Bool

/-- A hold for an earlier failure ends. -/
def canaryPassed (e : Entry) (assignedID : String) (p : Provider) : Entry × Bool :=
  let e' := { e with provider := some { p with canaryFailCount := 0 }, canarySanction := none }
  if e.recoveryHold = some ⟨assignedID, .canary⟩ then
    ({ e' with recoveryHold := none }.setState { p with canaryFailCount := 0 } .ready, true)
  else (e', e.canarySanction.isSome)

/-- `floorHeld` spares the last one for its model. -/
def canaryFailed (e : Entry) (p : Provider) (time threshold : ℤ) (floorHeld : Bool) :
    Entry × ℕ × Trip :=
  let p' := { p with canaryFailCount := p.canaryFailCount + 1, canaryLastFailedAt := some time }
  let e' := { e with provider := some p' }
  if (p'.canaryFailCount : ℤ) < threshold then (e', p'.canaryFailCount, .none)
  else if floorHeld then (e', p'.canaryFailCount, .floorHeld)
  else if p.tier = .provisional then (e'.setState p' .unavailable, p'.canaryFailCount, .unavailable)
  else
    let sanction := ⟨p'.canaryFailCount, p'.canaryLastCheckedAt, p'.canaryLastFailedAt⟩
    ({ e'.hold p' .canary with canarySanction := some sanction }, p'.canaryFailCount, .degraded)

/-- `RecordCanaryResult`. -/
def recordCanaryResult (e : Entry) (assignedID : String) (passed : Bool) (time threshold : ℤ)
    (floorHeld : Bool) : Entry × CanaryResult :=
  let threshold := if threshold ≤ 0 then 3 else threshold
  match e.current assignedID with
  | none => (e, ⟨false, false, 0, threshold, none, .none, false⟩)
  | some p =>
    if p.state = .draining ∨ p.state = .unavailable ∨
        (e.recoveryHold = some ⟨assignedID, .canary⟩ ∧ p.state ≠ .degraded) then
      (e, ⟨true, passed, 0, threshold, some p.tier, .none, false⟩)
    else
      let p' := { p with canaryLastCheckedAt := some time }
      if passed then
        let r := e.canaryPassed assignedID p'
        (r.1, ⟨true, true, 0, threshold, some p.tier, .none, r.2⟩)
      else
        let r := e.canaryFailed p' time threshold floorHeld
        (r.1, ⟨true, false, r.2.1, threshold, some p.tier, r.2.2, false⟩)

/-- A degraded session stays held. -/
def clearCanarySanction (e : Entry) : Entry × Bool :=
  let clearedProvider := e.provider.map fun p =>
    { p with canaryFailCount := 0, canaryLastFailedAt := none }
  let hadRuntimeState :=
    e.provider.any fun p => 0 < p.canaryFailCount || p.canaryLastFailedAt.isSome
  let e' := { e with provider := clearedProvider, canarySanction := none }
  match e.recoveryHold with
  | some ⟨assignedID, .canary⟩ =>
    if e.provider.any fun p => p.assignedID = assignedID && p.state = .degraded then
      ({ e' with recoveryHold := some ⟨assignedID, .operatorClear⟩ }, true)
    else ({ e' with recoveryHold := none }, true)
  | _ => (e', e.canarySanction.isSome || hadRuntimeState)

/-! ### Sessions come and go -/

/-- The session has shown a credential. -/
def credentialBearing : AuthState → Bool
  | .bearerValidated | .selfMinted | .selfMintedVerified => true
  | _ => false

/-- The existing session is not given up. -/
def refuses (existing p : Provider) : Bool :=
  p.authState = .bearerlessDuplicate ||
  (p.admissionSandboxCredentialBypassed && p.authState ≠ .bearerValidated &&
    credentialBearing existing.authState) ||
  (existing.authState = .bearerValidated && existing.routingEligible &&
    p.authState ≠ .bearerValidated)

/-- A sanctioned provider starts held. -/
def applyCanarySanction (e : Entry) (p : Provider) : Entry :=
  match e.canarySanction with
  | none => e
  | some sanction =>
    if p.tier ≠ .pinned then e
    else
      e.hold { p with
        canaryFailCount := sanction.failCount
        canaryLastCheckedAt := sanction.lastCheckedAt
        canaryLastFailedAt := sanction.lastFailedAt } .canary

/-- `RegisterAtDetailed`. `staged` is the waiting receipt key, or `none` if it is refused. -/
def register (e : Entry) (p : Provider) (staged : Option (List UInt8)) : Entry × Bool :=
  if e.provider.any fun existing => refuses existing p then (e, false)
  else match staged with
    | none => (e, false)
    | some key =>
      let p' := { p with pendingReceiptPubkey := key }
      (applyCanarySanction { e.clearBreakerState with provider := some p' } p', true)

/-- The session is gone. -/
def remove (e : Entry) : Entry := { e.clearBreakerState with provider := none }

/-- Remove the session if it is current. -/
def removeIfSession (e : Entry) (assignedID : String) : Entry × Bool :=
  match e.current assignedID with
  | none => (e, false)
  | some _ => (e.remove, true)

/-- If it is current and in this state. -/
def removeIfSessionState (e : Entry) (assignedID : String) (state : State) : Entry × Bool :=
  match e.current assignedID with
  | none => (e, false)
  | some p => if p.state = state then (e.remove, true) else (e, false)

end Entry

/-! ### Runs -/

/-- The registry. -/
abbrev Sessions := String → Entry

/-- Only the stored sanctions. -/
def Sessions.init (sanctions : String → Option CanarySanction) : Sessions :=
  fun providerID => ⟨none, [], none, sanctions providerID, none⟩

/-- A method on an entry, with the state its handler passes on. -/
inductive Method
  | heartbeat (assignedID : String) (hb : Entry.HeartbeatUpdate)
  | stateUpdate (assignedID : String) (update : Entry.StateUpdate)
  | drainStatus (assignedID : String) (starting : Bool)
  | markState (assignedID : String) (state : State)
  | markDegradedForRecovery (assignedID : String) (reason : RecoveryReason)
  | markRecovered (assignedID : String) (time : ℤ)
  | recordBreakerFault (assignedID : String) (time threshold window : ℤ)
  | recordCanaryResult (assignedID : String) (passed : Bool) (time threshold : ℤ) (floorHeld : Bool)
  | clearCanarySanction
  | register (p : Provider) (staged : Option (List UInt8))
  | removeIfSession (assignedID : String)
  | removeIfSessionState (assignedID : String) (state : State)

/-- What the method makes of the entry. -/
def Method.apply (e : Entry) : Method → Entry
  | .heartbeat assignedID hb => (e.applyHeartbeat assignedID hb).1
  | .stateUpdate assignedID update => (e.applyStateUpdate assignedID update).1
  | .drainStatus assignedID starting =>
    if starting then (e.markState assignedID .draining).1 else e
  | .markState assignedID state => (e.markState assignedID state).1
  | .markDegradedForRecovery assignedID reason => (e.markDegradedForRecovery assignedID reason).1
  | .markRecovered assignedID time => (e.markRecovered assignedID time).1
  | .recordBreakerFault assignedID time threshold window =>
    (e.recordBreakerFault assignedID time threshold window).1
  | .recordCanaryResult assignedID passed time threshold floorHeld =>
    (e.recordCanaryResult assignedID passed time threshold floorHeld).1
  | .clearCanarySanction => e.clearCanarySanction.1
  | .register p staged => (e.register p staged).1
  | .removeIfSession assignedID => (e.removeIfSession assignedID).1
  | .removeIfSessionState assignedID state => (e.removeIfSessionState assignedID state).1

/-- A method for a provider. -/
structure Call where
  providerID : String
  method : Method

/-- One call. -/
def step (r : Sessions) (c : Call) : Sessions :=
  Function.update r c.providerID (c.method.apply (r c.providerID))

end MacProvider.Coordinator.Pool.Registry
