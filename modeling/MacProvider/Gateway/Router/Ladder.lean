import MacProvider.Gateway.Settlement.Contents
import MacProvider.Gateway.Store.Steps
import MacProvider.Gateway.Store.Usage
import MacProvider.Lib.Rely

/-! # Settling a response that is out

`settleAfterCommit` journals the effect, settles the reservation, and falls back to a usage event
and a refund. `RecoverSettlementJournal` drives every effect without a seal or quarantine through
the same ladder. Both are programs over the store and the journal. -/

namespace MacProvider.Gateway.Router.Ladder

open Gateway.Time Store.Schema Store.Ops Store.Usage Store.Steps Gateway.Settlement
open Settlement.Format Settlement.Scan Settlement.Append Settlement.Prune Lib.Calls
open Lib.Transactions (Fault)

/-- The calls on store and journal. -/
inductive Call
  | writeEffect (r : Record)
  | writeSeal (k : Format.Key) (result : SealResult)
  | writeQuarantine (k : Format.Key) (reason : String) (attempts : ℕ)
  | scan
  | prune (before : Instant)
  | settleReservation (s : ReservationSettlement)
  | settleDemoReservation (s : ReservationSettlement) (d : DemoUsageEvent)
  /-- The insert of `EnsureUsageEvent`, behind its checks. -/
  | insertOrIgnoreUsage (ev : UsageEvent)
  | selectUsage (k : Store.Schema.Key)
  | ensureDemoUsageEvent (d : DemoUsageEvent)
  | refundReservation (k : Store.Schema.Key) (refundedAt : ℕ)
  /-- `journalAttempts`, in memory. -/
  | nextAttempt (k : Format.Key)
  | clearAttempts (k : Format.Key)

/-- Their answers. -/
def Answer : Call → Type
  | .writeEffect _ => Option Err
  | .writeSeal _ _ => Option Err
  | .writeQuarantine _ _ _ => Option Err
  | .scan => Option ScanResult
  | .prune _ => ℕ × Option PruneErr
  | .settleReservation _ => Option StoreErr
  | .settleDemoReservation _ _ => Option StoreErr
  | .insertOrIgnoreUsage _ => Except SqlErr ℕ
  | .selectUsage _ => Except SqlErr (Option UsageRow)
  | .ensureDemoUsageEvent _ => Except SqlErr ℕ
  | .refundReservation _ _ => Option StoreErr
  | .nextAttempt _ => ℕ
  | .clearAttempts _ => Unit

/-- Store, journal and counters. -/
structure World where
  db : Db
  files : Files
  attempts : Format.Key → ℕ

/-- What goes wrong during a call. -/
structure Faults where
  store : Fault SqlErr := .none
  file : Env
  scan : ScanEnv := {}
  prune : PruneEnv := {}

/-- No time is zero, so `time.Now()` is not read. -/
def exec (c : Codec) (o : Options) : (x : Call) → Faults → World → Answer x × World
  | .writeEffect r, f, w =>
    let out := Append.writeEffect c o f.file r w.files
    (out.1, { w with files := out.2 })
  | .writeSeal k result, f, w =>
    let out := Append.writeSeal c o f.file k result w.files
    (out.1, { w with files := out.2 })
  | .writeQuarantine k reason attempts, f, w =>
    let out := Append.writeQuarantine c o f.file k reason attempts w.files
    (out.1, { w with files := out.2 })
  | .scan, f, w => (Prune.scan c f.scan w.files.disk, w)
  | .prune before, f, w =>
    let out := Prune.prune c before f.prune w.files
    (out.1, { w with files := out.2 })
  | .settleReservation s, f, w =>
    let out := (Store.Ops.settleReservation 0 s).run f.store w.db
    (out.1, { w with db := out.2 })
  | .settleDemoReservation s d, f, w =>
    let out := (Store.Ops.settleDemoReservation 0 s d).run f.store w.db
    (out.1, { w with db := out.2 })
  | .insertOrIgnoreUsage ev, f, w =>
    let out := execContext (Store.Ops.insertOrIgnoreUsage (ev.row 0)) f.store w.db
    (out.1, { w with db := out.2 })
  | .selectUsage k, f, w =>
    let out := execContext (Store.Usage.selectUsage k) f.store w.db
    (out.1, { w with db := out.2 })
  | .ensureDemoUsageEvent d, f, w =>
    let out := execContext (Store.Usage.ensureDemoUsageEvent 0 d) f.store w.db
    (out.1, { w with db := out.2 })
  | .refundReservation k t, f, w =>
    let out := (Store.Ops.refundReservation k t).run f.store w.db
    (out.1, { w with db := out.2 })
  | .nextAttempt k, _, w =>
    (w.attempts k + 1, { w with attempts := Function.update w.attempts k (w.attempts k + 1) })
  | .clearAttempts k, _, w => ((), { w with attempts := Function.update w.attempts k 0 })

/-! ### The rungs -/

section Rungs
variable {α : Type}

/-- The key of a record in the store. -/
def storeKey (r : Record) : Store.Schema.Key := ⟨r.accountID, r.requestID⟩

/-- With the total of the caller. -/
def settlement (r : Record) (total : ℤ) (settledAt : Instant) : ReservationSettlement :=
  ⟨storeKey r, r.promptTokens, r.completionTokens, total, r.maxTotalTokens, r.tokenSource,
    r.outcome, some settledAt⟩

/-- `SettleDemoReservation` for a demo. -/
def settle (r : Record) (total : ℤ) (settledAt createdAt : Instant)
    (k : Option StoreErr → Prog Answer α) : Prog Answer α :=
  if r.demoIdentity ≠ "" then
    .call (.settleDemoReservation (settlement r total settledAt)
      ⟨r.requestID, r.demoIdentity, r.demoTokenHash, "", 0, some createdAt⟩) k
  else .call (.settleReservation (settlement r total settledAt)) k

/-- The usage event of an effect. -/
def usageEvent (r : Record) (createdAt : Instant) : UsageEvent :=
  ⟨storeKey r, r.demoIdentity, r.windowDate, r.promptTokens, r.completionTokens, r.totalTokens,
    r.tokenSource, r.outcome, some createdAt⟩

/-- `EnsureUsageEvent`. -/
def ensureUsageEvent (ev : UsageEvent) (k : Option StoreErr → Prog Answer α) : Prog Answer α :=
  let ev := ev.normalized
  match checkUsageTokens ev with
  | .error e => k (some e)
  | .ok total =>
    .call (.insertOrIgnoreUsage { ev with totalTokens := total }) fun
    | .error e => k (some (.sql e))
    | .ok affected =>
      if 0 < affected then k none
      else .call (.selectUsage ev.key) fun
        | .error e => k (some (.sql e))
        | .ok none => k (some .noRows)
        | .ok (some u) => if ev.sameBill u then k none else k (some .usageEventConflict)

/-- `EnsureDemoUsageEvent`, its error ignored. -/
def ensureDemo (r : Record) (createdAt : Instant) (k : Prog Answer α) : Prog Answer α :=
  if r.demoIdentity ≠ "" then
    .call (.ensureDemoUsageEvent ⟨r.requestID, r.demoIdentity, r.demoTokenHash, r.windowDate,
      r.totalTokens, some createdAt⟩) fun _ => k
  else k

/-- `RefundReservation(.., s.now().Unix())`. -/
def refund (r : Record) (now : Instant) (k : Option StoreErr → Prog Answer α) : Prog Answer α :=
  .call (.refundReservation (storeKey r) (now / nanosPerSecond)) k

/-- Refunded, or nothing to refund. -/
def released (refundErr : Option StoreErr) : Bool := refundErr.all StoreErr.isGone

/-- A lost seal is logged. -/
def sealSettlementEffect (key : Format.Key) (result : SealResult) (k : Prog Answer α) :
    Prog Answer α :=
  .call (.writeSeal key result) fun _ => k

/-- Arguments of `settleAfterCommit`, and its clock. -/
structure AfterCommit where
  accountID : String
  requestID : String
  demoIdentity : String
  demoTokenHash : String
  promptTokens : ℤ
  completionTokens : ℤ
  maxTotal : ℤ
  source : String
  outcome : String
  reservationWindow : String
  now : ℕ → Instant

/-- The window of the reservation, or today's. -/
def AfterCommit.window (x : AfterCommit) : String :=
  if x.reservationWindow = "" then windowDate (x.now 0) else x.reservationWindow

/-- The effect that is journaled. -/
def AfterCommit.record (x : AfterCommit) : Record where
  kind := .effect
  accountID := x.accountID
  requestID := x.requestID
  effect := effectSettle
  windowDate := x.window
  promptTokens := x.promptTokens
  completionTokens := x.completionTokens
  totalTokens := wrap64 (x.promptTokens + x.completionTokens)
  maxTotalTokens := x.maxTotal
  tokenSource := x.source
  outcome := x.outcome
  demoIdentity := x.demoIdentity
  demoTokenHash := x.demoTokenHash

/-- Behind the effect record, without which nothing is sealed. -/
def settleArmed (x : AfterCommit) (armed : Bool) (done : Prog Answer α) : Prog Answer α :=
  settle x.record 0 (x.now 1) (x.now 2) fun
  | none => if armed then sealSettlementEffect x.record.key .settled done else done
  | some _ => ensureUsageEvent (usageEvent x.record (x.now 3)) fun
    | some _ => refund x.record (x.now 4) fun _ => done
    | none => ensureDemo x.record (x.now 4) (refund x.record (x.now 5) fun refundErr =>
        if released refundErr && armed then
          sealSettlementEffect x.record.key .usageEvent done
        else done)

/-- `settleAfterCommit`. -/
def settleAfterCommit (x : AfterCommit) (done : Prog Answer α) : Prog Answer α :=
  .call (.writeEffect x.record) fun (journalErr : Option Err) =>
    settleArmed x journalErr.isNone done

/-! ### `RecoverSettlementJournal` -/

/-- What a re-drive comes to. -/
inductive Recovered
  | settled | usageEvent | quarantined | retry

/-- The attempts before a quarantine. -/
def settlementJournalMaxConflictAttempts : ℕ := 10

/-- An effect is given up. -/
def quarantineSettlementEffect (key : Format.Key) (reason : String) (attempts : ℕ)
    (k : Recovered → Prog Answer α) : Prog Answer α :=
  .call (.writeQuarantine key reason attempts) fun _ =>
    .call (.clearAttempts key) fun _ => k .quarantined

/-- The hold is released, then the attempt counted. -/
def redriveConflict (r : Record) (now : ℕ → Instant) (k : Recovered → Prog Answer α) :
    Prog Answer α :=
  refund r (now 3) fun refundErr =>
    if !released refundErr then k .retry
    else .call (.nextAttempt r.key) fun (attempts : ℕ) =>
      if attempts < settlementJournalMaxConflictAttempts then k .retry
      else quarantineSettlementEffect r.key "usage_event_conflict" attempts k

/-- The refund, and the seal if no hold is left. -/
def redriveBilled (r : Record) (now : ℕ → Instant) (k : Recovered → Prog Answer α) :
    Prog Answer α :=
  ensureDemo r (now 3) (refund r (now 4) fun refundErr =>
    if !released refundErr then k .retry
    else sealSettlementEffect r.key .usageEvent
      (.call (.clearAttempts r.key) fun _ => k .usageEvent))

/-- One effect is driven. -/
def redriveSettlementEffect (r : Record) (now : ℕ → Instant)
    (k : Except StoreErr Recovered → Prog Answer α) : Prog Answer α :=
  if r.effect ≠ effectSettle then k (.ok .retry)
  else if !r.tokensConsistent then
    quarantineSettlementEffect r.key "token_totals_inconsistent" 0 fun res => k (.ok res)
  else settle r r.totalTokens (now 0) (now 1) fun
    | none => sealSettlementEffect r.key .settled
        (.call (.clearAttempts r.key) fun _ => k (.ok .settled))
    | some _ => ensureUsageEvent (usageEvent r (now 2)) fun
      | some .usageEventConflict => redriveConflict r now fun res => k (.ok res)
      | some e => k (.error e)
      | none => redriveBilled r now fun res => k (.ok res)

/-- The counts of a pass. -/
structure Summary where
  scanned : ℕ := 0
  recovered : ℕ := 0
  settled : ℕ := 0
  usageEvents : ℕ := 0
  quarantined : ℕ := 0
  skipped : ℕ := 0
  retried : ℕ := 0
  errors : ℕ := 0
  pruned : ℕ := 0
  malformed : ℕ := 0
  unsealed : ℕ := 0

/-- One effect is counted. -/
def Summary.count (s : Summary) : Except StoreErr Recovered → Summary
  | .error _ => { s with errors := s.errors + 1 }
  | .ok .settled => { s with settled := s.settled + 1, recovered := s.recovered + 1 }
  | .ok .usageEvent => { s with usageEvents := s.usageEvents + 1, recovered := s.recovered + 1 }
  | .ok .quarantined => { s with quarantined := s.quarantined + 1 }
  | .ok .retry => { s with retried := s.retried + 1 }

/-- Argument, configuration, clock and context. -/
structure Pass where
  limit : ℤ
  graceSeconds : ℤ
  retentionHours : ℕ
  now : Instant
  /-- `ctx.Err() != nil` before the `i`-th effect. -/
  cancelled : ℕ → Bool
  /-- The readings of `s.now()` during the re-drive of the `i`-th effect. -/
  clock : ℕ → ℕ → Instant

/-- How many effects it drives. -/
def Pass.effects (p : Pass) : ℤ :=
  if p.limit ≤ 0 then 100 else if 500 < p.limit then 500 else p.limit

/-- The effect is too young. -/
def Pass.graced (p : Pass) (r : Record) : Bool :=
  decide (0 < p.graceSeconds) &&
    decide ((p.now : ℤ) - r.writtenAtUnixMS * 1000000 < p.graceSeconds * nanosPerSecond)

/-- How a program ends. -/
inductive Outcome
  | settled
  | recovered (s : Summary)
  | scanFailed

/-- The end of a pass. -/
def pruneSealed (p : Pass) (s : Summary) : Prog Answer Outcome :=
  if 0 < p.retentionHours then
    .call (.prune (p.now - hours p.retentionHours)) fun (out : ℕ × Option PruneErr) =>
      .ret (.recovered { s with pruned := out.1 })
  else .ret (.recovered s)

/-- The loop, from the `i`-th effect on. -/
def redriveUnsealed (p : Pass) : ℕ → List Record → Summary → Prog Answer Outcome
  | _, [], s => pruneSealed p s
  | i, r :: rs, s =>
    if p.effects ≤ s.scanned then pruneSealed p s
    else if p.cancelled i then pruneSealed p s
    else if p.graced r then redriveUnsealed p (i + 1) rs { s with skipped := s.skipped + 1 }
    else redriveSettlementEffect r (p.clock i) fun res =>
      redriveUnsealed p (i + 1) rs ({ s with scanned := s.scanned + 1 }.count res)

/-- `RecoverSettlementJournal`. -/
def recoverSettlementJournal (p : Pass) : Prog Answer Outcome :=
  .call .scan fun
  | none => .ret .scanFailed
  | some res => redriveUnsealed p 0 res.unsealed
      { malformed := res.malformed, unsealed := res.unsealed.length }

end Rungs

/-! ### The machine -/

/-- A request behind its response, or a pass. -/
inductive Thread
  | settle (x : AfterCommit)
  | recover (p : Pass)

/-- Its program. -/
def Thread.prog : Thread → Prog Answer Outcome
  | settle x => settleAfterCommit x (.ret .settled)
  | recover p => recoverSettlementJournal p

/-- Other methods of the store, or a new process. -/
inductive Event
  | store (op : Op) (f : Fault SqlErr)
  | restart (pid : ℕ)

/-- A stop loses what is in memory. -/
def happen : Event → World → World
  | .store op f, w => { w with db := op.run f w.db }
  | .restart pid, w => { w with files := openJournal w.files.disk pid, attempts := fun _ => 0 }

variable {ι : Type} [DecidableEq ι]

/-- The programs over the world. -/
abbrev Runs (ι : Type) := Pool ι Answer Outcome World

/-- One step. -/
def step (c : Codec) (o : Options) : Runs ι → Act ι Event Faults → Runs ι :=
  Pool.step (fun _ => exec c o) happen

/-- Before the first call. -/
def start (threads : ι → Thread) (w : World) : Runs ι := ⟨fun i => (threads i).prog, w⟩

end MacProvider.Gateway.Router.Ladder
