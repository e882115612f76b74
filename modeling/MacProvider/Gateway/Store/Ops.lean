import MacProvider.Gateway.Store.Schema
import MacProvider.Lib.Transactions
import Mathlib.Data.List.Sort

/-! # The operations of the gateway store

Each method that opens a `beginImmediate` transaction is an `ImmediateOp`. The clock argument is
`time.Now()`, which is read only for arguments left zero. -/

namespace MacProvider.Gateway.Store.Ops

open Gateway.Time Store.Schema Lib.Transactions

/-! ### Statements -/

/-- A statement on the tables. -/
abbrev Stmt (β : Type) := Db → Except SqlErr (Db × β)

/-- The row of a key. -/
def selectReservation (k : Key) : Stmt (Option QuotaRow) := fun db => .ok (db, db.quota.find? k)

/-- `UPDATE`, and `RowsAffected`. -/
def updateReservations (p : QuotaRow → Bool) (f : QuotaRow → QuotaRow)
    (hf : ∀ r, (f r).key = r.key) : Stmt ℕ := fun db =>
  .ok ({ db with quota := db.quota.update p f hf }, db.quota.countWhere p)

/-- `INSERT INTO quota_reservations`. -/
def insertReservation (r : QuotaRow) : Stmt Unit := fun db =>
  if r.check then
    match db.quota.insert r with
    | some t => .ok ({ db with quota := t }, ())
    | none => .error .unique
  else .error .check

/-- `DELETE`, and `RowsAffected`. -/
def deleteReservations (p : QuotaRow → Bool) : Stmt ℕ := fun db =>
  .ok ({ db with quota := db.quota.delete p }, db.quota.countWhere p)

/-- `INSERT INTO usage_events`. -/
def insertUsage (u : UsageRow) : Stmt Unit := fun db =>
  if u.check then
    match db.usage.insert u with
    | some t => .ok ({ db with usage := t }, ())
    | none => .error .unique
  else .error .check

/-- `INSERT OR IGNORE INTO usage_events`. -/
def insertOrIgnoreUsage (u : UsageRow) : Stmt ℕ := fun db =>
  match insertUsage u db with
  | .ok (db', ()) => .ok (db', 1)
  | .error _ => .ok (db, 0)

/-- `INSERT INTO demo_usage_events`. -/
def insertDemoUsage (d : DemoUsageRow) : Stmt Unit := fun db =>
  if d.check then
    match db.demo.insert d with
    | some t => .ok ({ db with demo := t }, ())
    | none => .error .unique
  else .error .check

/-- SQLite raises an error instead of wrapping. -/
def selectSum (s : Db → ℤ) : Stmt ℤ := fun db =>
  if s db ≤ maxInt64 then .ok (db, s db) else .error .overflow

/-- `UPDATE concurrency_reservations SET f WHERE p`. -/
def updateLeases (p : LeaseRow → Bool) (f : LeaseRow → LeaseRow) (hf : ∀ r, (f r).key = r.key) :
    Stmt ℕ := fun db =>
  .ok ({ db with leases := db.leases.update p f hf }, db.leases.countWhere p)

/-- `SELECT COUNT(*)`. -/
def countLeases (p : LeaseRow → Bool) : Stmt ℕ := fun db => .ok (db, db.leases.countWhere p)

/-- `INSERT INTO concurrency_reservations`. -/
def insertLease (r : LeaseRow) : Stmt Unit := fun db =>
  match db.leases.insert r with
  | some t => .ok ({ db with leases := t }, ())
  | none => .error .unique

/-- A method on `beginImmediate`. -/
structure ImmediateOp (σ ρ : Type) where
  /-- Its result when `beginImmediate` fails. -/
  fail : SqlErr → ρ
  body : Prog σ SqlErr ρ

/-- The method as a whole, under a fault. -/
def ImmediateOp.run {σ ρ : Type} (op : ImmediateOp σ ρ) (f : Fault SqlErr) (db : σ) : ρ × σ :=
  op.body.run op.fail f db

/-- A method that returns only an error. -/
abbrev ErrOp := ImmediateOp Db (Option StoreErr)

/-- An error of its own, with a rollback. -/
def refuse {σ : Type} (e : StoreErr) : Prog σ SqlErr (Option StoreErr) := .rollback (some e)

/-- `return tx.Commit()`. -/
def commitErr {σ : Type} : Prog σ SqlErr (Option StoreErr) := .commit fun e => e.map StoreErr.sql

/-! ### Quota -/

/-- `dailyUsageTx`. -/
def usedTokens (account window : String) (db : Db) : ℤ :=
  db.usage.sumWhere (fun u => u.key.accountID = account ∧ u.windowDate = window)
    UsageRow.totalTokens

/-- The active reservations of an account. -/
def activeReserved (account window : String) (db : Db) : ℤ :=
  db.quota.sumWhere
    (fun r => r.key.accountID = account ∧ r.windowDate = window ∧ r.status = .active)
    QuotaRow.reservedTokens

/-- `reapExpiredReservationsTx` expires them. -/
def reapable (now : Instant) (r : QuotaRow) : Bool :=
  decide (r.status = .active) && !r.settlementHold &&
    decide (encodeTime r.expiresAt ≤ encodeTime now)

/-- A row is closed. -/
def QuotaRow.close (r : QuotaRow) (status : ReservationStatus) (now : Instant) : QuotaRow :=
  { r with status := status, settledTokens := 0, settledAt := some now }

theorem close_key (status : ReservationStatus) (now : Instant) (r : QuotaRow) :
    (QuotaRow.close r status now).key = r.key := rfl

/-- The statement of the reaper. -/
def reapExpiredReservationsTx (clock : Instant) (now : Option Instant) : Stmt ℕ :=
  let now := now.getD clock
  updateReservations (reapable now) (fun r => QuotaRow.close r .expired now)
    (close_key .expired now)

/-- The arguments of `ReserveQuota`. -/
structure ReservationRequest where
  key : Key
  windowDate : String
  requestedTokens : ℤ
  dailyQuota : ℤ
  expiresAt : Option Instant
  createdAt : Option Instant

/-- What it returns. -/
structure QuotaDecision where
  admitted : Bool := false
  limitTokens : ℤ := 0
  usedTokens : ℤ := 0
  reservedTokens : ℤ := 0
  remainingTokens : ℤ := 0
  resetUnix : ℤ := 0

/-- The number of `n` digits, and the rest. -/
def parseDigits : ℕ → List Char → Option (ℤ × List Char)
  | 0, cs => some (0, cs)
  | n + 1, c :: cs =>
    if c.isDigit then
      (parseDigits n cs).map fun (v, rest) => ((c.toNat - 48 : ℤ) * 10 ^ n + v, rest)
    else none
  | _ + 1, [] => none

/-- Days since 0001-01-01. -/
def parseDate (s : String) : Option ℤ := do
  let (year, cs) ← parseDigits 4 s.toList
  let cs ← cs.head?.bind fun c => if c = '-' then some cs.tail else none
  let (month, cs) ← parseDigits 2 cs
  let cs ← cs.head?.bind fun c => if c = '-' then some cs.tail else none
  let (day, cs) ← parseDigits 2 cs
  let leap := isLeap year.toNat
  let m := month.toNat
  let before := daysBefore (m - 1) + if leap && decide (3 ≤ m) then 1 else 0
  let inMonth := daysBefore m - daysBefore (m - 1) + if leap && decide (m = 2) then 1 else 0
  if cs = [] ∧ 1 ≤ month ∧ month ≤ 12 ∧ 1 ≤ day ∧ day ≤ inMonth then
    let n := year - 1
    some (365 * n + n / 4 - n / 100 + n / 400 + before + day - 1)
  else none

/-- `resetUnix`: the end of the window. -/
def resetUnix (windowDate : String) : ℤ :=
  match parseDate windowDate with
  | none => 0
  | some d => (d - unixEpochDay + 1) * secondsPerDay

/-- The row it inserts. -/
def ReservationRequest.row (req : ReservationRequest) (createdAt : Instant) : QuotaRow where
  key := req.key
  windowDate := req.windowDate
  reservedTokens := req.requestedTokens
  settledTokens := 0
  status := .active
  settlementHold := false
  expiresAt := req.expiresAt.getD (createdAt + hours 24)
  createdAt := createdAt
  settledAt := none

/-- `ReserveQuota`. -/
def reserveQuota (clock : Instant) (req : ReservationRequest) :
    ImmediateOp Db (QuotaDecision × Option StoreErr) where
  fail e := ({}, some (.sql e))
  body :=
    let createdAt := req.createdAt.getD clock
    .stmt (reapExpiredReservationsTx clock (some createdAt)) fun
    | .error e => .rollback ({}, some (.sql e))
    | .ok _ => .stmt (selectReservation req.key) fun
    | .error e => .rollback ({}, some (.sql e))
    | .ok (some _) => .rollback ({}, some .reservationExists)
    | .ok none => .stmt (selectSum (usedTokens req.key.accountID req.windowDate)) fun
    | .error e => .rollback ({}, some (.sql e))
    | .ok used => .stmt (selectSum (activeReserved req.key.accountID req.windowDate)) fun
    | .error e => .rollback ({}, some (.sql e))
    | .ok reserved =>
      let remaining := wrap64 (wrap64 (req.dailyQuota - used) - reserved)
      let decision : QuotaDecision :=
        { admitted := false, limitTokens := req.dailyQuota, usedTokens := used,
          reservedTokens := reserved, remainingTokens := max 0 remaining,
          resetUnix := resetUnix req.windowDate }
      if remaining < req.requestedTokens then .rollback (decision, some .quotaExceeded)
      else .stmt (insertReservation (req.row createdAt)) fun
        | .error .unique => .rollback ({}, some .reservationExists)
        | .error e => .rollback ({}, some (.sql e))
        | .ok _ =>
          let decision :=
            { decision with
              admitted := true
              reservedTokens := wrap64 (reserved + req.requestedTokens)
              remainingTokens := max 0 (wrap64 (remaining - req.requestedTokens)) }
          .commit fun e => (decision, e.map StoreErr.sql)

/-- The arguments of a settlement. -/
structure ReservationSettlement where
  key : Key
  promptTokens : ℤ
  completionTokens : ℤ
  totalTokens : ℤ
  maxTotalTokens : ℤ
  tokenSource : String
  outcome : String
  settledAt : Option Instant

/-- The total to settle. -/
def normalizeSettlementTokens (s : ReservationSettlement) : Except StoreErr ℤ :=
  if s.promptTokens < 0 ∨ s.completionTokens < 0 ∨ s.totalTokens < 0 then
    .error (.invalid "settlement tokens must be non-negative")
  else if maxInt64 - s.completionTokens < s.promptTokens then
    .error (.invalid "settlement token total overflows int64")
  else
    let sum := s.promptTokens + s.completionTokens
    if s.totalTokens ≠ 0 ∧ s.totalTokens ≠ sum then
      .error
        (.invalid "settlement total_tokens does not match prompt_tokens plus completion_tokens")
    else if 0 < s.maxTotalTokens ∧ s.maxTotalTokens < sum then
      .error (.invalid "settlement total_tokens exceeds request maximum")
    else .ok sum

/-- A row is settled. -/
def QuotaRow.settle (r : QuotaRow) (total : ℤ) (settledAt : Instant) : QuotaRow :=
  { r with status := .settled, settledTokens := total, settledAt := some settledAt }

theorem settle_key (total : ℤ) (settledAt : Instant) (r : QuotaRow) :
    (QuotaRow.settle r total settledAt).key = r.key := rfl

/-- Its usage row. -/
def ReservationSettlement.usage (s : ReservationSettlement) (demoIdentity windowDate : String)
    (total : ℤ) (settledAt : Instant) : UsageRow where
  key := s.key
  demoIdentity := demoIdentity
  windowDate := windowDate
  promptTokens := s.promptTokens
  completionTokens := s.completionTokens
  totalTokens := total
  tokenSource := s.tokenSource
  outcome := s.outcome
  createdAt := settledAt

/-- What the two settlements share: find the active reservation, settle it, write the usage row,
then `rest`. -/
def settleWith (clock : Instant) (s : ReservationSettlement) (demoIdentity : String)
    (rest : QuotaRow → ℤ → Prog Db SqlErr (Option StoreErr)) : Prog Db SqlErr (Option StoreErr) :=
  .stmt (selectReservation s.key) fun
  | .error e => refuse (.sql e)
  | .ok none => refuse .reservationNotFound
  | .ok (some r) =>
    if r.status ≠ .active then refuse (.reservationTerminal s.key.requestID r.status)
    else
      let settledAt := s.settledAt.getD clock
      match normalizeSettlementTokens s with
      | .error e => refuse e
      | .ok total =>
        .stmt (updateReservations (fun q => decide (q.key = s.key))
          (fun q => QuotaRow.settle q total settledAt) (settle_key total settledAt)) fun
        | .error e => refuse (.sql e)
        | .ok _ => .stmt (insertUsage (s.usage demoIdentity r.windowDate total settledAt)) fun
          | .error e => refuse (.sql e)
          | .ok _ => rest r total

/-- `SettleReservation`. -/
def settleReservation (clock : Instant) (s : ReservationSettlement) : ErrOp where
  fail e := some (.sql e)
  body := settleWith clock s "" fun _ _ => commitErr

/-- A demo usage event. -/
structure DemoUsageEvent where
  requestID : String
  clientIP : String
  demoTokenHash : String
  windowDate : String
  totalTokens : ℤ
  createdAt : Option Instant

/-- Its row, completed from the settlement. -/
def DemoUsageEvent.row (d : DemoUsageEvent) (windowDate : String) (total : ℤ) (at_ : Instant) :
    DemoUsageRow where
  key := ⟨d.demoTokenHash, d.requestID⟩
  clientIP := d.clientIP
  windowDate := if d.windowDate = "" then windowDate else d.windowDate
  totalTokens := if d.totalTokens = 0 then total else d.totalTokens
  createdAt := d.createdAt.getD at_

/-- `SettleDemoReservation`. -/
def settleDemoReservation (clock : Instant) (s : ReservationSettlement) (d : DemoUsageEvent) :
    ErrOp where
  fail e := some (.sql e)
  body := settleWith clock s d.clientIP fun r total =>
    .stmt (insertDemoUsage (d.row r.windowDate total (s.settledAt.getD clock))) fun
    | .error e => refuse (.sql e)
    | .ok _ => commitErr

/-- An `UPDATE` that has to affect a row, as three methods do. -/
def closeReservation (p : QuotaRow → Bool) (f : QuotaRow → QuotaRow)
    (hf : ∀ r, (f r).key = r.key) : ErrOp where
  fail e := some (.sql e)
  body := .stmt (updateReservations p f hf) fun
    | .error e => refuse (.sql e)
    | .ok rows => if rows = 0 then refuse .reservationNotFound else commitErr

/-- The active row of a key. -/
def isActive (k : Key) (r : QuotaRow) : Bool := decide (r.key = k) && decide (r.status = .active)

/-- `RefundReservation`; in seconds. -/
def refundReservation (k : Key) (refundedAt : ℕ) : ErrOp :=
  closeReservation (isActive k) (fun r => QuotaRow.close r .refunded (seconds refundedAt))
    (close_key .refunded (seconds refundedAt))

/-- `ExpireReservation`. -/
def expireReservation (clock : Instant) (k : Key) (expiredAt : Option Instant) : ErrOp :=
  closeReservation (isActive k) (fun r => QuotaRow.close r .expired (expiredAt.getD clock))
    (close_key .expired (expiredAt.getD clock))

/-- Only a held one. -/
def markReservationStaleHeld (clock : Instant) (k : Key) (staleAt : Option Instant) : ErrOp :=
  closeReservation (fun r => isActive k r && r.settlementHold)
    (fun r => { QuotaRow.close r .staleHeld (staleAt.getD clock) with settlementHold := true })
    (close_key .staleHeld (staleAt.getD clock))

/-- `MarkReservationSettlementHold`. -/
def markReservationSettlementHold (k : Key) : ErrOp where
  fail e := some (.sql e)
  body := .stmt (selectReservation k) fun
    | .error e => refuse (.sql e)
    | .ok none => refuse .reservationNotFound
    | .ok (some r) =>
      if r.status ≠ .active then refuse (.reservationTerminal k.requestID r.status)
      else .stmt (updateReservations (isActive k) (fun r => { r with settlementHold := true })
          fun _ => rfl) fun
        | .error e => refuse (.sql e)
        | .ok _ => commitErr

/-- The stored expiry is encoded, so it decodes and is not zero. -/
def clampExpiryTx (k : Key) (expiresAt : Instant) : ErrOp where
  fail e := some (.sql e)
  body := .stmt
    (fun db => .ok (db, (db.quota.find? k).filter fun r => decide (r.status = .active))) fun
    | .error e => refuse (.sql e)
    | .ok none => refuse .reservationNotFound
    | .ok (some r) =>
      let newExpiry := if expiresAt < r.expiresAt then expiresAt else r.expiresAt
      .stmt (updateReservations (isActive k)
          (fun r => { r with expiresAt := newExpiry, settlementHold := true }) fun _ => rfl) fun
        | .error e => refuse (.sql e)
        | .ok _ => commitErr

/-- Nothing for the zero time. -/
def clampReservationExpiry (k : Key) : Option Instant → Except StoreErr ErrOp
  | none => .error (.invalid "reservation expiry cannot be zero")
  | some expiresAt => .ok (clampExpiryTx k expiresAt)

/-- `ReapExpiredReservations`. -/
def reapExpiredReservations (clock : Instant) (now : Option Instant) :
    ImmediateOp Db (ℕ × Option StoreErr) where
  fail e := (0, some (.sql e))
  body := .stmt (reapExpiredReservationsTx clock now) fun
    | .error e => .rollback (0, some (.sql e))
    | .ok n => .commit fun e => (n, e.map StoreErr.sql)

/-- The column `settled_at`. -/
def settledText (r : QuotaRow) : List Char := r.settledAt.elim [] encodeTime

/-- `DeleteTerminalQuotaReservations` deletes them. -/
def deletable (before : Instant) (r : QuotaRow) : Bool :=
  (decide (r.status = .expired) || decide (r.status = .settled) || decide (r.status = .refunded)) &&
    decide (settledText r < encodeTime before)

/-- Its transaction. -/
def deleteTerminalTx (before : Instant) : ImmediateOp Db (ℕ × Option StoreErr) where
  fail e := (0, some (.sql e))
  body := .stmt (deleteReservations (deletable before)) fun
    | .error e => .rollback (0, some (.sql e))
    | .ok n => .commit fun e => (n, e.map StoreErr.sql)

/-- Nothing for the zero time. -/
def deleteTerminalQuotaReservations :
    Option Instant → Except StoreErr (ImmediateOp Db (ℕ × Option StoreErr))
  | none => .error (.invalid "before time must be non-zero")
  | some before => .ok (deleteTerminalTx before)

/-- The order of `ORDER BY`. -/
def heldBefore (a b : QuotaRow) : Prop :=
  encodeTime a.expiresAt < encodeTime b.expiresAt ∨
    (encodeTime a.expiresAt = encodeTime b.expiresAt ∧
      encodeTime a.createdAt ≤ encodeTime b.createdAt)

instance : DecidableRel heldBefore := fun _ _ => by unfold heldBefore; infer_instance

/-- A held reservation. -/
def isHeld (r : QuotaRow) : Bool := decide (r.status = .active) && r.settlementHold

/-- Ties are in table order. -/
def listSettlementHeldReservations (limit : ℤ) (db : Db) : List QuotaRow :=
  let limit := if limit ≤ 0 then 100 else if 500 < limit then 500 else limit
  ((db.quota.rows.filter isHeld).insertionSort heldBefore).take limit.toNat

/-! ### Concurrency leases -/

/-- The arguments of `AcquireConcurrency`. -/
structure ConcurrencyRequest where
  key : Key
  limit : ℤ
  expiresAt : Option Instant
  createdAt : Option Instant

/-- What it returns. -/
structure ConcurrencyDecision where
  admitted : Bool := false
  limit : ℤ := 0
  active : ℕ := 0

/-- `AcquireConcurrency` expires them. -/
def leaseExpired (account : String) (now : Instant) (r : LeaseRow) : Bool :=
  decide (r.key.accountID = account) && decide (r.status = .active) &&
    decide (encodeTime r.expiresAt ≤ encodeTime now)

/-- The leases it counts. -/
def leaseCounted (account : String) (now : Instant) (r : LeaseRow) : Bool :=
  decide (r.key.accountID = account) && decide (r.status = .active) &&
    decide (encodeTime now < encodeTime r.expiresAt)

/-- `AcquireConcurrency`. -/
def acquireConcurrency (clock : Instant) (req : ConcurrencyRequest) :
    ImmediateOp Db (ConcurrencyDecision × Option StoreErr) where
  fail e := ({}, some (.sql e))
  body :=
    let createdAt := req.createdAt.getD clock
    let expiresAt := req.expiresAt.getD (createdAt + minutes 10)
    let account := req.key.accountID
    .stmt (updateLeases (leaseExpired account createdAt)
      (fun r => { r with status := .expired, releasedAt := some createdAt }) fun _ => rfl) fun
    | .error e => .rollback ({}, some (.sql e))
    | .ok _ => .stmt (countLeases (leaseCounted account createdAt)) fun
    | .error e => .rollback ({}, some (.sql e))
    | .ok active =>
      let decision : ConcurrencyDecision :=
        { admitted := false, limit := req.limit, active := active }
      if req.limit ≤ active then
        .commit fun
          | some e => ({}, some (.sql e))
          | none => (decision, some .quotaExceeded)
      else
        .stmt (insertLease ⟨req.key, .active, expiresAt, createdAt, none⟩) fun
        | .error e => .rollback ({}, some (.sql e))
        | .ok _ => .commit fun e =>
          ({ decision with admitted := true, active := active + 1 }, e.map StoreErr.sql)

/-- One statement on its own. -/
def releaseConcurrency (clock : Instant) (k : Key) (releasedAt : Option Instant) : Stmt ℕ :=
  updateLeases (fun r => decide (r.key = k) && decide (r.status = .active))
    (fun r => { r with status := .released, releasedAt := some (releasedAt.getD clock) })
    fun _ => rfl

end MacProvider.Gateway.Store.Ops
