import MacProvider.Coordinator.Billing.Claim
import MacProvider.Coordinator.Billing.Settlement
import MacProvider.Coordinator.Payout.Database
import MacProvider.Coordinator.Payout.Receipts
import MacProvider.Lib.Transactions

/-! # The state of the payout system

Database, clock and chain, with the calls of the programs and the steps of others. What RPCs, signer
and clock answer, and whether a transaction fails, is up to a `Choice`. -/

namespace MacProvider.Coordinator.Payout.System

open MacProvider.Gateway Gateway.Time Lib.Tables Lib.Rlp Lib.Transactions Billing.Schema
open Billing.Settlement Billing.Claim Evm.Codec Evm.Transfers Payout.Addresses Payout.Attempts
open Payout.Receipts Payout.Database

/-! ### The chain -/

/-- The wallet's transactions by nonce; final ones are not reverted. -/
structure Chain where
  mined : List Bytes
  final : List Bytes
  nodup : (mined.map txNonce).Nodup
  mem_mined : ∀ raw ∈ final, raw ∈ mined

namespace Chain

/-- Nothing is on the chain. -/
def empty : Chain := ⟨[], [], List.nodup_nil, fun _ h => h⟩

/-- A transaction can be mined if its nonce is free. -/
def mine (raw : Bytes) (c : Chain) : Chain :=
  if h : (txNonce raw).isSome ∧ txNonce raw ∉ c.mined.map txNonce then
    { c with
      mined := raw :: c.mined
      nodup := List.nodup_cons.mpr ⟨h.2, c.nodup⟩
      mem_mined := fun r hr => List.mem_cons_of_mem raw (c.mem_mined r hr) }
  else c

/-- It reverts what is not final. -/
def reorg (keep : Bytes → Bool) (c : Chain) : Chain :=
  { c with
    mined := c.mined.filter fun raw => keep raw || c.final.contains raw
    nodup := c.nodup.sublist (List.filter_sublist.map txNonce)
    mem_mined := fun raw hr => List.mem_filter.mpr ⟨c.mem_mined raw hr, by simp [hr]⟩ }

/-- A mined transaction becomes final. -/
def finalize (raw : Bytes) (c : Chain) : Chain :=
  if h : raw ∈ c.mined then
    { c with
      final := raw :: c.final
      mem_mined := fun r hr => (List.mem_cons.mp hr).elim (fun e => e ▸ h) (c.mem_mined r) }
  else c

theorem eq_of_txNonce {c : Chain} {a b : Bytes} (ha : a ∈ c.mined) (hb : b ∈ c.mined)
    (h : txNonce a = txNonce b) : a = b :=
  List.inj_on_of_nodup_map c.nodup ha hb h

end Chain

/-- The state of the system. -/
structure World where
  db : Db
  clock : Instant
  chain : Chain
  /-- The broadcasts that an RPC has accepted, in their order. -/
  accepted : List (Bytes × Instant)

namespace World

/-- Nothing has been attempted. -/
def initial (ledger : Ledger) (registry : Registry) (chain : Chain) (clock : Instant) : World :=
  { db := { attempts := .empty, nextNonce := none, lease := none, ledger, registry }
    clock, chain, accepted := [] }

/-- The attempts. -/
abbrev rows (w : World) : List Attempt := w.db.attempts.rows

/-- The world with another ledger. -/
def setLedger (w : World) (l : Ledger) : World := { w with db := { w.db with ledger := l } }

/-- The world behind a statement on an attempt. -/
def note (w : World) (payoutID attemptSeq : ℕ) (n : AttemptTable.Note) : World :=
  { w with db := { w.db with attempts := w.db.attempts.note payoutID attemptSeq n } }

end World

/-! ### Calls -/

/-- Calls that write nothing. -/
inductive Query
  | now
  | transactionCounts
  | halted
  | allowRate
  | selfFence
  | selectReady (now : Instant)
  | balance
  | lookupExistingLatest (payoutID : ℕ)
  | lookupLiveCancels (payoutID : ℕ)
  | receipts (txHash : String)
  | transactions (txHash : String)

/-- The answers; `none` is an error. -/
@[reducible] def Query.Answer : Query → Type
  | now => Instant
  | transactionCounts => Option (UInt64 × UInt64)
  | halted => Bool
  | allowRate => Bool
  | selfFence => Except RowErr Unit
  | selectReady _ => Option (List ReadyRow)
  | balance => Option ℤ
  | lookupExistingLatest _ => Option (Option Attempt)
  | lookupLiveCancels _ => Option (List Attempt)
  | receipts _ => ReceiptPoll
  | transactions _ => Option Transaction × Option Transaction

/-- The calls of the programs. -/
inductive Call
  | read (q : Query)
  | upsertNonceCursor (nextNonce : UInt64)
  | acquire
  | allocate (payoutID : ℕ) (address : String) (amount : ℤ) (balance : Option ℤ)
  | broadcast (raw : Bytes)
  | stampBroadcastAt (payoutID attemptSeq : ℕ) (now : Instant)
  | markConfirmed (payoutID attemptSeq : ℕ) (blockNumber gasUsed : ℤ) (now : Instant)
  | claimPayoutReady (payoutID : ℕ) (expectedGross : ℤ) (externalID currency : String)
  | abandon (req : AbandonRequest)

/-- Their answers. -/
@[reducible] def Answer : Call → Type
  | .read q => q.Answer
  | .upsertNonceCursor _ => Bool
  | .acquire => Bool
  | .allocate _ _ _ _ => Except RowEnd Allocated
  | .broadcast _ => SendReply
  | .stampBroadcastAt _ _ _ => Unit
  | .markConfirmed _ _ _ _ _ => Option ℕ
  | .claimPayoutReady _ _ _ _ => Option Bool
  | .abandon _ => Except Reply (Option Cancel)

/-- What the environment contributes to a call. -/
structure Choice where
  mishap : Mishap := .none
  /-- A read of the database fails. -/
  fails : Bool := false
  /-- The time between the readings of the clock in a transaction. -/
  delay₁ : ℕ := 0
  delay₂ : ℕ := 0
  signer : Signer := fun _ => none
  counts : Option (UInt64 × UInt64) := none
  halted : Bool := false
  allowRate : Bool := true
  balance : Option ℤ := none
  reply : SendReply := ⟨none, none⟩
  receipts : ReceiptPoll := ⟨none, none, none, none⟩
  transactions : Option Transaction × Option Transaction := (none, none)

/-- What a read returns. -/
def Query.answer (cfg : Config) (i : ℕ) (f : Choice) (w : World) : (q : Query) → q.Answer
  | .now => w.clock
  | transactionCounts => f.counts
  | halted => f.halted
  | allowRate => f.allowRate
  | selfFence =>
    if f.fails then .error .other
    else if w.db.holder = some i then .ok () else .error .leaseLost
  | selectReady t =>
    if f.fails then none
    else some (selectReadyPayouts w.db.ledger.payouts w.db.registry.addresses cfg.service.hotWallet
      t cfg.maxRowsPerRun)
  | balance => f.balance
  | lookupExistingLatest payoutID =>
    if f.fails then none else some (w.db.attempts.lookupExistingLatest payoutID)
  | lookupLiveCancels payoutID =>
    if f.fails then none else some (w.db.attempts.lookupLiveCancels payoutID)
  | receipts _ => f.receipts
  | transactions _ => f.transactions

/-- A call of process `i`. -/
def exec (cfg : Config) (i : ℕ) (c : Call) (f : Choice) (w : World) : Answer c × World :=
  let t₁ := w.clock + f.delay₁
  let t₂ := t₁ + f.delay₂
  match c with
  | .read q => (q.answer cfg i f w, w)
  | .upsertNonceCursor nextNonce =>
    let done := match upsertNonceCursor nextNonce w.db with
      | some db => (true, { w with db })
      | none => (false, w)
    f.mishap.settle false done w
  | .acquire =>
    let done := match acquire cfg i w.clock w.db with
      | some db => (true, { w with db })
      | none => (false, w)
    f.mishap.settle false done w
  | .allocate payoutID address amount balance =>
    let done := match
        allocateTx cfg i payoutID address amount balance f.signer w.clock t₁ t₂ w.db with
      | .ok (r, db) => (.ok r, { w with clock := t₂, db })
      | .error e => (.error e, w)
    f.mishap.settle (.error (.error .other)) done w
  | .broadcast raw =>
    (f.reply, if f.reply.acceptedAny then
      { w with accepted := w.accepted ++ [(raw, w.clock)] } else w)
  | .stampBroadcastAt payoutID attemptSeq now =>
    f.mishap.settle () ((), w.note payoutID attemptSeq (.broadcast now)) w
  | .markConfirmed payoutID attemptSeq blockNumber gasUsed now =>
    let n := .confirmed blockNumber gasUsed now
    let done := (some (w.db.attempts.noted payoutID attemptSeq n), w.note payoutID attemptSeq n)
    f.mishap.settle none done w
  | .claimPayoutReady payoutID expectedGross externalID currency =>
    let (claimed, l) :=
      claimPayoutReady payoutID expectedGross externalID currency w.clock w.db.ledger
    f.mishap.settle none (some claimed, w.setLedger l) w
  | .abandon req =>
    let done := match abandonTx cfg req f.signer w.clock t₁ t₂ w.db with
      | .ok (c, db) => (.ok c, { w with clock := t₂, db })
      | .error e => (.error e, w)
    f.mishap.settle (.error ⟨500, "internal_error"⟩) done w

/-- What a call does; what matters later is not rolled back. -/
inductive Change (cfg : Config) (i : ℕ) : Call → Choice → World → World → Prop
  | same {c f w} : Change cfg i c f w w
  | cursor {n f w} (hm : f.mishap ≠ .rolledBack) : 0 ≤ toInt n →
      Change cfg i (.upsertNonceCursor n) f w
        { w with db := { w.db with nextNonce := some (toInt n) } }
  | lease {f w} : Change cfg i .acquire f w
      { w with db := { w.db with lease := some ⟨i, w.clock⟩ } }
  | allocated {payoutID address amount balance f w r db} (hm : f.mishap ≠ .rolledBack) :
      Allocates cfg i payoutID address amount (w.clock + f.delay₁) w.db r db →
      Change cfg i (.allocate payoutID address amount balance) f w
        { w with clock := w.clock + f.delay₁ + f.delay₂, db }
  | accepted {raw f w} : Change cfg i (.broadcast raw) f w
      { w with accepted := w.accepted ++ [(raw, w.clock)] }
  | stamped {payoutID attemptSeq now f w} (hm : f.mishap ≠ .rolledBack) :
      Change cfg i (.stampBroadcastAt payoutID attemptSeq now) f w
        (w.note payoutID attemptSeq (.broadcast now))
  | confirmed {payoutID attemptSeq blockNumber gasUsed now f w} (hm : f.mishap ≠ .rolledBack) :
      Change cfg i (.markConfirmed payoutID attemptSeq blockNumber gasUsed now) f w
        (w.note payoutID attemptSeq (.confirmed blockNumber gasUsed now))
  | claimed {payoutID expectedGross externalID currency f w} (hm : f.mishap ≠ .rolledBack) :
      Change cfg i (.claimPayoutReady payoutID expectedGross externalID currency) f w (w.setLedger
        (claimPayoutReady payoutID expectedGross externalID currency w.clock w.db.ledger).2)
  | abandoned {req f w db} :
      Abandons req (w.clock + f.delay₁ + f.delay₂) w.db db →
      Change cfg i (.abandon req) f w { w with clock := w.clock + f.delay₁ + f.delay₂, db }

theorem change_settle {cfg : Config} {i : ℕ} {c : Call} {f : Choice} {w : World} {ρ : Type}
    {lost : ρ} {done : ρ × World} (h : f.mishap ≠ .rolledBack → Change cfg i c f w done.2) :
    Change cfg i c f w (f.mishap.settle lost done w).2 := by
  rcases hm : f.mishap with _ | _ | _
  · exact h (by simp [hm])
  · exact .same
  · exact h (by simp [hm])

/-- **What a call can do to the world.** -/
theorem exec_change (cfg : Config) (i : ℕ) (c : Call) (f : Choice) (w : World) :
    Change cfg i c f w (exec cfg i c f w).2 := by
  cases c with
  | read q => exact .same
  | upsertNonceCursor n =>
    refine change_settle fun hm => ?_
    split
    · next db h =>
      obtain ⟨hpos, rfl⟩ := upsertNonceCursor_some h
      exact .cursor hm hpos
    · exact .same
  | acquire =>
    refine change_settle fun hm => ?_
    split
    · next db h =>
      obtain rfl := acquire_some h
      exact .lease
    · exact .same
  | allocate pid address amount balance =>
    refine change_settle fun hm => ?_
    split
    · next r db h => exact .allocated hm (allocateTx_ok h)
    · exact .same
  | broadcast raw =>
    simp only [exec]
    split_ifs with hacc
    · exact .accepted
    · exact .same
  | stampBroadcastAt pid attemptSeq now =>
    exact change_settle .stamped
  | markConfirmed pid attemptSeq blockNumber gasUsed now =>
    exact change_settle .confirmed
  | claimPayoutReady pid expectedGross externalID currency =>
    exact change_settle .claimed
  | abandon req =>
    refine change_settle fun hm => ?_
    split
    · next r db h => exact .abandoned (abandonTx_ok h)
    · exact .same

/-- What others do. -/
inductive Event
  | tick (d : ℕ)
  | mine (raw : Bytes)
  | reorg (keep : Bytes → Bool)
  | finalize (raw : Bytes)
  | heartbeat (i : ℕ)
  | release (i : ℕ)
  /-- The poller for reorganisations takes back the confirmation of a cancel. -/
  | handleCancelReorg (payoutID attemptSeq : ℕ) (txHash : String)
  | markStale (payoutID attemptSeq : ℕ)
  | runSettlement (cfg : SettlementConfig) (windowStart windowEnd : Instant)
  /-- A claim of another caller. -/
  | claimPayoutReady (payoutID : ℕ) (expectedGross : ℤ) (externalID currency : String)
  /-- Requests add credits, operators and the receipt verifier quarantine, resolve and decide. -/
  | credits (credits : Table Credit.id) (operatorCredits : List OperatorCredit)
      (evidence : Evidence)
  | payoutAddress (req : Request)
  | pauseRegistration (paused : Bool)

/-- A step of the others. -/
def env (cfg : Config) (e : Event) (w : World) : World :=
  match e with
  | .tick d => { w with clock := w.clock + d }
  | .mine raw => { w with chain := w.chain.mine raw }
  | .reorg keep => { w with chain := w.chain.reorg keep }
  | .finalize raw => { w with chain := w.chain.finalize raw }
  | .heartbeat i => { w with db := heartbeat i w.clock w.db }
  | .release i => { w with db := release i w.db }
  | .handleCancelReorg payoutID attemptSeq txHash =>
    w.note payoutID attemptSeq (.cancelReorged txHash w.clock)
  | .markStale payoutID attemptSeq => w.note payoutID attemptSeq (.stale w.clock)
  | .runSettlement settlement windowStart windowEnd =>
    w.setLedger (runSettlement settlement windowStart windowEnd w.clock w.db.ledger)
  | .claimPayoutReady payoutID expectedGross externalID currency => w.setLedger
      (claimPayoutReady payoutID expectedGross externalID currency w.clock w.db.ledger).2
  | .credits credits operatorCredits evidence =>
    w.setLedger { w.db.ledger with credits, operatorCredits, evidence }
  | .payoutAddress req =>
    match servePayoutAddress cfg.service w.clock req w.db.registry with
    | .error _ => w
    | .ok (_, _, r) => { w with db := { w.db with registry := r } }
  | .pauseRegistration paused =>
    { w with db := { w.db with registry := { w.db.registry with paused } } }

end MacProvider.Coordinator.Payout.System
