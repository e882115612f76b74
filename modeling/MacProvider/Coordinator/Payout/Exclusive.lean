import MacProvider.Coordinator.Payout.Programs

/-! # A payout is transferred once

At most one of the transfers signed for a payout is on the chain. An old one is kept off by the
cancel with its nonce, final before the next one is signed (`Accounted.followed`). -/

namespace MacProvider.Coordinator.Payout.Exclusive

open Lib.Runs Lib.Calls Lib.Rlp Gateway.Time Billing.Schema Payout.Addresses Payout.Attempts
open Payout.Receipts Payout.Database Payout.System Payout.Runner Payout.Discipline Payout.Accounts
open Payout.Programs

/-- The transaction of an attempt is on the chain. -/
def Mined (w : World) (a : Attempt) : Prop := ∃ raw ∈ a.progress.rawSignedTx, raw ∈ w.chain.mined

instance (w : World) (a : Attempt) : Decidable (Mined w a) := by
  unfold Mined; infer_instance

section Pair
variable {w : World} (h : Accounted w.rows w.chain.final) {a b : Attempt} (ha : a ∈ w.rows)
  (hb : b ∈ w.rows) (hat : a.isCancel = false) (hbt : b.isCancel = false)
  (hp : a.payoutID = b.payoutID)
include h ha hb hat hbt hp

theorem not_mined_of_followed (hseq : a.attemptSeq < b.attemptSeq) : ¬ Mined w a := by
  rintro ⟨raw, hraw, hmined⟩
  obtain ⟨c, hc, hcancel, hnonce, rawc, hrawc, hfinal⟩ := h.followed a ha b hb hat hbt hp hseq
  obtain ⟨x, hx, hxnonce, hxdata⟩ := h.signed a ha
  obtain rfl : x = raw := Option.some.inj (hx.symm.trans hraw)
  obtain ⟨y, hy, hynonce, hydata⟩ := h.signed c hc
  obtain rfl : y = rawc := Option.some.inj (hy.symm.trans hrawc)
  -- one transaction for each nonce, but a cancel has no call data
  have hsame : x = y := by
    refine Chain.eq_of_txNonce hmined (w.chain.mem_mined y hfinal) ?_
    rw [hxnonce, hynonce, hnonce]
  rw [← hsame, hxdata, hat, hcancel] at hydata
  cases hydata

theorem eq_of_mined (hma : Mined w a) (hmb : Mined w b) : a = b := by
  refine AttemptTable.eq_of_key ha hb (Prod.ext hp ?_)
  rcases lt_trichotomy a.attemptSeq b.attemptSeq with hlt | heq | hlt
  · exact absurd hma (not_mined_of_followed h ha hb hat hbt hp hlt)
  · exact heq
  · exact absurd hmb (not_mined_of_followed h hb ha hbt hat hp.symm hlt)

end Pair

/-! ### Runs -/

instance (cfg : Config) : ∀ c f w, Decidable (Honest cfg c f w)
  | .read (.receipts txHash), f, w => inferInstanceAs (Decidable
      ((f.receipts.deep cfg.confirmationBlocks).isSome = true → DeepIsFinal w txHash))
  | .abandon req, _, w => inferInstanceAs (Decidable (req.broadcastCancelSelfTransfer = true ∧
      ∀ a ∈ w.rows, a.key = (req.payoutID, req.attemptSeq) → a.isCancel = false))
  | .read .now, _, _ | .read .transactionCounts, _, _ | .read .halted, _, _
  | .read .allowRate, _, _ | .read .selfFence, _, _ | .read (.selectReady _), _, _
  | .read .balance, _, _ | .read (.lookupExistingLatest _), _, _
  | .read (.lookupLiveCancels _), _, _ | .read (.transactions _), _, _
  | .upsertNonceCursor _, _, _ | .acquire, _, _ | .allocate _ _ _ _, _, _ | .broadcast _, _, _
  | .stampBroadcastAt _ _ _, _, _ | .markConfirmed _ _ _ _ _, _, _
  | .claimPayoutReady _ _ _ _, _, _ => .isTrue trivial

/-- **One transfer for a payout**: in every run of any processes, abandons and chain, what is
broadcast is stored, and at most one stored transfer of a payout is on the chain. -/
theorem one_mined_transfer_per_payout {cfg : Config} {scripts : ℕ → Script} {p : Payouts}
    (ledger : Ledger) (registry : Registry) (chain : Chain) (clock : Instant)
    (h : Reaches (step cfg) (Guard (Honest cfg) fun _ _ => True)
      (payoutSystem cfg scripts (World.initial ledger registry chain clock)) p) :
    (∀ x ∈ p.state.accepted, StoredBytes p.state x.1) ∧
      ∀ a ∈ p.state.rows, ∀ b ∈ p.state.rows, a.isCancel = false → b.isCancel = false →
        a.payoutID = b.payoutID → Mined p.state a → Mined p.state b → a = b := by
  have hsound : Sound True p.state :=
    (disciplined h fun _ _ _ _ _ hok hprog _ => hok.of_call hprog).1
  refine ⟨hsound.sent, fun a ha b hb hat hbt hp hma hmb => ?_⟩
  exact eq_of_mined (hsound.accounted trivial) ha hb hat hbt hp hma hmb

/-- An operator gives up the first transfer. -/
def demoAbandon : AbandonRequest :=
  { payoutID := 1, attemptSeq := 1, confirm := true, reason := "stuck",
    broadcastCancelSelfTransfer := true, tip := 3000000000, gasEstimate := 21000,
    idempotencyKey := "k" }

/-- One abandon; the others run a cycle. -/
def demoScripts : ℕ → Script
  | 1 => .abandon demoAbandon
  | _ => .runner 1

def demoCancelReceipt : Receipt :=
  { txHash := "0x", blockHash := "0x", blockNumber := 5, status := 1,
    toAddress := demoService.hotWallet, gasUsed := 21000, logs := [] }

/-- The cancel, as the RPCs report it. -/
def demoCancelTransaction : Transaction :=
  { sender := demoService.hotWallet, toAddress := demoService.hotWallet, input := [],
    value := "0x1" }

def demoCancelConfirm : Choice :=
  { demoChoice 6 with
    receipts := ⟨some demoCancelReceipt, some demoCancelReceipt, some 7, some 7⟩
    transactions := (some demoCancelTransaction, some demoCancelTransaction) }

/-- The bytes of the attempt with the key `k`. -/
def demoRaw (p : Payouts) (k : ℕ × ℕ) : Bytes :=
  ((p.state.db.attempts.table.find? k).bind fun a => a.progress.rawSignedTx).getD []

/-- It is broadcast, then abandoned with a cancel. -/
def demoAbandoned : List Runner.Action :=
  calls 0 16 (demoChoice 5) ++ [.env (.tick (minutes 5))] ++ calls 1 4 (demoChoice 5)

/-- The cancel is final; a second transfer is signed. -/
def demoSecond : List Runner.Action :=
  let cancel := demoRaw
    (run (step demoConfig) (payoutSystem demoConfig demoScripts demoWorld) demoAbandoned) (1, 2)
  demoAbandoned ++ [.env (.mine cancel), .env (.finalize cancel)] ++ calls 2 17 demoCancelConfirm

/-- The second is mined; then the first is tried. -/
def demoTransferred : List Runner.Action :=
  let p := run (step demoConfig) (payoutSystem demoConfig demoScripts demoWorld) demoSecond
  demoSecond ++ [.env (.mine (demoRaw p (1, 3))), .env (.mine (demoRaw p (1, 1)))]

theorem one_mined_transfer_per_payout_abandoned :
    let p := run (step demoConfig) (payoutSystem demoConfig demoScripts demoWorld) demoTransferred
    ((p.state.rows.filter fun a => !a.isCancel).map Attempt.key = [(1, 1), (1, 3)] ∧
      ∃ a ∈ p.state.rows, a.key = (1, 3) ∧ Mined p.state a) ∧
    (∀ x ∈ p.state.accepted, StoredBytes p.state x.1) ∧
      ∀ a ∈ p.state.rows, ∀ b ∈ p.state.rows, a.isCancel = false → b.isCancel = false →
        a.payoutID = b.payoutID → Mined p.state a → Mined p.state b → a = b := by
  refine ⟨by decide +kernel, ?_⟩
  refine one_mined_transfer_per_payout demoLedger demoRegistry .empty newYear
    (reaches_of_allowed ?_)
  decide +kernel

end MacProvider.Coordinator.Payout.Exclusive
