import MacProvider.Coordinator.Payout.System
import MacProvider.Lib.Calls

/-! # The runner and the abandon handler as programs

`internal/payout/runner.go` and `internal/payout/abandon.go`, call by call. A process reads the
nonce counts, overwrites the cursor, takes the lease and runs its cycles; an abandon is a program of
its own. `payoutSystem` is the pool of them. -/

namespace MacProvider.Coordinator.Payout.Runner

open Gateway.Time Lib.Calls Lib.Rlp Billing.Schema Evm.Codec Evm.Signing Evm.Transfers
open Payout.Addresses Payout.Attempts Payout.Receipts Payout.Database Payout.System

/-- A program of the system. -/
abbrev Run (α : Type) := Prog Answer α

/-- Make a call. -/
abbrev perform (c : Call) : Run (Answer c) := Prog.perform c

/-- Make a call that writes nothing. -/
abbrev ask (q : Query) : Run q.Answer := perform (.read q)

/-- Claim the payout of a confirmed transfer. -/
def claimAndLog (row : ReadyRow) (txHash : String) : Run RowEnd := do
  if ← ask .halted then return .ok .skipped
  else
    match ← perform
        (.claimPayoutReady row.payoutID row.grossCredits txHash "USDC-BASE") with
    | none => return .error .other
    | some false => return .ok .failed
    | some true => return .ok .paid

/-- The loop of `pollAndConfirm`. -/
def pollReceipts (cfg : Config) (txHash : String) : ℕ → Run (Option (Receipt × Receipt))
  | 0 => return none
  | n + 1 => do
    let poll ← ask (.receipts txHash)
    match poll.deep cfg.confirmationBlocks with
    | some recs => return some recs
    | none => pollReceipts cfg txHash n

/-- What the poll is told about an attempt. -/
structure Sent where
  attemptSeq : ℕ
  toAddress : String
  amount : ℤ
  txHash : Option String

/-- Mark a checked attempt, and claim. -/
def markAndClaim (row : ReadyRow) (attemptSeq : ℕ) (txHash : String) (receipt : Receipt) :
    Run RowEnd := do
  let now ← ask .now
  match ← perform (.markConfirmed row.payoutID attemptSeq (toInt receipt.blockNumber)
      (toInt receipt.gasUsed) now) with
  | none => return .error .other
  | some 0 => return .ok .skipped
  | some _ => claimAndLog row txHash

/-- Wait for receipts, check and claim. -/
def pollAndConfirm (cfg : Config) (row : ReadyRow) (a : Sent) : Run RowEnd :=
  match a.txHash with
  | none => return .error .other
  | some txHash => do
    match ← pollReceipts cfg txHash cfg.maxPolls with
    | none => return .ok .failed
    | some (recPri, recSec) =>
      if !receiptsAgree recPri recSec then return .error .other
      else if recPri.status ≠ 1 then return .ok .failed
      else do
        let txs ← ask (.transactions txHash)
        match verifyChainSideTransfer cfg.service.crypto cfg.service.hotWallet a.toAddress a.amount
            recPri recSec txs.1 txs.2 with
        | .error _ => return .error .other
        | .ok () => markAndClaim row a.attemptSeq txHash recPri

/-! ### Broadcast -/

/-- The balance behind a payment. -/
def deductPaidAmount (balance : Option ℤ) (amount : ℤ) : Option ℤ :=
  if amount ≤ 0 then balance else balance.map (· - amount)

/-- The balance stays. -/
def withBalance (balance : Option ℤ) (p : Run RowEnd) : Run (RowEnd × Option ℤ) := do
  let e ← p
  return (e, balance)

/-- With the lease, and not halted. -/
def guarded (balance : Option ℤ) (p : Run (RowEnd × Option ℤ)) : Run (RowEnd × Option ℤ) := do
  match ← ask .selfFence with
  | .error e => return (.error e, balance)
  | .ok () => do
    if ← ask .halted then return (.ok .skipped, balance)
    else p

/-- Stamp a broadcast with the time and poll. -/
def stampAndPoll (cfg : Config) (row : ReadyRow) (a : Attempt) : Run RowEnd := do
  let now ← ask .now
  perform (.stampBroadcastAt row.payoutID a.attemptSeq now)
  pollAndConfirm cfg row ⟨a.attemptSeq, a.toAddress, a.amount, a.progress.txHash⟩

/-- The stored bytes of an attempt are sent again. -/
def rebroadcastAndPoll (cfg : Config) (row : ReadyRow) (a : Attempt) (raw : Bytes)
    (balance : Option ℤ) : Run (RowEnd × Option ℤ) :=
  if a.progress.txHash = none then return (.ok .failed, balance)
  else guarded balance do
    let reply ← perform (.broadcast raw)
    if reply.acceptedAny then
      withBalance (deductPaidAmount balance a.amount) (stampAndPoll cfg row a)
    else if isNonceTooLow reply.primaryErr || isNonceTooLow reply.secondaryErr then
      withBalance balance (stampAndPoll cfg row a)
    else return (.ok .failed, balance)

/-- The stamp is read before signing. -/
def allocateBuildSignBroadcast (cfg : Config) (row : ReadyRow) (address : String) (amount : ℤ)
    (balance : Option ℤ) : Run (RowEnd × Option ℤ) := do
  match ← perform (.allocate row.payoutID address amount balance) with
  | .error e => return (e, balance)
  | .ok r => guarded balance do
    let reply ← perform (.broadcast r.raw)
    if reply.acceptedAny then do
      perform (.stampBroadcastAt row.payoutID r.attemptSeq r.now)
      withBalance (deductPaidAmount balance amount)
        (pollAndConfirm cfg row ⟨r.attemptSeq, address.toLower, amount, some r.txHash⟩)
    else return (.ok .failed, balance)

/-- The stored bytes of a cancel are sent again. -/
def rebroadcastCancel (c : Attempt) : Run Unit :=
  match c.progress.rawSignedTx with
  | none | some [] => return ()
  | some raw => do
    let reply ← perform (.broadcast raw)
    if reply.acceptedAny then do
      let now ← ask .now
      perform (.stampBroadcastAt c.payoutID c.attemptSeq now)
    else return ()

/-- Whether the cancel was confirmed by this poll. -/
def pollCancelOnce (cfg : Config) (c : Attempt) : Run Bool :=
  match c.progress.txHash with
  | none => return false
  | some txHash => do
    let poll ← ask (.receipts txHash)
    match poll.deep cfg.confirmationBlocks with
    | none => return false
    | some (recA, recB) => do
      let txs ← ask (.transactions txHash)
      if verifyCancelReceipts cfg.service.crypto cfg.service.hotWallet recA recB txs.1 txs.2 then do
        let now ← ask .now
        match ← perform (.markConfirmed c.payoutID c.attemptSeq (toInt recA.blockNumber)
            (toInt recA.gasUsed) now) with
        | none | some 0 => return false
        | some _ => return true
      else return false

/-- Whether a live cancel blocks. -/
def settleCancels (cfg : Config) : List Attempt → Run Bool
  | [] => return false
  | c :: cs =>
    if c.progress.broadcastAt = none then do
      rebroadcastCancel c
      let _ ← settleCancels cfg cs
      return true
    else if c.progress.confirmedAt = none then do
      let done ← pollCancelOnce cfg c
      let blocked ← settleCancels cfg cs
      return !done || blocked
    else settleCancels cfg cs

/-! ### Rows and cycles -/

/-- The cancels, then a fresh attempt. -/
def freshAttempt (cfg : Config) (row : ReadyRow) (address : String) (balance : Option ℤ) :
    Run (RowEnd × Option ℤ) := do
  match ← ask (.lookupLiveCancels row.payoutID) with
  | none => return (.error .other, balance)
  | some cancels => do
    if ← settleCancels cfg cancels then return (.ok .skipped, balance)
    else allocateBuildSignBroadcast cfg row address row.providerCredits balance

/-- The existing attempt decides how to go on. -/
def continueRow (cfg : Config) (row : ReadyRow) (address : String) (balance : Option ℤ) :
    Option Attempt → Run (RowEnd × Option ℤ)
  | none => freshAttempt cfg row address balance
  | some a =>
    if a.progress.confirmedAt.isSome then
      withBalance balance (claimAndLog row (a.progress.txHash.getD ""))
    else match a.progress.broadcastAt, a.progress.rawSignedTx with
    | none, some (b :: bs) => rebroadcastAndPoll cfg row a (b :: bs) balance
    | none, _ => freshAttempt cfg row address balance
    | some _, _ => withBalance balance
        (pollAndConfirm cfg row ⟨a.attemptSeq, a.toAddress, a.amount, a.progress.txHash⟩)

/-- One ready payout. -/
def processRow (cfg : Config) (row : ReadyRow) (address : String) (balance : Option ℤ) :
    Run (RowEnd × Option ℤ) := do
  match ← ask .selfFence with
  | .error e => return (.error e, balance)
  | .ok () =>
    if row.providerCredits ≤ 0 then return (.ok .failed, balance)
    else if cfg.perPayoutCap < row.providerCredits then return (.ok .capped, balance)
    else do
      match ← ask (.lookupExistingLatest row.payoutID) with
      | none => return (.error .other, balance)
      | some existing => continueRow cfg row address balance existing

/-- The ready payouts, one after the other. -/
def runRows (cfg : Config) : List ReadyRow → Option ℤ → Run Unit
  | [], _ => return ()
  | row :: rows, balance => do
    if ← ask .halted then return ()
    else
      match row.effectiveAddress with
      | none => runRows cfg rows balance
      | some address => do
        let e ← processRow cfg row address balance
        match e.1 with
        | .error .leaseLost | .ok .dailyCapTripped | .ok .insufficientFunds => return ()
        | _ => runRows cfg rows e.2

/-- One cycle. -/
def runOnce (cfg : Config) : Run Unit := do
  if ← ask .halted then return ()
  else do
    let now ← ask .now
    match ← ask (.selectReady now) with
    | none => return ()
    | some rows => do
      let balance ← ask .balance
      runRows cfg rows balance

/-- A number of cycles. -/
def runCycles (cfg : Config) : ℕ → Run Unit
  | 0 => return ()
  | n + 1 => do
    runOnce cfg
    runCycles cfg n

/-! ### Programs -/

/-- A process, up to a number of cycles. -/
def startRunner (cfg : Config) (cycles : ℕ) : Run Unit := do
  match ← ask .transactionCounts with
  | none => return ()
  | some (rpcA, rpcB) =>
    match coldStartNonceSync rpcA rpcB with
    | none => return ()
    | some chosen => do
      if ← perform (.upsertNonceCursor chosen) then do
        if ← perform .acquire then runCycles cfg cycles
        else return ()
      else return ()

theorem startRunner_cases (cfg : Config) (cycles : ℕ) : ∃ g : UInt64 → UInt64 → Run Unit,
    (startRunner cfg cycles = do
      match ← ask .transactionCounts with
      | none => return ()
      | some (rpcA, rpcB) => g rpcA rpcB) ∧
    ∀ rpcA rpcB, g rpcA rpcB = pure () ∨
      ∃ chosen, coldStartNonceSync rpcA rpcB = some chosen ∧ g rpcA rpcB = do
        if ← perform (.upsertNonceCursor chosen) then do
          if ← perform .acquire then runCycles cfg cycles
          else return ()
        else return () := by
  refine ⟨_, rfl, fun rpcA rpcB => ?_⟩
  split
  · exact Or.inl rfl
  · next h => exact Or.inr ⟨_, h, rfl⟩

/-- `ServeAbandon`. -/
def serveAbandon (cfg : Config) (req : AbandonRequest) : Run Reply :=
  if !req.complete then return ⟨400, "missing_field"⟩
  else do
    if ← ask .allowRate then
      if cfg.cancelMaxGas < req.gasEstimate then
        return ⟨422, "cancel_gas_exceeds_per_request_cap"⟩
      else do
        match ← perform (.abandon req) with
        | .error reply => return reply
        | .ok none => return ⟨200, "ok"⟩
        | .ok (some c) => do
          let reply ← perform (.broadcast c.raw)
          if reply.acceptedAny then do
            perform (.stampBroadcastAt req.payoutID c.attemptSeq c.now)
            return ⟨200, "ok"⟩
          else return ⟨200, "ok"⟩
    else return ⟨429, "rate_limited"⟩

/-- What a process does. -/
inductive Script
  | runner (cycles : ℕ)
  | abandon (req : AbandonRequest)

/-- Its program. -/
def Script.prog (cfg : Config) : Script → Run Unit
  | runner cycles => startRunner cfg cycles
  | abandon req => do
    let _ ← serveAbandon cfg req
    return ()

/-- The programs and the world. -/
abbrev Payouts := Pool ℕ Answer Unit World

/-- A step of the system. -/
abbrev Action := Act ℕ Event Choice

/-- The system at its start. -/
def payoutSystem (cfg : Config) (scripts : ℕ → Script) (w : World) : Payouts :=
  ⟨fun i => (scripts i).prog cfg, w⟩

/-- One step. -/
def step (cfg : Config) : Payouts → Action → Payouts := Pool.step (exec cfg) (env cfg)

/-! ### A small system

The setting of the runs in the modules that follow: two payouts of 90 to one provider, and a cap of
100 for a day. -/

/-- The token address has its checksum. -/
def demoKeccak (b : Bytes) : Bytes :=
  if b.length = 40 then hexDecode "0000000ff00f00f000000f00f000000000f00000".toList else b.take 20

/-- A signature recovers to the wallet. -/
def demoCrypto : Crypto :=
  { keccak := demoKeccak
    signCompact := id
    recoverCompact := fun _ _ => .ok (4 :: List.replicate 64 0x11) }

def demoConfig : Config :=
  { service := { demoService with crypto := demoCrypto }
    perPayoutCap := 100
    perDayCap := 100
    runInterval := seconds 60
    maxRowsPerRun := 10
    confirmationBlocks := 2
    maxPolls := 1
    cancelMaxGas := 1000000
    cancelMaxGasPer24h := 1000000
    perPayoutCap_pos := by decide
    perPayoutCap_le := by decide }

def demoRow (id : ℕ) : Payout :=
  { id, providerID := "p", windowStart := 0, windowEnd := id, sourceCreditCount := 1,
    grossCredits := 100, providerCredits := 90, operatorCredits := 10, minPayoutCredits := 1,
    payoutCurrency := none, payoutExternalID := none, status := .ready, createdAt := 1 }

def demoCredit (id : ℕ) : Credit :=
  { id, requestID := "r", attemptN := 1, providerID := "p", ts := 0, grossCredits := 100,
    providerCredits := 90, settled := true, settlementID := some id, quarantined := false,
    quarantineReason := none, accountScopeHash := none, policyMode := .legacy,
    policyVersion := none }

def demoLedger : Ledger :=
  { payouts := ⟨[demoRow 1, demoRow 2], by decide⟩
    credits := ⟨[demoCredit 1, demoCredit 2], by decide⟩
    operatorCredits := []
    evidence := ⟨[], [], [], []⟩ }

def demoAddressRow : AddressRow :=
  { providerID := "p", address := demoAddress '2', payoutAllowed := true, pendingUntil := none,
    rotatedFrom := none, registeredAt := 0, registeredAgainstHotWallet := demoService.hotWallet }

def demoRegistry : Registry :=
  { addresses := ⟨[demoAddressRow], List.nodup_singleton _⟩, nonces := [], paused := false }

def demoWorld : World := World.initial demoLedger demoRegistry .empty newYear

/-- Both signature fields are 1. -/
def demoSigner : Signer := fun b =>
  let raw := b.take (b.length - 2) ++ [1, 1]
  some (raw, txHash demoCrypto raw)

/-- All goes well, with the count `n`. -/
def demoChoice (n : UInt64) : Choice := { counts := some (n, n), signer := demoSigner }

/-- The receipt of a transfer of 90 in block 5. -/
def demoReceipt : Receipt :=
  { txHash := "0x", blockHash := "0x", blockNumber := 5, status := 1, toAddress := usdcAddrLower,
    gasUsed := 50000
    logs := [
      { address := usdcAddrLower
        topics := [transferEventTopic, hexText (List.replicate 12 0 ++ List.replicate 20 0x11),
          hexText (List.replicate 12 0 ++ List.replicate 20 0x22)]
        data := [90] }] }

/-- The transfer of 90, as the RPCs report it. -/
def demoTransaction : Transaction :=
  { sender := demoService.hotWallet
    toAddress := usdcAddrLower
    input := (usdcTransferCalldata demoCrypto (demoAddress '2') 90).toOption.getD []
    value := "0x0" }

/-- A transfer of 90 is confirmed at once. -/
def demoConfirm (n : UInt64) : Choice :=
  { demoChoice n with
    receipts := ⟨some demoReceipt, some demoReceipt, some 7, some 7⟩
    transactions := (some demoTransaction, some demoTransaction) }

/-- The next calls of a process. -/
def calls (i n : ℕ) (f : Choice) : List Action := List.replicate n (.call i f)

end MacProvider.Coordinator.Payout.Runner
