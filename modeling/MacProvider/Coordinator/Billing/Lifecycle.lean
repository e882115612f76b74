import MacProvider.Coordinator.Billing.Finality
import MacProvider.Coordinator.Billing.Receipts
import MacProvider.Lib.Runs

/-! # The life of a verdict

All operations on the books, in any order. A verdict is judged while it is open; a verified one is
taken back by the ledger sync of the hot path or of recovery (`step_evolves`). -/

namespace MacProvider.Coordinator.Billing.Lifecycle

open Relation Gateway.Time Lib.Tables Lib.Runs Billing.Schema Billing.Outputs Billing.Settlement
open Billing.HotPath Billing.Recovery Billing.Verifier Billing.Verdicts Billing.Finality
open Billing.Receipts

/-- A route has one row, with its digest. -/
def insertRouteSnapshot (v : ReceiptCodec) (row : RouteRow) (b : Books) :
    Except ReceiptError Books :=
  match v.routeDigest row with
  | none => .error .routeSnapshotInvalid
  | some digest =>
    if (Books.routeOf b ⟨row.accountScope, row.requestID, row.attemptN, row.providerID⟩).isSome then
      .error .constraint
    else .ok { b with snapshots := b.snapshots ++ [{ row with digest }] }

/-- The operations. -/
inductive Op
  | ingestSettlementReceipt (id : ReceiptIdentity) (header pubkey : String) (receivedAtUnixMS : ℤ)
  | recordMissingSettlementReceipt (id : ReceiptIdentity) (nowUnixMS : ℤ)
  | requestSettlementFinality (accountScope requestID : String) (nowUnixMS : ℤ)
  | requestSettlementFinalityForAccount (accountID requestID : String) (nowUnixMS : ℤ)
      (notBeforeUnixMS : ℕ)
  | writeHotPath (account : Option String) (row : RequestRow) (i : HotPathInput)
  | writeRequestLogWithIdentity (account : Option String) (row : RequestRow) (i : HotPathInput)
  /-- The log of an attempt without a provider. -/
  | insertLog (row : RequestRow)
  | insertRouteSnapshot (row : RouteRow)
  | insertSettlementAttemptOutput (a : SettlementAttemptOutput)
  | recoverLedger (w : Window)
  | runSettlement (cfg : SettlementConfig) (windowStart windowEnd now : Instant)
  /-- Operators resolve quarantines and payouts go on. -/
  | operate (resolutions : List Resolution) (payouts : Table Payout.id)

/-- What an operation does to the books. -/
def step (v : ReceiptCodec) (env : Env) (b : Books) : Op → Books
  | .ingestSettlementReceipt id header pubkey received =>
    commit b ((Verdicts.ingestSettlementReceipt v env id header pubkey received b).map Prod.snd)
  | .recordMissingSettlementReceipt id now =>
    commit b ((Verdicts.recordMissingSettlementReceipt v env id now b).map Prod.snd)
  | .requestSettlementFinality accountScope requestID now =>
    (Finality.requestSettlementFinality v env accountScope requestID now b).2
  | .requestSettlementFinalityForAccount accountID requestID now notBefore =>
    (Finality.requestSettlementFinalityForAccount v env accountID requestID now notBefore b).2
  | .writeHotPath account row i => commit b (HotPath.writeHotPath env account row i b)
  | .writeRequestLogWithIdentity account row i =>
    commit b (HotPath.writeRequestLogWithIdentity account row i b)
  | .insertLog row => HotPath.insertLog row b
  | .insertRouteSnapshot row => commit b (Lifecycle.insertRouteSnapshot v row b)
  | .insertSettlementAttemptOutput a => commit b
    ((Outputs.insertSettlementAttemptOutput env.codec a b.outputs).map fun r =>
      { b with outputs := r.2 })
  | .recoverLedger w => commit b (Recovery.recoverLedger env w b)
  | .runSettlement cfg windowStart windowEnd now =>
    b.withLedger (Settlement.runSettlement cfg windowStart windowEnd now b.ledger)
  | .operate resolutions payouts => { b with resolutions, payouts }

/-! ### Syncs that take nothing back -/

/-- The credits of the account. -/
def OwnCredits (env : Env) (accountScope requestID : String) (b : Books) : Prop :=
  ∀ n p, OwnCredit env ⟨accountScope, requestID, n, p⟩ b

/-- The credit of the hot path keeps its receipt. -/
def BillSpares (env : Env) (i : HotPathInput) (d : Bill) (b : Books) : Prop :=
  d.reason = none → syncReason env i.requestID d.attemptN i.providerID (b.credited i d) = none

/-- The credit of the attempt keeps its receipt. -/
def HotPathSpares (env : Env) (account : Option String) (row : RequestRow) (i : HotPathInput)
    (b : Books) : Prop :=
  let i := boundProviderReportedPromptTokens i
  let row := loggedRow account row i
  let b := HotPath.insertLog row b
  BillSpares env (i.scoped env row.accountID)
    (bill i row.retried (b.requestCount row.accountID i.requestID)) b

theorem recoveredRow_id (env : Env) (b : Books) (x : LogRow) (d : Identity) (cfg : Config)
    (id : ℕ) :
    (creditRow (recoveryInput env x d cfg b)
      (recoveredBill x (recoveryInput env x d cfg b)) id).id =
      id := rfl

/-- So does the one recovery writes. -/
def RowSpares (env : Env) (b : Books) (x : LogRow) : Prop :=
  ∀ d cfg b₁, b.identities.find? (x.requestID, x.attemptN, x.providerAssignedID) = some d →
    recoveryConfig env x d = some cfg →
    insertCredit (creditRow (recoveryInput env x d cfg b)
        (recoveredBill x (recoveryInput env x d cfg b)))
      (recoveredRow_id env b x d cfg) b = .ok b₁ →
    syncReason env x.requestID x.attemptN d.providerID b₁ = none

/-- It takes no closed verdict back: synced receipts are of the account and clear. -/
def Spares (env : Env) (b : Books) : Op → Prop
  | .ingestSettlementReceipt id .. | .recordMissingSettlementReceipt id _ => OwnCredit env id b
  | .requestSettlementFinality accountScope requestID _ => OwnCredits env accountScope requestID b
  | .requestSettlementFinalityForAccount accountID requestID _ notBefore =>
    ∀ q ∈ requestID :: requestIDsForExternalRequest accountID requestID notBefore b,
      OwnCredits env (env.accountScope accountID) q b
  | .writeHotPath account row i => HotPathSpares env account row i b
  | .recoverLedger w => ∀ xs x ys b', scannedRows w b = xs ++ x :: ys →
    xs.foldlM (recoverRow env) (quarantineOrphans w b) = .ok b' → RowSpares env b' x
  | _ => True

/-- The key is one of a request and an account. -/
def Named (env : Env) (k : VerdictKey) : Prop :=
  (∃ scope, scope ≠ "" ∧ env.scopeHash scope = k.1) ∧ k.2.1 ≠ ""

/-- It brings a receipt that is accepted, for the key. -/
def Verifies (v : ReceiptCodec) (env : Env) (b : Books) (k : VerdictKey) : Op → Prop
  | .ingestSettlementReceipt id header pubkey received =>
    id.key env = k ∧ Accepts v env id header pubkey received b
  | _ => False

/-! ### What happens to a row over several writes -/

section Evolves
variable {accepted : VerdictRow → Prop} {taken : Prop} {o o' : Option VerdictRow} {row : VerdictRow}

/-- What becomes of a row. -/
abbrev Evolves (accepted : VerdictRow → Prop) (taken : Prop) :
    Option VerdictRow → Option VerdictRow → Prop :=
  ReflTransGen (Moves accepted taken)

section
variable (h : Evolves accepted taken o o')
include h

theorem Evolves.mono {accepted' : VerdictRow → Prop} {taken' : Prop}
    (haccepted : ∀ row, accepted row → accepted' row)
    (htaken : taken → taken') : Evolves accepted' taken' o o' := by
  induction h with
  | refl => exact .refl
  | tail _ hm ih => exact ih.tail (hm.mono haccepted htaken)

theorem Evolves.judged (ho : ∀ row ∈ o, Judged row) : ∀ row ∈ o', Judged row := by
  induction h with
  | refl => exact ho
  | tail _ hm ih =>
    cases hm with
    | same => exact ih
    | judged _ row _ hrow _ =>
      rintro row ⟨⟩
      exact hrow
    | takenBack x reason _ _ =>
      rintro row ⟨⟩
      exact judged_cacheQuarantined x reason

theorem Evolves.final (hnot : taken → row.outcome ≠ .verified)
    (ho : o = some row) (hclosed : row.closed = true) : o' = some row := by
  induction h with
  | refl => exact ho
  | tail _ hm ih =>
    cases hm with
    | same => exact ih
    | judged _ row' hopen _ _ =>
      rw [hopen row ih] at hclosed
      cases hclosed
    | takenBack x reason htaken hverified =>
      obtain rfl := Option.some.inj ih
      exact absurd hverified (hnot htaken)

theorem Evolves.quarantined (ho : o = some row)
    (hjudged : Judged row) (hquarantined : row.outcome = .quarantined) : o' = some row := by
  refine h.final (fun _ => ?_) ho (hjudged.closed.mpr ?_) <;> rw [hquarantined] <;>
    exact SettlementOutcome.noConfusion

theorem Evolves.verified (ho' : o' = some row)
    (hverified : row.outcome = .verified) : o = some row ∨ accepted row := by
  induction h with
  | refl => exact Or.inl ho'
  | tail _ hm ih =>
    cases hm with
    | same => exact ih ho'
    | judged _ row' _ _ hok =>
      obtain rfl := Option.some.inj ho'
      exact Or.inr hok
    | takenBack x reason _ _ =>
      obtain rfl := Option.some.inj ho'
      cases hverified

theorem Evolves.origin (ho' : o' ≠ none) : o ≠ none ∨ ∃ row, accepted row := by
  induction h with
  | refl => exact Or.inl ho'
  | tail _ hm ih =>
    cases hm with
    | same => exact ih ho'
    | judged _ row' _ _ hok => exact Or.inr ⟨row', hok⟩
    | takenBack x reason _ _ => exact ih (Option.some_ne_none x)

end

end Evolves

/-! ### What an operation does to a verdict -/

section Step
variable {v : ReceiptCodec} {env : Env} {b b' : Books} {k : VerdictKey} {taken : Prop}
  {accepted : VerdictRow → Prop}

theorem sync_creditOf {q p : String} {n : ℕ}
    (h : syncVerifiedReceiptLedgerCreditForAttempt env q n p b = .ok b') :
    ∃ f : CreditRow → CreditRow, (∀ c, (f c).accountScopeHash = c.accountScopeHash) ∧
      (∀ c ∈ b.credits.rows, (c.requestID, c.attemptN, c.providerID) ≠ (q, n, p) → f c = c) ∧
      ∀ q' n' p', b'.creditOf q' n' p' = (b.creditOf q' n' p').map f := by
  obtain rfl | ⟨c, sao, u, hc, -, -, -, -, rfl⟩ := sync_cases h
  · exact ⟨id, fun _ => rfl, fun _ _ _ => rfl, fun _ _ _ => Option.map_id.symm ▸ rfl⟩
  refine ⟨_, fun x => ?_, fun x hx hne => ?_, creditOf_update (b := b)
    (syncRow_id env (b.configSnapshotOf c) u) (syncRow_key env (b.configSnapshotOf c) u) rfl⟩
  · split_ifs
    · rcases syncRow_cases env (b.configSnapshotOf c) u x with ⟨_, _, h⟩ | ⟨_, _, _, _, _, h⟩ <;>
        rw [h] <;> rfl
    · rfl
  · refine if_neg fun hid => hne ?_
    obtain ⟨hmem, hq, hn, hp⟩ := creditOf_some hc
    rw [eq_of_id hmem hx (of_decide_eq_true hid), hq, hn, hp]

variable {id : ReceiptIdentity} {received now : ℤ} {header pubkey : String} {i : HotPathInput}

theorem apply_ownCredits {missing : Bool} {row' : VerdictRow} {scope req : String}
    (h : applySettlementReceiptVerdict v env id missing received header pubkey b = .ok (row', b'))
    (hown : OwnCredits env scope req b) : OwnCredits env scope req b' := by
  obtain ⟨b₁, b₂, hb₁, hsync, hb'⟩ := apply_frame h
  have hown₁ : OwnCredits env scope req b₁ := by
    rw [hb₁]
    exact hown
  have hown₂ : OwnCredits env scope req b₂ := by
    rcases hsync with rfl | hsync
    · exact hown₁
    obtain ⟨f, hf, -, hcreditOf⟩ := sync_creditOf hsync
    intro n p c hc
    have hmap := (hcreditOf req n p).symm.trans hc
    obtain ⟨c₀, hc₀, rfl⟩ := Option.map_eq_some_iff.mp hmap
    rw [hf]
    exact hown₁ n p c₀ hc₀
  rw [hb']
  exact hown₂

theorem named_of_valid {u : Unit} (h : id.validate = .ok u) : Named env (id.key env) := by
  unfold ReceiptIdentity.validate at h
  split at h
  · cases h
  next hscope =>
  split at h
  · cases h
  next hrequest =>
  exact ⟨⟨id.accountScope, hscope, rfl⟩, hrequest⟩

theorem ingest_ok
    {row : VerdictRow}
    (h : Verdicts.ingestSettlementReceipt v env id header pubkey received b = .ok (row, b')) :
    Named env (id.key env) ∧
      applySettlementReceiptVerdict v env id false received header pubkey b = .ok (row, b') := by
  obtain ⟨_, hvalid, h⟩ := bind_ok h
  split at h
  · cases h
  split at h
  · cases h
  exact ⟨named_of_valid hvalid, h⟩

theorem recordMissing_ok {row : VerdictRow}
    (h : recordMissingSettlementReceipt v env id now b = .ok (row, b')) :
    Named env (id.key env) ∧
      applySettlementReceiptVerdict v env id true now "" "" b = .ok (row, b') := by
  obtain ⟨_, hvalid, h⟩ := bind_ok h
  exact ⟨named_of_valid hvalid, h⟩

/-- How it may judge: verified only with an accepted receipt. -/
def Judges (v : ReceiptCodec) (env : Env) (b : Books) (k : VerdictKey) (op : Op)
    (row : VerdictRow) : Prop :=
  Named env k ∧ (row.outcome = .verified → Verifies v env b k op)

/-- A row of a request that is not verified. -/
def Unverified (env : Env) (k : VerdictKey) (row : VerdictRow) : Prop :=
  Named env k ∧ row.outcome ≠ .verified

theorem Unverified.judges {op : Op} {row : VerdictRow} (h : Unverified env k row) :
    Judges v env b k op row :=
  ⟨h.1, fun hverified => absurd hverified h.2⟩

theorem recordMissing_moves {row : VerdictRow} (k : VerdictKey)
    (h : recordMissingSettlementReceipt v env id now b = .ok (row, b')) :
    Moves (Unverified env k) (¬ OwnCredit env id b) (b.verdicts.find? k) (b'.verdicts.find? k) := by
  obtain ⟨hnamed, happly⟩ := recordMissing_ok h
  refine (apply_moves k happly).mono (fun row hrow => ?_) fun h => h
  exact ⟨hrow.1 ▸ hnamed, fun hverified => absurd (hrow.2 hverified).1 (by decide)⟩

/-! ### Finality calls -/

/-- A receipt of the request is recorded as missing. -/
def Misses (v : ReceiptCodec) (env : Env) (accountScope requestID : String) (b b' : Books) : Prop :=
  ∃ n p now row,
    recordMissingSettlementReceipt v env ⟨accountScope, requestID, n, p⟩ now b = .ok (row, b')

/-- Receipts are recorded as missing, in turn. -/
abbrev MissesAll (v : ReceiptCodec) (env : Env) (accountScope : String) (qs : List String) :
    Books → Books → Prop :=
  ReflTransGen fun b b' => ∃ q ∈ qs, Misses v env accountScope q b b'

section Misses
variable {scope req : String} {qs : List String}

theorem MissesAll.mono {qs' : List String} (h : MissesAll v env scope qs b b')
    (hqs : ∀ q ∈ qs, q ∈ qs') : MissesAll v env scope qs' b b' := by
  induction h with
  | refl => exact .refl
  | tail _ hm ih =>
    obtain ⟨q, hq, hm⟩ := hm
    exact ih.tail ⟨q, hqs q hq, hm⟩

theorem recordDue_misses (now : ℤ) (rows : List VerdictRow) :
    MissesAll v env scope [req] b
      (recordDue v env scope req now rows b).2 := by
  induction rows generalizing b with
  | nil => exact .refl
  | cons row rows ih =>
    unfold recordDue
    split_ifs
    · split
      · exact .refl
      · next row' b' h =>
        exact .head ⟨req, List.mem_singleton_self _, _, _, now, row', h⟩ ih
    · exact ih

theorem finality_misses (now : ℤ) :
    MissesAll v env scope [req] b
      (Finality.requestSettlementFinality v env scope req now b).2 := by
  have hdue := @recordDue_misses v env b scope req now
    (requestSettlementVerdicts env scope req b)
  unfold Finality.requestSettlementFinality
  split_ifs
  · exact .refl
  · exact .refl
  · split <;> next h => rw [h] at hdue; exact hdue

theorem finalitiesOf_misses (now : ℤ) (qs : List String) :
    MissesAll v env scope qs b (finalitiesOf v env scope now qs b).2 := by
  induction qs generalizing b with
  | nil => exact .refl
  | cons q qs ih =>
    have hfirst : MissesAll v env scope (q :: qs) b
        (Finality.requestSettlementFinality v env scope q now b).2 :=
      (finality_misses now).mono fun x hx => by
        rw [List.mem_singleton.mp hx]
        exact List.mem_cons_self
    unfold finalitiesOf
    rcases hfin : Finality.requestSettlementFinality v env scope q now b with
      ⟨_ | resolved, b'⟩
    · rw [hfin] at hfirst
      exact hfirst
    · rw [hfin] at hfirst
      have hrest : MissesAll v env scope (q :: qs) b'
          (finalitiesOf v env scope now qs b').2 :=
        ih.mono fun x hx => List.mem_cons_of_mem q hx
      have hall := ReflTransGen.trans hfirst hrest
      dsimp only
      rcases hmore : finalitiesOf v env scope now qs b' with ⟨_ | ⟨fs, missing⟩, b''⟩
      · rw [hmore] at hall
        exact hall
      · rw [hmore] at hall
        cases resolved <;> exact hall

variable {acct : String}

theorem externalFinality_misses (now : ℤ) (notBefore : ℕ) :
    MissesAll v env (env.accountScope acct) (requestIDsForExternalRequest acct req notBefore b) b
      (externalFinality v env acct req now notBefore b).2 := by
  have h := @finalitiesOf_misses v env b (env.accountScope acct) now
    (requestIDsForExternalRequest acct req notBefore b)
  unfold externalFinality
  split <;> next heq => rw [heq] at h; exact h

theorem MissesAll.frame (h : MissesAll v env scope qs b b') :
    b'.log = b.log ∧ b'.outputs = b.outputs := by
  induction h with
  | refl => exact ⟨rfl, rfl⟩
  | @tail b₁ b₂ _ hm ih =>
    obtain ⟨q, -, n, p, now, row, hm⟩ := hm
    obtain ⟨hlog, houtputs⟩ := apply_log_outputs (recordMissing_ok hm).2
    exact ⟨hlog.trans ih.1, houtputs.trans ih.2⟩

theorem finalityForAccount_misses (now : ℤ) (notBefore : ℕ) :
    MissesAll v env (env.accountScope acct)
      (req :: requestIDsForExternalRequest acct req notBefore b) b
      (Finality.requestSettlementFinalityForAccount v env acct req now notBefore b).2 := by
  unfold Finality.requestSettlementFinalityForAccount
  split_ifs
  · have hdirect : MissesAll v env (env.accountScope acct)
        (req :: requestIDsForExternalRequest acct req notBefore b) b
        (Finality.requestSettlementFinality v env (env.accountScope acct) req now b).2 :=
      (finality_misses now).mono fun x hx => by
        rw [List.mem_singleton.mp hx]
        exact List.mem_cons_self
    split
    · next b' heq =>
      rw [heq] at hdirect
      refine ReflTransGen.trans hdirect ((externalFinality_misses now notBefore).mono ?_)
      intro q hq
      unfold requestIDsForExternalRequest at hq ⊢
      rw [hdirect.frame.1] at hq
      exact List.mem_cons_of_mem req hq
    · exact hdirect
  · exact (externalFinality_misses now notBefore).mono fun q hq => List.mem_cons_of_mem _ hq

theorem MissesAll.evolves (h : MissesAll v env scope qs b b') (k : VerdictKey)
    (htaken : ∀ q ∈ qs, ¬ OwnCredits env scope q b → taken) :
    Evolves (Unverified env k) taken (b.verdicts.find? k) (b'.verdicts.find? k) ∧
      ∀ s q, OwnCredits env s q b → OwnCredits env s q b' := by
  induction h with
  | refl => exact ⟨.refl, fun _ _ h => h⟩
  | tail _ hm ih =>
    obtain ⟨q, hq, n, p, now, row, hm⟩ := hm
    obtain ⟨hev, hown⟩ := ih
    refine ⟨hev.tail ((recordMissing_moves k hm).mono (fun _ h => h) fun hnot => ?_),
      fun s q h => apply_ownCredits (recordMissing_ok hm).2 (hown s q h)⟩
    exact htaken q hq fun hb => hnot (hown _ _ hb n p)

end Misses

theorem writeBill_moves {d : Bill} (k : VerdictKey) (h : writeBill env i d b = .ok b') :
    Moves accepted (¬ BillSpares env i d b) (b.verdicts.find? k) (b'.verdicts.find? k) := by
  obtain ⟨-, -, h⟩ := writeBill_ok h
  rcases hreason : d.reason with _ | reason
  · rw [hreason] at h
    refine sync_moves (b := b.credited i d) h (fun hne hspares => ?_) k
    exact hne (hspares hreason)
  · rw [hreason] at h
    have hb' : b' = b.credited i d := h
    rw [hb']
    exact .same _

theorem writeHotPath_moves {account : Option String} {row : RequestRow}
    (k : VerdictKey) (h : HotPath.writeHotPath env account row i b = .ok b') :
    Moves accepted (¬ HotPathSpares env account row i b) (b.verdicts.find? k)
      (b'.verdicts.find? k) := by
  unfold HotPath.writeHotPath at h
  dsimp only at h
  split at h
  · cases h
    exact .same _
  · exact writeBill_moves (b := HotPath.insertLog _ b) k h

theorem recoverRow_moves {x : LogRow} (k : VerdictKey) (h : recoverRow env b x = .ok b') :
    Moves accepted (¬ RowSpares env b x) (b.verdicts.find? k) (b'.verdicts.find? k) := by
  cases recoverRow_recovers h with
  | same => exact .same _
  | quarantines => exact .same _
  | holds h =>
    rw [insertCredit_verdicts h]
    exact .same _
  | credits hd hcfg hnone h₁ hsync =>
    rw [← insertCredit_verdicts h₁]
    exact sync_moves hsync (fun hne hspares => hne (hspares _ _ _ hd hcfg h₁)) k

theorem recoverRows_evolves {rows : List LogRow} (k : VerdictKey)
    (h : rows.foldlM (recoverRow env) b = .ok b')
    (htaken : ∀ xs x ys b', rows = xs ++ x :: ys → xs.foldlM (recoverRow env) b = .ok b' →
      ¬ RowSpares env b' x → taken) :
    Evolves accepted taken (b.verdicts.find? k) (b'.verdicts.find? k) := by
  induction rows generalizing b with
  | nil =>
    cases h
    exact .refl
  | cons x rows ih =>
    obtain ⟨b₁, hx, h⟩ := bind_ok h
    refine .head ((recoverRow_moves k hx).mono (fun _ h => h) (htaken [] x rows b rfl rfl)) ?_
    refine ih h fun xs y ys b₂ hrows hxs => htaken (x :: xs) y ys b₂ (by rw [hrows]; rfl) ?_
    rw [List.foldlM_cons, hx]
    exact hxs

end Step

/-! ### All operations -/

section Runs
variable {v : ReceiptCodec} {env : Env} {b b' : Books}

theorem map_snd_ok {ε : Type} {x : Except ε (VerdictRow × Books)} (h : x.map Prod.snd = .ok b') :
    ∃ row, x = .ok (row, b') := by
  rcases x with e | ⟨row, b₁⟩
  · cases h
  · cases h
    exact ⟨row, rfl⟩

/-- What an operation can do to the books. -/
inductive Does (v : ReceiptCodec) (env : Env) (b : Books) : Op → Books → Prop
  | fails {op : Op} : Does v env b op b
  | ingests {id : ReceiptIdentity} {header pubkey : String} {received : ℤ} {row : VerdictRow}
      {b' : Books} (hnamed : Named env (id.key env))
      (h : applySettlementReceiptVerdict v env id false received header pubkey b = .ok (row, b')) :
      Does v env b (.ingestSettlementReceipt id header pubkey received) b'
  | records {id : ReceiptIdentity} {now : ℤ} {row : VerdictRow} {b' : Books}
      (h : Verdicts.recordMissingSettlementReceipt v env id now b = .ok (row, b')) :
      Does v env b (.recordMissingSettlementReceipt id now) b'
  | misses {op : Op} {scope : String} {qs : List String} {b' : Books}
      (h : MissesAll v env scope qs b b')
      (hop : Spares env b op → ∀ q ∈ qs, OwnCredits env scope q b) : Does v env b op b'
  | bills {account : Option String} {row : RequestRow} {i : HotPathInput} {b' : Books}
      (h : HotPath.writeHotPath env account row i b = .ok b') :
      Does v env b (.writeHotPath account row i) b'
  | logs {op : Op} {b' : Books} (hcredits : b'.credits = b.credits)
      (hverdicts : b'.verdicts = b.verdicts) (houtputs : b'.outputs = b.outputs) :
      Does v env b op b'
  | delivers {op : Op} {a : SettlementAttemptOutput} {r : String × OutputTable}
      (h : Outputs.insertSettlementAttemptOutput env.codec a b.outputs = .ok r) :
      Does v env b op { b with outputs := r.2 }
  | recovers {w : Window} {b' : Books} (h : Recovery.recoverLedger env w b = .ok b') :
      Does v env b (.recoverLedger w) b'
  | settles {op : Op} (l : Ledger) : Does v env b op (b.withLedger l)

theorem step_does (b : Books) (op : Op) : Does v env b op (step v env b op) := by
  cases op with
  | ingestSettlementReceipt id header pubkey received =>
    refine commit_of_ok .fails fun b' h => ?_
    obtain ⟨row, h⟩ := map_snd_ok h
    exact .ingests (ingest_ok h).1 (ingest_ok h).2
  | recordMissingSettlementReceipt id now =>
    refine commit_of_ok .fails fun b' h => ?_
    obtain ⟨row, h⟩ := map_snd_ok h
    exact .records h
  | requestSettlementFinality scope req now =>
    refine .misses (finality_misses now) fun hspares q hq => ?_
    rw [List.mem_singleton.mp hq]
    exact hspares
  | requestSettlementFinalityForAccount acct req now notBefore =>
    exact .misses (finalityForAccount_misses now notBefore) fun hspares => hspares
  | writeHotPath account row i => exact commit_of_ok .fails fun b' => .bills
  | writeRequestLogWithIdentity account row i =>
    refine commit_of_ok .fails fun b' h => ?_
    unfold HotPath.writeRequestLogWithIdentity at h
    dsimp only at h
    split at h
    · obtain ⟨-, rfl⟩ := insertProviderIdentitySnapshot_ok h
      exact .logs rfl rfl rfl
    · cases h
      exact .logs rfl rfl rfl
  | insertLog row => exact .logs rfl rfl rfl
  | insertRouteSnapshot row =>
    refine commit_of_ok .fails fun b' h => ?_
    unfold Lifecycle.insertRouteSnapshot at h
    split at h
    · cases h
    · split at h <;> cases h
      exact .logs rfl rfl rfl
  | insertSettlementAttemptOutput a =>
    refine commit_of_ok .fails fun b' h => ?_
    rcases hr : Outputs.insertSettlementAttemptOutput env.codec a b.outputs with e | r <;>
      rw [hr] at h <;> cases h
    exact .delivers hr
  | recoverLedger w => exact commit_of_ok .fails fun b' => .recovers
  | runSettlement cfg windowStart windowEnd now => exact .settles _
  | operate resolutions payouts => exact .logs rfl rfl rfl

/-- **What an operation does to a row**: it judges an open one, verified only with an accepted
receipt, and takes one back only if it does not spare it. -/
theorem step_evolves (b : Books) (op : Op) (k : VerdictKey) :
    Evolves (Judges v env b k op) (¬ Spares env b op) (b.verdicts.find? k)
      ((step v env b op).verdicts.find? k) := by
  have h := @step_does v env b op
  generalize step v env b op = b' at h ⊢
  cases h with
  | ingests hnamed h =>
    refine .single ((apply_moves k h).mono (fun row hrow => ?_) fun h => h)
    exact ⟨hrow.1 ▸ hnamed, fun hverified => ⟨hrow.1, (hrow.2 hverified).2⟩⟩
  | records h =>
    exact .single ((recordMissing_moves k h).mono (fun _ => Unverified.judges) fun h => h)
  | misses h hop =>
    exact (h.evolves k fun q hq hnot hspares => hnot (hop hspares q hq)).1.mono
      (fun _ => Unverified.judges) fun h => h
  | bills h => exact .single (writeHotPath_moves k h)
  | logs _ hverdicts _ => rw [hverdicts]
  | @recovers w b' h =>
    refine recoverRows_evolves (b := quarantineOrphans w b) k h ?_
    intro xs x ys b' hrows hxs hnot hall
    exact hnot (hall xs x ys b' hrows hxs)
  | fails | delivers h | settles l => exact .refl

theorem reaches_judged (h : Reaches (step v env) (fun _ _ => True) .empty b) (k : VerdictKey) :
    ∀ row ∈ b.verdicts.find? k, Judged row := by
  refine reaches_induction (I := fun b => ∀ row ∈ b.verdicts.find? k, Judged row) h ?_ ?_
  · rintro row ⟨⟩
  · intro b op hb _
    exact (step_evolves b op k).judged hb

/-- **Closed verdicts are final** in a run in which no sync takes one back. In any run a quarantined
row stays, and a verified one was there or has a receipt accepted within its deadline. -/
theorem closed_verdicts_are_final (hb : Reaches (step v env) (fun _ _ => True) .empty b) :
    (∀ b' k row, Reaches (step v env) (Spares env) b b' → b.verdicts.find? k = some row →
      row.closed = true → b'.verdicts.find? k = some row) ∧
    (∀ b' k row, Reaches (step v env) (fun _ _ => True) b b' → b.verdicts.find? k = some row →
      row.outcome = .quarantined → b'.verdicts.find? k = some row) ∧
    (∀ op k row, (step v env b op).verdicts.find? k = some row → row.outcome = .verified →
      b.verdicts.find? k = some row ∨ Verifies v env b k op) := by
  refine ⟨fun b' k row hrun hrow hclosed => ?_, fun b' k row hrun hrow hquarantined => ?_,
    fun op k row hrow hverified => ?_⟩
  · refine reaches_induction (I := fun b' => b'.verdicts.find? k = some row) hrun hrow ?_
    intro b₁ op h₁ hspares
    exact (step_evolves b₁ op k).final (absurd hspares ·) h₁ hclosed
  · have hjudged := reaches_judged hb k row hrow
    refine reaches_induction (I := fun b' => b'.verdicts.find? k = some row) hrun hrow ?_
    intro b₁ op h₁ _
    exact (step_evolves b₁ op k).quarantined h₁ hjudged hquarantined
  · exact ((step_evolves b op k).verified hrow hverified).imp_right fun h => h.2 hverified

/-! ### A verdict that is taken back -/

/-- Every header is a receipt for the attempt. -/
def demoReceipts : ReceiptCodec where
  parseSettlementReceipt _ := .ok
    { tuple :=
        { accountScope := "acct", catalogBodyDigest := "body", catalogID := "cat"
          expectedCatalogModelHash := "h", issuedAtUnixMS := 2, modelHash := "h", modelID := "m"
          outputHash := "hi", outputPrefixEndByte := 2, outputPrefixStartByte := 0
          promptHash := "prompt", providerID := "p", providerReceiptKeyID := "key"
          requestID := "req", routeSnapshotDigest := "d", routeSnapshotMode := some .enforce
          routeSnapshotPolicyVersion := "v", signatureKeyAlg := "Ed25519"
          terminalState := some .normalDone, terminalStateTSUnixMS := 1, attemptN := 0
          usage := ⟨1000, 1000000, 2, 1000, 1000000⟩ }
      signature := "s", raw := "t", canonicalBytes := "t" }
  receiptKeyIDPattern _ := true
  receiptKeyID _ := some "key"
  verifySignature _ _ _ := true
  routeDigest _ := some "d"

def demoOutput : SettlementAttemptOutput :=
  { demoDelivered with
    output := ⟨"hi", none, 0, 2, .normalDone, []⟩
    usage := ⟨1000, 1000000, 2, 1000, 1000000⟩ }

/-- More of the prompt is reported than was counted. -/
def demoRow (cached : Option ℤ) : RequestRow :=
  ⟨1, "req", "acct", "ext", "m", "a", ⟨some 2000, cached, some 1000000, none⟩, 200, "", "", 0⟩

def demoInput (cached : Option ℤ) : HotPathInput where
  requestID := "req"
  attemptN := 0
  providerAssignedID := "a"
  providerID := "p"
  model := "m"
  ts := 1
  tokens := ⟨some 2000, cached, some 1000000, none⟩
  promptTokenUpperBound := none
  providerReportedPromptTokens := some 2000
  errorCode := ""
  faultFlag := .none
  stickyResult := "hit"
  configSnapshotID := 1
  rateEntry := demoConfig.rateFor "m"
  multiplierPPM := demoConfig.multiplierPPM
  providerShareBps := demoConfig.providerShareBps
  settlementAccountScopeHash := "acct"
  settlementPolicyMode := .enforce
  settlementPolicyVersion := "v"

/-- A receipt for an attempt without a credit. -/
def demoLife (cached : Option ℤ) : List Op :=
  [.writeRequestLogWithIdentity (some "acct") (demoRow cached) (demoInput cached),
    .insertRouteSnapshot demoRoute, .insertSettlementAttemptOutput demoOutput,
    .ingestSettlementReceipt ⟨"acct", "req", 0, "p"⟩ "header" "pubkey" 2]

/-- What the verdict says behind these operations. -/
def demoClosed (ops : List Op) : Option (Bool × SettlementOutcome × ReceiptResult × String) :=
  ((run (step demoReceipts demoEnv) .empty ops).verdicts.find? ("acct", "req", 0, "p")).map
    fun row => (row.closed, row.outcome, row.receiptResult, row.reason)

/-- The credit comes behind its verdict, with too many cached tokens. -/
theorem recovery_takes_a_verdict_back :
    demoClosed (demoLife (some 1500)) =
        some (true, .verified, .valid, "verified_settlement") ∧
      demoClosed (demoLife (some 1500) ++ [.recoverLedger ⟨0, 10⟩]) =
        some (true, .quarantined, .invalid, "invalid_cached_prompt_tokens") := by
  decide +kernel

/-- Without cached tokens the verdict stays. -/
theorem recovery_leaves_a_verdict :
    ∃ row, (run (step demoReceipts demoEnv) .empty (demoLife none)).verdicts.find?
        ("acct", "req", 0, "p") = some row ∧
      (step demoReceipts demoEnv (run (step demoReceipts demoEnv) .empty (demoLife none))
        (.recoverLedger ⟨0, 10⟩)).verdicts.find? ("acct", "req", 0, "p") = some row := by
  have hb : Reaches (step demoReceipts demoEnv) (fun _ _ => True) .empty
      (run (step demoReceipts demoEnv) .empty (demoLife none)) :=
    reaches_run (fun _ _ => trivial) Books.empty (demoLife none)
  set b := run (step demoReceipts demoEnv) .empty (demoLife none) with hbdef
  have hspares : Spares demoEnv b (.recoverLedger ⟨0, 10⟩) := by
    intro xs x ys b' hrows hxs
    have hscanned : scannedRows ⟨0, 10⟩ b = [⟨demoRow none, 0⟩] := by
      decide +kernel
    obtain ⟨rfl, rfl⟩ : xs = [] ∧ x = ⟨demoRow none, 0⟩ := by
      rcases xs with _ | ⟨y, xs⟩
      · exact ⟨rfl, (List.cons.inj hrows).1.symm⟩
      · cases xs <;> cases hrows
    cases hxs
    intro d cfg b₁ hd hcfg hins
    obtain ⟨-, -, rfl⟩ := insertCredit_ok hins
    have hd' : d = identityOf (demoInput none) 0 := by
      have hfind : (quarantineOrphans ⟨0, 10⟩ b).identities.find? ("req", 0, "a") =
          some (identityOf (demoInput none) 0) := by
        decide +kernel
      exact Option.some.inj (hd.symm.trans hfind)
    subst hd'
    obtain rfl := Option.some.inj hcfg
    decide +kernel
  have hrow : ∃ row, b.verdicts.find? ("acct", "req", 0, "p") = some row ∧ row.closed = true := by
    exact ⟨_, rfl, by decide +kernel⟩
  obtain ⟨row, hrow, hclosed⟩ := hrow
  exact ⟨row, hrow, (closed_verdicts_are_final hb).1 _ _ row (.step _ .refl hspares) hrow hclosed⟩

end Runs

end MacProvider.Coordinator.Billing.Lifecycle
