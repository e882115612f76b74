import MacProvider.Coordinator.Billing.Conservation

/-! # The life of the ledger

All operations that write the credits, the payouts or the evidence, in any order. They keep the
ledger balanced (`step_balanced`), and delete no credit and no link (`step_continues`). -/

namespace MacProvider.Coordinator.Billing.Operations

open Gateway.Time Lib.Tables Lib.Runs Billing.Schema Billing.Claim Billing.Settlement
open Billing.Conservation

/-! ### Operations -/

/-- The ledger and the last time. -/
structure State where
  ledger : Ledger
  clock : Instant

/-- The operations. -/
inductive Op
  /-- `writeHotPath`: a credit with its operator credit. -/
  | insertCredit (c : Credit) (operatorCredits : ℤ)
  /-- `syncVerifiedReceiptLedgerCreditForAttemptTx`: new amounts, or a quarantine. -/
  | syncReceipt (creditID : ℕ) (gross provider operator : ℤ) (reason : Option String)
  | quarantine (p : Credit → Bool) (reason : String)
  /-- `force_void` or `force_credit`. -/
  | resolve (r : Resolution)
  /-- Snapshots, verdicts and outputs are written. -/
  | observe (snapshots : List RouteSnapshot) (verdicts : List ReceiptVerdict)
      (outputs : List AttemptOutput)
  | runSettlement (cfg : SettlementConfig) (windowStart windowEnd now : Instant)
  | claimPayoutReady (payoutID : ℕ) (expectedGross : ℤ) (externalID currency : String)
      (now : Instant)

/-- A credit comes without a link. -/
def Credit.unsettled (c : Credit) : Credit := { c with settled := false, settlementID := none }

/-- A credit and its operator credit. -/
def insertCredit (c : Credit) (operatorCredits : ℤ) (l : Ledger) : Ledger :=
  match l.credits.insert (Credit.unsettled c) with
  | some t =>
    { l with credits := t, operatorCredits := ⟨c.id, operatorCredits⟩ :: l.operatorCredits }
  | none => l

/-- Neither quarantined nor settled. -/
def syncable (creditID : ℕ) (c : Credit) : Bool :=
  c.id == creditID && !c.quarantined && !c.settled && c.settlementID.isNone

/-- The credit behind its receipt. -/
def Credit.synced (gross provider : ℤ) (reason : Option String) (c : Credit) : Credit :=
  { c with grossCredits := gross, providerCredits := provider,
           quarantined := c.quarantined || reason.isSome,
           quarantineReason := reason.or c.quarantineReason }

/-- A receipt for the credit. -/
def syncReceipt (creditID : ℕ) (gross provider operator : ℤ) (reason : Option String) (l : Ledger) :
    Ledger :=
  if l.credits.rows.any (syncable creditID) then
    { l with
      credits := l.credits.update (syncable creditID) (Credit.synced gross provider reason)
        fun _ => rfl
      operatorCredits := l.operatorCredits.map fun o =>
        if o.requestCreditID = creditID then { o with operatorCredits := operator } else o }
  else l

/-- What an operation does. -/
def step (s : State) : Op → State
  | .insertCredit c o => { s with ledger := insertCredit c o s.ledger }
  | .syncReceipt id gross provider operator reason =>
    { s with ledger := syncReceipt id gross provider operator reason s.ledger }
  | .quarantine p reason => { s with ledger := quarantine s.ledger p reason }
  | .resolve r =>
    { s with ledger := { s.ledger with
      evidence := { s.ledger.evidence with resolutions := s.ledger.evidence.resolutions ++ [r] } } }
  | .observe snapshots verdicts outputs =>
    { s with ledger := { s.ledger with
      evidence := { s.ledger.evidence with snapshots, verdicts, outputs } } }
  | .runSettlement cfg windowStart windowEnd now =>
    ⟨runSettlement cfg windowStart windowEnd now s.ledger, now⟩
  | .claimPayoutReady id gross externalID currency now =>
    ⟨(claimPayoutReady id gross externalID currency now s.ledger).2, now⟩

/-- When it looks at the ledger. -/
def Op.time : Op → Option Instant
  | .runSettlement _ _ _ now => some now
  | .claimPayoutReady _ _ _ _ now => some now
  | .insertCredit .. | .syncReceipt .. | .quarantine .. | .resolve .. | .observe .. => none

/-- An empty ledger. -/
def start : State := ⟨⟨.empty, .empty, [], ⟨[], [], [], []⟩⟩, 0⟩

/-! ### Every operation keeps the balance -/

section Step
variable {l l' l'' : Ledger} {c : Credit}

theorem start_balanced : Balanced start.ledger where
  settled _ hc := by cases hc
  source _ hc := by cases hc
  totals _ _ hp := by cases hp
  nonempty _ _ hp := by cases hp

theorem insertCredit_balanced (h : Balanced l) (o : ℤ) : Balanced (insertCredit c o l) := by
  unfold insertCredit
  split
  swap
  · exact h
  next t ht =>
  have hsum : ∀ q w, t.sumWhere (fun c => c.settlementID = some q) w = sourceSum l q w := by
    intro q w
    rw [Table.sumWhere_insert ht]
    simp [sourceSum, Table.weight, Credit.unsettled]
  refine ⟨?_, ?_, fun q p hp => ?_, h.nonempty⟩
  · exact Table.forall_insert ht h.settled rfl
  · exact Table.forall_insert ht h.source fun q hq => by cases hq
  · have htotals := h.totals q p hp
    unfold linkedTotals sourceSum
    simp only [hsum]
    exact htotals

theorem syncReceipt_keepsLink {creditID : ℕ} {gross provider : ℤ} {reason : Option String}
    (hs : syncable creditID c = true) : KeepsLink c (Credit.synced gross provider reason c) := by
  have hnone : c.settlementID = none := by
    simp only [syncable, Bool.and_eq_true, Option.isNone_iff_eq_none] at hs
    exact hs.2
  exact ⟨rfl, rfl, rfl, rfl, fun hl => absurd hnone hl, fun hl => absurd hnone hl⟩

theorem syncReceipt_balanced (h : Balanced l) (creditID : ℕ) (gross provider operator : ℤ)
    (reason : Option String) :
    Balanced (syncReceipt creditID gross provider operator reason l) := by
  unfold syncReceipt
  split_ifs
  · exact h.update (f := Credit.synced gross provider reason) (fun _ => rfl) rfl rfl
      fun _ _ hp => syncReceipt_keepsLink hp
  · exact h

theorem evidence_balanced (h : Balanced l) (e : Evidence) : Balanced { l with evidence := e } :=
  ⟨h.settled, h.source, h.totals, h.nonempty⟩

variable {s : State}

theorem step_balanced (h : Balanced s.ledger) (op : Op) : Balanced (step s op).ledger := by
  cases op with
  | insertCredit c o => exact insertCredit_balanced h o
  | syncReceipt id gross provider operator reason =>
    exact syncReceipt_balanced h id gross provider operator reason
  | quarantine p reason => exact quarantine_balanced h p reason
  | resolve r => exact evidence_balanced h _
  | observe snapshots verdicts outputs => exact evidence_balanced h _
  | runSettlement cfg start stop now => exact runSettlement_balanced h
  | claimPayoutReady id gross externalID currency now => exact (claimPayoutReady_balanced h).1

/-! ### No operation takes a link back -/

/-- The credit is the same and keeps its link. -/
structure Later (c c' : Credit) : Prop where
  id : c'.id = c.id
  link : c.settlementID ≠ none → c'.settlementID = c.settlementID

/-- So do all credits. -/
def Continues (l l' : Ledger) : Prop :=
  ∀ c ∈ l.credits.rows, ∃ c' ∈ l'.credits.rows, Later c c'

theorem Continues.of_credits_eq (h : l'.credits = l.credits) : Continues l l' := fun c hc =>
  ⟨c, h ▸ hc, rfl, fun _ => rfl⟩

theorem Continues.trans (h : Continues l l') (h' : Continues l' l'') : Continues l l'' := by
  intro c hc
  obtain ⟨c', hc', hid, hlink⟩ := h c hc
  obtain ⟨c'', hc'', hid', hlink'⟩ := h' c' hc'
  refine ⟨c'', hc'', hid'.trans hid, fun hn => ?_⟩
  rw [hlink' (hlink hn ▸ hn), hlink hn]

theorem continues_update {p : Credit → Bool} {f : Credit → Credit} (hf : ∀ c, (f c).id = c.id)
    (hrows : l'.credits = l.credits.update p f hf)
    (hkeep : ∀ c, p c = true → (f c).settlementID = c.settlementID) : Continues l l' := by
  intro c hc
  refine ⟨if p c then f c else c, ?_, ?_⟩
  · rw [hrows]
    exact (Table.mem_update).mpr ⟨c, hc, rfl⟩
  · split_ifs with hp
    · exact ⟨hf c, fun _ => hkeep c hp⟩
    · exact ⟨rfl, fun _ => rfl⟩

theorem quarantine_continues (l : Ledger) (p : Credit → Bool) (reason : String) :
    Continues l (quarantine l p reason) :=
  continues_update (fun _ => by rfl) rfl fun _ _ => by rfl

theorem step_continues (h : Balanced s.ledger) (op : Op) :
    Continues s.ledger (step s op).ledger := by
  cases op with
  | insertCredit c o =>
    dsimp only [step]
    unfold insertCredit
    split
    · next t ht =>
      intro x hx
      exact ⟨x, (Table.insert_eq_some ht).2 ▸ List.mem_append_left _ hx, rfl, fun _ => rfl⟩
    · exact .of_credits_eq rfl
  | syncReceipt id gross provider operator reason =>
    dsimp only [step]
    unfold syncReceipt
    split_ifs
    · exact continues_update (f := Credit.synced gross provider reason) (fun _ => rfl) rfl
        fun _ _ => rfl
    · exact .of_credits_eq rfl
  | quarantine p reason => exact quarantine_continues s.ledger p reason
  | resolve r => exact .of_credits_eq rfl
  | observe snapshots verdicts outputs => exact .of_credits_eq rfl
  | runSettlement cfg start stop now =>
    intro c hc
    obtain ⟨c', hc', hsame⟩ := @runSettlement_sameBill cfg start stop now s.ledger c.id c
      (Table.find?_eq_some.mpr ⟨hc, rfl⟩)
    exact ⟨c', (Table.find?_eq_some.mp hc').1, Table.key_of_find? hc', hsame.link⟩
  | claimPayoutReady id gross externalID currency now =>
    exact .of_credits_eq (claimPayoutReady_balanced h).2

/-- **A run** keeps balance and links. -/
theorem run_continues (h : Balanced s.ledger) (ops : List Op) :
    Balanced (run step s ops).ledger ∧ Continues s.ledger (run step s ops).ledger := by
  refine reaches_induction (I := fun s' => Balanced s'.ledger ∧ Continues s.ledger s'.ledger)
    (@reaches_run State Op step (fun _ _ => True) (fun _ _ => trivial) s ops)
    ⟨h, .of_credits_eq rfl⟩ fun s' op hs' _ => ?_
  exact ⟨step_balanced hs'.1 op, hs'.2.trans (step_continues hs'.1 op)⟩

end Step

/-! ### Conservation -/

variable {c : Credit} {l : Ledger} {s : State} {q : ℕ} {status : PayoutStatus}

theorem mem_sources : c ∈ sources l q ↔ c ∈ l.credits.rows ∧ c.settlementID = some q := by
  simp [sources]

/-- The sum of its linked credits, settled and of its provider and window. -/
structure Conserved (l : Ledger) (p : Payout) : Prop where
  count : p.sourceCreditCount = (sources l p.id).length
  gross : p.grossCredits = ((sources l p.id).map Credit.grossCredits).sum
  provider : p.providerCredits = ((sources l p.id).map Credit.providerCredits).sum
  operator : p.operatorCredits =
    ((sources l p.id).map fun c => c.grossCredits - c.providerCredits).sum
  source : ∀ c ∈ sources l p.id,
    c.settled = true ∧ c.providerID = p.providerID ∧ c.ts < p.windowEnd

theorem balanced_conserved (h : Balanced l) {p : Payout} (hp : l.payouts.find? q = some p) :
    Conserved l p := by
  obtain rfl : p.id = q := Table.key_of_find? hp
  obtain ⟨h1, h2, h3, h4⟩ := h.totals p.id p hp
  refine ⟨h1.trans (sourceSum_one l p.id), h2, h3, h4, fun c hc => ?_⟩
  obtain ⟨hrow, hlink⟩ := mem_sources.mp hc
  obtain ⟨p', hp', hprov, hts⟩ := h.source c hrow p.id hlink
  obtain rfl := Option.some.inj (hp'.symm.trans hp)
  have hsettled := h.settled c hrow
  rw [hlink] at hsettled
  exact ⟨hsettled, hprov, hts⟩

/-- **Conservation.** After any operations a credit is settled exactly if it is linked; it stays,
with that link once settled; and a consumed payout is the sum of its credits. -/
theorem ledger_is_conserved (ops more : List Op) :
    (∀ c ∈ (run step start ops).ledger.credits.rows,
      (c.settled = true ↔ c.settlementID ≠ none) ∧
      (∀ q, c.settlementID = some q → ((run step start ops).ledger.payouts.find? q).isSome) ∧
      ∃ c' ∈ (run step start (ops ++ more)).ledger.credits.rows, c'.id = c.id ∧
        (c.settled = true → c'.settled = true ∧ c'.settlementID = c.settlementID)) ∧
    ∀ q p, (run step start ops).ledger.payouts.find? q = some p → p.status = .consumed →
      Conserved (run step start ops).ledger p := by
  have hb := (run_continues start_balanced ops).1
  obtain ⟨hb', hcont⟩ := run_continues hb more
  rw [run_append]
  refine ⟨fun c hc => ⟨?_, fun q hq => ?_, ?_⟩, fun q p hp _ => balanced_conserved hb hp⟩
  · rw [hb.settled c hc, Option.isSome_iff_ne_none]
  · obtain ⟨p, hp, -⟩ := hb.source c hc q hq
    rw [hp]
    rfl
  · obtain ⟨c', hc', hid, hlink⟩ := hcont c hc
    refine ⟨c', hc', hid, fun hs => ?_⟩
    have hne : c.settlementID ≠ none := by
      rw [hb.settled c hc, Option.isSome_iff_ne_none] at hs
      exact hs
    refine ⟨?_, hlink hne⟩
    rw [hb'.settled c' hc', hlink hne, Option.isSome_iff_ne_none]
    exact hne

section Demo

def demoCredit (id : ℕ) (ts : Instant) (gross provider : ℤ) : Credit :=
  { id, requestID := "r", attemptN := id, providerID := "p", ts, grossCredits := gross,
    providerCredits := provider, settled := false, settlementID := none, quarantined := false,
    quarantineReason := none, accountScopeHash := none, policyMode := .legacy,
    policyVersion := none }

def demoSettled : List Op :=
  [.insertCredit (demoCredit 1 3 100 70) 30, .insertCredit (demoCredit 2 4 200 140) 60,
    .runSettlement ⟨1⟩ 0 10 20]

end Demo

theorem ledger_is_conserved_claimed :
    ∃ p, (run step start (demoSettled ++
      [.claimPayoutReady 1 300 "x" "USD" 30])).ledger.payouts.find?
        1 = some p ∧ p.status = .consumed ∧ p.grossCredits = 300 ∧
      Conserved (run step start
        (demoSettled ++ [.claimPayoutReady 1 300 "x" "USD" 30])).ledger p := by
  have h : ((run step start
      (demoSettled ++ [.claimPayoutReady 1 300 "x" "USD" 30])).ledger.payouts.find? 1).any
        (fun p => p.status = .consumed && p.grossCredits = 300) = true := by
    decide +kernel
  obtain ⟨p, hp, hs⟩ := (Option.any_eq_true _ _).mp h
  simp only [Bool.and_eq_true, decide_eq_true_eq] at hs
  exact ⟨p, hp, hs.1, hs.2, (ledger_is_conserved _ []).2 1 p hp hs.1⟩

/-! ### Voided payouts -/

/-- The payout has the status. -/
def HasStatus (l : Ledger) (q : ℕ) (status : PayoutStatus) : Prop :=
  ∃ p, l.payouts.find? q = some p ∧ p.status = status

theorem step_payouts_eq {op : Op} (h : op.time = none) :
    (step s op).ledger.payouts = s.ledger.payouts := by
  cases op with
  | insertCredit c o =>
    dsimp only [step]
    unfold insertCredit
    split <;> rfl
  | syncReceipt id gross provider operator reason =>
    dsimp only [step]
    unfold syncReceipt
    split_ifs <;> rfl
  | quarantine | resolve | observe => rfl
  | runSettlement | claimPayoutReady => cases h

theorem HasStatus.of_payouts_eq {l' : Ledger} (h : HasStatus l q status)
    (heq : l'.payouts = l.payouts) : HasStatus l' q status := by
  unfold HasStatus
  rw [heq]
  exact h

theorem HasStatus.updateReady {id : ℕ} (h : HasStatus l q status) (hstatus : status ≠ .ready)
    {f : Payout → Payout} (hf : ∀ p, (f p).id = p.id) :
    HasStatus (updateReady l id f hf) q status := by
  obtain ⟨p, hp, hs⟩ := h
  refine ⟨p, ?_, hs⟩
  refine (Table.find?_update l.payouts _ f hf q).trans ?_
  have hnot : ¬ p.status = .ready := hs ▸ hstatus
  rw [hp]
  simp [hnot]

/-- **Voided or consumed stays so.** -/
theorem step_hasStatus (hb : Balanced s.ledger) (h : HasStatus s.ledger q status)
    (hstatus : status ≠ .ready) (op : Op) : HasStatus (step s op).ledger q status := by
  cases op with
  | insertCredit | syncReceipt | quarantine | resolve | observe =>
    exact h.of_payouts_eq (step_payouts_eq rfl)
  | runSettlement cfg start stop now =>
    obtain ⟨p, hp, hs⟩ := h
    obtain ⟨p', hp', hs'⟩ := (runSettlement_extends cfg start stop now s.ledger).kept hp
    exact ⟨p', hp', hs'.trans hs⟩
  | claimPayoutReady id gross externalID currency now =>
    dsimp only [step]
    rcases hp : s.ledger.payouts.find? id with _ | p
    · unfold claimPayoutReady
      rw [hp]
      exact h
    · rw [hb.claimPayoutReady_eq hp]
      unfold consumePayout voidPayout
      split_ifs
      · exact h.updateReady hstatus _
      · exact h.updateReady hstatus _
      · exact h

theorem run_hasStatus (hb : Balanced s.ledger) (h : HasStatus s.ledger q status)
    (hstatus : status ≠ .ready) (ops : List Op) : HasStatus (run step s ops).ledger q status := by
  have hboth : Balanced (run step s ops).ledger ∧ HasStatus (run step s ops).ledger q status := by
    refine reaches_induction (I := fun s => Balanced s.ledger ∧ HasStatus s.ledger q status)
      (@reaches_run State Op step (fun _ _ => True) (fun _ _ => trivial) s ops) ⟨hb, h⟩
      fun s op hs _ => ?_
    exact ⟨step_balanced hs.1 op, step_hasStatus hs.1 hs.2 hstatus op⟩
  exact hboth.2

theorem eligible_unlinked {start stop now : Instant}
    (hc : c ∈ eligible l start stop now) : c ∈ l.credits.rows ∧ c.settlementID = none :=
  ⟨List.mem_of_mem_filter hc, (eligible_due l start stop now).link c hc⟩

theorem not_eligible_of_linked (hc : c ∈ l.credits.rows) (hl : c.settlementID ≠ none)
    {start stop now : Instant} {x : Credit}
    (hx : x ∈ eligible (cleared stop l) start stop now) : x.id ≠ c.id := by
  intro hid
  obtain ⟨hrow, hnone⟩ := eligible_unlinked hx
  obtain ⟨c', hc', hsame⟩ := @cleared_sameBill stop l c.id c (Table.find?_eq_some.mpr ⟨hc, rfl⟩)
  have hx' : (cleared stop l).credits.find? c.id = some x :=
    Table.find?_eq_some.mpr ⟨hrow, hid⟩
  obtain rfl := Option.some.inj (hx'.symm.trans hc')
  rw [hsame.link hl] at hnone
  exact hl hnone

/-- **A voided payout keeps its credits**: each stays settled and linked to it, and no settlement
finds it eligible. -/
theorem voided_payout_keeps_its_credits (ops more : List Op) {q : ℕ}
    (hq : HasStatus (run step start ops).ledger q .voided) {c : Credit}
    (hc : c ∈ sources (run step start ops).ledger q) :
    HasStatus (run step start (ops ++ more)).ledger q .voided ∧
      (∃ c' ∈ sources (run step start (ops ++ more)).ledger q, c'.id = c.id ∧ c'.settled = true) ∧
      ∀ windowStart windowEnd now,
        ∀ x ∈ eligible (cleared windowEnd (run step start (ops ++ more)).ledger) windowStart
          windowEnd now, x.id ≠ c.id := by
  have hb := (run_continues start_balanced ops).1
  obtain ⟨hb', hcont⟩ := run_continues hb more
  have hstatus := run_hasStatus hb hq (by decide) more
  rw [run_append]
  obtain ⟨hrow, hlink⟩ := mem_sources.mp hc
  obtain ⟨c', hc', hid, hkept⟩ := hcont c hrow
  have hlink' : c'.settlementID = some q := (hkept (by simp [hlink])).trans hlink
  have hsettled := hb'.settled c' hc'
  rw [hlink'] at hsettled
  refine ⟨hstatus, ⟨c', mem_sources.mpr ⟨hc', hlink'⟩, hid, hsettled⟩, fun _ windowEnd _ x hx => ?_⟩
  rw [← hid]
  exact not_eligible_of_linked hc' (by simp [hlink']) hx

/-- Two credits are settled, one is quarantined, and the claim voids. -/
def demoVoided : List Op :=
  demoSettled ++ [.quarantine (fun c => c.id == 2) "reconciliation_mismatch",
    .claimPayoutReady 1 300 "x" "USD" 30]

theorem demoVoided_voided : HasStatus (run step start demoVoided).ledger 1 .voided := by
  have h : ((run step start demoVoided).ledger.payouts.find? 1).any
      (fun p => p.status = .voided) = true := by
    decide +kernel
  obtain ⟨p, hp, hs⟩ := (Option.any_eq_true _ _).mp h
  exact ⟨p, hp, by simpa using hs⟩

theorem demoVoided_source : ∃ c ∈ sources (run step start demoVoided).ledger 1,
    c.id = 1 ∧ (run step start demoVoided).ledger.evidence.payable 30 c = true := by
  have h : (sources (run step start demoVoided).ledger 1).any (fun c => c.id == 1 &&
      (run step start demoVoided).ledger.evidence.payable 30 c) = true := by
    decide +kernel
  obtain ⟨c, hc, hs⟩ := List.any_eq_true.mp h
  simp only [Bool.and_eq_true, beq_iff_eq] at hs
  exact ⟨c, hc, hs.1, hs.2⟩

theorem voided_payout_keeps_its_credits_payable :
    ∃ c ∈ sources (run step start demoVoided).ledger 1,
    (run step start demoVoided).ledger.evidence.payable 30 c = true ∧
      HasStatus (run step start (demoVoided ++ [.runSettlement ⟨1⟩ 0 40 50])).ledger 1 .voided := by
  obtain ⟨c, hc, -, hpay⟩ := demoVoided_source
  exact ⟨c, hc, hpay, (voided_payout_keeps_its_credits demoVoided _ demoVoided_voided hc).1⟩

/-- **A payable credit is lost** behind a voided payout. -/
theorem payable_credit_is_lost : HasStatus (run step start demoVoided).ledger 1 .voided ∧
    (∃ c ∈ sources (run step start demoVoided).ledger 1,
      (run step start demoVoided).ledger.evidence.payable 30 c = true ∧ c.settled = true) ∧
    eligible (cleared 40 (run step start demoVoided).ledger) 0 40 50 = [] := by
  refine ⟨demoVoided_voided, ?_, by decide +kernel⟩
  have h : (sources (run step start demoVoided).ledger 1).any (fun c =>
      (run step start demoVoided).ledger.evidence.payable 30 c && c.settled) = true := by
    decide +kernel
  obtain ⟨c, hc, hs⟩ := List.any_eq_true.mp h
  exact ⟨c, hc, by simpa using hs⟩

end MacProvider.Coordinator.Billing.Operations
