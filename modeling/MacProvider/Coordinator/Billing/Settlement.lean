import MacProvider.Coordinator.Billing.Schema

/-! # Settlement

`RunSettlement` (`internal/billing/settlement.go`): the credits that are due become one payout for
each provider and window. -/

namespace MacProvider.Coordinator.Billing.Settlement

open Gateway.Time Lib.Tables Billing.Schema

/-- The smallest payout. -/
structure SettlementConfig where
  minPayoutCredits : ℤ

/-! ### The operation -/

/-- An `UPDATE` that sets `quarantined`. -/
def quarantine (l : Ledger) (p : Credit → Bool) (reason : String) : Ledger :=
  { l with
    credits := l.credits.update p
      (fun c => { c with quarantined := true,
                         quarantineReason := some (c.quarantineReason.getD reason) })
      fun _ => rfl }

/-- It does not complement the provider's. -/
def operatorSplitMismatch (l : Ledger) (c : Credit) : Bool :=
  let parts := l.operatorCredits.filter fun o => o.requestCreditID = c.id
  parts.length != 1 ||
    (parts.map OperatorCredit.operatorCredits).sum + c.providerCredits != c.grossCredits

/-- By its idempotency key. -/
def payoutOfWindow (l : Ledger) (providerID : String) (windowStart windowEnd : Instant) :
    Option Payout :=
  l.payouts.rows.find? fun p =>
    p.providerID = providerID && p.windowStart = windowStart && p.windowEnd = windowEnd

/-- `settlement_eligible_request_credits`. -/
def eligible (l : Ledger) (windowStart windowEnd now : Instant) : List Credit :=
  l.credits.rows.filter fun c =>
    decide (c.ts < windowEnd) && !c.settled && c.settlementID.isNone &&
    l.evidence.released (fun m => m ≤ now) c && l.evidence.policyAllows c &&
    !((payoutOfWindow l c.providerID windowStart windowEnd).any fun p =>
      (l.evidence.forceCreditMaturity c.id).any fun m => p.createdAt < m)

/-- The next id. -/
def nextPayoutID (l : Ledger) : ℕ := (l.payouts.rows.map Payout.id).foldl max 0 + 1

/-- The payout with the amounts of these credits. -/
def Payout.add (p : Payout) (group : List Credit) : Payout :=
  let gross := (group.map Credit.grossCredits).sum
  let provider := (group.map Credit.providerCredits).sum
  { p with sourceCreditCount := p.sourceCreditCount + group.length,
           grossCredits := p.grossCredits + gross,
           providerCredits := p.providerCredits + provider,
           operatorCredits := p.operatorCredits + (gross - provider) }

/-- An upsert on the idempotency key `WHERE status = 'ready'`, with the id. -/
def upsertPayout (cfg : SettlementConfig) (providerID : String)
    (windowStart windowEnd now : Instant) (group : List Credit) (l : Ledger) : Ledger × Option ℕ :=
  let gross := (group.map Credit.grossCredits).sum
  let provider := (group.map Credit.providerCredits).sum
  match payoutOfWindow l providerID windowStart windowEnd with
  | some p =>
    if p.status = .ready then
      ({ l with
        payouts := l.payouts.update (fun q => q.id = p.id) (fun q => Payout.add q group)
          fun _ => rfl }, some p.id)
    else (l, none)
  | none =>
    match l.payouts.insert
        { id := nextPayoutID l, providerID, windowStart, windowEnd,
          sourceCreditCount := group.length, grossCredits := gross, providerCredits := provider,
          operatorCredits := gross - provider, minPayoutCredits := cfg.minPayoutCredits,
          payoutCurrency := none, payoutExternalID := none, status := .ready,
          createdAt := now } with
    | some t => ({ l with payouts := t }, some (nextPayoutID l))
    | none => (l, none)

/-- One turn of the loop over the providers. -/
def settleProvider (cfg : SettlementConfig) (windowStart windowEnd now : Instant)
    (due : List Credit) (l : Ledger) (providerID : String) : Ledger :=
  let group := due.filter fun c => c.providerID = providerID
  if cfg.minPayoutCredits ≤ (group.map Credit.providerCredits).sum then
    match upsertPayout cfg providerID windowStart windowEnd now group l with
    | (l', some id) =>
      { l' with
        credits := l'.credits.update (fun c => (group.map Credit.id).contains c.id)
          (fun c => { c with settled := true, settlementID := some id }) fun _ => rfl }
    | (l', none) => l'
  else l

/-- **`RunSettlement`**. -/
def runSettlement (cfg : SettlementConfig) (windowStart windowEnd now : Instant) (l : Ledger) :
    Ledger :=
  let before := fun c : Credit => decide (c.ts < windowEnd) && !c.settled && !c.quarantined
  let l := quarantine l (fun c => before c && c.settlementID.isSome) "conflicting_settlement_id"
  let l := quarantine l (fun c => before c && c.settlementID.isNone && operatorSplitMismatch l c)
    "operator_split_mismatch"
  let due := eligible l windowStart windowEnd now
  (due.map Credit.providerID).eraseDups.foldl (settleProvider cfg windowStart windowEnd now due) l

/-! ### What a settlement does to the payouts -/

/-- Payouts keep their status, new ones are ready. -/
structure Extends (l l' : Ledger) : Prop where
  kept : ∀ {q p}, l.payouts.find? q = some p →
    ∃ p', l'.payouts.find? q = some p' ∧ p'.status = p.status
  fresh : ∀ {q p'}, l'.payouts.find? q = some p' → l.payouts.find? q = none → p'.status = .ready

theorem Extends.refl (l : Ledger) : Extends l l :=
  ⟨fun {_ p} h => ⟨p, h, rfl⟩, fun h h' => absurd (h.symm.trans h') (by simp)⟩

theorem Extends.trans {l l' l'' : Ledger} (h : Extends l l') (h' : Extends l' l'') :
    Extends l l'' := by
  refine ⟨fun {q p} hp => ?_, fun {q p''} hp'' hn => ?_⟩
  · obtain ⟨p', hp', hs⟩ := h.kept hp
    obtain ⟨p'', hp'', hs'⟩ := h'.kept hp'
    exact ⟨p'', hp'', hs'.trans hs⟩
  · rcases hp' : l'.payouts.find? q with _ | p'
    · exact h'.fresh hp'' hp'
    · obtain ⟨x, hx, hs⟩ := h'.kept hp'
      rw [hx] at hp''
      cases hp''
      exact hs.trans (h.fresh hp' hn)

theorem extends_of_payouts_eq {l l' : Ledger} (h : l'.payouts = l.payouts) : Extends l l' :=
  ⟨fun {_ p} hp => ⟨p, h ▸ hp, rfl⟩, fun hp' hn => absurd ((h ▸ hp').symm.trans hn) (by simp)⟩

theorem extends_update {l l' : Ledger} {p : Payout → Bool} {f : Payout → Payout}
    (hf : ∀ q, (f q).id = q.id) (hs : ∀ q, (f q).status = q.status)
    (h : l'.payouts = l.payouts.update p f hf) : Extends l l' := by
  refine ⟨fun {q r} hr => ?_, fun {q r'} hr' hn => ?_⟩
  · rw [h, Table.find?_update, hr]
    refine ⟨_, rfl, ?_⟩
    dsimp only
    split_ifs
    · exact hs r
    · rfl
  · rw [h, Table.find?_update, hn] at hr'
    cases hr'

theorem extends_insert {l l' : Ledger} {r : Payout} (hr : r.status = .ready)
    (h : l.payouts.insert r = some l'.payouts) : Extends l l' := by
  have hnone := (Table.insert_eq_some h).1
  refine ⟨fun {q p} hp => ?_, fun {q p'} hp' hn => ?_⟩
  · rw [Table.find?_insert h, if_neg]
    · exact ⟨p, hp, rfl⟩
    · rintro rfl
      exact absurd (hp.symm.trans hnone) (by simp)
  · rw [Table.find?_insert h] at hp'
    split_ifs at hp' with hq
    · cases hp'
      exact hr
    · exact absurd (hp'.symm.trans hn) (by simp)

theorem upsertPayout_extends (cfg : SettlementConfig) (pid : String)
    (windowStart windowEnd now : Instant) (group : List Credit) (l : Ledger) :
    Extends l (upsertPayout cfg pid windowStart windowEnd now group l).1 := by
  unfold upsertPayout
  dsimp only
  split
  · split_ifs
    · exact extends_update (f := fun q => Payout.add q group) (fun _ => rfl) (fun _ => rfl) rfl
    · exact Extends.refl l
  · split
    · next t ht => exact extends_insert rfl ht
    · exact Extends.refl l

theorem settleProvider_extends (cfg : SettlementConfig) (windowStart windowEnd now : Instant)
    (due : List Credit) (l : Ledger) (pid : String) :
    Extends l (settleProvider cfg windowStart windowEnd now due l pid) := by
  unfold settleProvider
  dsimp only
  split_ifs
  · have h := upsertPayout_extends cfg pid windowStart windowEnd now
      (due.filter fun c => c.providerID = pid) l
    split
    · next l' id he =>
      rw [he] at h
      exact h.trans (extends_of_payouts_eq rfl)
    · next l' he =>
      rw [he] at h
      exact h
  · exact Extends.refl l

theorem foldl_extends (f : Ledger → String → Ledger) (hf : ∀ l x, Extends l (f l x)) :
    ∀ (xs : List String) (l : Ledger), Extends l (xs.foldl f l)
  | [], l => Extends.refl l
  | x :: xs, l => (hf l x).trans (foldl_extends f hf xs (f l x))

theorem runSettlement_extends (cfg : SettlementConfig) (windowStart windowEnd now : Instant)
    (l : Ledger) : Extends l (runSettlement cfg windowStart windowEnd now l) := by
  unfold runSettlement
  refine (extends_of_payouts_eq ?_).trans (foldl_extends _ (settleProvider_extends _ _ _ _ _) _ _)
  rfl

end MacProvider.Coordinator.Billing.Settlement
