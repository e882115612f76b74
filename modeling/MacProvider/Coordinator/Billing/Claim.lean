import MacProvider.Coordinator.Billing.Schema

/-! # Claiming a payout

`ClaimPayoutReady` (`internal/billing/payout.go`): the sources of a ready payout are looked at
again; it is voided, recomputed, or consumed if its gross amount is the expected one
(`claimPayoutReady_cases`). -/

namespace MacProvider.Coordinator.Billing.Claim

open Gateway.Time Lib.Tables Billing.Schema

/-! ### The operation -/

/-- The credits that are linked to the payout. -/
def sources (l : Ledger) (payoutID : ℕ) : List Credit :=
  l.credits.rows.filter fun c => c.settlementID = some payoutID

/-- A source that may be paid now. -/
def payableSource (l : Ledger) (p : Payout) (now : Instant) (c : Credit) : Bool :=
  c.settled && c.providerID == p.providerID && decide (c.ts < p.windowEnd) &&
    l.evidence.payable now c

/-- Count and sums of the payable sources. -/
structure Totals where
  count : ℤ
  gross : ℤ
  provider : ℤ
  operator : ℤ

/-- What the payable sources add up to. -/
def payableTotals (l : Ledger) (p : Payout) (now : Instant) : Totals :=
  let payable := (sources l p.id).filter (payableSource l p now)
  { count := payable.length
    gross := (payable.map Credit.grossCredits).sum
    provider := (payable.map Credit.providerCredits).sum
    operator := (payable.map fun c => c.grossCredits - c.providerCredits).sum }

/-- There are sources, and all of them are payable. -/
def SourceSetValid (l : Ledger) (p : Payout) (now : Instant) : Prop :=
  0 < (sources l p.id).length ∧ ((sources l p.id).length : ℤ) = (payableTotals l p now).count

instance (l : Ledger) (p : Payout) (now : Instant) : Decidable (SourceSetValid l p now) := by
  unfold SourceSetValid; infer_instance

/-- The payout has the amounts of its sources. -/
def PayoutMatchesSources (p : Payout) (t : Totals) : Prop :=
  p.sourceCreditCount = t.count ∧ p.grossCredits = t.gross ∧ p.providerCredits = t.provider ∧
    p.operatorCredits = t.operator

instance (p : Payout) (t : Totals) : Decidable (PayoutMatchesSources p t) := by
  unfold PayoutMatchesSources; infer_instance

/-- `UPDATE ledger_payout_ready ... WHERE status = 'ready'`. -/
def updateReady (l : Ledger) (id : ℕ) (f : Payout → Payout) (hf : ∀ p, (f p).id = p.id) : Ledger :=
  { l with payouts := l.payouts.update (fun p => p.id = id && p.status = .ready) f hf }

/-- The payout is voided. -/
def voidPayout (l : Ledger) (id : ℕ) : Ledger :=
  updateReady l id (fun p => { p with status := .voided }) fun _ => rfl

/-- Sources that are not payable lose their link. -/
def unlinkSources (l : Ledger) (p : Payout) (now : Instant) : Ledger :=
  { l with
    credits := l.credits.update
      (fun c => c.settlementID = some p.id && !payableSource l p now c && !c.settled)
      (fun c => { c with settled := false, settlementID := none }) fun _ => rfl }

/-- The payout with other amounts. -/
def Payout.recomputed (p : Payout) (t : Totals) : Payout :=
  { p with sourceCreditCount := t.count, grossCredits := t.gross, providerCredits := t.provider,
           operatorCredits := t.operator }

/-- The payout gets the amounts of its sources. -/
def recomputePayout (l : Ledger) (id : ℕ) (t : Totals) : Ledger :=
  updateReady l id (fun p => Payout.recomputed p t) fun _ => rfl

/-- An empty text is `NULL`. -/
def nullString (s : String) : Option String := if s = "" then none else some s

/-- The payout behind its claim. -/
def Payout.consumedAs (p : Payout) (externalID currency : String) : Payout :=
  { p with status := .consumed, payoutExternalID := nullString externalID,
           payoutCurrency := nullString currency }

/-- A ready row with the expected amount is consumed. -/
def consumePayout (l : Ledger) (p : Payout) (expectedGross : ℤ) (externalID currency : String) :
    Bool × Ledger :=
  if p.status = .ready ∧ p.grossCredits = expectedGross then
    (true, updateReady l p.id (fun p => Payout.consumedAs p externalID currency) fun _ => rfl)
  else (false, l)

/-- Whether it was claimed, and the ledger. -/
def claimPayoutReady (payoutID : ℕ) (expectedGross : ℤ) (externalID currency : String)
    (now : Instant) (l : Ledger) : Bool × Ledger :=
  match l.payouts.find? payoutID with
  | none => (false, l)
  | some p =>
    let t := payableTotals l p now
    if p.status = .ready ∧ ¬ SourceSetValid l p now then
      (false, voidPayout (unlinkSources l p now) p.id)
    else if p.status = .ready ∧ ¬ PayoutMatchesSources p t then
      if p.minPayoutCredits ≤ t.provider then (false, recomputePayout l p.id t)
      else (false, voidPayout l p.id)
    else consumePayout l p expectedGross externalID currency

/-- A claim voids the payout. -/
def Voids (l : Ledger) (p : Payout) (now : Instant) : Prop :=
  ¬ SourceSetValid l p now ∨
    (¬ PayoutMatchesSources p (payableTotals l p now) ∧
      (payableTotals l p now).provider < p.minPayoutCredits)

theorem find?_updateReady {l : Ledger} {id : ℕ} {f : Payout → Payout} (hf : ∀ p, (f p).id = p.id)
    {p : Payout} (hp : l.payouts.find? id = some p) (hready : p.status = .ready) (q : ℕ) :
    (updateReady l id f hf).payouts.find? q = if q = id then some (f p) else l.payouts.find? q := by
  unfold updateReady
  rw [Table.find?_update]
  split_ifs with hq
  · subst hq
    rw [hp]
    have hid := Table.key_of_find? hp
    simp [hid, hready]
  · rcases h : l.payouts.find? q with _ | r
    · rfl
    · have hid : r.id ≠ id := fun h' => hq (h' ▸ (Table.key_of_find? h).symm)
      simp [hid]

section Cases
variable {pid : ℕ} {expectedGross : ℤ} {externalID currency : String} {now : Instant}
  {l : Ledger}

/-- **What a claim does**: nothing to the payouts, or it writes the ready one it names. It voids it
exactly if `Voids` says so, a consumed one keeps its credits, and one that stays ready gets those of
its sources, all payable. -/
theorem claimPayoutReady_cases :
    let out := (claimPayoutReady pid expectedGross externalID currency now l).2
    (out.payouts = l.payouts ∧
      ∀ p, l.payouts.find? pid = some p → p.status = .ready → ¬ Voids l p now) ∨
    ∃ p p', l.payouts.find? pid = some p ∧ p.status = .ready ∧
      (∀ q, out.payouts.find? q = if q = pid then some p' else l.payouts.find? q) ∧
      (p'.status = .voided ↔ Voids l p now) ∧
      (p'.status = .consumed → p'.providerCredits = p.providerCredits) ∧
      (p'.status = .ready → SourceSetValid l p now ∧
        p'.providerCredits = (payableTotals l p now).provider) := by
  unfold claimPayoutReady
  rcases hp : l.payouts.find? pid with _ | p
  · exact Or.inl ⟨rfl, fun p h => by cases h⟩
  have hid : p.id = pid := Table.key_of_find? hp
  subst hid
  dsimp only
  by_cases h1 : p.status = .ready ∧ ¬ SourceSetValid l p now
  · rw [if_pos h1]
    have hfind : (unlinkSources l p now).payouts.find? p.id = some p := hp
    exact Or.inr ⟨p, _, rfl, h1.1, find?_updateReady _ hfind h1.1, iff_of_true rfl (Or.inl h1.2),
      (fun h => by cases h), fun h => by cases h⟩
  rw [if_neg h1]
  by_cases h2 : p.status = .ready ∧ ¬ PayoutMatchesSources p (payableTotals l p now)
  · rw [if_pos h2]
    have hvalid : SourceSetValid l p now := not_not.mp fun h => h1 ⟨h2.1, h⟩
    by_cases h3 : p.minPayoutCredits ≤ (payableTotals l p now).provider
    · rw [if_pos h3]
      have hnot : ¬ Voids l p now := fun h =>
        h.elim (fun h => h hvalid) fun h => absurd h.2 (not_lt.mpr h3)
      have hstatus : (Payout.recomputed p (payableTotals l p now)).status = .ready := h2.1
      exact Or.inr ⟨p, _, rfl, h2.1, find?_updateReady _ hp h2.1,
        iff_of_false (by simp [hstatus]) hnot, by simp [hstatus], fun _ => ⟨hvalid, rfl⟩⟩
    · rw [if_neg h3]
      exact Or.inr ⟨p, _, rfl, h2.1, find?_updateReady _ hp h2.1,
        iff_of_true rfl (Or.inr ⟨h2.2, not_le.mp h3⟩), (fun h => by cases h), fun h => by cases h⟩
  have hnot : p.status = .ready → ¬ Voids l p now := fun hready h =>
    h.elim (fun h => h1 ⟨hready, h⟩) fun h => h2 ⟨hready, h.1⟩
  unfold consumePayout
  split_ifs with h4
  · exact Or.inr ⟨p, Payout.consumedAs p externalID currency, rfl, h4.1,
      find?_updateReady _ hp h4.1, iff_of_false (fun h => by cases h) (hnot h4.1), fun _ => rfl,
      fun h => by cases h⟩
  · exact Or.inl ⟨rfl, fun q hq => Option.some.inj hq ▸ hnot⟩

end Cases

end MacProvider.Coordinator.Billing.Claim
