import MacProvider.Coordinator.Billing.Claimable
import MacProvider.Coordinator.Payout.Runner

/-! # Payouts that are voided behind their transfer

The sources of a payout are looked at when it is claimed, behind its transfer; a credit that is
quarantined in the meantime voids a payout that has been paid. -/

namespace MacProvider.Coordinator.Payout.Voiding

open Gateway.Time Lib.Runs Lib.Calls Billing.Schema Billing.Settlement Billing.Claim
open Billing.Operations (mem_sources)
open Billing.Claimable (SameEvidence payable_mono snapshotAbout verdictAbout outputAbout)
open Payout.Database Payout.System Payout.Runner

/-! ### Claims and their outcome -/

/-- The status of a payout. -/
def payoutStatus (l : Ledger) (q : ℕ) : Option PayoutStatus := (l.payouts.find? q).map Payout.status

/-- A transfer was sent and is not abandoned. -/
def TransferSent (w : World) (q : ℕ) : Prop :=
  ∃ a ∈ w.rows, a.payoutID = q ∧ a.liveTransfer = true ∧
    (a.progress.broadcastAt.isSome = true ∨ a.progress.confirmedAt.isSome = true)

instance (w : World) (q : ℕ) : Decidable (TransferSent w q) := by
  unfold TransferSent; infer_instance

/-- The call claims the payout and commits. -/
def CommitsClaim (q : ℕ) (f : Choice) : Call → Prop
  | .claimPayoutReady id _ _ _ => id = q ∧ f.mishap ≠ .rolledBack
  | _ => False

/-- The action claims the payout. -/
def ClaimsPayout (p : Payouts) (q : ℕ) : Action → Prop
  | .call i f => ∃ c k, p.progs i = .call c k ∧ CommitsClaim q f c
  | .env e => ∃ gross ext cur, e = .claimPayoutReady q gross ext cur

/-- It voids no payout with such a transfer. -/
def VoidsNoSent (cfg : Config) (p : Payouts) (a : Action) : Prop :=
  ∀ q r, p.state.db.ledger.payouts.find? q = some r → r.status = .ready → TransferSent p.state q →
    payoutStatus (step cfg p a).state.db.ledger q ≠ some .voided

/-- A claim finds its sources payable, and adding up to it or the minimum. -/
def FindsPayable (p : Payouts) (a : Action) : Prop :=
  ∀ q r, p.state.db.ledger.payouts.find? q = some r → r.status = .ready → TransferSent p.state q →
    ClaimsPayout p q a → SourceSetValid p.state.db.ledger r p.state.clock ∧
      (PayoutMatchesSources r (payableTotals p.state.db.ledger r p.state.clock) ∨
        r.minPayoutCredits ≤ (payableTotals p.state.db.ledger r p.state.clock).provider)

theorem not_voids_iff (l : Ledger) (r : Payout) (now : Instant) :
    ¬ Voids l r now ↔ SourceSetValid l r now ∧
      (PayoutMatchesSources r (payableTotals l r now) ∨
        r.minPayoutCredits ≤ (payableTotals l r now).provider) := by
  unfold Voids
  rw [not_or, not_not, not_and_or, not_not, not_lt]

/-! ### Steps -/

theorem status_ne_voided {l : Ledger} {q : ℕ} {r : Payout} (hr : l.payouts.find? q = some r)
    (hready : r.status = .ready) : payoutStatus l q ≠ some .voided := by
  unfold payoutStatus
  rw [hr]
  simp [hready]

/-- **What a claim voids.** -/
theorem claim_voids_iff {l : Ledger} {q : ℕ} {r : Payout} (hr : l.payouts.find? q = some r)
    (hready : r.status = .ready) (id : ℕ) (gross : ℤ) (ext cur : String) (now : Instant) :
    payoutStatus (claimPayoutReady id gross ext cur now l).2 q = some .voided ↔
      id = q ∧ Voids l r now := by
  have hkeep : (l.payouts.find? q).map Payout.status ≠ some .voided := status_ne_voided hr hready
  unfold payoutStatus
  rcases @claimPayoutReady_cases id gross ext cur now l with
    ⟨hpayouts, hnot⟩ | ⟨p, p', hp, -, hfind, hvoided, -⟩
  · rw [hpayouts]
    exact iff_of_false hkeep fun ⟨hid, hv⟩ => hnot r (hid ▸ hr) hready hv
  rw [hfind q]
  split_ifs with hq
  · subst hq
    obtain rfl : p = r := Option.some.inj (hp.symm.trans hr)
    simp [hvoided]
  · exact iff_of_false hkeep fun h => hq h.1.symm

section Steps
variable {cfg : Config} {w : World} {q : ℕ} {r : Payout}

theorem payouts_exec {i : ℕ} {c : Call} {f : Choice}
    (hc : ∀ id gross ext cur, c ≠ .claimPayoutReady id gross ext cur) :
    (exec cfg i c f w).2.db.ledger.payouts = w.db.ledger.payouts := by
  have hchange := exec_change cfg i c f w
  generalize (exec cfg i c f w).2 = w' at hchange ⊢
  cases hchange with
  | same | cursor | lease | accepted | stamped | confirmed => rfl
  | allocated hm h => exact congrArg Ledger.payouts h.ledger
  | claimed hm => exact absurd rfl (hc _ _ _ _)
  | abandoned h => exact congrArg Ledger.payouts h.ledger

theorem exec_voids_iff {i : ℕ} {c : Call} {f : Choice} (hr : w.db.ledger.payouts.find? q = some r)
    (hready : r.status = .ready) :
    payoutStatus (exec cfg i c f w).2.db.ledger q = some .voided ↔
      CommitsClaim q f c ∧ Voids w.db.ledger r w.clock := by
  have hkeep := status_ne_voided hr hready
  cases c with
  | claimPayoutReady id gross ext cur =>
    have hclaim := claim_voids_iff hr hready id gross ext cur w.clock
    unfold exec CommitsClaim
    rcases hm : f.mishap with _ | _ | _
    · exact hclaim.trans (by simp)
    · exact iff_of_false hkeep fun h => h.1.2 rfl
    · exact hclaim.trans (by simp)
  | _ =>
    refine iff_of_false ?_ fun h => h.1
    unfold payoutStatus
    rw [payouts_exec (by intros; exact Call.noConfusion)]
    exact hkeep

theorem env_voids_iff {e : Event} (hr : w.db.ledger.payouts.find? q = some r)
    (hready : r.status = .ready) :
    payoutStatus (env cfg e w).db.ledger q = some .voided ↔
      (∃ gross ext cur, e = .claimPayoutReady q gross ext cur) ∧ Voids w.db.ledger r w.clock := by
  have hkeep := status_ne_voided hr hready
  cases e with
  | claimPayoutReady id gross ext cur =>
    refine (claim_voids_iff hr hready id gross ext cur w.clock).trans (and_congr_left fun _ => ?_)
    exact ⟨fun h => ⟨gross, ext, cur, by rw [h]⟩, fun ⟨_, _, _, h⟩ =>
      (Event.claimPayoutReady.inj h).1⟩
  | runSettlement settlement windowStart windowEnd =>
    refine iff_of_false ?_ fun ⟨⟨_, _, _, h⟩, _⟩ => by cases h
    obtain ⟨r', hr', hs⟩ :=
      (runSettlement_extends settlement windowStart windowEnd w.clock w.db.ledger).kept hr
    show ((runSettlement settlement windowStart windowEnd w.clock
      w.db.ledger).payouts.find? q).map Payout.status ≠ _
    rw [hr']
    simp [hs, hready]
  | payoutAddress req =>
    refine iff_of_false ?_ fun ⟨⟨_, _, _, h⟩, _⟩ => by cases h
    unfold env
    dsimp only
    split
    · exact hkeep
    · exact hkeep
  | _ => exact iff_of_false hkeep fun ⟨⟨_, _, _, h⟩, _⟩ => by cases h

/-- **What a step voids.** -/
theorem step_voids_iff {p : Payouts} (a : Action) (hr : p.state.db.ledger.payouts.find? q = some r)
    (hready : r.status = .ready) :
    payoutStatus (step cfg p a).state.db.ledger q = some .voided ↔
      ClaimsPayout p q a ∧ Voids p.state.db.ledger r p.state.clock := by
  have hkeep := status_ne_voided hr hready
  rcases a with ⟨i, f⟩ | e
  · unfold step
    rcases hprog : p.progs i with x | ⟨c, k⟩
    · rw [step_ret hprog]
      refine iff_of_false hkeep fun ⟨⟨c, k, hc, _⟩, _⟩ => ?_
      rw [hprog] at hc
      cases hc
    · rw [step_call hprog]
      refine (exec_voids_iff hr hready).trans (and_congr_left fun _ => ?_)
      refine ⟨fun h => ⟨c, k, hprog, h⟩, fun ⟨c', k', hc, h⟩ => ?_⟩
      rw [hprog] at hc
      cases hc
      exact h
  · exact env_voids_iff hr hready

end Steps

/-! ### What happens to the sources -/

/-- What happened to a source meanwhile. -/
inductive Disturbed (c : Credit) (l l' : Ledger) : Prop
  /-- It was quarantined, or its row was written in another way. -/
  | row (h : c ∉ l'.credits.rows)
  /-- An operator forced a credit or a void. -/
  | resolution (h : l'.evidence.resolutions.filter (fun r => r.requestCreditID = c.id) ≠
      l.evidence.resolutions.filter fun r => r.requestCreditID = c.id)
  | snapshot (h : l'.evidence.snapshots.filter (snapshotAbout c) ≠
      l.evidence.snapshots.filter (snapshotAbout c))
  /-- The verdict on its receipt changed. -/
  | verdict (h : l'.evidence.verdicts.filter (verdictAbout c) ≠
      l.evidence.verdicts.filter (verdictAbout c))
  /-- Its output was marked as overlapping, or another one came. -/
  | output (h : l'.evidence.outputs.filter (outputAbout c) ≠
      l.evidence.outputs.filter (outputAbout c))

section Sources
variable {l l' : Ledger} {r : Payout} {now now' : Instant} {c : Credit}

theorem undisturbed (h : ¬ Disturbed c l l') :
    c ∈ l'.credits.rows ∧ SameEvidence c l.evidence l'.evidence := by
  refine ⟨not_not.mp fun hn => h (.row hn), ⟨?_, ?_, ?_, ?_⟩⟩
  · exact not_not.mp fun hn => h (.resolution hn)
  · exact not_not.mp fun hn => h (.snapshot hn)
  · exact not_not.mp fun hn => h (.verdict hn)
  · exact not_not.mp fun hn => h (.output hn)

theorem sourceSetValid_iff : SourceSetValid l r now ↔
    sources l r.id ≠ [] ∧ ∀ c ∈ sources l r.id, payableSource l r now c = true := by
  unfold SourceSetValid payableTotals
  rw [List.length_pos_iff, Nat.cast_inj, eq_comm, List.length_filter_eq_length_iff]

theorem sources_nodup (l : Ledger) (q : ℕ) : (sources l q).Nodup :=
  (List.Nodup.of_map _ l.credits.nodup).filter _

/-- **What voids payable sources**: one was disturbed, or a credit joined. -/
theorem disturbed_of_voids (hle : now ≤ now') (hbefore : ¬ Voids l r now)
    (hafter : Voids l' r now') : (∃ c ∈ sources l r.id, Disturbed c l l') ∨
      ∃ c ∈ sources l' r.id, c ∉ sources l r.id := by
  by_contra hcalm
  simp only [not_or, not_exists, not_and, not_not] at hcalm
  obtain ⟨hkept, hnone⟩ := hcalm
  rw [not_voids_iff, sourceSetValid_iff] at hbefore
  obtain ⟨⟨hne, hpayable⟩, htotals⟩ := hbefore
  have hperm : (sources l r.id).Perm (sources l' r.id) := by
    refine (List.perm_ext_iff_of_nodup (sources_nodup ..) (sources_nodup ..)).mpr fun c => ?_
    exact ⟨fun hc => mem_sources.mpr ⟨(undisturbed (hkept c hc)).1, (mem_sources.mp hc).2⟩,
      hnone c⟩
  have hpayable' : ∀ c ∈ sources l' r.id, payableSource l' r now' c = true := by
    intro c hc
    have hold := hperm.mem_iff.mpr hc
    have hp := hpayable c hold
    unfold payableSource at hp ⊢
    rw [Bool.and_eq_true] at hp ⊢
    exact ⟨hp.1, payable_mono hle ((undisturbed (hkept c hold)).2.payable now ▸ hp.2)⟩
  have hsame : payableTotals l' r now' = payableTotals l r now := by
    unfold payableTotals
    rw [List.filter_eq_self.mpr hpayable, List.filter_eq_self.mpr hpayable']
    simp only [hperm.length_eq, (hperm.map _).sum_eq]
  refine (not_voids_iff ..).mpr ⟨sourceSetValid_iff.mpr ⟨?_, hpayable'⟩, ?_⟩ hafter
  · exact fun h => hne (List.perm_nil.mp (h ▸ hperm))
  · rwa [hsame]

/-- **Voided behind its transfer**: if its sources were payable before, one was quarantined or
forced since, or its verdict, route or mark changed, or a credit joined. -/
theorem voided_behind_transfer {cfg : Config} {p₀ p : Payouts} {a : Action}
    (hr : p.state.db.ledger.payouts.find? r.id = some r) (hready : r.status = .ready)
    (hsigned : ¬ Voids p₀.state.db.ledger r p₀.state.clock)
    (hle : p₀.state.clock ≤ p.state.clock)
    (hvoided : payoutStatus (step cfg p a).state.db.ledger r.id = some .voided) :
    (∃ c ∈ sources p₀.state.db.ledger r.id,
      Disturbed c p₀.state.db.ledger p.state.db.ledger) ∨
    ∃ c ∈ sources p.state.db.ledger r.id, c ∉ sources p₀.state.db.ledger r.id :=
  disturbed_of_voids hle hsigned ((step_voids_iff a hr hready).mp hvoided).2

end Sources

/-- **No payout is voided behind its transfer** exactly if claims find the sources of such payouts
payable, and adding up to them or the minimum. -/
theorem never_voids_sent_iff (cfg : Config) (p : Payouts) (as : List Action) :
    Allowed (step cfg) (VoidsNoSent cfg) p as ↔ Allowed (step cfg) FindsPayable p as := by
  refine allowed_congr (fun p a => ?_) p as
  refine forall₅_congr fun q r hr hready _ => ?_
  rw [Ne, step_voids_iff a hr hready, not_and, not_voids_iff]

/-- The credit is quarantined behind its transfer. -/
def demoQuarantined : Payouts :=
  run (step demoConfig) (payoutSystem demoConfig (fun _ => .runner 1) demoWorld)
    (calls 0 21 (demoConfirm 5) ++ [.env (.credits
      ⟨[{ demoCredit 1 with quarantined := true }, demoCredit 2], by decide⟩ [] ⟨[], [], [], []⟩)])

/-- By the claim of the runner that paid it. -/
theorem paid_payout_is_voided :
    payoutStatus demoQuarantined.state.db.ledger 1 = some .ready ∧
      TransferSent demoQuarantined.state 1 ∧
      payoutStatus (step demoConfig demoQuarantined (.call 0 (demoConfirm 5))).state.db.ledger 1 =
        some .voided := by
  decide +kernel

end MacProvider.Coordinator.Payout.Voiding
