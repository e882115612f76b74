import MacProvider.Coordinator.Billing.Conservation
import MacProvider.Coordinator.Payout.Programs

/-! # Paid and owed

A transfer has the amount of the payout row when it is signed. A settlement of the same window adds
to the row until it is claimed, and more is consumed than was paid. -/

namespace MacProvider.Coordinator.Payout.Owed

open Lib.Tables Lib.Runs Lib.Calls Gateway.Time Billing.Schema Billing.Settlement Billing.Claim
open Billing.Conservation Payout.Addresses Payout.Attempts Payout.Database Payout.System
open Payout.Runner Payout.Accounts Payout.Programs

open AttemptTable (SameTx)

/-! ### The invariant -/

/-- A live transfer has the amount of its ready payout. -/
structure AmountsOwed (w : World) : Prop where
  found : ∀ a ∈ w.rows, ∃ r, w.db.ledger.payouts.find? a.payoutID = some r
  amount : ∀ a ∈ w.rows, a.liveTransfer = true → ∀ r ∈ w.db.ledger.payouts.find? a.payoutID,
    r.status = .ready → a.amount = r.providerCredits
  live : ∀ a ∈ w.rows, a.progress.confirmedAt.isSome = true → a.live = true

/-- Ready, with a live transfer. -/
def Underway (w : World) (r : Payout) : Prop :=
  r.status = .ready ∧ ∃ a ∈ w.rows, a.payoutID = r.id ∧ a.liveTransfer = true

instance (w : World) (r : Payout) : Decidable (Underway w r) := by unfold Underway; infer_instance

/-- The linked credits of such a payout are its amount. -/
def SourcesAddUp (w : World) (q : ℕ) : Prop :=
  ∀ r ∈ w.db.ledger.payouts.find? q, Underway w r →
    r.providerCredits = sourceSum w.db.ledger q Credit.providerCredits

instance (w : World) (q : ℕ) : Decidable (SourcesAddUp w q) := by
  unfold SourcesAddUp; infer_instance

/-- So it is when the runner claims. -/
def ClaimsWhole : Call → Choice → World → Prop
  | .claimPayoutReady q _ _ _, f, w => f.mishap ≠ .rolledBack → SourcesAddUp w q
  | _, _, _ => True

instance (c : Call) (f : Choice) (w : World) : Decidable (ClaimsWhole c f w) := by
  unfold ClaimsWhole
  split <;> infer_instance

/-- So it is when others claim, and no credit joins such a payout. -/
def SettlesApart : Event → World → Prop
  | .claimPayoutReady q _ _ _, w => SourcesAddUp w q
  | .runSettlement _ _ windowEnd, w => ∀ r ∈ w.db.ledger.payouts.rows, r.windowEnd = windowEnd →
      Underway w r → ∀ c ∈ w.db.ledger.credits.rows, joins w.db.ledger w.clock r c = false
  | _, _ => True

instance (e : Event) (w : World) : Decidable (SettlesApart e w) := by
  unfold SettlesApart
  split <;> infer_instance

/-! ### Steps of the ledger -/

/-- Payouts stay, and none becomes ready again. -/
def Evolves (l l' : Ledger) : Prop :=
  ∀ q r, l.payouts.find? q = some r →
    ∃ r', l'.payouts.find? q = some r' ∧ (r'.status = .ready → r.status = .ready)

theorem evolves_of_payouts_eq {l l' : Ledger} (h : l'.payouts = l.payouts) : Evolves l l' :=
  fun q r hr => ⟨r, by rw [h, hr], id⟩

theorem evolves_claim (q : ℕ) (gross : ℤ) (ext cur : String) (now : Instant) (l : Ledger) :
    Evolves l (claimPayoutReady q gross ext cur now l).2 := by
  intro x r hr
  rcases @claimPayoutReady_cases q gross ext cur now l with
    ⟨hpayouts, -⟩ | ⟨p, p', hp, hready, hfind, -⟩
  · exact evolves_of_payouts_eq hpayouts x r hr
  -- the payout `q` was ready, and another row is in its place
  rw [hfind x]
  split_ifs with hx
  · rw [hx, hp] at hr
    exact ⟨p', rfl, fun _ => Option.some.inj hr ▸ hready⟩
  · exact ⟨r, hr, id⟩

theorem evolves_runSettlement (cfg : SettlementConfig) (windowStart windowEnd now : Instant)
    (l : Ledger) : Evolves l (runSettlement cfg windowStart windowEnd now l) := by
  intro q r hr
  obtain ⟨r', hr', hs⟩ := (runSettlement_extends cfg windowStart windowEnd now l).kept hr
  exact ⟨r', hr', fun h => hs ▸ h⟩

section Steps
variable {cfg : Config} {i : ℕ} {c : Call} {f : Choice} {w : World}

/-- Ready payouts with a live transfer keep their credits. -/
def KeepsCredits (w : World) (l : Ledger) : Prop :=
  ∀ a ∈ w.rows, a.liveTransfer = true → ∀ r ∈ w.db.ledger.payouts.find? a.payoutID,
    ∀ r' ∈ l.payouts.find? a.payoutID, r.status = .ready → r'.status = .ready →
      r'.providerCredits = r.providerCredits

theorem keepsCredits_of_payouts_eq {l : Ledger} (h : l.payouts = w.db.ledger.payouts) :
    KeepsCredits w l := by
  intro a ha hlive r hr r' hr' _ _
  rw [h] at hr'
  rw [Option.some.inj (hr.symm.trans hr')]

theorem keepsCredits_claim {q : ℕ} (h : SourcesAddUp w q) (gross : ℤ) (ext cur : String) :
    KeepsCredits w (claimPayoutReady q gross ext cur w.clock w.db.ledger).2 := by
  rcases @claimPayoutReady_cases q gross ext cur w.clock w.db.ledger with
    ⟨hpayouts, -⟩ | ⟨p, p', hp, -, hfind, -, -, hsame⟩
  · exact keepsCredits_of_payouts_eq hpayouts
  intro a ha hlive r hr r' hr' hready hready'
  have hr' : (claimPayoutReady q gross ext cur w.clock w.db.ledger).2.payouts.find? a.payoutID =
    some r' := hr'
  rw [hfind] at hr'
  split_ifs at hr' with hq
  · -- the row is recomputed from its sources
    obtain rfl := Option.some.inj hr'
    obtain rfl : p = r := Option.some.inj (hp.symm.trans (hq ▸ hr))
    obtain ⟨hvalid, hcredits⟩ := hsame hready'
    have hid : p.id = q := Table.key_of_find? hp
    rw [hcredits, payableTotals_of_valid hvalid, hid]
    exact (h p hp ⟨hready, a, ha, hq.trans hid.symm, hlive⟩).symm
  · rw [Option.some.inj (hr.symm.trans hr')]

theorem keepsCredits_runSettlement {settlement : SettlementConfig} {start stop : Instant}
    (h : SettlesApart (.runSettlement settlement start stop) w) :
    KeepsCredits w (runSettlement settlement start stop w.clock w.db.ledger) := by
  intro a ha hlive r hr r' hr' hready _
  obtain ⟨hmem, hid⟩ := Table.find?_eq_some.mp hr
  have hkept : (runSettlement settlement start stop w.clock w.db.ledger).payouts.find? a.payoutID =
      some r :=
    runSettlement_payout hr fun hend => h r hmem hend ⟨hready, a, ha, hid.symm, hlive⟩
  rw [Option.some.inj (hkept.symm.trans hr')]

/-! ### Steps keep the invariant -/

section
variable (h : AmountsOwed w)
include h

theorem AmountsOwed.setLedger {l : Ledger} (hl : Evolves w.db.ledger l)
    (hkeep : KeepsCredits w l) : AmountsOwed (w.setLedger l) := by
  refine ⟨fun a ha => ?_, fun a ha hlive r' hr' hready' => ?_, h.live⟩
  · obtain ⟨r, hr⟩ := h.found a ha
    obtain ⟨r', hr', -⟩ := hl _ r hr
    exact ⟨r', hr'⟩
  · obtain ⟨r, hr⟩ := h.found a ha
    obtain ⟨x, hx, hback⟩ := hl _ r hr
    obtain rfl : x = r' := Option.some.inj (hx.symm.trans hr')
    have hready := hback hready'
    rw [hkeep a ha hlive r hr x hx hready hready']
    exact h.amount a ha hlive r hr hready

theorem AmountsOwed.note (payoutID attemptSeq : ℕ) (n : AttemptTable.Note) :
    AmountsOwed (w.note payoutID attemptSeq n) := by
  refine ⟨fun x hx => ?_, fun x hx hlive r hr hready => ?_, fun x hx hconf => ?_⟩
  · obtain ⟨a, ha, hsame, -⟩ := AttemptTable.mem_note hx
    rw [hsame.payoutID]
    exact h.found a ha
  · obtain ⟨a, ha, hsame, hl, -⟩ := AttemptTable.mem_note hx
    rw [hsame.payoutID] at hr
    rw [hsame.amount]
    exact h.amount a ha ((hsame.liveTransfer hl).symm.trans hlive) r hr hready
  · obtain ⟨a, ha, -, hl, hcase⟩ := AttemptTable.mem_note hx
    rcases hcase with rfl | ⟨happ, rfl⟩
    · exact h.live x ha hconf
    · -- only a live row is marked
      cases n with
      | broadcast | stale => exact h.live a ha hconf
      | confirmed => exact (AttemptTable.unsettled_iff.mp happ).2.2
      | cancelReorged => cases hconf

theorem amountsOwed_allocates {payoutID : ℕ} {address : String} {amount : ℤ} {t₁ t : Instant}
    {r : Allocated} {db : Db} (ha : Allocates cfg i payoutID address amount t₁ w.db r db) :
    AmountsOwed { w with clock := t, db } := by
  obtain ⟨p, hp, howed⟩ := ha.owed
  have hsplit := fun {a} => ha.mem_rows (a := a)
  refine ⟨fun a ha' => ?_, fun a ha' hlive x hx hready => ?_, fun a ha' hconf => ?_⟩
  · show ∃ r, db.ledger.payouts.find? _ = some r
    rw [ha.ledger]
    rcases hsplit ha' with ha' | rfl
    · exact h.found a ha'
    · exact ⟨p, hp⟩
  · have hx' : x ∈ db.ledger.payouts.find? a.payoutID := hx
    rw [ha.ledger] at hx'
    rcases hsplit ha' with ha' | rfl
    · exact h.amount a ha' hlive x hx' hready
    · obtain rfl : p = x := Option.some.inj (hp.symm.trans hx')
      exact howed
  · rcases hsplit ha' with ha' | rfl
    · exact h.live a ha' hconf
    · cases hconf

theorem amountsOwed_abandons {req : AbandonRequest} {now t : Instant} {db : Db}
    (hab : Abandons req now w.db db) : AmountsOwed { w with clock := t, db } := by
  obtain ⟨a₀, ha₀, -, cs, hrows, hcs, -⟩ := hab.row
  have hsplit := @mem_abandoned _ _ _ _ _ _ hrows hcs
  refine ⟨fun x hx => ?_, fun x hx hlive r hr hready => ?_, fun x hx hconf => ?_⟩
  · show ∃ r, db.ledger.payouts.find? _ = some r
    rw [hab.ledger]
    rcases hsplit hx with ⟨a, ha, rfl⟩ | hc
    · rw [(abandonRow_sameTx req now a).payoutID]
      exact h.found a ha
    · rw [hc.payoutID]
      exact h.found a₀ ha₀
  · have hr' : r ∈ db.ledger.payouts.find? x.payoutID := hr
    rw [hab.ledger] at hr'
    obtain ⟨hl, ht⟩ := (Bool.and_eq_true _ _).mp hlive
    rcases hsplit hx with ⟨a, ha, rfl⟩ | hc
    · rw [abandonRow_of_live hl] at hlive hr' ⊢
      exact h.amount a ha hlive r hr' hready
    · rw [hc.isCancel] at ht
      cases ht
  · rcases hsplit hx with ⟨a, ha, rfl⟩ | hc
    · -- a confirmed row is not marked
      unfold abandonRow at hconf ⊢
      split_ifs at hconf ⊢ with hun
      · have hnone : a.progress.confirmedAt = none := (AttemptTable.unsettled_iff.mp hun).2.1
        have hsome : a.progress.confirmedAt.isSome = true := hconf
        rw [hnone] at hsome
        cases hsome
      · exact h.live a ha hconf
    · exact hc.live

theorem amountsOwed_exec (hok : ClaimsWhole c f w) : AmountsOwed (exec cfg i c f w).2 := by
  have hchange := exec_change cfg i c f w
  generalize (exec cfg i c f w).2 = w' at hchange ⊢
  cases hchange with
  | same | cursor | lease | accepted => exact ⟨h.found, h.amount, h.live⟩
  | allocated hm ha => exact amountsOwed_allocates h ha
  | stamped | confirmed => exact h.note _ _ _
  | claimed hm => exact h.setLedger (evolves_claim _ _ _ _ _ _) (keepsCredits_claim (hok hm) _ _ _)
  | abandoned hab => exact amountsOwed_abandons h hab

theorem amountsOwed_env {e : Event} (hok : SettlesApart e w) : AmountsOwed (env cfg e w) := by
  cases e with
  | handleCancelReorg | markStale => exact h.note _ _ _
  | runSettlement =>
    exact h.setLedger (evolves_runSettlement _ _ _ _ _) (keepsCredits_runSettlement hok)
  | claimPayoutReady =>
    exact h.setLedger (evolves_claim _ _ _ _ _ _) (keepsCredits_claim hok _ _ _)
  | credits => exact h.setLedger (evolves_of_payouts_eq rfl) (keepsCredits_of_payouts_eq rfl)
  | payoutAddress req =>
    unfold env
    dsimp only
    split
    · exact h
    · exact ⟨h.found, h.amount, h.live⟩
  | _ => exact ⟨h.found, h.amount, h.live⟩

end

end Steps

/-! ### Runs -/

/-- The next action consumes the ready payout, with row `r`. -/
def Consumes (cfg : Config) (p : Payouts) (i : ℕ) (f : Choice) (q : ℕ) (r : Payout) : Prop :=
  (∃ r₀, p.state.db.ledger.payouts.find? q = some r₀ ∧ r₀.status = .ready) ∧
    (step cfg p (.call i f)).state.db.ledger.payouts.find? q = some r ∧ r.status = .consumed

theorem consumes_cases {cfg : Config} {p : Payouts} {i : ℕ} {f : Choice} {q : ℕ} {r : Payout}
    (h : Consumes cfg p i f q r) : ∃ gross ext cur k r₀,
      p.progs i = .call (.claimPayoutReady q gross ext cur) k ∧
      p.state.db.ledger.payouts.find? q = some r₀ ∧ r₀.status = .ready ∧
      r.providerCredits = r₀.providerCredits := by
  obtain ⟨⟨r₀, hr₀, hready⟩, hr, hconsumed⟩ := h
  have hdiff : ∀ {l : Ledger}, l.payouts.find? q = some r → l.payouts = p.state.db.ledger.payouts →
      False := by
    intro l hl heq
    rw [heq, hr₀] at hl
    rw [← Option.some.inj hl, hready] at hconsumed
    cases hconsumed
  rcases hprog : p.progs i with x | ⟨c, k⟩
  · unfold Runner.step at hr
    rw [step_ret hprog] at hr
    exact (hdiff hr rfl).elim
  · unfold Runner.step at hr
    rw [step_call hprog] at hr
    have hchange := exec_change cfg i c f p.state
    generalize (exec cfg i c f p.state).2 = w' at hchange hr
    cases hchange with
    | same | cursor | lease | accepted | stamped | confirmed => exact (hdiff hr rfl).elim
    | allocated hm ha => exact (hdiff hr (congrArg Ledger.payouts ha.ledger)).elim
    | abandoned hab => exact (hdiff hr (congrArg Ledger.payouts hab.ledger)).elim
    | @claimed id gross ext cur f w hm =>
      rcases @claimPayoutReady_cases id gross ext cur p.state.clock p.state.db.ledger with
        ⟨hpayouts, -⟩ | ⟨p₀, p', hp₀, -, hfind, -, hcredits, -⟩
      · exact (hdiff hr hpayouts).elim
      have hr' := (hfind q).symm.trans hr
      split_ifs at hr' with hq
      · subst hq
        obtain rfl := Option.some.inj hr'
        exact ⟨gross, ext, cur, k, r₀, rfl, hr₀, hready,
          (hcredits hconsumed).trans (congrArg _ (Option.some.inj (hp₀.symm.trans hr₀)))⟩
      · exact (hdiff hr' rfl).elim

/-- **A payout that the runner consumes was paid in full**, in runs in which nothing joins a payout
with a live transfer and claims find its sources complete. -/
theorem consumed_payout_was_paid_in_full {cfg : Config} {scripts : ℕ → Script} {p : Payouts}
    (ledger : Ledger) (registry : Registry) (chain : Chain) (clock : Instant)
    (h : Reaches (step cfg) (Guard ClaimsWhole SettlesApart)
      (payoutSystem cfg scripts (World.initial ledger registry chain clock)) p)
    {i : ℕ} {f : Choice} {q : ℕ} {r : Payout} (hconsumes : Consumes cfg p i f q r) :
    (∃ a ∈ p.state.rows, a.payoutID = q ∧ a.isCancel = false ∧
      a.progress.confirmedAt.isSome = true) ∧
    ∀ a ∈ p.state.rows, a.payoutID = q → a.isCancel = false →
      a.progress.confirmedAt.isSome = true → a.amount = r.providerCredits := by
  obtain ⟨gross, ext, cur, k, r₀, hprog, hr₀, hready, hcredits⟩ := consumes_cases hconsumes
  have howed : AmountsOwed p.state := by
    refine state_induction (I := AmountsOwed) h ?_ (fun w i f c hw hok => amountsOwed_exec hw hok)
      fun w e hw hok => amountsOwed_env hw hok
    exact ⟨fun a ha => absurd ha List.not_mem_nil, fun a ha => absurd ha List.not_mem_nil,
      fun a ha => absurd ha List.not_mem_nil⟩
  -- the runner claims a payout only when it has a confirmed transfer
  have hpaid : HasPaid p.state q := by
    have hsafe := (disciplined (P := False) h fun _ _ _ _ _ _ _ hfalse => hfalse.elim).2 i
    rw [hprog] at hsafe
    exact hsafe.1
  refine ⟨?_, fun a ha haq htransfer hconf => ?_⟩
  · obtain ⟨a, ha, haq, hp⟩ := hpaid
    obtain ⟨hlive, hconf⟩ := (Bool.and_eq_true _ _).mp hp
    have htransfer := ((Bool.and_eq_true _ _).mp hlive).2
    exact ⟨a, ha, haq, by simpa using htransfer, hconf⟩
  · have hlive : a.liveTransfer = true := by
      unfold Attempt.liveTransfer
      rw [howed.live a ha hconf, htransfer]
      rfl
    rw [hcredits]
    exact howed.amount a ha hlive r₀ (haq ▸ hr₀) hready

/-- A late credit for the window of payout 1. -/
def demoLate : Credit :=
  { demoCredit 3 with grossCredits := 10, providerCredits := 9, settled := false,
                      settlementID := none }

/-- A cycle broadcasts, then what `settles` says, then a cycle that confirms. -/
def demoSettled (settles : List Event) : List Runner.Action :=
  calls 0 22 (demoChoice 5) ++ settles.map .env ++ calls 0 12 (demoConfirm 5)

/-- It comes, and the window is settled again. -/
def demoResettlement : List Event :=
  [.credits ⟨[demoCredit 1, demoCredit 2, demoLate], by decide⟩ [⟨3, 1⟩] ⟨[], [], [], []⟩,
    .runSettlement ⟨1⟩ 0 1]

/-- The system when the claim is due. -/
def demoClaim (settles : List Event) : Payouts :=
  run (step demoConfig) (payoutSystem demoConfig (fun _ => .runner 2) demoWorld)
    (demoSettled settles)

/-- Consumed with 99, of which 90 were paid. -/
theorem resettled_payout_is_underpaid :
    ((demoClaim demoResettlement).state.rows.filter Attempt.paid).map
        (fun a => (a.payoutID, a.amount)) = [(1, 90)] ∧
      (step demoConfig (demoClaim demoResettlement)
        (.call 0 (demoConfirm 5))).state.db.ledger.payouts.rows.map
        (fun r => (r.id, r.status, r.providerCredits)) = [(1, .consumed, 99), (2, .ready, 90)] := by
  decide +kernel

/-- The late credit goes to a window of its own. -/
def demoOwnWindow : List Event :=
  [.credits ⟨[demoCredit 1, demoCredit 2, demoLate], by decide⟩ [⟨3, 1⟩] ⟨[], [], [], []⟩,
    .runSettlement ⟨1⟩ 5 9]

theorem consumed_payout_was_paid_in_full_own_window :
    ∃ r, Consumes demoConfig (demoClaim demoOwnWindow) 0 (demoConfirm 5) 1 r ∧
      r.providerCredits = 90 ∧
      ((∃ a ∈ (demoClaim demoOwnWindow).state.rows, a.payoutID = 1 ∧ a.isCancel = false ∧
        a.progress.confirmedAt.isSome = true) ∧
      ∀ a ∈ (demoClaim demoOwnWindow).state.rows, a.payoutID = 1 → a.isCancel = false →
        a.progress.confirmedAt.isSome = true → a.amount = r.providerCredits) := by
  have hrun : Reaches (step demoConfig) (Guard ClaimsWhole SettlesApart)
      (payoutSystem demoConfig (fun _ => .runner 2) demoWorld) (demoClaim demoOwnWindow) :=
    reaches_of_allowed (by decide +kernel)
  have hbefore : ((demoClaim demoOwnWindow).state.db.ledger.payouts.find? 1).map Payout.status =
      some .ready := by
    decide +kernel
  have hbehind : ((step demoConfig (demoClaim demoOwnWindow)
      (.call 0 (demoConfirm 5))).state.db.ledger.payouts.find? 1).map
        (fun r => (r.status, r.providerCredits)) = some (.consumed, 90) := by
    decide +kernel
  obtain ⟨r₀, hr₀, hready⟩ := Option.map_eq_some_iff.mp hbefore
  obtain ⟨r, hr, heq⟩ := Option.map_eq_some_iff.mp hbehind
  have hconsumes : Consumes demoConfig (demoClaim demoOwnWindow) 0 (demoConfirm 5) 1 r :=
    ⟨⟨r₀, hr₀, hready⟩, hr, congrArg Prod.fst heq⟩
  exact ⟨r, hconsumes, congrArg Prod.snd heq,
    consumed_payout_was_paid_in_full demoLedger demoRegistry .empty newYear hrun hconsumes⟩

end MacProvider.Coordinator.Payout.Owed
