import MacProvider.Coordinator.Payout.Accounts
import MacProvider.Coordinator.Payout.Runner
import MacProvider.Lib.Rely

/-! # The programs of the payout system make their calls as they should

The runner and the abandon handler with the rules of `Lib.Rely`: each program makes its calls as
required (`Requires`), whatever the others do. `disciplined` is the result for the system. -/

namespace MacProvider.Coordinator.Payout.Programs

open Lib.Runs Lib.Rely Lib.Rlp Gateway.Time Billing.Schema Payout.Addresses Payout.Attempts
open Payout.Receipts Payout.Database Payout.System Payout.Runner Payout.Discipline Payout.Accounts

open AttemptTable (SameTx)
open Contract (safe_perform safe_bind safe_ret)

/-- The contract of the programs. -/
def discipline (cfg : Config) (P : Prop) : Contract ℕ Answer World where
  inv := Sound P
  rely := Later P
  pre := Requires P
  post i c r w w' := ∃ f, (P → Honest cfg c f w) ∧ exec cfg i c f w = (r, w')
  refl := Later.refl P
  trans _ _ _ _ := Later.trans
  stable _ _ _ _ := Requires.later

section Walk
variable {cfg : Config} {P : Prop} {i : ℕ} {α : Type} {Q : α → World → Prop} {w : World}

/-- Its calls are as they should be. -/
abbrev Proper (cfg : Config) (P : Prop) (i : ℕ) (p : Run α) (w : World) : Prop :=
  (discipline cfg P).Safe i (fun _ _ => True) p w

theorem safe_ask {q : Query} {g : q.Answer → Run α}
    (hg : ∀ t f, Later P i w t → Sound P t → (P → Honest cfg (.read q) f t) →
      (discipline cfg P).Safe i Q (g (q.answer cfg i f t)) t) :
    (discipline cfg P).Safe i Q (ask q >>= g) w := by
  refine safe_perform trivial fun t r t' hl hinv _ hpost => ?_
  obtain ⟨f, hok, hexec⟩ := hpost
  cases hexec
  exact hg t f hl hinv hok

theorem safe_quiet {c : Call} {g : Answer c → Run α} (hc : ¬ Takes c) (hreq : Requires P i c w)
    (hg : ∀ t r, Later P i w t → (discipline cfg P).Safe i Q (g r) t) :
    (discipline cfg P).Safe i Q (perform c >>= g) w := by
  refine safe_perform hreq fun t r t' hl _ _ hpost => ?_
  obtain ⟨f, hok, hexec⟩ := hpost
  have hstep : Later P i t (exec cfg i c f t).2 := later_exec (Or.inr hc) hok
  rw [hexec] at hstep
  exact hg t' r (hl.trans hstep)

theorem proper_ret (a : α) : Proper cfg P i (pure a) w := safe_ret fun _ _ => trivial

variable {a : Attempt} {balance : Option ℤ} {row : ReadyRow} {txHash address : String} {f : Choice}
  {w' : World} {amount : ℤ}

theorem proper_withBalance {p : Run RowEnd} (h : Proper cfg P i p w) :
    Proper cfg P i (withBalance balance p) w :=
  safe_bind h fun _ _ _ => proper_ret _

theorem proper_guarded {p : Run (RowEnd × Option ℤ)} (h : Proper cfg P i p w) :
    Proper cfg P i (guarded balance p) w := by
  refine safe_quiet id trivial fun t r hl => ?_
  split
  · exact proper_ret _
  · refine safe_quiet id trivial fun t' r hl' => ?_
    split_ifs
    · exact proper_ret _
    · exact h.later (hl.trans hl')

theorem proper_claimAndLog (h : HasPaid w row.payoutID) :
    Proper cfg P i (claimAndLog row txHash) w := by
  refine safe_quiet id trivial fun t r hl => ?_
  split_ifs
  · exact proper_ret _
  · refine safe_quiet id (h.later hl) fun t' r hl' => ?_
    split
    · exact proper_ret _
    · exact proper_ret _
    · exact proper_ret _

theorem hasPaid_markConfirmed {q attemptSeq n : ℕ} {blockNumber gasUsed : ℤ} {now : Instant}
    {b : Attempt} (hb : b ∈ w.rows) (hkey : b.key = (q, attemptSeq))
    (hcancel : b.isCancel = false) (hn : n ≠ 0)
    (h : exec cfg i (.markConfirmed q attemptSeq blockNumber gasUsed now) f w = (some n, w')) :
    HasPaid w' q := by
  simp only [exec] at h
  rcases hm : f.mishap with _ | _ | _
  · rw [hm] at h
    cases h
    obtain ⟨a, hmem⟩ := List.exists_mem_of_length_pos (Nat.pos_of_ne_zero hn)
    obtain ⟨ha, happ⟩ := List.mem_filter.mp hmem
    obtain ⟨hakey, -, hlive⟩ := AttemptTable.unsettled_iff.mp happ
    obtain rfl := AttemptTable.eq_of_key ha hb (hakey.trans hkey.symm)
    refine ⟨_, List.mem_map.mpr ⟨a, ha, if_pos happ⟩, congrArg Prod.fst hakey, ?_⟩
    have htransfer : a.liveTransfer = true := by
      unfold Attempt.liveTransfer
      rw [hlive, hcancel]
      rfl
    exact (Bool.and_eq_true _ _).mpr ⟨htransfer, rfl⟩
  · rw [hm] at h
    cases h
  · rw [hm] at h
    cases h

theorem proper_markAndClaim {receipt : Receipt} (ha : Stored w a) (hp : a.payoutID = row.payoutID)
    (hcancel : a.isCancel = false) (hfin : P → RowFinal w.chain.final a) :
    Proper cfg P i (markAndClaim row a.attemptSeq txHash receipt) w := by
  have hkey : a.key = (row.payoutID, a.attemptSeq) := Prod.ext hp rfl
  refine safe_quiet id trivial fun t now hl => ?_
  have hreq : P → KeyFinal t (row.payoutID, a.attemptSeq) := fun hP =>
    hkey ▸ (KeyFinal.of_stored ha (hfin hP)).later hl
  refine safe_perform hreq fun t₁ r t₂ hl₁ _ _ hpost => ?_
  obtain ⟨f, -, hexec⟩ := hpost
  split
  · exact proper_ret _
  · exact proper_ret _
  · next n hn =>
    obtain ⟨b, hb, hsame⟩ := (ha.later hl).later hl₁
    exact proper_claimAndLog (hasPaid_markConfirmed hb (hsame.key.trans hkey)
      (hsame.isCancel.trans hcancel) (fun h => hn (h ▸ rfl)) hexec)

theorem safe_pollReceipts (hhash : a.progress.txHash = some txHash) (n : ℕ) (ha : Stored w a) :
    (discipline cfg P).Safe i
      (fun r t => Stored t a ∧ (r.isSome = true → P → RowFinal t.chain.final a))
      (pollReceipts cfg txHash n) w := by
  induction n generalizing w with
  | zero => exact safe_ret fun t hl => ⟨ha.later hl, fun h => by cases h⟩
  | succ n ih =>
    refine safe_ask fun t f hl _ hok => ?_
    split
    · next recs hrecs =>
      refine safe_ret fun t' hl' => ⟨(ha.later hl).later hl', fun _ hP => ?_⟩
      obtain ⟨b, hb, hsame⟩ := ha.later hl
      have hfin : RowFinal t.chain.final b :=
        hok hP (Option.isSome_iff_exists.mpr ⟨recs, hrecs⟩) b hb (hsame.txHash.trans hhash)
      obtain ⟨raw, hraw, hmem⟩ := hfin
      exact ⟨raw, hsame.rawSignedTx.symm.trans hraw, hl'.final raw hmem⟩
    · exact ih (ha.later hl)

theorem proper_pollAndConfirm {toAddress : String} (ha : Stored w a)
    (hp : a.payoutID = row.payoutID) (hcancel : a.isCancel = false) :
    Proper cfg P i
      (pollAndConfirm cfg row ⟨a.attemptSeq, toAddress, amount, a.progress.txHash⟩) w := by
  unfold pollAndConfirm
  split
  · exact proper_ret _
  · next txHash hhash =>
    refine safe_bind (safe_pollReceipts hhash cfg.maxPolls ha) fun r t ht => ?_
    split
    · exact proper_ret _
    · next recPri recSec =>
      split_ifs
      · exact proper_ret _
      · exact proper_ret _
      · refine safe_quiet id trivial fun t' txs hl' => ?_
        split
        · exact proper_ret _
        · exact proper_markAndClaim (ht.1.later hl') hp hcancel fun hP =>
            (ht.2 rfl hP).later hl' (SameTx.refl a)

theorem proper_stampAndPoll (ha : Stored w a) (hp : a.payoutID = row.payoutID)
    (hcancel : a.isCancel = false) : Proper cfg P i (stampAndPoll cfg row a) w := by
  refine safe_quiet id trivial fun t now hl => ?_
  refine safe_quiet id trivial fun t' _ hl' => ?_
  exact proper_pollAndConfirm ((ha.later hl).later hl') hp hcancel

theorem proper_rebroadcastAndPoll {raw : Bytes} (ha : Stored w a) (hp : a.payoutID = row.payoutID)
    (hcancel : a.isCancel = false) (hraw : a.progress.rawSignedTx = some raw) :
    Proper cfg P i (rebroadcastAndPoll cfg row a raw balance) w := by
  unfold rebroadcastAndPoll
  split_ifs
  · exact proper_ret _
  · refine proper_guarded ?_
    refine safe_quiet id (StoredBytes.of_stored ha hraw) fun t reply hl => ?_
    have hpoll : Proper cfg P i (stampAndPoll cfg row a) t :=
      proper_stampAndPoll (ha.later hl) hp hcancel
    split_ifs
    · exact proper_withBalance hpoll
    · exact proper_withBalance hpoll
    · exact proper_ret _

theorem stored_allocate {q : ℕ} {r : Allocated}
    (h : exec cfg i (.allocate q address amount balance) f w = (.ok r, w')) :
    r.row q address amount ∈ w'.rows := by
  simp only [exec] at h
  rcases hm : f.mishap with _ | _ | _
  · rw [hm] at h
    split at h
    · next r' db hdb =>
      cases h
      show _ ∈ db.attempts.rows
      rw [(allocateTx_ok hdb).rows]
      exact List.mem_append_right _ (List.mem_singleton.mpr rfl)
    · cases h
  · rw [hm] at h
    cases h
  · rw [hm] at h
    cases h

theorem proper_allocateBuildSignBroadcast (h : P → SettledBut i row.payoutID [] w) :
    Proper cfg P i (allocateBuildSignBroadcast cfg row address amount balance) w := by
  refine safe_perform h fun t r t' _ _ _ hpost => ?_
  obtain ⟨f, -, hexec⟩ := hpost
  split
  · exact proper_ret _
  · next r =>
    have hstored : Stored t' (r.row row.payoutID address amount) :=
      ⟨_, stored_allocate hexec, SameTx.refl _⟩
    refine proper_guarded ?_
    refine safe_quiet id (StoredBytes.of_stored hstored rfl) fun t₁ reply hl₁ => ?_
    split_ifs
    · refine safe_quiet id trivial fun t₂ _ hl₂ => ?_
      exact proper_withBalance (proper_pollAndConfirm ((hstored.later hl₁).later hl₂) rfl rfl)
    · exact proper_ret _

theorem safe_rebroadcastCancel {c : Attempt} (hc : Stored w c) :
    (discipline cfg P).Safe i (fun _ t => Later P i w t) (rebroadcastCancel c) w := by
  unfold rebroadcastCancel
  split
  · exact safe_ret fun t hl => hl
  · exact safe_ret fun t hl => hl
  · next raw _ hraw =>
    refine safe_quiet id (StoredBytes.of_stored hc hraw) fun t reply hl => ?_
    split_ifs
    · refine safe_quiet id trivial fun t₁ now hl₁ => ?_
      show (discipline cfg P).Safe i _ (perform (.stampBroadcastAt _ _ _) >>= pure) t₁
      refine safe_quiet id trivial fun t₂ _ hl₂ => ?_
      exact safe_ret fun t₃ hl₃ => ((hl.trans hl₁).trans hl₂).trans hl₃
    · exact safe_ret fun t₁ hl₁ => hl.trans hl₁

/-- It is stored, and final if confirmed. -/
def Seen (P : Prop) (w : World) (c : Attempt) : Prop :=
  Stored w c ∧ (c.progress.confirmedAt.isSome = true → P → RowFinal w.chain.final c)

theorem Seen.later {c : Attempt} (h : Seen P w c) (hl : Later P i w w') : Seen P w' c :=
  ⟨h.1.later hl, fun hconf hP => (h.2 hconf hP).later hl (SameTx.refl c)⟩

theorem safe_pollCancelOnce {c : Attempt} (hc : Stored w c) : (discipline cfg P).Safe i
    (fun done t => Later P i w t ∧ (done = true → P → RowFinal t.chain.final c))
    (pollCancelOnce cfg c) w := by
  have hnot : ∀ {t : World}, Later P i w t → (discipline cfg P).Safe i
      (fun done t => Later P i w t ∧ (done = true → P → RowFinal t.chain.final c)) (pure false) t :=
    fun hl => safe_ret fun t' hl' => ⟨hl.trans hl', fun h => by cases h⟩
  unfold pollCancelOnce
  split
  · exact hnot (Later.refl P i w)
  · next txHash hhash =>
    refine safe_ask fun t f hl _ hok => ?_
    split
    · exact hnot hl
    · next recA recB hrecs =>
      have hfin : P → RowFinal t.chain.final c := fun hP => by
        obtain ⟨b, hb, hsame⟩ := hc.later hl
        obtain ⟨raw, hraw, hmem⟩ :=
          hok hP (Option.isSome_iff_exists.mpr ⟨_, hrecs⟩) b hb (hsame.txHash.trans hhash)
        exact ⟨raw, hsame.rawSignedTx.symm.trans hraw, hmem⟩
      refine safe_quiet id trivial fun t₁ txs hl₁ => ?_
      split_ifs
      · refine safe_quiet id trivial fun t₂ now hl₂ => ?_
        have hl₀ : Later P i t t₂ := hl₁.trans hl₂
        have hreq : P → KeyFinal t₂ c.key := fun hP =>
          KeyFinal.of_stored ((hc.later hl).later hl₀) ((hfin hP).later hl₀ (SameTx.refl c))
        refine safe_quiet id hreq fun t₃ r hl₃ => ?_
        have hl' : Later P i t t₃ := hl₀.trans hl₃
        split
        · exact hnot (hl.trans hl')
        · exact hnot (hl.trans hl')
        · exact safe_ret fun t₄ hl₄ => ⟨(hl.trans hl').trans hl₄, fun _ hP =>
            (hfin hP).later (hl'.trans hl₄) (SameTx.refl c)⟩
      · exact hnot (hl.trans hl₁)

/-- **The loop**: if no cancel blocks, all are final. -/
theorem safe_settleCancels {cs : List Attempt} (hcs : ∀ c ∈ cs, Seen P w c) :
    (discipline cfg P).Safe i
      (fun blocked t => Later P i w t ∧
        (blocked = false → P → ∀ c ∈ cs, RowFinal t.chain.final c)) (settleCancels cfg cs) w := by
  induction cs generalizing w with
  | nil => exact safe_ret fun t hl => ⟨hl, fun _ _ c hc => absurd hc List.not_mem_nil⟩
  | cons c cs ih =>
    obtain ⟨hc, hcs⟩ := List.forall_mem_cons.mp hcs
    unfold settleCancels
    split_ifs with hstamp hconf
    · refine safe_bind (safe_rebroadcastCancel hc.1) fun _ t hl => ?_
      refine safe_bind (ih fun d hd => (hcs d hd).later hl) fun b t₁ ht₁ => ?_
      exact safe_ret fun t₂ hl₂ => ⟨(hl.trans ht₁.1).trans hl₂, fun h => by cases h⟩
    · refine safe_bind (safe_pollCancelOnce hc.1) fun done t ht => ?_
      refine safe_bind (ih fun d hd => (hcs d hd).later ht.1) fun blocked t₁ ht₁ => ?_
      refine safe_ret fun t₂ hl₂ => ⟨(ht.1.trans ht₁.1).trans hl₂, fun h hP => ?_⟩
      obtain ⟨hdone, hblocked⟩ := Bool.or_eq_false_iff.mp h
      refine List.forall_mem_cons.mpr ⟨?_, fun d hd => ?_⟩
      · have hdone' : done = true := by simpa using hdone
        exact (ht.2 hdone' hP).later (ht₁.1.trans hl₂) (SameTx.refl c)
      · exact (ht₁.2 hblocked hP d hd).later hl₂ (SameTx.refl d)
    · refine (ih hcs).weaken fun blocked t ht => ⟨ht.1, fun h hP => ?_⟩
      refine List.forall_mem_cons.mpr ⟨?_, ht.2 h hP⟩
      exact (hc.2 (Option.isSome_iff_ne_none.mpr hconf) hP).later ht.1 (SameTx.refl c)

/-! ### Rows and cycles -/

theorem eq_of_read {β : Type} {fails : Bool} {x y : β}
    (h : (if fails then none else some x) = some y) : x = y := by
  split_ifs at h
  exact Option.some.inj h

theorem proper_freshAttempt (h : P → w.db.holder = some i → NoTransfer w row.payoutID) :
    Proper cfg P i (freshAttempt cfg row address balance) w := by
  refine safe_ask fun t f hl hsound _ => ?_
  split
  · exact proper_ret _
  · next cancels hcancels =>
    obtain rfl := eq_of_read hcancels
    -- at this point only the cancels that were read are in the way
    have hbut : P → SettledBut i row.payoutID (t.db.attempts.lookupLiveCancels row.payoutID) t := by
      intro hP hi
      refine ⟨hl.transfers hi _ (h hP (hl.holder hi)), fun b hb hbq hlive => Or.inr ?_⟩
      exact ⟨b, AttemptTable.mem_lookupLiveCancels.mpr ⟨hb, hbq, hlive⟩, SameTx.refl b⟩
    refine safe_bind (safe_settleCancels fun c hc => ?_) fun blocked t₁ ht₁ => ?_
    · obtain ⟨hmem, -, hlive⟩ := AttemptTable.mem_lookupLiveCancels.mp hc
      exact ⟨⟨c, hmem, SameTx.refl c⟩, fun hconf hP =>
        (hsound.accounted hP).confirmed c hmem hlive hconf⟩
    · split_ifs with hblocked
      · exact proper_ret _
      · refine proper_allocateBuildSignBroadcast fun hP hi => ?_
        obtain ⟨hnone, hrest⟩ := (hbut hP).later hP ht₁.1 hi
        refine ⟨hnone, fun b hb hbq hlive => Or.inl ?_⟩
        rcases hrest b hb hbq hlive with hfin | ⟨c, hc, hsame⟩
        · exact hfin
        · have hall := ht₁.2 (Bool.eq_false_iff.mpr hblocked) hP
          exact (hall c hc).same hsame fun _ h => h

theorem proper_continueRow_some (hsound : Sound P w) (ha : a ∈ w.rows)
    (hp : a.payoutID = row.payoutID) (hlive : a.liveTransfer = true) :
    Proper cfg P i (continueRow cfg row address balance (some a)) w := by
  have hstored : Stored w a := ⟨a, ha, SameTx.refl a⟩
  have hcancel : a.isCancel = false := by
    have := ((Bool.and_eq_true _ _).mp hlive).2
    exact Bool.not_eq_true' _ |>.mp this
  unfold continueRow
  dsimp only
  split_ifs with hconf
  · have hpaid : a.paid = true := (Bool.and_eq_true _ _).mpr ⟨hlive, hconf⟩
    exact proper_withBalance (proper_claimAndLog ⟨a, ha, hp, hpaid⟩)
  · split
    · next b bs _ hraw => exact proper_rebroadcastAndPoll hstored hp hcancel hraw
    · next hraw =>
      -- the bytes are stored with the row
      refine proper_freshAttempt fun hP => ?_
      obtain ⟨raw, hsome, htx, -⟩ := (hsound.accounted hP).signed a ha
      rcases raw with _ | ⟨b, bs⟩
      · cases htx
      · exact absurd hsome (hraw b bs)
    · exact proper_withBalance (proper_pollAndConfirm hstored hp hcancel)

theorem proper_processRow : Proper cfg P i (processRow cfg row address balance) w := by
  refine safe_quiet id trivial fun t r hl => ?_
  split
  · exact proper_ret _
  · split_ifs
    · exact proper_ret _
    · exact proper_ret _
    · refine safe_ask fun t₁ f hl₁ hsound _ => ?_
      split
      · exact proper_ret _
      · next existing hread =>
        have hlook := eq_of_read hread
        rcases existing with _ | a
        · exact proper_freshAttempt fun _ _ => AttemptTable.lookupExistingLatest_none hlook
        · obtain ⟨ha, hp, hlive⟩ := AttemptTable.lookupExistingLatest_some hlook
          exact proper_continueRow_some hsound ha hp hlive

theorem proper_runRows (rows : List ReadyRow) (balance : Option ℤ) :
    Proper cfg P i (runRows cfg rows balance) w := by
  induction rows generalizing w balance with
  | nil => exact proper_ret _
  | cons row rows ih =>
    refine safe_quiet id trivial fun t halted hl => ?_
    split_ifs
    · exact proper_ret _
    · split
      · exact ih balance
      · refine safe_bind proper_processRow fun e t₁ _ => ?_
        split
        · exact proper_ret _
        · exact proper_ret _
        · exact proper_ret _
        · exact ih e.2

theorem proper_runOnce : Proper cfg P i (runOnce cfg) w := by
  refine safe_quiet id trivial fun t halted hl => ?_
  split_ifs
  · exact proper_ret _
  · refine safe_quiet id trivial fun t₁ now hl₁ => ?_
    refine safe_quiet id trivial fun t₂ r hl₂ => ?_
    split
    · exact proper_ret _
    · refine safe_quiet id trivial fun t₃ balance hl₃ => ?_
      exact proper_runRows _ balance

theorem proper_runCycles (n : ℕ) : Proper cfg P i (runCycles cfg n) w := by
  induction n generalizing w with
  | zero => exact proper_ret _
  | succ n ih => exact safe_bind proper_runOnce fun _ t _ => ih

theorem proper_startRunner (cycles : ℕ) : Proper cfg P i (startRunner cfg cycles) w := by
  -- the choice between the counts is kept out of the goal, where it would be computed
  obtain ⟨g, heq, hg⟩ := startRunner_cases cfg cycles
  rw [heq]
  refine safe_quiet id trivial fun t r hl => ?_
  split
  · exact proper_ret _
  · next rpcA rpcB =>
    rcases hg rpcA rpcB with h | ⟨chosen, -, h⟩
    · rw [h]
      exact proper_ret _
    · rw [h]
      refine safe_quiet id trivial fun t₁ done hl₁ => ?_
      split_ifs
      · refine safe_perform trivial fun t₂ got t₃ _ _ _ _ => ?_
        split_ifs
        · exact proper_runCycles cycles
        · exact proper_ret _
      · exact proper_ret _

theorem storedBytes_abandon {req : AbandonRequest} {c : Cancel}
    (h : exec cfg i (.abandon req) f w = (.ok (some c), w')) : StoredBytes w' c.raw := by
  simp only [exec] at h
  rcases hm : f.mishap with _ | _ | _
  · rw [hm] at h
    split at h
    · next r db hdb =>
      cases h
      exact abandonTx_stored hdb
    · cases h
  · rw [hm] at h
    cases h
  · rw [hm] at h
    cases h

theorem proper_serveAbandon (req : AbandonRequest) : Proper cfg P i (serveAbandon cfg req) w := by
  unfold serveAbandon
  split
  · exact proper_ret _
  · refine safe_quiet id trivial fun t allowed hl => ?_
    split
    · split
      · exact proper_ret _
      · refine safe_perform trivial fun t₁ r t₂ _ _ _ hpost => ?_
        obtain ⟨f, -, hexec⟩ := hpost
        split
        · exact proper_ret _
        · exact proper_ret _
        · next c =>
          refine safe_quiet id (storedBytes_abandon hexec) fun t₃ reply hl₃ => ?_
          split
          · refine safe_quiet id trivial fun t₄ _ hl₄ => ?_
            exact proper_ret _
          · exact proper_ret _
    · exact proper_ret _

theorem proper_script (s : Script) : Proper cfg P i (s.prog cfg) w := by
  cases s with
  | runner cycles => exact proper_startRunner cycles
  | abandon req => exact safe_bind (proper_serveAbandon req) fun _ _ _ => proper_ret _

end Walk

/-- **In every run** the state is sound and programs call as they should. -/
theorem disciplined {cfg : Config} {P : Prop} {ok : Payouts → Runner.Action → Prop}
    {scripts : ℕ → Script} {ledger : Ledger} {registry : Registry} {chain : Chain} {clock : Instant}
    {p : Payouts} (h : Reaches (step cfg) ok
      (payoutSystem cfg scripts (World.initial ledger registry chain clock)) p)
    (hok : ∀ p i f c k, ok p (.call i f) → p.progs i = .call c k → P → Honest cfg c f p.state) :
    Sound P p.state ∧ ∀ i, Proper cfg P i (p.progs i) p.state := by
  refine Contract.pool_safe (K := discipline cfg P) h ?_ (fun i => proper_script _)
    (fun p i f c k hp hprog hinv hpre => ?_) fun p e _ hinv => ?_
  · exact ⟨fun _ => accounted_nil _, fun x hx => absurd hx List.not_mem_nil⟩
  · have hhonest := hok p i f c k hp hprog
    exact ⟨sound_exec hinv hpre hhonest, ⟨f, hhonest, rfl⟩, fun j hj =>
      later_exec (Or.inl hj) hhonest⟩
  · exact ⟨sound_env e hinv, fun j => later_env e⟩

end MacProvider.Coordinator.Payout.Programs
