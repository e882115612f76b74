import MacProvider.Coordinator.Payout.Runner

/-! # The cap for a day

`SumAmountWindow` decides by the columns of a row whether it counts. They part from the accepted
broadcasts where a stamp was not written, is older than the broadcast, or compares the other way as
a text. `outstanding_within_cap`: the runs in which they follow. -/

namespace MacProvider.Coordinator.Payout.DailyCap

open MacProvider.Gateway Gateway.Time Lib.Tables Lib.Rlp Lib.Runs Lib.Calls Billing.Schema
open Payout.Addresses Payout.Attempts Payout.Database Payout.System Payout.Runner

/-- When its bytes were first accepted. -/
def firstAccepted (accepted : List (Bytes × Instant)) (a : Attempt) : Option Instant :=
  a.progress.rawSignedTx.bind fun raw =>
    (accepted.find? fun x => x.1 = raw).map Prod.snd

/-- Not broadcast, or within 24 hours before `t`. -/
def outstanding (accepted : List (Bytes × Instant)) (t : Instant) (a : Attempt) : Bool :=
  !a.isCancel && (firstAccepted accepted a).all fun first => decide (t ≤ first + hours 24)

/-- The amounts that are outstanding. -/
def outstandingSum (w : World) : ℤ :=
  w.db.attempts.table.sumWhere (outstanding w.accepted w.clock) Attempt.amount

/-- **The columns follow what happened**: a stamp is of an accepted attempt and at most `lag` older;
a confirmation is of a stamped one. At an allocation no stamp left the window within `lag` or
compares the other way as a text, and amounts fit into `int64`. Nothing is abandoned. -/
def Recorded (lag : ℕ) : Call → Choice → World → Prop
  | .stampBroadcastAt payoutID attemptSeq now, f, w => f.mishap ≠ .rolledBack →
    ∀ a ∈ w.rows, a.key = (payoutID, attemptSeq) →
      (firstAccepted w.accepted a).any (fun first => decide (first ≤ now + lag)) = true
  | .markConfirmed payoutID attemptSeq _ _ _, f, w => f.mishap ≠ .rolledBack →
    ∀ a ∈ w.rows, a.key = (payoutID, attemptSeq) → a.progress.broadcastAt.isSome = true
  | .allocate _ _ amount _, f, w => f.mishap ≠ .rolledBack →
    (∀ a ∈ w.rows, ∀ stamp ∈ a.progress.broadcastAt,
      OrderAgrees (w.clock + f.delay₁ - hours 24) stamp ∧
        (w.clock + f.delay₁ - hours 24 ≤ stamp ∨
          stamp + lag < w.clock + f.delay₁ - hours 24)) ∧
    (w.rows.map Attempt.amount).sum + amount ≤ maxInt64
  | .abandon _, _, _ => False
  | _, _, _ => True

instance (lag : ℕ) (c : Call) (f : Choice) (w : World) : Decidable (Recorded lag c f w) := by
  unfold Recorded
  split <;> infer_instance

/-! ### Steps -/

section Steps
variable {cfg : Config} {w : World}

theorem amount_nonneg (s : AttemptTable) : ∀ a ∈ s.rows, 0 ≤ a.amount :=
  fun a ha => (s.constraints.checks a ha).2.1.le

variable {accepted : List (Bytes × Instant)} {t : Instant} {a : Attempt} {i lag : ℕ} {f : Choice}

theorem outstanding_iff :
    outstanding accepted t a = true ↔ a.isCancel = false ∧
      ∀ first, firstAccepted accepted a = some first → t ≤ first + hours 24 := by
  simp [outstanding, Option.all_eq_true]

theorem outstanding_of_later {t' : Instant}
    (ht : t ≤ t') (h : outstanding accepted t' a = true) : outstanding accepted t a = true := by
  rw [outstanding_iff] at h ⊢
  exact ⟨h.1, fun first hfirst => le_trans ht (h.2 first hfirst)⟩

theorem firstAccepted_append {first : Instant} (x : Bytes × Instant)
    (h : firstAccepted accepted a = some first) :
    firstAccepted (accepted ++ [x]) a = some first := by
  unfold firstAccepted at h ⊢
  obtain ⟨bytes, hbytes, hfind⟩ := Option.bind_eq_some_iff.mp h
  obtain ⟨y, hy, hsnd⟩ := Option.map_eq_some_iff.mp hfind
  rw [hbytes, Option.bind_some, List.find?_append, hy]
  exact congrArg some hsnd

theorem outstanding_of_accepted
    {raw : Bytes} (h : outstanding (accepted ++ [(raw, t)]) t a = true) :
    outstanding accepted t a = true := by
  rw [outstanding_iff] at h ⊢
  exact ⟨h.1, fun first hfirst => h.2 first (firstAccepted_append _ hfirst)⟩

theorem firstAccepted_set (n : AttemptTable.Note) :
    firstAccepted accepted (a.set fun x => n.write x) = firstAccepted accepted a := by
  have hraw := (n.write_keeps a.progress).1
  unfold firstAccepted Attempt.set
  rw [hraw]

theorem outstanding_set (n : AttemptTable.Note) :
    outstanding accepted t (a.set fun x => n.write x) = outstanding accepted t a := by
  unfold outstanding
  rw [firstAccepted_set]
  rfl

theorem outstandingSum_note (pid attemptSeq : ℕ) (n : AttemptTable.Note) :
    outstandingSum (w.note pid attemptSeq n) ≤ outstandingSum w := by
  refine Table.sumWhere_update_le _ _ (Attempt.set fun x => n.write x) (fun _ => rfl) _ _
    fun a _ _ => ?_
  unfold Table.weight
  rw [outstanding_set]
  exact le_rfl

/-! ### What the columns say -/

/-- Stamped before it is confirmed, and at most `lag` before it is accepted. -/
structure Told (lag : ℕ) (accepted : List (Bytes × Instant)) (a : Attempt) : Prop where
  live : a.liveTransfer = true
  confirmed : a.progress.confirmedAt.isSome = true → a.progress.broadcastAt.isSome = true
  stamped : ∀ stamp, a.progress.broadcastAt = some stamp →
    ∃ first, firstAccepted accepted a = some first ∧ first ≤ stamp + lag

/-- The columns of all rows follow what happened. -/
def AllTold (lag : ℕ) (w : World) : Prop := ∀ a ∈ w.rows, Told lag w.accepted a

theorem Told.counted (h : Told lag accepted a)
    (hstamp : ∀ stamp ∈ a.progress.broadcastAt, OrderAgrees (t - hours 24) stamp ∧
      (t - hours 24 ≤ stamp ∨ stamp + lag < t - hours 24))
    (hout : outstanding accepted t a = true) : AttemptTable.inWindow (t - hours 24) a = true := by
  unfold AttemptTable.inWindow
  rw [h.live, Bool.true_and]
  rcases hb : a.progress.broadcastAt with _ | stamp
  · have hconfirmed := h.confirmed
    rw [hb] at hconfirmed
    simpa using hconfirmed
  · obtain ⟨first, hfirst, hle⟩ := h.stamped stamp hb
    obtain ⟨⟨-, -, horder⟩, hlag⟩ := hstamp stamp hb
    have hsince := (outstanding_iff.mp hout).2 first hfirst
    refine decide_eq_true (not_lt.mp fun hlt => ?_)
    rcases hlag with hin | hlag
    · exact absurd (horder.mp hlt) (not_lt.mpr hin)
    · exact absurd (hle.trans_lt hlag) (not_lt.mpr (Nat.sub_le_of_le_add hsince))

theorem AllTold.note {pid seq : ℕ} {n : AttemptTable.Note} (h : AllTold lag w)
    (hn : ∀ a ∈ w.rows, n.applies pid seq a = true →
      Told lag w.accepted (a.set fun x => n.write x)) : AllTold lag (w.note pid seq n) := by
  intro x hx
  obtain ⟨a, ha, -, -, rfl | ⟨happ, rfl⟩⟩ := AttemptTable.mem_note hx
  · exact h x ha
  · exact hn a ha happ

theorem AllTold.exec {c : Call} (h : AllTold lag w) (hok : Recorded lag c f w) :
    AllTold lag (exec cfg i c f w).2 := by
  have hchange := exec_change cfg i c f w
  generalize (System.exec cfg i c f w).2 = w' at hchange ⊢
  cases hchange with
  | same | cursor | lease | claimed => exact h
  | allocated hm halloc =>
    intro a ha
    rcases halloc.mem_rows ha with ha | rfl
    · exact h a ha
    · exact ⟨rfl, fun h => absurd h Bool.false_ne_true,
        fun _ h => absurd h (Option.some_ne_none _).symm⟩
  | accepted =>
    refine fun a ha => { h a ha with stamped := fun stamp hstamp => ?_ }
    obtain ⟨first, hfirst, hle⟩ := (h a ha).stamped stamp hstamp
    exact ⟨first, firstAccepted_append _ hfirst, hle⟩
  | stamped hm =>
    refine h.note fun a ha happ => { h a ha with confirmed := fun _ => rfl, stamped := ?_ }
    rintro stamp ⟨⟩
    have hkey := AttemptTable.atKey_iff.mp ((Bool.and_eq_true _ _).mp happ).1
    obtain ⟨first, hfirst, hle⟩ := (Option.any_eq_true _ _).mp (hok hm a ha hkey)
    exact ⟨first, (firstAccepted_set _).trans hfirst, of_decide_eq_true hle⟩
  | confirmed hm =>
    refine h.note fun a ha happ => { h a ha with confirmed := fun _ => ?_, stamped := ?_ }
    · exact hok hm a ha (AttemptTable.unsettled_iff.mp happ).1
    · rw [firstAccepted_set]
      exact (h a ha).stamped
  | abandoned => exact hok.elim

theorem AllTold.env (e : Event) (h : AllTold lag w) : AllTold lag (env cfg e w) := by
  cases e with
  | handleCancelReorg =>
    -- a transfer is not a cancel
    refine h.note fun a ha happ => ?_
    have hcancel := ((Bool.and_eq_true _ _).mp ((Bool.and_eq_true _ _).mp happ).1).2
    have hlive := (h a ha).live
    unfold Attempt.liveCancel Attempt.liveTransfer at *
    simp_all
  | markStale =>
    refine h.note fun a ha _ => { h a ha with stamped := ?_ }
    rw [firstAccepted_set]
    exact (h a ha).stamped
  | payoutAddress req =>
    unfold System.env
    dsimp only
    split
    · exact h
    · exact h
  | _ => exact h

theorem sumAmountWindow_eq {s : AttemptTable} {since : Instant} {sum : ℤ}
    (h : s.sumAmountWindow since = some sum) :
    sum = s.table.sumWhere (AttemptTable.inWindow since) Attempt.amount := by
  unfold AttemptTable.sumAmountWindow at h
  dsimp only at h
  split_ifs at h
  exact (Option.some.inj h).symm

theorem outstandingSum_allocates {pid : ℕ} {address : String} {amount : ℤ}
    {r : Allocated} {db : Db} {balance : Option ℤ} (hm : f.mishap ≠ .rolledBack)
    (htold : AllTold lag w)
    (hok : Recorded lag (.allocate pid address amount balance) f w)
    (h : Allocates cfg i pid address amount (w.clock + f.delay₁) w.db r db) :
    outstandingSum { w with clock := w.clock + f.delay₁ + f.delay₂, db } ≤ cfg.perDayCap := by
  obtain ⟨hstamps, hfits⟩ := hok hm
  obtain ⟨sum, hsum, hcap⟩ := h.window
  have hsum_eq := sumAmountWindow_eq hsum
  have hsum_fits : sum ≤ (w.rows.map Attempt.amount).sum := by
    rw [hsum_eq]
    exact (Table.sumWhere_mono (q := fun _ => true) (fun _ _ _ => rfl)
      (amount_nonneg w.db.attempts)).trans_eq (by simp [Table.sumWhere])
  have hpos : 0 < amount := by
    have hrow : r.row pid address amount ∈ db.attempts.rows := by rw [h.rows]; simp
    exact (db.attempts.constraints.checks _ hrow).2.1
  have hsum_pos : 0 ≤ sum := by
    rw [hsum_eq]
    exact Table.sumWhere_nonneg _ _ _ (amount_nonneg w.db.attempts)
  rw [wrap64_of_range (by omega) (by omega)] at hcap
  -- what is outstanding when the transaction ends was so when the window was summed
  have hold : w.db.attempts.table.sumWhere
      (outstanding w.accepted (w.clock + f.delay₁ + f.delay₂)) Attempt.amount ≤ sum := by
    rw [hsum_eq]
    refine Table.sumWhere_mono (fun a ha hout => ?_) (amount_nonneg w.db.attempts)
    exact (htold a ha).counted (hstamps a ha) (outstanding_of_later (Nat.le_add_right _ _) hout)
  have hnew : Table.weight (outstanding w.accepted (w.clock + f.delay₁ + f.delay₂)) Attempt.amount
      (r.row pid address amount) ≤ amount := by
    unfold Table.weight
    split_ifs
    · exact le_rfl
    · exact hpos.le
  unfold outstandingSum
  dsimp only
  rw [Table.sumWhere_append h.rows]
  omega

theorem outstandingSum_exec {c : Call} (hw : outstandingSum w ≤ cfg.perDayCap)
    (htold : AllTold lag w) (hok : Recorded lag c f w) :
    outstandingSum (exec cfg i c f w).2 ≤ cfg.perDayCap := by
  have hchange := exec_change cfg i c f w
  generalize (exec cfg i c f w).2 = w' at hchange ⊢
  cases hchange with
  | same | cursor | lease | claimed => exact hw
  | allocated hm h => exact outstandingSum_allocates hm htold hok h
  | accepted =>
    refine le_trans (Table.sumWhere_mono (fun a _ hout => ?_) (amount_nonneg w.db.attempts)) hw
    exact outstanding_of_accepted hout
  | stamped | confirmed => exact le_trans (outstandingSum_note _ _ _) hw
  | abandoned h => exact hok.elim

theorem outstandingSum_env {e : Event} (hw : outstandingSum w ≤ cfg.perDayCap) :
    outstandingSum (env cfg e w) ≤ cfg.perDayCap := by
  cases e with
  | tick d =>
    refine le_trans (Table.sumWhere_mono (fun a _ hout => ?_) (amount_nonneg w.db.attempts)) hw
    exact outstanding_of_later (Nat.le_add_right _ _) hout
  | handleCancelReorg | markStale => exact le_trans (outstandingSum_note _ _ _) hw
  | payoutAddress req =>
    unfold env
    dsimp only
    split
    · exact hw
    · exact hw
  | _ => exact hw

end Steps

/-- **The cap for a day** holds throughout if the columns follow what happened. -/
theorem outstanding_within_cap {cfg : Config} {scripts : ℕ → Script} {p : Payouts} (lag : ℕ)
    (ledger : Ledger) (registry : Registry) (chain : Chain) (clock : Instant)
    (h : Reaches (step cfg) (Guard (Recorded lag) fun _ _ => True)
      (payoutSystem cfg scripts (World.initial ledger registry chain clock)) p) :
    outstandingSum p.state ≤ cfg.perDayCap := by
  refine (state_induction (I := fun w => outstandingSum w ≤ cfg.perDayCap ∧ AllTold lag w) h
    ⟨?_, fun a ha => absurd ha List.not_mem_nil⟩
    (fun w i f c hw hok => ⟨outstandingSum_exec hw.1 hw.2 hok, hw.2.exec hok⟩)
    fun w e hw _ => ⟨outstandingSum_env hw.1, hw.2.env e⟩).1
  have hempty : outstandingSum (World.initial ledger registry chain clock) = 0 := rfl
  have hcap := cfg.perPayoutCap_pos.trans_le cfg.perPayoutCap_le
  exact hempty.trans_le hcap.le

/-- Two payouts of 90; the first stamp comes to `m`. -/
def demoStamp (m : Lib.Transactions.Mishap) : List Runner.Action :=
  calls 0 15 (demoConfirm 5) ++ [.call 0 { demoConfirm 5 with mishap := m }] ++
    calls 0 11 (demoConfirm 5)

/-- Confirmed without a stamp, it does not count. -/
theorem unstamped_transfer_is_not_counted :
    outstandingSum (run (step demoConfig) (payoutSystem demoConfig (fun _ => .runner 1) demoWorld)
      (demoStamp .rolledBack)).state = 180 ∧ demoConfig.perDayCap = 100 := by
  decide +kernel

theorem outstanding_within_cap_stamped :
    let p := run (step demoConfig) (payoutSystem demoConfig (fun _ => .runner 1) demoWorld)
      (demoStamp .none)
    outstandingSum p.state = 90 ∧ outstandingSum p.state ≤ demoConfig.perDayCap := by
  refine ⟨by decide +kernel, ?_⟩
  refine outstanding_within_cap 0 demoLedger demoRegistry .empty newYear (reaches_of_allowed ?_)
  decide +kernel

end MacProvider.Coordinator.Payout.DailyCap
