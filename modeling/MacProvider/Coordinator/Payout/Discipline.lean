import MacProvider.Coordinator.Payout.System

/-! # What the programs of the payout system rely on

The holder of the lease may rely on this (`Later`): no other process adds a transfer, and a cancel
appears only with a live transfer. The bytes of an attempt never change and what is final stays so.
`Honest` is assumed of RPCs and operators. -/

namespace MacProvider.Coordinator.Payout.Discipline

open Gateway.Time Lib.Rlp Payout.Attempts Payout.Database Payout.System

open AttemptTable (SameTx)

/-! ### Later states -/

/-- The transaction of a row is final. -/
def RowFinal (final : List Bytes) (a : Attempt) : Prop :=
  ∃ raw, a.progress.rawSignedTx = some raw ∧ raw ∈ final

instance (final : List Bytes) (a : Attempt) : Decidable (RowFinal final a) :=
  decidable_of_iff (∃ raw ∈ a.progress.rawSignedTx, raw ∈ final) Iff.rfl

theorem RowFinal.same {final final' : List Bytes} {x a : Attempt} (h : RowFinal final a)
    (hs : SameTx x a) (hfinal : ∀ raw ∈ final, raw ∈ final') : RowFinal final' x := by
  obtain ⟨raw, hraw, hmem⟩ := h
  exact ⟨raw, hs.rawSignedTx.trans hraw, hfinal raw hmem⟩

/-- The payout has no live transfer. -/
def NoTransfer (w : World) (q : ℕ) : Prop :=
  ∀ a ∈ w.rows, a.payoutID = q → a.liveTransfer = false

/-- What a process may rely on. -/
structure Later (P : Prop) (i : ℕ) (w w' : World) : Prop where
  holder : w'.db.holder = some i → w.db.holder = some i
  rows : ∀ a ∈ w.rows, ∃ b ∈ w'.rows, SameTx b a ∧ (a.paid = true → b.paid = true)
  final : ∀ raw ∈ w.chain.final, raw ∈ w'.chain.final
  transfers : w'.db.holder = some i → ∀ q, NoTransfer w q → NoTransfer w' q
  cancels : P → w'.db.holder = some i → ∀ q, NoTransfer w q → ∀ b ∈ w'.rows, b.payoutID = q →
    b.liveCancel = true → ∃ a ∈ w.rows, SameTx b a ∧ a.liveCancel = true

section Later
variable {P : Prop} {i : ℕ} {w w' w'' : World}

theorem Later.refl (P : Prop) (i : ℕ) (w : World) : Later P i w w :=
  ⟨id, fun a ha => ⟨a, ha, SameTx.refl a, id⟩, fun _ h => h, fun _ _ h => h,
    fun _ _ _ _ b hb _ hlive => ⟨b, hb, SameTx.refl b, hlive⟩⟩

theorem Later.trans (h : Later P i w w') (h' : Later P i w' w'') : Later P i w w'' := by
  refine ⟨fun hi => h.holder (h'.holder hi), fun a ha => ?_, fun raw hraw => h'.final raw
    (h.final raw hraw), fun hi q hq => h'.transfers hi q (h.transfers (h'.holder hi) q hq),
    fun hP hi q hq c hc hcq hlive => ?_⟩
  · obtain ⟨b, hb, hba, hpaid⟩ := h.rows a ha
    obtain ⟨c, hc, hcb, hpaid'⟩ := h'.rows b hb
    exact ⟨c, hc, hcb.trans hba, fun hp => hpaid' (hpaid hp)⟩
  · have hi' := h'.holder hi
    obtain ⟨b, hb, hcb, hblive⟩ := h'.cancels hP hi q (h.transfers hi' q hq) c hc hcq hlive
    obtain ⟨a, ha, hba, halive⟩ := h.cancels hP hi' q hq b hb (hcb.payoutID ▸ hcq) hblive
    exact ⟨a, ha, hcb.trans hba, halive⟩

theorem RowFinal.later {a b : Attempt} (h : RowFinal w.chain.final a) (hl : Later P i w w')
    (hs : SameTx b a) : RowFinal w'.chain.final b :=
  h.same hs hl.final

theorem later_of_attempts_eq (hrows : w'.db.attempts = w.db.attempts)
    (hfinal : ∀ raw ∈ w.chain.final, raw ∈ w'.chain.final)
    (hholder : w'.db.holder = some i → w.db.holder = some i) : Later P i w w' := by
  have heq : w'.rows = w.rows := congrArg AttemptTable.rows hrows
  refine ⟨hholder, fun a ha => ⟨a, heq ▸ ha, SameTx.refl a, id⟩, hfinal, fun _ q hq => ?_,
    fun _ _ q _ b hb _ hlive => ⟨b, heq ▸ hb, SameTx.refl b, hlive⟩⟩
  intro a ha
  exact hq a (heq ▸ ha)

theorem paid_note {n : AttemptTable.Note} {pid seq : ℕ} {a : Attempt}
    (hp : n.applies pid seq a = true) (h : a.paid = true) :
    (a.set fun x => n.write x).paid = true := by
  obtain ⟨hlive, hconf⟩ := (Bool.and_eq_true _ _).mp h
  obtain ⟨hsame, hl⟩ := AttemptTable.sameTx_note n a
  refine (Bool.and_eq_true _ _).mpr ⟨(hsame.liveTransfer hl).trans hlive, ?_⟩
  cases n with
  | broadcast now => exact hconf
  | confirmed blockNumber gasUsed now => rfl
  | stale now => exact hconf
  | cancelReorged txHash now =>
    -- that is for cancels only
    have hcancel : a.liveCancel = true :=
      ((Bool.and_eq_true _ _).mp ((Bool.and_eq_true _ _).mp hp).1).2
    unfold Attempt.liveCancel at hcancel
    unfold Attempt.liveTransfer at hlive
    rw [Bool.and_eq_true] at hcancel hlive
    rw [hcancel.2] at hlive
    cases hlive.2

theorem later_note (pid seq : ℕ) (n : AttemptTable.Note) : Later P i w (w.note pid seq n) := by
  refine ⟨id, fun a ha => ?_, fun _ h => h, fun _ q hq b hb hbq => ?_,
    fun _ _ q _ b hb _ hlive => ?_⟩
  · obtain ⟨b, hb, hsame, -, hcase⟩ := AttemptTable.mem_note_of_mem ha pid seq n
    refine ⟨b, hb, hsame, fun hpaid => ?_⟩
    rcases hcase with rfl | ⟨hp, rfl⟩
    · exact hpaid
    · exact paid_note hp hpaid
  · obtain ⟨a, ha, hsame, hl, -⟩ := AttemptTable.mem_note hb
    rw [hsame.liveTransfer hl]
    exact hq a ha (hsame.payoutID ▸ hbq)
  · obtain ⟨a, ha, hsame, hl, -⟩ := AttemptTable.mem_note hb
    exact ⟨a, ha, hsame, hsame.liveCancel hl ▸ hlive⟩

end Later

/-- They are on the chain for good. -/
def DeepIsFinal (w : World) (txHash : String) : Prop :=
  ∀ a ∈ w.rows, a.progress.txHash = some txHash → RowFinal w.chain.final a

instance (w : World) (txHash : String) : Decidable (DeepIsFinal w txHash) := by
  unfold DeepIsFinal; infer_instance

/-- Deep receipts are final; an operator abandons transfers only, with a cancel. -/
def Honest (cfg : Config) : Call → Choice → World → Prop
  | .read (.receipts txHash), f, w =>
    (f.receipts.deep cfg.confirmationBlocks).isSome = true → DeepIsFinal w txHash
  | .abandon req, _, w => req.broadcastCancelSelfTransfer = true ∧
      ∀ a ∈ w.rows, a.key = (req.payoutID, req.attemptSeq) → a.isCancel = false
  | _, _, _ => True

/-! ### Steps of the others -/

section Steps
variable {P : Prop} {cfg : Config} {i j : ℕ} {c : Call} {f : Choice} {w w' : World}

/-- Calls that change what their process relies on. -/
def Takes : Call → Prop
  | .acquire => True
  | .allocate _ _ _ _ => True
  | _ => False

theorem later_allocates {pid : ℕ} {address : String} {amount : ℤ} {t₁ t : Instant}
    {r : Allocated} {db : Db} (h : Allocates cfg i pid address amount t₁ w.db r db)
    (hij : j ≠ i) : Later P j w { w with clock := t, db } := by
  have hholder : db.holder ≠ some j := by
    unfold Db.holder
    rw [h.lease]
    exact fun hj => hij (Option.some.inj (hj.symm.trans h.holder))
  refine ⟨fun hj => absurd hj hholder, fun a ha => ⟨a, ?_, SameTx.refl a, id⟩, fun _ h => h,
    fun hj => absurd hj hholder, fun _ hj => absurd hj hholder⟩
  show a ∈ db.attempts.rows
  rw [h.rows]
  exact List.mem_append_left _ ha

theorem later_abandons {req : AbandonRequest} {now t : Instant} {db : Db}
    (h : Abandons req now w.db db)
    (htarget : P → ∀ a ∈ w.rows, a.key = (req.payoutID, req.attemptSeq) → a.isCancel = false) :
    Later P j w { w with clock := t, db } := by
  obtain ⟨a₀, ha₀, hun, cs, hrows, hcs, -⟩ := h.row
  obtain ⟨hkey, -, hlive₀⟩ := AttemptTable.unsettled_iff.mp hun
  refine ⟨fun hj => ?_, fun a ha => ?_, fun _ h => h, fun _ q hq b hb hbq => ?_,
    fun hP _ q hq b hb hbq hlive => ?_⟩
  · unfold Db.holder at hj ⊢
    rw [← h.lease]
    exact hj
  · refine ⟨abandonRow req now a, ?_, abandonRow_sameTx req now a, fun hpaid => ?_⟩
    · show _ ∈ db.attempts.rows
      rw [hrows]
      exact List.mem_append_left _ (List.mem_map_of_mem ha)
    · -- a confirmed row is not marked
      have hconf := ((Bool.and_eq_true _ _).mp hpaid).2
      unfold abandonRow
      rw [if_neg]
      · exact hpaid
      · intro hcon
        rw [(AttemptTable.unsettled_iff.mp hcon).2.1] at hconf
        cases hconf
  · rcases mem_abandoned hrows hcs hb with ⟨a, ha, rfl⟩ | hc
    · rw [(abandonRow_sameTx req now a).payoutID] at hbq
      rcases hlive : (abandonRow req now a).live with _ | _
      · unfold Attempt.liveTransfer
        rw [hlive]
        rfl
      · rw [abandonRow_of_live hlive]
        exact hq a ha hbq
    · unfold Attempt.liveTransfer
      rw [hc.isCancel, Bool.not_true, Bool.and_false]
  · rcases mem_abandoned hrows hcs hb with ⟨a, ha, rfl⟩ | hc
    · have hl := ((Bool.and_eq_true _ _).mp hlive).1
      rw [abandonRow_of_live hl] at hlive
      exact ⟨a, ha, abandonRow_sameTx req now a, hlive⟩
    · -- the new cancel is for a live transfer of its payout
      have htransfer := htarget hP a₀ ha₀ hkey
      have hnone := hq a₀ ha₀ (hc.payoutID ▸ hbq)
      unfold Attempt.liveTransfer at hnone
      rw [hlive₀, htransfer] at hnone
      cases hnone

/-- **A call** stays within what others rely on. -/
theorem later_exec (hj : j ≠ i ∨ ¬ Takes c) (hok : P → Honest cfg c f w) :
    Later P j w (exec cfg i c f w).2 := by
  have hchange := exec_change cfg i c f w
  generalize (exec cfg i c f w).2 = w' at hchange ⊢
  cases hchange with
  | same => exact Later.refl P j w
  | cursor | accepted | claimed => exact later_of_attempts_eq rfl (fun _ h => h) id
  | lease =>
    have hij : j ≠ i := hj.resolve_right fun h => h trivial
    exact later_of_attempts_eq rfl (fun _ h => h) fun h => absurd (Option.some.inj h).symm hij
  | allocated hm h => exact later_allocates h (hj.resolve_right fun h => h trivial)
  | stamped | confirmed => exact later_note _ _ _
  | abandoned h => exact later_abandons h fun hP => (hok hP).2

theorem final_env (e : Event) : ∀ raw ∈ w.chain.final, raw ∈ (env cfg e w).chain.final := by
  cases e with
  | mine raw =>
    unfold env Chain.mine
    dsimp only
    split_ifs
    · exact fun _ h => h
    · exact fun _ h => h
  | finalize raw =>
    unfold env Chain.finalize
    dsimp only
    split_ifs
    · exact fun _ h => List.mem_cons_of_mem _ h
    · exact fun _ h => h
  | payoutAddress req =>
    unfold env
    dsimp only
    split
    · exact fun _ h => h
    · exact fun _ h => h
  | _ => exact fun _ h => h

theorem holder_env (e : Event) (h : (env cfg e w).db.holder = some j) : w.db.holder = some j := by
  cases e with
  | heartbeat k =>
    unfold env heartbeat Db.holder at h
    rcases hl : w.db.lease with _ | l
    · rw [hl] at h
      cases h
    · rw [hl] at h
      unfold Db.holder
      rw [hl]
      dsimp only [Option.map_some] at h ⊢
      split_ifs at h with hk
      · rw [hk]
        exact h
      · exact h
  | release k =>
    obtain ⟨l, hl, hlj⟩ := Option.map_eq_some_iff.mp h
    unfold Db.holder
    rw [(Option.filter_eq_some_iff.mp hl).1, ← hlj]
    rfl
  | payoutAddress req =>
    unfold env at h
    dsimp only at h
    split at h
    · exact h
    · exact h
  | _ => exact h

theorem later_env (e : Event) : Later P j w (env cfg e w) := by
  cases e with
  | handleCancelReorg | markStale => exact later_note _ _ _
  | payoutAddress req =>
    refine later_of_attempts_eq ?_ (final_env _) (holder_env _)
    unfold env
    dsimp only
    split
    · rfl
    · rfl
  | _ => exact later_of_attempts_eq rfl (final_env _) (holder_env _)

end Steps

end MacProvider.Coordinator.Payout.Discipline
