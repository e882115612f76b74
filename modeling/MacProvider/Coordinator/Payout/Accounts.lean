import MacProvider.Coordinator.Payout.Discipline

/-! # Every transfer is accounted for

The invariant behind the rule that a payout is transferred once (`Accounted`): an abandoned transfer
has a cancel with its nonce, final before another transfer follows. Calls made as required
(`Requires`) keep it. -/

namespace MacProvider.Coordinator.Payout.Accounts

open Gateway.Time Lib.Rlp Evm.Transfers Payout.Attempts Payout.Database Payout.System
open Payout.Discipline

open AttemptTable (SameTx)

/-! ### The invariant -/

/-- The attempts and the final transactions. -/
structure Accounted (rows : List Attempt) (final : List Bytes) : Prop where
  /-- The bytes have the nonce of the row, and call data exactly if they are a transfer. -/
  signed : ∀ a ∈ rows, ∃ raw, a.progress.rawSignedTx = some raw ∧
    txNonce raw = some (UInt64.ofInt a.nonce) ∧ hasCalldata raw = !a.isCancel
  cancelled : ∀ a ∈ rows, a.isCancel = false → a.live = false →
    ∃ c ∈ rows, c.payoutID = a.payoutID ∧ c.nonce = a.nonce ∧ c.liveCancel = true
  confirmed : ∀ c ∈ rows, c.liveCancel = true → c.progress.confirmedAt.isSome = true →
    RowFinal final c
  followed : ∀ a ∈ rows, ∀ b ∈ rows, a.isCancel = false → b.isCancel = false →
    a.payoutID = b.payoutID → a.attemptSeq < b.attemptSeq →
    ∃ c ∈ rows, c.isCancel = true ∧ c.nonce = a.nonce ∧ RowFinal final c

theorem accounted_nil (final : List Bytes) : Accounted [] final :=
  ⟨fun _ h => absurd h List.not_mem_nil, fun _ h => absurd h List.not_mem_nil,
    fun _ h => absurd h List.not_mem_nil, fun _ h => absurd h List.not_mem_nil⟩

/-- Only a cancel that is final becomes confirmed. -/
structure Follows (final : List Bytes) (x a : Attempt) : Prop where
  same : SameTx x a
  live : x.live = a.live
  confirmed : x.liveCancel = true → x.progress.confirmedAt.isSome = true →
    a.progress.confirmedAt.isSome = true ∨ RowFinal final a

section Rows
variable {rows rows' : List Attempt} {final final' : List Bytes}

theorem Accounted.follow (h : Accounted rows final) (hfinal : ∀ raw ∈ final, raw ∈ final')
    (hback : ∀ x ∈ rows', ∃ a ∈ rows, Follows final x a)
    (hforth : ∀ a ∈ rows, ∃ x ∈ rows', Follows final x a) : Accounted rows' final' := by
  refine ⟨fun x hx => ?_, fun x hx htransfer hdead => ?_, fun x hx hcancel hconf => ?_,
    fun x hx y hy h1 h2 hp hseq => ?_⟩
  · obtain ⟨a, ha, hf⟩ := hback x hx
    rw [hf.same.rawSignedTx, hf.same.nonce, hf.same.isCancel]
    exact h.signed a ha
  · obtain ⟨a, ha, hf⟩ := hback x hx
    obtain ⟨c, hc, hcp, hcn, hclive⟩ :=
      h.cancelled a ha (hf.same.isCancel ▸ htransfer) (hf.live ▸ hdead)
    obtain ⟨y, hy, hfy⟩ := hforth c hc
    refine ⟨y, hy, ?_, ?_, (hfy.same.liveCancel hfy.live).trans hclive⟩
    · rw [hfy.same.payoutID, hcp, hf.same.payoutID]
    · rw [hfy.same.nonce, hcn, hf.same.nonce]
  · obtain ⟨a, ha, hf⟩ := hback x hx
    have hacancel : a.liveCancel = true := (hf.same.liveCancel hf.live).symm.trans hcancel
    rcases hf.confirmed hcancel hconf with hconf | hfin
    · exact (h.confirmed a ha hacancel hconf).same hf.same hfinal
    · exact hfin.same hf.same hfinal
  · obtain ⟨a, ha, hfa⟩ := hback x hx
    obtain ⟨b, hb, hfb⟩ := hback y hy
    rw [hfa.same.isCancel] at h1
    rw [hfb.same.isCancel] at h2
    rw [hfa.same.payoutID, hfb.same.payoutID] at hp
    rw [hfa.same.attemptSeq, hfb.same.attemptSeq] at hseq
    obtain ⟨c, hc, hcancel, hn, hfin⟩ := h.followed a ha b hb h1 h2 hp hseq
    obtain ⟨z, hz, hfz⟩ := hforth c hc
    refine ⟨z, hz, hfz.same.isCancel.trans hcancel, ?_, hfin.same hfz.same hfinal⟩
    rw [hfz.same.nonce, hn, hfa.same.nonce]

theorem Follows.refl (final : List Bytes) (a : Attempt) : Follows final a a :=
  ⟨SameTx.refl a, rfl, fun _ h => Or.inl h⟩

theorem Accounted.mono (h : Accounted rows final) (hfinal : ∀ raw ∈ final, raw ∈ final') :
    Accounted rows final' :=
  h.follow hfinal (fun x hx => ⟨x, hx, Follows.refl final x⟩)
    fun a ha => ⟨a, ha, Follows.refl final a⟩

end Rows

/-! ### What a call requires -/

/-- The attempt is in the table. -/
def Stored (w : World) (a : Attempt) : Prop := ∃ b ∈ w.rows, SameTx b a

/-- The bytes are those of an attempt. -/
def StoredBytes (w : World) (raw : Bytes) : Prop :=
  ∃ a ∈ w.rows, a.progress.rawSignedTx = some raw

/-- The payout has a confirmed transfer. -/
def HasPaid (w : World) (q : ℕ) : Prop := ∃ a ∈ w.rows, a.payoutID = q ∧ a.paid = true

/-- Its transaction is final. -/
def KeyFinal (w : World) (k : ℕ × ℕ) : Prop :=
  ∃ a ∈ w.rows, a.key = k ∧ RowFinal w.chain.final a

/-- No live transfer, and live cancels are final but for `cs`. -/
def SettledBut (i q : ℕ) (cs : List Attempt) (w : World) : Prop :=
  w.db.holder = some i → NoTransfer w q ∧ ∀ b ∈ w.rows, b.payoutID = q → b.liveCancel = true →
    RowFinal w.chain.final b ∨ ∃ c ∈ cs, SameTx b c

/-- What the program `i` has to know before a call. -/
def Requires (P : Prop) (i : ℕ) : Call → World → Prop
  | .allocate q _ _ _, w => P → SettledBut i q [] w
  | .broadcast raw, w => StoredBytes w raw
  | .markConfirmed q attemptSeq _ _ _, w => P → KeyFinal w (q, attemptSeq)
  | .claimPayoutReady q _ _ _, w => HasPaid w q
  | _, _ => True

section Stable
variable {P : Prop} {i q : ℕ} {w w' : World} {a : Attempt}

theorem Stored.later (h : Stored w a) (hl : Later P i w w') : Stored w' a := by
  obtain ⟨b, hb, hsame⟩ := h
  obtain ⟨c, hc, hcb, -⟩ := hl.rows b hb
  exact ⟨c, hc, hcb.trans hsame⟩

theorem StoredBytes.later {raw : Bytes} (h : StoredBytes w raw) (hl : Later P i w w') :
    StoredBytes w' raw := by
  obtain ⟨a, ha, hraw⟩ := h
  obtain ⟨b, hb, hsame, -⟩ := hl.rows a ha
  exact ⟨b, hb, hsame.rawSignedTx.trans hraw⟩

theorem HasPaid.later (h : HasPaid w q) (hl : Later P i w w') : HasPaid w' q := by
  obtain ⟨a, ha, haq, hpaid⟩ := h
  obtain ⟨b, hb, hsame, hpaid'⟩ := hl.rows a ha
  exact ⟨b, hb, hsame.payoutID.trans haq, hpaid' hpaid⟩

theorem KeyFinal.later {k : ℕ × ℕ} (h : KeyFinal w k) (hl : Later P i w w') : KeyFinal w' k := by
  obtain ⟨a, ha, hk, hfin⟩ := h
  obtain ⟨b, hb, hsame, -⟩ := hl.rows a ha
  exact ⟨b, hb, hsame.key.trans hk, hfin.later hl hsame⟩

theorem SettledBut.later {cs : List Attempt} (hP : P) (h : SettledBut i q cs w)
    (hl : Later P i w w') : SettledBut i q cs w' := by
  intro hi
  obtain ⟨hnone, hcancels⟩ := h (hl.holder hi)
  refine ⟨hl.transfers hi q hnone, fun b hb hbq hlive => ?_⟩
  obtain ⟨a, ha, hsame, halive⟩ := hl.cancels hP hi q hnone b hb hbq hlive
  rcases hcancels a ha (hsame.payoutID ▸ hbq) halive with hfin | ⟨c, hc, hac⟩
  · exact Or.inl (hfin.later hl hsame)
  · exact Or.inr ⟨c, hc, hsame.trans hac⟩

theorem Requires.later {c : Call} (h : Requires P i c w) (hl : Later P i w w') :
    Requires P i c w' := by
  cases c with
  | allocate q => exact fun hP => (h hP).later hP hl
  | broadcast raw => exact StoredBytes.later h hl
  | markConfirmed => exact fun hP => (h hP).later hl
  | claimPayoutReady q => exact HasPaid.later h hl
  | _ => trivial

theorem KeyFinal.of_stored (h : Stored w a) (hfin : RowFinal w.chain.final a) :
    KeyFinal w a.key := by
  obtain ⟨b, hb, hsame⟩ := h
  exact ⟨b, hb, hsame.key, hfin.same hsame fun _ h => h⟩

theorem StoredBytes.of_stored {raw : Bytes} (h : Stored w a)
    (hraw : a.progress.rawSignedTx = some raw) : StoredBytes w raw := by
  obtain ⟨b, hb, hsame⟩ := h
  exact ⟨b, hb, hsame.rawSignedTx.trans hraw⟩

end Stable

section Steps
variable {cfg : Config} {i : ℕ} {c : Call} {f : Choice} {w : World}

section
variable (h : Accounted w.rows w.chain.final)
include h

theorem accounted_note {pid seq : ℕ} {n : AttemptTable.Note}
    (hn : ∀ a ∈ w.rows, n.applies pid seq a = true →
      (n.write a.progress).confirmedAt.isSome = true →
      a.progress.confirmedAt.isSome = true ∨ RowFinal w.chain.final a) :
    Accounted (w.note pid seq n).rows w.chain.final := by
  have hfollows : ∀ a ∈ w.rows, ∀ x, SameTx x a → x.live = a.live →
      (x = a ∨ n.applies pid seq a = true ∧ x = a.set fun y => n.write y) →
      Follows w.chain.final x a := by
    intro a ha x hsame hlive hcase
    refine ⟨hsame, hlive, fun _ hconf => ?_⟩
    rcases hcase with rfl | ⟨happ, rfl⟩
    · exact Or.inl hconf
    · exact hn a ha happ hconf
  refine h.follow (fun _ h => h) (fun x hx => ?_) fun a ha => ?_
  · obtain ⟨a, ha, hsame, hlive, hcase⟩ := AttemptTable.mem_note hx
    exact ⟨a, ha, hfollows a ha x hsame hlive hcase⟩
  · obtain ⟨x, hx, hsame, hlive, hcase⟩ := AttemptTable.mem_note_of_mem ha pid seq n
    exact ⟨x, hx, hfollows a ha x hsame hlive hcase⟩

theorem accounted_allocates {pid : ℕ} {address : String} {amount : ℤ} {t₁ : Instant}
    {r : Allocated} {db : Db} (hreq : SettledBut i pid [] w)
    (ha : Allocates cfg i pid address amount t₁ w.db r db) :
    Accounted db.attempts.rows w.chain.final := by
  obtain ⟨hnone, hcancels⟩ := hreq ha.holder
  -- what was there is as it was
  have hkeep : ∀ {a}, a ∈ w.rows → a ∈ db.attempts.rows := fun ha' => by
    rw [ha.rows]
    exact List.mem_append_left _ ha'
  have hsplit := fun {a} => ha.mem_rows (a := a)
  refine ⟨fun a ha' => ?_, fun a ha' htransfer hdead => ?_, fun a ha' hcancel hconf => ?_,
    fun a ha' b hb' h1 h2 hp hseq => ?_⟩
  · rcases hsplit ha' with ha' | rfl
    · exact h.signed a ha'
    · exact ⟨r.raw, rfl, ha.txNonce, ha.calldata⟩
  · rcases hsplit ha' with ha' | rfl
    · obtain ⟨c, hc, hrest⟩ := h.cancelled a ha' htransfer hdead
      exact ⟨c, hkeep hc, hrest⟩
    · cases hdead
  · rcases hsplit ha' with ha' | rfl
    · exact h.confirmed a ha' hcancel hconf
    · cases hcancel
  · rcases hsplit ha' with ha' | rfl
    · rcases hsplit hb' with hb' | rfl
      · obtain ⟨c, hc, hrest⟩ := h.followed a ha' b hb' h1 h2 hp hseq
        exact ⟨c, hkeep hc, hrest⟩
      · -- `a` is not live, so it has a live cancel, which is final
        have hdead : a.live = false := by
          have := hnone a ha' hp
          unfold Attempt.liveTransfer at this
          rw [h1, Bool.not_false, Bool.and_true] at this
          exact this
        obtain ⟨c, hc, hcp, hcn, hclive⟩ := h.cancelled a ha' h1 hdead
        rcases hcancels c hc (hcp.trans hp) hclive with hfin | ⟨d, hd, -⟩
        · exact ⟨c, hkeep hc, ((Bool.and_eq_true _ _).mp hclive).2, hcn, hfin⟩
        · cases hd
    · -- the new number is above all others
      rcases hsplit hb' with hb' | rfl
      · have hlt := AttemptTable.lt_nextAttemptSeq hb'
        rw [← hp] at hlt
        have hnew : (r.row pid address amount).attemptSeq =
            w.db.attempts.nextAttemptSeq (r.row pid address amount).payoutID := ha.attemptSeq
        omega
      · omega

theorem accounted_abandons {req : AbandonRequest} {now : Instant} {db : Db}
    (hab : Abandons req now w.db db)
    (hcancel : req.broadcastCancelSelfTransfer = true)
    (htarget : ∀ a ∈ w.rows, a.key = (req.payoutID, req.attemptSeq) → a.isCancel = false) :
    Accounted db.attempts.rows w.chain.final := by
  obtain ⟨a₀, ha₀, hun, cs, hrows, hcs, hne⟩ := hab.row
  obtain ⟨hkey₀, -, hlive₀⟩ := AttemptTable.unsettled_iff.mp hun
  obtain ⟨c₀, hc₀⟩ := List.exists_mem_of_ne_nil cs (hne hcancel)
  have hsplit := @mem_abandoned _ _ _ _ _ _ hrows hcs
  -- cancels are not marked
  have hkeep : ∀ {c}, c ∈ w.rows → c.isCancel = true → c ∈ db.attempts.rows := by
    intro c hc hcc
    have hsame : abandonRow req now c = c := by
      unfold abandonRow
      rw [if_neg]
      intro hcon
      have := htarget c hc (AttemptTable.unsettled_iff.mp hcon).1
      rw [hcc] at this
      cases this
    rw [hrows]
    refine List.mem_append_left _ (List.mem_map.mpr ⟨c, hc, hsame⟩)
  have hnew : c₀ ∈ db.attempts.rows := by
    rw [hrows]
    exact List.mem_append_right _ hc₀
  refine ⟨fun x hx => ?_, fun x hx htransfer hdead => ?_, fun x hx hxc hconf => ?_,
    fun x hx y hy h1 h2 hp hseq => ?_⟩
  · rcases hsplit hx with ⟨a, ha, rfl⟩ | hc
    · have hs := abandonRow_sameTx req now a
      rw [hs.rawSignedTx, hs.nonce, hs.isCancel]
      exact h.signed a ha
    · obtain ⟨raw, hraw, htx, hdata⟩ := hc.raw
      refine ⟨raw, hraw, hc.nonce ▸ htx, ?_⟩
      rw [hdata, hc.isCancel]
      rfl
  · rcases hsplit hx with ⟨a, ha, rfl⟩ | hc
    · have hs := abandonRow_sameTx req now a
      rw [hs.isCancel] at htransfer
      rw [hs.payoutID, hs.nonce]
      rcases hlive : a.live with _ | _
      · obtain ⟨c, hc, hcp, hcn, hclive⟩ := h.cancelled a ha htransfer hlive
        exact ⟨c, hkeep hc ((Bool.and_eq_true _ _).mp hclive).2, hcp, hcn, hclive⟩
      · -- it was marked just now, so it is the row the cancel is for
        have hmarked : AttemptTable.unsettled req.payoutID req.attemptSeq a = true := by
          by_contra hnot
          unfold abandonRow at hdead
          rw [if_neg hnot, hlive] at hdead
          cases hdead
        have hkey := (AttemptTable.unsettled_iff.mp hmarked).1
        obtain rfl := AttemptTable.eq_of_key ha ha₀ (hkey.trans hkey₀.symm)
        have hc := hcs c₀ hc₀
        exact ⟨c₀, hnew, hc.payoutID, hc.nonce, (Bool.and_eq_true _ _).mpr ⟨hc.live, hc.isCancel⟩⟩
    · rw [hc.isCancel] at htransfer
      cases htransfer
  · rcases hsplit hx with ⟨a, ha, rfl⟩ | hc
    · have hlive := ((Bool.and_eq_true _ _).mp hxc).1
      rw [abandonRow_of_live hlive] at hxc hconf ⊢
      exact h.confirmed a ha hxc hconf
    · rw [hc.unconfirmed] at hconf
      cases hconf
  · rcases hsplit hx with ⟨a, ha, rfl⟩ | hc
    · rcases hsplit hy with ⟨b, hb, rfl⟩ | hc
      · have hsa := abandonRow_sameTx req now a
        have hsb := abandonRow_sameTx req now b
        rw [hsa.isCancel] at h1
        rw [hsb.isCancel] at h2
        rw [hsa.payoutID, hsb.payoutID] at hp
        rw [hsa.attemptSeq, hsb.attemptSeq] at hseq
        obtain ⟨c, hc, hcc, hcn, hfin⟩ := h.followed a ha b hb h1 h2 hp hseq
        exact ⟨c, hkeep hc hcc, hcc, hcn.trans hsa.nonce.symm, hfin⟩
      · rw [hc.isCancel] at h2
        cases h2
    · rw [hc.isCancel] at h1
      cases h1

end

/-- **Calls** keep it. -/
theorem accounted_exec {P : Prop} (hP : P) (h : Accounted w.rows w.chain.final)
    (hreq : Requires P i c w) (hok : Honest cfg c f w) :
    Accounted (exec cfg i c f w).2.rows (exec cfg i c f w).2.chain.final := by
  have hchange := exec_change cfg i c f w
  generalize (exec cfg i c f w).2 = w' at hchange ⊢
  cases hchange with
  | same | cursor | lease | accepted | claimed => exact h
  | allocated hm ha => exact accounted_allocates (w := w) h (hreq hP) ha
  | stamped => exact accounted_note h fun a _ _ hconf => Or.inl hconf
  | confirmed =>
    obtain ⟨b, hb, hkey, hfin⟩ := hreq hP
    refine accounted_note h fun a ha happ _ => Or.inr ?_
    have hab := AttemptTable.eq_of_key ha hb
      ((AttemptTable.unsettled_iff.mp happ).1.trans hkey.symm)
    exact hab ▸ hfin
  | abandoned ha => exact accounted_abandons (w := w) h ha hok.1 hok.2

theorem accounted_env (e : Event) (h : Accounted w.rows w.chain.final) :
    Accounted (env cfg e w).rows (env cfg e w).chain.final := by
  cases e with
  | handleCancelReorg =>
    exact accounted_note h fun a _ _ hconf => by cases hconf
  | markStale => exact accounted_note h fun a _ _ hconf => Or.inl hconf
  | payoutAddress req =>
    unfold env
    dsimp only
    split
    · exact h
    · exact h
  | _ => exact h.mono (final_env _)

end Steps

/-- Transfers are accounted for, if `P`; what was sent is stored. -/
structure Sound (P : Prop) (w : World) : Prop where
  accounted : P → Accounted w.rows w.chain.final
  sent : ∀ x ∈ w.accepted, StoredBytes w x.1

section Sound
variable {P : Prop} {cfg : Config} {i : ℕ} {c : Call} {f : Choice} {w : World}

theorem accepted_exec : (exec cfg i c f w).2.accepted = w.accepted ∨
    ∃ raw, c = .broadcast raw ∧ (exec cfg i c f w).2.accepted = w.accepted ++ [(raw, w.clock)] := by
  have hchange := exec_change cfg i c f w
  generalize (exec cfg i c f w).2 = w' at hchange ⊢
  cases hchange with
  | accepted => exact Or.inr ⟨_, rfl, rfl⟩
  | _ => exact Or.inl rfl

theorem sound_exec (h : Sound P w) (hreq : Requires P i c w) (hok : P → Honest cfg c f w) :
    Sound P (exec cfg i c f w).2 := by
  have hl : Later P (i + 1) w (exec cfg i c f w).2 := later_exec (Or.inl (Nat.succ_ne_self i)) hok
  refine ⟨fun hP => ?_, fun x hx => ?_⟩
  · exact accounted_exec hP (h.accounted hP) hreq (hok hP)
  · rcases @accepted_exec cfg i c f w with hsame | ⟨raw, rfl, hnew⟩
    · rw [hsame] at hx
      exact (h.sent x hx).later hl
    · rw [hnew, List.mem_append, List.mem_singleton] at hx
      rcases hx with hx | rfl
      · exact (h.sent x hx).later hl
      · exact StoredBytes.later hreq hl

theorem accepted_env (e : Event) : (env cfg e w).accepted = w.accepted := by
  cases e with
  | payoutAddress req =>
    unfold env
    dsimp only
    split
    · rfl
    · rfl
  | _ => rfl

theorem sound_env (e : Event) (h : Sound P w) : Sound P (env cfg e w) := by
  refine ⟨fun hP => accounted_env e (h.accounted hP), fun x hx => ?_⟩
  rw [accepted_env] at hx
  exact (h.sent x hx).later (@later_env P cfg 0 w e)

end Sound

end MacProvider.Coordinator.Payout.Accounts
