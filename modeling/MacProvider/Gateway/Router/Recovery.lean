import MacProvider.Gateway.Router.Billing

/-! # One bill for each response

The programs of the ladder make their calls as the contract of `Billing` asks, in every
interleaving, under any faults and over any restarts. -/

namespace MacProvider.Gateway.Router.Recovery

open Gateway.Time Store.Schema Store.Usage Gateway.Settlement Settlement.Format
open Router.Ladder Router.Billing Lib.Calls Lib.Rely.Contract
open Lib.Transactions (Fault)

section Payload
variable {r rec : Record}

theorem Stamps.refl (r : Record) : Stamps r r := ⟨r.version, r.writtenAtUnixMS, rfl⟩

theorem storeKey_of_key (h : rec.key = r.key) : storeKey rec = storeKey r := by
  simp only [Record.key, Format.Key.mk.injEq] at h
  rw [storeKey, storeKey, h.1, h.2.1]

theorem settling_settlement (h : Stamps r rec) (total : ℤ) (t : Instant) :
    Settling r (settlement rec total t) rec.demoIdentity := by
  obtain ⟨version, writtenAt, rfl⟩ := h
  exact ⟨rfl, rfl, rfl, rfl, rfl⟩

theorem normalized_eq (ev : UsageEvent) :
    ev.normalized = { ev with totalTokens := ev.normalized.totalTokens } := by
  unfold UsageEvent.normalized
  split_ifs <;> rfl

theorem carries_usageEvent {t : Instant} {total : ℤ} (hr : Summed r) (h : Stamps r rec)
    (hcheck : checkUsageTokens (usageEvent rec t).normalized = .ok total) :
    Carries r ({ (usageEvent rec t).normalized with totalTokens := total }.row 0) := by
  obtain ⟨version, writtenAt, rfl⟩ := h
  obtain ⟨h1, h2, h3, h4⟩ := checkUsageTokens_ok hcheck
  rw [normalized_eq] at h1 h2 h3 h4 ⊢
  refine ⟨rfl, rfl, rfl, ?_, rfl, rfl, rfl⟩
  have hsum : wrap64 (r.promptTokens + r.completionTokens) = r.promptTokens + r.completionTokens :=
    wrap64_of_range (by simp only [usageEvent] at h1 h2; omega) h3
  rw [hr, hsum]
  exact h4

end Payload

/-! ### The rungs are safe -/

section Safe
variable {ι : Type} {i : ι} {c : Codec} {r rec : Record} {w : World} {α : Type}
  {Q : α → World → Prop}

/-- A record of the same key is the effect. -/
def Of (r rec : Record) : Prop := storeKey rec = storeKey r → Stamps r rec

/-- From every later world on. -/
abbrev Later (c : Codec) (r : Record) (i : ι) (Q : α → World → Prop) (w : World)
    (k : Prog Answer α) : Prop :=
  ∀ w', Advance (storeKey r) w.db w'.db → (contract c r).Safe i Q k w'

variable {t : Instant} {x : AfterCommit} {done : Prog Answer α} {now : ℕ → Instant}

theorem safe_settle (hrec : Of r rec) {total : ℤ} {t' : Instant}
    {k : Option StoreErr → Prog Answer α}
    (hk : ∀ res w', Advance (storeKey r) w.db w'.db →
      (storeKey rec = storeKey r → res = none →
        Billed (storeKey r) w'.db ∧ Released (storeKey r) w'.db) →
      (contract c r).Safe i Q (k res) w') :
    (contract c r).Safe i Q (settle rec total t t' k) w := by
  unfold settle
  split_ifs with hdemo
  · exact safe_call (fun hkey => settling_settlement (hrec hkey) total t) hk
  · refine safe_call (fun hkey => ?_) hk
    have hs := settling_settlement (hrec hkey) total t
    rw [not_not.mp hdemo] at hs
    exact hs

theorem safe_ensureUsageEvent (hr : Summed r) (hrec : Of r rec)
    {k : Option StoreErr → Prog Answer α}
    (hk : ∀ res w', Advance (storeKey r) w.db w'.db →
      (storeKey rec = storeKey r → res = none → Billed (storeKey r) w'.db) →
      (contract c r).Safe i Q (k res) w') :
    (contract c r).Safe i Q (ensureUsageEvent (usageEvent rec t) k) w := by
  have hkey' : (usageEvent rec t).normalized.key = storeKey rec := by rw [normalized_eq]; rfl
  unfold ensureUsageEvent
  dsimp only
  rcases hcheck : checkUsageTokens (usageEvent rec t).normalized with e | total <;> dsimp only
  · exact hk _ w (.refl _ _) fun _ h => by cases h
  refine safe_call (fun hkey => carries_usageEvent hr (hrec (hkey'.symm.trans hkey)) hcheck)
    fun res w' hle hinsert => ?_
  rcases res with e | n <;> dsimp only
  · exact hk _ w' hle fun _ h => by cases h
  split_ifs with hn
  · exact hk _ w' hle fun hkey _ => hinsert (hkey'.trans hkey) n rfl hn
  refine safe_call trivial fun res w'' hle' hselect => ?_
  have hadv := Advance.trans hle hle'
  rcases res with e | _ | u <;> dsimp only
  · exact hk _ w'' hadv fun _ h => by cases h
  · exact hk _ w'' hadv fun _ h => by cases h
  split_ifs
  · exact hk _ w'' hadv fun hkey _ => hselect (hkey'.trans hkey) u rfl
  · exact hk _ w'' hadv fun _ h => by cases h

theorem safe_ensureDemo {k : Prog Answer α} (hk : Later c r i Q w k) :
    (contract c r).Safe i Q (ensureDemo rec t k) w := by
  unfold ensureDemo
  split_ifs
  · exact safe_call trivial fun _ w' hle _ => hk w' hle
  · exact hk w (.refl _ _)

theorem safe_refund {k : Option StoreErr → Prog Answer α}
    (hk : ∀ res w', Advance (storeKey r) w.db w'.db →
      (storeKey rec = storeKey r → released res = true → Released (storeKey r) w'.db) →
      (contract c r).Safe i Q (k res) w') : (contract c r).Safe i Q (refund rec t k) w :=
  safe_call trivial hk

theorem safe_seal {result : SealResult} {k : Prog Answer α}
    (hdone : storeKey rec = storeKey r →
      Billed (storeKey r) w.db ∧ Released (storeKey r) w.db)
    (hk : Later c r i Q w k) :
    (contract c r).Safe i Q (sealSettlementEffect rec.key result k) w :=
  safe_call (fun hkey => hdone (storeKey_of_key hkey)) fun _ w' hle _ => hk w' hle

theorem done_of_billed {w' w'' : World} {res : Option StoreErr}
    (hbilled : storeKey rec = storeKey r → Billed (storeKey r) w'.db)
    (hle : Advance (storeKey r) w'.db w''.db)
    (hrefund : storeKey rec = storeKey r → released res = true → Released (storeKey r) w''.db)
    (hres : released res = true) (hkey : storeKey rec = storeKey r) :
    Billed (storeKey r) w''.db ∧ Released (storeKey r) w''.db :=
  ⟨hle.billed (hbilled hkey), hrefund hkey hres⟩

theorem safe_settleArmed (hr : Summed r) (hx : Of r x.record) {armed : Bool}
    (hk : Later c r i Q w done) :
    (contract c r).Safe i Q (settleArmed x armed done) w := by
  refine safe_settle hx fun res w₁ h₁ hsettle => ?_
  rcases res with _ | e <;> dsimp only
  · split_ifs
    · exact safe_seal (fun hkey => hsettle hkey rfl) fun w' h => hk w' (h₁.trans h)
    · exact hk w₁ h₁
  refine safe_ensureUsageEvent hr hx fun res w₂ h₂ hensure => ?_
  rcases res with _ | e <;> dsimp only
  · refine safe_ensureDemo fun w₃ h₃ => safe_refund fun res w₄ h₄ hrefund => ?_
    have hadv := (h₁.trans h₂).trans (h₃.trans h₄)
    split_ifs with hres
    · refine safe_seal (fun hkey => ?_) fun w' h => hk w' (hadv.trans h)
      exact done_of_billed (fun hkey => hensure hkey rfl) (h₃.trans h₄) hrefund
        (Bool.and_eq_true_iff.mp hres).1 hkey
    · exact hk w₄ hadv
  · exact safe_refund fun _ w₃ h₃ _ => hk w₃ ((h₁.trans h₂).trans h₃)

theorem safe_settleAfterCommit (hr : Summed r) (hx : Of r x.record)
    (hk : Later c r i Q w done) :
    (contract c r).Safe i Q (settleAfterCommit x done) w := by
  refine safe_call (fun hkey => hx (storeKey_of_key hkey)) fun res w' hle _ => ?_
  exact safe_settleArmed hr hx fun w'' h => hk w'' (hle.trans h)

theorem safe_quarantine {key : Format.Key} {reason : String} {attempts : ℕ}
    {k : Recovered → Prog Answer α}
    (hk : ∀ res, Later c r i Q w (k res)) :
    (contract c r).Safe i Q (quarantineSettlementEffect key reason attempts k) w :=
  safe_call trivial fun _ _ h₁ _ => safe_call trivial fun _ w₂ h₂ _ => hk _ w₂ (h₁.trans h₂)

theorem safe_redriveConflict {k : Recovered → Prog Answer α}
    (hk : ∀ res, Later c r i Q w (k res)) :
    (contract c r).Safe i Q (redriveConflict rec now k) w := by
  refine safe_refund fun res w₁ h₁ _ => ?_
  split_ifs
  · exact hk _ w₁ h₁
  refine safe_call trivial fun attempts w₂ h₂ _ => ?_
  split_ifs
  · exact hk _ w₂ (h₁.trans h₂)
  · exact safe_quarantine fun res w₃ h₃ => hk res w₃ ((h₁.trans h₂).trans h₃)

theorem safe_redriveBilled {k : Recovered → Prog Answer α}
    (hbilled : storeKey rec = storeKey r → Billed (storeKey r) w.db)
    (hk : ∀ res, Later c r i Q w (k res)) :
    (contract c r).Safe i Q (redriveBilled rec now k) w := by
  refine safe_ensureDemo fun w₁ h₁ => safe_refund fun res w₂ h₂ hrefund => ?_
  split_ifs with hres
  · exact hk _ w₂ (h₁.trans h₂)
  refine safe_seal (fun hkey => ?_) fun w₃ h₃ =>
    safe_call trivial fun _ w₄ h₄ _ => ?_
  · exact done_of_billed hbilled (h₁.trans h₂) hrefund (by simpa using hres) hkey
  · exact hk _ w₄ ((h₁.trans h₂).trans (h₃.trans h₄))

theorem safe_redrive (hr : Summed r) (heffect : r.effect = effectSettle)
    (hrec : rec.key = r.key → Stamps r rec) {k : Except StoreErr Recovered → Prog Answer α}
    (hk : ∀ res, Later c r i Q w (k res)) :
    (contract c r).Safe i Q (redriveSettlementEffect rec now k) w := by
  unfold redriveSettlementEffect
  split_ifs with hkind htokens
  · exact hk _ w (.refl _ _)
  · exact safe_quarantine fun res => hk (.ok res)
  have hof : Of r rec := fun hkey => by
    simp only [storeKey, Store.Schema.Key.mk.injEq] at hkey
    refine hrec ?_
    rw [Record.key, Record.key, hkey.1, hkey.2, not_not.mp hkind, heffect]
  refine safe_settle hof fun res w₁ h₁ hsettle => ?_
  rcases res with _ | e <;> dsimp only
  · refine safe_seal (fun hkey => hsettle hkey rfl) fun w₂ h₂ =>
      safe_call trivial fun _ w₃ h₃ _ => ?_
    exact hk _ w₃ (h₁.trans (h₂.trans h₃))
  refine safe_ensureUsageEvent hr hof fun res w₂ h₂ hensure => ?_
  have hadv := h₁.trans h₂
  rcases res with _ | e
  · exact safe_redriveBilled (fun hkey => hensure hkey rfl) fun res w₃ h₃ => hk _ w₃ (hadv.trans h₃)
  · cases e with
    | usageEventConflict => exact safe_redriveConflict fun res w₃ h₃ => hk _ w₃ (hadv.trans h₃)
    | _ => exact hk _ w₂ hadv

end Safe

section Programs
variable {ι : Type} {i : ι} {c : Codec} {r : Record} {w : World}

/-- A program may end anyhow. -/
abbrev anywhere : Outcome → World → Prop := fun _ _ => True

theorem safe_pruneSealed (p : Pass) (s : Summary) :
    (contract c r).Safe i anywhere (pruneSealed p s) w := by
  unfold pruneSealed
  split_ifs
  · exact safe_call trivial fun _ _ _ _ => safe_ret fun _ _ => trivial
  · exact safe_ret fun _ _ => trivial

theorem safe_redriveUnsealed (hr : Summed r) (heffect : r.effect = effectSettle) (p : Pass)
    {recs : List Record} (hrecs : ∀ rec ∈ recs, rec.key = r.key → Stamps r rec) (n : ℕ)
    (s : Summary) : (contract c r).Safe i anywhere (redriveUnsealed p n recs s) w := by
  induction recs generalizing n s w with
  | nil => exact safe_pruneSealed p s
  | cons rec recs ih =>
    have hrest := fun rec' h => hrecs rec' (List.mem_cons_of_mem rec h)
    unfold redriveUnsealed
    split_ifs
    · exact safe_pruneSealed p s
    · exact safe_pruneSealed p s
    · exact ih hrest _ _
    · exact safe_redrive hr heffect (hrecs rec List.mem_cons_self) fun _ _ _ => ih hrest _ _

theorem safe_recover (hr : Summed r) (heffect : r.effect = effectSettle) (p : Pass) :
    (contract c r).Safe i anywhere (recoverSettlementJournal p) w := by
  refine safe_call trivial fun res w' _ hscan => ?_
  rcases res with _ | res
  · exact safe_ret fun _ _ => trivial
  · exact safe_redriveUnsealed hr heffect p (fun rec hrec => (hscan res rfl rec hrec).2) 0 _

theorem safe_thread (hr : Summed r) (heffect : r.effect = effectSettle) {t : Thread}
    (ht : ∀ x, t = .settle x → Of r x.record) : (contract c r).Safe i anywhere t.prog w := by
  cases t with
  | settle x => exact safe_settleAfterCommit hr (ht x rfl) fun _ _ => safe_ret fun _ _ => trivial
  | recover p => exact safe_recover hr heffect p

end Programs

end MacProvider.Gateway.Router.Recovery
