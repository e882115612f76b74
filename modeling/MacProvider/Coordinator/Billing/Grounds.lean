import MacProvider.Coordinator.Billing.Lifecycle

/-! # What stands behind a verdict

In all books that the operations lead to, token counts are not negative, every verdict is about a
request of an account, and a verified one has the output of its attempt (`reaches_grounded`). -/

namespace MacProvider.Coordinator.Billing.Grounds

open Lib.Tables Lib.Runs Billing.Schema Billing.Outputs Billing.HotPath Billing.Recovery
open Billing.Verifier Billing.Verdicts Billing.Finality Billing.Lifecycle

/-! ### The counts of the credits -/

/-- Its counts are not negative. -/
def Counted (c : CreditRow) : Prop :=
  NonnegOrNull c.tokens.promptTokens ∧ NonnegOrNull c.tokens.completionTokens

/-- So are those of all credits. -/
def AllCounted (b : Books) : Prop := ∀ c ∈ b.credits.rows, Counted c

section Credits
variable {v : ReceiptCodec} {env : Env} {b b' : Books}

theorem counted_of_checks {c : CreditRow} (h : c.Checks) : Counted c := ⟨h.prompt, h.completion⟩

theorem sync_counted {q p : String} {n : ℕ}
    (h : syncVerifiedReceiptLedgerCreditForAttempt env q n p b = .ok b') (hb : AllCounted b) :
    AllCounted b' := by
  obtain rfl | ⟨c, sao, u, hc, -, -, -, hchecks, rfl⟩ := sync_cases h
  · exact hb
  refine Table.forall_update (syncRow_id env (b.configSnapshotOf c) _) hb fun x hx hid _ => ?_
  rw [eq_of_id (creditOf_some hc).1 hx (of_decide_eq_true hid)]
  exact counted_of_checks hchecks

theorem insertCredit_counted {row : ℕ → CreditRow} {hrow : ∀ id, (row id).id = id}
    (h : insertCredit row hrow b = .ok b') (hb : AllCounted b) : AllCounted b' := by
  obtain ⟨-, hchecks, rfl⟩ := insertCredit_ok h
  intro c hc
  rcases List.mem_append.mp hc with hc | hc
  · exact hb c hc
  · rw [List.mem_singleton.mp hc]
    exact counted_of_checks hchecks

theorem quarantineWhere_counted {p : CreditRow → Bool} {reason : String} (hb : AllCounted b) :
    AllCounted (quarantineWhere p reason b) :=
  Table.forall_update (quarantine_id reason) hb fun _ _ _ hc => hc

theorem recoverRow_counted {x : LogRow} (h : recoverRow env b x = .ok b') (hb : AllCounted b) :
    AllCounted b' := by
  cases recoverRow_recovers h with
  | same => exact hb
  | quarantines => exact quarantineWhere_counted hb
  | holds h => exact insertCredit_counted h hb
  | credits hd hcfg hnone h₁ hsync => exact sync_counted hsync (insertCredit_counted h₁ hb)

theorem recoverRows_counted {rows : List LogRow} (h : rows.foldlM (recoverRow env) b = .ok b')
    (hb : AllCounted b) : AllCounted b' := by
  induction rows generalizing b with
  | nil =>
    cases h
    exact hb
  | cons x rows ih =>
    obtain ⟨b₁, hx, h⟩ := bind_ok h
    exact ih h (recoverRow_counted hx hb)

theorem writeBill_counted {i : HotPathInput} {d : Bill} (h : writeBill env i d b = .ok b')
    (hb : AllCounted b) : AllCounted b' := by
  obtain ⟨b₁, h₁, h⟩ := bind_ok h
  obtain ⟨b₂, h₂, h⟩ := bind_ok h
  have hb₁ : AllCounted b₁ := insertCredit_counted h₁ hb
  have hb₂ : AllCounted b₂ := by
    obtain ⟨-, rfl⟩ := insertProviderIdentitySnapshot_ok h₂
    exact hb₁
  split_ifs at h
  · cases h
    exact hb₂
  · exact sync_counted h hb₂

theorem apply_counted {id : ReceiptIdentity} {missing : Bool} {received : ℤ}
    {header pubkey : String} {row : VerdictRow}
    (h : applySettlementReceiptVerdict v env id missing received header pubkey b = .ok (row, b'))
    (hb : AllCounted b) : AllCounted b' := by
  obtain ⟨b₁, b₂, hb₁, hsync, hb'⟩ := apply_frame h
  have hcounted : AllCounted b₁ := by
    rw [hb₁]
    exact hb
  have hcounted₂ : AllCounted b₂ := by
    rcases hsync with rfl | hsync
    · exact hcounted
    · exact sync_counted hsync hcounted
  rw [hb']
  exact hcounted₂

theorem misses_counted {accountScope : String} {qs : List String}
    (h : MissesAll v env accountScope qs b b') (hb : AllCounted b) : AllCounted b' := by
  induction h with
  | refl => exact hb
  | tail _ hm ih =>
    obtain ⟨q, -, n, p, now, row, hm⟩ := hm
    exact apply_counted (recordMissing_ok hm).2 ih

end Credits

/-- Outputs stay, and so does their usage. -/
def Outlasts (t t' : OutputTable) : Prop :=
  ∀ k o, t.find? k = some o →
    ∃ o', t'.find? k = some o' ∧ o'.usageCanonicalJSON = o.usageCanonicalJSON

theorem Outlasts.refl (t : OutputTable) : Outlasts t t := fun _ o h => ⟨o, h, rfl⟩

theorem Outlasts.trans {t t' t'' : OutputTable} (h : Outlasts t t') (h' : Outlasts t' t'') :
    Outlasts t t'' := by
  intro k o ho
  obtain ⟨o', ho', hjson⟩ := h k o ho
  obtain ⟨o'', ho'', hjson'⟩ := h' k o' ho'
  exact ⟨o'', ho'', hjson'.trans hjson⟩

theorem markMet_outlasts (c : Codec) (a : SettlementAttemptOutput) (marked : Bool)
    (t : OutputTable) : Outlasts t (markMet c a marked t) := by
  unfold markMet
  split_ifs
  · intro k o ho
    rw [Table.find?_update, ho, Option.map_some]
    refine ⟨_, rfl, ?_⟩
    split_ifs <;> rfl
  · exact .refl t

theorem insertOutput_outlasts {c : Codec} {a : SettlementAttemptOutput} {t : OutputTable}
    {r : String × OutputTable} (h : insertSettlementAttemptOutput c a t = .ok r) :
    Outlasts t r.2 := by
  obtain ⟨t', marked, hr, hkept⟩ := insert_ok h
  rw [hr]
  exact Outlasts.trans (fun k o ho => ⟨o, hkept k o ho, rfl⟩) (markMet_outlasts c a marked t')

section Step
variable {v : ReceiptCodec} {env : Env} {b b' : Books}

theorem step_counted (b : Books) (op : Op) (hb : AllCounted b) : AllCounted (step v env b op) := by
  have h := @step_does v env b op
  generalize step v env b op = b' at h ⊢
  cases h with
  | ingests _ h => exact apply_counted h hb
  | records h => exact apply_counted (recordMissing_ok h).2 hb
  | misses h => exact misses_counted h hb
  | bills h =>
    unfold HotPath.writeHotPath at h
    dsimp only at h
    split at h
    · cases h
      exact hb
    · exact writeBill_counted (b := HotPath.insertLog _ b) h hb
  | logs hcredits =>
    unfold AllCounted
    rw [hcredits]
    exact hb
  | recovers h => exact recoverRows_counted h (quarantineWhere_counted hb)
  | settles l => exact Table.forall_update (inLedger_id l) hb fun _ _ _ hc => hc
  | fails | delivers => exact hb

theorem recoverRows_frame {rows : List LogRow} (h : rows.foldlM (recoverRow env) b = .ok b') :
    b'.log = b.log ∧ b'.outputs = b.outputs := by
  induction rows generalizing b with
  | nil =>
    cases h
    exact ⟨rfl, rfl⟩
  | cons x rows ih =>
    obtain ⟨b₁, hx, h⟩ := bind_ok h
    obtain ⟨hlog, houtputs⟩ := ih h
    exact ⟨hlog.trans (recoverRow_touches hx).log, houtputs.trans (recoverRow_touches hx).outputs⟩

theorem writeBill_outputs {i : HotPathInput} {d : Bill} (h : writeBill env i d b = .ok b') :
    b'.outputs = b.outputs := by
  obtain ⟨-, -, h⟩ := writeBill_ok h
  split_ifs at h
  · rw [h]
    rfl
  · exact (sync_touches h).outputs

theorem step_outlasts (b : Books) (op : Op) : Outlasts b.outputs (step v env b op).outputs := by
  have h := @step_does v env b op
  generalize step v env b op = b' at h ⊢
  -- all operations but one leave the outputs alone
  have hsame : b'.outputs = b.outputs → Outlasts b.outputs b'.outputs := by
    intro h
    rw [h]
    exact .refl _
  cases h with
  | ingests _ h => exact hsame (apply_log_outputs h).2
  | records h => exact hsame (apply_log_outputs (recordMissing_ok h).2).2
  | misses h => exact hsame h.frame.2
  | bills h =>
    unfold HotPath.writeHotPath at h
    dsimp only at h
    split at h
    · cases h
      exact hsame rfl
    · exact hsame (writeBill_outputs (b := HotPath.insertLog _ b) h)
  | logs _ _ houtputs => exact hsame houtputs
  | delivers h => exact insertOutput_outlasts h
  | @recovers w b' h => exact hsame (recoverRows_frame (b := quarantineOrphans w b) h).2
  | fails | settles l => exact .refl _

end Step

/-! ### The invariant -/

/-- Its output has a readable usage. -/
def HasUsage (env : Env) (t : OutputTable) (k : VerdictKey) : Prop :=
  ∃ scope o u, env.scopeHash scope = k.1 ∧ t.find? (scope, k.2) = some o ∧
    env.decodeUsage o.usageCanonicalJSON = some u ∧ SettlementUsage.validate u = .ok ()

/-- What stands behind the credits and the verdicts. -/
structure Grounded (env : Env) (b : Books) : Prop where
  counted : AllCounted b
  judged : ∀ k, ∀ row ∈ b.verdicts.find? k, Judged row
  named : ∀ k, b.verdicts.find? k ≠ none → Named env k
  usage : ∀ k row, b.verdicts.find? k = some row → row.outcome = .verified →
    HasUsage env b.outputs k

section Invariant
variable {v : ReceiptCodec} {env : Env} {b b' : Books}

theorem HasUsage.outlasts {t t' : OutputTable} {k : VerdictKey} (h : HasUsage env t k)
    (ht : Outlasts t t') : HasUsage env t' k := by
  obtain ⟨scope, o, u, hscope, ho, hu, hvalid⟩ := h
  obtain ⟨o', ho', hjson⟩ := ht _ o ho
  exact ⟨scope, o', u, hscope, ho', hjson.symm ▸ hu, hvalid⟩

theorem Accepts.hasUsage {id : ReceiptIdentity} {header pubkey : String} {received : ℤ}
    (h : Accepts v env id header pubkey received b) : HasUsage env b.outputs (id.key env) := by
  obtain ⟨e, he, hverified, -⟩ := h
  obtain ⟨⟨route, digest⟩, -, he⟩ := bind_ok he
  obtain ⟨⟨o, u⟩, ho, he⟩ := bind_ok he
  cases he
  unfold loadSettlementAttemptOutput at ho
  split at ho
  · cases ho
  next o' hfind =>
  split at ho
  · cases ho
  next u' hu =>
  cases ho
  refine ⟨id.accountScope, o, u, rfl, hfind, hu, ?_⟩
  have hresult := @verifySettlementReceipt_result v
    (verifyInput id ⟨route, digest, o, u⟩ received false header pubkey)
  generalize verifySettlementReceipt v
    (verifyInput id ⟨route, digest, o, u⟩ received false header pubkey) = r at hresult hverified
  cases hresult with
  | pending reason => cases hverified
  | quarantined result reason => cases hverified
  | zeroSettled hpresent hdeadline => cases hverified
  | verified hpresent hoverlap hdeadline husage => exact husage

theorem Verifies.hasUsage {k : VerdictKey} {op : Op} (h : Verifies v env b k op) :
    HasUsage env b.outputs k := by
  cases op with
  | ingestSettlementReceipt id header pubkey received => exact h.1 ▸ Accepts.hasUsage h.2
  | _ => exact h.elim

theorem Grounded.step (hb : Grounded env b) (op : Op) :
    Grounded env (Lifecycle.step v env b op) := by
  refine ⟨step_counted b op hb.counted, fun k => (step_evolves b op k).judged (hb.judged k),
    fun k hk => ?_, fun k row hrow hverified => ?_⟩
  · rcases (step_evolves b op k).origin hk with h | ⟨row, h⟩
    · exact hb.named k h
    · exact h.1
  · refine HasUsage.outlasts ?_ (step_outlasts b op)
    rcases (step_evolves b op k).verified hrow hverified with h | h
    · exact hb.usage k row h hverified
    · exact Verifies.hasUsage (h.2 hverified)

/-- **Reachable books are grounded.** -/
theorem reaches_grounded (h : Reaches (Lifecycle.step v env) (fun _ _ => True) .empty b) :
    Grounded env b := by
  refine reaches_induction (I := Grounded env) h ?_ fun b op hb _ => hb.step op
  refine ⟨fun c hc => ?_, fun k row hrow => ?_, fun k hk => absurd rfl hk, fun k row hrow => ?_⟩
  · cases hc
  · cases hrow
  · cases hrow

end Invariant

end MacProvider.Coordinator.Billing.Grounds
