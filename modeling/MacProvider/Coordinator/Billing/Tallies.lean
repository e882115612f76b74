import MacProvider.Coordinator.Billing.Finality

/-! # Rows, sums and rungs

The loop over the rows of a request is a fold once the usage is there (`tallyRows_ok`); it adds up
what each row counts for (`sums_foldl`), and the answer is read from the sums (`Answers`). -/

namespace MacProvider.Coordinator.Billing.Tallies

open Billing.Schema Billing.Outputs Billing.HotPath Billing.Verdicts Billing.Finality

/-! ### Rows with their usage -/

/-- A row with its usage. -/
structure RatedRow where
  row : VerdictRow
  usage : SettlementUsage
  blocked : Bool

/-- One row. -/
def addRow (t : Tally) (x : RatedRow) : Tally :=
  match x.row.outcome with
  | .pending => t.addPending x.row
  | .verified =>
    if x.row.closed && x.row.receiptResult = .valid then t.addUsage x.usage x.blocked
    else t.addPending x.row
  | .quarantined => { t.addRefund x.row with quarantinedAttempts := t.quarantinedAttempts + 1 }
  | .zeroSettled => { t.addRefund x.row with zeroSettledAttempts := t.zeroSettledAttempts + 1 }

/-- The answer about these rows. -/
def rowsFinality (requestID policyVersion : String) (mode : PolicyMode) (rows : List RatedRow) :
    RequestFinality :=
  let t := rows.foldl addRow .zero
  conclude requestID policyVersion mode t 0 (t.promptTokens + t.completionTokens)

section Rated
variable (env : Env) (scope q : String) (b : Books)

/-- The attempt of the row. -/
abbrev attemptOf (row : VerdictRow) : ReceiptIdentity := ⟨scope, q, row.attemptN, row.providerID⟩

/-- The usage that the loop asks for is there. -/
def Readable (row : VerdictRow) : Prop :=
  row.outcome = .verified → row.closed = true → row.receiptResult = .valid →
    ∃ r, requestSettlementUsage env (attemptOf scope q row) b = .ok r

/-- The row with its usage. -/
def rate (row : VerdictRow) : RatedRow :=
  match requestSettlementUsage env (attemptOf scope q row) b with
  | .ok (usage, blocked) => ⟨row, usage, blocked⟩
  | .error _ => ⟨row, ⟨0, 0, 0, 0, 0⟩, false⟩

variable {env scope q b} {version : String} {mode : PolicyMode} {t t' : Tally}
  {row : VerdictRow} {rows : List VerdictRow} {f : RequestFinality}

theorem rate_row : (rate env scope q b row).row = row := by
  unfold rate
  split <;> rfl

theorem tallyRow_ok : tallyRow env scope q b t row = .ok t' ↔
    Readable env scope q b row ∧ addRow t (rate env scope q b row) = t' := by
  unfold tallyRow addRow Readable
  rw [rate_row]
  rcases row.outcome with _ | _ | _ | _
  case verified =>
    by_cases h : (row.closed && decide (row.receiptResult = .valid)) = true
    · rw [if_pos h, if_pos h]
      simp only [Bool.and_eq_true, decide_eq_true_eq] at h
      unfold rate
      rcases requestSettlementUsage env (attemptOf scope q row) b with e | ⟨u, blocked⟩
      · simp [bind, Except.bind, h]
      · simp [bind, Except.bind]
    · rw [if_neg h, if_neg h]
      simp only [Bool.and_eq_true, decide_eq_true_eq, not_and] at h
      simp only [Except.ok.injEq, iff_and_self]
      exact fun _ _ hclosed hvalid => absurd hvalid (h hclosed)
  all_goals simp

/-- **The loop is a fold over the rated rows.** -/
theorem tallyRows_ok : tallyRows env scope q b version mode rows t = .ok (false, t') ↔
    (∀ row ∈ rows, (row.policyVersion = version ∧ row.mode = mode) ∧
      Readable env scope q b row) ∧ (rows.map (rate env scope q b)).foldl addRow t = t' := by
  induction rows generalizing t with
  | nil => simp [tallyRows]
  | cons row rows ih =>
    rw [tallyRows, List.forall_mem_cons]
    by_cases hpolicy : row.policyVersion = version ∧ row.mode = mode
    · rw [if_neg (by simp [hpolicy])]
      rcases hrow : tallyRow env scope q b t row with e | t₁
      · have hnot : ¬ Readable env scope q b row := fun h => by
          rw [(tallyRow_ok (t := t)).mpr ⟨h, rfl⟩] at hrow
          cases hrow
        simp [bind, Except.bind, hnot]
      · obtain ⟨hreadable, rfl⟩ := tallyRow_ok.mp hrow
        simpa [bind, Except.bind, hpolicy, hreadable] using ih
    · rw [if_pos (by simpa [← not_and_or] using hpolicy)]
      simp [hpolicy]

theorem tallyRows_mixed (h : tallyRows env scope q b version mode rows t = .ok (true, t')) :
    0 < t'.pendingAttempts := by
  induction rows generalizing t with
  | nil => cases h
  | cons row rows ih =>
    rw [tallyRows] at h
    split_ifs at h
    · cases h
      exact Nat.succ_pos _
    · obtain ⟨t₁, -, h⟩ := bind_ok h
      exact ih h

end Rated

/-! ### What is counted -/

/-- Tokens, four kinds of attempts, blocked tokens. -/
abbrev Sums := ℤ × ℤ × ℕ × ℕ × ℕ × ℕ × ℤ

/-- The sums in a tally. -/
def sums (t : Tally) : Sums :=
  (t.promptTokens, t.completionTokens, t.verifiedAttempts, t.pendingAttempts,
    t.quarantinedAttempts, t.zeroSettledAttempts, t.overlappingBlockedTokens)

theorem sums_addRow (t : Tally) (x : RatedRow) :
    sums (addRow t x) = sums t + sums (addRow .zero x) := by
  unfold addRow
  rcases x.row.outcome with _ | _ | _ | _
  case verified =>
    split_ifs
    · cases x.blocked <;> simp [sums, Tally.addUsage, Tally.zero]
    · simp [sums, Tally.addPending, Tally.zero]
  all_goals simp [sums, Tally.addPending, Tally.addRefund, Tally.zero]

theorem sums_foldl (rows : List RatedRow) (t : Tally) :
    sums (rows.foldl addRow t) = sums t + sums (rows.foldl addRow .zero) := by
  induction rows generalizing t with
  | nil => simp [sums, Tally.zero]
  | cons x rows ih =>
    rw [List.foldl_cons, List.foldl_cons, ih, ih (addRow .zero x), sums_addRow, add_assoc]

/-- What kind of answer it is. -/
inductive Class
  | pending | verified | refund | overlapBlocked
deriving DecidableEq

/-- The kind of an outcome. -/
def classOf : FinalityOutcome → Class
  | .of .pending => .pending
  | .of .verified => .verified
  | .of .quarantined | .of .zeroSettled => .refund
  | .overlapBlockedTerminal => .overlapBlocked

theorem classOf_eq_verified {o : FinalityOutcome} : classOf o = .verified ↔ o = .of .verified := by
  rcases o with (_ | _ | _ | _) | _ <;> simp [classOf]

/-- A row is not charged. -/
abbrev Refunds (t : Tally) : Prop := 0 < t.quarantinedAttempts ∨ 0 < t.zeroSettledAttempts

/-- The class that the sums come to. -/
def ladder (t : Tally) : Class :=
  if 0 < t.pendingAttempts then .pending
  else if 0 < t.verifiedAttempts then .verified
  else if Refunds t then .refund
  else if 0 < t.overlappingBlockedTokens then .overlapBlocked
  else .pending

/-- What the loops keep; refunds are passed over behind a pending or verified one. -/
structure Sound (t : Tally) : Prop where
  refund : ∀ r ∈ t.firstTerminalRefund, classOf r.outcome = .refund
  first : t.pendingAttempts = 0 → t.verifiedAttempts = 0 →
    (t.firstTerminalRefund.isSome = true ↔ Refunds t)
  tokens : t.verifiedAttempts = 0 → t.promptTokens + t.completionTokens = 0

/-- **The answer is read from the sums**; `total` is for what is pending. -/
structure Answers (policyVersion : String) (mode : PolicyMode) (total : ℤ) (t : Tally)
    (f : RequestFinality) : Prop where
  tally : f.tally = t
  policy : f.policyVersion = policyVersion ∧ f.mode = mode
  outcome : classOf f.outcome = ladder t
  closed : f.closed = decide (ladder t ≠ .pending)
  total : f.totalTokens = if 0 < t.pendingAttempts then total
    else t.promptTokens + t.completionTokens

section Loops
variable {t : Tally} {q version : String} {mode : PolicyMode} {total verified : ℤ}
  {f : RequestFinality}

theorem conclude_answers (h : Sound t)
    (hverified : t.pendingAttempts = 0 → verified = t.promptTokens + t.completionTokens)
    (htotal : t.pendingAttempts = 0 → total = 0 ∨ total = t.promptTokens + t.completionTokens) :
    Answers version mode total t (conclude q version mode t total verified) := by
  by_cases hp : 0 < t.pendingAttempts
  · constructor <;> simp [conclude, undecided, hp, ladder, classOf]
  have hp0 : t.pendingAttempts = 0 := by omega
  by_cases hv : 0 < t.verifiedAttempts
  · constructor <;> simp [conclude, hp0, hv, ladder, classOf, hverified hp0]
  have hv0 : t.verifiedAttempts = 0 := by omega
  have hzero := h.tokens hv0
  have htotal0 : total = 0 := by have := htotal hp0; omega
  have hfirst := h.first hp0 hv0
  rcases hr : t.firstTerminalRefund with _ | r
  · have hno : ¬ Refunds t := by rw [← hfirst, hr]; exact Bool.false_ne_true
    by_cases ho : 0 < t.overlappingBlockedTokens
    all_goals
      constructor <;> simp [conclude, undecided, hp0, hv0, hr, ho, ladder, hno, classOf,
        hzero, htotal0]
  · have hyes : Refunds t := by rw [← hfirst, hr]; rfl
    constructor <;> simp [conclude, hp0, hv0, hr, ladder, hyes, h.refund r hr, hzero, htotal0]

theorem sound_zero : Sound .zero := ⟨nofun, fun _ _ => by simp [Tally.zero], fun _ => rfl⟩

theorem sound_addRow (h : Sound t) (x : RatedRow) : Sound (addRow t x) := by
  obtain ⟨hrefund, hfirst, htokens⟩ := h
  unfold addRow
  rcases hx : x.row.outcome with _ | _ | _ | _ <;> dsimp only
  case pending => exact ⟨hrefund, nofun, htokens⟩
  case verified =>
    split_ifs
    · cases x.blocked
      · exact ⟨hrefund, nofun, nofun⟩
      · exact ⟨hrefund, hfirst, htokens⟩
    · exact ⟨hrefund, nofun, htokens⟩
  all_goals
    refine ⟨fun r hr => ?_, fun _ _ => by simp [Tally.addRefund, Refunds], htokens⟩
    rcases Option.or_eq_some_iff.mp hr with hr | ⟨-, hr⟩
    · exact hrefund r hr
    · cases hr
      simp [hx, classOf]

theorem sound_rows (rows : List RatedRow) (h : Sound t) : Sound (rows.foldl addRow t) := by
  induction rows generalizing t with
  | nil => exact h
  | cons x rows ih => exact ih (sound_addRow h x)

theorem rowsFinality_answers (q : String) (rows : List RatedRow) :
    Answers version mode 0 (rows.foldl addRow .zero) (rowsFinality q version mode rows) :=
  conclude_answers (sound_rows rows sound_zero) (fun _ => rfl) fun _ => Or.inl rfl

end Loops

section Request
variable {env : Env} {scope q version : String} {mode : PolicyMode} {b : Books}
  {f : RequestFinality}

/-- **The answer about a request is that about its rows.** -/
theorem finalityOf_rated (hne : requestSettlementVerdicts env scope q b ≠ [])
    (h : ∀ row ∈ requestSettlementVerdicts env scope q b,
      (row.policyVersion = version ∧ row.mode = mode) ∧ Readable env scope q b row) :
    finalityOf env scope q b = .ok (some (rowsFinality q version mode
      ((requestSettlementVerdicts env scope q b).map (rate env scope q b)))) := by
  unfold finalityOf
  generalize requestSettlementVerdicts env scope q b = rows at *
  obtain ⟨first, rest, rfl⟩ := List.exists_cons_of_ne_nil hne
  obtain ⟨⟨rfl, rfl⟩, -⟩ := h first List.mem_cons_self
  dsimp only
  rw [(tallyRows_ok (t := .zero)).mpr ⟨h, rfl⟩]
  rfl

theorem finalityOf_ok (h : finalityOf env scope q b = .ok (some f)) :
    0 < f.tally.pendingAttempts ∧ f.closed = false ∨ ∃ version mode,
      (∀ row ∈ requestSettlementVerdicts env scope q b,
        (row.policyVersion = version ∧ row.mode = mode) ∧ Readable env scope q b row) ∧
      f = rowsFinality q version mode
        ((requestSettlementVerdicts env scope q b).map (rate env scope q b)) := by
  unfold finalityOf at h
  generalize requestSettlementVerdicts env scope q b = rows at *
  rcases rows with _ | ⟨first, rest⟩
  · cases h
  obtain ⟨⟨mixed, t⟩, ht, h⟩ := bind_ok h
  cases mixed with
  | true =>
    cases h
    exact Or.inl ⟨tallyRows_mixed ht, rfl⟩
  | false =>
    obtain ⟨hrows, rfl⟩ := tallyRows_ok.mp ht
    cases h
    exact Or.inr ⟨_, _, hrows, rfl⟩

end Request

end MacProvider.Coordinator.Billing.Tallies
