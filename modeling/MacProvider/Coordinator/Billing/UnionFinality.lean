import MacProvider.Coordinator.Billing.Receipts
import MacProvider.Coordinator.Billing.Tallies

/-! # The finality of several requests

`aggregateExternalRequestFinality` adds up the answers about the requests under an id.
`aggregate_agrees_iff` compares it with the answer if all rows were of one request. -/

namespace MacProvider.Coordinator.Billing.UnionFinality

open Billing.Schema Billing.Finality Billing.Tallies

theorem sound_addFinality {t tf : Tally} {version : String} {mode : PolicyMode}
    {f : RequestFinality} (h : Sound t) (htf : Sound tf)
    (hf : Answers version mode 0 tf f) : Sound (t.addFinality f) := by
  obtain ⟨rfl, -, houtcome, hclosed, -⟩ := hf
  -- a refund is taken over from a request that ends with one
  have htaken : (f.closed && f.outcome ≠ .of .verified &&
      (0 < f.tally.quarantinedAttempts || 0 < f.tally.zeroSettledAttempts)) = true ↔
      f.tally.pendingAttempts = 0 ∧ f.tally.verifiedAttempts = 0 ∧ Refunds f.tally := by
    simp only [hclosed, ne_eq, ← classOf_eq_verified, houtcome]
    unfold ladder
    by_cases hp : f.tally.pendingAttempts = 0 <;> by_cases hv : f.tally.verifiedAttempts = 0 <;>
      by_cases hr : Refunds f.tally <;> simp_all [Nat.pos_iff_ne_zero, Refunds]
  refine ⟨fun r hr => ?_, fun hp hv => ?_, fun hv => ?_⟩
  · rcases Option.or_eq_some_iff.mp hr with hr | ⟨-, hr⟩
    · exact h.refund r hr
    · split_ifs at hr with hcond
      cases hr
      obtain ⟨hp, hv, hrefunds⟩ := htaken.mp hcond
      simpa [ladder, hp, hv, hrefunds] using houtcome
  · obtain ⟨hp, hpf⟩ := Nat.add_eq_zero_iff.mp hp
    obtain ⟨hv, hvf⟩ := Nat.add_eq_zero_iff.mp hv
    have hsome : (if (f.closed && f.outcome ≠ .of .verified &&
        (0 < f.tally.quarantinedAttempts || 0 < f.tally.zeroSettledAttempts)) = true then
          some (⟨f.outcome, f.receiptResult, f.reason⟩ : Refund) else none).isSome = true ↔
        Refunds f.tally := by
      simp only [htaken, hpf, hvf, true_and]
      split_ifs with hr <;> simp [hr]
    dsimp only [Tally.addFinality]
    rw [Option.isSome_or, Bool.or_eq_true, h.first hp hv, hsome]
    dsimp only [Refunds]
    omega
  · obtain ⟨hv, hvf⟩ := Nat.add_eq_zero_iff.mp hv
    have h1 := h.tokens hv
    have h2 := htf.tokens hvf
    dsimp only [Tally.addFinality]
    omega

/-- It counts as pending. -/
def waits (x : RatedRow) : Bool :=
  x.row.outcome = .pending ||
    x.row.outcome = .verified && !(x.row.closed && x.row.receiptResult = .valid)

/-- What is billed of a verified row. -/
def tokens (x : RatedRow) : ℤ :=
  if x.row.outcome = .verified && !waits x && !x.blocked then
    x.usage.billableInputTokens + x.usage.billableOutputTokens
  else 0

theorem addRow_counts (t : Tally) (x : RatedRow) :
    (addRow t x).pendingAttempts = t.pendingAttempts + (waits x).toNat ∧
      (addRow t x).promptTokens + (addRow t x).completionTokens =
        t.promptTokens + t.completionTokens + tokens x := by
  unfold addRow tokens waits
  rcases x.row.outcome with _ | _ | _ | _
  case verified =>
    by_cases h : (x.row.closed && decide (x.row.receiptResult = .valid)) = true
    · cases x.blocked
      · simp only [h, Tally.addUsage, if_true]
        exact ⟨rfl, by simp; ring⟩
      · simp [h, Tally.addUsage]
    · simp [h, Tally.addPending]
  all_goals simp [Tally.addPending, Tally.addRefund]

theorem rows_count (rows : List RatedRow) (t : Tally) :
    (rows.foldl addRow t).pendingAttempts = t.pendingAttempts + rows.countP waits ∧
      (rows.foldl addRow t).promptTokens + (rows.foldl addRow t).completionTokens =
        t.promptTokens + t.completionTokens + (rows.map tokens).sum := by
  induction rows generalizing t with
  | nil => simp
  | cons x rows ih =>
    obtain ⟨hpending, htokens⟩ := ih (addRow t x)
    obtain ⟨hpending', htokens'⟩ := addRow_counts t x
    rw [List.foldl_cons, hpending, htokens, hpending', htokens', List.countP_cons, List.map_cons,
      List.sum_cons]
    refine ⟨?_, add_assoc _ _ _⟩
    cases waits x <;> grind

/-! ### The union -/

/-- The same class, counts and total. -/
structure Agrees (f g : RequestFinality) : Prop where
  closed : f.closed = g.closed
  outcome : classOf f.outcome = classOf g.outcome
  sums : Tallies.sums f.tally = Tallies.sums g.tally
  total : f.totalTokens = g.totalTokens

section Union
variable (version : String) (mode : PolicyMode)

/-- What is answered about these rows. -/
def answer (request : String × List RatedRow) : RequestFinality :=
  rowsFinality request.1 version mode request.2

/-- The sum of their totals. -/
def totals (requests : List (String × List RatedRow)) : ℤ :=
  (requests.map fun r => (answer version mode r).totalTokens).sum

theorem totals_cons (r : String × List RatedRow) (requests : List (String × List RatedRow)) :
    totals version mode (r :: requests) =
      (answer version mode r).totalTokens + totals version mode requests :=
  List.sum_cons

theorem tallyFinalities_union (requests : List (String × List RatedRow)) {t t' : Tally} (total : ℤ)
    (ht : Sound t) (hsums : sums t = sums t')
    (htotal : t.pendingAttempts = 0 → total = t.promptTokens + t.completionTokens) :
    ∃ u, tallyFinalities version mode (requests.map (answer version mode)) t total =
        (false, u, total + totals version mode requests) ∧
      Sound u ∧ sums u = sums ((requests.flatMap Prod.snd).foldl addRow t') ∧
      (u.pendingAttempts = 0 → total + totals version mode requests =
        u.promptTokens + u.completionTokens) := by
  induction requests generalizing t t' total with
  | nil => exact ⟨t, by simp [tallyFinalities, totals], ht, hsums, by simpa [totals] using htotal⟩
  | cons r requests ih =>
    have hr : Answers version mode 0 _ (answer version mode r) :=
      rowsFinality_answers r.1 r.2
    have hsums' : sums (t.addFinality (answer version mode r)) =
        sums (r.2.foldl addRow t') := by
      rw [sums_foldl, ← hsums, ← hr.tally]
      rfl
    obtain ⟨u, heq, hu, hcu, htu⟩ := ih (total + (answer version mode r).totalTokens)
      (sound_addFinality ht (sound_rows r.2 sound_zero) hr) hsums' fun hp => by
        obtain ⟨hp, hpf⟩ := Nat.add_eq_zero_iff.mp hp
        have hone := hr.total
        rw [← hr.tally, if_neg (Nat.not_lt.mpr (Nat.le_of_eq hpf))] at hone
        dsimp only [Tally.addFinality]
        omega
    refine ⟨u, ?_, hu, ?_, ?_⟩
    · rw [List.map_cons, tallyFinalities, if_neg (by simp [hr.policy]), heq,
        totals_cons, add_assoc]
    · rw [hcu, List.flatMap_cons, List.foldl_append]
    · rw [totals_cons, ← add_assoc]
      exact htu

theorem ladder_congr {t u : Tally} (h : sums t = sums u) : ladder t = ladder u := by
  simp only [sums, Prod.mk.injEq] at h
  obtain ⟨-, -, hv, hp, hq, hz, ho⟩ := h
  simp only [ladder, Refunds, hv, hp, hq, hz, ho]

/-- A request with a row that waits has no total. -/
theorem totals_eq (requests : List (String × List RatedRow)) :
    totals version mode requests =
      (((requests.filter fun r => !r.2.any waits).flatMap Prod.snd).map tokens).sum := by
  induction requests with
  | nil => rfl
  | cons r requests ih =>
    have htotal := (@rowsFinality_answers version mode r.1 r.2).total
    obtain ⟨hpending, htokens⟩ := rows_count r.2 .zero
    rw [hpending, htokens] at htotal
    rw [totals_cons, ih, answer, htotal]
    by_cases hw : r.2.any waits = true
    · have hpos : 0 < r.2.countP waits := List.countP_pos_iff.mpr (by simpa using hw)
      rw [if_pos (by simpa [Tally.zero] using hpos), List.filter_cons_of_neg (by simpa using hw),
        zero_add]
    · have hnone : r.2.countP waits = 0 := List.countP_eq_zero.mpr (by simpa using hw)
      rw [if_neg (by simp [Tally.zero, hnone]), List.filter_cons_of_pos (by simpa using hw)]
      simp [Tally.zero]

/-- **The answers add up to that about all rows, except that a pending result keeps the tokens of
requests without a waiting row.** -/
theorem aggregate_agrees_iff (externalRequestID : String) (first : String × List RatedRow)
    (rest : List (String × List RatedRow)) :
    Agrees (aggregateExternalRequestFinality externalRequestID (answer version mode first)
        (rest.map (answer version mode)))
      (rowsFinality externalRequestID version mode ((first :: rest).flatMap Prod.snd)) ↔
    (∀ r ∈ first :: rest, ∀ x ∈ r.2, waits x = false) ∨
      ((((first :: rest).filter fun r => !r.2.any waits).flatMap Prod.snd).map tokens).sum = 0 := by
  obtain ⟨u, heq, hu, hsums, htotal⟩ := tallyFinalities_union version mode (first :: rest)
    0 sound_zero rfl fun _ => rfl
  obtain ⟨hversion, hmode⟩ := (@rowsFinality_answers version mode first.1 first.2).policy
  have hunion := @rowsFinality_answers version mode externalRequestID
    ((first :: rest).flatMap Prod.snd)
  rw [zero_add] at heq htotal
  have hboth := @conclude_answers u externalRequestID version mode _ _ hu htotal fun hp =>
    Or.inr (htotal hp)
  have haggregate : aggregateExternalRequestFinality externalRequestID
      (answer version mode first) (rest.map (answer version mode)) =
      conclude externalRequestID version mode u (totals version mode (first :: rest))
        (totals version mode (first :: rest)) := by
    unfold aggregateExternalRequestFinality
    rw [answer, hversion, hmode, ← answer, ← List.map_cons, heq]
    rfl
  have hladder := ladder_congr hsums
  have hsame := hsums
  simp only [sums, Prod.mk.injEq] at hsame
  obtain ⟨hprompt, hcompletion, -, hpending, -⟩ := hsame
  have hwaits : (∀ r ∈ first :: rest, ∀ x ∈ r.2, waits x = false) ↔
      (((first :: rest).flatMap Prod.snd).foldl addRow .zero).pendingAttempts = 0 := by
    rw [(rows_count _ _).1]
    simp only [Tally.zero, zero_add, List.countP_eq_zero, List.mem_flatMap, Bool.not_eq_true]
    constructor
    · rintro h x ⟨r, hr, hx⟩
      exact h r hr x hx
    · exact fun h r hr x hx => h x ⟨r, hr, hx⟩
  rw [haggregate, hwaits, ← totals_eq version mode]
  constructor
  · intro h
    have := h.total
    rw [hboth.total, hunion.total, hpending] at this
    split_ifs at this with hp
    · exact Or.inr this
    · exact Or.inl (Nat.eq_zero_of_not_pos hp)
  · intro h
    refine ⟨?_, ?_, ?_, ?_⟩
    · rw [hboth.closed, hunion.closed, hladder]
    · rw [hboth.outcome, hunion.outcome, hladder]
    · rw [hboth.tally, hunion.tally, hsums]
    · rw [hboth.total, hunion.total, hpending, hprompt, hcompletion]
      split_ifs with hp
      · exact h.resolve_left (Nat.ne_of_gt hp)
      · rfl

end Union

/-- One is verified with ten tokens, one pending. -/
theorem pending_total_kept :
    let verified : RatedRow := ⟨Receipts.demoVerdict, ⟨4, 6, 0, 4, 6⟩, false⟩
    let pending : RatedRow :=
      ⟨{ Receipts.demoVerdict with outcome := .pending }, verified.usage, false⟩
    let external := aggregateExternalRequestFinality "external"
      (answer "v" .enforce ("a", [verified])) [answer "v" .enforce ("b", [pending])]
    let union := rowsFinality "external" "v" .enforce [verified, pending]
    (external.closed, external.totalTokens) = (false, 10) ∧
      (union.closed, union.totalTokens) = (false, 0) := by
  decide

end MacProvider.Coordinator.Billing.UnionFinality
