import MacProvider.Gateway.Router.Recovery

/-! # One re-drive

A re-drive whose calls do not fail seals its effect: its settlement goes through, or the usage row
is there or written, and the refund finds an active reservation or none. -/

namespace MacProvider.Gateway.Router.Redrive

open Gateway.Time Store.Schema Store.Ops Store.Effects Store.Usage Store.Steps Gateway.Settlement
open Settlement.Format Settlement.Append Settlement.Prune Settlement.Contents Router.Ladder
open Router.Billing Router.Recovery Lib.Tables Lib.Calls Lib.Rely Lib.Runs
open Lib.Transactions (Fault)

/-- The effect has a seal. -/
def Sealed (c : Codec) (r : Record) (w : World) : Prop :=
  ∃ rec, Holds c w.files.disk rec ∧ rec.kind = .seal ∧ rec.key = r.key

/-- The store takes the payload of the effect. -/
structure Accepted (r : Record) : Prop where
  prompt : 0 ≤ r.promptTokens
  completion : 0 ≤ r.completionTokens
  sum : r.promptTokens + r.completionTokens ≤ maxInt64
  source : r.tokenSource ∈ tokenSources

section Calls
variable {c : Codec} {o : Options} {r : Record} {w : World} {db : Db}

theorem insertOrIgnore_live {u : UsageRow} (hu : u.check = true) :
    ∃ n, (execContext (insertOrIgnoreUsage u) .none db).1 = .ok n ∧
      Billed u.key (execContext (insertOrIgnoreUsage u) .none db).2 := by
  rcases insertOrIgnoreUsage_cases u db with ⟨t, ht, hi⟩ | ⟨hc | hfound, hi⟩
  · have hexec : execContext (insertOrIgnoreUsage u) .none db =
        (.ok 1, { db with usage := t }) := by
      simp only [execContext, Fault.now, hi]
      rfl
    rw [hexec]
    refine ⟨1, rfl, fun hn => ?_⟩
    exact Option.some_ne_none u (((Table.find?_insert ht _).trans (if_pos rfl)).symm.trans hn)
  · rw [hu] at hc
    cases hc
  · have hexec : execContext (insertOrIgnoreUsage u) .none db = (.ok 0, db) := by
      simp only [execContext, Fault.now, hi]
      rfl
    rw [hexec]
    exact ⟨0, rfl, hfound⟩

theorem refund_live (k : Store.Schema.Key) (t : ℕ) :
    released ((refundReservation k t).run .none db).1 = true := by
  unfold refundReservation
  rw [closeReservation_live]
  split_ifs <;> rfl

theorem sealed_writeSeal {e : Env} {result : SealResult} (hclean : Clean w.files) (he : Whole e)
    (h : (writeSeal c o e r.key result w.files).1 = none ∨ Sealed c r w) :
    Sealed c r { w with files := (writeSeal c o e r.key result w.files).2 } := by
  obtain ⟨-, hholds⟩ := append_contents c o (sealRecord r.key result) false hclean he
  rcases h with hnone | ⟨rec, hrec, hk, hkey⟩
  · rcases hholds with hiff | ⟨herr, -⟩
    · exact ⟨_, (hiff _).mpr (Or.inr rfl), rfl, rfl⟩
    · exact absurd hnone herr
  · refine ⟨rec, ?_, hk, hkey⟩
    rcases hholds with hiff | ⟨-, hiff⟩
    · exact (hiff rec).mpr (Or.inl hrec)
    · exact (hiff rec).mpr hrec

end Calls

/-! ### The contract of a re-drive -/

/-- The calls of a re-drive of `r`. -/
def Drives (r : Record) : Call → World → Prop
  | .writeSeal k _, w => k = r.key ∧ Billed (storeKey r) w.db ∧ Released (storeKey r) w.db
  | .settleReservation s, _ => s.key = storeKey r ∧ Settling r s ""
  | .settleDemoReservation s d, _ => s.key = storeKey r ∧ Settling r s d.clientIP
  | .insertOrIgnoreUsage ev, _ =>
      ev.key = storeKey r ∧ Carries r (ev.row 0) ∧ (ev.row 0).check = true
  | .selectUsage k, w => k = storeKey r ∧ Billed (storeKey r) w.db
  | .refundReservation k _, _ => k = storeKey r
  | .ensureDemoUsageEvent _, _ => True
  | .clearAttempts _, _ => True
  | _, _ => False

/-- What their answers say when nothing fails. -/
def Drove (c : Codec) (r : Record) : (x : Call) → Answer x → World → Prop
  | .writeSeal _ _, _, w => Sealed c r w
  | .settleReservation _, res, w => res = none →
      Billed (storeKey r) w.db ∧ Released (storeKey r) w.db
  | .settleDemoReservation _ _, res, w => res = none →
      Billed (storeKey r) w.db ∧ Released (storeKey r) w.db
  | .insertOrIgnoreUsage _, res, w => ∃ n, res = .ok n ∧ Billed (storeKey r) w.db
  | .selectUsage _, res, _ => ∃ u, res = .ok (some u) ∧ u.key = storeKey r ∧ Carries r u
  | .refundReservation _ _, res, w => released res = true ∧ Released (storeKey r) w.db
  | _, _, _ => True

/-- A bill, a release and a seal stay. -/
def Goes (c : Codec) (r : Record) (w w' : World) : Prop :=
  Advance (storeKey r) w.db w'.db ∧ (Sealed c r w → Sealed c r w')

theorem Goes.trans {c : Codec} {r : Record} {w w' w'' : World} (h : Goes c r w w')
    (h' : Goes c r w' w'') : Goes c r w w'' :=
  ⟨h.1.trans h'.1, h'.2 ∘ h.2⟩

/-- For one that starts on `files`. -/
def driveContract (c : Codec) (r : Record) (files : Files) : Contract Unit Answer World where
  inv w := Inv c r w ∧ (w.files = files ∨ Sealed c r w)
  rely _ := Goes c r
  pre _ := Drives r
  post _ x res w w' := Goes c r w w' ∧ Drove c r x res w'
  refl _ _ := ⟨.refl _ _, id⟩
  trans _ _ _ _ h h' := h.trans h'
  stable _ x w w' h hle := by
    cases x with
    | writeSeal k result => exact ⟨h.1, hle.1.billed h.2.1, hle.1.released h.2.2⟩
    | selectUsage k => exact ⟨h.1, hle.1.billed h.2⟩
    | _ => exact h

section Contract
variable {c : Codec} {o : Options} {r : Record} {w : World} {files : Files} {e : Env}

theorem needs_of_drives {x : Call} (h : Drives r x w) : Needs r x w := by
  cases x with
  | writeSeal k result => exact fun _ => h.2
  | settleReservation s => exact fun _ => h.2
  | settleDemoReservation s d => exact fun _ => h.2
  | insertOrIgnoreUsage ev => exact fun _ => h.2.1
  | writeEffect rec => exact h.elim
  | _ => trivial

theorem drive_store {x : Call} {out : Answer x × World} (hk : (contract c r).Kept () w out)
    (hinv : w.files = files ∨ Sealed c r w) (hfiles : out.2.files = w.files)
    (hpost : Drove c r x out.1 out.2) : (driveContract c r files).Kept () w out := by
  have hsealed : Sealed c r w → Sealed c r out.2 := by
    rintro ⟨rec, hrec⟩
    exact ⟨rec, hfiles ▸ hrec⟩
  exact ⟨⟨hk.inv, hinv.imp hfiles.trans hsealed⟩, ⟨hk.post.1, hsealed⟩, hpost⟩

/-- **Its calls keep it** when nothing fails. -/
theorem drive_kept (hr : Summed r) (he : Whole e)
    (hseal : ∀ result, (writeSeal c o e r.key result files).1 = none) (x : Call)
    (h : (driveContract c r files).inv w) (hx : Drives r x w) :
    (driveContract c r files).Kept () w (exec c o x { file := e } w) := by
  have hkept : (contract c r).Kept () w (exec c o x { file := e } w) :=
    exec_kept hr he x h.1 (needs_of_drives hx)
  cases x with
  | writeSeal k result =>
    obtain ⟨rfl, hdone⟩ := hx
    have hsealed : Sealed c r (exec c o (.writeSeal r.key result) { file := e } w).2 := by
      refine sealed_writeSeal h.1.clean he (h.2.imp_left fun hfiles => ?_)
      rw [hfiles]
      exact hseal result
    exact ⟨⟨hkept.inv, Or.inr hsealed⟩, ⟨hkept.post.1, fun _ => hsealed⟩, hsealed⟩
  | settleReservation s => exact drive_store hkept h.2 rfl (hkept.post.2 hx.1)
  | settleDemoReservation s d => exact drive_store hkept h.2 rfl (hkept.post.2 hx.1)
  | insertOrIgnoreUsage ev =>
    obtain ⟨n, hn, hbilled⟩ := @insertOrIgnore_live w.db (ev.row 0) hx.2.2
    exact drive_store hkept h.2 rfl ⟨n, hn, hx.1 ▸ hbilled⟩
  | selectUsage k =>
    obtain ⟨rfl, hbilled⟩ := hx
    obtain ⟨u, hu⟩ := Option.ne_none_iff_exists'.mp hbilled
    refine drive_store hkept h.2 rfl ⟨u, ?_, Table.key_of_find? hu, h.1.bill.row u hu⟩
    exact congrArg Except.ok hu
  | refundReservation k t =>
    have hreleased := @refund_live w.db k t
    exact drive_store hkept h.2 rfl ⟨hreleased, hkept.post.2 hx hreleased⟩
  | ensureDemoUsageEvent d => exact drive_store hkept h.2 rfl trivial
  | clearAttempts k => exact drive_store hkept h.2 rfl trivial
  | writeEffect rec => exact hx.elim
  | writeQuarantine k reason attempts => exact hx.elim
  | scan => exact hx.elim
  | prune before => exact hx.elim
  | nextAttempt k => exact hx.elim

end Contract

/-! ### The re-drive is safe -/

section Drive
variable {c : Codec} {r rec : Record} {w : World} {files : Files}

/-- Sealed, and counted as recovered. -/
def EndsSealed (c : Codec) (r : Record) (res : Except StoreErr Recovered) (w : World) : Prop :=
  Sealed c r w ∧ (res = .ok .settled ∨ res = .ok .usageEvent)

theorem total_of_accepted (hr : Summed r) (ha : Accepted r) :
    r.totalTokens = r.promptTokens + r.completionTokens := by
  have h1 := ha.prompt
  have h2 := ha.completion
  exact hr.trans (wrap64_of_range (by omega) ha.sum)

theorem tokensConsistent_of_accepted (hr : Summed r) (ha : Accepted r) :
    r.tokensConsistent = true := by
  have h1 := ha.prompt
  have h2 := ha.completion
  have h3 := total_of_accepted hr ha
  unfold Record.tokensConsistent
  rw [if_neg (by omega)]
  exact beq_iff_eq.mpr hr

theorem normalized_total (hr : Summed r) (t : Instant) :
    (usageEvent r t).normalized.totalTokens = r.totalTokens := by
  unfold UsageEvent.normalized
  split_ifs
  · exact hr.symm
  · rfl

theorem checkUsageTokens_accepted (hr : Summed r) (ha : Accepted r) (t : Instant) :
    checkUsageTokens (usageEvent r t).normalized = .ok r.totalTokens := by
  have h1 := ha.prompt
  have h2 := ha.completion
  have h3 := ha.sum
  have h4 := total_of_accepted hr ha
  rw [normalized_eq, normalized_total hr]
  unfold checkUsageTokens usageEvent
  dsimp only
  rw [if_neg (by omega), if_neg (by omega)]
  by_cases hzero : r.totalTokens = 0
  · rw [if_pos hzero, h4]
  · rw [if_neg hzero, if_neg (not_not.mpr h4)]

theorem sameBill_of_carries (hr : Summed r) {t : Instant} {u : UsageRow}
    (hkey : u.key = storeKey r) (hu : Carries r u) :
    (usageEvent r t).normalized.sameBill u = true := by
  rw [normalized_eq, normalized_total hr]
  simp [UsageEvent.sameBill, usageEvent, hkey, hu.demo, hu.window, hu.prompt, hu.completion,
    hu.total, hu.source, hu.outcome]

theorem drive_call {x : Call} {k : Answer x → Prog Answer (Except StoreErr Recovered)}
    (hx : Drives r x w) (hk : ∀ res w', Goes c r w w' → Drove c r x res w' →
      (driveContract c r files).Safe () (EndsSealed c r) (k res) w') :
    (driveContract c r files).Safe () (EndsSealed c r) (.call x k) w :=
  ⟨hx, fun _ res w' hle _ _ h => hk res w' (hle.trans h.1) h.2⟩

theorem drive_seal {result : SealResult} {k : Recovered}
    (hdone : Billed (storeKey r) w.db ∧ Released (storeKey r) w.db)
    (hk : k = .settled ∨ k = .usageEvent) :
    (driveContract c r files).Safe () (EndsSealed c r) (sealSettlementEffect r.key result
      (.call (.clearAttempts r.key) fun _ => .ret (.ok k))) w := by
  refine drive_call ⟨rfl, hdone⟩ fun _ w₁ _ hsealed => drive_call trivial fun _ w₂ h₂ _ w₃ h₃ =>
    ⟨h₃.2 (h₂.2 hsealed), ?_⟩
  rcases hk with rfl | rfl
  · exact Or.inl rfl
  · exact Or.inr rfl

theorem drive_billed {now : ℕ → Instant} (hbilled : Billed (storeKey r) w.db) :
    (driveContract c r files).Safe () (EndsSealed c r)
      (redriveBilled r now fun res => .ret (.ok res)) w := by
  have hrefund : ∀ w', Billed (storeKey r) w'.db →
      (driveContract c r files).Safe () (EndsSealed c r) (refund r (now 4) fun refundErr =>
        if !released refundErr then .ret (.ok .retry)
        else sealSettlementEffect r.key .usageEvent
          (.call (.clearAttempts r.key) fun _ => .ret (.ok .usageEvent))) w' := by
    intro w' hb
    refine drive_call rfl fun res w'' hle hrel => ?_
    rw [if_neg (by simp [hrel.1])]
    exact drive_seal ⟨hle.1.billed hb, hrel.2⟩ (Or.inr rfl)
  unfold redriveBilled ensureDemo
  split_ifs
  · exact drive_call trivial fun _ w₁ h₁ _ => hrefund w₁ (h₁.1.billed hbilled)
  · exact hrefund w hbilled

theorem drive_ensure (hr : Summed r) (ha : Accepted r) {t : Instant} {now : ℕ → Instant} :
    (driveContract c r files).Safe () (EndsSealed c r)
      (ensureUsageEvent (usageEvent r t) fun
        | some .usageEventConflict => redriveConflict r now fun res => .ret (.ok res)
        | some e => .ret (.error e)
        | none => redriveBilled r now fun res => .ret (.ok res)) w := by
  have hcheck := checkUsageTokens_accepted hr ha t
  have hkey : (usageEvent r t).normalized.key = storeKey r := by rw [normalized_eq]; rfl
  have hcarries := carries_usageEvent hr (Stamps.refl r) hcheck
  have hrow :
      ({ (usageEvent r t).normalized with totalTokens := r.totalTokens }.row 0).check = true := by
    have h1 := ha.prompt
    have h2 := ha.completion
    have h3 := total_of_accepted hr ha
    simp only [UsageRow.check, hcarries.prompt, hcarries.completion, hcarries.total,
      hcarries.source, Bool.and_eq_true, decide_eq_true_eq]
    exact ⟨⟨⟨h1, h2⟩, by omega⟩, ha.source⟩
  unfold ensureUsageEvent
  dsimp only
  rw [hcheck]
  refine drive_call ⟨hkey, hcarries, hrow⟩ fun res w₁ _ hinsert => ?_
  obtain ⟨n, rfl, hbilled⟩ := hinsert
  dsimp only
  split_ifs
  · exact drive_billed hbilled
  refine drive_call ⟨hkey, hbilled⟩ fun res w₂ h₂ hselect => ?_
  obtain ⟨u, rfl, hukey, hu⟩ := hselect
  dsimp only
  rw [if_pos (sameBill_of_carries hr hukey hu)]
  exact drive_billed (h₂.1.billed hbilled)

theorem drive_safe (hr : Summed r) (heffect : r.effect = effectSettle) (ha : Accepted r)
    (hrec : Stamps r rec) (now : ℕ → Instant) :
    (driveContract c r files).Safe () (EndsSealed c r)
      (redriveSettlementEffect rec now .ret) w := by
  obtain ⟨version, writtenAt, rfl⟩ := hrec
  -- the stamp is not read
  show (driveContract c r files).Safe () (EndsSealed c r) (redriveSettlementEffect r now .ret) w
  unfold redriveSettlementEffect
  rw [if_neg (by simpa using heffect), if_neg (by simp [tokensConsistent_of_accepted hr ha])]
  have hs := settling_settlement (Stamps.refl r) r.totalTokens (now 0)
  unfold settle
  split_ifs with hdemo
  on_goal 2 => rw [not_not.mp hdemo] at hs
  all_goals
    refine drive_call ⟨rfl, hs⟩ fun res w₁ _ hsettle => ?_
    rcases res with _ | e
    · exact drive_seal (hsettle rfl) (Or.inl rfl)
    · exact drive_ensure hr ha

end Drive

/-! ### Every run -/

/-- It neither reserves the key nor settles it. -/
structure Outside (k : Store.Schema.Key) (op : Op) : Prop where
  reserve : ∀ clock req, op = .reserveQuota clock req → req.key ≠ k
  settle : ∀ s, op.settlement = some s → s.key ≠ k

/-- A failed journal write wrote nothing, and the key is billed on no other path. Store calls may
fail. -/
def Assumed {ι : Type} (k : Store.Schema.Key) : Act ι Event Faults → Prop
  | .call _ f => Whole f.file
  | .env (.store op _) => Outside k op
  | .env (.restart _) => True

/-- Store methods between its calls. -/
def interfere (es : ℕ → List (Op × Fault SqlErr)) (n : ℕ) (w : World) : World :=
  (es n).foldl (fun w e => happen (.store e.1 e.2) w) w

section Environment
variable {c : Codec} {o : Options} {r : Record} {w : World} {files : Files}

theorem bill_outside {op : Op} {db : Db} (hr : Summed r) (h : Bill r db)
    (hop : Outside (storeKey r) op) (f : Fault SqlErr) :
    Bill r (op.run f db) ∧ Advance (storeKey r) db (op.run f db) :=
  bill_op hr h ⟨hop.reserve, fun s hs hkey => absurd hkey (hop.settle s hs)⟩ f

theorem inv_happen (hr : Summed r) (h : Inv c r w) {ι : Type} {e : Event}
    (he : @Assumed ι (storeKey r) (.env e)) :
    Inv c r (happen e w) ∧ Advance (storeKey r) w.db (happen e w).db := by
  cases e with
  | store op f =>
    have hbill := bill_outside hr h.bill he f
    exact ⟨inv_store h hbill, hbill.2⟩
  | restart pid =>
    exact ⟨⟨h.bill, clean_openJournal pid h.clean.lines, h.effects, h.seals⟩, .refl _ _⟩

theorem drive_interfere (hr : Summed r) {es : List (Op × Fault SqlErr)}
    (hes : ∀ e ∈ es, Outside (storeKey r) e.1) (h : (driveContract c r files).inv w) :
    (driveContract c r files).inv (es.foldl (fun w e => happen (.store e.1 e.2) w) w) ∧
      Goes c r w (es.foldl (fun w e => happen (.store e.1 e.2) w) w) := by
  induction es generalizing w with
  | nil => exact ⟨h, .refl _ _, id⟩
  | cons e es ih =>
    have hbill := bill_outside hr h.1.bill (hes e List.mem_cons_self) e.2
    have hnext : (driveContract c r files).inv (happen (.store e.1 e.2) w) :=
      ⟨inv_store h.1 hbill, h.2⟩
    obtain ⟨hinv, hle⟩ := ih (fun e' he' => hes e' (List.mem_cons_of_mem e he')) hnext
    exact ⟨hinv, hbill.2.trans hle.1, hle.2⟩

end Environment

/-- One bill at most, with the journaled payload; no seal before the bill and the release; and a
re-drive that does not fail seals. -/
structure BilledOnce (c : Codec) (o : Options) (x : AfterCommit) (w : World) : Prop where
  once : w.db.usage.countWhere (fun u => decide (u.key = storeKey x.record)) ≤ 1
  payload : ∀ u ∈ w.db.usage.rows, u.key = storeKey x.record → Carries x.record u
  done : Sealed c x.record w →
    Billed (storeKey x.record) w.db ∧ Released (storeKey x.record) w.db
  redriven : Accepted x.record → ∀ rec, Holds c w.files.disk rec → rec.kind = .effect →
    rec.key = x.record.key → ∀ e, Whole e →
    (∀ result, (writeSeal c o e rec.key result w.files).1 = none) →
    ∀ es, (∀ n, ∀ p ∈ es n, Outside (storeKey x.record) p.1) → ∀ now,
      let out := Contract.alone (fun y => exec c o y { file := e }) (interfere es)
        (redriveSettlementEffect rec now .ret) 0 w
      EndsSealed c x.record out.1 out.2

section Run
variable {ι : Type} [DecidableEq ι] {c : Codec} {o : Options} {x : AfterCommit} {w : World}

theorem summed_record (x : AfterCommit) : Summed x.record := rfl

theorem billedOnce_of_inv (h : Inv c x.record w) : BilledOnce c o x w where
  once := Table.countWhere_key_le w.db.usage _
  payload u hu hkey := h.bill.row u (Table.find?_eq_some.mpr ⟨hu, hkey⟩)
  done := fun ⟨rec, hrec, hk, hkey⟩ => h.seals rec hrec hk hkey
  redriven ha rec hrec hk hkey e he hseal es hes now := by
    rw [hkey] at hseal
    have hr := summed_record x
    refine Contract.alone_safe (drive_safe hr rfl ha (h.effects rec hrec hk hkey) now)
      ⟨h, Or.inl rfl⟩ ?_ ?_ 0
    · exact fun y w' hinv hy => drive_kept hr he hseal y hinv hy
    · exact fun n w' hinv => drive_interfere hr (hes n) hinv

/-- **One bill for each response**, over a `settleAfterCommit`, recovery passes, other requests, the
reaper and restarts, from a store without a bill of it. -/
theorem billedOnce_of_reaches {threads : ι → Thread} {w₀ : World} {p : Runs ι}
    (hthreads : ∀ i y, threads i = .settle y → storeKey y.record = storeKey x.record → y = x)
    (hwindow : ∀ q, w₀.db.quota.find? (storeKey x.record) = some q → q.windowDate = x.window)
    (hunbilled : w₀.db.usage.find? (storeKey x.record) = none) (hclean : Clean w₀.files)
    (hjournal : ∀ rec, Holds c w₀.files.disk rec → rec.key ≠ x.record.key)
    (h : Reaches (step c o) (fun _ a => Assumed (storeKey x.record) a) (start threads w₀) p) :
    BilledOnce c o x p.state := by
  have hr := summed_record x
  have hinv₀ : Inv c x.record w₀ := by
    refine ⟨⟨fun u hu => ?_, hwindow⟩, hclean, fun rec hrec _ hkey => ?_, fun rec hrec _ hkey => ?_⟩
    · rw [hunbilled] at hu
      cases hu
    · exact absurd hkey (hjournal rec hrec)
    · exact absurd hkey (hjournal rec hrec)
  have hsafe : ∀ i, (contract c x.record).Safe i anywhere (threads i).prog w₀ := by
    refine fun i => safe_thread hr rfl fun y hy hkey => ?_
    rw [hthreads i y hy hkey]
    exact Stamps.refl _
  have hpool := Contract.pool_safe (K := contract c x.record) h hinv₀ hsafe ?_
    fun p e hok hinv => (inv_happen hr hinv hok).imp_right fun h _ => h
  · exact billedOnce_of_inv hpool.1
  · intro p i f y k hok _ hinv hy
    have hkept := exec_kept (o := o) (i := i) hr hok y hinv hy
    exact ⟨hkept.inv, hkept.post, fun _ _ => hkept.post.1⟩

end Run

/-! ### A process that stops between the bill and the refund -/

/-- A request that was answered. -/
def answered : AfterCommit where
  accountID := "acct"
  requestID := "req"
  demoIdentity := ""
  demoTokenHash := ""
  promptTokens := 3
  completionTokens := 4
  maxTotal := 100
  source := "provider_reported"
  outcome := "completed"
  reservationWindow := "2026-01-01"
  now n := seconds (1767225600 + n)

/-- Its reservation. -/
def reserved : QuotaRow where
  key := storeKey answered.record
  windowDate := "2026-01-01"
  reservedTokens := 100
  settledTokens := 0
  status := .active
  settlementHold := false
  expiresAt := seconds (1767225600 + 3600)
  createdAt := seconds 1767225600
  settledAt := none

/-- The store when the answer is out. -/
def answeredWorld : World where
  db := { Db.empty with quota := (Table.empty.insert reserved).getD Table.empty }
  files := openJournal Table.empty 7
  attempts _ := 0

/-- The request, and a recovery pass a day later. -/
def requestAndPass : Bool → Thread
  | true => .settle answered
  | false => .recover ⟨100, 0, 0, seconds (1767225600 + 86400), fun _ => false,
      fun _ n => seconds (1767225600 + 86400 + n)⟩

/-- The usage event is written and the process stops; the next one seals. -/
def stopped : List (Act Bool Event Faults) :=
  [.call true { file := secondsIn 0 },
    .call true { store := .call 0 .canceled, file := secondsIn 0 },
    .call true { file := secondsIn 0 }, .env (.restart 8),
    .env (.store (.reapExpiredReservations 0 (some (seconds (1767225600 + 7200)))) .none)] ++
  List.replicate 7 (.call false { file := secondsIn 1 })

/-- A codec for its records. -/
def answeredCodec : Codec :=
  .indexed [stamped (secondsIn 0) answered.record,
    stamped (secondsIn 1) (sealRecord answered.record.key .usageEvent)]

/-- The state behind all that. -/
def stoppedWorld : World :=
  (run (step answeredCodec tiny) (start requestAndPass answeredWorld) stopped).state

theorem billedOnce_stopped :
    BilledOnce answeredCodec tiny answered stoppedWorld ∧ stoppedWorld.db.usage.rows.length = 1 ∧
      (scanned answeredCodec stoppedWorld.files.disk).sealed = [answered.record.key] := by
  have hreap : Outside (storeKey answered.record)
      (.reapExpiredReservations 0 (some (seconds (1767225600 + 7200)))) := ⟨nofun, nofun⟩
  have hallowed : ∀ a ∈ stopped, Assumed (storeKey answered.record) a := by
    simp [stopped, Assumed, Whole, secondsIn, hreap]
  have hreach : Reaches (step answeredCodec tiny)
      (fun _ a => Assumed (storeKey answered.record) a) (start requestAndPass answeredWorld)
      (run (step answeredCodec tiny) (start requestAndPass answeredWorld) stopped) :=
    reaches_of_allowed (allowed_of_forall hallowed)
  refine ⟨billedOnce_of_reaches ?_ ?_ rfl ?_ ?_ hreach, by decide +kernel, by decide +kernel⟩
  · intro i y hy _
    cases i
    · cases hy
    · exact (Thread.settle.inj hy).symm
  · intro q hq
    cases hq
    rfl
  · exact clean_openJournal 7 nofun
  · rintro rec ⟨s, hs, -⟩
    cases hs

end MacProvider.Gateway.Router.Redrive
