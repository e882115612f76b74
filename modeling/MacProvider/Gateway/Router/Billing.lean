import MacProvider.Gateway.Router.Ladder

/-! # The bill of one effect

For one journaled effect `r`: what the store has of it (`Bill`), how that moves (`Advance`), and the
contract of the calls of the ladder (`contract`). A seal of `r` needs the usage row and no active
reservation. -/

namespace MacProvider.Gateway.Router.Billing

open Gateway.Time Store.Schema Store.Ops Store.Effects Store.Usage Store.Steps Gateway.Settlement
open Settlement.Format Settlement.Append Settlement.Contents Router.Ladder Lib.Tables Lib.Rely
open Lib.Transactions (Fault)

/-! ### The store -/

/-- The usage row has the payload of the effect. -/
structure Carries (r : Record) (u : UsageRow) : Prop where
  window : u.windowDate = r.windowDate
  prompt : u.promptTokens = r.promptTokens
  completion : u.completionTokens = r.completionTokens
  total : u.totalTokens = r.totalTokens
  source : u.tokenSource = r.tokenSource
  outcome : u.outcome = r.outcome
  demo : u.demoIdentity = r.demoIdentity

/-- The total is that of the parts. -/
def Summed (r : Record) : Prop := r.totalTokens = wrap64 (r.promptTokens + r.completionTokens)

/-- The key has a usage row. -/
def Billed (k : Store.Schema.Key) (db : Db) : Prop := db.usage.find? k ≠ none

/-- The key has no active reservation. -/
def Released (k : Store.Schema.Key) (db : Db) : Prop :=
  ∀ q, db.quota.find? k = some q → q.status ≠ .active

/-- What the store has of the effect. -/
structure Bill (r : Record) (db : Db) : Prop where
  row : ∀ u, db.usage.find? (storeKey r) = some u → Carries r u
  window : ∀ q, db.quota.find? (storeKey r) = some q → q.windowDate = r.windowDate

/-- How the bill moves. -/
structure Advance (k : Store.Schema.Key) (db db' : Db) : Prop where
  billed : Billed k db → Billed k db'
  released : Released k db → Released k db'

theorem Advance.refl (k : Store.Schema.Key) (db : Db) : Advance k db db := ⟨id, id⟩

theorem Advance.trans {k : Store.Schema.Key} {db db' db'' : Db} (h : Advance k db db')
    (h' : Advance k db' db'') : Advance k db db'' :=
  ⟨h'.billed ∘ h.billed, h'.released ∘ h.released⟩

/-- The settlement is that of the effect. -/
structure Settling (r : Record) (s : ReservationSettlement) (demoIdentity : String) : Prop where
  prompt : s.promptTokens = r.promptTokens
  completion : s.completionTokens = r.completionTokens
  source : s.tokenSource = r.tokenSource
  outcome : s.outcome = r.outcome
  demo : demoIdentity = r.demoIdentity

/-- It neither reserves the key nor settles it otherwise. -/
structure Fair (r : Record) (op : Op) : Prop where
  reserve : ∀ clock req, op = .reserveQuota clock req → req.key ≠ storeKey r
  settle : ∀ s, op.settlement = some s → s.key = storeKey r → Settling r s op.demoIdentity

section Store
variable {r : Record} {db db' : Db}

theorem bill_of_same (h : Bill r db)
    (hu : db'.usage.find? (storeKey r) = db.usage.find? (storeKey r))
    (hq : db'.quota.find? (storeKey r) = db.quota.find? (storeKey r)) :
    Bill r db' ∧ Advance (storeKey r) db db' := by
  refine ⟨⟨fun u h' => h.row u (hu ▸ h'), fun q h' => h.window q (hq ▸ h')⟩, ⟨fun hb => ?_, ?_⟩⟩
  · rw [Billed, hu]
    exact hb
  · exact fun hrel q h' => hrel q (hq ▸ h')

theorem bill_update {p : QuotaRow → Bool} {f : QuotaRow → QuotaRow} {hf : ∀ q, (f q).key = q.key}
    (h : Bill r db) (quiet : ∀ q, p q = true → Quiet q (f q)) :
    Bill r (withUpdate db p f hf) ∧ Advance (storeKey r) db (withUpdate db p f hf) := by
  have hq : ∀ q', (withUpdate db p f hf).quota.find? (storeKey r) = some q' →
      ∃ q, db.quota.find? (storeKey r) = some q ∧ (if p q then f q else q) = q' := by
    intro q' h'
    rw [find?_withUpdate] at h'
    exact Option.map_eq_some_iff.mp h'
  refine ⟨⟨h.row, fun q' h' => ?_⟩, ⟨id, fun hrel q' h' => ?_⟩⟩
  · obtain ⟨q, hfind, rfl⟩ := hq q' h'
    split_ifs with hp
    · exact (quiet q hp).window.trans (h.window q hfind)
    · exact h.window q hfind
  · obtain ⟨q, hfind, rfl⟩ := hq q' h'
    split_ifs with hp
    · exact absurd (quiet q hp).active (hrel q hfind)
    · exact hrel q hfind

variable {clock : Instant} {s : ReservationSettlement} {demoIdentity : String} {q : QuotaRow}
  {total : ℤ} {usage : Table UsageRow.key} {d : DemoUsageEvent} {k : Store.Schema.Key}

theorem carries_usage (hr : Summed r) (h : Bill r db)
    (hkey : s.key = storeKey r) (hs : Settling r s demoIdentity)
    (hS : Settles clock s demoIdentity db q total usage) :
    Carries r (s.usage demoIdentity q.windowDate total (s.settledAt.getD clock)) := by
  have htotal : 0 ≤ s.promptTokens ∧ 0 ≤ s.completionTokens ∧
      s.promptTokens + s.completionTokens ≤ maxInt64 ∧
      total = s.promptTokens + s.completionTokens := by
    have htokens := hS.tokens
    unfold normalizeSettlementTokens at htokens
    dsimp only at htokens
    split_ifs at htokens with h1 h2 h3 h4
    cases htokens
    omega
  refine ⟨h.window q (hkey ▸ hS.found), hs.prompt, hs.completion, ?_, hs.source, hs.outcome,
    hs.demo⟩
  rw [hr, ← hs.prompt, ← hs.completion, wrap64_of_range (by omega) htotal.2.2.1]
  exact htotal.2.2.2

theorem settledDb_done {settledAt : Instant}
    {demo : Table DemoUsageRow.key} (hS : Settles clock s demoIdentity db q total usage) :
    Billed s.key { settledDb db s total settledAt usage with demo := demo } ∧
      Released s.key { settledDb db s total settledAt usage with demo := demo } := by
  constructor
  · have hfind : usage.find? s.key = some _ :=
      (Table.find?_insert hS.inserted s.key).trans (if_pos rfl)
    exact fun h => Option.some_ne_none _ (hfind.symm.trans h)
  · intro q' h'
    rw [find?_settled, hS.found, Option.map_some,
      if_pos (by simpa using Table.key_of_find? hS.found)] at h'
    cases h'
    exact nofun

/-- **Every fair method keeps the bill.** -/
theorem bill_op {op : Op} (hr : Summed r) (h : Bill r db) (hop : Fair r op) (f : Fault SqlErr) :
    Bill r (op.run f db) ∧ Advance (storeKey r) db (op.run f db) := by
  have heffect := run_effect f db op
  generalize op.run f db = db' at heffect
  cases heffect with
  | same => exact ⟨h, .refl _ _⟩
  | update quiet => exact bill_update h quiet
  | @delete p closed =>
    have hq : ∀ q, (db.quota.delete p).find? (storeKey r) = some q →
        db.quota.find? (storeKey r) = some q := fun q h' => by
      rw [Table.find?_delete] at h'
      exact (Option.filter_eq_some_iff.mp h').1
    exact ⟨⟨h.row, fun q h' => h.window q (hq q h')⟩, ⟨id, fun hrel q h' => hrel q (hq q h')⟩⟩
  | @reserve clock req now t called inserted check admits =>
    obtain ⟨hreap, hadv⟩ := @bill_update r db _ _ (close_key .expired now) h
      fun q hq => quiet_reap hq
    have hne := hop.reserve clock req called
    obtain ⟨hbill, hadv'⟩ := @bill_of_same r _ { reaped now db with quota := t } hreap rfl
      ((Table.find?_insert inserted _).trans (if_neg hne))
    exact ⟨hbill, hadv.trans hadv'⟩
  | @settle clock s q total usage demo called settles =>
    by_cases hkey : s.key = storeKey r
    · obtain ⟨hbilled, hreleased⟩ := @settledDb_done db clock s _ q total usage
        (s.settledAt.getD clock) demo settles
      rw [hkey] at hbilled hreleased
      refine ⟨⟨fun u hu => ?_, fun q' hq' => ?_⟩, ⟨fun _ => hbilled, fun _ => hreleased⟩⟩
      · have hrow : usage.find? (storeKey r) = some _ :=
          (Table.find?_insert settles.inserted _).trans (if_pos hkey)
        obtain rfl := Option.some.inj (hrow.symm.trans hu)
        exact carries_usage hr h hkey (hop.settle s called hkey) settles
      · rw [find?_settled] at hq'
        obtain ⟨q₀, hq₀, rfl⟩ := Option.map_eq_some_iff.mp hq'
        have hwindow := h.window q₀ hq₀
        split_ifs <;> exact hwindow
    · refine bill_of_same h ((Table.find?_insert settles.inserted _).trans (if_neg hkey)) ?_
      exact onlyTouches_settledDb db s total (s.settledAt.getD clock) usage _ (Ne.symm hkey)

theorem settleReservation_done {f : Fault SqlErr}
    (h : ((settleReservation 0 s).run f db).1 = none) :
    Billed s.key ((settleReservation 0 s).run f db).2 ∧
      Released s.key ((settleReservation 0 s).run f db).2 := by
  rcases settleReservation_cases 0 s f db with
    ⟨e, heq⟩ | ⟨res, w, heq, q, total, usage, hS, -, rfl⟩
  · rw [heq] at h
    cases h
  · rw [heq]
    exact settledDb_done hS

theorem settleDemoReservation_done
    {f : Fault SqlErr} (h : ((settleDemoReservation 0 s d).run f db).1 = none) :
    Billed s.key ((settleDemoReservation 0 s d).run f db).2 ∧
      Released s.key ((settleDemoReservation 0 s d).run f db).2 := by
  rcases settleDemoReservation_cases 0 s d f db with
    ⟨e, heq⟩ | ⟨res, w, heq, q, total, usage, t, hS, -, rfl⟩
  · rw [heq] at h
    cases h
  · rw [heq]
    exact settledDb_done hS

theorem released_of_countWhere (h : db.quota.countWhere (isActive k) = 0) : Released k db := by
  intro q hq hactive
  obtain ⟨hrow, hkey⟩ := Table.find?_eq_some.mp hq
  have hmem : q ∈ db.quota.rows.filter (isActive k) :=
    List.mem_filter.mpr ⟨hrow, by simp [isActive, hkey, hactive]⟩
  rw [List.length_eq_zero_iff.mp h] at hmem
  cases hmem

theorem refundReservation_done {t : ℕ} {f : Fault SqlErr}
    (h : released ((refundReservation k t).run f db).1 = true) :
    Released k ((refundReservation k t).run f db).2 := by
  unfold refundReservation at h ⊢
  rcases closeReservation_cases (isActive k) (fun q => QuotaRow.close q .refunded (seconds t))
    (close_key .refunded (seconds t)) f db with ⟨_, heq, e, rfl, he⟩ | ⟨res, w, heq, rfl, -⟩
  · rw [heq] at h ⊢
    rcases he with ⟨s, rfl⟩ | hcount
    · cases h
    · exact released_of_countWhere hcount
  · rw [heq]
    intro q' hq'
    rw [find?_withUpdate] at hq'
    obtain ⟨q, hq, rfl⟩ := Option.map_eq_some_iff.mp hq'
    split_ifs with hp
    · exact nofun
    · intro hactive
      exact hp (by simp [isActive, Table.key_of_find? hq, hactive])

theorem bill_insertOrIgnore {u : UsageRow} {f : Fault SqlErr} (h : Bill r db)
    (hu : u.key = storeKey r → Carries r u) :
    (Bill r (execContext (insertOrIgnoreUsage u) f db).2 ∧
      Advance (storeKey r) db (execContext (insertOrIgnoreUsage u) f db).2) ∧
    ∀ n, (execContext (insertOrIgnoreUsage u) f db).1 = .ok n → 0 < n →
      Billed u.key (execContext (insertOrIgnoreUsage u) f db).2 := by
  rcases execContext_cases (insertOrIgnoreUsage u) f db with ⟨e, heq⟩ | ⟨db', b, res, hs, heq, hres⟩
  · rw [heq]
    exact ⟨⟨h, .refl _ _⟩, fun n hn => by cases hn⟩
  rw [heq]
  rcases insertOrIgnoreUsage_cases u db with ⟨t, ht, hi⟩ | ⟨-, hi⟩
  · cases hs.symm.trans hi
    have hfind : ∀ k, t.find? k = if u.key = k then some u else db.usage.find? k :=
      Table.find?_insert ht
    refine ⟨?_, fun n _ _ => ?_⟩
    · by_cases hk : u.key = storeKey r
      · have hrow : t.find? (storeKey r) = some u := (hfind _).trans (if_pos hk)
        refine ⟨⟨fun u' hu' => ?_, h.window⟩, ⟨fun _ hn => ?_, id⟩⟩
        · obtain rfl := Option.some.inj (hrow.symm.trans hu')
          exact hu hk
        · exact Option.some_ne_none u (hrow.symm.trans hn)
      · exact bill_of_same h ((hfind _).trans (if_neg hk)) rfl
    · exact fun hn => Option.some_ne_none u (((hfind _).trans (if_pos rfl)).symm.trans hn)
  · cases hs.symm.trans hi
    refine ⟨⟨h, .refl _ _⟩, fun n hn hpos => ?_⟩
    rcases hres with rfl | ⟨e, rfl⟩
    · cases hn
      omega
    · cases hn

theorem bill_ensureDemo {f : Fault SqlErr} (h : Bill r db) :
    Bill r (execContext (Store.Usage.ensureDemoUsageEvent 0 d) f db).2 ∧
      Advance (storeKey r) db (execContext (Store.Usage.ensureDemoUsageEvent 0 d) f db).2 := by
  rcases execContext_cases (Store.Usage.ensureDemoUsageEvent 0 d) f db with
    ⟨e, heq⟩ | ⟨db', b, res, hs, heq, -⟩ <;> rw [heq]
  · exact ⟨h, .refl _ _⟩
  · obtain ⟨t, n, hi⟩ := ensureDemoUsageEvent_cases 0 d db
    cases hs.symm.trans hi
    exact bill_of_same h rfl rfl

theorem execContext_selectUsage (k : Store.Schema.Key) (f : Fault SqlErr) :
    (execContext (Store.Usage.selectUsage k) f db).2 = db ∧
      ∀ u, (execContext (Store.Usage.selectUsage k) f db).1 = .ok u → u = db.usage.find? k := by
  rcases execContext_cases (Store.Usage.selectUsage k) f db with
    ⟨e, heq⟩ | ⟨db', b, res, hs, heq, hres⟩ <;> rw [heq]
  · exact ⟨rfl, fun u hu => by cases hu⟩
  · cases hs
    refine ⟨rfl, fun u hu => ?_⟩
    rcases hres with rfl | ⟨e, rfl⟩
    · cases hu
      rfl
    · cases hu

end Store

/-! ### The contract of the calls -/

/-- The record is the effect `r`, as it was stamped. -/
def Stamps (r rec : Record) : Prop :=
  ∃ version writtenAt, rec = { r with version := version, writtenAtUnixMS := writtenAt }

/-- The bill, the journal, and what its records say. -/
structure Inv (c : Codec) (r : Record) (w : World) : Prop where
  bill : Bill r w.db
  clean : Clean w.files
  effects : ∀ rec, Holds c w.files.disk rec → rec.kind = .effect → rec.key = r.key → Stamps r rec
  seals : ∀ rec, Holds c w.files.disk rec → rec.kind = .seal → rec.key = r.key →
    Billed (storeKey r) w.db ∧ Released (storeKey r) w.db

/-- What a call needs. -/
def Needs (r : Record) : Call → World → Prop
  | .writeEffect rec, _ => (effectRecord rec).key = r.key → Stamps r (effectRecord rec)
  | .writeSeal k _, w => k = r.key → Billed (storeKey r) w.db ∧ Released (storeKey r) w.db
  | .settleReservation s, _ => s.key = storeKey r → Settling r s ""
  | .settleDemoReservation s d, _ => s.key = storeKey r → Settling r s d.clientIP
  | .insertOrIgnoreUsage ev, _ => ev.key = storeKey r → Carries r (ev.row 0)
  | _, _ => True

/-- What its answer says. -/
def Gives (r : Record) : (x : Call) → Answer x → World → Prop
  | .scan, res, _ => ∀ s, res = some s → ∀ rec ∈ s.unsealed, rec.kind = .effect ∧
      (rec.key = r.key → Stamps r rec)
  | .settleReservation s, res, w => s.key = storeKey r → res = none →
      Billed (storeKey r) w.db ∧ Released (storeKey r) w.db
  | .settleDemoReservation s _, res, w => s.key = storeKey r → res = none →
      Billed (storeKey r) w.db ∧ Released (storeKey r) w.db
  | .insertOrIgnoreUsage ev, res, w => ev.key = storeKey r → ∀ n, res = .ok n → 0 < n →
      Billed (storeKey r) w.db
  | .selectUsage k, res, w => k = storeKey r → ∀ u, res = .ok (some u) → Billed (storeKey r) w.db
  | .refundReservation k _, res, w => k = storeKey r → released res = true →
      Released (storeKey r) w.db
  | _, _, _ => True

/-- The contract under any faults. -/
def contract {ι : Type} (c : Codec) (r : Record) : Contract ι Answer World where
  inv := Inv c r
  rely _ w w' := Advance (storeKey r) w.db w'.db
  pre _ := Needs r
  post _ x res w w' := Advance (storeKey r) w.db w'.db ∧ Gives r x res w'
  refl _ w := .refl _ w.db
  trans _ _ _ _ := Advance.trans
  stable _ x w w' h hle := by
    cases x with
    | writeSeal k result => exact fun hk => ⟨hle.billed (h hk).1, hle.released (h hk).2⟩
    | _ => exact h

section Calls
variable {ι : Type} {i : ι} {c : Codec} {o : Options} {r : Record} {w : World} {f : Faults}

theorem inv_store (h : Inv c r w) {db : Db} (hdb : Bill r db ∧ Advance (storeKey r) w.db db) :
    Inv c r { w with db := db } :=
  ⟨hdb.1, h.clean, h.effects, fun rec hrec hk hkey =>
    ⟨hdb.2.billed (h.seals rec hrec hk hkey).1, hdb.2.released (h.seals rec hrec hk hkey).2⟩⟩

theorem inv_append (h : Inv c r w) (hf : Whole f.file) (rec : Record) (fsync : Bool)
    (heffect : rec.kind = .effect → rec.key = r.key → Stamps r rec)
    (hseal : rec.kind = .seal → rec.key = r.key →
      Billed (storeKey r) w.db ∧ Released (storeKey r) w.db) :
    Inv c r { w with files := (append c o f.file rec fsync w.files).2 } := by
  obtain ⟨hclean, hholds⟩ := append_contents c o rec fsync h.clean hf
  have hold : ∀ rec', Holds c (append c o f.file rec fsync w.files).2.disk rec' →
      Holds c w.files.disk rec' ∨ rec' = stamped f.file rec := by
    intro rec' hrec'
    rcases hholds with hiff | ⟨-, hiff⟩
    · exact (hiff rec').mp hrec'
    · exact Or.inl ((hiff rec').mp hrec')
  refine ⟨h.bill, hclean, fun rec' hrec' hk hkey => ?_, fun rec' hrec' hk hkey => ?_⟩
  · rcases hold rec' hrec' with hrec' | rfl
    · exact h.effects rec' hrec' hk hkey
    · obtain ⟨version, writtenAt, rfl⟩ := heffect hk hkey
      exact ⟨_, _, rfl⟩
  · rcases hold rec' hrec' with hrec' | rfl
    · exact h.seals rec' hrec' hk hkey
    · exact hseal hk hkey

/-- **Every call keeps the contract.** -/
theorem exec_kept (hr : Summed r) (hf : Whole f.file) (x : Call) (h : Inv c r w)
    (hx : Needs r x w) : (contract c r).Kept i w (exec c o x f w) := by
  cases x with
  | writeEffect rec =>
    exact ⟨inv_append h hf _ _ (fun _ hkey => hx hkey) (fun hk => by cases hk), .refl _ _, trivial⟩
  | writeSeal k result =>
    exact ⟨inv_append h hf _ _ (fun hk => by cases hk) (fun _ hkey => hx hkey), .refl _ _, trivial⟩
  | writeQuarantine k reason attempts =>
    exact ⟨inv_append h hf _ _ (fun hk => by cases hk) (fun hk => by cases hk), .refl _ _, trivial⟩
  | scan =>
    refine ⟨h, .refl _ _, fun s hs rec hrec => ?_⟩
    obtain ⟨hholds, hk⟩ := holds_of_unsealed hs hrec
    exact ⟨hk, h.effects rec hholds hk⟩
  | prune before =>
    obtain ⟨hclean, hholds⟩ := prune_contents c before f.prune h.clean
    exact ⟨⟨h.bill, hclean, fun rec hrec => h.effects rec (hholds rec hrec),
      fun rec hrec => h.seals rec (hholds rec hrec)⟩, .refl _ _, trivial⟩
  | settleReservation s =>
    have hop : Fair r (.settleReservation 0 s) :=
      ⟨nofun, fun s' hs' hkey => by cases hs'; exact hx hkey⟩
    have hbill := bill_op hr h.bill hop f.store
    refine ⟨inv_store h hbill, hbill.2, fun hkey hnone => ?_⟩
    exact hkey ▸ settleReservation_done hnone
  | settleDemoReservation s d =>
    have hop : Fair r (.settleDemoReservation 0 s d) :=
      ⟨nofun, fun s' hs' hkey => by cases hs'; exact hx hkey⟩
    have hbill := bill_op hr h.bill hop f.store
    refine ⟨inv_store h hbill, hbill.2, fun hkey hnone => ?_⟩
    exact hkey ▸ settleDemoReservation_done hnone
  | insertOrIgnoreUsage ev =>
    obtain ⟨hbill, hbilled⟩ := @bill_insertOrIgnore r w.db (ev.row 0) f.store h.bill hx
    exact ⟨inv_store h hbill, hbill.2, fun hkey n hn hpos => hkey ▸ hbilled n hn hpos⟩
  | selectUsage k =>
    obtain ⟨hsame, hfind⟩ := @execContext_selectUsage w.db k f.store
    have hbill : Bill r (execContext (Store.Usage.selectUsage k) f.store w.db).2 ∧
        Advance (storeKey r) w.db (execContext (Store.Usage.selectUsage k) f.store w.db).2 := by
      rw [hsame]
      exact ⟨h.bill, .refl _ _⟩
    refine ⟨inv_store h hbill, hbill.2, fun hkey u hu hnone => ?_⟩
    have hrow := hfind _ hu
    have hnone' : w.db.usage.find? k = none := by
      rw [hkey, ← hsame]
      exact hnone
    exact Option.some_ne_none u (hrow.trans hnone')
  | ensureDemoUsageEvent d =>
    have hbill := @bill_ensureDemo r w.db d f.store h.bill
    exact ⟨inv_store h hbill, hbill.2, trivial⟩
  | refundReservation k t =>
    have hop : Fair r (.refundReservation k t) := ⟨nofun, nofun⟩
    have hbill := bill_op hr h.bill hop f.store
    exact ⟨inv_store h hbill, hbill.2, fun hkey hrel => hkey ▸ refundReservation_done hrel⟩
  | nextAttempt k => exact ⟨⟨h.bill, h.clean, h.effects, h.seals⟩, .refl _ _, trivial⟩
  | clearAttempts k => exact ⟨⟨h.bill, h.clean, h.effects, h.seals⟩, .refl _ _, trivial⟩

theorem safe_call {α : Type} {Q : α → World → Prop} {x : Call}
    {k : Answer x → Lib.Calls.Prog Answer α} (hx : Needs r x w)
    (hk : ∀ res w', Advance (storeKey r) w.db w'.db → Gives r x res w' →
      (contract c r).Safe i Q (k res) w') : (contract c r).Safe i Q (.call x k) w :=
  ⟨hx, fun _ res w' hle _ _ h => hk res w' (hle.trans h.1) h.2⟩

end Calls

end MacProvider.Gateway.Router.Billing
