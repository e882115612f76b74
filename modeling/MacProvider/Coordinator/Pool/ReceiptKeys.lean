import MacProvider.Coordinator.Pool.Registry
import Mathlib.Tactic.Common

/-! # Receipt keys of a provider

The key that a session publishes, the one that waits for the first state update, and the previous
one with its grace period (`internal/pool/provider.go`). `rotations_continue`: when a rotated key
stays published for its grace period. -/

namespace MacProvider.Coordinator.Pool.ReceiptKeys

open Lib.Runs Pool.Registry

/-! ### Keys -/

/-- The bytes of a key; none if there is no key. -/
abbrev Key := List UInt8

/-- The previous key. -/
structure ReceiptPubkeyPrevious where
  pubkey : Key
  rotatedAt : ℤ
  expiresAt : ℤ

/-- Seven days. -/
def receiptRotationGrace : ℤ := 604800000000000

/-- The keys of a session. -/
structure Keys where
  receiptPubkey : Key
  pendingReceiptPubkey : Key
  receiptPubkeyPrev : Option ReceiptPubkeyPrevious

/-- `activeReceiptPubkeyPrev`. -/
def active (prev : Option ReceiptPubkeyPrevious) (now : ℤ) : Option ReceiptPubkeyPrevious :=
  prev.filter fun x => now < x.expiresAt

/-- **`stageReceiptPublicationLocked`**; `none` refuses. -/
def stageReceiptPublication (existing : Option Keys) (incomingKey : Key)
    (incomingPrev : Option ReceiptPubkeyPrevious) (now : ℤ) : Option Keys :=
  match existing with
  | none =>
    match active incomingPrev now with
    | some prev => some ⟨incomingKey, [], some prev⟩
    | none => some ⟨[], incomingKey, none⟩
  | some e =>
    if incomingKey = [] then some ⟨[], [], none⟩
    else if e.receiptPubkey = [] then
      if e.pendingReceiptPubkey ≠ [] then
        if e.pendingReceiptPubkey = incomingKey then some ⟨[], e.pendingReceiptPubkey, none⟩
        else none
      else some ⟨[], incomingKey, none⟩
    else if e.receiptPubkey = incomingKey then
      some ⟨e.receiptPubkey, [], active e.receiptPubkeyPrev now⟩
    else if e.pendingReceiptPubkey ≠ [] then
      if e.pendingReceiptPubkey = incomingKey then
        some ⟨e.receiptPubkey, e.pendingReceiptPubkey, active e.receiptPubkeyPrev now⟩
      else none
    else if (active e.receiptPubkeyPrev now).isSome then none
    else some ⟨e.receiptPubkey, incomingKey, none⟩

/-- The waiting key is published. -/
def commitPendingReceiptPubkey (k : Keys) (now : ℤ) : Keys :=
  let prev := active k.receiptPubkeyPrev now
  if k.pendingReceiptPubkey = [] then { k with receiptPubkeyPrev := prev }
  else
    { receiptPubkey := k.pendingReceiptPubkey
      pendingReceiptPubkey := []
      receiptPubkeyPrev :=
        if k.receiptPubkey ≠ [] ∧ k.receiptPubkey ≠ k.pendingReceiptPubkey then
          some ⟨k.receiptPubkey, now, now + receiptRotationGrace⟩
        else prev }

/-! ### The session of a provider -/

/-- An entry, with the published keys. -/
structure Slot where
  entry : Entry
  receiptPubkey : Key
  receiptPubkeyPrev : Option ReceiptPubkeyPrevious

/-- The keys of its session. -/
def Slot.keys (s : Slot) : Option Keys :=
  s.entry.provider.map fun p => ⟨s.receiptPubkey, p.pendingReceiptPubkey, s.receiptPubkeyPrev⟩

/-- With its key, and the previous one. -/
def Slot.registerAtDetailed (s : Slot) (p : Provider) (key : Key)
    (prev : Option ReceiptPubkeyPrevious) (now : ℤ) : Slot × Bool :=
  let staged := stageReceiptPublication s.keys key prev now
  let r := s.entry.register p (staged.map fun k => k.pendingReceiptPubkey)
  match staged with
  | some k => if r.2 then (⟨r.1, k.receiptPubkey, k.receiptPubkeyPrev⟩, true) else (s, false)
  | none => (s, false)

/-- A state update commits the waiting key. -/
def Slot.applyStateUpdate (s : Slot) (assignedID : String) (update : Entry.StateUpdate)
    (now : ℤ) : Slot × Bool :=
  match s.entry.current assignedID with
  | none => (s, false)
  | some p =>
    let k := commitPendingReceiptPubkey
      ⟨s.receiptPubkey, p.pendingReceiptPubkey, s.receiptPubkeyPrev⟩ now
    (⟨(s.entry.applyStateUpdate assignedID update).1, k.receiptPubkey, k.receiptPubkeyPrev⟩, true)

/-- A removal forgets the keys. -/
def Slot.removeIfSession (s : Slot) (assignedID : String) : Slot × Bool :=
  match s.entry.current assignedID with
  | none => (s, false)
  | some _ => (⟨(s.entry.removeIfSession assignedID).1, [], none⟩, true)

/-- Key and previous key at a time. -/
def Slot.published (s : Slot) (now : ℤ) : Option (Key × Option Key) :=
  s.keys.map fun k => (k.receiptPubkey, (active k.receiptPubkeyPrev now).map fun x => x.pubkey)

/-! ### Runs -/

/-- A key took the place of another one. -/
structure Rotation where
  old : Key
  new : Key
  time : ℤ
deriving DecidableEq

/-- The slot, the time, the last key and the rotations. -/
structure World where
  slot : Slot
  now : ℤ
  last : Key
  rotations : List Rotation

/-- No session, no key. -/
def World.init (sanction : Option CanarySanction) (now : ℤ) : World :=
  ⟨⟨⟨none, [], none, sanction, none⟩, [], none⟩, now, [], []⟩

/-- The methods. -/
inductive Op
  | registerAtDetailed (p : Provider) (key : Key) (prev : Option ReceiptPubkeyPrevious)
  | applyStateUpdate (assignedID : String) (update : Entry.StateUpdate)
  | removeIfSession (assignedID : String)

/-- One of them. -/
def Op.apply (s : Slot) (now : ℤ) : Op → Slot
  | .registerAtDetailed p key prev => (s.registerAtDetailed p key prev now).1
  | .applyStateUpdate assignedID update => (s.applyStateUpdate assignedID update now).1
  | .removeIfSession assignedID => (s.removeIfSession assignedID).1

/-- A call; a new published key is noted. -/
def step (w : World) (call : ℤ × Op) : World :=
  let slot := call.2.apply w.slot call.1
  let key := slot.receiptPubkey
  if key = [] ∨ key = w.last then { w with slot, now := call.1 }
  else if w.last = [] then ⟨slot, call.1, key, w.rotations⟩
  else ⟨slot, call.1, key, ⟨w.last, key, call.1⟩ :: w.rotations⟩

/-- The clock does not go back. -/
def Timely (w : World) (call : ℤ × Op) : Prop := w.now ≤ call.1

/-- **Continuity**: while its grace period lasts, a rotation publishes both keys. -/
def Continuous (w : World) : Prop :=
  ∀ r ∈ w.rotations, ∀ now, w.now ≤ now → now < r.time + receiptRotationGrace →
    ∀ shown ∈ w.slot.published now, shown = (r.new, some r.old)

/-- Publishing sessions are not removed, nor replaced without a key. -/
def Remembers (w : World) (call : ℤ × Op) : Prop :=
  match call.2 with
  | .registerAtDetailed p key prev =>
    w.slot.receiptPubkey ≠ [] → key = [] → (w.slot.registerAtDetailed p key prev call.1).2 = false
  | .applyStateUpdate .. => True
  | .removeIfSession assignedID =>
    w.slot.receiptPubkey ≠ [] → (w.slot.removeIfSession assignedID).2 = false

instance (w : World) (call : ℤ × Op) : Decidable (Timely w call) :=
  inferInstanceAs (Decidable (_ ≤ _))

instance : ∀ (w : World) (call : ℤ × Op), Decidable (Remembers w call)
  | _, (_, .registerAtDetailed ..) => inferInstanceAs (Decidable (_ → _ → _))
  | _, (_, .applyStateUpdate ..) => inferInstanceAs (Decidable True)
  | _, (_, .removeIfSession _) => inferInstanceAs (Decidable (_ → _))

/-! ### Staging and committing -/

variable {prev : Option ReceiptPubkeyPrevious} {now : ℤ} {p : Provider} {key : Key}
  {aid : String} {w : World} {call : ℤ × Op} {slot : Slot}

theorem active_eq_some {x : ReceiptPubkeyPrevious} :
    active prev now = some x ↔ prev = some x ∧ now < x.expiresAt := by
  simp [active, Option.filter_eq_some_iff]

theorem active_none_of_le {later : ℤ} (h : active prev now = none) (hle : now ≤ later) :
    active prev later = none := by
  rw [Option.eq_none_iff_forall_ne_some] at h ⊢
  intro x hx
  obtain ⟨hprev, hlt⟩ := active_eq_some.mp hx
  exact h x (active_eq_some.mpr ⟨hprev, Int.lt_of_le_of_lt hle hlt⟩)

theorem active_active : active (active prev now) now = active prev now := by
  simp [active]

theorem stage_published {e k : Keys} (hpub : e.receiptPubkey ≠ []) (hkey : key ≠ [])
    (h : stageReceiptPublication (some e) key prev now = some k) :
    k.receiptPubkey = e.receiptPubkey ∧
      k.receiptPubkeyPrev = active e.receiptPubkeyPrev now ∧
        (k.pendingReceiptPubkey ≠ [] →
          e.pendingReceiptPubkey ≠ [] ∨ active e.receiptPubkeyPrev now = none) := by
  simp only [stageReceiptPublication, hkey, hpub, if_false] at h
  split_ifs at h with hsame hpending hmatch hactive
  · cases h
    exact ⟨rfl, rfl, fun hne => absurd rfl hne⟩
  · cases h
    exact ⟨rfl, rfl, fun _ => Or.inl hpending⟩
  · cases h
    have hnone : active e.receiptPubkeyPrev now = none := by simpa using hactive
    exact ⟨rfl, hnone.symm, fun _ => Or.inr hnone⟩

theorem stage_unpublished {e : Option Keys} {k : Keys} (hpub : ∀ x ∈ e, x.receiptPubkey = [])
    (h : stageReceiptPublication e key prev now = some k) (hpending : k.pendingReceiptPubkey ≠ []) :
    k.receiptPubkeyPrev = none := by
  cases e with
  | none =>
    simp only [stageReceiptPublication] at h
    split at h <;> cases h
    · exact absurd rfl hpending
    · rfl
  | some x =>
    simp only [stageReceiptPublication, hpub x rfl, if_true] at h
    split_ifs at h <;> cases h <;> rfl

theorem provider_setState (e : Entry) (p : Provider) (next : State) :
    (e.setState p next).provider = some { p with state := next } := by
  unfold Entry.setState
  split_ifs <;> rfl

theorem applyCanarySanction_pending {e : Entry} (h : e.provider = some p) :
    ∃ q, (e.applyCanarySanction p).provider = some q ∧
      q.pendingReceiptPubkey = p.pendingReceiptPubkey := by
  unfold Entry.applyCanarySanction
  split
  · exact ⟨p, h, rfl⟩
  · split_ifs
    · exact ⟨p, h, rfl⟩
    · exact ⟨_, provider_setState _ _ _, rfl⟩

theorem register_pending {e : Entry} (h : (e.register p (some key)).2 = true) :
    ∃ q, (e.register p (some key)).1.provider = some q ∧ q.pendingReceiptPubkey = key := by
  unfold Entry.register at h ⊢
  split_ifs at h ⊢
  exact applyCanarySanction_pending rfl

theorem applyStateUpdate_pending {e : Entry} {update : Entry.StateUpdate}
    (h : e.current aid = some p) :
    ∃ q, (e.applyStateUpdate aid update).1.provider = some q ∧
      q.pendingReceiptPubkey = [] := by
  simp only [Entry.applyStateUpdate, h]
  split_ifs
  · exact ⟨_, provider_setState _ _ _, rfl⟩
  · exact ⟨_, rfl, rfl⟩

theorem provider_of_current {e : Entry} (h : e.current aid = some p) : e.provider = some p :=
  (Option.filter_eq_some_iff.mp h).1

/-! ### The invariant -/

/-- The last key is published. A waiting key has no previous one, and a lasting rotation is the
session's. -/
structure Coherent (w : World) : Prop where
  key : w.slot.receiptPubkey = w.last
  registered : w.last ≠ [] → w.slot.entry.provider.isSome
  fresh : w.last = [] → w.rotations = []
  pending : ∀ k ∈ w.slot.keys, k.pendingReceiptPubkey ≠ [] →
    active w.slot.receiptPubkeyPrev w.now = none
  rotation : ∀ r ∈ w.rotations, w.now < r.time + receiptRotationGrace →
    w.last = r.new ∧
      w.slot.receiptPubkeyPrev = some ⟨r.old, r.time, r.time + receiptRotationGrace⟩

theorem coherent_init (sanction : Option CanarySanction) (now : ℤ) :
    Coherent (World.init sanction now) where
  key := rfl
  registered h := absurd rfl h
  fresh _ := rfl
  pending _ h := by cases h
  rotation _ h := by cases h

theorem Coherent.continuous (h : Coherent w) : Continuous w := by
  intro r hr now hnow hgrace shown hshown
  obtain ⟨hnew, hprev⟩ := h.rotation r hr (Int.lt_of_le_of_lt hnow hgrace)
  obtain ⟨k, hk, rfl⟩ := Option.map_eq_some_iff.mp hshown
  obtain ⟨p, -, rfl⟩ := Option.map_eq_some_iff.mp hk
  rw [hprev, active_eq_some.mpr ⟨rfl, hgrace⟩, h.key, hnew]
  rfl

theorem Coherent.active_rotation (h : Coherent w) (hnow : w.now ≤ now) {r : Rotation}
    (hr : r ∈ w.rotations) (hgrace : now < r.time + receiptRotationGrace) :
    w.last = r.new ∧ active w.slot.receiptPubkeyPrev now =
      some ⟨r.old, r.time, r.time + receiptRotationGrace⟩ := by
  obtain ⟨hnew, hprev⟩ := h.rotation r hr (Int.lt_of_le_of_lt hnow hgrace)
  exact ⟨hnew, active_eq_some.mpr ⟨hprev, hgrace⟩⟩

theorem Coherent.keep (h : Coherent w) (hnow : w.now ≤ now)
    (hkey : slot.receiptPubkey = w.slot.receiptPubkey)
    (hregistered : w.last ≠ [] → slot.entry.provider.isSome)
    (hpending : ∀ k ∈ slot.keys, k.pendingReceiptPubkey ≠ [] →
      active slot.receiptPubkeyPrev now = none)
    (hprev : w.last ≠ [] → slot.receiptPubkeyPrev = active w.slot.receiptPubkeyPrev now) :
    Coherent { w with slot, now } where
  key := hkey.trans h.key
  registered := hregistered
  fresh := h.fresh
  pending := hpending
  rotation r hr hgrace := by
    have hne : w.last ≠ [] := fun hnil => by simp [h.fresh hnil] at hr
    obtain ⟨hnew, hactive⟩ := h.active_rotation hnow hr hgrace
    exact ⟨hnew, (hprev hne).trans hactive⟩

theorem Coherent.first (h : Coherent w) (hlast : w.last = [])
    (hregistered : slot.entry.provider.isSome)
    (hpending : ∀ k ∈ slot.keys, k.pendingReceiptPubkey ≠ [] →
      active slot.receiptPubkeyPrev now = none) :
    Coherent ⟨slot, now, slot.receiptPubkey, w.rotations⟩ where
  key := rfl
  registered _ := hregistered
  fresh _ := h.fresh hlast
  pending := hpending
  rotation r hr := by simp [h.fresh hlast] at hr

theorem Coherent.rotate (h : Coherent w) (hnow : w.now ≤ now)
    (hidle : active w.slot.receiptPubkeyPrev now = none) (hregistered : slot.entry.provider.isSome)
    (hpending : ∀ k ∈ slot.keys, k.pendingReceiptPubkey = []) (hkey : slot.receiptPubkey ≠ [])
    (hprev : slot.receiptPubkeyPrev = some ⟨w.last, now, now + receiptRotationGrace⟩) :
    Coherent ⟨slot, now, slot.receiptPubkey, ⟨w.last, slot.receiptPubkey, now⟩ :: w.rotations⟩ where
  key := rfl
  registered _ := hregistered
  fresh hnil := absurd hnil hkey
  pending k hk hne := absurd (hpending k hk) hne
  rotation r hr hgrace := by
    rcases List.mem_cons.mp hr with rfl | hr
    · exact ⟨rfl, hprev⟩
    · -- an earlier grace period that still lasts would leave an active previous key
      have hactive := (h.active_rotation hnow hr hgrace).2
      rw [hidle] at hactive
      cases hactive

/-! ### Steps -/

theorem step_same (h : (call.2.apply w.slot call.1).receiptPubkey = w.last) :
    step w call = { w with slot := call.2.apply w.slot call.1, now := call.1 } := by
  simp [step, h]

theorem step_first (hlast : w.last = []) (h : (call.2.apply w.slot call.1).receiptPubkey ≠ []) :
    step w call = ⟨call.2.apply w.slot call.1, call.1,
      (call.2.apply w.slot call.1).receiptPubkey, w.rotations⟩ := by
  simp [step, h, hlast]

theorem step_rotate (hlast : w.last ≠ []) (h : (call.2.apply w.slot call.1).receiptPubkey ≠ [])
    (hne : (call.2.apply w.slot call.1).receiptPubkey ≠ w.last) :
    step w call = ⟨call.2.apply w.slot call.1, call.1, (call.2.apply w.slot call.1).receiptPubkey,
      ⟨w.last, (call.2.apply w.slot call.1).receiptPubkey, call.1⟩ :: w.rotations⟩ := by
  simp [step, h, hlast, hne]

theorem Coherent.idle (h : Coherent w) (hnow : w.now ≤ call.1)
    (hsame : call.2.apply w.slot call.1 = w.slot) : Coherent (step w call) := by
  rw [step_same (by rw [hsame, h.key]), hsame]
  exact
    { key := h.key
      registered := h.registered
      fresh := h.fresh
      pending := fun k hk hne => active_none_of_le (h.pending k hk hne) hnow
      rotation := fun r hr hgrace => h.rotation r hr (Int.lt_of_le_of_lt hnow hgrace) }

theorem Coherent.unpublished (h : Coherent w) (hlast : w.last = [])
    (hnow : w.now ≤ call.1) (hregistered : (call.2.apply w.slot call.1).receiptPubkey ≠ [] →
      (call.2.apply w.slot call.1).entry.provider.isSome)
    (hpending : ∀ k ∈ (call.2.apply w.slot call.1).keys, k.pendingReceiptPubkey ≠ [] →
      active (call.2.apply w.slot call.1).receiptPubkeyPrev call.1 = none) :
    Coherent (step w call) := by
  by_cases hkey : (call.2.apply w.slot call.1).receiptPubkey = []
  · rw [step_same (hkey.trans hlast.symm)]
    exact h.keep hnow (hkey.trans (h.key.trans hlast).symm) (fun hne => absurd hlast hne) hpending
      fun hne => absurd hlast hne
  · rw [step_first hlast hkey]
    exact h.first hlast (hregistered hkey) hpending

theorem registerAtDetailed_cases (s : Slot) (p : Provider) (key : Key)
    (prev : Option ReceiptPubkeyPrevious) (now : ℤ) :
    s.registerAtDetailed p key prev now = (s, false) ∨
      ∃ k q entry, stageReceiptPublication s.keys key prev now = some k ∧
        s.registerAtDetailed p key prev now =
          (⟨entry, k.receiptPubkey, k.receiptPubkeyPrev⟩, true) ∧
        entry.provider = some q ∧ q.pendingReceiptPubkey = k.pendingReceiptPubkey := by
  unfold Slot.registerAtDetailed
  rcases hk : stageReceiptPublication s.keys key prev now with _ | k
  · exact Or.inl rfl
  · simp only [Option.map_some]
    split_ifs with hregister
    · obtain ⟨q, hq, hpending⟩ := register_pending hregister
      exact Or.inr ⟨k, q, _, rfl, rfl, hq, hpending⟩
    · exact Or.inl rfl

theorem Slot.keys_of_provider {s : Slot} (h : s.entry.provider = some p) :
    s.keys = some ⟨s.receiptPubkey, p.pendingReceiptPubkey, s.receiptPubkeyPrev⟩ := by
  simp [Slot.keys, h]

theorem Coherent.register (h : Coherent w) (hnow : w.now ≤ now)
    (hok : Remembers w (now, .registerAtDetailed p key prev)) :
    Coherent (step w (now, .registerAtDetailed p key prev)) := by
  rcases registerAtDetailed_cases w.slot p key prev now with
    hsame | ⟨k, q, entry, hstage, hslot, hq, hpending⟩
  · exact h.idle hnow (congrArg Prod.fst hsame)
  have happly : Op.apply w.slot now (.registerAtDetailed p key prev) =
      ⟨entry, k.receiptPubkey, k.receiptPubkeyPrev⟩ := congrArg Prod.fst hslot
  have hkeys : Slot.keys ⟨entry, k.receiptPubkey, k.receiptPubkeyPrev⟩ = some k := by
    rw [Slot.keys_of_provider hq, hpending]
  by_cases hlast : w.last = []
  · refine h.unpublished hlast hnow (fun _ => ?_) fun k' hk' hne => ?_
    · simp only [happly, hq, Option.isSome_some]
    · simp only [happly, hkeys, Option.mem_some] at hk' ⊢
      subst hk'
      have hunpublished : ∀ x ∈ w.slot.keys, x.receiptPubkey = [] := by
        intro x hx
        obtain ⟨_, -, rfl⟩ := Option.map_eq_some_iff.mp hx
        exact h.key.trans hlast
      rw [stage_unpublished hunpublished hstage hne]
      rfl
  · have hpublished : w.slot.receiptPubkey ≠ [] := h.key ▸ hlast
    have hkey : key ≠ [] := by
      intro hnil
      have hrefused := hok hpublished hnil
      rw [hslot] at hrefused
      cases hrefused
    obtain ⟨p₀, hp₀⟩ := Option.isSome_iff_exists.mp (h.registered hlast)
    rw [Slot.keys_of_provider hp₀] at hstage
    obtain ⟨hsame, hprev, hwait⟩ := stage_published hpublished hkey hstage
    rw [step_same (by rw [happly]; exact hsame.trans h.key), happly]
    refine h.keep hnow hsame (fun _ => by simp [hq]) (fun k' hk' hne => ?_) fun _ => hprev
    rw [hkeys, Option.mem_some] at hk'
    subst hk'
    simp only [hprev, active_active]
    rcases hwait hne with hwaiting | hnone
    · exact active_none_of_le (h.pending _ (Slot.keys_of_provider hp₀) hwaiting) hnow
    · exact hnone

theorem Coherent.update (h : Coherent w) {update : Entry.StateUpdate} (hnow : w.now ≤ now) :
    Coherent (step w (now, .applyStateUpdate aid update)) := by
  rcases hp : w.slot.entry.current aid with _ | p
  · exact h.idle hnow (by simp [Op.apply, Slot.applyStateUpdate, hp])
  obtain ⟨q, hq, hpending⟩ := @applyStateUpdate_pending _ _ _ update hp
  set k := commitPendingReceiptPubkey
    ⟨w.slot.receiptPubkey, p.pendingReceiptPubkey, w.slot.receiptPubkeyPrev⟩ now with hk
  set entry := (w.slot.entry.applyStateUpdate aid update).1
  have happly : Op.apply w.slot now (.applyStateUpdate aid update) =
      ⟨entry, k.receiptPubkey, k.receiptPubkeyPrev⟩ := by
    simp [Op.apply, Slot.applyStateUpdate, hp, hk, entry]
  have hclear : ∀ x ∈ Slot.keys ⟨entry, k.receiptPubkey, k.receiptPubkeyPrev⟩,
      x.pendingReceiptPubkey = [] := by
    intro x hx
    rw [Slot.keys_of_provider hq, Option.mem_some] at hx
    rw [← hx, hpending]
  have hkeep : k.receiptPubkey = w.slot.receiptPubkey →
      k.receiptPubkeyPrev = active w.slot.receiptPubkeyPrev now →
        Coherent (step w (now, .applyStateUpdate aid update)) := by
    intro hsame hprev
    rw [step_same (by rw [happly]; exact hsame.trans h.key), happly]
    exact h.keep hnow hsame (fun _ => by simp [hq]) (fun x hx hne => absurd (hclear x hx) hne)
      fun _ => hprev
  by_cases hwait : p.pendingReceiptPubkey = []
  · simp only [commitPendingReceiptPubkey, hwait, if_true] at hk
    exact hkeep (by rw [hk]) (by rw [hk])
  · simp only [commitPendingReceiptPubkey, hwait, if_false] at hk
    by_cases hlast : w.last = []
    · refine h.unpublished hlast hnow (fun _ => ?_) fun x hx hne => ?_
      · simp only [happly, hq, Option.isSome_some]
      · rw [happly] at hx
        exact absurd (hclear x hx) hne
    by_cases hsame : w.slot.receiptPubkey = p.pendingReceiptPubkey
    · exact hkeep (by rw [hk, hsame]) (by rw [hk]; simp [hsame])
    · have hpublished : w.slot.receiptPubkey ≠ [] := h.key ▸ hlast
      rw [step_rotate hlast (by rw [happly, hk]; exact hwait)
        (by rw [happly, hk, ← h.key]; exact Ne.symm hsame), happly]
      refine h.rotate hnow ?_ (by simp [hq]) hclear (by rw [hk]; exact hwait) ?_
      · exact active_none_of_le
          (h.pending _ (Slot.keys_of_provider (provider_of_current hp)) hwait) hnow
      · rw [hk, ← h.key]
        simp [hpublished, hsame]

theorem Coherent.remove (h : Coherent w) (hnow : w.now ≤ now)
    (hok : Remembers w (now, .removeIfSession aid)) :
    Coherent (step w (now, .removeIfSession aid)) := by
  rcases hp : w.slot.entry.current aid with _ | p
  · exact h.idle hnow (by simp [Op.apply, Slot.removeIfSession, hp])
  have happly : Op.apply w.slot now (.removeIfSession aid) =
      ⟨(w.slot.entry.removeIfSession aid).1, [], none⟩ := by
    simp [Op.apply, Slot.removeIfSession, hp]
  have hlast : w.last = [] := by
    by_contra hne
    have hrefused := hok (h.key ▸ hne)
    simp [Slot.removeIfSession, hp] at hrefused
  refine h.unpublished hlast hnow (fun hne => ?_) fun _ _ _ => ?_
  · rw [happly] at hne
    exact absurd rfl hne
  · rw [happly]
    rfl

theorem Coherent.step (h : Coherent w) (hnow : Timely w call) (hok : Remembers w call) :
    Coherent (ReceiptKeys.step w call) := by
  obtain ⟨now, op⟩ := call
  cases op with
  | registerAtDetailed p key prev => exact h.register hnow hok
  | applyStateUpdate aid update => exact h.update hnow
  | removeIfSession aid => exact h.remove hnow hok

/-- **A rotation goes on for its grace period** if no publishing session is removed, or replaced by
one without a key. -/
theorem rotations_continue {sanction : Option CanarySanction} {now : ℤ} {w : World}
    (h : Reaches step (fun w call => Timely w call ∧ Remembers w call)
      (World.init sanction now) w) : Continuous w :=
  (reaches_induction (I := Coherent) h (coherent_init sanction now)
    fun _ _ hw hok => hw.step hok.1 hok.2).continuous

/-! ### Two rotations -/

def demoProvider : Provider :=
  ⟨"s1", .ready, .pinned, .bearerValidated, .other, [], false, false, false, false, false, 1, 1,
    none, 0, none, none⟩

def demoRegister (now : ℤ) (assignedID : String) (key : Key) : ℤ × Op :=
  (now, .registerAtDetailed { demoProvider with assignedID } key none)

def demoUpdate (now : ℤ) (assignedID : String) : ℤ × Op :=
  (now, .applyStateUpdate assignedID ⟨.ready, none, none⟩)

/-- A new key beside the old session; a third is refused. -/
def demoReplaced : List (ℤ × Op) :=
  [demoRegister 0 "s1" [1], demoUpdate 1 "s1", demoRegister 2 "s2" [2], demoUpdate 3 "s2",
    demoRegister 4 "s3" [3], demoUpdate 5 "s3"]

theorem replaced_session_continues :
    Continuous (run step (World.init none 0) demoReplaced) ∧
      (run step (World.init none 0) demoReplaced).slot.published 5 = some ([2], some [1]) := by
  refine ⟨rotations_continue (reaches_of_allowed ?_), ?_⟩ <;>
    decide +kernel

/-- It disconnects and returns with a new key. -/
def demoReconnected : List (ℤ × Op) :=
  [demoRegister 0 "s1" [1], demoUpdate 1 "s1", (2, .removeIfSession "s1"),
    demoRegister 3 "s2" [2], demoUpdate 4 "s2"]

/-- It is forgotten with its session. -/
theorem rotation_forgets_the_key :
    Reaches step Timely (World.init none 0) (run step (World.init none 0) demoReconnected) ∧
      (run step (World.init none 0) demoReconnected).rotations = [⟨[1], [2], 4⟩] ∧
        (run step (World.init none 0) demoReconnected).slot.published 4 = some ([2], none) ∧
          ¬ Continuous (run step (World.init none 0) demoReconnected) := by
  have hpublished : (run step (World.init none 0) demoReconnected).slot.published 4 =
      some ([2], none) := by decide +kernel
  have hrotations : (run step (World.init none 0) demoReconnected).rotations =
      [⟨[1], [2], 4⟩] := by decide +kernel
  refine ⟨reaches_of_allowed (by decide +kernel), hrotations, hpublished, fun h => ?_⟩
  have hshown := h ⟨[1], [2], 4⟩ (by rw [hrotations]; exact List.mem_singleton_self _) 4
    (by decide +kernel) (by decide) _ hpublished
  cases hshown

end MacProvider.Coordinator.Pool.ReceiptKeys
