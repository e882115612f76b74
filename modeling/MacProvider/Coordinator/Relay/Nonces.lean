import MacProvider.Coordinator.Relay.Frames

/-! # Keys in use and their nonces

A slot holds the number of a key exchange and, once it has given keys, the key with nonce base and
counter. The first frame of a rekeyed leg is sealed as number 0 while the exchange is pending.
`Safe.moves`: no key seals two frames under one nonce, and no replaced one seals any. -/

namespace MacProvider.Coordinator.Relay.Nonces

open Relay.Frames

/-- Key, nonce base and next number. -/
structure Leg where
  key : Bytes
  base : Bytes
  counter : UInt64

/-- An exchange, and its key if it has one. -/
structure Entry where
  exchange : ℕ
  leg : Option Leg

/-- What has happened to a key. -/
inductive Event
  /-- a frame has been sealed -/
  | sealed (exchange : ℕ) (key nonce : Bytes)
  /-- the key has been replaced -/
  | committed (exchange : ℕ) (key : Bytes)
  deriving DecidableEq

/-- Its exchange. -/
def Event.exchange : Event → ℕ
  | sealed m _ _ | committed m _ => m

/-- The key. -/
def Event.key : Event → Bytes
  | sealed _ key _ | committed _ key => key

/-- A frame that has been sealed, as key and nonce. -/
def Event.frame : Event → Option (Bytes × Bytes)
  | sealed _ key nonce => some (key, nonce)
  | committed _ _ => none

/-- The slots and what has happened. -/
structure Slots (κ : Type) where
  entry : κ → Option Entry
  exchanges : ℕ
  events : List Event

variable {κ : Type} {gives : ℕ → Bytes → Prop} {w w' : Slots κ}

/-- Different exchanges give different keys. -/
def Distinct (gives : ℕ → Bytes → Prop) : Prop := ∀ m n k, gives m k → gives n k → m = n

/-- The slots other than those of `S` are as before. -/
def Apart (S : Set κ) (w w' : Slots κ) : Prop := ∀ a, a ∉ S → w'.entry a = w.entry a

theorem Apart.cases {a b : κ} {x e : Entry} (h : Apart {a} w w') (ha : w'.entry a = some x)
    (he : w'.entry b = some e) : b = a ∧ e = x ∨ b ≠ a ∧ w.entry b = some e := by
  by_cases hb : b = a
  · rw [hb, ha] at he
    exact Or.inl ⟨hb, (Option.some.inj he).symm⟩
  · exact Or.inr ⟨hb, h b hb ▸ he⟩

/-- What can happen to slots; exchange `m` can give `k`. -/
inductive Moves (gives : ℕ → Bytes → Prop) (w w' : Slots κ) : Prop
  /-- slots are kept or given up -/
  | kept (hslots : ∀ a, w'.entry a = w.entry a ∨ w'.entry a = none)
      (hex : w'.exchanges = w.exchanges) (hevs : w'.events = w.events)
  /-- an exchange starts, with its key at once or later -/
  | began (a : κ) (leg : Option Leg) (hentry : w'.entry a = some ⟨w.exchanges, leg⟩)
      (hleg : ∀ l, leg = some l → gives w.exchanges l.key) (hother : Apart {a} w w')
      (hex : w'.exchanges = w.exchanges + 1) (hevs : w'.events = w.events)
  /-- a frame is sealed under the counter -/
  | sealed (a : κ) (m : ℕ) (leg : Leg) (nonce : Bytes) (hold : w.entry a = some ⟨m, some leg⟩)
      (hne : leg.counter ≠ exhausted) (hnonce : pillarBNonce leg.base leg.counter = .ok nonce)
      (hentry : w'.entry a = some ⟨m, some { leg with counter := leg.counter + 1 }⟩)
      (hother : Apart {a} w w') (hex : w'.exchanges = w.exchanges)
      (hevs : w'.events = w.events ++ [.sealed m leg.key nonce])
  /-- a pending exchange gives its key, which seals frame 0 -/
  | confirmed (a : κ) (m : ℕ) (leg : Leg) (nonce : Bytes) (hold : w.entry a = some ⟨m, none⟩)
      (hgives : gives m leg.key) (hcounter : leg.counter = 1)
      (hnonce : pillarBNonce leg.base 0 = .ok nonce) (hentry : w'.entry a = some ⟨m, some leg⟩)
      (hother : Apart {a} w w') (hex : w'.exchanges = w.exchanges)
      (hevs : w'.events = w.events ++ [.sealed m leg.key nonce])
  /-- the exchange of slot `b` replaces the one of slot `a` -/
  | installed (a b : κ) (m : ℕ) (old : Leg) (hab : a ≠ b) (hold : w.entry a = some ⟨m, some old⟩)
      (hentry : w'.entry a = w.entry b) (hnone : w'.entry b = none) (hother : Apart {a, b} w w')
      (hex : w'.exchanges = w.exchanges)
      (hevs : w'.events = w.events ++ [.committed m old.key])

/-- Not replaced, and its frames are below its counter; without a key it has none. -/
structure Fine (gives : ℕ → Bytes → Prop) (w : Slots κ) (e : Entry) : Prop where
  bound : e.exchange < w.exchanges
  gives : ∀ leg, e.leg = some leg → gives e.exchange leg.key
  counted : ∀ key nonce, .sealed e.exchange key nonce ∈ w.events → ∃ leg, e.leg = some leg ∧
    ∃ seq : UInt64, seq.toNat < leg.counter.toNat ∧ pillarBNonce leg.base seq = .ok nonce
  current : ∀ key, .committed e.exchange key ∉ w.events

/-- What every move keeps. -/
structure Safe (gives : ℕ → Bytes → Prop) (w : Slots κ) : Prop where
  fine : ∀ a e, w.entry a = some e → Fine gives w e
  distinct : ∀ a b e e', w.entry a = some e → w.entry b = some e' → e.exchange = e'.exchange → a = b
  known : ∀ ev ∈ w.events, ev.exchange < w.exchanges ∧ gives ev.exchange ev.key
  nodup : (w.events.filterMap Event.frame).Nodup
  ordered : ∀ before behind m old, w.events = before ++ .committed m old :: behind →
    ∀ m' nonce, .sealed m' old nonce ∉ behind

theorem Fine.mono {e : Entry} (h : Fine gives w e) (hex : w.exchanges ≤ w'.exchanges)
    (hevs : ∀ ev ∈ w'.events, ev.exchange = e.exchange → ev ∈ w.events) : Fine gives w' e where
  bound := h.bound.trans_le hex
  gives := h.gives
  counted key nonce hmem := h.counted key nonce (hevs _ hmem rfl)
  current key hmem := h.current key (hevs _ hmem rfl)

theorem ordered_append {e : Event}
    (h : ∀ before behind m old, w.events = before ++ .committed m old :: behind →
      ∀ m' nonce, .sealed m' old nonce ∉ behind) (hevs : w'.events = w.events ++ [e])
    (hnew : ∀ m' old nonce m, e = .sealed m' old nonce → .committed m old ∉ w.events) :
    ∀ before behind m old, w'.events = before ++ .committed m old :: behind →
      ∀ m' nonce, .sealed m' old nonce ∉ behind := by
  intro before behind m old heq m' nonce hmem
  rw [hevs] at heq
  -- the last event is either the commit itself or the end of what is behind it
  rcases List.eq_nil_or_concat behind with rfl | ⟨init, last, rfl⟩
  · exact absurd hmem List.not_mem_nil
  · rw [List.concat_eq_append, ← List.cons_append, ← List.append_assoc] at heq
    obtain ⟨hinit, hlast⟩ := List.append_inj' heq rfl
    rw [List.concat_eq_append, List.mem_append] at hmem
    rcases hmem with hmem | hmem
    · exact h before init m old hinit m' nonce hmem
    · have he : e = .sealed m' old nonce := by
        rw [List.mem_singleton.mp hmem]
        exact List.singleton_inj.mp hlast
      refine hnew m' old nonce m he ?_
      rw [hinit]
      exact List.mem_append_right _ List.mem_cons_self

theorem frame_mem {events : List Event} {key nonce : Bytes}
    (h : (key, nonce) ∈ events.filterMap Event.frame) : ∃ m, .sealed m key nonce ∈ events := by
  obtain ⟨e, he, hframe⟩ := List.mem_filterMap.mp h
  cases e with
  | sealed m key' nonce' =>
    cases hframe
    exact ⟨m, he⟩
  | committed m key' => cases hframe

theorem nodup_append {m : ℕ} {key nonce : Bytes} (h : (w.events.filterMap Event.frame).Nodup)
    (hevs : w'.events = w.events ++ [.sealed m key nonce])
    (hnew : ∀ m', .sealed m' key nonce ∉ w.events) : (w'.events.filterMap Event.frame).Nodup := by
  rw [hevs, List.filterMap_append, List.nodup_append]
  refine ⟨h, List.nodup_singleton _, fun x hx y hy heq => ?_⟩
  have hxy : x = (key, nonce) := heq.trans (List.mem_singleton.mp hy)
  rw [hxy] at hx
  obtain ⟨m', hm'⟩ := frame_mem hx
  exact hnew m' hm'

theorem mem_of_append {e f : Event} (hevs : w'.events = w.events ++ [f]) (h : e ∈ w'.events) :
    e ∈ w.events ∨ e = f := by
  rw [hevs, List.mem_append, List.mem_singleton] at h
  exact h

namespace Safe

variable (hgives : Distinct gives) (h : Safe gives w)
include h

theorem kept (hslots : ∀ a, w'.entry a = w.entry a ∨ w'.entry a = none)
    (hex : w'.exchanges = w.exchanges) (hevs : w'.events = w.events) : Safe gives w' := by
  have hfrom : ∀ a e, w'.entry a = some e → w.entry a = some e := by
    intro a e he
    rcases hslots a with hsame | hnone
    · exact hsame ▸ he
    · rw [hnone] at he
      cases he
  constructor
  · exact fun a e he => (h.fine a e (hfrom a e he)).mono hex.ge fun ev hev _ => hevs ▸ hev
  · exact fun a b e e' ha hb => h.distinct a b e e' (hfrom a e ha) (hfrom b e' hb)
  · exact hevs ▸ hex ▸ h.known
  · exact hevs ▸ h.nodup
  · exact hevs ▸ h.ordered

theorem began {a : κ} {leg : Option Leg} (hentry : w'.entry a = some ⟨w.exchanges, leg⟩)
    (hleg : ∀ l, leg = some l → gives w.exchanges l.key) (hother : Apart {a} w w')
    (hex : w'.exchanges = w.exchanges + 1) (hevs : w'.events = w.events) :
    Safe gives w' := by
  -- no event and no other slot knows the new exchange
  have hfresh : ∀ ev ∈ w'.events, ev.exchange ≠ w.exchanges := fun ev hev =>
    (h.known ev (hevs ▸ hev)).1.ne
  have hcases := fun b e => hother.cases (b := b) (e := e) hentry
  constructor
  · intro b e he
    rcases hcases b e he with ⟨-, rfl⟩ | ⟨-, he⟩
    · exact ⟨by rw [hex]; exact Nat.lt_succ_self _, hleg,
        fun key nonce hmem => absurd rfl (hfresh _ hmem), fun key hmem => hfresh _ hmem rfl⟩
    · exact (h.fine b e he).mono (by omega) fun ev hev _ => hevs ▸ hev
  · intro b c e e' hb hc heq
    rcases hcases b e hb with ⟨rfl, rfl⟩ | ⟨-, hb⟩ <;>
      rcases hcases c e' hc with ⟨rfl, rfl⟩ | ⟨-, hc⟩
    · rfl
    · exact absurd heq (h.fine c e' hc).bound.ne'
    · exact absurd heq (h.fine b e hb).bound.ne
    · exact h.distinct b c e e' hb hc heq
  · intro ev hev
    obtain ⟨hlt, hkey⟩ := h.known ev (hevs ▸ hev)
    exact ⟨by omega, hkey⟩
  · exact hevs ▸ h.nodup
  · exact hevs ▸ h.ordered

include hgives in
theorem frame {a : κ} {m : ℕ} {old : Option Leg} {leg : Leg} {nonce : Bytes} {seq : UInt64}
    (hold : w.entry a = some ⟨m, old⟩) (hkey : gives m leg.key)
    (hseq : pillarBNonce leg.base seq = .ok nonce) (hcounter : leg.counter.toNat = seq.toNat + 1)
    (hbelow : ∀ l, old = some l → l.base = leg.base ∧ l.counter = seq)
    (hentry : w'.entry a = some ⟨m, some leg⟩) (hother : Apart {a} w w')
    (hex : w'.exchanges = w.exchanges)
    (hevs : w'.events = w.events ++ [.sealed m leg.key nonce]) : Safe gives w' := by
  have hfine := h.fine a _ hold
  -- the frames before it have smaller numbers
  have hless : ∀ key nonce', .sealed m key nonce' ∈ w.events →
      ∃ seq' : UInt64, seq'.toNat < seq.toNat ∧ pillarBNonce leg.base seq' = .ok nonce' := by
    intro key nonce' hmem
    obtain ⟨l, hl, seq', hlt, hseq'⟩ := hfine.counted key nonce' hmem
    obtain ⟨hbase, hl⟩ := hbelow l hl
    exact ⟨seq', hl ▸ hlt, hbase ▸ hseq'⟩
  have hcases := fun b e => hother.cases (b := b) (e := e) hentry
  constructor
  · intro b e he
    rcases hcases b e he with ⟨-, rfl⟩ | ⟨hb, he⟩
    · refine ⟨hex ▸ hfine.bound, fun l hl => Option.some.inj hl ▸ hkey,
        fun key nonce' hmem => ⟨leg, rfl, ?_⟩, fun key hmem => ?_⟩
      · rcases mem_of_append hevs hmem with hmem | heq
        · obtain ⟨seq', hlt, hseq'⟩ := hless key nonce' hmem
          exact ⟨seq', by omega, hseq'⟩
        · cases heq
          exact ⟨seq, by omega, hseq⟩
      · rcases mem_of_append hevs hmem with hmem | heq
        · exact hfine.current key hmem
        · cases heq
    · refine (h.fine b e he).mono hex.ge fun ev hev heq => ?_
      rcases mem_of_append hevs hev with hev | rfl
      · exact hev
      · exact absurd (h.distinct b a e _ he hold heq.symm) hb
  · intro b c e e' hb hc heq
    rcases hcases b e hb with ⟨rfl, rfl⟩ | ⟨-, hb⟩ <;>
      rcases hcases c e' hc with ⟨rfl, rfl⟩ | ⟨-, hc⟩
    · rfl
    · exact h.distinct b c _ e' hold hc heq
    · exact h.distinct b c e _ hb hold heq
    · exact h.distinct b c e e' hb hc heq
  · intro ev hev
    rw [hex]
    rcases mem_of_append hevs hev with hev | rfl
    · exact h.known ev hev
    · exact ⟨hfine.bound, hkey⟩
  · refine nodup_append h.nodup hevs fun m' hmem => ?_
    rw [hgives m' m leg.key (h.known _ hmem).2 hkey] at hmem
    obtain ⟨seq', hlt, hseq'⟩ := hless _ _ hmem
    rw [pillarBNonce_injective hseq' hseq] at hlt
    exact lt_irrefl _ hlt
  · refine ordered_append h.ordered hevs fun m' key nonce' n heq hmem => ?_
    cases heq
    rw [hgives n m leg.key (h.known _ hmem).2 hkey] at hmem
    exact hfine.current _ hmem

theorem installed {a b : κ} {m : ℕ} {old : Leg} (hab : a ≠ b)
    (hold : w.entry a = some ⟨m, some old⟩) (hentry : w'.entry a = w.entry b)
    (hnone : w'.entry b = none) (hother : Apart {a, b} w w')
    (hex : w'.exchanges = w.exchanges)
    (hevs : w'.events = w.events ++ [.committed m old.key]) : Safe gives w' := by
  have hfine := h.fine a _ hold
  -- a slot of the new state and the slot it comes from
  have hfrom : ∀ c e, w'.entry c = some e →
      (c = a ∧ w.entry b = some e) ∨ (c ≠ a ∧ c ≠ b ∧ w.entry c = some e) := by
    intro c e he
    by_cases hca : c = a
    · exact Or.inl ⟨hca, by rw [← hentry, ← hca, he]⟩
    by_cases hcb : c = b
    · rw [hcb, hnone] at he
      cases he
    · exact Or.inr ⟨hca, hcb, hother c (by simp [hca, hcb]) ▸ he⟩
  have hfine' : ∀ c e, c ≠ a → w.entry c = some e → Fine gives w' e := by
    intro c e hca he
    refine (h.fine c e he).mono hex.ge fun ev hev heq => ?_
    rcases mem_of_append hevs hev with hev | rfl
    · exact hev
    · exact absurd (h.distinct c a e _ he hold heq.symm) hca
  constructor
  · intro c e he
    rcases hfrom c e he with ⟨-, he⟩ | ⟨hca, -, he⟩
    · exact hfine' b e hab.symm he
    · exact hfine' c e hca he
  · intro c d e e' hc hd heq
    rcases hfrom c e hc with ⟨rfl, hc⟩ | ⟨-, hcb, hc⟩ <;>
      rcases hfrom d e' hd with ⟨rfl, hd⟩ | ⟨-, hdb, hd⟩
    · rfl
    · exact absurd (h.distinct b d e e' hc hd heq).symm hdb
    · exact absurd (h.distinct c b e e' hc hd heq) hcb
    · exact h.distinct c d e e' hc hd heq
  · intro ev hev
    rw [hex]
    rcases mem_of_append hevs hev with hev | rfl
    · exact h.known ev hev
    · exact ⟨hfine.bound, hfine.gives old rfl⟩
  · rw [hevs, List.filterMap_append]
    exact (List.append_nil _).symm ▸ h.nodup
  · exact ordered_append h.ordered hevs fun m' old' nonce m heq => Event.noConfusion heq

include hgives in
/-- **Every move keeps the slots safe.** -/
theorem moves (hmove : Moves gives w w') : Safe gives w' := by
  cases hmove with
  | kept hslots hex hevs => exact h.kept hslots hex hevs
  | began a leg hentry hleg hother hex hevs =>
    exact h.began hentry hleg hother hex hevs
  | sealed a m leg nonce hold hne hnonce hentry hother hex hevs =>
    have hkey : gives m { leg with counter := leg.counter + 1 }.key :=
      (h.fine a _ hold).gives leg rfl
    refine h.frame hgives hold hkey hnonce (toNat_succ hne) (fun l hl => ?_) hentry hother
      hex hevs
    rw [← Option.some.inj hl]
    exact ⟨rfl, rfl⟩
  | confirmed a m leg nonce hold hkey hcounter hnonce hentry hother hex hevs =>
    exact h.frame hgives hold hkey hnonce (by rw [hcounter]; rfl) (fun l hl => by cases hl) hentry
      hother hex hevs
  | installed a b m old hab hold hentry hnone hother hex hevs =>
    exact h.installed hab hold hentry hnone hother hex hevs

end Safe

end MacProvider.Coordinator.Relay.Nonces
