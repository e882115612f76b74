import MacProvider.Coordinator.Relay.Channels
import MacProvider.Lib.Rely

/-! # A request is ended by the goroutine that removed it

Whoever takes a request out of the map owns it, sends its end or error and closes its channel
(`ownership`, `proper_program`). `deliverChunk` sends without owning, so another goroutine may have
closed the channel. -/

namespace MacProvider.Coordinator.Relay.ChannelSafety

open Lib.Runs Lib.Calls Lib.Rely Relay.Frames Relay.Channels
open Prog (perform)
open Contract (safe_perform safe_bind safe_ret)

variable {ι : Type}

/-! ### Requests -/

/-- Nothing sent, and open. -/
structure Fresh (a : RelayActive) : Prop where
  opened : a.chunksClosed = false
  terminals : a.terminals = []

/-- What was sent, and how often it was closed. -/
structure Consistent (a : RelayActive) : Prop where
  terminals : a.terminals.length ≤ 1
  buffered : a.done.length + a.errs.length ≤ a.terminals.length
  closes : a.closes = if a.chunksClosed then 1 else 0

/-- The part of a request that its owner decides on. -/
def history (a : RelayActive) : Bool × List Terminal := (a.chunksClosed, a.terminals)

theorem Fresh.congr {a b : RelayActive} (h : Fresh a) (hab : history b = history a) : Fresh b :=
  ⟨(congrArg Prod.fst hab).trans h.opened, (congrArg Prod.snd hab).trans h.terminals⟩

theorem consistent_new (rid : Bytes) (stream : Bool) :
    Consistent (newActive rid stream) := ⟨Nat.zero_le 1, le_rfl, rfl⟩

theorem fresh_new (rid : Bytes) (stream : Bool) : Fresh (newActive rid stream) :=
  ⟨rfl, rfl⟩

theorem Consistent.shut {a : RelayActive} (h : Consistent a) (ha : a.chunksClosed = false) :
    Consistent (shut a) := by
  refine ⟨h.terminals, h.buffered, ?_⟩
  have hcloses := h.closes
  rw [ha] at hcloses
  simp [Channels.shut, hcloses]

theorem Consistent.buffers {a : RelayActive} (h : Consistent a) (ha : Fresh a) :
    a.done = [] ∧ a.errs = [] := by
  have hb := h.buffered
  rw [ha.terminals, List.length_nil] at hb
  exact ⟨List.length_eq_zero_iff.mp (by omega), List.length_eq_zero_iff.mp (by omega)⟩

theorem Consistent.pushErr {a : RelayActive} (h : Consistent a) (ha : Fresh a) (err : RelayError) :
    Consistent (pushErr err a) := by
  obtain ⟨hdone, herrs⟩ := h.buffers ha
  refine ⟨?_, ?_, h.closes⟩
  · simp [Channels.pushErr, ha.terminals]
  · simp [Channels.pushErr, ha.terminals, hdone, herrs]

theorem Consistent.pushDone {a : RelayActive} (h : Consistent a) (ha : Fresh a)
    (e : InferenceResponseEnd) : Consistent (pushDone e a) := by
  obtain ⟨hdone, herrs⟩ := h.buffers ha
  refine ⟨?_, ?_, h.closes⟩
  · simp [Channels.pushDone, ha.terminals]
  · simp [Channels.pushDone, ha.terminals, hdone, herrs]

/-! ### The invariant -/

/-- Those in the map are fresh; all others have an owner. -/
structure Inv (w : World ι) : Prop where
  keys : (w.active.map Prod.fst).Nodup
  addresses : (w.active.map Prod.snd).Nodup
  live : ∀ e ∈ w.active, e.2 < w.size ∧ w.remover e.2 = none ∧ Fresh (w.heap e.2)
  owned : ∀ o, o < w.size → w.remover o = none → o ∈ w.active.map Prod.snd
  allocated : ∀ o i, w.remover o = some i → o < w.size
  consistent : ∀ o, o < w.size → Consistent (w.heap o)
  running : w.panicked = false
  moving : w.blocked = false

theorem inv_init : Inv (World.init ι) where
  keys := List.nodup_nil
  addresses := List.nodup_nil
  live := by simp [World.init]
  owned := fun o h => absurd h (Nat.not_lt_zero o)
  allocated := fun _ _ h => by cases h
  consistent := fun o h => absurd h (Nat.not_lt_zero o)
  running := rfl
  moving := rfl

variable {rid : Bytes} {w : World ι} {o : ℕ} {g : RelayActive → RelayActive} {i : ι}
  {c : Call} {f : Choice} {p : Pool ι Answer Unit (World ι)}

theorem Inv.of_lookup (h : Inv w) (ho : w.active.lookup rid = some o) :
    (rid, o) ∈ w.active ∧ o < w.size ∧ w.remover o = none ∧ Fresh (w.heap o) := by
  have hmem : (rid, o) ∈ w.active := by
    obtain ⟨l₁, l₂, heq, -⟩ := List.lookup_eq_some_iff.mp ho
    rw [heq]
    exact List.mem_append_right l₁ List.mem_cons_self
  exact ⟨hmem, h.live _ hmem⟩

theorem Inv.modify (h : Inv w)
    (hfresh : w.remover o = none → Fresh (w.heap o) → Fresh (g (w.heap o)))
    (hcons : Consistent (w.heap o) → Consistent (g (w.heap o))) : Inv (w.modify o g) := by
  refine { h with live := fun e he => ?_, consistent := fun o' ho' => ?_ }
  · obtain ⟨hlt, hnone, hf⟩ := h.live e he
    refine ⟨hlt, hnone, ?_⟩
    by_cases heq : e.2 = o
    · rw [heq] at hnone hf
      simp only [World.modify, heq, Function.update_self]
      exact hfresh hnone hf
    · simp only [World.modify, Function.update_of_ne heq]
      exact hf
  · by_cases heq : o' = o
    · subst heq
      simp only [World.modify, Function.update_self]
      exact hcons (h.consistent o' ho')
    · simp only [World.modify, Function.update_of_ne heq]
      exact h.consistent o' ho'

theorem Inv.addActive (h : Inv w) (stream : Bool) (hnew : w.active.lookup rid = none) :
    Inv { w with
      active := (rid, w.size) :: w.active
      heap := Function.update w.heap w.size (newActive rid stream)
      size := w.size + 1 } where
  keys := by
    refine List.nodup_cons.mpr ⟨fun hmem => ?_, h.keys⟩
    obtain ⟨e, he, hid⟩ := List.mem_map.mp hmem
    have := List.lookup_eq_none_iff.mp hnew e he
    simp [hid] at this
  addresses := by
    refine List.nodup_cons.mpr ⟨fun hmem => ?_, h.addresses⟩
    obtain ⟨e, he, hsize⟩ := List.mem_map.mp hmem
    exact absurd (h.live e he).1 (by rw [hsize]; exact lt_irrefl _)
  live e he := by
    have hnone : w.remover w.size = none := by
      cases hr : w.remover w.size with
      | none => rfl
      | some i => exact absurd (h.allocated _ i hr) (lt_irrefl _)
    rcases List.mem_cons.mp he with rfl | he
    · exact ⟨Nat.lt_succ_self _, hnone, by simpa using fresh_new rid stream⟩
    · obtain ⟨hlt, hrem, hf⟩ := h.live e he
      refine ⟨Nat.lt_succ_of_lt hlt, hrem, ?_⟩
      simpa only [Function.update_of_ne (Nat.ne_of_lt hlt)] using hf
  owned o ho hrem := by
    rcases Nat.lt_succ_iff_lt_or_eq.mp ho with hlt | rfl
    · exact List.mem_cons_of_mem _ (h.owned o hlt hrem)
    · exact List.mem_cons_self
  allocated o i ho := Nat.lt_succ_of_lt (h.allocated o i ho)
  consistent o ho := by
    rcases Nat.lt_succ_iff_lt_or_eq.mp ho with hlt | rfl
    · simpa only [Function.update_of_ne (Nat.ne_of_lt hlt)] using h.consistent o hlt
    · simpa using consistent_new rid stream
  running := h.running
  moving := h.moving

theorem Inv.removeActive (h : Inv w) (i : ι) (ho : w.active.lookup rid = some o) :
    Inv { w with
      active := w.active.filter fun e => e.1 ≠ rid
      remover := Function.update w.remover o (some i) } := by
  obtain ⟨hmem, hlt, -, -⟩ := h.of_lookup ho
  -- the entry that went is the only one with this id, and the only one with this address
  have hkept : ∀ e ∈ w.active, e.1 ≠ rid ↔ e.2 ≠ o := by
    intro e he
    refine not_congr ⟨fun heq => ?_, fun heq => ?_⟩
    · exact congrArg Prod.snd (List.inj_on_of_nodup_map h.keys he hmem heq)
    · exact congrArg Prod.fst (List.inj_on_of_nodup_map h.addresses he hmem heq)
  refine { h with
    keys := h.keys.sublist (List.filter_sublist.map _)
    addresses := h.addresses.sublist (List.filter_sublist.map _)
    live := fun e he => ?_, owned := fun o' ho' hrem => ?_, allocated := fun o' j hj => ?_ }
  · obtain ⟨he, hne⟩ := List.mem_filter.mp he
    have hne' : e.2 ≠ o := (hkept e he).mp (of_decide_eq_true hne)
    simpa only [Function.update_of_ne hne'] using h.live e he
  · have hne : o' ≠ o := by
      rintro rfl
      simp only [Function.update_self, reduceCtorEq] at hrem
    simp only [Function.update_of_ne hne] at hrem
    obtain ⟨e, he, rfl⟩ := List.mem_map.mp (h.owned o' ho' hrem)
    exact List.mem_map_of_mem (List.mem_filter.mpr ⟨he, decide_eq_true ((hkept e he).mpr hne)⟩)
  · by_cases heq : o' = o
    · rw [heq]
      exact hlt
    · simp only [Function.update_of_ne heq] at hj
      exact h.allocated o' j hj

theorem Inv.takeAll (h : Inv w) (i : ι) :
    Inv { w with
      active := []
      remover := fun o => if o ∈ w.active.map Prod.snd then some i else w.remover o } := by
  refine { h with
    keys := List.nodup_nil, addresses := List.nodup_nil, live := by simp
    owned := fun o ho hrem => ?_, allocated := fun o j hj => ?_ }
  · dsimp only at hrem
    split_ifs at hrem with hmem
    exact absurd (h.owned o ho hrem) hmem
  · dsimp only at hj
    split_ifs at hj with hmem
    · obtain ⟨e, he, rfl⟩ := List.mem_map.mp hmem
      exact (h.live e he).1
    · exact h.allocated o j hj

/-! ### The contract -/

/-- The requests of `i` are left alone. -/
structure Rely (i : ι) (w w' : World ι) : Prop where
  remover : ∀ o, w'.remover o = some i ↔ w.remover o = some i
  history : ∀ o, w.remover o = some i → history (w'.heap o) = history (w.heap o)

theorem Rely.refl (i : ι) (w : World ι) : Rely i w w := ⟨fun _ => Iff.rfl, fun _ _ => rfl⟩

theorem Rely.trans {w' w'' : World ι} (h : Rely i w w') (h' : Rely i w' w'') :
    Rely i w w'' where
  remover o := (h'.remover o).trans (h.remover o)
  history o ho := (h'.history o ((h.remover o).mpr ho)).trans (h.history o ho)

/-- Only the owner ends a request, and closes it. -/
def Requires (i : ι) : Call → World ι → Prop
  | .trySendErr o _, w | .sendErr o _, w | .sendDone o _, w =>
    w.remover o = some i ∧ Fresh (w.heap o)
  | .closeChunks o, w => w.remover o = some i ∧ (w.heap o).chunksClosed = false
  | _, _ => True

theorem Requires.later {w' : World ι} (h : Requires i c w) (hw : Rely i w w') :
    Requires i c w' := by
  cases c with
  | trySendErr o _ | sendErr o _ | sendDone o _ =>
    exact ⟨(hw.remover o).mpr h.1, h.2.congr (hw.history o h.1)⟩
  | closeChunks o =>
    exact ⟨(hw.remover o).mpr h.1, (congrArg Prod.fst (hw.history o h.1)).trans h.2⟩
  | _ => trivial

/-- A frame is sent while its request is open: no close comes between the lookup and the send, which
is outside the lock. -/
def SendsOpen : Call → Choice → World ι → Prop
  | .trySendChunk o _, _, w => (w.heap o).chunksClosed = false
  | _, _, _ => True

/-- The contract of the goroutines. -/
def ownership (ι : Type) : Contract ι Answer (World ι) where
  inv := Inv
  rely := Rely
  pre := Requires
  post i c r w w' := ∃ f, exec i c f w = (r, w')
  refl := Rely.refl
  trans _ _ _ _ := Rely.trans
  stable _ _ _ _ := Requires.later

theorem rely_modify (h : w.remover o ≠ some i ∨ history (g (w.heap o)) = history (w.heap o)) :
    Rely i w (w.modify o g) := by
  refine ⟨fun _ => Iff.rfl, fun o' ho' => ?_⟩
  by_cases heq : o' = o
  · subst heq
    simp only [World.modify, Function.update_self]
    rcases h with hne | h
    · exact absurd ho' hne
    · exact h
  · simp only [World.modify, Function.update_of_ne heq]

theorem Inv.modify_of_history (h : Inv w) (hhist : ∀ a, history (g a) = history a)
    (hcons : ∀ a, Consistent a → Consistent (g a)) : Inv (w.modify o g) :=
  h.modify (fun _ hf => hf.congr (hhist _)) (hcons _)

/-- The calls that end no request. -/
def Quiet : Call → Prop
  | .removeActive _ | .takeAll | .trySendErr .. | .sendErr .. | .sendDone ..
  | .closeChunks _ => False
  | _ => True

theorem rely_of_quiet {j : ι} (h : Inv w) (hc : Quiet c) : Rely j w (exec i c f w).2 := by
  cases c with
  | addActive rid maxConcurrency stream =>
    simp only [exec]
    split_ifs
    · exact Rely.refl j w
    · exact Rely.refl j w
    · exact Rely.refl j w
    · refine ⟨fun _ => Iff.rfl, fun o ho => ?_⟩
      have hne : o ≠ w.size := (h.allocated o j ho).ne
      simp only [Function.update_of_ne hne]
  | activeFor rid => exact Rely.refl j w
  | recentlyRetired rid => exact Rely.refl j w
  | setHTTPOnly => exact ⟨fun _ => Iff.rfl, fun _ _ => rfl⟩
  | closeOnce => exact ⟨fun _ => Iff.rfl, fun _ _ => rfl⟩
  | reserveBufferedBytes o limit n =>
    simp only [exec]
    split_ifs
    · exact Rely.refl j w
    · exact Rely.refl j w
    · exact rely_modify (Or.inr rfl)
  | trySendChunk o chunk =>
    simp only [exec]
    split_ifs
    · exact ⟨fun _ => Iff.rfl, fun _ _ => rfl⟩
    · exact rely_modify (Or.inr rfl)
    · exact Rely.refl j w
  | removeActive _ => exact hc.elim
  | takeAll => exact hc.elim
  | trySendErr _ _ => exact hc.elim
  | sendErr _ _ => exact hc.elim
  | sendDone _ _ => exact hc.elim
  | closeChunks _ => exact hc.elim

theorem exec_ends (h : Inv w) (ho : w.remover o = some i) (hfresh : Fresh (w.heap o)) :
    (∀ err, (exec i (.trySendErr o err) f w).2 = w.modify o (pushErr err)) ∧
    (∀ err, (exec i (.sendErr o err) f w).2 = w.modify o (pushErr err)) ∧
    ∀ e, (exec i (.sendDone o e) f w).2 = w.modify o (pushDone e) := by
  obtain ⟨hdone, herrs⟩ := (h.consistent o (h.allocated o i ho)).buffers hfresh
  exact ⟨fun _ => if_pos herrs, fun _ => if_pos herrs, fun _ => if_pos hdone⟩

theorem exec_closeChunks (ho : (w.heap o).chunksClosed = false) :
    (exec i (.closeChunks o) f w).2 = w.modify o shut := by
  simp only [exec, ho, Bool.false_eq_true, if_false]

theorem Inv.modify_owned (h : Inv w) (ho : w.remover o = some i)
    (hcons : Consistent (w.heap o) → Consistent (g (w.heap o))) :
    Inv (w.modify o g) ∧ ∀ j, j ≠ i → Rely j w (w.modify o g) := by
  refine ⟨h.modify (fun hnone => ?_) hcons, fun j hj => rely_modify (Or.inl fun hj' => ?_)⟩
  · exact absurd (hnone.symm.trans ho) (Option.some_ne_none i).symm
  · exact hj (Option.some.inj (hj'.symm.trans ho))

/-- **One call** keeps it. -/
theorem keeps_exec (h : Inv w) (hc : Requires i c w) (hok : SendsOpen c f w) :
    Inv (exec i c f w).2 ∧ ∀ j, j ≠ i → Rely j w (exec i c f w).2 := by
  cases c with
  | addActive rid maxConcurrency stream =>
    refine ⟨?_, fun j _ => rely_of_quiet h trivial⟩
    simp only [exec]
    split_ifs with hhttp hdup hfull
    · exact h
    · exact h
    · exact h
    · exact h.addActive stream (Option.not_isSome_iff_eq_none.mp hdup)
  | activeFor rid => exact ⟨h, fun j _ => rely_of_quiet h trivial⟩
  | removeActive rid =>
    simp only [exec]
    split
    · exact ⟨h, fun j _ => Rely.refl j w⟩
    · rename_i o ho
      obtain ⟨-, -, hnone, -⟩ := h.of_lookup ho
      refine ⟨h.removeActive i ho, fun j hj => ⟨fun o' => ?_, fun _ _ => rfl⟩⟩
      by_cases heq : o' = o
      · simp [heq, hnone, hj.symm]
      · simp only [Function.update_of_ne heq]
  | takeAll =>
    refine ⟨h.takeAll i, fun j hj => ⟨fun o => ?_, fun _ _ => rfl⟩⟩
    simp only [exec]
    split_ifs with hmem
    · obtain ⟨e, he, rfl⟩ := List.mem_map.mp hmem
      simp [(h.live e he).2.1, hj.symm]
    · rfl
  | recentlyRetired rid => exact ⟨h, fun j _ => rely_of_quiet h trivial⟩
  | setHTTPOnly => exact ⟨{ h with }, fun j _ => rely_of_quiet h trivial⟩
  | closeOnce => exact ⟨{ h with }, fun j _ => rely_of_quiet h trivial⟩
  | reserveBufferedBytes o limit n =>
    refine ⟨?_, fun j _ => rely_of_quiet h trivial⟩
    simp only [exec]
    split_ifs
    · exact h
    · exact h
    · exact h.modify_of_history (fun _ => rfl) fun _ ha => { ha with }
  | trySendChunk o chunk =>
    refine ⟨?_, fun j _ => rely_of_quiet h trivial⟩
    have hopen : (w.heap o).chunksClosed = false := hok
    simp only [exec, hopen, Bool.false_eq_true, if_false]
    split_ifs
    · exact h.modify_of_history (fun _ => rfl) fun _ ha => { ha with }
    · exact h
  | trySendErr o err =>
    rw [(exec_ends h hc.1 hc.2).1]
    exact h.modify_owned hc.1 fun ha => ha.pushErr hc.2 err
  | sendErr o err =>
    rw [(exec_ends h hc.1 hc.2).2.1]
    exact h.modify_owned hc.1 fun ha => ha.pushErr hc.2 err
  | sendDone o e =>
    rw [(exec_ends h hc.1 hc.2).2.2]
    exact h.modify_owned hc.1 fun ha => ha.pushDone hc.2 e
  | closeChunks o =>
    rw [exec_closeChunks hc.2]
    exact h.modify_owned hc.1 fun ha => ha.shut hc.2

theorem history_apply (e : Event) (a : RelayActive) : history (e.apply a) = history a := by
  cases e <;> simp only [Event.apply]
  · rfl
  · split_ifs <;> rfl
  · rfl
  · rfl

theorem Consistent.apply {a : RelayActive} (h : Consistent a) (e : Event) :
    Consistent (e.apply a) := by
  have hb := h.buffered
  cases e with
  | receiveChunk o => exact { h with }
  | releaseBufferedBytes o n =>
    simp only [Event.apply]
    split_ifs
    · exact h
    · exact { h with }
  | receiveDone o =>
    refine { h with buffered := ?_ }
    simp only [Event.apply, List.length_tail]
    omega
  | receiveErr o =>
    refine { h with buffered := ?_ }
    simp only [Event.apply, List.length_tail]
    omega

theorem keeps_env (h : Inv w) (e : Event) : Inv (env e w) ∧ ∀ j, Rely j w (env e w) :=
  ⟨h.modify_of_history (history_apply e) fun _ ha => ha.apply e,
    fun _ => rely_modify (Or.inr (history_apply e _))⟩

/-- Requests of `i` to close: `told` were sent something, `fresh` nothing. -/
structure Owes (i : ι) (told fresh : List ℕ) (w : World ι) : Prop where
  nodup : (told ++ fresh).Nodup
  heldTold : ∀ o ∈ told, w.remover o = some i ∧ (w.heap o).chunksClosed = false
  heldFresh : ∀ o ∈ fresh, w.remover o = some i ∧ Fresh (w.heap o)
  rest : ∀ o, w.remover o = some i → o ∈ told ++ fresh ∨ (w.heap o).chunksClosed = true

section Walk
variable {i : ι} {told fresh os : List ℕ} {o : ℕ} {w w' : World ι} {α : Type}
  {Q : α → World ι → Prop}

theorem Owes.later (h : Owes i told fresh w) (hw : Rely i w w') : Owes i told fresh w' where
  nodup := h.nodup
  heldTold o ho := by
    obtain ⟨hi, hopen⟩ := h.heldTold o ho
    exact ⟨(hw.remover o).mpr hi, (congrArg Prod.fst (hw.history o hi)).trans hopen⟩
  heldFresh o ho := by
    obtain ⟨hi, hfresh⟩ := h.heldFresh o ho
    exact ⟨(hw.remover o).mpr hi, hfresh.congr (hw.history o hi)⟩
  rest o ho := by
    have hi := (hw.remover o).mp ho
    refine (h.rest o hi).imp_right fun hclosed => ?_
    exact (congrArg Prod.fst (hw.history o hi)).trans hclosed

theorem Owes.untold (h : Owes i [] (o :: os) w) : Owes i [o] os w where
  nodup := h.nodup
  heldTold o' ho' := by
    rw [List.mem_singleton.mp ho']
    exact ⟨(h.heldFresh o List.mem_cons_self).1, (h.heldFresh o List.mem_cons_self).2.opened⟩
  heldFresh o' ho' := h.heldFresh o' (List.mem_cons_of_mem o ho')
  rest := h.rest

theorem Owes.tell {g : RelayActive → RelayActive} (h : Owes i [] (o :: os) w)
    (hg : ∀ a, (g a).chunksClosed = a.chunksClosed) : Owes i [o] os (w.modify o g) := by
  have hclosed : ∀ o', ((w.modify o g).heap o').chunksClosed = (w.heap o').chunksClosed := by
    intro o'
    by_cases heq : o' = o
    · simp only [World.modify, heq, Function.update_self, hg]
    · simp only [World.modify, Function.update_of_ne heq]
  refine ⟨h.nodup, fun o' ho' => ?_, fun o' ho' => ?_, fun o' ho' => ?_⟩
  · rw [hclosed]
    exact h.untold.heldTold o' ho'
  · have hne : o' ≠ o := fun heq => (List.nodup_cons.mp h.nodup).1 (heq ▸ ho')
    simp only [World.modify, Function.update_of_ne hne]
    exact h.untold.heldFresh o' ho'
  · rw [hclosed]
    exact h.rest o' ho'

theorem Owes.shut (h : Owes i [o] os w) : Owes i [] os (w.modify o shut) := by
  have hne : ∀ o' ∈ os, o' ≠ o := fun o' ho' heq => (List.nodup_cons.mp h.nodup).1 (heq ▸ ho')
  refine ⟨(List.nodup_cons.mp h.nodup).2, fun _ ho' => absurd ho' List.not_mem_nil, ?_, ?_⟩
  · intro o' ho'
    simp only [World.modify, Function.update_of_ne (hne o' ho')]
    exact h.heldFresh o' ho'
  · intro o' ho'
    by_cases heq : o' = o
    · refine Or.inr ?_
      simp only [World.modify, heq, Function.update_self]
      rfl
    · simp only [World.modify, Function.update_of_ne heq]
      refine (h.rest o' ho').imp_left fun hmem => ?_
      exact (List.mem_cons.mp hmem).resolve_left heq

/-! ### Rules for the calls -/

/-- It closes every request it has taken. -/
abbrev Proper (i : ι) (p : Run) (w : World ι) : Prop :=
  (ownership ι).Safe i (fun _ => Owes i [] []) p w

variable {c : Call} {rid : Bytes} {cfg : Config}

theorem safe_quiet {g : Answer c → Prog Answer α} (hc : Quiet c) (hreq : ∀ t, Requires i c t)
    (h : Owes i told fresh w) (hg : ∀ r t, Owes i told fresh t → (ownership ι).Safe i Q (g r) t) :
    (ownership ι).Safe i Q (perform c >>= g) w := by
  refine safe_perform (hreq w) fun t r t' hrely hinv _ hpost => ?_
  obtain ⟨f, hexec⟩ := hpost
  have hown : Rely i t (exec i c f t).2 := rely_of_quiet hinv hc
  rw [hexec] at hown
  exact hg r t' ((h.later hrely).later hown)

theorem safe_removeActive {g : Option ℕ → Prog Answer α} (h : Owes i [] [] w)
    (hnone : ∀ t, Owes i [] [] t → (ownership ι).Safe i Q (g none) t)
    (hsome : ∀ o t, Owes i [] [o] t → (ownership ι).Safe i Q (g (some o)) t) :
    (ownership ι).Safe i Q (removeActive rid >>= g) w := by
  refine safe_perform trivial fun t r t' hrely hinv _ hpost => ?_
  obtain ⟨f, hexec⟩ := hpost
  have ht := h.later hrely
  simp only [exec] at hexec
  split at hexec
  · cases hexec
    exact hnone t ht
  · rename_i o ho
    cases hexec
    obtain ⟨-, -, -, hfresh⟩ := hinv.of_lookup ho
    refine hsome o _ ⟨List.nodup_singleton o, fun _ ho' => absurd ho' List.not_mem_nil, ?_, ?_⟩
    · intro o' ho'
      rw [List.mem_singleton.mp ho']
      exact ⟨Function.update_self .., hfresh⟩
    · intro o' ho'
      by_cases heq : o' = o
      · exact Or.inl (List.mem_singleton.mpr heq)
      · simp only [Function.update_of_ne heq] at ho'
        exact (ht.rest o' ho').imp_left fun hmem => absurd hmem List.not_mem_nil

theorem arrange_perm (f : Choice) (os : List ℕ) : (f.arrange os).Perm os := by
  unfold Choice.arrange
  split_ifs with h
  · exact List.isPerm_iff.mp h
  · exact List.Perm.refl os

theorem safe_takeAll {g : List ℕ → Prog Answer α} (h : Owes i [] [] w)
    (hg : ∀ os t, Owes i [] os t → (ownership ι).Safe i Q (g os) t) :
    (ownership ι).Safe i Q (perform Call.takeAll >>= g) w := by
  refine safe_perform trivial fun t r t' hrely hinv _ hpost => ?_
  obtain ⟨f, hexec⟩ := hpost
  have ht := h.later hrely
  cases hexec
  have hperm := arrange_perm f (t.active.map Prod.snd)
  refine hg _ _ ⟨hperm.nodup_iff.mpr hinv.addresses, fun _ ho' =>
    absurd ho' List.not_mem_nil, ?_, ?_⟩
  · intro o ho
    have hmem := hperm.mem_iff.mp ho
    obtain ⟨e, he, rfl⟩ := List.mem_map.mp hmem
    exact ⟨if_pos hmem, (hinv.live e he).2.2⟩
  · intro o ho
    by_cases hmem : o ∈ t.active.map Prod.snd
    · exact Or.inl (hperm.mem_iff.mpr hmem)
    · simp only [if_neg hmem] at ho
      exact (ht.rest o ho).imp_left fun hnil => absurd hnil List.not_mem_nil

theorem safe_closeChunks {g : Unit → Prog Answer α} (h : Owes i [o] os w)
    (hg : ∀ t, Owes i [] os t → (ownership ι).Safe i Q (g ()) t) :
    (ownership ι).Safe i Q (closeChunks o >>= g) w := by
  refine safe_perform (h.heldTold o List.mem_cons_self) fun t r t' hrely _ _ hpost => ?_
  obtain ⟨f, hexec⟩ := hpost
  have ht := h.later hrely
  have hw := exec_closeChunks (i := i) (f := f) (ht.heldTold o List.mem_cons_self).2
  rw [hexec] at hw
  rw [show t' = t.modify o shut from hw]
  exact hg _ ht.shut

/-- Calls that end request `o`. -/
inductive Ends (o : ℕ) : Call → (RelayActive → RelayActive) → Prop
  | trySendErr (err : RelayError) : Ends o (.trySendErr o err) (pushErr err)
  | sendErr (err : RelayError) : Ends o (.sendErr o err) (pushErr err)
  | sendDone (e : InferenceResponseEnd) : Ends o (.sendDone o e) (pushDone e)

theorem safe_ends {g : Answer c → Prog Answer α} {push : RelayActive → RelayActive}
    (hc : Ends o c push) (h : Owes i [] (o :: os) w)
    (hg : ∀ r t, Owes i [o] os t → (ownership ι).Safe i Q (g r) t) :
    (ownership ι).Safe i Q (perform c >>= g) w := by
  have hpush : ∀ a, (push a).chunksClosed = a.chunksClosed := by cases hc <;> exact fun _ => rfl
  have hreq : Requires i c w := by cases hc <;> exact h.heldFresh o List.mem_cons_self
  refine safe_perform hreq fun t r t' hrely hinv _ hpost => ?_
  obtain ⟨f, hexec⟩ := hpost
  have ht := h.later hrely
  obtain ⟨hmine, hfresh⟩ := ht.heldFresh o List.mem_cons_self
  have hw : (exec i c f t).2 = t.modify o push := by
    obtain ⟨h1, h2, h3⟩ := exec_ends (f := f) hinv hmine hfresh
    cases hc with
    | trySendErr err => exact h1 err
    | sendErr err => exact h2 err
    | sendDone e => exact h3 e
  rw [hexec] at hw
  rw [show t' = t.modify o push from hw]
  exact hg r _ (ht.tell hpush)

/-! ### Handlers -/

theorem safe_done {a : α} (h : Owes i told fresh w) :
    (ownership ι).Safe i (fun _ => Owes i told fresh) (pure a) w :=
  safe_ret fun _ ht => h.later ht

theorem safe_end_close {push : RelayActive → RelayActive} (hc : Ends o c push)
    (h : Owes i [] (o :: os) w) :
    (ownership ι).Safe i (fun _ => Owes i [] os) (perform c >>= fun _ => closeChunks o) w :=
  safe_ends hc h fun _ _ ht => safe_closeChunks (g := pure) ht fun _ => safe_done

theorem safe_finish {err : RelayError} (h : Owes i [] (o :: os) w) :
    (ownership ι).Safe i (fun _ => Owes i [] os) (finish o err) w :=
  safe_end_close (.trySendErr err) h

theorem proper_finishAll (err : RelayError) (h : Owes i [] os w) :
    Proper i (finishAll err os) w := by
  induction os generalizing w with
  | nil => exact safe_done h
  | cons o os ih => exact safe_bind (safe_finish h) fun _ t ht => ih ht

section
variable (h : Owes i [] [] w)
include h

theorem proper_failAll {err : RelayError} : Proper i (failAll err) w :=
  safe_takeAll h fun _ _ ht => proper_finishAll err ht

theorem proper_failActive {err : RelayError} : Proper i (failActive rid err) w :=
  safe_removeActive h (fun _ => safe_done) fun _ _ ht => safe_finish ht

theorem proper_failActiveOrAll {err : RelayError} : Proper i (failActiveOrAll cfg rid err) w := by
  unfold failActiveOrAll
  split_ifs
  · exact proper_failAll h
  · refine safe_quiet trivial (fun _ => trivial) h fun r t ht => ?_
    cases r with
    | none => exact proper_failAll ht
    | some _ => exact proper_failActive ht

theorem proper_cancelActive {err : Option RelayError} : Proper i (cancelActive rid err) w := by
  refine safe_removeActive h (fun _ => safe_done) fun o t ht => ?_
  cases err with
  | none => exact safe_closeChunks (g := pure) ht.untold fun _ => safe_done
  | some err => exact safe_finish ht

theorem proper_close : Proper i close w := by
  refine safe_quiet trivial (fun _ => trivial) h fun r t ht => ?_
  cases r with
  | false => exact safe_done ht
  | true => exact proper_failAll ht

theorem proper_closeProvider {err : RelayError} : Proper i (closeProvider cfg rid err) w :=
  safe_bind (proper_failActiveOrAll h) fun _ _ ht => proper_close ht

end

theorem safe_openFrame {β : Type} {unencrypted : Bytes → Bytes} (frame : ResponseFrame β)
    (h : Owes i [] [] w) :
    (ownership ι).Safe i (fun _ => Owes i [] []) (openFrame cfg unencrypted frame) w := by
  have hclose : ∀ rid t, Owes i [] [] t →
      (ownership ι).Safe i (fun _ => Owes i [] [])
        (closeProvider cfg rid .aeadFailed >>= fun _ => pure (none : Option β)) t :=
    fun rid t ht => safe_bind (proper_closeProvider ht) fun _ _ => safe_done
  cases frame with
  | dropped => exact safe_done h
  | undecodable rid => exact hclose rid w h
  | encrypted rid opened consumed =>
    simp only [openFrame]
    split_ifs
    · exact safe_done h
    · refine safe_quiet trivial (fun _ => trivial) h fun r t ht => ?_
      rcases r with - | o
      · refine safe_quiet trivial (fun _ => trivial) ht fun r t' ht' => ?_
        split_ifs
        · exact safe_done ht'
        · exact hclose rid t' ht'
      · cases opened with
        | none => exact hclose rid t ht
        | some body => exact safe_done ht
  | unencrypted rid => exact hclose (unencrypted rid) w h
  | plain body => exact safe_done h

theorem proper_deliverChunk {chunk : InferenceResponseChunk} (h : Owes i [] [] w) :
    Proper i (deliverChunk cfg chunk) w := by
  refine safe_quiet trivial (fun _ => trivial) h fun r t ht => ?_
  rcases r with - | o
  · exact safe_done ht
  · refine safe_quiet trivial (fun _ => trivial) ht fun r t' ht' => ?_
    split_ifs
    · refine safe_quiet trivial (fun _ => trivial) ht' fun r t'' ht'' => ?_
      split_ifs
      · exact safe_done ht''
      · exact proper_failActive ht''
    · exact proper_cancelActive ht'

theorem proper_deliverEnd {e : InferenceResponseEnd} (h : Owes i [] [] w) :
    Proper i (deliverEnd e) w :=
  safe_removeActive h (fun _ => safe_done) fun _ _ ht => safe_end_close (.sendDone e) ht

theorem proper_fallBack {inReplyTo : Bytes} (h : Owes i [] [] w) :
    Proper i (fallBack inReplyTo) w := by
  unfold fallBack
  split_ifs
  · exact safe_done h
  · exact safe_removeActive h (fun _ => safe_done) fun _ _ ht => safe_end_close (.sendErr _) ht

/-- **Every operation** ends what it has taken. -/
theorem proper_program (op : Operation) (h : Owes i [] [] w) : Proper i (op.program cfg) w := by
  cases op with
  | addActive rid maxConcurrency stream =>
    exact safe_quiet trivial (fun _ => trivial) h fun _ _ => safe_done
  | inferenceChunk frame =>
    refine safe_bind (safe_openFrame frame h) fun body t ht => ?_
    cases body with
    | none => exact safe_done ht
    | some chunk =>
      dsimp only
      split_ifs
      · exact safe_done ht
      · exact proper_deliverChunk ht
  | inferenceEnd frame =>
    refine safe_bind (safe_openFrame frame h) fun body t ht => ?_
    cases body with
    | none => exact safe_done ht
    | some e =>
      dsimp only
      split_ifs
      · exact safe_done ht
      · exact proper_deliverEnd ht
  | nak code inReplyTo =>
    cases code with
    | unknownMessageType =>
      exact safe_quiet trivial (fun _ => trivial) h fun _ _ ht => proper_fallBack ht
    | duplicateRequestID => exact proper_fallBack h
    | tier2AEADDecryptFailed => exact proper_closeProvider h
    | tier2EncryptedFrameRequired => exact proper_closeProvider h
    | other => exact safe_done h
  | failActive rid err => exact proper_failActive h
  | failActiveOrAll rid err => exact proper_failActiveOrAll h
  | failAll err => exact proper_failAll h
  | cancelActive rid err => exact proper_cancelActive h
  | close => exact proper_close h

theorem proper_goroutine (ops : List Operation) (h : Owes i [] [] w) :
    Proper i (goroutine cfg ops) w := by
  induction ops generalizing w with
  | nil => exact safe_done h
  | cons op ops ih => exact safe_bind (proper_program op h) fun _ t ht => ih ht

end Walk

/-! ### Runs -/

/-- No send or close met a closed channel, no plain send a full buffer; one end or error at most.
Requests in the map are open; others are closed once, when their goroutine has ended. -/
structure Safe (p : Pool ι Answer Unit (World ι)) : Prop where
  running : p.state.panicked = false
  moving : p.state.blocked = false
  terminals : ∀ o, o < p.state.size → (p.state.heap o).terminals.length ≤ 1
  closes : ∀ o, o < p.state.size → (p.state.heap o).closes ≤ 1
  registered : ∀ e ∈ p.state.active, (p.state.heap e.2).closes = 0
  removed : ∀ o, o < p.state.size → o ∉ p.state.active.map Prod.snd →
    ∃ i, p.state.remover o = some i ∧
      ((p.progs i).result.isSome → (p.state.heap o).closes = 1)

/-- Of the session and of every goroutine. -/
def Held (p : Pool ι Answer Unit (World ι)) : Prop :=
  Inv p.state ∧ ∀ i, Proper i (p.progs i) p.state

theorem held_start (cfg : Config) (ops : ι → List Operation) : Held (start cfg ops) := by
  refine ⟨inv_init, fun i => proper_goroutine (ops i) ⟨List.nodup_nil, ?_, ?_, ?_⟩⟩
  · exact fun _ h => absurd h List.not_mem_nil
  · exact fun _ h => absurd h List.not_mem_nil
  · intro o ho
    cases ho

theorem Held.safe (h : Held p) : Safe p where
  running := h.1.running
  moving := h.1.moving
  terminals o ho := (h.1.consistent o ho).terminals
  closes o ho := by
    rw [(h.1.consistent o ho).closes]
    split_ifs <;> omega
  registered e he := by
    obtain ⟨hlt, -, hfresh⟩ := h.1.live e he
    rw [(h.1.consistent _ hlt).closes, hfresh.opened]
    rfl
  removed o ho hnot := by
    cases hi : p.state.remover o with
    | none => exact absurd (h.1.owned o ho hi) hnot
    | some i =>
      refine ⟨i, rfl, fun hended => ?_⟩
      have hproper := h.2 i
      cases hprog : p.progs i with
      | call c k =>
        rw [hprog] at hended
        cases hended
      | ret a =>
        rw [hprog] at hproper
        have howes := hproper p.state (Rely.refl i p.state)
        have hclosed := (howes.rest o hi).resolve_left List.not_mem_nil
        rw [(h.1.consistent o ho).closes, hclosed]
        rfl

variable [DecidableEq ι]

/-- A chunk goes to an open channel. -/
abbrev ChunkOpen : Pool ι Answer Unit (World ι) → Act ι Event Choice → Prop :=
  Guard SendsOpen fun _ _ => True

theorem Held.step {a : Act ι Event Choice} (h : Held p) (ha : ChunkOpen p a) :
    Held (p.step exec env a) := by
  have hreach : Reaches (Pool.step exec env) ChunkOpen p (p.step exec env a) := .step a .refl ha
  refine Contract.pool_safe (K := ownership ι) hreach h.1 h.2 ?_ fun _ e _ hinv => keeps_env hinv e
  intro p i f c k hok hprog hinv hpre
  obtain ⟨hinv', hothers⟩ := keeps_exec hinv hpre (hok.of_call hprog)
  exact ⟨hinv', ⟨f, rfl⟩, hothers⟩

theorem chunkOpen_of_running {a : Act ι Event Choice}
    (h : (p.step exec env a).state.panicked = false) : ChunkOpen p a := by
  rcases a with ⟨i, f⟩ | e
  · simp only [ChunkOpen, Guard]
    split
    · trivial
    · rename_i c k hprog
      rw [step_call hprog] at h
      cases c with
      | trySendChunk o chunk =>
        simp only [exec] at h
        split_ifs at h with hclosed
        · exact Bool.eq_false_of_not_eq_true hclosed
        · exact Bool.eq_false_of_not_eq_true hclosed
      | _ => trivial
  · trivial

/-- **The channels are safe exactly if no chunk is sent to a closed one**, over any goroutines with
any operations, in any interleaving. -/
theorem channels_safe_iff (cfg : Config) (ops : ι → List Operation)
    (as : List (Act ι Event Choice)) :
    (∀ bs, bs <+: as → Safe (run (Pool.step exec env) (start cfg ops) bs)) ↔
      Allowed (Pool.step exec env) ChunkOpen (start cfg ops) as :=
  forall_prefix_iff_allowed (I := Held) (fun _ h => h.safe) (fun _ _ h ha => h.step ha)
    (fun _ _ _ h => chunkOpen_of_running h.running) (held_start cfg ops) as

/-- The read loop (`false`) has looked a request up; the other goroutine closes it. -/
def cancelledChunk : List (Act Bool Event Choice) :=
  [.call false ⟨false, []⟩, .call false ⟨false, []⟩, .call false ⟨false, []⟩,
    .call true ⟨false, []⟩, .call true ⟨false, []⟩, .call true ⟨false, []⟩,
    .call false ⟨false, []⟩]

/-- What the two do. -/
def cancelledChunkOps : Bool → List Operation
  | false => [.addActive (text "req-1") 0 true,
      .inferenceChunk (.plain ⟨text "req-1", text "data"⟩)]
  | true => [.cancelActive (text "req-1") (some .closed)]

theorem chunk_behind_cancel_panics :
    (run (Pool.step exec env)
      (start ⟨0, fun _ => false, List.isEmpty⟩ cancelledChunkOps) cancelledChunk).state.panicked =
        true := by
  decide +kernel

end MacProvider.Coordinator.Relay.ChannelSafety
