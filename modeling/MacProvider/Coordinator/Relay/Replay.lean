import MacProvider.Coordinator.Relay.Receive

/-! # No number twice

The frames that a session key accepts have different numbers, none below the counter it meets,
exactly as long as each accepted probe result comes before the number behind it
(`replayFree_iff`). -/

namespace MacProvider.Coordinator.Relay.Replay

open Relay.Frames Relay.Receive Lib.ReceiveWindow Lib.Runs

variable (p : Primitives) (d : Decoders) (peer : Peer)

/-- What is to hold behind every frame. -/
structure ReplayFree (r : Receiver) : Prop where
  once : (r.accepted.map (·.seq)).Nodup
  not_below : ∀ a ∈ r.accepted, a.counter ≤ a.seq
  seen : ∀ u ∈ r.session.p2cSeen,
    r.session.p2cCounter < u ∧ u.toNat ≤ r.session.p2cCounter.toNat + 4096

/-- A probe result comes before the next number. -/
def InOrder (r : Receiver) : Frame → Prop
  | .losslessness probeID e =>
    r.closed = false → (receive p d peer r.session (.losslessness probeID e)).1.isOk = true →
      r.session.p2cCounter + 1 ∉ r.session.p2cSeen
  | _ => True

instance (r : Receiver) : ∀ f, Decidable (InOrder p d peer r f)
  | .losslessness _ _ => inferInstanceAs (Decidable (_ → _ → _))
  | .chunk _ _ => .isTrue trivial
  | .responseEnd _ _ => .isTrue trivial

/-- Accepted numbers are consumed. -/
structure Sound (r : Receiver) : Prop where
  free : ReplayFree r
  room : exhausted ∉ r.session.p2cSeen
  consumed : ∀ a ∈ r.accepted, a.seq.toNat ∈ (window r.session).consumed

/-- What a frame can do to the receiver. -/
inductive Steps (r : Receiver) (f : Frame) : Receiver → Prop
  | kept (closed : Bool) : Steps r f { r with closed }
  | marked (closed : Bool) (accepted : List Accepted) (hopen : r.closed = false)
      (hfresh : Fresh r.session f.seq) (hresponse : ∀ probeID e, f ≠ .losslessness probeID e)
      (haccepted : accepted = r.accepted ∨
        accepted = r.accepted ++ [⟨f.seq, r.session.p2cCounter⟩]) :
      Steps r f ⟨markTier2P2CSequenceSeen r.session f.seq, accepted, closed⟩
  | stepped (hopen : r.closed = false) (hdue : f.seq = r.session.p2cCounter)
      (hne : r.session.p2cCounter ≠ exhausted)
      (hok : (receive p d peer r.session f).1.isOk = true)
      (hprobe : ∃ probeID e, f = .losslessness probeID e) :
      Steps r f ⟨{ r.session with p2cCounter := r.session.p2cCounter + 1 },
        r.accepted ++ [⟨f.seq, r.session.p2cCounter⟩], r.closed⟩

theorem refuse_eq (r : Receiver) (s : Tier2Session) (f : Frame) :
    ∃ closed, r.refuse s f = ⟨s, r.accepted, closed⟩ := by
  cases f
  · exact ⟨true, rfl⟩
  · exact ⟨true, rfl⟩
  · exact ⟨r.closed, rfl⟩

theorem step_steps (r : Receiver) (f : Frame) : Steps p d peer r f (step p d peer r f) := by
  rw [step]
  split_ifs with hclosed
  · exact .kept r.closed
  · have hopen : r.closed = false := Bool.not_eq_true _ ▸ hclosed
    have hrec := receives p d peer r.session f
    rcases hres : receive p d peer r.session f with ⟨res, s⟩
    simp only [hres] at hrec
    rcases hrec with m | ⟨-, hfresh, hresponse⟩ | ⟨hdue, hne, hprobe⟩
    · obtain ⟨closed, h⟩ := refuse_eq r r.session f
      simp only [h]
      exact .kept closed
    · cases res with
      | error m =>
        obtain ⟨closed, h⟩ := refuse_eq r (markTier2P2CSequenceSeen r.session f.seq) f
        simp only [h]
        exact .marked closed _ hopen hfresh hresponse (.inl rfl)
      | ok u => exact .marked r.closed _ hopen hfresh hresponse (.inr rfl)
    · exact .stepped hopen hdue hne (by rw [hres]; rfl) hprobe

theorem Sound.mark {r : Receiver} (h : Sound r) {s : Tier2Session} {seq : UInt64} {closed : Bool}
    {accepted : List Accepted} (hwindow : window s = (window r.session).mark seq.toNat)
    (hroom : exhausted ∉ s.p2cSeen) (hnew : seq.toNat ∉ (window r.session).consumed)
    (hin : seq.toNat ≤ r.session.p2cCounter.toNat + 4096) (hle : r.session.p2cCounter ≤ seq)
    (haccepted : accepted = r.accepted ∨ accepted = r.accepted ++ [⟨seq, r.session.p2cCounter⟩]) :
    Sound ⟨s, accepted, closed⟩ := by
  have hwithin : (window r.session).Within 4096 := within_iff.mpr h.free.seen
  have hconsumed : (window s).consumed = insert seq.toNat (window r.session).consumed := by
    rw [hwindow, Window.consumed_mark hwithin]
  have hseen : (window s).Within 4096 := hwindow ▸ Window.within_mark hwithin hin
  have hold : ∀ a ∈ r.accepted, a.seq.toNat ∈ (window s).consumed := fun a ha =>
    hconsumed ▸ Set.mem_insert_of_mem _ (h.consumed a ha)
  rcases haccepted with rfl | rfl
  · exact ⟨⟨h.free.once, h.free.not_below, within_iff.mp hseen⟩, hroom, hold⟩
  · refine ⟨⟨?_, fun a ha => ?_, within_iff.mp hseen⟩, hroom, fun a ha => ?_⟩
    · rw [List.map_append, List.map_singleton, List.nodup_append]
      refine ⟨h.free.once, List.nodup_singleton _, fun u hu v hv heq => ?_⟩
      obtain ⟨a, ha, rfl⟩ := List.mem_map.mp hu
      have hseq : a.seq = seq := heq.trans (List.mem_singleton.mp hv)
      exact hnew (hseq ▸ h.consumed a ha)
    · rcases List.mem_append.mp ha with ha | ha
      · exact h.free.not_below a ha
      · rw [List.mem_singleton.mp ha]
        exact hle
    · rcases List.mem_append.mp ha with ha | ha
      · exact hold a ha
      · rw [List.mem_singleton.mp ha, hconsumed]
        exact Set.mem_insert _ _

theorem Sound.next {r : Receiver} (h : Sound r) {f : Frame} (hok : InOrder p d peer r f) :
    Sound (step p d peer r f) := by
  have hstep := step_steps p d peer r f
  generalize step p d peer r f = r' at hstep
  rcases hstep with closed | ⟨closed, accepted, hopen, hfresh, hresponse, hacc⟩ |
    ⟨hopen, hdue, hne, hres, ⟨probeID, e, rfl⟩⟩
  · exact ⟨⟨h.free.once, h.free.not_below, h.free.seen⟩, h.room, h.consumed⟩
  · exact h.mark (window_mark h.room hfresh.ne_exhausted)
      (exhausted_notMem_mark h.room hfresh.ne_exhausted) hfresh.notMem_consumed hfresh.inWindow
      hfresh.counter_le hacc
  · have hfree : r.session.p2cCounter + 1 ∉ r.session.p2cSeen := hok hopen hres
    have hnew := (within_iff.mpr h.free.seen).next_notMem
    rw [hdue]
    exact h.mark (window_step_eq_mark hne hfree) h.room hnew (Nat.le_add_right _ _)
      (UInt64.le_refl _) (.inr rfl)

theorem inOrder_of_replayFree {r : Receiver} {f : Frame}
    (h : ReplayFree (step p d peer r f)) : InOrder p d peer r f := by
  cases f with
  | chunk known e => trivial
  | responseEnd known e => trivial
  | losslessness probeID e =>
    intro hopen hok hmem
    have hstep := step_steps p d peer r (.losslessness probeID e)
    generalize hs : step p d peer r (.losslessness probeID e) = r' at hstep h
    cases hstep with
    | marked _ _ _ _ hresponse _ => exact hresponse probeID e rfl
    | stepped _ _ _ _ _ => exact absurd (h.seen _ hmem).1 (UInt64.lt_irrefl _)
    | kept closed =>
      -- an accepted frame is in the log
      rw [step, hopen, if_neg (by simp)] at hs
      rcases hres : receive p d peer r.session (.losslessness probeID e) with ⟨res, s⟩
      rw [hres] at hs hok
      cases res with
      | error m => cases hok
      | ok u =>
        have hlen := congrArg (fun r => r.accepted.length) hs
        simp at hlen

/-- **No number twice**, exactly if each accepted probe result comes before the number behind it. -/
theorem replayFree_iff {s : Tier2Session} (hfresh : s.p2cSeen = ∅) (frames : List Frame) :
    (∀ past, past <+: frames → ReplayFree (run (step p d peer) (.start s) past)) ↔
      Allowed (step p d peer) (InOrder p d peer) (.start s) frames := by
  refine forall_prefix_iff_allowed (fun _ h => Sound.free h) (fun _ _ h hok => h.next p d peer hok)
    (fun r f _ h => inOrder_of_replayFree p d peer (r := r) (f := f) h) ?_ frames
  have hnone : ∀ u, u ∉ s.p2cSeen := by
    intro u hu
    rw [hfresh] at hu
    exact absurd hu (Finset.notMem_empty u)
  refine ⟨⟨List.nodup_nil, fun a ha => ?_, fun u hu => absurd hu (hnone u)⟩,
    hnone _, fun a ha => ?_⟩
  · exact absurd ha List.not_mem_nil
  · exact absurd ha List.not_mem_nil

theorem replayFree_of_chunks_then_probe :
    ReplayFree (run (step demoPrimitives demoDecoders demoPeer) (.start demoSession)
      [demoChunk 1, demoChunk 0, demoProbe 2]) :=
  (replayFree_iff demoPrimitives demoDecoders demoPeer (s := demoSession) rfl _).mpr
    (by decide +kernel) _ List.prefix_rfl

/-- Probe 0 comes behind chunk 1: a second frame 1 is accepted. -/
theorem probe_number_replayed :
    (run (step demoPrimitives demoDecoders demoPeer) (.start demoSession)
        [demoChunk 1, demoProbe 0, demoProbe 1]).accepted.map (·.seq) = [1, 0, 1] ∧
      (run (step demoPrimitives demoDecoders demoPeer) (.start demoSession)
        [demoChunk 1, demoProbe 0]).session.p2cCounter = 1 ∧
      (1 : UInt64) ∈ (run (step demoPrimitives demoDecoders demoPeer) (.start demoSession)
        [demoChunk 1, demoProbe 0]).session.p2cSeen := by
  decide +kernel

end MacProvider.Coordinator.Relay.Replay
