import MacProvider.Gateway.Settlement.Concurrent

/-! # What the journal promises

`WriteEffect` returns `nil` once its record is durable, and `Prune` removes what is resolved. Both
hold for `Permitted` steps: a torn line swallows the next record, and a segment can gain an effect
behind the scan. -/

namespace MacProvider.Gateway.Settlement.Durability

open Gateway.Time Settlement.Format Settlement.Scan Settlement.Append Settlement.Prune
open Settlement.Concurrent Lib.Runs

variable {c : Codec} {o : Options} {pid : ℕ} {w : World}

theorem inv_of_reaches (h : Reaches (step c o) (Permitted c o) (start pid) w) : Inv c o w :=
  reaches_induction h (inv_start c o pid) fun _ a hi hok => inv_step hi a hok

/-- Two days into 2026, and the second after. -/
def dayThree : Env := secondsIn 172800

/-- The second behind it. -/
def dayThreeNext : Env := secondsIn 172801

/-- A codec for four records. -/
def ledger : Codec :=
  .indexed [stamped (secondsIn 0) (settleEffect "first"),
    stamped (secondsIn 1) (sealRecord (settleEffect "first").key .settled),
    stamped dayThree (settleEffect "second"), stamped dayThreeNext (settleEffect "third")]

/-- Two of them, and a cutoff on the second day. -/
def settledFirst : List Act :=
  [.write (.effect (settleEffect "first")) (secondsIn 0),
    .write (.seal (settleEffect "first").key .settled) (secondsIn 1)]

/-- The second day of 2026. -/
def secondDay : Instant := seconds (1767225600 + 86400)

/-! ### Removals -/

/-- **No removal unlinks an unresolved effect**, torn lines or not, if its segment is not open and
gained none since the scan. -/
theorem removal_spares_unresolved (h : Reaches (step c o) (fun _ _ => True) (start pid) w)
    {r : Removal} (hok : Permitted c o w (.pruneRemove r)) {s : Segment}
    (hs : s ∈ w.files.disk.rows) (hgone : s ∉ (step c o w (.pruneRemove r)).files.disk.rows) :
    ∀ x ∈ records c s.data, x.kind = .effect → x.key ∈ w.log.written := by
  have hwatched : Watched c w :=
    reaches_induction h (watched_start c pid) fun _ a hw _ => watched_step hw a
  exact unlinked_resolved hwatched r hok hs hgone

/-- Acknowledged, unresolved effects are there. -/
def EffectsKept (c : Codec) (w : World) : Prop :=
  ∀ r ∈ w.log.acked, r.key ∉ w.log.written → ∃ s ∈ w.files.disk.rows, r ∈ records c s.data

/-- **No unresolved effect is removed** if no append starts behind a torn line and `Prune` removes
no segment that is open or gained an effect. -/
theorem effectsKept_of_permitted (h : Reaches (step c o) (Permitted c o) (start pid) w) :
    EffectsKept c w := by
  intro r hr hw
  obtain ⟨-, -, ⟨s, hs, hrec⟩ | ⟨-, hwritten⟩⟩ := (inv_of_reaches h).acked r hr
  · exact ⟨s, hs, mem_records_of_isPrefix (durable_isPrefix o s) hrec⟩
  · exact absurd hwritten hw

/-- With one segment for each record. -/
def quietPrune : List Act :=
  settledFirst ++ [.write (.effect (settleEffect "second")) dayThree, .pruneBegin secondDay,
    .pruneRead false false, .pruneRead false false, .pruneRead false false, .pruneActive,
    .pruneRemove .done, .pruneRemove .done, .pruneRemove .done]

theorem effectsKept_quietPrune :
    (run (step ledger tiny) (start 7) quietPrune).log.unlinked = true ∧
      EffectsKept ledger (run (step ledger tiny) (start 7) quietPrune) :=
  ⟨by decide +kernel, effectsKept_of_permitted (reaches_of_allowed (by decide +kernel))⟩

/-- Three records in one segment. -/
def three : Options := ⟨true, 9, 1000⟩

/-- The segment gains an effect and is rotated away behind the scan. -/
def racingPrune : List Act :=
  settledFirst ++ [.pruneBegin secondDay, .pruneRead false false,
    .write (.effect (settleEffect "second")) dayThree,
    .write (.effect (settleEffect "third")) dayThreeNext, .pruneActive, .pruneRemove .done]

theorem prune_removes_unresolved :
    ¬ ∀ (c : Codec) (o : Options) (pid : ℕ) (w : World),
      Reaches (step c o) (fun _ a => ∀ pid kept, a ≠ .restart pid kept) (start pid) w →
      EffectsKept c w := by
  intro hall
  have hreach : Reaches (step ledger three) (fun _ a => ∀ pid kept, a ≠ .restart pid kept) (start 7)
      (run (step ledger three) (start 7) racingPrune) :=
    reaches_of_allowed (by simp [racingPrune, settledFirst, Allowed])
  have hacked : stamped dayThree (settleEffect "second") ∈
      (run (step ledger three) (start 7) racingPrune).log.acked := by decide +kernel
  have hwritten : (settleEffect "second").key ∉
      (run (step ledger three) (start 7) racingPrune).log.written := by decide +kernel
  have hgone : ∀ s ∈ (run (step ledger three) (start 7) racingPrune).files.disk.rows,
      stamped dayThree (settleEffect "second") ∉ records ledger s.data := by decide +kernel
  obtain ⟨s, hs, hr⟩ := hall ledger three 7 _ hreach _ hacked hwritten
  exact hgone s hs hr

/-! ### Scans -/

/-- A new key, a restart that loses what is not synced, no removal. -/
def Assumed (o : Options) (w : World) : Act → Prop
  | .write x e => x.record.kind = .effect →
      (stamped e x.record).key ∉ w.log.issued.map Record.key
  | .restart _ _ => o.fsync = true
  | .pruneRemove _ => False
  | _ => True

instance decidableAssumed (o : Options) (w : World) : ∀ a, Decidable (Assumed o w a)
  | .write x _ => inferInstanceAs (Decidable (x.record.kind = .effect → _))
  | .restart _ _ => inferInstanceAs (Decidable (o.fsync = true))
  | .pruneRemove _ => .isFalse id
  | .close | .pruneBegin _ | .pruneRead _ _ | .pruneActive => .isTrue trivial

/-- The history of such steps. -/
structure Single (l : Log) : Prop where
  keys : (l.issued.map Record.key).Nodup
  linked : l.unlinked = false

theorem single_step (h : Single w.log) (a : Act) (ha : Assumed o w a) :
    Single (step c o w a).log := by
  cases a with
  | write x e =>
    refine ⟨?_, h.linked⟩
    have hnew : x.record.kind = .effect → _ := ha
    simp only [step, stepWrite, Log.write]
    split_ifs with hk
    · rw [List.map_append, List.nodup_append]
      refine ⟨h.keys, List.nodup_singleton _, fun k hk₁ k' hk₂ => ?_⟩
      rw [List.map_singleton, List.mem_singleton] at hk₂
      exact fun heq => hnew hk (hk₂ ▸ heq ▸ hk₁)
    · exact h.keys
  | close => exact h
  | restart pid kept => exact h
  | pruneBegin before =>
    unfold step
    rcases w.phase with _ | _ | _
    · exact ⟨h.keys, h.linked⟩
    · exact h
    · exact h
  | pruneRead fails statFails =>
    have hlog : (step c o w (.pruneRead fails statFails)).log = w.log := (stepRead_frame _ _).2
    exact hlog ▸ h
  | pruneActive =>
    unfold step
    rcases w.phase with _ | ⟨before, _ | ⟨n, todo⟩, done⟩ | _ <;> exact h
  | pruneRemove r => exact ha.elim

/-- A scan recovers what was acknowledged. -/
def AckedScanned (c : Codec) (w : World) : Prop :=
  ∀ r ∈ w.log.acked, r ∈ (scanned c w.files.disk).effects

/-- **An acknowledged effect is recovered** if each append starts a line. -/
theorem ackedScanned_of_permitted
    (h : Reaches (step c o) (fun w a => Assumed o w a ∧ Permitted c o w a) (start pid) w) :
    AckedScanned c w := by
  intro r hr
  have hinv : Inv c o w := inv_of_reaches (h.mono fun _ _ hok => hok.2)
  have hsingle : Single w.log :=
    reaches_induction (I := fun w : World => Single w.log) h ⟨List.nodup_nil, rfl⟩
      fun _ a hs hok => single_step hs a hok.1
  obtain ⟨hissued, hk, ⟨s, hs, hrec⟩ | ⟨hunlinked, -⟩⟩ := hinv.acked r hr
  swap
  · rw [hsingle.linked] at hunlinked
    cases hunlinked
  have hread := (@mem_filterMap_read _ (fun _ => false) _).mpr ⟨s, hs, (hinv.disk s hs).name, rfl⟩
  refine mem_effects_of_unique hread (mem_records_of_isPrefix (durable_isPrefix o s) hrec) hk ?_
  -- Another effect of the key would be another call of `WriteEffect`.
  intro f hf r' hr' hk' hkey
  obtain ⟨s', hs', -, rfl⟩ := (@mem_filterMap_read _ (fun _ => false) _).mp hf
  have hissued' := (hinv.disk s' hs').issued r' hr' hk'
  exact List.inj_on_of_nodup_map hsingle.keys hissued' hissued hkey

/-- It loses the seal, which is not synced. -/
def restarted : List Act :=
  settledFirst ++ [.restart 8 fun _ => 0, .write (.effect (settleEffect "second")) dayThree]

theorem ackedScanned_restarted :
    (run (step ledger three) (start 7) restarted).log.acked.length = 2 ∧
      AckedScanned ledger (run (step ledger three) (start 7) restarted) :=
  ⟨by decide +kernel, ackedScanned_of_permitted (reaches_of_allowed (by decide +kernel))⟩

/-- One byte, then a write that succeeds. -/
def tornWrite : List Act :=
  [.write (.effect (settleEffect "first")) { secondsIn 0 with writeFails := some 1 },
    .write (.effect (settleEffect "second")) dayThree]

/-- An effect on a torn line is not recovered. -/
theorem torn_line_swallows_acked :
    ¬ ∀ (c : Codec) (o : Options) (pid : ℕ) (w : World),
      Reaches (step c o) (Assumed o) (start pid) w → AckedScanned c w := by
  intro hall
  have hreach : Reaches (step ledger three) (Assumed three) (start 7)
      (run (step ledger three) (start 7) tornWrite) := reaches_of_allowed (by decide +kernel)
  have hacked : stamped dayThree (settleEffect "second") ∈
      (run (step ledger three) (start 7) tornWrite).log.acked := by decide +kernel
  have hlost : stamped dayThree (settleEffect "second") ∉
      (scanned ledger (run (step ledger three) (start 7) tornWrite).files.disk).effects := by
    decide +kernel
  exact hlost (hall ledger three 7 _ hreach _ hacked)

end MacProvider.Gateway.Settlement.Durability
