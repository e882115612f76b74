import MacProvider.Gateway.Settlement.Prune
import MacProvider.Lib.Runs

/-! # The journal under concurrent use

Writers append under the mutex, so an append is one step. `Prune` takes it only to read the active
segment: its scan, file by file, this read, and each removal are steps of their own. -/

namespace MacProvider.Gateway.Settlement.Concurrent

open Gateway.Time Settlement.Format Settlement.Scan Settlement.Append Settlement.Prune Lib.Lines
open Lib.Runs Lib.Tables

/-! ### The machine -/

/-- How far a call of `Prune` is. -/
inductive Phase
  | idle
  /-- In its scan: the names still to be read, and the files read. -/
  | reading (before : Instant) (todo : List Name) (done : List Read)
  /-- In its loop, with the active segment it has read. -/
  | removing (before : Instant) (active : Name) (todo : List SegmentState)

/-- The history of the journal. -/
structure Log where
  /-- The records of the calls of `WriteEffect`. -/
  issued : List Record := []
  /-- Those of the calls that returned `nil`. -/
  acked : List Record := []
  /-- The keys that had a seal or quarantine in the directory. -/
  written : List Key := []
  /-- The segments that gained an effect since the call of `Prune` began. -/
  fresh : List Name := []
  /-- A segment has been unlinked. -/
  unlinked : Bool := false

/-- The files, a prune and the history. -/
structure World where
  files : Files
  phase : Phase
  log : Log

/-- The three writes. -/
inductive Write
  | effect (r : Record)
  | seal (k : Key) (result : SealResult)
  | quarantine (k : Key) (reason : String) (attempts : ℤ)

/-- One of them. -/
def Write.run (c : Codec) (o : Options) (e : Env) (s : Files) : Write → Option Err × Files
  | .effect r => writeEffect c o e r s
  | .seal k result => writeSeal c o e k result s
  | .quarantine k reason attempts => writeQuarantine c o e k reason attempts s

/-- Its record. -/
def Write.record : Write → Record
  | .effect r => effectRecord r
  | .seal k result => sealRecord k result
  | .quarantine k reason attempts => quarantineRecord k reason attempts

/-- It is synced. -/
def Write.fsync (o : Options) : Write → Bool
  | .seal _ _ => false
  | _ => o.fsync

/-- What happens. -/
inductive Act
  | write (x : Write) (e : Env)
  | close
  /-- The process ends and another opens the directory. -/
  | restart (pid : ℕ) (kept : Name → ℕ)
  | pruneBegin (before : Instant)
  | pruneRead (fails statFails : Bool)
  | pruneActive
  | pruneRemove (r : Removal)

/-- Sealed or quarantined. -/
def resolvedKeys (c : Codec) (d : Disk) : List Key :=
  d.rows.flatMap fun s => ((records c s.data).filter fun r => r.Resolves).map Record.key

/-- Segments with an effect that is new. -/
def gained (c : Codec) (d d' : Disk) : List Name :=
  (d'.rows.filter fun s => (records c s.data).any fun r =>
    decide (r.kind = .effect) &&
      !decide (r ∈ ((d.find? s.name).map fun s => records c s.data).getD [])).map Segment.name

/-- The history behind a write. -/
def Log.write (l : Log) (c : Codec) (d d' : Disk) (x : Write) (r : Record) (ok : Bool) : Log where
  issued := if x.record.kind = .effect then l.issued ++ [r] else l.issued
  acked := if x.record.kind = .effect ∧ ok = true then l.acked ++ [r] else l.acked
  written := l.written ++ resolvedKeys c d'
  fresh := l.fresh ++ gained c d d'
  unlinked := l.unlinked

section Step
variable (c : Codec) (o : Options)

/-- A write. -/
def stepWrite (w : World) (x : Write) (e : Env) : World :=
  let out := x.run c o e w.files
  { w with
    files := out.2
    log := w.log.write c w.files.disk out.2.disk x (stamped e x.record) out.1.isNone }

/-- The next file; a missing one is skipped. -/
def stepRead (w : World) (fails statFails : Bool) : World :=
  match w.phase with
  | .reading before (n :: todo) done =>
    match w.files.disk.find? n with
    | none => { w with phase := .reading before todo done }
    | some s =>
      if fails then { w with phase := .idle }
      else { w with phase := .reading before todo (done ++ [readSegment statFails s]) }
  | _ => w

/-- The next removal. -/
def stepRemove (w : World) (r : Removal) : World :=
  match w.phase with
  | .removing _ _ [] => { w with phase := .idle }
  | .removing before active (seg :: todo) =>
    if !prunable before active seg then { w with phase := .removing before active todo }
    else
      match r with
      | .statFails => { w with phase := .removing before active todo }
      | .gone => { w with phase := .removing before active todo }
      | .removeFails => { w with phase := .idle }
      | .syncDirFails =>
        { files := removeFile seg.name w.files
          phase := .idle
          log := { w.log with unlinked := true } }
      | .done =>
        { files := removeSegment seg.name w.files
          phase := .removing before active todo
          log := { w.log with unlinked := true } }
  | _ => w

/-- One step. -/
def step (w : World) : Act → World
  | .write x e => stepWrite c o w x e
  | .close => { w with files := closeJournal w.files }
  | .restart pid kept =>
    { w with files := openJournal (crash w.files.disk kept) pid, phase := .idle }
  | .pruneBegin before =>
    match w.phase with
    | .idle =>
      { w with
        phase := .reading before (segmentNames w.files.disk) []
        log := { w.log with fresh := [] } }
    | _ => w
  | .pruneRead fails statFails => stepRead w fails statFails
  | .pruneActive =>
    match w.phase with
    | .reading before [] done =>
      { w with
        phase := .removing before w.files.journal.segmentName (tally c done).result.segments }
    | _ => w
  | .pruneRemove r => stepRemove w r

/-- An empty directory. -/
def start (pid : ℕ) : World := ⟨openJournal Table.empty pid, .idle, {}⟩

/-- It finds the start of a line. -/
def StartsLine (w : World) (x : Write) (e : Env) : Prop :=
  ∀ s, w.files.disk.find? (target o e (line c (stamped e x.record)).length w.files) = some s →
    AtLineStart newline s.data

/-- No new effect since the scan, and not open. -/
def Undisturbed (w : World) (n : Name) : Prop :=
  n ∉ w.log.fresh ∧ ∀ h, w.files.journal.file = some h → h.name ≠ n

/-- A restart may lose what is not synced. -/
def Permitted (w : World) : Act → Prop
  | .write x e => StartsLine c o w x e
  | .restart _ _ => o.fsync = true
  | .pruneRemove _ =>
    match w.phase with
    | .removing before active (seg :: _) =>
      prunable before active seg = true → Undisturbed w seg.name
    | _ => True
  | _ => True

instance (w : World) (x : Write) (e : Env) : Decidable (StartsLine c o w x e) :=
  decidable_of_iff
    ((w.files.disk.find? (target o e (line c (stamped e x.record)).length w.files)).all
      (fun s => decide (AtLineStart newline s.data)) = true)
    (by simp [Option.all_eq_true, StartsLine])

instance (w : World) (n : Name) : Decidable (Undisturbed w n) :=
  decidable_of_iff
    (n ∉ w.log.fresh ∧ w.files.journal.file.all (fun h => decide (h.name ≠ n)) = true)
    (by simp [Option.all_eq_true, Undisturbed])

instance decidablePermitted (w : World) (a : Act) : Decidable (Permitted c o w a) := by
  unfold Permitted
  repeat' split
  all_goals infer_instance

end Step

theorem Write.run_eq (c : Codec) (o : Options) (e : Env) (s : Files) (x : Write) :
    x.run c o e s = append c o e x.record (x.fsync o) s := by
  cases x <;> rfl

/-! ### The directory -/

section Disk
variable {c : Codec} {o : Options} {issued : List Record} {d d' : Disk} {r : Record} {n : Name}

/-- What a restart cannot lose. -/
def durable (o : Options) (s : Segment) : Bytes := if o.fsync then s.data.take s.synced else s.data

theorem durable_isPrefix (o : Options) (s : Segment) : durable o s <+: s.data := by
  unfold durable
  split_ifs
  · exact List.take_prefix _ _
  · exact List.prefix_refl _

/-- The record is durable. -/
def Recorded (c : Codec) (o : Options) (d : Disk) (r : Record) : Prop :=
  ∃ s ∈ d.rows, r ∈ records c (durable o s)

/-- A segment as the journal writes it. -/
structure SegmentOk (c : Codec) (issued : List Record) (s : Segment) : Prop where
  name : isSegmentName s.name = true
  synced : s.synced ≤ s.data.length
  issued : ∀ r ∈ records c s.data, r.kind = .effect → r ∈ issued

/-- Every segment is as the journal writes it. -/
def DiskOk (c : Codec) (issued : List Record) (d : Disk) : Prop :=
  ∀ s ∈ d.rows, SegmentOk c issued s

theorem DiskOk.mono (h : DiskOk c issued d) {issued' : List Record}
    (hsub : ∀ r ∈ issued, r ∈ issued') : DiskOk c issued' d :=
  fun s hs => ⟨(h s hs).name, (h s hs).synced, fun r hr hk => hsub r ((h s hs).issued r hr hk)⟩

variable {t : Instant} {m : ℕ} {kept : Name → ℕ}

theorem diskOk_opened (h : DiskOk c issued d) (ho : Opened n t d d') : DiskOk c issued d' := by
  rcases ho with rfl | ⟨hn, ho⟩
  · exact h
  · refine Table.forall_insert ho h ⟨hn, le_rfl, fun r hr => ?_⟩
    cases hr

theorem recorded_opened (h : Recorded c o d r) (ho : Opened n t d d') : Recorded c o d' r := by
  rcases ho with rfl | ⟨-, ho⟩
  · exact h
  · obtain ⟨s, hs, hr⟩ := h
    refine ⟨s, ?_, hr⟩
    rw [(Table.insert_eq_some ho).2]
    exact List.mem_append_left _ hs

theorem records_write {data : Bytes} (h : AtLineStart newline data)
    (hv : r.version = recordVersion) :
    records c (data ++ (line c r).take m) = records c data ∨
      records c (data ++ (line c r).take m) = records c data ++ [r] := by
  by_cases hm : m < (line c r).length
  · exact Or.inl (records_append_torn h hm)
  · rw [List.take_of_length_le (by omega)]
    exact Or.inr (records_append_line h hv)

theorem diskOk_write (h : DiskOk c issued d)
    (hstart : ∀ s, d.find? n = some s → AtLineStart newline s.data)
    (hv : r.version = recordVersion) (hissued : r.kind = .effect → r ∈ issued) :
    DiskOk c issued (write d n ((line c r).take m) t) := by
  refine Table.forall_update _ h fun s hs hn hok => ?_
  have hfind : d.find? n = some s := Table.find?_eq_some.mpr ⟨hs, by simpa using hn⟩
  refine ⟨hok.name, ?_, fun r' hr' hk => ?_⟩
  · have := hok.synced
    simp only [Segment.append, List.length_append]
    omega
  · unfold Segment.append at hr'
    rcases records_write (hstart s hfind) hv with heq | heq
    · rw [heq] at hr'
      exact hok.issued r' hr' hk
    · rw [heq, List.mem_append, List.mem_singleton] at hr'
      rcases hr' with hr' | rfl
      · exact hok.issued r' hr' hk
      · exact hissued hk

theorem recorded_write {bytes : Bytes} (hok : DiskOk c issued d)
    (h : Recorded c o d r) : Recorded c o (write d n bytes t) r := by
  refine Table.exists_update _ h fun s hs _ hr => ?_
  have hsynced := (hok s hs).synced
  refine mem_records_of_isPrefix ?_ hr
  unfold durable Segment.append
  by_cases hf : o.fsync = true
  · rw [if_pos hf, if_pos hf, List.take_append_of_le_length hsynced]
  · rw [if_neg hf, if_neg hf]
    exact List.prefix_append _ _

theorem diskOk_sync (h : DiskOk c issued d) : DiskOk c issued (sync d n) :=
  Table.forall_update _ h fun _ _ _ hok => ⟨hok.name, le_rfl, hok.issued⟩

theorem recorded_sync (h : Recorded c o d r) : Recorded c o (sync d n) r := by
  refine Table.exists_update _ h fun s hs _ hr => ?_
  refine mem_records_of_isPrefix ?_ hr
  unfold durable Segment.sync
  split_ifs
  · rw [List.take_length]
    exact List.take_prefix _ _
  · exact List.prefix_refl _

theorem recorded_line {s : Segment} (hs : d.find? n = some s)
    (hstart : AtLineStart newline s.data) (hv : r.version = recordVersion) :
    Recorded c o (if o.fsync then sync (write d n (line c r) t) n else write d n (line c r) t)
      r := by
  have hwrite := @find?_write d n (line c r) t s hs
  have hrec : r ∈ records c (s.data ++ line c r) := by
    rw [records_append_line hstart hv]
    simp
  by_cases hf : o.fsync = true
  · rw [if_pos hf]
    refine ⟨_, (Table.find?_eq_some.mp (find?_sync hwrite)).1, ?_⟩
    rw [durable, if_pos hf, Segment.sync, List.take_length]
    exact hrec
  · rw [if_neg hf]
    refine ⟨_, (Table.find?_eq_some.mp hwrite).1, ?_⟩
    rw [durable, if_neg hf]
    exact hrec

theorem diskOk_crash (h : DiskOk c issued d) : DiskOk c issued (crash d kept) := by
  refine Table.forall_update _ h fun s _ _ hok => ⟨hok.name, ?_, fun r hr hk => ?_⟩
  · have := hok.synced
    simp only [Segment.cut, List.length_take]
    omega
  · exact hok.issued r (mem_records_of_isPrefix (List.take_prefix _ _) hr) hk

theorem recorded_crash (hf : o.fsync = true) (h : Recorded c o d r) :
    Recorded c o (crash d kept) r := by
  refine Table.exists_update _ h fun s _ _ hr => ?_
  unfold durable at hr ⊢
  rw [if_pos hf] at hr ⊢
  unfold Segment.cut
  rw [List.take_take, min_eq_left (le_max_left _ _)]
  exact hr

theorem diskOk_unlink (h : DiskOk c issued d) : DiskOk c issued (unlink d n) :=
  Table.forall_delete h

end Disk

/-! ### What `Prune` knows -/

section Phase
variable {c : Codec} {w w' : World} {n : Name} {P P' : Record → Prop}

/-- Effects of `n` have `P`, unless it gained one. -/
def Known (c : Codec) (w : World) (n : Name) (P : Record → Prop) : Prop :=
  ∀ s ∈ w.files.disk.rows, s.name = n → ∀ r ∈ records c s.data, r.kind = .effect →
    P r ∨ n ∈ w.log.fresh

/-- The files read are segments; done ones are resolved. -/
def PhaseOk (c : Codec) (w : World) : Prop :=
  match w.phase with
  | .idle => True
  | .reading _ _ done => ∀ f ∈ done, Known c w f.name (· ∈ records c f.data) ∧
      ∀ r ∈ records c f.data, r.Resolves → r.key ∈ w.log.written
  | .removing _ _ todo => ∀ seg ∈ todo, seg.unsealed = 0 → seg.quarantined = 0 →
      Known c w seg.name (·.key ∈ w.log.written)

/-- `w` after writes or a removal. -/
structure Later (c : Codec) (w w' : World) : Prop where
  written : ∀ k ∈ w.log.written, k ∈ w'.log.written
  fresh : ∀ n ∈ w.log.fresh, n ∈ w'.log.fresh
  rows : ∀ s' ∈ w'.files.disk.rows, ∀ r ∈ records c s'.data, r.kind = .effect →
    (∃ s ∈ w.files.disk.rows, s.name = s'.name ∧ r ∈ records c s.data) ∨ s'.name ∈ w'.log.fresh

theorem Known.later (h : Known c w n P) (hl : Later c w w') (hP : ∀ r, P r → P' r) :
    Known c w' n P' := by
  intro s' hs' hn r hr hk
  rcases hl.rows s' hs' r hr hk with ⟨s, hs, hname, hr'⟩ | hfresh
  · rcases h s hs (hname.trans hn) r hr' hk with h | h
    · exact Or.inl (hP r h)
    · exact Or.inr (hl.fresh n h)
  · exact Or.inr (hn ▸ hfresh)

theorem PhaseOk.later (h : PhaseOk c w) (hl : Later c w w') (hphase : w'.phase = w.phase) :
    PhaseOk c w' := by
  unfold PhaseOk at h ⊢
  rw [hphase]
  rcases hw : w.phase with _ | ⟨before, todo, done⟩ | ⟨before, active, todo⟩ <;> rw [hw] at h
  · trivial
  · intro f hf
    obtain ⟨hknown, hres⟩ := h f hf
    exact ⟨hknown.later hl fun _ => id, fun r hr hr' => hl.written _ (hres r hr hr')⟩
  · exact fun seg hseg hu hq => (h seg hseg hu hq).later hl fun r hr => hl.written _ hr

variable {d : Disk} {s : Segment} {r : Record}

theorem mem_gained {d' : Disk} (hs : s ∈ d'.rows)
    (hr : r ∈ records c s.data) (hk : r.kind = .effect) :
    (∃ s₀ ∈ d.rows, s₀.name = s.name ∧ r ∈ records c s₀.data) ∨ s.name ∈ gained c d d' := by
  by_cases hold : r ∈ ((d.find? s.name).map fun s => records c s.data).getD []
  · refine Or.inl ?_
    rcases hfind : d.find? s.name with _ | s₀ <;> rw [hfind] at hold
    · cases hold
    · obtain ⟨hrow, hname⟩ := Table.find?_eq_some.mp hfind
      exact ⟨s₀, hrow, hname, hold⟩
  · refine Or.inr (List.mem_map.mpr ⟨s, List.mem_filter.mpr ⟨hs, ?_⟩, rfl⟩)
    exact List.any_eq_true.mpr ⟨r, hr, by simp [hk, hold]⟩

theorem mem_resolvedKeys (hs : s ∈ d.rows)
    (hr : r ∈ records c s.data) (h : r.Resolves) : r.key ∈ resolvedKeys c d :=
  List.mem_flatMap.mpr ⟨s, hs, List.mem_map_of_mem (List.mem_filter.mpr ⟨hr, by simpa using h⟩)⟩

end Phase

/-! ### The invariant -/

/-- What `Prune` relies on. -/
structure Watched (c : Codec) (w : World) : Prop where
  written : ∀ s ∈ w.files.disk.rows, ∀ r ∈ records c s.data, r.Resolves → r.key ∈ w.log.written
  phase : PhaseOk c w

/-- What every permitted step keeps. -/
structure Inv (c : Codec) (o : Options) (w : World) : Prop extends Watched c w where
  disk : DiskOk c w.log.issued w.files.disk
  /-- An effect that was acknowledged is durable, unless it was resolved and pruned. -/
  acked : ∀ r ∈ w.log.acked, r ∈ w.log.issued ∧ r.kind = .effect ∧
    (Recorded c o w.files.disk r ∨ (w.log.unlinked = true ∧ r.key ∈ w.log.written))
  opened : OpenOk w.files

theorem watched_start (c : Codec) (pid : ℕ) : Watched c (start pid) :=
  ⟨(fun s hs => by cases hs), trivial⟩

theorem inv_start (c : Codec) (o : Options) (pid : ℕ) : Inv c o (start pid) where
  toWatched := watched_start c pid
  disk s hs := by cases hs
  acked r hr := by cases hr
  opened h hh := by cases hh

section Watch
variable {c : Codec} {o : Options} {w : World} (h : Watched c w)
include h

theorem watched_write (x : Write) (e : Env) : Watched c (stepWrite c o w x e) := by
  have hlater : Later c w (stepWrite c o w x e) :=
    ⟨fun k hk => List.mem_append_left _ hk, fun n hn => List.mem_append_left _ hn,
      fun s' hs' r' hr' hk => (mem_gained hs' hr' hk).imp_right (List.mem_append_right _)⟩
  refine ⟨fun s hs r' hr' hres => ?_, h.phase.later hlater rfl⟩
  exact List.mem_append_right _ (mem_resolvedKeys hs hr' hres)

theorem watched_read (fails statFails : Bool) : Watched c (stepRead w fails statFails) := by
  have hphase := h.phase
  unfold stepRead
  unfold PhaseOk at hphase
  rcases hw : w.phase with _ | ⟨before, _ | ⟨n, todo⟩, done⟩ | ⟨before, active, todo⟩ <;> dsimp only
  · exact h
  · exact h
  · rw [hw] at hphase
    rcases hfind : w.files.disk.find? n with _ | s <;> dsimp only
    · exact ⟨h.written, hphase⟩
    split_ifs
    · exact ⟨h.written, trivial⟩
    refine ⟨h.written, fun f hf => ?_⟩
    rcases List.mem_append.mp hf with hf | hf
    · exact hphase f hf
    · rw [List.mem_singleton] at hf
      subst hf
      obtain ⟨hs, -⟩ := Table.find?_eq_some.mp hfind
      refine ⟨fun s' hs' hname r hr _ => Or.inl ?_, h.written s hs⟩
      have hsame : s' = s := List.inj_on_of_nodup_map w.files.disk.nodup hs' hs hname
      exact hsame ▸ hr
  · exact h

theorem watched_active {before : Instant} {done : List Read}
    (hw : w.phase = .reading before [] done) (active : Name) :
    Watched c { w with phase := .removing before active (tally c done).result.segments } := by
  have hphase := h.phase
  unfold PhaseOk at hphase
  rw [hw] at hphase
  refine ⟨h.written, fun seg hseg hu hq => ?_⟩
  obtain ⟨f, hf, hname, -, hall⟩ := sealed_of_count hseg hu hq
  rw [← hname]
  intro s hs hn r hr hk
  rcases (hphase f hf).1 s hs hn r hr hk with hr | hfresh
  · obtain ⟨f', hf', r', hr', hseal, hkey⟩ := hall r hr hk
    have hwritten := (hphase f' hf').2 r' hr' (Or.inl hseal)
    rw [hkey] at hwritten
    exact Or.inl hwritten
  · exact Or.inr hfresh

theorem watched_remove (r : Removal) : Watched c (stepRemove w r) := by
  have hphase := h.phase
  unfold stepRemove
  unfold PhaseOk at hphase
  rcases hw : w.phase with _ | ⟨before, todo, done⟩ | ⟨before, active, _ | ⟨seg, todo⟩⟩ <;>
    dsimp only
  · exact h
  · exact h
  · exact ⟨h.written, trivial⟩
  rw [hw] at hphase
  have hnext : Watched c { w with phase := .removing before active todo } :=
    ⟨h.written, fun s hs => hphase s (List.mem_cons_of_mem seg hs)⟩
  have hleft : ∀ s ∈ (unlink w.files.disk seg.name).rows, ∀ r ∈ records c s.data, r.Resolves →
      r.key ∈ w.log.written := fun s hs => h.written s (mem_unlink.mp hs).1
  split_ifs
  · exact hnext
  cases r with
  | statFails | gone => exact hnext
  | removeFails => exact ⟨h.written, trivial⟩
  | syncDirFails => exact ⟨hleft, trivial⟩
  | done =>
    have hlater : Later c w ⟨removeSegment seg.name w.files, .removing before active todo,
        { w.log with unlinked := true }⟩ :=
      ⟨fun _ => id, fun _ => id, fun s' hs' r' hr' _ =>
        Or.inl ⟨s', (mem_unlink.mp hs').1, rfl, hr'⟩⟩
    exact ⟨hleft, fun s hs hu hq =>
      (hphase s (List.mem_cons_of_mem seg hs) hu hq).later hlater fun _ => id⟩

theorem watched_step (a : Act) : Watched c (step c o w a) := by
  cases a with
  | write x e => exact watched_write h x e
  | close => exact ⟨h.written, h.phase⟩
  | restart pid kept =>
    refine ⟨Table.forall_update (cut_name kept) h.written fun _ _ _ hs r hr => ?_, trivial⟩
    exact hs r (mem_records_of_isPrefix (List.take_prefix _ _) hr)
  | pruneBegin before =>
    unfold step
    rcases hw : w.phase with _ | _ | _ <;> dsimp only
    · exact ⟨h.written, fun f hf => by cases hf⟩
    · exact h
    · exact h
  | pruneRead fails statFails => exact watched_read h fails statFails
  | pruneActive =>
    unfold step
    rcases hw : w.phase with _ | ⟨before, _ | ⟨n, todo⟩, done⟩ | _ <;> dsimp only
    · exact h
    · exact watched_active h hw _
    · exact h
    · exact h
  | pruneRemove r => exact watched_remove h r

/-- What `Prune` accepts is resolved, or has gained an effect. -/
theorem known_of_prunable {before : Instant} {active : Name} {seg : SegmentState}
    {todo : List SegmentState} (hw : w.phase = .removing before active (seg :: todo))
    (hp : prunable before active seg = true) : Known c w seg.name (·.key ∈ w.log.written) := by
  have hphase := h.phase
  unfold PhaseOk at hphase
  rw [hw] at hphase
  unfold prunable at hp
  simp only [Bool.and_eq_true, Bool.not_eq_true', Bool.or_eq_false_iff, decide_eq_false_iff_not,
    not_lt, Nat.le_zero] at hp
  exact hphase seg List.mem_cons_self hp.1.1.2 hp.1.2

/-- **A removal unlinks resolved effects**, or new ones. -/
theorem unlinked_resolved (r : Removal) (hok : Permitted c o w (.pruneRemove r)) {s : Segment}
    (hs : s ∈ w.files.disk.rows) (hgone : s ∉ (step c o w (.pruneRemove r)).files.disk.rows) :
    ∀ x ∈ records c s.data, x.kind = .effect → x.key ∈ w.log.written := by
  unfold step stepRemove at hgone
  unfold Permitted at hok
  rcases hw : w.phase with _ | _ | ⟨before, active, _ | ⟨seg, todo⟩⟩ <;>
    rw [hw] at hgone hok <;> dsimp only at hgone hok
  · exact absurd hs hgone
  · exact absurd hs hgone
  · exact absurd hs hgone
  split_ifs at hgone with hp
  · exact absurd hs hgone
  rw [Bool.not_eq_true', Bool.not_eq_false] at hp
  have hname : s.name = seg.name := by
    cases r with
    | statFails | gone | removeFails => exact absurd hs hgone
    | syncDirFails | done => exact not_not.mp fun hne => hgone (mem_unlink.mpr ⟨hs, hne⟩)
  intro x hx hk
  rcases known_of_prunable h hw hp s hs hname x hx hk with hwritten | hfresh
  · exact hwritten
  · exact absurd hfresh (hok hp).1

end Watch

section Step
variable {c : Codec} {o : Options} {w : World}

variable {e : Env} {l : Log} {d d' : Disk} {x : Write} {r' : Record} {ok : Bool} {phase : Phase}

theorem disk_append {r : Record} {fsync : Bool} {s : Files} {issued : List Record}
    (hopen : OpenOk s) (hdisk : DiskOk c issued s.disk)
    (hissued : r.kind = .effect → stamped e r ∈ issued)
    (hstart : ∀ seg, s.disk.find? (target o e (line c (stamped e r)).length s) = some seg →
      AtLineStart newline seg.data) :
    DiskOk c issued (append c o e r fsync s).2.disk ∧
      (∀ r', Recorded c o s.disk r' → Recorded c o (append c o e r fsync s).2.disk r') ∧
      (fsync = o.fsync → (append c o e r fsync s).1 = none →
        Recorded c o (append c o e r fsync s).2.disk (stamped e r)) := by
  obtain ⟨-, d, hd, hcases⟩ := append_cases c o e r fsync hopen
  set n := target o e (line c (stamped e r)).length s
  have hv : (stamped e r).version = recordVersion := rfl
  have hdok := diskOk_opened hdisk hd
  have hkeep : ∀ r', Recorded c o s.disk r' → Recorded c o d r' := fun r' h => recorded_opened h hd
  have hdstart : ∀ seg, d.find? n = some seg → AtLineStart newline seg.data := by
    rcases hd with rfl | ⟨-, hins⟩
    · exact hstart
    · intro seg hseg
      rw [Table.find?_insert hins, if_pos rfl] at hseg
      cases hseg
      exact Or.inl rfl
  rcases hcases with ⟨herr, heq⟩ | ⟨hfound, ⟨m, -, herr, heq⟩ | ⟨-, heq⟩⟩ <;> rw [heq]
  · exact ⟨hdok, hkeep, fun _ hnone => absurd hnone herr⟩
  · refine ⟨diskOk_write hdok hdstart hv hissued, fun r' h => recorded_write hdok (hkeep r' h), ?_⟩
    exact fun _ hnone => absurd hnone herr
  · obtain ⟨seg, hseg⟩ := Option.ne_none_iff_exists'.mp hfound
    have hwrite := @diskOk_write c issued d (stamped e r) n e.modTime (line c (stamped e r)).length
      hdok hdstart hv hissued
    rw [List.take_length] at hwrite
    refine ⟨?_, fun r' h => ?_, fun hf _ => ?_⟩
    · split_ifs
      · exact diskOk_sync hwrite
      · exact hwrite
    · split_ifs
      · exact recorded_sync (recorded_write hdok (hkeep r' h))
      · exact recorded_write hdok (hkeep r' h)
    · rw [hf]
      exact recorded_line hseg (hdstart seg hseg) hv

theorem mem_issued_write {r : Record} :
    r' ∈ (l.write c d d' x r ok).issued ↔
      r' ∈ l.issued ∨ (x.record.kind = .effect ∧ r' = r) := by
  unfold Log.write
  by_cases hk : x.record.kind = .effect <;> simp [hk]

theorem mem_acked_write {r : Record} :
    r' ∈ (l.write c d d' x r ok).acked ↔
      r' ∈ l.acked ∨ (x.record.kind = .effect ∧ ok = true ∧ r' = r) := by
  unfold Log.write
  by_cases hk : x.record.kind = .effect <;> by_cases hok : ok = true <;> simp [hk, hok]

theorem stepRead_frame (fails statFails : Bool) :
    (stepRead w fails statFails).files = w.files ∧ (stepRead w fails statFails).log = w.log := by
  unfold stepRead
  rcases w.phase with _ | ⟨before, _ | ⟨n, todo⟩, done⟩ | ⟨before, active, todo⟩ <;> dsimp only
  · exact ⟨rfl, rfl⟩
  · exact ⟨rfl, rfl⟩
  · rcases w.files.disk.find? n with _ | s <;> dsimp only
    · exact ⟨rfl, rfl⟩
    · split_ifs <;> exact ⟨rfl, rfl⟩
  · exact ⟨rfl, rfl⟩

section
variable (h : Inv c o w)
include h

theorem inv_write (hok : StartsLine c o w x e) : Inv c o (stepWrite c o w x e) := by
  have hwatched := watched_write (o := o) h.toWatched x e
  revert hwatched
  unfold stepWrite
  rw [Write.run_eq]
  intro hwatched
  set r := stamped e x.record with hr
  set out := append c o e x.record (x.fsync o) w.files with hout
  set log := w.log.write c w.files.disk out.2.disk x r out.1.isNone with hlog
  have hsub : ∀ r' ∈ w.log.issued, r' ∈ log.issued :=
    fun r' hr' => mem_issued_write.mpr (Or.inl hr')
  have hissued : x.record.kind = .effect → r ∈ log.issued :=
    fun hk => mem_issued_write.mpr (Or.inr ⟨hk, rfl⟩)
  obtain ⟨hdisk, hkeep, hnew⟩ := @disk_append c o e x.record (x.fsync o) w.files log.issued
    h.opened (h.disk.mono hsub) hissued hok
  refine ⟨hwatched, hdisk, fun r' hr' => ?_, ?_⟩
  · rcases mem_acked_write.mp hr' with hr' | ⟨hk, hnone, rfl⟩
    · obtain ⟨hi, hk, hrec⟩ := h.acked r' hr'
      exact ⟨hsub r' hi, hk, hrec.imp (hkeep r') fun ⟨hu, hw⟩ => ⟨hu, List.mem_append_left _ hw⟩⟩
    · have hfsync : x.fsync o = o.fsync := by
        rcases x with r | ⟨k, result⟩ | ⟨k, reason, attempts⟩
        · rfl
        · cases hk
        · rfl
      exact ⟨hissued hk, hk, Or.inl (hnew hfsync (Option.isNone_iff_eq_none.mp hnone))⟩
  · exact (append_cases c o e x.record (x.fsync o) h.opened).1

theorem inv_quiet {w' : World} (hwatched : Watched c w') (hfiles : w'.files = w.files)
    (hlog : w'.log = { w.log with fresh := w'.log.fresh }) : Inv c o w' := by
  refine ⟨hwatched, ?_, ?_, hfiles ▸ h.opened⟩
  · rw [hlog, hfiles]
    exact h.disk
  · rw [hlog, hfiles]
    exact h.acked

theorem inv_removed {n : Name} {files : Files}
    (hknown : Known c w n (·.key ∈ w.log.written)) (hun : Undisturbed w n)
    (hdisk : files.disk = unlink w.files.disk n)
    (hfile : files.journal.file = w.files.journal.file.map fun h =>
      if h.name = n then { h with linked := false } else h)
    (hname : files.journal.segmentName = w.files.journal.segmentName)
    (hwatched : Watched c ⟨files, phase, { w.log with unlinked := true }⟩) :
    Inv c o ⟨files, phase, { w.log with unlinked := true }⟩ := by
  refine ⟨hwatched, ?_, fun r hr => ?_, fun h' hh' => ?_⟩
  · exact hdisk ▸ diskOk_unlink h.disk
  · obtain ⟨hi, hk, hrec⟩ := h.acked r hr
    refine ⟨hi, hk, ?_⟩
    rcases hrec with ⟨s, hs, hrs⟩ | ⟨-, hw⟩
    · by_cases hn : s.name = n
      · have hr' := mem_records_of_isPrefix (durable_isPrefix o s) hrs
        rcases hknown s hs hn r hr' hk with hw | hfresh
        · exact Or.inr ⟨rfl, hw⟩
        · exact absurd hfresh hun.1
      · refine Or.inl ⟨s, ?_, hrs⟩
        rw [hdisk]
        exact mem_unlink.mpr ⟨hs, hn⟩
    · exact Or.inr ⟨rfl, hw⟩
  · rw [hfile] at hh'
    obtain ⟨h₀, hopen, rfl⟩ := Option.map_eq_some_iff.mp hh'
    obtain ⟨hlinked, hactive, hfound⟩ := h.opened h₀ hopen
    rw [if_neg (hun.2 h₀ hopen)]
    refine ⟨hlinked, hactive.trans hname.symm, ?_⟩
    rw [hdisk]
    exact find?_unlink_ne hfound (hun.2 h₀ hopen)

theorem inv_remove {r : Removal} (hok : Permitted c o w (.pruneRemove r)) :
    Inv c o (stepRemove w r) := by
  have hwatched := watched_remove h.toWatched r
  revert hwatched
  unfold stepRemove
  unfold Permitted at hok
  rcases hw : w.phase with _ | ⟨before, todo, done⟩ | ⟨before, active, _ | ⟨seg, todo⟩⟩ <;>
    rw [hw] at hok <;> dsimp only at hok ⊢ <;> intro hwatched
  · exact h
  · exact h
  · exact inv_quiet h hwatched rfl rfl
  by_cases hp : prunable before active seg = true
  swap
  · rw [if_pos (by simpa using hp)] at hwatched ⊢
    exact inv_quiet h hwatched rfl rfl
  rw [if_neg (by simpa using hp)] at hwatched ⊢
  have hknown := known_of_prunable h.toWatched hw hp
  cases r with
  | statFails | gone | removeFails => exact inv_quiet h hwatched rfl rfl
  | syncDirFails | done => exact inv_removed h hknown (hok hp) rfl rfl rfl hwatched

/-- **Every permitted step keeps the invariant.** -/
theorem inv_step (a : Act) (hok : Permitted c o w a) : Inv c o (step c o w a) := by
  have hwatched := watched_step (o := o) h.toWatched a
  cases a with
  | write x e => exact inv_write h hok
  | close =>
    refine ⟨hwatched, h.disk, h.acked, fun h hh => ?_⟩
    cases hh.symm.trans (closeJournal_file w.files)
  | restart pid kept =>
    refine ⟨hwatched, diskOk_crash h.disk, fun r hr => ?_, fun h hh => by cases hh⟩
    obtain ⟨hi, hk, hrec⟩ := h.acked r hr
    exact ⟨hi, hk, hrec.imp_left (recorded_crash hok)⟩
  | pruneBegin before =>
    refine inv_quiet h hwatched ?_ ?_ <;> unfold step <;> rcases w.phase with _ | _ | _ <;> rfl
  | pruneRead fails statFails =>
    obtain ⟨hfiles, hlog⟩ := stepRead_frame (w := w) fails statFails
    exact inv_quiet h hwatched hfiles (by rw [step, hlog])
  | pruneActive =>
    refine inv_quiet h hwatched ?_ ?_ <;> unfold step <;>
      rcases w.phase with _ | ⟨before, _ | ⟨n, todo⟩, done⟩ | _ <;> rfl
  | pruneRemove r => exact inv_remove h hok

end

end Step

end MacProvider.Gateway.Settlement.Concurrent
