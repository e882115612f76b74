import MacProvider.Gateway.Settlement.Append

/-! # Pruning the journal

`Prune` unlinks old segments that are not active and whose own effects are all sealed and not
quarantined. One that holds only seals or quarantines qualifies, whatever they resolve. -/

namespace MacProvider.Gateway.Settlement.Prune

open Gateway.Time Settlement.Format Settlement.Scan Settlement.Append Lib.Tables

/-! ### `Scan` of a directory -/

/-- A segment as `Scan` reads it. -/
def readSegment (statFails : Bool) (s : Segment) : Read :=
  ⟨s.name, s.data, if statFails then none else some s.modTime⟩

/-- What the calls of `Scan` answer. -/
structure ScanEnv where
  readDirFails : Bool := false
  readFails : Name → Bool := fun _ => false
  statFails : Name → Bool := fun _ => false

/-- The files that `Scan` reads; none when it fails. -/
def readFiles (e : ScanEnv) (d : Disk) : Option (List Read) :=
  if e.readDirFails || (segmentNames d).any e.readFails then none
  else some ((segmentNames d).filterMap fun n => (d.find? n).map (readSegment (e.statFails n)))

/-- `Scan`. -/
def scan (c : Codec) (e : ScanEnv) (d : Disk) : Option ScanResult :=
  (readFiles e d).map fun fs => (tally c fs).result

/-- A scan that does not fail. -/
def scanned (c : Codec) (d : Disk) : Tally :=
  tally c ((segmentNames d).filterMap fun n => (d.find? n).map (readSegment false))

/-- Some segment of `P` has a record of `Q`. -/
def HasSegment (c : Codec) (d : Disk) (P : Segment → Prop) (Q : Record → Prop) : Prop :=
  ∃ s ∈ d.rows, isSegmentName s.name = true ∧ P s ∧ ∃ r ∈ records c s.data, Q r

variable {s : Files} {d : Disk} {c : Codec} {Q : Record → Prop} {before : Instant}

theorem mem_filterMap_read {g : Name → Bool} {f : Read} :
    f ∈ (segmentNames d).filterMap (fun n => (d.find? n).map (readSegment (g n))) ↔
      ∃ s ∈ d.rows, isSegmentName s.name = true ∧ f = readSegment (g s.name) s := by
  rw [List.mem_filterMap]
  constructor
  · rintro ⟨n, hn, hf⟩
    obtain ⟨s, hs, rfl⟩ := Option.map_eq_some_iff.mp hf
    obtain ⟨hrow, rfl⟩ := Table.find?_eq_some.mp hs
    exact ⟨s, hrow, (mem_segmentNames.mp hn).1, rfl⟩
  · rintro ⟨s, hs, hname, rfl⟩
    have hfind : d.find? s.name = some s := Table.find?_eq_some.mpr ⟨hs, rfl⟩
    refine ⟨s.name, mem_segmentNames.mpr ⟨hname, hfind ▸ Option.some_ne_none s⟩, ?_⟩
    rw [hfind, Option.map_some]

theorem hasRecord_scanned :
    HasRecord c ((segmentNames d).filterMap fun n => (d.find? n).map (readSegment false)) Q ↔
      HasSegment c d (fun _ => True) Q := by
  constructor
  · rintro ⟨f, hf, r, hr, hQ⟩
    obtain ⟨s, hs, hname, rfl⟩ := mem_filterMap_read.mp hf
    exact ⟨s, hs, hname, trivial, r, hr, hQ⟩
  · rintro ⟨s, hs, hname, -, r, hr, hQ⟩
    exact ⟨_, mem_filterMap_read.mpr ⟨s, hs, hname, rfl⟩, r, hr, hQ⟩

/-! ### `Prune` -/

/-- How the removal of one segment ends. -/
inductive Removal
  | statFails | gone | removeFails | syncDirFails | done

/-- The errors of `Prune`. -/
inductive PruneErr
  | scan | removeSegment (n : Name) | syncDir

/-- The test of `Prune`. -/
def prunable (before : Instant) (active : Name) (s : SegmentState) : Bool :=
  !(decide (s.name = active) || decide (0 < s.unsealed) || decide (0 < s.quarantined)) &&
    match s.modTime with
    | none => false
    | some t => decide (t < before)

/-- A file is unlinked; a handle on it stays open. -/
def removeFile (n : Name) (s : Files) : Files where
  disk := unlink s.disk n
  journal := { s.journal with
    file := s.journal.file.map fun h => if h.name = n then { h with linked := false } else h }

/-- Unlinked, and no longer counted. -/
def removeSegment (n : Name) (s : Files) : Files :=
  let size := ((s.disk.find? n).map fun seg => seg.data.length).getD 0
  let s' := removeFile n s
  { s' with journal := { s'.journal with totalBytes := s.journal.totalBytes - size } }

/-- What it pruned, its error, and the files. -/
def pruneLoop (before : Instant) (active : Name) (removal : Name → Removal) :
    List SegmentState → ℕ → Files → (ℕ × Option PruneErr) × Files
  | [], n, s => ((n, none), s)
  | seg :: segs, n, s =>
    if !prunable before active seg then pruneLoop before active removal segs n s
    else
      match removal seg.name with
      | .statFails => pruneLoop before active removal segs n s
      | .gone => pruneLoop before active removal segs n s
      | .removeFails => ((n, some (.removeSegment seg.name)), s)
      | .syncDirFails => ((n, some .syncDir), removeFile seg.name s)
      | .done => pruneLoop before active removal segs (n + 1) (removeSegment seg.name s)

/-- What the calls of a `Prune` answer. -/
structure PruneEnv where
  scan : ScanEnv := {}
  removal : Name → Removal := fun _ => .done

variable {e : PruneEnv}

/-- `Prune` without concurrent appends. -/
def prune (c : Codec) (before : Instant) (e : PruneEnv) (s : Files) :
    (ℕ × Option PruneErr) × Files :=
  match scan c e.scan s.disk with
  | none => ((0, some .scan), s)
  | some r => pruneLoop before s.journal.segmentName e.removal r.segments 0 s

/-! ### The segments that stay -/

section Loop
variable {before : Instant} {active : Name} {removal : Name → Removal}

/-- `n` passes the test and is removed, and no error ended the loop before. -/
def Unlinked (before : Instant) (active : Name) (removal : Name → Removal)
    (segs : List SegmentState) (n : Name) : Prop :=
  ∃ pre seg post, segs = pre ++ seg :: post ∧ seg.name = n ∧ prunable before active seg = true ∧
    (removal n = .done ∨ removal n = .syncDirFails) ∧
    ∀ x ∈ pre, prunable before active x = true →
      removal x.name ≠ .removeFails ∧ removal x.name ≠ .syncDirFails

theorem not_unlinked_nil (n : Name) : ¬ Unlinked before active removal [] n := by
  rintro ⟨pre, seg, post, h, -⟩
  simp at h

variable {segs : List SegmentState} {d : Disk} {seg : Segment}

theorem unlinked_cons {x : SegmentState} {n : Name} :
    Unlinked before active removal (x :: segs) n ↔
      (x.name = n ∧ prunable before active x = true ∧
        (removal n = .done ∨ removal n = .syncDirFails)) ∨
      ((prunable before active x = true →
        removal x.name ≠ .removeFails ∧ removal x.name ≠ .syncDirFails) ∧
        Unlinked before active removal segs n) := by
  constructor
  · rintro ⟨pre, seg, post, heq, hn, hp, hr, hpre⟩
    rcases pre with _ | ⟨y, pre⟩
    · cases heq
      exact Or.inl ⟨hn, hp, hr⟩
    · cases heq
      refine Or.inr ⟨hpre x List.mem_cons_self, pre, seg, post, rfl, hn, hp, hr, ?_⟩
      exact fun y hy => hpre y (List.mem_cons_of_mem x hy)
  · rintro (⟨hn, hp, hr⟩ | ⟨hx, pre, seg, post, rfl, hn, hp, hr, hpre⟩)
    · exact ⟨[], x, segs, rfl, hn, hp, hr, fun y hy => absurd hy List.not_mem_nil⟩
    · refine ⟨x :: pre, seg, post, rfl, hn, hp, hr, fun y hy => ?_⟩
      rcases List.mem_cons.mp hy with rfl | hy
      · exact hx
      · exact hpre y hy

theorem mem_unlink {n : Name} : seg ∈ (unlink d n).rows ↔ seg ∈ d.rows ∧ seg.name ≠ n := by
  simp [unlink, Table.delete, List.mem_filter]

theorem find?_unlink_ne {n n' : Name} (h : d.find? n' ≠ none) (hn : n' ≠ n) :
    (unlink d n).find? n' ≠ none := by
  obtain ⟨s, hs⟩ := Option.ne_none_iff_exists'.mp h
  obtain ⟨hrow, rfl⟩ := Table.find?_eq_some.mp hs
  have hfound : (unlink d n).find? s.name = some s :=
    Table.find?_eq_some.mpr ⟨mem_unlink.mpr ⟨hrow, hn⟩, rfl⟩
  rw [hfound]
  exact Option.some_ne_none s

theorem mem_pruneLoop {n : ℕ} {s : Files} :
    seg ∈ (pruneLoop before active removal segs n s).2.disk.rows ↔
      seg ∈ s.disk.rows ∧ ¬ Unlinked before active removal segs seg.name := by
  induction segs generalizing n s with
  | nil => simp [pruneLoop, not_unlinked_nil]
  | cons x segs ih =>
    unfold pruneLoop
    rw [unlinked_cons]
    by_cases hp : prunable before active x = true
    swap
    · rw [if_pos (by simpa using hp), ih]
      simp [hp]
    rw [if_neg (by simpa using hp)]
    -- the other names of the rest are decided there, that of `x` by its own removal
    rcases hr : removal x.name with _ | _ | _ | _ | _ <;> dsimp only
    · have hx : x.name = seg.name → removal seg.name = .statFails := fun h => h ▸ hr
      grind
    · have hx : x.name = seg.name → removal seg.name = .gone := fun h => h ▸ hr
      grind
    · have hx : x.name = seg.name → removal seg.name = .removeFails := fun h => h ▸ hr
      grind
    · have hx : x.name = seg.name → removal seg.name = .syncDirFails := fun h => h ▸ hr
      have hmem : seg ∈ (removeFile x.name s).disk.rows ↔ seg ∈ s.disk.rows ∧ seg.name ≠ x.name :=
        mem_unlink
      grind
    · have hx : x.name = seg.name → removal seg.name = .done := fun h => h ▸ hr
      have hmem : seg ∈ (removeSegment x.name s).disk.rows ↔
          seg ∈ s.disk.rows ∧ seg.name ≠ x.name := mem_unlink
      grind

end Loop

/-- It fails the test, or is not unlinked. -/
def Stays (c : Codec) (before : Instant) (e : PruneEnv) (s : Files) (seg : Segment) : Prop :=
  ∀ r, scan c e.scan s.disk = some r →
    ¬ Unlinked before s.journal.segmentName e.removal r.segments seg.name

/-- **What `Prune` leaves of the directory.** -/
theorem mem_prune {seg : Segment} :
    seg ∈ (prune c before e s).2.disk.rows ↔ seg ∈ s.disk.rows ∧ Stays c before e s seg := by
  unfold prune Stays
  rcases scan c e.scan s.disk with _ | r <;> dsimp only
  · simp
  · rw [mem_pruneLoop]
    simp

/-- The key has a seal or a quarantine. -/
def Resolved (c : Codec) (d : Disk) (k : Key) : Prop :=
  k ∈ (scanned c d).sealed ∨ k ∈ (scanned c d).quarantined

/-- Resolved stays resolved, quarantined counts. -/
def ResolutionsKept (c : Codec) (d d' : Disk) : Prop :=
  (∀ k, Resolved c d k → k ∉ (scanned c d').unsealed.map Record.key) ∧
    ∀ k ∈ (scanned c d).quarantined, k ∈ (scanned c d').quarantined

/-- Resolutions of effects that stay stay, and all quarantines. -/
def Covered (c : Codec) (d : Disk) (stays : Segment → Prop) : Prop :=
  (∀ k, Resolved c d k → HasSegment c d stays (fun r => r.kind = .effect ∧ r.key = k) →
    HasSegment c d stays fun r => r.Resolves ∧ r.key = k) ∧
  ∀ k ∈ (scanned c d).quarantined, HasSegment c d stays fun r => r.kind = .quarantine ∧ r.key = k

theorem hasSegment_prune :
    HasSegment c (prune c before e s).2.disk (fun _ => True) Q ↔
      HasSegment c s.disk (Stays c before e s) Q := by
  constructor
  · rintro ⟨seg, hseg, hname, -, hr⟩
    obtain ⟨hseg, hstays⟩ := mem_prune.mp hseg
    exact ⟨seg, hseg, hname, hstays, hr⟩
  · rintro ⟨seg, hseg, hname, hstays, hr⟩
    exact ⟨seg, mem_prune.mpr ⟨hseg, hstays⟩, hname, trivial, hr⟩

/-- **`Prune` keeps every resolution** exactly when what stays holds a seal or quarantine for each
resolved effect in it, and every quarantine. -/
theorem resolutionsKept_iff (c : Codec) (before : Instant) (e : PruneEnv) (s : Files) :
    ResolutionsKept c s.disk (prune c before e s).2.disk ↔
      Covered c s.disk (Stays c before e s) := by
  have hun : ∀ k, k ∉ (scanned c (prune c before e s).2.disk).unsealed.map Record.key ↔
      (HasSegment c s.disk (Stays c before e s) (fun r => r.kind = .effect ∧ r.key = k) →
        HasSegment c s.disk (Stays c before e s) fun r => r.Resolves ∧ r.key = k) := by
    intro k
    rw [scanned, mem_unsealed_keys, hasRecord_scanned, hasRecord_scanned, hasSegment_prune,
      hasSegment_prune, not_and, not_not]
  have hq : ∀ k, k ∈ (scanned c (prune c before e s).2.disk).quarantined ↔
      HasSegment c s.disk (Stays c before e s) fun r => r.kind = .quarantine ∧ r.key = k := by
    intro k
    rw [scanned, mem_quarantined, hasRecord_scanned, hasSegment_prune]
  unfold ResolutionsKept Covered
  simp only [hun, hq]

/-! ### A quarantine in a segment of its own -/

/-- Behind writes, rotations, restarts and prunes. -/
inductive Reachable (c : Codec) (o : Options) : Files → Prop
  | opened (pid : ℕ) : Reachable c o (openJournal Table.empty pid)
  | writeEffect {s : Files} (e : Env) (r : Record) : Reachable c o s →
      Reachable c o (writeEffect c o e r s).2
  | writeSeal {s : Files} (e : Env) (k : Key) (result : SealResult) : Reachable c o s →
      Reachable c o (writeSeal c o e k result s).2
  | writeQuarantine {s : Files} (e : Env) (k : Key) (reason : String) (attempts : ℤ) :
      Reachable c o s → Reachable c o (writeQuarantine c o e k reason attempts s).2
  | closed {s : Files} : Reachable c o s → Reachable c o (closeJournal s)
  | restarted {s : Files} (kept : Name → ℕ) (pid : ℕ) : Reachable c o s →
      Reachable c o (openJournal (crash s.disk kept) pid)
  | pruned {s : Files} (before : Instant) (e : PruneEnv) : Reachable c o s →
      Reachable c o (prune c before e s).2

/-- The effect of a request. -/
def settleEffect (requestID : String) : Record :=
  { kind := .effect, accountID := "acct", requestID := requestID, effect := effectSettle
    windowDate := "2026-01-01", promptTokens := 3, completionTokens := 4, totalTokens := 7
    tokenSource := "provider", outcome := "completed" }

/-- Calls that succeed, `n` seconds into 2026. -/
def secondsIn (n : ℕ) : Env where
  now _ := seconds (1767225600 + n)
  modTime := seconds (1767225600 + n)

/-- A segment for each record. -/
def tiny : Options := ⟨true, 1, 1000⟩

/-- The quarantine of the first effect. -/
def conflict : Record := quarantineRecord (settleEffect "first").key "conflict" 10

/-- A codec for the three records. -/
def codec : Codec :=
  .indexed [stamped (secondsIn 0) (settleEffect "first"), stamped (secondsIn 1) conflict,
    stamped (secondsIn 2) (settleEffect "second")]

/-- Effect, quarantine, effect, in three segments. -/
def quarantinedFiles : Files :=
  let s := (writeEffect codec tiny (secondsIn 0) (settleEffect "first")
    (openJournal Table.empty 7)).2
  let s := (writeQuarantine codec tiny (secondsIn 1) (settleEffect "first").key "conflict" 10 s).2
  (writeEffect codec tiny (secondsIn 2) (settleEffect "second") s).2

theorem prune_drops_quarantine :
    ¬ ∀ (c : Codec) (o : Options) (s : Files) (before : Instant) (e : PruneEnv), Reachable c o s →
      ResolutionsKept c s.disk (prune c before e s).2.disk := by
  intro hall
  have hreach : Reachable codec tiny quarantinedFiles :=
    .writeEffect _ _ (.writeQuarantine _ _ _ _ (.writeEffect _ _ (.opened 7)))
  obtain ⟨hun, -⟩ := hall codec tiny quarantinedFiles (seconds 1767312000) {} hreach
  have hquarantined :
      (settleEffect "first").key ∈ (scanned codec quarantinedFiles.disk).quarantined := by
    decide +kernel
  have hdriven : (settleEffect "first").key ∈ (scanned codec
      (prune codec (seconds 1767312000) {} quarantinedFiles).2.disk).unsealed.map Record.key := by
    decide +kernel
  exact hun _ (Or.inr hquarantined) hdriven

end MacProvider.Gateway.Settlement.Prune
