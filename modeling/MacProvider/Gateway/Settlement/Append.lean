import MacProvider.Gateway.Settlement.Scan
import MacProvider.Lib.Tables

/-! # Appending to the journal

The journal's files and its state in memory (`Files`), and `append` with every call to the operating
system, answered by `Env`. A handle on an unlinked file still takes writes (`Handle.linked`). -/

namespace MacProvider.Gateway.Settlement.Append

open Gateway.Time Settlement.Format Settlement.Scan Lib.Tables

/-! ### The directory -/

/-- A file of the journal. -/
structure Segment where
  name : Name
  data : Bytes
  /-- The bytes that an fsync has made durable. -/
  synced : ℕ
  modTime : Instant

/-- The directory. -/
abbrev Disk := Table Segment.name

/-- How its names begin. -/
def segmentPrefix : Name := ['e', 'f', 'f', 'e', 'c', 't', 's', '-']
/-- How they end. -/
def segmentSuffix : Name := ['.', 'j', 's', 'o', 'n', 'l']

/-- The name of a new file. -/
def segmentName (now : Instant) (pid : ℕ) : Name :=
  segmentPrefix ++ (Nat.toDigits 10 (toUnixMilli now) ++ '-' ::
    (Nat.toDigits 10 pid ++ segmentSuffix))

/-- The name of a segment. -/
def isSegmentName (name : Name) : Bool :=
  segmentPrefix.isPrefixOf name && segmentSuffix.isSuffixOf name

/-- Of a name; those without one come last. -/
def stamp (name : Name) : ℤ :=
  let trimmed := (name.drop segmentPrefix.length).rdrop segmentSuffix.length
  (parseInt (String.ofList (trimmed.takeWhile (· ≠ '-')))).getD (2 ^ 62 - 1)

/-- The order of a scan. -/
def scannedBefore (a b : Name) : Prop := stamp a < stamp b ∨ (stamp a = stamp b ∧ ¬ b < a)

instance : DecidableRel scannedBefore := fun a b =>
  inferInstanceAs (Decidable (stamp a < stamp b ∨ (stamp a = stamp b ∧ ¬ b < a)))

/-- The segments, in this order. -/
def segmentNames (d : Disk) : List Name :=
  ((d.rows.map Segment.name).filter isSegmentName).insertionSort scannedBefore

/-- Their size. -/
def dirBytes (d : Disk) : ℕ :=
  ((segmentNames d).map fun n => ((d.find? n).map fun s => s.data.length).getD 0).sum

theorem isSegmentName_segmentName (now : Instant) (pid : ℕ) :
    isSegmentName (segmentName now pid) = true := by
  rw [isSegmentName, Bool.and_eq_true, List.isPrefixOf_iff_prefix, List.isSuffixOf_iff_suffix]
  refine ⟨List.prefix_append _ _, ?_⟩
  exact ⟨segmentPrefix ++ (Nat.toDigits 10 (toUnixMilli now) ++ '-' :: Nat.toDigits 10 pid),
    by simp [segmentName]⟩

variable {d : Disk} {n n' : Name} {bytes : Bytes} {t : Instant}

theorem mem_segmentNames : n ∈ segmentNames d ↔ isSegmentName n = true ∧ d.find? n ≠ none := by
  rw [segmentNames, (List.perm_insertionSort _ _).mem_iff, List.mem_filter, and_comm]
  refine and_congr_right fun _ => ?_
  rw [Ne, Table.find?_eq_none]
  simp

/-! ### Primitive changes of the directory -/

/-- Bytes are added. -/
def Segment.append (bytes : Bytes) (t : Instant) (s : Segment) : Segment :=
  { s with data := s.data ++ bytes, modTime := if bytes = [] then s.modTime else t }

/-- They are made durable. -/
def Segment.sync (s : Segment) : Segment := { s with synced := s.data.length }

/-- At least the synced bytes of a segment. -/
def Segment.cut (kept : Name → ℕ) (s : Segment) : Segment :=
  { s with data := s.data.take (max s.synced (kept s.name)) }

theorem append_name (bytes : Bytes) (t : Instant) (s : Segment) :
    (Segment.append bytes t s).name = s.name := rfl

theorem sync_name (s : Segment) : s.sync.name = s.name := rfl

theorem cut_name (kept : Name → ℕ) (s : Segment) : (s.cut kept).name = s.name := rfl

/-- `write(2)` to a file that is open for appending. -/
def write (d : Disk) (n : Name) (bytes : Bytes) (t : Instant) : Disk :=
  d.update (fun s => decide (s.name = n)) (Segment.append bytes t) (append_name bytes t)

/-- A file is synced. -/
def sync (d : Disk) (n : Name) : Disk :=
  d.update (fun s => decide (s.name = n)) Segment.sync sync_name

/-- A file is removed. -/
def unlink (d : Disk) (n : Name) : Disk := d.delete fun s => decide (s.name = n)

/-- Bytes that are not synced may be lost. -/
def crash (d : Disk) (kept : Name → ℕ) : Disk :=
  d.update (fun _ => true) (Segment.cut kept) (cut_name kept)

/-! ### The journal -/

/-- An open file. -/
structure Handle where
  name : Name
  /-- The file is still in the directory. -/
  linked : Bool := true
  /-- `Close` has failed on it. -/
  dead : Bool := false

/-- The state in memory. -/
structure Journal where
  file : Option Handle := none
  segmentName : Name := []
  segmentBytes : ℕ := 0
  totalBytes : ℕ := 0
  closed : Bool := false
  pid : ℕ := 0

/-- The directory and the state. -/
structure Files where
  disk : Disk
  journal : Journal

/-- `Options`, the defaults filled in. -/
structure Options where
  fsync : Bool
  segmentMaxBytes : ℕ
  maxTotalBytes : ℕ

/-- The errors of `append`, by the call that failed. -/
inductive Err
  | closed | full | closeSegment | openSegment | syncDir | statSegment | writeRecord | syncRecord

/-- What the calls of one `append` answer. -/
structure Env where
  /-- The two readings of `j.now()`. -/
  now : ℕ → Instant
  closeFails : Bool := false
  openFails : Bool := false
  syncDirFails : Bool := false
  statFails : Bool := false
  /-- The bytes a failing write has written. -/
  writeFails : Option ℕ := none
  syncFails : Bool := false
  /-- The modification time that a write leaves. -/
  modTime : Instant

/-- `Open`, in a new process. -/
def openJournal (d : Disk) (pid : ℕ) : Files := ⟨d, { totalBytes := dirBytes d, pid := pid }⟩

/-- A new segment. -/
def openSegment (e : Env) (s : Files) : Except Err Handle × Files :=
  let name := segmentName (e.now 1) s.journal.pid
  if e.openFails then (.error .openSegment, s)
  else
    -- a name that exists is opened for appending
    let disk := (s.disk.insert ⟨name, [], 0, e.modTime⟩).getD s.disk
    if e.syncDirFails then (.error .syncDir, { s with disk := disk })
    else if e.statFails then (.error .statSegment, { s with disk := disk })
    else
      (.ok ⟨name, true, false⟩,
        { disk := disk
          journal := { s.journal with
            file := some ⟨name, true, false⟩
            segmentName := name
            segmentBytes := ((disk.find? name).map fun seg => seg.data.length).getD 0 } })

/-- A segment with room for the line. -/
def ensureSegmentLocked (o : Options) (e : Env) (need : ℕ) (s : Files) :
    Except Err Handle × Files :=
  match s.journal.file with
  | none => openSegment e s
  | some h =>
    if s.journal.segmentBytes + need ≤ o.segmentMaxBytes then (.ok h, s)
    else if h.dead || e.closeFails then
      (.error .closeSegment,
        { s with journal := { s.journal with file := some { h with dead := true } } })
    else openSegment e { s with journal := { s.journal with file := none } }

/-- The write and the sync of `append`. -/
def writeLine (e : Env) (l : Bytes) (fsync : Bool) (h : Handle) (s : Files) : Option Err × Files :=
  let bytes := if h.dead then [] else l.take (e.writeFails.getD l.length)
  let s : Files :=
    { disk := if h.linked then write s.disk h.name bytes e.modTime else s.disk
      journal := { s.journal with
        segmentBytes := s.journal.segmentBytes + bytes.length
        totalBytes := s.journal.totalBytes + bytes.length } }
  if h.dead || e.writeFails.isSome then (some .writeRecord, s)
  else if fsync then
    if e.syncFails then (some .syncRecord, s)
    else (none, { s with disk := if h.linked then sync s.disk h.name else s.disk })
  else (none, s)

/-- A record as it is written. -/
def stamped (e : Env) (r : Record) : Record :=
  { r with
    version := recordVersion
    writtenAtUnixMS := if r.writtenAtUnixMS = 0 then toUnixMilli (e.now 0) else r.writtenAtUnixMS }

/-- `append`. -/
def append (c : Codec) (o : Options) (e : Env) (r : Record) (fsync : Bool) (s : Files) :
    Option Err × Files :=
  let l := line c (stamped e r)
  if s.journal.closed then (some .closed, s)
  else if o.maxTotalBytes < s.journal.totalBytes + l.length then (some .full, s)
  else
    match ensureSegmentLocked o e l.length s with
    | (.error err, s) => (some err, s)
    | (.ok h, s) => writeLine e l fsync h s

/-- The record of an effect. -/
def effectRecord (r : Record) : Record :=
  { r with kind := .effect, effect := if r.effect = "" then effectSettle else r.effect }

/-- `WriteEffect`. -/
def writeEffect (c : Codec) (o : Options) (e : Env) (r : Record) (s : Files) : Option Err × Files :=
  append c o e (effectRecord r) o.fsync s

/-- The record of a seal. -/
def sealRecord (k : Key) (result : SealResult) : Record :=
  { kind := .seal, accountID := k.accountID, requestID := k.requestID, effect := k.effect
    result := some result }

/-- `WriteSeal`: a seal is not synced. -/
def writeSeal (c : Codec) (o : Options) (e : Env) (k : Key) (result : SealResult) (s : Files) :
    Option Err × Files :=
  append c o e (sealRecord k result) false s

/-- The record of a quarantine. -/
def quarantineRecord (k : Key) (reason : String) (attempts : ℤ) : Record :=
  { kind := .quarantine, accountID := k.accountID, requestID := k.requestID, effect := k.effect
    reason := reason, attempts := attempts }

/-- `WriteQuarantine`. -/
def writeQuarantine (c : Codec) (o : Options) (e : Env) (k : Key) (reason : String) (attempts : ℤ)
    (s : Files) : Option Err × Files :=
  append c o e (quarantineRecord k reason attempts) o.fsync s

/-- `Close`; without a file the segment stays. -/
def closeJournal (s : Files) : Files :=
  { s with journal :=
    match s.journal.file with
    | none => { s.journal with closed := true }
    | some _ =>
      { s.journal with file := none, segmentName := [], segmentBytes := 0, closed := true } }

theorem closeJournal_file (s : Files) : (closeJournal s).journal.file = none := by
  unfold closeJournal
  dsimp only
  split
  · assumption
  · rfl

/-! ### What an append leaves behind -/

/-- Where `need` bytes go. -/
def target (o : Options) (e : Env) (need : ℕ) (s : Files) : Name :=
  match s.journal.file with
  | none => segmentName (e.now 1) s.journal.pid
  | some h =>
    if s.journal.segmentBytes + need ≤ o.segmentMaxBytes then h.name
    else segmentName (e.now 1) s.journal.pid

/-- The open file is the segment. -/
def OpenOk (s : Files) : Prop :=
  ∀ h, s.journal.file = some h →
    h.linked = true ∧ h.name = s.journal.segmentName ∧ s.disk.find? h.name ≠ none

/-- With a new segment, or without. -/
def Opened (n : Name) (t : Instant) (d d' : Disk) : Prop :=
  d' = d ∨ (isSegmentName n = true ∧ d.insert ⟨n, [], 0, t⟩ = some d')

theorem openSegment_cases (e : Env) (s : Files) (hs : s.journal.file = none) :
    ∃ d, Opened (segmentName (e.now 1) s.journal.pid) e.modTime s.disk d ∧
      (openSegment e s).2.disk = d ∧ OpenOk (openSegment e s).2 ∧
      ∀ h, (openSegment e s).1 = .ok h → h.name = segmentName (e.now 1) s.journal.pid ∧
        h.linked = true ∧ h.dead = false ∧ d.find? h.name ≠ none := by
  have hnone : ∀ d, OpenOk { s with disk := d } := fun d h hh => by
    rw [show ({ s with disk := d } : Files).journal.file = none from hs] at hh
    cases hh
  unfold openSegment
  set n := segmentName (e.now 1) s.journal.pid
  split_ifs with h1 h2 h3
  · exact ⟨s.disk, Or.inl rfl, rfl, hnone s.disk, fun h hh => by cases hh⟩
  all_goals
    have hopened :
        Opened n e.modTime s.disk ((s.disk.insert ⟨n, [], 0, e.modTime⟩).getD s.disk) := by
      rcases hi : s.disk.insert ⟨n, [], 0, e.modTime⟩ with _ | d
      · exact Or.inl rfl
      · exact Or.inr ⟨isSegmentName_segmentName _ _, hi⟩
  · exact ⟨_, hopened, rfl, hnone _, fun h hh => by cases hh⟩
  · exact ⟨_, hopened, rfl, hnone _, fun h hh => by cases hh⟩
  · have hfound : ((s.disk.insert ⟨n, [], 0, e.modTime⟩).getD s.disk).find? n ≠ none := by
      rcases hi : s.disk.insert ⟨n, [], 0, e.modTime⟩ with _ | d
      · exact Table.insert_eq_none.mp hi
      · rw [Option.getD_some, Table.find?_insert hi]
        exact (if_pos rfl).trans_ne (Option.some_ne_none _)
    refine ⟨_, hopened, rfl, fun h hh => ?_, fun h hh => ?_⟩
    · cases hh
      exact ⟨rfl, rfl, hfound⟩
    · cases hh
      exact ⟨rfl, rfl, rfl, hfound⟩

theorem ensure_cases (o : Options) (e : Env) (need : ℕ) (s : Files) (hs : OpenOk s) :
    ∃ d, Opened (target o e need s) e.modTime s.disk d ∧
      (ensureSegmentLocked o e need s).2.disk = d ∧ OpenOk (ensureSegmentLocked o e need s).2 ∧
      ∀ h, (ensureSegmentLocked o e need s).1 = .ok h → h.name = target o e need s ∧
        h.linked = true ∧ d.find? h.name ≠ none := by
  unfold ensureSegmentLocked target
  rcases hf : s.journal.file with _ | h <;> dsimp only
  · obtain ⟨d, hd, hdisk, hok, hh⟩ := openSegment_cases e s hf
    exact ⟨d, hd, hdisk, hok, fun h hh' => ⟨(hh h hh').1, (hh h hh').2.1, (hh h hh').2.2.2⟩⟩
  obtain ⟨hlinked, hname, hfound⟩ := hs h hf
  split_ifs with h1 h2
  · refine ⟨s.disk, Or.inl rfl, rfl, hs, fun h' hh => ?_⟩
    cases hh
    exact ⟨rfl, hlinked, hfound⟩
  · refine ⟨s.disk, Or.inl rfl, rfl, fun h' hh => ?_, fun h' hh => by cases hh⟩
    cases hh
    exact ⟨hlinked, hname, hfound⟩
  · obtain ⟨d, hd, hdisk, hok, hh⟩ :=
      openSegment_cases e { s with journal := { s.journal with file := none } } rfl
    exact ⟨d, hd, hdisk, hok, fun h hh' => ⟨(hh h hh').1, (hh h hh').2.1, (hh h hh').2.2.2⟩⟩

theorem find?_write_ne
    (h : d.find? n' ≠ none) : (write d n bytes t).find? n' ≠ none := by
  unfold write
  rw [Table.find?_update]
  simpa using h

theorem find?_write {s : Segment}
    (h : d.find? n = some s) : (write d n bytes t).find? n = some (s.append bytes t) := by
  unfold write
  rw [Table.find?_update, h, Option.map_some, if_pos (by simpa using Table.key_of_find? h)]

theorem find?_sync_ne (h : d.find? n' ≠ none) : (sync d n).find? n' ≠ none := by
  unfold sync
  rw [Table.find?_update]
  simpa using h

theorem find?_sync {s : Segment} (h : d.find? n = some s) : (sync d n).find? n = some s.sync := by
  unfold sync
  rw [Table.find?_update, h, Option.map_some, if_pos (by simpa using Table.key_of_find? h)]

theorem writeLine_cases (e : Env) (l : Bytes) (fsync : Bool) {h : Handle} (hl : h.linked = true)
    (s : Files) :
    ((writeLine e l fsync h s).2.journal.file = s.journal.file ∧
      (writeLine e l fsync h s).2.journal.segmentName = s.journal.segmentName) ∧
    ((∃ m, (m = 0 ∨ m = e.writeFails.getD l.length) ∧ (writeLine e l fsync h s).1 ≠ none ∧
        (writeLine e l fsync h s).2.disk = write s.disk h.name (l.take m) e.modTime) ∨
      ((writeLine e l fsync h s).1 = none ∧ (writeLine e l fsync h s).2.disk =
        if fsync then sync (write s.disk h.name l e.modTime) h.name
        else write s.disk h.name l e.modTime)) := by
  unfold writeLine
  simp only [hl, if_true]
  rcases hd : h.dead with _ | _
  · rcases hw : e.writeFails with _ | m
    · rcases fsync with _ | _
      · exact ⟨⟨rfl, rfl⟩, Or.inr ⟨rfl, by simp⟩⟩
      · rcases hsync : e.syncFails with _ | _
        · exact ⟨⟨rfl, rfl⟩, Or.inr ⟨rfl, by simp⟩⟩
        · exact ⟨⟨rfl, rfl⟩, Or.inl ⟨l.length, Or.inr rfl, by simp⟩⟩
    · exact ⟨⟨rfl, rfl⟩, Or.inl ⟨m, Or.inr rfl, by simp⟩⟩
  · exact ⟨by simp, Or.inl ⟨0, Or.inl rfl, by simp⟩⟩

/-- **What an append leaves**: perhaps a new segment; nothing, a part of the line with an error, or
the line. -/
theorem append_cases (c : Codec) (o : Options) (e : Env) (r : Record) (fsync : Bool) {s : Files}
    (hs : OpenOk s) :
    let l := line c (stamped e r)
    let n := target o e l.length s
    OpenOk (append c o e r fsync s).2 ∧ ∃ d, Opened n e.modTime s.disk d ∧
      (((append c o e r fsync s).1 ≠ none ∧ (append c o e r fsync s).2.disk = d) ∨
      (d.find? n ≠ none ∧
        ((∃ m, (m = 0 ∨ m = e.writeFails.getD l.length) ∧ (append c o e r fsync s).1 ≠ none ∧
            (append c o e r fsync s).2.disk = write d n (l.take m) e.modTime) ∨
          ((append c o e r fsync s).1 = none ∧ (append c o e r fsync s).2.disk =
            if fsync then sync (write d n l e.modTime) n else write d n l e.modTime)))) := by
  by_cases h1 : s.journal.closed = true
  · have happ : append c o e r fsync s = (some .closed, s) := if_pos h1
    rw [happ]
    exact ⟨hs, s.disk, Or.inl rfl, Or.inl ⟨Option.some_ne_none _, rfl⟩⟩
  by_cases h2 : o.maxTotalBytes < s.journal.totalBytes + (line c (stamped e r)).length
  · have happ : append c o e r fsync s = (some .full, s) := (if_neg h1).trans (if_pos h2)
    rw [happ]
    exact ⟨hs, s.disk, Or.inl rfl, Or.inl ⟨Option.some_ne_none _, rfl⟩⟩
  have happ : append c o e r fsync s = _ := (if_neg h1).trans (if_neg h2)
  rw [happ]
  set l := line c (stamped e r)
  obtain ⟨d, hd, hdisk, hok, hh⟩ := ensure_cases o e l.length s hs
  rcases hens : ensureSegmentLocked o e l.length s with ⟨err | h, s'⟩ <;>
    rw [hens] at hdisk hok hh <;> dsimp only at hdisk hok hh ⊢
  · exact ⟨hok, d, hd, Or.inl ⟨Option.some_ne_none _, hdisk⟩⟩
  obtain ⟨hname, hlinked, hfound⟩ := hh h rfl
  obtain ⟨⟨hfile, hseg⟩, hcases⟩ := writeLine_cases e l fsync hlinked s'
  rw [hdisk, hname] at hcases
  rw [hname] at hfound
  refine ⟨fun h' hh' => ?_, d, hd, Or.inr ⟨hfound, hcases⟩⟩
  rw [hfile] at hh'
  obtain ⟨hl', hn', hf'⟩ := hok h' hh'
  rw [hdisk] at hf'
  refine ⟨hl', hn'.trans hseg.symm, ?_⟩
  rcases hcases with ⟨m, -, -, hw⟩ | ⟨-, hw⟩ <;> rw [hw]
  · exact find?_write_ne hf'
  · split_ifs
    · exact find?_sync_ne (find?_write_ne hf')
    · exact find?_write_ne hf'

end MacProvider.Gateway.Settlement.Append
