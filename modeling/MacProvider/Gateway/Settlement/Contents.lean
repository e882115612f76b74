import MacProvider.Gateway.Settlement.Prune

/-! # What the journal holds

The records of the directory when no write stops inside a line: an append adds nothing or its
record, and `Prune` adds nothing. -/

namespace MacProvider.Gateway.Settlement.Contents

open Gateway.Time Settlement.Format Settlement.Scan Settlement.Append Settlement.Prune Lib.Lines
open Lib.Tables

/-- The record is in the directory. -/
def Holds (c : Codec) (d : Disk) (r : Record) : Prop := ∃ s ∈ d.rows, r ∈ records c s.data

/-- A write that fails has written nothing. -/
def Whole (e : Env) : Prop := e.writeFails.getD 0 = 0

/-- Every segment ends with a line. -/
structure Clean (s : Files) : Prop where
  opened : OpenOk s
  lines : ∀ seg ∈ s.disk.rows, AtLineStart newline seg.data

theorem clean_openJournal {d : Disk} (pid : ℕ) (h : ∀ seg ∈ d.rows, AtLineStart newline seg.data) :
    Clean (openJournal d pid) :=
  ⟨nofun, h⟩

/-! ### Appends -/

section Append
variable {c : Codec} {d d' : Disk} {n : Name} {t : Instant} {r r' : Record}

theorem holds_opened (h : Opened n t d d') : Holds c d' r ↔ Holds c d r := by
  rcases h with rfl | ⟨-, h⟩
  · rfl
  · unfold Holds
    rw [(Table.insert_eq_some h).2]
    simp

theorem lines_opened (h : Opened n t d d') (hd : ∀ s ∈ d.rows, AtLineStart newline s.data) :
    ∀ s ∈ d'.rows, AtLineStart newline s.data := by
  rcases h with rfl | ⟨-, h⟩
  · exact hd
  · exact Table.forall_insert h hd (Or.inl rfl)

theorem atLineStart_line {data : Bytes} : AtLineStart newline (data ++ line c r) := by
  refine Or.inr ?_
  rw [line, ← List.append_assoc, List.getLast?_append]
  rfl

theorem holds_write_line (hv : r.version = recordVersion)
    (hd : ∀ s ∈ d.rows, AtLineStart newline s.data) (hn : d.find? n ≠ none) :
    (∀ s ∈ (write d n (line c r) t).rows, AtLineStart newline s.data) ∧
      ∀ r', Holds c (write d n (line c r) t) r' ↔ Holds c d r' ∨ r' = r := by
  refine ⟨Table.forall_update _ hd fun s _ _ _ => atLineStart_line, fun r' => ?_⟩
  have hrec : ∀ s ∈ d.rows, records c (s.append (line c r) t).data = records c s.data ++ [r] :=
    fun s hs => records_append_line (hd s hs) hv
  constructor
  · rintro ⟨s', hs', hr'⟩
    obtain ⟨s, hs, rfl⟩ := List.mem_map.mp hs'
    split_ifs at hr'
    · rw [hrec s hs, List.mem_append, List.mem_singleton] at hr'
      exact hr'.imp_left fun h => ⟨s, hs, h⟩
    · exact Or.inl ⟨s, hs, hr'⟩
  · rintro (h | rfl)
    · refine Table.exists_update _ h fun s hs _ hr => ?_
      rw [hrec s hs]
      exact List.mem_append_left _ hr
    · obtain ⟨s, hs⟩ := Option.ne_none_iff_exists'.mp hn
      refine ⟨_, (Table.find?_eq_some.mp (find?_write hs)).1, ?_⟩
      rw [hrec s (Table.find?_eq_some.mp hs).1]
      exact List.mem_append_right _ (List.mem_singleton_self _)

theorem holds_update {p : Segment → Bool} {f : Segment → Segment} {hf : ∀ s, (f s).name = s.name}
    (h : ∀ s, (f s).data = s.data) : Holds c (d.update p f hf) r ↔ Holds c d r := by
  constructor
  · rintro ⟨s', hs', hr'⟩
    obtain ⟨s, hs, rfl⟩ := List.mem_map.mp hs'
    refine ⟨s, hs, ?_⟩
    split_ifs at hr'
    · rwa [h] at hr'
    · exact hr'
  · refine fun hd => Table.exists_update _ hd fun s _ _ hr => ?_
    rwa [h]

theorem holds_sync : Holds c (sync d n) r ↔ Holds c d r := holds_update fun _ => rfl

theorem lines_sync (hd : ∀ s ∈ d.rows, AtLineStart newline s.data) :
    ∀ s ∈ (sync d n).rows, AtLineStart newline s.data :=
  Table.forall_update _ hd fun _ _ _ h => h

theorem holds_write_nil : Holds c (write d n [] t) r ↔ Holds c d r :=
  holds_update fun s => List.append_nil s.data

theorem lines_write_nil (hd : ∀ s ∈ d.rows, AtLineStart newline s.data) :
    ∀ s ∈ (write d n [] t).rows, AtLineStart newline s.data := by
  refine Table.forall_update _ hd fun s _ _ h => ?_
  rwa [Segment.append, List.append_nil]

/-- **An append adds its record**, or nothing with an error. -/
theorem append_contents (c : Codec) (o : Options) {e : Env} (r : Record) (fsync : Bool) {s : Files}
    (hs : Clean s) (he : Whole e) :
    Clean (append c o e r fsync s).2 ∧
      ((∀ r', Holds c (append c o e r fsync s).2.disk r' ↔ Holds c s.disk r' ∨ r' = stamped e r) ∨
        ((append c o e r fsync s).1 ≠ none ∧
          ∀ r', Holds c (append c o e r fsync s).2.disk r' ↔ Holds c s.disk r')) := by
  obtain ⟨hopen, d, hd, hcases⟩ := append_cases c o e r fsync hs.opened
  have hv : (stamped e r).version = recordVersion := rfl
  have hlines := lines_opened hd hs.lines
  have hholds : ∀ r', Holds c d r' ↔ Holds c s.disk r' := fun r' => holds_opened hd
  rcases hcases with ⟨herr, heq⟩ | ⟨hfound, ⟨m, hm, herr, heq⟩ | ⟨-, heq⟩⟩
  · exact ⟨⟨hopen, heq ▸ hlines⟩, Or.inr ⟨herr, fun r' => heq ▸ hholds r'⟩⟩
  · -- nothing of the line, or all of it with a failing sync
    have hm' : m = 0 ∨ m = (line c (stamped e r)).length := by
      rcases hm with hm | hm
      · exact Or.inl hm
      · unfold Whole at he
        rcases hw : e.writeFails with _ | n <;> rw [hw] at hm he
        · exact Or.inr hm
        · exact Or.inl (hm.trans he)
    rcases hm' with rfl | rfl
    · exact ⟨⟨hopen, heq ▸ lines_write_nil hlines⟩,
        Or.inr ⟨herr, fun r' => heq ▸ holds_write_nil.trans (hholds r')⟩⟩
    · rw [List.take_length] at heq
      obtain ⟨hl, hw⟩ := @holds_write_line c d _ e.modTime _ hv hlines hfound
      exact ⟨⟨hopen, heq ▸ hl⟩,
        Or.inl fun r' => heq ▸ (hw r').trans (or_congr_left (hholds r'))⟩
  · obtain ⟨hl, hw⟩ := @holds_write_line c d _ e.modTime _ hv hlines hfound
    refine ⟨⟨hopen, heq ▸ ?_⟩, Or.inl fun r' => heq ▸ ?_⟩
    · split_ifs
      · exact lines_sync hl
      · exact hl
    · split_ifs
      · exact (holds_sync.trans (hw r')).trans (or_congr_left (hholds r'))
      · exact (hw r').trans (or_congr_left (hholds r'))

end Append

section Scan
variable {c : Codec} {r : Record}

theorem holds_of_unsealed {e : ScanEnv} {d : Disk} {res : ScanResult} (h : scan c e d = some res)
    (hr : r ∈ res.unsealed) : Holds c d r ∧ r.kind = .effect := by
  obtain ⟨fs, hfs, rfl⟩ := Option.map_eq_some_iff.mp h
  unfold readFiles at hfs
  split_ifs at hfs
  cases hfs
  obtain ⟨f, hf, hrec, hk⟩ := mem_effects (List.mem_filter.mp hr).1
  obtain ⟨s, hs, -, rfl⟩ := mem_filterMap_read.mp hf
  exact ⟨⟨s, hs, hrec⟩, hk⟩

theorem openOk_removeFile {s : Files} {m : Name} {bytes : ℕ} (hs : OpenOk s)
    (hm : m ≠ s.journal.segmentName) :
    OpenOk { removeFile m s with
      journal := { (removeFile m s).journal with totalBytes := bytes } } := by
  intro h hh
  obtain ⟨h₀, hopen, rfl⟩ := Option.map_eq_some_iff.mp hh
  obtain ⟨hlinked, hname, hfound⟩ := hs h₀ hopen
  have hne : h₀.name ≠ m := fun h => hm (h.symm.trans hname)
  rw [if_neg hne]
  exact ⟨hlinked, hname, find?_unlink_ne hfound hne⟩

theorem openOk_pruneLoop {before : Instant} {removal : Name → Removal} {segs : List SegmentState}
    {n : ℕ} {s : Files} (hs : OpenOk s) :
    OpenOk (pruneLoop before s.journal.segmentName removal segs n s).2 := by
  induction segs generalizing n s with
  | nil => exact hs
  | cons seg segs ih =>
    rw [pruneLoop]
    by_cases hp : prunable before s.journal.segmentName seg = true
    swap
    · rw [if_pos (by simpa using hp)]
      exact ih hs
    rw [if_neg (by simpa using hp)]
    have hne : seg.name ≠ s.journal.segmentName := by
      intro h
      simp [prunable, h] at hp
    rcases removal seg.name with _ | _ | _ | _ | _ <;> dsimp only
    · exact ih hs
    · exact ih hs
    · exact hs
    · exact openOk_removeFile hs hne
    · exact ih (openOk_removeFile hs hne)

theorem prune_contents (c : Codec) (before : Instant) (e : PruneEnv) {s : Files} (hs : Clean s) :
    Clean (prune c before e s).2 ∧
      ∀ r, Holds c (prune c before e s).2.disk r → Holds c s.disk r := by
  refine ⟨⟨?_, fun seg hseg => hs.lines seg (mem_prune.mp hseg).1⟩, ?_⟩
  · unfold prune
    rcases scan c e.scan s.disk with _ | r
    · exact hs.opened
    · exact openOk_pruneLoop hs.opened
  · rintro r ⟨seg, hseg, hr⟩
    exact ⟨seg, (mem_prune.mp hseg).1, hr⟩

end Scan

end MacProvider.Gateway.Settlement.Contents
