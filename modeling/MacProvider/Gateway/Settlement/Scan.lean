import MacProvider.Gateway.Settlement.Format
import MacProvider.Gateway.Time

/-! # Scanning the journal

`Scan` reads the segments into maps and counters (`Tally`) and reduces them to the effects without a
seal or quarantine, and to the counts of each segment (`tally_adds`, `count_eq_zero_iff`). -/

namespace MacProvider.Gateway.Settlement.Scan

open Gateway.Time Settlement.Format Lib.Lines

/-! ### The loop over the segments -/

/-- The name of a file. -/
abbrev Name := List Char

/-- A file; no modification time if `os.Stat` failed. -/
structure Read where
  name : Name
  data : Bytes
  modTime : Option Instant

/-- The counts of a segment. -/
structure SegmentState where
  name : Name
  effects : ℕ := 0
  unsealed : ℕ := 0
  quarantined : ℕ := 0
  modTime : Option Instant

/-- The maps and counters of `Scan`. -/
structure Tally where
  effectCount : ℕ := 0
  seals : ℕ := 0
  malformed : ℕ := 0
  tornTails : ℕ := 0
  sealed : List Key := []
  quarantined : List Key := []
  /-- The map `effects`, in the order of `order`. -/
  effects : List Record := []
  /-- The segments, each with its `segmentKeys`. -/
  segments : List (SegmentState × List Key) := []

/-- The segment that is read. -/
abbrev Current := SegmentState × List Key

/-- One record. -/
def scanRecord (t : Tally) (s : Current) (r : Record) : Tally × Current :=
  match r.kind with
  | .effect =>
    ({ t with
        effectCount := t.effectCount + 1
        effects := if r.key ∈ t.effects.map Record.key then t.effects else t.effects ++ [r] },
      ({ s.1 with effects := s.1.effects + 1 }, s.2 ++ [r.key]))
  | .seal => ({ t with seals := t.seals + 1, sealed := t.sealed.insert r.key }, s)
  | .quarantine => ({ t with quarantined := t.quarantined.insert r.key }, s)
  | .other _ => ({ t with malformed := t.malformed + 1 }, s)

/-- One line. -/
def scanLine (c : Codec) (x : Tally × Current) (line : Bytes) : Tally × Current :=
  if isBlank line then x
  else
    match readable c line with
    | none => ({ x.1 with malformed := x.1.malformed + 1 }, x.2)
    | some r => scanRecord x.1 x.2 r

/-- One file. -/
def scanSegment (c : Codec) (t : Tally) (f : Read) : Tally :=
  let t := if tail newline f.data ≠ [] then { t with tornTails := t.tornTails + 1 } else t
  let x := (lines newline f.data).foldl (scanLine c) (t, ⟨f.name, 0, 0, 0, f.modTime⟩, [])
  { x.1 with segments := x.1.segments ++ [x.2] }

/-- All of them. -/
def tally (c : Codec) (fs : List Read) : Tally := fs.foldl (scanSegment c) {}

/-- What `Scan` returns. -/
structure ScanResult where
  unsealed : List Record
  effects : ℕ
  seals : ℕ
  quarantined : ℕ
  malformed : ℕ
  tornTails : ℕ
  segments : List SegmentState

/-- The effects without a seal or quarantine. -/
def Tally.unsealed (t : Tally) : List Record :=
  t.effects.filter fun r => !(decide (r.key ∈ t.sealed) || decide (r.key ∈ t.quarantined))

/-- The loop that counts the effects of a segment. -/
def Tally.count (t : Tally) (s : Current) : SegmentState :=
  s.2.foldl (fun st k =>
    if k ∈ t.quarantined then { st with quarantined := st.quarantined + 1 }
    else if k ∉ t.sealed then { st with unsealed := st.unsealed + 1 }
    else st) s.1

/-- The result of the maps. -/
def Tally.result (t : Tally) : ScanResult where
  unsealed := t.unsealed
  effects := t.effectCount
  seals := t.seals
  quarantined := t.quarantined.length
  malformed := t.malformed
  tornTails := t.tornTails
  segments := t.segments.map t.count

/-! ### What the maps hold -/

/-- `t'` is `t` with the records `rs` added. -/
structure Adds (rs : List Record) (t t' : Tally) : Prop where
  sealed : ∀ k, k ∈ t'.sealed ↔ k ∈ t.sealed ∨ ∃ r ∈ rs, r.kind = .seal ∧ r.key = k
  quarantined : ∀ k, k ∈ t'.quarantined ↔ k ∈ t.quarantined ∨
    ∃ r ∈ rs, r.kind = .quarantine ∧ r.key = k
  effects : ∀ r ∈ t'.effects, r ∈ t.effects ∨ (r ∈ rs ∧ r.kind = .effect)
  kept : ∀ r ∈ t.effects, r ∈ t'.effects
  keys : ∀ r ∈ rs, r.kind = .effect → r.key ∈ t'.effects.map Record.key

theorem Adds.refl (t : Tally) : Adds [] t t := by
  constructor <;> simp

theorem Adds.trans {rs rs' : List Record} {t t' t'' : Tally} (h : Adds rs t t')
    (h' : Adds rs' t' t'') : Adds (rs ++ rs') t t'' where
  sealed k := by
    rw [h'.sealed, h.sealed, or_assoc]
    simp only [List.mem_append, or_and_right, exists_or]
  quarantined k := by
    rw [h'.quarantined, h.quarantined, or_assoc]
    simp only [List.mem_append, or_and_right, exists_or]
  effects r hr := by
    rcases h'.effects r hr with hr | ⟨hr, hk⟩
    · rcases h.effects r hr with hr | ⟨hr, hk⟩
      · exact Or.inl hr
      · exact Or.inr ⟨List.mem_append_left _ hr, hk⟩
    · exact Or.inr ⟨List.mem_append_right _ hr, hk⟩
  kept r hr := h'.kept r (h.kept r hr)
  keys r hr hk := by
    rcases List.mem_append.mp hr with hr | hr
    · obtain ⟨e, he, hek⟩ := List.mem_map.mp (h.keys r hr hk)
      exact List.mem_map.mpr ⟨e, h'.kept e he, hek⟩
    · exact h'.keys r hr hk

theorem adds_scanRecord (t : Tally) (s : Current) (r : Record) :
    Adds [r] t (scanRecord t s r).1 := by
  unfold scanRecord
  rcases hk : r.kind with _ | _ | _ | k <;> dsimp only
  · by_cases hr : r.key ∈ t.effects.map Record.key
    · rw [if_pos hr]
      exact ⟨by simp [hk], by simp [hk], fun e he => Or.inl he, fun e he => he,
        by simpa using fun _ => hr⟩
    · rw [if_neg hr]
      refine ⟨by simp [hk], by simp [hk], fun e he => ?_, fun e he => List.mem_append_left _ he, ?_⟩
      · rcases List.mem_append.mp he with he | he
        · exact Or.inl he
        · rw [List.mem_singleton] at he
          exact Or.inr ⟨List.mem_singleton.mpr he, he ▸ hk⟩
      · simp
  · refine ⟨fun k => ?_, by simp [hk], fun e he => Or.inl he, fun e he => he, by simp [hk]⟩
    simp only [List.mem_insert_iff, List.mem_singleton, exists_eq_left, hk, true_and]
    rw [or_comm, eq_comm]
  · refine ⟨by simp [hk], fun k => ?_, fun e he => Or.inl he, fun e he => he, by simp [hk]⟩
    simp only [List.mem_insert_iff, List.mem_singleton, exists_eq_left, hk, true_and]
    rw [or_comm, eq_comm]
  · exact ⟨by simp [hk], by simp [hk], fun e he => Or.inl he, fun e he => he, by simp [hk]⟩

/-- The keys of the effects of a file. -/
def effectKeys (c : Codec) (data : Bytes) : List Key :=
  ((records c data).filter fun r => r.kind = .effect).map Record.key

/-- Before its effects are counted. -/
def segmentOf (c : Codec) (f : Read) : Current :=
  (⟨f.name, (effectKeys c f.data).length, 0, 0, f.modTime⟩, effectKeys c f.data)

theorem scanRecord_current (t : Tally) (s : Current) (r : Record) :
    (scanRecord t s r).1.segments = t.segments ∧ (scanRecord t s r).2 =
      if r.kind = .effect then
        ({ s.1 with effects := s.1.effects + 1 }, s.2 ++ [r.key]) else s := by
  unfold scanRecord
  rcases hk : r.kind with _ | _ | _ | k <;> simp

theorem foldl_scanLine (c : Codec) (ls : List Bytes) (t : Tally) (s : Current) :
    Adds (ls.filterMap (readLine c)) t (ls.foldl (scanLine c) (t, s)).1 ∧
      (ls.foldl (scanLine c) (t, s)).1.segments = t.segments ∧
      (ls.foldl (scanLine c) (t, s)).2 =
        let ks := ((ls.filterMap (readLine c)).filter fun r => r.kind = .effect).map Record.key
        ({ s.1 with effects := s.1.effects + ks.length }, s.2 ++ ks) := by
  induction ls generalizing t s with
  | nil => exact ⟨Adds.refl t, rfl, by simp⟩
  | cons l ls ih =>
    rw [List.foldl_cons, List.filterMap_cons]
    by_cases hb : isBlank l = true
    · have hread : readLine c l = none := if_pos hb
      have hline : scanLine c (t, s) l = (t, s) := if_pos hb
      rw [hread, hline]
      exact ih t s
    rcases hr : readable c l with _ | r
    · have hread : readLine c l = none := (if_neg hb).trans hr
      have hline : scanLine c (t, s) l = ({ t with malformed := t.malformed + 1 }, s) := by
        unfold scanLine
        rw [if_neg hb, hr]
      rw [hread, hline]
      obtain ⟨hadds, hseg, hcur⟩ := ih { t with malformed := t.malformed + 1 } s
      exact ⟨⟨hadds.sealed, hadds.quarantined, hadds.effects, hadds.kept, hadds.keys⟩, hseg, hcur⟩
    · have hread : readLine c l = some r := (if_neg hb).trans hr
      have hline : scanLine c (t, s) l = scanRecord t s r := by
        unfold scanLine
        rw [if_neg hb, hr]
      rw [hread, hline]
      obtain ⟨hadds, hseg, hcur⟩ := ih (scanRecord t s r).1 (scanRecord t s r).2
      obtain ⟨hseg₁, hcur₁⟩ := scanRecord_current t s r
      refine ⟨(adds_scanRecord t s r).trans hadds, hseg.trans hseg₁, hcur.trans ?_⟩
      rw [hcur₁, List.filter_cons]
      by_cases hk : r.kind = .effect
      · simp [hk, Nat.add_assoc, Nat.add_comm]
      · simp [hk]

theorem scanSegment_adds (c : Codec) (t : Tally) (f : Read) :
    Adds (records c f.data) t (scanSegment c t f) ∧
      (scanSegment c t f).segments = t.segments ++ [segmentOf c f] := by
  unfold scanSegment
  dsimp only
  set t₁ := if tail newline f.data ≠ [] then { t with tornTails := t.tornTails + 1 } else t with ht
  obtain ⟨hadds, hseg, hcur⟩ :=
    foldl_scanLine c (lines newline f.data) t₁ (⟨f.name, 0, 0, 0, f.modTime⟩, [])
  have hsame : t₁.sealed = t.sealed ∧ t₁.quarantined = t.quarantined ∧ t₁.effects = t.effects ∧
      t₁.segments = t.segments := by
    rw [ht]
    split_ifs <;> exact ⟨rfl, rfl, rfl, rfl⟩
  obtain ⟨h1, h2, h3, h4⟩ := hsame
  refine ⟨⟨h1 ▸ hadds.sealed, h2 ▸ hadds.quarantined, h3 ▸ hadds.effects, h3 ▸ hadds.kept,
    hadds.keys⟩, ?_⟩
  rw [hseg, hcur, h4]
  simp [segmentOf, effectKeys, records]

/-- **What the maps of `Scan` hold.** -/
theorem tally_adds (c : Codec) (fs : List Read) :
    Adds (fs.flatMap fun f => records c f.data) {} (tally c fs) ∧
      (tally c fs).segments = fs.map (segmentOf c) := by
  have hfold : ∀ t : Tally, Adds (fs.flatMap fun f => records c f.data) t
      (fs.foldl (scanSegment c) t) ∧
      (fs.foldl (scanSegment c) t).segments = t.segments ++ fs.map (segmentOf c) := by
    induction fs with
    | nil => exact fun t => ⟨Adds.refl t, by simp⟩
    | cons f fs ih =>
      intro t
      obtain ⟨hadds, hseg⟩ := scanSegment_adds c t f
      obtain ⟨hadds', hseg'⟩ := ih (scanSegment c t f)
      exact ⟨hadds.trans hadds', by rw [List.foldl_cons, hseg', hseg]; simp⟩
  exact hfold {}

section Tally
variable {c : Codec} {fs : List Read} {k : Key}

/-- One of the files has a record of `P`. -/
def HasRecord (c : Codec) (fs : List Read) (P : Record → Prop) : Prop :=
  ∃ f ∈ fs, ∃ r ∈ records c f.data, P r

theorem hasRecord_iff {P : Record → Prop} :
    HasRecord c fs P ↔ ∃ r ∈ fs.flatMap fun f => records c f.data, P r := by
  simp only [HasRecord, List.mem_flatMap]
  constructor
  · rintro ⟨f, hf, r, hr, hP⟩
    exact ⟨r, ⟨f, hf, hr⟩, hP⟩
  · rintro ⟨r, ⟨f, hf, hr⟩, hP⟩
    exact ⟨f, hf, r, hr, hP⟩

theorem mem_sealed :
    k ∈ (tally c fs).sealed ↔ HasRecord c fs fun r => r.kind = .seal ∧ r.key = k := by
  rw [(tally_adds c fs).1.sealed, hasRecord_iff]
  simp

theorem mem_quarantined :
    k ∈ (tally c fs).quarantined ↔ HasRecord c fs fun r => r.kind = .quarantine ∧ r.key = k := by
  rw [(tally_adds c fs).1.quarantined, hasRecord_iff]
  simp

theorem mem_effects {r : Record} (h : r ∈ (tally c fs).effects) :
    ∃ f ∈ fs, r ∈ records c f.data ∧ r.kind = .effect := by
  rcases (tally_adds c fs).1.effects r h with h | ⟨h, hk⟩
  · cases h
  · obtain ⟨f, hf, hr⟩ := List.mem_flatMap.mp h
    exact ⟨f, hf, hr, hk⟩

theorem mem_effect_keys :
    k ∈ (tally c fs).effects.map Record.key ↔
      HasRecord c fs fun r => r.kind = .effect ∧ r.key = k := by
  constructor
  · rintro h
    obtain ⟨r, hr, rfl⟩ := List.mem_map.mp h
    obtain ⟨f, hf, hr, hk⟩ := mem_effects hr
    exact ⟨f, hf, r, hr, hk, rfl⟩
  · rintro ⟨f, hf, r, hr, hk, rfl⟩
    exact (tally_adds c fs).1.keys r (List.mem_flatMap.mpr ⟨f, hf, hr⟩) hk

theorem mem_effects_of_unique {f : Read} {r : Record} (hf : f ∈ fs) (hr : r ∈ records c f.data)
    (hk : r.kind = .effect)
    (hu : ∀ f' ∈ fs, ∀ r' ∈ records c f'.data, r'.kind = .effect → r'.key = r.key → r' = r) :
    r ∈ (tally c fs).effects := by
  obtain ⟨e, he, hek⟩ := List.mem_map.mp (mem_effect_keys.mpr ⟨f, hf, r, hr, hk, rfl⟩)
  obtain ⟨f', hf', he', hk'⟩ := mem_effects he
  exact hu f' hf' e he' hk' hek ▸ he

theorem mem_unsealed_keys :
    k ∈ (tally c fs).unsealed.map Record.key ↔
      (HasRecord c fs fun r => r.kind = .effect ∧ r.key = k) ∧
        ¬ HasRecord c fs fun r => r.Resolves ∧ r.key = k := by
  have hres : (HasRecord c fs fun r => r.Resolves ∧ r.key = k) ↔
      k ∈ (tally c fs).sealed ∨ k ∈ (tally c fs).quarantined := by
    rw [mem_sealed, mem_quarantined]
    simp only [HasRecord, Record.Resolves, or_and_right, and_or_left, exists_or]
  rw [hres, ← mem_effect_keys]
  simp only [Tally.unsealed, List.mem_map, List.mem_filter, Bool.not_eq_true', Bool.or_eq_false_iff,
    decide_eq_false_iff_not, not_or]
  constructor
  · rintro ⟨r, ⟨hr, h1, h2⟩, rfl⟩
    exact ⟨⟨r, hr, rfl⟩, h1, h2⟩
  · rintro ⟨⟨r, hr, rfl⟩, h1, h2⟩
    exact ⟨r, ⟨hr, h1, h2⟩, rfl⟩

end Tally

theorem count_name (t : Tally) (s : Current) :
    (t.count s).name = s.1.name ∧ (t.count s).modTime = s.1.modTime := by
  obtain ⟨st, ks⟩ := s
  unfold Tally.count
  dsimp only
  induction ks generalizing st with
  | nil => exact ⟨rfl, rfl⟩
  | cons k ks ih =>
    rw [List.foldl_cons]
    refine ⟨(ih _).1.trans ?_, (ih _).2.trans ?_⟩ <;> split_ifs <;> rfl

/-- **Nothing is left to drive** when all is sealed. -/
theorem count_eq_zero_iff (t : Tally) (s : Current) :
    (t.count s).unsealed = 0 ∧ (t.count s).quarantined = 0 ↔
      (s.1.unsealed = 0 ∧ s.1.quarantined = 0) ∧ ∀ k ∈ s.2, k ∈ t.sealed ∧ k ∉ t.quarantined := by
  obtain ⟨st, ks⟩ := s
  unfold Tally.count
  induction ks generalizing st with
  | nil => simp
  | cons k ks ih =>
    rw [List.foldl_cons, ih, List.forall_mem_cons]
    by_cases hq : k ∈ t.quarantined
    · simp [hq]
    · by_cases hs : k ∈ t.sealed <;> simp [hq, hs]

theorem sealed_of_count {c : Codec} {fs : List Read} {s : SegmentState}
    (h : s ∈ (tally c fs).result.segments) (hu : s.unsealed = 0) (hq : s.quarantined = 0) :
    ∃ f ∈ fs, f.name = s.name ∧ f.modTime = s.modTime ∧ ∀ r ∈ records c f.data, r.kind = .effect →
      HasRecord c fs fun r' => r'.kind = .seal ∧ r'.key = r.key := by
  simp only [Tally.result, (tally_adds c fs).2, List.map_map] at h
  obtain ⟨f, hf, rfl⟩ := List.mem_map.mp h
  obtain ⟨hname, htime⟩ := count_name (tally c fs) (segmentOf c f)
  refine ⟨f, hf, hname.symm, htime.symm, fun r hr hk => ?_⟩
  have hall := ((count_eq_zero_iff _ _).mp ⟨hu, hq⟩).2 r.key ?_
  · exact mem_sealed.mp hall.1
  · exact List.mem_map.mpr ⟨r, List.mem_filter.mpr ⟨hr, by simpa using hk⟩, rfl⟩

end MacProvider.Gateway.Settlement.Scan
