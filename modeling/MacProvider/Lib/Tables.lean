import Mathlib.Data.List.Nodup
import Mathlib.Algebra.Order.BigOperators.Group.List
import Mathlib.Tactic.Linarith

/-! # Tables with a primary key

A table is a list of rows with pairwise different keys; a table that breaks this cannot be built.
Each operation is described by what it does to `find?` and to the sums. -/

namespace MacProvider.Lib.Tables

variable {R K : Type}

/-- Rows `R` with the primary key `key`. -/
structure Table (key : R → K) where
  rows : List R
  nodup : (rows.map key).Nodup

theorem nodup_eraseDups [DecidableEq K] (l : List K) : l.eraseDups.Nodup := by
  induction h : l.length using Nat.strongRecOn generalizing l with
  | ind n ih =>
    cases l with
    | nil => simp
    | cons a l =>
      have hlt : (l.filter fun b => !b == a).length < n := by
        have := List.length_filter_le (fun b => !b == a) l
        simp only [List.length_cons] at h
        omega
      rw [List.eraseDups_cons, List.nodup_cons]
      exact ⟨by simp, ih _ hlt _ rfl⟩

theorem lt_max_succ {l : List ℕ} {x : ℕ} (hx : x ∈ l) : x < l.foldl max 0 + 1 := by
  have hle := List.le_max?_getD_of_mem (k := 0) hx
  rw [List.foldl_max]
  omega

namespace Table

variable {key : R → K}

/-- No rows. -/
def empty : Table key := ⟨[], List.nodup_nil⟩

/-- For an `f` that leaves the key alone. -/
def update (t : Table key) (p : R → Bool) (f : R → R) (hf : ∀ r, key (f r) = key r) : Table key :=
  ⟨t.rows.map fun r => if p r then f r else r, by
    have : (key ∘ fun r => if p r then f r else r) = key := by
      funext r; simp only [Function.comp]; split_ifs <;> simp [hf]
    rw [List.map_map, this]; exact t.nodup⟩

/-- `DELETE WHERE p`. -/
def delete (t : Table key) (p : R → Bool) : Table key :=
  ⟨t.rows.filter fun r => !p r, t.nodup.sublist (List.filter_sublist.map key)⟩

/-- `SELECT COUNT(*) WHERE p`. -/
def countWhere (t : Table key) (p : R → Bool) : ℕ := (t.rows.filter p).length

/-- `SELECT SUM(w) WHERE p`. -/
def sumWhere (t : Table key) (p : R → Bool) (w : R → ℤ) : ℤ := ((t.rows.filter p).map w).sum

section Keys
variable [DecidableEq K]

/-- The row of a key. -/
def find? (t : Table key) (k : K) : Option R := t.rows.find? fun r => key r = k

/-- `INSERT`: refused when the key is taken. -/
def insert (t : Table key) (r : R) : Option (Table key) :=
  if h : key r ∈ t.rows.map key then none
  else some ⟨t.rows ++ [r], by
    rw [List.map_append, List.nodup_append]
    refine ⟨t.nodup, by simp, ?_⟩
    intro a ha b hb
    have : b = key r := by simpa using hb
    rintro rfl
    exact h (this ▸ ha)⟩

/-! ### Lookups -/

variable {t t' : Table key} {k : K} {r : R}

theorem find?_eq_some : t.find? k = some r ↔ r ∈ t.rows ∧ key r = k := by
  refine ⟨fun h => ⟨List.mem_of_find?_eq_some h, by simpa using List.find?_some h⟩, ?_⟩
  rintro ⟨hr, rfl⟩
  have hs : (t.find? (key r)).isSome := List.find?_isSome.mpr ⟨r, hr, by simp⟩
  obtain ⟨x, hx⟩ := Option.isSome_iff_exists.mp hs
  rw [hx, List.inj_on_of_nodup_map t.nodup (List.mem_of_find?_eq_some hx) hr
    (by simpa using List.find?_some hx)]

theorem find?_eq_none : t.find? k = none ↔ ∀ r ∈ t.rows, key r ≠ k := by
  unfold find?
  simp

theorem countWhere_key_le (t : Table key) (k : K) :
    t.countWhere (fun r => decide (key r = k)) ≤ 1 := by
  have hnodup : (t.rows.filter fun r => decide (key r = k)).Nodup :=
    (List.Nodup.of_map key t.nodup).filter _
  rcases hfind : t.find? k with _ | r
  · have hnil : (t.rows.filter fun r => decide (key r = k)) = [] :=
      List.filter_eq_nil_iff.mpr fun x hx => by simpa using find?_eq_none.mp hfind x hx
    rw [countWhere, hnil]
    exact Nat.zero_le 1
  · have hsub : (t.rows.filter fun r => decide (key r = k)) ⊆ [r] := fun x hx => by
      obtain ⟨hx, hk⟩ := List.mem_filter.mp hx
      have hx' : t.find? k = some x := find?_eq_some.mpr ⟨hx, of_decide_eq_true hk⟩
      exact List.mem_singleton.mpr (Option.some.inj (hx'.symm.trans hfind))
    exact hnodup.length_le_of_subset hsub

theorem key_of_find? (h : t.find? k = some r) : key r = k :=
  (find?_eq_some.mp h).2

theorem insert_eq_none : t.insert r = none ↔ t.find? (key r) ≠ none := by
  unfold insert
  rw [Ne, find?_eq_none]
  split_ifs with h
  · simpa using h
  · simpa using h

theorem exists_insert (h : t.find? (key r) = none) : ∃ t', t.insert r = some t' :=
  Option.ne_none_iff_exists'.mp fun hnone => insert_eq_none.mp hnone h

theorem insert_eq_some (h : t.insert r = some t') :
    t.find? (key r) = none ∧ t'.rows = t.rows ++ [r] := by
  constructor
  · by_contra hn
    rw [insert_eq_none.mpr hn] at h; cases h
  · unfold insert at h
    split_ifs at h with hk
    cases h; rfl

theorem find?_insert (h : t.insert r = some t') (k : K) :
    t'.find? k = if key r = k then some r else t.find? k := by
  obtain ⟨hn, hr⟩ := insert_eq_some h
  unfold find? at hn ⊢
  rw [hr, List.find?_append]
  split_ifs with hk
  · rw [← hk, hn]; simp
  · rcases List.find? _ t.rows with _ | x
    · simp [hk]
    · simp

theorem find?_update (t : Table key) (p : R → Bool) (f : R → R) (hf : ∀ r, key (f r) = key r)
    (k : K) : (t.update p f hf).find? k = (t.find? k).map fun r => if p r then f r else r := by
  have hk : ∀ r, key (if p r then f r else r) = key r := by
    intro r; split_ifs <;> simp [hf]
  unfold find? update
  rw [List.find?_map]
  simp only [Function.comp_def, hk]

theorem find?_delete (t : Table key) (p : R → Bool) (k : K) :
    (t.delete p).find? k = (t.find? k).filter fun r => !p r := by
  rcases h : t.find? k with _ | r
  · refine find?_eq_none.mpr fun x hx => ?_
    exact find?_eq_none.mp h x (List.mem_of_mem_filter hx)
  · obtain ⟨hr, hk⟩ := find?_eq_some.mp h
    rw [Option.filter_some]
    split_ifs with hp
    · exact find?_eq_some.mpr ⟨List.mem_filter.mpr ⟨hr, hp⟩, hk⟩
    · refine find?_eq_none.mpr fun x hx hxk => ?_
      obtain ⟨hx, hpx⟩ := List.mem_filter.mp hx
      rw [List.inj_on_of_nodup_map t.nodup hx hr (hxk.trans hk.symm)] at hpx
      exact hp hpx

theorem forall_insert (h : t.insert r = some t') {P : R → Prop} (ht : ∀ x ∈ t.rows, P x)
    (hr : P r) : ∀ x ∈ t'.rows, P x := by
  intro x hx
  rw [(insert_eq_some h).2, List.mem_append, List.mem_singleton] at hx
  rcases hx with hx | rfl
  · exact ht x hx
  · exact hr

end Keys

variable {t t' : Table key} {p : R → Bool} {f : R → R}

theorem forall_update (hf : ∀ r, key (f r) = key r) {P : R → Prop} (ht : ∀ x ∈ t.rows, P x)
    (h : ∀ x ∈ t.rows, p x = true → P x → P (f x)) : ∀ x ∈ (t.update p f hf).rows, P x := by
  intro x hx
  obtain ⟨y, hy, rfl⟩ := List.mem_map.mp hx
  split_ifs with hp
  · exact h y hy hp (ht y hy)
  · exact ht y hy

theorem mem_update {hf : ∀ r, key (f r) = key r} {x : R} :
    x ∈ (t.update p f hf).rows ↔ ∃ r ∈ t.rows, (if p r then f r else r) = x :=
  List.mem_map

theorem ext_rows (h : t.rows = t'.rows) : t = t' := by
  cases t
  cases t'
  cases h
  rfl

theorem update_eq_self (hf : ∀ r, key (f r) = key r) (h : ∀ r ∈ t.rows, p r = true → f r = r) :
    t.update p f hf = t := by
  refine ext_rows ((List.map_congr_left fun r hr => ?_).trans (List.map_id t.rows))
  split_ifs with hp
  · exact h r hr hp
  · rfl

theorem filter_update {P : R → Bool} (hf : ∀ r, key (f r) = key r)
    (h : ∀ r ∈ t.rows, p r = true → P r = false ∧ P (f r) = false) :
    (t.update p f hf).rows.filter P = t.rows.filter P := by
  unfold update
  dsimp only
  generalize t.rows = rows at h
  induction rows with
  | nil => rfl
  | cons r rows ih =>
    have hrest := ih fun x hx => h x (List.mem_cons_of_mem r hx)
    rw [List.map_cons, List.filter_cons, List.filter_cons, hrest]
    by_cases hp : p r = true
    · obtain ⟨h1, h2⟩ := h r List.mem_cons_self hp
      rw [if_pos hp, h1, h2]
      rfl
    · rw [if_neg hp]

theorem exists_update (hf : ∀ r, key (f r) = key r) {P : R → Prop} (ht : ∃ x ∈ t.rows, P x)
    (h : ∀ x ∈ t.rows, p x = true → P x → P (f x)) : ∃ x ∈ (t.update p f hf).rows, P x := by
  obtain ⟨x, hx, hP⟩ := ht
  refine ⟨_, List.mem_map_of_mem hx, ?_⟩
  split_ifs with hp
  · exact h x hx hp hP
  · exact hP

theorem forall_delete {P : R → Prop} (ht : ∀ x ∈ t.rows, P x) : ∀ x ∈ (t.delete p).rows, P x :=
  fun x hx => ht x (List.mem_of_mem_filter hx)

/-! ### Sums -/

/-- What a row adds to a sum. -/
def weight (p : R → Bool) (w : R → ℤ) (r : R) : ℤ := if p r then w r else 0

theorem sumWhere_eq (t : Table key) (p : R → Bool) (w : R → ℤ) :
    t.sumWhere p w = (t.rows.map (weight p w)).sum := by
  unfold sumWhere
  induction t.rows with
  | nil => rfl
  | cons r l ih =>
    rw [List.map_cons, List.sum_cons, ← ih, weight, List.filter_cons]
    split_ifs <;> simp

theorem sumWhere_append {r : R} (h : t'.rows = t.rows ++ [r]) (p : R → Bool) (w : R → ℤ) :
    t'.sumWhere p w = t.sumWhere p w + weight p w r := by
  rw [sumWhere_eq, sumWhere_eq, h]
  simp

theorem sumWhere_insert [DecidableEq K] {r : R} (h : t.insert r = some t') (p : R → Bool)
    (w : R → ℤ) : t'.sumWhere p w = t.sumWhere p w + weight p w r :=
  sumWhere_append (insert_eq_some h).2 p w

theorem sumWhere_mono {q : R → Bool} {w : R → ℤ} (h : ∀ r ∈ t.rows, p r = true → q r = true)
    (hw : ∀ r ∈ t.rows, 0 ≤ w r) : t.sumWhere p w ≤ t.sumWhere q w := by
  rw [sumWhere_eq, sumWhere_eq]
  refine List.sum_le_sum fun r hr => ?_
  unfold weight
  have hr0 := hw r hr
  have hpq := h r hr
  split_ifs with hp hq hq
  · exact le_rfl
  · exact absurd (hpq hp) hq
  · exact hr0
  · exact le_rfl

theorem sumWhere_update_le (t : Table key) (q : R → Bool) (f : R → R)
    (hf : ∀ r, key (f r) = key r) (p : R → Bool) (w : R → ℤ)
    (h : ∀ r ∈ t.rows, q r → weight p w (f r) ≤ weight p w r) :
    (t.update q f hf).sumWhere p w ≤ t.sumWhere p w := by
  rw [sumWhere_eq, sumWhere_eq]
  unfold update
  rw [List.map_map]
  refine List.sum_le_sum fun r hr => ?_
  simp only [Function.comp]
  split_ifs with hq
  · exact h r hr hq
  · exact le_rfl

theorem sumWhere_update_add {q : R → Bool} {hf : ∀ r, key (f r) = key r} {w d : R → ℤ}
    (h : ∀ r ∈ t.rows, q r = true → weight p w (f r) = weight p w r + d r) :
    (t.update q f hf).sumWhere p w = t.sumWhere p w + t.sumWhere q d := by
  rw [sumWhere_eq, sumWhere_eq, sumWhere_eq]
  unfold update
  rw [List.map_map, ← List.sum_map_add]
  refine congrArg List.sum (List.map_congr_left fun r hr => ?_)
  simp only [Function.comp]
  by_cases hq : q r = true
  · rw [if_pos hq, h r hr hq]
    simp [weight, hq]
  · simp [weight, hq]

theorem sumWhere_keys [DecidableEq K] {g : List R} (hg : ∀ r ∈ g, r ∈ t.rows)
    (hnd : (g.map key).Nodup) (w : R → ℤ) :
    t.sumWhere (fun r => (g.map key).contains (key r)) w = (g.map w).sum := by
  have hperm : (t.rows.filter fun r => (g.map key).contains (key r)).Perm g := by
    rw [List.perm_ext_iff_of_nodup ((List.Nodup.of_map key t.nodup).filter _)
      (List.Nodup.of_map key hnd)]
    intro r
    simp only [List.mem_filter, List.contains_iff_mem, List.mem_map]
    constructor
    · rintro ⟨hr, x, hx, hk⟩
      rwa [← List.inj_on_of_nodup_map t.nodup (hg x hx) hr hk]
    · intro hr
      exact ⟨hg r hr, r, hr, rfl⟩
  exact (hperm.map w).sum_eq

theorem sumWhere_update_single [DecidableEq K] {k : K} {r₀ : R} (h₀ : t.find? k = some r₀)
    (q : R → Bool) (hq₀ : q r₀ = true) (hq : ∀ r, q r = true → key r = k) (f : R → R)
    (hf : ∀ r, key (f r) = key r) (p : R → Bool) (w : R → ℤ) :
    (t.update q f hf).sumWhere p w + weight p w r₀ = t.sumWhere p w + weight p w (f r₀) := by
  obtain ⟨hr₀, hk₀⟩ := find?_eq_some.mp h₀
  have honly : ∀ r ∈ t.rows, q r = true → r = r₀ := fun r hr hqr =>
    List.inj_on_of_nodup_map t.nodup hr hr₀ ((hq r hqr).trans hk₀.symm)
  have hperm : (t.rows.filter q).Perm [r₀] := by
    rw [List.perm_ext_iff_of_nodup ((List.Nodup.of_map key t.nodup).filter q)
      (List.nodup_singleton r₀)]
    intro r
    rw [List.mem_filter, List.mem_singleton]
    exact ⟨fun h => honly r h.1 h.2, fun h => h ▸ ⟨hr₀, hq₀⟩⟩
  have hsum := (hperm.map fun _ => weight p w (f r₀) - weight p w r₀).sum_eq
  rw [sumWhere_update_add (d := fun _ => weight p w (f r₀) - weight p w r₀) fun r hr hqr => by
    rw [honly r hr hqr]; omega, sumWhere.eq_def t q, hsum, List.map_singleton, List.sum_singleton]
  omega

theorem sumWhere_delete (t : Table key) (q p : R → Bool) (w : R → ℤ)
    (h : ∀ r ∈ t.rows, q r → weight p w r = 0) : (t.delete q).sumWhere p w = t.sumWhere p w := by
  rw [sumWhere_eq, sumWhere_eq]
  unfold delete
  dsimp only
  generalize t.rows = l at h
  induction l with
  | nil => rfl
  | cons r l ih =>
    have ih := ih fun x hx => h x (by simp [hx])
    rw [List.filter_cons]
    split_ifs with hq
    · rw [List.map_cons, List.sum_cons, List.map_cons, List.sum_cons, ih]
    · rw [ih, List.map_cons, List.sum_cons, h r (by simp) (by simpa using hq), zero_add]

theorem sumWhere_nonneg (t : Table key) (p : R → Bool) (w : R → ℤ)
    (h : ∀ r ∈ t.rows, 0 ≤ w r) : 0 ≤ t.sumWhere p w := by
  refine List.sum_nonneg fun x hx => ?_
  obtain ⟨r, hr, rfl⟩ := List.mem_map.mp hx
  exact h r (List.mem_of_mem_filter hr)

end Table

end MacProvider.Lib.Tables
