import Mathlib.Data.List.Infix

/-! # The usage of a stream

The last of each reported token count holds. Cached tokens that do not fit are replaced by `-1` for
good. The HTTP relay merges line by line, the WebSocket relay block by block. -/

namespace MacProvider.Coordinator.Buyer.StreamUsage

/-- The pointers to the counts of a usage object. -/
structure Usage where
  prompt : Option ℤ := none
  cached : Option ℤ := none
  completion : Option ℤ := none
  deriving DecidableEq

/-- The cached tokens do not fit the prompt. -/
def invalidCachedPromptTokens : Option ℤ → Option ℤ → Bool
  | none, _ => false
  | some cached, prompt => cached < 0 || prompt.isNone || prompt.any (· < cached)

/-- The counts behind a further usage. -/
def mergeStreamUsagePointers (current next : Usage) : Usage :=
  if next = {} then current
  else
    let prompt := next.prompt.or current.prompt
    let completion := next.completion.or current.completion
    let cached := next.cached.or current.cached
    if invalidCachedPromptTokens current.cached current.prompt ||
        invalidCachedPromptTokens cached prompt then
      ⟨prompt, some (-1), completion⟩
    else ⟨prompt, cached, completion⟩

/-- One turn: a usage is merged. -/
def observe (current next : Usage) : Usage :=
  if next ≠ {} then mergeStreamUsagePointers current next else current

/-- The loop over the lines of an HTTP response. -/
def httpRelay (lines : List Usage) : Usage := lines.foldl observe {}

/-- The counts it returns. -/
def sseBlockWithCachedPromptTokens (block : List Usage) : Usage := block.foldl observe {}

/-- The calls of `writeChunk`. -/
def wsRelay (blocks : List (List Usage)) : Usage :=
  (blocks.map sseBlockWithCachedPromptTokens).foldl observe {}

/-! ### What a fold leaves -/

/-- The last of a count. -/
def last (f : Usage → Option ℤ) (l : List Usage) : Option ℤ := (l.filterMap f).getLast?

/-- More cached tokens than prompt tokens. -/
def Misfit (l : List Usage) : Prop :=
  invalidCachedPromptTokens (last Usage.cached l) (last Usage.prompt l) = true

/-- There was a misfit on the way. -/
def Tainted (l : List Usage) : Prop := ∃ l', l' <+: l ∧ Misfit l'

instance : DecidablePred Misfit := fun _ => inferInstanceAs (Decidable (_ = true))

instance : DecidablePred Tainted := fun l =>
  decidable_of_iff (∃ l' ∈ l.inits, Misfit l') (by simp [Tainted])

/-- The cached tokens that hold. -/
def keptCached (l : List Usage) : Option ℤ :=
  if Tainted l then some (-1) else last Usage.cached l

variable {l : List Usage} {u : Usage} {f : Usage → Option ℤ}

theorem last_append (l l' : List Usage) : last f (l ++ l') = (last f l').or (last f l) := by
  simp [last, List.getLast?_append]

@[simp] theorem last_singleton : last f [u] = f u := by
  cases h : f u <;> simp [last, h]

theorem misfit_nil : ¬ Misfit [] := by simp [Misfit, last, invalidCachedPromptTokens]

theorem tainted_concat : Tainted (l ++ [u]) ↔ Tainted l ∨ Misfit (l ++ [u]) := by
  simp only [Tainted, List.prefix_concat_iff, or_and_right, exists_or, exists_eq_left, or_comm]

theorem last_cached_ne (h : ¬ Misfit l) : last Usage.cached l ≠ some (-1) := fun hc =>
  h (by simp [Misfit, hc, invalidCachedPromptTokens])

/-- **The state after any lines.** -/
theorem foldl_observe (l : List Usage) :
    l.foldl observe {} = ⟨last Usage.prompt l, keptCached l, last Usage.completion l⟩ := by
  induction l using List.reverseRecOn with
  | nil =>
    have h : ¬ Tainted [] := fun ⟨l', hl, hm⟩ => misfit_nil (List.prefix_nil.mp hl ▸ hm)
    simp [keptCached, h, last]
  | append_singleton l u ih =>
    have hself : Misfit l → Tainted l := fun h => ⟨l, List.prefix_rfl, h⟩
    rw [List.foldl_append, List.foldl_cons, List.foldl_nil, ih]
    by_cases hu : u = {}
    · -- nothing is merged, and nothing becomes misfit
      subst hu
      have hm : Misfit (l ++ [({} : Usage)]) ↔ Misfit l := by simp [Misfit, last_append]
      have ht : Tainted (l ++ [({} : Usage)]) ↔ Tainted l := by
        rw [tainted_concat, hm, or_iff_left_of_imp hself]
      have hk : keptCached (l ++ [({} : Usage)]) = keptCached l := by
        simp only [keptCached, last_append, last_singleton, Option.none_or]
        exact if_congr ht rfl rfl
      simp [observe, hk, last_append]
    by_cases ht : Tainted l
    · simp [observe, mergeStreamUsagePointers, hu, keptCached, tainted_concat, ht, last_append,
        invalidCachedPromptTokens]
    · have hl := mt hself ht
      unfold Misfit at hl
      simp only [observe, mergeStreamUsagePointers, hu, keptCached, tainted_concat, ht, last_append,
        Misfit, hl, last_singleton, ne_eq, not_false_eq_true, if_true, if_false, Bool.false_or,
        false_or]
      split_ifs <;> rfl

/-! ### The two relays -/

theorem last_blocks {blocks : List (List Usage)}
    (hf : ∀ b ∈ blocks, f (sseBlockWithCachedPromptTokens b) = last f b) :
    last f (blocks.map sseBlockWithCachedPromptTokens) = last f blocks.flatten := by
  induction blocks using List.reverseRecOn with
  | nil => rfl
  | append_singleton bs b ih =>
    have hb := hf b (by simp)
    simp [last_append, hb, ih fun b' h => hf b' (by simp [h])]

/-- A misfit inside a block, or between two. -/
def BlocksTainted (blocks : List (List Usage)) : Prop :=
  (∃ b ∈ blocks, Tainted b) ∨ ∃ bs, bs <+: blocks ∧ Misfit bs.flatten

theorem sseBlock_eq (b : List Usage) : sseBlockWithCachedPromptTokens b =
    ⟨last Usage.prompt b, keptCached b, last Usage.completion b⟩ := foldl_observe b

theorem misfit_blocks {blocks : List (List Usage)} (h : ∀ b ∈ blocks, ¬ Tainted b) :
    Misfit (blocks.map sseBlockWithCachedPromptTokens) ↔ Misfit blocks.flatten := by
  unfold Misfit
  rw [last_blocks (f := Usage.prompt) fun b _ => by rw [sseBlock_eq],
    last_blocks fun b hb => by rw [sseBlock_eq, keptCached, if_neg (h b hb)]]

theorem tainted_blocks (blocks : List (List Usage)) :
    Tainted (blocks.map sseBlockWithCachedPromptTokens) ↔ BlocksTainted blocks := by
  induction blocks using List.reverseRecOn with
  | nil => simp [Tainted, BlocksTainted]
  | append_singleton bs b ih =>
    have hsplit : BlocksTainted (bs ++ [b]) ↔
        BlocksTainted bs ∨ Tainted b ∨ Misfit (bs ++ [b]).flatten := by
      simp only [BlocksTainted, List.prefix_concat_iff, or_and_right, exists_or, exists_eq_left,
        List.mem_append, List.mem_singleton]
      grind
    rw [List.map_append, List.map_singleton, tainted_concat, ih, hsplit]
    refine or_congr_right' fun hbs => ?_
    by_cases hb : Tainted b
    · simp [Misfit, last_append, sseBlock_eq, keptCached, hb, invalidCachedPromptTokens]
    · rw [← List.map_singleton, ← List.map_append, misfit_blocks, or_iff_right hb]
      simp only [List.mem_append, List.mem_singleton]
      rintro b' (h | rfl)
      · exact fun ht => hbs (.inl ⟨b', h, ht⟩)
      · exact hb

/-- **The counts do not depend on the framing exactly if** both relays have seen a misfit, or
neither. -/
theorem relays_agree_iff (blocks : List (List Usage)) :
    wsRelay blocks = httpRelay blocks.flatten ↔
      (BlocksTainted blocks ↔ Tainted blocks.flatten) := by
  have hkept : wsRelay blocks = httpRelay blocks.flatten ↔
      keptCached (blocks.map sseBlockWithCachedPromptTokens) = keptCached blocks.flatten := by
    unfold wsRelay httpRelay
    rw [foldl_observe, foldl_observe, last_blocks fun b _ => by rw [sseBlock_eq],
      last_blocks fun b _ => by rw [sseBlock_eq]]
    simp
  have htaint := tainted_blocks blocks
  rw [hkept, keptCached, keptCached]
  by_cases hb : BlocksTainted blocks <;> by_cases hl : Tainted blocks.flatten
  · simp [htaint, hb, hl]
  · have hne := last_cached_ne fun h => hl ⟨_, List.prefix_rfl, h⟩
    simp [htaint, hb, hl, hne.symm]
  all_goals
    obtain ⟨hin, hat⟩ := not_or.mp hb
    have hne := last_cached_ne fun h => hat ⟨_, List.prefix_rfl, h⟩
    have hlast : last Usage.cached (blocks.map sseBlockWithCachedPromptTokens) =
        last Usage.cached blocks.flatten := last_blocks fun b h => by
      rw [sseBlock_eq, keptCached, if_neg fun ht => hin ⟨b, h, ht⟩]
    simp [htaint, hb, hl, hlast, hne]

/-- Prompt tokens in one block, cached ones in the next. -/
theorem relays_differ :
    wsRelay [[⟨some 10, none, none⟩], [⟨none, some 5, none⟩]] = ⟨some 10, some (-1), none⟩ ∧
      httpRelay [⟨some 10, none, none⟩, ⟨none, some 5, none⟩] = ⟨some 10, some 5, none⟩ := by
  decide

end MacProvider.Coordinator.Buyer.StreamUsage
