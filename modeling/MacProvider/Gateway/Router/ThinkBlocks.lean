import MacProvider.Gateway.Basic

/-! # Reasoning text

`internal/router/responses.go` takes `<think>` blocks out of an answer, at once (`stripThinkBlocks`)
or fragment by fragment (`filterThinkContent`). `visible`, the text outside the blocks, is what is
streamed (`streamed_eq`), and what the regular expression leaves starts with it. -/

namespace MacProvider.Gateway.Router.ThinkBlocks

/-! ### The code -/

/-- `strings.Index`. -/
def index (tag : List Char) : List Char → Option ℕ
  | [] => none
  | c :: s => if tag <+: c :: s then some 0 else (index tag s).map (· + 1)

/-- `strings.LastIndex`. -/
def lastIndex (tag : List Char) : List Char → Option ℕ
  | [] => none
  | c :: s =>
    match lastIndex tag s with
    | some i => some (i + 1)
    | none => if tag <+: c :: s then some 0 else none

/-- How a block starts. -/
def startTag : List Char := "<think>".toList
/-- How it ends. -/
def endTag : List Char := "</think>".toList

/-- Matches of `(?s)<think>.*?</think>`, from left to right, each from the first start tag to the
next end tag. -/
def removeBlocks : ℕ → List Char → List Char
  | 0, s => s
  | n + 1, s =>
    match index startTag s with
    | none => s
    | some start =>
      let body := s.drop (start + startTag.length)
      match index endTag body with
      | none => s
      | some stop => s.take start ++ removeBlocks n (body.drop (stop + endTag.length))

/-- `thinkBlockRE.ReplaceAllString(s, "")`. -/
def replaceAll (s : List Char) : List Char := removeBlocks s.length s

/-- The blocks are taken out at once. -/
def stripThinkBlocks (s : List Char) : String :=
  let s := replaceAll s
  match lastIndex startTag s with
  | some start => trimSpace (.ofList (s.take start))
  | none => trimSpace (.ofList s)

/-- From the longest on, shorter than the tag. -/
def longestSuffixThatPrefixes (tag : List Char) : List Char → List Char
  | [] => []
  | c :: s =>
    if (c :: s).length < tag.length ∧ c :: s <+: tag then c :: s
    else longestSuffixThatPrefixes tag s

/-- What is kept between two fragments. -/
structure ResponsesAdapter where
  thinkInBlock : Bool := false
  thinkPending : List Char := []

/-- The loop of `filterThinkContent`, at most `n` rounds. -/
def filterLoop : ℕ → Bool → List Char → List Char × ResponsesAdapter
  | 0, inBlock, _ => ([], ⟨inBlock, []⟩)
  | n + 1, inBlock, input =>
    if input = [] then ([], ⟨inBlock, []⟩)
    else if inBlock then
      match index endTag input with
      | some stop => filterLoop n false (input.drop (stop + endTag.length))
      | none => ([], ⟨true, longestSuffixThatPrefixes endTag input⟩)
    else
      match index startTag input with
      | some start =>
        let r := filterLoop n true (input.drop (start + startTag.length))
        (input.take start ++ r.1, r.2)
      | none =>
        let pending := longestSuffixThatPrefixes startTag input
        (input.take (input.length - pending.length), ⟨false, pending⟩)

/-- Every round but the last one shortens the input. -/
def filterThinkContent (a : ResponsesAdapter) (s : List Char) : List Char × ResponsesAdapter :=
  filterLoop (a.thinkPending ++ s).length a.thinkInBlock (a.thinkPending ++ s)

/-- What is written at the end. -/
def flushThinkRemainder (a : ResponsesAdapter) : List Char :=
  if a.thinkInBlock then [] else a.thinkPending

/-- All that is written. -/
def streamed : ResponsesAdapter → List (List Char) → List Char
  | a, [] => flushThinkRemainder a
  | a, s :: fragments =>
    let r := filterThinkContent a s
    r.1 ++ streamed r.2 fragments

/-! ### The visible text -/

/-- The tag that ends what is read. -/
def tagOf (inBlock : Bool) : List Char := if inBlock then endTag else startTag

theorem tagOf_ne_nil (b : Bool) : tagOf b ≠ [] := by cases b <;> decide

/-- What is shown of a text without that tag. -/
def shown (inBlock : Bool) (s : List Char) : List Char := if inBlock then [] else s

/-- **The text outside the blocks.** -/
def visible (b : Bool) : List Char → List Char
  | [] => []
  | c :: s =>
    if tagOf b <+: c :: s then visible (!b) ((c :: s).drop (tagOf b).length)
    else shown b [c] ++ visible b s
termination_by s => s.length
decreasing_by
  · have := List.length_pos_iff.mpr (tagOf_ne_nil b)
    simp only [List.length_drop, List.length_cons]
    omega
  · exact Nat.lt_succ_self _

section Visible
variable {b : Bool} {tag s y : List Char} {c : Char} {i : ℕ}

theorem visible_cons (h : ¬ tagOf b <+: c :: s) :
    visible b (c :: s) = shown b [c] ++ visible b s := by
  rw [visible, if_neg h]

theorem prefix_of_append (h : tag <+: s ++ y) (hlen : tag.length ≤ s.length) : tag <+: s :=
  List.prefix_of_prefix_length_le h (List.prefix_append s y) hlen

theorem not_prefix_of_index (h : index tag (c :: s) = none) :
    ¬ tag <+: c :: s ∧ index tag s = none := by
  rw [index] at h
  split_ifs at h with hpre
  exact ⟨hpre, Option.map_eq_none_iff.mp h⟩

theorem index_spec (h : index tag s = some i) : tag <+: s.drop i ∧ i + tag.length ≤ s.length := by
  induction s generalizing i with
  | nil => cases h
  | cons c s ih =>
    rw [index] at h
    split_ifs at h with hpre
    · cases h
      exact ⟨hpre, by simpa using hpre.length_le⟩
    · obtain ⟨j, hj, rfl⟩ := Option.map_eq_some_iff.mp h
      obtain ⟨hocc, hlen⟩ := ih hj
      exact ⟨hocc, by rw [List.length_cons]; omega⟩

theorem visible_of_index_none (h : index (tagOf b) s = none) : visible b s = shown b s := by
  induction s with
  | nil => cases b <;> rw [visible] <;> rfl
  | cons c s ih =>
    obtain ⟨hpre, h⟩ := not_prefix_of_index h
    rw [visible_cons hpre, ih h]
    cases b <;> rfl

theorem visible_of_index (h : index (tagOf b) s = some i) : visible b (s ++ y) =
    shown b (s.take i) ++ visible (!b) (s.drop (i + (tagOf b).length) ++ y) := by
  induction s generalizing i with
  | nil => cases h
  | cons c s ih =>
    rw [index] at h
    split_ifs at h with hpre
    · cases h
      have hpre' : tagOf b <+: c :: (s ++ y) := hpre.trans (List.prefix_append (c :: s) y)
      rw [List.cons_append, visible, if_pos hpre', ← List.cons_append,
        List.drop_append_of_le_length hpre.length_le, Nat.zero_add]
      cases b <;> rfl
    · obtain ⟨j, hj, rfl⟩ := Option.map_eq_some_iff.mp h
      have hlen := (index_spec hj).2
      have hpre' : ¬ tagOf b <+: c :: (s ++ y) := fun h =>
        hpre (prefix_of_append (s := c :: s) h (by rw [List.length_cons]; omega))
      rw [List.cons_append, visible_cons hpre', ih hj, Nat.add_right_comm]
      cases b <;> rfl

/-- **What is held back**: no tag starts before it. -/
theorem visible_held (h : index (tagOf b) s = none) :
    let p := longestSuffixThatPrefixes (tagOf b) s
    p.length ≤ s.length ∧ index (tagOf b) p = none ∧
      ∀ y, visible b (s ++ y) = shown b (s.take (s.length - p.length)) ++ visible b (p ++ y) := by
  induction s with
  | nil => exact ⟨Nat.le_refl 0, rfl, fun y => by cases b <;> rfl⟩
  | cons c s ih =>
    obtain ⟨hpre, hrest⟩ := not_prefix_of_index h
    rw [longestSuffixThatPrefixes]
    split_ifs with hfits
    · exact ⟨Nat.le_refl _, h, fun y => by rw [Nat.sub_self]; cases b <;> rfl⟩
    · obtain ⟨hle, hp, hvis⟩ := ih hrest
      refine ⟨Nat.le_succ_of_le hle, hp, fun y => ?_⟩
      have hpre' : ¬ tagOf b <+: c :: (s ++ y) := by
        intro hocc
        rcases Nat.lt_or_ge (c :: s).length (tagOf b).length with hshort | hlong
        · exact hfits ⟨hshort, List.prefix_of_prefix_length_le (List.prefix_append (c :: s) y) hocc
            hshort.le⟩
        · exact hpre (prefix_of_append (s := c :: s) hocc hlong)
      rw [List.cons_append, visible_cons hpre', hvis, List.length_cons, Nat.succ_sub hle]
      cases b <;> rfl

theorem filterLoop_visible {n : ℕ} (h : s.length ≤ n) :
    let r := filterLoop n b s
    index (tagOf r.2.thinkInBlock) r.2.thinkPending = none ∧
      ∀ y, visible b (s ++ y) = r.1 ++ visible r.2.thinkInBlock (r.2.thinkPending ++ y) := by
  induction n generalizing b s with
  | zero =>
    rw [List.length_eq_zero_iff.mp (Nat.le_zero.mp h)]
    exact ⟨rfl, fun y => rfl⟩
  | succ n ih =>
    have hdrop : ∀ b i, (s.drop (i + (tagOf b).length)).length ≤ n := by
      intro b i
      have := List.length_pos_iff.mpr (tagOf_ne_nil b)
      rw [List.length_drop]
      omega
    rw [filterLoop]
    split_ifs with hnil hb
    · subst hnil
      exact ⟨rfl, fun y => rfl⟩
    · subst hb
      cases hi : index endTag s with
      | some i =>
        obtain ⟨hp, hvis⟩ := ih (b := false) (hdrop true i)
        exact ⟨hp, fun y => (visible_of_index (b := true) hi).trans (hvis y)⟩
      | none =>
        obtain ⟨-, hp, hvis⟩ := visible_held (b := true) hi
        exact ⟨hp, hvis⟩
    · rw [Bool.not_eq_true] at hb
      subst hb
      cases hi : index startTag s with
      | some i =>
        obtain ⟨hp, hvis⟩ := ih (b := true) (hdrop false i)
        refine ⟨hp, fun y => ?_⟩
        rw [visible_of_index (b := false) hi, List.append_assoc]
        exact congrArg (s.take i ++ ·) (hvis y)
      | none =>
        obtain ⟨-, hp, hvis⟩ := visible_held (b := false) hi
        exact ⟨hp, hvis⟩

end Visible

/-- **The fragments do not matter.** -/
theorem streamed_eq (fragments : List (List Char)) :
    streamed {} fragments = visible false fragments.flatten := by
  have hrun : ∀ a : ResponsesAdapter, index (tagOf a.thinkInBlock) a.thinkPending = none →
      streamed a fragments = visible a.thinkInBlock (a.thinkPending ++ fragments.flatten) := by
    induction fragments with
    | nil =>
      intro a ha
      rw [List.flatten_nil, List.append_nil, visible_of_index_none ha]
      rfl
    | cons s fragments ih =>
      intro a _
      obtain ⟨hp, hvis⟩ := filterLoop_visible (b := a.thinkInBlock) (s := a.thinkPending ++ s)
        (Nat.le_refl _)
      rw [streamed, List.flatten_cons, ← List.append_assoc, hvis]
      exact congrArg _ (ih _ hp)
  exact hrun {} rfl

/-! ### The text as it is read -/

/-- **How a text is read**: blocks, what is outside, and what follows an unclosed start tag. -/
inductive Reading : List Char → List Char → Option (List Char) → Prop
  | plain {s : List Char} : ¬ startTag <:+: s → Reading s s none
  | unclosed {front tail : List Char} : ¬ startTag <:+: front → ¬ endTag <:+: tail →
      Reading (front ++ (startTag ++ tail)) front (some tail)
  | block {front body rest outside : List Char} {unclosed : Option (List Char)} :
      ¬ startTag <:+: front → ¬ endTag <:+: body → Reading rest outside unclosed →
      Reading (front ++ (startTag ++ (body ++ (endTag ++ rest)))) (front ++ outside) unclosed

theorem index_eq_none {tag s : List Char} (hne : tag ≠ []) :
    index tag s = none ↔ ¬ tag <:+: s := by
  induction s with
  | nil => simpa [index] using hne
  | cons c s ih =>
    rw [index, List.infix_cons_iff, not_or, ← ih]
    split_ifs with hpre <;> simp [hpre]

theorem lastIndex_eq_none {tag s : List Char} (hne : tag ≠ []) :
    lastIndex tag s = none ↔ ¬ tag <:+: s := by
  induction s with
  | nil => simpa [lastIndex] using hne
  | cons c s ih =>
    rw [lastIndex, List.infix_cons_iff, not_or, ← ih]
    cases lastIndex tag s <;> simp

theorem split_of_index {tag s : List Char} {i : ℕ} (hne : tag ≠ []) (h : index tag s = some i) :
    s = s.take i ++ (tag ++ s.drop (i + tag.length)) ∧ ¬ tag <:+: s.take i := by
  obtain ⟨⟨t, ht⟩, -⟩ := index_spec h
  have hdrop : s.drop (i + tag.length) = t := by rw [← List.drop_drop, ← ht, List.drop_left]
  refine ⟨by rw [hdrop, ht, List.take_append_drop], ?_⟩
  rw [← index_eq_none hne]
  clear ht hdrop
  induction s generalizing i with
  | nil => cases h
  | cons c s ih =>
    rw [index] at h
    split_ifs at h with hpre
    · cases h
      rfl
    · obtain ⟨j, hj, rfl⟩ := Option.map_eq_some_iff.mp h
      rw [List.take_succ_cons, index, ih hj, if_neg]
      · rfl
      · exact fun hocc => hpre (hocc.trans (List.take_prefix (j + 1) (c :: s)))

/-- **Visible text and replacement**, by the reading. -/
theorem exists_reading {n : ℕ} {s : List Char} (h : s.length ≤ n) :
    ∃ outside unclosed, Reading s outside unclosed ∧ visible false s = outside ∧
      removeBlocks n s = outside ++ unclosed.elim [] (startTag ++ ·) := by
  induction n generalizing s with
  | zero =>
    rw [List.length_eq_zero_iff.mp (Nat.le_zero.mp h)]
    exact ⟨[], none, .plain (by decide), by rw [visible], rfl⟩
  | succ n ih =>
    rw [removeBlocks]
    cases hi : index startTag s with
    | none =>
      exact ⟨s, none, .plain ((index_eq_none (by decide)).mp hi),
        visible_of_index_none (b := false) hi, (List.append_nil s).symm⟩
    | some i =>
      obtain ⟨hs, hfront⟩ := split_of_index (by decide) hi
      have hvis : visible false s = s.take i ++ visible true (s.drop (i + startTag.length)) := by
        have hvis := visible_of_index (b := false) (y := []) hi
        rwa [List.append_nil, List.append_nil] at hvis
      have hshort : (s.drop (i + startTag.length)).length ≤ n := by
        have hseven : startTag.length = 7 := rfl
        rw [List.length_drop]
        omega
      rw [hvis]
      dsimp only
      generalize s.drop (i + startTag.length) = body at *
      generalize s.take i = front at *
      subst hs
      cases hj : index endTag body with
      | none =>
        rw [visible_of_index_none (b := true) hj]
        exact ⟨_, _, .unclosed hfront ((index_eq_none (by decide)).mp hj), List.append_nil _, rfl⟩
      | some j =>
        obtain ⟨hb, hblock⟩ := split_of_index (by decide) hj
        have hvis := visible_of_index (b := true) (y := []) hj
        rw [List.append_nil, List.append_nil] at hvis
        obtain ⟨outside, unclosed, hread, hout, hrest⟩ := ih (s := body.drop (j + endTag.length))
          ((List.drop_sublist _ _).length_le.trans hshort)
        refine ⟨front ++ outside, unclosed, ?_, congrArg (front ++ ·) (hvis.trans hout), ?_⟩
        · rw [hb]
          exact .block hfront hblock hread
        · dsimp only
          rw [hrest, List.append_assoc]

theorem prefix_of_lastIndex {tag s : List Char} {i : ℕ} (h : lastIndex tag s = some i) :
    tag <+: s.drop i := by
  induction s generalizing i with
  | nil => cases h
  | cons c s ih =>
    rw [lastIndex] at h
    cases hs : lastIndex tag s with
    | some j =>
      rw [hs] at h
      cases h
      exact ih hs
    | none =>
      rw [hs] at h
      split_ifs at h with hpre
      cases h
      exact hpre

theorem lastIndex_append {tag tail : List Char} {j : ℕ} (h : lastIndex tag tail = some j)
    (s : List Char) : lastIndex tag (s ++ tail) = some (s.length + j) := by
  induction s with
  | nil => simpa using h
  | cons c s ih =>
    rw [List.cons_append, lastIndex, ih, List.length_cons, Nat.add_right_comm]

theorem count_trimSpace (s : List Char) :
    (trimSpace (.ofList s)).toList.count '<' = s.count '<' := by
  have hdrop : ∀ s : List Char, (s.dropWhile isSpace).count '<' = s.count '<' := by
    intro s
    induction s with
    | nil => rfl
    | cons c s ih =>
      rw [List.dropWhile_cons]
      split_ifs with hc
      · have hne : c ≠ '<' := by
          rintro rfl
          exact absurd hc (by decide)
        rw [ih, List.count_cons_of_ne hne]
      · rfl
  simp only [trimSpace, String.toList_ofList, List.rdropWhile, List.count_reverse, hdrop]

/-- **Where the two ways agree**: no `<think>` follows an unclosed one, and if all are closed, the
removal puts none together. -/
theorem think_filters_agree_iff (fragments : List (List Char)) :
    ∃ outside unclosed, Reading fragments.flatten outside unclosed ∧
      (trimSpace (.ofList (streamed {} fragments)) = stripThinkBlocks fragments.flatten ↔
        ¬ startTag <:+: unclosed.getD outside) := by
  obtain ⟨v, unclosed, hread, hvis, hall⟩ := exists_reading (Nat.le_refl fragments.flatten.length)
  refine ⟨v, unclosed, hread, ?_⟩
  rw [stripThinkBlocks, replaceAll, hall, streamed_eq, hvis]
  -- otherwise one side has a `<` more
  have hne : ∀ t u : List Char, trimSpace (.ofList (t ++ '<' :: u)) ≠ trimSpace (.ofList t) := by
    intro t u h
    have hcount := congrArg (fun s => s.toList.count '<') h
    simp only [count_trimSpace, List.count_append, List.count_cons_self] at hcount
    omega
  cases unclosed with
  | none =>
    rw [Option.elim_none, List.append_nil, Option.getD_none, ← lastIndex_eq_none (by decide)]
    cases hlast : lastIndex startTag v with
    | none => simp
    | some i =>
      obtain ⟨u, hu⟩ := prefix_of_lastIndex hlast
      have hneq := hne (v.take i) ("think>".toList ++ u)
      rw [show '<' :: ("think>".toList ++ u) = v.drop i from hu, List.take_append_drop] at hneq
      exact iff_of_false hneq (by simp)
  | some tail =>
    have htail : startTag <:+: tail ↔ startTag <:+: "think>".toList ++ tail := by
      simp [startTag, List.infix_cons_iff]
    rw [Option.getD_some, htail, ← lastIndex_eq_none (by decide), Option.elim_some]
    cases hlast : lastIndex startTag ("think>".toList ++ tail) with
    | none =>
      have hfirst : lastIndex startTag (startTag ++ tail) = some 0 := by
        show lastIndex startTag ('<' :: ("think>".toList ++ tail)) = some 0
        rw [lastIndex, hlast]
        exact if_pos (List.prefix_append startTag tail)
      simp [lastIndex_append hfirst v]
    | some j =>
      have hlater : lastIndex startTag (startTag ++ tail) = some (j + 1) := by
        show lastIndex startTag ('<' :: ("think>".toList ++ tail)) = some (j + 1)
        rw [lastIndex, hlast]
      simp only [lastIndex_append hlater v, List.take_length_add_append]
      exact iff_of_false (hne v _).symm (by simp)

/-- A second tag in an open block. -/
theorem open_block_is_shown :
    streamed {} ["<think>a".toList, "<think>b".toList] = [] ∧
      stripThinkBlocks "<think>a<think>b".toList = "<think>a" := by
  decide

/-- **Nothing of a block is streamed**, however it is cut; what is behind it is a text of its
own. -/
theorem block_is_hidden {front block rest : List Char} {fragments : List (List Char)}
    (hstart : index startTag (front ++ startTag) = some front.length)
    (hend : index endTag (block ++ endTag) = some block.length)
    (h : fragments.flatten = (front ++ startTag) ++ ((block ++ endTag) ++ rest)) :
    streamed {} fragments = front ++ streamed {} [rest] := by
  rw [streamed_eq, streamed_eq, h, List.flatten_singleton, visible_of_index (b := false) hstart]
  have hblock : visible true ((block ++ endTag) ++ rest) = visible false rest := by
    rw [visible_of_index (b := true) hend]
    simp [shown, tagOf]
  simpa [shown, tagOf] using hblock

theorem block_is_hidden_cut :
    streamed {} ["a<th".toList, "ink>b</".toList, "think>c".toList] =
      ['a'] ++ streamed {} [['c']] := by
  have hend : index endTag (['b'] ++ endTag) = some ['b'].length := by decide
  exact block_is_hidden (by decide) hend (by decide)

end MacProvider.Gateway.Router.ThinkBlocks
