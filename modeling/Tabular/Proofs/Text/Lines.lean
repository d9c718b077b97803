import Tabular.Proofs.Text.Trim
import Tabular.Text.Lines

/-!
# Splitting a text and putting it together

The pieces of a text hold no separator, and joined by it they are the text again. Lines that hold
no line feed and end in no carriage return are read back from the text that writes a line feed
after each.
-/

namespace Tabular.Text

/-- The lines, a line feed after each. -/
def unlines (ls : List (List Char)) : List Char := ls.flatMap (· ++ ['\n'])

@[simp] theorem unlines_cons (l : List Char) (ls : List (List Char)) :
    unlines (l :: ls) = l ++ '\n' :: unlines ls := by
  simp [unlines]

section Pieces

variable {p : Char → Bool}

theorem splitOn_append_cons {w : List Char} (h : ∀ c ∈ w, p c = false) {c : Char} (hc : p c = true)
    (s : List Char) : splitOn p (w ++ c :: s) = w :: splitOn p s := by
  induction w with
  | nil => simp [splitOn, hc]
  | cons d w ih =>
    rw [List.cons_append, splitOn, ih fun e he => h e (List.mem_cons_of_mem d he),
      h d List.mem_cons_self]
    rfl

theorem splitOn_cons_of_not {c : Char} (hc : p c = false) (s : List Char) :
    ∃ w ws, splitOn p s = w :: ws ∧ splitOn p (c :: s) = (c :: w) :: ws := by
  obtain ⟨w, ws, hw⟩ := List.exists_cons_of_ne_nil (splitOn_ne_nil p s)
  exact ⟨w, ws, hw, by simp [splitOn, hc, hw]⟩

theorem not_of_mem_splitOn {s w : List Char} (hw : w ∈ splitOn p s) {c : Char} (hc : c ∈ w) :
    p c = false := by
  induction s generalizing w with
  | nil => simp_all [splitOn]
  | cons d s ih =>
    cases hd : p d with
    | true =>
      rw [splitOn, if_pos hd, List.mem_cons] at hw
      rcases hw with rfl | hw
      · exact absurd hc List.not_mem_nil
      · exact ih hw hc
    | false =>
      obtain ⟨v, vs, hv, hs⟩ := splitOn_cons_of_not hd s
      rw [hs, List.mem_cons] at hw
      rw [hv] at ih
      rcases hw with rfl | hw
      · rcases List.mem_cons.mp hc with rfl | hc
        · exact hd
        · exact ih List.mem_cons_self hc
      · exact ih (List.mem_cons_of_mem v hw) hc

theorem splitOn_of_forall_not {w : List Char} (h : ∀ c ∈ w, p c = false) : splitOn p w = [w] := by
  induction w with
  | nil => rfl
  | cons d w ih =>
    rw [splitOn, ih fun e he => h e (List.mem_cons_of_mem d he), h d List.mem_cons_self]
    rfl

theorem mem_of_mem_splitOn {s w : List Char} (hw : w ∈ splitOn p s) {c : Char} (hc : c ∈ w) :
    c ∈ s := by
  induction s generalizing w with
  | nil => simp_all [splitOn]
  | cons d s ih =>
    cases hd : p d with
    | true =>
      rw [splitOn, if_pos hd, List.mem_cons] at hw
      rcases hw with rfl | hw
      · exact absurd hc List.not_mem_nil
      · exact List.mem_cons_of_mem d (ih hw hc)
    | false =>
      obtain ⟨v, vs, hv, hs⟩ := splitOn_cons_of_not hd s
      rw [hs, List.mem_cons] at hw
      rw [hv] at ih
      rcases hw with rfl | hw
      · exact (List.mem_cons.mp hc).elim (fun he => he ▸ List.mem_cons_self) fun hc =>
          List.mem_cons_of_mem d (ih List.mem_cons_self hc)
      · exact List.mem_cons_of_mem d (ih (List.mem_cons_of_mem v hw) hc)

/-- The pieces joined by their separator are the text. -/
theorem joinWith_splitOn (c : Char) (s : List Char) : joinWith [c] (splitOn (· == c) s) = s := by
  induction s with
  | nil => rfl
  | cons d s ih =>
    cases hd : d == c with
    | true =>
      obtain ⟨w, ws, hw⟩ := List.exists_cons_of_ne_nil (splitOn_ne_nil (· == c) s)
      rw [joinWith, hw] at ih
      rw [joinWith, splitOn, if_pos hd, hw, List.intercalate_cons_cons, ih, eq_of_beq hd]
      rfl
    | false =>
      obtain ⟨w, ws, hw, hs⟩ := splitOn_cons_of_not (p := (· == c)) hd s
      rw [joinWith, hw] at ih
      rw [joinWith, hs, ← ih]
      cases ws with
      | nil => simp
      | cons v vs => simp [List.intercalate_cons_cons]

end Pieces

/-- A text is split at a separator into what the texts on its sides are split into. -/
theorem splitOn_append_separator {p : Char → Bool} {c : Char} (hc : p c = true) (s t : List Char) :
    splitOn p (s ++ c :: t) = splitOn p s ++ splitOn p t := by
  induction s with
  | nil => simp [splitOn, hc]
  | cons d s ih =>
    cases hd : p d with
    | true => simp [splitOn, hd, ih]
    | false =>
      obtain ⟨w, ws, hw, hs⟩ := splitOn_cons_of_not hd s
      obtain ⟨w', ws', hw', hs'⟩ := splitOn_cons_of_not hd (s ++ c :: t)
      rw [ih, hw, List.cons_append, List.cons.injEq] at hw'
      obtain ⟨rfl, rfl⟩ := hw'
      rw [List.cons_append, hs', hs, List.cons_append]

/-- The line holds no line feed, and no carriage return ends it. -/
def IsLine (l : List Char) : Prop := '\n' ∉ l ∧ l.getLast? ≠ some '\r'

theorem IsLine.dropReturn {l : List Char} (h : IsLine l) : dropReturn l = l := if_neg h.2

theorem endLines_cons (l : List Char) {ls : List (List Char)} (h : ls ≠ []) :
    endLines (l :: ls) = dropReturn l :: endLines ls := by
  cases ls with
  | nil => exact absurd rfl h
  | cons m ms => rfl

/-- Lines are read back from the text that they make. -/
theorem lines_unlines {ls : List (List Char)} (h : ∀ l ∈ ls, IsLine l) : lines (unlines ls) = ls := by
  induction ls with
  | nil => rfl
  | cons l ls ih =>
    have hl := h l List.mem_cons_self
    have hsep : ∀ c ∈ l, (c == '\n') = false := by
      intro c hc
      exact beq_eq_false_iff_ne.mpr fun e => hl.1 (e ▸ hc)
    rw [lines, unlines_cons, splitOn_append_cons hsep rfl, endLines_cons l (splitOn_ne_nil _ _),
      hl.dropReturn]
    exact congrArg (l :: ·) (ih fun m hm => h m (List.mem_cons_of_mem l hm))

section Join

variable {sep : List Char}

theorem joinWith_singleton (l : List Char) : joinWith sep [l] = l := List.intercalate_singleton

theorem joinWith_cons {ls : List (List Char)} (h : ls ≠ []) (l : List Char) :
    joinWith sep (l :: ls) = l ++ sep ++ joinWith sep ls := List.intercalate_cons_of_ne_nil h

/-- Pieces without separators are read back from the text that they are joined to. -/
theorem splitOn_joinWith {p : Char → Bool} {c : Char} (hc : p c = true) {ls : List (List Char)}
    (hn : ls ≠ []) (h : ∀ l ∈ ls, ∀ d ∈ l, p d = false) : splitOn p (joinWith [c] ls) = ls := by
  induction ls with
  | nil => exact absurd rfl hn
  | cons l ls ih =>
    obtain ⟨hl, hls⟩ := List.forall_mem_cons.mp h
    by_cases he : ls = []
    · rw [he, joinWith_singleton, splitOn_of_forall_not hl]
    · rw [joinWith_cons he, List.append_assoc, List.singleton_append, splitOn_append_cons hl hc,
        ih he hls]

theorem mem_joinWith {c : Char} {ls : List (List Char)} (h : c ∈ joinWith sep ls) :
    c ∈ sep ∨ ∃ l ∈ ls, c ∈ l := by
  induction ls with
  | nil => exact absurd h List.not_mem_nil
  | cons l ls ih =>
    by_cases he : ls = []
    · rw [he, joinWith_singleton] at h
      exact .inr ⟨l, List.mem_cons_self, h⟩
    · rw [joinWith_cons he, List.mem_append, List.mem_append] at h
      obtain (h | h) | h := h
      · exact .inr ⟨l, List.mem_cons_self, h⟩
      · exact .inl h
      · exact (ih h).imp_right fun ⟨m, hm, hc⟩ => ⟨m, List.mem_cons_of_mem l hm, hc⟩

theorem joinWith_ne_nil {ls : List (List Char)} (hn : ls ≠ []) (h : ∀ l ∈ ls, l ≠ []) :
    joinWith sep ls ≠ [] := by
  obtain ⟨l, ls, rfl⟩ := List.exists_cons_of_ne_nil hn
  have hl := h l List.mem_cons_self
  by_cases he : ls = []
  · rwa [he, joinWith_singleton]
  · rw [joinWith_cons he, List.append_assoc]
    exact List.append_ne_nil_of_left_ne_nil hl _

theorem joinWith_append {ls ls' : List (List Char)} (h : ls ≠ []) (h' : ls' ≠ []) :
    joinWith sep (ls ++ ls') = joinWith sep ls ++ sep ++ joinWith sep ls' := by
  induction ls with
  | nil => exact absurd rfl h
  | cons l ls ih =>
    by_cases hn : ls = []
    · rw [hn, joinWith_singleton]
      exact joinWith_cons h' l
    · have ha : ls ++ ls' ≠ [] := by
        simp [hn]
      rw [List.cons_append, joinWith_cons ha, ih hn, joinWith_cons hn]
      simp only [List.append_assoc]

/-- A piece of a text stands between separators or at an end. -/
theorem mem_splitOn_iff {c : Char} {s w : List Char} :
    w ∈ splitOn (· == c) s ↔ c ∉ w ∧ ∃ a b, s = a ++ w ++ b ∧ (a = [] ∨ ∃ a', a = a' ++ [c]) ∧
      (b = [] ∨ ∃ b', b = c :: b') := by
  have hsep : (c == c) = true := beq_self_eq_true c
  constructor
  · intro h
    have hc : c ∉ w := fun hm => by simpa using not_of_mem_splitOn h hm
    have hs := joinWith_splitOn c s
    obtain ⟨before, after, hp⟩ := List.append_of_mem h
    have hb : ∃ b, joinWith [c] (w :: after) = w ++ b ∧ (b = [] ∨ ∃ b', b = c :: b') := by
      by_cases hn : after = []
      · exact ⟨[], by rw [hn, joinWith_singleton, List.append_nil], .inl rfl⟩
      · exact ⟨c :: joinWith [c] after, by rw [joinWith_cons hn, List.append_assoc]; rfl, .inr ⟨_, rfl⟩⟩
    obtain ⟨b, hb, hb'⟩ := hb
    refine ⟨hc, ?_⟩
    by_cases hn : before = []
    · refine ⟨[], b, ?_, .inl rfl, hb'⟩
      rw [← hs, hp, hn, List.nil_append, hb, List.nil_append]
    · refine ⟨joinWith [c] before ++ [c], b, ?_, .inr ⟨_, rfl⟩, hb'⟩
      rw [← hs, hp, joinWith_append hn (List.cons_ne_nil w after), hb, List.append_assoc,
        List.append_assoc, List.append_assoc]
  · rintro ⟨hc, a, b, rfl, ha, hb⟩
    have hw : ∀ d ∈ w, (d == c) = false := fun d hd => beq_eq_false_iff_ne.mpr fun e => hc (e ▸ hd)
    have hfirst : w ∈ splitOn (· == c) (w ++ b) := by
      obtain rfl | ⟨b', rfl⟩ := hb
      · rw [List.append_nil, splitOn_of_forall_not hw]
        exact List.mem_cons_self
      · rw [splitOn_append_cons hw hsep]
        exact List.mem_cons_self
    obtain rfl | ⟨a', rfl⟩ := ha
    · exact hfirst
    · have hsplit := splitOn_append_separator (p := (· == c)) hsep a' (w ++ b)
      rw [List.append_assoc, List.append_assoc, List.singleton_append, hsplit]
      exact List.mem_append_right _ hfirst

theorem isBlankText_joinWith (hs : isBlankText sep = true) {ls : List (List Char)}
    (h : ∀ l ∈ ls, isBlankText l = true) : isBlankText (joinWith sep ls) = true := by
  induction ls with
  | nil => rfl
  | cons l ls ih =>
    obtain ⟨hl, hls⟩ := List.forall_mem_cons.mp h
    by_cases hn : ls = []
    · rw [hn, joinWith_singleton]
      exact hl
    · rw [joinWith_cons hn, isBlankText_append, isBlankText_append, hl, hs, ih hls]
      rfl

theorem dropBlanks_joinWith (hs : isBlankText sep = true) (ls : List (List Char)) :
    dropBlanks (joinWith sep ls) = ls.flatMap dropBlanks := by
  induction ls with
  | nil => rfl
  | cons l ls ih =>
    by_cases hn : ls = []
    · rw [hn, joinWith_singleton, List.flatMap_singleton]
    · rw [joinWith_cons hn, dropBlanks_append, dropBlanks_append, dropBlanks_eq_nil hs, ih,
        List.append_nil, List.flatMap_cons]

end Join

theorem newline_notMem_of_mem_lines {s l : List Char} (h : l ∈ lines s) : '\n' ∉ l := by
  have hpieces : ∀ ps : List (List Char), (∀ p ∈ ps, '\n' ∉ p) → ∀ l ∈ endLines ps, '\n' ∉ l := by
    intro ps hps
    fun_induction endLines ps with
    | case1 => simp
    | case2 last => simp
    | case3 last => simpa using hps
    | case4 line rest hne ih =>
      obtain ⟨hline, hrest⟩ := List.forall_mem_cons.mp hps
      refine List.forall_mem_cons.mpr ⟨fun hn => hline ?_, ih hrest⟩
      rw [dropReturn] at hn
      split at hn
      · exact List.dropLast_subset line hn
      · exact hn
  refine hpieces _ (fun p hp hn => ?_) l h
  simpa using not_of_mem_splitOn hp hn

end Tabular.Text
