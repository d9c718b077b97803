import Tabular.Proofs.Tmdl.Expression

/-!
# What dedenting keeps

The common indentation is counted in bytes, over lines whose leading blanks may differ in width. It is
at most the indentation of each line, so a cut there takes blanks only; where it falls inside a blank, the
line is trimmed instead. What is left has no lines of blanks and begins at the margin, so nothing more is
taken when it is split and joined again.
-/

namespace Tabular.Tmdl

open Text

variable {n : Nat} {l cut rest : List Char} {lines : List (List Char)}

/-- A character of the text begins at the offset, or the text ends there. -/
def IsBoundary (n : Nat) (s : List Char) : Prop := ∃ u t : List Char, s = u ++ t ∧ utf8Length u = n

theorem isBoundary_iff : IsBoundary n l ↔ ∃ rest, dropUtf8 n l = some rest := by
  constructor
  · rintro ⟨u, t, hl, hu⟩
    exact ⟨t, dropUtf8_eq_some_iff.mpr ⟨u, hl, hu⟩⟩
  · rintro ⟨t, ht⟩
    obtain ⟨u, hl, hu⟩ := dropUtf8_eq_some_iff.mp ht
    exact ⟨u, t, hl, hu⟩

section Cut

theorem leadingBytes_le (l : List Char) : leadingBytes l ≤ utf8Length l := by
  have hl : l.takeWhile isBlank ++ l.dropWhile isBlank = l := List.takeWhile_append_dropWhile
  conv => rhs; rw [← hl]
  rw [utf8Length_append]
  exact Nat.le_add_right _ _

/-- No line that is not blank has a smaller indentation than the common one. -/
theorem commonIndent_le (hl : l ∈ lines) (hb : isBlankText l = false) :
    commonIndent lines ≤ leadingBytes l := by
  have hm : leadingBytes l ∈ (lines.filter (!isBlankText ·)).map leadingBytes :=
    List.mem_map_of_mem (List.mem_filter.mpr ⟨hl, by simp [hb]⟩)
  rw [commonIndent]
  cases hmin : ((lines.filter (!isBlankText ·)).map leadingBytes).min? with
  | none => exact Nat.zero_le _
  | some m => exact (List.min?_eq_some_iff.mp hmin).2 _ hm

theorem isBlankText_cut (hl : l = cut ++ rest) (hn : utf8Length cut ≤ leadingBytes l) :
    isBlankText cut = true := by
  have hblank : ∀ c ∈ l.takeWhile isBlank, isBlank c = true := List.all_eq_true.mp List.all_takeWhile
  have hsub : ∀ c ∈ cut, c ∈ l.takeWhile isBlank := by
    obtain ⟨u, hu⟩ | h := List.prefix_or_prefix_of_prefix (List.takeWhile_prefix isBlank)
      (hl ▸ List.prefix_append cut rest)
    · have hlength := congrArg utf8Length hu
      rw [utf8Length_append, ← leadingBytes] at hlength
      have hzero : utf8Length u = 0 := by omega
      rw [utf8Length_eq_zero_iff.mp hzero, List.append_nil] at hu
      exact fun c hc => hu ▸ hc
    · exact fun c hc => h.subset hc
  exact List.all_eq_true.mpr fun c hc => hblank c (hsub c hc)

/-- What is cut off a line that is not blank: its first bytes, if a character begins behind them, and
otherwise all of its leading blanks. -/
theorem exists_cut (hb : isBlankText l = false) (hn : n ≤ leadingBytes l) :
    ∃ cut, l = cut ++ dedentLine n l ∧ isBlankText cut = true ∧
      (utf8Length cut = n ∧ dropUtf8 n l = some (dedentLine n l) ∨
        ¬ IsBoundary n l ∧ dedentLine n l = trimStart l) := by
  cases hd : dropUtf8 n l with
  | some rest =>
    have hrest : dedentLine n l = rest := by
      rw [dedentLine, hb, hd]
      rfl
    obtain ⟨cut, hl, hcut⟩ := dropUtf8_eq_some_iff.mp hd
    rw [hrest]
    exact ⟨cut, hl, isBlankText_cut hl (by omega), .inl ⟨hcut, rfl⟩⟩
  | none =>
    have hrest : dedentLine n l = trimStart l := by
      rw [dedentLine, hb, hd]
      rfl
    obtain ⟨cut, hl, hcut⟩ := exists_append_trimStart l
    rw [hrest]
    refine ⟨cut, hl, List.all_eq_true.mpr hcut, .inr ⟨fun h => ?_, rfl⟩⟩
    obtain ⟨rest, hr⟩ := isBoundary_iff.mp h
    simp [hd] at hr

theorem dedentLine_of_blank (hb : isBlankText l = true) : dedentLine n l = [] := if_pos hb

theorem dropBlanks_dedentLine (hn : isBlankText l = false → n ≤ leadingBytes l) :
    dropBlanks (dedentLine n l) = dropBlanks l := by
  cases hb : isBlankText l with
  | true => rw [dedentLine_of_blank hb, dropBlanks_eq_nil hb, dropBlanks_eq_nil rfl]
  | false =>
    obtain ⟨cut, hl, hcut, -⟩ := exists_cut hb (hn hb)
    conv => rhs; rw [hl]
    rw [dropBlanks_append, dropBlanks_eq_nil hcut, List.nil_append]

theorem eq_nil_of_isBlankText_dedentLine (hn : isBlankText l = false → n ≤ leadingBytes l)
    (h : isBlankText (dedentLine n l) = true) : dedentLine n l = [] := by
  cases hb : isBlankText l with
  | true => exact dedentLine_of_blank hb
  | false =>
    obtain ⟨cut, hl, hcut, -⟩ := exists_cut hb (hn hb)
    rw [hl, isBlankText_append, hcut, h] at hb
    exact absurd hb (by decide)

theorem mem_of_mem_dedentLine (hn : isBlankText l = false → n ≤ leadingBytes l) {c : Char}
    (hc : c ∈ dedentLine n l) : c ∈ l := by
  cases hb : isBlankText l with
  | true =>
    rw [dedentLine_of_blank hb] at hc
    exact absurd hc List.not_mem_nil
  | false =>
    obtain ⟨cut, hl, -⟩ := exists_cut hb (hn hb)
    rw [hl]
    exact List.mem_append_right cut hc

end Cut

section Lines

/-- No line of the text is of blanks only. -/
def HasBareLines (s : List Char) : Prop :=
  ∀ l ∈ splitOn (· == '\n') s, isBlankText l = true → l = []

/-- Trimming makes no line of blanks: a line that it cuts into keeps a character that is not blank. -/
theorem HasBareLines.trim {s : List Char} (h : HasBareLines s) : HasBareLines (trim s) := by
  intro l hl hb
  obtain ⟨hstart, hend⟩ := trim_eq_self_iff.mp (trim_trim s)
  obtain ⟨hn, a, b, ht, ha, hb'⟩ := mem_splitOn_iff.mp hl
  rw [ht] at hstart hend
  obtain rfl | ⟨a', rfl⟩ := ha
  · -- the first line begins where the text does
    rw [List.nil_append] at hstart
    exact eq_nil_of_trimStart_append hstart hb
  obtain rfl | ⟨b', rfl⟩ := hb'
  · -- the last line ends where the text does
    rw [List.append_nil] at hend
    exact eq_nil_of_trimEnd_append hend hb
  · -- a line between two others is one of the lines before trimming
    obtain ⟨before, after, hs, -, -⟩ := exists_append_trim s
    have hline : s = (before ++ (a' ++ ['\n'])) ++ l ++ ('\n' :: b' ++ after) := by
      rw [hs, ht]
      simp only [List.append_assoc]
    apply h l _ hb
    apply mem_splitOn_iff.mpr
    exact ⟨hn, _, _, hline, .inr ⟨before ++ a', by rw [List.append_assoc]⟩, .inr ⟨_, rfl⟩⟩

/-- The lines that an expression is joined from. -/
def dedented (lines : List (List Char)) : List (List Char) :=
  lines.map (dedentLine (commonIndent lines))

theorem joinExpression_eq (lines : List (List Char)) :
    joinExpression lines = trim (joinWith ['\n'] (dedented lines)) := rfl

theorem splitOn_dedented (h : ∀ l ∈ lines, '\n' ∉ l) (hn : lines ≠ []) :
    splitOn (· == '\n') (joinWith ['\n'] (dedented lines)) = dedented lines := by
  have hd : ∀ d ∈ dedented lines, ∀ c ∈ d, (c == '\n') = false := by
    intro d hd c hc
    obtain ⟨l, hl, rfl⟩ := List.mem_map.mp hd
    have hm : c ∈ l := mem_of_mem_dedentLine (commonIndent_le hl) hc
    exact beq_eq_false_iff_ne.mpr fun e => h l hl (e ▸ hm)
  exact splitOn_joinWith (p := (· == '\n')) rfl (fun e => hn (List.map_eq_nil_iff.mp e)) hd

theorem hasBareLines_dedented (h : ∀ l ∈ lines, '\n' ∉ l) :
    HasBareLines (joinWith ['\n'] (dedented lines)) := by
  by_cases hn : lines = []
  · rw [hn]
    intro l hl hb
    exact List.mem_singleton.mp hl
  · rw [HasBareLines, splitOn_dedented h hn]
    intro d hd
    obtain ⟨l, hl, rfl⟩ := List.mem_map.mp hd
    exact eq_nil_of_isBlankText_dedentLine (commonIndent_le hl)

/-- A trimmed text with bare lines is what its lines are joined to. -/
theorem HasBareLines.joinExpression_splitOn {s : List Char} (h : HasBareLines s) (ht : Text.trim s = s) :
    joinExpression (splitOn (· == '\n') s) = s := by
  have hw : (splitOn (· == '\n') s).map (fun l => Row.write .tab ⟨0, l⟩) = splitOn (· == '\n') s := by
    simp only [Row.write_zero, List.map_id']
  rw [← hw]
  exact Tmdl.joinExpression_splitOn ht h .tab 0

/-- Nothing but blanks is taken from the lines or put between them. -/
theorem dropBlanks_joinExpression (lines : List (List Char)) :
    dropBlanks (joinExpression lines) = lines.flatMap dropBlanks := by
  have hd : (dedented lines).flatMap dropBlanks = lines.flatMap dropBlanks := by
    rw [dedented, List.flatMap_map]
    exact List.flatMap_congr fun l hl => dropBlanks_dedentLine (commonIndent_le hl)
  rw [joinExpression_eq, dropBlanks_trim, dropBlanks_joinWith (by decide), hd]

end Lines

/-- The common indentation lies within each line that is not blank and is cut off it where a character
begins behind it; elsewhere the leading blanks are. Joining the lines loses blanks only, and the lines of
what it gives are joined to the same text. -/
theorem joinExpression_keeps (h : ∀ l ∈ lines, '\n' ∉ l) :
    (∀ l ∈ lines, isBlankText l = false → commonIndent lines ≤ utf8Length l ∧
      ∃ cut, l = cut ++ dedentLine (commonIndent lines) l ∧ isBlankText cut = true ∧
        (utf8Length cut = commonIndent lines ∧
            dropUtf8 (commonIndent lines) l = some (dedentLine (commonIndent lines) l) ∨
          ¬ IsBoundary (commonIndent lines) l ∧ dedentLine (commonIndent lines) l = trimStart l)) ∧
      dropBlanks (joinExpression lines) = lines.flatMap dropBlanks ∧
      joinExpression (splitOn (· == '\n') (joinExpression lines)) = joinExpression lines := by
  refine ⟨fun l hl hb => ?_, dropBlanks_joinExpression lines, ?_⟩
  · have hc : commonIndent lines ≤ leadingBytes l := commonIndent_le hl hb
    exact ⟨hc.trans (leadingBytes_le l), exists_cut hb hc⟩
  · have hbare : HasBareLines (joinExpression lines) := (hasBareLines_dedented h).trim
    exact hbare.joinExpression_splitOn (trim_trim _)

/-- Two spaces end within the em space that the second line begins with. -/
theorem joinExpression_keeps_em_space :
    (∀ l ∈ ["  a".toList, "\u2003b".toList], '\n' ∉ l) ∧
      joinExpression ["  a".toList, "\u2003b".toList] = "a\nb".toList ∧
      dropUtf8 (commonIndent ["  a".toList, "\u2003b".toList]) "\u2003b".toList = none ∧
      dropBlanks (joinExpression ["  a".toList, "\u2003b".toList]) = "ab".toList ∧
      joinExpression (splitOn (· == '\n') (joinExpression ["  a".toList, "\u2003b".toList])) =
        joinExpression ["  a".toList, "\u2003b".toList] := by
  have hn : ∀ l ∈ ["  a".toList, "\u2003b".toList], '\n' ∉ l := by decide
  obtain ⟨-, hkept, hstable⟩ := joinExpression_keeps hn
  exact ⟨hn, by decide +kernel, by decide +kernel, hkept, hstable⟩

end Tabular.Tmdl
