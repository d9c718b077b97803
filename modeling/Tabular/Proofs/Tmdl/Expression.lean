import Tabular.Proofs.Text.Utf8
import Tabular.Proofs.Tmdl.Line

/-!
# Reading written expressions

The lines of an expression lose the indentation at which they were written and no more, since the
first of them begins with no blank. What follows the equals sign tells in which form an expression
was written.
-/

namespace Tabular.Tmdl

open Text

section Dedent

variable {i : Indent} {d : Nat} {l : List Char}

theorem Row.write_nil (i : Indent) (d : Nat) : Row.write i ⟨d, []⟩ = [] := rfl

theorem Row.write_of_ne_nil (h : l ≠ []) : Row.write i ⟨d, l⟩ = i.times d ++ l := if_neg h

theorem Row.write_zero (i : Indent) (l : List Char) : Row.write i ⟨0, l⟩ = l := by
  by_cases h : l = []
  · rw [h, Row.write_nil]
  · rw [Row.write_of_ne_nil h]
    rfl

theorem isBlankText_write (i : Indent) (d : Nat) (l : List Char) :
    isBlankText (Row.write i ⟨d, l⟩) = isBlankText l := by
  by_cases h : l = []
  · rw [h, Row.write_nil]
  · have ht : isBlankText (i.times d) = true :=
      List.all_eq_true.mpr fun c hc => isBlank_of_mem_times hc
    rw [Row.write_of_ne_nil h, isBlankText_append, ht, Bool.true_and]

theorem leadingBytes_write (h : l ≠ []) :
    leadingBytes (Row.write i ⟨d, l⟩) = utf8Length (i.times d) + leadingBytes l := by
  rw [Row.write_of_ne_nil h, leadingBytes, leadingBytes,
    List.takeWhile_append_of_pos fun c hc => isBlank_of_mem_times hc, utf8Length_append]

/-- The indentation is cut off a line that is not blank. -/
theorem dedentLine_write (h : isBlankText l = true → l = []) :
    dedentLine (utf8Length (i.times d)) (Row.write i ⟨d, l⟩) = l := by
  rw [dedentLine, isBlankText_write]
  split
  · next hb => exact (h hb).symm
  · next hb =>
    have hn : l ≠ [] := fun e => hb (e ▸ rfl)
    rw [Row.write_of_ne_nil hn, dropUtf8_append]
    rfl

/-- Lines written at one depth share their indentation and no more, if one of them begins with no
blank. -/
theorem commonIndent_write {ls : List (List Char)}
    (h : ∃ l ∈ ls, isBlankText l = false ∧ leadingBytes l = 0) :
    commonIndent (ls.map fun l => Row.write i ⟨d, l⟩) = utf8Length (i.times d) := by
  have hm : ((ls.map fun l => Row.write i ⟨d, l⟩).filter (!isBlankText ·)).map leadingBytes =
      (ls.filter (!isBlankText ·)).map fun l => utf8Length (i.times d) + leadingBytes l := by
    rw [List.filter_map, List.map_map]
    have hf : (fun l => !isBlankText l) ∘ (fun l => Row.write i ⟨d, l⟩) =
        fun l => !isBlankText l := by
      funext l
      rw [Function.comp_apply, isBlankText_write]
    rw [hf]
    refine List.map_congr_left fun l hl => ?_
    have hb : isBlankText l = false := by
      simpa using (List.mem_filter.mp hl).2
    exact leadingBytes_write fun e => by simp [e, isBlankText] at hb
  have hmin : ((ls.filter (!isBlankText ·)).map fun l =>
      utf8Length (i.times d) + leadingBytes l).min? = some (utf8Length (i.times d)) := by
    refine List.min?_eq_some_iff.mpr ⟨?_, ?_⟩
    · obtain ⟨l, hl, hb, hz⟩ := h
      exact List.mem_map.mpr ⟨l, List.mem_filter.mpr ⟨hl, by simp [hb]⟩, by rw [hz]; rfl⟩
    · intro b hb
      obtain ⟨l, -, rfl⟩ := List.mem_map.mp hb
      exact Nat.le_add_right _ _
  rw [commonIndent, hm, hmin]
  rfl

end Dedent

theorem exists_flush_line {s : List Char} (ht : trim s = s) (hn : s ≠ []) :
    ∃ l ∈ splitOn (· == '\n') s, isBlankText l = false ∧ leadingBytes l = 0 := by
  obtain ⟨c, t, rfl⟩ := List.exists_cons_of_ne_nil hn
  have hc := trimStart_eq_self_iff.mp (trim_eq_self_iff.mp ht).1 c rfl
  have hl : (c == '\n') = false := by
    refine beq_eq_false_iff_ne.mpr fun e => ?_
    rw [e] at hc
    exact absurd hc (by decide)
  obtain ⟨w, ws, -, hs⟩ := splitOn_cons_of_not (p := (· == '\n')) hl t
  refine ⟨c :: w, by rw [hs]; exact List.mem_cons_self, by simp [isBlankText, hc], ?_⟩
  simp [leadingBytes, hc]

/-- A trimmed text without lines of blanks is put together again from its lines at any depth. -/
theorem joinExpression_splitOn {s : List Char} (ht : trim s = s)
    (hl : ∀ l ∈ splitOn (· == '\n') s, isBlankText l = true → l = []) (i : Indent) (d : Nat) :
    joinExpression ((splitOn (· == '\n') s).map fun l => Row.write i ⟨d, l⟩) = s := by
  by_cases hn : s = []
  · rw [hn]
    rfl
  · have hc := commonIndent_write (i := i) (d := d) (exists_flush_line ht hn)
    have hd : (splitOn (· == '\n') s).map (dedentLine (utf8Length (i.times d)) ∘ fun l =>
        Row.write i ⟨d, l⟩) = splitOn (· == '\n') s := by
      conv => rhs; rw [← List.map_id (splitOn (· == '\n') s)]
      exact List.map_congr_left fun l h => dedentLine_write (hl l h)
    rw [joinExpression, hc, List.map_map, hd, joinWith_splitOn]
    exact ht

/-- An expression is put together again from its lines at any depth. -/
theorem joinExpression_write {e : String} (he : IsCode e) (i : Indent) (d : Nat) :
    joinExpression ((textLines e).map fun l => Row.write i ⟨d, l⟩) = e.toList :=
  joinExpression_splitOn he.1 (fun l h => (he.2 l h).1) i d

section Opening

variable {e : String}

namespace ExpressionForm

theorem trim_value {f : ExpressionForm} (he : trim e.toList = e.toList) (hf : f.Admits e) :
    trim (f.value e) = f.value e ∧ '\n' ∉ f.value e := by
  cases f with
  | inline => exact ⟨he, hf.2.1⟩
  | inlineFenced =>
    constructor
    · rw [value, List.append_assoc]
      exact trim_append (by decide) (by decide) (trimEnd_append (by decide) (by decide) _)
        (by simp [fence])
    · simp only [value, List.mem_append, not_or]
      exact ⟨⟨by decide, hf⟩, by decide⟩
  | fenced n k =>
    rw [value]
    decide
  | below n => exact ⟨rfl, List.not_mem_nil⟩

/-- How the rest of an expression is read that the form has begun. -/
def opening (e : String) : ExpressionForm → Opening
  | inline | inlineFenced => .inline e
  | fenced _ _ => .fenced
  | below _ => .below

theorem ofValue_value {f : ExpressionForm} (he : trim e.toList = e.toList) (hf : f.Admits e) :
    Opening.ofValue (String.ofList (f.value e)) = f.opening e := by
  cases f with
  | inline =>
    obtain ⟨hn, -, hp⟩ := hf
    have hp' : fence.isPrefixOf e.toList = false :=
      Bool.eq_false_iff.mpr fun h => hp (List.isPrefixOf_iff_prefix.mp h)
    rw [value, Opening.ofValue, String.toList_ofList, String.ofList_toList]
    split
    · next h => exact absurd (String.toList_eq_nil_iff.mp h) hn
    · rw [hp']
      rfl
  | inlineFenced =>
    have hp : fence.isPrefixOf (fence ++ e.toList ++ fence) = true := by
      simp
    have hd : (fence ++ e.toList ++ fence).drop 3 = e.toList ++ fence := by
      rw [List.append_assoc]
      exact List.drop_left' rfl
    have ht : trimEnd (e.toList ++ fence) = e.toList ++ fence :=
      trimEnd_append (by decide) (by decide) _
    have hb : beforeFence? (e.toList ++ fence) = some e.toList := by
      rw [beforeFence?, if_pos (by simp)]
      exact congrArg some (by simp [fence])
    rw [value, Opening.ofValue, String.toList_ofList]
    split
    · next h => simp [fence] at h
    · rw [hp, if_pos rfl, hd, ht, hb]
      simp only [he, String.ofList_toList, opening]
  | fenced n k =>
    rw [value, opening]
    decide
  | below n => rfl

end ExpressionForm

end Opening

end Tabular.Tmdl
