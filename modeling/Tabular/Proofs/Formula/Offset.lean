import Tabular.Proofs.Formula.Token

/-!
# Offsets in the masked text

Masking puts as many blanks in the place of a character as it takes bytes, so whatever it keeps stays at
its offset, and a bracket of the masked text is one of the text. What a scanner finds between two brackets
of the masked text can therefore be cut out of the text at the same offsets: no cut fails.
-/

namespace Tabular.Formula

open Text

variable {r : Region} {c : Char} {s u v : List Char}

section Mask

/-- What takes the place of a character in a region. -/
def Region.masked (r : Region) (c : Char) : List Char :=
  if r = bracket ∧ c ≠ ']' then blanksFor [c] else [c]

theorem Region.masked_of_kept (h : r = bracket → c = ']') : r.masked c = [c] :=
  if_neg fun hc => hc.2 (h hc.1)

theorem utf8Length_masked_char (r : Region) (c : Char) : utf8Length (r.masked c) = utf8Length [c] := by
  rw [Region.masked]
  split
  · exact utf8Length_blanksFor [c]
  · rfl

theorem maskFrom_cons (r : Region) (c : Char) (s : List Char) :
    maskFrom r (c :: s) = r.masked c ++ maskFrom (r.after c) s := by
  cases r with
  | code | quote => rfl
  | bracket => by_cases hc : c = ']' <;> simp [maskFrom, Region.masked, blanksFor, hc]

theorem utf8Length_maskFrom (r : Region) (s : List Char) :
    utf8Length (maskFrom r s) = utf8Length s := by
  induction s generalizing r with
  | nil => cases r <;> rfl
  | cons c s ih =>
    rw [maskFrom_cons, utf8Length_append, utf8Length_masked_char, ih, ← utf8Length_append]
    rfl

theorem closing_mem_maskFrom (h : ']' ∈ s) (r : Region) : ']' ∈ maskFrom r s := by
  obtain ⟨before, after, rfl⟩ := List.append_of_mem h
  rw [maskFrom_append, maskFrom_cons, Region.masked_of_kept fun _ => rfl]
  simp

/-- A character of the masked text that is no blank is one of the text, kept behind what masks the text
before it. -/
theorem exists_kept_of_maskFrom (hc : c ≠ ' ') (h : maskFrom r s = u ++ c :: v) :
    ∃ before after, s = before ++ c :: after ∧ maskFrom r before = u ∧
      maskFrom ((before.foldl Region.after r).after c) after = v ∧
      (before.foldl Region.after r = .bracket → c = ']') := by
  induction s generalizing r u with
  | nil => cases r <;> simp [maskFrom] at h
  | cons d s ih =>
    rw [maskFrom_cons] at h
    -- the character comes behind the first one, or it is the first one itself
    have hbehind (w : List Char) (hu : u = r.masked d ++ w)
        (hw : maskFrom (r.after d) s = w ++ c :: v) :
        ∃ before after, d :: s = before ++ c :: after ∧ maskFrom r before = u ∧
          maskFrom ((before.foldl Region.after r).after c) after = v ∧
          (before.foldl Region.after r = .bracket → c = ']') := by
      obtain ⟨before, after, rfl, hb, ha, hr⟩ := ih hw
      exact ⟨d :: before, after, rfl, by rw [maskFrom_cons, hb, hu], ha, hr⟩
    obtain ⟨w, hu, hw⟩ | ⟨w, hd, hw⟩ := List.append_eq_append_iff.mp h
    · exact hbehind w hu hw
    · cases w with
      | nil => exact hbehind [] (by rw [hd, List.append_nil, List.append_nil]) hw.symm
      | cons x w =>
        obtain ⟨rfl, rfl⟩ := List.cons.inj hw
        have hkept : r = .bracket → d = ']' := by
          intro hr
          by_contra hn
          rw [Region.masked, if_pos ⟨hr, hn⟩] at hd
          exact hc (eq_blank_of_mem_blanksFor (hd ▸ List.mem_append_right u List.mem_cons_self))
        rw [Region.masked_of_kept hkept] at hd
        cases u with
        | nil =>
          obtain ⟨rfl, rfl⟩ := List.cons.inj hd
          exact ⟨[], s, rfl, by cases r <;> rfl, rfl, hkept⟩
        | cons y u => simp at hd

end Mask

section Offsets

/-- A character of the text begins at the offset. -/
def StandsAt (s : List Char) (n : Nat) (c : Char) : Prop :=
  ∃ before after : List Char, s = before ++ c :: after ∧ utf8Length before = n

/-- A character of the text begins at the offset, and not strictly inside of brackets. -/
def StandsOutside (s : List Char) (n : Nat) (c : Char) : Prop :=
  ∃ before after : List Char, s = before ++ c :: after ∧ utf8Length before = n ∧
    (before.foldl Region.after .code = .bracket → c = ']')

variable {n : Nat}

theorem StandsOutside.standsAt_mask (h : StandsOutside s n c) : StandsAt (mask s) n c := by
  obtain ⟨before, after, rfl, rfl, hc⟩ := h
  have hm : mask (before ++ c :: after) =
      mask before ++ c :: maskFrom ((before.foldl Region.after .code).after c) after := by
    rw [mask, maskFrom_append, maskFrom_cons, Region.masked_of_kept hc]
    rfl
  exact ⟨mask before, _, hm, utf8Length_maskFrom .code before⟩

theorem StandsAt.outside_of_mask (hc : c ≠ ' ') (h : StandsAt (mask s) n c) : StandsOutside s n c := by
  obtain ⟨u, v, hm, rfl⟩ := h
  obtain ⟨before, after, rfl, rfl, -, hr⟩ := exists_kept_of_maskFrom hc hm
  exact ⟨before, after, rfl, (utf8Length_maskFrom .code before).symm, hr⟩

theorem BracketSpan.of_mask {span : Span} (h : BracketSpan 0 (mask s) span) : BracketSpan 0 s span := by
  obtain ⟨u, content, v, hm, hcontent, rfl⟩ := h
  obtain ⟨before, t, rfl, rfl, ht, -⟩ := exists_kept_of_maskFrom (by decide) hm
  obtain ⟨name, after, rfl, rfl, -, -⟩ := exists_kept_of_maskFrom (by decide) ht
  refine ⟨before, name, after, rfl, fun hn => hcontent (closing_mem_maskFrom hn _), ?_⟩
  rw [utf8Length_maskFrom, utf8Length_maskFrom]

theorem BracketSpan.exists_slice {span : Span} (h : BracketSpan 0 s span) :
    ∃ content, sliceUtf8 span.first span.last s = some content ∧
      span.name? s = some (String.ofList (trim content)) := by
  obtain ⟨before, content, after, rfl, -, rfl⟩ := h
  have hs : before ++ '[' :: (content ++ ']' :: after) = before ++ ['['] ++ content ++ ']' :: after := by
    simp
  have hl : 0 + utf8Length before + 1 = utf8Length (before ++ ['[']) := by
    rw [utf8Length_append, Nat.zero_add]
    rfl
  have hslice : sliceUtf8 (0 + utf8Length before + 1) (0 + utf8Length before + 1 + utf8Length content)
      (before ++ '[' :: (content ++ ']' :: after)) = some content := by
    rw [hs, hl, sliceUtf8_append]
  exact ⟨content, hslice, by rw [Span.name?, hslice, Option.map_some]⟩

end Offsets

namespace References

/-- The references of a stripped formula, if every name can be cut out of it. -/
def ofCode? (code : List Char) : Option References := do
  let masked := mask code
  let qualified ← (qualifiedMatches 0 masked).mapM fun m =>
    (m.column.name? code).map fun column => (String.ofList m.table, column)
  let brackets ← (bracketMatches none 0 masked).mapM fun s => s.name? code
  return {
    brackets := distinct (brackets.filter (!·.isEmpty))
    qualified := distinct qualified
    loneTables := distinct ((loneQuotedNames masked).map String.ofList) }

theorem mapM_eq_some_filterMap {α β : Type} {f : α → Option β} {l : List α}
    (h : ∀ x ∈ l, (f x).isSome = true) : l.mapM f = some (l.filterMap f) := by
  induction l with
  | nil => rfl
  | cons x l ih =>
    obtain ⟨hx, hl⟩ := List.forall_mem_cons.mp h
    obtain ⟨y, hy⟩ := Option.isSome_iff_exists.mp hx
    rw [List.mapM_cons, hy, ih hl, List.filterMap_cons_some hy]
    rfl

theorem bracketSpan_of_mem {code : List Char} {span : Span} (h : span ∈ spans code) :
    BracketSpan 0 code span := (bracketSpan_of_mem_spans h).of_mask

/-- No cut fails. -/
theorem ofCode?_eq (code : List Char) : ofCode? code = some (ofCode code) := by
  have hname {span : Span} (h : span ∈ spans code) : (span.name? code).isSome = true := by
    obtain ⟨content, -, hn⟩ := (bracketSpan_of_mem h).exists_slice
    rw [hn]
    rfl
  have hqualified : ∀ m ∈ qualifiedMatches 0 (mask code),
      ((m.column.name? code).map fun column => (String.ofList m.table, column)).isSome = true := by
    intro m hm
    rw [Option.isSome_map]
    exact hname (List.mem_append_right _ (List.mem_map.mpr ⟨m, hm, rfl⟩))
  have hbrackets : ∀ span ∈ bracketMatches none 0 (mask code), (span.name? code).isSome = true :=
    fun span hs => hname (List.mem_append_left _ hs)
  rw [ofCode?, mapM_eq_some_filterMap hqualified, mapM_eq_some_filterMap hbrackets]
  rfl

end References

/-- Masking keeps the number of bytes, the offset of every character that is not strictly inside of
brackets, and it makes no bracket: each one of the masked text stands in the text. So in every formula a span
between brackets of the masked text is one between brackets of the stripped formula, its name is cut out
there between characters, and reading the references never fails. -/
theorem mask_keeps_offsets (text formula : List Char) :
    utf8Length (mask text) = utf8Length text ∧
      (∀ n c, StandsOutside text n c → StandsAt (mask text) n c) ∧
      (∀ n c, c = '[' ∨ c = ']' → StandsAt (mask text) n c → StandsOutside text n c) ∧
      (∀ span ∈ References.spans (strip formula),
        BracketSpan 0 (strip formula) span ∧
          ∃ content, sliceUtf8 span.first span.last (strip formula) = some content) ∧
      References.ofCode? (strip formula) = some (References.ofFormula formula) := by
  refine ⟨utf8Length_maskFrom .code text, fun n c h => h.standsAt_mask, fun n c hc h => ?_,
    fun span hs => ?_, References.ofCode?_eq (strip formula)⟩
  · apply h.outside_of_mask
    obtain rfl | rfl := hc <;> decide
  · have hb := References.bracketSpan_of_mem hs
    obtain ⟨content, hc, -⟩ := hb.exists_slice
    exact ⟨hb, content, hc⟩

/-- A name with characters of two bytes, and what comes behind it. -/
theorem mask_keeps_offsets_umlaut :
    let text := "[Größe]+1".toList
    StandsOutside text 9 '+' ∧ StandsAt (mask text) 9 '+' ∧
      StandsAt (mask text) 8 ']' ∧ StandsOutside text 8 ']' ∧
      ⟨1, 8⟩ ∈ References.spans (strip text) ∧
      ∃ content, sliceUtf8 1 8 (strip text) = some content := by
  have h := mask_keeps_offsets "[Größe]+1".toList "[Größe]+1".toList
  have hplus : StandsOutside "[Größe]+1".toList 9 '+' :=
    ⟨"[Größe]".toList, ['1'], by decide, by decide, by decide⟩
  have hclose : StandsAt (mask "[Größe]+1".toList) 8 ']' :=
    ⟨"[       ".toList, "+1".toList, by decide, by decide⟩
  have hspan : ⟨1, 8⟩ ∈ References.spans (strip "[Größe]+1".toList) := by decide +kernel
  exact ⟨hplus, h.2.1 9 '+' hplus, hclose, h.2.2.1 8 ']' (.inr rfl) hclose, hspan,
    (h.2.2.2.1 ⟨1, 8⟩ hspan).2⟩

end Tabular.Formula
