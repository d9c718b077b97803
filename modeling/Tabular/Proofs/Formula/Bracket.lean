import Tabular.Formula.Reference
import Tabular.Proofs.Text.Utf8

/-!
# A name in brackets

Nothing in a bracketed name is taken for code. Stripping keeps the name as it is, masking blanks it
out, and what is found between the brackets is cut out of the text with every character it has. So a
formula that is one bracketed name refers to that name and to nothing else.
-/

namespace Tabular.Formula

open Text

section Strip

variable {s : List Char}

theorem stripFrom_bracket (h : ']' ∉ s) (t : List Char) :
    stripFrom .bracket (s ++ ']' :: t) = s ++ ']' :: stripFrom .code t := by
  induction s with
  | nil => simp [stripFrom]
  | cons c s ih =>
    rw [List.mem_cons, not_or] at h
    rw [List.cons_append, stripFrom, if_neg (Ne.symm h.1), ih h.2, List.cons_append]

theorem strip_bracketed (h : ']' ∉ s) (t : List Char) :
    strip ('[' :: (s ++ ']' :: t)) = '[' :: (s ++ ']' :: strip t) := by
  rw [strip, stripFrom, stripFrom_bracket h]
  rfl

end Strip

section Mask

variable {s : List Char}

/-- The blanks that stand for a name in a masked text. -/
def blanksFor (s : List Char) : List Char := List.replicate (utf8Length s) ' '

theorem utf8Length_blanksFor (s : List Char) : utf8Length (blanksFor s) = utf8Length s := by
  have hr : ∀ n, utf8Length (List.replicate n ' ') = n := by
    intro n
    induction n with
    | zero => rfl
    | succ n ih =>
      rw [List.replicate_succ, utf8Length_cons, ih]
      exact Nat.add_comm _ _
  exact hr _

theorem eq_blank_of_mem_blanksFor {c : Char} (h : c ∈ blanksFor s) : c = ' ' :=
  List.eq_of_mem_replicate h

theorem notMem_blanksFor {c : Char} (h : c ≠ ' ') : c ∉ blanksFor s :=
  fun hc => h (eq_blank_of_mem_blanksFor hc)

theorem blanksFor_ne_nil (h : s ≠ []) : blanksFor s ≠ [] := by
  obtain ⟨c, t, rfl⟩ := List.exists_cons_of_ne_nil h
  intro hb
  have hl := congrArg List.length hb
  rw [blanksFor, List.length_replicate, utf8Length_cons, List.length_nil] at hl
  have := c.utf8Size_pos
  omega

theorem maskFrom_bracket (h : ']' ∉ s) (t : List Char) :
    maskFrom .bracket (s ++ ']' :: t) = blanksFor s ++ ']' :: maskFrom .code t := by
  induction s with
  | nil => simp [maskFrom, blanksFor, Region.after]
  | cons c s ih =>
    rw [List.mem_cons, not_or] at h
    have hc : c ≠ ']' := Ne.symm h.1
    rw [List.cons_append, maskFrom, if_neg hc, Region.after, if_neg hc, ih h.2, blanksFor, blanksFor,
      utf8Length_cons, ← List.replicate_append_replicate, List.append_assoc]

theorem maskFrom_append (r : Region) (s t : List Char) :
    maskFrom r (s ++ t) = maskFrom r s ++ maskFrom (s.foldl Region.after r) t := by
  induction s generalizing r with
  | nil => cases r <;> rfl
  | cons c s ih => cases r <;> simp [maskFrom, ih]

theorem mask_cons {c : Char} (hb : c ≠ '[') (hq : c ≠ '\'') (s : List Char) :
    mask (c :: s) = c :: mask s := by
  rw [mask, maskFrom, Region.after, if_neg hb, if_neg hq]
  · rfl
  · exact fun h => by cases h

theorem mask_bracketed (h : ']' ∉ s) (t : List Char) :
    mask ('[' :: (s ++ ']' :: t)) = '[' :: (blanksFor s ++ ']' :: mask t) := by
  rw [mask, maskFrom, Region.after, if_pos rfl, maskFrom_bracket h]
  · rfl
  · simp

end Mask

section Scan

theorem bracketAt?_bracketed {content : List Char} (hn : content ≠ []) (h : ']' ∉ content)
    (t : List Char) : bracketAt? ('[' :: (content ++ ']' :: t)) = some (content, t) := by
  have hp : ∀ c ∈ content, (c != ']') = true := by
    intro c hc
    rw [bne_iff_ne]
    exact fun e => h (e ▸ hc)
  have htake : (content ++ ']' :: t).takeWhile (· != ']') = content := by
    rw [List.takeWhile_append_of_pos hp]
    simp
  have hdrop : (content ++ ']' :: t).dropWhile (· != ']') = ']' :: t := by
    rw [List.dropWhile_append_of_pos hp]
    simp
  rw [bracketAt?, htake, hdrop]
  cases content with
  | nil => exact absurd rfl hn
  | cons c content => rfl

theorem qualifiedMatches_eq_nil {s : List Char}
    (h : ∀ c ∈ s, c ≠ '\'' ∧ isTableStart c = false) (offset : Nat) :
    qualifiedMatches offset s = [] := by
  induction s generalizing offset with
  | nil => simp [qualifiedMatches]
  | cons c s ih =>
    obtain ⟨hq, ht⟩ := h c List.mem_cons_self
    have hn : qualifiedAt? offset (c :: s) = none := by
      have htable : tableAt? (c :: s) = none := by
        unfold tableAt?
        split <;> simp_all
      rw [qualifiedAt?, htable]
    unfold qualifiedMatches
    split
    · next hs => simp [hn] at hs
    · exact ih (fun d hd => h d (List.mem_cons_of_mem c hd)) _

theorem loneQuotedNames_eq_nil {s : List Char} (h : '\'' ∉ s) : loneQuotedNames s = [] := by
  induction s with
  | nil => simp [loneQuotedNames]
  | cons c s ih =>
    rw [List.mem_cons, not_or] at h
    have hn : quotedAt? (c :: s) = none := by
      unfold quotedAt?
      split <;> simp_all
    unfold loneQuotedNames
    split
    · next hs => simp [hn] at hs
    · exact ih h.2

/-- A bracket with content is read as a whole, and reported unless it belongs to a table. -/
theorem bracketMatches_content {content : List Char} (hn : content ≠ []) (h : ']' ∉ content)
    (before : Option Char) (offset : Nat) (t : List Char) :
    bracketMatches before offset ('[' :: (content ++ ']' :: t)) =
      let others := bracketMatches (some ']') (offset + 1 + utf8Length content + 1) t
      if isQualifier before then others
      else ⟨offset + 1, offset + 1 + utf8Length content⟩ :: others := by
  have hb := bracketAt?_bracketed hn h t
  rw [bracketMatches]
  split
  · next hs =>
    rw [hb, Option.some.injEq, Prod.mk.injEq] at hs
    obtain ⟨rfl, rfl⟩ := hs
    rfl
  · next hs => simp [hb] at hs

theorem bracketMatches_bracketed {content : List Char} (hn : content ≠ []) (h : ']' ∉ content) :
    bracketMatches none 0 ('[' :: (content ++ [']'])) = [⟨1, 1 + utf8Length content⟩] := by
  rw [bracketMatches_content hn h]
  simp [isQualifier, bracketMatches]

end Scan

theorem ofFormula_bracketed {s : List Char} (hn : s ≠ []) (ht : trim s = s) (h : ']' ∉ s) :
    References.ofFormula ('[' :: (s ++ [']'])) = ⟨[String.ofList s], [], []⟩ := by
  have hstrip : strip ('[' :: (s ++ [']'])) = '[' :: (s ++ [']']) := strip_bracketed h []
  have hmask : mask ('[' :: (s ++ [']'])) = '[' :: (blanksFor s ++ [']']) := mask_bracketed h []
  have hblank : ∀ c ∈ '[' :: (blanksFor s ++ [']']), c = '[' ∨ c = ' ' ∨ c = ']' := by
    intro c hc
    simp only [List.mem_cons, List.mem_append, List.not_mem_nil, or_false] at hc
    exact hc.imp_right (·.imp_left eq_blank_of_mem_blanksFor)
  have hqual : qualifiedMatches 0 ('[' :: (blanksFor s ++ [']'])) = [] := by
    refine qualifiedMatches_eq_nil (fun c hc => ?_) 0
    obtain rfl | rfl | rfl := hblank c hc <;> decide
  have hlone : loneQuotedNames ('[' :: (blanksFor s ++ [']'])) = [] := by
    refine loneQuotedNames_eq_nil fun hc => ?_
    simpa using hblank _ hc
  have hspan : bracketMatches none 0 ('[' :: (blanksFor s ++ [']'])) =
      [⟨1, 1 + utf8Length s⟩] := by
    have hclose : ']' ∉ blanksFor s := notMem_blanksFor (by decide)
    rw [bracketMatches_bracketed (blanksFor_ne_nil hn) hclose, utf8Length_blanksFor]
  have hname : Span.name? ⟨1, 1 + utf8Length s⟩ ('[' :: (s ++ [']'])) = some (String.ofList s) := by
    have hslice : sliceUtf8 1 (1 + utf8Length s) ('[' :: (s ++ [']'])) = some s :=
      sliceUtf8_append ['['] s [']']
    rw [Span.name?, hslice, Option.map_some, ht]
  have hempty : (String.ofList s).isEmpty = false := by
    simpa [String.isEmpty_iff] using hn
  rw [References.ofFormula, hstrip, References.ofCode, hmask]
  simp [hqual, hlone, hspan, hname, hempty, distinct]

end Tabular.Formula
