import Tabular.Analysis.Pattern
import Tabular.Formula.Literal
import Tabular.Proofs.Formula.Piece

/-!
# Stripping a stripped formula

What is left of a formula is left of it again. The pieces on either side of a comment or a literal are
brought no closer: a blank or two quotes stand between them, and the quote that could prolong a literal
would have prolonged it before. So a stripped formula falls into the pieces of the formula, with its
comments blanked and its literals emptied, and no comment is among them.
-/

namespace Tabular.Formula

open Text

variable {c : Char} {s rest : List Char}

section Idempotent

/-- Where what is left of a text stands of which the first character stands at a place. -/
def Place.left : Place → Place
  | bracket => bracket
  | quote => quote
  | code | literal | lineComment | blockComment => code

theorem stripFrom_left (r : Place) : stripFrom r.left [] = [] := by
  cases r <;> rfl

theorem head?_strip_ne {d : Char} (hd : d ≠ ' ') (h : s.head? ≠ some d) : (strip s).head? ≠ some d := by
  obtain hs | hs := head?_strip s
  · rwa [hs]
  · rw [hs]
    exact fun he => hd (Option.some.inj he).symm

theorem ne_cons_strip {d : Char} (hd : d ≠ ' ') (h : ∀ u, s ≠ d :: u) (u : List Char) :
    strip s ≠ d :: u := by
  intro hu
  refine head?_strip_ne hd (fun hs => ?_) (by rw [hu]; rfl)
  obtain ⟨t, ht⟩ := List.head?_eq_some_iff.mp hs
  exact h t ht

/-- No quote follows the two that are left of a literal. -/
theorem head?_stripFrom_literal (s : List Char) : (stripFrom .literal s).head? ≠ some '"' := by
  obtain ⟨hs, hrest⟩ | ⟨hs, -⟩ := readLiteral_eq s
  · rw [hs, stripFrom_literal (quotesDoubled_readLiteral s) hrest]
    exact head?_strip_ne (by decide) hrest
  · rw [hs, stripFrom_unclosedLiteral (quotesDoubled_readLiteral s)]
    decide

/-- What is left of a text stays when it is read again from where it stands. -/
theorem stripFrom_stripFrom (r : Place) (s : List Char) :
    stripFrom r.left (stripFrom r s) = stripFrom r s := by
  fun_induction stripFrom r s with
  | case1 r => exact stripFrom_left r
  | case2 cs ih =>
    -- the two quotes are read as a literal, since no third one follows
    have hq := head?_stripFrom_literal cs
    have hl : stripFrom .literal ('"' :: stripFrom .literal cs) = stripFrom .literal cs :=
      (stripFrom_literal .nil hq).trans ih
    exact (by rw [stripFrom, hl] : stripFrom .code ('"' :: '"' :: stripFrom .literal cs) = _)
  | case3 cs ih => exact congrArg ('[' :: ·) ih
  | case4 cs ih => exact congrArg ('\'' :: ·) ih
  | case5 cs ih => exact congrArg (' ' :: ·) ih
  | case6 cs ih => exact congrArg (' ' :: ·) ih
  | case7 cs ih => exact congrArg (' ' :: ·) ih
  | case8 c cs h₁ h₂ h₃ h₄ h₅ h₆ ih =>
    have hkeep : stripFrom .code (c :: strip cs) = c :: stripFrom .code (strip cs) :=
      stripFrom_code_cons h₁ h₂ h₃ (fun hc => ne_cons_strip (by decide) fun u => h₄ u hc)
        (fun hc => ne_cons_strip (by decide) fun u => h₅ u hc)
        fun hc => ne_cons_strip (by decide) fun u => h₆ u hc
    exact hkeep.trans (congrArg (c :: ·) ih)
  | case9 c cs ih =>
    have hl : (if c = ']' then Place.code else .bracket).left = if c = ']' then .code else .bracket := by
      split <;> rfl
    rw [hl] at ih
    rw [Place.left, stripFrom, ih]
  | case10 c cs ih =>
    have hl : (if c = '\'' then Place.code else .quote).left = if c = '\'' then .code else .quote := by
      split <;> rfl
    rw [hl] at ih
    rw [Place.left, stripFrom, ih]
  | case11 cs ih => exact ih
  | case12 c cs hn ih =>
    have hl : (if c = '"' then Place.code else .literal).left = .code := by
      split <;> rfl
    rwa [hl] at ih
  | case13 cs ih => exact congrArg ('\n' :: ·) ih
  | case14 c cs hn ih => exact ih
  | case15 cs ih => exact ih
  | case16 c cs hn ih => exact ih

end Idempotent

section Pieces

namespace Piece

/-- What a piece is once the formula is stripped. -/
def stripped : Piece → Piece
  | code l => .code l
  | literal _ => .literal []
  | comment _ => .code (.mark ' ')

def isLiteral : Piece → Bool
  | literal _ => true
  | code _ | comment _ => false

def isComment : Piece → Bool
  | comment _ => true
  | code _ | literal _ => false

@[simp] theorem isLiteral_stripped (p : Piece) : p.stripped.isLiteral = p.isLiteral := by
  cases p <;> rfl

@[simp] theorem isComment_stripped (p : Piece) : p.stripped.isComment = false := by
  cases p <;> rfl

end Piece

/-- Where a lexeme begins, no literal and no comment opens in what is left either. -/
theorem opening_prefix_strip (h : ∀ d : Delimiter, d.opening <+: s → d = .bracket) :
    ∀ d : Delimiter, d.opening <+: strip s → d = .bracket := by
  cases s with
  | nil => exact h
  | cons c cs =>
    by_cases hb : c = '['
    · subst hb
      exact forall_opening_iff.mpr ⟨by decide, by simp, by simp, by simp⟩
    by_cases hq : c = '\''
    · subst hq
      exact forall_opening_iff.mpr ⟨by decide, by simp, by simp, by simp⟩
    rw [strip_cons h hb hq]
    obtain ⟨hquote, hslashes, hdashes, hblock⟩ := forall_opening_iff.mp h
    exact forall_opening_iff.mpr ⟨hquote, fun hc => ne_cons_strip (by decide) (hslashes hc),
      fun hc => ne_cons_strip (by decide) (hdashes hc), fun hc => ne_cons_strip (by decide) (hblock hc)⟩

theorem startsWithPiece_blank (t : List Char) : StartsWithPiece (' ' :: t) (.code (.mark ' ')) t :=
  .code (forall_opening_iff.mpr ⟨by decide, by simp, by simp, by simp⟩)
    (.mark t (by decide +kernel) (by decide) (by decide))

theorem StartsWithPiece.strip {p : Piece} (h : StartsWithPiece s p rest) :
    StartsWithPiece (strip s) p.stripped (strip rest) := by
  cases h with
  | @literal contents _ hc =>
    rw [strip_enclose (by decide) hc]
    exact .literal ⟨.nil, head?_strip_ne (by decide) hc.2⟩
  | unclosedLiteral hc =>
    rw [Formula.strip, stripFrom, stripFrom_unclosedLiteral hc]
    exact .literal ⟨.nil, by decide⟩
  | comment hd hc =>
    obtain ⟨hb, hmark⟩ := Delimiter.mark_of_isComment hd
    rw [strip_enclose hb hc, hmark]
    exact startsWithPiece_blank _
  | unclosedComment hc =>
    rw [Formula.strip, stripFrom, stripFrom_unclosedBlock hc]
    exact startsWithPiece_blank []
  | code hs hw => exact .code (opening_prefix_strip hs) (hw.strip hs)

theorem FallsInto.strip {ps : List Piece} (h : FallsInto s ps) :
    FallsInto (strip s) (ps.map Piece.stripped) := by
  induction h with
  | nil => exact .nil
  | cons hp _ ih => exact .cons hp.strip ih

/-- A stripped formula has the pieces of the formula. -/
theorem pieces_strip (formula : List Char) :
    pieces (strip formula) = (pieces formula).map Piece.stripped :=
  (fallsInto_pieces formula).strip.pieces_eq

end Pieces

/-- A stripped formula is left as it is. Piece by piece it is read as the formula was, with the same
boundaries of names: it has no comment, and as many literals as the formula. So the analyses that strip a
formula find in a stripped one what they find in the formula. -/
theorem strip_idempotent (formula : List Char) :
    strip (strip formula) = strip formula ∧
      pieces (strip formula) = (pieces formula).map Piece.stripped ∧
      (pieces (strip formula)).countP Piece.isComment = 0 ∧
      (pieces (strip formula)).countP Piece.isLiteral = (pieces formula).countP Piece.isLiteral ∧
      References.ofFormula (strip formula) = References.ofFormula formula ∧
      hasLiteral (strip formula) = hasLiteral formula ∧
      Pattern.ofFormula (strip formula) = Pattern.ofFormula formula := by
  have hstrip : strip (strip formula) = strip formula := stripFrom_stripFrom .code formula
  have hpieces := pieces_strip formula
  have hcomment : Piece.isComment ∘ Piece.stripped = fun _ => false := by
    funext p
    exact p.isComment_stripped
  have hliteral : Piece.isLiteral ∘ Piece.stripped = Piece.isLiteral := by
    funext p
    exact p.isLiteral_stripped
  refine ⟨hstrip, hpieces, ?_, ?_, ?_, ?_, ?_⟩
  · rw [hpieces, List.countP_map, hcomment, List.countP_false]
    rfl
  · rw [hpieces, List.countP_map, hliteral]
  · rw [References.ofFormula, hstrip, References.ofFormula]
  · rw [hasLiteral, hstrip, hasLiteral]
  · rw [Pattern.ofFormula, hstrip, Pattern.ofFormula]

/-- Two literals keep a comment between them apart, and a slash stays one behind a comment. -/
example : strip "\"a\"/*x*/\"b\"/ //".toList = "\"\" \"\"/  ".toList := by decide

end Tabular.Formula
