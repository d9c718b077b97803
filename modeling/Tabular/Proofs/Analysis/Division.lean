import Tabular.Proofs.Analysis.Invisible
import Tabular.Proofs.Analysis.Rule
import Tabular.Proofs.Formula.Called
import Tabular.Proofs.Formula.Piece

/-!
# When a division is reported

The rule on divisions looks for a slash in the masked text, outside of what quotes toggle, and for a call
of the dividing function among the calls that are found there. Both are what the pieces of the formula
show: a slash that is a lexeme of its own, and the word before a parenthesis.
-/

namespace Tabular

open Text Formula

section Slash

variable {c : Char} {s rest body : List Char}

theorem hasSlash_cons (hq : c ≠ '\'') (hs : c ≠ '/') (q : Bool) (s : List Char) :
    hasSlash q (c :: s) = hasSlash q s := by
  simp [hasSlash, hq, hs]

theorem hasSlash_quote (q : Bool) (s : List Char) : hasSlash q ('\'' :: s) = hasSlash (!q) s := by
  rw [hasSlash, if_pos rfl]

theorem hasSlash_inQuote (hq : c ≠ '\'') (s : List Char) : hasSlash true (c :: s) = hasSlash true s := by
  simp [hasSlash, hq]

theorem hasSlash_word {w : List Char} (hw : ∀ d ∈ w, isTokenChar d = true) (t : List Char) :
    hasSlash false (w ++ t) = hasSlash false t := by
  induction w with
  | nil => rfl
  | cons d w ih =>
    obtain ⟨hd, hw⟩ := List.forall_mem_cons.mp hw
    have hslash : d ≠ '/' := by
      rintro rfl
      exact absurd hd (by decide +kernel)
    obtain ⟨-, hq, -⟩ := ne_of_isTokenChar hd
    rw [List.cons_append, hasSlash_cons hq hslash, ih hw]

theorem hasSlash_blanksFor (name t : List Char) :
    hasSlash false (blanksFor name ++ t) = hasSlash false t :=
  hasSlash_blanks (fun _ => eq_blank_of_mem_blanksFor) false t

theorem hasSlash_quoted (h : StartsWithBody s body rest) : hasSlash true s = hasSlash false rest := by
  induction h with
  | closed rest => exact hasSlash_quote true rest
  | pair _ ih => rw [hasSlash_quote, Bool.not_true, hasSlash_quote, Bool.not_false, ih]
  | char hc _ ih => rw [hasSlash_inQuote hc, ih]

theorem hasSlash_unclosedQuote (h : quotedBody s = none) : hasSlash true s = false := by
  fun_induction quotedBody s with
  | case1 => rfl
  | case2 r ih =>
    rw [hasSlash_quote, Bool.not_true, hasSlash_quote, Bool.not_false]
    exact ih (Option.map_eq_none_iff.mp h)
  | case3 r => simp at h
  | case4 c r _ hq ih =>
    rw [hasSlash_inQuote hq]
    exact ih (Option.map_eq_none_iff.mp h)

/-- A slash is found if it is a lexeme of its own. -/
theorem hasSlash_mask {ls : List Lexeme} (h : Lexes s ls) :
    hasSlash false (mask s) = true ↔ .mark '/' ∈ ls := by
  induction h with
  | nil => simp [mask, maskFrom, hasSlash]
  | @cons s rest l ls hl hls ih =>
    cases hl with
    | word hw ht hr =>
      rw [mask_word ht, hasSlash_word ht, ih]
      simp
    | bracketed rest hn =>
      rw [mask_bracketed hn, hasSlash_cons (by decide) (by decide), hasSlash_blanksFor,
        hasSlash_cons (by decide) (by decide), ih]
      simp
    | @unclosedBracket name hn =>
      have hblank := hasSlash_blanksFor name []
      rw [List.append_nil] at hblank
      rw [mask_unclosedBracket hn, hasSlash_cons (by decide) (by decide), hblank, hls.eq_nil]
      simp [hasSlash]
    | quoted hs hr =>
      rw [mask_quote, hasSlash_quote, Bool.not_false, hs.maskFrom_quote, hasSlash_quoted (hs.of_append _),
        ih]
      simp
    | unclosedQuote hs =>
      rw [mask_quote, hasSlash_quote, Bool.not_false, maskFrom_unclosedQuote hs, hasSlash_unclosedQuote hs,
        hls.eq_nil]
      simp
    | @mark c _ ht hb hq =>
      rw [mask_cons hb hq]
      by_cases hc : c = '/'
      · simp [hasSlash, hc]
      · rw [hasSlash_cons hq hc, ih]
        simp [Ne.symm hc]

end Slash

/-- A formula divides barely if a slash stands outside of names, literals and comments, and nothing
there calls the dividing function. -/
theorem dividesBarely_strip (formula : List Char) :
    dividesBarely (strip formula) = true ↔
      .code (.mark '/') ∈ pieces formula ∧ "DIVIDE" ∉ Piece.calls (pieces formula) := by
  have hslash : .mark '/' ∈ (pieces formula).flatMap Piece.left ↔ .code (.mark '/') ∈ pieces formula :=
    Piece.mem_flatMap_left (by decide) (by decide)
  have hcalls : functionCalls (strip formula) = Piece.calls (pieces formula) := by
    rw [functionCalls_eq, lexemes_strip, Piece.calls_flatMap_left]
  have hdivide : (Piece.calls (pieces formula)).any ratioFunctions.contains = true ↔
      "DIVIDE" ∈ Piece.calls (pieces formula) := by
    simp [ratioFunctions]
  rw [dividesBarely, Bool.and_eq_true, Bool.not_eq_true', ← Bool.not_eq_true, hcalls, hdivide,
    hasSlash_mask (lexes_lexemes _), lexemes_strip, hslash]

theorem mem_codes_division (l : Limits) (m : Measure) (node : Option Dependency)
    (complexity : Option Complexity) :
    Finding.division.code ∈ (m.issues l node complexity).map (·.code) ↔
      dividesBarely (strip (trim m.expression.toList)) = true := by
  have hkeywords (code : List Char) : ¬ ∃ f ∈ findKeywords code, f.code = "DAX001" :=
    not_exists_mem_findKeywords (by decide) code
  rw [mem_codes_iff]
  simp [Finding.division, hkeywords]

/-- A division is reported exactly if the trimmed formula, read piece by piece, has a slash in its code
and no call of the dividing function there, whatever else is known of the measure. -/
theorem reports_division_iff (l : Limits) (m : Measure) (node : Option Dependency)
    (complexity : Option Complexity) :
    let formula := trim m.expression.toList
    FallsInto formula (pieces formula) ∧
      ("DAX001" ∈ (m.issues l node complexity).map (·.code) ↔
        .code (.mark '/') ∈ pieces formula ∧ "DIVIDE" ∉ Piece.calls (pieces formula)) :=
  ⟨fallsInto_pieces _, (mem_codes_division l m node complexity).trans (dividesBarely_strip _)⟩

/-- A comment may stand between the dividing function and its parenthesis; a slash in it is none. -/
example :
    let ps := pieces "divide /* a/b */ (1, 2) / [c/d] + \"/".toList
    .code (.mark '/') ∈ ps ∧ Piece.calls ps = ["DIVIDE"] := by
  decide +kernel

end Tabular
