import Tabular.Proofs.Formula.Masked
import Tabular.Proofs.Graph.Entries

/-!
# Which quoted names are reported

A quoted name without a column is reported as a table if no bracket follows it. The scanner closes a name
that has no quote of its own to close it at an escaped quote, so an empty name would be read on beyond its
end; where no quoted name is empty the scanner finds each of them as a whole.
-/

namespace Tabular.Formula

open Text

variable {s u rest body : List Char} {ts : List Token} {c : Char}

def beginsBracketed : List Token → Bool
  | .bracketed _ :: _ => true
  | _ => false

/-- The quoted names that no bracketed one follows. -/
def loneNames : List Token → List (List Char)
  | [] => []
  | .quoted body :: ts =>
    if beginsBracketed ts then loneNames ts else halveQuotes body :: loneNames ts
  | _ :: ts => loneNames ts

theorem MaskedText.head?_iff (h : MaskedText s ts) :
    s.head? = some '[' ↔ beginsBracketed ts = true := by
  cases h with
  | nil => simp [beginsBracketed]
  | quoted _ _ _ _ => simp [beginsBracketed]
  | bracketed _ _ => simp [beginsBracketed]
  | other _ hb _ => simp [beginsBracketed, hb]

section Scan

theorem loneQuotedNames_append (h : '\'' ∉ u) (s : List Char) :
    loneQuotedNames (u ++ s) = loneQuotedNames s := by
  induction u with
  | nil => rfl
  | cons c u ih =>
    rw [List.mem_cons, not_or] at h
    have hn : quotedAt? (c :: (u ++ s)) = none := by
      unfold quotedAt?
      split <;> simp_all
    rw [List.cons_append, loneQuotedNames]
    split
    · next hs => simp [hn] at hs
    · exact ih h.2

theorem loneQuotedNames_quoted (h : StartsWithBody s body rest) (hr : rest.head? ≠ some '\'')
    (hb : body ≠ []) :
    loneQuotedNames ('\'' :: s) =
      if rest.head? = some '[' then loneQuotedNames rest
      else halveQuotes body :: loneQuotedNames rest := by
  have hq : quotedAt? ('\'' :: s) = some (body, rest) := by
    rw [quotedAt?, h.quotedBody_eq hr, Option.some_or]
    split
    · next he => exact absurd (Prod.mk.inj (Option.some.inj he)).1 hb
    · rfl
  rw [loneQuotedNames]
  split
  · next he =>
    rw [hq, Option.some.injEq, Prod.mk.injEq] at he
    obtain ⟨rfl, rfl⟩ := he
    rfl
  · next he => simp [hq] at he

/-- The scanner finds the quoted names before which no bracket stands. -/
theorem loneQuotedNames_of_maskedText (h : MaskedText s ts)
    (hne : ∀ body, .quoted body ∈ ts → body ≠ []) : loneQuotedNames s = loneNames ts := by
  induction h with
  | nil => simp [loneQuotedNames, loneNames]
  | quoted hs hr _ hm ih =>
    rw [loneQuotedNames_quoted hs hr (hne _ List.mem_cons_self),
      ih fun body hb => hne body (List.mem_cons_of_mem _ hb), loneNames]
    simp only [hm.head?_iff]
  | @bracketed rest ts name _ ih =>
    have hq : '\'' ∉ '[' :: (blanksFor name ++ [']']) := by
      simp [notMem_blanksFor]
    have he : '[' :: (blanksFor name ++ ']' :: rest) = '[' :: (blanksFor name ++ [']']) ++ rest := by
      simp
    rw [he, loneQuotedNames_append hq, ih fun body hb => hne body (List.mem_cons_of_mem _ hb),
      loneNames]
    exact fun body hb => by cases hb
  | @other c rest ts hq _ _ ih =>
    have hc : '\'' ∉ [c] := fun hm => hq (List.mem_singleton.mp hm).symm
    have hrest := loneQuotedNames_append hc rest
    rw [List.singleton_append] at hrest
    rw [hrest, ih fun body hb => hne body (List.mem_cons_of_mem _ hb), loneNames]
    exact fun body hb => by cases hb

end Scan

/-- The tables without columns are the quoted names that no bracketed one follows. -/
theorem loneTables_ofFormula {formula : List Char} (h : readTokens (strip formula) = some ts)
    (hq : ∀ body, .quoted body ∈ ts → body ≠ [] ∧ '[' ∉ body) :
    (References.ofFormula formula).loneTables = distinct ((loneNames ts).map String.ofList) := by
  have hm := maskedText_of_readTokens h fun body hb => (hq body hb).2
  have hlone := loneQuotedNames_of_maskedText hm fun body hb => (hq body hb).1
  rw [References.ofFormula, References.ofCode]
  dsimp only
  rw [hlone]

end Tabular.Formula
