import Tabular.Proofs.Formula.LoneName
import Tabular.Proofs.Formula.Parenthesis
import Tabular.Proofs.Formula.Piece
import Tabular.Proofs.Formula.Reported

/-!
# The sum of two formulas

A formula that ends outside of literals, comments and names is left as it is by what is added to it behind
a blank. So the lexemes, the tokens and the references of a sum are those of the two formulas, one after
the other: no name is read across the blanks around the sign, and what stands before a bracket in the second
formula does not reach back to the first.
-/

namespace Tabular.Formula

open Text

variable {c : Char} {f g s t rest : List Char} {l : Lexeme} {ls ms : List Lexeme}

def sumOf (f g : List Char) : List Char := f ++ " + ".toList ++ g

/-- A formula that ends outside of literals, comments and names. Its quoted names are not empty, and no
bracket opens in them. -/
structure SelfContained (formula : List Char) : Prop where
  place : placeAfter .code formula = .code
  quoted : ∀ body, .code (.quoted body) ∈ pieces formula → body ≠ [] ∧ '[' ∉ body

/-- Whether a piece is no quoted name, or one that is not empty and in which no bracket opens. -/
def Piece.isPlain : Piece → Bool
  | code (.quoted body) => !body.isEmpty && !body.contains '['
  | _ => true

instance (formula : List Char) : Decidable (SelfContained formula) :=
  decidable_of_iff (placeAfter .code formula = .code ∧ ∀ p ∈ pieces formula, p.isPlain = true)
    ⟨fun h => ⟨h.1, fun body hb => by simpa [Piece.isPlain] using h.2 _ hb⟩, fun h => by
      refine ⟨h.place, fun p hp => ?_⟩
      unfold Piece.isPlain
      split
      · next body => simpa using h.quoted body hp
      · rfl⟩

section Strip

/-- What is left of a text ends in the region of the place where the text ends. -/
theorem foldl_after_stripFrom (r : Place) (p : List Char) :
    (stripFrom r p).foldl Region.after r.region = (placeAfter r p).region := by
  fun_induction placeAfter r p with
  | case1 => simp [stripFrom]
  | case2 cs ih | case3 cs ih | case4 cs ih | case5 cs ih | case6 cs ih | case7 cs ih
  | case11 cs ih | case14 cs ih => exact ih
  | case8 c cs h₁ h₂ h₃ h₄ h₅ h₆ ih =>
    have hkeep : stripFrom .code (c :: cs) = c :: stripFrom .code cs :=
      stripFrom_code_cons h₁ h₂ h₃ (fun hc u => h₄ u hc) (fun hc u => h₅ u hc) fun hc u => h₆ u hc
    rw [hkeep, List.foldl_cons, ← ih, Place.region, Region.after, if_neg h₂, if_neg h₃]
  | case9 c cs ih => by_cases hc : c = ']' <;> simp_all [stripFrom, Place.region, Region.after]
  | case10 c cs ih => by_cases hc : c = '\'' <;> simp_all [stripFrom, Place.region, Region.after]
  | case12 c cs hn ih =>
    have hcode : (if c = '"' then Place.code else .literal).region = .code := by split <;> rfl
    rw [hcode] at ih
    rw [stripFrom, Place.region, ih]
    exact fun u hc => hn u hc
  | case13 c cs ih => by_cases hc : c = '\n' <;> simp_all [stripFrom, Place.region, Region.after]
  | case15 c cs hn ih =>
    rw [stripFrom]
    · exact ih
    · exact fun u hc => hn u hc

theorem strip_sumOf (h : placeAfter .code f = .code) (g : List Char) :
    strip (sumOf f g) = strip f ++ ' ' :: '+' :: ' ' :: strip g := by
  have hsum : sumOf f g = f ++ ' ' :: '+' :: ' ' :: g := by
    rw [sumOf, List.append_assoc]
    rfl
  have hplus : stripFrom .code (' ' :: '+' :: ' ' :: g) = ' ' :: '+' :: ' ' :: stripFrom .code g := by
    simp [stripFrom]
  rw [hsum, strip, stripFrom_append_blank (by decide), h, hplus]
  rfl

end Strip

section Regions

theorem foldl_after_word {w : List Char} (hw : ∀ d ∈ w, isTokenChar d = true) :
    w.foldl Region.after .code = .code := by
  induction w with
  | nil => rfl
  | cons d w ih =>
    obtain ⟨hd, hw⟩ := List.forall_mem_cons.mp hw
    obtain ⟨hb, hq, -⟩ := ne_of_isTokenChar hd
    rw [List.foldl_cons, Region.after, if_neg hb, if_neg hq, ih hw]

theorem foldl_after_bracket (h : ']' ∉ s) : s.foldl Region.after .bracket = .bracket := by
  induction s with
  | nil => rfl
  | cons d s ih =>
    rw [List.mem_cons, not_or] at h
    rw [List.foldl_cons, Region.after, if_neg (Ne.symm h.1), ih h.2]

theorem StartsWithBody.foldl_after {body : List Char} (h : StartsWithBody s body rest) :
    s.foldl Region.after .quote = rest.foldl Region.after .code := by
  induction h with
  | closed rest => rfl
  | pair _ ih => exact ih
  | char hc _ ih => rw [List.foldl_cons, Region.after, if_neg hc, ih]

theorem foldl_after_unclosedQuote (h : quotedBody s = none) :
    s.foldl Region.after .quote = .quote := by
  fun_induction quotedBody s with
  | case1 => rfl
  | case2 r ih => exact ih (Option.map_eq_none_iff.mp h)
  | case3 r => simp at h
  | case4 d r _ hq ih =>
    rw [List.foldl_cons, Region.after, if_neg hq]
    exact ih (Option.map_eq_none_iff.mp h)

end Regions

/-- A lexeme character by character, but for names. -/
def Lexeme.tokens : Lexeme → List Token
  | word w => w.map .other
  | bracketed name => [.bracketed name]
  | quoted body => [.quoted body]
  | mark c => [.other c]

section Lexemes

/-- Behind its first lexeme a text ends outside of names if it does at all. -/
theorem StartsWithLexeme.foldl_after (h : StartsWithLexeme s l rest)
    (hs : s.foldl Region.after .code = .code) : rest.foldl Region.after .code = .code := by
  cases h with
  | word _ hw _ => rwa [List.foldl_append, foldl_after_word hw] at hs
  | bracketed _ hn =>
    rw [List.foldl_cons, List.foldl_append] at hs
    rwa [Region.after, if_pos rfl, foldl_after_bracket hn] at hs
  | unclosedBracket hn => rfl
  | quoted hb _ =>
    rw [List.foldl_cons] at hs
    exact hb.foldl_after.symm.trans hs
  | unclosedQuote _ => rfl
  | mark _ _ hb hq => rwa [List.foldl_cons, Region.after, if_neg hb, if_neg hq] at hs

/-- The first lexeme of a text that ends outside of names does not depend on what follows, unless the next
character could go on with it. -/
theorem StartsWithLexeme.append (h : StartsWithLexeme s l rest)
    (hs : s.foldl Region.after .code = .code)
    (ht : ∀ d ∈ t.head?, isTokenChar d = false ∧ d ≠ '\'') :
    StartsWithLexeme (s ++ t) l (rest ++ t) := by
  have hhead : ∀ {p : Char → Prop}, (∀ d ∈ rest.head?, p d) → (∀ d ∈ t.head?, p d) →
      ∀ d ∈ (rest ++ t).head?, p d := by
    intro p hrest ht d hd
    cases rest with
    | nil => exact ht d hd
    | cons e rest => exact hrest d hd
  cases h with
  | word hn hw hr =>
    rw [List.append_assoc]
    exact .word hn hw (hhead hr fun d hd => (ht d hd).1)
  | bracketed _ hn =>
    rw [List.cons_append, List.append_assoc]
    exact .bracketed _ hn
  | unclosedBracket hn => exact absurd (hs.symm.trans (foldl_after_bracket hn)) (by decide)
  | @quoted s body _ hb hr =>
    rw [List.cons_append, hb.eq_append, List.append_assoc]
    refine .quoted (hb.of_append _) fun he => ?_
    exact hhead (p := (· ≠ '\'')) (fun d hd hq => hr (hq ▸ hd)) (fun d hd => (ht d hd).2) _ he rfl
  | unclosedQuote hb => exact absurd (hs.symm.trans (foldl_after_unclosedQuote hb)) (by decide)
  | mark _ hc hb hq => exact .mark _ hc hb hq

theorem Lexes.append (h : Lexes s ls) (hs : s.foldl Region.after .code = .code) (hm : Lexes t ms)
    (ht : ∀ d ∈ t.head?, isTokenChar d = false ∧ d ≠ '\'') : Lexes (s ++ t) (ls ++ ms) := by
  induction h with
  | nil => exact hm
  | cons hl _ ih => exact .cons (hl.append hs ht) (ih (hl.foldl_after hs))

theorem readTokens_other (hb : c ≠ '[') (hq : c ≠ '\'') (s : List Char) :
    readTokens (c :: s) = (readTokens s).map (.other c :: ·) := by
  rw [readTokens]
  · exact hq
  · exact hb

theorem readTokens_word {w : List Char} (hw : ∀ d ∈ w, isTokenChar d = true) (t : List Char) :
    readTokens (w ++ t) = (readTokens t).map ((Lexeme.word w).tokens ++ ·) := by
  induction w with
  | nil => simp [Lexeme.tokens]
  | cons d w ih =>
    obtain ⟨hd, hw⟩ := List.forall_mem_cons.mp hw
    obtain ⟨hb, hq, -⟩ := ne_of_isTokenChar hd
    rw [List.cons_append, readTokens_other hb hq, ih hw, Option.map_map]
    rfl

theorem StartsWithLexeme.readTokens_eq (h : StartsWithLexeme s l rest)
    (hs : s.foldl Region.after .code = .code) :
    readTokens s = (readTokens rest).map (l.tokens ++ ·) := by
  cases h with
  | word _ hw _ => exact readTokens_word hw rest
  | bracketed _ hn =>
    have hsplit := splitAtFirst_append hn rest
    rw [readTokens]
    split
    · next hs' =>
      rw [hsplit, Option.some.injEq, Prod.mk.injEq] at hs'
      obtain ⟨rfl, rfl⟩ := hs'
      rfl
    · next hs' => simp [hsplit] at hs'
  | unclosedBracket hn => exact absurd (hs.symm.trans (foldl_after_bracket hn)) (by decide)
  | quoted hb hr =>
    have hbody := hb.quotedBody_eq hr
    rw [readTokens]
    split
    · next hs' =>
      rw [hbody, Option.some.injEq, Prod.mk.injEq] at hs'
      obtain ⟨rfl, rfl⟩ := hs'
      rfl
    · next hs' => simp [hbody] at hs'
  | unclosedQuote hb => exact absurd (hs.symm.trans (foldl_after_unclosedQuote hb)) (by decide)
  | mark _ _ hb hq => exact readTokens_other hb hq rest

theorem Lexes.readTokens_eq (h : Lexes s ls) (hs : s.foldl Region.after .code = .code) :
    readTokens s = some (ls.flatMap Lexeme.tokens) := by
  induction h with
  | nil => simp [readTokens]
  | cons hl _ ih => rw [hl.readTokens_eq hs, ih (hl.foldl_after hs), Option.map_some, List.flatMap_cons]

theorem quoted_mem_tokens {body : List Char} :
    .quoted body ∈ ls.flatMap Lexeme.tokens ↔ .quoted body ∈ ls := by
  rw [List.mem_flatMap]
  constructor
  · rintro ⟨l, hl, hb⟩
    cases l with
    | quoted body' => rwa [Token.quoted.inj (List.mem_singleton.mp hb)]
    | word w | bracketed name | mark c => simp [Lexeme.tokens] at hb
  · exact fun h => ⟨_, h, List.mem_singleton.mpr rfl⟩

theorem quoted_mem_lexemes {body : List Char} :
    .quoted body ∈ lexemes (strip f) ↔ .code (.quoted body) ∈ pieces f := by
  rw [lexemes_strip, List.mem_flatMap]
  constructor
  · rintro ⟨p, hp, hb⟩
    cases p with
    | code l => rwa [List.mem_singleton.mp hb]
    | literal contents | comment contents => simp [Piece.left] at hb
  · exact fun h => ⟨_, h, List.mem_singleton.mpr rfl⟩

end Lexemes

def plusSign : List Lexeme := [.mark ' ', .mark '+', .mark ' ']

/-- The tokens of what is left of a formula. -/
def tokensOf (formula : List Char) : List Token := (lexemes (strip formula)).flatMap Lexeme.tokens

section Sum

theorem SelfContained.region (h : SelfContained f) : (strip f).foldl Region.after .code = .code := by
  have hr := foldl_after_stripFrom .code f
  rwa [h.place] at hr

/-- The lexemes of a sum are those of the formulas, with the sign between them. -/
theorem SelfContained.lexemes_sumOf (hf : SelfContained f) (g : List Char) :
    lexemes (strip (sumOf f g)) = lexemes (strip f) ++ (plusSign ++ lexemes (strip g)) := by
  have hblank {t : List Char} {ls : List Lexeme} (h : Lexes t ls) :
      Lexes (' ' :: t) (.mark ' ' :: ls) := h.mark (by decide +kernel) (by decide) (by decide)
  have hplus {t : List Char} {ls : List Lexeme} (h : Lexes t ls) :
      Lexes ('+' :: t) (.mark '+' :: ls) := h.mark (by decide +kernel) (by decide) (by decide)
  rw [strip_sumOf hf.place]
  refine Lexes.lexemes_eq ((lexes_lexemes _).append hf.region ?_ ?_)
  · exact hblank (hplus (hblank (lexes_lexemes _)))
  · rintro d ⟨⟩
    exact ⟨by decide +kernel, by decide⟩

theorem SelfContained.readTokens_eq (h : SelfContained f) :
    readTokens (strip f) = some (tokensOf f) :=
  (lexes_lexemes _).readTokens_eq h.region

theorem SelfContained.quoted_tokensOf (h : SelfContained f) :
    ∀ body, .quoted body ∈ tokensOf f → body ≠ [] ∧ '[' ∉ body :=
  fun body hb => h.quoted body (quoted_mem_lexemes.mp (quoted_mem_tokens.mp hb))

theorem SelfContained.tokensOf_sumOf (hf : SelfContained f) (g : List Char) :
    tokensOf (sumOf f g) = tokensOf f ++ ([.other ' ', .other '+', .other ' '] ++ tokensOf g) := by
  rw [tokensOf, hf.lexemes_sumOf, List.flatMap_append, List.flatMap_append]
  rfl

theorem SelfContained.readTokens_sumOf (hf : SelfContained f) (hg : SelfContained g) :
    readTokens (strip (sumOf f g)) = some (tokensOf (sumOf f g)) := by
  refine (lexes_lexemes _).readTokens_eq ?_
  rw [strip_sumOf hf.place, List.foldl_append, hf.region]
  exact hg.region

theorem SelfContained.quoted_sumOf (hf : SelfContained f) (hg : SelfContained g) :
    ∀ body, .quoted body ∈ tokensOf (sumOf f g) → body ≠ [] ∧ '[' ∉ body := by
  intro body hb
  rw [hf.tokensOf_sumOf, List.mem_append, List.mem_append] at hb
  obtain hb | hb | hb := hb
  · exact hf.quoted_tokensOf body hb
  · simp at hb
  · exact hg.quoted_tokensOf body hb

end Sum

section Calls

theorem Lexeme.opensNext_append (hm : opensNext ms = false) (ls : List Lexeme) :
    opensNext (ls ++ ms) = opensNext ls := by
  induction ls with
  | nil => exact hm
  | cons l ls ih =>
    cases l with
    | mark c => rw [List.cons_append, opensNext, opensNext, ih]
    | word w | bracketed name | quoted body => rfl

theorem Lexeme.calledWords_append (hm : opensNext ms = false) (ls : List Lexeme) :
    calledWords (ls ++ ms) = calledWords ls ++ calledWords ms := by
  induction ls with
  | nil => rfl
  | cons l ls ih =>
    cases l with
    | word w =>
      rw [List.cons_append, calledWords, calledWords, opensNext_append hm, ih]
      split <;> rfl
    | mark c | bracketed name | quoted body => exact ih

theorem Lexeme.parens_append (hm : ∀ w, parens w ms = parens [] ms) (w : List Char)
    (ls : List Lexeme) : parens w (ls ++ ms) = parens w ls ++ parens [] ms := by
  induction ls generalizing w with
  | nil => exact hm w
  | cons l ls ih =>
    cases l with
    | word v => exact ih v
    | bracketed name | quoted body => exact ih []
    | mark c =>
      rw [List.cons_append, parens, parens, ih, ih]
      split_ifs <;> rfl

/-- The calls of a sum are those of the two formulas. -/
theorem SelfContained.functionCalls_sumOf (hf : SelfContained f) (g : List Char) :
    functionCalls (strip (sumOf f g)) = functionCalls (strip f) ++ functionCalls (strip g) := by
  have hsign : Lexeme.opensNext (plusSign ++ lexemes (strip g)) = false := rfl
  simp only [functionCalls_eq, hf.lexemes_sumOf, Lexeme.calls, Lexeme.calledWords_append hsign,
    List.map_append]
  rfl

/-- The parentheses of a sum are those of the two formulas, each with the word before it. -/
theorem SelfContained.parens_sumOf (hf : SelfContained f) (g : List Char) :
    Lexeme.parens [] (lexemes (strip (sumOf f g))) =
      Lexeme.parens [] (lexemes (strip f)) ++ Lexeme.parens [] (lexemes (strip g)) := by
  rw [hf.lexemes_sumOf, Lexeme.parens_append fun _ => rfl]
  rfl

end Calls

section Names

variable {us : List Token}

theorem touched_behind_blank (vs us : List Token) :
    Touched (vs ++ .other ' ' :: us) = Touched us := by
  have hblank : isQualifier (some ' ') = false := by decide +kernel
  have htext : (vs ++ Token.other ' ' :: us).flatMap Token.text =
      (vs.flatMap Token.text ++ [' ']) ++ us.flatMap Token.text := by
    simp [Token.text]
  rw [Touched, Touched, htext]
  cases hu : us.flatMap Token.text with
  | nil =>
    rw [List.append_nil, List.getLast?_concat, hblank]
    rfl
  | cons c cs => rw [List.getLast?_append_of_ne_nil _ (List.cons_ne_nil c cs)]

theorem lead_behind_blank (vs us : List Token) :
    Lead.ofTokens (vs ++ .other ' ' :: us) = Lead.ofTokens us := by
  have hnone (l : Lead) : l.after (.other ' ') = .none := by
    cases l <;> rfl
  rw [Lead.ofTokens, List.foldl_append, List.foldl_cons, hnone]
  rfl

theorem occurrencesFrom_append (us ts ts' : List Token) :
    occurrencesFrom us (ts ++ ts') = occurrencesFrom us ts ++ occurrencesFrom (us ++ ts) ts' := by
  induction ts generalizing us with
  | nil => simp [occurrencesFrom]
  | cons t ts ih =>
    cases t with
    | bracketed name => simp [occurrencesFrom, ih]
    | quoted body | other c => simp [ih]

theorem occurrencesFrom_behind (vs us ts : List Token) :
    occurrencesFrom (vs ++ us) ts =
      (occurrencesFrom us ts).map fun o => { o with before := vs ++ o.before } := by
  induction ts generalizing us with
  | nil => rfl
  | cons t ts ih =>
    cases t with
    | bracketed name => simp [occurrencesFrom, ← ih]
    | quoted body | other c => simp [← ih]

/-- What is reported of the bracketed names of a sum, if nothing before the blank matters to it. -/
theorem SelfContained.filterMap_occurrencesFrom {α : Type} {report : Occurrence → Option α}
    (hr : ∀ vs us name, report ⟨vs ++ .other ' ' :: us, name⟩ = report ⟨us, name⟩)
    (hf : SelfContained f) (g : List Char) :
    (occurrencesFrom [] (tokensOf (sumOf f g))).filterMap report =
      (occurrencesFrom [] (tokensOf f)).filterMap report ++
        (occurrencesFrom [] (tokensOf g)).filterMap report := by
  have hseam : [] ++ tokensOf f ++ [Token.other ' ', .other '+', .other ' '] =
      (tokensOf f ++ [.other ' ', .other '+']) ++ [.other ' '] := by simp
  have hsign : ∀ us, occurrencesFrom us [Token.other ' ', .other '+', .other ' '] = [] :=
    fun us => rfl
  rw [hf.tokensOf_sumOf, occurrencesFrom_append, occurrencesFrom_append, hsign, List.nil_append, hseam,
    ← List.append_nil (_ ++ [Token.other ' ']), occurrencesFrom_behind, List.filterMap_append,
    List.filterMap_map]
  congr 1
  refine List.filterMap_congr fun o _ => ?_
  rw [Function.comp_apply, List.append_assoc, List.singleton_append, hr]

theorem loneNames_append (hb : beginsBracketed us = false) (ts : List Token) :
    loneNames (ts ++ us) = loneNames ts ++ loneNames us := by
  induction ts with
  | nil => rfl
  | cons t ts ih =>
    have hnext : beginsBracketed (ts ++ us) = beginsBracketed ts := by
      cases ts with
      | nil => exact hb
      | cons t ts => cases t <;> rfl
    cases t with
    | quoted body => by_cases h : beginsBracketed ts = true <;> simp [loneNames, ih, hnext, h]
    | bracketed name | other c => exact ih

namespace References

/-- The references of a sum are those of the two formulas, without repeats. -/
theorem ofFormula_sumOf (hf : SelfContained f) (hg : SelfContained g) :
    (ofFormula (sumOf f g)).brackets =
        distinct ((ofFormula f).brackets ++ (ofFormula g).brackets) ∧
      (ofFormula (sumOf f g)).qualified =
        distinct ((ofFormula f).qualified ++ (ofFormula g).qualified) ∧
      (ofFormula (sumOf f g)).loneTables =
        distinct ((ofFormula f).loneTables ++ (ofFormula g).loneTables) := by
  have hs := hf.readTokens_sumOf hg
  have hq := hf.quoted_sumOf hg
  have hquote {ts : List Token} (h : ∀ body, .quoted body ∈ ts → body ≠ [] ∧ '[' ∉ body) :
      ∀ body, .quoted body ∈ ts → '[' ∉ body := fun body hb => (h body hb).2
  refine ⟨?_, ?_, ?_⟩
  · rw [brackets_ofFormula hs (hquote hq), brackets_ofFormula hf.readTokens_eq (hquote hf.quoted_tokensOf),
      brackets_ofFormula hg.readTokens_eq (hquote hg.quoted_tokensOf), distinct_append_distinct,
      hf.filterMap_occurrencesFrom]
    intro vs us name
    simp only [Occurrence.reportedName?, touched_behind_blank, Occurrence.title]
  · rw [qualified_ofFormula hs (hquote hq), qualified_ofFormula hf.readTokens_eq (hquote hf.quoted_tokensOf),
      qualified_ofFormula hg.readTokens_eq (hquote hg.quoted_tokensOf), distinct_append_distinct,
      hf.filterMap_occurrencesFrom]
    intro vs us name
    simp only [Occurrence.reportedColumn?, lead_behind_blank, Occurrence.title]
  · have hnames : loneNames (tokensOf (sumOf f g)) =
        loneNames (tokensOf f) ++ loneNames (tokensOf g) := by
      rw [hf.tokensOf_sumOf, loneNames_append rfl]
      rfl
    rw [loneTables_ofFormula hs hq, loneTables_ofFormula hf.readTokens_eq hf.quoted_tokensOf,
      loneTables_ofFormula hg.readTokens_eq hg.quoted_tokensOf, distinct_append_distinct, hnames,
      List.map_append]

end References

end Names

end Tabular.Formula
