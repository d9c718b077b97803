import Tabular.Proofs.Formula.Contents
import Tabular.Proofs.Formula.Lexeme

/-!
# Which words are calls

Calls are looked for from every character of the masked text on, and what is found within a word or
in a quoted name is dropped. A call that is found there still takes the text up to its parenthesis with
it. It has to be shown that nothing is lost so: whatever is found in a word or a name ends with it.
-/

namespace Tabular.Formula

open Text

variable {c : Char} {s t rest w : List Char} {b : Option Char} {q : Bool}

section Match

/-- What follows an opening parenthesis at the start of a text, or behind blanks there. -/
def openingAt? (s : List Char) : Option (List Char) :=
  match trimStart s with
  | '(' :: rest => some rest
  | _ => none

theorem openingAt?_cons_of_blank (h : isBlank c = true) (s : List Char) :
    openingAt? (c :: s) = openingAt? s := by
  rw [openingAt?, trimStart_cons_of_blank h, openingAt?]

theorem openingAt?_cons_of_not_blank (h : isBlank c = false) (s : List Char) :
    openingAt? (c :: s) = if c = '(' then some s else none := by
  rw [openingAt?, trimStart_cons_of_not_blank h]
  split
  · next hs =>
    obtain ⟨rfl, rfl⟩ := List.cons.inj hs
    rw [if_pos rfl]
  · next hs =>
    rw [if_neg]
    rintro rfl
    exact hs s rfl

theorem callAt?_cons (c : Char) (s : List Char) :
    callAt? (c :: s) =
      if isAsciiLetter c then
        (openingAt? (s.dropWhile isCallChar)).map fun rest => (c :: s.takeWhile isCallChar, rest)
      else none := by
  rw [callAt?, openingAt?]
  split_ifs
  · split <;> simp_all
  · rfl

theorem openingAt?_dropWhile (hw : ∀ d ∈ w, isTokenChar d = true) (ha : ¬ ∀ d ∈ w, d.toNat < 0x80)
    (t : List Char) : openingAt? ((w ++ t).dropWhile isCallChar) = none := by
  induction w with
  | nil => exact absurd (List.forall_mem_nil _) ha
  | cons d w ih =>
    obtain ⟨hd, hw⟩ := List.forall_mem_cons.mp hw
    rw [List.cons_append, List.dropWhile_cons]
    by_cases hn : d.toNat < 0x80
    · rw [if_pos (isCallChar_iff.mpr ⟨hd, hn⟩)]
      exact ih hw fun hall => ha (List.forall_mem_cons.mpr ⟨hn, hall⟩)
    · have hcall : ¬ isCallChar d = true := fun h => hn (isCallChar_iff.mp h).2
      have hparen : d ≠ '(' := (ne_of_isTokenChar hd).2.2.1
      rw [if_neg hcall, openingAt?_cons_of_not_blank (not_blank_of_isTokenChar hd), if_neg hparen]

/-- A call at the start of a word takes the whole word, which has to be one of ASCII characters. -/
theorem callAt?_word (hw : ∀ d ∈ c :: w, isTokenChar d = true)
    (ht : ∀ d ∈ t.head?, isTokenChar d = false) :
    callAt? (c :: (w ++ t)) =
      if Lexeme.isFunctionName (c :: w) then (openingAt? t).map fun rest => (c :: w, rest)
      else none := by
  obtain ⟨-, hw⟩ := List.forall_mem_cons.mp hw
  rw [callAt?_cons]
  by_cases hc : isAsciiLetter c = true
  · have hname : Lexeme.isFunctionName (c :: w) = true ↔ ∀ d ∈ w, d.toNat < 0x80 := by
      simp [Lexeme.isFunctionName, hc, isAscii_of_isAsciiLetter hc]
    rw [if_pos hc]
    by_cases ha : ∀ d ∈ w, d.toNat < 0x80
    · have hcall : ∀ d ∈ w, isCallChar d = true := fun d hd => isCallChar_iff.mpr ⟨hw d hd, ha d hd⟩
      have hstop : ∀ d ∈ t.head?, isCallChar d = false := by
        intro d hd
        rw [Bool.eq_false_iff, Ne, isCallChar_iff, ht d hd]
        simp
      rw [takeWhile_run hcall hstop, dropWhile_run hcall hstop, if_pos (hname.mpr ha)]
    · rw [openingAt?_dropWhile hw ha, if_neg (mt hname.mp ha)]
      rfl
  · have hname : ¬ Lexeme.isFunctionName (c :: w) = true := by
      simp [Lexeme.isFunctionName, hc]
    rw [if_neg hc, if_neg hname]

theorem callAt?_eq_some {name : List Char} (h : callAt? s = some (name, rest)) :
    ∃ blanks, s = name ++ (blanks ++ '(' :: rest) ∧ (∀ d ∈ name, isCallChar d = true) ∧
      ∀ d ∈ blanks, isBlank d = true := by
  cases s with
  | nil => simp [callAt?] at h
  | cons c s =>
    rw [callAt?_cons] at h
    split at h
    · next hc =>
      obtain ⟨r, ho, he⟩ := Option.map_eq_some_iff.mp h
      obtain ⟨rfl, rfl⟩ := Prod.mk.inj he
      have hopen : trimStart (s.dropWhile isCallChar) = '(' :: r := by
        rw [openingAt?] at ho
        split at ho
        · next ht => rw [ht, Option.some.inj ho]
        · simp at ho
      refine ⟨(s.dropWhile isCallChar).takeWhile isBlank, ?_, ?_, ?_⟩
      · rw [← hopen, trimStart, List.takeWhile_append_dropWhile, List.cons_append,
          List.takeWhile_append_dropWhile]
      · exact List.forall_mem_cons.mpr
          ⟨isCallChar_of_isAsciiLetter hc, List.all_eq_true.mp List.all_takeWhile⟩
      · exact List.all_eq_true.mp List.all_takeWhile
    · simp at h

end Match

section Scan

theorem callsFrom_congr_before (hs : ∀ d ∈ s.head?, isAsciiLetter d = false) (b b' : Option Char)
    (q : Bool) : callsFrom b q s = callsFrom b' q s := by
  cases s with
  | nil => simp [callsFrom]
  | cons c s =>
    have hn := callAt?_eq_none (hs c rfl) s
    rw [callsFrom_of_callAt?_eq_none hn, callsFrom_of_callAt?_eq_none hn]

theorem callsFrom_of_openingAt? (h : openingAt? s = some rest) (b : Option Char) (q : Bool) :
    callsFrom b q s = callsFrom (some '(') q rest := by
  induction s generalizing b with
  | nil => simp [openingAt?] at h
  | cons c s ih =>
    cases hb : isBlank c with
    | true =>
      have hl := isAsciiLetter_of_not_token (isTokenChar_of_isBlank hb)
      have hq : c ≠ '\'' := by
        rintro rfl
        exact absurd hb (by decide)
      rw [openingAt?_cons_of_blank hb] at h
      rw [callsFrom_of_callAt?_eq_none (callAt?_eq_none hl s), if_neg hq, ih h]
    | false =>
      rw [openingAt?_cons_of_not_blank hb] at h
      split at h
      · next hc =>
        subst hc
        obtain rfl := Option.some.inj h
        rw [callsFrom_of_callAt?_eq_none (callAt?_eq_none (by decide) s), if_neg (by decide)]
      · simp at h

theorem callsFrom_within (hw : ∀ d ∈ w, isTokenChar d = true)
    (ht : ∀ d ∈ t.head?, isTokenChar d = false) (hb : b.any isTokenChar = true) (b' : Option Char)
    (q : Bool) : callsFrom b q (w ++ t) = callsFrom b' q t := by
  induction w generalizing b with
  | nil =>
    exact callsFrom_congr_before (fun d hd => isAsciiLetter_of_not_token (ht d hd)) b b' q
  | cons c w ih =>
    obtain ⟨hc, hw'⟩ := List.forall_mem_cons.mp hw
    have hq : c ≠ '\'' := (ne_of_isTokenChar hc).2.1
    have hcall := callAt?_word hw ht
    cases h : callAt? (c :: (w ++ t)) with
    | none =>
      rw [List.cons_append, callsFrom_of_callAt?_eq_none h, if_neg hq]
      exact ih hw' (by simpa using hc)
    | some p =>
      obtain ⟨name, rest⟩ := p
      rw [List.cons_append, callsFrom_of_callAt?_eq_some h, hb, Bool.true_or, if_pos rfl]
      rw [h] at hcall
      split at hcall
      · obtain ⟨r, hr, he⟩ := Option.map_eq_some_iff.mp hcall.symm
        obtain ⟨-, rfl⟩ := Prod.mk.inj he
        rw [callsFrom_of_openingAt? hr]
      · simp at hcall

/-- A word is a call as a whole, or there is none in it. -/
theorem callsFrom_word (hw : ∀ d ∈ w, isTokenChar d = true) (hn : w ≠ [])
    (ht : ∀ d ∈ t.head?, isTokenChar d = false) (hb : b.any isTokenChar = false) :
    callsFrom b false (w ++ t) =
      if Lexeme.isFunctionName w && (openingAt? t).isSome then
        String.ofList (w.map asciiUpper) :: callsFrom none false t
      else callsFrom none false t := by
  obtain ⟨c, w, rfl⟩ := List.exists_cons_of_ne_nil hn
  obtain ⟨hc, hw'⟩ := List.forall_mem_cons.mp hw
  have hq : c ≠ '\'' := (ne_of_isTokenChar hc).2.1
  have hcall := callAt?_word hw ht
  have hrest : callsFrom (some c) false (w ++ t) = callsFrom none false t :=
    callsFrom_within hw' ht (by simpa using hc) none false
  rw [List.cons_append]
  cases hname : Lexeme.isFunctionName (c :: w) with
  | false =>
    rw [hname, if_neg (by decide)] at hcall
    rw [callsFrom_of_callAt?_eq_none hcall, if_neg hq, hrest]
    rfl
  | true =>
    rw [hname, if_pos rfl] at hcall
    cases ho : openingAt? t with
    | none =>
      rw [ho] at hcall
      rw [callsFrom_of_callAt?_eq_none hcall, if_neg hq, hrest]
      rfl
    | some rest =>
      rw [ho] at hcall
      rw [callsFrom_of_callAt?_eq_some hcall, hb, callsFrom_of_openingAt? ho]
      rfl

theorem dropWhile_of_callAt? {name : List Char} (h : callAt? s = some (name, rest)) :
    s.dropWhile (· != '\'') = rest.dropWhile (· != '\'') := by
  obtain ⟨blanks, rfl, hn, hb⟩ := callAt?_eq_some h
  have hpass : ∀ d ∈ name ++ (blanks ++ ['(']), (d != '\'') = true := by
    intro d hd
    rw [bne_iff_ne]
    rintro rfl
    simp only [List.mem_append, List.mem_singleton] at hd
    obtain hd | hd | hd := hd
    · exact absurd (hn _ hd) (by decide)
    · exact absurd (hb _ hd) (by decide)
    · exact absurd hd (by decide)
  have hs : name ++ (blanks ++ '(' :: rest) = (name ++ (blanks ++ ['('])) ++ rest := by simp
  rw [hs, List.dropWhile_append_of_pos hpass]

theorem callsFrom_dropWhile (b : Option Char) (s : List Char) :
    callsFrom b true s = callsFrom none true (s.dropWhile (· != '\'')) := by
  induction hn : s.length using Nat.strongRecOn generalizing b s with
  | _ n ih =>
    subst hn
    cases s with
    | nil => simp [callsFrom]
    | cons c s =>
      by_cases hq : c = '\''
      · subst hq
        rw [List.dropWhile_cons_of_neg (by decide)]
        exact callsFrom_congr_before (by simp; decide) b none true
      · cases h : callAt? (c :: s) with
        | none =>
          rw [callsFrom_of_callAt?_eq_none h, if_neg hq, List.dropWhile_cons_of_pos (by simpa using hq)]
          exact ih s.length (by simp) (some c) s rfl
        | some p =>
          obtain ⟨name, rest⟩ := p
          rw [callsFrom_of_callAt?_eq_some h, Bool.or_true, if_pos rfl, dropWhile_of_callAt? h]
          exact ih rest.length (callAt?_length h) (some '(') rest rfl

theorem callsFrom_inQuote (hc : c ≠ '\'') (b b' : Option Char) (s : List Char) :
    callsFrom b true (c :: s) = callsFrom b' true s := by
  rw [callsFrom_dropWhile, List.dropWhile_cons_of_pos (by simpa using hc), ← callsFrom_dropWhile b']

theorem callsFrom_eq_nil_of_blanks {blanks : List Char} (hb : ∀ x ∈ blanks, x = ' ')
    (b : Option Char) (q : Bool) : callsFrom b q blanks = [] := by
  induction blanks generalizing b with
  | nil => simp [callsFrom]
  | cons x blanks ih =>
    obtain ⟨rfl, hblanks⟩ := List.forall_mem_cons.mp hb
    rw [callsFrom_of_callAt?_eq_none (callAt?_eq_none (by decide) blanks), if_neg (by decide),
      ih hblanks]

theorem callsFrom_quote (b : Option Char) (q : Bool) (s : List Char) :
    callsFrom b q ('\'' :: s) = callsFrom (some '\'') (!q) s :=
  callsFrom_of_callAt?_eq_none (callAt?_eq_none (by decide) s)

theorem StartsWithBody.callsFrom_eq {body : List Char} (h : StartsWithBody s body rest)
    (b : Option Char) : callsFrom b true s = callsFrom (some '\'') false rest := by
  induction h generalizing b with
  | closed rest => exact callsFrom_quote b true rest
  | pair _ ih => rw [callsFrom_quote, Bool.not_true, callsFrom_quote, Bool.not_false, ih]
  | char hc _ ih => rw [callsFrom_inQuote hc b none, ih]

theorem callsFrom_of_unclosed (h : quotedBody s = none) (b : Option Char) :
    callsFrom b true s = [] := by
  fun_induction quotedBody s generalizing b with
  | case1 => simp [callsFrom]
  | case2 r ih =>
    rw [callsFrom_quote, Bool.not_true, callsFrom_quote, Bool.not_false]
    exact ih (Option.map_eq_none_iff.mp h) _
  | case3 r => simp at h
  | case4 c r _ hq ih =>
    rw [callsFrom_inQuote hq b none]
    exact ih (Option.map_eq_none_iff.mp h) _

end Scan

section Mask

theorem mask_word (hw : ∀ d ∈ w, isTokenChar d = true) (t : List Char) :
    mask (w ++ t) = w ++ mask t := by
  induction w with
  | nil => rfl
  | cons d w ih =>
    obtain ⟨hd, hw⟩ := List.forall_mem_cons.mp hw
    obtain ⟨hb, hq, -⟩ := ne_of_isTokenChar hd
    rw [List.cons_append, mask_cons hb hq, ih hw, List.cons_append]

theorem mask_unclosedBracket (h : ']' ∉ s) : mask ('[' :: s) = '[' :: blanksFor s := by
  have hm : maskFrom .bracket s = blanksFor s := by
    induction s with
    | nil => rfl
    | cons c s ih =>
      rw [List.mem_cons, not_or] at h
      have hc : c ≠ ']' := Ne.symm h.1
      rw [maskFrom, if_neg hc, Region.after, if_neg hc, ih h.2, blanksFor, blanksFor, utf8Length_cons,
        ← List.replicate_append_replicate]
  rw [mask, maskFrom, Region.after, if_pos rfl, hm]
  exact fun h => by cases h

theorem mask_quote (s : List Char) : mask ('\'' :: s) = '\'' :: maskFrom .quote s := rfl

theorem maskFrom_unclosedQuote (h : quotedBody s = none) : maskFrom .quote s = s := by
  fun_induction quotedBody s with
  | case1 => rfl
  | case2 r ih => simp [maskFrom, Region.after, ih (Option.map_eq_none_iff.mp h)]
  | case3 r => simp at h
  | case4 c r _ hq ih =>
    have hq : c ≠ '\'' := hq
    simp [maskFrom, Region.after, hq, ih (Option.map_eq_none_iff.mp h)]

end Mask

section Calls

theorem isTokenChar_of_head?_mask (h : ∀ d ∈ s.head?, isTokenChar d = false) :
    ∀ d ∈ (mask s).head?, isTokenChar d = false := by
  rwa [head?_mask]

/-- A parenthesis that comes next is the next lexeme but for blanks. -/
theorem Lexes.opensNext_eq {ls : List Lexeme} (h : Lexes s ls) :
    Lexeme.opensNext ls = (openingAt? (mask s)).isSome := by
  have hnone : ∀ {c : Char} (u : List Char), isBlank c = false → c ≠ '(' →
      (openingAt? (c :: u)).isSome = false := by
    intro c u hb hc
    rw [openingAt?_cons_of_not_blank hb, if_neg hc]
    rfl
  induction h with
  | nil => rfl
  | @cons s rest l ls hl _ ih =>
    cases hl with
    | @word w _ hw ht hr =>
      obtain ⟨c, w, rfl⟩ := List.exists_cons_of_ne_nil hw
      obtain ⟨hc, -⟩ := List.forall_mem_cons.mp ht
      have hparen : c ≠ '(' := (ne_of_isTokenChar hc).2.2.1
      rw [mask_word ht, List.cons_append, hnone _ (not_blank_of_isTokenChar hc) hparen]
      rfl
    | bracketed _ hn =>
      rw [mask_bracketed hn, hnone _ (by decide) (by decide)]
      rfl
    | unclosedBracket hn =>
      rw [mask_unclosedBracket hn, hnone _ (by decide) (by decide)]
      rfl
    | quoted _ _ | unclosedQuote _ =>
      rw [mask_quote, hnone _ (by decide) (by decide)]
      rfl
    | @mark c _ _ hb hq =>
      rw [mask_cons hb hq, Lexeme.opensNext, ih]
      cases hc : isBlank c with
      | true =>
        have hparen : c ≠ '(' := by
          rintro rfl
          exact absurd hc (by decide)
        rw [openingAt?_cons_of_blank hc]
        simp [hparen]
      | false =>
        rw [openingAt?_cons_of_not_blank hc]
        by_cases hparen : c = '(' <;> simp [hparen]

/-- Behind what ends no word, the calls that are found are those of the lexemes. -/
theorem Lexes.callsFrom_eq {ls : List Lexeme} (h : Lexes s ls)
    (hb : b.any isTokenChar = true → ∀ d ∈ s.head?, isTokenChar d = false) :
    callsFrom b false (mask s) = Lexeme.calls ls := by
  induction h generalizing b with
  | nil => simp [mask, maskFrom, callsFrom, Lexeme.calls, Lexeme.calledWords]
  | @cons s rest l ls hl hls ih =>
    cases hl with
    | @word w _ hw ht hr =>
      have hbefore : b.any isTokenChar = false := by
        obtain ⟨c, w, rfl⟩ := List.exists_cons_of_ne_nil hw
        rw [Bool.eq_false_iff]
        intro h
        have hc := hb h c rfl
        simp [(List.forall_mem_cons.mp ht).1] at hc
      rw [mask_word ht, callsFrom_word ht hw (isTokenChar_of_head?_mask hr) hbefore,
        ih fun h => absurd h (by simp),
        ← hls.opensNext_eq, Lexeme.calls, Lexeme.calls, Lexeme.calledWords]
      split_ifs <;> rfl
    | @bracketed name _ hn =>
      rw [mask_bracketed hn, callsFrom_of_callAt?_eq_none (callAt?_eq_none (by decide) _),
        if_neg (by decide), callsFrom_blanks fun x => eq_blank_of_mem_blanksFor]
      exact ih fun h => absurd h (by decide +kernel)
    | @unclosedBracket name hn =>
      obtain rfl := hls.eq_nil
      rw [mask_unclosedBracket hn, callsFrom_of_callAt?_eq_none (callAt?_eq_none (by decide) _),
        if_neg (by decide), callsFrom_eq_nil_of_blanks fun x => eq_blank_of_mem_blanksFor]
      rfl
    | @quoted s body _ hs hr =>
      rw [mask_quote, callsFrom_quote, Bool.not_false, hs.maskFrom_quote,
        (hs.of_append _).callsFrom_eq]
      exact ih fun h => absurd h (by decide +kernel)
    | @unclosedQuote body hs =>
      rw [mask_quote, callsFrom_quote, Bool.not_false, maskFrom_unclosedQuote hs,
        callsFrom_of_unclosed hs, hls.eq_nil]
      rfl
    | @mark c _ ht hopen hq =>
      have hn := callAt?_eq_none (isAsciiLetter_of_not_token ht) (mask rest)
      rw [mask_cons hopen hq, callsFrom_of_callAt?_eq_none hn, if_neg hq]
      exact ih fun h => absurd (ht.symm.trans h) (by decide)

theorem functionCalls_eq (code : List Char) : functionCalls code = Lexeme.calls (lexemes code) :=
  (lexes_lexemes code).callsFrom_eq fun h => absurd h (by simp)

/-- A stripped formula calls the functions that its lexemes show: the words of ASCII characters that
begin with a letter and stand before an opening parenthesis, in upper case and from left to right. -/
theorem functionCalls_strip (formula : List Char) :
    Lexes (strip formula) (lexemes (strip formula)) ∧
      functionCalls (strip formula) = Lexeme.calls (lexemes (strip formula)) :=
  ⟨lexes_lexemes _, functionCalls_eq _⟩

/-- In a word that is no name of a function nothing is called, nor in quotes that are not closed. -/
example : functionCalls "é.IF(1) + sum (x) + 2MAX(y) + 'ABS(z)".toList = ["SUM"] := by
  decide +kernel

end Calls

end Tabular.Formula
