import Tabular.Formula.Call
import Tabular.Proofs.Formula.Masked

/-!
# Lexemes of a stripped formula

Read from left to right, a stripped formula falls into words, names in brackets or quotes, and single
marks. A word is a maximal run of word characters and points; a name that is not closed reaches to the
end of the formula. A function is called by a word that could name one and before an opening parenthesis.
-/

namespace Tabular.Formula

open Text

variable {c : Char} {s t rest : List Char}

section Characters

theorem isAscii_of_isAsciiLetter (h : isAsciiLetter c = true) : c.toNat < 0x80 := by
  have hz : c ≤ 'z' ∨ c ≤ 'Z' := by
    simp only [isAsciiLetter, Bool.or_eq_true, Bool.and_eq_true, decide_eq_true_eq] at h
    exact h.imp And.right And.right
  obtain hz | hz := hz
  · have hn : c.toNat ≤ 0x7A := hz
    omega
  · have hn : c.toNat ≤ 0x5A := hz
    omega

theorem inRanges_alphabeticMarkRanges (h : c.toNat < 0x80) :
    inRanges alphabeticMarkRanges c.toNat = false := by
  have hfirst : alphabeticMarkRanges.all (0x80 ≤ ·.1) = true := by decide +kernel
  rw [inRanges, List.any_eq_false]
  intro r hr
  have hr : 0x80 ≤ r.1 := by simpa using List.all_eq_true.mp hfirst r hr
  simp only [Bool.and_eq_true, decide_eq_true_eq]
  omega

/-- The characters of function names are the ASCII characters of words. -/
theorem isCallChar_iff : isCallChar c = true ↔ isTokenChar c = true ∧ c.toNat < 0x80 := by
  have hascii (hc : c.toNat < 0x80) : isTokenChar c = isCallChar c := by
    rw [isTokenChar, isWordChar, isAlphanumeric, isLetter, isNumber, if_pos hc, if_pos hc,
      inRanges_alphabeticMarkRanges hc, Bool.or_false, isCallChar, Bool.or_comm (c == '_')]
  constructor
  · intro h
    have hn : c.toNat < 0x80 := by
      simp only [isCallChar, isAsciiDigit, Bool.or_eq_true, Bool.and_eq_true, decide_eq_true_eq,
        beq_iff_eq] at h
      obtain ((h | ⟨-, h⟩) | rfl) | rfl := h
      · exact isAscii_of_isAsciiLetter h
      · have hn : c.toNat ≤ 0x39 := h
        omega
      · decide
      · decide
    exact ⟨(hascii hn).trans h, hn⟩
  · rintro ⟨h, hn⟩
    exact (hascii hn).symm.trans h

theorem isCallChar_of_isAsciiLetter (h : isAsciiLetter c = true) : isCallChar c = true := by
  rw [isCallChar, h]
  rfl

theorem isTokenChar_of_isBlank (h : isBlank c = true) : isTokenChar c = false := by
  have hall : ∀ n ∈ [0x20, 0x85, 0xA0, 0x1680, 0x2028, 0x2029, 0x202F, 0x205F, 0x3000] ++
      List.range' 0x09 5 ++ List.range' 0x2000 11, isTokenChar (Char.ofNat n) = false := by
    decide +kernel
  have hn : c.toNat ∈ [0x20, 0x85, 0xA0, 0x1680, 0x2028, 0x2029, 0x202F, 0x205F, 0x3000] ++
      List.range' 0x09 5 ++ List.range' 0x2000 11 := by
    simp only [isBlank, Bool.or_eq_true, Bool.and_eq_true, decide_eq_true_eq, beq_iff_eq] at h
    simp only [List.mem_append, List.mem_cons, List.mem_range'_1, List.not_mem_nil, or_false]
    omega
  have hc := hall c.toNat hn
  rwa [Char.ofNat_toNat] at hc

theorem not_blank_of_isTokenChar (h : isTokenChar c = true) : isBlank c = false := by
  cases hb : isBlank c with
  | false => rfl
  | true => exact absurd ((isTokenChar_of_isBlank hb).symm.trans h) (by decide)

theorem isTokenChar_of_isAsciiLetter (h : isAsciiLetter c = true) : isTokenChar c = true :=
  (isCallChar_iff.mp (isCallChar_of_isAsciiLetter h)).1

theorem isAsciiLetter_of_not_token (h : isTokenChar c = false) : isAsciiLetter c = false := by
  rw [Bool.eq_false_iff]
  intro hl
  exact absurd (h.symm.trans (isTokenChar_of_isAsciiLetter hl)) (by decide)

theorem forall_ne_of_all {p : Char → Bool} {marks : List Char} (hm : marks.all (!p ·) = true)
    (hc : p c = true) : ∀ d ∈ marks, c ≠ d := by
  rintro d hd rfl
  have hd := List.all_eq_true.mp hm c hd
  simp [hc] at hd

/-- The marks that the scanners look for are no part of a word. -/
theorem ne_of_isTokenChar (h : isTokenChar c = true) :
    c ≠ '[' ∧ c ≠ '\'' ∧ c ≠ '(' ∧ c ≠ ')' := by
  have hmarks : ['[', '\'', '(', ')'].all (!isTokenChar ·) = true := by decide +kernel
  simpa using forall_ne_of_all hmarks h

end Characters

inductive Lexeme where
  /-- A maximal run of word characters and points. -/
  | word (w : List Char)
  | bracketed (name : List Char)
  /-- A quoted name, with its quotes still doubled. -/
  | quoted (body : List Char)
  /-- Any other character, blanks and parentheses among them. -/
  | mark (c : Char)
  deriving DecidableEq, Repr

/-- The lexeme that begins with a character, and what follows it. -/
def Lexeme.read (c : Char) (cs : List Char) : Lexeme × List Char :=
  if isTokenChar c then (.word (c :: cs.takeWhile isTokenChar), cs.dropWhile isTokenChar)
  else if c = '[' then
    match splitAtFirst ']' cs with
    | some (name, rest) => (.bracketed name, rest)
    | none => (.bracketed cs, [])
  else if c = '\'' then
    match quotedBody cs with
    | some (body, rest) => (.quoted body, rest)
    | none => (.quoted cs, [])
  else (.mark c, cs)

inductive StartsWithLexeme : (s : List Char) → Lexeme → (rest : List Char) → Prop
  | word {w rest : List Char} : w ≠ [] → (∀ c ∈ w, isTokenChar c = true) →
      (∀ c ∈ rest.head?, isTokenChar c = false) → StartsWithLexeme (w ++ rest) (.word w) rest
  | bracketed {name : List Char} (rest : List Char) : ']' ∉ name →
      StartsWithLexeme ('[' :: (name ++ ']' :: rest)) (.bracketed name) rest
  | unclosedBracket {name : List Char} : ']' ∉ name →
      StartsWithLexeme ('[' :: name) (.bracketed name) []
  | quoted {s body rest : List Char} : StartsWithBody s body rest → rest.head? ≠ some '\'' →
      StartsWithLexeme ('\'' :: s) (.quoted body) rest
  | unclosedQuote {body : List Char} : quotedBody body = none →
      StartsWithLexeme ('\'' :: body) (.quoted body) []
  | mark {c : Char} (rest : List Char) : isTokenChar c = false → c ≠ '[' → c ≠ '\'' →
      StartsWithLexeme (c :: rest) (.mark c) rest

section Read

theorem startsWithLexeme_read (c : Char) (cs : List Char) :
    StartsWithLexeme (c :: cs) (Lexeme.read c cs).1 (Lexeme.read c cs).2 := by
  unfold Lexeme.read
  split_ifs with ht hb hq
  · have hw : ∀ d ∈ c :: cs.takeWhile isTokenChar, isTokenChar d = true :=
      List.forall_mem_cons.mpr ⟨ht, List.all_eq_true.mp List.all_takeWhile⟩
    have hs : c :: cs = c :: cs.takeWhile isTokenChar ++ cs.dropWhile isTokenChar := by
      rw [List.cons_append, List.takeWhile_append_dropWhile]
    rw [hs]
    exact .word (List.cons_ne_nil _ _) hw head?_dropWhile
  · subst hb
    split
    · next name rest hs =>
      obtain ⟨rfl, hn⟩ := splitAtFirst_eq_some hs
      exact .bracketed rest hn
    · next hs => exact .unclosedBracket (notMem_of_splitAtFirst_eq_none hs)
  · subst hq
    split
    · next body rest hs => exact .quoted (startsWithBody_of_quotedBody hs) (head?_of_quotedBody hs)
    · next hs => exact .unclosedQuote hs
  · exact .mark cs (by simpa using ht) hb hq

/-- A text begins with one lexeme only. -/
theorem StartsWithLexeme.read_eq {l : Lexeme} (h : StartsWithLexeme (c :: s) l rest) :
    Lexeme.read c s = (l, rest) := by
  generalize hs : c :: s = u at h
  cases h with
  | @word w rest hw ht hr =>
    obtain ⟨d, w, rfl⟩ := List.exists_cons_of_ne_nil hw
    rw [List.cons_append] at hs
    obtain ⟨rfl, rfl⟩ := List.cons.inj hs
    obtain ⟨hc, ht⟩ := List.forall_mem_cons.mp ht
    rw [Lexeme.read, if_pos hc, takeWhile_run ht hr, dropWhile_run ht hr]
  | @bracketed name rest hn =>
    obtain ⟨rfl, rfl⟩ := List.cons.inj hs
    rw [Lexeme.read, if_neg (by decide +kernel), if_pos rfl, splitAtFirst_append hn]
  | @unclosedBracket name hn =>
    obtain ⟨rfl, rfl⟩ := List.cons.inj hs
    rw [Lexeme.read, if_neg (by decide +kernel), if_pos rfl, splitAtFirst_eq_none hn]
  | @quoted s body rest hb hr =>
    obtain ⟨rfl, rfl⟩ := List.cons.inj hs
    rw [Lexeme.read, if_neg (by decide +kernel), if_neg (by decide), if_pos rfl, hb.quotedBody_eq hr]
  | @unclosedQuote body hb =>
    obtain ⟨rfl, rfl⟩ := List.cons.inj hs
    rw [Lexeme.read, if_neg (by decide +kernel), if_neg (by decide), if_pos rfl, hb]
  | @mark d rest ht hb hq =>
    obtain ⟨rfl, rfl⟩ := List.cons.inj hs
    rw [Lexeme.read, if_neg (by simp [ht]), if_neg hb, if_neg hq]

theorem StartsWithLexeme.length_lt {l : Lexeme} (h : StartsWithLexeme s l rest) :
    rest.length < s.length := by
  cases h with
  | word hw ht hr =>
    have := List.length_pos_of_ne_nil hw
    simp only [List.length_append]
    omega
  | bracketed rest hn =>
    simp only [List.length_cons, List.length_append]
    omega
  | unclosedBracket hn => simp
  | quoted hb hr =>
    rw [hb.eq_append]
    simp only [List.length_cons, List.length_append]
    omega
  | unclosedQuote hb => simp
  | mark rest ht hb hq => simp

end Read

def lexemes (code : List Char) : List Lexeme :=
  match code with
  | [] => []
  | c :: cs => (Lexeme.read c cs).1 :: lexemes (Lexeme.read c cs).2
termination_by code.length
decreasing_by exact (startsWithLexeme_read c cs).length_lt

inductive Lexes : List Char → List Lexeme → Prop
  | nil : Lexes [] []
  | cons {s rest : List Char} {l : Lexeme} {ls : List Lexeme} : StartsWithLexeme s l rest →
      Lexes rest ls → Lexes s (l :: ls)

theorem lexes_lexemes (code : List Char) : Lexes code (lexemes code) := by
  fun_induction lexemes code with
  | case1 => exact .nil
  | case2 c cs ih => exact .cons (startsWithLexeme_read c cs) ih

theorem Lexes.lexemes_eq {ls : List Lexeme} (h : Lexes s ls) : lexemes s = ls := by
  induction h with
  | nil => simp [lexemes]
  | @cons s rest l ls hl _ ih =>
    cases s with
    | nil => exact absurd hl.length_lt (Nat.not_lt_zero _)
    | cons c s => rw [lexemes, hl.read_eq, ih]

theorem Lexes.eq_nil {ls : List Lexeme} (h : Lexes [] ls) : ls = [] := by
  cases h with
  | nil => rfl
  | cons hl _ => exact absurd hl.length_lt (Nat.not_lt_zero _)

namespace Lexeme

/-- Whether a word could name a function. -/
def isFunctionName (w : List Char) : Bool := w.head?.any isAsciiLetter && w.all (·.toNat < 0x80)

/-- Whether an opening parenthesis comes next, or blanks and then one. -/
def opensNext : List Lexeme → Bool
  | .mark c :: ls => c == '(' || isBlank c && opensNext ls
  | _ => false

/-- The words that call functions, from left to right. -/
def calledWords : List Lexeme → List (List Char)
  | [] => []
  | .word w :: ls =>
    if isFunctionName w && opensNext ls then w :: calledWords ls else calledWords ls
  | _ :: ls => calledWords ls

def calls (ls : List Lexeme) : List String :=
  (calledWords ls).map fun w => String.ofList (w.map asciiUpper)

end Lexeme

end Tabular.Formula
