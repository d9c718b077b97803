import Tabular.Formula.Literal
import Tabular.Proofs.Formula.Piece
import Tabular.Proofs.Text.LetterCase
import Tabular.Proofs.Text.Search

/-!
# Constants among the pieces of a formula

Three searches find out whether a formula holds a constant: for the two quotes that are left of a literal,
for a digit that does not go on with a word, and for the name of a function with both its parentheses. The
first and the last also look into names, and the last knows no blanks and no beginning of a word. Read
lexeme by lexeme, what they find is known.
-/

namespace Tabular.Formula

open Text

variable {c : Char} {s t w rest body : List Char} {l : Lexeme} {ls : List Lexeme} {b : Char}

/-- In a word there is a digit before which no word character stands. -/
def HasFreeDigit (w : List Char) : Prop :=
  ∃ u d v, w = u ++ d :: v ∧ isAsciiDigit d = true ∧ u.getLast?.any isWordChar = false

/-- The functions that give a constant when they are called without arguments. -/
def constantFunctions : List String := ["TRUE", "FALSE", "BLANK"]

/-- In a name stands what is left of a literal, or a call that gives a constant. -/
def ShowsConstant (name : List Char) : Prop :=
  ['"', '"'] <:+: name ∨ ∃ k ∈ constantFunctions, k.toList ++ ['(', ')'] <:+: upper name

/-- What a name in brackets or in quotes contains, its quotes still doubled. -/
def Lexeme.name? : Lexeme → Option (List Char)
  | bracketed name => some name
  | quoted body => some body
  | word _ | mark _ => none

/-- A formula is taken to hold a constant: a literal, a digit that begins a number, a call without
arguments and without blanks of what ends with the name of a constant, or the like of it in a name. -/
inductive HoldsConstant (ps : List Piece) : Prop
  | literal {contents : List Char} : .literal contents ∈ ps → HoldsConstant ps
  | number {w : List Char} : .code (.word w) ∈ ps → HasFreeDigit w → HoldsConstant ps
  | call {k : String} {w : List Char} : k ∈ constantFunctions → k.toList <:+ upper w →
      [.code (.word w), .code (.mark '('), .code (.mark ')')] <:+: ps → HoldsConstant ps
  | name {l : Lexeme} {name : List Char} : .code l ∈ ps → l.name? = some name →
      ShowsConstant name → HoldsConstant ps

section Numbers

theorem isTokenChar_of_isAsciiDigit (h : isAsciiDigit c = true) : isTokenChar c = true :=
  (isCallChar_iff.mp (by simp [isCallChar, h])).1

theorem isTokenChar_of_isWordChar (h : isWordChar c = true) : isTokenChar c = true := by
  rw [isTokenChar, h, Bool.true_or]

theorem hasNumber_cons (hc : c ≠ '[' ∧ c ≠ ']' ∧ c ≠ '\'') (b : Char) (s : List Char) :
    hasNumber false false b (c :: s) =
      (isAsciiDigit c && !isWordChar b || hasNumber false false c s) := by
  rw [hasNumber, if_neg (by simp [hc.1]), if_neg (by simp [hc.2.1]), if_neg (by simp [hc.2.2])]
  cases isAsciiDigit c <;> cases isWordChar b <;> rfl

theorem hasNumber_word (hw : ∀ d ∈ w, isTokenChar d = true) (b : Char) (t : List Char) :
    hasNumber false false b (w ++ t) = true ↔
      (∃ u d v, w = u ++ d :: v ∧ isAsciiDigit d = true ∧ isWordChar (u.getLastD b) = false) ∨
        hasNumber false false (w.getLastD b) t = true := by
  induction w generalizing b with
  | nil => simp
  | cons c w ih =>
    obtain ⟨hc, hw⟩ := List.forall_mem_cons.mp hw
    have hmarks : ['[', ']', '\''].all (!isTokenChar ·) = true := by decide +kernel
    have hne : c ≠ '[' ∧ c ≠ ']' ∧ c ≠ '\'' := by simpa using forall_ne_of_all hmarks hc
    rw [List.cons_append, hasNumber_cons hne, Bool.or_eq_true, ih hw, ← or_assoc, List.getLastD_cons]
    refine or_congr ?_ Iff.rfl
    constructor
    · rintro (h | ⟨u, d, v, rfl, hd, hu⟩)
      · rw [Bool.and_eq_true, Bool.not_eq_true'] at h
        exact ⟨[], c, w, rfl, h⟩
      · exact ⟨c :: u, d, v, rfl, hd, by rwa [List.getLastD_cons]⟩
    · rintro ⟨u, d, v, he, hd, hu⟩
      cases u with
      | nil =>
        obtain ⟨rfl, rfl⟩ := List.cons.inj he
        rw [List.getLastD_nil] at hu
        exact .inl (by simp [hd, hu])
      | cons x u =>
        obtain ⟨rfl, rfl⟩ := List.cons.inj he
        exact .inr ⟨u, d, v, rfl, hd, by rwa [List.getLastD_cons] at hu⟩

theorem hasNumber_inBracket (hn : ']' ∉ s) (b : Char) (t : List Char) :
    ∃ b', hasNumber true false b (s ++ t) = hasNumber true false b' t := by
  induction s generalizing b with
  | nil => exact ⟨b, rfl⟩
  | cons c s ih =>
    rw [List.mem_cons, not_or] at hn
    have hstep : hasNumber true false b (c :: (s ++ t)) = hasNumber true false c (s ++ t) := by
      rw [hasNumber]
      split_ifs <;> simp_all
    rw [List.cons_append, hstep]
    exact ih hn.2 c

theorem hasNumber_quote (q : Bool) (b : Char) (s : List Char) :
    hasNumber false q b ('\'' :: s) = hasNumber false (!q) '\'' s := by
  simp [hasNumber]

theorem hasNumber_inQuote (hc : c ≠ '\'') (b : Char) (s : List Char) :
    hasNumber false true b (c :: s) = hasNumber false true c s := by
  rw [hasNumber, if_neg (by simp), if_neg (by simp), if_neg (by simp [hc])]
  rfl

/-- No digit of a quoted name counts. -/
theorem hasNumber_quoted (h : StartsWithBody s body rest) (b : Char) :
    hasNumber false true b s = hasNumber false false '\'' rest := by
  induction h generalizing b with
  | closed rest => exact hasNumber_quote true b rest
  | pair _ ih => rw [hasNumber_quote, Bool.not_true, hasNumber_quote, Bool.not_false, ih]
  | char hc _ ih => rw [hasNumber_inQuote hc, ih]

theorem hasNumber_unclosedQuote (h : quotedBody s = none) (b : Char) :
    hasNumber false true b s = false := by
  fun_induction quotedBody s generalizing b with
  | case1 => rfl
  | case2 r ih =>
    rw [hasNumber_quote, Bool.not_true, hasNumber_quote, Bool.not_false]
    exact ih (Option.map_eq_none_iff.mp h) _
  | case3 r => simp at h
  | case4 c r _ hq ih =>
    rw [hasNumber_inQuote hq]
    exact ih (Option.map_eq_none_iff.mp h) _

/-- Behind what ends no word, a number is found if some word has a free digit. -/
theorem Lexes.hasNumber_iff (h : Lexes s ls)
    (hb : isWordChar b = true → ∀ d ∈ s.head?, isTokenChar d = false) :
    hasNumber false false b s = true ↔ ∃ w, .word w ∈ ls ∧ HasFreeDigit w := by
  have hskip {l : Lexeme} {ls : List Lexeme} (hl : ∀ w, .word w ≠ l) :
      (∃ w, .word w ∈ l :: ls ∧ HasFreeDigit w) ↔ ∃ w, .word w ∈ ls ∧ HasFreeDigit w := by
    simp [hl]
  induction h generalizing b with
  | nil => simp [hasNumber]
  | @cons s rest l ls hl hls ih =>
    cases hl with
    | @word w _ hw ht hr =>
      have hbefore : isWordChar b = false := by
        obtain ⟨c, w, rfl⟩ := List.exists_cons_of_ne_nil hw
        rw [Bool.eq_false_iff]
        intro h
        have hc := hb h c rfl
        simp [(List.forall_mem_cons.mp ht).1] at hc
      have hlast (u : List Char) : isWordChar (u.getLastD b) = u.getLast?.any isWordChar := by
        rw [List.getLastD_eq_getLast?]
        cases u.getLast? <;> simp [hbefore]
      have hrest : hasNumber false false (w.getLastD b) rest = true ↔
          ∃ w, .word w ∈ ls ∧ HasFreeDigit w := ih fun _ => hr
      rw [hasNumber_word ht, hrest]
      simp only [hlast, List.mem_cons, Lexeme.word.injEq, or_and_right, exists_or, exists_eq_left]
      rfl
    | @bracketed name _ hn =>
      obtain ⟨b', hb'⟩ := hasNumber_inBracket hn '[' (']' :: rest)
      have hopen : hasNumber false false b ('[' :: (name ++ ']' :: rest)) =
          hasNumber true false '[' (name ++ ']' :: rest) := by simp [hasNumber]
      have hclose : hasNumber true false b' (']' :: rest) = hasNumber false false ']' rest := by
        simp [hasNumber]
      rw [hopen, hb', hclose, hskip (by simp)]
      exact ih fun h => absurd h (by decide +kernel)
    | @unclosedBracket name hn =>
      obtain ⟨b', hb'⟩ := hasNumber_inBracket hn '[' []
      have hopen : hasNumber false false b ('[' :: name) = hasNumber true false '[' (name ++ []) := by
        simp [hasNumber]
      rw [hopen, hb', hskip (by simp), hls.eq_nil]
      simp [hasNumber]
    | quoted hs hr =>
      rw [hasNumber_quote, Bool.not_false, hasNumber_quoted hs, hskip (by simp)]
      exact ih fun h => absurd h (by decide +kernel)
    | unclosedQuote hs =>
      rw [hasNumber_quote, Bool.not_false, hasNumber_unclosedQuote hs, hskip (by simp), hls.eq_nil]
      simp
    | @mark c _ ht hopen hq =>
      have hdigit : isAsciiDigit c = false := by
        rw [Bool.eq_false_iff]
        exact fun h => absurd (ht.symm.trans (isTokenChar_of_isAsciiDigit h)) (by decide)
      have hpass : hasNumber false false b (c :: rest) = hasNumber false false c rest := by
        by_cases hc : c = ']'
        · simp [hasNumber, hc]
        · rw [hasNumber_cons ⟨hopen, hc, hq⟩, hdigit, Bool.false_and, Bool.false_or]
      rw [hpass, hskip (by simp)]
      exact ih fun h => absurd (ht.symm.trans (isTokenChar_of_isWordChar h)) (by decide)

end Numbers

section Marks

def IsMark (c : Char) : Prop := isTokenChar c = false ∧ c ≠ '[' ∧ c ≠ '\''

theorem Lexes.prefix_marks {marks : List Char} (h : Lexes s ls) (hm : ∀ x ∈ marks, IsMark x) :
    marks <+: s ↔ marks.map .mark <+: ls := by
  induction marks generalizing s ls with
  | nil => simp
  | cons x marks ih =>
    obtain ⟨⟨hx, hb, hq⟩, hm⟩ := List.forall_mem_cons.mp hm
    cases h with
    | nil => simp
    | cons hl hls =>
      cases hl with
      | @word w _ hw ht hr =>
        obtain ⟨c, w, rfl⟩ := List.exists_cons_of_ne_nil hw
        have hc : x ≠ c := by
          rintro rfl
          exact absurd (hx.symm.trans (List.forall_mem_cons.mp ht).1) (by decide)
        simp [hc]
      | bracketed | unclosedBracket => simp [hb]
      | quoted | unclosedQuote => simp [hq]
      | mark => simp [List.cons_prefix_cons, ih hls hm]

end Marks

section Names

theorem StartsWithLexeme.infix_name {p name : List Char} (h : StartsWithLexeme s l rest)
    (hl : l.name? = some name) (hp : '[' ∉ p ∧ ']' ∉ p ∧ '\'' ∉ p) (hn : p ≠ [])
    {f : Char → List Char} (hf : f '[' = ['['] ∧ f ']' = [']'] ∧ f '\'' = ['\'']) :
    p <:+: s.flatMap f ↔ p <:+: name.flatMap f ∨ p <:+: rest.flatMap f := by
  obtain ⟨hopen, hclose, hquote⟩ := hf
  have hskip {d : Char} (hd : d ∉ p) (u : List Char) : p <:+: d :: u ↔ p <:+: u := by
    have h := infix_append_cons_iff (u := []) (v := u) hd
    rwa [List.infix_nil, or_iff_right hn] at h
  cases h with
  | word | mark => simp [Lexeme.name?] at hl
  | bracketed rest _ =>
    obtain rfl := Option.some.inj hl
    rw [List.flatMap_cons, hopen, List.flatMap_append, List.flatMap_cons, hclose]
    exact (hskip hp.1 _).trans (infix_append_cons_iff hp.2.1)
  | unclosedBracket _ =>
    obtain rfl := Option.some.inj hl
    rw [List.flatMap_cons, hopen, List.flatMap_nil, List.infix_nil, or_iff_left hn]
    exact hskip hp.1 _
  | quoted hb _ =>
    obtain rfl := Option.some.inj hl
    rw [hb.eq_append, List.flatMap_cons, hquote, List.flatMap_append, List.flatMap_cons, hquote]
    exact (hskip hp.2.2 _).trans (infix_append_cons_iff hp.2.2)
  | unclosedQuote _ =>
    obtain rfl := Option.some.inj hl
    rw [List.flatMap_cons, hquote, List.flatMap_nil, List.infix_nil, or_iff_left hn]
    exact hskip hp.2.2 _

theorem exists_name_cons {P : List Char → Prop} :
    (∃ l' ∈ l :: ls, ∃ name, l'.name? = some name ∧ P name) ↔
      (∃ name, l.name? = some name ∧ P name) ∨ ∃ l' ∈ ls, ∃ name, l'.name? = some name ∧ P name := by
  simp only [List.mem_cons, or_and_right, exists_or, exists_eq_left]

end Names

section Quotes

theorem isMark_quote : IsMark '"' := ⟨by decide +kernel, by decide, by decide⟩

/-- Two double quotes are found where they are marks or in a name. -/
theorem Lexes.infix_quotes (h : Lexes s ls) :
    ['"', '"'] <:+: s ↔ [.mark '"', .mark '"'] <:+: ls ∨
      ∃ l ∈ ls, ∃ name, l.name? = some name ∧ ['"', '"'] <:+: name := by
  induction h with
  | nil => simp
  | @cons s rest l ls hl hls ih =>
    have hprefix : ['"', '"'] <+: s ↔ [.mark '"', .mark '"'] <+: l :: ls :=
      (Lexes.cons hl hls).prefix_marks (by simp [isMark_quote])
    have hskip (hne : l ≠ .mark '"') :
        [.mark '"', .mark '"'] <:+: l :: ls ↔ [.mark '"', .mark '"'] <:+: ls :=
      cons_infix_append_iff (u := [l]) (by simpa using hne.symm)
    rw [exists_name_cons]
    cases hn : l.name? with
    | some name =>
      have hne : l ≠ .mark '"' := by
        rintro rfl
        simp [Lexeme.name?] at hn
      have hname := hl.infix_name hn (p := ['"', '"']) (by decide) (by decide) (f := fun c => [c])
        (by simp)
      simp only [List.flatMap_singleton'] at hname
      rw [hname, ih, hskip hne]
      simp [or_left_comm]
    | none =>
      cases hl with
      | bracketed | unclosedBracket | quoted | unclosedQuote => simp [Lexeme.name?] at hn
      | @word w _ hw ht hr =>
        have hquote : '"' ∉ w := fun h => absurd (ht _ h) (by decide +kernel)
        rw [cons_infix_append_iff hquote, ih, hskip (by simp)]
        simp
      | mark =>
        rw [List.infix_cons_iff, hprefix, ih, List.infix_cons_iff]
        simp [or_assoc]

end Quotes

section Calls

variable {a : Char} {k : List Char}

/-- A letter in an upper-case form comes from a word. -/
theorem isTokenChar_of_mem_upperChar (h : a ∈ upperChar c) (ha : isAsciiLetter a = true) :
    isTokenChar c = true := by
  rcases Nat.lt_or_ge c.toNat 0x80 with hc | hc
  · rw [upperChar_ascii hc, List.mem_singleton] at h
    rw [h, isAsciiLetter_asciiUpper] at ha
    exact isTokenChar_of_isAsciiLetter ha
  · have h₀ : a.toNat ≠ 0 := by
      intro h₀
      rw [← Char.ofNat_toNat a, h₀] at ha
      exact absurd ha (by decide)
    have hl := (isLetter_of_mem_upperChar hc h (isAscii_of_isAsciiLetter ha) h₀).1
    rw [isTokenChar, isWordChar, isAlphanumeric_of_isLetter hl, Bool.or_true, Bool.true_or]

theorem notMem_head?_upper (hs : ∀ d ∈ s.head?, isTokenChar d = false)
    (hk : ∀ a ∈ k, isAsciiLetter a = true) : ∀ y ∈ (upper s).head?, y ∉ k := by
  cases s with
  | nil => simp [upper]
  | cons c s =>
    obtain ⟨x, image, hx⟩ := List.exists_cons_of_ne_nil (upperChar_ne_nil c)
    have hupper : upper (c :: s) = x :: (image ++ upper s) := congrArg (· ++ upper s) hx
    rw [hupper]
    intro y hy hmem
    obtain rfl : x = y := Option.some.inj hy
    have hc := isTokenChar_of_mem_upperChar (c := c) (by simp [hx]) (hk x hmem)
    exact absurd ((hs c rfl).symm.trans hc) (by decide)

theorem isMark_paren : ∀ x ∈ ['(', ')'], IsMark x := by
  have hmarks : ['(', ')'].all (!isTokenChar ·) = true := by decide +kernel
  intro x hx
  refine ⟨by simpa using List.all_eq_true.mp hmarks x hx, ?_, ?_⟩
  · rintro rfl
    exact absurd hx (by decide)
  · rintro rfl
    exact absurd hx (by decide)

/-- The name of a function with its parentheses is found in upper case where a word ends with the name and
the parentheses come next, or in a name. -/
theorem Lexes.infix_call (h : Lexes s ls) (hn : k ≠ []) (hk : ∀ a ∈ k, isAsciiLetter a = true) :
    k ++ ['(', ')'] <:+: upper s ↔
      (∃ w, [.word w, .mark '(', .mark ')'] <:+: ls ∧ k <:+ upper w) ∨
        ∃ l ∈ ls, ∃ name, l.name? = some name ∧ k ++ ['(', ')'] <:+: upper name := by
  induction h with
  | nil => simp [upper, hn]
  | @cons s rest l ls hl hls ih =>
    have hskip (hne : ∀ w, .word w ≠ l) :
        (∃ w, [.word w, .mark '(', .mark ')'] <:+: l :: ls ∧ k <:+ upper w) ↔
          ∃ w, [.word w, .mark '(', .mark ')'] <:+: ls ∧ k <:+ upper w :=
      exists_congr fun w => and_congr_left fun _ =>
        cons_infix_append_iff (u := [l]) (by simpa using hne w)
    rw [exists_name_cons]
    cases hname : l.name? with
    | some name =>
      have hne : ∀ w, .word w ≠ l := by
        rintro w rfl
        simp [Lexeme.name?] at hname
      have hdelimiters : '[' ∉ k ++ ['(', ')'] ∧ ']' ∉ k ++ ['(', ')'] ∧ '\'' ∉ k ++ ['(', ')'] := by
        simp only [List.mem_append, not_or]
        exact ⟨⟨fun h => absurd (hk _ h) (by decide), by decide⟩,
          ⟨fun h => absurd (hk _ h) (by decide), by decide⟩,
          ⟨fun h => absurd (hk _ h) (by decide), by decide⟩⟩
      have hfound := hl.infix_name hname hdelimiters (by simp) (f := upperChar) (by decide)
      rw [upper, hfound, ← upper, ← upper, ih, hskip hne]
      simp [or_left_comm]
    | none =>
      cases hl with
      | bracketed | unclosedBracket | quoted | unclosedQuote => simp [Lexeme.name?] at hname
      | @word w _ hw ht hr =>
        have hparen : '(' ∉ upper w := by
          rw [mark_mem_upper_iff (by decide)]
          exact fun h => absurd (ht _ h) (by decide +kernel)
        have hcall : (∃ w', [.word w', .mark '(', .mark ')'] <:+: .word w :: ls ∧ k <:+ upper w') ↔
            (k <:+ upper w ∧ [.mark '(', .mark ')'] <+: ls) ∨
              ∃ w', [.word w', .mark '(', .mark ')'] <:+: ls ∧ k <:+ upper w' := by
          simp only [List.infix_cons_iff, List.cons_prefix_cons, Lexeme.word.injEq, or_and_right,
            exists_or, and_assoc, exists_eq_left]
          exact or_congr and_comm Iff.rfl
        -- Across the end of the word only the parentheses can lie behind it: what follows is no letter.
        rw [upper_append, append_cons_infix_append_iff hparen (notMem_head?_upper hr hk),
          prefix_upper_iff (by decide), hls.prefix_marks isMark_paren, ih, hcall]
        simp [or_assoc]
      | @mark c _ ht hb hq =>
        obtain ⟨a, k, rfl⟩ := List.exists_cons_of_ne_nil hn
        have hc : a ∉ upperChar c := fun h => by
          have hc := isTokenChar_of_mem_upperChar h (hk a List.mem_cons_self)
          exact absurd (ht.symm.trans hc) (by decide)
        have hs : upper (c :: rest) = upperChar c ++ upper rest := rfl
        rw [hs, List.cons_append, cons_infix_append_iff hc, ← List.cons_append, ih, hskip (by simp)]
        simp

end Calls

section Formula

variable {ps : List Piece}

theorem FallsInto.infix_quotes (h : FallsInto s ps) :
    [.mark '"', .mark '"'] <:+: ps.flatMap Piece.left ↔ ∃ contents, .literal contents ∈ ps := by
  constructor
  · intro hq
    have hmem : .mark '"' ∈ ps.flatMap Piece.left := hq.subset List.mem_cons_self
    obtain ⟨p, hp, hl⟩ := List.mem_flatMap.mp hmem
    cases p with
    | literal contents => exact ⟨contents, hp⟩
    | code l => exact absurd (List.mem_singleton.mp hl ▸ hp) h.notMem_quote
    | comment contents => exact absurd hl (by simp [Piece.left])
  · rintro ⟨contents, hp⟩
    obtain ⟨before, after, rfl⟩ := List.append_of_mem hp
    exact ⟨before.flatMap Piece.left, after.flatMap Piece.left, by simp [Piece.left]⟩

theorem hasConstantCall_iff {code : List Char} :
    hasConstantCall code = true ↔
      ∃ k ∈ constantFunctions, k.toList ++ ['(', ')'] <:+: upper code := by
  have hcalls : "TRUE()".toList = "TRUE".toList ++ ['(', ')'] ∧
      "FALSE()".toList = "FALSE".toList ++ ['(', ')'] ∧
      "BLANK()".toList = "BLANK".toList ++ ['(', ')'] := by decide
  simp only [hasConstantCall, constantFunctions, Bool.or_eq_true, occursIn_iff, List.mem_cons,
    List.not_mem_nil, or_false, exists_eq_or_imp, exists_eq_left, hcalls, or_assoc]

/-- Whether a formula is found to hold a constant, by its pieces. -/
theorem hasLiteral_iff (formula : List Char) :
    hasLiteral formula = true ↔ HoldsConstant (pieces formula) := by
  have hfalls := fallsInto_pieces formula
  have hlexes := hfalls.lexes_strip
  have hletters : ∀ k ∈ constantFunctions, k.toList ≠ [] ∧ k.toList.all isAsciiLetter = true := by
    decide
  have hword (w : List Char) :
      .word w ∈ (pieces formula).flatMap Piece.left ↔ .code (.word w) ∈ pieces formula :=
    Piece.mem_flatMap_left (by simp) (by simp)
  have hname {P : List Char → Prop} :
      (∃ l ∈ (pieces formula).flatMap Piece.left, ∃ name, l.name? = some name ∧ P name) ↔
        ∃ l, .code l ∈ pieces formula ∧ ∃ name, l.name? = some name ∧ P name := by
    refine exists_congr fun l => and_congr_left fun ⟨name, hn, _⟩ => ?_
    refine Piece.mem_flatMap_left ?_ ?_ <;> rintro rfl <;> simp [Lexeme.name?] at hn
  have hcall (w : List Char) : [.word w, .mark '(', .mark ')'] <:+: (pieces formula).flatMap Piece.left ↔
      [.code (.word w), .code (.mark '('), .code (.mark ')')] <:+: pieces formula :=
    Piece.infix_flatMap_left (by simp)
  have hconstant (k : String) (hk : k ∈ constantFunctions) :
      k.toList ++ ['(', ')'] <:+: upper (strip formula) ↔ _ :=
    hlexes.infix_call (hletters k hk).1 (List.all_eq_true.mp (hletters k hk).2)
  rw [hasLiteral, codeHasLiteral, Bool.or_eq_true, Bool.or_eq_true, occursIn_iff, hlexes.infix_quotes,
    hfalls.infix_quotes, hname, hlexes.hasNumber_iff fun h => absurd h (by decide +kernel),
    hasConstantCall_iff]
  constructor
  · rintro (((⟨contents, h⟩ | ⟨l, hl, name, hn, h⟩) | ⟨w, hw, h⟩) | ⟨k, hk, h⟩)
    · exact .literal h
    · exact .name hl hn (.inl h)
    · exact .number ((hword w).mp hw) h
    · rw [hconstant k hk, hname] at h
      obtain ⟨w, hw, h⟩ | ⟨l, hl, name, hn, h⟩ := h
      · exact .call hk h ((hcall w).mp hw)
      · exact .name hl hn (.inr ⟨k, hk, h⟩)
  · intro h
    cases h with
    | literal h => exact .inl (.inl (.inl ⟨_, h⟩))
    | number hw h => exact .inl (.inr ⟨_, (hword _).mpr hw, h⟩)
    | call hk h hw =>
      exact .inr ⟨_, hk, (hconstant _ hk).mpr (.inl ⟨_, (hcall _).mpr hw, h⟩)⟩
    | name hl hn h =>
      obtain h | ⟨k, hk, h⟩ := h
      · exact .inl (.inl (.inr ⟨_, hl, _, hn, h⟩))
      · exact .inr ⟨k, hk, (hconstant k hk).mpr (.inr (hname.mpr ⟨_, hl, _, hn, h⟩))⟩

end Formula

end Tabular.Formula
