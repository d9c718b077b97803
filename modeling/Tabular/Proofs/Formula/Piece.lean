import Tabular.Proofs.Formula.Enclosed
import Tabular.Proofs.Formula.Lexeme

/-!
# Pieces of a formula

A formula as it is written falls into string literals, comments and, outside of these, lexemes. A literal
or a block comment that is not closed reaches to the end. A literal leaves two quotes when the formula
is stripped and a comment leaves a blank, so the lexemes of the stripped formula are known.
-/

namespace Tabular.Formula

open Text

variable {c : Char} {s rest : List Char}

inductive Piece where
  | code (l : Lexeme)
  /-- What a string literal contains, with its quotes still doubled. -/
  | literal (contents : List Char)
  | comment (contents : List Char)
  deriving DecidableEq, Repr

/-- Reads a string literal whose opening quote has been taken. -/
def readLiteral : List Char → List Char × List Char
  | [] => ([], [])
  | '"' :: '"' :: cs => ('"' :: '"' :: (readLiteral cs).1, (readLiteral cs).2)
  | c :: cs => if c = '"' then ([], cs) else (c :: (readLiteral cs).1, (readLiteral cs).2)

/-- Reads a block comment whose opening has been taken. -/
def readBlock : List Char → List Char × List Char
  | [] => ([], [])
  | '*' :: '/' :: cs => ([], cs)
  | c :: cs => (c :: (readBlock cs).1, (readBlock cs).2)

/-- The piece that begins with a character, and what follows it. -/
def Piece.read : Char → List Char → Piece × List Char
  | '"', cs => (.literal (readLiteral cs).1, (readLiteral cs).2)
  | '/', '/' :: cs => (.comment (cs.takeWhile (· != '\n')), cs.dropWhile (· != '\n'))
  | '-', '-' :: cs => (.comment (cs.takeWhile (· != '\n')), cs.dropWhile (· != '\n'))
  | '/', '*' :: cs => (.comment (readBlock cs).1, (readBlock cs).2)
  | c, cs => (.code (Lexeme.read c cs).1, (Lexeme.read c cs).2)

def Delimiter.isComment : Delimiter → Bool
  | slashes | dashes | block => true
  | bracket | literal => false

theorem Delimiter.mark_of_isComment {d : Delimiter} (h : d.isComment = true) :
    d ≠ bracket ∧ d.mark = [' '] := by
  cases d with
  | slashes | dashes | block => exact ⟨by decide, rfl⟩
  | bracket | literal => exact absurd h (by decide)

inductive StartsWithPiece : (s : List Char) → Piece → (rest : List Char) → Prop
  | literal {contents rest : List Char} : Delimiter.literal.Encloses contents rest →
      StartsWithPiece (Delimiter.literal.enclose contents ++ rest) (.literal contents) rest
  | unclosedLiteral {contents : List Char} : QuotesDoubled contents →
      StartsWithPiece ('"' :: contents) (.literal contents) []
  | comment {d : Delimiter} {contents rest : List Char} : d.isComment = true →
      d.Encloses contents rest → StartsWithPiece (d.enclose contents ++ rest) (.comment contents) rest
  | unclosedComment {contents : List Char} : ¬ ['*', '/'] <:+: contents →
      StartsWithPiece ('/' :: '*' :: contents) (.comment contents) []
  | code {s rest : List Char} {l : Lexeme} : (∀ d : Delimiter, d.opening <+: s → d = .bracket) →
      StartsWithLexeme s l rest → StartsWithPiece s (.code l) rest

/-- What it takes that no literal and no comment opens at a character. -/
theorem forall_opening_iff :
    (∀ d : Delimiter, d.opening <+: c :: s → d = .bracket) ↔
      c ≠ '"' ∧ (c = '/' → ∀ u, s ≠ '/' :: u) ∧ (c = '-' → ∀ u, s ≠ '-' :: u) ∧
        (c = '/' → ∀ u, s ≠ '*' :: u) := by
  constructor
  · intro h
    have hopen (d : Delimiter) (u : List Char) (hd : d ≠ .bracket) : c :: s ≠ d.opening ++ u :=
      fun he => hd (h d (he ▸ List.prefix_append d.opening u))
    refine ⟨fun hc => ?_, fun hc u hs => ?_, fun hc u hs => ?_, fun hc u hs => ?_⟩
    · exact hopen .literal s (by decide) (by rw [hc]; rfl)
    · exact hopen .slashes u (by decide) (by rw [hc, hs]; rfl)
    · exact hopen .dashes u (by decide) (by rw [hc, hs]; rfl)
    · exact hopen .block u (by decide) (by rw [hc, hs]; rfl)
  · rintro ⟨hquote, hslashes, hdashes, hblock⟩ d ⟨u, hu⟩
    cases d with
    | bracket => rfl
    | literal => exact absurd (List.cons.inj hu).1.symm hquote
    | slashes => exact absurd (List.cons.inj hu).2.symm (hslashes (List.cons.inj hu).1.symm u)
    | dashes => exact absurd (List.cons.inj hu).2.symm (hdashes (List.cons.inj hu).1.symm u)
    | block => exact absurd (List.cons.inj hu).2.symm (hblock (List.cons.inj hu).1.symm u)

section Read

theorem quotesDoubled_readLiteral (s : List Char) : QuotesDoubled (readLiteral s).1 := by
  fun_induction readLiteral s with
  | case1 => exact .nil
  | case2 cs ih => exact .pair ih
  | case3 cs hn => exact .nil
  | case4 c cs hn hc ih => exact .char hc ih

theorem readLiteral_eq (s : List Char) :
    s = (readLiteral s).1 ++ '"' :: (readLiteral s).2 ∧ (readLiteral s).2.head? ≠ some '"' ∨
      s = (readLiteral s).1 ∧ (readLiteral s).2 = [] := by
  fun_induction readLiteral s with
  | case1 => exact .inr ⟨rfl, rfl⟩
  | case2 cs ih =>
    exact ih.imp (And.imp_left fun h => by rw [List.cons_append, List.cons_append, ← h])
      (And.imp_left fun h => by rw [← h])
  | case3 cs hn =>
    refine .inl ⟨rfl, fun h => ?_⟩
    obtain ⟨t, rfl⟩ := List.head?_eq_some_iff.mp h
    exact hn t rfl rfl
  | case4 c cs hn hc ih =>
    exact ih.imp (And.imp_left fun h => by rw [List.cons_append, ← h])
      (And.imp_left fun h => by rw [← h])

theorem readBlock_eq (s : List Char) :
    s = (readBlock s).1 ++ '*' :: '/' :: (readBlock s).2 ∨
      s = (readBlock s).1 ∧ (readBlock s).2 = [] := by
  fun_induction readBlock s with
  | case1 => exact .inr ⟨rfl, rfl⟩
  | case2 cs => exact .inl rfl
  | case3 c cs hn ih =>
    exact ih.imp (fun h => by rw [List.cons_append, ← h]) (And.imp_left fun h => by rw [← h])

/-- A block comment is read up to the first mark that closes it. -/
theorem notInfix_readBlock (s : List Char) : ¬ ['*', '/'] <:+: (readBlock s).1 := by
  fun_induction readBlock s with
  | case1 => simp
  | case2 cs => simp
  | case3 c cs hn ih =>
    rw [List.infix_cons_iff, not_or]
    refine ⟨fun hp => ?_, ih⟩
    obtain ⟨t, ht⟩ := hp
    obtain ⟨rfl, hslash : '/' :: t = (readBlock cs).1⟩ := List.cons.inj ht
    obtain h | ⟨h, -⟩ := readBlock_eq cs
    · exact hn _ rfl (by rw [h, ← hslash]; rfl)
    · exact hn t rfl (by rw [h, ← hslash])

theorem encloses_line (s : List Char) :
    '\n' ∉ s.takeWhile (· != '\n') ∧
      (s.dropWhile (· != '\n') = [] ∨ (s.dropWhile (· != '\n')).head? = some '\n') := by
  refine ⟨fun h => ?_, ?_⟩
  · have hp := List.all_eq_true.mp List.all_takeWhile _ h
    simp at hp
  · cases hd : s.dropWhile (· != '\n') with
    | nil => exact .inl rfl
    | cons c t =>
      have hc := head?_dropWhile (s := s) (p := (· != '\n')) c (by rw [hd]; rfl)
      simpa using hc

theorem startsWithPiece_read (c : Char) (cs : List Char) :
    StartsWithPiece (c :: cs) (Piece.read c cs).1 (Piece.read c cs).2 := by
  have hline : ∀ d : Delimiter, d = .slashes ∨ d = .dashes → ∀ cs,
      StartsWithPiece (d.opening ++ cs) (.comment (cs.takeWhile (· != '\n')))
        (cs.dropWhile (· != '\n')) := by
    intro d hd cs
    have hs : d.opening ++ cs = d.enclose (cs.takeWhile (· != '\n')) ++ cs.dropWhile (· != '\n') := by
      obtain rfl | rfl := hd <;>
        simp [Delimiter.enclose, Delimiter.closing, List.takeWhile_append_dropWhile]
    rw [hs]
    obtain rfl | rfl := hd
    · exact .comment rfl (encloses_line cs)
    · exact .comment rfl (encloses_line cs)
  fun_cases Piece.read c cs with
  | case1 cs =>
    obtain ⟨h, hh⟩ | ⟨h, hr⟩ := readLiteral_eq cs
    · have hs : '"' :: cs = Delimiter.literal.enclose (readLiteral cs).1 ++ (readLiteral cs).2 := by
        rw [Delimiter.enclose, List.append_assoc]
        exact congrArg ('"' :: ·) h
      rw [hs]
      exact .literal ⟨quotesDoubled_readLiteral cs, hh⟩
    · rw [← h, hr]
      exact .unclosedLiteral (h ▸ quotesDoubled_readLiteral cs)
  | case2 cs => exact hline .slashes (.inl rfl) cs
  | case3 cs => exact hline .dashes (.inr rfl) cs
  | case4 cs =>
    have hn := notInfix_readBlock cs
    obtain h | ⟨h, hr⟩ := readBlock_eq cs
    · have hs : '/' :: '*' :: cs = Delimiter.block.enclose (readBlock cs).1 ++ (readBlock cs).2 := by
        rw [Delimiter.enclose, List.append_assoc]
        exact congrArg ('/' :: '*' :: ·) h
      rw [hs]
      exact .comment rfl hn
    · rw [← h, hr]
      exact .unclosedComment (h ▸ hn)
  | case5 c cs h₁ h₂ h₃ h₄ =>
    exact .code (forall_opening_iff.mpr ⟨h₁, fun hc t => h₂ t hc, fun hc t => h₃ t hc, fun hc t => h₄ t hc⟩)
      (startsWithLexeme_read c cs)

theorem readLiteral_closed {contents : List Char} (h : QuotesDoubled contents)
    (hr : rest.head? ≠ some '"') : readLiteral (contents ++ '"' :: rest) = (contents, rest) := by
  induction h with
  | nil =>
    rw [List.nil_append, readLiteral]
    · rfl
    · rintro u - rfl
      exact hr rfl
  | pair _ ih => simp [readLiteral, ih]
  | char hc _ ih =>
    rw [List.cons_append, readLiteral, if_neg hc, ih]
    exact fun u h => absurd h hc

theorem readLiteral_unclosed {contents : List Char} (h : QuotesDoubled contents) :
    readLiteral contents = (contents, []) := by
  induction h with
  | nil => rfl
  | pair _ ih => simp [readLiteral, ih]
  | char hc _ ih =>
    rw [readLiteral, if_neg hc, ih]
    exact fun u h => absurd h hc

theorem readBlock_closed {contents : List Char} (h : ¬ ['*', '/'] <:+: contents) (rest : List Char) :
    readBlock (contents ++ '*' :: '/' :: rest) = (contents, rest) := by
  induction contents with
  | nil => rfl
  | cons c cs ih =>
    rw [List.infix_cons_iff, not_or] at h
    rw [List.cons_append, readBlock, ih h.2]
    rintro u rfl hu
    cases cs with
    | nil => simp at hu
    | cons d cs =>
      rw [List.cons_append, List.cons.injEq] at hu
      exact h.1 (hu.1 ▸ List.prefix_append ['*', '/'] cs)

theorem readBlock_unclosed {contents : List Char} (h : ¬ ['*', '/'] <:+: contents) :
    readBlock contents = (contents, []) := by
  induction contents with
  | nil => rfl
  | cons c cs ih =>
    rw [List.infix_cons_iff, not_or] at h
    rw [readBlock, ih h.2]
    rintro u rfl rfl
    exact h.1 (List.prefix_append ['*', '/'] u)

section Line

variable {line : List Char}

theorem ne_newline_of_mem (h : '\n' ∉ line) : ∀ c ∈ line, (c != '\n') = true := by
  intro c hc
  exact bne_iff_ne.mpr fun e => h (e ▸ hc)

theorem eq_newline_of_mem_head? (h : rest = [] ∨ rest.head? = some '\n') :
    ∀ c ∈ rest.head?, (c != '\n') = false := by
  intro c hc
  obtain he | he := h
  · simp [he] at hc
  · simp [Option.some.inj (hc.symm.trans he)]

theorem takeWhile_line (h : '\n' ∉ line) (hr : rest = [] ∨ rest.head? = some '\n') :
    (line ++ rest).takeWhile (· != '\n') = line :=
  takeWhile_run (ne_newline_of_mem h) (eq_newline_of_mem_head? hr)

theorem dropWhile_line (h : '\n' ∉ line) (hr : rest = [] ∨ rest.head? = some '\n') :
    (line ++ rest).dropWhile (· != '\n') = rest :=
  dropWhile_run (ne_newline_of_mem h) (eq_newline_of_mem_head? hr)

end Line

theorem Piece.read_code (h : ∀ d : Delimiter, d.opening <+: c :: s → d = .bracket) :
    Piece.read c s = (.code (Lexeme.read c s).1, (Lexeme.read c s).2) := by
  obtain ⟨hquote, hslashes, hdashes, hblock⟩ := forall_opening_iff.mp h
  rw [Piece.read]
  · exact hquote
  · exact fun u hc => hslashes hc u
  · exact fun u hc => hdashes hc u
  · exact fun u hc => hblock hc u

/-- A text begins with one piece only. -/
theorem StartsWithPiece.read_eq {p : Piece} (h : StartsWithPiece (c :: s) p rest) :
    Piece.read c s = (p, rest) := by
  generalize hs : c :: s = u at h
  cases h with
  | @literal contents _ hc =>
    rw [Delimiter.enclose, List.append_assoc, List.append_assoc] at hs
    obtain ⟨rfl, rfl⟩ := List.cons.inj hs
    change Piece.read '"' (contents ++ '"' :: rest) = _
    rw [Piece.read, readLiteral_closed hc.1 hc.2]
  | unclosedLiteral hc =>
    obtain ⟨rfl, rfl⟩ := List.cons.inj hs
    rw [Piece.read, readLiteral_unclosed hc]
  | @comment d contents rest hd hc =>
    rw [Delimiter.enclose, List.append_assoc, List.append_assoc] at hs
    cases d with
    | slashes =>
      obtain ⟨rfl, rfl⟩ := List.cons.inj hs
      change Piece.read '/' ('/' :: (contents ++ rest)) = _
      rw [Piece.read, takeWhile_line hc.1 hc.2, dropWhile_line hc.1 hc.2]
    | dashes =>
      obtain ⟨rfl, rfl⟩ := List.cons.inj hs
      change Piece.read '-' ('-' :: (contents ++ rest)) = _
      rw [Piece.read, takeWhile_line hc.1 hc.2, dropWhile_line hc.1 hc.2]
    | block =>
      obtain ⟨rfl, rfl⟩ := List.cons.inj hs
      change Piece.read '/' ('*' :: (contents ++ '*' :: '/' :: rest)) = _
      rw [Piece.read, readBlock_closed hc]
    | bracket | literal => exact absurd hd (by decide)
  | unclosedComment hc =>
    obtain ⟨rfl, rfl⟩ := List.cons.inj hs
    rw [Piece.read, readBlock_unclosed hc]
  | code ho hl =>
    subst hs
    rw [Piece.read_code ho, hl.read_eq]

theorem StartsWithPiece.length_lt {p : Piece} (h : StartsWithPiece s p rest) :
    rest.length < s.length := by
  cases h with
  | literal _ =>
    simp only [Delimiter.enclose, Delimiter.opening, List.length_append, List.length_cons]
    omega
  | unclosedLiteral _ => simp
  | @comment d _ _ hd _ =>
    have hpos : 0 < d.opening.length := by cases d <;> decide
    simp only [Delimiter.enclose, List.length_append]
    omega
  | unclosedComment _ => simp
  | code _ hl => exact hl.length_lt

end Read

def pieces (formula : List Char) : List Piece :=
  match formula with
  | [] => []
  | c :: cs => (Piece.read c cs).1 :: pieces (Piece.read c cs).2
termination_by formula.length
decreasing_by exact (startsWithPiece_read c cs).length_lt

inductive FallsInto : List Char → List Piece → Prop
  | nil : FallsInto [] []
  | cons {s rest : List Char} {p : Piece} {ps : List Piece} : StartsWithPiece s p rest →
      FallsInto rest ps → FallsInto s (p :: ps)

theorem FallsInto.pieces_eq {ps : List Piece} (h : FallsInto s ps) : pieces s = ps := by
  induction h with
  | nil => simp [pieces]
  | @cons s rest p ps hp _ ih =>
    cases s with
    | nil => exact absurd hp.length_lt (Nat.not_lt_zero _)
    | cons c s => rw [pieces, hp.read_eq, ih]

theorem fallsInto_pieces (formula : List Char) : FallsInto formula (pieces formula) := by
  fun_induction pieces formula with
  | case1 => exact .nil
  | case2 c cs ih => exact .cons (startsWithPiece_read c cs) ih

/-- No double quote is code. -/
theorem FallsInto.notMem_quote {ps : List Piece} (h : FallsInto s ps) :
    .code (.mark '"') ∉ ps := by
  induction h with
  | nil => exact List.not_mem_nil
  | cons hp _ ih =>
    rw [List.mem_cons, not_or]
    refine ⟨?_, ih⟩
    rintro rfl
    cases hp with
    | code hs hl =>
      cases hl with
      | mark => exact absurd (hs .literal (by simp [Delimiter.opening])) (by decide)

namespace Piece

/-- The lexemes that stripping leaves of a piece. -/
def left : Piece → List Lexeme
  | code l => [l]
  | literal _ => [.mark '"', .mark '"']
  | comment _ => [.mark ' ']

/-- Whether an opening parenthesis comes next, or one behind blanks and comments. -/
def opensNext : List Piece → Bool
  | .code (.mark c) :: ps => c == '(' || isBlank c && opensNext ps
  | .comment _ :: ps => opensNext ps
  | _ => false

def calledWords : List Piece → List (List Char)
  | [] => []
  | .code (.word w) :: ps =>
    if Lexeme.isFunctionName w && opensNext ps then w :: calledWords ps else calledWords ps
  | _ :: ps => calledWords ps

/-- The functions that the pieces call, in upper case. -/
def calls (ps : List Piece) : List String :=
  (calledWords ps).map fun w => String.ofList (w.map asciiUpper)

/-- Lexemes that no literal and no comment leaves come one after the other as they do in the code. -/
theorem prefix_flatMap_left {xs : List Lexeme} {ps : List Piece}
    (hx : ∀ x ∈ xs, x ≠ .mark '"' ∧ x ≠ .mark ' ') :
    xs <+: ps.flatMap left ↔ xs.map .code <+: ps := by
  induction xs generalizing ps with
  | nil => simp
  | cons x xs ih =>
    obtain ⟨⟨hquote, hblank⟩, hx⟩ := List.forall_mem_cons.mp hx
    cases ps with
    | nil => simp
    | cons p ps => cases p <;> simp [left, List.cons_prefix_cons, ih hx, hquote, hblank]

theorem infix_flatMap_left {xs : List Lexeme} {ps : List Piece}
    (hx : ∀ x ∈ xs, x ≠ .mark '"' ∧ x ≠ .mark ' ') :
    xs <:+: ps.flatMap left ↔ xs.map .code <:+: ps := by
  cases xs with
  | nil => simp
  | cons x xs =>
    obtain ⟨hquote, hblank⟩ := hx x List.mem_cons_self
    induction ps with
    | nil => simp
    | cons p ps ih =>
      have hskip (hl : x ∉ p.left) (hp : .code x ≠ p) :
          x :: xs <:+: (p :: ps).flatMap left ↔ (x :: xs).map .code <:+: p :: ps := by
        rw [List.flatMap_cons, cons_infix_append_iff hl, ih]
        exact (cons_infix_append_iff (u := [p]) (by simpa using hp)).symm
      cases p with
      | code l =>
        have hprefix : x :: xs <+: (code l :: ps).flatMap left ↔ (x :: xs).map .code <+: .code l :: ps :=
          prefix_flatMap_left hx
        rw [List.flatMap_cons, left, List.singleton_append] at hprefix ⊢
        rw [List.infix_cons_iff, hprefix, ih]
        exact List.infix_cons_iff.symm
      | literal contents => exact hskip (by simp [left, hquote]) (by simp)
      | comment contents => exact hskip (by simp [left, hblank]) (by simp)

theorem mem_flatMap_left {x : Lexeme} {ps : List Piece} (hquote : x ≠ .mark '"')
    (hblank : x ≠ .mark ' ') : x ∈ ps.flatMap left ↔ .code x ∈ ps := by
  constructor
  · intro h
    obtain ⟨p, hp, hx⟩ := List.mem_flatMap.mp h
    cases p with
    | code l => rwa [List.mem_singleton.mp hx]
    | literal contents => exact absurd hx (by simp [left, hquote])
    | comment contents => exact absurd hx (by simp [left, hblank])
  · exact fun h => List.mem_flatMap.mpr ⟨_, h, List.mem_singleton.mpr rfl⟩

theorem opensNext_flatMap_left (ps : List Piece) :
    Lexeme.opensNext (ps.flatMap left) = opensNext ps := by
  induction ps with
  | nil => rfl
  | cons p ps ih =>
    rw [List.flatMap_cons]
    cases p with
    | code l =>
      cases l with
      | mark c => rw [left, List.singleton_append, Lexeme.opensNext, ih, opensNext]
      | word w | bracketed name | quoted body => rfl
    | literal contents => rfl
    | comment contents =>
      have hblank : isBlank ' ' = true := by decide
      rw [left, List.singleton_append, Lexeme.opensNext, ih, opensNext, hblank]
      rfl

theorem calls_flatMap_left (ps : List Piece) : Lexeme.calls (ps.flatMap left) = calls ps := by
  have hwords : Lexeme.calledWords (ps.flatMap left) = calledWords ps := by
    induction ps with
    | nil => rfl
    | cons p ps ih =>
      rw [List.flatMap_cons]
      cases p with
      | code l =>
        cases l with
        | word w =>
          rw [left, List.singleton_append, Lexeme.calledWords, calledWords, opensNext_flatMap_left, ih]
        | mark c | bracketed name | quoted body => exact ih
      | literal contents | comment contents => exact ih
  rw [Lexeme.calls, hwords, calls]

end Piece

section Strip

theorem strip_word {w : List Char} (hw : ∀ d ∈ w, isTokenChar d = true) (t : List Char) :
    strip (w ++ t) = w ++ strip t := by
  induction w with
  | nil => rfl
  | cons d w ih =>
    obtain ⟨hd, hw⟩ := List.forall_mem_cons.mp hw
    have hmarks : ['"', '/', '-'].all (!isTokenChar ·) = true := by decide +kernel
    obtain ⟨hquote, hslash, hdash⟩ : d ≠ '"' ∧ d ≠ '/' ∧ d ≠ '-' := by
      simpa using forall_ne_of_all hmarks hd
    obtain ⟨hb, hq, -⟩ := ne_of_isTokenChar hd
    rw [List.cons_append, strip, stripFrom_code_cons hquote hb hq (fun h => absurd h hslash)
      (fun h => absurd h hdash) fun h => absurd h hslash]
    exact congrArg (d :: ·) (ih hw)

theorem stripFrom_unclosedBracket (h : ']' ∉ s) : stripFrom .bracket s = s := by
  induction s with
  | nil => rfl
  | cons d s ih =>
    rw [List.mem_cons, not_or] at h
    rw [stripFrom, if_neg (Ne.symm h.1), ih h.2]

theorem StartsWithBody.stripFrom_quote {body : List Char} (h : StartsWithBody s body rest) :
    stripFrom .quote s = body ++ '\'' :: strip rest := by
  induction h with
  | closed rest => simp [stripFrom, strip]
  | pair _ ih => simp [stripFrom, ih]
  | char hc _ ih => simp [stripFrom, hc, ih]

theorem stripFrom_unclosedQuote (h : quotedBody s = none) : stripFrom .quote s = s := by
  fun_induction quotedBody s with
  | case1 => rfl
  | case2 r ih => simp [stripFrom, ih (Option.map_eq_none_iff.mp h)]
  | case3 r => simp at h
  | case4 d r _ hq ih =>
    have hq : d ≠ '\'' := hq
    simp [stripFrom, hq, ih (Option.map_eq_none_iff.mp h)]

theorem stripFrom_unclosedLiteral (h : QuotesDoubled s) : stripFrom .literal s = [] := by
  induction h with
  | nil => rfl
  | pair _ ih => rw [stripFrom, ih]
  | char hc _ ih =>
    rw [stripFrom, if_neg hc, ih]
    exact fun u h => absurd h hc

theorem stripFrom_unclosedBlock (h : ¬ ['*', '/'] <:+: s) : stripFrom .blockComment s = [] := by
  induction s with
  | nil => rfl
  | cons d s ih =>
    rw [List.infix_cons_iff, not_or] at h
    rw [stripFrom, ih h.2]
    rintro u rfl rfl
    exact h.1 (List.prefix_append ['*', '/'] u)

theorem strip_cons (h : ∀ d : Delimiter, d.opening <+: c :: s → d = .bracket) (hb : c ≠ '[')
    (hq : c ≠ '\'') : strip (c :: s) = c :: strip s := by
  obtain ⟨hquote, hslashes, hdashes, hblock⟩ := forall_opening_iff.mp h
  exact stripFrom_code_cons hquote hb hq hslashes hdashes hblock

/-- What is left of a formula begins as the formula, or with the blank of a comment. -/
theorem head?_strip (s : List Char) : (strip s).head? = s.head? ∨ (strip s).head? = some ' ' := by
  rw [strip]
  generalize hp : Place.code = r
  fun_cases stripFrom r s <;> simp_all

theorem StartsWithLexeme.strip {l : Lexeme} (h : StartsWithLexeme s l rest)
    (hs : ∀ d : Delimiter, d.opening <+: s → d = .bracket) :
    StartsWithLexeme (strip s) l (strip rest) := by
  have hhead : ∀ {p : Char → Prop}, p ' ' → (∀ d ∈ rest.head?, p d) →
      ∀ d ∈ (Formula.strip rest).head?, p d := by
    intro p hp hrest d hd
    obtain h | h := head?_strip rest
    · exact hrest d (h ▸ hd)
    · rw [h] at hd
      exact Option.some.inj hd ▸ hp
  cases h with
  | word hw ht hr =>
    rw [strip_word ht]
    exact .word hw ht (hhead (by decide +kernel) hr)
  | bracketed rest hn =>
    rw [strip_bracketed hn]
    exact .bracketed _ hn
  | unclosedBracket hn =>
    rw [Formula.strip, stripFrom, stripFrom_unclosedBracket hn]
    exact .unclosedBracket hn
  | quoted hb hr =>
    rw [Formula.strip, stripFrom, hb.stripFrom_quote]
    refine .quoted (hb.of_append _) fun h => ?_
    exact hhead (p := (· ≠ '\'')) (by decide) (fun d hd he => hr (he ▸ hd)) _ h rfl
  | unclosedQuote hb =>
    rw [Formula.strip, stripFrom, stripFrom_unclosedQuote hb]
    exact .unclosedQuote hb
  | @mark c rest ht hb hq =>
    rw [strip_cons hs hb hq]
    exact .mark _ ht hb hq

/-- Nothing of the contents of a literal or a comment is left. -/
theorem strip_enclose {d : Delimiter} {contents : List Char} (hd : d ≠ .bracket)
    (h : d.Encloses contents rest) : strip (d.enclose contents ++ rest) = d.mark ++ strip rest := by
  rw [Delimiter.enclose, List.append_assoc, List.append_assoc, strip, stripFrom_opening,
    ← List.append_assoc contents, stripFrom_contents h, Delimiter.kept_eq_nil hd, List.nil_append, strip]

theorem Lexes.mark {ls : List Lexeme} (h : Lexes s ls) (ht : isTokenChar c = false) (hb : c ≠ '[')
    (hq : c ≠ '\'') : Lexes (c :: s) (.mark c :: ls) := .cons (.mark s ht hb hq) h

/-- What is left of a piece. -/
theorem StartsWithPiece.lexes_strip {p : Piece} {ls : List Lexeme} (h : StartsWithPiece s p rest)
    (hl : Lexes (strip rest) ls) : Lexes (strip s) (p.left ++ ls) := by
  have hblank {t : List Char} {ls : List Lexeme} (ht : Lexes t ls) :
      Lexes (' ' :: t) (.mark ' ' :: ls) := ht.mark (by decide +kernel) (by decide) (by decide)
  have hquote {t : List Char} {ls : List Lexeme} (ht : Lexes t ls) :
      Lexes ('"' :: t) (.mark '"' :: ls) := ht.mark (by decide +kernel) (by decide) (by decide)
  cases h with
  | literal hc =>
    rw [strip_enclose (by decide) hc]
    exact hquote (hquote hl)
  | unclosedLiteral hc =>
    rw [strip, stripFrom, stripFrom_unclosedLiteral hc]
    exact hquote (hquote hl)
  | @comment d _ _ hd hc =>
    obtain ⟨hb, hmark⟩ := Delimiter.mark_of_isComment hd
    rw [strip_enclose hb hc, hmark]
    exact hblank hl
  | unclosedComment hc =>
    rw [strip, stripFrom, stripFrom_unclosedBlock hc]
    exact hblank hl
  | code hs hw => exact .cons (hw.strip hs) hl

theorem FallsInto.lexes_strip {ps : List Piece} (h : FallsInto s ps) :
    Lexes (strip s) (ps.flatMap Piece.left) := by
  induction h with
  | nil => exact .nil
  | cons hp _ ih =>
    rw [List.flatMap_cons]
    exact hp.lexes_strip ih

/-- The lexemes of a stripped formula are what is left of the pieces of the formula. -/
theorem lexemes_strip (formula : List Char) :
    lexemes (strip formula) = (pieces formula).flatMap Piece.left :=
  (fallsInto_pieces formula).lexes_strip.lexemes_eq

end Strip

end Tabular.Formula
