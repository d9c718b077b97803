import Tabular.Proofs.Formula.Called

/-!
# Calls in a row

A call stands in a masked text where a name of a function is followed by a parenthesis, where the name does
not go on with a word, and where no quote is open. Several functions are called in a row if behind each
parenthesis the next call comes, blanks aside. A text may spell such a row without calling anything: in a
quoted name, at the end of a longer word, or with blanks within a name.
-/

namespace Tabular.Formula

open Text

variable {s t w rest before after : List Char} {b : Option Char} {q : Bool} {k : String}
  {ks : List String}

/-- Whether a quote is open behind a text. -/
def quoteOpen (q : Bool) (s : List Char) : Bool := s.foldl (fun q c => if c = '\'' then !q else q) q

/-- A name behind this text is no part of a longer word and stands in no quotes. -/
def AllowsCall (before : List Char) : Prop :=
  before.getLast?.any isTokenChar = false ∧ quoteOpen false before = false

/-- Functions are called in a row from the start of a text on. -/
def CallsInRow : List String → List Char → Prop
  | [], _ => True
  | k :: ks, s => ∃ name rest, callAt? s = some (name, rest) ∧
      String.ofList (name.map asciiUpper) = k ∧ CallsInRow ks (trimStart rest)

/-- Somewhere in a stripped formula functions are called in a row. -/
def CalledInRow (ks : List String) (code : List Char) : Prop :=
  ∃ before s, mask code = before ++ s ∧ AllowsCall before ∧ CallsInRow ks s

section Position

theorem quoteOpen_append (q : Bool) (s t : List Char) :
    quoteOpen q (s ++ t) = quoteOpen (quoteOpen q s) t := List.foldl_append

theorem quoteOpen_cons (q : Bool) (c : Char) (s : List Char) :
    quoteOpen q (c :: s) = quoteOpen (if c = '\'' then !q else q) s := rfl

theorem quoteOpen_of_notMem (h : '\'' ∉ s) (q : Bool) : quoteOpen q s = q := by
  induction s with
  | nil => rfl
  | cons c s ih =>
    rw [List.mem_cons, not_or] at h
    rw [quoteOpen_cons, if_neg (Ne.symm h.1), ih h.2]

theorem getLast?_cons_or (c : Char) (s : List Char) (b : Option Char) :
    (c :: s).getLast?.or b = s.getLast?.or (some c) := by
  rw [List.getLast?_cons]
  cases s.getLast? <;> rfl

end Position

section Match

variable {name blanks : List Char}

theorem isBlank_of_isCallChar {c : Char} (h : isCallChar c = true) : isBlank c = false :=
  not_blank_of_isTokenChar (isCallChar_iff.mp h).1

theorem openingAt?_of_blanks (hb : ∀ d ∈ blanks, isBlank d = true) (s : List Char) :
    openingAt? (blanks ++ '(' :: s) = some s := by
  rw [openingAt?, trimStart_append_of_blank hb, trimStart_cons_of_not_blank (by decide)]
  rfl

theorem callAt?_letters (hn : w ≠ []) (hl : ∀ d ∈ w, isAsciiLetter d = true)
    (hb : ∀ d ∈ blanks, isBlank d = true) (s : List Char) :
    callAt? (w ++ (blanks ++ '(' :: s)) = some (w, s) := by
  have htoken : ∀ d ∈ w, isTokenChar d = true := fun d hd => isTokenChar_of_isAsciiLetter (hl d hd)
  have hascii : ∀ d ∈ w, d.toNat < 0x80 := fun d hd => isAscii_of_isAsciiLetter (hl d hd)
  have hstop : ∀ d ∈ (blanks ++ '(' :: s).head?, isTokenChar d = false := by
    cases blanks with
    | nil => simpa using (by decide +kernel : isTokenChar '(' = false)
    | cons x blanks => simpa using isTokenChar_of_isBlank (hb x List.mem_cons_self)
  obtain ⟨c, w, rfl⟩ := List.exists_cons_of_ne_nil hn
  have hname : Lexeme.isFunctionName (c :: w) = true := by
    simpa [Lexeme.isFunctionName, hl c List.mem_cons_self] using hascii
  rw [List.cons_append, callAt?_word htoken hstop, if_pos hname, openingAt?_of_blanks hb]
  rfl

theorem callsInRow_singleton :
    CallsInRow [k] t ↔ ∃ name rest, callAt? t = some (name, rest) ∧
      String.ofList (name.map asciiUpper) = k := by
  simp only [CallsInRow, and_true]

theorem quoteOpen_call (hn : ∀ d ∈ name, isCallChar d = true) (hb : ∀ d ∈ blanks, isBlank d = true)
    (q : Bool) (s : List Char) :
    quoteOpen q (name ++ (blanks ++ '(' :: s)) = quoteOpen q s := by
  have hname : '\'' ∉ name := fun h => absurd (hn _ h) (by decide)
  have hblank : '\'' ∉ blanks := fun h => absurd (hb _ h) (by decide)
  rw [quoteOpen_append, quoteOpen_of_notMem hname, quoteOpen_append, quoteOpen_of_notMem hblank,
    quoteOpen_cons, if_neg (by decide)]

theorem getLast?_call_or (name blanks s : List Char) (b : Option Char) :
    (name ++ (blanks ++ '(' :: s)).getLast?.or b = s.getLast?.or (some '(') := by
  rw [List.getLast?_append, List.getLast?_append, List.getLast?_cons]
  cases s.getLast? <;> rfl

/-- A text that begins with a letter, behind no part of a word, does not begin within a call. -/
theorem exists_of_append_eq_call (hn : ∀ d ∈ name, isCallChar d = true)
    (hb : ∀ d ∈ blanks, isBlank d = true) (he : before ++ t = name ++ (blanks ++ '(' :: rest))
    (hne : before ≠ []) (hlast : before.getLast?.any isTokenChar = false)
    (ht : t.head?.any isAsciiLetter = true) :
    ∃ before', before = name ++ (blanks ++ '(' :: before') ∧ rest = before' ++ t := by
  -- The text begins in the name, in the blanks, at the parenthesis, or behind it.
  obtain ⟨u, hname, -⟩ | ⟨u, rfl, hu⟩ := List.append_eq_append_iff.mp he
  · have hmem : before.getLast hne ∈ name := hname ▸ List.mem_append_left u (List.getLast_mem hne)
    rw [List.getLast?_eq_some_getLast hne, Option.any_some,
      (isCallChar_iff.mp (hn _ hmem)).1] at hlast
    exact absurd hlast (by decide)
  · obtain ⟨v, hblanks, rfl⟩ | ⟨v, rfl, hv⟩ := List.append_eq_append_iff.mp hu.symm
    · cases v with
      | nil => exact absurd ht (by simp [isAsciiLetter])
      | cons d v =>
        have hd : isBlank d = true := hb d (by simp [hblanks])
        rw [List.cons_append, List.head?_cons, Option.any_some,
          isAsciiLetter_of_not_token (isTokenChar_of_isBlank hd)] at ht
        exact absurd ht (by decide)
    · cases v with
      | nil =>
        rw [List.nil_append] at hv
        exact absurd ht (by simp [← hv, isAsciiLetter])
      | cons d v =>
        obtain ⟨rfl, rfl⟩ := List.cons.inj hv
        exact ⟨v, rfl, rfl⟩

end Match

section Members

/-- A call at the start of a text is found if nothing before it forbids, and the others behind it. -/
theorem mem_callsFrom_of_callAt?_eq_some {c : Char} {name : List Char}
    (h : callAt? (c :: s) = some (name, rest)) :
    k ∈ callsFrom b q (c :: s) ↔
      (b.any isTokenChar = false ∧ q = false ∧ String.ofList (name.map asciiUpper) = k) ∨
        k ∈ callsFrom (some '(') q rest := by
  rw [callsFrom_of_callAt?_eq_some h]
  cases b.any isTokenChar <;> cases q <;> simp [eq_comm]

theorem exists_of_mem_callsFrom (h : k ∈ callsFrom b q s) :
    ∃ before t, s = before ++ t ∧ CallsInRow [k] t ∧
      (before.getLast?.or b).any isTokenChar = false ∧ quoteOpen q before = false := by
  induction hn : s.length using Nat.strongRecOn generalizing b q s with
  | _ n ih =>
    subst hn
    cases s with
    | nil => simp [callsFrom] at h
    | cons c s =>
      cases hc : callAt? (c :: s) with
      | none =>
        rw [callsFrom_of_callAt?_eq_none hc] at h
        obtain ⟨before, t, rfl, ht, hb, hq⟩ := ih s.length (by simp) h rfl
        exact ⟨c :: before, t, rfl, ht, by rwa [getLast?_cons_or], hq⟩
      | some p =>
        obtain ⟨name, rest⟩ := p
        obtain ⟨hb, hq, hk⟩ | h := (mem_callsFrom_of_callAt?_eq_some hc).mp h
        · exact ⟨[], c :: s, rfl, callsInRow_singleton.mpr ⟨name, rest, hc, hk⟩, hb, hq⟩
        · obtain ⟨blanks, hs, hname, hblanks⟩ := callAt?_eq_some hc
          obtain ⟨before, t, rfl, ht, hb, hq⟩ := ih rest.length (callAt?_length hc) h rfl
          refine ⟨name ++ (blanks ++ '(' :: before), t, by simp [hs], ht, ?_, ?_⟩
          · rwa [getLast?_call_or]
          · rwa [quoteOpen_call hname hblanks]

theorem mem_callsFrom (ht : CallsInRow [k] t)
    (hb : (before.getLast?.or b).any isTokenChar = false) (hq : quoteOpen q before = false) :
    k ∈ callsFrom b q (before ++ t) := by
  obtain ⟨name, rest, hcall, hk⟩ := callsInRow_singleton.mp ht
  obtain ⟨d, t, rfl⟩ : ∃ d u, t = d :: u := by
    cases t with
    | nil => simp [callAt?] at hcall
    | cons d u => exact ⟨d, u, rfl⟩
  have hd : isAsciiLetter d = true := by
    by_contra h
    rw [callAt?_eq_none (by simpa using h)] at hcall
    exact absurd hcall (by simp)
  -- A call that is found before this one takes a part of `before` with it, never of the call itself.
  induction hn : before.length using Nat.strongRecOn generalizing b q before with
  | _ n ih =>
    subst hn
    cases before with
    | nil => exact (mem_callsFrom_of_callAt?_eq_some hcall).mpr (.inl ⟨hb, hq, hk⟩)
    | cons c before =>
      have hlast : (c :: before).getLast?.any isTokenChar = false := by
        rwa [List.getLast?_cons, Option.some_or, ← List.getLast?_cons] at hb
      cases hc : callAt? (c :: (before ++ d :: t)) with
      | none =>
        rw [List.cons_append, callsFrom_of_callAt?_eq_none hc]
        exact ih before.length (by simp) (by rwa [getLast?_cons_or] at hb) hq rfl
      | some p =>
        obtain ⟨name', rest'⟩ := p
        obtain ⟨blanks, hs, hname, hblanks⟩ := callAt?_eq_some hc
        obtain ⟨before', he, rfl⟩ :=
          exists_of_append_eq_call hname hblanks hs (List.cons_ne_nil _ _) hlast
            (by simpa using hd)
        rw [he, getLast?_call_or] at hb
        rw [he, quoteOpen_call hname hblanks] at hq
        have hlen : before'.length < (c :: before).length := by
          simp only [he, List.length_append, List.length_cons]
          omega
        exact (mem_callsFrom_of_callAt?_eq_some hc).mpr (.inr (ih before'.length hlen hb hq rfl))

/-- A function is called exactly if its call stands somewhere in the masked text where one is allowed. -/
theorem mem_functionCalls_iff (k : String) (code : List Char) :
    k ∈ functionCalls code ↔ CalledInRow [k] code := by
  constructor
  · intro h
    obtain ⟨before, t, hs, ht, hb, hq⟩ := exists_of_mem_callsFrom h
    exact ⟨before, t, hs, ⟨by rwa [Option.or_none] at hb, hq⟩, ht⟩
  · rintro ⟨before, t, hs, ⟨hb, hq⟩, ht⟩
    rw [functionCalls, hs]
    exact mem_callsFrom ht (by rwa [Option.or_none]) hq

end Members

end Tabular.Formula
