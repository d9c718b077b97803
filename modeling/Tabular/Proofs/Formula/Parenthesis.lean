import Tabular.Proofs.Formula.Called
import Tabular.Proofs.Text.LetterCase

/-!
# Parentheses with the words before them

The pass over a stripped formula keeps the word before the next character, so that it knows what an
opening parenthesis belongs to. What it counts is settled by the parentheses of the formula, each
opening one with that word; and the words that name functions are the calls of the formula.
-/

namespace Tabular.Formula

open Text

inductive Paren where
  /-- An opening parenthesis with the word before it, or with none. -/
  | opening (callee : List Char)
  | closing
  deriving DecidableEq, Repr

/-- The parentheses among lexemes behind a word, from left to right. -/
def Lexeme.parens (callee : List Char) : List Lexeme → List Paren
  | [] => []
  | .word w :: ls => parens w ls
  | .mark c :: ls =>
    if isBlank c then parens callee ls
    else if c = '(' then .opening callee :: parens [] ls
    else if c = ')' then .closing :: parens [] ls
    else parens [] ls
  | .bracketed _ :: ls | .quoted _ :: ls => parens [] ls

namespace Nesting

variable {isMarked : List Char → Bool} {n : Nesting} {c : Char} {s rest w : List Char}

/-- What the pass has counted, with nothing noted of the text. -/
def settled (n : Nesting) : Nesting :=
  { n with word := [], pending := [], inBracket := false, inQuote := false }

def visit (isMarked : List Char → Bool) (n : Nesting) : Paren → Nesting
  | .opening callee => (push isMarked { n with word := callee, pending := [] }).settled
  | .closing => n.pop.settled

section Steps

theorem settled_settled (n : Nesting) : n.settled.settled = n.settled := rfl

theorem callee_settled (n : Nesting) : n.settled.callee = [] := rfl

theorem settled_pop (n : Nesting) : n.settled.pop.settled = n.pop.settled := by
  cases h : n.stack <;> simp [pop, settled, h]

theorem callee_of_word (n : Nesting) (w : List Char) :
    callee { n with word := w, pending := [] } = w := by
  rw [callee]
  split
  · next h => exact (List.isEmpty_iff.mp h).symm
  · rfl

theorem push_settled (n : Nesting) :
    (push isMarked n).settled = visit isMarked n.settled (.opening n.callee) := by
  rw [visit, push, push, callee_of_word]
  rfl

theorem step_token (hb : n.inBracket = false) (hq : n.inQuote = false) (hc : isTokenChar c = true) :
    step isMarked n c = { n with word := n.word ++ [c], pending := [] } := by
  obtain ⟨h₁, h₂, h₃, h₄⟩ := ne_of_isTokenChar hc
  rw [isTokenChar] at hc
  simp [step, note, hb, hq, h₁, h₂, h₃, h₄, hc]

theorem foldl_step_word (hb : n.inBracket = false) (hq : n.inQuote = false)
    (hw : ∀ d ∈ w, isTokenChar d = true) (hn : w ≠ []) :
    w.foldl (step isMarked) n = { n with word := n.word ++ w, pending := [] } := by
  induction w generalizing n with
  | nil => exact absurd rfl hn
  | cons c w ih =>
    obtain ⟨hc, hw⟩ := List.forall_mem_cons.mp hw
    rw [List.foldl_cons, step_token hb hq hc]
    by_cases h : w = []
    · subst h
      rfl
    · have hrest := ih (n := { n with word := n.word ++ [c], pending := [] }) hb hq hw h
      rw [hrest, ← List.append_cons]

theorem step_blank (isMarked : List Char → Bool) (hb : n.inBracket = false) (hq : n.inQuote = false)
    (hc : isBlank c = true) :
    (step isMarked n c).settled = n.settled ∧ (step isMarked n c).callee = n.callee ∧
      (step isMarked n c).word = [] ∧ (step isMarked n c).inBracket = false ∧
      (step isMarked n c).inQuote = false := by
  have hmarks : ['[', '\'', '(', ')'].all (!isBlank ·) = true := by decide
  obtain ⟨h₁, h₂, h₃, h₄⟩ : c ≠ '[' ∧ c ≠ '\'' ∧ c ≠ '(' ∧ c ≠ ')' := by
    simpa using forall_ne_of_all hmarks hc
  have ht := isTokenChar_of_isBlank hc
  rw [isTokenChar] at ht
  have hs : step isMarked n c =
      if n.word.isEmpty then n else { n with pending := n.word, word := [] } := by
    simp [step, note, hb, hq, h₁, h₂, h₃, h₄, ht, hc]
  rw [hs]
  split
  · next hw => exact ⟨rfl, rfl, List.isEmpty_iff.mp hw, hb, hq⟩
  · next hw => exact ⟨rfl, by simp [callee, hw], rfl, hb, hq⟩

theorem note_mark (hb : n.inBracket = false) (hq : n.inQuote = false) (ht : isTokenChar c = false)
    (hc : isBlank c = false) : note c n = n.settled := by
  rw [isTokenChar] at ht
  cases n
  simp_all [note, settled]

theorem step_mark (hb : n.inBracket = false) (hq : n.inQuote = false) (ht : isTokenChar c = false)
    (hbracket : c ≠ '[') (hquote : c ≠ '\'') (hc : isBlank c = false) :
    step isMarked n c =
      if c = '(' then visit isMarked n.settled (.opening n.callee)
      else if c = ')' then visit isMarked n.settled .closing
      else n.settled := by
  simp only [step, hb, hq, hbracket, hquote, Bool.false_eq_true, if_false]
  split_ifs
  · rw [note_mark (n := push isMarked n) hb hq ht hc, push_settled]
  · rw [note_mark (by simp [hb]) (by simp [hq]) ht hc, visit, settled_pop]
  · rw [note_mark hb hq ht hc]

theorem step_openBracket (hb : n.inBracket = false) (hq : n.inQuote = false) :
    step isMarked n '[' = { n.settled with inBracket := true } := by
  have ht : isWordChar '[' = false := by decide +kernel
  have hc : isBlank '[' = false := by decide
  simp [step, note, hb, hq, ht, hc, settled]

theorem step_openQuote (hb : n.inBracket = false) (hq : n.inQuote = false) :
    step isMarked n '\'' = { n.settled with inQuote := true } := by
  have ht : isWordChar '\'' = false := by decide +kernel
  have hc : isBlank '\'' = false := by decide
  simp [step, note, hb, hq, ht, hc, settled]

theorem step_closeQuote (n : Nesting) :
    step isMarked { n.settled with inQuote := true } '\'' = n.settled := by
  simp [step, settled]

theorem step_inQuote (n : Nesting) (hc : c ≠ '\'') :
    step isMarked { n.settled with inQuote := true } c = { n.settled with inQuote := true } := by
  simp [step, settled, hc]

/-- A quoted name changes nothing of what is counted. -/
theorem foldl_step_quoted {body : List Char} (h : StartsWithBody s body rest) (n : Nesting) :
    s.foldl (step isMarked) { n.settled with inQuote := true } =
      rest.foldl (step isMarked) n.settled := by
  induction h with
  | closed rest => rw [List.foldl_cons, step_closeQuote]
  | pair _ ih =>
    rw [List.foldl_cons, step_closeQuote, List.foldl_cons, step_openQuote rfl rfl, settled_settled, ih]
  | char hc _ ih => rw [List.foldl_cons, step_inQuote n hc, ih]

theorem foldl_step_unclosedQuote (h : quotedBody s = none) (n : Nesting) :
    s.foldl (step isMarked) { n.settled with inQuote := true } =
      { n.settled with inQuote := true } := by
  fun_induction quotedBody s with
  | case1 => rfl
  | case2 r ih =>
    rw [List.foldl_cons, step_closeQuote, List.foldl_cons, step_openQuote rfl rfl, settled_settled]
    exact ih (Option.map_eq_none_iff.mp h)
  | case3 r => simp at h
  | case4 c r _ hq ih =>
    rw [List.foldl_cons, step_inQuote n hq]
    exact ih (Option.map_eq_none_iff.mp h)

end Steps

/-- Over the lexemes of a text the pass counts what their parentheses change. -/
theorem settled_foldl_step {ls : List Lexeme} (h : Lexes s ls) (hb : n.inBracket = false)
    (hq : n.inQuote = false) (hw : n.word ≠ [] → ∀ d ∈ s.head?, isTokenChar d = false) :
    (s.foldl (step isMarked) n).settled =
      (Lexeme.parens n.callee ls).foldl (visit isMarked) n.settled := by
  induction h generalizing n with
  | nil => rfl
  | @cons s rest l ls hl hls ih =>
    cases hl with
    | @word w _ hne ht hr =>
      have hword : n.word = [] := by
        by_contra hn
        obtain ⟨c, w, rfl⟩ := List.exists_cons_of_ne_nil hne
        have hc := hw hn c rfl
        rw [(List.forall_mem_cons.mp ht).1] at hc
        exact absurd hc (by decide)
      rw [List.foldl_append, foldl_step_word hb hq ht hne, hword, List.nil_append,
        ih (by exact hb) (by exact hq) fun _ => hr, callee_of_word]
      rfl
    | @bracketed name _ hn =>
      have hclose : step isMarked { n.settled with inBracket := true } ']' = n.settled := by
        simp [step, settled]
      rw [List.foldl_cons, step_openBracket hb hq, List.foldl_append, List.foldl_cons,
        foldl_step_inBracket rfl hn, hclose, ih rfl rfl fun h => absurd rfl h, callee_settled]
      rfl
    | @unclosedBracket name hn =>
      rw [List.foldl_cons, step_openBracket hb hq, foldl_step_inBracket rfl hn, hls.eq_nil]
      rfl
    | @quoted s body _ hs hr =>
      rw [List.foldl_cons, step_openQuote hb hq, foldl_step_quoted hs,
        ih rfl rfl fun h => absurd rfl h, callee_settled]
      rfl
    | @unclosedQuote body hs =>
      rw [List.foldl_cons, step_openQuote hb hq, foldl_step_unclosedQuote hs, hls.eq_nil]
      rfl
    | @mark c _ ht hopen hquote =>
      rw [List.foldl_cons, Lexeme.parens]
      by_cases hc : isBlank c = true
      · obtain ⟨hs, hcallee, hword, hb', hq'⟩ := step_blank isMarked hb hq hc
        rw [if_pos hc, ih hb' hq' fun h => absurd hword h, hs, hcallee]
      · have hsettled (m : Nesting) : (rest.foldl (step isMarked) m.settled).settled =
            (Lexeme.parens [] ls).foldl (visit isMarked) m.settled :=
          ih rfl rfl fun h => absurd rfl h
        rw [if_neg hc, step_mark hb hq ht hopen hquote (by simpa using hc)]
        split_ifs
        · exact hsettled _
        · exact hsettled _
        · exact hsettled n

theorem settled_scan (code : List Char) :
    (scan isMarked code).settled =
      (Lexeme.parens [] (lexemes code)).foldl (visit isMarked) {} :=
  settled_foldl_step (lexes_lexemes code) rfl rfl fun h => absurd rfl h

section Counts

/-- The counters of the pass are what its stack shows. -/
structure Tallied (n : Nesting) : Prop where
  marked_eq : n.marked = n.stack.count true
  maxMarked_le : n.maxMarked ≤ n.maxDepth

namespace Tallied

theorem push (h : n.Tallied) : (push isMarked n).Tallied := by
  obtain ⟨hm, hd⟩ := h
  have hle : n.stack.count true ≤ n.stack.length := List.count_le_length
  cases hmark : !n.callee.isEmpty && isMarked n.callee with
  | true => constructor <;> simp only [Nesting.push, hmark, if_true, List.count_cons_self] <;> omega
  | false =>
    constructor
    · simpa [Nesting.push, hmark] using hm
    · simp only [Nesting.push, hmark, Bool.false_eq_true, if_false]
      omega

theorem pop (h : n.Tallied) : n.pop.Tallied := by
  obtain ⟨hm, hd⟩ := h
  cases hs : n.stack with
  | nil => exact ⟨by simpa [Nesting.pop, hs] using hm, by simpa [Nesting.pop, hs] using hd⟩
  | cons mark stack =>
    rw [hs] at hm
    cases mark <;> constructor <;> simp_all [Nesting.pop]

theorem note (h : n.Tallied) (c : Char) : (note c n).Tallied := by
  obtain ⟨hm, hd⟩ := h
  unfold Nesting.note
  split_ifs <;> exact ⟨hm, hd⟩

theorem step (h : n.Tallied) (c : Char) : (step isMarked n c).Tallied := by
  unfold Nesting.step
  split_ifs
  · exact ⟨h.marked_eq, h.maxMarked_le⟩
  · exact ⟨h.marked_eq, h.maxMarked_le⟩
  · exact note (n := { n with inBracket := true }) ⟨h.marked_eq, h.maxMarked_le⟩ c
  · exact note (n := { n with inQuote := true }) ⟨h.marked_eq, h.maxMarked_le⟩ c
  · exact h.push.note c
  · exact h.pop.note c
  · exact h.note c

theorem foldl_step (h : n.Tallied) (s : List Char) : (s.foldl (Nesting.step isMarked) n).Tallied := by
  induction s generalizing n with
  | nil => exact h
  | cons c s ih => exact ih (h.step c)

end Tallied

theorem tallied_scan (isMarked : List Char → Bool) (code : List Char) : (scan isMarked code).Tallied :=
  Tallied.foldl_step ⟨rfl, Nat.le_refl _⟩ code

/-- Fewer parentheses are open, and fewer have been at the same time. -/
structure Below (n m : Nesting) : Prop where
  length_le : n.stack.length ≤ m.stack.length
  maxDepth_le : n.maxDepth ≤ m.maxDepth

theorem length_stack_pop (n : Nesting) : n.pop.stack.length = n.stack.length - 1 := by
  cases h : n.stack <;> simp [pop, h]

theorem maxDepth_pop (n : Nesting) : n.pop.maxDepth = n.maxDepth := by
  cases h : n.stack <;> simp [pop, h]

theorem Below.visit {m : Nesting} (h : n.Below m) (isMarked isMarked' : List Char → Bool) (p : Paren) :
    (visit isMarked n p).Below (visit isMarked' m p) := by
  obtain ⟨hl, hd⟩ := h
  cases p with
  | opening callee =>
    constructor <;> simp only [Nesting.visit, settled, push, List.length_cons] <;> omega
  | closing =>
    constructor <;> simp only [Nesting.visit, settled, length_stack_pop, maxDepth_pop] <;> omega

theorem Below.foldl_visit {m : Nesting} (h : n.Below m) (isMarked isMarked' : List Char → Bool)
    (ps : List Paren) :
    (ps.foldl (Nesting.visit isMarked) n).Below (ps.foldl (Nesting.visit isMarked') m) := by
  induction ps generalizing n m with
  | nil => exact h
  | cons p ps ih => exact ih (h.visit isMarked isMarked' p)

theorem maxDepth_le_foldl_visit (ps : List Paren) (n : Nesting) :
    n.maxDepth ≤ (ps.foldl (visit isMarked) n).maxDepth := by
  induction ps generalizing n with
  | nil => exact Nat.le_refl _
  | cons p ps ih =>
    refine Nat.le_trans ?_ (ih _)
    cases p with
    | opening callee => exact Nat.le_max_left _ _
    | closing => exact Nat.le_of_eq n.maxDepth_pop.symm

/-- Parentheses in front of others never make these nest less deep. -/
theorem maxDepth_foldl_append (ps qs : List Paren) :
    (ps.foldl (visit isMarked) {}).maxDepth ≤ ((ps ++ qs).foldl (visit isMarked) {}).maxDepth ∧
      (qs.foldl (visit isMarked) {}).maxDepth ≤ ((ps ++ qs).foldl (visit isMarked) {}).maxDepth := by
  rw [List.foldl_append]
  have hbelow : Below {} (ps.foldl (visit isMarked) {}) := ⟨Nat.zero_le _, Nat.zero_le _⟩
  exact ⟨maxDepth_le_foldl_visit qs _, (hbelow.foldl_visit isMarked isMarked qs).maxDepth_le⟩

theorem maxDepth_scan (isMarked : List Char → Bool) (code : List Char) :
    (scan isMarked code).maxDepth =
      ((Lexeme.parens [] (lexemes code)).foldl (visit isMarked) {}).maxDepth := by
  rw [← settled_scan]
  rfl

theorem maxMarked_scan (isMarked : List Char → Bool) (code : List Char) :
    (scan isMarked code).maxMarked =
      ((Lexeme.parens [] (lexemes code)).foldl (visit isMarked) {}).maxMarked := by
  rw [← settled_scan]
  rfl

end Counts

section Marked

def opensMarked (isMarked : List Char → Bool) : Paren → Bool
  | .opening callee => !callee.isEmpty && isMarked callee
  | .closing => false

theorem marked_visit_opening (isMarked : List Char → Bool) (n : Nesting) (callee : List Char) :
    (visit isMarked n (.opening callee)).marked =
      if opensMarked isMarked (.opening callee) then n.marked + 1 else n.marked := by
  rw [visit, push, callee_of_word]
  rfl

theorem maxMarked_visit_opening (isMarked : List Char → Bool) (n : Nesting) (callee : List Char) :
    (visit isMarked n (.opening callee)).maxMarked =
      max n.maxMarked (visit isMarked n (.opening callee)).marked := rfl

theorem marked_visit_closing_le (isMarked : List Char → Bool) (n : Nesting) :
    (visit isMarked n .closing).marked ≤ n.marked := by
  rcases h : n.stack with _ | ⟨_ | _, stack⟩ <;> simp [visit, settled, pop, h]

theorem maxMarked_visit_closing (isMarked : List Char → Bool) (n : Nesting) :
    (visit isMarked n .closing).maxMarked = n.maxMarked := by
  cases h : n.stack <;> simp [visit, settled, pop, h]

/-- No more marked parentheses are ever open than there are. -/
theorem maxMarked_foldl_visit_le (ps : List Paren) (n : Nesting) :
    (ps.foldl (visit isMarked) n).maxMarked ≤
      max n.maxMarked (n.marked + ps.countP (opensMarked isMarked)) := by
  induction ps generalizing n with
  | nil => exact Nat.le_max_left _ _
  | cons p ps ih =>
    refine Nat.le_trans (ih _) ?_
    cases p with
    | opening callee =>
      rw [maxMarked_visit_opening, marked_visit_opening, List.countP_cons]
      split_ifs <;> omega
    | closing =>
      have hle := marked_visit_closing_le isMarked n
      rw [maxMarked_visit_closing, List.countP_cons_of_neg (by simp [opensMarked])]
      omega

theorem maxMarked_le_foldl_visit (ps : List Paren) (n : Nesting) :
    n.maxMarked ≤ (ps.foldl (visit isMarked) n).maxMarked := by
  induction ps generalizing n with
  | nil => exact Nat.le_refl _
  | cons p ps ih =>
    refine Nat.le_trans ?_ (ih _)
    cases p with
    | opening callee => exact Nat.le_max_left _ _
    | closing => exact Nat.le_of_eq (maxMarked_visit_closing isMarked n).symm

theorem maxMarked_foldl_visit_pos {p : Paren} {ps : List Paren} (hp : p ∈ ps)
    (hm : opensMarked isMarked p = true) (n : Nesting) :
    0 < (ps.foldl (visit isMarked) n).maxMarked := by
  induction ps generalizing n with
  | nil => exact absurd hp List.not_mem_nil
  | cons q ps ih =>
    obtain rfl | hp := List.mem_cons.mp hp
    · cases p with
      | opening callee =>
        refine Nat.lt_of_lt_of_le ?_ (maxMarked_le_foldl_visit ps _)
        rw [maxMarked_visit_opening, marked_visit_opening, if_pos hm]
        omega
      | closing => simp [opensMarked] at hm
    · exact ih hp _

end Marked

end Nesting

section Conditions

theorem isAscii_asciiUpper (c : Char) :
    decide ((asciiUpper c).toNat < 0x80) = decide (c.toNat < 0x80) :=
  apply_asciiMap asciiUpper_eq_self (fun c => decide (c.toNat < 0x80)) (by decide) c

theorem isFunctionName_map_asciiUpper (w : List Char) :
    Lexeme.isFunctionName (w.map asciiUpper) = Lexeme.isFunctionName w := by
  cases w with
  | nil => rfl
  | cons c w =>
    simp [Lexeme.isFunctionName, isAsciiLetter_asciiUpper, isAscii_asciiUpper, Function.comp_def]

theorem isFunctionName_of_isConditional {w : List Char} (h : isConditional w = true) :
    Lexeme.isFunctionName w = true := by
  have hall : ∀ name ∈ nestingConditionals, Lexeme.isFunctionName name.toList = true := by decide
  have hw := hall _ (List.contains_iff_mem.mp h)
  rwa [String.toList_ofList, isFunctionName_map_asciiUpper] at hw

/-- The function that a parenthesis belongs to. -/
def Paren.function? : Paren → Option (List Char)
  | .opening callee => if Lexeme.isFunctionName callee then some callee else none
  | .closing => none

/-- The words before the parentheses that name functions are the called ones. -/
theorem Lexeme.filterMap_parens (w : List Char) (ls : List Lexeme) :
    (parens w ls).filterMap Paren.function? =
      (if isFunctionName w && opensNext ls then [w] else []) ++ calledWords ls := by
  induction ls generalizing w with
  | nil => simp [parens, opensNext, calledWords]
  | cons l ls ih =>
    have hempty : (parens [] ls).filterMap Paren.function? = calledWords ls := by
      simp [ih, isFunctionName]
    cases l with
    | word v =>
      have hnext : opensNext (.word v :: ls) = false := rfl
      rw [parens, ih, calledWords, hnext, Bool.and_false]
      by_cases hv : (isFunctionName v && opensNext ls) = true <;> simp [hv]
    | bracketed name | quoted body => simp [parens, hempty, opensNext, calledWords]
    | mark c =>
      rw [parens, opensNext, calledWords]
      · by_cases hb : isBlank c = true
        · have hc : c ≠ '(' := by
            rintro rfl
            exact absurd hb (by decide)
          simp [hb, hc, ih]
        · rw [if_neg hb, Bool.eq_false_iff.mpr hb, Bool.false_and, Bool.or_false]
          by_cases hopen : c = '('
          · by_cases hw : isFunctionName w = true <;> simp [hopen, hw, hempty, Paren.function?]
          · rw [if_neg hopen, beq_false_of_ne hopen, Bool.and_false, if_neg Bool.false_ne_true]
            split_ifs
            · exact hempty
            · exact hempty
      · simp

/-- The marked parentheses are those of the calls of conditions. -/
theorem countP_parens (code : List Char) :
    (Lexeme.parens [] (lexemes code)).countP (Nesting.opensMarked isConditional) =
      ((functionCalls code).filter nestingConditionals.contains).length := by
  have hopens : ∀ p : Paren, Nesting.opensMarked isConditional p =
      (p.function?.map isConditional).getD false := by
    intro p
    cases p with
    | opening callee =>
      by_cases hc : isConditional callee = true
      · have hname := isFunctionName_of_isConditional hc
        have hne : callee ≠ [] := by
          rintro rfl
          exact absurd hname (by decide)
        simp [Nesting.opensMarked, Paren.function?, hc, hname, hne]
      · by_cases hname : Lexeme.isFunctionName callee = true <;>
          simp [Nesting.opensMarked, Paren.function?, hc, hname]
    | closing => rfl
  have hwords : (Lexeme.parens [] (lexemes code)).filterMap Paren.function? =
      Lexeme.calledWords (lexemes code) := by
    simp [Lexeme.filterMap_parens, Lexeme.isFunctionName]
  rw [List.countP_congr fun p _ => by rw [hopens p], ← List.countP_filterMap, hwords,
    functionCalls_eq, Lexeme.calls, List.filter_map, List.length_map, List.countP_eq_length_filter]
  rfl

/-- Conditions nest as deep as some calls of theirs stand in each other. The depth is not zero exactly if
a condition is called, and it is at most the number of those calls and at most the depth of all
parentheses. In whatever text the pass has read, the marked parentheses it counts are those on its stack,
so there is one to be taken off when a marked one is closed. -/
theorem conditionalDepth_strip (formula : List Char) :
    let code := strip formula
    let calls := functionCalls code
    (1 ≤ conditionalDepth code ↔ "IF" ∈ calls ∨ "SWITCH" ∈ calls ∨ "IF.EAGER" ∈ calls) ∧
      conditionalDepth code ≤ (calls.filter nestingConditionals.contains).length ∧
      conditionalDepth code ≤ parenDepth code ∧
      ∀ (isMarked : List Char → Bool) (read : List Char),
        let n := Nesting.scan isMarked read
        n.marked = n.stack.count true ∧ (n.stack.head? = some true → 0 < n.marked) := by
  intro code calls
  have hle : conditionalDepth code ≤ (calls.filter nestingConditionals.contains).length := by
    have hcount := @Nesting.maxMarked_foldl_visit_le isConditional (Lexeme.parens [] (lexemes code)) {}
    rw [← Nesting.maxMarked_scan, countP_parens] at hcount
    simpa [conditionalDepth] using hcount
  have hcalled : 0 < (calls.filter nestingConditionals.contains).length ↔
      "IF" ∈ calls ∨ "SWITCH" ∈ calls ∨ "IF.EAGER" ∈ calls := by
    simp [List.length_pos_iff_exists_mem, nestingConditionals, and_or_left, exists_or]
  have hname : 1 ≤ conditionalDepth code → "IF" ∈ calls ∨ "SWITCH" ∈ calls ∨ "IF.EAGER" ∈ calls :=
    fun h => hcalled.mp (Nat.lt_of_lt_of_le h hle)
  refine ⟨⟨hname, fun h => ?_⟩, hle, ?_, fun isMarked read => ?_⟩
  · have hpos := hcalled.mpr h
    rw [← countP_parens, List.countP_pos_iff] at hpos
    obtain ⟨p, hp, hm⟩ := hpos
    have hopen := Nesting.maxMarked_foldl_visit_pos hp hm {}
    rwa [← Nesting.maxMarked_scan] at hopen
  · refine Nat.le_trans (Nesting.tallied_scan isConditional code).maxMarked_le ?_
    have hstart : Nesting.Below {} {} := ⟨Nat.le_refl _, Nat.le_refl _⟩
    have hbelow := hstart.foldl_visit isConditional (fun _ => false) (Lexeme.parens [] (lexemes code))
    rw [parenDepth, Nesting.maxDepth_scan, Nesting.maxDepth_scan]
    exact hbelow.maxDepth_le
  · have htally := (Nesting.tallied_scan isMarked read).marked_eq
    refine ⟨htally, fun htop => ?_⟩
    rw [htally, List.count_pos_iff]
    exact List.mem_of_mem_head? htop

end Conditions

end Tabular.Formula
