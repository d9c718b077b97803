import Tabular.Formula.Call
import Tabular.Formula.Nesting
import Tabular.Proofs.Formula.Bracket
import Tabular.Proofs.Text.Search
import Tabular.Proofs.Text.Trim

/-!
# What a bracketed name contains

To the scanners of a stripped formula a bracketed name is a pair of brackets: calls and the nesting
of parentheses are those of the formula in which nothing stands between them. Calls are looked for in
the masked text, where blanks take the place of the name, and a bracket begins no call and ends none.
The pass over parentheses reads the text itself and knows a bracket from what is in a quoted name as
masking does.
-/

namespace Tabular.Formula

open Text

section Mask

variable {s : List Char}

theorem mask_append_bracketed {c : List Char} (hs : s.foldl Region.after .code = .code)
    (hc : ']' ∉ c) (t : List Char) :
    mask (s ++ '[' :: (c ++ ']' :: t)) = mask s ++ '[' :: (blanksFor c ++ ']' :: mask t) := by
  rw [mask, maskFrom_append, hs]
  exact congrArg (mask s ++ ·) (mask_bracketed hc t)

theorem mask_append_emptied (hs : s.foldl Region.after .code = .code) (t : List Char) :
    mask (s ++ '[' :: ']' :: t) = mask s ++ '[' :: ']' :: mask t :=
  mask_append_bracketed hs List.not_mem_nil t

end Mask

section Calls

variable {c : Char} {s : List Char}

/-- A call before a bracket is read without it. -/
theorem callAt?_append_bracket (c : Char) (s t : List Char) :
    callAt? (c :: (s ++ '[' :: t)) = (callAt? (c :: s)).map fun r => (r.1, r.2 ++ '[' :: t) := by
  have hb : trimStart ('[' :: t) = '[' :: t := trimStart_cons_of_not_blank (by decide) t
  rw [callAt?, callAt?, takeWhile_append_stop (by decide), dropWhile_append_stop (by decide),
    trimStart_append_trimmed hb]
  split
  · cases trimStart (s.dropWhile isCallChar) with
    | nil => simp
    | cons x rest => by_cases hx : x = '(' <;> simp [hx]
  · rfl

theorem callAt?_eq_none (hc : isAsciiLetter c = false) (t : List Char) :
    callAt? (c :: t) = none := by
  rw [callAt?, hc, if_neg (by decide)]

theorem callsFrom_of_callAt?_eq_none {b : Option Char} {q : Bool} (h : callAt? (c :: s) = none) :
    callsFrom b q (c :: s) = callsFrom (some c) (if c = '\'' then !q else q) s := by
  rw [callsFrom]
  split
  · next hs => simp [h] at hs
  · rfl

theorem callsFrom_of_callAt?_eq_some {b : Option Char} {q : Bool} {name rest : List Char}
    (h : callAt? (c :: s) = some (name, rest)) :
    callsFrom b q (c :: s) =
      if b.any isTokenChar || q then callsFrom (some '(') q rest
      else String.ofList (name.map asciiUpper) :: callsFrom (some '(') q rest := by
  rw [callsFrom]
  split
  · next hs =>
    rw [h, Option.some.injEq, Prod.mk.injEq] at hs
    obtain ⟨rfl, rfl⟩ := hs
    rfl
  · next hs => simp [h] at hs

/-- The calls before a bracket do not depend on what follows it. -/
theorem exists_callsFrom_append_bracket (b : Option Char) (q : Bool) (s : List Char) :
    ∃ (calls : List String) (q' : Bool), ∀ t,
      callsFrom b q (s ++ '[' :: t) = calls ++ callsFrom (some '[') q' t := by
  fun_induction callsFrom b q s with
  | case1 b q =>
    refine ⟨[], q, fun t => ?_⟩
    rw [List.nil_append, callsFrom_of_callAt?_eq_none (callAt?_eq_none (by decide) t)]
    rfl
  | case2 b q c cs name rest h others hq ih =>
    obtain ⟨calls, q', ih⟩ := ih
    refine ⟨calls, q', fun t => ?_⟩
    have hc : callAt? (c :: (cs ++ '[' :: t)) = some (name, rest ++ '[' :: t) := by
      rw [callAt?_append_bracket, h]
      rfl
    rw [List.cons_append, callsFrom_of_callAt?_eq_some hc, if_pos hq, ih]
  | case3 b q c cs name rest h others hq ih =>
    obtain ⟨calls, q', ih⟩ := ih
    refine ⟨String.ofList (name.map asciiUpper) :: calls, q', fun t => ?_⟩
    have hc : callAt? (c :: (cs ++ '[' :: t)) = some (name, rest ++ '[' :: t) := by
      rw [callAt?_append_bracket, h]
      rfl
    rw [List.cons_append, callsFrom_of_callAt?_eq_some hc, if_neg hq, ih, List.cons_append]
  | case4 b q c cs h ih =>
    obtain ⟨calls, q', ih⟩ := ih
    refine ⟨calls, q', fun t => ?_⟩
    have hc : callAt? (c :: (cs ++ '[' :: t)) = none := by
      rw [callAt?_append_bracket, h]
      rfl
    rw [List.cons_append, callsFrom_of_callAt?_eq_none hc]
    exact ih t

theorem callsFrom_closing (b : Option Char) (q : Bool) (t : List Char) :
    callsFrom b q (']' :: t) = callsFrom (some ']') q t :=
  callsFrom_of_callAt?_eq_none (callAt?_eq_none (by decide) t)

theorem callsFrom_blanks {blanks : List Char} (hb : ∀ x ∈ blanks, x = ' ') (b : Option Char)
    (q : Bool) (t : List Char) :
    callsFrom b q (blanks ++ ']' :: t) = callsFrom (some ']') q t := by
  induction blanks generalizing b with
  | nil => exact callsFrom_closing b q t
  | cons x blanks ih =>
    obtain rfl : x = ' ' := hb x List.mem_cons_self
    rw [List.cons_append, callsFrom_of_callAt?_eq_none (callAt?_eq_none (by decide) _)]
    exact ih (fun y hy => hb y (List.mem_cons_of_mem _ hy)) _

/-- The calls of a formula are those with a bracketed name left out of its brackets. -/
theorem functionCalls_bracketed {c : List Char} (hs : s.foldl Region.after .code = .code)
    (hc : ']' ∉ c) (t : List Char) :
    functionCalls (s ++ '[' :: (c ++ ']' :: t)) = functionCalls (s ++ '[' :: ']' :: t) := by
  obtain ⟨calls, q, h⟩ := exists_callsFrom_append_bracket none false (mask s)
  rw [functionCalls, functionCalls, mask_append_bracketed hs hc, mask_append_emptied hs, h, h,
    callsFrom_blanks fun x => eq_blank_of_mem_blanksFor, callsFrom_closing]

end Calls

namespace Nesting

variable {isMarked : List Char → Bool} {n : Nesting} {r : Region} {c : Char} {s : List Char}

/-- The pass takes the next character to stand in a region. -/
structure Agrees (n : Nesting) (r : Region) : Prop where
  bracket : n.inBracket = (r == .bracket)
  quote : n.inQuote = (r == .quote)

@[simp] theorem note_inBracket : (note c n).inBracket = n.inBracket := by
  unfold note
  split_ifs <;> rfl

@[simp] theorem note_inQuote : (note c n).inQuote = n.inQuote := by
  unfold note
  split_ifs <;> rfl

@[simp] theorem push_inBracket : (push isMarked n).inBracket = n.inBracket := rfl

@[simp] theorem push_inQuote : (push isMarked n).inQuote = n.inQuote := rfl

@[simp] theorem pop_inBracket : n.pop.inBracket = n.inBracket := by
  unfold pop
  split <;> rfl

@[simp] theorem pop_inQuote : n.pop.inQuote = n.inQuote := by
  unfold pop
  split <;> rfl

theorem Agrees.step (h : n.Agrees r) : (step isMarked n c).Agrees (r.after c) := by
  obtain ⟨hb, hq⟩ := h
  cases r with
  | bracket =>
    have hb : n.inBracket = true := hb
    have hq : n.inQuote = false := hq
    by_cases hc : c = ']' <;> constructor <;> simp [Nesting.step, Region.after, hb, hq, hc]
  | quote =>
    have hb : n.inBracket = false := hb
    have hq : n.inQuote = true := hq
    by_cases hc : c = '\'' <;> constructor <;> simp [Nesting.step, Region.after, hb, hq, hc]
  | code =>
    have hb : n.inBracket = false := hb
    have hq : n.inQuote = false := hq
    by_cases hc : c = '[' <;> by_cases hc' : c = '\'' <;> constructor <;>
      simp [Nesting.step, Region.after, hb, hq, hc, hc'] <;> split_ifs <;> simp [hb, hq]

theorem agrees_foldl (h : n.Agrees r) (s : List Char) :
    (s.foldl (Nesting.step isMarked) n).Agrees (s.foldl Region.after r) := by
  induction s generalizing n r with
  | nil => exact h
  | cons c s ih => exact ih h.step

theorem foldl_step_inBracket (h : n.inBracket = true) (hs : ']' ∉ s) :
    s.foldl (Nesting.step isMarked) n = n := by
  induction s with
  | nil => rfl
  | cons c s ih =>
    rw [List.mem_cons, not_or] at hs
    have hc : (c != ']') = n.inBracket := by rw [h, bne_iff_ne]; exact Ne.symm hs.1
    rw [List.foldl_cons, Nesting.step, if_pos h, hc]
    exact ih hs.2

theorem scan_bracketed {c : List Char} (hs : s.foldl Region.after .code = .code) (hc : ']' ∉ c)
    (t : List Char) :
    scan isMarked (s ++ '[' :: (c ++ ']' :: t)) = scan isMarked (s ++ '[' :: ']' :: t) := by
  have ha : (s.foldl (Nesting.step isMarked) {}).Agrees .code := hs ▸ agrees_foldl ⟨rfl, rfl⟩ s
  have hb : (Nesting.step isMarked (s.foldl (Nesting.step isMarked) {}) '[').inBracket = true :=
    ha.step.bracket
  rw [scan, scan, List.foldl_append, List.foldl_cons, List.foldl_append,
    foldl_step_inBracket hb hc, List.foldl_append, List.foldl_cons, List.foldl_cons, List.foldl_cons]

end Nesting

end Tabular.Formula
