import Tabular.Proofs.Text.Trim
import Tabular.Text.Quoted

/-!
# Writing quoted names and values

A name is written between single quotes with each of its own doubled, a value between double quotes
as it is. Both are read back whatever they hold.
-/

namespace Tabular.Text

def quoteName (s : List Char) : List Char := '\'' :: doubleQuotes s ++ ['\'']

def quoteValue (s : List Char) : List Char := '"' :: s ++ ['"']

@[simp] theorem doubleQuotes_nil : doubleQuotes [] = [] := rfl

theorem doubleQuotes_cons (c : Char) (s : List Char) :
    doubleQuotes (c :: s) = (if c = '\'' then ['\'', '\''] else [c]) ++ doubleQuotes s := rfl

theorem mem_doubleQuotes {s : List Char} {c : Char} : c ∈ doubleQuotes s ↔ c ∈ s := by
  induction s with
  | nil => simp
  | cons d s ih =>
    rw [doubleQuotes_cons, List.mem_append, ih, List.mem_cons]
    split
    · next h => simp [h]
    · simp

theorem readQuoted_doubleQuotes (s : List Char) {rest : List Char} (h : rest.head? ≠ some '\'') :
    readQuoted (doubleQuotes s ++ '\'' :: rest) = some (s, rest) := by
  induction s with
  | nil =>
    cases rest with
    | nil => rfl
    | cons c r =>
      have hc : c ≠ '\'' := by simpa using h
      simp [readQuoted, hc]
  | cons c s ih =>
    rw [doubleQuotes_cons]
    split
    · next hc =>
      subst hc
      simp [readQuoted, ih]
    · next hc => simp [readQuoted, hc, ih]

theorem halveQuotes_doubleQuotes (s : List Char) : halveQuotes (doubleQuotes s) = s := by
  induction s with
  | nil => rfl
  | cons c s ih =>
    rw [doubleQuotes_cons]
    split
    · next hc =>
      subst hc
      simp [halveQuotes, ih]
    · next hc => simp [halveQuotes, hc, ih]

theorem between?_quoted (q : Char) (s : List Char) : between? q (q :: s ++ [q]) = some s := by
  cases s with
  | nil => simp [between?]
  | cons c s =>
    have hl : (c :: (s ++ [q])).getLast? = some q := by
      rw [← List.cons_append, List.getLast?_concat]
    have hd : (c :: (s ++ [q])).dropLast = c :: s := by
      rw [← List.cons_append, List.dropLast_concat]
    rw [List.cons_append, List.cons_append, between?, if_pos ⟨rfl, hl⟩, hd]

theorem trim_quoted {q : Char} (hq : isBlank q = false) (s : List Char) :
    trim (q :: s ++ [q]) = q :: s ++ [q] :=
  trim_eq_self_iff.mpr ⟨trimStart_eq_self_iff.mpr (by simp [hq]),
    trimEnd_eq_self_iff.mpr (by rw [List.getLast?_concat]; simp [hq])⟩

theorem trim_quoteName (s : List Char) : trim (quoteName s) = quoteName s :=
  trim_quoted (by decide) (doubleQuotes s)

theorem trim_quoteValue (s : List Char) : trim (quoteValue s) = quoteValue s :=
  trim_quoted (by decide) s

theorem unquoteName_quoteName (s : List Char) : unquoteName (quoteName s) = s := by
  rw [unquoteName, trim_quoteName, quoteName, between?_quoted]
  exact halveQuotes_doubleQuotes s

theorem unquoteValue_quoteValue (s : List Char) : unquoteValue (quoteValue s) = s := by
  rw [unquoteValue, trim_quoteValue, quoteValue, between?_quoted]

theorem newline_notMem_quoteName {s : List Char} (h : '\n' ∉ s) : '\n' ∉ quoteName s := by
  simpa [quoteName, mem_doubleQuotes] using h

theorem newline_notMem_quoteValue {s : List Char} (h : '\n' ∉ s) : '\n' ∉ quoteValue s := by
  simpa [quoteValue] using h

end Tabular.Text
