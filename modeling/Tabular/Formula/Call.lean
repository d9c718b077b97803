import Tabular.Formula.Mask
import Tabular.Formula.Reference
import Tabular.Formula.Vocabulary
import Tabular.Text.Ascii

/-!
# Calls in a formula

A call is a name of ASCII letters, digits, underscores and points that begins with a letter, blanks
if any, and an opening parenthesis. It has to stand outside names and must not continue a word.
-/

namespace Tabular.Formula

open Text

def isCallChar (c : Char) : Bool := isAsciiLetter c || isAsciiDigit c || c == '_' || c == '.'

/-- A character after which a name is not the beginning of a word. -/
def isTokenChar (c : Char) : Bool := isWordChar c || c == '.'

/-- A function name with its opening parenthesis at the start of a text: the name and what follows
the parenthesis. -/
def callAt? : List Char → Option (List Char × List Char)
  | [] => none
  | c :: cs =>
    if isAsciiLetter c then
      match trimStart (cs.dropWhile isCallChar) with
      | '(' :: rest => some (c :: cs.takeWhile isCallChar, rest)
      | _ => none
    else none

theorem callAt?_length {s name rest : List Char} (h : callAt? s = some (name, rest)) :
    rest.length < s.length := by
  unfold callAt? at h
  split at h
  · simp at h
  · next c cs =>
    have h₁ := (List.dropWhile_sublist isCallChar (l := cs)).length_le
    have h₂ := (List.dropWhile_sublist isBlank (l := cs.dropWhile isCallChar)).length_le
    split at h
    · split at h
      · next heq =>
        simp only [Option.some.injEq, Prod.mk.injEq] at h
        rw [trimStart] at heq
        rw [heq, List.length_cons] at h₂
        rw [← h.2, List.length_cons]
        omega
      · simp at h
    · simp at h

/-- The calls of a masked text that stands after a character, inside a quoted name or not. -/
def callsFrom (before : Option Char) (inQuote : Bool) (s : List Char) : List String :=
  match s with
  | [] => []
  | c :: cs =>
    match _ : callAt? (c :: cs) with
    | some (name, rest) =>
      let others := callsFrom (some '(') inQuote rest
      if before.any isTokenChar || inQuote then others
      else String.ofList (name.map asciiUpper) :: others
    | none => callsFrom (some c) (if c = '\'' then !inQuote else inQuote) cs
termination_by s.length
decreasing_by
  · exact callAt?_length ‹_›
  · simp

/-- The functions that a stripped formula calls, in upper case, from left to right. -/
def functionCalls (code : List Char) : List String := callsFrom none false (mask code)

/-- Those calls that belong to a group of functions, without repeats. -/
def callsAmong (functions calls : List String) : List String :=
  distinct (calls.filter functions.contains)

end Tabular.Formula
