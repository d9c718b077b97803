import Tabular.Formula.Mask
import Tabular.Formula.Strip
import Tabular.Text.Blank
import Tabular.Text.Letter
import Tabular.Text.Quoted

/-!
# References in a formula

A formula refers to a measure or to a column of its own table by `[Name]`, to a column of any table
by `Table[Column]` or `'Table'[Column]`, and to a table by `'Table'`. References are found in the
masked text, and the names in brackets are cut out of the text itself at the same offsets.
-/

namespace Tabular.Formula

open Text

/-- The bytes from `first` to before `last`. -/
structure Span where
  first : Nat
  last : Nat
  deriving DecidableEq, Repr

/-- A bracket with content at the start of a text: the content and what follows. -/
def bracketAt? : List Char → Option (List Char × List Char)
  | '[' :: cs =>
    match cs.takeWhile (· != ']'), cs.dropWhile (· != ']') with
    | [], _ => none
    | content, ']' :: rest => some (content, rest)
    | _, _ => none
  | _ => none

/-- The body of a quoted name whose opening quote has been taken, with its quotes still doubled, and
what follows the closing quote. -/
def quotedBody : List Char → Option (List Char × List Char)
  | [] => none
  | '\'' :: '\'' :: r => (quotedBody r).map fun p => ('\'' :: '\'' :: p.1, p.2)
  | '\'' :: r => some ([], r)
  | c :: r => (quotedBody r).map fun p => (c :: p.1, p.2)

/-- The body up to the last doubled quote, which is cut in two: the way in which a name is closed
that has no closing quote of its own. -/
def cutBody : List Char → Option (List Char × List Char)
  | [] => none
  | '\'' :: '\'' :: r =>
    match cutBody r with
    | some p => some ('\'' :: '\'' :: p.1, p.2)
    | none => some ([], '\'' :: r)
  | c :: r => (cutBody r).map fun p => (c :: p.1, p.2)

/-- A quoted name at the start of a text: its body, which is not empty, and what follows. -/
def quotedAt? : List Char → Option (List Char × List Char)
  | '\'' :: cs =>
    match (quotedBody cs).or (cutBody cs) with
    | some ([], _) => none
    | r => r
  | _ => none

def isTableStart (c : Char) : Bool := c == '_' || isLetter c

def isTableChar (c : Char) : Bool := c == '_' || isLetter c || isNumber c

/-- A table name at the start of a text: how it is written, the name itself, and what follows. -/
def tableAt? : List Char → Option (List Char × List Char × List Char)
  | '\'' :: cs =>
    match quotedBody cs with
    | some ([], _) | none => none
    | some (body, rest) => some ('\'' :: body ++ ['\''], halveQuotes body, rest)
  | c :: cs =>
    if isTableStart c then
      let name := c :: cs.takeWhile isTableChar
      some (name, name, cs.dropWhile isTableChar)
    else none
  | [] => none

/-- A column reference with its table, found in a masked text. -/
structure QualifiedMatch where
  table : List Char
  column : Span
  deriving DecidableEq, Repr

/-- A column reference with its table at the start of a text that begins at an offset, and what
follows it. -/
def qualifiedAt? (offset : Nat) (s : List Char) : Option (QualifiedMatch × List Char) :=
  match tableAt? s with
  | some (written, name, rest) =>
    match bracketAt? rest with
    | some (content, rest) =>
      let first := offset + utf8Length written + 1
      some (⟨name, ⟨first, first + utf8Length content⟩⟩, rest)
    | none => none
  | none => none

theorem bracketAt?_length {s content rest : List Char} (h : bracketAt? s = some (content, rest)) :
    rest.length < s.length := by
  match s with
  | [] => simp [bracketAt?] at h
  | c :: cs =>
    have hd := (List.dropWhile_sublist (fun x => x != ']') (l := cs)).length_le
    unfold bracketAt? at h
    split at h
    · next heq =>
      simp only [List.cons.injEq] at heq
      obtain ⟨rfl, rfl⟩ := heq
      split at h
      · simp at h
      · next hdrop _ =>
        simp only [Option.some.injEq, Prod.mk.injEq] at h
        rw [hdrop, List.length_cons] at hd
        rw [← h.2, List.length_cons]
        omega
      · simp at h
    · simp at h

theorem quotedBody_length {s body rest : List Char} (h : quotedBody s = some (body, rest)) :
    rest.length < s.length := by
  fun_induction quotedBody s generalizing body with
  | case1 => simp at h
  | case2 r ih =>
    obtain ⟨⟨n, t⟩, hr, he⟩ := Option.map_eq_some_iff.1 h
    simp only [Prod.mk.injEq] at he
    have := ih (he.2 ▸ hr)
    simp only [List.length_cons]
    omega
  | case3 r => simp_all
  | case4 c r _ _ ih =>
    obtain ⟨⟨n, t⟩, hr, he⟩ := Option.map_eq_some_iff.1 h
    simp only [Prod.mk.injEq] at he
    have := ih (he.2 ▸ hr)
    simp only [List.length_cons]
    omega

theorem cutBody_length {s body rest : List Char} (h : cutBody s = some (body, rest)) :
    rest.length < s.length := by
  fun_induction cutBody s generalizing body with
  | case1 => simp at h
  | case2 r p hp ih =>
    simp only [Option.some.injEq, Prod.mk.injEq] at h
    have := @ih p.1 (by rw [hp, ← h.2])
    simp only [List.length_cons]
    omega
  | case3 r hp ih =>
    simp only [Option.some.injEq, Prod.mk.injEq] at h
    simp [← h.2]
  | case4 c r _ ih =>
    obtain ⟨⟨n, t⟩, hr, he⟩ := Option.map_eq_some_iff.1 h
    simp only [Prod.mk.injEq] at he
    have := ih (he.2 ▸ hr)
    simp only [List.length_cons]
    omega

theorem quotedAt?_length {s body rest : List Char} (h : quotedAt? s = some (body, rest)) :
    rest.length < s.length := by
  unfold quotedAt? at h
  split at h
  · next cs =>
    split at h
    · simp at h
    · rcases Option.or_eq_some_iff.1 h with h | ⟨-, h⟩
      · have := quotedBody_length h
        simp only [List.length_cons]
        omega
      · have := cutBody_length h
        simp only [List.length_cons]
        omega
  · simp at h

theorem tableAt?_length {s written name rest : List Char}
    (h : tableAt? s = some (written, name, rest)) : rest.length < s.length := by
  unfold tableAt? at h
  split at h
  · split at h
    · simp at h
    · simp at h
    · next hq =>
      simp only [Option.some.injEq, Prod.mk.injEq] at h
      have := quotedBody_length hq
      simp only [← h.2.2, List.length_cons]
      omega
  · next c cs _ =>
    have hd := (List.dropWhile_sublist isTableChar (l := cs)).length_le
    split at h
    · simp only [Option.some.injEq, Prod.mk.injEq] at h
      simp only [← h.2.2, List.length_cons]
      omega
    · simp at h
  · simp at h

theorem qualifiedAt?_length {offset : Nat} {s rest : List Char} {m : QualifiedMatch}
    (h : qualifiedAt? offset s = some (m, rest)) : rest.length < s.length := by
  unfold qualifiedAt? at h
  split at h
  · next ht =>
    split at h
    · next hb =>
      simp only [Option.some.injEq, Prod.mk.injEq] at h
      have h₁ := tableAt?_length ht
      have h₂ := bracketAt?_length hb
      rw [← h.2]
      omega
    · simp at h
  · simp at h

/-- The column references with tables of a text that begins at an offset, from left to right. -/
def qualifiedMatches (offset : Nat) (s : List Char) : List QualifiedMatch :=
  match s with
  | [] => []
  | c :: cs =>
    match h : qualifiedAt? offset (c :: cs) with
    | some (m, rest) => m :: qualifiedMatches (m.column.last + 1) rest
    | none => qualifiedMatches (offset + c.utf8Size) cs
termination_by s.length
decreasing_by
  · exact qualifiedAt?_length h
  · simp

/-- The quoted names of a text that no bracket follows, from left to right. -/
def loneQuotedNames (s : List Char) : List (List Char) :=
  match s with
  | [] => []
  | c :: cs =>
    match _ : quotedAt? (c :: cs) with
    | some (body, rest) =>
      if rest.head? = some '[' then loneQuotedNames rest
      else halveQuotes body :: loneQuotedNames rest
    | none => loneQuotedNames cs
termination_by s.length
decreasing_by
  · exact quotedAt?_length ‹_›
  · exact quotedAt?_length ‹_›
  · simp

/-- Whether a bracket after this character belongs to a table name. -/
def isQualifier (before : Option Char) : Bool := before.any fun c => c == '\'' || isWordChar c

/-- The brackets of a text that begins at an offset and stands after a character, as far as no table
name precedes them, from left to right. -/
def bracketMatches (before : Option Char) (offset : Nat) (s : List Char) : List Span :=
  match s with
  | [] => []
  | c :: cs =>
    match h : bracketAt? (c :: cs) with
    | some (content, rest) =>
      let last := offset + 1 + utf8Length content
      let others := bracketMatches (some ']') (last + 1) rest
      if isQualifier before then others else ⟨offset + 1, last⟩ :: others
    | none => bracketMatches (some c) (offset + c.utf8Size) cs
termination_by s.length
decreasing_by
  · exact bracketAt?_length h
  · simp

def Span.name? (span : Span) (code : List Char) : Option String :=
  (sliceUtf8 span.first span.last code).map fun s => String.ofList (trim s)

/-- Drops the later ones of equal items. -/
def distinct {α : Type} [BEq α] (items : List α) : List α :=
  items.foldl (fun seen x => if seen.contains x then seen else seen ++ [x]) []

/-- The references of a formula, each kind without repeats in order of first occurrence. -/
structure References where
  /-- Names in brackets without a table. -/
  brackets : List String
  /-- Tables with columns. -/
  qualified : List (String × String)
  /-- Quoted tables without columns. -/
  loneTables : List String
  deriving DecidableEq, Repr

namespace References

/-- The formula refers to nothing. -/
def isEmpty (r : References) : Bool :=
  r.brackets.isEmpty && r.qualified.isEmpty && r.loneTables.isEmpty

/-- The tables referred to, those with columns first. -/
def tables (r : References) : List String :=
  distinct (r.qualified.map Prod.fst ++ r.loneTables)

def ofCode (code : List Char) : References :=
  let masked := mask code
  let qualified := (qualifiedMatches 0 masked).filterMap fun m =>
    (m.column.name? code).map fun column => (String.ofList m.table, column)
  let brackets := (bracketMatches none 0 masked).filterMap fun s => s.name? code
  { brackets := distinct (brackets.filter (!·.isEmpty))
    qualified := distinct qualified
    loneTables := distinct ((loneQuotedNames masked).map String.ofList) }

def ofFormula (formula : List Char) : References := ofCode (strip formula)

end References

end Tabular.Formula
