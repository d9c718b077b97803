/-!
# Offsets in UTF-8

Positions in a text are counted in the bytes of its UTF-8 form. A text can be cut only where a
character begins or at its end.
-/

namespace Tabular.Text

/-- The number of bytes of a text in UTF-8. -/
def utf8Length (s : List Char) : Nat :=
  s.foldr (fun c n => c.utf8Size + n) 0

/-- The text from byte offset `n` on; nothing when no character begins there. -/
def dropUtf8 : Nat → List Char → Option (List Char)
  | 0, s => some s
  | _ + 1, [] => none
  | n + 1, c :: cs => if n + 1 < c.utf8Size then none else dropUtf8 (n + 1 - c.utf8Size) cs
termination_by _ s => s.length

/-- The text before byte offset `n`; nothing when no character begins there. -/
def takeUtf8 : Nat → List Char → Option (List Char)
  | 0, _ => some []
  | _ + 1, [] => none
  | n + 1, c :: cs =>
    if n + 1 < c.utf8Size then none else (takeUtf8 (n + 1 - c.utf8Size) cs).map (c :: ·)
termination_by _ s => s.length

def sliceUtf8 (first last : Nat) (s : List Char) : Option (List Char) :=
  if first ≤ last then (dropUtf8 first s).bind (takeUtf8 (last - first)) else none

@[simp] theorem utf8Length_nil : utf8Length [] = 0 := rfl

@[simp] theorem utf8Length_cons (c : Char) (s : List Char) :
    utf8Length (c :: s) = c.utf8Size + utf8Length s := rfl

@[simp] theorem utf8Length_append (s t : List Char) :
    utf8Length (s ++ t) = utf8Length s + utf8Length t := by
  induction s with
  | nil => simp
  | cons c s ih => simp [ih, Nat.add_assoc]

@[simp] theorem dropUtf8_zero (s : List Char) : dropUtf8 0 s = some s := by
  simp [dropUtf8]

end Tabular.Text
