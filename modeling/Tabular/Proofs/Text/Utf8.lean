import Tabular.Text.Utf8

/-!
# Cutting texts at byte offsets

A text put together from parts is cut at the lengths of the parts in bytes.
-/

namespace Tabular.Text

theorem exists_utf8Size_add (c : Char) (n : Nat) : ∃ k, c.utf8Size + n = k + 1 :=
  ⟨c.utf8Size + n - 1, by have := c.utf8Size_pos; omega⟩

theorem utf8Length_eq_zero_iff {s : List Char} : utf8Length s = 0 ↔ s = [] := by
  cases s with
  | nil => simp
  | cons c s =>
    obtain ⟨k, hk⟩ := exists_utf8Size_add c (utf8Length s)
    simp [hk]

theorem dropUtf8_add_append (n : Nat) (s t : List Char) :
    dropUtf8 (utf8Length s + n) (s ++ t) = dropUtf8 n t := by
  induction s with
  | nil => simp
  | cons c s ih =>
    obtain ⟨k, hk⟩ := exists_utf8Size_add c (utf8Length s + n)
    rw [utf8Length_cons, Nat.add_assoc, hk, List.cons_append, dropUtf8, if_neg (by omega)]
    rw [show k + 1 - c.utf8Size = utf8Length s + n by omega]
    exact ih

theorem dropUtf8_append (s t : List Char) : dropUtf8 (utf8Length s) (s ++ t) = some t :=
  (dropUtf8_add_append 0 s t).trans (dropUtf8_zero t)

/-- A text can be cut only between characters, and gives what comes after the cut. -/
theorem dropUtf8_eq_some_iff {n : Nat} {s t : List Char} :
    dropUtf8 n s = some t ↔ ∃ u, s = u ++ t ∧ utf8Length u = n := by
  constructor
  · intro h
    fun_induction dropUtf8 n s with
    | case1 s =>
      obtain rfl := Option.some.inj h
      exact ⟨[], rfl, rfl⟩
    | case2 n => simp at h
    | case3 n c s hc => simp at h
    | case4 n c s hc ih =>
      obtain ⟨u, rfl, hu⟩ := ih h
      refine ⟨c :: u, rfl, ?_⟩
      rw [utf8Length_cons, hu]
      omega
  · rintro ⟨u, rfl, rfl⟩
    exact dropUtf8_append u t

theorem takeUtf8_append (s t : List Char) : takeUtf8 (utf8Length s) (s ++ t) = some s := by
  induction s with
  | nil => simp [takeUtf8]
  | cons c s ih =>
    obtain ⟨k, hk⟩ := exists_utf8Size_add c (utf8Length s)
    rw [utf8Length_cons, hk, List.cons_append, takeUtf8, if_neg (by omega)]
    rw [show k + 1 - c.utf8Size = utf8Length s by omega, ih]
    rfl

theorem sliceUtf8_append (before s after : List Char) :
    sliceUtf8 (utf8Length before) (utf8Length before + utf8Length s) (before ++ s ++ after) =
      some s := by
  rw [sliceUtf8, if_pos (Nat.le_add_right _ _), List.append_assoc, dropUtf8_append,
    Option.bind_some, Nat.add_sub_cancel_left, takeUtf8_append]

end Tabular.Text
