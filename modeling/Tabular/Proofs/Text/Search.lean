import Tabular.Text.Search

/-!
# Texts up to a character

A character that ends a search separates what comes before it from what comes after. A maximal run of
characters ends before the first one that does not go on with it.
-/

namespace Tabular.Text

variable {c : Char} {s : List Char}

theorem occursIn_iff {pattern : List Char} : occursIn pattern s = true ↔ pattern <:+: s := by
  induction s with
  | nil => rw [occursIn, List.isEmpty_iff, List.infix_nil]
  | cons d s ih =>
    rw [occursIn, Bool.or_eq_true, ih, List.isPrefixOf_iff_prefix, List.infix_cons_iff]

section Infix

variable {α : Type} {x : α} {k p u v : List α}

theorem infix_append_cons_iff (hx : x ∉ p) : p <:+: u ++ x :: v ↔ p <:+: u ∨ p <:+: v := by
  constructor
  · intro h
    obtain h | h | ⟨p₁, p₂, -, hp₂, rfl, -, h⟩ := List.infix_append_iff_ne_nil.mp h
    · exact .inl h
    · obtain h | h := List.infix_cons_iff.mp h
      · cases p with
        | nil => exact .inl (List.nil_infix)
        | cons y p => exact absurd (List.cons_prefix_cons.mp h).1 fun hy => hx (hy ▸ List.mem_cons_self)
      · exact .inr h
    · obtain ⟨y, p₂, rfl⟩ := List.exists_cons_of_ne_nil hp₂
      obtain ⟨rfl, -⟩ := List.cons_prefix_cons.mp h
      exact absurd (List.mem_append_right p₁ List.mem_cons_self) hx
  · rintro (h | h)
    · exact h.trans (List.prefix_append u (x :: v)).isInfix
    · exact h.trans ((List.suffix_cons x v).trans (List.suffix_append u (x :: v))).isInfix

theorem cons_infix_append_iff (hx : x ∉ u) : x :: p <:+: u ++ v ↔ x :: p <:+: v := by
  induction u with
  | nil => rfl
  | cons y u ih =>
    rw [List.mem_cons, not_or] at hx
    rw [List.cons_append, List.infix_cons_iff, List.cons_prefix_cons, ih hx.2]
    exact or_iff_right fun h => hx.1 h.1

/-- A text is found behind another one or across its end, where it falls into two known parts if neither
can go on over the end. -/
theorem append_cons_infix_append_iff (hx : x ∉ u) (hv : ∀ y ∈ v.head?, y ∉ k) :
    k ++ x :: p <:+: u ++ v ↔ (k <:+ u ∧ x :: p <+: v) ∨ k ++ x :: p <:+: v := by
  constructor
  · rintro ⟨before, after, h⟩
    rw [List.append_assoc, List.append_assoc] at h
    obtain ⟨w, rfl, hw⟩ | ⟨w, rfl, rfl⟩ := List.append_eq_append_iff.mp h
    · obtain ⟨w', rfl, hw'⟩ | ⟨w', rfl, rfl⟩ := List.append_eq_append_iff.mp hw
      · cases w' with
        | nil => exact .inl ⟨by simp, ⟨after, by simpa using hw'⟩⟩
        | cons y w' =>
          obtain ⟨rfl, -⟩ := List.cons.inj hw'
          exact absurd (by simp) hx
      · cases w' with
        | nil => exact .inl ⟨by simp, ⟨after, by simp⟩⟩
        | cons y w' => exact absurd (by simp) (hv y (by simp))
    · exact .inr ⟨w, after, by simp⟩
  · rintro (⟨⟨before, rfl⟩, ⟨after, rfl⟩⟩ | h)
    · exact ⟨before, after, by simp⟩
    · exact h.trans (List.suffix_append u v).isInfix

end Infix

theorem splitAtFirst_append (h : c ∉ s) (t : List Char) :
    splitAtFirst c (s ++ c :: t) = some (s, t) := by
  induction s with
  | nil => simp [splitAtFirst]
  | cons d s ih =>
    have hd : d ≠ c := fun e => h (e ▸ List.mem_cons_self)
    rw [List.cons_append, splitAtFirst, if_neg hd, ih fun hs => h (List.mem_cons_of_mem d hs)]
    rfl

theorem notMem_of_splitAtFirst_eq_none (h : splitAtFirst c s = none) : c ∉ s := by
  intro hc
  obtain ⟨u, v, rfl, hu⟩ := List.eq_append_cons_of_mem hc
  simp [splitAtFirst_append hu] at h

theorem splitAtFirst_eq_none (h : c ∉ s) : splitAtFirst c s = none := by
  cases hs : splitAtFirst c s with
  | none => rfl
  | some p =>
    obtain ⟨before, after⟩ := p
    obtain ⟨rfl, -⟩ := splitAtFirst_eq_some hs
    exact absurd (List.mem_append_right before List.mem_cons_self) h

/-- A text is cut at the first occurrence of a character in one way only. -/
theorem eq_of_append_cons_eq {s' t t' : List Char} (h : c ∉ s) (h' : c ∉ s')
    (he : s ++ c :: t = s' ++ c :: t') : s = s' ∧ t = t' := by
  have hs := splitAtFirst_append h t
  rw [he, splitAtFirst_append h' t', Option.some.injEq, Prod.mk.injEq] at hs
  exact ⟨hs.1.symm, hs.2.symm⟩

theorem takeWhile_append_stop {p : Char → Bool} (hc : p c = false) (s t : List Char) :
    (s ++ c :: t).takeWhile p = s.takeWhile p := by
  induction s with
  | nil => simp [hc]
  | cons x s ih => cases hx : p x <;> simp [hx, ih]

theorem dropWhile_append_stop {p : Char → Bool} (hc : p c = false) (s t : List Char) :
    (s ++ c :: t).dropWhile p = s.dropWhile p ++ c :: t := by
  induction s with
  | nil => simp [hc]
  | cons x s ih => cases hx : p x <;> simp [hx, ih]

section Runs

variable {p : Char → Bool} {t : List Char}

theorem head?_dropWhile : ∀ d ∈ (s.dropWhile p).head?, p d = false := by
  intro d hd
  have hn := List.head?_dropWhile_not p s
  rw [Option.mem_def.mp hd] at hn
  simpa using hn

theorem takeWhile_run (hs : ∀ d ∈ s, p d = true) (ht : ∀ d ∈ t.head?, p d = false) :
    (s ++ t).takeWhile p = s := by
  rw [List.takeWhile_append_of_pos hs]
  cases t with
  | nil => simp
  | cons d t => simp [ht d rfl]

theorem dropWhile_run (hs : ∀ d ∈ s, p d = true) (ht : ∀ d ∈ t.head?, p d = false) :
    (s ++ t).dropWhile p = t := by
  rw [List.dropWhile_append_of_pos hs]
  cases t with
  | nil => rfl
  | cons d t => simp [ht d rfl]

end Runs

end Tabular.Text
