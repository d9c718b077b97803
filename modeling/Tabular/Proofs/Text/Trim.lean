import Mathlib.Data.List.DropRight
import Tabular.Text.Blank

/-!
# Trimmed texts

A text that trimming leaves alone begins and ends with a character that is not blank, unless it is
empty. Blanks put around such a text are what trimming removes.
-/

namespace Tabular.Text

theorem trimStart_eq_self_iff {s : List Char} :
    trimStart s = s ↔ ∀ c ∈ s.head?, isBlank c = false := by
  cases s with
  | nil => simp
  | cons c s =>
    cases h : isBlank c with
    | false => simp [trimStart_cons_of_not_blank h, h]
    | true =>
      have hl : (trimStart s).length ≤ s.length := (List.dropWhile_sublist _).length_le
      constructor
      · intro he
        rw [trimStart_cons_of_blank h] at he
        rw [he, List.length_cons] at hl
        omega
      · intro hc
        simp [h] at hc

theorem exists_append_trimStart (s : List Char) :
    ∃ blanks, s = blanks ++ trimStart s ∧ ∀ c ∈ blanks, isBlank c = true :=
  ⟨s.takeWhile isBlank, List.takeWhile_append_dropWhile.symm,
    List.all_eq_true.mp List.all_takeWhile⟩

@[simp] theorem trimStart_trimStart (s : List Char) : trimStart (trimStart s) = trimStart s :=
  List.dropWhile_idempotent isBlank s

theorem trimEnd_eq_self_iff {s : List Char} :
    trimEnd s = s ↔ ∀ c ∈ s.getLast?, isBlank c = false := by
  rw [← List.head?_reverse, ← trimStart_eq_self_iff, trimEnd, List.reverse_eq_iff]
  rfl

theorem trim_eq_self_iff {s : List Char} : trim s = s ↔ trimStart s = s ∧ trimEnd s = s := by
  constructor
  · intro h
    have hs : (trimStart s).length ≤ s.length := (List.dropWhile_sublist _).length_le
    have he : (trim s).length ≤ (trimStart s).length := by
      have hd : ((trimStart s).reverse.dropWhile isBlank).length ≤ (trimStart s).reverse.length :=
        (List.dropWhile_sublist _).length_le
      rw [List.length_reverse] at hd
      rw [trim, trimEnd, List.length_reverse]
      exact hd
    have hts : trimStart s = s :=
      (List.dropWhile_sublist _).eq_of_length_le (by rw [h] at he; exact he)
    exact ⟨hts, by rw [trim, hts] at h; exact h⟩
  · rintro ⟨hs, he⟩
    rw [trim, hs, he]

theorem trim_eq_self_of_not_blank {s : List Char} (h : ∀ c ∈ s, isBlank c = false) : trim s = s :=
  trim_eq_self_iff.mpr
    ⟨trimStart_eq_self_iff.mpr fun c hc => h c (List.mem_of_mem_head? hc),
      trimEnd_eq_self_iff.mpr fun c hc => h c (List.mem_of_getLast? hc)⟩

theorem trimStart_append_of_blank {p : List Char} (hp : ∀ c ∈ p, isBlank c = true)
    (s : List Char) : trimStart (p ++ s) = trimStart s :=
  List.dropWhile_append_of_pos hp

theorem trim_append_of_blank {p : List Char} (hp : ∀ c ∈ p, isBlank c = true) (s : List Char) :
    trim (p ++ s) = trim s := by
  rw [trim, trimStart_append_of_blank hp, trim]

theorem trim_cons_of_blank {c : Char} (hc : isBlank c = true) (s : List Char) :
    trim (c :: s) = trim s := by
  rw [trim, trimStart_cons_of_blank hc, trim]

theorem isBlankText_append (s t : List Char) :
    isBlankText (s ++ t) = (isBlankText s && isBlankText t) := List.all_append

theorem trimStart_eq_nil_iff {s : List Char} : trimStart s = [] ↔ isBlankText s = true := by
  induction s with
  | nil => simp [isBlankText]
  | cons c s ih =>
    cases h : isBlank c with
    | false => simp [trimStart_cons_of_not_blank h, isBlankText, h]
    | true => simpa [trimStart_cons_of_blank h, isBlankText, h] using ih

theorem isBlankText_trimStart (s : List Char) : isBlankText (trimStart s) = isBlankText s := by
  induction s with
  | nil => rfl
  | cons c s ih =>
    cases h : isBlank c with
    | false => rw [trimStart_cons_of_not_blank h]
    | true =>
      rw [trimStart_cons_of_blank h, ih]
      simp [isBlankText, h]

theorem trim_eq_nil_iff {s : List Char} : trim s = [] ↔ isBlankText s = true := by
  have h : trimStart (trimStart s).reverse = [] ↔ isBlankText (trimStart s) = true := by
    rw [trimStart_eq_nil_iff, isBlankText, List.all_reverse, isBlankText]
  rw [trim, trimEnd, List.reverse_eq_nil_iff, ← isBlankText_trimStart]
  exact h

theorem trimEnd_append_of_blank {t : List Char} (ht : isBlankText t = true) (s : List Char) :
    trimEnd (s ++ t) = trimEnd s := by
  rw [trimEnd, List.reverse_append, List.dropWhile_append_of_pos, trimEnd]
  exact fun c hc => List.all_eq_true.mp ht c (List.mem_reverse.mp hc)

theorem trim_append_blank {p : List Char} (hp : isBlankText p = true) (s : List Char) :
    trim (s ++ p) = trim s := by
  cases hs : isBlankText s with
  | true =>
    have hsp : isBlankText (s ++ p) = true := by
      rw [isBlankText_append, hs, hp, Bool.and_true]
    rw [trim_eq_nil_iff.mpr hsp, trim_eq_nil_iff.mpr hs]
  | false =>
    have hn : (s.dropWhile isBlank).isEmpty = false := by
      rw [List.isEmpty_eq_false_iff]
      exact fun h => by simp [trimStart_eq_nil_iff.mp h] at hs
    rw [trim, trimStart, List.dropWhile_append, hn]
    exact trimEnd_append_of_blank hp (trimStart s)

theorem eq_nil_of_trimStart_append {b s : List Char} (h : trimStart (b ++ s) = b ++ s)
    (hb : isBlankText b = true) : b = [] := by
  cases b with
  | nil => rfl
  | cons c b =>
    have hc : isBlank c = false := trimStart_eq_self_iff.mp h c rfl
    simp [isBlankText, hc] at hb

theorem eq_nil_of_trimEnd_append {s b : List Char} (h : trimEnd (s ++ b) = s ++ b)
    (hb : isBlankText b = true) : b = [] := by
  rw [trimEnd, List.reverse_eq_iff, List.reverse_append] at h
  exact List.reverse_eq_nil_iff.mp (eq_nil_of_trimStart_append h (by rwa [isBlankText, List.all_reverse]))

theorem trimStart_append {s : List Char} (hs : trimStart s = s) (hn : s ≠ []) (t : List Char) :
    trimStart (s ++ t) = s ++ t := by
  rw [trimStart_eq_self_iff] at hs ⊢
  rw [List.head?_append_of_ne_nil _ hn]
  exact hs

theorem trimEnd_append {t : List Char} (ht : trimEnd t = t) (hn : t ≠ []) (s : List Char) :
    trimEnd (s ++ t) = s ++ t := by
  rw [trimEnd_eq_self_iff] at ht ⊢
  rw [List.getLast?_append_of_ne_nil _ hn]
  exact ht

/-- A text is trimmed when what it begins with and what it ends with are. -/
theorem trim_append {s t : List Char} (hs : trimStart s = s) (hsn : s ≠ []) (ht : trimEnd t = t)
    (htn : t ≠ []) : trim (s ++ t) = s ++ t :=
  trim_eq_self_iff.mpr ⟨trimStart_append hs hsn t, trimEnd_append ht htn s⟩

theorem trimStart_append_trimmed {t : List Char} (ht : trimStart t = t) (s : List Char) :
    trimStart (s ++ t) = trimStart s ++ t := by
  rw [trimStart, List.dropWhile_append]
  split
  · next h => rw [trimStart, List.isEmpty_iff.mp h, List.nil_append]; exact ht
  · rfl

theorem trimEnd_trimmed_append {s : List Char} (hs : trimEnd s = s) (t : List Char) :
    trimEnd (s ++ t) = s ++ trimEnd t := by
  have hr : trimStart s.reverse = s.reverse := List.reverse_eq_iff.mp hs
  rw [trimEnd, List.reverse_append]
  exact (congrArg List.reverse (trimStart_append_trimmed hr t.reverse)).trans (by
    rw [List.reverse_append, List.reverse_reverse, trimEnd, trimStart])

theorem trimEnd_append_of_not_blank {t : List Char} (ht : isBlankText t = false) (s : List Char) :
    trimEnd (s ++ t) = s ++ trimEnd t := by
  have hn : (t.reverse.dropWhile isBlank).isEmpty = false := by
    rw [List.isEmpty_eq_false_iff]
    intro h
    have hb := trimStart_eq_nil_iff.mp h
    rw [isBlankText, List.all_reverse] at hb
    exact absurd (hb.symm.trans ht) (by decide)
  rw [trimEnd, List.reverse_append, List.dropWhile_append, hn, if_neg (by decide),
    List.reverse_append, List.reverse_reverse, trimEnd]

theorem prefix_trimEnd (s : List Char) : trimEnd s <+: s := by
  rw [trimEnd, ← List.reverse_suffix, List.reverse_reverse]
  exact List.dropWhile_suffix isBlank

@[simp] theorem trimEnd_trimEnd (s : List Char) : trimEnd (trimEnd s) = trimEnd s := by
  rw [trimEnd, trimEnd, List.reverse_reverse, List.dropWhile_idempotent]

@[simp] theorem trim_trim (s : List Char) : trim (trim s) = trim s := by
  refine trim_eq_self_iff.mpr ⟨trimStart_eq_self_iff.mpr fun c hc => ?_, trimEnd_trimEnd (trimStart s)⟩
  have hs := trimStart_eq_self_iff.mp (trimStart_trimStart s)
  obtain ⟨t, ht⟩ := prefix_trimEnd (trimStart s)
  apply hs
  rw [← ht, List.head?_append]
  exact Option.mem_def.mpr (by rw [← trim, Option.mem_def.mp hc]; rfl)

theorem exists_trimEnd_append (s : List Char) :
    ∃ blanks, s = trimEnd s ++ blanks ∧ isBlankText blanks = true := by
  obtain ⟨blanks, hs, hb⟩ := exists_append_trimStart s.reverse
  refine ⟨blanks.reverse, ?_, ?_⟩
  · have hr := congrArg List.reverse hs
    rwa [List.reverse_reverse, List.reverse_append] at hr
  · rw [isBlankText, List.all_reverse]
    exact List.all_eq_true.mpr hb

theorem exists_append_trim (s : List Char) :
    ∃ before after, s = before ++ trim s ++ after ∧ isBlankText before = true ∧
      isBlankText after = true := by
  obtain ⟨before, hs, hb⟩ := exists_append_trimStart s
  obtain ⟨after, ht, ha⟩ := exists_trimEnd_append (trimStart s)
  refine ⟨before, after, ?_, List.all_eq_true.mpr hb, ha⟩
  rw [trim, List.append_assoc, ← ht, ← hs]

theorem dropBlanks_append (s t : List Char) : dropBlanks (s ++ t) = dropBlanks s ++ dropBlanks t :=
  List.filter_append s t

theorem dropBlanks_eq_nil {s : List Char} (h : isBlankText s = true) : dropBlanks s = [] := by
  rw [dropBlanks, List.filter_eq_nil_iff]
  simpa [isBlankText] using h

/-- Trimming takes blanks only. -/
theorem dropBlanks_trim (s : List Char) : dropBlanks (trim s) = dropBlanks s := by
  obtain ⟨before, after, hs, hb, ha⟩ := exists_append_trim s
  conv => rhs; rw [hs]
  rw [dropBlanks_append, dropBlanks_append, dropBlanks_eq_nil hb, dropBlanks_eq_nil ha, List.nil_append,
    List.append_nil]

end Tabular.Text
