import Tabular.Text.Ascii
import Tabular.Text.Letter
import Tabular.Text.LetterCase

/-!
# ASCII case and letter case

Texts that differ in the case of ASCII letters only have one lower-case form. The rule of the final
sigma does not tell them apart: an ASCII letter is cased, whichever case it has. In an upper-case form
there are ASCII characters for ASCII characters, and else only letters for letters.
-/

namespace Tabular.Text

theorem asciiLower_eq_self {c : Char} (h : 0x80 ≤ c.toNat) : asciiLower c = c := by
  refine if_neg fun ⟨_, hz⟩ => ?_
  have hz : c.toNat ≤ 0x5A := hz
  omega

theorem asciiUpper_eq_self {c : Char} (h : 0x80 ≤ c.toNat) : asciiUpper c = c := by
  refine if_neg fun ⟨_, hz⟩ => ?_
  have hz : c.toNat ≤ 0x7A := hz
  omega

/-- What a map of ASCII characters makes no difference to among the first 128 code points, it makes no
difference to at all. -/
theorem apply_asciiMap {α : Type} {g : Char → Char} (hg : ∀ {c : Char}, 0x80 ≤ c.toNat → g c = c)
    (f : Char → α) (h : ∀ n < 0x80, f (g (Char.ofNat n)) = f (Char.ofNat n)) (c : Char) :
    f (g c) = f c := by
  rcases Nat.lt_or_ge c.toNat 0x80 with hc | hc
  · have hf := h c.toNat hc
    rwa [Char.ofNat_toNat] at hf
  · rw [hg hc]

theorem apply_asciiLower {α : Type} (f : Char → α)
    (h : ∀ n < 0x80, f (asciiLower (Char.ofNat n)) = f (Char.ofNat n)) (c : Char) :
    f (asciiLower c) = f c :=
  apply_asciiMap asciiLower_eq_self f h c

@[simp] theorem lowerChar_asciiLower (c : Char) : lowerChar (asciiLower c) = lowerChar c :=
  apply_asciiLower lowerChar (by decide) c

@[simp] theorem isCased_asciiLower (c : Char) : isCased (asciiLower c) = isCased c :=
  apply_asciiLower isCased (by decide) c

@[simp] theorem isCaseIgnorable_asciiLower (c : Char) :
    isCaseIgnorable (asciiLower c) = isCaseIgnorable c :=
  apply_asciiLower isCaseIgnorable (by decide) c

theorem toNat_asciiLower_eq_sigma_iff (c : Char) :
    (asciiLower c).toNat = 0x3A3 ↔ c.toNat = 0x3A3 := by
  rw [← decide_eq_decide]
  exact apply_asciiLower (fun c => decide (c.toNat = 0x3A3)) (by decide) c

theorem startsCased_map_asciiLower (s : List Char) :
    startsCased (s.map asciiLower) = startsCased s := by
  have hi : isCaseIgnorable ∘ asciiLower = isCaseIgnorable := funext isCaseIgnorable_asciiLower
  rw [startsCased, List.dropWhile_map, hi, startsCased]
  cases s.dropWhile isCaseIgnorable <;> simp

theorem lowerAfter_map_asciiLower (before s : List Char) :
    lowerAfter (before.map asciiLower) (s.map asciiLower) = lowerAfter before s := by
  induction s generalizing before with
  | nil => rfl
  | cons c s ih =>
    have hs := ih (c :: before)
    rw [List.map_cons] at hs
    simp only [List.map_cons, lowerAfter, toNat_asciiLower_eq_sigma_iff,
      startsCased_map_asciiLower, lowerChar_asciiLower, hs]

theorem lower_map_asciiLower (s : List Char) : lower (s.map asciiLower) = lower s :=
  lowerAfter_map_asciiLower [] s

/-- What is equal up to the case of ASCII letters is equal up to letter case. -/
theorem lower_eq_of_eqIgnoreCase {s t : String} (h : eqIgnoreCase s t = true) :
    lower s.toList = lower t.toList := by
  rw [← lower_map_asciiLower, eqIgnoreCase_iff.mp h, lower_map_asciiLower]

section Upper

variable {a c x : Char} {s marks : List Char}

theorem isAsciiLetter_asciiUpper (c : Char) : isAsciiLetter (asciiUpper c) = isAsciiLetter c :=
  apply_asciiMap asciiUpper_eq_self isAsciiLetter (by decide) c

theorem asciiUpper_of_not_letter (h : isAsciiLetter c = false) : asciiUpper c = c := by
  refine if_neg fun hc => ?_
  simp [isAsciiLetter, hc] at h

theorem eq_of_asciiUpper_eq (h : asciiUpper c = x) (hx : isAsciiLetter x = false) : c = x := by
  rw [← h, isAsciiLetter_asciiUpper] at hx
  rw [← h, asciiUpper_of_not_letter hx]

theorem upper_append (s t : List Char) : upper (s ++ t) = upper s ++ upper t := List.flatMap_append

theorem upperChar_ascii (h : c.toNat < 0x80) : upperChar c = [asciiUpper c] := if_pos h

theorem upperChar_ne_nil (c : Char) : upperChar c ≠ [] := by
  have himages : ∀ e ∈ toUpperSpecial, e.2 ≠ [] := by decide +kernel
  unfold upperChar
  split
  · simp
  · split
    · next image h =>
      obtain ⟨before, after, he, -⟩ := List.lookup_eq_some_iff.mp h
      simpa using himages (c.toNat, image) (by simp [he])
    · simp

/-- The upper-case images of characters above ASCII hold ASCII characters only where a letter is
written with ASCII letters. -/
theorem isLetter_of_mem_upperChar (hc : 0x80 ≤ c.toNat) (h : a ∈ upperChar c) (ha : a.toNat < 0x80)
    (h₀ : a.toNat ≠ 0) : isLetter c = true ∧ isAsciiLetter a = true := by
  have hspecial : ∀ e ∈ toUpperSpecial, ∀ n ∈ e.2, n < 0x80 →
      isLetter (Char.ofNat e.1) = true ∧ isAsciiLetter (Char.ofNat n) = true := by decide +kernel
  have hruns : ∀ r ∈ toUpperRuns, r.image < 0x80 → r.first = r.last ∧
      isLetter (Char.ofNat r.first) = true ∧ isAsciiLetter (Char.ofNat r.image) = true := by
    decide +kernel
  have hnat {n : Nat} (h : a = Char.ofNat n) : a.toNat = n := by
    by_cases hn : n.isValidChar
    · rw [h, Char.ofNat, dif_pos hn]
      rfl
    · rw [h, Char.ofNat, dif_neg hn] at h₀
      exact absurd rfl h₀
  rw [upperChar, if_neg (by omega)] at h
  split at h
  · next image hl =>
    obtain ⟨before, after, he, -⟩ := List.lookup_eq_some_iff.mp hl
    obtain ⟨n, hn, hmap⟩ := List.mem_map.mp h
    obtain rfl := hnat hmap.symm
    simpa using hspecial (c.toNat, image) (by simp [he]) a.toNat hn ha
  · have hrun := hnat (List.mem_singleton.mp h)
    rw [Run.apply] at hrun
    split at hrun
    · next r hr =>
      obtain ⟨hf, hl, hi⟩ := hruns r (List.mem_of_find?_eq_some hr) (by omega)
      have hin := List.find?_some hr
      simp only [Run.contains, Bool.and_eq_true, decide_eq_true_eq] at hin
      have hfirst : c.toNat = r.first := by omega
      have himage : a.toNat = r.image := by omega
      rw [← hfirst, Char.ofNat_toNat] at hl
      rw [← himage, Char.ofNat_toNat] at hi
      exact ⟨hl, hi⟩
    · omega

def isAsciiMark (c : Char) : Bool := c.toNat < 0x80 && c.toNat != 0 && !isAsciiLetter c

theorem isAsciiMark_iff :
    isAsciiMark c = true ↔ c.toNat < 0x80 ∧ c.toNat ≠ 0 ∧ isAsciiLetter c = false := by
  simp [isAsciiMark, and_assoc]

/-- A mark stands in an upper-case form for itself only. -/
theorem eq_of_mem_upperChar (h : x ∈ upperChar c) (hx : isAsciiMark x = true) : c = x := by
  obtain ⟨hn, h₀, hl⟩ := isAsciiMark_iff.mp hx
  rcases Nat.lt_or_ge c.toNat 0x80 with hc | hc
  · rw [upperChar_ascii hc, List.mem_singleton] at h
    exact eq_of_asciiUpper_eq h.symm hl
  · exact absurd (hl.symm.trans (isLetter_of_mem_upperChar hc h hn h₀).2) (by decide)

theorem upperChar_mark (h : isAsciiMark c = true) : upperChar c = [c] := by
  obtain ⟨hn, -, hl⟩ := isAsciiMark_iff.mp h
  rw [upperChar_ascii hn, asciiUpper_of_not_letter hl]

theorem mark_mem_upper_iff (hx : isAsciiMark x = true) : x ∈ upper s ↔ x ∈ s := by
  rw [upper, List.mem_flatMap]
  constructor
  · rintro ⟨c, hc, h⟩
    exact eq_of_mem_upperChar h hx ▸ hc
  · exact fun h => ⟨x, h, by simp [upperChar_mark hx]⟩

theorem prefix_upper_iff (hm : marks.all isAsciiMark = true) : marks <+: upper s ↔ marks <+: s := by
  induction marks generalizing s with
  | nil => simp
  | cons x marks ih =>
    rw [List.all_cons, Bool.and_eq_true] at hm
    obtain ⟨hx, hm⟩ := hm
    cases s with
    | nil => rfl
    | cons c s =>
      have hs : upper (c :: s) = upperChar c ++ upper s := rfl
      by_cases hc : c = x
      · rw [hs, hc, upperChar_mark hx, List.singleton_append, List.cons_prefix_cons,
          List.cons_prefix_cons, ih hm]
      · obtain ⟨y, image, hy⟩ := List.exists_cons_of_ne_nil (upperChar_ne_nil c)
        have hyx : x ≠ y := by
          rintro rfl
          exact hc (eq_of_mem_upperChar (by simp [hy]) hx)
        rw [hs, hy, List.cons_append, List.cons_prefix_cons, List.cons_prefix_cons]
        exact ⟨fun h => absurd h.1 hyx, fun h => absurd h.1.symm hc⟩

end Upper

end Tabular.Text
