import Tabular.Encoding.Decode

/-!
# Reading what was written

A text is read back from its octets in UTF-8 and, in either order of octets, in UTF-16. Each character
is read as a whole before the next one begins, so it suffices to follow the octets of one character. The
mark at the start of a file is told apart by what a text without it cannot begin with.
-/

namespace Tabular.Encoding

variable {c : Char} {bs : List UInt8}

theorem toNat_bounds (c : Char) : c.toNat < 0xD800 ∨ 0xDFFF < c.toNat ∧ c.toNat < 0x110000 := c.valid

theorem toNat_octet {n : Nat} (h : n < 0x100) : (UInt8.ofNat n).toNat = n :=
  UInt8.toNat_ofNat_of_lt' h

section Utf8

/-- The octet that carries the last six bits of a value. -/
def trail (n : Nat) : UInt8 := UInt8.ofNat (n % 0x40 + 0x80)

theorem toNat_trail (n : Nat) : (trail n).toNat = n % 0x40 + 0x80 := toNat_octet (by omega)

theorem utf8Items_single {b : UInt8} {item : Option Char} (h : beginUtf8 b.toNat = .inl item)
    (bs : List UInt8) : utf8Items none (b :: bs) = item :: utf8Items none bs := by
  rw [utf8Items, stepUtf8, h]
  rfl

theorem utf8Items_begin {b : UInt8} {p : Partial} (h : beginUtf8 b.toNat = .inr p)
    (bs : List UInt8) : utf8Items none (b :: bs) = utf8Items (some p) bs := by
  rw [utf8Items, stepUtf8, h]
  rfl

/-- An octet that belongs to the character under way, but does not complete it. -/
theorem utf8Items_trail {k low high n : Nat} (hl : low ≤ n % 0x40 + 0x80)
    (hh : n % 0x40 + 0x80 ≤ high) (bs : List UInt8) :
    utf8Items (some ⟨k + 2, n / 0x40, low, high⟩) (trail n :: bs) =
      utf8Items (some ⟨k + 1, n, 0x80, 0xBF⟩) bs := by
  have hv : n / 0x40 * 64 + (n % 0x40 + 0x80 - 0x80) = n := by omega
  rw [utf8Items, stepUtf8, toNat_trail, if_pos ⟨hl, hh⟩, hv, if_neg (by simp)]
  rfl

/-- The octet that completes a character. -/
theorem utf8Items_last {low high n : Nat} (hl : low ≤ n % 0x40 + 0x80)
    (hh : n % 0x40 + 0x80 ≤ high) (bs : List UInt8) :
    utf8Items (some ⟨1, n / 0x40, low, high⟩) (trail n :: bs) =
      some (Char.ofNat n) :: utf8Items none bs := by
  have hv : n / 0x40 * 64 + (n % 0x40 + 0x80 - 0x80) = n := by omega
  rw [utf8Items, stepUtf8, toNat_trail, if_pos ⟨hl, hh⟩, hv, if_pos rfl]
  rfl

theorem beginUtf8_two {n : Nat} (h₁ : 0x80 ≤ n) (h₂ : n < 0x800) :
    beginUtf8 (UInt8.ofNat (n / 0x40 % 0x20 + 0xC0)).toNat = .inr ⟨1, n / 0x40, 0x80, 0xBF⟩ := by
  have hm : n / 0x40 % 0x20 = n / 0x40 := by omega
  rw [hm, toNat_octet (by omega), beginUtf8, if_neg (by omega), if_neg (by omega),
    if_pos (by omega), Nat.add_sub_cancel]

/-- The first of three octets leaves room for the second one: a smaller value would have been written
in two octets, and a surrogate is no character. -/
theorem beginUtf8_three {n : Nat} (h₁ : 0x800 ≤ n) (h₂ : n < 0x10000)
    (hs : n < 0xD800 ∨ 0xDFFF < n) :
    ∃ low high, beginUtf8 (UInt8.ofNat (n / 0x1000 % 0x10 + 0xE0)).toNat =
        .inr ⟨2, n / 0x40 / 0x40, low, high⟩ ∧
      low ≤ n / 0x40 % 0x40 + 0x80 ∧ n / 0x40 % 0x40 + 0x80 ≤ high := by
  have hm : n / 0x1000 % 0x10 = n / 0x40 / 0x40 := by omega
  refine ⟨if n / 0x40 / 0x40 + 0xE0 = 0xE0 then 0xA0 else 0x80,
    if n / 0x40 / 0x40 + 0xE0 = 0xED then 0x9F else 0xBF, ?_, ?_, ?_⟩
  · rw [hm, toNat_octet (by omega), beginUtf8, if_neg (by omega), if_neg (by omega),
      if_neg (by omega), if_pos (by omega), Nat.add_sub_cancel]
  · split <;> omega
  · split <;> omega

/-- The first of four octets leaves room for the second one, since no value is above the last
character. -/
theorem beginUtf8_four {n : Nat} (h₁ : 0x10000 ≤ n) (h₂ : n < 0x110000) :
    ∃ low high, beginUtf8 (UInt8.ofNat (n / 0x40000 % 0x08 + 0xF0)).toNat =
        .inr ⟨3, n / 0x1000 / 0x40, low, high⟩ ∧
      low ≤ n / 0x1000 % 0x40 + 0x80 ∧ n / 0x1000 % 0x40 + 0x80 ≤ high := by
  have hm : n / 0x40000 % 0x08 = n / 0x1000 / 0x40 := by omega
  refine ⟨if n / 0x1000 / 0x40 + 0xF0 = 0xF0 then 0x90 else 0x80,
    if n / 0x1000 / 0x40 + 0xF0 = 0xF4 then 0x8F else 0xBF, ?_, ?_, ?_⟩
  · rw [hm, toNat_octet (by omega), beginUtf8, if_neg (by omega), if_neg (by omega),
      if_neg (by omega), if_neg (by omega), if_pos (by omega), Nat.add_sub_cancel]
  · split <;> omega
  · split <;> omega

/-- The octets of a character are read as this character, whatever follows. -/
theorem utf8Items_char (c : Char) (bs : List UInt8) :
    utf8Items none (String.utf8EncodeChar c ++ bs) = some c :: utf8Items none bs := by
  have hc := toNat_bounds c
  have hchar : Char.ofNat c.toNat = c := Char.ofNat_toNat c
  fun_cases String.utf8EncodeChar c with
  | case1 n h =>
    have hn : n = c.toNat := rfl
    have hb : beginUtf8 (UInt8.ofNat n).toNat = .inl (some c) := by
      rw [toNat_octet (by omega), beginUtf8, if_pos (by omega), hn, hchar]
    exact utf8Items_single hb bs
  | case2 n h₁ h₂ =>
    have hn : n = c.toNat := rfl
    have hb := beginUtf8_two (n := n) (by omega) (by omega)
    calc
      _ = utf8Items (some ⟨1, n / 0x40, 0x80, 0xBF⟩) (trail n :: bs) := utf8Items_begin hb _
      _ = some (Char.ofNat n) :: utf8Items none bs := utf8Items_last (by omega) (by omega) bs
      _ = some c :: utf8Items none bs := by rw [hn, hchar]
  | case3 n h₁ h₂ h₃ =>
    have hn : n = c.toNat := rfl
    obtain ⟨low, high, hb, hl, hh⟩ := beginUtf8_three (n := n) (by omega) (by omega) (by omega)
    calc
      _ = utf8Items (some ⟨2, n / 0x40 / 0x40, low, high⟩) (trail (n / 0x40) :: trail n :: bs) :=
        utf8Items_begin hb _
      _ = utf8Items (some ⟨1, n / 0x40, 0x80, 0xBF⟩) (trail n :: bs) := utf8Items_trail hl hh _
      _ = some (Char.ofNat n) :: utf8Items none bs := utf8Items_last (by omega) (by omega) bs
      _ = some c :: utf8Items none bs := by rw [hn, hchar]
  | case4 n h₁ h₂ h₃ =>
    have hn : n = c.toNat := rfl
    have hmiddle : n / 0x1000 = n / 0x40 / 0x40 := by omega
    obtain ⟨low, high, hb, hl, hh⟩ := beginUtf8_four (n := n) (by omega) (by omega)
    calc
      _ = utf8Items (some ⟨3, n / 0x1000 / 0x40, low, high⟩)
          (trail (n / 0x1000) :: trail (n / 0x40) :: trail n :: bs) := utf8Items_begin hb _
      _ = utf8Items (some ⟨2, n / 0x1000, 0x80, 0xBF⟩) (trail (n / 0x40) :: trail n :: bs) :=
        utf8Items_trail hl hh _
      _ = utf8Items (some ⟨1, n / 0x40, 0x80, 0xBF⟩) (trail n :: bs) := by
        rw [hmiddle]
        exact utf8Items_trail (by omega) (by omega) _
      _ = some (Char.ofNat n) :: utf8Items none bs := utf8Items_last (by omega) (by omega) bs
      _ = some c :: utf8Items none bs := by rw [hn, hchar]

def utf8Octets (s : List Char) : List UInt8 := s.flatMap String.utf8EncodeChar

theorem utf8Octets_toList (s : String) : utf8Octets s.toList = s.toUTF8.data.toList := by
  rw [String.toUTF8_eq_toByteArray, ← String.utf8Encode_toList]
  exact List.toList_data_toByteArray.symm

theorem utf8Items_octets (s : List Char) : utf8Items none (utf8Octets s) = s.map some := by
  induction s with
  | nil => rfl
  | cons c s ih => rw [utf8Octets, List.flatMap_cons, utf8Items_char, ← utf8Octets, ih, List.map_cons]

end Utf8

section Utf16

/-- The units of a character: itself, or two surrogates that share its bits. -/
def utf16Units (c : Char) : List Nat :=
  if c.toNat < 0x10000 then [c.toNat]
  else [0xD800 + (c.toNat - 0x10000) / 0x400, 0xDC00 + (c.toNat - 0x10000) % 0x400]

/-- The two octets of a unit in an order. -/
def Endian.octets (e : Endian) (u : Nat) : List UInt8 :=
  match e with
  | little => [UInt8.ofNat (u % 0x100), UInt8.ofNat (u / 0x100)]
  | big => [UInt8.ofNat (u / 0x100), UInt8.ofNat (u % 0x100)]

/-- The octets of a text in UTF-16. -/
def utf16Octets (e : Endian) (s : List Char) : List UInt8 :=
  s.flatMap fun c => (utf16Units c).flatMap e.octets

theorem Endian.exists_octets (e : Endian) {u : Nat} (hu : u < 0x10000) :
    ∃ b₁ b₂, e.octets u = [b₁, b₂] ∧ e.unit b₁ b₂ = u := by
  have hu' : u / 0x100 * 256 + u % 0x100 = u := by omega
  cases e with
  | little => exact ⟨_, _, rfl, by rw [unit, toNat_octet (by omega), toNat_octet (by omega), hu']⟩
  | big => exact ⟨_, _, rfl, by rw [unit, toNat_octet (by omega), toNat_octet (by omega), hu']⟩

theorem utf16Items_unit (e : Endian) (waiting : Option Nat) {u : Nat} (hu : u < 0x10000)
    (bs : List UInt8) :
    utf16Items e waiting (e.octets u ++ bs) =
      (stepUtf16 waiting u).1 ++ utf16Items e (stepUtf16 waiting u).2 bs := by
  obtain ⟨b₁, b₂, hoctets, hunit⟩ := e.exists_octets hu
  rw [hoctets, List.cons_append, List.cons_append, List.nil_append, utf16Items, hunit]

theorem stepUtf16_char (h : c.toNat < 0x10000) : stepUtf16 none c.toNat = ([some c], none) := by
  have hc := toNat_bounds c
  have hh : isHighSurrogate c.toNat = false := by
    simp only [isHighSurrogate, Bool.and_eq_false_iff, decide_eq_false_iff_not]
    omega
  have hl : isLowSurrogate c.toNat = false := by
    simp only [isLowSurrogate, Bool.and_eq_false_iff, decide_eq_false_iff_not]
    omega
  simp [stepUtf16, hh, hl]

theorem stepUtf16_high {k : Nat} (h : k < 0x400) :
    stepUtf16 none (0xD800 + k) = ([], some (0xD800 + k)) := by
  have hh : isHighSurrogate (0xD800 + k) = true := by
    simp only [isHighSurrogate, Bool.and_eq_true, decide_eq_true_eq]
    omega
  simp [stepUtf16, hh]

theorem stepUtf16_low {j k : Nat} (h : k < 0x400) :
    stepUtf16 (some (0xD800 + j)) (0xDC00 + k) =
      ([some (Char.ofNat (0x10000 + j * 0x400 + k))], none) := by
  have hl : isLowSurrogate (0xDC00 + k) = true := by
    simp only [isLowSurrogate, Bool.and_eq_true, decide_eq_true_eq]
    omega
  simp [stepUtf16, hl]

theorem utf16Items_char (e : Endian) (c : Char) (bs : List UInt8) :
    utf16Items e none ((utf16Units c).flatMap e.octets ++ bs) = some c :: utf16Items e none bs := by
  have hc := toNat_bounds c
  rw [utf16Units]
  split
  · next h =>
    rw [List.flatMap_singleton, utf16Items_unit e none h, stepUtf16_char h]
    rfl
  · next h =>
    have hn : 0x10000 + (c.toNat - 0x10000) / 0x400 * 0x400 + (c.toNat - 0x10000) % 0x400 = c.toNat := by
      omega
    rw [List.flatMap_cons, List.flatMap_singleton, List.append_assoc,
      utf16Items_unit e none (by omega), stepUtf16_high (by omega),
      utf16Items_unit e _ (by omega), stepUtf16_low (by omega), hn, Char.ofNat_toNat]
    rfl

theorem utf16Items_octets (e : Endian) (s : List Char) :
    utf16Items e none (utf16Octets e s) = s.map some := by
  induction s with
  | nil => rfl
  | cons c s ih =>
    rw [utf16Octets, List.flatMap_cons, utf16Items_char, ← utf16Octets, ih, List.map_cons]

end Utf16

section Marks

/-- The character that marks the start of a file. -/
def byteOrderMark : Char := Char.ofNat 0xFEFF

theorem replaceInvalid_map_some (s : List Char) : replaceInvalid (s.map some) = s := by
  rw [replaceInvalid, List.map_map]
  exact List.map_id s

def marks : List (List UInt8) := [[0xEF, 0xBB, 0xBF], [0xFF, 0xFE], [0xFE, 0xFF]]

theorem decode_of_unmarked (h : ∀ m ∈ marks, ¬ m <+: bs) :
    decode bs = replaceInvalid (utf8Items none bs) := by
  simp only [marks, List.forall_mem_cons, List.not_mem_nil, false_implies, implies_true, and_true] at h
  obtain ⟨h₁, h₂, h₃⟩ := h
  unfold decode
  split
  · exact absurd (List.prefix_append _ _) h₁
  · exact absurd (List.prefix_append _ _) h₂
  · exact absurd (List.prefix_append _ _) h₃
  · rfl

/-- The octets of a text begin with a mark only if the text does. -/
theorem not_prefix_utf8Octets {s : List Char} (hs : s.head? ≠ some byteOrderMark) :
    ∀ m ∈ marks, ¬ m <+: utf8Octets s := by
  have hvalid {b : UInt8} (hb : beginUtf8 b.toNat = .inl none) (bs : List UInt8) :
      utf8Items none (b :: bs) ≠ s.map some := by
    intro h
    rw [utf8Items_single hb] at h
    have hm : none ∈ s.map some := h ▸ List.mem_cons_self
    simp at hm
  rintro m hm ⟨bs, hb⟩
  have hread : utf8Items none (m ++ bs) = s.map some := by rw [hb, utf8Items_octets]
  simp only [marks, List.mem_cons, List.not_mem_nil, or_false] at hm
  obtain rfl | rfl | rfl := hm
  · have hmark : utf8Items none ([0xEF, 0xBB, 0xBF] ++ bs) = some byteOrderMark :: utf8Items none bs :=
      utf8Items_char byteOrderMark bs
    have hhead := congrArg List.head? hread
    rw [hmark, List.head?_cons, List.head?_map] at hhead
    obtain ⟨c, hc, he⟩ := Option.map_eq_some_iff.mp hhead.symm
    exact hs (hc.trans he)
  · exact hvalid rfl _ hread
  · exact hvalid rfl _ hread

/-- A text is read back from a file in UTF-8 without a mark, unless it begins with the mark itself, and
from a file with a mark in any of the three encodings. Only the mark of the file is taken away. -/
theorem decode_octets (s : String) :
    (s.toList.head? ≠ some byteOrderMark → decode s.toUTF8.data.toList = s.toList) ∧
      decode (0xEF :: 0xBB :: 0xBF :: s.toUTF8.data.toList) = s.toList ∧
      decode (0xFF :: 0xFE :: utf16Octets .little s.toList) = s.toList ∧
      decode (0xFE :: 0xFF :: utf16Octets .big s.toList) = s.toList := by
  rw [← utf8Octets_toList]
  refine ⟨fun hs => ?_, ?_, ?_, ?_⟩
  · rw [decode_of_unmarked (not_prefix_utf8Octets hs), utf8Items_octets, replaceInvalid_map_some]
  · rw [decode, utf8Items_octets, replaceInvalid_map_some]
  · rw [decode, utf16Items_octets, replaceInvalid_map_some]
  · rw [decode, utf16Items_octets, replaceInvalid_map_some]

/-- Characters of one to four octets, and a mark that is none of the start. -/
theorem decode_octets_wide :
    let s := "aé€😀\uFEFF"
    s.toList.head? ≠ some byteOrderMark ∧
      s.toUTF8.data.toList = [0x61, 0xC3, 0xA9, 0xE2, 0x82, 0xAC, 0xF0, 0x9F, 0x98, 0x80, 0xEF, 0xBB, 0xBF] ∧
      decode s.toUTF8.data.toList = s.toList :=
  ⟨by decide, by decide +kernel, (decode_octets "aé€😀\uFEFF").1 (by decide)⟩

/-- The mark of the file is not the one with which the text begins. -/
example : decode [0xFF, 0xFE, 0xFF, 0xFE, 0x3D, 0xD8, 0x00, 0xDE] = [byteOrderMark, '😀'] := by decide

end Marks

end Tabular.Encoding
