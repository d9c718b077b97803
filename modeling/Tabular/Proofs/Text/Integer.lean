import Tabular.Proofs.Text.Trim
import Tabular.Text.Integer

/-!
# Writing integers

An integer of 32 bits written in decimal digits is read back.
-/

namespace Tabular.Text

/-- An integer in decimal digits, after a minus sign if it is negative. -/
def decimal : Int → List Char
  | .ofNat n => Nat.toDigits 10 n
  | .negSucc n => '-' :: Nat.toDigits 10 (n + 1)

theorem digitsValue_append (s t : List Char) (acc : Nat) :
    digitsValue acc (s ++ t) = (digitsValue acc s).bind fun a => digitsValue a t := by
  induction s generalizing acc with
  | nil => rfl
  | cons c s ih =>
    rw [List.cons_append, digitsValue, digitsValue]
    split
    · exact ih _
    · rfl

theorem digitsValue_digitChar {d : Nat} (hd : d < 10) (acc : Nat) :
    digitsValue acc [Nat.digitChar d] = some (acc * 10 + d) := by
  have h : isAsciiDigit (Nat.digitChar d) = true ∧ (Nat.digitChar d).toNat - 48 = d := by
    revert d
    decide
  rw [digitsValue, if_pos h.1, h.2]
  rfl

theorem digitsValue_toDigits (n : Nat) : digitsValue 0 (Nat.toDigits 10 n) = some n := by
  induction n using Nat.strongRecOn with
  | ind n ih =>
    rw [Nat.toDigits_eq_if (by decide)]
    split
    · next h => simpa using digitsValue_digitChar h 0
    · next h =>
      rw [digitsValue_append, ih (n / 10) (by omega), Option.bind_some,
        digitsValue_digitChar (Nat.mod_lt n (by decide))]
      congr 1
      omega

theorem readNat?_toDigits (n : Nat) : readNat? (Nat.toDigits 10 n) = some n := by
  rw [readNat?, if_neg (by simp), digitsValue_toDigits]

theorem isDigit_of_mem_decimal {i : Int} {c : Char} (h : c ∈ decimal i) :
    c = '-' ∨ c.isDigit = true := by
  cases i with
  | ofNat n => exact .inr (Nat.isDigit_of_mem_toDigits (by decide) (by decide) h)
  | negSucc n =>
    rcases List.mem_cons.mp h with h | h
    · exact .inl h
    · exact .inr (Nat.isDigit_of_mem_toDigits (by decide) (by decide) h)

theorem readInt?_decimal (i : Int) : readInt? (decimal i) = some i := by
  cases i with
  | negSucc n =>
    rw [decimal, readInt?, readNat?_toDigits]
    rfl
  | ofNat n =>
    have hd : ∀ c ∈ Nat.toDigits 10 n, c.isDigit = true := fun c hc =>
      Nat.isDigit_of_mem_toDigits (by decide) (by decide) hc
    have hr := readNat?_toDigits n
    rw [decimal]
    -- neither sign is a digit
    unfold readInt?
    split
    · next s hs => exact absurd (hd '-' (hs ▸ List.mem_cons_self)) (by decide)
    · next s hs => exact absurd (hd '+' (hs ▸ List.mem_cons_self)) (by decide)
    · rw [hr]
      rfl

theorem readInt32?_decimal (n : Int32) : readInt32? (decimal n.toInt) = some n := by
  have h : -2147483648 ≤ n.toInt ∧ n.toInt ≤ 2147483647 :=
    ⟨n.minValue_le_toInt, n.toInt_le⟩
  rw [readInt32?, readInt?_decimal]
  simp [h]

theorem not_blank_of_mem_decimal {i : Int} {c : Char} (h : c ∈ decimal i) : isBlank c = false := by
  rcases isDigit_of_mem_decimal h with rfl | hd
  · decide
  · have hn : 48 ≤ c.toNat ∧ c.toNat ≤ 57 := by
      simpa [Char.isDigit, UInt32.le_iff_toNat_le] using hd
    simp only [isBlank, Bool.or_eq_false_iff, Bool.and_eq_false_iff, decide_eq_false_iff_not,
      beq_eq_false_iff_ne]
    omega

theorem trim_decimal (i : Int) : trim (decimal i) = decimal i :=
  trim_eq_self_of_not_blank fun _ hc => not_blank_of_mem_decimal hc

theorem newline_notMem_decimal (i : Int) : '\n' ∉ decimal i :=
  fun h => absurd (not_blank_of_mem_decimal h) (by decide)

end Tabular.Text
