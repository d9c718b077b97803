/-!
# ASCII case

Keywords of the formula language and the names used in look-ups are compared without regard to the
case of ASCII letters; every other character stands for itself.
-/

namespace Tabular.Text

/-- The lower-case form of an ASCII letter. -/
def asciiLower (c : Char) : Char :=
  if 'A' ≤ c ∧ c ≤ 'Z' then Char.ofNat (c.toNat + 32) else c

/-- The upper-case form of an ASCII letter. -/
def asciiUpper (c : Char) : Char :=
  if 'a' ≤ c ∧ c ≤ 'z' then Char.ofNat (c.toNat - 32) else c

/-- Equality up to the case of ASCII letters. -/
def eqIgnoreCase (s t : String) : Bool :=
  s.toList.map asciiLower == t.toList.map asciiLower

theorem eqIgnoreCase_iff {s t : String} :
    eqIgnoreCase s t = true ↔ s.toList.map asciiLower = t.toList.map asciiLower := by
  simp [eqIgnoreCase]

@[simp] theorem eqIgnoreCase_self (s : String) : eqIgnoreCase s s = true := by
  simp [eqIgnoreCase]

end Tabular.Text
