import Tabular.Proofs.Analysis.Rule
import Tabular.Proofs.Formula.Constant

/-!
# When a formula without references is reported

A formula that refers to nothing is reported unless a constant is found in it.
-/

namespace Tabular

open Text Formula

theorem mem_codes_noReference (l : Limits) (m : Measure) (node : Option Dependency)
    (complexity : Option Complexity) :
    "DAX005" ∈ (m.issues l node complexity).map (·.code) ↔
      refersToNothing (trim m.expression.toList) node = true := by
  have hkeywords (code : List Char) : ¬ ∃ f ∈ findKeywords code, f.code = "DAX005" :=
    not_exists_mem_findKeywords (by decide) code
  rw [mem_codes_iff]
  simp [hkeywords]

theorem refersToNothing_iff {formula : List Char} {node : Option Dependency} :
    refersToNothing formula node = true ↔
      formula ≠ [] ∧ (∃ d, node = some d ∧ d.isIsolated = true) ∧ ¬ HoldsConstant (pieces formula) := by
  rw [← hasLiteral_iff]
  cases node <;> simp [refersToNothing, and_assoc]

/-- A formula is found to hold a constant exactly if its pieces show one. A measure that refers to nothing is
reported exactly if its trimmed formula is not empty and shows none. -/
theorem reports_noReference_iff (formula : List Char) (l : Limits) (m : Measure)
    (node : Option Dependency) (complexity : Option Complexity) :
    (FallsInto formula (pieces formula) ∧
      (hasLiteral formula = true ↔ HoldsConstant (pieces formula))) ∧
    ("DAX005" ∈ (m.issues l node complexity).map (·.code) ↔
      let trimmed := trim m.expression.toList
      trimmed ≠ [] ∧ (∃ d, node = some d ∧ d.isIsolated = true) ∧ ¬ HoldsConstant (pieces trimmed)) :=
  ⟨⟨fallsInto_pieces formula, hasLiteral_iff formula⟩,
    (mem_codes_noReference l m node complexity).trans refersToNothing_iff⟩

/-- A blank between the name of a constant and its parentheses is enough for the formula to be reported. -/
theorem spaced_constant_reported :
    let m : Measure := { name := "Nothing", expression := "BLANK ()" }
    let node : Dependency := { measure := "Nothing", table := "Sales" }
    pieces m.expression.toList = [.code (.word "BLANK".toList), .code (.mark ' '), .code (.mark '('),
        .code (.mark ')')] ∧
      hasLiteral m.expression.toList = false ∧
      "DAX005" ∈ (m.issues {} (some node) none).map (·.code) := by
  decide +kernel

end Tabular
