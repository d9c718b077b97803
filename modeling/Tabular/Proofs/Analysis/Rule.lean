import Tabular.Analysis.Issue

/-!
# Which rule reports a code

Each rule reports a code of its own, or one of the three on keywords. So a code is among those of a measure
exactly if the condition of its rule holds.
-/

namespace Tabular

open Text Formula

variable {rule : String}

theorem exists_mem_when {b : Bool} {f : Finding} :
    (∃ f' ∈ when b f, f'.code = rule) ↔ rule = f.code ∧ b = true := by
  cases b <;> simp [when, eq_comm]

theorem mem_codes_iff (l : Limits) (m : Measure) (node : Option Dependency)
    (complexity : Option Complexity) :
    rule ∈ (m.issues l node complexity).map (·.code) ↔
      let formula := trim m.expression.toList
      let code := strip formula
      (rule = "DAX001" ∧ dividesBarely code = true) ∨ (rule = "DAX002" ∧ m.isDocumented = false) ∨
        (rule = "DAX003" ∧ m.isFoldered = false) ∨
        (rule = "DAX004" ∧ l.maxIfNesting < conditionalDepth code) ∨
        (rule = "DAX005" ∧ refersToNothing formula node = true) ∨
        (∃ f ∈ findKeywords code, f.code = rule) ∨ (rule = "DAX009" ∧ formula = []) ∨
        (rule = "DAX010" ∧ ∃ k, complexity = some k ∧ k.level = .complex) := by
  have hcomplex : (∃ f ∈ (complexity.toList.filter (·.level == .complex)).map Finding.tooComplex,
      f.code = rule) ↔ rule = "DAX010" ∧ ∃ k, complexity = some k ∧ k.level = .complex := by
    constructor
    · rintro ⟨f, hf, hc⟩
      obtain ⟨k, hk, rfl⟩ := List.mem_map.mp hf
      obtain ⟨hk, hl⟩ := List.mem_filter.mp hk
      exact ⟨hc.symm, k, Option.mem_toList.mp hk, by simpa using hl⟩
    · rintro ⟨rfl, k, rfl, hl⟩
      have hk : k ∈ (some k).toList.filter (·.level == .complex) :=
        List.mem_filter.mpr ⟨Option.mem_toList.mpr rfl, by simpa using hl⟩
      exact ⟨_, List.mem_map_of_mem hk, rfl⟩
  have hfindings : rule ∈ (m.issues l node complexity).map (·.code) ↔
      ∃ f ∈ findings l m node complexity, f.code = rule := by
    simp only [Measure.issues, List.map_map, List.mem_map, Function.comp_apply]
  rw [hfindings]
  simp only [findings, List.mem_append, or_and_right, exists_or, exists_mem_when, hcomplex, or_assoc,
    Bool.not_eq_true', decide_eq_true_eq, List.isEmpty_iff]
  rfl

theorem not_exists_mem_findKeywords (h : rule ∉ ["DAX006", "DAX007", "DAX008"]) (code : List Char) :
    ¬ ∃ f ∈ findKeywords code, f.code = rule := by
  have hall : ∀ r ∈ keywordFindings, r.2.code ∈ ["DAX006", "DAX007", "DAX008"] := by decide
  rintro ⟨f, hf, rfl⟩
  obtain ⟨r, hr, rfl⟩ := List.mem_map.mp hf
  exact h (hall r (List.mem_filter.mp hr).1)

end Tabular
