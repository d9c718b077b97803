import Tabular.Proofs.Analysis.Score
import Tabular.Proofs.Formula.Sum

/-!
# Scores of sums

Whatever is counted in a formula is counted in a sum with it too: calls, parentheses and references of a
sum are those of the two formulas, and open parentheses that the first one leaves only make the second one
nest deeper. So a sum is at least as complex as either formula.
-/

namespace Tabular

open Formula

section Size

variable {f g h : List Char}

/-- What the size of a formula is counted from is found in another formula too. -/
structure Formula.Within (f h : List Char) : Prop where
  depth : parenDepth (strip f) ≤ parenDepth (strip h)
  calls : (functionCalls (strip f)).Sublist (functionCalls (strip h))
  brackets : (References.ofFormula f).brackets ⊆ (References.ofFormula h).brackets
  qualified : (References.ofFormula f).qualified ⊆ (References.ofFormula h).qualified
  loneTables : (References.ofFormula f).loneTables ⊆ (References.ofFormula h).loneTables

theorem Formula.isEmpty_callsAmong_of_subset {functions calls calls' : List String} (h : calls ⊆ calls')
    (hc : (!(callsAmong functions calls).isEmpty) = true) :
    (!(callsAmong functions calls').isEmpty) = true := by
  rw [Bool.not_eq_true', List.isEmpty_eq_false_iff_exists_mem] at hc ⊢
  obtain ⟨name, hn⟩ := hc
  refine ⟨name, ?_⟩
  rw [callsAmong, mem_distinct] at hn ⊢
  exact List.filter_subset _ h hn

theorem Formula.Within.atMost (hw : Within f h) :
    (FormulaSize.ofFormula f none).AtMost (.ofFormula h none) where
  nestingDepth := hw.depth
  functionCount := (hw.calls.filter _).length_le
  tableCount := by
    refine length_distinct_le_of_subset (List.append_subset.mpr ⟨?_, ?_⟩)
    · exact List.subset_append_of_subset_left _ (List.map_subset _ hw.qualified)
    · exact List.subset_append_of_subset_right _ hw.loneTables
  measureCount := (List.subperm_of_subset (nodup_distinct _) hw.brackets).length_le
  hasIterator := isEmpty_callsAmong_of_subset hw.calls.subset
  hasFilterModifier := isEmpty_callsAmong_of_subset hw.calls.subset

theorem Formula.parenDepth_sumOf (hf : SelfContained f) (g : List Char) :
    parenDepth (strip f) ≤ parenDepth (strip (sumOf f g)) ∧
      parenDepth (strip g) ≤ parenDepth (strip (sumOf f g)) := by
  simp only [parenDepth, Nesting.maxDepth_scan, hf.parens_sumOf]
  exact Nesting.maxDepth_foldl_append _ _

theorem Formula.within_sumOf (hf : SelfContained f) (hg : SelfContained g) :
    Within f (sumOf f g) ∧ Within g (sumOf f g) := by
  obtain ⟨hdf, hdg⟩ := parenDepth_sumOf hf g
  obtain ⟨hb, hq, hl⟩ := References.ofFormula_sumOf hf hg
  have hmem {α : Type} [BEq α] [LawfulBEq α] (xs ys : List α) :
      xs ⊆ distinct (xs ++ ys) ∧ ys ⊆ distinct (xs ++ ys) :=
    ⟨fun _ hx => mem_distinct.mpr (List.mem_append_left ys hx),
      fun _ hy => mem_distinct.mpr (List.mem_append_right xs hy)⟩
  have hcalls := hf.functionCalls_sumOf g
  constructor
  · refine ⟨hdf, ?_, ?_, ?_, ?_⟩
    · exact hcalls ▸ List.sublist_append_left _ _
    · exact hb ▸ (hmem _ _).1
    · exact hq ▸ (hmem _ _).1
    · exact hl ▸ (hmem _ _).1
  · refine ⟨hdg, ?_, ?_, ?_, ?_⟩
    · exact hcalls ▸ List.sublist_append_right _ _
    · exact hb ▸ (hmem _ _).2
    · exact hq ▸ (hmem _ _).2
    · exact hl ▸ (hmem _ _).2

end Size

/-- The place of a level among the levels, from the simple ones on. -/
def ComplexityLevel.rank : ComplexityLevel → Nat
  | simple => 0
  | moderate => 1
  | complex => 2

theorem Limits.rank_level_le (l : Limits) {a b : Nat} (h : a ≤ b) :
    (l.level a).rank ≤ (l.level b).rank := by
  unfold level
  split_ifs <;> first | omega | simp [ComplexityLevel.rank]

/-- A sum of two formulas that end outside of literals, comments and names, and whose quoted names are not
empty and contain no opening bracket, has at least the size of either, whatever parentheses they leave
open. Unless the weight of the sum leaves 32 bits, its score is at least the greater one of the two scores
and its level is as high as either. -/
theorem complexity_sum_ge {f g : List Char} (hf : SelfContained f) (hg : SelfContained g) :
    let sum := f ++ " + ".toList ++ g
    (FormulaSize.ofFormula f none).AtMost (.ofFormula sum none) ∧
      (FormulaSize.ofFormula g none).AtMost (.ofFormula sum none) ∧
      ((FormulaSize.ofFormula sum none).weight < 0x100000000 → ∀ l : Limits,
        let k := Complexity.ofFormula l sum none
        max (Complexity.ofFormula l f none).score (Complexity.ofFormula l g none).score ≤ k.score ∧
          (Complexity.ofFormula l f none).level.rank ≤ k.level.rank ∧
          (Complexity.ofFormula l g none).level.rank ≤ k.level.rank) := by
  intro sum
  obtain ⟨hfs, hgs⟩ := within_sumOf hf hg
  refine ⟨hfs.atMost, hgs.atMost, fun hw l => ?_⟩
  have hf := hfs.atMost.score_le hw
  have hg := hgs.atMost.score_le hw
  exact ⟨Nat.max_le.mpr ⟨hf, hg⟩, l.rank_level_le hf, l.rank_level_le hg⟩

/-- The first formula leaves a parenthesis open, and the two share a table. -/
theorem complexity_sum_ge_shared :
    let f := "SUMX('Sales', ([Price]".toList
    let g := "ABS('Sales'[Cost]) -- net\n".toList
    SelfContained f ∧ SelfContained g ∧
      (FormulaSize.ofFormula (f ++ " + ".toList ++ g) none).weight < 0x100000000 ∧
      max (Complexity.ofFormula {} f none).score (Complexity.ofFormula {} g none).score ≤
        (Complexity.ofFormula {} (f ++ " + ".toList ++ g) none).score := by
  intro f g
  have hf : SelfContained f := by decide +kernel
  have hg : SelfContained g := by decide +kernel
  have hw : (FormulaSize.ofFormula (f ++ " + ".toList ++ g) none).weight < 0x100000000 := by
    decide +kernel
  exact ⟨hf, hg, hw, ((complexity_sum_ge hf hg).2.2 hw {}).1⟩

end Tabular
