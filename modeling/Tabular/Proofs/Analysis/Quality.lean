import Mathlib.Algebra.Order.Field.Rat
import Mathlib.Data.List.Perm.Subperm
import Mathlib.Tactic.Linarith
import Mathlib.Tactic.NormNum.OfScientific
import Mathlib.Tactic.Positivity
import Mathlib.Tactic.Ring
import Tabular.Analysis.Report

/-!
# The weighted score in exact numbers

In rational numbers the weighted sum of the six scores of a model lies between 0 and 100 by itself, so
that clamping never changes it. It is 100 just if every one of the six has nothing to complain of, and
no further issue or cycle makes it greater.
-/

namespace Tabular

namespace QualityCounts

section Parts

variable {part whole : Nat}

theorem share_nonneg (part whole : Nat) : (0 : ℚ) ≤ share part whole := by
  unfold share
  split_ifs <;> positivity

theorem share_le_one (h : part ≤ whole) : (share part whole : ℚ) ≤ 1 := by
  unfold share
  split_ifs
  · norm_num
  · exact div_le_one_of_le₀ (by exact_mod_cast h) (by positivity)

theorem share_eq_one_iff (h : part ≤ whole) : (share part whole : ℚ) = 1 ↔ part = whole := by
  unfold share
  split_ifs with hw
  · have hp : part = whole := by omega
    simp [hp]
  · have hne : (whole : ℚ) ≠ 0 := by exact_mod_cast hw
    rw [div_eq_one_iff_eq hne, Nat.cast_inj]

theorem floorZero_eq (x : ℚ) : floorZero x = max x 0 := by
  unfold floorZero
  split_ifs with h
  · rw [max_eq_right (by simpa using h.le), Nat.cast_zero]
  · rw [max_eq_left (by simpa using h)]

theorem floorZero_eq_hundred_iff {x : ℚ} : floorZero x = 100 ↔ x = 100 := by
  rw [floorZero_eq]
  rcases max_choice x 0 with h | h
  · rw [h]
  · have hx : x ≤ 0 := max_eq_right_iff.mp h
    rw [h]
    constructor <;> intro h100 <;> linarith

theorem clampScore_eq_self {x : ℚ} (h₀ : 0 ≤ x) (h₁ : x ≤ 100) : clampScore x = x := by
  rw [clampScore, if_neg (by simpa using h₀), if_neg (by simpa using h₁)]

end Parts

variable {c : QualityCounts}

/-- No part is more than its whole, and no complexity score is above 100. -/
structure Fits (c : QualityCounts) : Prop where
  documented : c.documented ≤ c.measures
  foldered : c.foldered ≤ c.measures
  explicit : c.explicit ≤ c.relationships
  scores : ∀ s ∈ c.scores, s ≤ 100

/-- There is nothing to complain of. -/
structure IsFlawless (c : QualityCounts) : Prop where
  errors : c.errors = 0
  warnings : c.warnings = 0
  cycles : c.cycles = 0
  documented : c.documented = c.measures
  foldered : c.foldered = c.measures
  explicit : c.explicit = c.relationships
  scores : ∀ s ∈ c.scores, s = 0

section Scores

theorem issueScore_eq (c : QualityCounts) :
    (c.issueScore : ℚ) = max (100 - 10 * (c.errors : ℚ) - 3 * c.warnings) 0 := by
  rw [issueScore, floorZero_eq]
  norm_num

theorem cycleScore_eq (c : QualityCounts) : (c.cycleScore : ℚ) = max (100 - 25 * (c.cycles : ℚ)) 0 := by
  rw [cycleScore, floorZero_eq]
  norm_num

theorem foldl_add_cast (scores : List Nat) (sum : ℚ) :
    scores.foldl (fun (sum : ℚ) (s : Nat) => sum + (s : ℚ)) sum = sum + (scores.sum : ℚ) := by
  induction scores generalizing sum with
  | nil => simp
  | cons s scores ih => rw [List.foldl_cons, ih, List.sum_cons, Nat.cast_add, add_assoc]

theorem meanScore_eq (c : QualityCounts) :
    (c.meanScore : ℚ) = (c.scores.sum : ℚ) / c.scores.length := by
  rw [meanScore, foldl_add_cast]
  split_ifs with h
  · simp [List.isEmpty_iff.mp h]
  · rw [Nat.cast_zero, zero_add]

theorem issueScore_mem (c : QualityCounts) : (0 : ℚ) ≤ c.issueScore ∧ (c.issueScore : ℚ) ≤ 100 := by
  rw [issueScore_eq]
  refine ⟨le_max_right _ _, max_le ?_ (by norm_num)⟩
  have he : (0 : ℚ) ≤ c.errors := Nat.cast_nonneg _
  have hw : (0 : ℚ) ≤ c.warnings := Nat.cast_nonneg _
  linarith

theorem cycleScore_mem (c : QualityCounts) : (0 : ℚ) ≤ c.cycleScore ∧ (c.cycleScore : ℚ) ≤ 100 := by
  rw [cycleScore_eq]
  refine ⟨le_max_right _ _, max_le ?_ (by norm_num)⟩
  have hc : (0 : ℚ) ≤ c.cycles := Nat.cast_nonneg _
  linarith

theorem meanScore_nonneg (c : QualityCounts) : (0 : ℚ) ≤ c.meanScore := by
  rw [meanScore_eq]
  positivity

theorem meanScore_le (h : ∀ s ∈ c.scores, s ≤ 100) : (c.meanScore : ℚ) ≤ 100 := by
  have hsum : c.scores.sum ≤ c.scores.length * 100 := List.sum_le_card_nsmul c.scores 100 h
  rw [meanScore_eq]
  refine div_le_of_le_mul₀ (by positivity) (by norm_num) ?_
  rw [mul_comm]
  exact_mod_cast hsum

theorem issueScore_eq_hundred_iff (c : QualityCounts) :
    (c.issueScore : ℚ) = 100 ↔ c.errors = 0 ∧ c.warnings = 0 := by
  have he : (0 : ℚ) ≤ c.errors := Nat.cast_nonneg _
  have hw : (0 : ℚ) ≤ c.warnings := Nat.cast_nonneg _
  rw [issueScore, floorZero_eq_hundred_iff]
  push_cast
  constructor
  · intro h
    have he0 : (c.errors : ℚ) = 0 := by linarith
    have hw0 : (c.warnings : ℚ) = 0 := by linarith
    exact ⟨by exact_mod_cast he0, by exact_mod_cast hw0⟩
  · rintro ⟨he0, hw0⟩
    simp [he0, hw0]

theorem cycleScore_eq_hundred_iff (c : QualityCounts) :
    (c.cycleScore : ℚ) = 100 ↔ c.cycles = 0 := by
  rw [cycleScore, floorZero_eq_hundred_iff]
  push_cast
  constructor
  · intro h
    have hc0 : (c.cycles : ℚ) = 0 := by linarith
    exact_mod_cast hc0
  · intro hc0
    simp [hc0]

theorem meanScore_eq_zero_iff (c : QualityCounts) :
    (c.meanScore : ℚ) = 0 ↔ ∀ s ∈ c.scores, s = 0 := by
  rw [meanScore_eq, div_eq_zero_iff, Nat.cast_eq_zero, Nat.cast_eq_zero, List.sum_eq_zero_iff,
    List.length_eq_zero_iff]
  refine or_iff_left_of_imp fun h => ?_
  rw [h]
  exact fun s hs => absurd hs List.not_mem_nil

end Scores

section Sum

theorem weightedScore_eq (c : QualityCounts) :
    (c.weightedScore : ℚ) = c.issueScore * 0.35 + c.documentation * 15 + c.folders * 10 +
      c.completeness * 15 + (100 - c.meanScore) * 0.15 + c.cycleScore * 0.1 := by
  unfold weightedScore
  norm_num
  ring

variable (h : c.Fits)

include h

theorem Fits.weightedScore_nonneg : (0 : ℚ) ≤ c.weightedScore := by
  have hmean : (0 : ℚ) ≤ 100 - c.meanScore := sub_nonneg.mpr (meanScore_le h.scores)
  have hissues := c.issueScore_mem.1
  have hcycles := c.cycleScore_mem.1
  have hdocumented : (0 : ℚ) ≤ c.documentation := share_nonneg _ _
  have hfoldered : (0 : ℚ) ≤ c.folders := share_nonneg _ _
  have hexplicit : (0 : ℚ) ≤ c.completeness := share_nonneg _ _
  rw [weightedScore_eq]
  positivity

theorem Fits.weightedScore_le : (c.weightedScore : ℚ) ≤ 100 := by
  have hmean := c.meanScore_nonneg
  have hissues := c.issueScore_mem.2
  have hcycles := c.cycleScore_mem.2
  have hdocumented : (c.documentation : ℚ) ≤ 1 := share_le_one h.documented
  have hfoldered : (c.folders : ℚ) ≤ 1 := share_le_one h.foldered
  have hexplicit : (c.completeness : ℚ) ≤ 1 := share_le_one h.explicit
  rw [weightedScore_eq]
  linarith

/-- The sum is full just if each of its parts is. -/
theorem Fits.weightedScore_eq_hundred_iff : (c.weightedScore : ℚ) = 100 ↔ c.IsFlawless := by
  have hmean := c.meanScore_nonneg
  have hissues := c.issueScore_mem.2
  have hcycles := c.cycleScore_mem.2
  have hdocumented : (c.documentation : ℚ) ≤ 1 := share_le_one h.documented
  have hfoldered : (c.folders : ℚ) ≤ 1 := share_le_one h.foldered
  have hexplicit : (c.completeness : ℚ) ≤ 1 := share_le_one h.explicit
  rw [weightedScore_eq]
  constructor
  · intro hsum
    obtain ⟨he, hw⟩ := c.issueScore_eq_hundred_iff.mp (by linarith)
    exact {
      errors := he
      warnings := hw
      cycles := c.cycleScore_eq_hundred_iff.mp (by linarith)
      documented := (share_eq_one_iff h.documented).mp (by rw [← documentation]; linarith)
      foldered := (share_eq_one_iff h.foldered).mp (by rw [← folders]; linarith)
      explicit := (share_eq_one_iff h.explicit).mp (by rw [← completeness]; linarith)
      scores := c.meanScore_eq_zero_iff.mp (by linarith) }
  · intro hf
    have hd : (c.documentation : ℚ) = 1 := (share_eq_one_iff h.documented).mpr hf.documented
    have hfo : (c.folders : ℚ) = 1 := (share_eq_one_iff h.foldered).mpr hf.foldered
    have hco : (c.completeness : ℚ) = 1 := (share_eq_one_iff h.explicit).mpr hf.explicit
    rw [c.issueScore_eq_hundred_iff.mpr ⟨hf.errors, hf.warnings⟩,
      c.cycleScore_eq_hundred_iff.mpr hf.cycles, c.meanScore_eq_zero_iff.mpr hf.scores, hd, hfo, hco]
    norm_num

end Sum

theorem weightedScore_anti {errors warnings cycles : Nat} (he : c.errors ≤ errors)
    (hw : c.warnings ≤ warnings) (hc : c.cycles ≤ cycles) :
    ({ c with errors := errors, warnings := warnings, cycles := cycles }.weightedScore : ℚ) ≤
      c.weightedScore := by
  have he' : (c.errors : ℚ) ≤ errors := by exact_mod_cast he
  have hw' : (c.warnings : ℚ) ≤ warnings := by exact_mod_cast hw
  have hc' : (c.cycles : ℚ) ≤ cycles := by exact_mod_cast hc
  have hissues : ({ c with errors := errors, warnings := warnings, cycles := cycles }.issueScore : ℚ) ≤
      c.issueScore := by
    rw [issueScore_eq, issueScore_eq]
    exact max_le_max_right 0 (by linarith)
  have hcycles : ({ c with errors := errors, warnings := warnings, cycles := cycles }.cycleScore : ℚ) ≤
      c.cycleScore := by
    rw [cycleScore_eq, cycleScore_eq]
    exact max_le_max_right 0 (by linarith)
  rw [weightedScore_eq, weightedScore_eq]
  simp only [documentation, folders, completeness, meanScore] at hissues hcycles ⊢
  linarith

theorem fits_ofModel (m : SemanticModel) {scores : List Nat} (h : ∀ s ∈ scores, s ≤ 100)
    (severities : List Severity) (cycles unused namingIssues : Nat) :
    (ofModel m severities scores cycles unused namingIssues).Fits where
  documented := (List.length_filter_le _ _).trans m.length_measures.le
  foldered := (List.length_filter_le _ _).trans m.length_measures.le
  explicit := List.length_filter_le _ _
  scores := h

end QualityCounts

theorem FormulaSize.score_le (s : FormulaSize) : s.score ≤ 100 := Nat.min_le_right _ _

namespace SemanticModel

open QualityCounts

variable (l : Limits) (g : Graph) (m : SemanticModel)

def severities : List Severity :=
  (m.measureReports l g).flatMap fun r => r.issues.map (·.severity)

/-- The counts of a model if these were its issues and cycles. -/
def qualityCountsWith (severities : List Severity) (cycles : Nat) : QualityCounts :=
  .ofModel m severities ((m.measureReports l g).map (·.complexity.score)) cycles g.unused.length
    (Naming.checkModel l m).length

theorem qualityCountsWith_own :
    m.qualityCountsWith l g (m.severities l g) g.findCycles.length = m.qualityCounts l g := rfl

theorem fits_qualityCountsWith (severities : List Severity) (cycles : Nat) :
    (m.qualityCountsWith l g severities cycles).Fits := by
  refine fits_ofModel m ?_ _ _ _ _
  rw [List.forall_mem_map, measureReports, List.forall_mem_map]
  exact fun p _ => FormulaSize.score_le _

theorem fits_qualityCounts : (m.qualityCounts l g).Fits := by
  rw [← qualityCountsWith_own]
  exact m.fits_qualityCountsWith l g _ _

/-- A model has nothing to complain of just if its measures, its relationships and its graph have not. -/
theorem isFlawless_iff : (m.qualityCounts l g).IsFlawless ↔
    (∀ r ∈ m.measureReports l g, ∀ i ∈ r.issues, i.severity ≠ .error ∧ i.severity ≠ .warning) ∧
      g.findCycles = [] ∧
      (∀ p ∈ m.measures, p.2.isDocumented = true ∧ p.2.isFoldered = true) ∧
      (∀ r ∈ m.relationships, r.hasCardinalities = true) ∧
      ∀ r ∈ m.measureReports l g, r.complexity.score = 0 := by
  have hcount : ∀ s : Severity, (m.severities l g).count s = 0 ↔
      ∀ r ∈ m.measureReports l g, ∀ i ∈ r.issues, i.severity ≠ s := by
    intro s
    rw [List.count_eq_zero, severities, List.mem_flatMap]
    simp only [List.mem_map, not_exists, not_and]
  have hmeasures : ∀ f : Measure → Bool,
      (m.measures.filter (f ·.2)).length = m.measureCount ↔ ∀ p ∈ m.measures, f p.2 = true := by
    intro f
    rw [← m.length_measures, List.length_filter_eq_length_iff]
  constructor
  · intro h
    have he := (hcount .error).mp h.errors
    have hw := (hcount .warning).mp h.warnings
    refine ⟨fun r hr i hi => ⟨he r hr i hi, hw r hr i hi⟩, List.length_eq_zero_iff.mp h.cycles, ?_, ?_,
      List.forall_mem_map.mp h.scores⟩
    · exact fun p hp =>
        ⟨(hmeasures (·.isDocumented)).mp h.documented p hp, (hmeasures (·.isFoldered)).mp h.foldered p hp⟩
    · exact List.length_filter_eq_length_iff.mp h.explicit
  · rintro ⟨hissues, hcycles, hfilled, hexplicit, hscores⟩
    exact {
      errors := (hcount .error).mpr fun r hr i hi => (hissues r hr i hi).1
      warnings := (hcount .warning).mpr fun r hr i hi => (hissues r hr i hi).2
      cycles := List.length_eq_zero_iff.mpr hcycles
      documented := (hmeasures (·.isDocumented)).mpr fun p hp => (hfilled p hp).1
      foldered := (hmeasures (·.isFoldered)).mpr fun p hp => (hfilled p hp).2
      explicit := List.length_filter_eq_length_iff.mpr hexplicit
      scores := List.forall_mem_map.mpr hscores }

/-- In exact numbers the weighted score of a model lies between 0 and 100, so that clamping does not
change it. It is 100 just if there is no error, no warning and no cycle, every measure is described and in
a folder, every relationship has both cardinalities and every formula scores 0. With more issues, wherever
they come in the list, or more cycles it is no greater. -/
theorem weightedScore_exact :
    ((0 : ℚ) ≤ (m.qualityCounts l (Graph.ofModel m)).weightedScore ∧
      ((m.qualityCounts l (Graph.ofModel m)).weightedScore : ℚ) ≤ 100 ∧
      clampScore ((m.qualityCounts l (Graph.ofModel m)).weightedScore : ℚ) =
        (m.qualityCounts l (Graph.ofModel m)).weightedScore) ∧
    (((m.qualityCounts l (Graph.ofModel m)).weightedScore : ℚ) = 100 ↔
      (∀ r ∈ m.measureReports l (Graph.ofModel m), ∀ i ∈ r.issues,
        i.severity ≠ .error ∧ i.severity ≠ .warning) ∧
      (Graph.ofModel m).findCycles = [] ∧
      (∀ p ∈ m.measures, p.2.isDocumented = true ∧ p.2.isFoldered = true) ∧
      (∀ r ∈ m.relationships, r.hasCardinalities = true) ∧
      ∀ r ∈ m.measureReports l (Graph.ofModel m), r.complexity.score = 0) ∧
    ∀ severities severities' cycles cycles', severities.Subperm severities' → cycles ≤ cycles' →
      ((m.qualityCountsWith l (Graph.ofModel m) severities' cycles').weightedScore : ℚ) ≤
        (m.qualityCountsWith l (Graph.ofModel m) severities cycles).weightedScore := by
  have hfits := m.fits_qualityCounts l (Graph.ofModel m)
  refine ⟨⟨hfits.weightedScore_nonneg, hfits.weightedScore_le, ?_⟩, ?_, ?_⟩
  · exact clampScore_eq_self hfits.weightedScore_nonneg hfits.weightedScore_le
  · rw [hfits.weightedScore_eq_hundred_iff, isFlawless_iff]
  · intro severities severities' cycles cycles' hs hc
    exact weightedScore_anti (c := m.qualityCountsWith l (Graph.ofModel m) severities cycles)
      (hs.count_le .error) (hs.count_le .warning) hc

def flawlessModel : SemanticModel where
  name := "Model"
  tables := [
    { name := "Sales"
      measures := [
        { name := "Rate", expression := "1 + 1", description := some "The rate."
          displayFolder := some "Rates" }] }]
  relationships := [
    { name := some "r1", fromTable := "Sales", fromColumn := "Day", toTable := "Date"
      toColumn := "Day", fromCardinality := some .many, toCardinality := some .one }]

theorem weightedScore_exact_flawless :
    ((flawlessModel.qualityCounts {} (Graph.ofModel flawlessModel)).weightedScore : ℚ) = 100 ∧
      [Severity.info].Subperm [.error, .info, .warning] ∧ 0 ≤ 2 ∧
      ((flawlessModel.qualityCountsWith {} (Graph.ofModel flawlessModel) [.error, .info, .warning]
          2).weightedScore : ℚ) ≤
        (flawlessModel.qualityCountsWith {} (Graph.ofModel flawlessModel) [.info] 0).weightedScore := by
  obtain ⟨-, hfull, hanti⟩ := weightedScore_exact {} flawlessModel
  have hs : [Severity.info].Subperm [.error, .info, .warning] := by decide
  exact ⟨hfull.mpr (by decide +kernel), hs, by decide, hanti _ _ 0 2 hs (by decide)⟩

end SemanticModel

end Tabular
