import Tabular.Analysis.Complexity
import Tabular.Proofs.Graph.Node

/-!
# Scores with and without a graph

A formula is scored by itself or by its node in the graph. By itself every name in brackets is taken for a
measure; the node has told the measures from the columns of the own table, and counts a measure once
however it is spelt. The tables are the same. So the node never makes the score greater.
-/

namespace Tabular

open Text Formula

namespace FormulaSize

/-- Nothing is counted more often than in another formula. -/
structure AtMost (s t : FormulaSize) : Prop where
  nestingDepth : s.nestingDepth ≤ t.nestingDepth
  functionCount : s.functionCount ≤ t.functionCount
  tableCount : s.tableCount ≤ t.tableCount
  measureCount : s.measureCount ≤ t.measureCount
  hasIterator : s.hasIterator = true → t.hasIterator = true
  hasFilterModifier : s.hasFilterModifier = true → t.hasFilterModifier = true

variable {s t : FormulaSize}

theorem ite_le_ite {a b : Bool} (h : a = true → b = true) (n : Nat) :
    (if a then n else 0) ≤ if b then n else 0 := by
  cases a with
  | false => exact Nat.zero_le _
  | true =>
    have hb : b = true := h rfl
    simp [hb]

theorem AtMost.weight_le (h : s.AtMost t) : s.weight ≤ t.weight := by
  have hi := ite_le_ite h.hasIterator 15
  have hf := ite_le_ite h.hasFilterModifier 10
  have h₁ := h.nestingDepth
  have h₂ := h.functionCount
  have h₃ := h.tableCount
  have h₄ := h.measureCount
  unfold weight
  omega

/-- The score grows with the weight until the weight leaves 32 bits. -/
theorem AtMost.score_le (h : s.AtMost t) (ht : t.weight < 0x100000000) : s.score ≤ t.score := by
  have hw := h.weight_le
  have hs : s.weight < 0x100000000 := Nat.lt_of_le_of_lt hw ht
  unfold score
  rw [Nat.mod_eq_of_lt hs, Nat.mod_eq_of_lt ht]
  omega

end FormulaSize

namespace SemanticModel

/-- A node holds what the formula of a declaration refers to. -/
structure Reflects (m : SemanticModel) (p : Table × Measure) (d : Dependency) : Prop where
  measure_eq : d.measure = p.2.name
  table_eq : d.table = p.1.name
  tables_perm : d.tables.Perm (References.ofFormula p.2.expression.toList).tables
  measures_le : d.measures.length ≤ (References.ofFormula p.2.expression.toList).brackets.length
  /-- A name in brackets is that of a measure, or else of a column of the own table. -/
  resolved : ∀ name ∈ (References.ofFormula p.2.expression.toList).brackets,
    (∃ q ∈ m.measures, foldName q.2.name = foldName name ∧ q.2.name ∈ d.measures) ∨
      (∀ q ∈ m.measures, foldName q.2.name ≠ foldName name) ∧ ⟨p.1.name, name⟩ ∈ d.columns

variable {m : SemanticModel} {p : Table × Measure} {d : Dependency}

theorem Reflects.of_holds (h : Graph.Holds m p d) (hs : m.sharers p = [p]) : m.Reflects p d where
  measure_eq := h.measure_eq
  table_eq := h.table_eq
  tables_perm := by
    rw [h.tables_eq, hs, List.flatMap_singleton]
    exact distinct_tablesOf_perm p
  measures_le := by
    rw [h.measures_eq, hs, List.flatMap_singleton]
    apply Nat.le_trans (length_distinct_le _)
    exact List.length_filterMap_le _ _
  resolved := by
    intro name hb
    rw [h.measures_eq, h.columns_eq, hs, List.flatMap_singleton, List.flatMap_singleton]
    cases hq : m.firstNamed? name with
    | some q =>
      have hr : m.resolve? name = some q.2.name := by rw [resolve?, hq]; rfl
      refine .inl ⟨q, mem_of_firstNamed? hq, fold_of_firstNamed? hq, ?_⟩
      rw [mem_distinct]
      exact List.mem_filterMap.mpr ⟨name, hb, hr⟩
    | none =>
      have hr : m.resolve? name = none := by rw [resolve?, hq]; rfl
      refine .inr ⟨?_, ?_⟩
      · intro q hmem
        simpa using List.find?_eq_none.mp hq q hmem
      · rw [mem_distinct, columnsOf, List.mem_append]
        exact .inl (List.mem_map_of_mem (List.mem_filter.mpr ⟨hb, by simp [hr]⟩))

/-- With the node a formula has the same size as without, except for the measures. -/
theorem Reflects.ofFormula_eq (h : m.Reflects p d) :
    FormulaSize.ofFormula p.2.expression.toList (some d) =
      { FormulaSize.ofFormula p.2.expression.toList none with
        measureCount := d.measures.length } := by
  have ht := h.tables_perm.length_eq
  simp only [FormulaSize.ofFormula, ht]

theorem Reflects.atMost (h : m.Reflects p d) :
    (FormulaSize.ofFormula p.2.expression.toList (some d)).AtMost
      (.ofFormula p.2.expression.toList none) := by
  rw [h.ofFormula_eq]
  exact ⟨Nat.le_refl _, Nat.le_refl _, Nat.le_refl _, h.measures_le, id, id⟩

/-- Where names differ in more than letter case, the graph finds a node for every measure which reflects
its formula. The node makes a difference to the measures that are counted only, and unless the weight leaves
32 bits the score with the node is at most the score without. -/
theorem score_with_node_le (h : m.NamesDiffer) (hp : p ∈ m.measures) :
    ∃ d, (Graph.ofModel m).get? p.2.name = some d ∧ m.Reflects p d ∧
      FormulaSize.ofFormula p.2.expression.toList (some d) =
        { FormulaSize.ofFormula p.2.expression.toList none with
          measureCount := d.measures.length } ∧
      ((FormulaSize.ofFormula p.2.expression.toList none).weight < 0x100000000 → ∀ l : Limits,
        (Complexity.ofFormula l p.2.expression.toList (some d)).score ≤
          (Complexity.ofFormula l p.2.expression.toList none).score) := by
  have hfirst := h.firstNamed?_eq_some_iff.mpr ⟨hp, rfl⟩
  obtain ⟨d, hd, hh⟩ := Graph.exists_node_of_first hfirst
  have hr : m.Reflects p d := .of_holds hh (h.sharers_eq hp)
  refine ⟨d, ?_, hr, hr.ofFormula_eq, fun hw _ => hr.atMost.score_le hw⟩
  exact Graph.get?_eq_some_iff.mpr ⟨hd, p, hfirst, hh, eqIgnoreCase_self _⟩

/-- A measure that names another one in two spellings, and a column of its own table. -/
def shareMeasure : Measure where
  name := "Share"
  expression := "SUM('Date'[Day]) + [TOTAL] / [total] - [Cost]"

def spelledTable : Table where
  name := "Sales"
  measures := [{ name := "Total", expression := "SUM(Sales[Amount])" }, shareMeasure]

def spelledModel : SemanticModel where
  name := "Model"
  tables := [spelledTable]
  relationships := []

/-- Of three names in brackets the node counts one measure. -/
theorem score_with_node_le_share :
    spelledModel.NamesDiffer ∧ (spelledTable, shareMeasure) ∈ spelledModel.measures ∧
      ∃ d, (Graph.ofModel spelledModel).get? "Share" = some d ∧
        spelledModel.Reflects (spelledTable, shareMeasure) d ∧
        (Complexity.ofFormula {} shareMeasure.expression.toList (some d)).score ≤
          (Complexity.ofFormula {} shareMeasure.expression.toList none).score := by
  have hn : spelledModel.NamesDiffer := by unfold NamesDiffer; decide +kernel
  have hp : (spelledTable, shareMeasure) ∈ spelledModel.measures := by decide +kernel
  have hw : (FormulaSize.ofFormula shareMeasure.expression.toList none).weight < 0x100000000 := by
    decide +kernel
  obtain ⟨d, hget, hr, -, hs⟩ := score_with_node_le hn hp
  exact ⟨hn, hp, d, hget, hr, hs hw {}⟩

end SemanticModel

end Tabular
