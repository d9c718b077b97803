import Mathlib.Data.List.Forall2
import Tabular.Analysis.Report
import Tabular.Proofs.Graph.Node

/-!
# The references that reports count

The report of a measure counts the measures and tables of the node that the graph finds under its
name. That node is the one of the first measure with the name, and it holds what all declarations
refer to that share it. A measure is therefore sure to have its own references counted if it is the
first of its name and shares its node with no other.
-/

namespace Tabular

open Text Formula

def FormulaSize.counts (s : FormulaSize) : Nat × Nat := (s.measureCount, s.tableCount)

namespace SemanticModel

/-- The distinct measures that the names in brackets of a declaration refer to, and the distinct tables
that it refers to. -/
def ownCounts (m : SemanticModel) (p : Table × Measure) : Nat × Nat :=
  ((distinct (m.measuresOf p)).length, (References.ofFormula p.2.expression.toList).tables.length)

/-- The distinct measures and tables that the declarations refer to which share a node. -/
def sharedCounts (m : SemanticModel) (q : Table × Measure) : Nat × Nat :=
  ((distinct ((m.sharers q).flatMap m.measuresOf)).length,
    (distinct ((m.sharers q).flatMap tablesOf)).length)

/-- All names in brackets of a declaration, measures or not, and the distinct tables. -/
def bareCounts (p : Table × Measure) : Nat × Nat :=
  ((References.ofFormula p.2.expression.toList).brackets.length,
    (References.ofFormula p.2.expression.toList).tables.length)

/-- What the report of a declaration counts: the references at the node of the first measure with its
name, unless the two names differ in more than the case of ASCII letters. -/
def reportedCounts (m : SemanticModel) (p : Table × Measure) : Nat × Nat :=
  match (m.firstNamed? p.2.name).filter fun q => eqIgnoreCase q.2.name p.2.name with
  | some q => m.sharedCounts q
  | none => bareCounts p

variable {m : SemanticModel} {p : Table × Measure}

theorem sharedCounts_of_alone (h : m.sharers p = [p]) : m.sharedCounts p = m.ownCounts p := by
  have ht : (distinct (tablesOf p)).length =
      (References.ofFormula p.2.expression.toList).tables.length :=
    (distinct_tablesOf_perm p).length_eq
  rw [sharedCounts, ownCounts, h, List.flatMap_singleton, List.flatMap_singleton, ht]

theorem reportedCounts_of_alone (hf : m.firstNamed? p.2.name = some p) (hs : m.sharers p = [p]) :
    m.reportedCounts p = m.ownCounts p := by
  rw [reportedCounts, hf, Option.filter_some, if_pos (eqIgnoreCase_self _)]
  exact sharedCounts_of_alone hs

theorem NamesDiffer.reportedCounts_eq (h : m.NamesDiffer) (hp : p ∈ m.measures) :
    m.reportedCounts p = m.ownCounts p :=
  reportedCounts_of_alone (h.firstNamed?_eq_some_iff.mpr ⟨hp, rfl⟩) (h.sharers_eq hp)

theorem counts_ofFormula (m : SemanticModel) (p : Table × Measure) :
    (FormulaSize.ofFormula p.2.expression.toList ((Graph.ofModel m).get? p.2.name)).counts =
      m.reportedCounts p := by
  rw [reportedCounts]
  cases hg : (Graph.ofModel m).get? p.2.name with
  | some d =>
    obtain ⟨-, q, hq, h, he⟩ := Graph.get?_eq_some_iff.mp hg
    rw [hq, Option.filter_some, if_pos he]
    simp only [FormulaSize.counts, FormulaSize.ofFormula, h.measures_eq, h.tables_eq, sharedCounts]
  | none =>
    have hnone : (m.firstNamed? p.2.name).filter (fun q => eqIgnoreCase q.2.name p.2.name) =
        none := by
      rw [Option.filter_eq_none_iff]
      intro q hq
      rw [Graph.get?_eq_none_iff.mp hg q hq]
      exact Bool.false_ne_true
    rw [hnone]
    rfl

/-- A report of a declaration, with the references that it counts. -/
structure Reports (m : SemanticModel) (p : Table × Measure) (r : MeasureReport) : Prop where
  measure_eq : r.measure = p.2.name
  table_eq : r.table = p.1.name
  expression_eq : r.expression = p.2.expression
  counts_eq : r.complexity.size.counts = m.reportedCounts p

theorem reports_report (m : SemanticModel) (l : Limits) (p : Table × Measure) :
    m.Reports p (p.2.report l (Graph.ofModel m) p.1.name) :=
  ⟨rfl, rfl, rfl, counts_ofFormula m p⟩

/-- Every declaration is reported in its turn, and one that is looked up is reported too. Each report
counts the references of the node found by its name, which are those of the declaration itself if it
is the first of its name and alone at its node, as every measure is where names differ. -/
theorem reports_measures (m : SemanticModel) (l : Limits) :
    List.Forall₂ m.Reports m.measures (m.measureReports l (Graph.ofModel m)) ∧
      (∀ name p, m.measure name = .ok p →
        ∃ r, m.measureReport l (Graph.ofModel m) name = .ok r ∧ m.Reports p r) ∧
      (∀ p, m.firstNamed? p.2.name = some p → m.sharers p = [p] →
        m.reportedCounts p = m.ownCounts p) ∧
      (m.NamesDiffer → ∀ p ∈ m.measures, m.reportedCounts p = m.ownCounts p) := by
  refine ⟨?_, ?_, fun p => reportedCounts_of_alone, fun h p hp => h.reportedCounts_eq hp⟩
  · rw [measureReports, List.forall₂_map_right_iff, List.forall₂_same]
    exact fun p _ => reports_report m l p
  · intro name p hp
    refine ⟨p.2.report l (Graph.ofModel m) p.1.name, ?_, reports_report m l p⟩
    rw [measureReport, hp]

/-- A model in which two tables declare a measure of one name, with different letter case. -/
def contestedModel : SemanticModel where
  name := "Model"
  tables := [
    { name := "Sales"
      measures := [
        { name := "a", expression := "[B]" },
        { name := "B", expression := "1" }] },
    { name := "Budget"
      measures := [{ name := "A", expression := "2" }] }]
  relationships := []

/-- The second declaration, which refers to nothing, is reported with the reference of the first, also
when it is looked up by its very name. -/
theorem second_declaration_miscounted :
    (contestedModel.measureReports {} (Graph.ofModel contestedModel)).map
        (fun r => (r.table, r.measure, r.expression, r.complexity.size.counts)) =
      [("Sales", "a", "[B]", 1, 0), ("Sales", "B", "1", 0, 0), ("Budget", "A", "2", 1, 0)] ∧
    (contestedModel.measureReport {} (Graph.ofModel contestedModel) "A").toOption.map
        (fun r => (r.table, r.measure, r.expression, r.complexity.size.counts)) =
      some ("Budget", "A", "2", 1, 0) ∧
    contestedModel.measures.map contestedModel.ownCounts = [(1, 0), (0, 0), (0, 0)] := by
  decide +kernel

end SemanticModel

end Tabular
