import Mathlib.Data.List.Forall2
import Tabular.Analysis.Report
import Tabular.Proofs.Graph.Cycles
import Tabular.Proofs.Graph.Depth
import Tabular.Proofs.Graph.Node
import Tabular.Proofs.Graph.Separate

/-!
# The order of declarations

Where the names of the measures differ in more than letter case, another order of the tables and of their
measures gives the same nodes in another order. Whatever is counted node by node stays the same, and so
does the question whether there are cycles. How many cycles are reported, and how deep the measures are
found to lie, depends on where the search begins: both stay the same without cycles, and the number of
cycles does as long as no reference lies on two of them.
-/

namespace Tabular

open Relation Text Formula

/-- The second table is the first with its measures in some order. -/
def Table.Rearranges (t t' : Table) : Prop :=
  ∃ measures, t.measures.Perm measures ∧ t' = { t with measures := measures }

namespace SemanticModel

/-- The tables of the second model are those of the first in some order, each with its measures in some
order. -/
def Rearranges (m m' : SemanticModel) : Prop :=
  ∃ tables, List.Forall₂ Table.Rearranges m.tables tables ∧ tables.Perm m'.tables

def declarations (m : SemanticModel) : List (String × Measure) :=
  m.tables.flatMap fun t => t.measures.map (t.name, ·)

theorem declarations_eq (m : SemanticModel) :
    m.declarations = m.measures.map fun p => (p.1.name, p.2) := by
  simp [declarations, measures, List.map_flatMap, Function.comp_def]

theorem Rearranges.declarations_perm {m m' : SemanticModel} (h : m.Rearranges m') :
    m.declarations.Perm m'.declarations := by
  obtain ⟨tables, hf, hp⟩ := h
  refine List.Perm.trans ?_ (hp.flatMap_right _)
  unfold declarations
  clear hp
  generalize m.tables = source at hf
  induction hf with
  | nil => exact .nil
  | cons ht _ ih =>
    obtain ⟨measures, hms, rfl⟩ := ht
    rw [List.flatMap_cons, List.flatMap_cons]
    exact (hms.map _).append ih

variable {m m' : SemanticModel}

theorem namesDiffer_iff : m.NamesDiffer ↔ (m.declarations.map (foldName ·.2.name)).Nodup := by
  rw [NamesDiffer, declarations_eq, List.map_map]
  rfl

theorem NamesDiffer.of_perm (h : m.NamesDiffer) (hp : m.declarations.Perm m'.declarations) :
    m'.NamesDiffer :=
  namesDiffer_iff.mpr ((hp.map _).nodup_iff.mp (namesDiffer_iff.mp h))

theorem NamesDiffer.resolve?_eq_some_iff (h : m.NamesDiffer) {name target : String} :
    m.resolve? name = some target ↔
      ∃ d ∈ m.declarations, foldName d.2.name = foldName name ∧ d.2.name = target := by
  rw [resolve?, Option.map_eq_some_iff, declarations_eq]
  simp only [h.firstNamed?_eq_some_iff, List.mem_map]
  constructor
  · rintro ⟨q, ⟨hq, hf⟩, ht⟩
    exact ⟨_, ⟨q, hq, rfl⟩, hf, ht⟩
  · rintro ⟨_, ⟨q, hq, rfl⟩, hf, ht⟩
    exact ⟨q, ⟨hq, hf⟩, ht⟩

theorem NamesDiffer.resolve?_eq (h : m.NamesDiffer) (hp : m.declarations.Perm m'.declarations) :
    m.resolve? = m'.resolve? := by
  funext name
  refine Option.ext fun target => ?_
  simp only [h.resolve?_eq_some_iff, (h.of_perm hp).resolve?_eq_some_iff, hp.mem_iff]

end SemanticModel

/-- What a node depends on, without what depends on it. -/
def Dependency.bare (d : Dependency) : Dependency := { d with dependents := [] }

/-- What the formula of a declaration depends on, if names in brackets are resolved in this way. -/
def nodeOf (resolve? : String → Option String) (d : String × Measure) : Dependency :=
  let refs := References.ofFormula d.2.expression.toList
  { measure := d.2.name
    table := d.1
    measures := distinct (refs.brackets.filterMap resolve?)
    columns := distinct ((refs.brackets.filter (resolve? · = none)).map (⟨d.1, ·⟩) ++
      refs.qualified.map fun c => ⟨c.1, c.2⟩)
    tables := distinct (refs.loneTables ++ refs.qualified.map Prod.fst) }

theorem GraphStatistics.eq_of_counts {s s' : GraphStatistics}
    (h : { s with circularDependencies := 0, maxDepth := 0 } =
      { s' with circularDependencies := 0, maxDepth := 0 })
    (hc : s.circularDependencies = s'.circularDependencies) (hd : s.maxDepth = s'.maxDepth) :
    s = s' := by
  cases s
  cases s'
  simp_all

namespace Graph

variable {m m' : SemanticModel}

/-- Where names differ, a node depends on what its own declaration refers to. -/
theorem Holds.bare_eq (h : m.NamesDiffer) {q : Table × Measure} {d : Dependency}
    (hd : Holds m q d) : d.bare = nodeOf m.resolve? (q.1.name, q.2) := by
  have hs := h.sharers_eq (SemanticModel.mem_of_firstNamed? hd.first)
  have hm := hd.measures_eq
  have hc := hd.columns_eq
  have ht := hd.tables_eq
  rw [hs, List.flatMap_singleton] at hm hc ht
  rw [Dependency.bare, hm, hc, ht, hd.measure_eq, hd.table_eq]
  rfl

theorem nodes_perm (h : m.NamesDiffer) : ((ofModel m).nodes.map Dependency.bare).Perm
    (m.declarations.map (nodeOf m.resolve?)) := by
  have hn : ((ofModel m).nodes.map Dependency.bare).Nodup := by
    have hnames : ((ofModel m).nodes.map (·.measure)).Nodup :=
      measures_of_nodes m ▸ names_ofModel_nodup m
    exact List.Nodup.of_map Dependency.measure (by rwa [List.map_map])
  have hn' : (m.declarations.map (nodeOf m.resolve?)).Nodup := by
    have hfolds := SemanticModel.namesDiffer_iff.mp h
    exact List.Nodup.of_map (foldName ·.measure) (by rwa [List.map_map])
  refine (List.perm_ext_iff_of_nodup hn hn').mpr fun d => ?_
  rw [SemanticModel.declarations_eq, List.mem_map, List.mem_map]
  constructor
  · rintro ⟨e, he, rfl⟩
    obtain ⟨q, hq⟩ := exists_holds_of_mem he
    exact ⟨_, List.mem_map_of_mem (SemanticModel.mem_of_firstNamed? hq.first), (hq.bare_eq h).symm⟩
  · rintro ⟨_, hp, rfl⟩
    obtain ⟨q, hq, rfl⟩ := List.mem_map.mp hp
    obtain ⟨e, he, hh⟩ := exists_node_of_first (h.firstNamed?_eq_some_iff.mpr ⟨hq, rfl⟩)
    exact ⟨e, he, hh.bare_eq h⟩

/-- Whatever is read from each node, dependents aside, is the same for another order. -/
theorem map_nodes_perm {β : Type} (h : m.NamesDiffer) (hp : m.declarations.Perm m'.declarations)
    (f : Dependency → β) (hf : ∀ d, f d.bare = f d) :
    ((ofModel m).nodes.map f).Perm ((ofModel m').nodes.map f) := by
  have hbare : ((ofModel m).nodes.map Dependency.bare).Perm
      ((ofModel m').nodes.map Dependency.bare) := by
    refine (nodes_perm h).trans (List.Perm.trans ?_ (nodes_perm (h.of_perm hp)).symm)
    rw [h.resolve?_eq hp]
    exact hp.map _
  have hb : f ∘ Dependency.bare = f := funext hf
  have hmap := hbare.map f
  rwa [List.map_map, List.map_map, hb] at hmap

theorem length_nodes_eq (h : m.NamesDiffer) (hp : m.declarations.Perm m'.declarations) :
    (ofModel m).nodes.length = (ofModel m').nodes.length := by
  simpa using (map_nodes_perm h hp (fun _ => ()) fun _ => rfl).length_eq

/-- A number of edges that start from each node is the same for another order. -/
theorem length_flatMap_nodes_eq {β : Type} (h : m.NamesDiffer)
    (hp : m.declarations.Perm m'.declarations) (f : Dependency → List β)
    (hf : ∀ d, f d.bare = f d) :
    ((ofModel m).nodes.flatMap f).length = ((ofModel m').nodes.flatMap f).length := by
  rw [List.length_flatMap, List.length_flatMap]
  exact (map_nodes_perm h hp (fun d => (f d).length) fun d => by rw [hf]).sum_nat

theorem length_roots_eq (h : m.NamesDiffer) (hp : m.declarations.Perm m'.declarations) :
    (ofModel m).roots.length = (ofModel m').roots.length := by
  have hc : ∀ g : Graph, g.roots.length = (g.nodes.map (·.isRoot)).count true := by
    intro g
    rw [roots, List.length_map, ← List.countP_eq_length_filter, List.count, List.countP_map]
    exact List.countP_congr fun d _ => by simp
  rw [hc, hc]
  exact (map_nodes_perm h hp (·.isRoot) fun _ => rfl).count_eq true

theorem refers_iff {a b : String} :
    (ofModel m).Refers a b ↔ ∃ d ∈ (ofModel m).nodes, d.measure = a ∧ b ∈ d.measures := by
  rw [Refers, successors]
  constructor
  · intro hb
    cases hd : (ofModel m).node? a with
    | none => simp [hd] at hb
    | some d =>
      rw [hd] at hb
      obtain ⟨hm, he⟩ := node?_eq_some_iff.mp hd
      exact ⟨d, hm, he, hb⟩
  · rintro ⟨d, hd, he, hb⟩
    rw [node?_eq_some_iff.mpr ⟨hd, he⟩]
    exact hb

theorem refers_congr (h : m.NamesDiffer) (hp : m.declarations.Perm m'.declarations) (a b : String) :
    (ofModel m).Refers a b ↔ (ofModel m').Refers a b := by
  have hperm := map_nodes_perm h hp (fun d => (d.measure, d.measures)) fun _ => rfl
  have hr : ∀ n : SemanticModel, (ofModel n).Refers a b ↔
      ∃ p ∈ (ofModel n).nodes.map fun d => (d.measure, d.measures), p.1 = a ∧ b ∈ p.2 := by
    intro n
    rw [refers_iff]
    simp
  rw [hr, hr]
  simp only [hperm.mem_iff]

theorem isLeaf_iff {d : Dependency} (hd : d ∈ (ofModel m).nodes) :
    d.isLeaf = true ↔ ∀ a, ¬ (ofModel m).Refers a d.measure := by
  rw [Dependency.isLeaf, List.isEmpty_iff, dependents_eq hd, List.map_eq_nil_iff,
    List.filter_eq_nil_iff]
  simp only [refers_iff, decide_eq_true_eq]
  constructor
  · rintro hn a ⟨e, he, -, hm⟩
    exact hn e he hm
  · exact fun hn e he hm => hn e.measure ⟨e, he, rfl, hm⟩

theorem length_leaves_eq (h : m.NamesDiffer) (hp : m.declarations.Perm m'.declarations) :
    (ofModel m).leaves.length = (ofModel m').leaves.length := by
  classical
  have hc : ∀ n : SemanticModel, (∀ a b, (ofModel m).Refers a b ↔ (ofModel n).Refers a b) →
      (ofModel n).leaves.length = ((ofModel n).nodes.map (·.measure)).countP
        fun name => ∀ a, ¬ (ofModel m).Refers a name := by
    intro n hr
    rw [leaves, List.length_map, ← List.countP_eq_length_filter, List.countP_map]
    refine List.countP_congr fun d hd => ?_
    rw [isLeaf_iff hd]
    simp [hr]
  rw [hc m fun _ _ => Iff.rfl, hc m' (refers_congr h hp)]
  exact (map_nodes_perm h hp (·.measure) fun _ => rfl).countP_eq _

theorem acyclic_congr {g g' : Graph} (hr : ∀ a b, g.Refers a b ↔ g'.Refers a b)
    (hg : ∀ a, ¬ TransGen g.Refers a a) (a : String) : ¬ TransGen g'.Refers a a :=
  fun h => hg a (TransGen.mono (fun b c => (hr b c).mpr) a a h)

/-- Two graphs without cycles that have the same references are equally deep. -/
theorem maxDepth_congr {g g' : Graph} (hr : ∀ a b, g.Refers a b ↔ g'.Refers a b)
    (hg : ∀ a, ¬ TransGen g.Refers a a) : g.maxDepth = g'.maxDepth := by
  obtain ⟨⟨a, l, hl, he⟩, hb⟩ := maxDepth_of_acyclic hg
  obtain ⟨⟨a', l', hl', he'⟩, hb'⟩ := maxDepth_of_acyclic (acyclic_congr hr hg)
  refine Nat.le_antisymm ?_ ?_
  · rw [← he]
    exact hb' a l (hl.imp fun x y => (hr x y).mp)
  · rw [← he']
    exact hb a' l' (hl'.imp fun x y => (hr x y).mpr)

theorem pairwise_findCycles (m : SemanticModel) :
    (ofModel m).findCycles.Pairwise fun c d => ¬ c.measures ~r d.measures :=
  pairwise_not_isRotated (names_ofModel_nodup m) (successors_ofModel_nodup m)

theorem length_findCycles_eq (h : m.NamesDiffer) (hp : m.declarations.Perm m'.declarations)
    (hs : (ofModel m).SeparateCycles) :
    (ofModel m).findCycles.length = (ofModel m').findCycles.length :=
  Nat.le_antisymm
    (length_findCycles_le (refers_congr h hp) (pairwise_findCycles m) (hs.congr (refers_congr h hp)))
    (length_findCycles_le (fun a b => (refers_congr h hp a b).symm) (pairwise_findCycles m') hs)

theorem counts_eq (h : m.NamesDiffer) (hp : m.declarations.Perm m'.declarations) :
    { (ofModel m).statistics with circularDependencies := 0, maxDepth := 0 } =
      { (ofModel m').statistics with circularDependencies := 0, maxDepth := 0 } := by
  have hn := length_nodes_eq h hp
  have he : (ofModel m).nodes.isEmpty = (ofModel m').nodes.isEmpty := by
    rw [Bool.eq_iff_iff, List.isEmpty_iff_length_eq_zero, List.isEmpty_iff_length_eq_zero, hn]
  have hm : (ofModel m).measureEdgeCount = (ofModel m').measureEdgeCount :=
    length_flatMap_nodes_eq h hp (·.measures) fun _ => rfl
  have hc : (ofModel m).columnEdgeCount = (ofModel m').columnEdgeCount :=
    length_flatMap_nodes_eq h hp (·.columns) fun _ => rfl
  have ht : (ofModel m).tableEdgeCount = (ofModel m').tableEdgeCount :=
    length_flatMap_nodes_eq h hp (·.tables) fun _ => rfl
  have hl := length_leaves_eq h hp
  have hu : (ofModel m).unused.length = (ofModel m').unused.length := hl
  simp only [statistics, hn, he, hm, hc, ht, hl, hu, length_roots_eq h hp]

/-- In another order the statistics are the same except for the number of reported cycles and the
greatest depth. Of the cycles some are reported in both orders or in neither, and equally many if no
reference lies on two cycles; without cycles the depth is the same too. The quality of the model counts
the cycles that the statistics count. -/
theorem statistics_of_rearranges (h : m.NamesDiffer) (hr : m.Rearranges m') :
    let s := (ofModel m).statistics
    let s' := (ofModel m').statistics
    { s with circularDependencies := 0, maxDepth := 0 } =
      { s' with circularDependencies := 0, maxDepth := 0 } ∧
    (s.circularDependencies = 0 ↔ s'.circularDependencies = 0) ∧
    ((ofModel m).SeparateCycles → s.circularDependencies = s'.circularDependencies) ∧
    ((∀ a, ¬ TransGen (ofModel m).Refers a a) → s = s') ∧
    ∀ l l', (m.qualityCounts l (ofModel m)).cycles = s.circularDependencies ∧
      (m'.qualityCounts l' (ofModel m')).cycles = s'.circularDependencies := by
  have hp := hr.declarations_perm
  have hrefers := refers_congr h hp
  have hcounts := counts_eq h hp
  have hzero : (ofModel m).findCycles.length = 0 ↔ (ofModel m').findCycles.length = 0 := by
    rw [List.length_eq_zero_iff, List.length_eq_zero_iff, findCycles_eq_nil_iff,
      findCycles_eq_nil_iff]
    exact ⟨acyclic_congr hrefers, acyclic_congr fun a b => (hrefers a b).symm⟩
  refine ⟨hcounts, hzero, length_findCycles_eq h hp, fun hacyclic => ?_, fun _ _ => ⟨rfl, rfl⟩⟩
  have hnone : (ofModel m).findCycles.length = 0 :=
    List.length_eq_zero_iff.mpr ((findCycles_eq_nil_iff _).mpr hacyclic)
  exact GraphStatistics.eq_of_counts hcounts (hnone.trans (hzero.mp hnone).symm)
    (maxDepth_congr hrefers hacyclic)

end Graph

namespace SemanticModel

open Tabular.Graph (crossedModel)

/-- The tables backwards, each with its first two measures behind the others. -/
def turned (m : SemanticModel) : SemanticModel :=
  { m with tables := (m.tables.map fun t => { t with measures := t.measures.rotate 2 }).reverse }

theorem rearranges_turned (m : SemanticModel) : m.Rearranges m.turned := by
  refine ⟨_, ?_, (List.reverse_perm _).symm⟩
  rw [List.forall₂_map_right_iff, List.forall₂_same]
  exact fun t _ => ⟨_, (List.rotate_perm t.measures 2).symm, rfl⟩

/-- A base measure and, in another table, two that build on it. -/
def layeredModel : SemanticModel where
  name := "Model"
  tables := [
    { name := "Facts", measures := [{ name := "Base", expression := "SUM(Sales[Amount])" }] },
    { name := "Views"
      measures := [
        { name := "Mid", expression := "[Base] * 2" },
        { name := "Top", expression := "[Mid] + [Base]" },
        { name := "Half", expression := "[Top] / 2" }] }]
  relationships := []

theorem statistics_of_rearranges_layered :
    layeredModel.NamesDiffer ∧ layeredModel.Rearranges layeredModel.turned ∧
      (Graph.ofModel layeredModel).statistics = (Graph.ofModel layeredModel.turned).statistics ∧
      (Graph.ofModel layeredModel).statistics.maxDepth = 3 := by
  have hn : layeredModel.NamesDiffer := by unfold NamesDiffer; decide +kernel
  have hr := rearranges_turned layeredModel
  have hnil : (Graph.ofModel layeredModel).findCycles = [] := by decide +kernel
  obtain ⟨-, -, -, hacyclic, -⟩ := Graph.statistics_of_rearranges hn hr
  exact ⟨hn, hr, hacyclic ((Graph.findCycles_eq_nil_iff _).mp hnil), by decide +kernel⟩

/-- Two measures that refer to each other, of which the last refers to a third. -/
def tailedModel : SemanticModel where
  name := "Model"
  tables := [
    { name := "T"
      measures := [
        { name := "A", expression := "[B]" },
        { name := "C", expression := "1" },
        { name := "B", expression := "[A] + [C]" }] }]
  relationships := []

/-- In a model in which references close two cycles each, one cycle is reported in one order and two are
in another. In a model with one cycle the longest chain is found in one order only. -/
theorem turned_statistics_differ :
    (crossedModel.NamesDiffer ∧ crossedModel.Rearranges crossedModel.turned ∧
      (Graph.ofModel crossedModel).statistics.circularDependencies = 1 ∧
      (Graph.ofModel crossedModel.turned).statistics.circularDependencies = 2) ∧
    (tailedModel.NamesDiffer ∧ tailedModel.Rearranges tailedModel.turned ∧
      (Graph.ofModel tailedModel).statistics.maxDepth = 2 ∧
      (Graph.ofModel tailedModel.turned).statistics.maxDepth = 1) := by
  have hcrossed : crossedModel.NamesDiffer := by unfold NamesDiffer; decide +kernel
  have htailed : tailedModel.NamesDiffer := by unfold NamesDiffer; decide +kernel
  refine ⟨⟨hcrossed, rearranges_turned _, ?_, ?_⟩, ⟨htailed, rearranges_turned _, ?_, ?_⟩⟩ <;>
    decide +kernel

end SemanticModel

end Tabular
