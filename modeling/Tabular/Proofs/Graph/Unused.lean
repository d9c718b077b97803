import Tabular.Graph.Statistics
import Tabular.Proofs.Graph.Repeated

/-!
# Measures that nothing uses

Where the names of the measures differ in more than letter case, the graph lists as unused the measures
that no formula has in brackets, and as roots those whose formula has no measure in brackets. A formula
that has its own measure in brackets counts like any other. So the lists are those of what other measures
use just as far as every measure that refers to itself is used by another one, or uses another one.
-/

namespace Tabular

open Formula

namespace SemanticModel

/-- The formula of the first measure has the name of the second in brackets, letter case aside. -/
def Uses (p q : Table × Measure) : Prop :=
  ∃ name ∈ (References.ofFormula p.2.expression.toList).brackets, foldName name = foldName q.2.name

instance (p q : Table × Measure) : Decidable (Uses p q) :=
  inferInstanceAs (Decidable (∃ name ∈ (References.ofFormula p.2.expression.toList).brackets, _))

def namesWhere (m : SemanticModel) (P : Table × Measure → Prop) [DecidablePred P] : List String :=
  (m.measures.filter P).map (·.2.name)

/-- The measures that no other measure uses. -/
def unusedByOthers (m : SemanticModel) : List String :=
  m.namesWhere fun q => ∀ p ∈ m.measures, p ≠ q → ¬ Uses p q

/-- The measures that use no other measure. -/
def usingNoOthers (m : SemanticModel) : List String :=
  m.namesWhere fun p => ∀ q ∈ m.measures, q ≠ p → ¬ Uses p q

section NamesDiffer

variable {m : SemanticModel} {p q : Table × Measure} {P Q : Table × Measure → Prop}
  [DecidablePred P] [DecidablePred Q]

theorem NamesDiffer.firstDeclarations_eq (h : m.NamesDiffer) : m.firstDeclarations = m.measures := by
  have hsub : m.firstDeclarations.Sublist m.measures := eraseDupsBy_sublist m.measures
  have hn : m.measures.Nodup := h.of_map
  have hp : m.firstDeclarations.Perm m.measures := by
    refine (List.perm_ext_iff_of_nodup (hn.sublist hsub) hn).mpr fun q => ?_
    rw [mem_firstDeclarations_iff, h.firstNamed?_eq_some_iff, and_iff_left rfl]
  exact hsub.eq_of_length hp.length_eq

theorem NamesDiffer.resolve?_eq_name_iff (h : m.NamesDiffer) (hq : q ∈ m.measures) {name : String} :
    m.resolve? name = some q.2.name ↔ foldName name = foldName q.2.name := by
  rw [resolve?, Option.map_eq_some_iff]
  constructor
  · rintro ⟨p, hp, he⟩
    rw [← he, fold_of_firstNamed? hp]
  · intro he
    exact ⟨q, h.firstNamed?_eq_some_iff.mpr ⟨hq, he.symm⟩, rfl⟩

theorem NamesDiffer.mem_measuresOf_iff (h : m.NamesDiffer) (hq : q ∈ m.measures) :
    q.2.name ∈ m.measuresOf p ↔ Uses p q := by
  rw [measuresOf, List.mem_filterMap]
  exact exists_congr fun name => and_congr_right fun _ => h.resolve?_eq_name_iff hq

theorem measuresOf_eq_nil_iff (h : m.NamesDiffer) :
    m.measuresOf p = [] ↔ ∀ q ∈ m.measures, ¬ Uses p q := by
  constructor
  · intro hnil q hq hu
    have hmem := (h.mem_measuresOf_iff hq).mpr hu
    rw [hnil] at hmem
    exact absurd hmem List.not_mem_nil
  · intro hnone
    rw [List.eq_nil_iff_forall_not_mem]
    intro target ht
    obtain ⟨name, -, hr⟩ := List.mem_filterMap.mp ht
    obtain ⟨q, hq, rfl⟩ := Option.map_eq_some_iff.mp hr
    exact hnone q (mem_of_firstNamed? hq) ((h.mem_measuresOf_iff (mem_of_firstNamed? hq)).mp ht)

theorem NamesDiffer.name_mem_namesWhere (h : m.NamesDiffer) (hq : q ∈ m.measures) :
    q.2.name ∈ m.namesWhere P ↔ P q := by
  rw [namesWhere, List.mem_map]
  constructor
  · rintro ⟨p, hp, he⟩
    obtain ⟨hp, hP⟩ := List.mem_filter.mp hp
    rw [← h.eq_of_fold_eq hp hq (congrArg foldName he)]
    exact of_decide_eq_true hP
  · exact fun hP => ⟨q, List.mem_filter.mpr ⟨hq, decide_eq_true hP⟩, rfl⟩

theorem NamesDiffer.namesWhere_eq_iff (h : m.NamesDiffer) :
    m.namesWhere P = m.namesWhere Q ↔ ∀ q ∈ m.measures, (P q ↔ Q q) := by
  constructor
  · intro he q hq
    have hP := h.name_mem_namesWhere (P := P) hq
    rw [← hP, he, h.name_mem_namesWhere hq]
  · intro hPQ
    rw [namesWhere, namesWhere, List.filter_congr fun q hq => decide_eq_decide.mpr (hPQ q hq)]

end NamesDiffer

/-- It makes no difference whether a member is left out just if it satisfies a condition only together
with another one. -/
theorem forall_iff_forall_ne {α : Type} {items : List α} {q : α} (hq : q ∈ items) (R : α → Prop) :
    ((∀ p ∈ items, ¬ R p) ↔ ∀ p ∈ items, p ≠ q → ¬ R p) ↔ (R q → ∃ p ∈ items, p ≠ q ∧ R p) := by
  constructor
  · intro hiff hself
    by_contra hnone
    have hothers : ∀ p ∈ items, p ≠ q → ¬ R p := fun p hp hne hR => hnone ⟨p, hp, hne, hR⟩
    exact hiff.mpr hothers q hq hself
  · intro hself
    refine ⟨fun hnone p hp _ => hnone p hp, fun hothers p hp hR => ?_⟩
    by_cases hne : p = q
    · obtain ⟨other, ho, hne', hR'⟩ := hself (hne ▸ hR)
      exact hothers other ho hne' hR'
    · exact hothers p hp hne hR

end SemanticModel

namespace Graph

open SemanticModel

variable {m : SemanticModel} {p q : Table × Measure} {d : Dependency}

theorem forall₂_holds_measures (h : m.NamesDiffer) :
    List.Forall₂ (Holds m) m.measures (ofModel m).nodes :=
  h.firstDeclarations_eq ▸ forall₂_holds m

theorem Holds.measures_eq_distinct (h : m.NamesDiffer) (hd : Holds m p d) :
    d.measures = distinct (m.measuresOf p) := by
  rw [hd.measures_eq, h.sharers_eq (mem_of_firstNamed? hd.first), List.flatMap_singleton]

theorem Holds.isRoot_iff (h : m.NamesDiffer) (hd : Holds m p d) :
    d.isRoot = true ↔ ∀ q ∈ m.measures, ¬ Uses p q := by
  rw [← measuresOf_eq_nil_iff h, Dependency.isRoot, List.isEmpty_iff, hd.measures_eq_distinct h,
    List.eq_nil_iff_forall_not_mem, List.eq_nil_iff_forall_not_mem]
  simp

theorem Holds.isLeaf_iff_forall (h : m.NamesDiffer) (hd : Holds m q d) (hn : d ∈ (ofModel m).nodes) :
    d.isLeaf = true ↔ ∀ p ∈ m.measures, ¬ Uses p q := by
  have hq : q ∈ m.measures := mem_of_firstNamed? hd.first
  have hrefers : ∀ p e, Holds m p e → (d.measure ∈ e.measures ↔ Uses p q) := by
    intro p e he
    rw [he.measures_eq_distinct h, mem_distinct, hd.measure_eq, h.mem_measuresOf_iff hq]
  rw [Dependency.isLeaf, List.isEmpty_iff, dependents_eq hn, List.map_eq_nil_iff,
    List.filter_eq_nil_iff]
  constructor
  · intro hnone p hp hu
    obtain ⟨e, hm, he⟩ := exists_node_of_first (h.firstNamed?_eq_some_iff.mpr ⟨hp, rfl⟩)
    exact hnone e hm (decide_eq_true ((hrefers p e he).mpr hu))
  · intro hnone e hm hmem
    obtain ⟨p, he⟩ := exists_holds_of_mem hm
    exact hnone p (mem_of_firstNamed? he.first) ((hrefers p e he).mp (of_decide_eq_true hmem))

/-- What is told of the nodes is told of the measures in their order. -/
theorem map_filter_nodes (h : m.NamesDiffer) {f : Dependency → Bool} {P : Table × Measure → Prop}
    [DecidablePred P]
    (hf : ∀ q d, Holds m q d → d ∈ (ofModel m).nodes → (f d = true ↔ P q)) :
    ((ofModel m).nodes.filter f).map (·.measure) = m.namesWhere P := by
  have hall : List.Forall₂ (fun q d => d.measure = q.2.name ∧ (f d = true ↔ P q)) m.measures
      (ofModel m).nodes := by
    have hnodes := List.forall₂_iff_zip.mp (forall₂_holds_measures h)
    refine List.forall₂_iff_zip.mpr ⟨hnodes.1, fun {q d} hz => ?_⟩
    have hd : Holds m q d := hnodes.2 hz
    exact ⟨hd.measure_eq, hf q d hd (List.of_mem_zip hz).2⟩
  rw [namesWhere]
  clear hf h
  generalize m.measures = ms at hall
  generalize (ofModel m).nodes = ds at hall
  induction hall with
  | nil => rfl
  | @cons q d _ _ hd _ ih =>
    obtain ⟨hname, hiff⟩ := hd
    by_cases hP : P q
    · rw [List.filter_cons_of_pos (hiff.mpr hP), List.filter_cons_of_pos (by simpa using hP),
        List.map_cons, List.map_cons, hname, ih]
    · rw [List.filter_cons_of_neg (mt hiff.mp hP), List.filter_cons_of_neg (by simpa using hP), ih]

/-- Where names differ, the unused measures are those that no formula refers to, and the roots those whose
formula refers to no measure, in order of declaration; the statistics count them. Both lists are blind to
self-references just if no self-reference decides: every measure that uses itself has to be used by another
one, and to use another one. -/
theorem unused_ofModel (h : m.NamesDiffer) :
    (ofModel m).unused = m.namesWhere (fun q => ∀ p ∈ m.measures, ¬ Uses p q) ∧
      (ofModel m).roots = m.namesWhere (fun p => ∀ q ∈ m.measures, ¬ Uses p q) ∧
      (ofModel m).statistics.unusedMeasures = (ofModel m).unused.length ∧
      (ofModel m).statistics.rootMeasures = (ofModel m).roots.length ∧
      ((ofModel m).unused = m.unusedByOthers ↔
        ∀ q ∈ m.measures, Uses q q → ∃ p ∈ m.measures, p ≠ q ∧ Uses p q) ∧
      ((ofModel m).roots = m.usingNoOthers ↔
        ∀ p ∈ m.measures, Uses p p → ∃ q ∈ m.measures, q ≠ p ∧ Uses p q) := by
  have hunused : (ofModel m).unused = m.namesWhere (fun q => ∀ p ∈ m.measures, ¬ Uses p q) :=
    map_filter_nodes h fun _ _ hd hn => hd.isLeaf_iff_forall h hn
  have hroots : (ofModel m).roots = m.namesWhere (fun p => ∀ q ∈ m.measures, ¬ Uses p q) :=
    map_filter_nodes h fun _ _ hd _ => hd.isRoot_iff h
  refine ⟨hunused, hroots, rfl, rfl, ?_, ?_⟩
  · rw [hunused, unusedByOthers, h.namesWhere_eq_iff]
    exact forall₂_congr fun q hq => forall_iff_forall_ne hq (Uses · q)
  · rw [hroots, usingNoOthers, h.namesWhere_eq_iff]
    exact forall₂_congr fun p hp => forall_iff_forall_ne hp (Uses p)

def compoundModel : SemanticModel where
  name := "Model"
  tables := [
    { name := "T"
      measures := [
        { name := "Base", expression := "SUM(Sales[Amount])" },
        { name := "Total", expression := "[total] + [Base]" },
        { name := "Share", expression := "[TOTAL] / 2" }] }]
  relationships := []

theorem unused_ofModel_compound :
    compoundModel.NamesDiffer ∧
      (ofModel compoundModel).unused = compoundModel.unusedByOthers ∧
      (ofModel compoundModel).roots = compoundModel.usingNoOthers ∧
      (ofModel compoundModel).statistics.unusedMeasures = 1 := by
  have hn : compoundModel.NamesDiffer := by unfold NamesDiffer; decide +kernel
  obtain ⟨-, -, hcount, -, hunused, hroots⟩ := unused_ofModel hn
  refine ⟨hn, hunused.mpr (by decide +kernel), hroots.mpr (by decide +kernel), ?_⟩
  rw [hcount]
  decide +kernel

def selfReferringModel : SemanticModel where
  name := "Model"
  tables := [{ name := "T", measures := [{ name := "Total", expression := "[total] * 2" }] }]
  relationships := []

/-- The measure uses no other and no other uses it; it is listed neither as unused nor as a root. -/
theorem self_reference_hides_measure :
    selfReferringModel.NamesDiffer ∧
      selfReferringModel.unusedByOthers = ["Total"] ∧ (ofModel selfReferringModel).unused = [] ∧
      selfReferringModel.usingNoOthers = ["Total"] ∧ (ofModel selfReferringModel).roots = [] ∧
      (ofModel selfReferringModel).statistics.unusedMeasures = 0 ∧
      (ofModel selfReferringModel).statistics.rootMeasures = 0 := by
  have hn : selfReferringModel.NamesDiffer := by unfold NamesDiffer; decide +kernel
  refine ⟨hn, ?_, ?_, ?_, ?_, ?_, ?_⟩ <;> decide +kernel

end Graph

end Tabular
