import Tabular.Proofs.Formula.Bracket
import Tabular.Proofs.Graph.Node

/-!
# Three ways to name a measure

A measure is named to the model, to the graph or by a reference in a formula. A reference disregards
letter case altogether, the two look-ups the case of ASCII letters only. So where the names of the
measures differ in more than letter case, the look-ups agree with each other, and with the references
exactly as far as no other letter is spelt in two ways.
-/

namespace Tabular

open Text Formula

namespace SemanticModel

/-- The table and the measure that the model finds under a name. -/
def foundInModel (m : SemanticModel) (name : String) : Option (String × String) :=
  (m.measure name).toOption.map fun p => (p.1.name, p.2.name)

/-- The table and the measure that the graph finds under a name. -/
def foundInGraph (m : SemanticModel) (name : String) : Option (String × String) :=
  ((Graph.ofModel m).get? name).map fun d => (d.table, d.measure)

/-- The table and the measure that a name in brackets refers to. -/
def referredTo (m : SemanticModel) (name : String) : Option (String × String) :=
  (((Declared.ofMeasures m.measures).resolve? name).bind (Graph.ofModel m).node?).map
    fun d => (d.table, d.measure)

variable {m : SemanticModel} {name : String} {q : Table × Measure}

/-- A reference leads to the first measure of the name, whatever its letter case. -/
theorem referredTo_eq (m : SemanticModel) (name : String) :
    m.referredTo name = (m.firstNamed? name).map fun q => (q.1.name, q.2.name) := by
  rw [referredTo, Declared.resolve?_ofMeasures, resolve?]
  cases hq : m.firstNamed? name with
  | none => rfl
  | some q =>
    obtain ⟨d, hd, h⟩ := Graph.exists_node_of_first (firstNamed?_self hq)
    have hn : (Graph.ofModel m).node? q.2.name = some d :=
      Graph.node?_eq_some_iff.mpr ⟨hd, h.measure_eq⟩
    rw [Option.map_some, Option.bind_some, hn, Option.map_some, h.table_eq, h.measure_eq,
      Option.map_some]

/-- The graph finds the first measure of a name if it is spelt so up to ASCII case. -/
theorem foundInGraph_eq (m : SemanticModel) (name : String) :
    m.foundInGraph name = ((m.firstNamed? name).filter fun q => eqIgnoreCase q.2.name name).map
      fun q => (q.1.name, q.2.name) := by
  rw [foundInGraph]
  cases hg : (Graph.ofModel m).get? name with
  | some d =>
    obtain ⟨-, q, hq, h, he⟩ := Graph.get?_eq_some_iff.mp hg
    rw [hq, Option.filter_some, if_pos he, Option.map_some, h.table_eq, h.measure_eq,
      Option.map_some]
  | none =>
    cases hq : m.firstNamed? name with
    | none => rfl
    | some q =>
      rw [Option.filter_some, Graph.get?_eq_none_iff.mp hg q hq]
      rfl

theorem NamesDiffer.foundInModel_eq (h : m.NamesDiffer) (name : String) :
    m.foundInModel name = ((m.firstNamed? name).filter fun q => eqIgnoreCase q.2.name name).map
      fun q => (q.1.name, q.2.name) := by
  -- Either pass over the measures takes the one of the name, if it takes any.
  have hfirst : ∀ q ∈ m.measures, eqIgnoreCase q.2.name name = true →
      (m.firstNamed? name).filter (fun q => eqIgnoreCase q.2.name name) = some q := by
    intro q hq he
    rw [h.firstNamed?_eq_some_iff.mpr ⟨hq, lower_eq_of_eqIgnoreCase he⟩, Option.filter_some,
      if_pos he]
  have hmeasure : findNamed (fun p : Table × Measure => p.2.name) name m.measures =
      (m.firstNamed? name).filter fun q => eqIgnoreCase q.2.name name := by
    rw [findNamed]
    split
    · next q hq =>
      have he : q.2.name = name := by simpa using List.find?_some hq
      rw [hfirst q (List.mem_of_find?_eq_some hq) (he ▸ eqIgnoreCase_self _)]
    · cases hf : m.measures.find? fun p => eqIgnoreCase p.2.name name with
      | some q =>
        rw [hfirst q (List.mem_of_find?_eq_some hf) (by simpa using List.find?_some hf)]
      | none =>
        rw [List.find?_eq_none] at hf
        symm
        rw [Option.filter_eq_none_iff]
        exact fun q hq => hf q (mem_of_firstNamed? hq)
  rw [foundInModel, measure, hmeasure]
  cases (m.firstNamed? name).filter fun q => eqIgnoreCase q.2.name name <;> rfl

/-- A name in brackets is recorded at the node of the measure in whose formula it stands: as the
measure referred to, or else as a column of the own table. -/
def Recorded (m : SemanticModel) (name : String) : Prop :=
  ∀ p ∈ m.measures, name ∈ (References.ofFormula p.2.expression.toList).brackets →
    ∃ d ∈ (Graph.ofModel m).nodes, d.measure = p.2.name ∧ d.table = p.1.name ∧
      match m.referredTo name with
      | some target => target.2 ∈ d.measures
      | none => ⟨p.1.name, name⟩ ∈ d.columns

theorem NamesDiffer.recorded (h : m.NamesDiffer) (name : String) : m.Recorded name := by
  intro p hp hb
  have hfirst := h.firstNamed?_eq_some_iff.mpr ⟨hp, rfl⟩
  obtain ⟨d, hd, hh⟩ := Graph.exists_node_of_first hfirst
  refine ⟨d, hd, hh.measure_eq, hh.table_eq, ?_⟩
  rw [referredTo_eq, hh.measures_eq, hh.columns_eq, h.sharers_eq hp]
  cases hq : m.firstNamed? name with
  | some q =>
    have hr : m.resolve? name = some q.2.name := by rw [resolve?, hq]; rfl
    simpa [measuresOf] using ⟨name, hb, hr⟩
  | none =>
    have hr : m.resolve? name = none := by rw [resolve?, hq]; rfl
    simpa [columnsOf] using Or.inl ⟨hb, hr⟩

/-- How a name is answered. The look-ups find the measure spelt so up to ASCII case, a reference leads
to the one spelt so up to letter case. Hence the two look-ups answer alike and a reference leads to
whatever they find, and to no more than that just if every measure of the name is spelt so up to ASCII
case. In brackets the name is read as it is, and wherever it stands so it is recorded as what it
refers to. -/
structure Answers (m : SemanticModel) (name : String) : Prop where
  found_iff : ∀ target, m.foundInModel name = some target ↔
    ∃ q ∈ m.measures, eqIgnoreCase q.2.name name = true ∧ (q.1.name, q.2.name) = target
  referred_iff : ∀ target, m.referredTo name = some target ↔
    ∃ q ∈ m.measures, foldName q.2.name = foldName name ∧ (q.1.name, q.2.name) = target
  lookups_agree : m.foundInModel name = m.foundInGraph name
  referred_of_found : ∀ target, m.foundInModel name = some target → m.referredTo name = some target
  reference_agrees_iff : m.referredTo name = m.foundInModel name ↔
    ∀ q ∈ m.measures, foldName q.2.name = foldName name → eqIgnoreCase q.2.name name = true
  scanned : References.ofFormula ('[' :: (name.toList ++ [']'])) = ⟨[name], [], []⟩
  recorded : m.Recorded name

theorem NamesDiffer.referredTo_eq_some_iff (h : m.NamesDiffer) (target : String × String) :
    m.referredTo name = some target ↔
      ∃ q ∈ m.measures, foldName q.2.name = foldName name ∧ (q.1.name, q.2.name) = target := by
  simp only [referredTo_eq, Option.map_eq_some_iff, h.firstNamed?_eq_some_iff, and_assoc]

theorem NamesDiffer.foundInModel_eq_some_iff (h : m.NamesDiffer) (target : String × String) :
    m.foundInModel name = some target ↔
      ∃ q ∈ m.measures, eqIgnoreCase q.2.name name = true ∧ (q.1.name, q.2.name) = target := by
  simp only [h.foundInModel_eq, Option.map_eq_some_iff, Option.filter_eq_some_iff,
    h.firstNamed?_eq_some_iff, and_assoc]
  -- Names that are equal up to ASCII case are equal up to letter case.
  refine exists_congr fun q => and_congr_right fun _ => ?_
  exact and_iff_right_of_imp fun he => lower_eq_of_eqIgnoreCase he.1

theorem answers_of_namesDiffer (h : m.NamesDiffer) (hn : name ≠ "")
    (ht : trim name.toList = name.toList) (hb : ']' ∉ name.toList) : m.Answers name where
  found_iff := h.foundInModel_eq_some_iff
  referred_iff := h.referredTo_eq_some_iff
  lookups_agree := by rw [h.foundInModel_eq, foundInGraph_eq]
  referred_of_found target hf := by
    obtain ⟨q, hq, he, hp⟩ := (h.foundInModel_eq_some_iff target).mp hf
    exact (h.referredTo_eq_some_iff target).mpr ⟨q, hq, lower_eq_of_eqIgnoreCase he, hp⟩
  reference_agrees_iff := by
    rw [h.foundInModel_eq, referredTo_eq]
    constructor
    · intro he q hq hf
      rw [h.firstNamed?_eq_some_iff.mpr ⟨hq, hf⟩, Option.filter_some] at he
      by_contra hs
      rw [if_neg hs] at he
      exact absurd he (by simp)
    · intro hs
      cases hq : m.firstNamed? name with
      | none => rfl
      | some q =>
        rw [Option.filter_some, if_pos (hs q (mem_of_firstNamed? hq) (fold_of_firstNamed? hq))]
  scanned := by
    have hl : name.toList ≠ [] := fun e => hn (String.toList_eq_nil_iff.mp e)
    rw [ofFormula_bracketed hl ht hb, String.ofList_toList]
  recorded := h.recorded name

/-- A model in which a formula spells a measure with a small letter that is not ASCII. -/
def accentedModel : SemanticModel where
  name := "Model"
  tables := [
    { name := "T"
      measures := [
        { name := "É", expression := "1" },
        { name := "Share", expression := "[é] / 2" }] }]
  relationships := []

theorem answers_share :
    accentedModel.NamesDiffer ∧ accentedModel.Answers "share" ∧
      accentedModel.foundInModel "share" = some ("T", "Share") ∧
      accentedModel.foundInGraph "share" = some ("T", "Share") ∧
      accentedModel.referredTo "share" = some ("T", "Share") := by
  have hn : accentedModel.NamesDiffer := by unfold NamesDiffer; decide +kernel
  have hm : accentedModel.foundInModel "share" = some ("T", "Share") := by decide +kernel
  have ha : accentedModel.Answers "share" :=
    answers_of_namesDiffer hn (by decide) (by decide) (by decide)
  exact ⟨hn, ha, hm, ha.lookups_agree ▸ hm, ha.referred_of_found _ hm⟩

/-- The formula refers to the first measure by a name under which neither look-up finds it. -/
theorem accented_measure_missed :
    accentedModel.NamesDiffer ∧ accentedModel.referredTo "é" = some ("T", "É") ∧
      accentedModel.foundInModel "é" = none ∧ accentedModel.foundInGraph "é" = none := by
  have hn : accentedModel.NamesDiffer := by unfold NamesDiffer; decide +kernel
  exact ⟨hn, by decide +kernel, by decide +kernel, by decide +kernel⟩

end SemanticModel

end Tabular
