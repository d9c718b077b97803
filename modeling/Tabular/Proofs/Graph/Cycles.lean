import Tabular.Proofs.Graph.Build
import Tabular.Proofs.Graph.Discovery

/-!
# Circular dependencies of a model

The cycles found in the graph of a model are cycles, no two are the same, and there is one as soon as a
measure can reach itself. Not every measure that can reach itself is on one of them: a measure that the
search has left is not entered again, so what leads back through it is not reported.
-/

namespace Tabular.Graph

open Relation

variable {g : Graph} {a b : String}

theorem exists_node_of_refers (h : g.Refers a b) : ∃ d ∈ g.nodes, g.successors a = d.measures := by
  unfold Refers at h
  cases hd : g.node? a with
  | none => simp [successors, hd] at h
  | some d =>
    obtain ⟨before, after, hs, -⟩ := List.lookup_eq_some_iff.mp hd
    exact ⟨d, List.mem_map.mpr ⟨(a, d), by simp [hs], rfl⟩, by simp [successors, hd]⟩

theorem successors_ofModel_nodup (m : SemanticModel) (a : String) :
    ((ofModel m).successors a).Nodup := by
  by_cases h : ∃ b, (ofModel m).Refers a b
  · obtain ⟨b, hb⟩ := h
    obtain ⟨d, hd, hs⟩ := exists_node_of_refers hb
    exact hs ▸ measures_nodup hd
  · have hs : (ofModel m).successors a = [] :=
      List.eq_nil_iff_forall_not_mem.mpr fun b hb => h ⟨b, hb⟩
    exact hs ▸ List.nodup_nil

theorem findCycles_eq_nil_iff (g : Graph) :
    g.findCycles = [] ↔ ∀ a, ¬ TransGen g.Refers a a := by
  constructor
  · intro h a ha
    obtain ⟨c, hc, -⟩ := exists_cycle_mutual ha
    exact List.not_mem_nil (h ▸ hc)
  · intro h
    refine List.eq_nil_iff_forall_not_mem.mpr fun c hc => ?_
    have hcyc := (sound_search g).isCycle c hc
    obtain ⟨a, l, hl⟩ := List.exists_cons_of_ne_nil hcyc.nonempty
    have ha : a ∈ c.measures := hl ▸ List.mem_cons_self
    exact h a (hcyc.mutual ha ha)

/-- The search of the graph of a model has one outcome. It reports cycles only, no two of which are
equal up to rotation, and none just when no measure can reach itself. -/
theorem findCycles_ofModel (m : SemanticModel) :
    (∃ s, s.cycles = (ofModel m).findCycles ∧
      ∀ t, Explores (ofModel m) [] (ofModel m).names {} t ↔ t = s) ∧
    (∀ c ∈ (ofModel m).findCycles, (ofModel m).IsCycle c.measures) ∧
    ((ofModel m).findCycles.Pairwise fun c d => ¬ c.measures ~r d.measures) ∧
    ((ofModel m).findCycles = [] ↔ ∀ a, ¬ TransGen (ofModel m).Refers a a) := by
  refine ⟨⟨(ofModel m).search, rfl, fun t => ⟨?_, ?_⟩⟩, ?_, ?_, ?_⟩
  · exact (explores_search (ofModel m)).unique
  · exact fun ht => ht ▸ explores_search (ofModel m)
  · exact (sound_search (ofModel m)).isCycle
  · exact pairwise_not_isRotated (names_ofModel_nodup m) (successors_ofModel_nodup m)
  · exact findCycles_eq_nil_iff (ofModel m)

/-- Just those measures are on a reported cycle from below which a reference leads back to or above
them. Of the measures that can reach themselves, each has at least a reported cycle among those that it
reaches and that reach it. -/
theorem reported_ofModel_iff (m : SemanticModel) (a : String) :
    ((∃ c ∈ (ofModel m).findCycles, a ∈ c.measures) ↔ (ofModel m).ReturnsAbove a) ∧
    (TransGen (ofModel m).Refers a a →
      ∃ c ∈ (ofModel m).findCycles, ∀ b ∈ c.measures, (ofModel m).Mutual a b) :=
  ⟨reported_iff_returnsAbove, exists_cycle_mutual⟩

/-- A model in which the search has left the second measure before it enters the third. -/
def crossedModel : SemanticModel where
  name := "Model"
  tables := [
    { name := "T"
      measures := [
        { name := "A", expression := "[B] + [C]" },
        { name := "B", expression := "[A]" },
        { name := "C", expression := "[B]" }] }]
  relationships := []

/-- The third measure of the model refers to the second, which refers to the first, which refers to the
third; yet it is on no reported cycle. -/
theorem circular_measure_unreported :
    TransGen (ofModel crossedModel).Refers "C" "C" ∧
      ¬ ∃ c ∈ (ofModel crossedModel).findCycles, "C" ∈ c.measures := by
  have hcb : (ofModel crossedModel).Refers "C" "B" := by unfold Refers; decide +kernel
  have hba : (ofModel crossedModel).Refers "B" "A" := by unfold Refers; decide +kernel
  have hac : (ofModel crossedModel).Refers "A" "C" := by unfold Refers; decide +kernel
  have hfound : (ofModel crossedModel).findCycles = [⟨["A", "B"]⟩] := by decide +kernel
  refine ⟨((TransGen.single hcb).tail hba).tail hac, ?_⟩
  rw [hfound]
  decide

end Tabular.Graph
