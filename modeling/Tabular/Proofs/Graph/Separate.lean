import Mathlib.Data.List.Perm.Subperm
import Tabular.Proofs.Graph.Discovery

/-!
# Separate cycles

A reference that leads back to the path of the search is reported with one cycle only, although it may
close several. Where it never does, because no reference lies on two cycles, nothing is lost: every cycle
of the graph is reported, from the measure on that is discovered first. So the number of reported cycles
is that of the cycles of the graph, and the order of the measures does not matter to it.
-/

namespace Tabular.Graph

open Relation

variable {g g' : Graph} {u v : String} {l l' : List String}

theorem IsCycle.rotate {x y : List String} (h : g.IsCycle (x ++ y)) : g.IsCycle (y ++ x) := by
  by_cases hx : x = []
  · simpa [hx] using h
  by_cases hy : y = []
  · simpa [hy] using h
  obtain ⟨hcx, hcy, hjoin⟩ := List.isChain_append.mp h.chain
  refine ⟨by simp [hx], List.nodup_append_comm.mp h.nodup, ?_, ?_⟩
  · refine List.isChain_append.mpr ⟨hcy, hcx, fun a ha b hb => ?_⟩
    refine h.closes a ?_ b ?_
    · rwa [List.getLast?_append_of_ne_nil _ hy]
    · rwa [List.head?_append_of_ne_nil _ hx]
  · intro a ha b hb
    rw [List.getLast?_append_of_ne_nil _ hx] at ha
    rw [List.head?_append_of_ne_nil _ hy] at hb
    exact hjoin a ha b hb

/-- Cycles that are closed by the same reference are the same. Every reference on a cycle closes it, if
the cycle is written from the right measure on; so this says that no reference lies on two cycles. -/
def SeparateCycles (g : Graph) : Prop :=
  ∀ c d : Cycle, g.IsCycle c.measures → g.IsCycle d.measures → c.ends = d.ends → c = d

theorem exists_cycle_of_returns (huv : g.Refers u v) (hvu : g.ReachesFresh v u) :
    ∃ c ∈ g.findCycles, c.ends = (some v, some u) := by
  obtain ⟨p, s, t, hv⟩ := (explores_search g).exists_enters (List.nil_subset _)
    List.not_mem_nil (visited_of_refers huv)
  obtain ⟨q, s', t', hu, hpq⟩ := hv.exists_below hvu
  have hvq : v ∈ q ++ [u] := hpq.subset (by simp)
  have hc := hu.explores.mem_cycles_of_back huv hvq
  refine ⟨_, hu.cycles_prefix.subset hc, ?_⟩
  rw [ends_report hvq, List.getLast?_concat]

/-- A cycle can be written from the measure on that is discovered first. -/
theorem IsCycle.exists_rotated_fresh (h : g.IsCycle l) :
    ∃ l', l ~r l' ∧ g.IsCycle l' ∧ ∃ u v, l'.head? = some v ∧ l'.getLast? = some u ∧
      g.Refers u v ∧ g.ReachesFresh v u := by
  have hlast := List.getLast?_eq_some_getLast h.nonempty
  have hhead := List.head?_eq_some_head h.nonempty
  have hd : l.getLast h.nonempty ∈ g.discovery := List.mem_reverse.mpr <|
    names_subset_visited g (mem_names_of_refers (h.closes _ hlast _ hhead))
  obtain ⟨v, -, hv, hfirst⟩ := exists_first (P := (· ∈ l)) hd (List.getLast_mem h.nonempty)
  obtain ⟨before, after, rfl⟩ := List.append_of_mem hv
  have hc : g.IsCycle (v :: (after ++ before)) := h.rotate
  have hlast' := List.getLast?_eq_some_getLast hc.nonempty
  refine ⟨v :: (after ++ before), List.isRotated_append, hc, _, v, rfl, hlast', ?_, ?_⟩
  · exact hc.closes _ hlast' v rfl
  · -- None of the measures on the way is discovered before the first one.
    have hchain : (v :: (after ++ before)).IsChain fun a b => g.Refers a b ∧ b ∉ g.earlier v := by
      refine hc.chain.imp_of_mem_tail_imp fun a b _ hb hr => ⟨hr, fun he => hfirst b he ?_⟩
      simp only [List.tail_cons, List.mem_append] at hb
      simp only [List.mem_append, List.mem_cons]
      tauto
    exact hchain.induction (g.ReachesFresh v ·) _ (fun _ _ hr ha => ha.tail hr)
      (fun _ => .refl) _ (List.getLast_mem hc.nonempty)

/-- Where no reference lies on two cycles, every cycle is reported. -/
theorem SeparateCycles.exists_isRotated (hg : g.SeparateCycles) (h : g.IsCycle l) :
    ∃ c ∈ g.findCycles, l ~r c.measures := by
  obtain ⟨l', hr, hc, u, v, hhead, hlast, huv, hvu⟩ := h.exists_rotated_fresh
  obtain ⟨c, hmem, hends⟩ := exists_cycle_of_returns huv hvu
  have he : (⟨l'⟩ : Cycle) = c :=
    hg ⟨l'⟩ c hc ((sound_search g).isCycle c hmem) (by rw [hends, Cycle.ends, hhead, hlast])
  exact ⟨c, hmem, he ▸ hr⟩

theorem IsCycle.congr (hr : ∀ a b, g.Refers a b ↔ g'.Refers a b) (h : g.IsCycle l) :
    g'.IsCycle l where
  nonempty := h.nonempty
  nodup := h.nodup
  chain := h.chain.imp fun a b => (hr a b).mp
  closes a ha b hb := (hr a b).mp (h.closes a ha b hb)

theorem SeparateCycles.congr (hr : ∀ a b, g.Refers a b ↔ g'.Refers a b) (h : g.SeparateCycles) :
    g'.SeparateCycles := fun c d hc hd =>
  h c d (hc.congr fun a b => (hr a b).symm) (hd.congr fun a b => (hr a b).symm)

/-- As many cycles as are reported of one graph, and no two the same, are reported of another graph of the
same references, if its cycles are separate. -/
theorem length_findCycles_le (hr : ∀ a b, g.Refers a b ↔ g'.Refers a b)
    (hd : g.findCycles.Pairwise fun c d => ¬ c.measures ~r d.measures) (hs : g'.SeparateCycles) :
    g.findCycles.length ≤ g'.findCycles.length := by
  have hex : ∀ c, ∃ d, c ∈ g.findCycles → d ∈ g'.findCycles ∧ c.measures ~r d.measures := by
    intro c
    by_cases hc : c ∈ g.findCycles
    · obtain ⟨d, hd⟩ := hs.exists_isRotated (((sound_search g).isCycle c hc).congr hr)
      exact ⟨d, fun _ => hd⟩
    · exact ⟨c, fun h => absurd h hc⟩
  choose f hf using hex
  have hn : (g.findCycles.map f).Nodup := by
    rw [List.Nodup, List.pairwise_map]
    refine hd.imp_of_mem fun {c d} hc hd hne he => hne ?_
    exact (he ▸ (hf c hc).2).trans (hf d hd).2.symm
  have hsub : g.findCycles.map f ⊆ g'.findCycles := by
    intro d hd
    obtain ⟨c, hc, rfl⟩ := List.mem_map.mp hd
    exact (hf c hc).1
  rw [← List.length_map f]
  exact (hn.subperm hsub).length_le

end Tabular.Graph
