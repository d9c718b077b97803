import Mathlib.Logic.Relation
import Tabular.Proofs.Graph.Report

/-!
# The order of discovery

From a measure the search goes on to all that can be reached from it through measures not discovered
before. So the order in which the measures are discovered decides what is reported: a measure is on a
reported cycle when a reference leads from below it in this sense back to it or above it.

A measure that can reach itself may be missing from all reported cycles, but some cycle among the measures
that it reaches and that reach it is always reported.
-/

namespace Tabular

namespace Graph

open Relation

/-- The measures in the order in which the search discovers them. -/
def discovery (g : Graph) : List String := g.search.visited.reverse

/-- The measures that the search discovers before a measure. -/
def earlier (g : Graph) (a : String) : List String := g.discovery.takeWhile (· != a)

/-- The second measure can be reached from the first by references to measures none of which is
discovered before the first. -/
def ReachesFresh (g : Graph) (a b : String) : Prop :=
  ReflTransGen (fun x y => g.Refers x y ∧ y ∉ g.earlier a) a b

/-- A measure is a member of some reported cycle. -/
def Reported (g : Graph) (a : String) : Prop := ∃ c ∈ g.findCycles, a ∈ c.measures

/-- A reference leads from a measure that is reached from `a` to one from which `a` is reached, in both
cases without measures that were discovered too early. -/
def ReturnsAbove (g : Graph) (a : String) : Prop :=
  ∃ u v, g.Refers u v ∧ g.ReachesFresh v a ∧ g.ReachesFresh a u

variable {g : Graph} {path todo : List String} {s t : Search} {a b : String}

theorem discovery_nodup (g : Graph) : g.discovery.Nodup :=
  List.nodup_reverse.mpr (sound_search g).visited_nodup

section Enters

/-- Within an exploration that begins at the end of `path` and leads to `t`, the search `s` enters the
measure `a` at the end of the path `p` and leaves it as the search `u`. -/
structure Enters (g : Graph) (path : List String) (t : Search) (a : String) (p : List String)
    (s u : Search) : Prop where
  extends_path : path <+: p
  path_subset : p ⊆ s.visited
  unseen : a ∉ s.visited
  explores : Explores g (p ++ [a]) (g.successors a) (s.visit a) u
  visited_suffix : u.visited <:+ t.visited
  cycles_prefix : u.cycles <+: t.cycles

theorem Enters.trans {path p : List String} {s t t' u : Search} (h : Enters g path t a p s u)
    (hv : t.visited <:+ t'.visited) (hc : t.cycles <+: t'.cycles) : Enters g path t' a p s u :=
  { h with
    visited_suffix := h.visited_suffix.trans hv
    cycles_prefix := h.cycles_prefix.trans hc }

theorem Explores.exists_enters (h : Explores g path todo s t) (hp : path ⊆ s.visited)
    (hs : a ∉ s.visited) (ht : a ∈ t.visited) : ∃ p s' u, Enters g path t a p s' u := by
  induction h with
  | done path s => exact absurd ht hs
  | back _ _ ih => exact ih hp hs ht
  | seen _ _ _ ih => exact ih hp hs ht
  | @enter path rest next s u t _ hv h₁ h₂ ih₁ ih₂ =>
    by_cases hn : a = next
    · subst hn
      exact ⟨path, s, u, List.prefix_refl _, hp, hs, h₁, h₂.visited_suffix, h₂.cycles_prefix⟩
    by_cases hu : a ∈ u.visited
    · have hp₁ : path ++ [next] ⊆ (s.visit next).visited := by
        intro b hb
        rcases List.mem_append.mp hb with hb | hb
        · exact List.mem_cons_of_mem next (hp hb)
        · exact List.mem_singleton.mp hb ▸ List.mem_cons_self
      have hs₁ : a ∉ (s.visit next).visited := List.not_mem_cons_of_ne_of_not_mem hn hs
      obtain ⟨p, s', u', he⟩ := ih₁ hp₁ hs₁ hu
      refine ⟨p, s', u', ?_⟩
      have he' := he.trans h₂.visited_suffix h₂.cycles_prefix
      exact { he' with extends_path := (List.prefix_append _ _).trans he.extends_path }
    · have hsu := (List.suffix_cons next s.visited).trans h₁.visited_suffix
      exact ih₂ (fun b hb => hsu.subset (hp hb)) hu ht

theorem Explores.todo_subset (h : Explores g path todo s t) (hp : path ⊆ s.visited) :
    todo ⊆ t.visited := by
  induction h with
  | done path s => exact List.nil_subset _
  | back hm h ih =>
    exact List.cons_subset.mpr ⟨h.visited_suffix.subset (hp hm), ih hp⟩
  | seen _ hv h ih =>
    exact List.cons_subset.mpr ⟨h.visited_suffix.subset hv, ih hp⟩
  | @enter path rest next s u t _ _ h₁ h₂ _ ih₂ =>
    have hsu := (List.suffix_cons next s.visited).trans h₁.visited_suffix
    refine List.cons_subset.mpr ⟨?_, ih₂ fun b hb => hsu.subset (hp hb)⟩
    exact h₂.visited_suffix.subset (h₁.visited_suffix.subset List.mem_cons_self)

/-- A measure to be explored that is on the path gives the cycle from there on. -/
theorem Explores.mem_cycles_of_back (h : Explores g path todo s t) (hb : b ∈ todo)
    (hp : b ∈ path) : ⟨path.dropWhile (· != b)⟩ ∈ t.cycles := by
  induction h with
  | done path s => exact absurd hb List.not_mem_nil
  | @back path rest next s t _ h ih =>
    rcases List.mem_cons.mp hb with rfl | hb
    · exact h.cycles_prefix.subset (List.mem_append_right _ (List.mem_singleton.mpr rfl))
    · exact ih hb hp
  | seen hm _ _ ih =>
    rcases List.mem_cons.mp hb with rfl | hb
    · exact absurd hp hm
    · exact ih hb hp
  | enter hm _ _ _ _ ih₂ =>
    rcases List.mem_cons.mp hb with rfl | hb
    · exact absurd hp hm
    · exact ih₂ hb hp

variable {p : List String} {u : Search}

theorem Enters.path_subset_visit (h : Enters g path t a p s u) :
    p ++ [a] ⊆ (s.visit a).visited := by
  intro b hb
  rcases List.mem_append.mp hb with hb | hb
  · exact List.mem_cons_of_mem a (h.path_subset hb)
  · exact List.mem_singleton.mp hb ▸ List.mem_cons_self

theorem Enters.mem_visited (h : Enters g path t a p s u) : a ∈ u.visited :=
  h.explores.visited_suffix.subset List.mem_cons_self

theorem Explores.successors_subset (h : Explores g path todo s t) (hp : path ⊆ s.visited)
    (hs : a ∉ s.visited) (ht : a ∈ t.visited) : g.successors a ⊆ t.visited := by
  obtain ⟨p, s', u, he⟩ := h.exists_enters hp hs ht
  exact fun b hb => he.visited_suffix.subset
    (he.explores.todo_subset he.path_subset_visit hb)

/-- The measures discovered before one are those seen when it is entered. -/
theorem Enters.earlier_eq (h : Enters g path g.search a p s u) :
    g.earlier a = s.visited.reverse := by
  obtain ⟨after, hv⟩ := h.explores.visited_suffix.trans h.visited_suffix
  have hne : ∀ b ∈ s.visited.reverse, (b != a) = true := by
    intro b hb
    rw [bne_iff_ne]
    exact fun he => h.unseen (he ▸ List.mem_reverse.mp hb)
  rw [earlier, discovery, ← hv, Search.visit, List.reverse_append, List.reverse_cons,
    List.append_assoc, List.takeWhile_append_of_pos hne]
  simp

/-- What can be reached from a measure along measures not discovered before it has been seen when the
search leaves the measure, but not when it enters it. -/
theorem Enters.seen_of_reachesFresh (h : Enters g path g.search a p s u)
    (hb : g.ReachesFresh a b) : b ∈ u.visited ∧ b ∉ s.visited := by
  induction hb with
  | refl => exact ⟨h.mem_visited, h.unseen⟩
  | @tail b c _ hbc ih =>
    obtain ⟨hr, hc⟩ := hbc
    rw [h.earlier_eq, List.mem_reverse] at hc
    refine ⟨?_, hc⟩
    by_cases hba : b = a
    · exact h.explores.todo_subset h.path_subset_visit (hba ▸ hr)
    · have hnew : b ∉ (s.visit a).visited := List.not_mem_cons_of_ne_of_not_mem hba ih.2
      exact h.explores.successors_subset h.path_subset_visit hnew ih.1 hr

/-- What can be reached so is entered at the end of a longer path. -/
theorem Enters.exists_below (h : Enters g path g.search a p s u) (hb : g.ReachesFresh a b) :
    ∃ q s' u', Enters g path g.search b q s' u' ∧ p ++ [a] <+: q ++ [b] := by
  by_cases hba : b = a
  · subst hba
    exact ⟨p, s, u, h, List.prefix_refl _⟩
  obtain ⟨hu, hs⟩ := h.seen_of_reachesFresh hb
  have hnew : b ∉ (s.visit a).visited := List.not_mem_cons_of_ne_of_not_mem hba hs
  obtain ⟨q, s', u', he⟩ := h.explores.exists_enters h.path_subset_visit hnew hu
  have hq : p ++ [a] <+: q := he.extends_path
  refine ⟨q, s', u', ?_, hq.trans (List.prefix_append _ _)⟩
  have he' := he.trans h.visited_suffix h.cycles_prefix
  exact { he' with
    extends_path := h.extends_path.trans ((List.prefix_append _ _).trans hq) }

end Enters

section Returns

theorem mem_names_of_refers (h : g.Refers a b) : a ∈ g.names := by
  by_contra hn
  rw [Refers, successors_of_notMem hn] at h
  exact List.not_mem_nil h

theorem names_subset_visited (g : Graph) : g.names ⊆ g.search.visited :=
  (explores_search g).todo_subset (List.nil_subset _)

theorem visited_of_refers (h : g.Refers a b) : b ∈ g.search.visited :=
  (explores_search g).successors_subset (List.nil_subset _) List.not_mem_nil
    (names_subset_visited g (mem_names_of_refers h)) h

/-- A reference from below a measure to above it gives a cycle through the measure. -/
theorem ReturnsAbove.reported (h : g.ReturnsAbove a) : g.Reported a := by
  obtain ⟨u, v, huv, hva, hau⟩ := h
  obtain ⟨p, s, _, hv⟩ := (explores_search g).exists_enters (List.nil_subset _)
    List.not_mem_nil (visited_of_refers huv)
  obtain ⟨p₁, _, _, ha, hpa⟩ := hv.exists_below hva
  obtain ⟨p₂, _, _, hu, hpu⟩ := ha.exists_below hau
  have hvp : v ∈ p₁ ++ [a] := hpa.subset (by simp)
  have hc := hu.explores.mem_cycles_of_back huv (hpu.subset hvp)
  refine ⟨_, hu.cycles_prefix.subset hc, ?_⟩
  -- The measure stands on the path between the two ends of the reference.
  obtain ⟨below, hbelow⟩ := hpu
  obtain ⟨before, after, hsplit, hdrop⟩ := exists_dropWhile_eq hvp
  have ha : a ∈ (p₁ ++ [a]).dropWhile (· != v) := by
    have hlast : (v :: after).getLast? = some a := by
      rw [← List.getLast?_append_of_ne_nil before (List.cons_ne_nil _ _), ← hsplit,
        List.getLast?_concat]
    rw [hdrop]
    exact List.mem_of_getLast? hlast
  rw [← hbelow, List.dropWhile_append]
  split
  · next hemp => simp_all
  · exact List.mem_append_left _ ha

theorem notMem_takeWhile {l order : List String} (hn : order.Nodup)
    (h : (a :: l).Sublist order) (hb : b ∈ l) : b ∉ order.takeWhile (· != a) := by
  induction order with
  | nil => simp
  | cons c order ih =>
    rw [List.nodup_cons] at hn
    by_cases hc : c = a
    · simp [hc]
    · have hsub : (a :: l).Sublist order := by
        cases h with
        | cons _ h => exact h
        | cons_cons _ _ => exact absurd rfl hc
      have hbc : b ≠ c := fun he => hn.1 (he ▸ hsub.subset (List.mem_cons_of_mem a hb))
      simp [hc, hbc, ih hn.2 hsub]

theorem reachesFresh_of_chain {l : List String} (h : (a :: l).IsChain g.Refers)
    (hs : (a :: l).Sublist g.discovery) (hb : b ∈ a :: l) : g.ReachesFresh a b := by
  have hc : (a :: l).IsChain fun x y => g.Refers x y ∧ y ∉ g.earlier a :=
    h.imp_of_mem_tail_imp fun x y _ hy hr =>
      ⟨hr, notMem_takeWhile (discovery_nodup g) hs hy⟩
  rcases List.mem_cons.mp hb with rfl | hb
  · exact .refl
  · exact hc.cons_induction _ _ (fun _ _ hxy hx => hx.tail hxy) .refl b hb

theorem Reported.returnsAbove (h : g.Reported a) : g.ReturnsAbove a := by
  obtain ⟨c, hc, ha⟩ := h
  have hs := sound_search g
  have hcyc := hs.isCycle c hc
  have hsub : c.measures.Sublist g.discovery := hs.sublist c hc
  obtain ⟨above, below, hsplit⟩ := List.append_of_mem ha
  obtain ⟨v, l, hv⟩ := List.exists_cons_of_ne_nil hcyc.nonempty
  have hsuf : a :: below <:+ c.measures := ⟨above, hsplit.symm⟩
  have hlast : (a :: below).getLast (List.cons_ne_nil _ _) ∈ c.measures.getLast? := by
    rw [hsplit, List.getLast?_append_of_ne_nil _ (List.cons_ne_nil _ _),
      List.getLast?_eq_some_getLast (List.cons_ne_nil _ _)]
    rfl
  refine ⟨(a :: below).getLast (List.cons_ne_nil _ _), v, ?_, ?_, ?_⟩
  · exact hcyc.closes _ hlast v (by rw [hv]; rfl)
  · exact reachesFresh_of_chain (hv ▸ hcyc.chain) (hv ▸ hsub) (hv ▸ ha)
  · exact reachesFresh_of_chain (hcyc.chain.suffix hsuf) (hsuf.sublist.trans hsub)
      (List.getLast_mem _)

theorem reported_iff_returnsAbove : g.Reported a ↔ g.ReturnsAbove a :=
  ⟨Reported.returnsAbove, ReturnsAbove.reported⟩

end Returns

section Components

/-- Each of two measures can be reached from the other. -/
def Mutual (g : Graph) (a b : String) : Prop :=
  ReflTransGen g.Refers a b ∧ ReflTransGen g.Refers b a

theorem IsCycle.mutual {l : List String} (h : g.IsCycle l) (ha : a ∈ l) (hb : b ∈ l) :
    TransGen g.Refers a b := by
  have hlast : ReflTransGen g.Refers a (l.getLast h.nonempty) :=
    h.chain.backwards_induction (ReflTransGen g.Refers · (l.getLast h.nonempty)) l
      (fun _ _ hr hy => .head hr hy) (fun _ => .refl) a ha
  have hhead : ReflTransGen g.Refers (l.head h.nonempty) b :=
    h.chain.induction (ReflTransGen g.Refers (l.head h.nonempty)) l
      (fun _ _ hr hx => hx.tail hr) (fun _ => .refl) b hb
  have hclose : g.Refers (l.getLast h.nonempty) (l.head h.nonempty) :=
    h.closes _ (List.getLast?_eq_some_getLast h.nonempty) _ (List.head?_eq_some_head h.nonempty)
  exact (TransGen.tail' hlast hclose).trans_left hhead

/-- Of the items of a list with a property there is a first one. -/
theorem exists_first {P : String → Prop} {l : List String} (ha : a ∈ l) (hP : P a) :
    ∃ r ∈ l, P r ∧ ∀ b ∈ l.takeWhile (· != r), ¬ P b := by
  induction l with
  | nil => exact absurd ha List.not_mem_nil
  | cons c l ih =>
    by_cases hc : P c
    · exact ⟨c, List.mem_cons_self, hc, by simp⟩
    have hac : a ≠ c := fun he => hc (he ▸ hP)
    obtain ⟨r, hr, hPr, hfirst⟩ := ih ((List.mem_cons.mp ha).resolve_left hac)
    have hcr : c ≠ r := fun he => hc (he ▸ hPr)
    refine ⟨r, List.mem_cons_of_mem c hr, hPr, ?_⟩
    simpa [hcr] using ⟨hc, hfirst⟩

/-- Among the measures that can be reached from one another, everything is reached from the one that
is discovered first. -/
theorem reachesFresh_of_first {r u : String} (hfirst : ∀ b ∈ g.earlier r, ¬ g.Mutual a b)
    (har : g.Mutual a r) (hru : ReflTransGen g.Refers r u) (hur : ReflTransGen g.Refers u r) :
    g.ReachesFresh r u := by
  induction hru with
  | refl => exact .refl
  | @tail b c hrb hbc ih =>
    have hac : g.Mutual a c := ⟨har.1.trans (hrb.tail hbc), hur.trans har.2⟩
    exact (ih (hur.head hbc)).tail ⟨hbc, fun he => hfirst c he hac⟩

/-- A measure that can reach itself has a reported cycle among the measures that it reaches and that
reach it. -/
theorem exists_cycle_mutual (h : TransGen g.Refers a a) :
    ∃ c ∈ g.findCycles, ∀ b ∈ c.measures, g.Mutual a b := by
  obtain ⟨next, hnext, -⟩ := TransGen.head'_iff.mp h
  have ha : a ∈ g.discovery :=
    List.mem_reverse.mpr (names_subset_visited g (mem_names_of_refers hnext))
  obtain ⟨r, -, har, hfirst⟩ := exists_first (P := g.Mutual a) ha ⟨.refl, .refl⟩
  have hrr : TransGen g.Refers r r := (TransGen.trans_right har.2 h).trans_left har.1
  obtain ⟨u, hru, hur⟩ := TransGen.tail'_iff.mp hrr
  have hret : g.ReturnsAbove r :=
    ⟨u, r, hur, .refl, reachesFresh_of_first hfirst har hru (.single hur)⟩
  obtain ⟨c, hc, hrc⟩ := hret.reported
  refine ⟨c, hc, fun b hb => ?_⟩
  have hcyc := (sound_search g).isCycle c hc
  exact ⟨har.1.trans (hcyc.mutual hrc hb).to_reflTransGen,
    (hcyc.mutual hb hrc).to_reflTransGen.trans har.2⟩

end Components

end Graph

end Tabular
