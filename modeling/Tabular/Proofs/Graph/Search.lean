import Mathlib.Data.List.Chain
import Mathlib.Data.List.Rotate
import Tabular.Graph.Cycle

/-!
# The search for cycles

The search is described by a relation that has no bound on the length of a path: what exploring a list
of measures at the end of a path makes of a search. The search of a graph has room enough to agree with
it. Of all facts below, each is an induction over this relation.
-/

namespace Tabular

namespace Graph

/-- The formula of the first measure refers to the second. -/
def Refers (g : Graph) (a b : String) : Prop := b ∈ g.successors a

/-- Measures each of which refers to the next, and the last to the first. -/
structure IsCycle (g : Graph) (measures : List String) : Prop where
  nonempty : measures ≠ []
  nodup : measures.Nodup
  chain : measures.IsChain g.Refers
  closes : ∀ a ∈ measures.getLast?, ∀ b ∈ measures.head?, g.Refers a b

/-- Exploring a list of measures at the end of a path takes one search to another. -/
inductive Explores (g : Graph) : List String → List String → Search → Search → Prop
  | done (path : List String) (s : Search) : Explores g path [] s s
  | back {path rest : List String} {next : String} {s t : Search} :
      next ∈ path → Explores g path rest (s.report path next) t →
      Explores g path (next :: rest) s t
  | seen {path rest : List String} {next : String} {s t : Search} :
      next ∉ path → next ∈ s.visited → Explores g path rest s t →
      Explores g path (next :: rest) s t
  | enter {path rest : List String} {next : String} {s u t : Search} :
      next ∉ path → next ∉ s.visited →
      Explores g (path ++ [next]) (g.successors next) (s.visit next) u →
      Explores g path rest u t → Explores g path (next :: rest) s t

variable {g : Graph} {path todo : List String} {s t : Search}

theorem Explores.unique (h : Explores g path todo s t) :
    ∀ {t' : Search}, Explores g path todo s t' → t' = t := by
  induction h with
  | done path s =>
    intro t' h'
    cases h'
    rfl
  | back hp _ ih =>
    intro t' h'
    cases h' with
    | back _ h' => exact ih h'
    | seen hp' => exact absurd hp hp'
    | enter hp' => exact absurd hp hp'
  | seen hp hv _ ih =>
    intro t' h'
    cases h' with
    | back hp' => exact absurd hp' hp
    | seen _ _ h' => exact ih h'
    | enter _ hv' => exact absurd hv hv'
  | enter hp hv _ _ ih₁ ih₂ =>
    intro t' h'
    cases h' with
    | back hp' => exact absurd hp' hp
    | seen _ hv' => exact absurd hv' hv
    | enter _ _ h₁ h₂ =>
      cases ih₁ h₁
      exact ih₂ h₂

theorem Explores.visited_suffix (h : Explores g path todo s t) : s.visited <:+ t.visited := by
  induction h with
  | done path s => exact List.suffix_refl _
  | back _ _ ih => exact ih
  | seen _ _ _ ih => exact ih
  | enter _ _ _ _ ih₁ ih₂ => exact (List.suffix_cons _ _).trans (ih₁.trans ih₂)

theorem Explores.cycles_prefix (h : Explores g path todo s t) : s.cycles <+: t.cycles := by
  induction h with
  | done path s => exact List.prefix_refl _
  | back _ _ ih => exact (List.prefix_append _ _).trans ih
  | seen _ _ _ ih => exact ih
  | enter _ _ _ _ ih₁ ih₂ => exact ih₁.trans ih₂

section Room

/-- The number of measures of the graph that a search has not seen. -/
def unseen (g : Graph) (s : Search) : Nat := g.names.countP (· ∉ s.visited)

theorem unseen_le (h : s.visited ⊆ t.visited) : g.unseen t ≤ g.unseen s := by
  refine List.countP_mono_left fun name _ hn => ?_
  simp only [decide_eq_true_eq] at hn ⊢
  exact fun hv => hn (h hv)

theorem successors_of_notMem {name : String} (h : name ∉ g.names) : g.successors name = [] := by
  have hl : g.node? name = none := by
    rw [node?, List.lookup_eq_none_iff]
    intro e he
    rw [bne_iff_ne]
    exact fun hn => h (hn ▸ List.mem_map_of_mem he)
  simp [successors, hl]

theorem unseen_visit_lt {name : String} (hn : name ∈ g.names) (hv : name ∉ s.visited) :
    g.unseen (s.visit name) < g.unseen s := by
  unfold unseen
  obtain ⟨before, after, hs⟩ := List.append_of_mem hn
  have hle : ∀ names : List String,
      names.countP (· ∉ (s.visit name).visited) ≤ names.countP (· ∉ s.visited) := by
    intro names
    refine List.countP_mono_left fun a _ ha => ?_
    simp only [Search.visit, List.mem_cons, decide_eq_true_eq, not_or] at ha ⊢
    exact ha.2
  have h₁ := hle before
  have h₂ := hle after
  have hnew : (decide (name ∉ (s.visit name).visited)) = false := by simp [Search.visit]
  have hold : (decide (name ∉ s.visited)) = true := by simpa using hv
  rw [hs, List.countP_append, List.countP_append, List.countP_cons, List.countP_cons, hnew, hold]
  simp only [Bool.false_eq_true, if_false, if_true]
  omega

/-- A path that has room for every unseen measure is explored to the end. -/
theorem explores_foldl (g : Graph) (room : Nat) (path todo : List String) (s : Search)
    (h : g.unseen s < room) :
    Explores g path todo s (todo.foldl (Search.meet path (g.searchFrom room path)) s) := by
  induction room generalizing path todo s with
  | zero => omega
  | succ room ihroom =>
    induction todo generalizing s with
    | nil => exact .done path s
    | cons next rest ihrest =>
      rw [List.foldl_cons]
      by_cases hp : next ∈ path
      · have hm : Search.meet path (g.searchFrom (room + 1) path) s next = s.report path next := by
          simp [Search.meet, hp]
        rw [hm]
        exact .back hp (ihrest (s.report path next) h)
      by_cases hv : next ∈ s.visited
      · have hm : Search.meet path (g.searchFrom (room + 1) path) s next = s := by
          simp [Search.meet, hp, hv]
        rw [hm]
        exact .seen hp hv (ihrest s h)
      · have hm : Search.meet path (g.searchFrom (room + 1) path) s next =
            (g.successors next).foldl
              (Search.meet (path ++ [next]) (g.searchFrom room (path ++ [next])))
              (s.visit next) := by
          simp [Search.meet, hp, hv, searchFrom]
        -- A measure outside the graph uses up no room, but it has no successors either.
        have hsub : Explores g (path ++ [next]) (g.successors next) (s.visit next)
            ((g.successors next).foldl
              (Search.meet (path ++ [next]) (g.searchFrom room (path ++ [next])))
              (s.visit next)) := by
          by_cases hn : next ∈ g.names
          · have hlt := unseen_visit_lt hn hv
            exact ihroom _ _ _ (by omega)
          · rw [successors_of_notMem hn]
            exact .done _ _
        have hle := unseen_le (g := g) hsub.visited_suffix.subset
        have hvis : g.unseen (s.visit next) ≤ g.unseen s :=
          unseen_le fun a ha => List.mem_cons_of_mem next ha
        rw [hm]
        exact .enter hp hv hsub (ihrest _ (by omega))

/-- The search of a graph comes to an end with all its measures explored. -/
theorem explores_search (g : Graph) : Explores g [] g.names {} g.search :=
  explores_foldl g _ _ _ _ (Nat.lt_succ_of_le List.countP_le_length)

end Room

end Graph

end Tabular
