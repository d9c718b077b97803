import Tabular.Graph.Cycle
import Tabular.Proofs.Graph.Node

/-!
# Measures declared more than once

The graph has one node for each name, letter case aside, in the order in which the names are first declared.
A node has the spelling and the table of the first declaration. Its references are those of the first
declaration too, unless a later one has the very name and a table of the same name: such a declaration adds
its own, and so may close a cycle that the first declarations do not have.
-/

namespace Tabular

open Formula

section Distinct

variable {α : Type} [BEq α] [LawfulBEq α] {items xs ys : List α}

theorem foldl_insertLast_of_subset (h : xs ⊆ items) : xs.foldl insertLast items = items := by
  induction xs with
  | nil => rfl
  | cons x xs ih =>
    rw [List.cons_subset] at h
    have hx : insertLast items x = items := if_pos (by simpa using h.1)
    rw [List.foldl_cons, hx, ih h.2]

/-- Further items leave the distinct ones as they are just if they are there already. -/
theorem distinct_append_eq_iff : distinct (xs ++ ys) = distinct xs ↔ ys ⊆ xs := by
  constructor
  · intro h y hy
    rw [← mem_distinct, ← h, mem_distinct]
    exact List.mem_append_right xs hy
  · intro h
    rw [distinct_eq_foldl, List.foldl_append, ← distinct_eq_foldl]
    apply foldl_insertLast_of_subset
    exact fun y hy => mem_distinct.mpr (h hy)

end Distinct

/-- The declarations are of one name, letter case aside. -/
def sameName (p q : Table × Measure) : Bool := foldName p.2.name == foldName q.2.name

namespace SemanticModel

/-- The first declaration of each name, in order. -/
def firstDeclarations (m : SemanticModel) : List (Table × Measure) :=
  m.measures.eraseDupsBy sameName

end SemanticModel

namespace Declared

variable {s : Declared} {p q : Table × Measure} {ms : List (Table × Measure)}

/-- Declarations of names that have been seen add nothing; of the others the first ones add a node each. -/
theorem entries_foldl_add (hs : s.Sound) (ms : List (Table × Measure)) :
    (ms.foldl add s).entries = s.entries ++
      ((ms.filter fun p => (s.spellings.lookup (foldName p.2.name)).isNone).eraseDupsBy
        sameName).map entryOf := by
  induction ms generalizing s with
  | nil => simp
  | cons p ms ih =>
    rw [List.foldl_cons, ih (hs.add p)]
    cases hl : s.spellings.lookup (foldName p.2.name) with
    | some spelling =>
      have hadd : s.add p = s := by rw [add, hl]
      rw [hadd, List.filter_cons_of_neg (by simp [hl])]
    | none =>
      have hn : p.2.name ∉ s.entries.map Prod.fst := by
        intro hm
        obtain ⟨e, he, hp⟩ := List.mem_map.mp hm
        exact hs.fold_notMem hl (List.mem_map.mpr ⟨e, he, by rw [hp]⟩)
      have hadd : s.add p = ⟨s.spellings ++ [(foldName p.2.name, p.2.name)],
          s.entries ++ [entryOf p]⟩ := by
        rw [add, hl, Entries.insert_of_notMem hn]
        rfl
      have hfilter : ms.filter (fun q => ((s.add p).spellings.lookup (foldName q.2.name)).isNone) =
          (ms.filter fun q => (s.spellings.lookup (foldName q.2.name)).isNone).filter
            fun q => sameName q p = false := by
        rw [List.filter_filter, hadd]
        refine List.filter_congr fun q _ => ?_
        cases hq : foldName q.2.name == foldName p.2.name <;>
          simp [List.lookup_append, List.lookup_cons, sameName, hq]
      rw [hfilter, List.filter_cons_of_pos (by simp [hl]), List.eraseDupsBy_cons, hadd]
      simp

theorem entries_ofMeasures (m : SemanticModel) :
    (ofMeasures m.measures).entries = m.firstDeclarations.map entryOf := by
  rw [ofMeasures, entries_foldl_add sound_empty]
  simp [SemanticModel.firstDeclarations]

end Declared

namespace SemanticModel

variable {m : SemanticModel} {p q : Table × Measure}

/-- What is left of the later declarations is shorter, on which the recursion over first ones rests. -/
theorem length_filter_sameName_lt (p : Table × Measure) (ms : List (Table × Measure)) :
    (ms.filter fun q => sameName q p = false).length < (p :: ms).length :=
  Nat.lt_succ_of_le (List.length_filter_le _ ms)

theorem mem_eraseDupsBy_iff (ms : List (Table × Measure)) : q ∈ ms.eraseDupsBy sameName ↔
    ms.find? (foldName ·.2.name = foldName q.2.name) = some q := by
  match ms with
  | [] => simp
  | p :: ms =>
    rw [List.eraseDupsBy_cons, List.mem_cons, mem_eraseDupsBy_iff (ms.filter _), List.find?_filter]
    by_cases hp : foldName p.2.name = foldName q.2.name
    · rw [List.find?_cons_of_pos (by simpa using hp), Option.some.injEq, @eq_comm _ p]
      refine or_iff_left fun hf => ?_
      have hq := List.find?_some hf
      simp [sameName, hp] at hq
    · have hne : q ≠ p := fun he => hp (he ▸ rfl)
      rw [List.find?_cons_of_neg (by simpa using hp), or_iff_right hne]
      have hsame : (fun b : Table × Measure => decide (decide (sameName b p = false) = true ∧
          decide (foldName b.2.name = foldName q.2.name) = true)) =
            fun b => decide (foldName b.2.name = foldName q.2.name) := by
        funext b
        have hb : foldName b.2.name = foldName q.2.name → sameName b p = false := by
          intro he
          simpa [sameName, he] using Ne.symm hp
        simpa using hb
      rw [hsame]
termination_by ms.length
decreasing_by exact length_filter_sameName_lt p ms

theorem eraseDupsBy_sublist (ms : List (Table × Measure)) :
    (ms.eraseDupsBy sameName).Sublist ms := by
  match ms with
  | [] => exact .slnil
  | p :: ms =>
    rw [List.eraseDupsBy_cons]
    apply List.Sublist.cons_cons
    exact (eraseDupsBy_sublist _).trans List.filter_sublist
termination_by ms.length
decreasing_by exact length_filter_sameName_lt p ms

theorem mem_firstDeclarations_iff : q ∈ m.firstDeclarations ↔ m.firstNamed? q.2.name = some q :=
  mem_eraseDupsBy_iff m.measures

theorem firstDeclarations_nodup (m : SemanticModel) :
    (m.firstDeclarations.map (foldName ·.2.name)).Nodup := by
  have h := (Declared.sound_ofMeasures m.measures).folds_nodup
  rw [Declared.entries_ofMeasures, List.map_map] at h
  exact h

theorem exists_firstDeclaration (hp : p ∈ m.measures) :
    ∃ q ∈ m.firstDeclarations, foldName q.2.name = foldName p.2.name := by
  obtain ⟨q, hq⟩ := exists_firstNamed? hp
  exact ⟨q, mem_firstDeclarations_iff.mpr (firstNamed?_self hq), fold_of_firstNamed? hq⟩

theorem exists_sharers_eq_cons (h : m.firstNamed? q.2.name = some q) :
    ∃ later, m.sharers q = q :: later := by
  obtain ⟨-, before, after, hm, hb⟩ := List.find?_eq_some_iff_append.mp h
  refine ⟨after.filter fun p => q.1.name = p.1.name ∧ q.2.name = p.2.name, ?_⟩
  have hnil : (before.filter fun p => q.1.name = p.1.name ∧ q.2.name = p.2.name) = [] := by
    apply List.filter_eq_nil_iff.mpr
    intro p hp hs
    have hne : foldName p.2.name ≠ foldName q.2.name := by simpa using hb p hp
    rw [decide_eq_true_eq] at hs
    exact hne (by rw [hs.2])
  rw [sharers, hm, List.filter_append, hnil, List.filter_cons_of_pos (by simp)]
  rfl

/-- What is collected from the declarations at a node is that of the first one just if the later ones have
nothing else. -/
theorem distinct_sharers_eq_iff {α : Type} [BEq α] [LawfulBEq α]
    (h : m.firstNamed? q.2.name = some q) (f : Table × Measure → List α) :
    distinct ((m.sharers q).flatMap f) = distinct (f q) ↔ ∀ p ∈ m.sharers q, f p ⊆ f q := by
  obtain ⟨later, hs⟩ := exists_sharers_eq_cons h
  rw [hs, List.flatMap_cons, distinct_append_eq_iff, List.forall_mem_cons,
    and_iff_right (List.Subset.refl _)]
  constructor
  · intro hsub p hp x hx
    exact hsub (List.mem_flatMap.mpr ⟨p, hp, hx⟩)
  · intro hsub x hx
    obtain ⟨p, hp, hx⟩ := List.mem_flatMap.mp hx
    exact hsub p hp hx

end SemanticModel

namespace Graph

open SemanticModel

variable {m : SemanticModel} {q : Table × Measure} {d : Dependency}

/-- The nodes are those of the first declarations, one for each in order. -/
theorem forall₂_holds (m : SemanticModel) :
    List.Forall₂ (Holds m) m.firstDeclarations (ofModel m).nodes := by
  rw [nodes, entries_ofModel, List.map_map, linkedEntries, linkAll_eq, Declared.entries_ofMeasures,
    List.map_map, List.map_map, List.forall₂_map_right_iff, List.forall₂_same]
  intro q hq
  have h := holds_linked (mem_firstDeclarations_iff.mp hq)
  exact ⟨h.first, h.measure_eq, h.table_eq, h.measures_eq, h.columns_eq, h.tables_eq⟩

/-- The node of a first declaration, which depends on what the declarations refer to that share it. Each of
its lists is that of the first declaration alone just if no later one has anything to add. -/
structure KeepsFirst (m : SemanticModel) (q : Table × Measure) (d : Dependency) : Prop
    extends Holds m q d where
  measures_iff : d.measures = distinct (m.measuresOf q) ↔
    ∀ p ∈ m.sharers q, m.measuresOf p ⊆ m.measuresOf q
  columns_iff : d.columns = distinct (m.columnsOf q) ↔
    ∀ p ∈ m.sharers q, m.columnsOf p ⊆ m.columnsOf q
  tables_iff : d.tables = distinct (tablesOf q) ↔ ∀ p ∈ m.sharers q, tablesOf p ⊆ tablesOf q

theorem Holds.keepsFirst (h : Holds m q d) : KeepsFirst m q d where
  toHolds := h
  measures_iff := h.measures_eq ▸ distinct_sharers_eq_iff h.first m.measuresOf
  columns_iff := h.columns_eq ▸ distinct_sharers_eq_iff h.first m.columnsOf
  tables_iff := h.tables_eq ▸ distinct_sharers_eq_iff h.first tablesOf

/-- There is one node for each name, letter case aside, in order of first declaration. Whether a node has
just the references of the first declaration depends on the later ones with the very name in a table of the
same name. -/
theorem nodes_ofModel (m : SemanticModel) :
    m.firstDeclarations.Sublist m.measures ∧
      (m.firstDeclarations.map (foldName ·.2.name)).Nodup ∧
      (∀ p ∈ m.measures, ∃ q ∈ m.firstDeclarations, foldName q.2.name = foldName p.2.name) ∧
      List.Forall₂ (KeepsFirst m) m.firstDeclarations (ofModel m).nodes := by
  refine ⟨eraseDupsBy_sublist _, firstDeclarations_nodup m, fun p => exists_firstDeclaration, ?_⟩
  exact (forall₂_holds m).imp fun _ _ => Holds.keepsFirst

def repeatedModel : SemanticModel where
  name := "Model"
  tables := [
    { name := "T"
      measures := [
        { name := "A", expression := "[B]" },
        { name := "A", expression := "[C]" },
        { name := "B", expression := "1" },
        { name := "C", expression := "[A]" }] }]
  relationships := []

/-- The node has a reference that only the second declaration has, and with it a cycle is reported. -/
theorem repeated_measure_merged :
    repeatedModel.firstDeclarations.map (fun q => (q.2.name, repeatedModel.measuresOf q)) =
        [("A", ["B"]), ("B", []), ("C", ["A"])] ∧
      (ofModel repeatedModel).nodes.map (fun d => (d.measure, d.measures)) =
        [("A", ["B", "C"]), ("B", []), ("C", ["A"])] ∧
      (ofModel repeatedModel).findCycles = [⟨["A", "C"]⟩] := by
  decide +kernel

end Graph

end Tabular
