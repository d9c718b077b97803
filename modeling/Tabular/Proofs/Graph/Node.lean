import Mathlib.Data.List.Induction
import Mathlib.Data.List.Nodup
import Tabular.Model.Lookup
import Tabular.Proofs.Graph.Build
import Tabular.Proofs.Text.LetterCase

/-!
# What a node holds

Names that differ in letter case only are one name, and the first declaration of a name makes its
node. The node collects the references of the declarations that have its very name and whose table
bears the name of its table: its lists are those references, each without repeats.
-/

namespace Tabular

open Text Formula

namespace SemanticModel

/-- The first measure with a name, letter case aside. -/
def firstNamed? (m : SemanticModel) (name : String) : Option (Table × Measure) :=
  m.measures.find? (foldName ·.2.name = foldName name)

def resolve? (m : SemanticModel) (name : String) : Option String :=
  (m.firstNamed? name).map (·.2.name)

/-- The declarations that have the very name of one and whose table bears the name of its table. -/
def sharers (m : SemanticModel) (q : Table × Measure) : List (Table × Measure) :=
  m.measures.filter fun p => q.1.name = p.1.name ∧ q.2.name = p.2.name

theorem firstNamed?_congr (m : SemanticModel) {name name' : String}
    (h : foldName name = foldName name') : m.firstNamed? name = m.firstNamed? name' := by
  rw [firstNamed?, firstNamed?, h]

theorem mem_of_firstNamed? {m : SemanticModel} {name : String} {q : Table × Measure}
    (h : m.firstNamed? name = some q) : q ∈ m.measures := List.mem_of_find?_eq_some h

theorem fold_of_firstNamed? {m : SemanticModel} {name : String} {q : Table × Measure}
    (h : m.firstNamed? name = some q) : foldName q.2.name = foldName name := by
  simpa using List.find?_some h

/-- The measure found is the first one of its own name too. -/
theorem firstNamed?_self {m : SemanticModel} {name : String} {q : Table × Measure}
    (h : m.firstNamed? name = some q) : m.firstNamed? q.2.name = some q := by
  rw [m.firstNamed?_congr (fold_of_firstNamed? h), h]

theorem exists_firstNamed? {m : SemanticModel} {p : Table × Measure} (hp : p ∈ m.measures) :
    ∃ q, m.firstNamed? p.2.name = some q := by
  rw [← Option.isSome_iff_exists, firstNamed?, List.find?_isSome]
  exact ⟨p, hp, by simp⟩

/-- The names of the measures differ in more than letter case. -/
def NamesDiffer (m : SemanticModel) : Prop := (m.measures.map (foldName ·.2.name)).Nodup

section NamesDiffer

variable {m : SemanticModel} {p q : Table × Measure}

theorem NamesDiffer.eq_of_fold_eq (h : m.NamesDiffer) (hp : p ∈ m.measures) (hq : q ∈ m.measures)
    (he : foldName p.2.name = foldName q.2.name) : p = q :=
  List.inj_on_of_nodup_map h hp hq he

/-- Where names differ, a measure is the first of its name. -/
theorem NamesDiffer.firstNamed?_eq_some_iff (h : m.NamesDiffer) {name : String} :
    m.firstNamed? name = some q ↔ q ∈ m.measures ∧ foldName q.2.name = foldName name := by
  constructor
  · exact fun hq => ⟨mem_of_firstNamed? hq, fold_of_firstNamed? hq⟩
  · rintro ⟨hq, he⟩
    obtain ⟨p, hp⟩ := exists_firstNamed? hq
    rw [m.firstNamed?_congr he] at hp
    rw [hp, h.eq_of_fold_eq (mem_of_firstNamed? hp) hq ((fold_of_firstNamed? hp).trans he.symm)]

theorem NamesDiffer.sharers_eq (h : m.NamesDiffer) (hq : q ∈ m.measures) : m.sharers q = [q] := by
  have hall : ∀ p ∈ m.sharers q, p = q := by
    intro p hp
    obtain ⟨hm, he⟩ := List.mem_filter.mp hp
    rw [decide_eq_true_eq] at he
    exact h.eq_of_fold_eq hm hq (by rw [he.2])
  have hmem : q ∈ m.sharers q := List.mem_filter.mpr ⟨hq, by simp⟩
  have hn : (m.sharers q).Nodup := h.of_map.filter _
  exact List.perm_singleton.mp ((List.perm_ext_iff_of_nodup hn (List.nodup_singleton q)).mpr
    fun p => ⟨fun hp => List.mem_singleton.mpr (hall p hp),
      fun hp => List.mem_singleton.mp hp ▸ hmem⟩)

end NamesDiffer

/-- The measures that the names in brackets of a declaration refer to. -/
def measuresOf (m : SemanticModel) (p : Table × Measure) : List String :=
  (References.ofFormula p.2.expression.toList).brackets.filterMap m.resolve?

/-- The columns that a declaration refers to: of its own table by the other names in brackets, then
those with tables. -/
def columnsOf (m : SemanticModel) (p : Table × Measure) : List ColumnRef :=
  ((References.ofFormula p.2.expression.toList).brackets.filter (m.resolve? · = none)).map
      (⟨p.1.name, ·⟩) ++
    (References.ofFormula p.2.expression.toList).qualified.map fun c => ⟨c.1, c.2⟩

end SemanticModel

/-- The tables that a declaration refers to, those without columns first. -/
def tablesOf (p : Table × Measure) : List String :=
  (References.ofFormula p.2.expression.toList).loneTables ++
    (References.ofFormula p.2.expression.toList).qualified.map Prod.fst

theorem distinct_tablesOf_perm (p : Table × Measure) :
    (distinct (tablesOf p)).Perm (References.ofFormula p.2.expression.toList).tables :=
  distinct_perm List.perm_append_comm

namespace Declared

theorem ofMeasures_concat (ms : List (Table × Measure)) (p : Table × Measure) :
    ofMeasures (ms ++ [p]) = (ofMeasures ms).add p := by
  rw [ofMeasures, List.foldl_append]
  rfl

theorem find?_concat_of_seen {ms : List (Table × Measure)} {p q : Table × Measure}
    (h : ms.find? (foldName ·.2.name = foldName p.2.name) = some q) (key : List Char) :
    (ms ++ [p]).find? (foldName ·.2.name = key) = ms.find? (foldName ·.2.name = key) := by
  by_cases hk : foldName p.2.name = key
  · rw [List.find?_append, ← hk, h]
    rfl
  · simp [hk]

/-- A folded name has the spelling of the first declaration that folds to it. -/
theorem lookup_spellings (ms : List (Table × Measure)) (key : List Char) :
    (ofMeasures ms).spellings.lookup key =
      (ms.find? (foldName ·.2.name = key)).map (·.2.name) := by
  induction ms using List.reverseRecOn generalizing key with
  | nil => rfl
  | append_singleton ms p ih =>
    rw [ofMeasures_concat, add]
    split
    · next hs =>
      rw [ih, Option.map_eq_some_iff] at hs
      obtain ⟨q, hq, -⟩ := hs
      rw [ih, find?_concat_of_seen hq]
    · next hs =>
      rw [List.lookup_append, List.find?_append, Option.map_or, ih]
      by_cases hk : foldName p.2.name = key
      · simp [hk]
      · have hb : (key == foldName p.2.name) = false := by simpa using Ne.symm hk
        simp [List.lookup_cons, hb, hk]

theorem resolve?_ofMeasures (m : SemanticModel) (name : String) :
    (ofMeasures m.measures).resolve? name = m.resolve? name :=
  lookup_spellings m.measures (foldName name)

def entryOf (q : Table × Measure) : String × Dependency :=
  (q.2.name, { measure := q.2.name, table := q.1.name })

theorem mem_entries_iff (ms : List (Table × Measure)) (e : String × Dependency) :
    e ∈ (ofMeasures ms).entries ↔
      ∃ q, ms.find? (foldName ·.2.name = foldName e.1) = some q ∧ e = entryOf q := by
  induction ms using List.reverseRecOn with
  | nil => simp [ofMeasures]
  | append_singleton ms p ih =>
    have hl := lookup_spellings ms (foldName p.2.name)
    rw [ofMeasures_concat, add]
    split
    · next hs =>
      obtain ⟨q, hq, -⟩ := Option.map_eq_some_iff.mp (hl.symm.trans hs)
      rw [ih, find?_concat_of_seen hq]
    · next hs =>
      have hnone : ms.find? (foldName ·.2.name = foldName p.2.name) = none :=
        Option.map_eq_none_iff.mp (hl.symm.trans hs)
      have hn : p.2.name ∉ (ofMeasures ms).entries.map Prod.fst := fun hm =>
        (sound_ofMeasures ms).fold_notMem hs
          (by simpa [Function.comp_def] using List.mem_map_of_mem hm)
      rw [Entries.insert_of_notMem hn, List.mem_append, ih, List.mem_singleton, List.find?_append]
      constructor
      · rintro (⟨q, hq, he⟩ | rfl)
        · exact ⟨q, by rw [hq]; rfl, he⟩
        · exact ⟨p, by simp [hnone], rfl⟩
      · rintro ⟨q, hq, he⟩
        rcases Option.or_eq_some_iff.mp hq with hq | ⟨-, hq⟩
        · exact .inl ⟨q, hq, he⟩
        · have hpq : q = p := List.mem_singleton.mp (List.mem_of_find?_eq_some hq)
          exact .inr (hpq ▸ he)

end Declared

namespace Graph

section Link

variable (s : Declared) (table : String) (d : Dependency)

theorem foldl_addBracket (names : List String) :
    names.foldl (addBracket s table) d =
      { d with
        measures := (names.filterMap s.resolve?).foldl insertLast d.measures
        columns :=
          ((names.filter (s.resolve? · = none)).map (⟨table, ·⟩)).foldl insertLast d.columns } := by
  induction names generalizing d with
  | nil => rfl
  | cons name names ih =>
    rw [List.foldl_cons, ih, addBracket]
    cases h : s.resolve? name <;> simp [h]

theorem foldl_addTable (tables : List String) :
    tables.foldl addTable d = { d with tables := tables.foldl insertLast d.tables } := by
  induction tables generalizing d with
  | nil => rfl
  | cons table tables ih => rw [List.foldl_cons, ih, addTable, List.foldl_cons]

theorem foldl_addColumn (columns : List (String × String)) :
    columns.foldl addColumn d =
      { d with
        tables := (columns.map Prod.fst).foldl insertLast d.tables
        columns :=
          (columns.map fun c => (⟨c.1, c.2⟩ : ColumnRef)).foldl insertLast d.columns } := by
  induction columns generalizing d with
  | nil => rfl
  | cons column columns ih =>
    rw [List.foldl_cons, ih, addColumn]
    rfl

/-- A declaration of the table that owns a node adds what it refers to. -/
theorem linkNode_eq (m : SemanticModel) (p : Table × Measure) (h : d.table = p.1.name) :
    linkNode (Declared.ofMeasures m.measures) d p =
      { d with
        measures := (m.measuresOf p).foldl insertLast d.measures
        columns := (m.columnsOf p).foldl insertLast d.columns
        tables := (tablesOf p).foldl insertLast d.tables } := by
  have hr : (Declared.ofMeasures m.measures).resolve? = m.resolve? :=
    funext (Declared.resolve?_ofMeasures m)
  rw [linkNode, if_pos h, addReferences, foldl_addBracket, foldl_addTable, foldl_addColumn, hr]
  simp [SemanticModel.measuresOf, SemanticModel.columnsOf, tablesOf]

/-- A run of declarations adds to a node what those refer to that stand in the table of its owner. -/
theorem foldl_linkNode (m : SemanticModel) (ps : List (Table × Measure)) :
    ps.foldl (linkNode (Declared.ofMeasures m.measures)) d =
      { d with
        measures := ((ps.filter (d.table = ·.1.name)).flatMap m.measuresOf).foldl insertLast
          d.measures
        columns := ((ps.filter (d.table = ·.1.name)).flatMap m.columnsOf).foldl insertLast
          d.columns
        tables := ((ps.filter (d.table = ·.1.name)).flatMap tablesOf).foldl insertLast
          d.tables } := by
  induction ps generalizing d with
  | nil => rfl
  | cons p ps ih =>
    rw [List.foldl_cons]
    by_cases h : d.table = p.1.name
    · rw [linkNode_eq d m p h, ih]
      simp [h]
    · have hskip : linkNode (Declared.ofMeasures m.measures) d p = d := if_neg h
      rw [hskip, ih]
      simp [h]

end Link

/-- The node of a measure, which is the first of its name, holds what the declarations refer to that
share it. -/
structure Holds (m : SemanticModel) (q : Table × Measure) (d : Dependency) : Prop where
  first : m.firstNamed? q.2.name = some q
  measure_eq : d.measure = q.2.name
  table_eq : d.table = q.1.name
  measures_eq : d.measures = distinct ((m.sharers q).flatMap m.measuresOf)
  columns_eq : d.columns = distinct ((m.sharers q).flatMap m.columnsOf)
  tables_eq : d.tables = distinct ((m.sharers q).flatMap tablesOf)

section Nodes

variable {m : SemanticModel} {q : Table × Measure} {d : Dependency}

theorem holds_linked (hq : m.firstNamed? q.2.name = some q) :
    Holds m q ((m.measures.filter (q.2.name = ·.2.name)).foldl
      (linkNode (Declared.ofMeasures m.measures)) (Declared.entryOf q).2) := by
  have hs : (m.measures.filter (q.2.name = ·.2.name)).filter (q.1.name = ·.1.name) =
      m.sharers q := by
    rw [List.filter_filter, SemanticModel.sharers]
    simp only [Bool.decide_and]
  have he : (Declared.entryOf q).2.table = q.1.name := rfl
  rw [foldl_linkNode, he, hs]
  exact ⟨hq, rfl, rfl, rfl, rfl, rfl⟩

theorem mem_linkedEntries_iff {e : String × Dependency} :
    e ∈ linkedEntries m ↔ ∃ q, m.firstNamed? q.2.name = some q ∧
      e = (q.2.name, (m.measures.filter (q.2.name = ·.2.name)).foldl
        (linkNode (Declared.ofMeasures m.measures)) (Declared.entryOf q).2) := by
  rw [linkedEntries, linkAll_eq, List.mem_map]
  constructor
  · rintro ⟨e, he, rfl⟩
    obtain ⟨q, hq, rfl⟩ := (Declared.mem_entries_iff m.measures e).mp he
    exact ⟨q, hq, rfl⟩
  · rintro ⟨q, hq, rfl⟩
    exact ⟨Declared.entryOf q, (Declared.mem_entries_iff m.measures _).mpr ⟨q, hq, rfl⟩, rfl⟩

/-- Every node is that of a measure which is the first of its name. -/
theorem exists_holds_of_mem (hd : d ∈ (ofModel m).nodes) : ∃ q, Holds m q d := by
  rw [nodes, entries_ofModel, List.map_map] at hd
  obtain ⟨e, he, rfl⟩ := List.mem_map.mp hd
  obtain ⟨q, hq, rfl⟩ := mem_linkedEntries_iff.mp he
  have h := holds_linked hq
  exact ⟨q, ⟨hq, h.measure_eq, h.table_eq, h.measures_eq, h.columns_eq, h.tables_eq⟩⟩

/-- Every measure that is the first of its name has a node. -/
theorem exists_node_of_first (hq : m.firstNamed? q.2.name = some q) :
    ∃ d ∈ (ofModel m).nodes, Holds m q d := by
  have he := mem_linkedEntries_iff.mpr ⟨q, hq, rfl⟩
  have h := holds_linked hq
  rw [nodes, entries_ofModel, List.map_map]
  exact ⟨_, List.mem_map_of_mem he,
    ⟨hq, h.measure_eq, h.table_eq, h.measures_eq, h.columns_eq, h.tables_eq⟩⟩

end Nodes

section Lookup

variable {m : SemanticModel} {q : Table × Measure} {d : Dependency} {name : String}

theorem node?_eq_some_iff : (ofModel m).node? name = some d ↔
    d ∈ (ofModel m).nodes ∧ d.measure = name := by
  have hn : ((ofModel m).entries.map Prod.fst).Nodup := names_ofModel_nodup m
  rw [node?, Entries.lookup_eq_some_iff hn]
  constructor
  · exact fun he => ⟨List.mem_map_of_mem he, measure_eq_name he⟩
  · rintro ⟨hd, rfl⟩
    obtain ⟨e, he, rfl⟩ := List.mem_map.mp hd
    rw [measure_eq_name he]
    exact he

theorem mem_of_get? (h : (ofModel m).get? name = some d) :
    d ∈ (ofModel m).nodes ∧ eqIgnoreCase d.measure name = true := by
  rw [get?] at h
  cases hn : (ofModel m).node? name with
  | some d' =>
    rw [hn] at h
    obtain ⟨hm, he⟩ := node?_eq_some_iff.mp hn
    cases h
    exact ⟨hm, he ▸ eqIgnoreCase_self _⟩
  | none =>
    rw [hn] at h
    have hf : (ofModel m).nodes.find? (fun d => eqIgnoreCase d.measure name) = some d := h
    exact ⟨List.mem_of_find?_eq_some hf, by simpa using List.find?_some hf⟩

theorem exists_get?_of_mem (hd : d ∈ (ofModel m).nodes) (he : eqIgnoreCase d.measure name = true) :
    ∃ d', (ofModel m).get? name = some d' := by
  rw [← Option.isSome_iff_exists, get?]
  cases (ofModel m).node? name with
  | some d' => rfl
  | none => exact List.find?_isSome.mpr ⟨d, hd, he⟩

/-- A node whose measure has a name up to ASCII case is that of the first measure with the name. -/
theorem first_of_eqIgnoreCase (hd : d ∈ (ofModel m).nodes)
    (he : eqIgnoreCase d.measure name = true) :
    ∃ q, m.firstNamed? name = some q ∧ Holds m q d ∧ eqIgnoreCase q.2.name name = true := by
  obtain ⟨q, h⟩ := exists_holds_of_mem hd
  rw [h.measure_eq] at he
  exact ⟨q, by rw [← m.firstNamed?_congr (lower_eq_of_eqIgnoreCase he), h.first], h, he⟩

/-- A look-up finds the node of the first measure with the name, but only if the two spellings differ
in the case of ASCII letters at most. -/
theorem get?_eq_some_iff : (ofModel m).get? name = some d ↔
    d ∈ (ofModel m).nodes ∧
      ∃ q, m.firstNamed? name = some q ∧ Holds m q d ∧ eqIgnoreCase q.2.name name = true := by
  constructor
  · intro h
    obtain ⟨hd, he⟩ := mem_of_get? h
    exact ⟨hd, first_of_eqIgnoreCase hd he⟩
  · rintro ⟨hd, q, hq, h, he⟩
    obtain ⟨d', hd'⟩ := exists_get?_of_mem hd (h.measure_eq ▸ he)
    obtain ⟨hm', he'⟩ := mem_of_get? hd'
    obtain ⟨q', hq', h', -⟩ := first_of_eqIgnoreCase hm' he'
    have hqq : q' = q := Option.some.inj (hq'.symm.trans hq)
    rw [hd', eq_of_measure_eq hm' hd (by rw [h'.measure_eq, h.measure_eq, hqq])]

theorem get?_eq_none_iff : (ofModel m).get? name = none ↔
    ∀ q, m.firstNamed? name = some q → eqIgnoreCase q.2.name name = false := by
  constructor
  · intro h q hq
    obtain ⟨d, hd, hh⟩ := exists_node_of_first (SemanticModel.firstNamed?_self hq)
    rw [Bool.eq_false_iff]
    intro he
    rw [get?_eq_some_iff.mpr ⟨hd, q, hq, hh, he⟩] at h
    exact absurd h (by simp)
  · intro h
    rw [Option.eq_none_iff_forall_ne_some]
    intro d hd
    obtain ⟨-, q, hq, -, he⟩ := get?_eq_some_iff.mp hd
    rw [h q hq] at he
    exact absurd he (by simp)

end Lookup

end Graph

end Tabular
