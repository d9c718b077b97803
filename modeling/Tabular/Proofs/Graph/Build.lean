import Mathlib.Data.List.Nodup
import Tabular.Proofs.Graph.Entries

/-!
# Consistency of a built graph

A graph is built in three passes: the nodes are declared, then linked, then every reference is turned
round. Each pass keeps what the ones before it have established, so that the references of a built
graph lead to nodes and its two lists of references are each other's inverse.
-/

namespace Tabular

namespace Declared

/-- Spellings and nodes tell of the same names, which differ in more than letter case, and the nodes
have no edges. -/
structure Sound (s : Declared) : Prop where
  spellings_eq : s.spellings = s.entries.map fun e => (foldName e.1, e.1)
  folds_nodup : (s.entries.map fun e => foldName e.1).Nodup
  bare : ∀ e ∈ s.entries, e.2 = { measure := e.1, table := e.2.table }

theorem sound_empty : Sound {} :=
  ⟨rfl, List.nodup_nil, fun _ h => absurd h List.not_mem_nil⟩

theorem Sound.names_nodup {s : Declared} (h : s.Sound) : (s.entries.map Prod.fst).Nodup := by
  have hf : ((s.entries.map Prod.fst).map foldName).Nodup := by
    rw [List.map_map]
    exact h.folds_nodup
  exact hf.of_map

theorem Sound.fold_notMem {s : Declared} (h : s.Sound) {key : List Char}
    (hk : s.spellings.lookup key = none) : key ∉ s.entries.map fun e => foldName e.1 := by
  rw [h.spellings_eq, List.lookup_eq_none_iff] at hk
  intro hm
  obtain ⟨e, he, rfl⟩ := List.mem_map.mp hm
  simpa using hk _ (List.mem_map_of_mem he)

theorem Sound.add {s : Declared} (h : s.Sound) (p : Table × Measure) : (s.add p).Sound := by
  unfold Declared.add
  split
  · exact h
  · next hl =>
    have hk := h.fold_notMem hl
    have hn : p.2.name ∉ s.entries.map Prod.fst := by
      intro hm
      obtain ⟨e, he, hp⟩ := List.mem_map.mp hm
      exact hk (List.mem_map.mpr ⟨e, he, by rw [hp]⟩)
    rw [Entries.insert_of_notMem hn]
    refine ⟨?_, ?_, ?_⟩
    · simp [h.spellings_eq]
    · rw [List.map_append, List.nodup_append]
      refine ⟨h.folds_nodup, by simp, ?_⟩
      intro a ha b hb
      rw [List.map_singleton, List.mem_singleton] at hb
      exact fun he => hk (hb ▸ he ▸ ha)
    · intro e he
      rcases List.mem_append.mp he with he | he
      · exact h.bare e he
      · rw [List.mem_singleton] at he
        rw [he]

theorem sound_ofMeasures (measures : List (Table × Measure)) : (ofMeasures measures).Sound :=
  List.foldlRecOn measures add sound_empty fun _ h p _ => h.add p

theorem Sound.mem_of_resolve? {s : Declared} (h : s.Sound) {name target : String}
    (ht : s.resolve? name = some target) : target ∈ s.entries.map Prod.fst := by
  rw [resolve?, List.lookup_eq_some_iff] at ht
  obtain ⟨before, after, hs, -⟩ := ht
  have hm : (foldName name, target) ∈ s.spellings := by rw [hs]; simp
  rw [h.spellings_eq] at hm
  obtain ⟨e, he, hp⟩ := List.mem_map.mp hm
  rw [Prod.mk.injEq] at hp
  exact List.mem_map.mpr ⟨e, he, hp.2⟩

end Declared

namespace Graph

/-- A node on the way from its declaration to its inversion: it refers to declared measures only, to
each once, and no measure refers to it yet. -/
structure Linked (s : Declared) (name : String) (d : Dependency) : Prop where
  measure_eq : d.measure = name
  measures_mem : ∀ t ∈ d.measures, t ∈ s.entries.map Prod.fst
  measures_nodup : d.measures.Nodup
  dependents_eq : d.dependents = []

section Link

variable {s : Declared} {name : String} {d : Dependency}

theorem Linked.addBracket (hs : s.Sound) (table : String) (h : Linked s name d) (b : String) :
    Linked s name (addBracket s table d b) := by
  unfold Graph.addBracket
  split
  · next target ht =>
    refine ⟨h.measure_eq, ?_, nodup_insertLast h.measures_nodup target, h.dependents_eq⟩
    intro t hm
    rcases mem_insertLast.mp hm with hm | rfl
    · exact h.measures_mem t hm
    · exact hs.mem_of_resolve? ht
  · exact ⟨h.measure_eq, h.measures_mem, h.measures_nodup, h.dependents_eq⟩

theorem Linked.addReferences (hs : s.Sound) (table : String) (refs : Formula.References)
    (h : Linked s name d) : Linked s name (addReferences s table refs d) := by
  have h₁ := List.foldlRecOn refs.brackets (Graph.addBracket s table) h
    fun _ hd b _ => hd.addBracket hs table b
  have h₂ := List.foldlRecOn refs.loneTables Graph.addTable h₁
    fun _ hd _ _ => ⟨hd.measure_eq, hd.measures_mem, hd.measures_nodup, hd.dependents_eq⟩
  exact List.foldlRecOn refs.qualified Graph.addColumn h₂
    fun _ hd _ _ => ⟨hd.measure_eq, hd.measures_mem, hd.measures_nodup, hd.dependents_eq⟩

theorem Linked.linkNode (hs : s.Sound) (h : Linked s name d) (p : Table × Measure) :
    Linked s name (linkNode s d p) := by
  unfold Graph.linkNode
  split
  · exact h.addReferences hs p.1.name _
  · exact h

/-- Linking works on each node by itself, with the declarations of its very name. -/
theorem linkAll_eq (s : Declared) (measures : List (Table × Measure)) :
    linkAll s measures = s.entries.map fun e =>
      (e.1, (measures.filter (e.1 = ·.2.name)).foldl (linkNode s) e.2) :=
  Entries.foldl_modify (fun p : Table × Measure => p.2.name) (fun p d => Graph.linkNode s d p)
    measures s.entries

@[simp] theorem names_linkAll (s : Declared) (measures : List (Table × Measure)) :
    (linkAll s measures).map Prod.fst = s.entries.map Prod.fst := by
  simp [linkAll_eq, Function.comp_def]

theorem linked_linkAll (hs : s.Sound) (measures : List (Table × Measure)) :
    ∀ e ∈ linkAll s measures, Linked s e.1 e.2 := by
  intro e he
  rw [linkAll_eq] at he
  obtain ⟨e, hm, rfl⟩ := List.mem_map.mp he
  have hb : Linked s e.1 e.2 := by
    rw [hs.bare e hm]
    exact ⟨rfl, by simp, List.nodup_nil, rfl⟩
  exact List.foldlRecOn _ _ hb fun _ hd p _ => hd.linkNode hs p

end Link

section Invert

/-- The measures among the back references of one name are those of the nodes that refer to it. -/
theorem backReferences_of (es : Entries) (h : ∀ e ∈ es, e.2.measures.Nodup) (name : String) :
    ((backReferences es).filter (name = ·.1)).map Prod.snd =
      (es.filter (name ∈ ·.2.measures)).map (·.2.measure) := by
  induction es with
  | nil => rfl
  | cons e es ih =>
    have hhead : ((e.2.measures.map (·, e.2.measure)).filter (name = ·.1)).map Prod.snd =
        if name ∈ e.2.measures then [e.2.measure] else [] := by
      rw [List.filter_map, List.map_map]
      have hf : e.2.measures.filter ((decide <| name = ·.1) ∘ (·, e.2.measure)) =
          List.replicate (e.2.measures.count name) name := by
        simp only [Function.comp_def, eq_comm (a := name)]
        exact List.filter_eq name
      rw [hf]
      split
      · next hm => rw [List.count_eq_one_of_mem (h e (by simp)) hm]; rfl
      · next hm => rw [List.count_eq_zero_of_not_mem hm]; rfl
    have htail := ih fun e he => h e (by simp [he])
    rw [backReferences, List.flatMap_cons, List.filter_append, List.map_append, hhead]
    rw [backReferences] at htail
    rw [htail]
    split <;> simp_all

theorem foldl_addDependent (d : Dependency) (rs : List (String × String)) :
    rs.foldl (fun d r => addDependent d r.2) d =
      { d with dependents := (rs.map Prod.snd).foldl insertLast d.dependents } := by
  induction rs generalizing d with
  | nil => rfl
  | cons r rs ih => rw [List.foldl_cons, ih]; rfl

/-- Inverting linked nodes gives each of them the measures that refer to it, in order. -/
theorem invert_eq {s : Declared} {es : Entries} (hn : (es.map Prod.fst).Nodup)
    (h : ∀ e ∈ es, Linked s e.1 e.2) :
    invert es = es.map fun e =>
      (e.1, { e.2 with dependents := (es.filter (e.1 ∈ ·.2.measures)).map (·.2.measure) }) := by
  have hm : es.map (·.2.measure) = es.map Prod.fst :=
    List.map_congr_left fun e he => (h e he).measure_eq
  refine (Entries.foldl_modify Prod.fst (fun r d => addDependent d r.2) _ es).trans ?_
  refine List.map_congr_left fun e he => ?_
  have hnodup : ((es.filter (e.1 ∈ ·.2.measures)).map (·.2.measure)).Nodup :=
    (hm ▸ hn).sublist (List.filter_sublist.map _)
  rw [foldl_addDependent, backReferences_of es (fun e he => (h e he).measures_nodup),
    (h e he).dependents_eq, foldl_insertLast _ _ (by simpa using hnodup), List.nil_append]

end Invert

/-- The nodes of a model that are linked but not yet inverted. -/
def linkedEntries (m : SemanticModel) : Entries :=
  linkAll (Declared.ofMeasures m.measures) m.measures

theorem linked_linkedEntries (m : SemanticModel) :
    ∀ e ∈ linkedEntries m, Linked (Declared.ofMeasures m.measures) e.1 e.2 :=
  linked_linkAll (Declared.sound_ofMeasures m.measures) m.measures

theorem names_linkedEntries_nodup (m : SemanticModel) :
    ((linkedEntries m).map Prod.fst).Nodup := by
  rw [linkedEntries, names_linkAll]
  exact (Declared.sound_ofMeasures m.measures).names_nodup

theorem entries_ofModel (m : SemanticModel) :
    (ofModel m).entries = (linkedEntries m).map fun e =>
      (e.1, { e.2 with dependents :=
        ((linkedEntries m).filter (e.1 ∈ ·.2.measures)).map (·.2.measure) }) :=
  invert_eq (names_linkedEntries_nodup m) (linked_linkedEntries m)

@[simp] theorem names_ofModel (m : SemanticModel) :
    (ofModel m).names = (linkedEntries m).map Prod.fst := by
  simp [names, entries_ofModel, Function.comp_def]

theorem exists_linked_of_mem {m : SemanticModel} {d : Dependency} (hd : d ∈ (ofModel m).nodes) :
    ∃ e ∈ linkedEntries m, d.measure = e.1 ∧ d.measures = e.2.measures ∧
      d.dependents = ((linkedEntries m).filter (e.1 ∈ ·.2.measures)).map (·.2.measure) := by
  rw [nodes, entries_ofModel, List.map_map] at hd
  obtain ⟨e, he, rfl⟩ := List.mem_map.mp hd
  exact ⟨e, he, (linked_linkedEntries m e he).measure_eq, rfl, rfl⟩

theorem names_ofModel_nodup (m : SemanticModel) : (ofModel m).names.Nodup := by
  rw [names_ofModel]
  exact names_linkedEntries_nodup m

theorem measure_eq_name {m : SemanticModel} {e : String × Dependency}
    (he : e ∈ (ofModel m).entries) : e.2.measure = e.1 := by
  rw [entries_ofModel] at he
  obtain ⟨f, hf, rfl⟩ := List.mem_map.mp he
  exact (linked_linkedEntries m f hf).measure_eq

theorem measures_subset_names {m : SemanticModel} {d : Dependency}
    (hd : d ∈ (ofModel m).nodes) : ∀ name ∈ d.measures, name ∈ (ofModel m).names := by
  obtain ⟨e, he, -, hs, -⟩ := exists_linked_of_mem hd
  intro name hn
  have hm := (linked_linkedEntries m e he).measures_mem name (hs ▸ hn)
  rwa [names_ofModel, linkedEntries, names_linkAll]

theorem measures_nodup {m : SemanticModel} {d : Dependency} (hd : d ∈ (ofModel m).nodes) :
    d.measures.Nodup := by
  obtain ⟨e, he, -, hs, -⟩ := exists_linked_of_mem hd
  exact hs ▸ (linked_linkedEntries m e he).measures_nodup

/-- The dependents of a node are the nodes that refer to it, in the order of the graph. -/
theorem dependents_eq {m : SemanticModel} {d : Dependency} (hd : d ∈ (ofModel m).nodes) :
    d.dependents =
      ((ofModel m).nodes.filter (d.measure ∈ ·.measures)).map (·.measure) := by
  obtain ⟨e, he, hn, -, hs⟩ := exists_linked_of_mem hd
  rw [hs, hn, nodes, entries_ofModel, List.map_map, List.filter_map, List.map_map]
  rfl

theorem measures_of_nodes (m : SemanticModel) :
    (ofModel m).nodes.map (·.measure) = (ofModel m).names := by
  rw [nodes, names, List.map_map]
  exact List.map_congr_left fun e he => measure_eq_name he

theorem dependents_nodup {m : SemanticModel} {d : Dependency} (hd : d ∈ (ofModel m).nodes) :
    d.dependents.Nodup := by
  have hn : ((ofModel m).nodes.map (·.measure)).Nodup :=
    measures_of_nodes m ▸ names_ofModel_nodup m
  rw [dependents_eq hd]
  exact hn.sublist (List.filter_sublist.map _)

theorem eq_of_measure_eq {m : SemanticModel} {a b : Dependency} (ha : a ∈ (ofModel m).nodes)
    (hb : b ∈ (ofModel m).nodes) (h : a.measure = b.measure) : a = b := by
  have hn : ((ofModel m).nodes.map (·.measure)).Nodup :=
    measures_of_nodes m ▸ names_ofModel_nodup m
  exact List.inj_on_of_nodup_map hn ha hb h

theorem mem_measures_iff_mem_dependents {m : SemanticModel} {a b : Dependency}
    (ha : a ∈ (ofModel m).nodes) (hb : b ∈ (ofModel m).nodes) :
    a.measure ∈ b.measures ↔ b.measure ∈ a.dependents := by
  rw [dependents_eq ha]
  constructor
  · intro h
    exact List.mem_map_of_mem (List.mem_filter.mpr ⟨hb, by simpa using h⟩)
  · intro h
    obtain ⟨c, hc, he⟩ := List.mem_map.mp h
    obtain ⟨hc, hs⟩ := List.mem_filter.mp hc
    rw [← eq_of_measure_eq hc hb he]
    simpa using hs

/-- The names under which the nodes stand are theirs and no two are equal; references lead to nodes;
and the two lists of references of the nodes are each other's inverse. -/
structure Consistent (g : Graph) : Prop where
  names_nodup : g.names.Nodup
  measure_eq : ∀ e ∈ g.entries, e.2.measure = e.1
  measures_mem : ∀ d ∈ g.nodes, ∀ name ∈ d.measures, name ∈ g.names
  symmetric : ∀ a ∈ g.nodes, ∀ b ∈ g.nodes, a.measure ∈ b.measures ↔ b.measure ∈ a.dependents
  dependents_eq : ∀ a ∈ g.nodes,
    a.dependents = (g.nodes.filter (a.measure ∈ ·.measures)).map (·.measure)
  dependents_nodup : ∀ a ∈ g.nodes, a.dependents.Nodup

theorem consistent_ofModel (m : SemanticModel) : (ofModel m).Consistent where
  names_nodup := names_ofModel_nodup m
  measure_eq _ he := measure_eq_name he
  measures_mem _ hd := measures_subset_names hd
  symmetric _ ha _ hb := mem_measures_iff_mem_dependents ha hb
  dependents_eq _ ha := Graph.dependents_eq ha
  dependents_nodup _ ha := Graph.dependents_nodup ha

end Graph

end Tabular
