import Mathlib.Data.List.Perm.Subperm
import Tabular.Proofs.Graph.Cycles
import Tabular.Proofs.Graph.Depth

/-!
# The depth of any graph

Whatever cycles a graph has, every depth that is kept is the number of references on a chain of different
measures. Such a depth was found at the end of one path, whose measures were not followed, and is used
again at the end of another. That the chain does not run into the new path rests on the order in which
depths become known: the measures on the chain of a known depth have known depths themselves, and a
measure on the path has none yet.
-/

namespace Tabular.Graph

open Relation

variable {g : Graph} {path todo rest l : List String} {a b next : String} {n : Nat}
variable {ds : Depths} {acc acc' : Nat × Depths}

theorem Follows.unique (h : Follows g path todo acc acc') :
    ∀ {acc'' : Nat × Depths}, Follows g path todo acc acc'' → acc'' = acc' := by
  induction h with
  | done path acc =>
    intro acc'' h'
    cases h'
    rfl
  | back hp _ ih =>
    intro acc'' h'
    cases h' with
    | back _ h' => exact ih h'
    | known hp' => exact absurd hp hp'
    | enter hp' => exact absurd hp hp'
  | known hp hl _ ih =>
    intro acc'' h'
    cases h' with
    | back hp' => exact absurd hp' hp
    | known _ hl' h' =>
      cases hl.symm.trans hl'
      exact ih h'
    | enter _ hl' => simp [hl] at hl'
  | enter hp hl _ _ ih₁ ih₂ =>
    intro acc'' h'
    cases h' with
    | back hp' => exact absurd hp' hp
    | known _ hl' => simp [hl] at hl'
    | enter _ _ h₁ h₂ =>
      cases ih₁ h₁
      exact ih₂ h₂

/-- Different measures each of which refers to the next. -/
structure IsSimpleChain (g : Graph) (l : List String) : Prop where
  chain : l.IsChain g.Refers
  nodup : l.Nodup

theorem IsSimpleChain.cons (h : g.IsSimpleChain l) (hr : ∀ b ∈ l.head?, g.Refers a b)
    (ha : a ∉ l) : g.IsSimpleChain (a :: l) where
  chain := List.isChain_cons.mpr ⟨hr, h.chain⟩
  nodup := List.nodup_cons.mpr ⟨ha, h.nodup⟩

def Depths.names (ds : Depths) : List String := ds.map Prod.fst

@[simp] theorem Depths.names_cons (d : String × Nat) (ds : Depths) :
    Depths.names (d :: ds) = d.1 :: ds.names := rfl

/-- Each known depth is the number of references on a chain of different measures with known depths, and
no measure on the path has a known depth. -/
structure Kept (g : Graph) (path : List String) (ds : Depths) : Prop where
  attained : ∀ d ∈ ds, ∃ l, g.IsSimpleChain (d.1 :: l) ∧ l ⊆ ds.names ∧ l.length = d.2
  fresh : ∀ a ∈ path, a ∉ ds.names

theorem Depths.notMem_names (h : ds.lookup a = none) : a ∉ ds.names := by
  intro ha
  obtain ⟨d, hd, rfl⟩ := List.mem_map.mp ha
  have hne := List.lookup_eq_none_iff.mp h d hd
  simp at hne

theorem Kept.enter (h : g.Kept path ds) (ha : ds.lookup a = none) : g.Kept (a :: path) ds where
  attained := h.attained
  fresh := List.forall_mem_cons.mpr ⟨Depths.notMem_names ha, h.fresh⟩

theorem Kept.leave (h : g.Kept (a :: path) ds) (ha : a ∉ path) (hl : g.IsSimpleChain (a :: l))
    (hk : l ⊆ ds.names) (hn : l.length = n) : g.Kept path ((a, n) :: ds) where
  attained := by
    intro d hd
    rcases List.mem_cons.mp hd with rfl | hd
    · exact ⟨l, hl, List.subset_cons_of_subset a hk, hn⟩
    · obtain ⟨k, hc, hsub, hlen⟩ := h.attained d hd
      exact ⟨k, hc, List.subset_cons_of_subset a hsub, hlen⟩
  fresh := by
    intro b hb hm
    rcases List.mem_cons.mp hm with rfl | hm
    · exact ha hb
    · exact h.fresh b (List.mem_cons_of_mem a hb) hm

/-- A number is that of the measures on a chain of different measures with known depths, of which the first
is a listed one. -/
def Attained (g : Graph) (ds : Depths) (todo : List String) (n : Nat) : Prop :=
  ∃ next ∈ todo, ∃ l, g.IsSimpleChain (next :: l) ∧ next :: l ⊆ ds.names ∧ n = l.length + 1

/-- Of a number that is the greatest so far and one that a chain attains from the next measure, one or the
other is the greatest. -/
theorem attained_cons {m k : Nat} (hc : g.IsSimpleChain (next :: l)) (hsub : next :: l ⊆ ds.names)
    (hk : k = max m (l.length + 1) ∨ g.Attained ds rest k) :
    k = m ∨ g.Attained ds (next :: rest) k := by
  rcases hk with rfl | ⟨b, hb, l', hl', hsub', hk⟩
  · rcases Nat.le_total (l.length + 1) m with hm | hm
    · exact .inl (Nat.max_eq_left hm)
    · rw [Nat.max_eq_right hm]
      exact .inr ⟨next, List.mem_cons_self, l, hc, hsub, rfl⟩
  · exact .inr ⟨b, List.mem_cons_of_mem next hb, l', hl', hsub', hk⟩

/-- The longest chain from a measure is one from a successor, with the measure in front. It does not come
back to the measure, which has no known depth as long as it is on the path. -/
theorem Kept.exists_chain (h : g.Kept (a :: path) ds)
    (hn : n = 0 ∨ g.Attained ds (g.successors a) n) :
    ∃ l, g.IsSimpleChain (a :: l) ∧ l ⊆ ds.names ∧ l.length = n := by
  rcases hn with rfl | ⟨next, hnext, l, hl, hsub, rfl⟩
  · exact ⟨[], ⟨.singleton a, List.nodup_singleton a⟩, List.nil_subset _, rfl⟩
  · refine ⟨next :: l, hl.cons ?_ ?_, hsub, rfl⟩
    · intro b hb
      obtain rfl : next = b := Option.some.inj hb
      exact hnext
    · exact fun hm => h.fresh a List.mem_cons_self (hsub hm)

theorem Follows.kept (h : Follows g path todo acc acc') (hk : g.Kept path acc.2) :
    g.Kept path acc'.2 ∧ acc.2.names ⊆ acc'.2.names ∧
      (acc'.1 = acc.1 ∨ g.Attained acc'.2 todo acc'.1) := by
  induction h with
  | done path acc => exact ⟨hk, List.Subset.refl _, .inl rfl⟩
  | @back path rest next acc acc' _ _ ih =>
    obtain ⟨hk', hsub, hn⟩ := ih hk
    refine ⟨hk', hsub, hn.imp_right ?_⟩
    rintro ⟨b, hb, hl⟩
    exact ⟨b, List.mem_cons_of_mem next hb, hl⟩
  | @known path rest next m n ds acc' _ hl _ ih =>
    obtain ⟨before, after, hs, -⟩ := List.lookup_eq_some_iff.mp hl
    have hmem : (next, n) ∈ ds := by simp [hs]
    obtain ⟨l, hc, hsubl, rfl⟩ := hk.attained (next, n) hmem
    have hnext : next ∈ ds.names := List.mem_map_of_mem hmem
    obtain ⟨hk', hsub, hn⟩ := ih hk
    have hall : next :: l ⊆ acc'.2.names :=
      List.Subset.trans (List.cons_subset.mpr ⟨hnext, hsubl⟩) hsub
    exact ⟨hk', hsub, attained_cons hc hall hn⟩
  | @enter path rest next m n ds es acc' hp hl _ _ ih₁ ih₂ =>
    obtain ⟨hk₁, hsub₁, hn₁⟩ := ih₁ (hk.enter hl)
    obtain ⟨l, hc, hsubl, rfl⟩ := hk₁.exists_chain hn₁
    obtain ⟨hk₂, hsub₂, hn₂⟩ := ih₂ (hk₁.leave hp hc hsubl rfl)
    rw [Depths.names_cons, List.cons_subset] at hsub₂
    have hall : next :: l ⊆ acc'.2.names :=
      List.cons_subset.mpr ⟨hsub₂.1, List.Subset.trans hsubl hsub₂.2⟩
    exact ⟨hk₂, List.Subset.trans hsub₁ hsub₂.2, attained_cons hc hall hn₂⟩

theorem exists_simpleChain_maxDepth (h : g.names ≠ []) :
    ∃ a ∈ g.names, ∃ l, g.IsSimpleChain (a :: l) ∧ l.length = g.maxDepth := by
  obtain ⟨ds, hf⟩ := exists_follows_maxDepth h
  have hk : g.Kept [] [] := ⟨List.forall_mem_nil _, List.forall_mem_nil _⟩
  obtain ⟨-, -, hn⟩ := hf.kept hk
  rcases hn with hn | ⟨a, ha, l, hl, -, hn⟩
  · exact absurd hn (Nat.succ_ne_zero _)
  · exact ⟨a, ha, l, hl, (Nat.succ.inj hn).symm⟩

section Model

variable {m : SemanticModel}

theorem mem_names_of_refers_ofModel (h : (ofModel m).Refers a b) : b ∈ (ofModel m).names := by
  obtain ⟨d, hd, hs⟩ := exists_node_of_refers h
  have hb : b ∈ d.measures := hs ▸ h
  exact measures_subset_names hd b hb

theorem subset_names_of_isChain (ha : a ∈ (ofModel m).names)
    (h : (a :: l).IsChain (ofModel m).Refers) : a :: l ⊆ (ofModel m).names := by
  intro b hb
  exact h.induction (· ∈ (ofModel m).names) _ (fun _ _ hr _ => mem_names_of_refers_ofModel hr)
    (fun _ => ha) b hb

/-- The depth of the graph of a model is found in one way, which comes to an end, and is the number of
references on a chain of different measures of the graph. So it is less than the number of measures, if
there are any; and without cycles no chain has more references. -/
theorem maxDepth_ofModel (m : SemanticModel) :
    let g := ofModel m
    (g.names = [] → g.maxDepth = 0) ∧
    (g.names ≠ [] →
      (∃ ds, ∀ acc, Follows g [] g.names (0, []) acc ↔ acc = (g.maxDepth + 1, ds)) ∧
      (∃ l, g.IsSimpleChain l ∧ l ⊆ g.names ∧ l.length = g.maxDepth + 1) ∧
      g.maxDepth < g.nodes.length) ∧
    ((∀ a, ¬ TransGen g.Refers a a) →
      ∀ (a : String) (l : List String), (a :: l).IsChain g.Refers → l.length ≤ g.maxDepth) := by
  intro g
  refine ⟨fun hn => ?_, fun hn => ?_, fun hg => (maxDepth_of_acyclic hg).2⟩
  · unfold maxDepth
    rw [hn]
    rfl
  · obtain ⟨ds, hf⟩ := exists_follows_maxDepth hn
    obtain ⟨a, ha, l, hl, hlen⟩ := exists_simpleChain_maxDepth hn
    have hsub : a :: l ⊆ g.names := subset_names_of_isChain ha hl.chain
    have hle : l.length + 1 ≤ g.names.length := (List.subperm_of_subset hl.nodup hsub).length_le
    have hnodes : g.names.length = g.nodes.length := by simp [names, nodes]
    refine ⟨⟨ds, fun acc => ⟨hf.unique, fun h => h ▸ hf⟩⟩, ⟨a :: l, hl, hsub, ?_⟩, ?_⟩
    · rw [List.length_cons, hlen]
    · omega

/-- Two measures that refer to each other, of which one refers to a third; the fourth refers to both. -/
def knottedModel : SemanticModel where
  name := "Model"
  tables := [
    { name := "T"
      measures := [
        { name := "A", expression := "[B]" },
        { name := "B", expression := "[A] + [C]" },
        { name := "C", expression := "1" },
        { name := "D", expression := "[A] + [B]" }] }]
  relationships := []

/-- A model in which the second measure is reached on two chains. -/
def forkedModel : SemanticModel where
  name := "Model"
  tables := [
    { name := "T"
      measures := [
        { name := "Base", expression := "1" },
        { name := "Mid", expression := "[Base] * 2" },
        { name := "Top", expression := "[Base] + [Mid]" }] }]
  relationships := []

/-- The depth found on the path of the first measure is used again from the fourth. -/
theorem maxDepth_ofModel_knotted :
    (ofModel knottedModel).names ≠ [] ∧ (ofModel knottedModel).maxDepth = 3 ∧
    (∃ l, (ofModel knottedModel).IsSimpleChain l ∧ l ⊆ (ofModel knottedModel).names ∧
      l.length = 4) ∧
    (∀ a, ¬ TransGen (ofModel forkedModel).Refers a a) ∧ (ofModel forkedModel).maxDepth = 2 ∧
    ∀ (a : String) (l : List String), (a :: l).IsChain (ofModel forkedModel).Refers →
      l.length ≤ 2 := by
  have hnames : (ofModel knottedModel).names ≠ [] := by decide +kernel
  have hknotted : (ofModel knottedModel).maxDepth = 3 := by decide +kernel
  have hforked : (ofModel forkedModel).maxDepth = 2 := by decide +kernel
  have hnone : (ofModel forkedModel).findCycles = [] := by decide +kernel
  have hacyclic := (findCycles_eq_nil_iff _).mp hnone
  have hchain := ((maxDepth_ofModel knottedModel).2.1 hnames).2.1
  rw [hknotted] at hchain
  refine ⟨hnames, hknotted, hchain, hacyclic, hforked, ?_⟩
  exact hforked ▸ (maxDepth_ofModel forkedModel).2.2 hacyclic

end Model

end Tabular.Graph
