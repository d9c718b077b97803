import Mathlib.Logic.Relation
import Tabular.Graph.Depth
import Tabular.Proofs.Graph.Search

/-!
# Depth without cycles

Where no measure can reach itself, a reference never leads back to the path that led to it, so that a
depth that has been found once is right wherever it is met again. The greatest depth is then the greatest
number of references in a row.

The recursion is described by a relation that has no bound on the length of a path, as the search for
cycles is.
-/

namespace Tabular.Graph

open Relation

/-- Takes a reference to the next measure into account, at the end of a path that can take `room` more
measures. -/
def follow (g : Graph) (room : Nat) (path : List String) (acc : Nat × Depths) (next : String) :
    Nat × Depths :=
  if path.contains next then acc
  else (max acc.1 ((g.chainFrom room path acc.2 next).1 + 1), (g.chainFrom room path acc.2 next).2)

/-- Following references to a list of measures from the end of a path, latest measure first, makes one
number and known depths of another. The number is that of the measures on a chain. -/
inductive Follows (g : Graph) : List String → List String → Nat × Depths → Nat × Depths → Prop
  | done (path : List String) (acc : Nat × Depths) : Follows g path [] acc acc
  | back {path rest : List String} {next : String} {acc acc' : Nat × Depths} :
      next ∈ path → Follows g path rest acc acc' → Follows g path (next :: rest) acc acc'
  | known {path rest : List String} {next : String} {m n : Nat} {ds : Depths} {acc' : Nat × Depths} :
      next ∉ path → ds.lookup next = some n → Follows g path rest (max m (n + 1), ds) acc' →
      Follows g path (next :: rest) (m, ds) acc'
  | enter {path rest : List String} {next : String} {m n : Nat} {ds es : Depths}
      {acc' : Nat × Depths} :
      next ∉ path → ds.lookup next = none →
      Follows g (next :: path) (g.successors next) (0, ds) (n, es) →
      Follows g path rest (max m (n + 1), (next, n) :: es) acc' →
      Follows g path (next :: rest) (m, ds) acc'

variable {g : Graph} {path todo rest : List String} {a b next : String} {m n : Nat}

section Room

theorem chainFrom_succ (g : Graph) (room : Nat) (path : List String) (ds : Depths) (name : String) :
    g.chainFrom (room + 1) path ds name =
      match ds.lookup name with
      | some n => (n, ds)
      | none =>
        let r := (g.successors name).foldl (g.follow room (name :: path)) (0, ds)
        (r.1, (name, r.1) :: r.2) := rfl

/-- A path that has room for every measure that is not on it is followed to the end. -/
theorem follows_foldl (g : Graph) (room : Nat) (path todo : List String) (acc : Nat × Depths)
    (h : g.unseen { visited := path } < room) :
    Follows g path todo acc (todo.foldl (g.follow room path) acc) := by
  induction room generalizing path todo acc with
  | zero => omega
  | succ room ihroom =>
    induction todo generalizing acc with
    | nil => exact .done path acc
    | cons next rest ihrest =>
      rw [List.foldl_cons]
      by_cases hp : next ∈ path
      · have hf : g.follow (room + 1) path acc next = acc := by simp [follow, hp]
        rw [hf]
        exact .back hp (ihrest acc)
      obtain ⟨m, ds⟩ := acc
      cases hl : ds.lookup next with
      | some n =>
        have hf : g.follow (room + 1) path (m, ds) next = (max m (n + 1), ds) := by
          simp [follow, hp, chainFrom_succ, hl]
        rw [hf]
        exact .known hp hl (ihrest _)
      | none =>
        have hf : g.follow (room + 1) path (m, ds) next =
            (max m (((g.successors next).foldl (g.follow room (next :: path)) (0, ds)).1 + 1),
              (next, ((g.successors next).foldl (g.follow room (next :: path)) (0, ds)).1) ::
                ((g.successors next).foldl (g.follow room (next :: path)) (0, ds)).2) := by
          simp [follow, hp, chainFrom_succ, hl]
        rw [hf]
        refine .enter hp hl ?_ (ihrest _)
        -- A measure outside the graph uses up no room, but it has no successors either.
        by_cases hn : next ∈ g.names
        · have hlt := unseen_visit_lt (s := { visited := path }) hn hp
          exact ihroom _ _ _ (Nat.lt_of_lt_of_le hlt (Nat.le_of_lt_succ h))
        · rw [successors_of_notMem hn]
          exact .done _ _

/-- The depths of all measures are followed one after the other; the number of measures on the longest
chain exceeds its references by one. -/
theorem foldl_follow_eq (g : Graph) (room : Nat) (names : List String) (m : Nat) (ds : Depths) :
    names.foldl (g.follow room []) (m + 1, ds) =
      let r := names.foldl (fun acc name =>
        let r := g.chainFrom room [] acc.2 name
        (max acc.1 r.1, r.2)) (m, ds)
      (r.1 + 1, r.2) := by
  induction names generalizing m ds with
  | nil => rfl
  | cons name names ih =>
    have hf : g.follow room [] (m + 1, ds) name =
        (max m (g.chainFrom room [] ds name).1 + 1, (g.chainFrom room [] ds name).2) := by
      simp [follow, Nat.succ_max_succ]
    rw [List.foldl_cons, hf, ih]
    rfl

theorem exists_follows_maxDepth (h : g.names ≠ []) :
    ∃ ds, Follows g [] g.names (0, []) (g.maxDepth + 1, ds) := by
  have hroom : g.unseen { visited := [] } < g.names.length + 1 :=
    Nat.lt_succ_of_le List.countP_le_length
  have hf := follows_foldl g _ [] g.names (0, []) hroom
  obtain ⟨name, names, hn⟩ := List.exists_cons_of_ne_nil h
  have hfirst : g.follow (g.names.length + 1) [] (0, []) name =
      ((g.chainFrom (g.names.length + 1) [] [] name).1 + 1,
        (g.chainFrom (g.names.length + 1) [] [] name).2) := by
    simp [follow]
  have he : g.names.foldl (g.follow (g.names.length + 1) []) (0, []) = (g.maxDepth + 1,
      (g.names.foldl (fun acc name =>
        let r := g.chainFrom (g.names.length + 1) [] acc.2 name
        (max acc.1 r.1, r.2)) ((0, []) : Nat × Depths)).2) := by
    unfold maxDepth
    generalize hr : g.names.length + 1 = room at *
    rw [hn, List.foldl_cons, hfirst, foldl_follow_eq, List.foldl_cons]
    simp
  rw [he] at hf
  exact ⟨_, hf⟩

end Room

/-- The greatest number of references in a row of which the first is one of this measure. -/
structure IsDepth (g : Graph) (a : String) (n : Nat) : Prop where
  attained : ∃ l, (a :: l).IsChain g.Refers ∧ l.length = n
  bound : ∀ l, (a :: l).IsChain g.Refers → l.length ≤ n

/-- A number is the greatest of another one and of those of the measures on the chains that begin with a
listed measure. -/
structure Deepest (g : Graph) (todo : List String) (m m' : Nat) : Prop where
  le : m ≤ m'
  bound : ∀ next ∈ todo, ∃ n, g.IsDepth next n ∧ n + 1 ≤ m'
  attained : m' = m ∨ ∃ next ∈ todo, ∃ n, g.IsDepth next n ∧ m' = n + 1

theorem Deepest.cons {m' : Nat} (h : g.Deepest rest (max m (n + 1)) m') (hn : g.IsDepth next n) :
    g.Deepest (next :: rest) m m' where
  le := Nat.le_trans (Nat.le_max_left _ _) h.le
  bound b hb := by
    rcases List.mem_cons.mp hb with rfl | hb
    · exact ⟨n, hn, Nat.le_trans (Nat.le_max_right _ _) h.le⟩
    · exact h.bound b hb
  attained := by
    rcases h.attained with he | ⟨b, hb, k, hk, he⟩
    · rcases Nat.le_total (n + 1) m with hm | hm
      · exact .inl (by omega)
      · exact .inr ⟨next, List.mem_cons_self, n, hn, by omega⟩
    · exact .inr ⟨b, List.mem_cons_of_mem next hb, k, hk, he⟩

/-- The depth of a measure is the number of measures on the longest chain that begins with one of its
successors. -/
theorem Deepest.isDepth (h : g.Deepest (g.successors a) 0 n) : g.IsDepth a n where
  attained := by
    rcases h.attained with rfl | ⟨b, hb, k, hk, rfl⟩
    · exact ⟨[], .singleton a, rfl⟩
    · obtain ⟨l, hl, rfl⟩ := hk.attained
      exact ⟨b :: l, .cons_cons hb hl, rfl⟩
  bound l hl := by
    cases l with
    | nil => exact Nat.zero_le n
    | cons b l =>
      rw [List.isChain_cons_cons] at hl
      obtain ⟨k, hk, hle⟩ := h.bound b hl.1
      exact Nat.le_trans (Nat.succ_le_succ (hk.bound l hl.2)) hle

theorem Follows.deepest (hg : ∀ a, ¬ TransGen g.Refers a a) {acc acc' : Nat × Depths}
    (h : Follows g path todo acc acc') (hk : ∀ d ∈ acc.2, g.IsDepth d.1 d.2)
    (hp : ∀ a ∈ path, ∀ next ∈ todo, TransGen g.Refers a next) :
    (∀ d ∈ acc'.2, g.IsDepth d.1 d.2) ∧ g.Deepest todo acc.1 acc'.1 := by
  induction h with
  | done path acc =>
    exact ⟨hk, Nat.le_refl _, fun _ hn => absurd hn List.not_mem_nil, .inl rfl⟩
  | back hmem _ _ => exact absurd (hp _ hmem _ List.mem_cons_self) (hg _)
  | @known path rest next m n ds acc' _ hl _ ih =>
    obtain ⟨before, after, hs, -⟩ := List.lookup_eq_some_iff.mp hl
    have hn : g.IsDepth next n := hk (next, n) (by simp [hs])
    obtain ⟨hk', hd⟩ := ih hk fun a ha b hb => hp a ha b (List.mem_cons_of_mem next hb)
    exact ⟨hk', hd.cons hn⟩
  | @enter path rest next m n ds es acc' _ _ _ _ ih₁ ih₂ =>
    have hp₁ : ∀ a ∈ next :: path, ∀ b ∈ g.successors next, TransGen g.Refers a b := by
      intro a ha b hb
      rcases List.mem_cons.mp ha with rfl | ha
      · exact .single hb
      · exact (hp a ha next List.mem_cons_self).tail hb
    obtain ⟨hk₁, hd₁⟩ := ih₁ hk hp₁
    have hn : g.IsDepth next n := hd₁.isDepth
    have hk₂ : ∀ d ∈ (next, n) :: es, g.IsDepth d.1 d.2 := by
      intro d hd
      rcases List.mem_cons.mp hd with rfl | hd
      · exact hn
      · exact hk₁ d hd
    obtain ⟨hk', hd₂⟩ := ih₂ hk₂ fun a ha b hb => hp a ha b (List.mem_cons_of_mem next hb)
    exact ⟨hk', hd₂.cons hn⟩

theorem eq_nil_of_notMem {l : List String} (ha : a ∉ g.names) (h : (a :: l).IsChain g.Refers) :
    l = [] := by
  cases l with
  | nil => rfl
  | cons b l =>
    have hb : b ∈ g.successors a := (List.isChain_cons_cons.mp h).1
    rw [successors_of_notMem ha] at hb
    exact absurd hb List.not_mem_nil

/-- Without cycles the greatest depth is the greatest number of references in a row. -/
theorem maxDepth_of_acyclic (hg : ∀ a, ¬ TransGen g.Refers a a) :
    (∃ a l, (a :: l).IsChain g.Refers ∧ l.length = g.maxDepth) ∧
      ∀ a l, (a :: l).IsChain g.Refers → l.length ≤ g.maxDepth := by
  by_cases hn : g.names = []
  · have hm : g.maxDepth = 0 := by rw [maxDepth, hn]; rfl
    refine ⟨⟨"", [], .singleton _, hm.symm⟩, fun a l hl => ?_⟩
    rw [eq_nil_of_notMem (by simp [hn]) hl]
    exact Nat.zero_le _
  · obtain ⟨ds, hf⟩ := exists_follows_maxDepth hn
    obtain ⟨-, hd⟩ := hf.deepest hg (fun _ h => absurd h List.not_mem_nil)
      fun _ h => absurd h List.not_mem_nil
    refine ⟨?_, fun a l hl => ?_⟩
    · rcases hd.attained with he | ⟨a, -, n, ha, he⟩
      · exact absurd he (Nat.succ_ne_zero _)
      · obtain ⟨l, hl, hlen⟩ := ha.attained
        exact ⟨a, l, hl, by omega⟩
    · by_cases ha : a ∈ g.names
      · obtain ⟨n, hn, hle⟩ := hd.bound a ha
        have := hn.bound l hl
        omega
      · rw [eq_nil_of_notMem ha hl]
        exact Nat.zero_le _

end Tabular.Graph
