import Tabular.Proofs.Graph.Search

/-!
# What a search reports

The path of a search is a chain of references in the order in which its measures were discovered. A
reported cycle is a piece of such a path, so it is a cycle of the graph, written from the measure that
was discovered first. Its last measure and its first are the two ends of one reference, which is followed
once only; hence no cycle is reported twice, whatever measure it is written from.
-/

namespace Tabular

def Cycle.ends (c : Cycle) : Option String × Option String :=
  (c.measures.head?, c.measures.getLast?)

namespace Graph

theorem exists_dropWhile_eq {a : String} {l : List String} (h : a ∈ l) :
    ∃ before after, l = before ++ a :: after ∧ l.dropWhile (· != a) = a :: after := by
  induction l with
  | nil => simp at h
  | cons b l ih =>
    by_cases hb : b = a
    · subst hb
      exact ⟨[], l, rfl, by simp⟩
    · obtain ⟨before, after, hl, hd⟩ := ih ((List.mem_cons.mp h).resolve_left (Ne.symm hb))
      exact ⟨b :: before, after, by rw [hl]; rfl, by simpa [hb] using hd⟩

theorem eq_filter_of_sublist {l order : List String} (hn : order.Nodup) (h : l.Sublist order) :
    l = order.filter (· ∈ l) := by
  induction h with
  | slnil => rfl
  | @cons l order a h ih =>
    rw [List.nodup_cons] at hn
    have ha : a ∉ l := fun ha => hn.1 (h.subset ha)
    rw [List.filter_cons_of_neg (by simpa using ha)]
    exact ih hn.2
  | @cons_cons l order a h ih =>
    rw [List.nodup_cons] at hn
    have hrest : order.filter (· ∈ a :: l) = order.filter (· ∈ l) := by
      refine List.filter_congr fun b hb => ?_
      have hne : b ≠ a := fun he => hn.1 (he ▸ hb)
      simp [hne]
    rw [List.filter_cons_of_pos (by simp), hrest, ← ih hn.2]

theorem eq_of_sublist_of_perm {l₁ l₂ order : List String} (hn : order.Nodup)
    (h₁ : l₁.Sublist order) (h₂ : l₂.Sublist order) (hp : l₁.Perm l₂) : l₁ = l₂ := by
  rw [eq_filter_of_sublist hn h₁, eq_filter_of_sublist hn h₂]
  refine List.filter_congr fun a _ => ?_
  simp [hp.mem_iff]

/-- What a search has reported is sound: cycles of the graph, each in the order of discovery. -/
structure Sound (g : Graph) (s : Search) : Prop where
  visited_nodup : s.visited.Nodup
  isCycle : ∀ c ∈ s.cycles, g.IsCycle c.measures
  sublist : ∀ c ∈ s.cycles, c.measures.Sublist s.visited.reverse

/-- A path of a search: a chain of references in the order of discovery, whose last measure refers to
all that is still to be explored. -/
structure OnPath (g : Graph) (path todo : List String) (s : Search) : Prop where
  chain : path.IsChain g.Refers
  sublist : path.Sublist s.visited.reverse
  refers : ∀ a ∈ path.getLast?, ∀ next ∈ todo, g.Refers a next

variable {g : Graph} {path todo rest : List String} {next : String} {s t : Search}

theorem OnPath.subset (h : OnPath g path todo s) : path ⊆ s.visited := fun a ha => by
  simpa using h.sublist.subset ha

theorem OnPath.tail (h : OnPath g path (next :: rest) s) (hv : s.visited <:+ t.visited) :
    OnPath g path rest t where
  chain := h.chain
  sublist := h.sublist.trans (List.reverse_prefix.mpr hv).sublist
  refers a ha b hb := h.refers a ha b (List.mem_cons_of_mem next hb)

theorem OnPath.enter (h : OnPath g path (next :: rest) s) :
    OnPath g (path ++ [next]) (g.successors next) (s.visit next) where
  chain := h.chain.append (List.isChain_singleton next) fun a ha b hb => by
    rw [List.head?_singleton, Option.mem_some_iff] at hb
    exact hb ▸ h.refers a ha next List.mem_cons_self
  sublist := by
    rw [Search.visit, List.reverse_cons]
    exact h.sublist.append (List.Sublist.refl _)
  refers a ha b hb := by
    rw [List.getLast?_concat, Option.mem_some_iff] at ha
    exact ha ▸ hb

theorem Sound.report (hs : Sound g s) (h : OnPath g path (next :: rest) s) (hp : next ∈ path) :
    Sound g (s.report path next) := by
  obtain ⟨before, after, hl, hd⟩ := exists_dropWhile_eq hp
  have hsuf : next :: after <:+ path := ⟨before, hl.symm⟩
  have hsub : (next :: after).Sublist s.visited.reverse := hsuf.sublist.trans h.sublist
  refine ⟨hs.visited_nodup, ?_, ?_⟩
  · intro c hc
    rcases List.mem_append.mp hc with hc | hc
    · exact hs.isCycle c hc
    rw [List.mem_singleton] at hc
    rw [hc, hd]
    refine ⟨List.cons_ne_nil _ _, ?_, h.chain.suffix hsuf, ?_⟩
    · exact (List.nodup_reverse.mpr hs.visited_nodup).sublist hsub
    · intro a ha b hb
      rw [List.head?_cons, Option.mem_some_iff] at hb
      have hlast : a ∈ path.getLast? := by
        rw [hl, List.getLast?_append_of_ne_nil _ (List.cons_ne_nil _ _)]
        exact ha
      exact hb ▸ h.refers a hlast next List.mem_cons_self
  · intro c hc
    rcases List.mem_append.mp hc with hc | hc
    · exact hs.sublist c hc
    rw [List.mem_singleton] at hc
    rw [hc, hd]
    exact hsub

theorem Sound.visit (hs : Sound g s) (hv : next ∉ s.visited) : Sound g (s.visit next) where
  visited_nodup := List.nodup_cons.mpr ⟨hv, hs.visited_nodup⟩
  isCycle := hs.isCycle
  sublist c hc := by
    rw [Search.visit, List.reverse_cons]
    exact (hs.sublist c hc).trans (List.sublist_append_left _ _)

theorem Explores.sound (h : Explores g path todo s t) (hs : Sound g s)
    (hp : OnPath g path todo s) : Sound g t := by
  induction h with
  | done path s => exact hs
  | back hmem _ ih => exact ih (hs.report hp hmem) (hp.tail (List.suffix_refl _))
  | seen _ _ _ ih => exact ih hs (hp.tail (List.suffix_refl _))
  | enter _ hv h₁ _ ih₁ ih₂ =>
    have hu := ih₁ (hs.visit hv) hp.enter
    exact ih₂ hu (hp.tail ((List.suffix_cons _ _).trans h₁.visited_suffix))

section Ends

theorem Sound.last_mem (hs : Sound g s) {c : Cycle} (hc : c ∈ s.cycles) :
    ∃ b ∈ c.measures.getLast?, b ∈ s.visited := by
  have hne := (hs.isCycle c hc).nonempty
  refine ⟨c.measures.getLast hne, List.getLast?_eq_some_getLast hne, ?_⟩
  simpa using (hs.sublist c hc).subset (List.getLast_mem hne)

/-- The ends of a cycle that a reference back to the path closes are those of the reference. -/
theorem ends_report (hp : next ∈ path) :
    Cycle.ends ⟨path.dropWhile (· != next)⟩ = (some next, path.getLast?) := by
  obtain ⟨before, after, hl, hd⟩ := exists_dropWhile_eq hp
  rw [Cycle.ends, hd, hl, List.getLast?_append_of_ne_nil _ (List.cons_ne_nil _ _)]
  rfl

/-- The cycles reported so far that end where a path ends do not begin with what is still to be
explored from there. -/
def Fresh (path todo : List String) (s : Search) : Prop :=
  ∀ c ∈ s.cycles, c.measures.getLast? = path.getLast? → ∀ b ∈ c.measures.head?, b ∉ todo

/-- Every reference of a path's end gives at most one cycle, if that end names each measure once. -/
theorem Explores.ends_nodup (hg : ∀ a, (g.successors a).Nodup) (h : Explores g path todo s t)
    (hs : Sound g s) (hp : OnPath g path todo s) (htodo : todo.Nodup) (hf : Fresh path todo s)
    (hn : (s.cycles.map Cycle.ends).Nodup) :
    (t.cycles.map Cycle.ends).Nodup ∧ ∀ c ∈ t.cycles, c ∈ s.cycles ∨
      (∀ b ∈ c.measures.getLast?, b ∉ s.visited) ∨
      (c.measures.getLast? = path.getLast? ∧ ∀ b ∈ c.measures.head?, b ∈ todo) := by
  induction h with
  | done path s => exact ⟨hn, fun c hc => .inl hc⟩
  | @back path rest next s t hmem _ ih =>
    rw [List.nodup_cons] at htodo
    have hends := ends_report hmem
    have hnew : ∀ c ∈ s.cycles, c.ends ≠ Cycle.ends ⟨path.dropWhile (· != next)⟩ := by
      intro c hc he
      rw [hends, Cycle.ends, Prod.mk.injEq] at he
      exact hf c hc he.2 next he.1 List.mem_cons_self
    have hn' : ((s.report path next).cycles.map Cycle.ends).Nodup := by
      rw [Search.report, List.map_append, List.nodup_append]
      refine ⟨hn, by simp, ?_⟩
      intro a ha b hb he
      obtain ⟨c, hc, rfl⟩ := List.mem_map.mp ha
      rw [List.map_singleton, List.mem_singleton] at hb
      exact hnew c hc (he.trans hb)
    have hf' : Fresh path rest (s.report path next) := by
      intro c hc hlast b hb hrest
      rcases List.mem_append.mp hc with hc | hc
      · exact hf c hc hlast b hb (List.mem_cons_of_mem next hrest)
      · rw [List.mem_singleton] at hc
        have he := (congrArg Prod.fst (hc ▸ hends : c.ends = _))
        have hbn : b = next := Option.some.inj ((Option.mem_def.mp hb).symm.trans he)
        exact htodo.1 (hbn ▸ hrest)
    obtain ⟨hnt, hct⟩ := ih (hs.report hp hmem) (hp.tail (List.suffix_refl _)) htodo.2 hf' hn'
    refine ⟨hnt, fun c hc => ?_⟩
    rcases hct c hc with hc | hc | ⟨hlast, hhead⟩
    · rcases List.mem_append.mp hc with hc | hc
      · exact .inl hc
      · rw [List.mem_singleton] at hc
        have he : c.ends = _ := hc ▸ hends
        rw [Cycle.ends, Prod.mk.injEq] at he
        refine .inr (.inr ⟨he.2, fun b hb => ?_⟩)
        rw [he.1, Option.mem_some_iff] at hb
        simp [hb]
    · exact .inr (.inl hc)
    · exact .inr (.inr ⟨hlast, fun b hb => List.mem_cons_of_mem next (hhead b hb)⟩)
  | @seen path rest next s t _ _ _ ih =>
    rw [List.nodup_cons] at htodo
    have hf' : Fresh path rest s := fun c hc hlast b hb hrest =>
      hf c hc hlast b hb (List.mem_cons_of_mem next hrest)
    obtain ⟨hnt, hct⟩ := ih hs (hp.tail (List.suffix_refl _)) htodo.2 hf' hn
    refine ⟨hnt, fun c hc => ?_⟩
    rcases hct c hc with hc | hc | ⟨hlast, hhead⟩
    · exact .inl hc
    · exact .inr (.inl hc)
    · exact .inr (.inr ⟨hlast, fun b hb => List.mem_cons_of_mem next (hhead b hb)⟩)
  | @enter path rest next s u t hmem hv h₁ h₂ ih₁ ih₂ =>
    rw [List.nodup_cons] at htodo
    -- Nothing reported so far ends with the measure that is entered.
    have hf₁ : Fresh (path ++ [next]) (g.successors next) (s.visit next) := by
      intro c hc hlast
      obtain ⟨b, hb, hbv⟩ := hs.last_mem hc
      rw [List.getLast?_concat] at hlast
      rw [hlast, Option.mem_some_iff] at hb
      exact absurd (hb ▸ hbv) hv
    obtain ⟨hnu, hcu⟩ := ih₁ (hs.visit hv) hp.enter (hg next) hf₁ hn
    have hu : Sound g u := h₁.sound (hs.visit hv) hp.enter
    have hsu : s.visited <:+ u.visited := (List.suffix_cons _ _).trans h₁.visited_suffix
    -- What has been reported since then does not end with the end of the path.
    have hold : ∀ c ∈ u.cycles, c.measures.getLast? = path.getLast? → c ∈ s.cycles := by
      intro c hc hlast
      obtain ⟨b, hb, -⟩ := hu.last_mem hc
      have hbp : b ∈ path := List.mem_of_getLast? (hlast ▸ hb)
      rcases hcu c hc with hc | hc | ⟨he, -⟩
      · exact hc
      · exact absurd (List.mem_cons_of_mem next (hp.subset hbp)) (hc b hb)
      · rw [List.getLast?_concat] at he
        rw [he, Option.mem_some_iff] at hb
        exact absurd (hb ▸ hbp) hmem
    have hf₂ : Fresh path rest u := fun c hc hlast b hb hrest =>
      hf c (hold c hc hlast) hlast b hb (List.mem_cons_of_mem next hrest)
    obtain ⟨hnt, hct⟩ := ih₂ hu (hp.tail hsu) htodo.2 hf₂ hnu
    refine ⟨hnt, fun c hc => ?_⟩
    rcases hct c hc with hc | hc | ⟨hlast, hhead⟩
    · rcases hcu c hc with hc | hc | ⟨he, -⟩
      · exact .inl hc
      · exact .inr (.inl fun b hb hbv => hc b hb (List.mem_cons_of_mem next hbv))
      · rw [List.getLast?_concat] at he
        refine .inr (.inl fun b hb => ?_)
        rw [he, Option.mem_some_iff] at hb
        exact hb ▸ hv
    · exact .inr (.inl fun b hb hbv => hc b hb (hsu.subset hbv))
    · exact .inr (.inr ⟨hlast, fun b hb => List.mem_cons_of_mem next (hhead b hb)⟩)

end Ends

section Whole

theorem sound_empty (g : Graph) : Sound g {} where
  visited_nodup := List.nodup_nil
  isCycle _ h := absurd h List.not_mem_nil
  sublist _ h := absurd h List.not_mem_nil

theorem onPath_nil (g : Graph) (todo : List String) : OnPath g [] todo {} where
  chain := .nil
  sublist := List.Sublist.refl _
  refers _ h := absurd h (by simp)

theorem sound_search (g : Graph) : Sound g g.search :=
  (explores_search g).sound (sound_empty g) (onPath_nil g _)

/-- No two reported cycles have the same measures in the same circular order. -/
theorem pairwise_not_isRotated (hn : g.names.Nodup) (hg : ∀ a, (g.successors a).Nodup) :
    g.findCycles.Pairwise fun c d => ¬ c.measures ~r d.measures := by
  have hs := sound_search g
  have hf : Fresh [] g.names {} := fun _ h => absurd h List.not_mem_nil
  have hends : (g.findCycles.map Cycle.ends).Nodup :=
    ((explores_search g).ends_nodup hg (sound_empty g) (onPath_nil g _) hn hf List.nodup_nil).1
  rw [List.Nodup, List.pairwise_map] at hends
  refine hends.imp_of_mem fun {c d} hc hd hne hr => hne ?_
  have he := eq_of_sublist_of_perm (List.nodup_reverse.mpr hs.visited_nodup)
    (hs.sublist c hc) (hs.sublist d hd) hr.perm
  rw [Cycle.ends, Cycle.ends, he]

end Whole

end Graph

end Tabular
