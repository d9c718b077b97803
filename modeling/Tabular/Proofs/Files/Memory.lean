import Mathlib.Data.Char
import Mathlib.Data.List.Lex
import Tabular.Files.Memory

/-!
# Files in memory, in order

Paths are ordered by their steps, and the order is linear on them. So a memory that is filled file by file
holds its files in strict order: no two lead the same way, and looking a file up by its path finds it.
-/

namespace Tabular

namespace Step

variable {a b c : Step} {s t u : List Step}

theorem lt_irrefl (a : Step) : a.lt a = false := by
  cases a <;> simp [lt]

theorem lt_trans (hab : a.lt b = true) (hbc : b.lt c = true) : a.lt c = true := by
  cases a <;> cases b <;> cases c <;> simp_all [lt, rank]
  exact LT.lt.trans hab hbc

theorem lt_or_lt_of_ne (h : a ≠ b) : a.lt b = true ∨ b.lt a = true := by
  cases a <;> cases b <;> simp_all [lt, rank]

theorem listLt_nil (s : List Step) : listLt s [] = false := by
  cases s <;> rfl

theorem listLt_irrefl (s : List Step) : listLt s s = false := by
  induction s with
  | nil => rfl
  | cons a s ih => rw [listLt, if_pos rfl, ih]

theorem listLt_cons_iff :
    listLt (a :: s) (b :: t) = true ↔ a = b ∧ listLt s t = true ∨ a.lt b = true := by
  rw [listLt]
  split
  · next h => simp [h, lt_irrefl]
  · next h => simp [h]

theorem listLt_trans (hst : listLt s t = true) (htu : listLt t u = true) : listLt s u = true := by
  induction u generalizing s t with
  | nil => exact absurd ((listLt_nil t).symm.trans htu) (by decide)
  | cons c u ih =>
    cases t with
    | nil => exact absurd ((listLt_nil s).symm.trans hst) (by decide)
    | cons b t =>
      cases s with
      | nil => rfl
      | cons a s =>
        rw [listLt_cons_iff] at hst htu ⊢
        obtain ⟨rfl, hst⟩ | hab := hst
        · exact htu.imp_left fun ⟨hbc, htu⟩ => ⟨hbc, ih hst htu⟩
        · obtain ⟨rfl, -⟩ | hbc := htu
          · exact .inr hab
          · exact .inr (lt_trans hab hbc)

theorem listLt_or_listLt_of_ne (h : s ≠ t) : listLt s t = true ∨ listLt t s = true := by
  induction s generalizing t with
  | nil =>
    cases t with
    | nil => exact absurd rfl h
    | cons b t => exact .inl rfl
  | cons a s ih =>
    cases t with
    | nil => exact .inr rfl
    | cons b t =>
      rw [listLt_cons_iff, listLt_cons_iff]
      by_cases hab : a = b
      · subst hab
        have hst : s ≠ t := fun e => h (e ▸ rfl)
        exact (ih hst).imp (fun hs => .inl ⟨rfl, hs⟩) fun ht => .inl ⟨rfl, ht⟩
      · exact (lt_or_lt_of_ne hab).imp .inr .inr

end Step

namespace Path

theorem same_iff {p q : Path} : p.same q = true ↔ p.steps = q.steps := by
  rw [same, beq_iff_eq]

theorem isAbove_of_isParentOf {dir p : Path} (h : dir.isParentOf p = true) : dir.isAbove p = true := by
  rw [isParentOf] at h
  split at h
  · exact absurd h (by simp)
  · exact absurd h (by simp)
  · next s before _ hs =>
    have hsteps : p.steps = dir.steps ++ [s] := by
      rw [← eq_of_beq h, ← List.reverse_cons, ← hs, List.reverse_reverse]
    rw [isAbove, hsteps]
    simp

end Path

namespace Memory

variable {m : Memory} {f g : MemoryFile} {fs : List MemoryFile} {p : Path}

def Precedes (f g : MemoryFile) : Prop := Step.listLt f.path.steps g.path.steps = true

/-- The files are in strict order, so no two of them lead the same way. -/
def Ordered (m : Memory) : Prop := m.files.Pairwise Precedes

/-- A memory that is filled file by file; of two files that lead the same way the later one counts. -/
def ofFiles (fs : List MemoryFile) : Memory := fs.foldl (fun m f => m.insert f.path f.text) {}

theorem Precedes.trans {h : MemoryFile} (hfg : Precedes f g) (hgh : Precedes g h) : Precedes f h :=
  Step.listLt_trans hfg hgh

theorem Precedes.not_same (h : Precedes f g) : f.path.same g.path = false := by
  rw [Bool.eq_false_iff, Ne, Path.same_iff]
  intro he
  rw [Precedes, he, Step.listLt_irrefl] at h
  exact absurd h (by decide)

section Insert

theorem precedes_of_mem_place (hf : Precedes g f) (hfs : ∀ h ∈ fs, Precedes g h) :
    ∀ h ∈ place f fs, Precedes g h := by
  induction fs with
  | nil =>
    intro h hh
    rwa [List.mem_singleton.mp hh]
  | cons k fs ih =>
    obtain ⟨hk, hfs⟩ := List.forall_mem_cons.mp hfs
    rw [place]
    split_ifs
    · exact List.forall_mem_cons.mpr ⟨hk, hfs⟩
    · exact List.forall_mem_cons.mpr ⟨hf, List.forall_mem_cons.mpr ⟨hk, hfs⟩⟩
    · exact List.forall_mem_cons.mpr ⟨hk, ih hfs⟩

theorem pairwise_place (h : fs.Pairwise Precedes) (f : MemoryFile) :
    (place f fs).Pairwise Precedes := by
  induction fs with
  | nil => exact List.pairwise_singleton _ _
  | cons g fs ih =>
    obtain ⟨hg, hfs⟩ := List.pairwise_cons.mp h
    rw [place]
    split_ifs with hsame hlt
    · exact List.pairwise_cons.mpr ⟨hg, hfs⟩
    · refine List.pairwise_cons.mpr ⟨?_, h⟩
      exact List.forall_mem_cons.mpr ⟨hlt, fun k hk => Precedes.trans hlt (hg k hk)⟩
    · have hne : f.path.steps ≠ g.path.steps := fun he => hsame (Path.same_iff.mpr he)
      have hgf : Precedes g f := (Step.listLt_or_listLt_of_ne hne).resolve_left hlt
      exact List.pairwise_cons.mpr ⟨precedes_of_mem_place hgf hg, ih hfs⟩

theorem Ordered.insert (h : m.Ordered) (p : Path) (text : Option (List Char)) :
    (m.insert p text).Ordered := pairwise_place h ⟨p, text⟩

theorem ordered_ofFiles (fs : List MemoryFile) : (ofFiles fs).Ordered :=
  List.foldlRecOn (motive := Ordered) fs _ List.Pairwise.nil fun _ h f _ => h.insert f.path f.text

end Insert

section Find

theorem same_of_find?_eq_some (h : m.find? p = some f) : f.path.same p = true := by
  rw [find?] at h
  simpa using List.find?_some h

/-- Of files in strict order, no file behind the first one leads where that one leads. -/
theorem find?_eq_none_of_precedes (hf : f.path.same p = true) (h : ∀ g ∈ fs, Precedes f g) :
    fs.find? (·.path.same p) = none := by
  rw [List.find?_eq_none]
  intro g hg hp
  have hsame : f.path.same g.path = true :=
    Path.same_iff.mpr ((Path.same_iff.mp hf).trans (Path.same_iff.mp hp).symm)
  exact absurd ((h g hg).not_same.symm.trans hsame) (by decide)

theorem Ordered.find?_path (h : m.Ordered) (hf : f ∈ m.files) : m.find? f.path = some f := by
  obtain ⟨before, after, hfiles⟩ := List.append_of_mem hf
  have hpairs : (before ++ f :: after).Pairwise Precedes := hfiles ▸ h
  have hbefore : ∀ g ∈ before, ¬ g.path.same f.path = true := by
    intro g hg hsame
    have hgf := (List.pairwise_append.mp hpairs).2.2 g hg f List.mem_cons_self
    exact absurd (hgf.not_same.symm.trans hsame) (by decide)
  rw [find?, hfiles, List.find?_append, List.find?_eq_none.mpr hbefore, Option.none_or]
  have hself : f.path.same f.path = true := Path.same_iff.mpr rfl
  simp [hself]

/-- The files without those that are dropped. -/
def without (m : Memory) (drop : MemoryFile → Bool) : Memory := ⟨m.files.filter (!drop ·)⟩

theorem Ordered.without (h : m.Ordered) (drop : MemoryFile → Bool) : (m.without drop).Ordered :=
  h.sublist List.filter_sublist

/-- A file that is dropped is found no more, and no other one in its place. -/
theorem Ordered.find?_without (h : m.Ordered) (drop : MemoryFile → Bool) (p : Path) :
    (m.without drop).find? p = (m.find? p).filter (!drop ·) := by
  obtain ⟨fs⟩ := m
  rw [find?, find?, Memory.without]
  change fs.Pairwise Precedes at h
  dsimp only
  induction fs with
  | nil => rfl
  | cons f fs ih =>
    obtain ⟨hf, hfs⟩ := List.pairwise_cons.mp h
    cases hp : f.path.same p with
    | true =>
      have hnone : (fs.filter (!drop ·)).find? (·.path.same p) = none :=
        find?_eq_none_of_precedes hp fun g hg => hf g (List.mem_of_mem_filter hg)
      cases hd : drop f with
      | false => simp [Option.filter_some, hp, hd]
      | true => simp [Option.filter_some, hp, hd, hnone]
    | false =>
      have hrest := ih hfs
      cases hd : drop f with
      | false => simp [hp, hd, hrest]
      | true => simp [hp, hd, hrest]

end Find

end Memory

end Tabular
