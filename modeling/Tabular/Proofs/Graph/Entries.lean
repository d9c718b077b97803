import Mathlib.Data.List.Induction
import Mathlib.Data.List.Perm.Subperm
import Tabular.Graph.Basic

/-!
# Lists of nodes by name

A change of one node keeps the names and their order. A run of such changes therefore acts on each
node by itself: it is one map, which applies to a node the changes made under its name.
-/

namespace Tabular

section InsertLast

variable {α : Type} [BEq α] [LawfulBEq α]

@[simp] theorem mem_insertLast {items : List α} {x y : α} :
    y ∈ insertLast items x ↔ y ∈ items ∨ y = x := by
  unfold insertLast
  split
  · next h =>
    have hx : x ∈ items := by simpa using h
    constructor
    · exact Or.inl
    · rintro (hy | rfl)
      · exact hy
      · exact hx
  · simp

theorem nodup_insertLast {items : List α} (h : items.Nodup) (x : α) :
    (insertLast items x).Nodup := by
  unfold insertLast
  split
  · exact h
  · next hx =>
    have hx : x ∉ items := by simpa using hx
    rw [List.nodup_append]
    refine ⟨h, by simp, ?_⟩
    intro a ha b hb
    rw [List.mem_singleton] at hb
    exact fun he => hx (hb ▸ he ▸ ha)

theorem foldl_insertLast (items xs : List α) (h : (items ++ xs).Nodup) :
    xs.foldl insertLast items = items ++ xs := by
  induction xs generalizing items with
  | nil => simp
  | cons x xs ih =>
    have hx : x ∉ items := fun hx =>
      (List.nodup_append.mp h).2.2 x hx x (by simp) rfl
    have hi : insertLast items x = items ++ [x] := by simp [insertLast, hx]
    rw [List.foldl_cons, hi, ih _ (by simpa using h)]
    simp

end InsertLast

section Distinct

open Formula

variable {α : Type} [BEq α] [LawfulBEq α]

omit [LawfulBEq α] in
theorem distinct_eq_foldl (items : List α) : distinct items = items.foldl insertLast [] := rfl

theorem mem_foldl_insertLast {items xs : List α} {y : α} :
    y ∈ xs.foldl insertLast items ↔ y ∈ items ∨ y ∈ xs := by
  induction xs generalizing items with
  | nil => simp
  | cons x xs ih => rw [List.foldl_cons, ih, mem_insertLast, List.mem_cons, or_assoc]

@[simp] theorem mem_distinct {items : List α} {y : α} : y ∈ distinct items ↔ y ∈ items := by
  rw [distinct_eq_foldl, mem_foldl_insertLast]
  simp

theorem nodup_distinct (items : List α) : (distinct items).Nodup :=
  List.foldlRecOn items insertLast List.nodup_nil fun _ h x _ => nodup_insertLast h x

theorem length_distinct_le (items : List α) : (distinct items).length ≤ items.length :=
  (List.subperm_of_subset (nodup_distinct items) fun _ => mem_distinct.mp).length_le

theorem length_distinct_le_of_subset {xs ys : List α} (h : xs ⊆ ys) :
    (distinct xs).length ≤ (distinct ys).length :=
  (List.subperm_of_subset (nodup_distinct xs) fun _ hx =>
    mem_distinct.mpr (h (mem_distinct.mp hx))).length_le

theorem foldl_insertLast_distinct (items xs : List α) :
    (distinct xs).foldl insertLast items = xs.foldl insertLast items := by
  induction xs using List.reverseRecOn with
  | nil => rfl
  | append_singleton xs x ih =>
    have hd : distinct (xs ++ [x]) = insertLast (distinct xs) x := by
      rw [distinct_eq_foldl, List.foldl_append]
      rfl
    rw [hd, List.foldl_append, List.foldl_cons, List.foldl_nil]
    by_cases hx : x ∈ xs
    · have hseen : insertLast (distinct xs) x = distinct xs := if_pos (by simpa using hx)
      have hthere : x ∈ xs.foldl insertLast items := mem_foldl_insertLast.mpr (.inr hx)
      have hkeep : insertLast (xs.foldl insertLast items) x = xs.foldl insertLast items :=
        if_pos (by simpa using hthere)
      rw [hseen, ih, hkeep]
    · have hnew : insertLast (distinct xs) x = distinct xs ++ [x] := if_neg (by simpa using hx)
      rw [hnew, List.foldl_append, ih]
      rfl

/-- Repeats may be dropped in each of two parts before they are put together. -/
theorem distinct_append_distinct (xs ys : List α) :
    distinct (distinct xs ++ distinct ys) = distinct (xs ++ ys) := by
  rw [distinct_eq_foldl (distinct xs ++ distinct ys), List.foldl_append, foldl_insertLast_distinct,
    foldl_insertLast_distinct, ← List.foldl_append]
  rfl

theorem distinct_perm {xs ys : List α} (h : xs.Perm ys) : (distinct xs).Perm (distinct ys) :=
  (List.perm_ext_iff_of_nodup (nodup_distinct xs) (nodup_distinct ys)).mpr fun a => by
    rw [mem_distinct, mem_distinct, h.mem_iff]

end Distinct

namespace Entries

variable {β : Type}

theorem insert_of_notMem {name : String} {es : Entries} (h : name ∉ es.map Prod.fst)
    (d : Dependency) : es.insert name d = es ++ [(name, d)] := by
  have hl : es.lookup name = none := by
    rw [List.lookup_eq_none_iff]
    intro e he
    rw [bne_iff_ne]
    exact fun hn => h (hn ▸ List.mem_map_of_mem he)
  simp [insert, hl]

/-- A run of changes, node by node: each node undergoes those made under its own name. -/
theorem foldl_modify (key : β → String) (f : β → Dependency → Dependency) (items : List β)
    (es : Entries) :
    items.foldl (fun es b => es.modify (key b) (f b)) es =
      es.map fun e => (e.1, (items.filter (e.1 = key ·)).foldl (fun d b => f b d) e.2) := by
  induction items generalizing es with
  | nil => simp
  | cons b items ih =>
    rw [List.foldl_cons, ih, modify, List.map_map]
    refine List.map_congr_left fun e _ => ?_
    by_cases h : e.1 = key b <;> simp [h]

/-- Where names are told apart, a node is found under its name. -/
theorem lookup_eq_some_iff {es : Entries} (h : (es.map Prod.fst).Nodup) {name : String}
    {d : Dependency} : es.lookup name = some d ↔ (name, d) ∈ es := by
  induction es with
  | nil => simp
  | cons e es ih =>
    obtain ⟨n, a⟩ := e
    rw [List.map_cons, List.nodup_cons] at h
    rw [List.lookup_cons, List.mem_cons]
    by_cases hn : name = n
    · subst hn
      have hd : (name, d) ∉ es := fun hd => h.1 (List.mem_map.mpr ⟨_, hd, rfl⟩)
      simp [hd, eq_comm]
    · have hb : (name == n) = false := by simpa using hn
      simp [hb, hn, ih h.2]

end Entries

end Tabular
