import Tabular.Cache.Store
import Tabular.Proofs.Cache.Refinement

/-!
# What a store keeps

A store answers with a value that it keeps under the key, and after any operation it keeps nothing but
what was kept before or was just put in. This holds of a bounded store too, whatever it gives up.
-/

namespace Tabular

namespace RecencyCache

variable {κ ν : Type} [DecidableEq κ]

theorem entries_sublist_of_removeOldest {c rest : RecencyCache κ ν} {p : Option (κ × ν)}
    (h : c.removeOldest = (p, rest)) : rest.entries.Sublist c.entries := by
  obtain rfl : c.removeOldest.2 = rest := congrArg Prod.snd h
  unfold removeOldest
  split
  · exact List.Sublist.refl _
  · split
    · exact List.filter_sublist
    · exact List.Sublist.refl _

theorem entries_evict_sublist (c : RecencyCache κ ν) : c.evict.entries.Sublist c.entries := by
  induction c using evict.induct with
  | case1 c hc p rest he ih =>
    rw [evict, if_pos hc]
    split
    · next h =>
      rw [he, Prod.mk.injEq] at h
      have hr := entries_sublist_of_removeOldest he
      rw [← h.2]
      exact ih.trans hr
    · next h => simp [he] at h
  | case2 c hc rest he =>
    rw [evict, if_pos hc]
    split
    · next h => simp [he] at h
    · next h => exact entries_sublist_of_removeOldest h
  | case3 c hc => rw [evict, if_neg hc]

theorem mem_entries_stamp {c : RecencyCache κ ν} {k : κ} {v : ν} {e : CacheEntry κ ν}
    (he : e ∈ (c.stamp k v).entries) : e.pair = (k, v) ∨ e ∈ c.entries := by
  rcases List.mem_cons.mp he with rfl | he
  · exact .inl rfl
  · exact .inr (List.mem_of_mem_filter he)

end RecencyCache

namespace Store

variable {ν : Type} {s : Store ν} {key : String} {value : ν}

theorem toList_bounded (c : RecencyCache String ν) :
    (bounded c).toList = c.entries.map CacheEntry.pair := rfl

@[simp] theorem toList_empty (capacity : Option Nat) : (empty capacity : Store ν).toList = [] := by
  cases capacity <;> rfl

@[simp] theorem toList_clear (s : Store ν) : s.clear.toList = [] := by
  cases s <;> rfl

theorem mem_of_lookup (h : (s.lookup key).1 = some value) : (key, value) ∈ s.toList := by
  cases s with
  | unbounded entries =>
    obtain ⟨before, after, hs, -⟩ := List.lookup_eq_some_iff.mp h
    rw [toList, hs]
    simp
  | bounded c =>
    have hc : (c.lookup key).1 = some value := h
    cases he : c.entry? key with
    | none =>
      rw [RecencyCache.lookup_of_no_entry he] at hc
      exact absurd hc (by simp)
    | some e =>
      rw [RecencyCache.lookup_of_entry? he, Option.some.injEq] at hc
      have hk : e.key = key := by
        simpa using List.find?_some he
      rw [toList_bounded, ← hk, ← hc]
      exact List.mem_map_of_mem (List.mem_of_find?_eq_some he)

theorem toList_lookup_of_none (h : (s.lookup key).1 = none) :
    (s.lookup key).2.toList = s.toList := by
  cases s with
  | unbounded entries => rfl
  | bounded c =>
    have hc : (c.lookup key).1 = none := h
    cases he : c.entry? key with
    | none =>
      rw [lookup, toList_bounded, toList_bounded, RecencyCache.lookup_of_no_entry he]
    | some e =>
      rw [RecencyCache.lookup_of_entry? he] at hc
      exact absurd hc (by simp)

theorem mem_of_mem_lookup {p : String × ν} (hp : p ∈ (s.lookup key).2.toList) : p ∈ s.toList := by
  cases hl : (s.lookup key).1 with
  | none => rwa [toList_lookup_of_none hl] at hp
  | some value =>
    cases s with
    | unbounded entries => exact hp
    | bounded c =>
      have hc : (c.lookup key).1 = some value := hl
      cases he : c.entry? key with
      | none =>
        rw [RecencyCache.lookup_of_no_entry he] at hc
        exact absurd hc (by simp)
      | some e =>
        rw [RecencyCache.lookup_of_entry? he, Option.some.injEq] at hc
        rw [lookup, toList_bounded, RecencyCache.lookup_of_entry? he] at hp
        obtain ⟨a, ha, rfl⟩ := List.mem_map.mp hp
        rcases RecencyCache.mem_entries_stamp ha with hv | ha
        · rw [hv, hc]
          exact mem_of_lookup hl
        · exact List.mem_map_of_mem ha

theorem mem_of_mem_insert {p : String × ν} (hp : p ∈ (s.insert key value).toList) :
    p = (key, value) ∨ p ∈ s.toList := by
  cases s with
  | unbounded entries =>
    rcases List.mem_cons.mp hp with rfl | hp
    · exact .inl rfl
    · exact .inr (List.mem_of_mem_filter hp)
  | bounded c =>
    rw [insert, toList_bounded, RecencyCache.insert_eq] at hp
    obtain ⟨e, he, rfl⟩ := List.mem_map.mp hp
    have hs := (RecencyCache.entries_evict_sublist _).subset he
    rcases RecencyCache.mem_entries_stamp hs with hv | he
    · exact .inl hv
    · exact .inr (List.mem_map_of_mem he)

theorem lookup_cons_filter_of_ne {entries : List (String × ν)} {other : String} (h : key ≠ other)
    (value : ν) :
    ((other, value) :: entries.filter (·.1 != other)).lookup key = entries.lookup key := by
  have hf : (entries.filter (·.1 != other)).lookup key = entries.lookup key := by
    induction entries with
    | nil => rfl
    | cons e entries ih =>
      by_cases he : e.1 = other
      · have hk : (key == e.1) = false := by simpa [he] using h
        rw [List.filter_cons_of_neg (by simpa using he), ih, List.lookup_cons, hk]
      · rw [List.filter_cons_of_pos (by simpa using he), List.lookup_cons, List.lookup_cons, ih]
  have hk : (key == other) = false := by simpa using h
  rw [List.lookup_cons, hk, hf]

end Store

end Tabular
