import Mathlib.Algebra.Group.Nat.Defs
import Mathlib.Data.List.Nodup
import Tabular.Proofs.Cache.Reference

/-!
# A cache keeps a list by recency

The entries of a cache, in whatever order they lie, are those of one list with the latest use in
front, and the keys under ticks are that list backwards. Every request changes the list as it would
change a list by recency, as long as no word of 64 bits overflows. So a cache answers as the list does.
-/

namespace Tabular

variable {κ ν : Type}

namespace UseOrder

theorem insert_of_forall_lt {tick : UInt64} {uses : UseOrder κ} (h : ∀ u ∈ uses, u.1 < tick)
    (k : κ) : UseOrder.insert tick k uses = uses ++ [(tick, k)] := by
  induction uses with
  | nil => rfl
  | cons u uses ih =>
    have hu : u.1 < tick := h u List.mem_cons_self
    have hne : tick ≠ u.1 := fun e => UInt64.lt_irrefl _ (e ▸ hu)
    rw [UseOrder.insert, if_neg (UInt64.lt_asymm hu), if_neg hne,
      ih fun u hm => h u (List.mem_cons_of_mem _ hm)]
    rfl

end UseOrder

theorem toNat_succ {w : UInt64} {n : Nat} (h : w.toNat ≤ n) (hn : n + 1 < 2 ^ 64) :
    (w + 1).toNat = w.toNat + 1 := by
  rw [UInt64.toNat_add, UInt64.toNat_one, Nat.mod_eq_of_lt (Nat.lt_of_le_of_lt (Nat.succ_le_succ h) hn)]

namespace CacheEntry

def pair (e : CacheEntry κ ν) : κ × ν := (e.key, e.value)

def use (e : CacheEntry κ ν) : UInt64 × κ := (e.lastUsed, e.key)

end CacheEntry

namespace RecencyCache

section Equations

variable [DecidableEq κ] {c : RecencyCache κ ν} {k : κ}

theorem lookup_of_entry? {e : CacheEntry κ ν} (h : c.entry? k = some e) :
    c.lookup k =
      (some e.value, { c.stamp k e.value with lookups := c.lookups + 1, hits := c.hits + 1 }) := by
  rw [lookup, h]
  rfl

theorem lookup_of_no_entry (h : c.entry? k = none) :
    c.lookup k =
      (none, { c with
        clock := c.clock + 1, lookups := c.lookups + 1, misses := c.misses + 1 }) := by
  rw [lookup, h]

theorem insert_eq (c : RecencyCache κ ν) (k : κ) (v : ν) :
    c.insert k v = evict { c.stamp k v with insertions := c.insertions + 1 } := rfl

end Equations

/-- The entries of a list with a key in front that has been stamped. -/
def restamped [DecidableEq κ] (c : RecencyCache κ ν) (es : List (CacheEntry κ ν)) (k : κ) (v : ν) :
    List (CacheEntry κ ν) := ⟨k, v, c.clock + 1⟩ :: es.filter (·.key != k)

/-- The entries of the cache, the one used last in front. -/
structure Lists (c : RecencyCache κ ν) (es : List (CacheEntry κ ν)) : Prop where
  perm : c.entries.Perm es
  keys_nodup : (es.map (·.key)).Nodup
  latest_first : es.Pairwise fun a b => b.lastUsed < a.lastUsed
  uses_eq : c.uses = (es.map CacheEntry.use).reverse
  le_clock : ∀ e ∈ es, e.lastUsed ≤ c.clock

namespace Lists

variable {c : RecencyCache κ ν} {es : List (CacheEntry κ ν)} {e a b : CacheEntry κ ν}

theorem size_eq (h : c.Lists es) : c.size = es.length := h.perm.length_eq

theorem congr {c' : RecencyCache κ ν} (h : c.Lists es) (he : c'.entries = c.entries)
    (hu : c'.uses = c.uses) (hc : c'.clock = c.clock) : c'.Lists es where
  perm := he ▸ h.perm
  keys_nodup := h.keys_nodup
  latest_first := h.latest_first
  uses_eq := hu ▸ h.uses_eq
  le_clock := hc ▸ h.le_clock

theorem eq_of_key_eq (h : c.Lists es) (ha : a ∈ es) (hb : b ∈ es) (hk : a.key = b.key) : a = b :=
  List.inj_on_of_nodup_map h.keys_nodup ha hb hk

theorem eq_of_lastUsed_eq (h : c.Lists es) (ha : a ∈ es) (hb : b ∈ es)
    (ht : a.lastUsed = b.lastUsed) : a = b := by
  have hn : (es.map (·.lastUsed)).Nodup := by
    rw [List.Nodup, List.pairwise_map]
    exact h.latest_first.imp fun {a b} hlt (he : a.lastUsed = b.lastUsed) =>
      UInt64.lt_irrefl b.lastUsed (by rwa [he] at hlt)
  exact List.inj_on_of_nodup_map hn ha hb ht

variable [DecidableEq κ]

theorem entry?_eq_some_iff (h : c.Lists es) {k : κ} : c.entry? k = some e ↔ e ∈ es ∧ e.key = k := by
  rw [← h.perm.mem_iff]
  constructor
  · intro he
    exact ⟨List.mem_of_find?_eq_some he, by simpa using List.find?_some he⟩
  · rintro ⟨he, rfl⟩
    cases hf : c.entry? e.key with
    | none => exact absurd (beq_self_eq_true e.key) (List.find?_eq_none.mp hf e he)
    | some a =>
      have hk : a.key = e.key := by
        simpa using List.find?_some hf
      rw [h.eq_of_key_eq (h.perm.mem_iff.mp (List.mem_of_find?_eq_some hf)) (h.perm.mem_iff.mp he) hk]

theorem entry?_eq_none_iff (h : c.Lists es) {k : κ} : c.entry? k = none ↔ ∀ e ∈ es, e.key ≠ k := by
  simp only [Option.eq_none_iff_forall_ne_some, ne_eq, h.entry?_eq_some_iff, not_and]

/-- Without the entries of a key it is a list of the other entries. -/
theorem filter (h : c.Lists es) (k : κ) :
    Lists { c with
      entries := c.entries.filter (·.key != k)
      uses := ((es.filter (·.key != k)).map CacheEntry.use).reverse } (es.filter (·.key != k)) where
  perm := h.perm.filter _
  keys_nodup := h.keys_nodup.sublist (List.filter_sublist.map _)
  latest_first := h.latest_first.sublist List.filter_sublist
  uses_eq := rfl
  le_clock e he := h.le_clock e (List.mem_of_mem_filter he)

theorem remove_lastUsed (h : c.Lists es) (he : e ∈ es) :
    UseOrder.remove e.lastUsed c.uses =
      ((es.filter (·.key != e.key)).map CacheEntry.use).reverse := by
  rw [h.uses_eq, UseOrder.remove, List.filter_reverse, List.filter_map]
  congr 2
  refine List.filter_congr fun a ha => ?_
  rw [Bool.eq_iff_iff, Function.comp_apply, bne_iff_ne, bne_iff_ne]
  constructor
  · intro ht hk
    exact ht (congrArg CacheEntry.lastUsed (h.eq_of_key_eq ha he hk))
  · intro hk ht
    exact hk (congrArg CacheEntry.key (h.eq_of_lastUsed_eq ha he ht))

/-- What is left under ticks once a key gives up its last use. -/
theorem uses_without (h : c.Lists es) (k : κ) :
    (match c.entry? k with
      | some e => UseOrder.remove e.lastUsed c.uses
      | none => c.uses) = ((es.filter (·.key != k)).map CacheEntry.use).reverse := by
  cases he : c.entry? k with
  | none =>
    have hf : es.filter (·.key != k) = es :=
      List.filter_eq_self.mpr fun e hm => bne_iff_ne.mpr (h.entry?_eq_none_iff.mp he e hm)
    rw [hf]
    exact h.uses_eq
  | some e =>
    obtain ⟨hm, rfl⟩ := h.entry?_eq_some_iff.mp he
    exact h.remove_lastUsed hm

theorem stamp (h : c.Lists es) (hc : c.clock.toNat + 1 < 2 ^ 64) (k : κ) (v : ν) :
    (c.stamp k v).Lists (c.restamped es k v) := by
  have hs := h.filter k
  have hlt : ∀ e ∈ es.filter (·.key != k), e.lastUsed < c.clock + 1 := by
    intro e he
    rw [UInt64.lt_iff_toNat_lt, toNat_succ (Nat.le_refl _) hc]
    exact Nat.lt_succ_of_le (UInt64.le_iff_toNat_le.mp (hs.le_clock e he))
  rw [restamped]
  constructor
  · exact hs.perm.cons _
  · rw [List.map_cons, List.nodup_cons]
    refine ⟨fun hm => ?_, hs.keys_nodup⟩
    obtain ⟨e, he, hk⟩ := List.mem_map.mp hm
    simp [hk] at he
  · exact List.pairwise_cons.mpr ⟨hlt, hs.latest_first⟩
  · have hu : ∀ u ∈ ((es.filter (·.key != k)).map CacheEntry.use).reverse, u.1 < c.clock + 1 := by
      intro u hm
      obtain ⟨e, he, rfl⟩ := List.mem_map.mp (List.mem_reverse.mp hm)
      exact hlt e he
    calc (c.stamp k v).uses
        = UseOrder.insert (c.clock + 1) k ((es.filter (·.key != k)).map CacheEntry.use).reverse :=
          congrArg (UseOrder.insert (c.clock + 1) k) (h.uses_without k)
      _ = _ := by
          rw [UseOrder.insert_of_forall_lt hu, List.map_cons, List.reverse_cons]
          rfl
  · intro e he
    rcases List.mem_cons.mp he with rfl | he
    · exact UInt64.le_refl _
    · exact UInt64.le_of_lt (hlt e he)

theorem of_concat (h : c.Lists (es ++ [e])) :
    Lists { c with
      entries := c.entries.filter (·.key != e.key)
      uses := (es.map CacheEntry.use).reverse } es := by
  have hn := h.keys_nodup
  rw [List.map_append, List.nodup_append] at hn
  have hes : es.filter (·.key != e.key) = es := by
    refine List.filter_eq_self.mpr fun a ha => bne_iff_ne.mpr ?_
    exact hn.2.2 _ (List.mem_map_of_mem ha) _ (by simp)
  have hf : (es ++ [e]).filter (·.key != e.key) = es := by
    rw [List.filter_append, hes]
    simp
  have hl := h.filter e.key
  rwa [hf] at hl

theorem removeOldest_eq (h : c.Lists (es ++ [e])) :
    c.removeOldest = (some e.pair, { c with
      entries := c.entries.filter (·.key != e.key)
      uses := (es.map CacheEntry.use).reverse }) := by
  have hu : c.uses = e.use :: (es.map CacheEntry.use).reverse := by
    rw [h.uses_eq, List.map_append, List.reverse_append]
    rfl
  have he : c.entry? e.key = some e := h.entry?_eq_some_iff.mpr ⟨by simp, rfl⟩
  rw [removeOldest, hu]
  simp only [CacheEntry.use, he]
  rfl

theorem evict_eq_self (h : c.Lists es) (hc : es.length ≤ c.capacity) : c.evict = c := by
  rw [evict, if_neg (by rw [h.size_eq]; omega)]

/-- One entry too many is evicted, and no other. -/
theorem evict_eq (h : c.Lists (es ++ [e])) (hc : es.length = c.capacity) :
    c.evict = { c with
      entries := c.entries.filter (·.key != e.key)
      uses := (es.map CacheEntry.use).reverse
      evictions := c.evictions + 1 } := by
  have hl : Lists { c with
      entries := c.entries.filter (·.key != e.key)
      uses := (es.map CacheEntry.use).reverse
      evictions := c.evictions + 1 } es := h.of_concat.congr rfl rfl rfl
  rw [evict, if_pos (by rw [h.size_eq, List.length_append, hc]; exact Nat.lt_succ_self _)]
  split
  · next heq =>
    rw [h.removeOldest_eq, Prod.mk.injEq] at heq
    rw [← heq.2]
    exact hl.evict_eq_self (Nat.le_of_eq hc)
  · next heq =>
    rw [h.removeOldest_eq, Prod.mk.injEq] at heq
    exact absurd heq.1 (by simp)

end Lists

end RecencyCache

structure CacheCounts.Within (k : CacheCounts) (n : Nat) : Prop where
  lookups : k.lookups ≤ n
  hits : k.hits ≤ n
  misses : k.misses ≤ n
  insertions : k.insertions ≤ n
  evictions : k.evictions ≤ n

namespace RecencyCache

open RecencyList (moveToFront)

/-- After `n` requests the cache keeps the list by recency, entry by entry. -/
structure Keeps (n : Nat) (c : RecencyCache κ ν) (l : RecencyList κ ν)
    (es : List (CacheEntry κ ν)) : Prop where
  lists : c.Lists es
  pairs_eq : l.pairs = es.map CacheEntry.pair
  room_eq : l.room = c.capacity
  valid : l.Valid
  counts_eq : l.counts = c.counts
  clock_le : c.clock.toNat ≤ n
  within : l.counts.Within n

theorem keeps_empty (capacity : Nat) :
    Keeps 0 (.empty capacity : RecencyCache κ ν) (.empty capacity) [] where
  lists := ⟨.nil, List.nodup_nil, .nil, rfl, fun _ h => absurd h List.not_mem_nil⟩
  pairs_eq := rfl
  room_eq := rfl
  valid := RecencyList.valid_empty capacity
  counts_eq := rfl
  clock_le := Nat.le_refl 0
  within := ⟨Nat.le_refl 0, Nat.le_refl 0, Nat.le_refl 0, Nat.le_refl 0, Nat.le_refl 0⟩

namespace Keeps

variable {n : Nat} {c : RecencyCache κ ν} {l : RecencyList κ ν} {es : List (CacheEntry κ ν)}

theorem size_eq (h : Keeps n c l es) : c.size = l.pairs.length := by
  rw [h.lists.size_eq, h.pairs_eq, List.length_map]

theorem isEmpty_eq (h : Keeps n c l es) : c.isEmpty = l.pairs.isEmpty := by
  rw [Bool.eq_iff_iff, isEmpty, List.isEmpty_iff_length_eq_zero, List.isEmpty_iff_length_eq_zero,
    ← h.size_eq, size]

variable [DecidableEq κ]

theorem lookup_pairs (h : Keeps n c l es) (k : κ) :
    l.pairs.lookup k = (c.entry? k).map (·.value) := by
  have hs : Lists { c with entries := es } es := { h.lists with perm := .refl es }
  have he : c.entry? k = es.find? (·.key == k) :=
    Option.ext fun e => h.lists.entry?_eq_some_iff.trans hs.entry?_eq_some_iff.symm
  rw [h.pairs_eq, he]
  clear he hs h
  induction es with
  | nil => rfl
  | cons e es ih =>
    rw [List.map_cons, CacheEntry.pair, List.lookup_cons, List.find?_cons, ih, BEq.comm]
    split <;> rfl

theorem moveToFront_eq (h : Keeps n c l es) (k : κ) (v : ν) :
    moveToFront l.pairs k v = (c.restamped es k v).map CacheEntry.pair := by
  rw [moveToFront, h.pairs_eq, List.filter_map, restamped, List.map_cons]
  rfl

theorem contains_eq (h : Keeps n c l es) (k : κ) : c.contains k = l.contains k := by
  rw [RecencyCache.contains, RecencyList.contains, h.lookup_pairs, Option.isSome_map]

omit [DecidableEq κ] in
theorem toNat_words (h : Keeps n c l es) (hn : n + 1 < 2 ^ 64) :
    (c.clock + 1).toNat = c.clock.toNat + 1 ∧ (c.lookups + 1).toNat = c.lookups.toNat + 1 ∧
      (c.hits + 1).toNat = c.hits.toNat + 1 ∧ (c.misses + 1).toNat = c.misses.toNat + 1 ∧
      (c.insertions + 1).toNat = c.insertions.toNat + 1 ∧
      (c.evictions + 1).toNat = c.evictions.toNat + 1 := by
  have hw := h.within
  rw [h.counts_eq] at hw
  exact ⟨toNat_succ h.clock_le hn, toNat_succ hw.lookups hn, toNat_succ hw.hits hn,
    toNat_succ hw.misses hn, toNat_succ hw.insertions hn, toNat_succ hw.evictions hn⟩

theorem lists_stamp (h : Keeps n c l es) (hn : n + 1 < 2 ^ 64) (k : κ) (v : ν) :
    (c.stamp k v).Lists (c.restamped es k v) :=
  h.lists.stamp (Nat.lt_of_le_of_lt (Nat.succ_le_succ h.clock_le) hn) k v

theorem lookup_of_no_entry (h : Keeps n c l es) (hn : n + 1 < 2 ^ 64) {k : κ}
    (he : c.entry? k = none) : Keeps (n + 1) (c.lookup k).2 (l.lookup k).2 es := by
  have hv := h.valid.lookup k
  obtain ⟨hclock, hlookups, -, hmisses, -, -⟩ := h.toNat_words hn
  obtain ⟨w₁, w₂, w₃, w₄, w₅⟩ := h.within
  have hl : l.pairs.lookup k = none := by rw [h.lookup_pairs, he, Option.map_none]
  rw [RecencyCache.lookup_of_no_entry he]
  rw [RecencyList.lookup, hl] at hv ⊢
  exact {
    lists := { h.lists with
      le_clock := fun e hm => by
        have := UInt64.le_iff_toNat_le.mp (h.lists.le_clock e hm)
        rw [UInt64.le_iff_toNat_le, hclock]
        omega }
    pairs_eq := h.pairs_eq
    room_eq := h.room_eq
    valid := hv
    counts_eq := by
      rw [h.counts_eq]
      simp only [counts, hlookups, hmisses]
    clock_le := hclock ▸ Nat.succ_le_succ h.clock_le
    within := by
      constructor <;> dsimp only <;> omega }

theorem lookup_of_entry? (h : Keeps n c l es) (hn : n + 1 < 2 ^ 64) {k : κ} {e : CacheEntry κ ν}
    (he : c.entry? k = some e) :
    Keeps (n + 1) (c.lookup k).2 (l.lookup k).2 (c.restamped es k e.value) := by
  have hv := h.valid.lookup k
  obtain ⟨hclock, hlookups, hhits, -, -, -⟩ := h.toNat_words hn
  obtain ⟨w₁, w₂, w₃, w₄, w₅⟩ := h.within
  have hl : l.pairs.lookup k = some e.value := by rw [h.lookup_pairs, he, Option.map_some]
  rw [RecencyCache.lookup_of_entry? he]
  rw [RecencyList.lookup, hl] at hv ⊢
  exact {
    lists := (h.lists_stamp hn k e.value).congr rfl rfl rfl
    pairs_eq := h.moveToFront_eq k e.value
    room_eq := h.room_eq
    valid := hv
    counts_eq := by
      rw [h.counts_eq]
      simp only [counts, stamp, hlookups, hhits]
    clock_le := hclock ▸ Nat.succ_le_succ h.clock_le
    within := by
      constructor <;> dsimp only <;> omega }

theorem insert_of_length_le (h : Keeps n c l es) (hn : n + 1 < 2 ^ 64) {k : κ} {v : ν}
    (hr : (c.restamped es k v).length ≤ l.room) :
    Keeps (n + 1) (c.insert k v) (l.insert k v) (c.restamped es k v) := by
  have hv := h.valid.insert k v
  obtain ⟨hclock, -, -, -, hinsertions, -⟩ := h.toNat_words hn
  obtain ⟨w₁, w₂, w₃, w₄, w₅⟩ := h.within
  have hlist : Lists { c.stamp k v with insertions := c.insertions + 1 } (c.restamped es k v) :=
    (h.lists_stamp hn k v).congr rfl rfl rfl
  rw [insert_eq, hlist.evict_eq_self (h.room_eq ▸ hr)]
  rw [RecencyList.insert, h.moveToFront_eq, List.length_map] at hv ⊢
  dsimp only at hv ⊢
  rw [if_neg (Nat.not_lt_of_le hr)] at hv ⊢
  exact {
    lists := hlist
    pairs_eq := rfl
    room_eq := h.room_eq
    valid := hv
    counts_eq := by
      rw [h.counts_eq]
      simp only [counts, stamp, hinsertions]
    clock_le := hclock ▸ Nat.succ_le_succ h.clock_le
    within := by
      constructor <;> dsimp only <;> omega }

/-- An insertion for which there is no room evicts the last entry. -/
theorem insert_of_eq_concat (h : Keeps n c l es) (hn : n + 1 < 2 ^ 64) {k : κ} {v : ν}
    {init : List (CacheEntry κ ν)} {last : CacheEntry κ ν}
    (hf : c.restamped es k v = init ++ [last]) (hr : init.length = l.room) :
    Keeps (n + 1) (c.insert k v) (l.insert k v) init := by
  have hv := h.valid.insert k v
  obtain ⟨hclock, -, -, -, hinsertions, hevictions⟩ := h.toNat_words hn
  obtain ⟨w₁, w₂, w₃, w₄, w₅⟩ := h.within
  have hlist : Lists { c.stamp k v with insertions := c.insertions + 1 } (init ++ [last]) :=
    (hf ▸ h.lists_stamp hn k v).congr rfl rfl rfl
  rw [insert_eq, hlist.evict_eq (hr.trans h.room_eq)]
  rw [RecencyList.insert, h.moveToFront_eq, hf, List.map_append, List.length_append, List.length_map,
    List.map_singleton, List.length_singleton, List.dropLast_concat] at hv ⊢
  dsimp only at hv ⊢
  rw [if_pos (hr ▸ Nat.lt_succ_self _)] at hv ⊢
  exact {
    lists := hlist.of_concat.congr rfl rfl rfl
    pairs_eq := rfl
    room_eq := h.room_eq
    valid := hv
    counts_eq := by
      rw [h.counts_eq]
      simp only [counts, stamp, hinsertions, hevictions]
    clock_le := hclock ▸ Nat.succ_le_succ h.clock_le
    within := by
      constructor <;> dsimp only <;> omega }

theorem insert (h : Keeps n c l es) (hn : n + 1 < 2 ^ 64) (k : κ) (v : ν) :
    ∃ es', Keeps (n + 1) (c.insert k v) (l.insert k v) es' := by
  rcases Nat.lt_or_ge l.room (c.restamped es k v).length with hr | hr
  · have hle := RecencyList.length_moveToFront_le l.pairs k v
    have hroom := h.valid.length_le
    obtain ⟨init, last, hf⟩ : ∃ init last, c.restamped es k v = init ++ [last] :=
      ⟨_, _, (List.dropLast_append_getLast (List.cons_ne_nil _ _)).symm⟩
    rw [h.moveToFront_eq, List.length_map, hf, List.length_append, List.length_singleton] at hle
    rw [hf, List.length_append, List.length_singleton] at hr
    exact ⟨init, h.insert_of_eq_concat hn hf (by omega)⟩
  · exact ⟨_, h.insert_of_length_le hn hr⟩

omit [DecidableEq κ] in
theorem succ (h : Keeps n c l es) : Keeps (n + 1) c l es := by
  obtain ⟨w₁, w₂, w₃, w₄, w₅⟩ := h.within
  exact { h with
    clock_le := Nat.le_succ_of_le h.clock_le
    within := by
      constructor <;> omega }

omit [DecidableEq κ] in
theorem clear (h : Keeps n c l es) : Keeps n c.clear l.clear [] where
  lists := ⟨.nil, List.nodup_nil, .nil, rfl, fun _ h => absurd h List.not_mem_nil⟩
  pairs_eq := rfl
  room_eq := h.room_eq
  valid := ⟨h.valid.room_pos, Nat.zero_le _, h.valid.counted⟩
  counts_eq := h.counts_eq
  clock_le := h.clock_le
  within := h.within

/-- The cache serves a request as the list does and goes on keeping it. -/
theorem serve (h : Keeps n c l es) (hn : n + 1 < 2 ^ 64) (r : CacheRequest κ ν) :
    (c.serve r).1 = (l.serve r).1 ∧ ∃ es', Keeps (n + 1) (c.serve r).2 (l.serve r).2 es' := by
  cases r with
  | lookup k =>
    have hl := h.lookup_pairs k
    cases he : c.entry? k with
    | none =>
      rw [he] at hl
      refine ⟨?_, es, h.lookup_of_no_entry hn he⟩
      simp [RecencyCache.serve, RecencyList.serve, RecencyCache.lookup, RecencyList.lookup, he, hl]
    | some e =>
      rw [he] at hl
      refine ⟨?_, _, h.lookup_of_entry? hn he⟩
      simp [RecencyCache.serve, RecencyList.serve, RecencyCache.lookup, RecencyList.lookup, he, hl]
  | insert k v => exact ⟨rfl, h.insert hn k v⟩
  | contains k => exact ⟨congrArg _ (h.contains_eq k), es, h.succ⟩
  | clear => exact ⟨rfl, [], h.clear.succ⟩

/-- What is seen of the cache is what is seen of the list. -/
theorem views_eq (h : Keeps n c l es) {rs : List (CacheRequest κ ν)}
    (hn : n + rs.length < 2 ^ 64) : c.views rs = l.views rs := by
  induction rs generalizing n c l es with
  | nil => rfl
  | cons r rs ih =>
    rw [List.length_cons] at hn
    obtain ⟨ha, es', hs⟩ := h.serve (by omega) r
    rw [RecencyCache.views, RecencyList.views, ih hs (by omega), ha, hs.size_eq, hs.isEmpty_eq,
      hs.counts_eq]

theorem after (h : Keeps n c l es) {rs : List (CacheRequest κ ν)} (hn : n + rs.length < 2 ^ 64) :
    ∃ es', Keeps (n + rs.length) (c.after rs) (l.after rs) es' := by
  induction rs generalizing n c l es with
  | nil => exact ⟨es, h⟩
  | cons r rs ih =>
    rw [List.length_cons] at hn
    obtain ⟨-, es', hs⟩ := h.serve (by omega) r
    rw [List.length_cons, Nat.add_comm rs.length, ← Nat.add_assoc]
    exact ih hs (by omega)

end Keeps

variable [DecidableEq κ]

/-- From the first cache to the second at most one key is lost, and at most one eviction counted. -/
def LosesAtMostOne (c c' : RecencyCache κ ν) : Prop :=
  c'.counts.evictions ≤ c.counts.evictions + 1 ∧
    ∀ i j, c.contains i → c.contains j → ¬ c'.contains i → ¬ c'.contains j → i = j

/-- Served any series of requests that 64 bits can count, a cache shows what the list by recency
shows. After each request every lookup has been counted as a hit or a miss and the cache is no larger
than its capacity; an insertion keeps its own key and costs at most one other. -/
theorem views_empty (capacity : Nat) {rs : List (CacheRequest κ ν)} (hrs : rs.length < 2 ^ 64) :
    (empty capacity : RecencyCache κ ν).views rs = (RecencyList.empty capacity).views rs ∧
      ∀ before r later, rs = before ++ r :: later →
        let c : RecencyCache κ ν := (empty capacity).after before
        let c' := (c.serve r).2
        c'.counts.hits + c'.counts.misses = c'.counts.lookups ∧ c'.size ≤ max capacity 1 ∧
          ∀ k v, r = .insert k v → c'.contains k ∧ c.LosesAtMostOne c' := by
  have h₀ : Keeps 0 (empty capacity : RecencyCache κ ν) (.empty capacity) [] := keeps_empty capacity
  refine ⟨h₀.views_eq (by omega), ?_⟩
  rintro before r later rfl c c'
  rw [List.length_append, List.length_cons] at hrs
  have hb : 0 + before.length < 2 ^ 64 := by omega
  obtain ⟨es, h⟩ := h₀.after hb
  obtain ⟨-, es', h'⟩ := h.serve (by omega) r
  refine ⟨?_, ?_, ?_⟩
  · rw [← h'.counts_eq]
    exact h'.valid.counted
  · rw [h'.size_eq]
    refine Nat.le_trans h'.valid.length_le (Nat.le_of_eq ?_)
    rw [RecencyList.room_serve, RecencyList.room_after]
    rfl
  · rintro k v rfl
    refine ⟨?_, ?_, ?_⟩
    · rw [h'.contains_eq]
      exact h.valid.contains_insert k v
    · rw [← h'.counts_eq, ← h.counts_eq]
      exact RecencyList.evictions_insert_le _ k v
    · intro i j
      rw [h.contains_eq, h.contains_eq, h'.contains_eq, h'.contains_eq]
      exact RecencyList.eq_of_lost

def crowding : List (CacheRequest Char Nat) :=
  [.insert 'a' 1, .insert 'b' 2, .lookup 'a', .insert 'c' 3, .contains 'b']

/-- In a cache of two, a lookup saves the older entry from being evicted. -/
theorem views_empty_crowding :
    crowding.length < 2 ^ 64 ∧
      (empty 2 : RecencyCache Char Nat).views crowding =
        [⟨.done, 1, false, { insertions := 1 }⟩, ⟨.done, 2, false, { insertions := 2 }⟩,
          ⟨.value (some 1), 2, false, { lookups := 1, hits := 1, insertions := 2 }⟩,
          ⟨.done, 2, false, { lookups := 1, hits := 1, insertions := 3, evictions := 1 }⟩,
          ⟨.presence false, 2, false,
            { lookups := 1, hits := 1, insertions := 3, evictions := 1 }⟩] := by
  have hl : crowding.length < 2 ^ 64 := by
    decide
  exact ⟨hl, (views_empty 2 hl).1.trans (by decide)⟩

end RecencyCache

end Tabular
