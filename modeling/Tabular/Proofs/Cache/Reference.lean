import Mathlib.Data.List.Basic
import Tabular.Cache.Recency

/-!
# Caches as lists by recency

The simplest cache of bounded size is a list of pairs, the one used last in front. What it answers
to a series of requests is what every cache of bounded size should answer.
-/

namespace Tabular

inductive CacheRequest (κ ν : Type) where
  | lookup (key : κ)
  | insert (key : κ) (value : ν)
  | contains (key : κ)
  | clear
  deriving DecidableEq, Repr

inductive CacheAnswer (ν : Type) where
  | value (found : Option ν)
  | presence (isThere : Bool)
  | done
  deriving DecidableEq, Repr

/-- An answer and what can be asked of the cache after it. -/
structure CacheView (ν : Type) where
  answer : CacheAnswer ν
  size : Nat
  isEmpty : Bool
  counts : CacheCounts
  deriving DecidableEq, Repr

/-- Pairs in the order of their last use, the latest in front, and room for a number of them. -/
structure RecencyList (κ ν : Type) where
  room : Nat
  pairs : List (κ × ν) := []
  counts : CacheCounts := {}
  deriving DecidableEq, Repr

variable {κ ν : Type} [DecidableEq κ]

namespace RecencyList

omit [DecidableEq κ] in
def empty (capacity : Nat) : RecencyList κ ν := { room := max capacity 1 }

/-- The pairs with a pair in front that replaces the one of its key. -/
def moveToFront (pairs : List (κ × ν)) (k : κ) (v : ν) : List (κ × ν) :=
  (k, v) :: pairs.filter (·.1 != k)

/-- Counts a lookup; a pair that is found moves to the front. -/
def lookup (l : RecencyList κ ν) (k : κ) : Option ν × RecencyList κ ν :=
  match l.pairs.lookup k with
  | some v =>
    (some v, { l with
      pairs := moveToFront l.pairs k v
      counts := { l.counts with lookups := l.counts.lookups + 1, hits := l.counts.hits + 1 } })
  | none =>
    (none, { l with
      counts := { l.counts with lookups := l.counts.lookups + 1, misses := l.counts.misses + 1 } })

/-- Puts a pair in front. If there is no room for all, the last pair goes. -/
def insert (l : RecencyList κ ν) (k : κ) (v : ν) : RecencyList κ ν :=
  let pairs := moveToFront l.pairs k v
  let counts := { l.counts with insertions := l.counts.insertions + 1 }
  if l.room < pairs.length then
    { l with
      pairs := pairs.dropLast
      counts := { counts with evictions := counts.evictions + 1 } }
  else { l with pairs := pairs, counts := counts }

def contains (l : RecencyList κ ν) (k : κ) : Bool := (l.pairs.lookup k).isSome

omit [DecidableEq κ] in
def clear (l : RecencyList κ ν) : RecencyList κ ν := { l with pairs := [] }

def serve (l : RecencyList κ ν) : CacheRequest κ ν → CacheAnswer ν × RecencyList κ ν
  | .lookup k => (.value (l.lookup k).1, (l.lookup k).2)
  | .insert k v => (.done, l.insert k v)
  | .contains k => (.presence (l.contains k), l)
  | .clear => (.done, l.clear)

/-- There is room for one pair and for all that are there, and every lookup has been a hit or a
miss. -/
structure Valid (l : RecencyList κ ν) : Prop where
  room_pos : 0 < l.room
  length_le : l.pairs.length ≤ l.room
  counted : l.counts.hits + l.counts.misses = l.counts.lookups

omit [DecidableEq κ] in
theorem valid_empty (capacity : Nat) : (empty capacity : RecencyList κ ν).Valid where
  room_pos := Nat.lt_of_lt_of_le Nat.zero_lt_one (Nat.le_max_right capacity 1)
  length_le := Nat.zero_le _
  counted := rfl

theorem contains_iff {l : RecencyList κ ν} {k : κ} : l.contains k ↔ k ∈ l.pairs.map Prod.fst := by
  rw [contains, Option.isSome_iff_ne_none, ne_eq, List.lookup_eq_none_iff]
  constructor
  · intro h
    by_contra hm
    exact h fun p hp => bne_iff_ne.mpr fun he => hm (he ▸ List.mem_map_of_mem hp)
  · rintro h hn
    obtain ⟨p, hp, rfl⟩ := List.mem_map.mp h
    simpa using hn p hp

theorem length_moveToFront_le (pairs : List (κ × ν)) (k : κ) (v : ν) :
    (moveToFront pairs k v).length ≤ pairs.length + 1 :=
  Nat.succ_le_succ (List.length_filter_le _ _)

theorem length_moveToFront_le_of_mem {pairs : List (κ × ν)} {k : κ} (h : k ∈ pairs.map Prod.fst)
    (v : ν) : (moveToFront pairs k v).length ≤ pairs.length := by
  obtain ⟨p, hp, rfl⟩ := List.mem_map.mp h
  exact List.length_filter_lt_length_iff_exists.mpr ⟨p, hp, by simp⟩

variable {l : RecencyList κ ν}

theorem Valid.lookup (h : l.Valid) (k : κ) : (l.lookup k).2.Valid := by
  have hc := h.counted
  unfold RecencyList.lookup
  split
  · next v hl =>
    have hk : k ∈ l.pairs.map Prod.fst := contains_iff.mp (by rw [contains, hl]; rfl)
    refine ⟨h.room_pos, Nat.le_trans (length_moveToFront_le_of_mem hk v) h.length_le, ?_⟩
    dsimp only
    omega
  · refine ⟨h.room_pos, h.length_le, ?_⟩
    dsimp only
    omega

theorem Valid.insert (h : l.Valid) (k : κ) (v : ν) : (l.insert k v).Valid := by
  have hle := length_moveToFront_le l.pairs k v
  have hl := h.length_le
  unfold RecencyList.insert
  dsimp only
  split
  · refine ⟨h.room_pos, ?_, h.counted⟩
    rw [List.length_dropLast]
    dsimp only
    omega
  · next hr => exact ⟨h.room_pos, Nat.le_of_not_lt hr, h.counted⟩

theorem Valid.contains_insert (h : l.Valid) (k : κ) (v : ν) : (l.insert k v).contains k := by
  rw [contains_iff, RecencyList.insert]
  dsimp only
  split
  · next hr =>
    -- the pair in front is the last one only where it is alone, and there is room for that
    obtain ⟨p, ps, hp⟩ : ∃ p ps, l.pairs.filter (·.1 != k) = p :: ps := by
      refine List.exists_cons_of_ne_nil fun he => ?_
      rw [moveToFront, he, List.length_singleton] at hr
      exact absurd h.room_pos (by omega)
    rw [moveToFront, hp, List.dropLast_cons_of_ne_nil (List.cons_ne_nil p ps)]
    exact List.mem_cons_self
  · exact List.mem_cons_self

/-- At most one key is lost when a pair is put in. -/
theorem eq_of_lost {k : κ} {v : ν} {i j : κ} (hi : l.contains i) (hj : l.contains j)
    (hi' : ¬ (l.insert k v).contains i) (hj' : ¬ (l.insert k v).contains j) : i = j := by
  have hfront : ∀ {i}, l.contains i → i ∈ (moveToFront l.pairs k v).map Prod.fst := by
    intro i hi
    obtain ⟨p, hp, rfl⟩ := List.mem_map.mp (contains_iff.mp hi)
    by_cases hk : p.1 = k
    · rw [hk]
      exact List.mem_cons_self
    · have hf : p ∈ l.pairs.filter (·.1 != k) := List.mem_filter.mpr ⟨hp, bne_iff_ne.mpr hk⟩
      exact List.mem_cons_of_mem _ (List.mem_map_of_mem hf)
  rw [contains_iff, RecencyList.insert] at hi' hj'
  dsimp only at hi' hj'
  split at hi'
  · next hr =>
    rw [if_pos hr] at hj'
    -- what is lost is the key of the last pair
    have hn : moveToFront l.pairs k v ≠ [] := List.cons_ne_nil _ _
    have hlast : ∀ {i}, l.contains i → i ∉ ((moveToFront l.pairs k v).dropLast).map Prod.fst →
        i = ((moveToFront l.pairs k v).getLast hn).1 := by
      intro i hi hd
      have hm := hfront hi
      rw [← List.dropLast_concat_getLast hn, List.map_append, List.mem_append] at hm
      exact List.mem_singleton.mp (hm.resolve_left hd)
    rw [hlast hi hi', hlast hj hj']
  · exact absurd (hfront hi) hi'

theorem evictions_insert_le (l : RecencyList κ ν) (k : κ) (v : ν) :
    (l.insert k v).counts.evictions ≤ l.counts.evictions + 1 := by
  unfold RecencyList.insert
  dsimp only
  split
  · exact Nat.le_refl _
  · exact Nat.le_succ _

/-- What is seen of the list after each of the requests. -/
def views (l : RecencyList κ ν) : List (CacheRequest κ ν) → List (CacheView ν)
  | [] => []
  | r :: rs =>
    let s := l.serve r
    ⟨s.1, s.2.pairs.length, s.2.pairs.isEmpty, s.2.counts⟩ :: s.2.views rs

def after (l : RecencyList κ ν) (rs : List (CacheRequest κ ν)) : RecencyList κ ν :=
  rs.foldl (fun l r => (l.serve r).2) l

theorem room_serve (l : RecencyList κ ν) (r : CacheRequest κ ν) : (l.serve r).2.room = l.room := by
  cases r with
  | lookup k =>
    rw [serve, lookup]
    split <;> rfl
  | insert k v =>
    rw [serve, insert]
    dsimp only
    split <;> rfl
  | contains k => rfl
  | clear => rfl

theorem room_after (l : RecencyList κ ν) (rs : List (CacheRequest κ ν)) :
    (l.after rs).room = l.room := by
  induction rs generalizing l with
  | nil => rfl
  | cons r rs ih => exact (ih (l.serve r).2).trans (l.room_serve r)

end RecencyList

namespace RecencyCache

def serve (c : RecencyCache κ ν) : CacheRequest κ ν → CacheAnswer ν × RecencyCache κ ν
  | .lookup k => (.value (c.lookup k).1, (c.lookup k).2)
  | .insert k v => (.done, c.insert k v)
  | .contains k => (.presence (c.contains k), c)
  | .clear => (.done, c.clear)

def views (c : RecencyCache κ ν) : List (CacheRequest κ ν) → List (CacheView ν)
  | [] => []
  | r :: rs =>
    let s := c.serve r
    ⟨s.1, s.2.size, s.2.isEmpty, s.2.counts⟩ :: s.2.views rs

def after (c : RecencyCache κ ν) (rs : List (CacheRequest κ ν)) : RecencyCache κ ν :=
  rs.foldl (fun c r => (c.serve r).2) c

end RecencyCache

end Tabular
