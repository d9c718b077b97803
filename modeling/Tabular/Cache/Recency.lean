/-!
# Caches of bounded size

A cache keeps at most a fixed number of values and gives up the one that was unused longest. Each
use of a key is stamped with the next tick of a clock. An entry knows the tick of its last use, and
the keys stand once more under those ticks, the least tick first, so that the entry to give up is at
hand. A cache also counts what was asked of it. Ticks and counts are words of 64 bits.
-/

namespace Tabular

/-- A key with its value and the tick of its last use. -/
structure CacheEntry (κ ν : Type) where
  key : κ
  value : ν
  lastUsed : UInt64
  deriving DecidableEq, Repr

/-- Keys under ticks, the least tick first. -/
abbrev UseOrder (κ : Type) := List (UInt64 × κ)

namespace UseOrder

variable {κ : Type}

/-- Puts a key under a tick, in place of the one that is there. -/
def insert (tick : UInt64) (k : κ) : UseOrder κ → UseOrder κ
  | [] => [(tick, k)]
  | u :: uses =>
    if tick < u.1 then (tick, k) :: u :: uses
    else if tick = u.1 then (tick, k) :: uses
    else u :: insert tick k uses

/-- Removes what is under a tick. -/
def remove (tick : UInt64) (uses : UseOrder κ) : UseOrder κ := uses.filter (·.1 != tick)

end UseOrder

/-- How often a cache was asked and what came of it. -/
structure CacheCounts where
  lookups : Nat := 0
  hits : Nat := 0
  misses : Nat := 0
  insertions : Nat := 0
  evictions : Nat := 0
  deriving DecidableEq, Repr

/-- The share of lookups that found something; zero before the first. -/
def CacheCounts.hitRate (c : CacheCounts) : Float :=
  if c.lookups = 0 then 0.0 else Float.ofNat c.hits / Float.ofNat c.lookups

/-- A cache of bounded size. -/
structure RecencyCache (κ ν : Type) where
  capacity : Nat
  entries : List (CacheEntry κ ν) := []
  uses : UseOrder κ := []
  clock : UInt64 := 0
  lookups : UInt64 := 0
  hits : UInt64 := 0
  misses : UInt64 := 0
  insertions : UInt64 := 0
  evictions : UInt64 := 0
  deriving DecidableEq, Repr

namespace RecencyCache

variable {κ ν : Type}

/-- A cache without entries; it has room for one at least. -/
def empty (capacity : Nat) : RecencyCache κ ν := { capacity := max capacity 1 }

def size (c : RecencyCache κ ν) : Nat := c.entries.length

/-- There are no entries. -/
def isEmpty (c : RecencyCache κ ν) : Bool := c.entries.isEmpty

def counts (c : RecencyCache κ ν) : CacheCounts where
  lookups := c.lookups.toNat
  hits := c.hits.toNat
  misses := c.misses.toNat
  insertions := c.insertions.toNat
  evictions := c.evictions.toNat

variable [DecidableEq κ]

def entry? (c : RecencyCache κ ν) (k : κ) : Option (CacheEntry κ ν) := c.entries.find? (·.key == k)

/-- The key has an entry. Asking so is no use of it. -/
def contains (c : RecencyCache κ ν) (k : κ) : Bool := (c.entry? k).isSome

/-- Gives a key a value at the next tick, in place of the value and the tick that it has. -/
def stamp (c : RecencyCache κ ν) (k : κ) (v : ν) : RecencyCache κ ν :=
  let tick := c.clock + 1
  let uses :=
    match c.entry? k with
    | some e => UseOrder.remove e.lastUsed c.uses
    | none => c.uses
  { c with
    entries := ⟨k, v, tick⟩ :: c.entries.filter (·.key != k)
    uses := UseOrder.insert tick k uses
    clock := tick }

/-- The value of a key, whose entry becomes the one used last. -/
def lookup (c : RecencyCache κ ν) (k : κ) : Option ν × RecencyCache κ ν :=
  let asked := { c with lookups := c.lookups + 1 }
  match c.entry? k with
  | some e => (some e.value, { asked.stamp k e.value with hits := c.hits + 1 })
  | none => (none, { asked with clock := c.clock + 1, misses := c.misses + 1 })

/-- Removes the entry of the key under the least tick, and gives what it held. -/
def removeOldest (c : RecencyCache κ ν) : Option (κ × ν) × RecencyCache κ ν :=
  match c.uses with
  | [] => (none, c)
  | (_, k) :: uses =>
    match c.entry? k with
    | some e =>
      (some (k, e.value), { c with entries := c.entries.filter (·.key != k), uses := uses })
    | none => (none, { c with uses := uses })

theorem removeOldest_uses_length {c rest : RecencyCache κ ν} {p : κ × ν}
    (h : c.removeOldest = (some p, rest)) : rest.uses.length < c.uses.length := by
  unfold removeOldest at h
  split at h
  · simp at h
  · next hu =>
    split at h
    · simp only [Prod.mk.injEq] at h
      rw [← h.2, hu, List.length_cons]
      exact Nat.lt_succ_self _
    · simp at h

/-- Removes oldest entries as long as there are too many. -/
def evict (c : RecencyCache κ ν) : RecencyCache κ ν :=
  if c.capacity < c.size then
    match _ : c.removeOldest with
    | (some _, rest) => evict { rest with evictions := rest.evictions + 1 }
    | (none, rest) => rest
  else c
termination_by c.uses.length
decreasing_by exact removeOldest_uses_length ‹_›

/-- Gives a key a value, as its last use. If there is no room left, the oldest entry goes. -/
def insert (c : RecencyCache κ ν) (k : κ) (v : ν) : RecencyCache κ ν :=
  evict ({ c with insertions := c.insertions + 1 }.stamp k v)

omit [DecidableEq κ] in
/-- Removes the entries; the clock and the counts go on. -/
def clear (c : RecencyCache κ ν) : RecencyCache κ ν := { c with entries := [], uses := [] }

end RecencyCache

end Tabular
