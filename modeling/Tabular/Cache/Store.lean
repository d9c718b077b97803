import Tabular.Cache.Recency

/-!
# Stores of loaded projects

A store keeps values under texts: all of them, or as many as a cache has room for.
-/

namespace Tabular

/-- Values under texts. -/
inductive Store (ν : Type) where
  | unbounded (entries : List (String × ν))
  | bounded (cache : RecencyCache String ν)
  deriving Repr

namespace Store

variable {ν : Type}

/-- A store without entries that keeps at most the given number, or all if there is none. -/
def empty : Option Nat → Store ν
  | none => unbounded []
  | some capacity => bounded (.empty capacity)

def size : Store ν → Nat
  | unbounded entries => entries.length
  | bounded cache => cache.size

/-- There are no entries. -/
def isEmpty (s : Store ν) : Bool := s.size == 0

/-- The value under a key, and the store after it was asked. -/
def lookup (key : String) : Store ν → Option ν × Store ν
  | unbounded entries => (entries.lookup key, unbounded entries)
  | bounded cache =>
    let r := cache.lookup key
    (r.1, bounded r.2)

/-- Puts a value under a key, in place of what was there. -/
def insert (key : String) (value : ν) : Store ν → Store ν
  | unbounded entries => unbounded ((key, value) :: entries.filter (·.1 != key))
  | bounded cache => bounded (cache.insert key value)

/-- The store without its entries. -/
def clear : Store ν → Store ν
  | unbounded _ => unbounded []
  | bounded cache => bounded cache.clear

def toList : Store ν → List (String × ν)
  | unbounded entries => entries
  | bounded cache => cache.entries.map fun e => (e.key, e.value)

def counts? : Store ν → Option CacheCounts
  | unbounded _ => none
  | bounded cache => some cache.counts

end Store

end Tabular
