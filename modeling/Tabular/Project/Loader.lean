import Tabular.Cache.Store
import Tabular.Project.Assembly

/-!
# Loading projects

A loader assembles a project at the first request and answers later requests for the same path from
its store. Every assembled project has a number of its own, so that an answer from the store can be
told from an equal project that was assembled anew.
-/

namespace Tabular

/-- An assembled project with its number. -/
structure Loaded where
  serial : Nat
  project : Project
  deriving DecidableEq, Repr

/-- A layout, the projects that are kept, and the number of the next one. -/
structure Loader where
  layout : Layout
  store : Store Loaded
  next : Nat := 0
  deriving Repr

namespace Loader

/-- A loader that keeps nothing yet. -/
def ofSettings (s : Settings) : Loader := ⟨s.layout, .empty s.cacheCapacity, 0⟩

/-- The project of a path, from the store or else from its files. A failure is not stored. -/
def load (ld : Loader) (s : Source) (path : String) : Except Failure Loaded × Loader :=
  let r := ld.store.lookup path
  match r.1 with
  | some kept => (.ok kept, { ld with store := r.2 })
  | none =>
    match ld.layout.assemble s path with
    | .ok project =>
      let loaded : Loaded := ⟨ld.next, project⟩
      (.ok loaded, { ld with store := r.2.insert path loaded, next := ld.next + 1 })
    | .error e => (.error e, { ld with store := r.2 })

/-- The project of a path from its files, whatever the store keeps. -/
def assemble (ld : Loader) (s : Source) (path : String) : Except Failure Project :=
  ld.layout.assemble s path

def clear (ld : Loader) : Loader := { ld with store := ld.store.clear }

end Loader

end Tabular
