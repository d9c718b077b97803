import Tabular.Graph.Basic

/-!
# Depth of the dependencies

The depth of a measure is the length of the longest chain of references that starts at it. A
reference back to the path that led to the measure is not followed, and a depth once found is kept.
-/

namespace Tabular.Graph

abbrev Depths := List (String × Nat)

/-- The depth of a measure at the end of a path that can take `room` more measures. -/
def chainFrom (g : Graph) : Nat → List String → Depths → String → Nat × Depths
  | 0, _, known, _ => (0, known)
  | room + 1, path, known, name =>
    match known.lookup name with
    | some depth => (depth, known)
    | none =>
      let path := name :: path
      let r := (g.successors name).foldl (fun acc next =>
        if path.contains next then acc
        else
          let below := chainFrom g room path acc.2 next
          (max acc.1 (below.1 + 1), below.2)) (0, known)
      (r.1, (name, r.1) :: r.2)

/-- The greatest depth of a measure; zero if there is none. -/
def maxDepth (g : Graph) : Nat :=
  (g.names.foldl (fun acc name =>
    let r := g.chainFrom (g.names.length + 1) [] acc.2 name
    (max acc.1 r.1, r.2)) ((0, []) : Nat × Depths)).1

end Tabular.Graph
