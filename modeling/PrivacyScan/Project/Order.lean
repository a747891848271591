import PrivacyScan.Table
import PrivacyScan.Text.Search

/-!
The order in which modules are worked through: a module comes after those that it depends on, as far
as there is no cycle.
-/

namespace PrivacyScan.Order

/-- All modules of a graph of dependencies, sorted. -/
def nodesOf (graph : Table (List String)) : List String :=
  Text.sortedDistinct (graph.keys ++ graph.values.flatten)

/-- The modules that depend on one, each as often as it does. -/
def dependentsOf (graph : Table (List String)) (node : String) : List String :=
  graph.flatMap fun (dependent, dependencies) =>
    List.replicate (dependencies.count node) dependent

/-- Takes off one open dependency of a module, which is ready when none is left. -/
def release (progress : Table Nat × List String) (node : String) : Table Nat × List String :=
  let left := (progress.1.get? node).getD 0 - 1
  (progress.1.set node left, if left == 0 then progress.2 ++ [node] else progress.2)

/-- Works off the queue of ready modules. -/
def drain (graph : Table (List String)) :
    (fuel : Nat) → (queue : List String) → (left : Table Nat) → List String
  | 0, _, _ => []
  | _, [], _ => []
  | fuel + 1, node :: queue, left =>
    let (after, ready) := (dependentsOf graph node).foldl release (left, [])
    node :: drain graph fuel (queue ++ ready) after

/-- Dependencies first; the modules of a cycle, and those behind it, come last and sorted. -/
def sorted (graph : Table (List String)) : List String :=
  let nodes := nodesOf graph
  let left : Table Nat := nodes.map fun node => (node, ((graph.get? node).getD []).length)
  let ready := nodes.filter fun node => (left.get? node).getD 0 == 0
  let done := drain graph nodes.length ready left
  done ++ nodes.filter fun node => !done.contains node

end PrivacyScan.Order
