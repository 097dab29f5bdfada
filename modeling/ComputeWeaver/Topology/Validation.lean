/-
Topology.Validation — the checks on a topology graph
(`validate_graph` of `packages/topology/validation.py`).

Ids must be distinct and relationships must have both ends; the loop that takes
away assets without open parents must reach all of them; and the children of an
asset with a capacity must fit into it.

The loop makes at most one round for each asset, since an asset is queued when
the number of its open parents becomes zero and not again; `drain` counts the
rounds that are left.
-/
import ComputeWeaver.Topology.Models
import Mathlib.Algebra.Order.Ring.Rat

namespace ComputeWeaver.Topology

open Lib

/-- The children of each asset, and the number of parents still open. -/
structure Edges where
  children : Dict String (List String)
  indegree : Dict String Int

/-- `children[node]` of the `defaultdict`. -/
def Edges.childrenOf (edges : Edges) (node : String) : List String :=
  (edges.children.get? node).getD []

/-- The body of the loop over the relationships. -/
def link (byId : Dict String Asset) (edges : Edges) (relationship : Relationship) :
    Except PyError Edges :=
  match byId.get? relationship.parentId, byId.get? relationship.childId with
  | some parent, some child =>
      if parent.tenantId ≠ child.tenantId then
        throw (.valueError "cross-tenant topology relationship")
      else pure
        { children := edges.children.set relationship.parentId
            (edges.childrenOf relationship.parentId ++ [relationship.childId])
          indegree := edges.indegree.modify relationship.childId (· + 1) }
  | _, _ => throw (.valueError "orphan topology relationship")

/-- One parent of `child` less; the child is ready when it was the last one. -/
def visit (state : Dict String Int × List String) (child : String) :
    Dict String Int × List String :=
  let indegree := state.1.modify child (· - 1)
  if indegree.get? child = some 0 then (indegree, state.2 ++ [child]) else (indegree, state.2)

/-- `while queue`: the number of assets visited. -/
def drain (edges : Edges) : Nat → List String → Dict String Int → Nat → Nat
  | 0, _, _, visited => visited
  | _ + 1, [], _, visited => visited
  | rounds + 1, node :: queue, indegree, visited =>
      let (indegree, queue) := (edges.childrenOf node).foldl visit (indegree, queue)
      drain edges rounds queue indegree (visited + 1)

/-- The last loop, over the parents in the order of their first relationship. -/
def checkCapacity (byId : Dict String Asset) (parent : String × List String) :
    Except PyError Unit :=
  let capacity := fun id => ((byId.get? id).map Asset.capacityKw).getD 0
  if 0 < capacity parent.1 ∧ capacity parent.1 < (parent.2.map capacity).sum then
    throw (.valueError ("child capacity exceeds boundary " ++ parent.1))
  else pure ()

def validateGraph (assets : List Asset) (relationships : List Relationship) :
    Except PyError Unit := do
  let byId : Dict String Asset := .ofList (assets.map fun asset => (asset.id, asset))
  if byId.entries.length ≠ assets.length then
    throw (.valueError "duplicate asset ID")
  let edges ← relationships.foldlM (link byId)
    ⟨.empty, .ofList (assets.map fun asset => (asset.id, 0))⟩
  let roots := (edges.indegree.entries.filter fun kv => kv.2 = 0).map Prod.fst
  if drain edges assets.length roots edges.indegree 0 ≠ assets.length then
    throw (.valueError "topology contains a cycle")
  edges.children.entries.forM (checkCapacity byId)

end ComputeWeaver.Topology
