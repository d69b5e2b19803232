import ContainerBuild.Yaml.Layout
import ContainerBuild.Yaml.Leaf
import ContainerBuild.Yaml.Merge

/-
  This file defines YAML documents: what the root holds, one
  level deep. Everything below it is settled as well, each
  node once and level by level, so that the fault of a
  higher level prevails.

  Key definitions include:
    * `Leaf`
    * `Settling`
    * `Settling.settle`
    * `Settling.enter`
    * `Document`
    * `Document.ofText`
-/

namespace ContainerBuild.Yaml

open ContainerBuild.Field

------------------------------------------------------------
-- Leaves
------------------------------------------------------------

/- What a node is: a scalar value, or a collection. -/
inductive Leaf
  | scalar (s : Scalar)
  | collection
deriving DecidableEq, Repr

/- The scalar of a leaf; a collection is none. -/
def Leaf.toScalar : Leaf → Scalar
  | scalar s => s
  | collection => .other

/- What a node with a tag for texts is. -/
def Graph.scalarAt
    (g : Graph)
    (id : Nat) : Except Fault Scalar :=
  match g.text Graph.maxMerges id with
  | .error e => .error e
  | .ok cs =>
      match g.get id with
      | .mapping .moment _ => .error .noScalar
      | node => scalarValue node.tag cs

/- What a node is, its parts not looked at. -/
def Graph.leafAt
    (g : Graph)
    (id : Nat) : Except Fault Leaf :=
  let tag := g.tagOf id
  if tag.isScalar then
    (g.scalarAt id).map Leaf.scalar
  else if tag = .merge || tag = .value || tag = .unknown then
    .error .malformed
  else
    .ok .collection

------------------------------------------------------------
-- Settling
------------------------------------------------------------

/-
  A document while its nodes are settled: what those that
  were seen are, and the collections whose parts were not
  yet looked at, the latest first.
-/
structure Settling where
  graph : Graph
  leaves : Array (Option Leaf)
  pending : List Nat

/- Something that was settled, and what is left to do. -/
abbrev Settled (α : Type) :=
  Except Fault (α × Settling)

namespace Settling

/- No node has been seen. -/
def start (g : Graph) : Settling :=
  ⟨g, Array.replicate g.next none, []⟩

/- What a node is, if it was seen. -/
def leaf?
    (s : Settling)
    (id : Nat) : Option Leaf :=
  s.leaves.getD id none

/- Note what a node is. -/
def note
    (s : Settling)
    (id : Nat)
    (l : Leaf) : Settling :=
  { s with
    leaves := s.leaves.setIfInBounds id (some l)
    pending :=
      if l = .collection then id :: s.pending
      else s.pending }

/- Settle what a node is; it stays that ever after. -/
def settle
    (s : Settling)
    (id : Nat) : Settled Leaf :=
  match s.leaf? id with
  | some l => .ok (l, s)
  | none =>
      match s.graph.leafAt id with
      | .error e => .error e
      | .ok l => .ok (l, s.note id l)

/- Settle nodes. -/
def settleAll
    (s : Settling) : List Nat → Except Fault Settling
  | [] => .ok s
  | id :: rest =>
      match s.settle id with
      | .error e => .error e
      | .ok (_, s') => s'.settleAll rest

/- Settle fields. A collection cannot be a key. -/
def settleFields
    (s : Settling) : Fields → Except Fault Settling
  | [] => .ok s
  | (k, v) :: rest =>
      match s.settle k with
      | .error e => .error e
      | .ok (.collection, _) => .error .malformed
      | .ok (.scalar _, s') =>
          match s'.settle v with
          | .error e => .error e
          | .ok (_, s'') => s''.settleFields rest

/- Settle entries, which are mappings of a single field. -/
def settleEntries
    (s : Settling) : List Nat → Except Fault Settling
  | [] => .ok s
  | id :: rest =>
      match s.graph.get id with
      | .mapping _ [(k, v)] =>
          match s.settleAll [k, v] with
          | .error e => .error e
          | .ok s' => s'.settleEntries rest
      | _ => .error .malformed

/- The parts of a collection. -/
inductive Parts
  | items (ids : List Nat)
  | fields (fs : Fields)

/- Settle the parts of a mapping after merging it. -/
def enterMapping
    (s : Settling)
    (id : Nat) : Settled Parts :=
  match s.graph.merge id with
  | .error e => .error e
  | .ok g =>
      match { s with graph := g }.settleFields
          (g.fieldsOf id) with
      | .error e => .error e
      | .ok s' => .ok (.fields (g.fieldsOf id), s')

/- Settle the parts of a sequence, which may be entries. -/
def enterSequence
    (s : Settling)
    (areEntries : Bool)
    (ids : List Nat) : Settled Parts :=
  let result :=
    if areEntries then
      s.settleEntries ids
    else
      s.settleAll ids
  match result with
  | .error e => .error e
  | .ok s' => .ok (.items ids, s')

/- Settle the parts of a collection that fits its tag. -/
def enter
    (s : Settling)
    (id : Nat) : Settled Parts :=
  match s.graph.get id with
  | .scalar _ _ => .error .malformed
  | .sequence tag ids =>
      if tag = .sequence then
        s.enterSequence false ids
      else if tag = .orderedMapping || tag = .pairs then
        s.enterSequence true ids
      else
        .error .malformed
  | .mapping tag _ =>
      if tag = .mapping || tag = .set then
        s.enterMapping id
      else
        .error .malformed

/- Settle the parts of collections. -/
def enterAll
    (s : Settling) : List Nat → Except Fault Settling
  | [] => .ok s
  | id :: rest =>
      match s.enter id with
      | .error e => .error e
      | .ok (_, s') => s'.enterAll rest

/- Settle all that is below the pending collections. -/
def finish
    (fuel : Nat)
    (s : Settling) : Except Fault Settling :=
  match fuel with
  | 0 => .ok s
  | n + 1 =>
      if s.pending = [] then
        .ok s
      else
        match { s with pending := [] }.enterAll
            s.pending.reverse with
        | .error e => .error e
        | .ok s' => finish n s'

/- The scalar that a settled node is. -/
def scalarOf
    (s : Settling)
    (id : Nat) : Scalar :=
  ((s.leaf? id).map Leaf.toScalar).getD .other

end Settling

------------------------------------------------------------
-- Documents
------------------------------------------------------------

/- What the root of a document holds. -/
inductive Document
  | scalar (s : Scalar)
  | list (isEmpty : Bool)
  | fields (entries : List (Scalar × Scalar))

namespace Document

/- What a root with these parts holds. -/
def ofParts
    (tag : Tag)
    (s : Settling)
    (parts : Settling.Parts) : Document :=
  match parts with
  | .items ids => .list ids.isEmpty
  | .fields fs =>
      if tag = .set then
        .list fs.isEmpty
      else
        .fields (fs.map
          (fun f => (s.scalarOf f.1, s.scalarOf f.2)))

/- The document with a root that is a collection. -/
def ofCollection
    (id : Nat)
    (s : Settling) : Except Fault Document :=
  match { s with pending := [] }.enter id with
  | .error e => .error e
  | .ok (parts, s') =>
      match s'.finish (s.graph.next + 1) with
      | .error e => .error e
      | .ok done =>
          .ok (ofParts (s.graph.tagOf id) done parts)

/- The document with a root. -/
def ofGraph
    (g : Graph)
    (root : Nat) : Except Fault Document :=
  match (Settling.start g).settle root with
  | .error e => .error e
  | .ok (.scalar v, _) => .ok (.scalar v)
  | .ok (.collection, s) => ofCollection root s

/- The document that a text holds. -/
def ofText (cs : List Char) : Except Fault Document :=
  match Graph.ofTokens (tokens cs) with
  | .error e => .error e
  | .ok (g, root) => ofGraph g root

end Document

end ContainerBuild.Yaml
