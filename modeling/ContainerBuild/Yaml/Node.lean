import ContainerBuild.Yaml.Cursor
import ContainerBuild.Yaml.Tag

/-
  This file defines the nodes of a YAML document: scalars,
  sequences and mappings with their tags. The nodes of a
  document are numbered, and collections hold the numbers of
  their parts, so that an alias is the same node once more,
  also within the node it stands for.

  Key definitions include:
    * `Node`
    * `Graph`
    * `Graph.add`
    * `Graph.put`
    * `Graph.fieldsOf`
    * `Graph.text`
-/

namespace ContainerBuild.Yaml

------------------------------------------------------------
-- Nodes
------------------------------------------------------------

/- A node; its parts are given by their numbers. -/
inductive Node
  | scalar (tag : Tag) (text : List Char)
  | sequence (tag : Tag) (items : List Nat)
  | mapping (tag : Tag) (fields : List (Nat × Nat))
deriving DecidableEq, Repr

namespace Node

/- The node that stands where nothing is written. -/
def absent : Node :=
  .scalar .null []

/- The tag of a node. -/
def tag : Node → Tag
  | scalar t _ => t
  | sequence t _ => t
  | mapping t _ => t

/- The node with another tag. -/
def withTag
    (t : Tag) : Node → Node
  | scalar _ cs => scalar t cs
  | sequence _ items => sequence t items
  | mapping _ fields => mapping t fields

/- The fields of a mapping. -/
def fields : Node → List (Nat × Nat)
  | mapping _ fs => fs
  | _ => []

/- Whether a node is a mapping. -/
def isMapping : Node → Bool
  | mapping _ _ => true
  | _ => false

end Node

------------------------------------------------------------
-- Graphs
------------------------------------------------------------

/- The nodes of a document, by number. -/
structure Graph where
  nodes : Array Node
deriving DecidableEq, Repr

namespace Graph

/- No nodes. -/
def empty : Graph :=
  ⟨#[]⟩

/- The node with a number. -/
def get
    (g : Graph)
    (id : Nat) : Node :=
  g.nodes.getD id Node.absent

/- The number that the next node gets. -/
def next (g : Graph) : Nat :=
  g.nodes.size

/- Add a node. -/
def add
    (g : Graph)
    (n : Node) : Graph :=
  ⟨g.nodes.push n⟩

/- Replace the node with a number. -/
def put
    (g : Graph)
    (id : Nat)
    (n : Node) : Graph :=
  ⟨g.nodes.setIfInBounds id n⟩

/- The tag of the node with a number. -/
def tagOf
    (g : Graph)
    (id : Nat) : Tag :=
  (g.get id).tag

/- Give another tag to the node with a number. -/
def retag
    (g : Graph)
    (id : Nat)
    (t : Tag) : Graph :=
  g.put id ((g.get id).withTag t)

/- The fields of the mapping with a number. -/
def fieldsOf
    (g : Graph)
    (id : Nat) : List (Nat × Nat) :=
  (g.get id).fields

/- Replace the fields of the node with a number. -/
def withFields
    (g : Graph)
    (id : Nat)
    (fs : List (Nat × Nat)) : Graph :=
  g.put id (.mapping (g.tagOf id) fs)

/- A node that was added last is found. -/
theorem get_add_next
    (g : Graph)
    (n : Node) :
    (g.add n).get g.next = n := by
  simp [get, add, next]

------------------------------------------------------------
-- Texts
------------------------------------------------------------

/-
  The text of a scalar. A mapping stands for the scalar in
  its value field.
-/
def text
    (fuel : Nat)
    (g : Graph)
    (id : Nat) : Except Fault (List Char) :=
  match fuel with
  | 0 => .error .tooDeep
  | n + 1 =>
      match g.get id with
      | .scalar _ cs => .ok cs
      | .sequence _ _ => .error .malformed
      | .mapping _ fields =>
          match fields.find?
              (fun f => g.tagOf f.1 = .value) with
          | some f => text n g f.2
          | none => .error .malformed

end Graph

end ContainerBuild.Yaml
