import ContainerBuild.Yaml.Node

/-
  This file defines the merging of mappings: a merge field
  brings the fields of another mapping, or of several, in
  front of the fields of its own mapping, which therefore
  prevail. A mapping that is merged is merged itself first.

  Key definitions include:
    * `Brought`
    * `bring`
    * `mergeFields`
    * `Graph.merge`
-/

namespace ContainerBuild.Yaml

------------------------------------------------------------
-- Bringing fields
------------------------------------------------------------

/- The fields of a mapping, by the numbers of their nodes. -/
abbrev Fields :=
  List (Nat × Nat)

/- How the mapping with a number is merged. -/
abbrev Merging :=
  Nat → Graph → Except Fault Graph

/- Fields that were brought, and the document after it. -/
abbrev Brought :=
  Except Fault (Fields × Graph)

/- The fields that mappings bring, those of the last first. -/
def bringAll
    (merge : Merging)
    (g : Graph) : List Nat → Brought
  | [] => .ok ([], g)
  | id :: rest =>
      if (g.get id).isMapping then
        match merge id g with
        | .error e => .error e
        | .ok g' =>
            match bringAll merge g' rest with
            | .error e => .error e
            | .ok (more, g'') =>
                .ok (more ++ g'.fieldsOf id, g'')
      else
        .error .malformed

/- The fields that a mapping or several of them bring. -/
def bring
    (merge : Merging)
    (id : Nat)
    (g : Graph) : Brought :=
  match g.get id with
  | .sequence _ items => bringAll merge g items
  | _ => bringAll merge g [id]

------------------------------------------------------------
-- Merging
------------------------------------------------------------

/-
  Go through the fields of a mapping, of which some are kept
  and some are still to be seen. A merge field is removed
  and brings its fields; a value mark is a text where it is
  a key. A mapping that brings itself is complete then.
-/
def mergeFields
    (merge : Merging)
    (id : Nat)
    (kept brought : Fields)
    (g : Graph) : Fields → Except Fault Graph
  | [] =>
      if brought = [] then
        .ok g
      else
        .ok (g.withFields id (brought ++ g.fieldsOf id))
  | (k, v) :: rest =>
      match g.tagOf k with
      | .merge =>
          match bring merge v
              (g.withFields id (kept ++ rest)) with
          | .error e => .error e
          | .ok (more, g') =>
              if g'.fieldsOf id = kept ++ rest then
                mergeFields merge id kept (brought ++ more)
                  g' rest
              else
                .ok (g'.withFields id
                  (brought ++ more ++ g'.fieldsOf id))
      | .value =>
          mergeFields merge id (kept ++ [(k, v)]) brought
            (g.retag k .text) rest
      | _ =>
          mergeFields merge id (kept ++ [(k, v)]) brought g
            rest

namespace Graph

/- The depth up to which merging may nest. -/
def maxMerges : Nat :=
  960

/- Merge the mapping with a number, up to a depth. -/
def mergeWithin
    (depth : Nat)
    (id : Nat)
    (g : Graph) : Except Fault Graph :=
  match depth with
  | 0 => .error .tooDeep
  | d + 1 =>
      mergeFields (mergeWithin d) id [] [] g (g.fieldsOf id)

/- Merge the mapping with a number. -/
def merge
    (g : Graph)
    (id : Nat) : Except Fault Graph :=
  mergeWithin maxMerges id g

end Graph

end ContainerBuild.Yaml
