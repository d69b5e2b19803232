import ContainerBuild.Yaml.Node
import ContainerBuild.Yaml.Token

/-
  This file defines how the tokens of a YAML text lay out
  the nodes of a document. An alias stands for the node with
  its anchor. A fault among the tokens counts as soon as it
  is met, so whatever is wrong before it prevails.

  Key definitions include:
    * `Source`
    * `Properties`
    * `Layout`
    * `readNode`
    * `Graph.ofTokens`
-/

namespace ContainerBuild.Yaml

------------------------------------------------------------
-- Sources
------------------------------------------------------------

/-
  What is left to read, the anchors so far, what the handles
  of tags stand for, and the nodes that were read.
-/
structure Source where
  tokens : List Token
  anchors : List (List Char × Nat)
  handles : List (List Char × List Char)
  graph : Graph

/- Something that was read, and what is left behind it. -/
abbrev Reading (α : Type) :=
  Except Fault (α × Source)

namespace Source

/- What is left after some tokens. -/
def skip
    (s : Source)
    (n : Nat) : Source :=
  { s with tokens := s.tokens.drop n }

/- The next token. -/
def here (s : Source) : Option Token :=
  s.tokens.head?

/- Whether the next token is one of these. -/
def sees
    (s : Source)
    (ts : List Token) : Bool :=
  (s.here.map ts.contains).getD false

/- What is wrong if the next token does not fit. -/
def fault (s : Source) : Fault :=
  match s.here with
  | some (.broken f) => f
  | _ => .malformed

/- The node with an anchor. -/
def anchored?
    (s : Source)
    (name : List Char) : Option Nat :=
  (s.anchors.find? (fun a => a.1 = name)).map Prod.snd

/- Give an anchor to a node, if there is one. -/
def anchor
    (s : Source)
    (name : Option (List Char))
    (id : Nat) : Source :=
  match name with
  | none => s
  | some a => { s with anchors := (a, id) :: s.anchors }

/- Add a node, with an anchor if there is one. -/
def add
    (s : Source)
    (name : Option (List Char))
    (n : Node) : Nat × Source :=
  (s.graph.next,
    { s with graph := s.graph.add n }.anchor name
      s.graph.next)

/- Replace a node. -/
def put
    (s : Source)
    (id : Nat)
    (n : Node) : Source :=
  { s with graph := s.graph.put id n }

end Source

------------------------------------------------------------
-- Properties
------------------------------------------------------------

/-
  The anchor of a node and the full name of its tag. The tag
  of a single exclamation mark says no more than none.
-/
structure Properties where
  anchor : Option (List Char)
  tag : Option (List Char)

/- The properties that are written, and how many tokens. -/
structure Marks where
  anchor : Option (List Char)
  tag : Option (Option (List Char) × List Char)
  count : Nat

/- The properties before a node, in either order. -/
def marksOf (ts : List Token) : Except Fault Marks :=
  match ts with
  | .anchor a :: .tag h r :: _ =>
      .ok ⟨some a, some (h, r), 2⟩
  | .anchor _ :: .broken f :: _ => .error f
  | .anchor a :: _ => .ok ⟨some a, none, 1⟩
  | .tag h r :: .anchor a :: _ =>
      .ok ⟨some a, some (h, r), 2⟩
  | .tag _ _ :: .broken f :: _ => .error f
  | .tag h r :: _ => .ok ⟨none, some (h, r), 1⟩
  | _ => .ok ⟨none, none, 0⟩

/- The full name of a tag, if one is written. -/
def tagName
    (s : Source)
    (tag : Option (Option (List Char) × List Char)) :
    Except Fault (Option (List Char)) :=
  match tag with
  | none => .ok none
  | some (none, rest) => .ok (some rest)
  | some (some h, rest) =>
      match s.handles.find? (fun r => r.1 = h) with
      | none => .error .malformed
      | some r => .ok (some (r.2 ++ rest))

/- Whether an anchor is in use. -/
def isTaken
    (s : Source)
    (name : Option (List Char)) : Bool :=
  (name.map (fun a => (s.anchored? a).isSome)).getD false

/- Read the properties of a node. -/
def readProperties (s : Source) : Reading Properties :=
  match marksOf s.tokens with
  | .error e => .error e
  | .ok marks =>
      match tagName s marks.tag with
      | .error e => .error e
      | .ok name =>
          let rest := s.skip marks.count
          if isTaken s marks.anchor then
            .error rest.fault
          else
            .ok (⟨marks.anchor, name⟩, rest)

/- The tag of a scalar. -/
def scalarTag
    (p : Properties)
    (plain : Bool)
    (text : List Char) : Tag :=
  match p.tag with
  | none => if plain then Tag.ofPlain text else .text
  | some name =>
      if name = ['!'] then
        Tag.ofPlain text
      else
        Tag.ofName name

/- The tag of a collection. -/
def collectionTag
    (p : Properties)
    (usual : Tag) : Tag :=
  match p.tag with
  | none => usual
  | some name =>
      if name = ['!'] then
        usual
      else
        Tag.ofName name

------------------------------------------------------------
-- Reading
------------------------------------------------------------

/- How a collection is laid out. -/
inductive Layout
  | blockSequence
  | flatSequence
  | flowSequence
  | blockMapping
  | flowMapping

/- Whether a layout is that of a mapping. -/
def Layout.isMapping : Layout → Bool
  | blockMapping => true
  | flowMapping => true
  | _ => false

/-
  The layout that the next token begins, and how many tokens
  are its start. Block layouts need block context, the flat
  one, without a start, also a key before it.
-/
def layout?
    (block flat : Bool)
    (s : Source) : Option (Layout × Nat) :=
  match s.here with
  | some .blockEntry =>
      if flat then some (.flatSequence, 0) else none
  | some .flowSequenceStart => some (.flowSequence, 1)
  | some .flowMappingStart => some (.flowMapping, 1)
  | some .blockSequenceStart =>
      if block then some (.blockSequence, 1) else none
  | some .blockMappingStart =>
      if block then some (.blockMapping, 1) else none
  | _ => none

/- What may stand in place of a node in each layout. -/
def absentBefore (l : Layout) : List Token :=
  match l with
  | .blockSequence => [.blockEntry, .blockEnd]
  | .flatSequence => [.blockEntry, .key, .value, .blockEnd]
  | .flowSequence => [.value, .flowEntry, .flowSequenceEnd]
  | .blockMapping => [.key, .value, .blockEnd]
  | .flowMapping => [.value, .flowEntry, .flowMappingEnd]

/- The depth up to which documents may nest. -/
def maxDepth : Nat :=
  480

mutual

/-
  Read a node. `flat` says that block entries may follow
  without being indented deeper.
-/
def readNode
    (fuel depth : Nat)
    (block flat : Bool)
    (s : Source) : Reading Nat :=
  match fuel with
  | 0 => .error .malformed
  | n + 1 =>
      match s.here with
      | some (.alias name) =>
          match s.anchored? name with
          | none => .error .malformed
          | some id => .ok (id, s.skip 1)
      | _ =>
          match readProperties s with
          | .error e => .error e
          | .ok (p, s) =>
              match layout? block flat s with
              | some (l, size) =>
                  readCollection n depth p l (s.skip size)
              | none =>
                  match s.here with
                  | some (.scalar plain text) =>
                      .ok ((s.skip 1).add p.anchor
                        (.scalar (scalarTag p plain text)
                          text))
                  | some (.broken f) => .error f
                  | _ =>
                      if p.anchor = none && p.tag = none then
                        .error .malformed
                      else
                        .ok (s.add p.anchor
                          (.scalar (scalarTag p true []) []))

/- Read a collection after its start. -/
def readCollection
    (fuel depth : Nat)
    (p : Properties)
    (l : Layout)
    (s : Source) : Reading Nat :=
  match fuel, depth with
  | 0, _ => .error .malformed
  | _, 0 => .error .tooDeep
  | n + 1, d + 1 =>
      match s.add p.anchor Node.absent with
      | (id, s) =>
          if l.isMapping then
            let tag := collectionTag p .mapping
            match readFields n d l true
                (s.put id (.mapping tag [])) with
            | .error e => .error e
            | .ok (fields, s) =>
                .ok (id, s.put id (.mapping tag fields))
          else
            let tag := collectionTag p .sequence
            match readItems n d l true
                (s.put id (.sequence tag [])) with
            | .error e => .error e
            | .ok (items, s) =>
                .ok (id, s.put id (.sequence tag items))

/- Read a node that may be absent before some tokens. -/
def readOptional
    (fuel depth : Nat)
    (block flat : Bool)
    (stops : List Token)
    (s : Source) : Reading Nat :=
  match fuel with
  | 0 => .error .malformed
  | n + 1 =>
      if s.sees stops then
        .ok (s.add none Node.absent)
      else
        readNode n depth block flat s

/- Read the rest of a sequence. -/
def readItems
    (fuel depth : Nat)
    (l : Layout)
    (first : Bool)
    (s : Source) : Reading (List Nat) :=
  match fuel with
  | 0 => .error .malformed
  | n + 1 =>
      let more (r : Reading Nat) : Reading (List Nat) :=
        match r with
        | .error e => .error e
        | .ok (item, s) =>
            match readItems n depth l false s with
            | .error e => .error e
            | .ok (items, s) => .ok (item :: items, s)
      match l with
      | .flowSequence =>
          if s.sees [.flowSequenceEnd] then
            .ok ([], s.skip 1)
          else if !first && !s.sees [.flowEntry] then
            .error s.fault
          else
            let s := if first then s else s.skip 1
            if s.sees [.key] then
              match depth with
              | 0 => .error .tooDeep
              | d + 1 =>
                  match readField n d .flowSequence
                      (s.skip 1) with
                  | .error e => .error e
                  | .ok (field, s) =>
                      more (.ok (s.add none
                        (.mapping .mapping [field])))
            else if s.sees [.flowSequenceEnd] then
              .ok ([], s.skip 1)
            else
              more (readNode n depth false false s)
      | _ =>
          if s.sees [.blockEntry] then
            more (readOptional n depth true false
              (absentBefore l) (s.skip 1))
          else
            match l with
            | .flatSequence => .ok ([], s)
            | _ =>
                if s.sees [.blockEnd] then
                  .ok ([], s.skip 1)
                else
                  .error s.fault

/- Read the key and the value of a field after its mark. -/
def readField
    (fuel depth : Nat)
    (l : Layout)
    (s : Source) : Reading (Nat × Nat) :=
  match fuel with
  | 0 => .error .malformed
  | n + 1 =>
      let block :=
        match l with
        | .blockMapping => true
        | _ => false
      match readOptional n depth block block
          (absentBefore l) s with
      | .error e => .error e
      | .ok (k, s) =>
          match readValue n depth l s with
          | .error e => .error e
          | .ok (v, s) => .ok ((k, v), s)

/- Read the value of a field, which may be absent. -/
def readValue
    (fuel depth : Nat)
    (l : Layout)
    (s : Source) : Reading Nat :=
  match fuel with
  | 0 => .error .malformed
  | n + 1 =>
      if s.sees [.value] then
        match l with
        | .blockMapping =>
            readOptional n depth true true (absentBefore l)
              (s.skip 1)
        | _ =>
            readOptional n depth false false
              ((absentBefore l).drop 1) (s.skip 1)
      else
        .ok (s.add none Node.absent)

/- Read the rest of a mapping. -/
def readFields
    (fuel depth : Nat)
    (l : Layout)
    (first : Bool)
    (s : Source) : Reading (List (Nat × Nat)) :=
  match fuel with
  | 0 => .error .malformed
  | n + 1 =>
      let more (r : Reading (Nat × Nat)) :
          Reading (List (Nat × Nat)) :=
        match r with
        | .error e => .error e
        | .ok (field, s) =>
            match readFields n depth l false s with
            | .error e => .error e
            | .ok (fields, s) => .ok (field :: fields, s)
      match l with
      | .flowMapping =>
          if s.sees [.flowMappingEnd] then
            .ok ([], s.skip 1)
          else if !first && !s.sees [.flowEntry] then
            .error s.fault
          else
            let s := if first then s else s.skip 1
            if s.sees [.key] then
              more (readField n depth l (s.skip 1))
            else if s.sees [.flowMappingEnd] then
              .ok ([], s.skip 1)
            else
              match readNode n depth false false s with
              | .error e => .error e
              | .ok (k, s) =>
                  match s.add none Node.absent with
                  | (v, s) => more (.ok ((k, v), s))
      | _ =>
          if s.sees [.key] then
            more (readField n depth l (s.skip 1))
          else if s.sees [.blockEnd] then
            .ok ([], s.skip 1)
          else
            .error s.fault

end

------------------------------------------------------------
-- Documents
------------------------------------------------------------

/- The handles that need no directive. -/
def usualHandles : List (List Char × List Char) :=
  [(['!'], ['!']), (['!', '!'], tagStart)]

/-
  Read the directives before a document: one version, which
  must be of the first kind, and each handle once.
-/
def readDirectives
    (versioned : Bool)
    (handles : List (List Char × List Char))
    (ts : List Token) :
    Except Fault
      (List (List Char × List Char) × List Token) :=
  match ts with
  | .directive d :: rest =>
      match d with
      | .version major =>
          if versioned || major != 1 then
            .error .malformed
          else
            readDirectives true handles rest
      | .tagHandle h start =>
          if handles.any (fun r => r.1 = h) then
            .error .malformed
          else
            readDirectives versioned ((h, start) :: handles)
              rest
      | .other => readDirectives versioned handles rest
  | _ => .ok (handles, ts)

/- What is wrong if tokens do not start as they should. -/
def faultOf (ts : List Token) : Fault :=
  match ts with
  | .broken f :: _ => f
  | _ => .malformed

/- After a document, nothing but end marks may follow. -/
def endStream (ts : List Token) : Except Fault Unit :=
  match ts with
  | .documentEnd :: rest => endStream rest
  | .streamEnd :: _ => .ok ()
  | _ =>
      match readDirectives false [] ts with
      | .error e => .error e
      | .ok (_, rest) => .error (faultOf rest)

/- A document and the number of its root. -/
abbrev Rooted :=
  Graph × Nat

/- The document of a node, which ends the stream. -/
def endAfter
    (id : Nat)
    (s : Source) : Except Fault Rooted :=
  match endStream s.tokens with
  | .error e => .error e
  | .ok () => .ok (s.graph, id)

/- The start of a document with handles for tags. -/
def Source.start
    (handles : List (List Char × List Char))
    (ts : List Token) : Source :=
  ⟨ts, [], handles ++ usualHandles, Graph.empty⟩

/- Read the only node of a document. -/
def readRoot (s : Source) : Except Fault Rooted :=
  let fuel := 4 * s.tokens.length + 8
  match readNode fuel maxDepth true false s with
  | .error e => .error e
  | .ok (id, s) => endAfter id s

/- The document in which nothing is written. -/
def readNothing (s : Source) : Except Fault Rooted :=
  match s.add none Node.absent with
  | (id, s) => endAfter id s

/- Whether a document has no content here. -/
def endsDocument (t : Option Token) : Bool :=
  match t with
  | some (.directive _) => true
  | some .documentStart => true
  | some .documentEnd => true
  | some .streamEnd => true
  | _ => false

/- The only document in tokens. -/
def Graph.ofTokens
    (ts : List Token) : Except Fault Rooted :=
  match ts with
  | .streamEnd :: _ => readNothing (.start [] ts)
  | .directive _ :: _ | .documentStart :: _ =>
      match readDirectives false [] ts with
      | .error e => .error e
      | .ok (handles, .documentStart :: rest) =>
          let s := Source.start handles rest
          if endsDocument s.here then
            readNothing s
          else
            readRoot s
      | .ok (_, rest) => .error (faultOf rest)
  | _ => readRoot (.start [] ts)

end ContainerBuild.Yaml
