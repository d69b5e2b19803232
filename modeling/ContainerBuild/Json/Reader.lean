import ContainerBuild.Json.Token

/-
  This file defines the reading of JSON text: a machine that
  takes one token at a time and keeps the containers that
  are still open on a stack. What a text may be besides
  strict JSON: `NaN` and the two infinities are numbers.

  Key definitions include:
    * `Frame`
    * `Stage`
    * `step`
    * `run`
    * `read`
-/

namespace ContainerBuild.Json

------------------------------------------------------------
-- The machine
------------------------------------------------------------

/-
  A container that is still open: the items so far, last
  one first, or the fields so far and the name of the field
  whose value is being read.
-/
inductive Frame
  | array (done : List Value)
  | object (done : List (String × Value)) (name : String)

/- What the machine waits for. -/
inductive Stage
  | value
  | firstItem
  | firstName
  | name (done : List (String × Value))
  | colon (done : List (String × Value)) (name : String)
  | rest (v : Value)

/- A stage within open containers. -/
structure Machine where
  stage : Stage
  stack : List Frame

/- What one token leads to. -/
inductive Progress
  | continue (m : Machine)
  | finished (v : Value)
  | failed (fault : Fault)

/- A syntax fault at a token. -/
def failAt
    (problem : Problem)
    (t : Token) : Progress :=
  .failed (.syntaxAt problem t.offset)

/- Read the token that begins a value. -/
def beginValue
    (maxDepth : Nat)
    (stack : List Frame)
    (t : Token) : Progress :=
  match t.symbol with
  | .openArray =>
      if maxDepth ≤ stack.length then
        .failed .tooDeep
      else
        .continue ⟨.firstItem, .array [] :: stack⟩
  | .openObject =>
      if maxDepth ≤ stack.length then
        .failed .tooDeep
      else
        .continue ⟨.firstName, stack⟩
  | .text s => .continue ⟨.rest (.text s), stack⟩
  | .scalar v => .continue ⟨.rest v, stack⟩
  | .unreadable fault => .failed fault
  | _ => failAt .expectedValue t

/- Read the token that begins a field. -/
def beginField
    (done : List (String × Value))
    (stack : List Frame)
    (t : Token) : Progress :=
  match t.symbol with
  | .text s => .continue ⟨.colon done s, stack⟩
  | .unreadable (.syntaxAt problem offset) =>
      if problem = .expectedValue then
        failAt .expectedName t
      else
        .failed (.syntaxAt problem offset)
  | _ => failAt .expectedName t

/- Read the token after a complete value. -/
def afterValue
    (v : Value)
    (stack : List Frame)
    (t : Token) : Progress :=
  match stack with
  | [] =>
      match t.symbol with
      | .finish => .finished v
      | _ => failAt .extraData t
  | .array done :: outer =>
      match t.symbol with
      | .comma =>
          .continue ⟨.value, .array (v :: done) :: outer⟩
      | .closeArray =>
          .continue
            ⟨.rest (.array (v :: done).reverse), outer⟩
      | _ => failAt .expectedComma t
  | .object done name :: outer =>
      let fields := Fields.set name v done
      match t.symbol with
      | .comma => .continue ⟨.name fields, outer⟩
      | .closeObject =>
          .continue ⟨.rest (.object fields), outer⟩
      | _ => failAt .expectedComma t

/- Take one token. -/
def step
    (maxDepth : Nat)
    (m : Machine)
    (t : Token) : Progress :=
  match m.stage with
  | .value => beginValue maxDepth m.stack t
  | .firstItem =>
      match t.symbol, m.stack with
      | .closeArray, .array _ :: outer =>
          .continue ⟨.rest (.array []), outer⟩
      | _, _ => beginValue maxDepth m.stack t
  | .firstName =>
      match t.symbol with
      | .closeObject =>
          .continue ⟨.rest (.object []), m.stack⟩
      | _ => beginField [] m.stack t
  | .name done => beginField done m.stack t
  | .colon done name =>
      match t.symbol with
      | .colon =>
          .continue ⟨.value, .object done name :: m.stack⟩
      | _ => failAt .expectedColon t
  | .rest v => afterValue v m.stack t

/- Take the tokens one after the other. -/
def run
    (maxDepth : Nat)
    (m : Machine)
    (ts : List Token) : Except Fault Value :=
  match ts with
  | [] => .error (.syntaxAt .expectedValue 0)
  | t :: rest =>
      match step maxDepth m t with
      | .continue m' => run maxDepth m' rest
      | .finished v => .ok v
      | .failed fault => .error fault

------------------------------------------------------------
-- Reading
------------------------------------------------------------

/- Read a text within limits. -/
def readWithin
    (limits : Limits)
    (cs : List Char) : Except Fault Value :=
  if cs.head? = some '\uFEFF' then
    .error (.syntaxAt .byteOrderMark 0)
  else
    run limits.depth ⟨.value, []⟩ (tokens limits cs)

/- Read an ordinary document. -/
def read (cs : List Char) : Except Fault Value :=
  readWithin Limits.standard cs

end ContainerBuild.Json
