import ContainerBuild.Shell.Quoting
import ContainerBuild.Text.Split

/-
  This file defines the tokens of shell scripts. Documents
  are written below the line that asks for them, so they are
  read at its end, and then put where they are asked for. A
  fault in the text is a token too: what stands before it
  can still run.

  Key definitions include:
    * `Token`
    * `Lexeme`
    * `takeDocuments`
    * `lexemesFrom`
    * `settle`
    * `lexemes`
-/

namespace ContainerBuild.Shell

open Text

------------------------------------------------------------
-- Tokens
------------------------------------------------------------

/- The signs between commands. -/
inductive Sign
  | andIf
  | orIf
  | semicolon
  | doubleSemicolon
  | ampersand
  | bar
  | leftParen
  | rightParen
deriving DecidableEq, Repr

/- The text of a sign. -/
def Sign.text : Sign → String
  | andIf => "&&"
  | orIf => "||"
  | semicolon => ";"
  | doubleSemicolon => ";;"
  | ampersand => "&"
  | bar => "|"
  | leftParen => "("
  | rightParen => ")"

/- What an arrow asks for; a word follows it. -/
inductive Arrow
  | read
  | write
  | append
  | update
  | copy
  | document (strips : Bool)
deriving DecidableEq, Repr

/- A token of a script. -/
inductive Token
  | word (w : Word)
  | sign (s : Sign)
  | newline (documents : List Word)
  | arrow (channel : Nat) (a : Arrow)
  | document (channel : Nat) (body : Word)
  | ending
  | broken (f : Fault)
deriving DecidableEq, Repr

/- A token, and the line on which it has been read. -/
structure Lexeme where
  token : Token
  line : Nat
deriving DecidableEq, Repr

------------------------------------------------------------
-- Signs
------------------------------------------------------------

/- The sign at the start of characters, if there is one. -/
def readSeparator? (cs : List Char) : Option (Scanned Sign) :=
  match cs with
  | '&' :: '&' :: _ => some ⟨.andIf, 2⟩
  | '&' :: _ => some ⟨.ampersand, 1⟩
  | '|' :: '|' :: _ => some ⟨.orIf, 2⟩
  | '|' :: _ => some ⟨.bar, 1⟩
  | ';' :: ';' :: _ => some ⟨.doubleSemicolon, 2⟩
  | ';' :: _ => some ⟨.semicolon, 1⟩
  | '(' :: _ => some ⟨.leftParen, 1⟩
  | ')' :: _ => some ⟨.rightParen, 1⟩
  | _ => none

/- The arrow at the start of characters, if there is one. -/
def readHead? (cs : List Char) : Option (Scanned Arrow) :=
  match cs with
  | '<' :: '<' :: '-' :: _ => some ⟨.document true, 3⟩
  | '<' :: '<' :: _ => some ⟨.document false, 2⟩
  | '<' :: '&' :: _ => some ⟨.copy, 2⟩
  | '<' :: '>' :: _ => some ⟨.update, 2⟩
  | '<' :: _ => some ⟨.read, 1⟩
  | '>' :: '>' :: _ => some ⟨.append, 2⟩
  | '>' :: '&' :: _ => some ⟨.copy, 2⟩
  | '>' :: '|' :: _ => some ⟨.write, 2⟩
  | '>' :: _ => some ⟨.write, 1⟩
  | _ => none

/- The channel of an arrow that names none. -/
def usualChannel (cs : List Char) : Nat :=
  if cs.head? = some '<' then 0 else 1

/- An arrow with its channel, which is a single digit. -/
def readArrow? (cs : List Char) : Option (Scanned Token) :=
  match cs with
  | [] => none
  | d :: rest =>
      if isAsciiDigit d then
        (readHead? rest).map
          (fun a => ⟨.arrow (ofDigits [d]) a.value, a.used + 1⟩)
      else
        (readHead? cs).map
          (fun a => ⟨.arrow (usualChannel cs) a.value, a.used⟩)

------------------------------------------------------------
-- Documents
------------------------------------------------------------

/- A document that is asked for: how its last line reads. -/
structure Request where
  strips : Bool
  quoted : Bool
  mark : List Char
deriving DecidableEq, Repr

namespace Request

/- The characters of a piece of a mark. -/
def pieceChars : Piece → List Char
  | .literal _ cs => cs
  | .parameter _ name _ _ => '$' :: name
  | .command _ _ text => text
  | .arithmetic _ text => text

/- Whether a piece of a mark is quoted. -/
def isQuotedPiece : Piece → Bool
  | .literal q _ => q
  | _ => false

/- The request for a document that ends with a word. -/
def ofWord
    (strips : Bool)
    (w : Word) : Request :=
  ⟨strips, w.any isQuotedPiece, w.flatMap pieceChars⟩

/- A line as it counts for a document. -/
def line
    (r : Request)
    (cs : List Char) : List Char :=
  if r.strips then
    cs.dropWhile (fun c => c = '\t')
  else
    cs

/- The characters of a document, and how many were used. -/
def body
    (r : Request)
    (lines : List (List Char)) : Scanned (List Char) :=
  match lines with
  | [] => ⟨[], 0⟩
  | [l] =>
      if r.line l = r.mark then
        ⟨[], l.length⟩
      else
        ⟨r.line l, l.length⟩
  | l :: more =>
      if r.line l = r.mark then
        ⟨[], l.length + 1⟩
      else
        let rest := r.body more
        ⟨r.line l ++ '\n' :: rest.value,
          l.length + 1 + rest.used⟩

/- The word that a document is. -/
def word
    (r : Request)
    (line : Nat)
    (cs : List Char) : Except Fault Word :=
  if r.quoted then
    .ok [.literal true cs]
  else
    match readText .document line cs with
    | .error e => .error e
    | .ok w => .ok (Word.cons (.literal true []) w)

end Request

/- The documents at the start of characters. -/
def takeDocuments
    (line : Nat)
    (rs : List Request)
    (cs : List Char) : Except Fault (Scanned (List Word)) :=
  match rs with
  | [] => .ok ⟨[], 0⟩
  | r :: more =>
      let b := r.body (splitAll '\n' cs)
      match r.word line b.value with
      | .error e => .error e
      | .ok w =>
          let next := line + countLines (cs.take b.used)
          match takeDocuments next more (cs.drop b.used) with
          | .error e => .error e
          | .ok ws => .ok ⟨w :: ws.value, b.used + ws.used⟩

------------------------------------------------------------
-- Lines
------------------------------------------------------------

/-
  What is asked for: documents below the line, and whether
  the next word is the mark of one, and its tabs are
  stripped.
-/
structure Wanted where
  documents : List Request
  mark : Option Bool
deriving DecidableEq, Repr

namespace Wanted

/- Nothing is asked for. -/
def nothing : Wanted :=
  ⟨[], none⟩

/- Take note of a word. -/
def noteWord
    (d : Wanted)
    (w : Word) : Wanted :=
  match d.mark with
  | none => d
  | some strips =>
      ⟨d.documents ++ [Request.ofWord strips w], none⟩

/- Take note of an arrow. -/
def noteArrow
    (d : Wanted)
    (t : Token) : Wanted :=
  match t with
  | .arrow _ (.document strips) => ⟨d.documents, some strips⟩
  | _ => ⟨d.documents, none⟩

end Wanted

/- The tokens of a script, and what ends them. -/
def lexemesFrom
    (line : Nat)
    (d : Wanted)
    (last : Token)
    (cs : List Char) : List Lexeme :=
  match cs with
  | [] => [⟨last, line⟩]
  | c :: rest =>
      if isGap c then
        lexemesFrom line d last rest
      else if c = '\\' && rest.head? = some '\n' then
        lexemesFrom (line + 1) d last (rest.drop 1)
      else if c = '#' then
        lexemesFrom line d last
          (rest.drop
            (rest.takeWhile (fun x => x != '\n')).length)
      else if c = '\n' then
        match takeDocuments (line + 1) d.documents rest with
        | .error f => [⟨.broken f, line + 1⟩]
        | .ok ws =>
            let lines := countLines (rest.take ws.used)
            ⟨.newline ws.value, line + 1⟩
              :: lexemesFrom (line + 1 + lines) .nothing last
                (rest.drop ws.used)
      else
        match readSeparator? (c :: rest) with
        | some s =>
            ⟨.sign s.value, line⟩
              :: lexemesFrom line ⟨d.documents, none⟩ last
                (rest.drop (s.used - 1))
        | none =>
            match readArrow? (c :: rest) with
            | some a =>
                ⟨a.value, line⟩
                  :: lexemesFrom line (d.noteArrow a.value) last
                    (rest.drop (a.used - 1))
            | none =>
                match readWord line (c :: rest) with
                | .error f =>
                    [⟨.broken f,
                      line + countLines (c :: rest)⟩]
                | .ok w =>
                    let next := line
                      + countLines ((c :: rest).take w.used)
                    ⟨.word w.value, next⟩
                      :: lexemesFrom next (d.noteWord w.value)
                        last (rest.drop (w.used - 1))
termination_by cs.length
decreasing_by
  all_goals simp only [List.length_drop, List.length_cons]
  all_goals omega

------------------------------------------------------------
-- Settling
------------------------------------------------------------

/- The documents in tokens, in order. -/
def documentsOf (ts : List Lexeme) : List Word :=
  ts.flatMap
    (fun t =>
      match t.token with
      | .newline ws => ws
      | _ => [])

/- Put documents where they are asked for. -/
def settle
    (ws : List Word)
    (ts : List Lexeme) : List Lexeme :=
  match ts with
  | ⟨.arrow channel (.document _), _⟩
      :: ⟨.word _, line⟩ :: rest =>
      let body : Word := ws.headD [.literal true []]
      ⟨.document channel body, line⟩ :: settle (ws.drop 1) rest
  | t :: rest => t :: settle ws rest
  | [] => []

/- The tokens of a script from a line on. -/
def lexemes
    (line : Nat)
    (last : Token)
    (cs : List Char) : List Lexeme :=
  let ts := lexemesFrom line .nothing last cs
  settle (documentsOf ts) ts

end ContainerBuild.Shell
