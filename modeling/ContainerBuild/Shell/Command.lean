import ContainerBuild.Shell.Token

/-
  This file defines the commands of shell scripts: simple
  ones, which are words, and those that are made of others.
  The branches of a choice by patterns are a chain that ends
  with nothing.

  Key definitions include:
    * `Redirection`
    * `Simple`
    * `Command`
-/

namespace ContainerBuild.Shell

/- How a file is opened for a channel. -/
inductive Opening
  | reading
  | writing
  | appending
  | updating
deriving DecidableEq, Repr

/- Where a channel of a command leads. -/
inductive Redirection
  | file (channel : Nat) (opening : Opening) (target : Word)
  | copy (channel : Nat) (source : Word)
  | document (channel : Nat) (body : Word)
deriving DecidableEq, Repr

/- A simple command, and the line that it stands on. -/
structure Simple where
  line : Nat
  assignments : List (List Char × Word)
  words : List Word
  redirections : List Redirection
deriving DecidableEq, Repr

/- A command. -/
inductive Command
  | nothing
  | simple (s : Simple)
  | redirected (c : Command) (rs : List Redirection)
  | subshell (c : Command)
  | background (c : Command)
  | piped (left right : Command)
  | negated (c : Command)
  | both (left right : Command)
  | either (left right : Command)
  | sequence (left right : Command)
  | choice (test yes no : Command)
  | loop (until? : Bool) (test body : Command)
  | each
      (line : Nat)
      (name : List Char)
      (words : Option (List Word))
      (body : Command)
  | select (line : Nat) (subject : Word) (branches : Command)
  | branch (patterns : List Word) (body rest : Command)
  | define (name : List Char) (body : Command)
deriving DecidableEq, Repr

namespace Command

/- One command after another. -/
def followedBy
    (left right : Command) : Command :=
  if left = nothing then
    right
  else
    sequence left right

/- A command with redirections, if there are some. -/
def withRedirections
    (c : Command)
    (rs : List Redirection) : Command :=
  if rs = [] then
    c
  else
    redirected c rs

end Command

end ContainerBuild.Shell
