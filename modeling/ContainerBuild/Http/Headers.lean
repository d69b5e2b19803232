import ContainerBuild.Text.Base64
import ContainerBuild.Text.Case
import ContainerBuild.Failure

/-
  This file defines the headers of requests and answers.
  The case of letters in their names does not count: setting
  a header replaces the one that is there, also its name.

  Key definitions include:
    * `Headers`
    * `Headers.get?`
    * `Headers.set`
    * `Headers.ofFields`
    * `Headers.authorize`
-/

namespace ContainerBuild

/- Names and values. -/
abbrev Headers :=
  List (String × String)

namespace Headers

/- A name without regard to the case of its letters. -/
def plainName (name : String) : List Char :=
  Text.lower name.toList

/- Whether two names are the same header. -/
def sameName (a b : String) : Bool :=
  plainName a == plainName b

/- The value of a header. -/
def get?
    (name : String) : Headers → Option String
  | [] => none
  | h :: rest =>
      if sameName h.1 name then
        some h.2
      else
        get? name rest

/- Set a header, in its place if it is there already. -/
def set
    (name value : String) : Headers → Headers
  | [] => [(name, value)]
  | h :: rest =>
      if sameName h.1 name then
        (name, value) :: rest
      else
        h :: set name value rest

/- A header has the value that was set last. -/
theorem get?_set_self
    (name value : String)
    (hs : Headers) :
    get? name (set name value hs) = some value := by
  induction hs with
  | nil => simp [set, get?, sameName]
  | cons h rest ih =>
      by_cases hn : sameName h.1 name = true
      · rw [set, if_pos hn]
        simp [get?, sameName]
      · rw [set, if_neg hn, get?, if_neg hn, ih]

/- The headers with given fields; the last value counts. -/
def ofFields (fields : List (String × String)) : Headers :=
  fields.foldl (fun hs f => set f.1 f.2 hs) []

------------------------------------------------------------
-- Credentials
------------------------------------------------------------

/- The octet of a character of Latin 1. -/
def latinOctet? (c : Char) : Option UInt8 :=
  if c.toNat < 256 then
    some (UInt8.ofNat c.toNat)
  else
    none

/- The octets of a text, if all its characters have one. -/
def latinOctets? (s : String) : Option (List UInt8) :=
  s.toList.mapM latinOctet?

/- The value that presents a user and a password. -/
def basicCredentials
    (user password : String) : Except Failure String :=
  match latinOctets? user, latinOctets? password with
  | some u, some p =>
      .ok ("Basic "
        ++ String.ofList (Text.base64 (u ++ 0x3A :: p)))
  | _, _ => .error .unencodable

/- Present a user, unless the name is empty. -/
def authorize
    (user password : String)
    (hs : Headers) : Except Failure Headers :=
  if user = "" then
    .ok hs
  else
    match basicCredentials user password with
    | .ok value => .ok (set "Authorization" value hs)
    | .error f => .error f

end Headers

end ContainerBuild
