import ContainerBuild.Files.Disk
import ContainerBuild.Text.Blank

/-
  This file defines how the members of an archive are named
  when it is listed. The field for a name holds a hundred
  ASCII characters and ends at a null; any other name is
  kept in a record of its own, without slashes at its end.

  Key definitions include:
    * `Member.listedName`
    * `Member.listed`
-/

namespace ContainerBuild

namespace Member

/- The length of the field for a name. -/
def fieldLength : Nat :=
  100

/- Whether a name fits the field. -/
def fitsField (cs : List Char) : Bool :=
  cs.length ≤ fieldLength && cs.all (fun c => c.toNat < 128)

/- The name that a member is listed with. -/
def listedName (name : String) : String :=
  let cs := name.toList
  if fitsField cs then
    String.ofList (cs.takeWhile (fun c => c != '\x00'))
  else
    String.ofList (Text.dropEnd (fun c => c = '/') cs)

/- A member as it is listed. -/
def listed (m : Member) : Member :=
  (listedName m.1, m.2)

end Member

end ContainerBuild
