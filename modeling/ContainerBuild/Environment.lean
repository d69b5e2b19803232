/-
  This file defines environments, the variables that a
  process is given.

  Key definitions include:
    * `Environment`
    * `Environment.get?`
    * `Environment.set`
-/

namespace ContainerBuild

/- Variables and their values. -/
abbrev Environment :=
  List (String × String)

namespace Environment

/- The value of a variable. -/
def get?
    (env : Environment)
    (name : String) : Option String :=
  match env with
  | [] => none
  | v :: rest =>
      if v.1 = name then
        some v.2
      else
        get? rest name

/- Set a variable. -/
def set
    (env : Environment)
    (name value : String) : Environment :=
  match env with
  | [] => [(name, value)]
  | v :: rest =>
      if v.1 = name then
        (name, value) :: rest
      else
        v :: set rest name value

/- A variable has the value that was set last. -/
theorem get?_set
    (env : Environment)
    (name other value : String) :
    (env.set name value).get? other =
      if name = other then
        some value
      else
        env.get? other := by
  induction env with
  | nil => simp [set, get?]
  | cons v rest ih =>
      by_cases h : v.1 = name
      · by_cases ho : name = other
        · simp [set, h, ho, get?]
        · simp [set, h, ho, get?]
      · by_cases ho : name = other
        · subst ho
          simp [set, h, get?, ih]
        · simp [set, h, ho, get?, ih]

/- Set several variables, one after the other. -/
def setAll
    (env : Environment)
    (more : List (String × String)) : Environment :=
  more.foldl (fun e v => e.set v.1 v.2) env

end Environment

end ContainerBuild
