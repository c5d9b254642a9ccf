import FormCheck.Settings
import FormCheck.Text.Split

namespace FormCheck.PlanFile

/-!
# Paths of plans files

A path is the names between slashes. Empty names and single dots lead nowhere
and are left out; two slashes at the beginning are not the same as one, but more
of them are.
-/

namespace Path

/-- The slashes that a path begins with, as far as they matter. -/
def root (characters : List Char) : String :=
  match characters.takeWhile (· = '/') with
  | [] => ""
  | [_, _] => "//"
  | _ => "/"

/-- The names of a path that lead somewhere. -/
def names (characters : List Char) : List String :=
  ((Text.splitAt '/' characters).map String.ofList).filter fun name =>
    name ≠ "" && name ≠ "."

/-- Names with slashes between them. -/
def joined : List String → String
  | [] => ""
  | [name] => name
  | name :: rest => name ++ "/" ++ joined rest

/-- The plain text of a path. -/
def normal (path : String) : String :=
  let text := root path.toList ++ joined (names path.toList)
  if text = "" then "." else text

example : normal "./no//such.yaml" = "no/such.yaml" := by decide +kernel

/-- The path that the settings give, or another one if they give none. -/
def chosen (settings : Settings) (otherwise : String) : Except Fault String :=
  match settings.plansPath with
  | .null => .ok otherwise
  | .text path => .ok (normal path)
  | _ => .error .notText

end Path

end FormCheck.PlanFile
