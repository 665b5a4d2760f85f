import RowFilter.Text.Case
import RowFilter.Text.Split

/-!
# Paths

The text of a path without its empty and idle segments, and the format of a
document by the suffix of its name.
-/

namespace RowFilter
namespace Document

/-- The segments of a path that lead anywhere. -/
def pathSegments (path : String) : List String :=
  (Text.split '/' path).filter fun segment => segment ≠ "" && segment ≠ "."

/-- The slashes that a path starts with: none, one, or exactly two. -/
def pathRoot (path : String) : String :=
  match path.toList with
  | '/' :: '/' :: '/' :: _ => "/"
  | '/' :: '/' :: _ => "//"
  | '/' :: _ => "/"
  | _ => ""

/-- A path in its plain form. -/
def plainPath (path : String) : String :=
  let plain := pathRoot path ++ Text.join '/' (pathSegments path)
  if plain = "" then "." else plain

/-- The suffix of a name from its last point on; a point at either end starts none. -/
def suffixChars (name : List Char) : List Char :=
  match Text.splitChars '.' name with
  | first :: piece :: pieces =>
      let last := (piece :: pieces).getLastD []
      if last = [] || (first = [] && pieces = []) then [] else '.' :: last
  | _ => []

/-- The suffix of the last segment of a path. -/
def suffix (path : String) : String :=
  String.ofList (suffixChars ((pathSegments path).getLastD "").toList)

/-- The formats of documents. -/
inductive Format where
  /-- YAML. -/
  | yaml
  /-- JSON. -/
  | json
deriving DecidableEq, Repr

/-- The format of the document at a path. -/
def formatOf (path : String) : Format :=
  let lowered := Text.lower (suffix path)
  if lowered = ".yaml" ∨ lowered = ".yml" then .yaml else .json

/-- A text whose line breaks are all line feeds. -/
def plainBreaks : List Char → List Char
  | '\r' :: '\n' :: rest => '\n' :: plainBreaks rest
  | '\r' :: rest => '\n' :: plainBreaks rest
  | character :: rest => character :: plainBreaks rest
  | [] => []

end Document
end RowFilter
