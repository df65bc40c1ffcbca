import ActionGraph.Json.Basic
import ActionGraph.Text.Split

/-!
# Paths into JSON values and recursive merging

A path is a text of segments between dots.  Empty segments are skipped, a
segment selects a field of an object or an item of an array, and a path that
ends at null leads nowhere.  A merge goes into objects on both sides and
otherwise takes the patch.
-/

namespace ActionGraph.Json

def segments (path : String) : List (List Char) :=
  (Text.pieces '.' path.toList).filter fun segment => !segment.isEmpty

def child? (segment : List Char) : Json → Option Json
  | .obj fields => Entries.find? (String.ofList segment) fields
  | .arr items => (Text.index? segment).bind fun i => items[i]?
  | _ => none

def walk? : List (List Char) → Json → Option Json
  | [], value => some value
  | segment :: rest, value => (value.child? segment).bind (walk? rest)

/-- The value, unless it is null. -/
def present? (value : Json) : Option Json :=
  if value.isNull then none else some value

/-- The value at a path, unless it is null. -/
def resolve? (root : Json) (path : String) : Option Json :=
  (walk? (segments path) root).bind present?

mutual

def merge (target : Json) : Json → Json
  | .obj patch =>
      match target with
      | .obj fields => .obj (mergeFields fields patch)
      | _ => .obj patch
  | patch => patch

def mergeFields (fields : List (String × Json)) :
    List (String × Json) → List (String × Json)
  | [] => fields
  | (key, patch) :: rest =>
      let value := match Entries.find? key fields with
        | some old => merge old patch
        | none => patch
      mergeFields (Entries.insert key value fields) rest

end

end ActionGraph.Json
