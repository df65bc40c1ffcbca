import ActionGraph.Number.Binary32
import ActionGraph.Json.Basic

/-!
# Embedding vectors

Vectors in single precision and their cosine similarity, computed in the
order of the components.
-/

namespace ActionGraph.Embedding

abbrev Vector := List Binary32

namespace Vector

def toJson (v : Vector) : Json :=
  .arr (v.map Json.ofBinary32)

def dot (a b : Vector) : Binary32 :=
  (a.zip b).foldl (fun sum (x, y) => sum + x * y) ⟨0⟩

def squares (a : Vector) : Binary32 :=
  a.foldl (fun sum x => sum + x * x) ⟨0⟩

/--
The cosine of the angle between two vectors.  Vectors of different length,
and vectors one of which has no length, have none in common.
-/
def cosine (a b : Vector) : Binary32 :=
  if a.length ≠ b.length ∨ a.isEmpty then ⟨0⟩
  else
    let denominator := a.squares.sqrt * b.squares.sqrt
    if denominator.magnitude = 0 then ⟨0⟩ else dot a b / denominator

end Vector

end ActionGraph.Embedding
