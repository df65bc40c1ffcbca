import ActionGraph.Text.Split

/-!
# Files

Files are looked up by their path.  A lookup gives the text of the file, or
says why there is none.
-/

namespace ActionGraph

inductive FileFault where
  | missing
  /-- The path leads through something that is no directory. -/
  | astray
  /-- The path, or a part of it, is longer than any path can be. -/
  | tooLong
  | directory
  /-- The bytes are no text. -/
  | encoding
  | other (text : String)
deriving DecidableEq, Repr

namespace FileFault

def message : FileFault → String
  | .missing => "No such file or directory (os error 2)"
  | .astray => "Not a directory (os error 20)"
  | .tooLong => "File name too long (os error 36)"
  | .directory => "Is a directory (os error 21)"
  | .encoding => "stream did not contain valid UTF-8"
  | .other text => text

def exists? : FileFault → Bool
  | .missing | .astray | .tooLong => false
  | .directory | .encoding | .other _ => true

end FileFault

abbrev FileText :=
  Except FileFault String

namespace FilePath

/-- The last part of a path, unless that leads upward. -/
def name? (path : String) : Option (List Char) :=
  let parts := (Text.pieces '/' path.toList).filter fun part => !part.isEmpty && part ≠ ['.']
  parts.getLast?.bind fun part => if part = ['.', '.'] then none else some part

/-- What follows the last dot of a name, unless the name begins with that dot. -/
def extension? (path : String) : Option (List Char) :=
  (name? path).bind fun name =>
    match Text.splitFirst? '.' name.reverse with
    | none => none
    | some (after, before) => if before.isEmpty then none else some after.reverse

end FilePath

end ActionGraph
