import ActionGraph.Files

/-!
# Directories for rehearsals

A directory holds texts under relative paths.  A path is walked part by part:
every part but the last has to lead to a directory.
-/

namespace ActionGraph.Rehearsal

/-- The parts of a path that name something. -/
abbrev Parts :=
  List (List Char)

/-- The files below a directory. -/
structure Directory where
  files : List (Parts × FileText)

namespace Directory

def isIdle (part : List Char) : Bool :=
  part.isEmpty || part == ['.']

def ofFiles (files : List (String × FileText)) : Directory :=
  ⟨files.map fun (path, text) =>
    ((Text.pieces '/' path.toList).filter fun part => !isIdle part, text)⟩

/-- Where a walk has come to. -/
inductive Place where
  /-- A directory below this one. -/
  | inside (parts : Parts)
  /-- A directory around this one. -/
  | outside
  | file (text : FileText)

def file? (directory : Directory) (parts : Parts) : Option FileText :=
  (directory.files.find? fun file => file.1 = parts).map (·.2)

def isDirectory (directory : Directory) (parts : Parts) : Bool :=
  directory.files.any fun file => parts.isPrefixOf file.1

/-- How many bytes a part of a path can have. -/
def nameLimit : Nat :=
  255

/-- How many bytes a path can have. -/
def pathLimit : Nat :=
  4095

def walk (directory : Directory) (place : Place) (part : List Char) : Except FileFault Place :=
  match place with
  | .file _ => .error .astray
  | .outside =>
      if isIdle part || part == ['.', '.'] then .ok .outside else .error .missing
  | .inside parts =>
      if isIdle part then .ok place
      else if part = ['.', '.'] then
        if parts.isEmpty then .ok .outside else .ok (.inside parts.dropLast)
      else if nameLimit < (String.ofList part).utf8ByteSize then .error .tooLong
      else
        match directory.file? (parts ++ [part]) with
        | some text => .ok (.file text)
        | none =>
            if directory.isDirectory (parts ++ [part]) then .ok (.inside (parts ++ [part]))
            else .error .missing

def read (directory : Directory) (path : String) : FileText := do
  if path.isEmpty then throw .missing
  if pathLimit < path.utf8ByteSize then throw .tooLong
  let start := if path.startsWith "/" then .outside else .inside []
  match ← (Text.pieces '/' path.toList).foldlM (walk directory) start with
  | .file text => text
  | .inside _ | .outside => throw .directory

end Directory

end ActionGraph.Rehearsal
