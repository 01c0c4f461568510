/-!
# Files

The texts that a command reads, by their paths (`Files`), and why one cannot be opened.  A path is
followed part by part from the working directory: a point stays where it is, two points lead out of
the directory, and through a file that is no directory no part leads anywhere
(`Files.ofDirectory`).
-/

namespace WorkloadTraits.CommandLine

/-- Why a file cannot be opened: the system's number, name and words for it. -/
structure OpenFault where
  code : Nat
  kind : String
  message : String
deriving DecidableEq

namespace OpenFault

/-- A fault by its number, with the words of the system. -/
def ofCode (code : Nat) (message : String) : OpenFault :=
  let kind :=
    match code with
    | 2 => "NotFound"
    | 13 => "PermissionDenied"
    | 20 => "NotADirectory"
    | 21 => "IsADirectory"
    | 36 => "InvalidFilename"
    | _ => "Uncategorized"
  ⟨code, kind, message⟩

/-- There is no such file. -/
def notFound : OpenFault := ofCode 2 "No such file or directory"

/-- A path leads through a file. -/
def notDirectory : OpenFault := ofCode 20 "Not a directory"

/-- A path leads to a directory. -/
def isDirectory : OpenFault := ofCode 21 "Is a directory"

/-- A path or a part of it is longer than any can be. -/
def nameTooLong : OpenFault := ofCode 36 "File name too long"

end OpenFault

/-- The texts of files by their paths. -/
abbrev Files := String → Except OpenFault String

namespace Files

/-- How many bytes a name may take. -/
def nameLimit : Nat := 255

/-- How many bytes a path may take. -/
def pathLimit : Nat := 4095

/-- What a part of a path leads to. -/
inductive Place
  /-- The working directory. -/
  | inside
  /-- A directory around it, of which nothing else is known. -/
  | outside
  | file (text : String)

/-- The place behind one more part of a path. -/
def Place.enter (files : List (String × String)) (place : Place) (part : String) :
    Except OpenFault Place :=
  match place with
  | .file _ => .error .notDirectory
  | .inside | .outside =>
    if part == "" || part == "." then .ok place
    else if part == ".." then .ok .outside
    else if nameLimit < part.utf8ByteSize then .error .nameTooLong
    else
      match place, files.lookup part with
      | .inside, some text => .ok (.file text)
      | _, _ => .error .notFound

/-- The files of a working directory, by their names. -/
def ofDirectory (files : List (String × String)) : Files := fun path => do
  if path == "" then throw .notFound
  if pathLimit < path.utf8ByteSize then throw .nameTooLong
  let start : Place := if path.startsWith "/" then .outside else .inside
  match ← (path.splitOn "/").foldlM (Place.enter files) start with
  | .file text => return text
  | .inside | .outside => throw .isDirectory

end Files

end WorkloadTraits.CommandLine
