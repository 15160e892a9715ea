import MeteredHttp.SystemError

/-!
# Files

The files around the program, as far as it looks at them: for the body of a request and for keys
and certificates.

* `Files.find` follows a path.
-/

namespace MeteredHttp

/-- What a path can lead to. -/
inductive FileNode where
  | regular (content : Bytes)
  | directory
  /-- A named pipe nobody writes to. -/
  | pipe
  deriving DecidableEq

/-- The files below the working directory, each under the path that leads to it.  A directory that
no path leads to does not exist. -/
structure Files where
  entries : List (Bytes × FileNode) := []

namespace Files

/-- The longest name a directory can hold. -/
def longestName : Nat := 255

/-- The longest path. -/
def longestPath : Nat := 4095

/-- The names in a path that lead somewhere else. -/
def names (path : Bytes) : List Bytes :=
  (Bytes.fields 47 path).filter fun name => name ≠ [] ∧ name ≠ utf8 "."

/-- What the names of a path lead to from the working directory, one after the other. -/
def node? (files : Files) (path : List Bytes) : Option FileNode :=
  (files.entries.find? fun entry => names entry.1 = path).map (·.2)

/-- Follows the names of a path from the directory `inside` the working directory, or from one
outside of it, `above` levels away, where nothing is known to exist.  Every name but the last must
lead to a directory. -/
def walk (files : Files) (above : Nat) (inside : List Bytes) : List Bytes → Except Int32 FileNode
  | [] => .ok .directory
  | name :: rest =>
    if name = [] ∨ name = utf8 "." then walk files above inside rest
    else if name = utf8 ".." then
      if inside = [] then walk files (above + 1) [] rest
      else walk files above inside.dropLast rest
    else if longestName < name.length then .error SystemError.nameTooLong
    else if above ≠ 0 then .error SystemError.noSuchFile
    else
      match files.node? (inside ++ [name]) with
      | none => .error SystemError.noSuchFile
      | some .directory => walk files above (inside ++ [name]) rest
      | some node => if rest = [] then .ok node else .error SystemError.notADirectory

/-- Whether a path starts at the root and not in the working directory. -/
def isAbsolute (path : Bytes) : Bool := path.head? = some 47

/-- What a path leads to, or the error number of the attempt.  A path ends at its first NUL
byte. -/
def find (files : Files) (path : Bytes) : Except Int32 FileNode :=
  let path := path.untilNul
  if path = [] then .error SystemError.noSuchFile
  else if longestPath < path.length then .error SystemError.nameTooLong
  else files.walk (if isAbsolute path then 1 else 0) [] (Bytes.fields 47 path)

/-- Whether a path leads to a regular file. -/
def isRegular (files : Files) (path : Bytes) : Bool :=
  match files.find path with
  | .ok (.regular _) => true
  | _ => false

end Files

end MeteredHttp
