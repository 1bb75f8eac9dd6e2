import OpcodeTable.Bytes
import OpcodeTable.Fault
import OpcodeTable.Path

/-!
A place is the list of names that lead to it from the working directory down; a place above the working
directory starts with steps up, one under the root with a slash.
-/

set_option autoImplicit false

namespace OpcodeTable

structure Files where
  contents : List (List String × Bytes)
  directories : List (List String)

namespace Files

inductive Node where
  | file (content : Bytes)
  | directory

def none : Files := ⟨[], []⟩

def names (path : String) : List String := path.splitOn "/"

def start (path : String) : List String := if Path.isAbsolute path then ["/"] else []

def place (path : String) : List String :=
  start path ++ Path.follow (Path.isAbsolute path) [] (names path)

def isDirectory (files : Files) (place : List String) : Bool :=
  place.all (· == "..") || place == ["/"] || files.directories.any place.isPrefixOf
    || files.contents.any fun entry => place.isPrefixOf entry.1 && place != entry.1

def node (files : Files) (place : List String) : Except FileTrouble Node :=
  match files.contents.lookup place with
  | some content => .ok (.file content)
  | Option.none => if files.isDirectory place then .ok .directory else .error .missing

def above : List String → List String
  | [] => [".."]
  | ["/"] => ["/"]
  | name :: parent => if name == ".." then ".." :: name :: parent else parent

def longestName : Nat := 255

def longestPath : Nat := 4095

def zero : Char := Char.ofNat 0

-- Follows names one by one; the place reached so far has its last name first.
def follow (files : Files) : List String → List String → Except FileTrouble Node
  | place, [] => files.node place.reverse
  | place, name :: rest =>
      match files.node place.reverse with
      | .error trouble => .error trouble
      | .ok (.file _) => .error .notDirectory
      | .ok .directory =>
          if name == "" || name == "." then files.follow place rest
          else if name == ".." then files.follow (above place) rest
          else if longestName < name.utf8ByteSize then .error .nameTooLong
          else files.follow (name :: place) rest

def lookup (files : Files) (path : String) : Except FileTrouble Node :=
  if path.isEmpty then .error .missing
  else if path.contains zero then .error .invalidName
  else if longestPath < path.utf8ByteSize then .error .nameTooLong
  else files.follow (start path) (names path)

def read (files : Files) (path : String) : Except Fault Bytes :=
  match files.lookup path with
  | .error trouble => .error (.file "open" path trouble)
  | .ok .directory => .error (.file "read" path .isDirectory)
  | .ok (.file content) => .ok content

def makeFile (files : Files) (place : List String) (content : Bytes) : Files :=
  { files with contents := (place, content) :: files.contents.filter fun entry => entry.1 != place }

def makeDirectory (files : Files) (place : List String) : Files :=
  { files with directories := place :: files.directories }

def draftSize (name : String) : Nat :=
  name.utf8ByteSize + 10 - if name.contains '*' then 1 else 0

def draft (files : Files) (path : String) : Except Fault Unit :=
  if path.contains zero then .error (.file "open" path .invalidName)
  else
    match files.lookup (Path.directory path) with
    | .error trouble => .error (.file "open" path trouble)
    | .ok (.file _) => .error (.file "open" path .notDirectory)
    | .ok .directory =>
        if longestName < draftSize (Path.lastName path) then .error (.file "open" path .nameTooLong)
        else .ok ()

-- Puts `content` in place of a file, through a new file in the same directory. The new file is made
-- in the directory that the path names when it is clean, and moved along the path as it is.
def replace (files : Files) (path : String) (content : Bytes) : Except Fault Files := do
  files.draft path
  match files.lookup path, files.lookup (Path.way path) with
  | .ok .directory, _ => .error (.plain ("rename " ++ path ++ ": file exists"))
  | _, .error trouble => .error (.file "rename" path trouble)
  | _, .ok (.file _) => .error (.file "rename" path .notDirectory)
  | _, .ok .directory => .ok (files.makeFile (place path) content)

end Files

end OpcodeTable
