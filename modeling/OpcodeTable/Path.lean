set_option autoImplicit false

namespace OpcodeTable.Path

def isAbsolute (path : String) : Bool := path.startsWith "/"

-- Steps taken so far are held last one first. At the root there is no step up.
def follow (rooted : Bool) : List String → List String → List String
  | taken, [] => taken.reverse
  | taken, step :: rest =>
      if step == "" || step == "." then follow rooted taken rest
      else if step == ".." then
        match taken with
        | last :: before =>
            if last == ".." then follow rooted (step :: taken) rest else follow rooted before rest
        | [] => if rooted then follow rooted [] rest else follow rooted [step] rest
      else follow rooted (step :: taken) rest

def clean (path : String) : String :=
  let rooted := isAbsolute path
  let steps := "/".intercalate (follow rooted [] (path.splitOn "/"))
  if rooted then "/" ++ steps else if steps == "" then "." else steps

def directory (path : String) : String :=
  let parts := path.splitOn "/"
  if parts.length ≤ 1 then "." else clean ("/".intercalate (parts.dropLast ++ [""]))

def lastName (path : String) : String :=
  match (path.splitOn "/").reverse.filter (· != "") with
  | name :: _ => name
  | [] => if path == "" then "." else "/"

def way (path : String) : String :=
  let parts := path.splitOn "/"
  if parts.length ≤ 1 then "." else "/".intercalate (parts.dropLast ++ [""])

def resolve (directory path : String) : String :=
  if path == "" || isAbsolute path then path else clean (directory ++ "/" ++ path)

end OpcodeTable.Path
