import OpcodeTable.Command
import Std.Time.DateTime.Timestamp

set_option autoImplicit false

namespace OpcodeTable.Main

def bytesOf (data : ByteArray) : Bytes := data.toList

def dataOf (bytes : Bytes) : ByteArray := ⟨bytes.toArray⟩

-- The block of variables holds one `name=value` after another, each ended by a zero byte.
def environment : IO Settings.Environment := do
  let block := Utf8.toText (bytesOf (← IO.FS.readBinFile "/proc/self/environ"))
  return (block.splitOn "\x00").filterMap fun binding =>
    match binding.splitOn "=" with
    | name :: value@(_ :: _) => some (name, "=".intercalate value)
    | _ => none

partial def readAll (stream : IO.FS.Stream) (read : ByteArray) : IO ByteArray := do
  let piece ← stream.read 65536
  if piece.isEmpty then return read else readAll stream (read ++ piece)

def prefixes (place : List String) : List (List String) :=
  (List.range place.length).map fun count => place.take count

def learn (files : Files) (path : String) : IO Files := do
  if path.isEmpty then return files
  let here ← IO.currentDir
  let place := Files.place path
  if ← (here / path).isDir then return files.makeDirectory place
  try
    let content ← IO.FS.readBinFile path
    return (prefixes place).foldl Files.makeDirectory (files.makeFile place (bytesOf content))
  catch _ => return files

def learnAll (site : Pipeline.Site) (files : Files) : Nat → IO Files
  | 0 => return files
  | rounds + 1 => do
      learnAll site (← (Command.wanted site files).foldlM learn files) rounds

-- A file is written beside its place first, so that nobody sees a part of it.
def store (path : String) (content : Bytes) : IO Unit := do
  let draft := path ++ ".new"
  IO.FS.writeBinFile draft (dataOf content)
  IO.FS.rename draft path

def storeTextfile (engine : Engine) (exit : Exit) : IO Unit := do
  if exit.fault.isSome then return
  let some path := Command.textfile engine | return
  match exit.scene.files.read path with
  | .ok content => store path content
  | .error _ => return

def finish (exit : Exit) : IO UInt32 := do
  let output ← IO.getStdout
  output.write (dataOf exit.scene.output.written)
  output.flush
  (← IO.getStderr).write (dataOf (Utf8.ofText exit.errors))
  return exit.code.toUInt32

def now : IO Int := do
  return (← Std.Time.Timestamp.now).toNanosecondsSinceUnixEpoch.val

def run : IO UInt32 := do
  let input ← readAll (← IO.getStdin) .empty
  let site : Pipeline.Site := ⟨← environment, .ofData 0 (bytesOf input) none, .none, []⟩
  let files ← learnAll site .none 3
  let scene : Pipeline.Scene := ⟨files, .standardOutput, .start⟩
  match Command.prepare site scene with
  | .error exit => finish exit
  | .ok engine =>
      let began ← now
      let executed ← IO.lazyPure fun _ => engine.execute scene ⟨began, 0⟩
      let ended ← now
      let folder := Path.directory ((Command.textfile engine).getD ".")
      let reachable ← learn executed.scene.files folder
      let exit := Command.conclude site (executed.stamp ⟨ended, ended - began⟩ reachable)
      storeTextfile engine exit
      finish exit

end OpcodeTable.Main

def main : IO UInt32 := OpcodeTable.Main.run
