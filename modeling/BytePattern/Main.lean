import BytePattern.CommandLine.Run

/-!
# The program

Reads the files that the arguments name, runs the program on them, and shows what it leaves behind.
-/

namespace BytePattern.CommandLine

def lookUp (path : String) : IO (Option Entry) := do
  try
    let content ← IO.FS.readBinFile path
    return some (.file content.data)
  catch error =>
    match error with
    | .noFileOrDirectory _ _ _ => return none
    | _ => return some .directory

def gatherFiles (arguments : List String) : IO Directory := do
  match Invocation.read arguments with
  | .error _ => return ⟨[]⟩
  | .ok invocation =>
    let entries ← invocation.paths.filterMapM fun path => do
      return (← lookUp path).map fun entry => (path, entry)
    return ⟨entries⟩

def showNotice (notice : Notice) : IO Unit := do
  let (head, lines) := notice.lines
  if let some (level, message) := head then
    IO.eprintln s!"[{level.text}] {message}"
  for line in lines do
    IO.eprintln line

end BytePattern.CommandLine

open BytePattern in
def main (arguments : List String) : IO UInt32 := do
  let directory ← CommandLine.gatherFiles arguments
  let transcript := CommandLine.run arguments {} directory
  for notice in transcript.notices do
    CommandLine.showNotice notice
  IO.print transcript.output
  return UInt32.ofNat transcript.exitCode
