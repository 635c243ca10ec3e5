import TransponderShell.Program

/-!
# The command

The outermost layer: it reads the environment, the file system and the standard input, and writes
what the run of the program gives.
-/

namespace TransponderShell.Main

/-- What a path of the file system leads to. An empty path leads nowhere. -/
def look (path : Text) : IO (Option FileNode) := do
  if path.isEmpty then return none
  let place := (← IO.currentDir) / String.ofList path
  if ← place.isDir then return some .directory
  try
    return some (.file (← IO.FS.readBinFile place).toList)
  catch _ => return none

/-- The value of a variable of the environment. -/
def readVariable (name : Text) : IO (Option Text) := do
  return (← IO.getEnv (String.ofList name)).map String.toList

/-- The lines of the standard input. -/
def input : IO Script := do
  return Script.ofBytes (← (← IO.getStdin).readBinToEnd).toList

/-- Run the program. -/
def start (arguments : List Text) : IO UInt32 := do
  let environment : Variables := {
    config := ← readVariable Variables.configName
    fixture := ← readVariable Variables.fixtureName
    history := ← readVariable Variables.historyName }
  let report ← Program.run look environment arguments input
  IO.print (String.ofList report.output)
  match report.exit with
  | .failed message => IO.eprintln ("Error: " ++ String.ofList message)
  | _ => pure ()
  return UInt32.ofNat report.exit.code

end TransponderShell.Main

/-- The entry point of the program. -/
def main (arguments : List String) : IO UInt32 :=
  TransponderShell.Main.start (arguments.map String.toList)
