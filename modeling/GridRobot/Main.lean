import GridRobot.Program

/-!
# Entry point

Reads the files that the program asks for, runs it, and carries out what it does.
-/

namespace GridRobot

/-- What a path leads to in the file system. -/
def readEntry (path : Text) : IO (Except OpenError Entry) := do
  match path.toString? with
  | none => return .error .notFound
  | some name =>
    try
      let bytes ← IO.FS.readBinFile name
      return .ok (.file bytes.data.toList)
    catch
      | .noFileOrDirectory _ _ _ => return .error .notFound
      | .permissionDenied _ _ _ => return .error .denied
      | _ => return .ok .directory

/-- The files that are needed, beside those already known. -/
def readFiles (arguments : List Text) (known : List (Text × Except OpenError Entry)) :
    IO (List (Text × Except OpenError Entry)) := do
  let wanted := Program.paths (.ofList known) arguments
  wanted.mapM fun path => do
    match known.lookup path with
    | some entry => return (path, entry)
    | none => return (path, ← readEntry path)

/-- Writes text to a stream. -/
def writeText (stream : IO.FS.Stream) (t : Text) : IO Unit := do
  stream.write ⟨t.toArray⟩
  stream.flush

/-- Carries out one action. -/
def perform (output errors : IO.FS.Stream) : Program.Action → IO Unit
  | .print t => writeText output t
  | .log line => writeText errors (line ++ [10])
  | .pause d => IO.sleep (UInt32.ofNat (d.nanoseconds.toNatClampNeg / 1000000))

end GridRobot

open GridRobot in
/-- Runs the program. -/
def main (words : List String) : IO UInt32 := do
  let arguments := words.map Text.ofString
  let config ← readFiles arguments []
  let known ← readFiles arguments config
  let name := Program.nameOf (← IO.getRandomBytes 16).data.toList
  let world : Program.World :=
    { files := .ofList known
      seed := UInt64.ofNat (← IO.monoNanosNow)
      sessionName := fun _ => name
      interruption := none }
  let report := Program.run world arguments
  let errors ← IO.getStderr
  let output ← IO.getStdout
  for action in report.actions do
    perform output errors action
  match report.failure with
  | none => pure ()
  | some e => writeText errors (e.message ++ [10])
  return UInt32.ofNat report.code
