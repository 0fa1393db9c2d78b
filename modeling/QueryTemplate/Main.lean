import QueryTemplate.Program

/-!
# The command line

The program as it is run: it reads the files that its command line may ask for, runs, and prints.
-/

open QueryTemplate

/-- What is behind a path, as far as it can be read. -/
def contentAt (path : Text) : IO (List (Text × FileContent)) := do
  try
    return [(path, .bytes (← IO.FS.readBinFile (String.ofList path)))]
  catch
    | .noFileOrDirectory _ _ _ => return []
    | e => return [(path, .unreadable (toString e))]

/-- Runs the program on the words after its name. -/
def main (words : List String) : IO UInt32 := do
  let words := words.map String.toList
  let files ← (Program.paths words).mapM contentAt
  let outcome := Program.run ⟨files.flatten⟩ words
  IO.print (String.ofList outcome.stdout)
  IO.eprint (String.ofList outcome.stderr)
  return UInt32.ofNat outcome.exitCode
