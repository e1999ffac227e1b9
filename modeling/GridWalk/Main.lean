import GridWalk.CommandLine.Run

/-!
# The program

Reads the files that a command line names, prints what the invocation has to say and sets the exit
code: zero, one for a failure and two for a command line that cannot be followed.
-/

namespace GridWalk.CommandLine

/-- The text of a file, if it can be read. -/
def readFile? (path : String) : IO (Option String) := do
  try
    return some (← IO.FS.readFile path)
  catch _ =>
    return none

/-- The texts of the files with the given paths. -/
def readFiles (paths : List String) : IO Files := do
  let texts ← paths.mapM fun path => return (path, ← readFile? path)
  return fun path => (texts.lookup path).join

/-- Carries out a command line. -/
def carryOut (words : List String) : IO UInt32 := do
  match Request.ofWords words with
  | .error error =>
      IO.eprintln s!"error: {error.message}"
      return 2
  | .ok .version =>
      IO.println versionLine
      return 0
  | .ok (.run invocation) =>
      match invocation.output (← readFiles invocation.paths) with
      | .ok lines =>
          lines.forM fun line => IO.println line
          return 0
      | .error failure =>
          let report := ": ".intercalate failure.causes
          IO.eprintln s!"error: {report}"
          return 1

end GridWalk.CommandLine

/-- The entry point of the program. -/
def main (words : List String) : IO UInt32 :=
  GridWalk.CommandLine.carryOut words
