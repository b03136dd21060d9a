import DependencyRules.CommandLine.Run

/-!
# The command line tool

Reads the files that a command names, carries out the command, and writes what it leaves behind.
-/

namespace DependencyRules

namespace CommandLine

/-- The files that a command may read. -/
def Command.inputs : Command → List String
  | .usage => []
  | .validate arguments =>
      [arguments.config.getD Settings.defaultPath, arguments.graph] ++ arguments.rules.toList
  | .checkRules path => [path]

/-- Whether a report is painted: on a terminal, unless the environment says otherwise. -/
def isPainted (force never colour : Option String) (isTerminal : Bool) : Bool :=
  if force.any (· ≠ "0") then true
  else if never.isSome then false
  else colour.all (· ≠ "0") && isTerminal

def failureOf : IO.Error → FileFailure
  | .noFileOrDirectory .. => .notFound
  | error => .other (toString error)

def readFile (path : String) : IO (Except FileFailure String) :=
  tryCatch (Except.ok <$> IO.FS.readFile path) fun error => pure (.error (failureOf error))

/-- Whether a path leads to anything, given what reading it came to: a file that can be read is
there, and any other path has to resolve. -/
def isFound (path : String) : Except FileFailure String → IO Bool
  | .ok _ => pure true
  | .error _ => tryCatch ((fun _ => true) <$> IO.FS.realPath path) fun _ => pure false

def writeFile (path text : String) : IO (Except FileFailure Unit) :=
  tryCatch (Except.ok <$> IO.FS.writeFile path text) fun error => pure (.error (failureOf error))

/-- Carries out a command on the files of the operating system. -/
def perform (command : Command) : IO Exit := do
  let contents ← command.inputs.mapM fun path => do return (path, ← readFile path)
  let found ← contents.filterM fun entry => isFound entry.1 entry.2
  let painted := isPainted (← IO.getEnv "CLICOLOR_FORCE") (← IO.getEnv "NO_COLOR")
    (← IO.getEnv "CLICOLOR") (← (← IO.getStdout).isTty)
  let runWith (written : Except FileFailure Unit) : Outcome :=
    run { read := fun path => (contents.lookup path).getD (.error .notFound)
          isFound := fun path => (found.lookup path).isSome
          write := fun _ => written } painted command
  let outcome := runWith (.ok ())
  IO.print outcome.stdout
  let outcome ← match outcome.written with
    | some (path, text) => runWith <$> writeFile path text
    | none => pure outcome
  if let some failure := outcome.failure then IO.eprintln ("Error: " ++ failure.message)
  return outcome.exit

end CommandLine

end DependencyRules

open DependencyRules CommandLine in
def main (arguments : List String) : IO UInt32 := do
  match parse arguments with
  | .ok command => return (← perform command).code.toUInt32
  | .error stop =>
      match stop with
      | .version => IO.print versionText
      | .help => IO.print usageText
      | _ => IO.eprint usageText
      return stop.exit.code.toUInt32
