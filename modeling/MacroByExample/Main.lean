import MacroByExample.CommandLine.Execute

/-!
# The program

The outer layer: it reads the command line and the files that the invocation names, executes it and
prints what it wrote. Failures go to the error stream, and the exit codes are those of the
specification (`SPEC_FULL.md` §19).
-/

namespace MacroByExample

open CommandLine

/-- The text that help shows. -/
def usageText : String :=
  "\n".intercalate [
    "Expand forms with pattern and template rules.",
    "",
    "  expand -r RULES [FORM]           expand one form with the rules of a definitions file",
    "  run FILE                         expand a bundle (form (literal ...) (pattern template) ...)",
    "  match -p PATTERN [-l LITS] FORM  match one form against one pattern",
    "  fmt FILE                         write every form of a file anew",
    "",
    "Settings: --config FILE --ellipsis TOKEN --lenient --ignore-keyword --width N",
    "Output: --explain --json --pretty",
    ""]

/-- What is wrong with a command line, in words. -/
def CommandLine.UsageError.message : UsageError → String
  | .nothingGiven => usageText
  | .helpRequested => usageText
  | .versionRequested => "0.1.0\n"
  | .unknownSubcommand => "error: unrecognized subcommand\n"
  | .noSubcommand => "error: a subcommand is required\n"
  | .unknownArgument => "error: unexpected argument\n"
  | .missingArgument => "error: a required argument was not provided\n"
  | .missingValue => "error: a value is required\n"
  | .badValue => "error: invalid value\n"
  | .surplusValue => "error: unexpected value\n"
  | .conflict => "error: an argument cannot be used with another one, or more than once\n"

/-- The text of a file, if it can be read. -/
def readText? (path : String) : IO (Option String) := do
  try
    return some (← IO.FS.readFile path)
  catch _ => return none

/-- The paths that an invocation reads. -/
def CommandLine.Invocation.paths (i : Invocation) : List String :=
  i.overrides.config.toList ++ match i.command with
    | .expand rules _ _ => [rules]
    | .run file _ => [file]
    | .matching _ _ _ _ => []
    | .fmt file _ => [file]

/-- The text of standard input, where the invocation reads it. -/
def stdinOf (i : Invocation) : IO (Option String) :=
  match i.command with
  | .expand _ none _ => readText? "/dev/stdin"
  | _ => pure none

/-- Whether the terminal shows colours. -/
def showsColor : IO Bool := do
  match ← IO.getEnv "TERM", ← IO.getEnv "NO_COLOR" with
  | some term, none => return term != "dumb"
  | _, _ => return false

end MacroByExample

section

open MacroByExample CommandLine

/-- Executes the command line. -/
def main (args : List String) : IO UInt32 := do
  match Invocation.ofArguments args with
  | .error .helpRequested => IO.print UsageError.helpRequested.message; return 0
  | .error .versionRequested => IO.print UsageError.versionRequested.message; return 0
  | .error error => IO.eprint error.message; return 2
  | .ok invocation => do
    let files ← invocation.paths.mapM fun path => do return (path, ← readText? path)
    let env : Environment := {
      file? := fun path => (files.lookup path).join
      stdin? := ← stdinOf invocation
      color := ← showsColor }
    let result := outcome env invocation
    IO.print (String.ofList result.stdout)
    match result.result with
    | .ok () => return 0
    | .error failure => do
      IO.eprintln s!"{failure.code}: {failure.message}"
      match failure.help? with
      | some help => IO.eprintln s!"help: {help}"
      | none => pure ()
      return 1

end
