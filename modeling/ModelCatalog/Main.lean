import ModelCatalog.Command

/-! # The command line

Takes the names of model files and a few options, and prints the report or what went wrong.
-/
namespace ModelCatalog

/-- A command has at least one file to read. -/
def Command.ready? (cmd : Command) : Option Command :=
  if cmd.files.isEmpty then none else some cmd

/-- What the words of a command line ask for. -/
def Command.ofArgs? (cmd : Command) : List String → Option Command
  | [] => cmd.ready?
  | "-c" :: file :: rest | "--config" :: file :: rest =>
    ofArgs? { cmd with settings := some file } rest
  | "-f" :: name :: rest | "--format" :: name :: rest =>
    match name with
    | "pretty" => ofArgs? { cmd with format := .pretty } rest
    | "json" => ofArgs? { cmd with format := .json } rest
    | _ => none
  | "-v" :: rest | "--verbose" :: rest => ofArgs? cmd rest
  | "--" :: rest => { cmd with files := cmd.files ++ rest }.ready?
  | word :: rest =>
    if word.startsWith "-" then none else ofArgs? { cmd with files := cmd.files ++ [word] } rest

def usage : String := "usage: [-c FILE] [-f pretty|json] [-v] FILE..."

/-- What the file of a name contains. -/
def readContents (file : String) : IO (Except FileFault String) := do
  try return .ok (← IO.FS.readFile file)
  catch e =>
    match e with
    | .noFileOrDirectory .. => return .error .notFound
    | _ => return .error (.other (toString e))

/-- What the variables that a text refers to are set to. -/
def readEnvironment (text : String) : IO Environment := do
  let names := (Environment.namesIn text.toList).eraseDups
  let values ← names.mapM fun name => do return (name, ← IO.getEnv name)
  return fun name => (values.lookup name).join

/-- The lines that say what went wrong. -/
def CommandError.lines (e : CommandError) : List String :=
  match e.chain with
  | [] => []
  | [first] => ["Error: " ++ first]
  | [first, cause] => ["Error: " ++ first, "", "Caused by:", "    " ++ cause]
  | first :: causes =>
    ["Error: " ++ first, "", "Caused by:"]
      ++ causes.zipIdx.map fun (cause, i) => "    " ++ toString i ++ ": " ++ cause

end ModelCatalog

open ModelCatalog in
def main (args : List String) : IO UInt32 := do
  match Command.ofArgs? ⟨[], none, .pretty⟩ args with
  | none =>
    IO.eprintln usage
    return 2
  | some cmd =>
    let files ← (cmd.settings.toList ++ cmd.files).mapM fun file => do
      return (file, ← readContents file)
    let contents (file : String) := (files.lookup file).getD (.error .notFound)
    let settingsText := (cmd.settings.map contents).bind Except.toOption
    let env ← readEnvironment (settingsText.getD "")
    match cmd.run env contents with
    | .ok report =>
      IO.print report
      return 0
    | .error e =>
      e.lines.forM IO.eprintln
      return 1
