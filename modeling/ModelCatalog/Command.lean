import ModelCatalog.Publication
import ModelCatalog.Report
import ModelCatalog.SettingsText

/-! # The command

Reads settings and model files, links what they hold and reports on it. Files are read through a
function that says what a file of a name contains, so the command itself reads nothing.
-/
namespace ModelCatalog

structure Command where
  files : List String
  settings : Option String
  format : ReportFormat

/-- What the command was doing when it failed, and why it failed. -/
inductive CommandError where
  | settings (file : String) (e : ModelError)
  | reading (file : String) (fault : FileFault)
  | parsing (file : String) (e : ModelError)
  | adding (file : String) (e : ModelError)
  | linking (e : ModelError)

/-- What failed, and the chain of causes after it. -/
def CommandError.chain : CommandError → List String
  | settings file e => ["invalid configuration " ++ file, e.message] ++ underlying e
  | reading file fault => ["failed to read " ++ file, fault.phrase]
  | parsing file e => ["failed to parse " ++ file, e.message]
  | adding file e => ["invalid model file " ++ file, e.message]
  | linking e => ["model validation failed", e.message]
where
  underlying : ModelError → List String
    | .file fault => [fault.phrase]
    | _ => []

namespace Command

/-- What a file of a name contains. -/
abbrev Contents := String → Except FileFault String

/-- Is the file one in YAML, by what its name ends in? -/
def isYaml (file : String) : Bool :=
  match Qualified.split? ((file.splitOn "/").getLastD "") with
  | some (_, ending) => ["yaml", "yml"].contains ending.toLower
  | none => false

def parse (file text : String) : Except CommandError Json :=
  match if isYaml file then Yaml.value? text else Json.read? text with
  | some j => .ok j
  | none => .error (.parsing file .unparsable)

def load (contents : Contents) (file : String) : Except CommandError Json := do
  let text ← (contents file).mapError (.reading file)
  parse file text

def addFile (contents : Contents) (file : String) : ExceptT CommandError (StateM Draft) Unit := do
  let j ← load contents file
  (Draft.addJson j).adapt (.adding file)

/-- Without a file for them, settings are the standard ones. -/
def loadSettings (env : Environment) (contents : Contents) :
    Option String → Except CommandError Settings
  | some file => (Settings.load env (contents file)).mapError (.settings file)
  | none => .ok .standard

/-- The report on all the files, which is given only if nothing is wrong with any of them. -/
def run (env : Environment) (contents : Contents) (cmd : Command) : Except CommandError String := do
  let settings ← loadSettings env contents cmd.settings
  let (added, draft) := (cmd.files.forM (addFile contents)).run.run (.empty settings)
  added
  let m ← draft.catalog.link.mapError .linking
  return m.report cmd.format

end Command

end ModelCatalog
