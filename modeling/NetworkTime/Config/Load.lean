import NetworkTime.Config.Ini
import NetworkTime.Config.Json.Reader
import NetworkTime.Config.Yaml.Reader
import NetworkTime.Host.Files

/-! Loading a configuration from a file, whose name tells its format. -/

namespace NetworkTime.Config

inductive Format
  | ini
  | json
  | yaml
deriving DecidableEq, Repr

namespace Format

/-- The formats by the ends of file names. -/
def extensions : List (String × Format) :=
  [("ini", .ini), ("conf", .ini), ("cfg", .ini), ("json", .json), ("yaml", .yaml), ("yml", .yaml)]

/-- The format of a file, in whatever case its name is written. -/
def ofPath? (path : String) : Option Format := do
  extensions.lookup (String.ofList (Text.lowered (← Path.extension? path)))

end Format

/-- Why a file gives no configuration. -/
inductive LoadFault
  | unreadable (path : String) (fault : FileFault)
  | unknownFormat (path : String)
  | ini (fault : Ini.Fault)
  | json (fault : Json.Fault)
  | yaml
deriving DecidableEq, Repr

namespace LoadFault

def yamlMessage : String := "the text is no document, or a value does not fit"

def message : LoadFault → String
  | unreadable path fault => s!"cannot read {path}: {fault.message}"
  | unknownFormat path =>
    s!"cannot tell config format of {path}; expected .ini, .conf, .json, .yaml or .yml"
  | ini fault => fault.message
  | json fault => s!"invalid JSON config: {fault.message}"
  | yaml => s!"invalid YAML config: {yamlMessage}"

/-- The wording of the cause behind the fault. -/
def cause? : LoadFault → Option String
  | unreadable _ fault => some fault.message
  | json fault => some fault.message
  | yaml => some yamlMessage
  | _ => none

end LoadFault

/-- The configuration that a text writes in a format. -/
def parse (text : String) : Format → Except LoadFault Config
  | .ini => (Ini.parse text).mapError .ini
  | .json => (Json.parse text).mapError .json
  | .yaml => (Yaml.parse? text).elim (.error .yaml) .ok

/-- The configuration in a file of which the content, or the fault of reading it, is given. The
format is told first. -/
def ofFile (path : String) (content : Except FileFault String) : Except LoadFault Config :=
  match Format.ofPath? path, content with
  | none, _ => .error (.unknownFormat path)
  | some _, .error fault => .error (.unreadable path fault)
  | some format, .ok text => parse text format

/-- The configuration in a file. -/
def load (fs : Files) (path : String) : Except LoadFault Config := ofFile path (fs.readText path)

end NetworkTime.Config
