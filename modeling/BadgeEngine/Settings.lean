/-
Settings: the zone of an engine, where its rules are, and where profiles are stored. Settings and rules are read
from files that hold documents; what a document says is left to a library, which is a parameter here.
-/
import BadgeEngine.Rule
import BadgeEngine.Settings.Path

namespace BadgeEngine.Settings

open BadgeEngine.Text

/-- settings -/
structure Config where
  timeZone : String := "UTC"
  /-- a path, or a value that counts as none -/
  rulesPath : Value := .null
  databaseUrl : Value := .null

/-- the file settings are read from unless another is named -/
def defaultFile : String := "badgekit.yaml"

def ownerName : Value → String
  | .date _ => "datetime.date"
  | .moment _ => "datetime.datetime"
  | v => v.typeName

/-- the value of the document in a file -/
def readFile (parse : String → Except Problem Value) (files : Files) (p : Path) : Except Problem Value :=
  match files.read p with
  | .ok text => parse text
  | .error .missing =>
    .error (.noFile ("[Errno 2] No such file or directory: " ++ quoted p.toString))
  | .error .directory => .error (.unreadable true)
  | .error .notDirectory => .error (.unreadable false)

def pathOfValue : Value → Except Problem Path
  | .scalar (.text s) => .ok (.ofString s)
  | .bytes _ =>
    .error (.wrongType "argument should be a str object or an os.PathLike object returning str, not <class 'bytes'>")
  | v => .error (.wrongType ("expected str, bytes or os.PathLike object, not " ++ v.typeName))

/-- the path of the rules named in a file of settings: taken from where that file is -/
def rulesPathFrom (file : Path) (v : Value) : Except Problem Value :=
  if v.truthy then do
    let p ← pathOfValue v
    return .ofText (p.within file.parent).toString
  else .ok v

/-- reads settings from a file; `home` names the directory that paths start from -/
def Config.load (parse : String → Except Problem Value) (files : Files) (home file : String) :
    Except Problem Config := do
  let p := Path.ofString file
  if !files.has p then
    throw (.noFile ("Configuration file not found: " ++ p.resolved home
      ++ "\nHint: create badgekit.yaml with at least a time_zone key."))
  let raw ← readFile parse files p
  let es ← if !raw.truthy then pure [] else
    match raw with
    | .dict es => pure es
    | v => throw (.noAttribute (ownerName v) "get")
  let rulesPath ← rulesPathFrom p ((Value.lookup "rules_path" es).getD .null)
  let timeZone ← match Value.lookup "time_zone" es with
    | none => pure "UTC"
    | some v => v.written
  return { timeZone, rulesPath, databaseUrl := (Value.lookup "database_url" es).getD .null }

/-- reads rules from a file: a list of definitions, or a mapping with such a list -/
def loadRules (parse : String → Except Problem Value) (files : Files) (p : Path) : Except Problem (List Rule) := do
  let raw ← readFile parse files p
  let v := match raw with
    | .dict es => (Value.lookup "rules" es).getD .null
    | v => v
  match v with
  | .null => return []
  | .list items =>
    match items.find? fun v => match v with | .dict _ => false | _ => true with
    | some v => throw (.rule (.noDefinition p.toString (← v.shown)))
    | none => readRules [] items
  | _ => throw (.rule (.noList p.toString))

def Config.rules (parse : String → Except Problem Value) (c : Config) (files : Files) : Except Problem (List Rule) :=
  match c.rulesPath with
  | .scalar (.text s) => if s = "" then .ok [] else loadRules parse files (.ofString s)
  | _ => .ok []

/-- the address of the database: the one given, else the one of the environment; an empty one is none -/
def databaseUrl (given environment : Option String) : Except Problem String :=
  match given.or environment with
  | none | some "" =>
    .error (.host ("BADGEKIT_DATABASE_URL is not set.  Pass a URL or add it to .env (e.g. sqlite:///badges.db)."))
  | some url => .ok url

end BadgeEngine.Settings
