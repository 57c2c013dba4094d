import FleetLink.Settings.Basic
import FleetLink.Settings.Folder
import FleetLink.Settings.Overrides
import FleetLink.Yaml.Document

/-! Loading settings: a file is read, overrides are put over it, and the result is
checked. The host of the user service must be one of the hosts. -/

namespace FleetLink.Settings

open Check

inductive LoadError where
  | notFound (path : String)
  | nameTooLong (path : String)
  | isFolder (path : String)
  | unreadable (error : Yaml.ReadError)
  | notDictionary (path : String)
  | keysNotText
  | invalid (issues : List Issue)
  | unknownHost (name : String)
deriving Repr

def LoadError.message : LoadError → String
  | .notFound path => "Settings file not found: " ++ path
  | .nameTooLong path => Folder.tooLongMessage path
  | .isFolder path => "[Errno 21] Is a directory: " ++ Text.quoted path
  | .unreadable error => error.message
  | .notDictionary path => "Settings file must contain a mapping: " ++ path
  | .keysNotText => "keywords must be strings"
  | .invalid _ => ""
  | .unknownHost name => "user_management.host " ++ Text.quoted name ++ " is not a configured host"

/-- The dictionary that a settings file holds. Where it is written in YAML, one value may
stand in several places of it. -/
inductive Document where
  | tree (entries : Entries)
  | shared (values : Shared)

/-- An empty document is an empty dictionary. -/
def Document.ofValue? : Value → Option Document
  | .dict entries => some (.tree entries)
  | value => if value.truth then none else some (.tree [])

def Document.ofShared? (values : Shared) : Option Document :=
  match values.cell values.root with
  | .dict _ => some (.shared values)
  | cell => ofValue? (cell.value (Shared.values values.cells 0))

def readContent : Content → Except LoadError (Option Document)
  | .document value => return Document.ofValue? value
  | .bytes bytes => do
      let values ← (Yaml.read (.ofBytes bytes)).mapError .unreadable
      return Document.ofShared? values

def defaultPath : String := "config/settings.yaml"

def readFile (folder : Folder) (path : String) : Except LoadError Document :=
  match folder.locate path with
  | .error .absent => .error (.notFound (folder.shown path))
  | .error .nameTooLong => .error (.nameTooLong (folder.shown path))
  | .ok .folder => .error (.isFolder (folder.shown path))
  | .ok (.file content) => do
      match ← readContent content with
      | some document => return document
      | none => throw (.notDictionary (folder.shown path))

/-- How many dictionaries and lists of the settings lie inside one another. -/
def nesting : Nat := 6

/-- The entries of a document with overrides put over them. Nothing that lies deeper than
the settings do is looked at. -/
def Document.overridden (overrides : List (List String × String)) : Document → Entries
  | .tree entries => Overrides.apply entries overrides
  | .shared values =>
      match (Overrides.applyShared values overrides).unfold nesting with
      | .dict entries => entries
      | _ => []

/-- The overrides that the variables with a lead give; without a lead there are none. -/
def overrides (environment : Environment) (lead : Option String) : List (List String × String) :=
  match lead with
  | none => []
  | some lead => if lead.isEmpty then [] else Overrides.found lead environment

/-- Settings from the entries of a document. -/
def ofEntries (entries : Entries) : Except LoadError Settings :=
  if entries.any fun (key, _) => key.text?.isNone then .error .keysNotText
  else match check entries with
    | .failed issues => .error (.invalid issues)
    | .ok settings =>
        if (settings.host? settings.users.host).isSome then .ok settings
        else .error (.unknownHost settings.users.host)

def load (folder : Folder) (path : Option String) (environment : Environment) (lead : Option String) :
    Except LoadError Settings := do
  let document ← readFile folder (path.getD defaultPath)
  ofEntries (document.overridden (overrides environment lead))

/-- The settings file that comes with the library. -/
def defaultLines : List String := [
  "# Device association core settings",
  "# Override any key with DASSOC__SECTION__KEY=value when loading with env_prefix='DASSOC'",
  "version: 1",
  "",
  "logging:",
  "  level: INFO",
  "  # null: JSON when stdout is not a TTY, colored console otherwise",
  "  json_format: null",
  "",
  "database:",
  "  placeholder: \"%s\"",
  "",
  "hosts:",
  "  user_management:",
  "    base_url: https://users.example.internal/v1",
  "    headers:",
  "      Accept: application/json",
  "      Content-Type: application/json",
  "    transport:",
  "      request_timeout_seconds: 15",
  "      connect_timeout_seconds: 5",
  "      retries:",
  "        max_retries: 2",
  "        backoff_factor: 0.5",
  "        retry_statuses: [502, 503, 504]",
  "",
  "user_management:",
  "  host: user_management",
  "  filter_path: /users/filter",
  "  sort_order: sortOrder=DESC",
  ""]

def defaultText : String := "\n".intercalate defaultLines

/-- A project that holds nothing but the library's own settings file. -/
def defaultFolder : Folder where
  name := "."
  files := [(pathParts defaultPath, .bytes (Text.Utf8.encode defaultText))]
  folders := []

end FleetLink.Settings
