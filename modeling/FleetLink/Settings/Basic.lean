import FleetLink.Check.Scalar
import FleetLink.Text.Case
import FleetLink.Value.Dict

/-! The settings of the library and the rules they are checked by. All faults of a
document are found together. -/

namespace FleetLink

open Number

structure Retries where
  maxRetries : Int
  backoffFactor : Binary64
  statuses : List Int
deriving DecidableEq, Repr

structure TransportPolicy where
  requestTimeout : Int
  connectTimeout : Int
  retries : Retries
deriving DecidableEq, Repr

structure Host where
  baseUrl : String
  headers : List (String × String)
  transport : TransportPolicy
deriving DecidableEq, Repr

/-- Without `jsonFormat` the format is chosen by where the output goes. -/
structure LogSettings where
  level : String := "INFO"
  jsonFormat : Option Bool := none
deriving DecidableEq, Repr

/-- `host` names one of the hosts. -/
structure UserService where
  host : String
  filterPath : String
  sortOrder : Option String
deriving DecidableEq, Repr

/-- `placeholder` marks a parameter in the statements of the database in use. -/
structure Settings where
  version : Int
  log : LogSettings
  placeholder : String
  hosts : List (String × Host)
  users : UserService
deriving DecidableEq, Repr

namespace Settings

open Check

def field (name : String) (check : Value → Checked α) (entries : Entries) : Checked α :=
  match entries.getText? name with
  | some value => (check value).within (.key name)
  | none => .failed [⟨[.key name], .missing⟩]

def fieldOr (name : String) (absent : α) (check : Value → Checked α) (entries : Entries) : Checked α :=
  match entries.getText? name with
  | some value => (check value).within (.key name)
  | none => .ok absent

/-- A part with fields of its own must be a dictionary; unknown fields are passed over. -/
def part (check : Entries → Checked α) : Value → Checked α
  | .dict entries => check entries
  | _ => .fail .modelType

/-- How a dictionary's key is named in the place of an issue. -/
def keyStep (key : Value) : Step :=
  let number (n : Int) : Step :=
    if fits64Bits n then .number n
    else if isWritable n then .key key.exact
    else .key "<unprintable int object>"
  match key with
  | .int n => number n
  | .bool b => .number (if b then 1 else 0)
  | key => .key (key.text?.getD key.exact)

def pair (check : Value → Checked α) (key value : Value) : Checked (String × α) :=
  Prod.mk <$> ((text key).within (.key "[key]")).within (keyStep key) <*> (check value).within (keyStep key)

def pairs (check : Value → Checked α) : Entries → Checked (List (String × α))
  | [] => .ok []
  | (key, value) :: rest => List.cons <$> pair check key value <*> pairs check rest

/-- Puts a value under a name, which keeps its place if it has one. -/
def putName (name : String) (value : α) : List (String × α) → List (String × α)
  | [] => [(name, value)]
  | (other, old) :: rest =>
      if other = name then (other, value) :: rest else (other, old) :: putName name value rest

/-- A dictionary under names, all of one kind. -/
def namesTo (check : Value → Checked α) : Value → Checked (List (String × α))
  | .dict entries =>
      (pairs check entries).map fun found => found.foldl (fun done (name, value) => putName name value done) []
  | _ => .fail .dictType

def checkRetries (entries : Entries) : Checked Retries :=
  Retries.mk <$> field "max_retries" int entries <*> field "backoff_factor" float entries <*>
    field "retry_statuses" (listOf int) entries

def checkTransport (entries : Entries) : Checked TransportPolicy :=
  TransportPolicy.mk <$> field "request_timeout_seconds" int entries <*>
    field "connect_timeout_seconds" int entries <*> field "retries" (part checkRetries) entries

def secureScheme : List Char := "https://".toList

/-- An address must be secure; slashes at its end are dropped. -/
def checkBaseUrl (url : String) : Checked String :=
  if secureScheme.isPrefixOf url.toList then
    .ok (String.ofList (url.toList.reverse.dropWhile (· == '/')).reverse)
  else .fail (.rule "base_url must use https scheme")

def checkHost (entries : Entries) : Checked Host :=
  Host.mk <$> field "base_url" (fun value => (text value).andThen checkBaseUrl) entries <*>
    fieldOr "headers" [] (namesTo text) entries <*> field "transport" (part checkTransport) entries

def levels : List String := ["CRITICAL", "DEBUG", "ERROR", "INFO", "WARNING"]

def checkLevel (name : String) : Checked String :=
  let upper := Text.upper name
  if levels.contains upper then .ok upper
  else .fail (.rule ("level must be one of [" ++ ", ".intercalate (levels.map Text.quoted) ++
    "], got " ++ Text.quoted name))

def checkLog (entries : Entries) : Checked LogSettings :=
  LogSettings.mk <$> fieldOr "level" "INFO" (fun value => (text value).andThen checkLevel) entries <*>
    fieldOr "json_format" none (orNull bool) entries

def rooted (path : String) : String :=
  if path.toList.head? = some '/' then path else "/" ++ path

def checkUsers (entries : Entries) : Checked UserService :=
  UserService.mk <$> field "host" text entries <*>
    field "filter_path" (fun value => rooted <$> text value) entries <*>
    fieldOr "sort_order" (some "sortOrder=DESC") (orNull text) entries

def placeholders : List String := ["?", "%s"]
def defaultPlaceholder : String := "%s"

def checkPlaceholder (mark : String) : Checked String :=
  if placeholders.contains mark then .ok mark
  else .fail (.rule ("placeholder must be '?' or '%s', got " ++ Text.quoted mark))

def checkDatabase (entries : Entries) : Checked String :=
  fieldOr "placeholder" defaultPlaceholder (fun value => (text value).andThen checkPlaceholder) entries

def check (entries : Entries) : Checked Settings :=
  Settings.mk <$> field "version" int entries <*> fieldOr "logging" {} (part checkLog) entries <*>
    fieldOr "database" defaultPlaceholder (part checkDatabase) entries <*>
    field "hosts" (namesTo (part checkHost)) entries <*> field "user_management" (part checkUsers) entries

def host? (settings : Settings) (name : String) : Option Host := settings.hosts.lookup name

end Settings

end FleetLink
