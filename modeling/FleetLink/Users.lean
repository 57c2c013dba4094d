import FleetLink.Http.Send
import FleetLink.Record.UserLookup
import FleetLink.Value.Search

/-! Single details of users, looked up through the filter of the user service. -/

namespace FleetLink.Users

open Http Log

inductive UserError where
  | noUser
  | invalid (issues : List Check.Issue)
  | http (error : HttpError)

def UserError.message : UserError → String
  | .noUser => "user_name or email is required"
  | .invalid _ => ""
  | .http error => error.message

abbrev UserM := ExceptT UserError (StateM Exchange)

def lift (work : HttpM α) : UserM α := fun exchange =>
  match work exchange with
  | (.ok value, exchange) => (.ok value, exchange)
  | (.error error, exchange) => (.error (.http error), exchange)

/-- The sort order as a query parameter, split at its first equals sign. -/
def sortParams (sortOrder : Option String) : Value :=
  match sortOrder with
  | none => .null
  | some text =>
      if text.isEmpty then .null
      else
        let (key, rest) := text.toList.span (· != '=')
        .dict [(.text (String.ofList key), .text (String.ofList (rest.drop 1)))]

/-- The order that looks users up. -/
def lookupOrder (service : UserService) (request : Record) : Order where
  method := "POST"
  path := service.filterPath
  headers := []
  params := sortParams service.sortOrder
  body := .dict request.payload

def missingEvent (field : String) : Event := ⟨"user_field_missing", .info, [("field", .text field)]⟩

/-- The text of a detail. Lists and dictionaries have none. -/
def detailText : Value → String
  | .list _ | .dict _ => ""
  | .bool b => if b then "true" else "false"
  | value => value.text?.getD value.plain

/-- The detail of the user with this name or address, empty if there is no such detail. -/
def detail (settings : Settings) (field : String) (userName email : Value) : UserM String := do
  if !userName.truth && !email.truth then throw .noUser
  match Record.forUser userName email with
  | .failed issues => throw (.invalid issues)
  | .ok request =>
      let answer ← lift (send settings settings.users.host (lookupOrder settings.users request))
      match answer.search? field with
      | some value => return detailText value
      | none => do
          lift (Http.log (missingEvent field))
          return ""

end FleetLink.Users
