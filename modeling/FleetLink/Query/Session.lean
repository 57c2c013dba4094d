import FleetLink.Query.Filter
import FleetLink.Row.Mapping

/-! Talking to a database. The database is what it replies to each statement in turn,
and a session keeps what was asked of it: every cursor with its calls in order. -/

namespace FleetLink.Query

open Log Row

/-- The reply to one statement; either step of fetching it may fail. -/
structure Reply where
  columns : List Value
  rows : List (List Value)
  executeFault : Option Fault
  fetchFault : Option Fault

inductive Call where
  | execute (sql : String) (params : List Value)
  | fetchAll
  | fetchOne
  | close

/-- `replies` answers the statements in the order of their execution. -/
structure Session where
  replies : Nat → Reply
  executed : Nat
  cursors : List (List Call)
  events : List Event

inductive QueryError where
  | filter (error : FilterError)
  | driver (fault : Fault)
  | notIterable (value : Value)
  | row (error : RowError)
  | mapping (error : MapError)
  | emptyRow
  | tooMany (count : Nat)

def QueryError.message : QueryError → String
  | .filter error => error.message
  | .driver fault => fault.text
  | .notIterable value => "'" ++ value.fullKindName ++ "' object is not iterable"
  | .row error => error.message
  | .mapping error => error.message
  | .emptyRow => "tuple index out of range"
  | .tooMany count => "Expected at most one row, got " ++ toString count

abbrev QueryM := ExceptT QueryError (StateM Session)

def log (event : Event) : QueryM Unit :=
  modify fun session => { session with events := session.events ++ [event] }

def ofExcept (wrap : ε → QueryError) : Except ε α → QueryM α
  | .ok value => pure value
  | .error error => throw (wrap error)

/-- An open cursor: the calls made on it so far, and the replies still to come. -/
structure OpenCursor where
  replies : Nat → Reply
  executed : Nat
  calls : List Call

abbrev CursorM := ExceptT QueryError (StateM OpenCursor)

def call (made : Call) : CursorM Unit :=
  modify fun cursor => { cursor with calls := cursor.calls ++ [made] }

def orFault : Option Fault → CursorM Unit
  | some fault => throw (.driver fault)
  | none => pure ()

def execute (statement : Statement) : CursorM Reply := do
  call (.execute statement.sql statement.params)
  let cursor ← get
  let reply := cursor.replies cursor.executed
  set { cursor with executed := cursor.executed + 1 }
  orFault reply.executeFault
  return reply

def fetchAll (reply : Reply) : CursorM (List (List Value)) := do
  call .fetchAll
  orFault reply.fetchFault
  return reply.rows

def fetchOne (reply : Reply) : CursorM (Option (List Value)) := do
  call .fetchOne
  orFault reply.fetchFault
  return reply.rows.head?

/-- Runs work on a new cursor, which is closed whatever comes of it. -/
def withCursor (work : CursorM α) : QueryM α := fun session =>
  let (result, cursor) := work ⟨session.replies, session.executed, []⟩
  (result, { session with
    executed := cursor.executed
    cursors := session.cursors ++ [cursor.calls ++ [.close]] })

/-- The items of a value that has any: those of a list, the characters of a text, the
bytes of a byte string and the keys of a dictionary. -/
def items? : Value → Option (List Value)
  | .list items => some items
  | .dict entries => some (entries.map (·.1))
  | .bytes bytes => some (bytes.map fun byte => .int byte.toNat)
  | value => value.text?.map fun text => text.toList.map fun c => .text c.toString

def mapFetched (mapper : Mapper) (columns : List Value) (rowNumber : Nat) (row : List Value) :
    Except QueryError Record :=
  match LabelledRow.ofColumns columns row with
  | .error error => .error (.row error)
  | .ok labelled => (mapper.mapRow labelled.cursor (.int rowNumber)).outcome.mapError .mapping

/-- Maps rows in order, numbered from the given number on; the first failure counts. -/
def mapRows (mapper : Mapper) (columns : List Value) (rowNumber : Nat) :
    List (List Value) → Except QueryError (List Record)
  | [] => .ok []
  | row :: rest => do
      let record ← mapFetched mapper columns rowNumber row
      return record :: (← mapRows mapper columns (rowNumber + 1) rest)

def fetchRecords (mapper : Mapper) (sql : String) (params : Value) : CursorM (List Record) := do
  match items? params with
  | none => throw (.notIterable params)
  | some params =>
      let reply ← execute ⟨sql, params⟩
      let rows ← fetchAll reply
      match mapRows mapper reply.columns 1 rows with
      | .ok records => return records
      | .error error => throw error

def QueryError.events : QueryError → List Event
  | .mapping error => error.events
  | _ => []

/-- Passes an error on after writing its events to the log. -/
def loggingErrors (work : QueryM α) : QueryM α :=
  tryCatch work fun error => do
    error.events.forM log
    throw error

/-- The records of all rows. -/
def queryForObjects (mapper : Mapper) (sql : String) (params : Value) : QueryM (List Record) :=
  loggingErrors (withCursor (fetchRecords mapper sql params))

/-- The record of the only row, if there is a row. -/
def queryForObject (mapper : Mapper) (sql : String) (params : Value) : QueryM (Option Record) := do
  match ← queryForObjects mapper sql params with
  | [] => return none
  | [record] => return some record
  | records => throw (.tooMany records.length)

end FleetLink.Query
