import FleetLink.Query.Session

/-! The lookups over factory data and associations. A filter is settled before the
database is asked anything. -/

namespace FleetLink.Query

open Row

def joinText : String :=
  JoinSide.factoryData.table.name ++ " " ++ JoinSide.factoryData.shortName ++
    " LEFT JOIN " ++ JoinSide.association.table.name ++ " " ++ JoinSide.association.shortName ++
    " ON (" ++ JoinSide.factoryData.shortName ++ ".\"ID\" = " ++ JoinSide.association.shortName ++ ".factory_data)"

def statusList (statuses : List AssociationStatus) : String :=
  ", ".intercalate (statuses.map fun status => "'" ++ status.name ++ "'")

def latestSimText (placeholder : String) : String :=
  "select tran_id, tran_status from " ++ Table.simDetails.name ++
    " where reference_id = " ++ placeholder ++ " order by createdon desc limit 1"

def associationOpening : String :=
  "SELECT b.associated_by, b.associated_on, b.association_status, " ++
    "b.disassociated_by, b.disassociated_on, b.harman_id, b.modified_by, " ++
    "b.modified_on, b.serial_number, b.user_id, b.factory_data, b.id " ++
    "FROM " ++ joinText ++
    " WHERE b.association_status in (" ++ statusList [.associated] ++ ")" ++ andOperator

def countOpening : String :=
  "select count(*) > 0 FROM " ++ joinText ++
    " where b.association_status in (" ++ statusList AssociationStatus.active ++ ")" ++ andOperator

/-- A filter on the session, written to the log when it is sound. -/
def buildFilter (opening operator placeholder : String) (conditions : Entries) : QueryM Statement := do
  let statement ← ofExcept .filter (filtered opening operator placeholder conditions)
  log statement.prepared
  return statement

/-- The most recent SIM transaction of a device. -/
def findLatestSim (placeholder : String) (reference : Value) : QueryM (Option Record) :=
  queryForObject .simDetails (latestSimText placeholder) (.list [reference])

/-- The associated row that meets all conditions. -/
def findAssociation (placeholder : String) (conditions : Entries) : QueryM (Option Record) := do
  let statement ← buildFilter associationOpening andOperator placeholder conditions
  queryForObject .association statement.sql (.list statement.params)

/-- The truth of the first column of the first row, and false without a row. -/
def fetchTruth (statement : Statement) : CursorM Bool := do
  let reply ← execute statement
  match ← fetchOne reply with
  | none => return false
  | some [] => throw .emptyRow
  | some (value :: _) => return value.truth

/-- Whether any live association meets all conditions. -/
def hasActiveAssociation (placeholder : String) (conditions : Entries) : QueryM Bool := do
  let statement ← buildFilter countOpening andOperator placeholder conditions
  withCursor (fetchTruth statement)

/-- The lookups with the placeholder of the database in use. -/
structure Lookups where
  placeholder : String := defaultPlaceholder
deriving DecidableEq, Repr

namespace Lookups

def buildFilter (lookups : Lookups) (opening operator : String) (conditions : Entries) : QueryM Statement :=
  Query.buildFilter opening operator lookups.placeholder conditions

def findLatestSim (lookups : Lookups) (reference : Value) : QueryM (Option Record) :=
  Query.findLatestSim lookups.placeholder reference

def findAssociation (lookups : Lookups) (conditions : Entries) : QueryM (Option Record) :=
  Query.findAssociation lookups.placeholder conditions

def hasActiveAssociation (lookups : Lookups) (conditions : Entries) : QueryM Bool :=
  Query.hasActiveAssociation lookups.placeholder conditions

end Lookups

end FleetLink.Query
