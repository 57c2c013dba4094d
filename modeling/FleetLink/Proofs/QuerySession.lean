import FleetLink.Query.Session
import FleetLink.Proofs.RowLabels
import FleetLink.Proofs.Runs

/-! Queries over any database. Whatever the database replies, a query opens one cursor and
closes it last, and its outcome is that of the first step that fails: taking the
parameters, executing, fetching, or mapping the rows one after another. -/

namespace FleetLink.Query
open Row

/-- What a query comes to in a session. -/
def QueryM.result (query : QueryM α) (session : Session) : Except QueryError α := (query session).1

/-- The session that a query leaves. -/
def QueryM.after (query : QueryM α) (session : Session) : Session := (query session).2

/-- The reply that the next statement of a session meets. -/
def Session.reply (session : Session) : Reply := session.replies session.executed

/-- The steps before the mapping of rows all succeed. -/
structure Fetched (params : Value) (reply : Reply) : Prop where
  iterable : (items? params).isSome = true
  executed : reply.executeFault = none
  fetched : reply.fetchFault = none

/-- The outcome of a step that may meet a fault. -/
def unlessFault (fault : Option Fault) (value : α) : Except QueryError α :=
  match fault with
  | some fault => .error (.driver fault)
  | none => .ok value

theorem execute_run (statement : Statement) (cursor : OpenCursor) :
    execute statement cursor =
      (unlessFault (cursor.replies cursor.executed).executeFault (cursor.replies cursor.executed),
        { cursor with
          executed := cursor.executed + 1
          calls := cursor.calls ++ [.execute statement.sql statement.params] }) := by
  change (orFault (cursor.replies cursor.executed).executeFault >>= fun _ => pure (cursor.replies cursor.executed))
    { cursor with
      executed := cursor.executed + 1
      calls := cursor.calls ++ [.execute statement.sql statement.params] } = _
  cases (cursor.replies cursor.executed).executeFault <;> rfl

theorem fetchAll_run (reply : Reply) (cursor : OpenCursor) :
    fetchAll reply cursor =
      (unlessFault reply.fetchFault reply.rows, { cursor with calls := cursor.calls ++ [.fetchAll] }) := by
  obtain ⟨columns, rows, executeFault, fetchFault⟩ := reply
  cases fetchFault <;> rfl

/-- The calls on the cursor of a query for all rows, up to its closing. -/
def fetchCalls (sql : String) (params : Value) (reply : Reply) : List Call :=
  match items? params with
  | none => []
  | some items => .execute sql items :: if reply.executeFault.isNone then [.fetchAll] else []

/-- What a query for all rows comes to. -/
def fetchResult (mapper : Mapper) (params : Value) (reply : Reply) : Except QueryError (List Record) :=
  match items? params, reply.executeFault, reply.fetchFault with
  | none, _, _ => .error (.notIterable params)
  | some _, some fault, _ => .error (.driver fault)
  | some _, none, some fault => .error (.driver fault)
  | some _, none, none => mapRows mapper reply.columns 1 reply.rows

theorem fetchRecords_run (mapper : Mapper) (sql : String) (params : Value) (cursor : OpenCursor) :
    (fetchRecords mapper sql params cursor).1 = fetchResult mapper params (cursor.replies cursor.executed) ∧
      (fetchRecords mapper sql params cursor).2.calls =
        cursor.calls ++ fetchCalls sql params (cursor.replies cursor.executed) := by
  unfold fetchRecords fetchResult fetchCalls
  cases items? params with
  | none => exact ⟨rfl, (List.append_nil _).symm⟩
  | some items =>
    simp only [bind_run, execute_run, fetchAll_run]
    generalize cursor.replies cursor.executed = reply
    obtain ⟨columns, rows, executeFault, fetchFault⟩ := reply
    cases executeFault with
    | some fault => exact ⟨rfl, rfl⟩
    | none =>
      cases fetchFault with
      | some fault => exact ⟨rfl, List.append_assoc ..⟩
      | none =>
        change (_ = mapRows mapper columns 1 rows) ∧ _
        cases mapped : mapRows mapper columns 1 rows with
        | error error => simp only [unlessFault, mapped]; exact ⟨rfl, List.append_assoc ..⟩
        | ok records => simp only [unlessFault, mapped]; exact ⟨rfl, List.append_assoc ..⟩

theorem withCursor_run (work : CursorM α) (session : Session) :
    (withCursor work).result session = (work ⟨session.replies, session.executed, []⟩).1 ∧
      ((withCursor work).after session).cursors =
        session.cursors ++ [(work ⟨session.replies, session.executed, []⟩).2.calls ++ [.close]] :=
  ⟨rfl, rfl⟩

theorem log_forM (events : List Log.Event) (session : Session) :
    ∃ logged, events.forM log session = (.ok (), { session with events := logged }) := by
  induction events generalizing session with
  | nil => exact ⟨session.events, rfl⟩
  | cons event rest ih =>
    obtain ⟨logged, run⟩ := ih { session with events := session.events ++ [event] }
    exact ⟨logged, run⟩

/-- Writing errors to the log changes neither what a query comes to nor its cursors. -/
theorem loggingErrors_run (query : QueryM α) (session : Session) :
    (loggingErrors query).result session = query.result session ∧
      ((loggingErrors query).after session).cursors = (query.after session).cursors := by
  have run : loggingErrors query session = match query session with
      | (.ok value, after) => (.ok value, after)
      | (.error error, after) => (error.events.forM log >>= fun _ => throw error : QueryM α) after := by
    change ExceptT.tryCatch query _ session = _
    simp only [ExceptT.tryCatch, ExceptT.mk, bind, StateT.bind]
    rcases query session with ⟨_ | _, _⟩ <;> rfl
  simp only [QueryM.result, QueryM.after, run]
  rcases query session with ⟨error | value, after⟩
  · obtain ⟨logged, wrote⟩ := log_forM error.events after
    simp only [bind_run, wrote]
    exact ⟨rfl, rfl⟩
  · exact ⟨rfl, rfl⟩

/-- The record of a row alone: the row under its columns, mapped under its number. -/
def RecordOf (mapper : Mapper) (columns : List Value) (rowNumber : Nat) (row : List Value) (record : Record) : Prop :=
  ∃ labelled, LabelledRow.ofColumns columns row = .ok labelled ∧
    (mapper.mapRow labelled.cursor (.int rowNumber)).outcome = .ok record

/-- Why a row gives no record: it is not as long as its columns are many, one of these is no
label, or the mapping fails. -/
inductive RowFailure (mapper : Mapper) (columns : List Value) (rowNumber : Nat) (row : List Value) :
    QueryError → Prop where
  | lengths (differ : columns.length ≠ row.length) :
      RowFailure mapper columns rowNumber row (.row (.lengths row.length columns.length))
  | label {before after : List Value} {found : Value} (same : columns.length = row.length)
      (split : columns = before ++ found :: after) (earlier : ∀ column ∈ before, (Label.ofValue? column).isSome = true)
      (foreign : Label.ofValue? found = none) : RowFailure mapper columns rowNumber row (.row (.label found))
  | mapping {labelled : LabelledRow} {error : MapError} (made : LabelledRow.ofColumns columns row = .ok labelled)
      (failed : (mapper.mapRow labelled.cursor (.int rowNumber)).outcome = .error error) :
      RowFailure mapper columns rowNumber row (.mapping error)

/-- One record for each row, that of the row alone under its number. -/
def Mapped (mapper : Mapper) (columns : List Value) (first : Nat) (rows : List (List Value))
    (records : List Record) : Prop :=
  records.length = rows.length ∧ ∀ (place : Nat) row, rows[place]? = some row →
    ∃ record, records[place]? = some record ∧ RecordOf mapper columns (place + first) row record

/-- Some row fails and all rows before it can be mapped. -/
def FailsFirst (mapper : Mapper) (columns : List Value) (first : Nat) (rows : List (List Value))
    (error : QueryError) : Prop :=
  ∃ (place : Nat) (row : List Value), rows[place]? = some row ∧ RowFailure mapper columns (place + first) row error ∧
    ∀ earlier < place, ∀ other, rows[earlier]? = some other → ∃ record, RecordOf mapper columns (earlier + first) other record

section
variable {mapper : Mapper} {columns : List Value} {first : Nat} {row : List Value} {rows : List (List Value)}

theorem mapFetched_eq_ok_iff (record : Record) :
    mapFetched mapper columns first row = .ok record ↔ RecordOf mapper columns first row record := by
  unfold mapFetched RecordOf
  cases LabelledRow.ofColumns columns row with
  | error error => simp
  | ok labelled =>
    simp only [Except.ok.injEq, exists_eq_left']
    cases (mapper.mapRow labelled.cursor (.int first)).outcome with
    | error refused => exact iff_of_false nofun nofun
    | ok given =>
      constructor
      · intro same
        cases same
        rfl
      · intro same
        cases same
        rfl

theorem mapFetched_eq_error_iff (error : QueryError) :
    mapFetched mapper columns first row = .error error ↔ RowFailure mapper columns first row error := by
  unfold mapFetched
  constructor
  · intro failed
    split at failed
    next refused made =>
      cases failed
      rcases (LabelledRow.ofColumns_eq_error_iff columns row refused).mp made with ⟨differ, rfl⟩ | ⟨same, found, read, rfl⟩
      · exact .lengths differ
      · obtain ⟨before, after, split, earlier, foreign⟩ := (LabelledRow.readLabels_eq_error_iff columns found).mp read
        exact .label same split earlier foreign
    next labelled made =>
      cases outcome : (mapper.mapRow labelled.cursor (.int first)).outcome with
      | ok record =>
        rw [outcome] at failed
        cases failed
      | error refused =>
        rw [outcome] at failed
        cases failed
        exact .mapping made outcome
  · intro failure
    cases failure with
    | lengths differ =>
      rw [(LabelledRow.ofColumns_eq_error_iff columns row _).mpr (.inl ⟨differ, rfl⟩)]
    | @label before after found same split earlier foreign =>
      have read := (LabelledRow.readLabels_eq_error_iff columns found).mpr ⟨before, after, split, earlier, foreign⟩
      rw [(LabelledRow.ofColumns_eq_error_iff columns row _).mpr (.inr ⟨same, found, read, rfl⟩)]
    | mapping made failed =>
      simp only [made, failed]
      rfl

theorem mapped_cons_iff {record : Record} {records : List Record} :
    Mapped mapper columns first (row :: rows) (record :: records) ↔
      RecordOf mapper columns first row record ∧ Mapped mapper columns (first + 1) rows records := by
  constructor
  · rintro ⟨length, each⟩
    obtain ⟨_, same, head⟩ := each 0 row rfl
    cases same
    refine ⟨by rwa [Nat.zero_add] at head, Nat.succ.inj length, ?_⟩
    intro place other found
    obtain ⟨given, inside, mapped⟩ := each (place + 1) other found
    exact ⟨given, inside, by rwa [Nat.add_right_comm] at mapped⟩
  · rintro ⟨head, length, each⟩
    refine ⟨congrArg (· + 1) length, ?_⟩
    intro place other found
    cases place with
    | zero =>
      cases found
      exact ⟨record, rfl, by rwa [Nat.zero_add]⟩
    | succ place =>
      obtain ⟨given, inside, mapped⟩ := each place other found
      exact ⟨given, inside, by rwa [Nat.add_right_comm]⟩

theorem failsFirst_cons_iff {error : QueryError} :
    FailsFirst mapper columns first (row :: rows) error ↔
      RowFailure mapper columns first row error ∨
        (∃ record, RecordOf mapper columns first row record) ∧ FailsFirst mapper columns (first + 1) rows error := by
  constructor
  · rintro ⟨place, other, found, failed, earlier⟩
    cases place with
    | zero =>
      cases found
      exact .inl (by rwa [Nat.zero_add] at failed)
    | succ place =>
      obtain ⟨record, head⟩ := earlier 0 (Nat.zero_lt_succ _) row rfl
      refine .inr ⟨⟨record, by rwa [Nat.zero_add] at head⟩, place, other, found, by rwa [Nat.add_right_comm] at failed, ?_⟩
      intro before less row inside
      obtain ⟨given, mapped⟩ := earlier (before + 1) (Nat.succ_lt_succ less) row inside
      exact ⟨given, by rwa [Nat.add_right_comm] at mapped⟩
  · rintro (failed | ⟨⟨record, head⟩, place, other, found, failed, earlier⟩)
    · exact ⟨0, row, rfl, by rwa [Nat.zero_add], fun earlier less => absurd less (Nat.not_lt_zero earlier)⟩
    · refine ⟨place + 1, other, found, by rwa [Nat.add_right_comm], ?_⟩
      intro before less row inside
      cases before with
      | zero =>
        cases inside
        exact ⟨record, by rwa [Nat.zero_add]⟩
      | succ before =>
        obtain ⟨given, mapped⟩ := earlier before (Nat.lt_of_succ_lt_succ less) row inside
        exact ⟨given, by rwa [Nat.add_right_comm]⟩

theorem mapped_nil_iff : Mapped mapper columns first rows [] ↔ rows = [] := by
  constructor
  · rintro ⟨length, _⟩
    exact List.length_eq_zero_iff.mp length.symm
  · rintro rfl
    exact ⟨rfl, by simp⟩

theorem mapped_singleton_iff (record : Record) : Mapped mapper columns first rows [record] ↔
    ∃ row, rows = [row] ∧ RecordOf mapper columns first row record := by
  constructor
  · intro mapped
    obtain ⟨row, rfl⟩ := List.length_eq_one_iff.mp mapped.1.symm
    exact ⟨row, rfl, (mapped_cons_iff.mp mapped).1⟩
  · rintro ⟨row, rfl, head⟩
    exact mapped_cons_iff.mpr ⟨head, mapped_nil_iff.mpr rfl⟩

theorem mapRows_eq_ok_iff (records : List Record) :
    mapRows mapper columns first rows = .ok records ↔ Mapped mapper columns first rows records := by
  induction rows generalizing first records with
  | nil => simp [mapRows, Mapped, eq_comm]
  | cons row rows ih =>
    cases records with
    | nil =>
      refine iff_of_false ?_ (fun ⟨length, _⟩ => by simp at length)
      simp only [mapRows]
      cases mapFetched mapper columns first row with
      | error error => simp [bind, Except.bind]
      | ok record => cases mapRows mapper columns (first + 1) rows <;> simp [bind, Except.bind, pure, Except.pure]
    | cons given records =>
      rw [mapped_cons_iff, ← mapFetched_eq_ok_iff, ← ih, mapRows]
      cases mapFetched mapper columns first row with
      | error error => simp [bind, Except.bind]
      | ok record => cases mapRows mapper columns (first + 1) rows <;> simp [bind, Except.bind, pure, Except.pure]

theorem mapRows_eq_error_iff (error : QueryError) :
    mapRows mapper columns first rows = .error error ↔ FailsFirst mapper columns first rows error := by
  induction rows generalizing first with
  | nil => simp [mapRows, FailsFirst]
  | cons row rows ih =>
    simp only [failsFirst_cons_iff, ← mapFetched_eq_error_iff, ← mapFetched_eq_ok_iff, ← ih, mapRows]
    cases mapFetched mapper columns first row with
    | error found => simp [bind, Except.bind]
    | ok record => cases mapRows mapper columns (first + 1) rows <;> simp [bind, Except.bind, pure, Except.pure]

end

/-- How a query for all rows fails: at its first step that does. -/
inductive FetchFailure (mapper : Mapper) (params : Value) (reply : Reply) : QueryError → Prop where
  | params (refused : items? params = none) : FetchFailure mapper params reply (.notIterable params)
  | execute {fault : Fault} (iterable : (items? params).isSome = true) (failed : reply.executeFault = some fault) :
      FetchFailure mapper params reply (.driver fault)
  | fetch {fault : Fault} (iterable : (items? params).isSome = true) (executed : reply.executeFault = none)
      (failed : reply.fetchFault = some fault) : FetchFailure mapper params reply (.driver fault)
  | row {error : QueryError} (fetched : Fetched params reply) (failed : FailsFirst mapper reply.columns 1 reply.rows error) :
      FetchFailure mapper params reply error

theorem fetchResult_eq_ok_iff (mapper : Mapper) (params : Value) (reply : Reply) (records : List Record) :
    fetchResult mapper params reply = .ok records ↔
      Fetched params reply ∧ Mapped mapper reply.columns 1 reply.rows records := by
  unfold fetchResult
  split
  next refused => exact iff_of_false (by simp) fun ⟨⟨iterable, _, _⟩, _⟩ => by simp [refused] at iterable
  next failed => exact iff_of_false (by simp) fun ⟨⟨_, executed, _⟩, _⟩ => by simp [failed] at executed
  next failed => exact iff_of_false (by simp) fun ⟨⟨_, _, fetched⟩, _⟩ => by simp [failed] at fetched
  next items iterable executed fetched =>
    rw [mapRows_eq_ok_iff]
    exact ⟨fun mapped => ⟨⟨by simp [iterable], executed, fetched⟩, mapped⟩, And.right⟩

theorem fetchResult_eq_error_iff (mapper : Mapper) (params : Value) (reply : Reply) (error : QueryError) :
    fetchResult mapper params reply = .error error ↔ FetchFailure mapper params reply error := by
  unfold fetchResult
  constructor
  · intro failed
    split at failed
    next refused => cases failed; exact .params refused
    next iterable fault => cases failed; exact .execute (by simp [iterable]) fault
    next iterable executed fault => cases failed; exact .fetch (by simp [iterable]) executed fault
    next iterable executed fetched =>
      exact .row ⟨by simp [iterable], executed, fetched⟩ ((mapRows_eq_error_iff error).mp failed)
  · intro failure
    cases failure with
    | params refused => simp [refused]
    | execute iterable failed =>
      obtain ⟨items, taken⟩ := Option.isSome_iff_exists.mp iterable
      simp [taken, failed]
    | fetch iterable executed failed =>
      obtain ⟨items, taken⟩ := Option.isSome_iff_exists.mp iterable
      simp [taken, executed, failed]
    | row fetched failed =>
      obtain ⟨items, taken⟩ := Option.isSome_iff_exists.mp fetched.iterable
      simp only [taken, fetched.executed, fetched.fetched]
      exact (mapRows_eq_error_iff error).mpr failed

theorem queryForObjects_run (mapper : Mapper) (sql : String) (params : Value) (session : Session) :
    (queryForObjects mapper sql params).result session = fetchResult mapper params session.reply ∧
      ((queryForObjects mapper sql params).after session).cursors =
        session.cursors ++ [fetchCalls sql params session.reply ++ [.close]] := by
  have logged := loggingErrors_run (withCursor (fetchRecords mapper sql params)) session
  have opened := withCursor_run (fetchRecords mapper sql params) session
  have fetched := fetchRecords_run mapper sql params ⟨session.replies, session.executed, []⟩
  constructor
  · exact logged.1.trans (opened.1.trans fetched.1)
  · rw [queryForObjects, logged.2, opened.2, fetched.2]
    rfl

/-- What a query for one row makes of all records. -/
def onlyRecord : Except QueryError (List Record) → Except QueryError (Option Record)
  | .ok [] => .ok none
  | .ok [record] => .ok (some record)
  | .ok records => .error (.tooMany records.length)
  | .error error => .error error

section
variable {result : Except QueryError (List Record)}

theorem onlyRecord_eq_none_iff : onlyRecord result = .ok none ↔ result = .ok [] := by
  match result with
  | .error error => simp [onlyRecord]
  | .ok [] => simp [onlyRecord]
  | .ok [record] => simp [onlyRecord]
  | .ok (first :: second :: rest) => simp [onlyRecord]

theorem onlyRecord_eq_some_iff (record : Record) : onlyRecord result = .ok (some record) ↔ result = .ok [record] := by
  match result with
  | .error error => simp [onlyRecord]
  | .ok [] => simp [onlyRecord]
  | .ok [given] => simp [onlyRecord]
  | .ok (first :: second :: rest) => simp [onlyRecord]

theorem onlyRecord_eq_tooMany_iff (count : Nat) : onlyRecord result = .error (.tooMany count) ↔
    result = .error (.tooMany count) ∨ ∃ records, result = .ok records ∧ 2 ≤ records.length ∧ count = records.length := by
  match result with
  | .error error => simp [onlyRecord]
  | .ok [] => simp [onlyRecord]
  | .ok [given] => simp [onlyRecord]
  | .ok (first :: second :: rest) => simp [onlyRecord, eq_comm]

end

theorem queryForObject_run (mapper : Mapper) (sql : String) (params : Value) (session : Session) :
    (queryForObject mapper sql params).result session = onlyRecord ((queryForObjects mapper sql params).result session) ∧
      (queryForObject mapper sql params).after session = (queryForObjects mapper sql params).after session := by
  simp only [QueryM.result, QueryM.after, queryForObject, bind_run]
  rcases queryForObjects mapper sql params session with ⟨error | records, after⟩
  · exact ⟨rfl, rfl⟩
  · match records with
    | [] => exact ⟨rfl, rfl⟩
    | [record] => exact ⟨rfl, rfl⟩
    | first :: second :: rest => exact ⟨rfl, rfl⟩

theorem close_not_mem_fetchCalls (sql : String) (params : Value) (reply : Reply) :
    Call.close ∉ fetchCalls sql params reply := by
  unfold fetchCalls
  split
  · simp
  · split <;> simp

/-- Mapping never complains about the number of rows. -/
theorem FetchFailure.ne_tooMany {mapper : Mapper} {params : Value} {reply : Reply} {error : QueryError}
    (failure : FetchFailure mapper params reply error) (count : Nat) : error ≠ .tooMany count := by
  rintro rfl
  cases failure with
  | row fetched failed =>
    obtain ⟨_, _, _, refused, _⟩ := failed
    cases refused

/-- A query opens one cursor and closes it once, after all other calls on it. Its records
are those of the rows, each mapped alone under its number from one on, and it fails with
the error of its first failing step. A query for one row adds the check of their number,
after all of them have been mapped. -/
theorem query_outcome (mapper : Mapper) (sql : String) (params : Value) (session : Session) :
    (((queryForObjects mapper sql params).after session).cursors =
        session.cursors ++ [fetchCalls sql params session.reply ++ [.close]] ∧
      Call.close ∉ fetchCalls sql params session.reply) ∧
    (∀ records, (queryForObjects mapper sql params).result session = .ok records ↔
      Fetched params session.reply ∧ Mapped mapper session.reply.columns 1 session.reply.rows records) ∧
    (∀ error, (queryForObjects mapper sql params).result session = .error error ↔
      FetchFailure mapper params session.reply error) ∧
    (queryForObject mapper sql params).after session = (queryForObjects mapper sql params).after session ∧
    ((queryForObject mapper sql params).result session = .ok none ↔
      Fetched params session.reply ∧ session.reply.rows = []) ∧
    (∀ record, (queryForObject mapper sql params).result session = .ok (some record) ↔
      Fetched params session.reply ∧ ∃ row, session.reply.rows = [row] ∧
        RecordOf mapper session.reply.columns 1 row record) ∧
    (∀ count, (queryForObject mapper sql params).result session = .error (.tooMany count) ↔
      Fetched params session.reply ∧ 2 ≤ session.reply.rows.length ∧ count = session.reply.rows.length ∧
        ∃ records, Mapped mapper session.reply.columns 1 session.reply.rows records) ∧
    (∀ error, FetchFailure mapper params session.reply error →
      (queryForObject mapper sql params).result session = .error error) := by
  have all := queryForObjects_run mapper sql params session
  have one := queryForObject_run mapper sql params session
  refine ⟨⟨all.2, close_not_mem_fetchCalls sql params session.reply⟩, ?_, ?_, one.2, ?_, ?_, ?_, ?_⟩
  · intro records
    rw [all.1, fetchResult_eq_ok_iff]
  · intro error
    rw [all.1, fetchResult_eq_error_iff]
  · rw [one.1, all.1, onlyRecord_eq_none_iff, fetchResult_eq_ok_iff, mapped_nil_iff]
  · intro record
    rw [one.1, all.1, onlyRecord_eq_some_iff, fetchResult_eq_ok_iff, mapped_singleton_iff]
  · intro count
    rw [one.1, all.1, onlyRecord_eq_tooMany_iff, fetchResult_eq_error_iff]
    constructor
    · rintro (failure | ⟨records, result, several, rfl⟩)
      · exact absurd rfl (failure.ne_tooMany count)
      · obtain ⟨fetched, mapped⟩ := (fetchResult_eq_ok_iff mapper params session.reply records).mp result
        exact ⟨fetched, mapped.1 ▸ several, mapped.1, records, mapped⟩
    · rintro ⟨fetched, several, rfl, records, mapped⟩
      refine .inr ⟨records, ?_, mapped.1.symm ▸ several, mapped.1.symm⟩
      exact (fetchResult_eq_ok_iff mapper params session.reply records).mpr ⟨fetched, mapped⟩
  · intro error failure
    rw [one.1, all.1, (fetchResult_eq_error_iff mapper params session.reply error).mpr failure]
    rfl

end FleetLink.Query
