import FleetLink.Proofs.FilterText
import FleetLink.Proofs.Marks

/-! The lookups over devices and their associations. A lookup that cannot be put into a
statement fails before the database is asked anything. Any other one executes one
statement on a cursor of its own, in which a placeholder stands behind every column that
is compared, and the cursor is closed whatever the database replies. -/

namespace FleetLink.Query
open Row Text

/-- What can be looked up. -/
inductive Inquiry where
  | latestSim (reference : Value)
  | association (conditions : Entries)
  | active (conditions : Entries)

/-- The conditions make a filter: there are some, and all their keys name attributes. -/
def Sound (conditions : Entries) : Prop := conditions ≠ [] ∧ ∀ key ∈ conditions.map Prod.fst, ∃ a, Names key a

/-- A condition compares the column of the attribute that its key names. -/
def Compared (condition : Value × Value) (column : String × Value) : Prop :=
  ∃ a, Names condition.1 a ∧ column = (a.reference, condition.2)

namespace Inquiry

def Answer : Inquiry → Type
  | .latestSim _ | .association _ => Option Record
  | .active _ => Bool

def run (placeholder : String) : (inquiry : Inquiry) → QueryM inquiry.Answer
  | .latestSim reference => findLatestSim placeholder reference
  | .association conditions => findAssociation placeholder conditions
  | .active conditions => hasActiveAssociation placeholder conditions

/-- The same inquiry made of lookups that know their placeholder. -/
def ask (lookups : Lookups) : (inquiry : Inquiry) → QueryM inquiry.Answer
  | .latestSim reference => lookups.findLatestSim reference
  | .association conditions => lookups.findAssociation conditions
  | .active conditions => lookups.hasActiveAssociation conditions

def Sound : Inquiry → Prop
  | .latestSim _ => True
  | .association conditions | .active conditions => Query.Sound conditions

/-- The columns that an inquiry compares, each with the value it is compared with. -/
inductive Compares : Inquiry → List (String × Value) → Prop where
  | latestSim (reference : Value) : Compares (.latestSim reference) [("reference_id", reference)]
  | association {conditions : Entries} {columns : List (String × Value)} (each : List.Forall₂ Compared conditions columns) :
      Compares (.association conditions) columns
  | active {conditions : Entries} {columns : List (String × Value)} (each : List.Forall₂ Compared conditions columns) :
      Compares (.active conditions) columns

end Inquiry

/-- What stands before the placeholder of a column. -/
def leading (column : String) : String := " " ++ (column ++ " = ")

/-- A placeholder stands behind each column that is compared and nowhere else, and the
parameters are the values in the order of the placeholders. -/
structure Statement.Carries (statement : Statement) (placeholder : String) (columns : List (String × Value)) : Prop where
  params : statement.params = columns.map Prod.snd
  marks : ∃ places : List Nat, places.Pairwise (· < ·) ∧
    (∀ place, Stands placeholder.toList statement.sql.toList place ↔ place ∈ places) ∧
    List.Forall₂ (fun column place => (leading column.1).toList <:+ statement.sql.toList.take place) columns places

/-- One cursor is opened; the statement is executed on it first and once, and it is closed
last and once. -/
def Session.AsksOnce (before after : Session) (statement : Statement) : Prop :=
  ∃ fetches : List Call, (∀ call ∈ fetches, call = .fetchAll ∨ call = .fetchOne) ∧
    after.cursors = before.cursors ++ [.execute statement.sql statement.params :: fetches ++ [.close]]

/-- The known placeholders begin with a character that they do not hold again. -/
theorem placeholder_cases {placeholder : String} (known : placeholder = "?" ∨ placeholder = "%s") :
    ∃ first more, placeholder.toList = first :: more ∧ first ∉ more ∧ (first = '?' ∨ first = '%') := by
  rcases known with rfl | rfl
  · exact ⟨'?', [], rfl, by simp, .inl rfl⟩
  · exact ⟨'%', ['s'], rfl, by decide, .inr rfl⟩

/-- No placeholder begins in the text. -/
def Unmarked (text : String) : Prop := '?' ∉ text.toList ∧ '%' ∉ text.toList

instance (text : String) : Decidable (Unmarked text) := inferInstanceAs (Decidable (_ ∧ _))

theorem Unmarked.not_mem {text : String} (unmarked : Unmarked text) {first : Char} (mark : first = '?' ∨ first = '%') :
    first ∉ text.toList := by
  rcases mark with rfl | rfl
  · exact unmarked.1
  · exact unmarked.2

theorem Unmarked.append {text more : String} (one : Unmarked text) (other : Unmarked more) : Unmarked (text ++ more) := by
  rw [Unmarked, String.toList_append]
  exact ⟨List.not_mem_append one.1 other.1, List.not_mem_append one.2 other.2⟩

theorem reference_unmarked (a : Attribute) : Unmarked a.reference := by
  cases a <;> decide +kernel

theorem joinText_unmarked : Unmarked joinText := by decide +kernel

theorem associationOpening_unmarked : Unmarked associationOpening := by
  unfold associationOpening
  refine .append (.append (.append (.append (.append (.append (.append (.append ?_ ?_) ?_) ?_) joinText_unmarked) ?_) ?_) ?_) ?_
  all_goals decide +kernel

theorem countOpening_unmarked : Unmarked countOpening := by
  unfold countOpening
  refine .append (.append (.append (.append (.append ?_ joinText_unmarked) ?_) ?_) ?_) ?_
  all_goals decide +kernel

theorem carries_of_gaps {placeholder : String} (known : placeholder = "?" ∨ placeholder = "%s") {statement : Statement}
    {columns : List (String × Value)} (gaps : List String) (tail : String)
    (params : statement.params = columns.map Prod.snd)
    (text : statement.sql.toList = marked placeholder.toList (gaps.map String.toList) tail.toList)
    (unmarked : ∀ gap ∈ gaps, Unmarked gap) (ending : Unmarked tail)
    (ends : List.Forall₂ (· <:+ ·) (columns.map fun column => (leading column.1).toList) (gaps.map String.toList)) :
    statement.Carries placeholder columns := by
  obtain ⟨first, more, spelled, single, mark⟩ := placeholder_cases known
  refine ⟨params, markPlaces placeholder.toList 0 (gaps.map String.toList), ?_, ?_, ?_⟩
  · exact markPlaces_sorted (by simp [spelled]) 0 _
  · intro place
    have clean : ∀ gap ∈ gaps.map String.toList, first ∉ gap :=
      List.forall_mem_map.mpr fun gap member => (unmarked gap member).not_mem mark
    rw [text, spelled, stands_marked_iff single clean (ending.not_mem mark) 0 place, Nat.zero_add]
  · have behind := gaps_end ends placeholder.toList [] tail.toList
    rw [List.nil_append, ← text] at behind
    exact List.forall₂_map_left_iff.mp behind

/-- The texts before the placeholders of a filter: the first one opens the statement, the
others join a column to the one before. -/
def gaps (opening : String) : List String → List String
  | [] => []
  | column :: rest => (opening ++ (column ++ " = ")) :: gaps andOperator rest

theorem filter_text (opening placeholder column : String) (rest : List String) :
    (opening ++ andOperator.intercalate ((column :: rest).map fun column => column ++ " = " ++ placeholder)).toList =
      marked placeholder.toList ((gaps opening (column :: rest)).map String.toList) "".toList := by
  induction rest generalizing opening column with
  | nil => simp [gaps, marked]
  | cons next rest ih =>
    have later := ih andOperator next
    simp only [String.toList_append, String.toList_intercalate, List.map_cons, gaps, marked] at later ⊢
    rw [List.intercalate_cons_cons]
    simp only [List.append_assoc] at later ⊢
    rw [later]

theorem gaps_unmarked {opening : String} (opens : Unmarked opening) {columns : List String}
    (each : ∀ column ∈ columns, Unmarked column) : ∀ gap ∈ gaps opening columns, Unmarked gap := by
  induction columns generalizing opening with
  | nil => exact List.forall_mem_nil _
  | cons column rest ih =>
    obtain ⟨first, others⟩ := List.forall_mem_cons.mp each
    refine List.forall_mem_cons.mpr ⟨opens.append (first.append (by decide)), ih (by decide) others⟩

theorem leading_suffix {opening : String} (blank : [' '] <:+ opening.toList) (column : String) :
    (leading column).toList <:+ (opening ++ (column ++ " = ")).toList := by
  obtain ⟨lead, same⟩ := blank
  rw [leading, String.toList_append, @String.toList_append opening, ← same, List.append_assoc]
  exact List.suffix_append lead _

theorem gaps_leading {opening : String} (blank : [' '] <:+ opening.toList) (columns : List String) :
    List.Forall₂ (· <:+ ·) (columns.map fun column => (leading column).toList) ((gaps opening columns).map String.toList) := by
  induction columns generalizing opening with
  | nil => exact .nil
  | cons column rest ih => exact .cons (leading_suffix blank column) (ih (by decide))

theorem ends_with_operator (text : String) : [' '] <:+ (text ++ andOperator).toList := by
  rw [String.toList_append]
  exact List.IsSuffix.trans (by decide) (List.suffix_append _ _)

/-- The columns of attributes that the keys of conditions name. -/
theorem exists_compared {conditions : Entries} {found : List Attribute} (named : AllName conditions found) :
    ∃ columns, List.Forall₂ Compared conditions columns ∧ columns.map Prod.fst = found.map Attribute.reference ∧
      columns.map Prod.snd = conditions.map Prod.snd := by
  induction named with
  | nil => exact ⟨[], .nil, rfl, rfl⟩
  | @cons entry a conditions found names _ ih =>
    obtain ⟨columns, each, references, values⟩ := ih
    refine ⟨(a.reference, entry.2) :: columns, .cons ⟨a, names, rfl⟩ each, ?_, ?_⟩
    · rw [List.map_cons, references, List.map_cons]
    · rw [List.map_cons, values, List.map_cons]

theorem filter_carries {placeholder : String} (known : placeholder = "?" ∨ placeholder = "%s") {opening : String}
    (opens : Unmarked opening) (blank : [' '] <:+ opening.toList) {conditions : Entries} (given : conditions ≠ [])
    {found : List Attribute} (named : AllName conditions found) :
    ∃ columns, List.Forall₂ Compared conditions columns ∧
      (statementOf opening andOperator placeholder conditions found).Carries placeholder columns := by
  obtain ⟨columns, each, references, values⟩ := exists_compared named
  refine ⟨columns, each,
    carries_of_gaps known (gaps opening (columns.map Prod.fst)) "" values.symm ?_ ?_ (by decide) ?_⟩
  · have terms : (found.map fun a => a.reference ++ " = " ++ placeholder) =
        (columns.map Prod.fst).map fun column => column ++ " = " ++ placeholder := by
      rw [references, List.map_map]
      rfl
    rw [statementOf, terms]
    cases each with
    | nil => exact absurd rfl given
    | @cons _ column _ columns => exact filter_text opening placeholder column.1 (columns.map Prod.fst)
  · rw [references]
    exact gaps_unmarked opens (List.forall_mem_map.mpr fun a _ => reference_unmarked a)
  · have leads := gaps_leading blank (columns.map Prod.fst)
    rw [List.map_map] at leads
    exact leads

def latestSimOpening : String := "select tran_id, tran_status from " ++ Table.simDetails.name ++ " where reference_id = "

theorem marked_once (gap mark tail : String) :
    (gap ++ mark ++ tail).toList = marked mark.toList ([gap].map String.toList) tail.toList := by
  simp only [String.toList_append, List.map_cons, List.map_nil, marked]

theorem latestSim_carries {placeholder : String} (known : placeholder = "?" ∨ placeholder = "%s") (reference : Value) :
    Statement.Carries ⟨latestSimText placeholder, [reference]⟩ placeholder [("reference_id", reference)] := by
  have ends : (leading "reference_id").toList <:+ latestSimOpening.toList := by decide +kernel
  refine carries_of_gaps known [latestSimOpening] " order by createdon desc limit 1" rfl ?_ ?_ ?_ (.cons ends .nil)
  · exact marked_once latestSimOpening placeholder _
  · exact List.forall_mem_singleton.mpr (by decide +kernel)
  · decide +kernel

theorem fetchOne_run (reply : Reply) (cursor : OpenCursor) :
    fetchOne reply cursor =
      (unlessFault reply.fetchFault reply.rows.head?, { cursor with calls := cursor.calls ++ [.fetchOne] }) := by
  obtain ⟨columns, rows, executeFault, fetchFault⟩ := reply
  cases fetchFault <;> rfl

/-- The truth of the first value of the first row. -/
def firstTruth : List (List Value) → Except QueryError Bool
  | [] => .ok false
  | [] :: _ => .error .emptyRow
  | (value :: _) :: _ => .ok value.truth

def truthResult (reply : Reply) : Except QueryError Bool :=
  match reply.executeFault, reply.fetchFault with
  | some fault, _ => .error (.driver fault)
  | none, some fault => .error (.driver fault)
  | none, none => firstTruth reply.rows

def truthCalls (statement : Statement) (reply : Reply) : List Call :=
  .execute statement.sql statement.params :: if reply.executeFault.isNone then [.fetchOne] else []

theorem fetchTruth_run (statement : Statement) (cursor : OpenCursor) :
    (fetchTruth statement cursor).1 = truthResult (cursor.replies cursor.executed) ∧
      (fetchTruth statement cursor).2.calls =
        cursor.calls ++ truthCalls statement (cursor.replies cursor.executed) := by
  unfold fetchTruth truthResult truthCalls
  simp only [bind_run, execute_run, fetchOne_run]
  generalize cursor.replies cursor.executed = reply
  obtain ⟨columns, rows, executeFault, fetchFault⟩ := reply
  cases executeFault with
  | some fault => exact ⟨rfl, rfl⟩
  | none =>
    cases fetchFault with
    | some fault => exact ⟨rfl, List.append_assoc ..⟩
    | none =>
      match rows with
      | [] => exact ⟨rfl, List.append_assoc ..⟩
      | [] :: rest => exact ⟨rfl, List.append_assoc ..⟩
      | (value :: others) :: rest => exact ⟨rfl, List.append_assoc ..⟩

/-- Without a row nothing is active; otherwise the first value of the first row tells. -/
inductive Tells (rows : List (List Value)) : Bool → Prop where
  | absent (none : rows = []) : Tells rows false
  | first {value : Value} {others : List Value} {rest : List (List Value)} (fetched : rows = (value :: others) :: rest) :
      Tells rows value.truth

theorem firstTruth_eq_ok_iff (rows : List (List Value)) (truth : Bool) :
    firstTruth rows = .ok truth ↔ Tells rows truth := by
  constructor
  · intro found
    match rows with
    | [] =>
      cases found
      exact .absent rfl
    | [] :: _ => cases found
    | (value :: others) :: rest =>
      cases found
      exact .first rfl
  · intro tells
    cases tells with
    | absent none => rw [none, firstTruth]
    | first fetched => rw [fetched, firstTruth]

theorem truthResult_eq_ok_iff (reply : Reply) (truth : Bool) :
    truthResult reply = .ok truth ↔
      reply.executeFault = none ∧ reply.fetchFault = none ∧ Tells reply.rows truth := by
  rw [← firstTruth_eq_ok_iff]
  unfold truthResult
  cases reply.executeFault <;> cases reply.fetchFault <;> simp

theorem exists_allName_iff (conditions : Entries) :
    (∃ found, AllName conditions found) ↔ ∀ key ∈ conditions.map Prod.fst, ∃ a, Names key a := by
  induction conditions with
  | nil => exact iff_of_true ⟨[], .nil⟩ (List.forall_mem_nil _)
  | cons entry rest ih =>
    rw [List.map_cons, List.forall_mem_cons, ← ih]
    constructor
    · rintro ⟨_, names⟩
      cases names with
      | cons first others => exact ⟨⟨_, first⟩, _, others⟩
    · rintro ⟨⟨a, first⟩, found, others⟩
      exact ⟨a :: found, .cons first others⟩

theorem filtered_sound {opening : String} (opens : opening ≠ "") (placeholder : String) {conditions : Entries}
    (sound : Sound conditions) :
    ∃ found, AllName conditions found ∧ filtered opening andOperator placeholder conditions =
      .ok (statementOf opening andOperator placeholder conditions found) := by
  obtain ⟨found, names⟩ := (exists_allName_iff conditions).mpr sound.2
  exact ⟨found, names, (filtered_eq_ok_iff _).mpr ⟨⟨opens, by decide, sound.1⟩, found, names, rfl⟩⟩

theorem filtered_unsound (opening placeholder : String) {conditions : Entries} (unsound : ¬Sound conditions) :
    ∃ error, filtered opening andOperator placeholder conditions = .error error := by
  cases outcome : filtered opening andOperator placeholder conditions with
  | error error => exact ⟨error, rfl⟩
  | ok statement =>
    obtain ⟨complete, found, names, _⟩ := (filtered_eq_ok_iff statement).mp outcome
    exact absurd ⟨complete.conditions, (exists_allName_iff conditions).mp ⟨found, names⟩⟩ unsound

/-- A filter that cannot be built ends the work that needs it, and leaves the session as it is. -/
theorem refused_run (opening placeholder : String) {conditions : Entries} (unsound : ¬Sound conditions)
    (next : Statement → QueryM α) (session : Session) :
    ∃ error, (buildFilter opening andOperator placeholder conditions >>= next) session = (.error (.filter error), session) := by
  obtain ⟨error, failed⟩ := filtered_unsound opening placeholder unsound
  exact ⟨error, by simp only [bind_run, buildFilter_run, failed]⟩

theorem filter_run {opening placeholder : String} {conditions : Entries} {statement : Statement}
    (built : filtered opening andOperator placeholder conditions = .ok statement) (next : Statement → QueryM α)
    (session : Session) :
    (buildFilter opening andOperator placeholder conditions >>= next) session =
      next statement { session with events := session.events ++ [statement.prepared] } := by
  simp only [bind_run, buildFilter_run, built]

theorem queryForObject_asksOnce (mapper : Mapper) (statement : Statement) (session : Session) :
    session.AsksOnce ((queryForObject mapper statement.sql (.list statement.params)).after session) statement := by
  refine ⟨if session.reply.executeFault.isNone then [.fetchAll] else [], ?_, ?_⟩
  · split <;> simp
  · rw [(queryForObject_run mapper statement.sql (.list statement.params) session).2,
      (queryForObjects_run mapper statement.sql (.list statement.params) session).2]
    rfl

theorem fetchTruth_asksOnce (statement : Statement) (session : Session) :
    session.AsksOnce ((withCursor (fetchTruth statement)).after session) statement := by
  refine ⟨if session.reply.executeFault.isNone then [.fetchOne] else [], ?_, ?_⟩
  · split <;> simp
  · rw [(withCursor_run (fetchTruth statement) session).2, (fetchTruth_run statement _).2]
    rfl

theorem ne_empty_of_blank {opening : String} (blank : [' '] <:+ opening.toList) : opening ≠ "" := by
  rintro rfl
  exact absurd blank (by decide)

/-- Work on a filter that asks its statement once. -/
theorem filter_asksOnce {placeholder : String} (known : placeholder = "?" ∨ placeholder = "%s") {opening : String}
    (opens : Unmarked opening) (blank : [' '] <:+ opening.toList) {conditions : Entries} (sound : Sound conditions)
    {next : Statement → QueryM α}
    (asks : ∀ statement (session : Session), session.AsksOnce ((next statement).after session) statement)
    (session : Session) :
    ∃ statement columns, List.Forall₂ Compared conditions columns ∧ statement.Carries placeholder columns ∧
      session.AsksOnce ((buildFilter opening andOperator placeholder conditions >>= next).after session) statement := by
  obtain ⟨found, named, built⟩ := filtered_sound (ne_empty_of_blank blank) placeholder sound
  obtain ⟨columns, each, carries⟩ := filter_carries known opens blank sound.1 named
  refine ⟨_, columns, each, carries, ?_⟩
  rw [QueryM.after, filter_run built next session]
  exact asks _ _

theorem associationOpening_blank : [' '] <:+ associationOpening.toList := ends_with_operator _

theorem countOpening_blank : [' '] <:+ countOpening.toList := ends_with_operator _

/-- What a lookup does and what it comes to. Conditions that make no filter end it before
the database is asked. Otherwise, whatever the database replies, one statement is executed
on one cursor, with a placeholder behind every column that is compared and the values as
parameters in their order. Lookups that know their placeholder do the same. -/
theorem inquiry_outcome {placeholder : String} (known : placeholder = "?" ∨ placeholder = "%s") (inquiry : Inquiry)
    (session : Session) :
    (∀ lookups : Lookups, lookups.placeholder = placeholder → inquiry.ask lookups = inquiry.run placeholder) ∧
    (¬inquiry.Sound → (∃ error, (inquiry.run placeholder).result session = .error (.filter error)) ∧
      (inquiry.run placeholder).after session = session) ∧
    (inquiry.Sound → ∃ statement columns, inquiry.Compares columns ∧ statement.Carries placeholder columns ∧
      session.AsksOnce ((inquiry.run placeholder).after session) statement) ∧
    (∀ conditions, Sound conditions → ∀ truth, (hasActiveAssociation placeholder conditions).result session = .ok truth ↔
      session.reply.executeFault = none ∧ session.reply.fetchFault = none ∧ Tells session.reply.rows truth) := by
  refine ⟨?_, ?_, ?_, ?_⟩
  · rintro lookups rfl
    cases inquiry <;> rfl
  · intro unsound
    cases inquiry with
    | latestSim reference => exact absurd trivial unsound
    | association conditions =>
      obtain ⟨error, run⟩ := refused_run associationOpening placeholder unsound
        (fun statement => queryForObject .association statement.sql (.list statement.params)) session
      exact ⟨⟨error, congrArg Prod.fst run⟩, congrArg Prod.snd run⟩
    | active conditions =>
      obtain ⟨error, run⟩ := refused_run countOpening placeholder unsound
        (fun statement => withCursor (fetchTruth statement)) session
      exact ⟨⟨error, congrArg Prod.fst run⟩, congrArg Prod.snd run⟩
  · intro sound
    cases inquiry with
    | latestSim reference =>
      exact ⟨_, _, .latestSim reference, latestSim_carries known reference,
        queryForObject_asksOnce .simDetails ⟨latestSimText placeholder, [reference]⟩ session⟩
    | association conditions =>
      obtain ⟨statement, columns, each, carries, asked⟩ := filter_asksOnce known associationOpening_unmarked
        associationOpening_blank sound (queryForObject_asksOnce .association) session
      exact ⟨statement, columns, .association each, carries, asked⟩
    | active conditions =>
      obtain ⟨statement, columns, each, carries, asked⟩ := filter_asksOnce known countOpening_unmarked
        countOpening_blank sound fetchTruth_asksOnce session
      exact ⟨statement, columns, .active each, carries, asked⟩
  · intro conditions sound truth
    obtain ⟨found, named, built⟩ := filtered_sound (ne_empty_of_blank countOpening_blank) placeholder sound
    rw [← truthResult_eq_ok_iff, QueryM.result, hasActiveAssociation, filter_run built]
    have run := (fetchTruth_run (statementOf countOpening andOperator placeholder conditions found)
      ⟨session.replies, session.executed, []⟩).1
    exact Eq.congr_left run

theorem Compared.eq {condition : Value × Value} {column : String × Value} (compared : Compared condition column)
    {a : Attribute} (named : attribute? condition.1 = some a) : column = (a.reference, condition.2) := by
  obtain ⟨other, names, rfl⟩ := compared
  have same := (attribute?_eq_some_iff condition.1 other).mpr names
  rw [named] at same
  cases same
  rfl

/-- The second value spells placeholders, which its own one leaves alone. -/
def markedConditions : Entries := [(.text "IMEI", .int 356), (.deviceAttribute .userId, .text "%s or ?")]

def countingSession : Session := ⟨fun _ => ⟨[.text "count"], [[.int 2]], none, none⟩, 0, [], []⟩

theorem inquiry_outcome_of_marked :
    ("%s" = "?" ∨ "%s" = "%s") ∧ (Inquiry.association markedConditions).Sound ∧
      (∃ statement : Statement, statement.Carries "%s" [("a.imei", .int 356), ("b.user_id", .text "%s or ?")] ∧
        countingSession.AsksOnce ((findAssociation "%s" markedConditions).after countingSession) statement) ∧
      (hasActiveAssociation "%s" markedConditions).result countingSession = .ok true := by
  have known : "%s" = "?" ∨ "%s" = "%s" := .inr rfl
  have sound : Sound markedConditions := by
    refine ⟨by simp [markedConditions], List.forall_mem_cons.mpr ⟨⟨.imei, .name .imei⟩, ?_⟩⟩
    exact List.forall_mem_singleton.mpr ⟨.userId, .itself .userId⟩
  obtain ⟨_, _, asks, tells⟩ := inquiry_outcome known (.association markedConditions) countingSession
  refine ⟨known, sound, ?_, (tells markedConditions sound true).mpr ⟨rfl, rfl, .first rfl⟩⟩
  obtain ⟨statement, columns, compares, carries, asked⟩ := asks sound
  refine ⟨statement, ?_, asked⟩
  cases compares with
  | association each =>
    obtain ⟨first, _, head, rest, rfl⟩ := List.forall₂_cons_left_iff.mp each
    obtain ⟨second, _, next, done, rfl⟩ := List.forall₂_cons_left_iff.mp rest
    rw [List.forall₂_nil_left_iff.mp done] at carries
    obtain rfl : first = ("a.imei", .int 356) := head.eq (a := .imei) rfl
    obtain rfl : second = ("b.user_id", .text "%s or ?") := next.eq (a := .userId) rfl
    exact carries

end FleetLink.Query
