import FleetLink.Proofs.CharRuns
import FleetLink.Proofs.RecordBuilding
import FleetLink.Proofs.SecureAddresses
import FleetLink.Proofs.ServiceNames

/-! Lookups of a detail with settings that were loaded. A lookup for nobody asks nothing; any
other one asks the configured host for just the users that were named, and what it finds in
the last answer is its own answer. -/

namespace FleetLink.Settings
open Check Checked

/-- Loaded settings name a level that an output can be set up with. -/
theorem level_known {entries : Entries} {settings : Settings} (passed : check entries = .ok settings) :
    settings.log.level ∈ levels := by
  simp only [check, seq_eq_ok_iff, map_eq_ok_iff] at passed
  obtain ⟨_, _, ⟨_, _, ⟨_, _, ⟨_, log, ⟨_, _, rfl⟩, logged, rfl⟩, _, rfl⟩, _, rfl⟩, _, rfl⟩ := passed
  have usual : "INFO" ∈ levels := by decide
  unfold fieldOr at logged
  split at logged
  next =>
    obtain ⟨fields, rfl, sound⟩ := part_eq_ok_iff.mp (within_eq_ok_iff.mp logged)
    simp only [checkLog, seq_eq_ok_iff, map_eq_ok_iff] at sound
    obtain ⟨_, _, ⟨level, named, rfl⟩, _, rfl⟩ := sound
    unfold fieldOr at named
    split at named
    next =>
      obtain ⟨_, _, rule⟩ := andThen_eq_ok_iff.mp (within_eq_ok_iff.mp named)
      simp only [checkLevel] at rule
      split at rule
      next listed =>
        cases rule
        simpa using listed
      next => cases rule
    next =>
      cases named
      exact usual
  next =>
    cases logged
    exact usual

end FleetLink.Settings

namespace FleetLink.Log

theorem SetUp.succeeds_of_mem_levels {level : String} (known : level ∈ Settings.levels) (jsonFormat : Option Bool)
    (service : String) : SetUp.succeeds ⟨.text level, jsonFormat, service⟩ = true := by
  have each : ∀ level ∈ Settings.levels, (thresholds.lookup (Text.upper level)).isSome = true := by decide
  exact each level known

end FleetLink.Log

namespace FleetLink.Users
open Http Record

/-- A name or an address as the caller gives it. -/
def given : Option String → Value
  | none => .null
  | some text => .text text

/-- What an input says; an empty one says as little as none. -/
def said (input : Option String) : Option String := input.filter (· ≠ "")

/-- The filter for an input, and none for one that says nothing. -/
def filterOf (key : String) (input : Option String) : Entries :=
  (said input).elim [] fun text => [(.text key, .list [.text text])]

/-- The query that a sort order stands for, split at its first equals sign. -/
inductive Sorts : Option String → Value → Prop where
  | absent : Sorts none .null
  | empty : Sorts (some "") .null
  | bare {key : String} (nonempty : key ≠ "") (plain : '=' ∉ key.toList) :
      Sorts (some key) (.dict [(.text key, .text "")])
  | split {key order : String} (plain : '=' ∉ key.toList) :
      Sorts (some (key ++ "=" ++ order)) (.dict [(.text key, .text order)])

structure Asked (settings : Settings) (host : Host) (userName email : Option String) (request : Request) : Prop where
  method : request.method = "POST"
  url : request.url = host.baseUrl ++ settings.users.filterPath
  query : Sorts settings.users.sortOrder request.params
  body : request.body = .dict (filterOf "userNames" userName ++ filterOf "emails" email)
  filtered : request.body ≠ .dict []

def isJson : Value → Bool
  | .null | .bool _ | .int _ | .float _ | .text _ | .list _ | .dict _ => true
  | _ => false

/-- The text of what was found. Values that no JSON holds are left to their spelling. -/
inductive Tells : Option Value → String → Prop where
  | missing : Tells none ""
  | list (items : List Value) : Tells (some (.list items)) ""
  | dict (entries : Entries) : Tells (some (.dict entries)) ""
  | yes : Tells (some (.bool true)) "true"
  | no : Tells (some (.bool false)) "false"
  | text (s : String) : Tells (some (.text s)) s
  | int (n : Int) : Tells (some (.int n)) (toString n)
  | float (x : Number.Binary64) : Tells (some (.float x)) x.text
  | foreign {value : Value} (foreign : isJson value = false) : Tells (some value) (value.text?.getD value.plain)

theorem sortParams_of_ne {text : String} (nonempty : text ≠ "") {key rest : List Char}
    (parts : text.toList.span (· != '=') = (key, rest)) :
    sortParams (some text) = .dict [(.text (String.ofList key), .text (String.ofList (rest.drop 1)))] := by
  have filled : text.isEmpty = false := by simpa using nonempty
  simp only [sortParams, filled, Bool.false_eq_true, if_false, parts]

theorem sortParams_sorts (sortOrder : Option String) : Sorts sortOrder (sortParams sortOrder) := by
  have before {chars : List Char} (plain : '=' ∉ chars) : ∀ c ∈ chars, (c != '=') = true := by
    intro c inside
    exact bne_iff_ne.mpr fun same => plain (same ▸ inside)
  cases sortOrder with
  | none => exact .absent
  | some text =>
    by_cases empty : text = ""
    · subst empty
      exact .empty
    by_cases sign : '=' ∈ text.toList
    · obtain ⟨key, rest, spelled, plain⟩ := List.eq_append_cons_of_mem sign
      have parts : text.toList.span (· != '=') = (key, '=' :: rest) := by
        rw [spelled]
        exact Text.span_run (before plain) (by simp)
      have whole : text = String.ofList key ++ "=" ++ String.ofList rest := by
        apply String.toList_injective
        simp [spelled]
      rw [sortParams_of_ne empty parts, whole]
      exact .split (by rwa [String.toList_ofList])
    · rw [sortParams_of_ne empty (Text.span_all (before sign)), String.ofList_toList]
      exact .bare empty sign

theorem given_silent {input : Option String} (silent : said input = none) :
    (given input).truth = false ∧ single (given input) = .null := by
  cases input with
  | none => exact ⟨rfl, rfl⟩
  | some text =>
    obtain rfl : text = "" := by simpa [said, Option.filter] using silent
    exact ⟨rfl, rfl⟩

theorem given_said {input : Option String} {text : String} (spoken : said input = some text) :
    (given input).truth = true ∧ single (given input) = .list [.text text] := by
  obtain ⟨rfl, nonempty⟩ := Option.filter_eq_some_iff.mp spoken
  have truth : (given (some text)).truth = true := by simpa [given, Value.truth] using nonempty
  exact ⟨truth, by rw [single, truth, if_pos rfl, given]⟩

/-- What a lookup holds for an input. -/
def heldOf (input : Option String) : FieldValue :=
  (said input).elim .absent fun text => .texts [text]

theorem single_given (input : Option String) : single (given input) = (heldOf input).toValue := by
  unfold heldOf
  cases told : said input with
  | none => exact (given_silent told).2
  | some text => exact (given_said told).2

theorem heldOf_admitted (input : Option String) (name key : String) :
    (optionalField name key .texts).admits (heldOf input) = true := by
  unfold heldOf
  cases said input <;> rfl

/-- The request for the named users, which says nothing of the inputs that say nothing. -/
def lookupFor (userName email : Option String) : Record := ⟨.userLookup, [heldOf userName, heldOf email]⟩

theorem forUser_given (userName email : Option String) :
    forUser (given userName) (given email) = .ok (lookupFor userName email) := by
  rw [forUser, single_given, single_given]
  apply build_eq_ok_iff.mpr
  refine ⟨rfl, .cons ?_ (.cons ?_ .nil)⟩
  · exact Field.check_eq_ok (heldOf_admitted userName _ _) (.inr rfl) rfl
  · exact Field.check_eq_ok (heldOf_admitted email _ _) (.inl rfl) rfl

theorem lookupFor_payload (userName email : Option String) :
    (lookupFor userName email).payload = filterOf "userNames" userName ++ filterOf "emails" email := by
  simp only [filterOf, lookupFor, heldOf]
  cases said userName <;> cases said email <;> rfl

theorem filters_ne_nil {userName email : Option String} (someone : ¬(said userName = none ∧ said email = none)) :
    filterOf "userNames" userName ++ filterOf "emails" email ≠ [] := by
  simp only [filterOf]
  cases user : said userName with
  | some text => simp
  | none =>
    cases address : said email with
    | some text => simp
    | none => exact absurd ⟨user, address⟩ someone

theorem asked_lookup {settings : Settings} {host : Host} {userName email : Option String} {request : Request}
    (someone : ¬(said userName = none ∧ said email = none))
    (makes : (lookupOrder settings.users (lookupFor userName email)).Makes host request) :
    Asked settings host userName email request := by
  have upper : Text.upper "POST" = "POST" := by decide
  have post : ¬"POST".toList.map Char.toUpper = ['G', 'E', 'T'] := by decide
  have body : request.body = .dict (filterOf "userNames" userName ++ filterOf "emails" email) := by
    rw [makes.body, lookupOrder, if_neg post, lookupFor_payload]
  constructor
  · rw [makes.method]
    exact upper
  · exact makes.url
  · rw [makes.params]
    exact sortParams_sorts settings.users.sortOrder
  · exact body
  · rw [body]
    intro same
    exact filters_ne_nil someone (Value.dict.inj same)

mutual

theorem search?_ne_null (field : String) : (document : Value) → document.search? field ≠ some .null
  | .dict entries => by
    unfold Value.search?
    split
    next => nofun
    next value present _ => exact fun same => present (Option.some.inj same)
    next => exact searchEntries?_ne_null field entries
  | .list items => by
    unfold Value.search?
    exact searchItems?_ne_null field items
  | .null | .bool _ | .int _ | .float _ | .decimal _ | .text _ | .bytes _ | .moment _ | .date _ | .deviceAttribute _
  | .status _ => by
    unfold Value.search?
    nofun

theorem searchItems?_ne_null (field : String) : (items : List Value) → searchItems? field items ≠ some .null
  | [] => nofun
  | item :: rest => by
    unfold searchItems?
    split
    next found => exact found ▸ search?_ne_null field item
    next => exact searchItems?_ne_null field rest

theorem searchEntries?_ne_null (field : String) :
    (entries : List (Value × Value)) → searchEntries? field entries ≠ some .null
  | [] => nofun
  | (_, value) :: rest => by
    unfold searchEntries?
    split
    next found => exact found ▸ search?_ne_null field value
    next => exact searchEntries?_ne_null field rest

end

theorem detailText_int (n : Int) : detailText (.int n) = toString n := by
  simp only [detailText, Value.text?, Option.getD_none, Value.plain, Value.exact]

theorem detailText_float (x : Number.Binary64) : detailText (.float x) = x.text := by
  simp only [detailText, Value.text?, Option.getD_none, Value.plain, Value.exact]

theorem detailText_foreign {value : Value} (foreign : isJson value = false) :
    detailText value = value.text?.getD value.plain := by
  cases value <;> first | rfl | cases foreign

theorem tells_detailText {value : Value} (present : value ≠ .null) : Tells (some value) (detailText value) := by
  cases json : isJson value with
  | false => exact detailText_foreign json ▸ .foreign json
  | true =>
    cases value with
    | null => exact absurd rfl present
    | bool b =>
      cases b
      · exact .no
      · exact .yes
    | int n => exact detailText_int n ▸ .int n
    | float x => exact detailText_float x ▸ .float x
    | text s => exact .text s
    | list items => exact .list items
    | dict entries => exact .dict entries
    | _ => cases json

/-- What was found has just one text. -/
theorem tells_iff {found : Option Value} (present : found ≠ some .null) (text : String) :
    Tells found text ↔ text = found.elim "" detailText := by
  constructor
  · intro tells
    cases tells with
    | int n => exact (detailText_int n).symm
    | float x => exact (detailText_float x).symm
    | foreign foreign => exact (detailText_foreign foreign).symm
    | _ => rfl
  · rintro rfl
    cases found with
    | none => exact .missing
    | some value => exact tells_detailText fun null => present (null ▸ rfl)

theorem truth_given (input : Option String) : (given input).truth = (said input).isSome := by
  cases told : said input with
  | none => exact (given_silent told).1
  | some text => exact (given_said told).1

/-- The sending that a lookup for somebody comes down to. -/
def sent (settings : Settings) (userName email : Option String) : HttpM Value :=
  send settings settings.users.host (lookupOrder settings.users (lookupFor userName email))

/-- A lookup for somebody comes to what its request comes to, and to the text of what is found
in the answer. -/
theorem detail_run (settings : Settings) (field : String) {userName email : Option String}
    (someone : ¬(said userName = none ∧ said email = none)) (exchange : Exchange) :
    ∃ after, ((sent settings userName email).after exchange).OnlyLogged after ∧
      detail settings field (given userName) (given email) exchange =
        ((((sent settings userName email).result exchange).mapError .http).map fun answer =>
          (answer.search? field).elim "" detailText, after) := by
  have named : ¬(!(given userName).truth && !(given email).truth) = true := by
    simpa [truth_given] using someone
  unfold detail
  rw [if_neg named, forUser_given]
  simp only [bind_run, lift_run]
  unfold sent
  cases (send settings settings.users.host (lookupOrder settings.users (lookupFor userName email))).result exchange with
  | error error => exact ⟨_, ⟨_, rfl⟩, rfl⟩
  | ok answer =>
    simp only [Except.mapError, Except.map]
    cases found : answer.search? field with
    | none => exact ⟨_, ⟨_, rfl⟩, rfl⟩
    | some value => exact ⟨_, ⟨_, rfl⟩, rfl⟩

/-- What a lookup for somebody does and comes to. The answer that no request follows decides. -/
structure Answers (settings : Settings) (host : Host) (field : String) (userName email : Option String)
    (exchange after : Exchange) (result : Except UserError String) (request : Request) (last : Nat) : Prop where
  asked : Asked settings host userName email request
  least : IsLeast {place | Stops host.transport.retries exchange.upcoming place} last
  acts : after.acts = exchange.acts ++
    ((List.range last).flatMap (fun place =>
      [.request request, .pause (host.transport.retries.backoffFactor * .ofInt (Number.twoTo place : Nat))]) ++
      [.request request])
  answer : ∀ text, result = .ok text ↔ ∃ value, Settles request.url (exchange.upcoming last) (.ok value) ∧
    Tells (value.search? field) text
  failure : ∀ error, result = .error error ↔ ∃ cause, Settles request.url (exchange.upcoming last) (.error cause) ∧
    error = .http cause
  known : ∀ name, result ≠ .error (.http (.unknownHost name))

theorem not_unknownHost_of_settles {url : String} {answer : Except Fault Response} {cause : HttpError}
    (settles : Settles url answer (.error cause)) (name : String) : cause ≠ .unknownHost name := by
  cases settles <;> nofun

theorem detail_answers {settings : Settings} {host : Host}
    (configured : settings.host? settings.users.host = some host) (bounded : host.transport.retries.maxRetries ≤ 1024)
    (field : String) {userName email : Option String} (someone : ¬(said userName = none ∧ said email = none))
    (exchange : Exchange) :
    ∃ request last, Answers settings host field userName email exchange
      (detail settings field (given userName) (given email) exchange).2
      (detail settings field (given userName) (given email) exchange).1 request last := by
  obtain ⟨request, last, makes, least, acts, outcome⟩ :=
    send_outcome configured bounded (lookupOrder settings.users (lookupFor userName email)) exchange
  obtain ⟨after, ⟨events, rfl⟩, run⟩ := detail_run settings field someone exchange
  rw [run]
  have failure (error : UserError) :
      ((((sent settings userName email).result exchange).mapError .http).map fun answer =>
          (answer.search? field).elim "" detailText) = .error error ↔
        ∃ cause, Settles request.url (exchange.upcoming last) (.error cause) ∧ error = .http cause := by
    simp only [← outcome]
    change _ ↔ ∃ cause, (sent settings userName email).result exchange = .error cause ∧ error = .http cause
    cases (sent settings userName email).result exchange <;> simp [Except.mapError, Except.map, eq_comm]
  refine ⟨request, last, asked_lookup someone makes, least, acts, ?_, failure, ?_⟩
  · intro text
    simp only [← outcome, tells_iff (search?_ne_null field _)]
    change _ ↔ ∃ value, (sent settings userName email).result exchange = .ok value ∧ _
    cases (sent settings userName email).result exchange <;> simp [Except.mapError, Except.map, eq_comm]
  · intro name unknown
    obtain ⟨cause, settles, same⟩ := (failure _).mp unknown
    exact not_unknownHost_of_settles settles name (UserError.http.inj same).symm

theorem detail_of_nobody (settings : Settings) (field : String) {userName email : Option String}
    (nobody : said userName = none ∧ said email = none) (exchange : Exchange) :
    detail settings field (given userName) (given email) exchange = (.error .noUser, exchange) := by
  have missing : (!(given userName).truth && !(given email).truth) = true := by
    simp [truth_given, nobody]
  unfold detail
  rw [if_pos missing]
  rfl

theorem detail_congr (settings : Settings) (field : String) {userName email otherName otherEmail : Option String}
    (sameName : said otherName = said userName) (sameEmail : said otherEmail = said email) :
    detail settings field (given otherName) (given otherEmail) = detail settings field (given userName) (given email) := by
  simp only [detail, truth_given, forUser_given, lookupFor, heldOf, sameName, sameEmail]

/-- A lookup with loaded settings of at most 1024 retries. For nobody it fails and asks nothing;
otherwise the configured host is asked for just those who were named, over and over up to the
answer that decides. An empty input counts as none. -/
theorem detail_outcome {folder : Folder} {path : Option String} {environment : Environment} {lead : Option String}
    {settings : Settings} (loaded : Settings.load folder path environment lead = .ok settings)
    (bounded : ∀ host, settings.host? settings.users.host = some host → host.transport.retries.maxRetries ≤ 1024)
    (field : String) (userName email : Option String) (exchange : Exchange) :
    (∀ output service, (Log.SetUp.run output ⟨.text settings.log.level, settings.log.jsonFormat, service⟩).2 = .ok ()) ∧
      (said userName = none ∧ said email = none →
        detail settings field (given userName) (given email) exchange = (.error .noUser, exchange)) ∧
      (¬(said userName = none ∧ said email = none) →
        ∃ host, settings.host? settings.users.host = some host ∧
          ∃ request last, Answers settings host field userName email exchange
            (detail settings field (given userName) (given email) exchange).2
            (detail settings field (given userName) (given email) exchange).1 request last) ∧
      ∀ otherName otherEmail, said otherName = said userName → said otherEmail = said email →
        detail settings field (given otherName) (given otherEmail) = detail settings field (given userName) (given email) := by
  obtain ⟨document, _, passed⟩ := Settings.load_eq_ok loaded
  obtain ⟨checked, host, configured⟩ := Settings.ofEntries_eq_ok passed
  refine ⟨?_, fun nobody => detail_of_nobody settings field nobody exchange, ?_, ?_⟩
  · intro output service
    rw [Log.SetUp.run_outcome, Log.SetUp.succeeds_of_mem_levels (Settings.level_known checked), if_pos rfl]
  · intro someone
    exact ⟨host, configured, detail_answers configured (bounded host configured) field someone exchange⟩
  · intro otherName otherEmail sameName sameEmail
    exact detail_congr settings field sameName sameEmail

/-- The service is busy at first and then knows one user. -/
def janeExchange : Exchange :=
  .start (fun place => .ok ⟨if place = 0 then 503 else 200, false,
    .ok (.dict [(.text "users", .list [.dict [(.text "userId", .int 17)]])])⟩) 0

theorem detail_outcome_of_jane :
    let settings := Settings.loadedWith "https://users.example"
    Settings.load (Settings.folderWith "https://users.example") none [] none = .ok settings ∧
      (∀ host, settings.host? settings.users.host = some host → host.transport.retries.maxRetries ≤ 1024) ∧
      ¬(said (some "jane") = none ∧ said (some "") = none) ∧
      (detail settings "userId" (given (some "jane")) (given (some "")) janeExchange).1 = .ok "17" := by
  intro settings
  have loaded : Settings.load (Settings.folderWith "https://users.example") none [] none = .ok settings := by rfl
  have bounded : ∀ host, settings.host? settings.users.host = some host → host.transport.retries.maxRetries ≤ 1024 := by
    rintro host ⟨⟩
    decide
  have someone : ¬(said (some "jane") = none ∧ said (some "") = none) := by decide
  obtain ⟨host, configured, request, last, answers⟩ :=
    (detail_outcome loaded bounded "userId" (some "jane") (some "") janeExchange).2.2.1 someone
  cases configured
  have failed : ¬Success 503 := by simp [Success]
  have first : last ≠ 0 := by
    rintro rfl
    rcases (stops_iff _ _ 0).mp answers.least.1 with spent | final
    · cases spent
    · exact final ⟨_, rfl, failed, List.mem_singleton_self _⟩
  have second : Stops ⟨2, .ofInt 1, [503]⟩ janeExchange.upcoming 1 := .success rfl ⟨by decide, by decide⟩
  obtain rfl : last = 1 := Nat.le_antisymm (answers.least.2 second) (Nat.pos_of_ne_zero first)
  refine ⟨loaded, bounded, someone, (answers.answer "17").mpr ⟨_, .decoded ⟨?_, ?_⟩ ?_ rfl, .int 17⟩⟩
  all_goals decide

end FleetLink.Users
