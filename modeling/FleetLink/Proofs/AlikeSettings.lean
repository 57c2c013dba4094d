import FleetLink.Proofs.IntegerText
import FleetLink.Proofs.SettingChecks

/-! Settings that differ only in how one integer is written, as a number or as its text. The
check reads an integer from either, so it finds the same settings and the same faults in
both, unless the two stand where a text belongs. -/

namespace FleetLink.Check
open Number

theorem int_toString (n : Int) : Check.int (.text (toString n)) =
    if (toString n).length ≤ digitLimit then .ok n else .fail .intParsingSize := by
  have whole : Text.halves? (toString n) = none := by
    rw [Text.halves?_eq_none_iff, toList_toString_int]
    intro c member
    apply Text.half?_eq_none
    rcases List.mem_append.mp member with sign | digit
    · have minus : c = '-' := by
        split at sign
        · simpa using sign
        · cases sign
      rw [minus]
      decide
    · have small := (Char.isDigit_iff_toNat.mp (isDigit_of_mem_toDigits digit)).2
      exact Nat.lt_of_le_of_lt small (by decide)
  simp only [Check.int, wholeTextOr, textOr, Value.text?, Option.map_some, Checked.andThen, whole, Option.isSome_none,
    Bool.false_eq_true, if_false, intOfText, lenientInteger_toString]
  by_cases short : (toString n).length ≤ digitLimit
  · simp only [if_pos short]
  · simp only [if_neg short]

end FleetLink.Check

namespace FleetLink.Settings
open Check Checked Number

mutual

/-- The same value, but for entries under a name that hold an integer in two forms. -/
inductive Alike (leaf : String) (n : Int) : Value → Value → Prop where
  | same (value : Value) : Alike leaf n value value
  | list {items others : List Value} (each : List.Forall₂ (Alike leaf n) items others) :
      Alike leaf n (.list items) (.list others)
  | dict {entries others : Entries} (each : List.Forall₂ (AlikeEntry leaf n) entries others) :
      Alike leaf n (.dict entries) (.dict others)

inductive AlikeEntry (leaf : String) (n : Int) : Value × Value → Value × Value → Prop where
  | part (key : Value) {value other : Value} (alike : Alike leaf n value other) :
      AlikeEntry leaf n (key, value) (key, other)
  | leaf {key : Value} (named : key.text? = some leaf) : AlikeEntry leaf n (key, .text (toString n)) (key, .int n)

end

/-- Entries as `AlikeEntry` relates them, one by one. -/
abbrev AlikeEntries (leaf : String) (n : Int) : Entries → Entries → Prop := List.Forall₂ (AlikeEntry leaf n)

/-- The names under which settings hold a single integer. -/
def integerLeaves : List String :=
  ["version", "request_timeout_seconds", "connect_timeout_seconds", "max_retries"]

variable {leaf : String} {n : Int}

theorem field_congr {name : String} {check : Value → Checked α} {entries others : Entries}
    (same : (entries.getText? name).map check = (others.getText? name).map check) :
    field name check entries = field name check others := by
  unfold field
  cases one : entries.getText? name <;> cases other : others.getText? name <;> simp_all

theorem fieldOr_congr {name : String} {absent : α} {check : Value → Checked α} {entries others : Entries}
    (same : (entries.getText? name).map check = (others.getText? name).map check) :
    fieldOr name absent check entries = fieldOr name absent check others := by
  unfold fieldOr
  cases one : entries.getText? name <;> cases other : others.getText? name <;> simp_all

theorem AlikeEntries.getText? {entries others : Entries} (alike : AlikeEntries leaf n entries others) (name : String) :
    (entries.getText? name = none ∧ others.getText? name = none) ∨
      ∃ value other, entries.getText? name = some value ∧ others.getText? name = some other ∧
        (Alike leaf n value other ∨ name = leaf ∧ value = .text (toString n) ∧ other = .int n) := by
  induction alike with
  | nil => exact .inl ⟨rfl, rfl⟩
  | @cons one other rest later first _ ih =>
    cases first with
    | part key alike =>
      rw [Dict.getText?_cons, Dict.getText?_cons]
      by_cases named : key.text? = some name
      · exact .inr ⟨_, _, if_pos named, if_pos named, .inl alike⟩
      · rw [if_neg named, if_neg named]
        exact ih
    | @leaf key leads =>
      rw [Dict.getText?_cons, Dict.getText?_cons]
      by_cases named : key.text? = some name
      · have same : name = leaf := Option.some.inj (named.symm.trans leads)
        exact .inr ⟨_, _, if_pos named, if_pos named, .inr ⟨same, rfl, rfl⟩⟩
      · rw [if_neg named, if_neg named]
        exact ih

/-- A check of single values: all lists fare alike, and so do all dictionaries. -/
structure Single (check : Value → β) : Prop where
  lists : ∀ items others, check (.list items) = check (.list others)
  dicts : ∀ entries others, check (.dict entries) = check (.dict others)

theorem Single.alike {check : Value → β} (single : Single check) {value other : Value}
    (alike : Alike leaf n value other) : check value = check other := by
  cases alike with
  | same => rfl
  | list => exact single.lists _ _
  | dict => exact single.dicts _ _

theorem single_int : Single Check.int := ⟨fun _ _ => rfl, fun _ _ => rfl⟩

theorem single_text : Single Check.text := ⟨fun _ _ => rfl, fun _ _ => rfl⟩

theorem Alike.part {check : Entries → Checked β} {value other : Value} (alike : Alike leaf n value other)
    (each : ∀ entries others, value = .dict entries → other = .dict others → AlikeEntries leaf n entries others →
      check entries = check others) : part check value = part check other := by
  cases alike with
  | same => rfl
  | list => rfl
  | dict alike => exact each _ _ rfl rfl alike

theorem itemsFrom_congr {check : Value → Checked α} {items others : List Value}
    (each : List.Forall₂ (fun item other => check item = check other) items others) (place : Nat) :
    itemsFrom check place items = itemsFrom check place others := by
  induction each generalizing place with
  | nil => rfl
  | cons same _ ih => rw [itemsFrom, itemsFrom, same, ih]

theorem pairs_congr {check : Value → Checked α} {entries others : Entries}
    (each : List.Forall₂ (fun one other => one.1 = other.1 ∧ check one.2 = check other.2) entries others) :
    pairs check entries = pairs check others := by
  induction each with
  | nil => rfl
  | @cons one other _ _ same _ ih =>
    obtain ⟨key, value⟩ := one
    obtain ⟨twin, held⟩ := other
    obtain ⟨rfl, checked⟩ := same
    rw [pairs, pairs, pair, pair, checked, ih]

theorem Alike.integers {value other : Value} (alike : Alike leaf n value other) :
    listOf Check.int value = listOf Check.int other := by
  cases alike with
  | same => rfl
  | list each => exact itemsFrom_congr (each.imp fun _ _ inside => single_int.alike inside) 0
  | dict => rfl

section
variable {entries others : Entries} (alike : AlikeEntries leaf n entries others) (listed : leaf ∈ integerLeaves)
include alike

section
include listed

/-- What a check makes of the value under a name that holds no single integer. -/
theorem AlikeEntries.lookup {name : String} {check : Value → β} (foreign : name ∉ integerLeaves)
    (inner : ∀ value other, Alike leaf n value other → check value = check other) :
    (entries.getText? name).map check = (others.getText? name).map check := by
  rcases alike.getText? name with ⟨one, other⟩ | ⟨value, held, one, other, inside | ⟨same, _, _⟩⟩
  · rw [one, other]
  · rw [one, other, Option.map_some, Option.map_some, inner _ _ inside]
  · exact absurd (same ▸ listed) foreign

section
variable {name : String} {check : Value → Checked α} (foreign : name ∉ integerLeaves) (single : Single check)
include foreign single

theorem field_single : field name check entries = field name check others :=
  field_congr (alike.lookup listed foreign fun _ _ inside => single.alike inside)

theorem fieldOr_single (absent : α) : fieldOr name absent check entries = fieldOr name absent check others :=
  fieldOr_congr (alike.lookup listed foreign fun _ _ inside => single.alike inside)

end

theorem checkLog_alike : checkLog entries = checkLog others := by
  have level : fieldOr "level" "INFO" (fun value => (Check.text value).andThen checkLevel) entries = _ :=
    fieldOr_single alike listed (by decide) ⟨fun _ _ => rfl, fun _ _ => rfl⟩ _
  have format : fieldOr "json_format" none (orNull Check.bool) entries = _ :=
    fieldOr_single alike listed (by decide) ⟨fun _ _ => rfl, fun _ _ => rfl⟩ _
  rw [checkLog, checkLog, level, format]

theorem checkDatabase_alike : checkDatabase entries = checkDatabase others :=
  fieldOr_single alike listed (by decide) ⟨fun _ _ => rfl, fun _ _ => rfl⟩ _

theorem checkUsers_alike : checkUsers entries = checkUsers others := by
  have host : field "host" Check.text entries = _ :=
    field_single alike listed (by decide) ⟨fun _ _ => rfl, fun _ _ => rfl⟩
  have filter : field "filter_path" (fun value => rooted <$> Check.text value) entries = _ :=
    field_single alike listed (by decide) ⟨fun _ _ => rfl, fun _ _ => rfl⟩
  have order : fieldOr "sort_order" (some "sortOrder=DESC") (orNull Check.text) entries = _ :=
    fieldOr_single alike listed (by decide) ⟨fun _ _ => rfl, fun _ _ => rfl⟩ _
  rw [checkUsers, checkUsers, host, filter, order]

end

variable (short : (toString n).length ≤ digitLimit)
include short

theorem field_integer (name : String) : field name Check.int entries = field name Check.int others := by
  apply field_congr
  rcases alike.getText? name with ⟨one, other⟩ | ⟨value, held, one, other, inside | ⟨_, text, number⟩⟩
  · rw [one, other]
  · rw [one, other, Option.map_some, Option.map_some, single_int.alike inside]
  · rw [one, other, text, number, Option.map_some, Option.map_some, int_toString, if_pos short]
    rfl

include listed

theorem checkRetries_alike : checkRetries entries = checkRetries others := by
  have retries := field_integer alike short "max_retries"
  have factor : field "backoff_factor" Check.float entries = _ :=
    field_single alike listed (by decide) ⟨fun _ _ => rfl, fun _ _ => rfl⟩
  have statuses : field "retry_statuses" (listOf Check.int) entries = _ :=
    field_congr (alike.lookup listed (by decide) fun _ _ inside => inside.integers)
  rw [checkRetries, checkRetries, retries, factor, statuses]

theorem checkTransport_alike : checkTransport entries = checkTransport others := by
  have request := field_integer alike short "request_timeout_seconds"
  have connect := field_integer alike short "connect_timeout_seconds"
  have retries : field "retries" (part checkRetries) entries = _ :=
    field_congr (alike.lookup listed (by decide) fun _ _ inside =>
      inside.part fun _ _ _ _ within => checkRetries_alike within listed short)
  rw [checkTransport, checkTransport, request, connect, retries]

/-- The headers of a host are the one place where an integer has to be a text. -/
theorem checkHost_alike
    (headers : fieldOr "headers" [] (namesTo Check.text) entries = fieldOr "headers" [] (namesTo Check.text) others) :
    checkHost entries = checkHost others := by
  have address : field "base_url" (fun value => (Check.text value).andThen checkBaseUrl) entries = _ :=
    field_single alike listed (by decide) ⟨fun _ _ => rfl, fun _ _ => rfl⟩
  have transport : field "transport" (part checkTransport) entries = _ :=
    field_congr (alike.lookup listed (by decide) fun _ _ inside =>
      inside.part fun _ _ _ _ within => checkTransport_alike within listed short)
  rw [checkHost, checkHost, address, headers, transport]

/-- Hosts that pass alike, one by one. -/
def HostsAlike : Entries → Entries → Prop :=
  List.Forall₂ fun one other => one.1 = other.1 ∧ part checkHost one.2 = part checkHost other.2

theorem check_alike (hosts : ∀ held twin, entries.getText? "hosts" = some (.dict held) →
    others.getText? "hosts" = some (.dict twin) → HostsAlike held twin) : check entries = check others := by
  have version := field_integer alike short "version"
  have log : fieldOr "logging" {} (part checkLog) entries = _ :=
    fieldOr_congr (alike.lookup listed (by decide) fun _ _ inside =>
      inside.part fun _ _ _ _ within => checkLog_alike within listed)
  have database : fieldOr "database" defaultPlaceholder (part checkDatabase) entries = _ :=
    fieldOr_congr (alike.lookup listed (by decide) fun _ _ inside =>
      inside.part fun _ _ _ _ within => checkDatabase_alike within listed)
  have users : field "user_management" (part checkUsers) entries = _ :=
    field_congr (alike.lookup listed (by decide) fun _ _ inside =>
      inside.part fun _ _ _ _ within => checkUsers_alike within listed)
  have served : field "hosts" (namesTo (part checkHost)) entries = field "hosts" (namesTo (part checkHost)) others := by
    apply field_congr
    rcases alike.getText? "hosts" with ⟨one, other⟩ | ⟨value, held, one, other, inside | ⟨same, _, _⟩⟩
    · rw [one, other]
    · rw [one, other]
      cases inside with
      | same => rfl
      | list => rfl
      | dict => simp only [Option.map_some, namesTo, pairs_congr (hosts _ _ one other)]
    · exact absurd (same ▸ listed) (by decide)
  rw [check, check, version, log, database, served, users]

omit listed short in
theorem nameless_alike : (entries.any fun (key, _) => key.text?.isNone) = others.any fun (key, _) => key.text?.isNone := by
  induction alike with
  | nil => rfl
  | cons first _ ih =>
    rw [List.any_cons, List.any_cons, ih]
    cases first <;> rfl

/-- Settings are the same, or refused for the same reasons. -/
theorem ofEntries_alike (hosts : ∀ held twin, entries.getText? "hosts" = some (.dict held) →
    others.getText? "hosts" = some (.dict twin) → HostsAlike held twin) : ofEntries entries = ofEntries others := by
  rw [ofEntries, ofEntries, nameless_alike alike, check_alike alike listed short hosts]

end

end FleetLink.Settings
