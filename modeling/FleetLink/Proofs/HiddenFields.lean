import FleetLink.Proofs.FieldSearch
import FleetLink.Proofs.UserAnswers

/-! Fields that a search misses. A dictionary that holds null under a field hides what lies
below it, so a value may be there that is not found, and a lookup for it is told that there
is none. -/

namespace FleetLink

namespace Value

/-- Some dictionary of the document has a value under the field, wherever it lies. -/
def Holds (field : String) (document : Value) : Prop :=
  ∃ place value, document.stored? field place = some value ∧ value ≠ .null

/-- Some dictionary has a value under the field, and none on the way to it has null there. -/
def Shows (field : String) (document : Value) : Prop :=
  ∃ place value, document.stored? field place = some value ∧ value ≠ .null ∧
    ∀ above, above <+: place → above ≠ place → document.stored? field above ≠ some .null

variable {field : String} {document : Value}

/-- Of the dictionaries with the field on the way to a value that is shown, the highest holds a value too. -/
theorem exists_occurs_of_shows (shows : document.Shows field) :
    ∃ place value, Occurs field document place value ∧ value ≠ .null := by
  obtain ⟨place, value, stored, present, spared⟩ := shows
  induction place generalizing document with
  | nil => exact ⟨[], value, occurs_nil_iff.mpr stored, present⟩
  | cons number rest ih =>
    cases held : document.held? field with
    | some found =>
      refine ⟨[], found, occurs_nil_iff.mpr held, ?_⟩
      rintro rfl
      exact spared [] List.nil_prefix nofun held
    | none =>
      obtain ⟨part, listed, deeper⟩ := Option.bind_eq_some_iff.mp stored
      have below : ∀ above, above <+: rest → above ≠ rest → part.stored? field above ≠ some .null := by
        intro above leads apart null
        refine spared (number :: above) ((List.prefix_cons_inj number).mpr leads) (by simpa using apart) ?_
        rw [stored?, listed, Option.bind_some, null]
      obtain ⟨place, found, occurs, present⟩ := ih deeper below
      exact ⟨number :: place, found, occurs_cons_iff.mpr ⟨held, part, listed, occurs⟩, present⟩

theorem search?_ne_none_iff : document.search? field ≠ none ↔ document.Shows field := by
  have settles := search?_settles field document
  generalize document.search? field = outcome at settles
  cases settles with
  | @found place value first =>
    refine iff_of_true nofun ⟨place, value, first.occurs.stored, first.present, fun above leads apart null => ?_⟩
    rw [first.occurs.clear above leads apart] at null
    cases null
  | nothing null =>
    refine iff_of_false (fun found => found rfl) fun shows => ?_
    obtain ⟨place, value, occurs, present⟩ := exists_occurs_of_shows shows
    exact present (null place value occurs)

end Value

namespace Users
open Http Log

def noted (event : Event) (exchange : Exchange) : Exchange :=
  { exchange with events := exchange.events ++ [event] }

/-- The lookup answers that there is no such detail, and says so in the log. -/
def Denies (settings : Settings) (field : String) (userName email : Option String) (exchange : Exchange) : Prop :=
  detail settings field (given userName) (given email) exchange =
    (.ok "", noted (missingEvent field) ((sent settings userName email).after exchange))

theorem detail_answered (settings : Settings) (field : String) {userName email : Option String}
    (someone : ¬(said userName = none ∧ said email = none)) {exchange : Exchange} {answer : Value}
    (answered : (sent settings userName email).result exchange = .ok answer) :
    detail settings field (given userName) (given email) exchange = match answer.search? field with
      | some value => (.ok (detailText value), (sent settings userName email).after exchange)
      | none => (.ok "", noted (missingEvent field) ((sent settings userName email).after exchange)) := by
  have named : ¬(!(given userName).truth && !(given email).truth) = true := by
    simpa [truth_given] using someone
  unfold detail
  rw [if_neg named, forUser_given]
  unfold sent at answered ⊢
  simp only [bind_run, lift_run, answered, Except.mapError]
  cases answer.search? field <;> rfl

theorem denies_iff (settings : Settings) (field : String) {userName email : Option String}
    (someone : ¬(said userName = none ∧ said email = none)) {exchange : Exchange} {answer : Value}
    (answered : (sent settings userName email).result exchange = .ok answer) :
    Denies settings field userName email exchange ↔ answer.search? field = none := by
  rw [Denies, detail_answered settings field someone answered]
  cases answer.search? field with
  | none => exact iff_of_true rfl rfl
  | some value =>
    refine iff_of_false (fun same => ?_) nofun
    have events := congrArg (fun outcome => outcome.2.events.length) same
    simp [noted] at events

/-- A search of the document misses no value, nor does a lookup that is answered with it. -/
structure Complete (field : String) (document : Value) : Prop where
  found : document.Holds field → document.search? field ≠ none
  told : ∀ settings userName email exchange, ¬(said userName = none ∧ said email = none) →
    (sent settings userName email).result exchange = .ok document → document.Holds field →
      ¬Denies settings field userName email exchange

/-- Nothing is missed exactly when the document has no value under the field, or one that no null hides. -/
theorem search?_complete_iff (field : String) (document : Value) :
    Complete field document ↔ (document.Holds field → document.Shows field) := by
  constructor
  · intro complete holds
    exact Value.search?_ne_none_iff.mp (complete.found holds)
  · intro shown
    constructor
    · intro holds
      exact Value.search?_ne_none_iff.mpr (shown holds)
    · intro settings userName email exchange someone answered holds denies
      exact Value.search?_ne_none_iff.mpr (shown holds) ((denies_iff settings field someone answered).mp denies)

/-- A user without an id whose account has one. -/
def accountAnswer : Value := .dict [(.text "userId", .null), (.text "account", .dict [(.text "userId", .int 17)])]

def accountExchange : Exchange := .start (fun _ => .ok ⟨200, false, .ok accountAnswer⟩) 0

theorem search?_incomplete_of_accountAnswer :
    let settings := Settings.loadedWith "https://users.example"
    accountAnswer.stored? "userId" [1] = some (.int 17) ∧
      (sent settings (some "jane") none).result accountExchange = .ok accountAnswer ∧
      Denies settings "userId" (some "jane") none accountExchange ∧ ¬Complete "userId" accountAnswer := by
  intro settings
  have stored : accountAnswer.stored? "userId" [1] = some (.int 17) := by rfl
  have nothing : accountAnswer.search? "userId" = none := by rfl
  have answered : (sent settings (some "jane") none).result accountExchange = .ok accountAnswer := by rfl
  refine ⟨stored, answered, (denies_iff settings "userId" (by decide) answered).mpr nothing, ?_⟩
  intro complete
  exact complete.found ⟨[1], .int 17, stored, nofun⟩ nothing

end Users

end FleetLink
