import Mathlib.Data.List.Forall2
import FleetLink.Settings.Load
import FleetLink.Proofs.Dictionary

/-! What settings that pass the check were made of. A check of several parts passes when
every part does, and then each part comes from what stands under its name. -/

namespace FleetLink

namespace Settings
open Check Checked

theorem field_eq_ok_iff {name : String} {check : Value → Checked α} {entries : Entries} {result : α} :
    field name check entries = .ok result ↔
      ∃ value, entries.getText? name = some value ∧ check value = .ok result := by
  unfold field
  cases entries.getText? name <;> simp [within_eq_ok_iff]

theorem part_eq_ok_iff {check : Entries → Checked α} {value : Value} {result : α} :
    part check value = .ok result ↔ ∃ entries, value = .dict entries ∧ check entries = .ok result := by
  cases value <;> simp [part, Checked.fail]

theorem pair_eq_ok_iff {check : Value → Checked α} {key value : Value} {name : String} {result : α} :
    pair check key value = .ok (name, result) ↔ text key = .ok name ∧ check value = .ok result := by
  simp [pair, seq_eq_ok_iff, map_eq_ok_iff, within_eq_ok_iff]

theorem mem_putName {name : String} {value : α} {entries : List (String × α)} {entry : String × α}
    (member : entry ∈ putName name value entries) : entry = (name, value) ∨ entry ∈ entries := by
  induction entries with
  | nil => exact .inl (List.mem_singleton.mp member)
  | cons first rest ih =>
    obtain ⟨other, old⟩ := first
    unfold putName at member
    split at member
    next same =>
      rcases List.mem_cons.mp member with here | later
      · exact .inl (same ▸ here)
      · exact .inr (List.mem_cons_of_mem _ later)
    next =>
      rcases List.mem_cons.mp member with here | later
      · exact .inr (here ▸ List.mem_cons_self)
      · exact (ih later).imp_right (List.mem_cons_of_mem _)

/-- Every name that is kept was put there with its value. -/
theorem mem_foldl_putName {entries done : List (String × α)} {entry : String × α}
    (member : entry ∈ entries.foldl (fun done (name, value) => putName name value done) done) :
    entry ∈ entries ∨ entry ∈ done := by
  induction entries generalizing done with
  | nil => exact .inr member
  | cons first rest ih =>
    rcases ih member with later | early
    · exact .inl (List.mem_cons_of_mem _ later)
    · rcases mem_putName early with rfl | old
      · exact .inl List.mem_cons_self
      · exact .inr old

theorem mem_of_pairs {check : Value → Checked α} {entries : Entries} {results : List (String × α)}
    (passed : pairs check entries = .ok results) {name : String} {result : α} (member : (name, result) ∈ results) :
    ∃ key value, (key, value) ∈ entries ∧ text key = .ok name ∧ check value = .ok result := by
  induction entries generalizing results with
  | nil =>
    cases passed
    cases member
  | cons entry rest ih =>
    obtain ⟨key, value⟩ := entry
    simp only [pairs, seq_eq_ok_iff, map_eq_ok_iff] at passed
    obtain ⟨_, others, ⟨first, head, rfl⟩, tail, rfl⟩ := passed
    rcases List.mem_cons.mp member with rfl | later
    · exact ⟨key, value, List.mem_cons_self, pair_eq_ok_iff.mp head⟩
    · obtain ⟨key, value, inside, found⟩ := ih tail later
      exact ⟨key, value, List.mem_cons_of_mem _ inside, found⟩

theorem mem_of_namesTo {check : Value → Checked α} {value : Value} {results : List (String × α)}
    (passed : namesTo check value = .ok results) {name : String} {result : α} (member : (name, result) ∈ results) :
    ∃ entries key held, value = .dict entries ∧ (key, held) ∈ entries ∧ text key = .ok name ∧
      check held = .ok result := by
  cases value with
  | dict entries =>
    obtain ⟨found, each, rfl⟩ := map_eq_ok_iff.mp passed
    rcases mem_foldl_putName member with given | none
    · obtain ⟨key, held, inside, named, checked⟩ := mem_of_pairs each given
      exact ⟨entries, key, held, rfl, inside, named, checked⟩
    · cases none
  | _ => simp [namesTo, Checked.fail] at passed

theorem check_eq_ok {entries : Entries} {settings : Settings} (passed : check entries = .ok settings) :
    field "hosts" (namesTo (part checkHost)) entries = .ok settings.hosts ∧
      field "user_management" (part checkUsers) entries = .ok settings.users := by
  simp only [check, seq_eq_ok_iff, map_eq_ok_iff] at passed
  obtain ⟨_, users, ⟨_, hosts, ⟨_, _, ⟨_, _, ⟨_, _, rfl⟩, _, rfl⟩, _, rfl⟩, named, rfl⟩, served, rfl⟩ := passed
  exact ⟨named, served⟩

theorem ofEntries_eq_ok {entries : Entries} {settings : Settings} (passed : ofEntries entries = .ok settings) :
    check entries = .ok settings ∧ ∃ host, settings.host? settings.users.host = some host := by
  unfold ofEntries at passed
  split at passed
  · cases passed
  · split at passed
    · cases passed
    next checked =>
      split at passed
      next known =>
        cases passed
        exact ⟨checked, Option.isSome_iff_exists.mp known⟩
      next => cases passed

theorem load_eq_ok {folder : Folder} {path : Option String} {environment : Environment} {lead : Option String}
    {settings : Settings} (loaded : load folder path environment lead = .ok settings) :
    ∃ document, readFile folder (path.getD defaultPath) = .ok document ∧
      ofEntries (document.overridden (overrides environment lead)) = .ok settings := by
  unfold load at loaded
  cases read : readFile folder (path.getD defaultPath) with
  | error error => simp [read, bind, Except.bind] at loaded
  | ok document => exact ⟨document, rfl, by simpa [read, bind, Except.bind] using loaded⟩

end Settings

end FleetLink
