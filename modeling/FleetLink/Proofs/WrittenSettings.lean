import FleetLink.Proofs.AlikeSettings
import FleetLink.Proofs.SharedCells

/-! An integer written into settings, as a number or as its text. Where one value stands in
several places it is written into all of them, and then the headers of a host can be among
them. -/

namespace FleetLink.Settings
open Check Checked Number

variable {leaf : String} {n : Int}

/-- Entries that are the same but for one that is put under a name. -/
theorem forall₂_put {related : Value × α → Value × α → Prop} (same : ∀ entry, related entry entry) {name : String}
    {value other : α} (new : ∀ key : Value, key.text? = some name → related (key, value) (key, other)) (dict : Dict α) :
    List.Forall₂ related (dict.put (.text name) value) (dict.put (.text name) other) := by
  induction dict with
  | nil => exact .cons (new _ rfl) .nil
  | cons entry rest ih =>
    obtain ⟨key, held⟩ := entry
    rw [Dict.put_text_cons, Dict.put_text_cons]
    split
    next named => exact .cons (new key named) (List.forall₂_same.mpr fun entry _ => same entry)
    next => exact .cons (same _) ih

theorem AlikeEntry.refl (entry : Value × Value) : AlikeEntry leaf n entry entry := .part entry.1 (.same entry.2)

theorem alike_putPath {path : List String} (last : path.getLast? = some leaf) (entries : Entries) :
    AlikeEntries leaf n (entries.putPath (.text (toString n)) path) (entries.putPath (.int n) path) := by
  induction path generalizing entries with
  | nil => cases last
  | cons name rest ih =>
    rw [Entries.putPath_cons, Entries.putPath_cons]
    apply forall₂_put AlikeEntry.refl
    intro key named
    cases rest with
    | nil =>
      obtain rfl : name = leaf := by simpa using last
      exact .leaf named
    | cons next more =>
      rw [List.getLast?_cons_cons] at last
      exact .part key (.dict (ih last (entries.inner name)))

/-- The paths of the settings that hold a single integer. -/
inductive IntegerPath : List String → Prop where
  | version : IntegerPath ["version"]
  | requestTimeout (host : String) : IntegerPath ["hosts", host, "transport", "request_timeout_seconds"]
  | connectTimeout (host : String) : IntegerPath ["hosts", host, "transport", "connect_timeout_seconds"]
  | maxRetries (host : String) : IntegerPath ["hosts", host, "transport", "retries", "max_retries"]

theorem IntegerPath.last {path : List String} (integer : IntegerPath path) :
    ∃ leaf ∈ integerLeaves, path.getLast? = some leaf := by
  cases integer with
  | version => exact ⟨"version", by decide, rfl⟩
  | requestTimeout => exact ⟨"request_timeout_seconds", by decide, rfl⟩
  | connectTimeout => exact ⟨"connect_timeout_seconds", by decide, rfl⟩
  | maxRetries => exact ⟨"max_retries", by decide, rfl⟩

theorem IntegerPath.cases {path : List String} (integer : IntegerPath path) :
    path = ["version"] ∨ ∃ host rest, path = "hosts" :: host :: "transport" :: rest := by
  cases integer with
  | version => exact .inl rfl
  | _ => exact .inr ⟨_, _, rfl⟩

theorem HostsAlike.refl (hosts : Entries) : HostsAlike hosts hosts := List.forall₂_same.mpr fun _ _ => ⟨rfl, rfl⟩

/-- In a tree the text stands in one place, and what is read there is an integer. -/
theorem ofEntries_putPath_alike {path : List String} (integer : IntegerPath path)
    (short : (toString n).length ≤ digitLimit) (entries : Entries) :
    ofEntries (entries.putPath (.text (toString n)) path) = ofEntries (entries.putPath (.int n) path) := by
  obtain ⟨leaf, listed, last⟩ := integer.last
  apply ofEntries_alike (alike_putPath last entries) listed short
  intro held twin one other
  rcases integer.cases with rfl | ⟨host, rest, rfl⟩
  · rw [Entries.putPath_cons, Dict.getText?_put, if_neg (by decide)] at one other
    cases one.symm.trans other
    exact .refl _
  · have inside : ("transport" :: rest).getLast? = some leaf := by
      simpa only [List.getLast?_cons_cons] using last
    rw [Entries.putPath_cons, Dict.getText?_put, if_pos rfl] at one other
    cases one
    cases other
    rw [Entries.putPath_cons, Entries.putPath_cons]
    apply forall₂_put fun _ => ⟨rfl, rfl⟩
    intro key _
    refine ⟨rfl, ?_⟩
    have headers (value : Value) (fields : Entries) :
        (fields.putPath value ("transport" :: rest)).getText? "headers" = fields.getText? "headers" := by
      rw [Entries.putPath_cons, Dict.getText?_put, if_neg (by decide)]
    apply checkHost_alike (alike_putPath inside _) listed short
    apply fieldOr_congr
    rw [headers, headers]

/-- Cells with an integer put into the dictionary at a place, as its text. -/
def texted (leaf : String) (n : Int) (seat : Nat) (shared : Shared) : Shared :=
  shared.put leaf (.leaf (.text (toString n))) seat

/-- Cells with an integer put into the dictionary at a place, as a number. -/
def numbered (leaf : String) (n : Int) (seat : Nat) (shared : Shared) : Shared :=
  shared.put leaf (.leaf (.int n)) seat

/-- What stands at a place is the headers of one of the hosts. -/
def IsHeaders (shared : Shared) (place : Nat) : Prop :=
  ∃ hosts entry, (shared.entries shared.root).getText? "hosts" = some hosts ∧ entry ∈ shared.entries hosts ∧
    (shared.entries entry.2).getText? "headers" = some place

section
variable {shared : Shared} (whole : shared.Whole) {seat : Nat}

theorem cell_texted {place : Nat} (old : place ≠ shared.cells.size) :
    (texted leaf n seat shared).cell place = (numbered leaf n seat shared).cell place :=
  Shared.cell_put_eq leaf _ _ seat old

include whole

theorem alikeEntries_of_alike {place depth : Nat} (old : place ≠ shared.cells.size)
    (each : ∀ part, part ≠ shared.cells.size →
      Alike leaf n ((texted leaf n seat shared).valueAt depth part) ((numbered leaf n seat shared).valueAt depth part))
    {entries : Dict Nat} (held : (texted leaf n seat shared).cell place = .dict entries) :
    AlikeEntries leaf n (entries.map fun entry => (entry.1, (texted leaf n seat shared).valueAt depth entry.2))
      (entries.map fun entry => (entry.1, (numbered leaf n seat shared).valueAt depth entry.2)) := by
  rw [AlikeEntries, List.forall₂_map_left_iff, List.forall₂_map_right_iff, List.forall₂_same]
  intro entry member
  by_cases new : entry.2 = shared.cells.size
  · have named := (Shared.entry_put_new whole old held member new).2
    rw [new, texted, numbered, Shared.valueAt_new, Shared.valueAt_new]
    exact .leaf named
  · exact .part entry.1 (each entry.2 new)

/-- Whatever is read of the cells, it differs in nothing but how the integer is written. -/
theorem valueAt_alike (depth : Nat) {place : Nat} (old : place ≠ shared.cells.size) :
    Alike leaf n ((texted leaf n seat shared).valueAt depth place) ((numbered leaf n seat shared).valueAt depth place) := by
  induction depth generalizing place with
  | zero =>
    rw [Shared.valueAt, Shared.valueAt, cell_texted old]
    exact .same _
  | succ depth ih =>
    rw [Shared.valueAt, Shared.valueAt, ← cell_texted old]
    cases held : (texted leaf n seat shared).cell place with
    | leaf value => exact .same value
    | list items =>
      apply Alike.list
      rw [List.forall₂_map_left_iff, List.forall₂_map_right_iff, List.forall₂_same]
      exact fun item member => ih (Shared.item_put_ne whole old held member)
    | dict entries => exact .dict (alikeEntries_of_alike whole old (fun _ => ih) held)

theorem headers_alike (depth : Nat) {place : Nat} (old : place ≠ shared.cells.size) (apart : place ≠ seat) :
    namesTo Check.text ((texted leaf n seat shared).valueAt depth place) =
      namesTo Check.text ((numbered leaf n seat shared).valueAt depth place) := by
  cases depth with
  | zero => rw [Shared.valueAt, Shared.valueAt, cell_texted old]
  | succ depth =>
    rw [Shared.valueAt, Shared.valueAt, ← cell_texted old]
    cases held : (texted leaf n seat shared).cell place with
    | leaf => rfl
    | list => rfl
    | dict entries =>
      have each : List.Forall₂ (fun one other => one.1 = other.1 ∧ Check.text one.2 = Check.text other.2)
          (entries.map fun entry => (entry.1, (texted leaf n seat shared).valueAt depth entry.2))
          (entries.map fun entry => (entry.1, (numbered leaf n seat shared).valueAt depth entry.2)) := by
        rw [List.forall₂_map_left_iff, List.forall₂_map_right_iff, List.forall₂_same]
        intro entry member
        have settled : entry.2 ≠ shared.cells.size := fun new => apart (Shared.entry_put_new whole old held member new).1
        exact ⟨rfl, single_text.alike (valueAt_alike whole depth settled)⟩
      simp only [namesTo, pairs_congr each]

variable (listed : leaf ∈ integerLeaves) (short : (toString n).length ≤ digitLimit)
include listed short

theorem host_alike (depth : Nat) {place : Nat}
    (apart : place ≠ shared.cells.size → (shared.entries place).getText? "headers" ≠ some seat) :
    part checkHost ((texted leaf n seat shared).valueAt depth place) =
      part checkHost ((numbered leaf n seat shared).valueAt depth place) := by
  by_cases new : place = shared.cells.size
  · rw [new, texted, numbered, Shared.valueAt_new, Shared.valueAt_new]
    rfl
  cases depth with
  | zero => rw [Shared.valueAt, Shared.valueAt, cell_texted new]
  | succ depth =>
    rw [Shared.valueAt, Shared.valueAt, ← cell_texted new]
    cases held : (texted leaf n seat shared).cell place with
    | leaf => rfl
    | list => rfl
    | dict entries =>
      have foreign : leaf ≠ "headers" := by
        rintro rfl
        exact absurd listed (by decide)
      apply checkHost_alike (alikeEntries_of_alike whole new (fun _ => valueAt_alike whole depth) held) listed short
      apply fieldOr_congr
      rw [Dict.getText?_map, Dict.getText?_map]
      cases found : entries.getText? "headers" with
      | none => rfl
      | some headers =>
        have settled : headers ≠ shared.cells.size := Shared.part_put_ne whole new held foreign found
        have elsewhere : headers ≠ seat := by
          rintro rfl
          exact apart new ((Shared.entries_put_getText? new held foreign).trans found)
        simp only [Option.map_some, headers_alike whole depth settled elsewhere]

theorem hosts_alike (apart : ¬IsHeaders shared seat) (depth : Nat) {entries : Dict Nat} {hosts : Nat}
    (held : (texted leaf n seat shared).cell shared.root = .dict entries) (found : entries.getText? "hosts" = some hosts)
    {one other : Entries} (first : (texted leaf n seat shared).valueAt depth hosts = .dict one)
    (second : (numbered leaf n seat shared).valueAt depth hosts = .dict other) : HostsAlike one other := by
  have root : shared.root ≠ shared.cells.size := Nat.ne_of_lt whole.root
  have foreign : leaf ≠ "hosts" := by
    rintro rfl
    exact absurd listed (by decide)
  have old : hosts ≠ shared.cells.size := Shared.part_put_ne whole root held foreign found
  have top : (shared.entries shared.root).getText? "hosts" = some hosts :=
    (Shared.entries_put_getText? root held foreign).trans found
  cases depth with
  | zero =>
    rw [Shared.valueAt, cell_texted old] at first
    rw [Shared.valueAt, first] at second
    cases second
    exact .refl one
  | succ depth =>
    rw [Shared.valueAt] at first second
    rw [← cell_texted old] at second
    cases within : (texted leaf n seat shared).cell hosts with
    | leaf value =>
      rw [within] at first second
      cases first
      cases second
      exact .refl one
    | list => simp [within] at first
    | dict listedHosts =>
      rw [within] at first second
      cases first
      cases second
      rw [HostsAlike, List.forall₂_map_left_iff, List.forall₂_map_right_iff, List.forall₂_same]
      intro entry member
      refine ⟨rfl, host_alike whole listed short depth fun settled headers => ?_⟩
      exact apart ⟨hosts, entry, top, Shared.mem_entries_of_put old within member settled, headers⟩

/-- The entries of a value that is a dictionary, and none of any other. -/
def topEntries : Value → Entries
  | .dict entries => entries
  | _ => []

/-- Settings that hold an integer in cells are the same with its text, unless it stands among
the headers of a host. -/
theorem ofEntries_cells_alike (apart : ¬IsHeaders shared seat) (depth : Nat) :
    ofEntries (topEntries ((texted leaf n seat shared).valueAt depth shared.root)) =
      ofEntries (topEntries ((numbered leaf n seat shared).valueAt depth shared.root)) := by
  have old : shared.root ≠ shared.cells.size := Nat.ne_of_lt whole.root
  cases depth with
  | zero => rw [Shared.valueAt, Shared.valueAt, cell_texted old]
  | succ depth =>
    rw [Shared.valueAt, Shared.valueAt, ← cell_texted old]
    cases held : (texted leaf n seat shared).cell shared.root with
    | leaf => rfl
    | list => rfl
    | dict entries =>
      apply ofEntries_alike (alikeEntries_of_alike whole old (fun _ => valueAt_alike whole depth) held) listed short
      intro one other
      rw [Dict.getText?_map, Dict.getText?_map]
      cases found : entries.getText? "hosts" with
      | none =>
        intro first
        cases first
      | some hosts =>
        intro first second
        exact hosts_alike whole listed short apart depth held found (Option.some.inj first) (Option.some.inj second)

end

end FleetLink.Settings
