import FleetLink.Proofs.LetterCase
import FleetLink.Proofs.OverrideNames
import FleetLink.Proofs.SharedCells

/-! Which settings an override reaches. The name of a variable is read in lower case, so it
leads to the entries whose keys are in lower case. Beside any other key it sets up a new one. -/

namespace FleetLink.Overrides
open Text Entries Dict

/-- The name of a variable spells a path but for the case of letters. -/
def SpellsAlike (lead name : String) (keys : List String) : Prop :=
  ∃ rest parts, name.toList = lead.toList ++ ['_', '_'] ++ rest ∧ Separated rest parts ∧
    List.Forall₂ (fun part key => lower (String.ofList part) = lower key) parts keys

/-- The case of ASCII letters makes no difference to a path that is spelt. -/
theorem spellsAlike_of_letters {lead name : String} {rest : List Char} {parts : List (List Char)} {keys : List String}
    (spelled : name.toList = lead.toList ++ ['_', '_'] ++ rest) (separated : Separated rest parts)
    (letters : List.Forall₂ (fun part key => part.map Char.toLower = key.toList.map Char.toLower) parts keys) :
    SpellsAlike lead name keys := by
  refine ⟨rest, parts, spelled, separated, letters.imp ?_⟩
  intro part key same
  apply lower_congr
  rw [String.toList_ofList, same]

theorem SpellsAlike.ne_nil {lead name : String} {keys : List String} (spells : SpellsAlike lead name keys) :
    keys ≠ [] := by
  obtain ⟨rest, parts, _, separated, alike⟩ := spells
  rintro rfl
  exact separated.nonempty (List.forall₂_nil_right_iff.mp alike)

/-- The variable with the name leads to the path in lower case. -/
theorem SpellsAlike.path? {lead name : String} {keys : List String} (spells : SpellsAlike lead name keys) :
    path? lead name = some (keys.map lower) := by
  obtain ⟨rest, parts, spelled, separated, alike⟩ := spells
  have lowered : parts.map (fun part => lower (String.ofList part)) = keys.map lower := by
    rw [← List.forall₂_eq_eq_eq, List.forall₂_map_left_iff, List.forall₂_map_right_iff]
    exact alike
  unfold Overrides.path?
  rw [spelled, if_pos (List.isPrefixOf_iff_prefix.mpr (List.prefix_append _ _)), List.drop_left,
    separated_iff.mp separated, lowered]

theorem found_alike {lead name text : String} {keys : List String} {environment : Environment}
    (spells : SpellsAlike lead name keys)
    (single : environment.filter (fun entry => begins lead entry.1) = [(name, text)]) :
    found lead environment = [(keys.map lower, text)] := by
  rw [found_filter, single]
  simp only [found, List.filterMap_cons, spells.path?, Option.map_some, List.filterMap_nil]

end FleetLink.Overrides

namespace FleetLink.Entries
open Text Dict

/-- What a path of texts leads to. -/
def reach? (keys : List String) (entries : Entries) : Option Value := Value.follow? (keys.map .text) (.dict entries)

/-- The entry that an override was meant for holds its text, and the dictionaries on the way
to it have the keys that they had. -/
structure Matched (before after : Entries) (keys : List String) (text : String) : Prop where
  value : after.reach? keys = some (.text text)
  keys : ∀ above, above <+: keys → above ≠ keys → ∀ inner, before.reach? above = some (.dict inner) →
    ∃ later, after.reach? above = some (.dict later) ∧ later.map Prod.fst = inner.map Prod.fst

/-- No dictionary on the way has, beside a key, its lower case as another one. -/
def Unrivalled (entries : Entries) (keys : List String) : Prop :=
  ∀ above key, above ++ [key] <+: keys → ∀ inner : Entries, entries.reach? above = some (.dict inner) →
    lower key = key ∨ inner.getText? (lower key) = none

theorem reach?_cons (entries : Entries) (key : String) (rest : List String) :
    entries.reach? (key :: rest) = (entries.getText? key).bind (Value.follow? (rest.map .text)) := rfl

theorem reach?_put_cons (entries : Entries) (key : String) (value : Value) (rest : List String) :
    reach? (key :: rest) (entries.put (.text key) value) = Value.follow? (rest.map .text) value := by
  rw [reach?_cons, getText?_put, if_pos rfl, Option.bind_some]

/-- A way that goes on leads through a dictionary. -/
theorem reach?_further {entries : Entries} {key : String} {rest : List String} {value : Value} (further : rest ≠ [])
    (found : entries.reach? (key :: rest) = some value) :
    entries.getText? key = some (.dict (entries.inner key)) ∧ (entries.inner key).reach? rest = some value := by
  obtain ⟨next, more, rfl⟩ := List.exists_cons_of_ne_nil further
  rw [reach?_cons] at found
  obtain ⟨held, listed, deeper⟩ := Option.bind_eq_some_iff.mp found
  cases held with
  | dict inner =>
    have same : entries.inner key = inner := by rw [Entries.inner, listed]
    rw [same]
    exact ⟨listed, deeper⟩
  | _ => cases deeper

/-- A write into an entry that is there sets up no key on the way to it. -/
theorem keys_putPath (value : Value) {keys : List String} {entries : Entries} {held : Value}
    (found : entries.reach? keys = some held) {above : List String} (leads : above <+: keys) (apart : above ≠ keys)
    {inner : Entries} (reached : entries.reach? above = some (.dict inner)) :
    ∃ later, (entries.putPath value keys).reach? above = some (.dict later) ∧
      later.map Prod.fst = inner.map Prod.fst := by
  induction keys generalizing entries above with
  | nil => exact absurd (List.prefix_nil.mp leads) apart
  | cons key rest ih =>
    rw [putPath_cons]
    cases above with
    | nil =>
      obtain ⟨below, listed, _⟩ := Option.bind_eq_some_iff.mp found
      cases reached
      exact ⟨_, rfl, keys_put_of_isSome (Option.isSome_of_eq_some listed) _⟩
    | cons first above =>
      obtain ⟨rfl, deeper⟩ := List.cons_prefix_cons.mp leads
      have short : above ≠ rest := fun same => apart (same ▸ rfl)
      have further : rest ≠ [] := by
        rintro rfl
        exact short (List.prefix_nil.mp deeper)
      obtain ⟨listed, within⟩ := reach?_further further found
      rw [reach?_put_cons, deepened_dict value further]
      refine ih within deeper short ?_
      rwa [reach?_cons, listed] at reached

theorem matched_of_lower {entries : Entries} {keys : List String} {held : Value} (some : keys ≠ [])
    (found : entries.reach? keys = .some held) (text : String) :
    Matched entries (entries.putPath (.text text) keys) keys text := by
  constructor
  · exact follow?_putPath_self (.text text) some (by simp [Value.text?]) entries
  · exact fun above leads apart inner reached => keys_putPath _ found leads apart reached

/-- Of a way with a key that is not in lower case, the dictionary with the first such key gets another one. -/
theorem lower_of_matched {entries : Entries} {keys : List String} {held : Value}
    (found : entries.reach? keys = some held) (unrivalled : entries.Unrivalled keys) {text : String}
    (matched : Matched entries (entries.putPath (.text text) (keys.map lower)) keys text) :
    ∀ key ∈ keys, lower key = key := by
  induction keys generalizing entries with
  | nil => exact List.forall_mem_nil _
  | cons key rest ih =>
    have here : lower key = key := by
      rcases unrivalled [] key (List.prefix_append [key] rest) entries rfl with same | absent
      · exact same
      · obtain ⟨later, reached, same⟩ := matched.keys [] List.nil_prefix nofun entries rfl
        rw [List.map_cons, putPath_cons] at reached
        cases reached
        exact absurd same (keys_put_ne absent _)
    refine List.forall_mem_cons.mpr ⟨here, ?_⟩
    by_cases last : rest = []
    · rw [last]
      exact List.forall_mem_nil _
    obtain ⟨listed, within⟩ := reach?_further last found
    have written : entries.putPath (.text text) ((key :: rest).map lower) =
        entries.put (.text key) (.dict ((entries.inner key).putPath (.text text) (rest.map lower))) := by
      rw [List.map_cons, putPath_cons, here, deepened_dict _ (by simpa using last)]
    rw [written] at matched
    refine ih within ?_ ⟨?_, ?_⟩
    · intro above next leads inner reached
      refine unrivalled (key :: above) next ((List.prefix_cons_inj key).mpr leads) inner ?_
      rw [reach?_cons, listed]
      exact reached
    · have value := matched.value
      rwa [reach?_put_cons] at value
    · intro above leads apart inner reached
      have kept := matched.keys (key :: above) ((List.prefix_cons_inj key).mpr leads) (by simpa using apart) inner
        (by rw [reach?_cons, listed]; exact reached)
      rwa [reach?_put_cons] at kept

end FleetLink.Entries

namespace FleetLink.Shared
open Text Dict

/-- Where a path of texts leads to from a place. -/
def reach? (shared : Shared) : List String → Nat → Option Nat
  | [], place => some place
  | key :: rest, place => ((shared.entries place).getText? key).bind (shared.reach? rest)

/-- The entry that an override was meant for holds its text, and the dictionaries on the way
to it have the keys that they had. -/
structure Matched (before after : Shared) (start : Nat) (keys : List String) (text : String) : Prop where
  value : ∃ place, after.reach? keys start = some place ∧ after.cell place = .leaf (.text text)
  keys : ∀ above, above <+: keys → above ≠ keys → ∀ place, before.reach? above start = some place →
    (after.entries place).map Prod.fst = (before.entries place).map Prod.fst

/-- No dictionary on the way has, beside a key, its lower case as another one. -/
def Unrivalled (shared : Shared) (start : Nat) (keys : List String) : Prop :=
  ∀ above key, above ++ [key] <+: keys → ∀ place, shared.reach? above start = some place →
    lower key = key ∨ (shared.entries place).getText? (lower key) = none

/-- The way down from a place takes the entry under a key of the dictionary at a seat, and goes on from there. -/
inductive Passes (shared : Shared) (seat : Nat) (leaf : String) : List String → Nat → Prop where
  | here {rest : List String} (further : rest ≠ []) : Passes shared seat leaf (leaf :: rest) seat
  | later {key : String} {rest : List String} {place inner : Nat}
      (listed : (shared.entries place).getText? key = some inner) (deeper : Passes shared seat leaf rest inner) :
      Passes shared seat leaf (key :: rest) place

/-- The way leads through the entry at which it ends, so that a dictionary on it lies inside itself. -/
def Returns (shared : Shared) (start : Nat) (keys : List String) : Prop :=
  ∃ before leaf seat, keys = before ++ [leaf] ∧ shared.reach? before start = some seat ∧
    shared.Passes seat leaf keys start

variable {shared : Shared}

theorem Passes.mem_dropLast {seat start : Nat} {leaf : String} {keys : List String}
    (passes : shared.Passes seat leaf keys start) : leaf ∈ keys.dropLast := by
  induction passes with
  | here further =>
    rw [List.dropLast_cons_of_ne_nil further]
    exact List.mem_cons_self
  | later listed deeper ih =>
    have further := List.ne_nil_of_mem (List.mem_of_mem_dropLast ih)
    rw [List.dropLast_cons_of_ne_nil further]
    exact List.mem_cons_of_mem _ ih

/-- A way does not return when it has its last key only once. -/
theorem not_returns {before : List String} {leaf : String} (fresh : leaf ∉ before) (start : Nat) :
    ¬shared.Returns start (before ++ [leaf]) := by
  rintro ⟨other, key, seat, split, _, passes⟩
  obtain ⟨_, last⟩ := List.append_inj' split rfl
  cases last
  have earlier := passes.mem_dropLast
  rw [List.dropLast_concat] at earlier
  exact fresh earlier

theorem entries_outside {place : Nat} (outside : shared.cells.size ≤ place) : shared.entries place = [] := by
  rw [entries, cell, Array.getD_eq_getD_getElem?, Array.getElem?_eq_none outside, Option.getD_none]

theorem inside_of_listed {place inner : Nat} {key : String} (listed : (shared.entries place).getText? key = some inner) :
    place < shared.cells.size := by
  by_contra outside
  rw [entries_outside (Nat.le_of_not_lt outside)] at listed
  cases listed

theorem entries_put (key : String) {cell : Cell} (bare : cell.parts = []) (seat place : Nat) (shared : Shared) :
    (shared.put key cell seat).entries place =
      if place = seat ∧ seat < shared.cells.size then (shared.entries seat).put (.text key) shared.cells.size
      else shared.entries place := by
  rw [entries, cell_put]
  by_cases new : place = shared.cells.size
  · have other : ¬(place = seat ∧ seat < shared.cells.size) := by omega
    rw [if_pos new, if_neg other, entries_outside (Nat.le_of_eq new.symm)]
    cases cell with
    | dict entries => exact List.map_eq_nil_iff.mp bare
    | _ => rfl
  rw [if_neg new]
  by_cases seated : place = seat ∧ seat < shared.cells.size
  · rw [if_pos seated, if_pos seated]
  · rw [if_neg seated, if_neg seated]
    rfl

/-- After a put its key leads to the new cell, and every other entry stays. -/
theorem getText?_entries_put (leaf : String) {cell : Cell} (bare : cell.parts = []) {seat : Nat}
    (inside : seat < shared.cells.size) (place : Nat) (key : String) :
    ((shared.put leaf cell seat).entries place).getText? key =
      if place = seat ∧ key = leaf then some shared.cells.size else (shared.entries place).getText? key := by
  rw [entries_put leaf bare]
  by_cases seated : place = seat
  · subst seated
    rw [if_pos ⟨rfl, inside⟩, Dict.getText?_put]
    simp only [true_and, eq_comm]
  · rw [if_neg (mt And.left seated), if_neg (mt And.left seated)]

theorem reach?_bare {place : Nat} (bare : shared.entries place = []) {path : List String} (further : path ≠ []) :
    shared.reach? path place = none := by
  obtain ⟨next, more, rfl⟩ := List.exists_cons_of_ne_nil further
  rw [reach?, bare]
  rfl

/-- A way that takes another entry first passes the one in question further down. -/
theorem passes_cons_iff {seat place inner : Nat} {leaf key : String} {rest : List String}
    (other : ¬(place = seat ∧ key = leaf)) (listed : (shared.entries place).getText? key = some inner) :
    shared.Passes seat leaf (key :: rest) place ↔ shared.Passes seat leaf rest inner := by
  constructor
  · intro passes
    cases passes with
    | here => exact absurd ⟨rfl, rfl⟩ other
    | later found deeper =>
      rw [listed] at found
      cases found
      exact deeper
  · exact .later listed

/-- A way that goes on leads through a dictionary. -/
theorem inner?_of_reach? {place inner found : Nat} {key : String} {rest : List String} (further : rest ≠ [])
    (listed : (shared.entries place).getText? key = some inner) (reached : shared.reach? rest inner = some found) :
    shared.inner? place key = some inner := by
  obtain ⟨next, more, rfl⟩ := List.exists_cons_of_ne_nil further
  obtain ⟨below, deeper, _⟩ := Option.bind_eq_some_iff.mp reached
  cases held : shared.cell inner with
  | dict entries => simp only [inner?, listed, held]
  | _ =>
    rw [entries, held] at deeper
    cases deeper

theorem putPath_inner (value : Value) {key : String} {rest : List String} {place inner : Nat} (further : rest ≠ [])
    (found : shared.inner? place key = some inner) :
    shared.putPath value (key :: rest) place = shared.putPath value rest inner := by
  obtain ⟨next, more, rfl⟩ := List.exists_cons_of_ne_nil further
  simp only [putPath, found]

theorem putPath_new (value : Value) {key : String} {rest : List String} {place : Nat} (further : rest ≠ [])
    (nowhere : shared.inner? place key = none) :
    shared.putPath value (key :: rest) place =
      (shared.put key (.dict []) place).putPath value rest shared.cells.size := by
  obtain ⟨next, more, rfl⟩ := List.exists_cons_of_ne_nil further
  simp only [putPath, nowhere]

theorem reach?_append (before after : List String) (place : Nat) :
    shared.reach? (before ++ after) place = (shared.reach? before place).bind (shared.reach? after) := by
  induction before generalizing place with
  | nil => rfl
  | cons key rest ih =>
    rw [List.cons_append, reach?, reach?, Option.bind_assoc]
    exact Option.bind_congr fun inner _ => ih inner

section
variable {before : List String} {leaf : String} {start seat item : Nat} (seated : shared.reach? before start = some seat)
  (listed : (shared.entries seat).getText? leaf = some item)
include seated listed

theorem putPath_of_reach? (value : Value) :
    shared.putPath value (before ++ [leaf]) start = shared.put leaf (.leaf value) seat := by
  induction before generalizing start with
  | nil =>
    cases seated
    rfl
  | cons key rest ih =>
    obtain ⟨inner, here, deeper⟩ := Option.bind_eq_some_iff.mp seated
    have reached : shared.reach? (rest ++ [leaf]) inner = some item := by
      rw [reach?_append, deeper, Option.bind_some, reach?, listed]
      rfl
    have further : rest ++ [leaf] ≠ [] := by simp
    rw [List.cons_append, putPath_inner value further (inner?_of_reach? further here reached)]
    exact ih deeper

/-- Once a leaf is put under the last key, the way leads to it, unless it takes that entry earlier:
then it ends at the leaf too soon. -/
theorem reach?_put (value : Value) :
    (¬shared.Passes seat leaf (before ++ [leaf]) start →
        (shared.put leaf (.leaf value) seat).reach? (before ++ [leaf]) start = some shared.cells.size) ∧
      (shared.Passes seat leaf (before ++ [leaf]) start →
        (shared.put leaf (.leaf value) seat).reach? (before ++ [leaf]) start = none) := by
  have partless : (Cell.leaf value).parts = [] := rfl
  have after := getText?_entries_put leaf partless (inside_of_listed listed)
  induction before generalizing start with
  | nil =>
    cases seated
    constructor
    · intro _
      rw [List.nil_append, reach?, after, if_pos ⟨rfl, rfl⟩]
      rfl
    · intro passes
      cases passes with
      | here further => exact absurd rfl further
      | later _ deeper => cases deeper
  | cons key rest ih =>
    obtain ⟨inner, here, deeper⟩ := Option.bind_eq_some_iff.mp seated
    have further : rest ++ [leaf] ≠ [] := by simp
    rw [List.cons_append, reach?, after]
    by_cases same : start = seat ∧ key = leaf
    · -- The entry is taken before the end, and below a leaf there is nothing.
      obtain ⟨rfl, rfl⟩ := same
      refine ⟨fun spared => absurd (.here further) spared, fun _ => ?_⟩
      have bare : (shared.put key (.leaf value) start).entries shared.cells.size = [] := by
        rw [entries, cell_put_new]
      rw [if_pos ⟨rfl, rfl⟩]
      exact reach?_bare bare further
    · rw [if_neg same, here, passes_cons_iff same here]
      exact ih deeper

end

/-- A write under a key that is there changes the keys of no dictionary. -/
theorem keys_put {key : String} {seat item : Nat} (listed : (shared.entries seat).getText? key = some item)
    (value : Value) (place : Nat) :
    ((shared.put key (.leaf value) seat).entries place).map Prod.fst = (shared.entries place).map Prod.fst := by
  rw [entries_put key rfl]
  split
  next seated =>
    rw [seated.1]
    exact keys_put_of_isSome (Option.isSome_of_eq_some listed) _
  next => rfl

theorem exists_seat {keys : List String} {start found : Nat} (further : keys ≠ [])
    (reached : shared.reach? keys start = some found) :
    ∃ before leaf seat, keys = before ++ [leaf] ∧ shared.reach? before start = some seat ∧
      (shared.entries seat).getText? leaf = some found := by
  obtain ⟨before, leaf, rfl⟩ := List.eq_nil_or_concat keys |>.resolve_left further
  rw [List.concat_eq_append, reach?_append] at reached
  obtain ⟨seat, seated, last⟩ := Option.bind_eq_some_iff.mp reached
  obtain ⟨item, listed, same⟩ := Option.bind_eq_some_iff.mp last
  cases same
  exact ⟨before, leaf, seat, List.concat_eq_append, seated, listed⟩

theorem matched_iff_of_lower {keys : List String} {start found : Nat} (further : keys ≠ [])
    (reached : shared.reach? keys start = some found) (text : String) :
    Matched shared (shared.putPath (.text text) keys start) start keys text ↔ ¬shared.Returns start keys := by
  obtain ⟨before, leaf, seat, rfl, seated, listed⟩ := exists_seat further reached
  rw [putPath_of_reach? seated listed]
  obtain ⟨direct, around⟩ := reach?_put seated listed (.text text)
  constructor
  · rintro matched ⟨other, key, place, split, same, passes⟩
    obtain ⟨rfl, last⟩ := List.append_inj' split rfl
    cases last
    rw [seated] at same
    cases same
    obtain ⟨_, value, _⟩ := matched.value
    rw [around passes] at value
    cases value
  · intro direction
    have spared : ¬shared.Passes seat leaf (before ++ [leaf]) start :=
      fun passes => direction ⟨before, leaf, seat, rfl, seated, passes⟩
    exact ⟨⟨_, direct spared, cell_put_new leaf _ seat shared⟩, fun _ _ _ place _ => keys_put listed _ place⟩

/-- What is written below a new dictionary shows in that one only. -/
theorem entries_putPath_new (key text : String) (path : List String) {place : Nat} (inside : place < shared.cells.size) :
    ((shared.put key (.dict []) place).putPath (.text text) path shared.cells.size).entries place =
      (shared.put key (.dict []) place).entries place := by
  have new : Stands (shared.put key (.dict []) place) shared.cells.size (.dict []) [shared.cells.size] :=
    .dict (by rw [size_put]; omega) (cell_put_new key _ place shared) .nil
  have single : ∀ entries, Value.text text ≠ .dict entries := nofun
  obtain ⟨_, _, grows⟩ := putPath_stands single path new (List.nodup_singleton _)
  rw [entries, entries, grows.frame place (by rw [size_put]; omega) (by simpa using Nat.ne_of_lt inside)]

/-- A write whose first key is not there adds it. -/
theorem keys_putPath_absent {key : String} {place : Nat} (absent : (shared.entries place).getText? key = none)
    (inside : place < shared.cells.size) (text : String) (rest : List String) :
    ((shared.putPath (.text text) (key :: rest) place).entries place).map Prod.fst ≠
      (shared.entries place).map Prod.fst := by
  by_cases last : rest = []
  · rw [last, putPath, entries_put key rfl, if_pos ⟨rfl, inside⟩]
    exact keys_put_ne absent _
  · have nowhere : shared.inner? place key = none := by rw [inner?, absent]
    rw [putPath_new _ last nowhere, entries_putPath_new key text rest inside, entries_put key rfl, if_pos ⟨rfl, inside⟩]
    exact keys_put_ne absent _

/-- Of a way with a key that is not in lower case, the dictionary with the first such key gets another one. -/
theorem lower_of_matched {keys : List String} {start found : Nat} (reached : shared.reach? keys start = some found)
    (unrivalled : shared.Unrivalled start keys) {text : String}
    (kept : ∀ above, above <+: keys → above ≠ keys → ∀ place, shared.reach? above start = some place →
      ((shared.putPath (.text text) (keys.map lower) start).entries place).map Prod.fst =
        (shared.entries place).map Prod.fst) : ∀ key ∈ keys, lower key = key := by
  induction keys generalizing start with
  | nil => exact List.forall_mem_nil _
  | cons key rest ih =>
    obtain ⟨inner, listed, deeper⟩ := Option.bind_eq_some_iff.mp reached
    have here : lower key = key := by
      rcases unrivalled [] key (List.prefix_append [key] rest) start rfl with same | absent
      · exact same
      · have same := kept [] List.nil_prefix nofun start rfl
        exact absurd same (keys_putPath_absent absent (inside_of_listed listed) text (rest.map lower))
    refine List.forall_mem_cons.mpr ⟨here, ?_⟩
    by_cases last : rest = []
    · rw [last]
      exact List.forall_mem_nil _
    have written : shared.putPath (.text text) ((key :: rest).map lower) start =
        shared.putPath (.text text) (rest.map lower) inner := by
      rw [List.map_cons, here]
      exact putPath_inner _ (by simpa using last) (inner?_of_reach? last listed deeper)
    rw [written] at kept
    have within (above : List String) : shared.reach? (key :: above) start = shared.reach? above inner := by
      rw [reach?, listed, Option.bind_some]
    refine ih deeper ?_ ?_
    · intro above next leads place found
      exact unrivalled (key :: above) next ((List.prefix_cons_inj key).mpr leads) place ((within above).trans found)
    · intro above leads apart place found
      exact kept (key :: above) ((List.prefix_cons_inj key).mpr leads) (by simpa using apart) place
        ((within above).trans found)

end FleetLink.Shared

namespace FleetLink.Overrides
open Text

/-- The only variable with a lead, spelt like the path of an entry but for the case of letters,
reaches that entry just when the keys of the path are in lower case. Where values may stand in
several places, the path must not take the entry that is replaced on its way either. -/
theorem override_matched_iff {lead name text : String} {keys : List String} {environment : Environment}
    (spells : SpellsAlike lead name keys)
    (single : environment.filter (fun entry => begins lead entry.1) = [(name, text)]) :
    (∀ (entries : Entries) (held : Value), entries.reach? keys = some held → entries.Unrivalled keys →
        (Entries.Matched entries (apply entries (found lead environment)) keys text ↔
          ∀ key ∈ keys, lower key = key)) ∧
      ∀ (shared : Shared) (held : Nat), shared.reach? keys shared.root = some held →
        shared.Unrivalled shared.root keys →
        (Shared.Matched shared (applyShared shared (found lead environment)) shared.root keys text ↔
          (∀ key ∈ keys, lower key = key) ∧ ¬shared.Returns shared.root keys) := by
  have further := spells.ne_nil
  have unchanged (small : ∀ key ∈ keys, lower key = key) : keys.map lower = keys :=
    (List.map_congr_left small).trans (List.map_id keys)
  rw [found_alike spells single]
  constructor
  · intro entries held reached unrivalled
    change Entries.Matched entries (entries.putPath (.text text) (keys.map lower)) keys text ↔ _
    constructor
    · exact Entries.lower_of_matched reached unrivalled
    · intro small
      rw [unchanged small]
      exact Entries.matched_of_lower further reached text
  · intro shared held reached unrivalled
    change Shared.Matched shared (shared.putPath (.text text) (keys.map lower) shared.root) shared.root keys text ↔ _
    constructor
    · intro matched
      have small := Shared.lower_of_matched reached unrivalled matched.keys
      rw [unchanged small, Shared.matched_iff_of_lower further reached] at matched
      exact ⟨small, matched⟩
    · rintro ⟨small, direct⟩
      rw [unchanged small]
      exact (Shared.matched_iff_of_lower further reached text).mpr direct

def headerEntries (header : String) : Entries :=
  [(.text "hosts", .dict [(.text "fleet", .dict [(.text "headers", .dict [(.text header, .text "application/json")])])])]

def headerPath (header : String) : List String := ["hosts", "fleet", "headers", header]

def headerEnvironment : Environment :=
  [("HOME", "/root"), ("LINK__HOSTS__Fleet__HEADERS__ACCEPT", "text/plain")]

/-- Two names for one mapping, so that the headers of a host are those of another. -/
def headerCells : Shared :=
  ⟨#[.dict [(.text "hosts", 1)], .dict [(.text "fleet", 2), (.text "spare", 2)], .dict [(.text "headers", 3)],
    .dict [(.text "accept", 4)], .leaf (.text "application/json")], 0⟩

theorem spells_header {header : String} (accept : "accept".toList = header.toList.map Char.toLower) :
    SpellsAlike "LINK" "LINK__HOSTS__Fleet__HEADERS__ACCEPT" (headerPath header) := by
  have separated : Separated "HOSTS__Fleet__HEADERS__ACCEPT".toList
      ["HOSTS".toList, "Fleet".toList, "HEADERS".toList, "ACCEPT".toList] := separated_iff.mpr (by decide)
  apply spellsAlike_of_letters rfl separated
  exact .cons (by decide) (.cons (by decide) (.cons (by decide) (.cons accept .nil)))

theorem headerEnvironment_single : headerEnvironment.filter (fun entry => begins "LINK" entry.1) =
    [("LINK__HOSTS__Fleet__HEADERS__ACCEPT", "text/plain")] := by
  decide +kernel

theorem override_matched_of_smallHeader :
    Entries.Matched (headerEntries "accept") (apply (headerEntries "accept") (found "LINK" headerEnvironment))
        (headerPath "accept") "text/plain" ∧
      Shared.Matched headerCells (applyShared headerCells (found "LINK" headerEnvironment)) headerCells.root
        (headerPath "accept") "text/plain" := by
  have small : ∀ key ∈ headerPath "accept", lower key = key := by decide
  have spells : SpellsAlike "LINK" "LINK__HOSTS__Fleet__HEADERS__ACCEPT" (headerPath "accept") :=
    spells_header (by decide)
  obtain ⟨trees, cells⟩ := override_matched_iff spells headerEnvironment_single
  constructor
  · refine (trees (headerEntries "accept") (.text "application/json") rfl ?_).mpr small
    intro above key leads inner reached
    exact .inl (small key (leads.subset (by simp)))
  · refine (cells headerCells 4 rfl ?_).mpr ⟨small, ?_⟩
    · intro above key leads place reached
      exact .inl (small key (leads.subset (by simp)))
    · have fresh : "accept" ∉ ["hosts", "fleet", "headers"] := by decide
      exact Shared.not_returns fresh headerCells.root

/-- A header in mixed case keeps its value, and another one is set up. -/
theorem override_unmatched_of_mixedHeader :
    SpellsAlike "LINK" "LINK__HOSTS__Fleet__HEADERS__ACCEPT" (headerPath "Accept") ∧
      (headerEntries "Accept").reach? (headerPath "Accept") = some (.text "application/json") ∧
      (headerEntries "Accept").Unrivalled (headerPath "Accept") ∧
      ¬Entries.Matched (headerEntries "Accept") (apply (headerEntries "Accept") (found "LINK" headerEnvironment))
        (headerPath "Accept") "text/plain" := by
  refine ⟨spells_header (by decide), rfl, ?_, ?_⟩
  · intro above key leads inner reached
    have small : ∀ key ∈ ["hosts", "fleet", "headers"], lower key = key := by decide
    change above ++ [key] <+: ["hosts", "fleet", "headers"] ++ ["Accept"] at leads
    rcases List.prefix_concat_iff.mp leads with same | early
    · obtain ⟨rfl, last⟩ := List.append_inj' same rfl
      cases last
      cases reached
      exact .inr rfl
    · exact .inl (small key (early.subset (by simp)))
  · intro matched
    have kept : Entries.reach? (headerPath "Accept") (apply (headerEntries "Accept") (found "LINK" headerEnvironment)) =
        some (.text "application/json") := rfl
    have replaced := kept.symm.trans matched.value
    simp at replaced

end FleetLink.Overrides
