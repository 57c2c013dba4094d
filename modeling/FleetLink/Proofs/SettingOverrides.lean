import Mathlib.Data.List.Perm.Basic
import FleetLink.Settings.Overrides
import FleetLink.Proofs.InPlaceWriting

/-! Overriding settings from the environment. The last word on a path is found there, what
no override's path meets stays as it was, and overrides that do not meet may come in any
order. -/

namespace FleetLink.Overrides
open Entries

/-- Texts joined by two underscores. These are looked for from the left: of three, the last
belongs to the text that follows. -/
structure Separated (joined : List Char) (parts : List (List Char)) : Prop where
  nonempty : parts ≠ []
  joins : ['_', '_'].intercalate parts = joined
  whole : ∀ part ∈ parts, ¬['_', '_'] <:+: part
  early : ∀ part ∈ parts.dropLast, ¬['_'] <:+ part

theorem Separated.separator {rest : List Char} {parts : List (List Char)} (separated : Separated rest parts) :
    Separated ('_' :: '_' :: rest) ([] :: parts) := by
  obtain ⟨part, others, rfl⟩ := List.exists_cons_of_ne_nil separated.nonempty
  refine ⟨List.cons_ne_nil _ _, ?_, ?_, ?_⟩
  · rw [List.intercalate_cons_cons, separated.joins]
    rfl
  · exact List.forall_mem_cons.mpr ⟨by simp, separated.whole⟩
  · rw [List.dropLast_cons_of_ne_nil (List.cons_ne_nil part others)]
    exact List.forall_mem_cons.mpr ⟨by simp, separated.early⟩

theorem Separated.further {c : Char} {rest part : List Char} {others : List (List Char)}
    (separated : Separated rest (part :: others)) (other : ∀ more, c = '_' → rest ≠ '_' :: more) :
    Separated (c :: rest) ((c :: part) :: others) := by
  have single : ¬(c = '_' ∧ ['_'] <+: rest) := by
    rintro ⟨same, more, rest⟩
    exact other more same rest.symm
  have joins := separated.joins
  cases others with
  | nil =>
    obtain rfl : part = rest := by simpa using joins
    refine ⟨List.cons_ne_nil _ _, by simp, ?_, by simp⟩
    rw [List.forall_mem_singleton, List.infix_cons_iff, List.cons_prefix_cons, not_or]
    exact ⟨fun both => single (both.imp_left Eq.symm), separated.whole part List.mem_cons_self⟩
  | cons next others =>
    rw [List.intercalate_cons_cons] at joins
    refine ⟨List.cons_ne_nil _ _, ?_, ?_, ?_⟩
    · rw [List.intercalate_cons_cons, ← joins]
      rfl
    · refine List.forall_mem_cons.mpr ⟨?_, fun other member => separated.whole other (List.mem_cons_of_mem part member)⟩
      rw [List.infix_cons_iff, List.cons_prefix_cons, not_or]
      refine ⟨?_, separated.whole part List.mem_cons_self⟩
      rintro ⟨same, leads⟩
      refine single ⟨same.symm, leads.trans ?_⟩
      rw [← joins, List.append_assoc]
      exact List.prefix_append part _
    · have early := separated.early
      rw [List.dropLast_cons_of_ne_nil (List.cons_ne_nil next others), List.forall_mem_cons] at early ⊢
      refine ⟨?_, early.2⟩
      rw [List.suffix_cons_iff, not_or]
      refine ⟨?_, early.1⟩
      intro same
      obtain ⟨rfl, rfl⟩ : c = '_' ∧ part = [] := by simpa [eq_comm] using same
      refine single ⟨rfl, ?_⟩
      rw [← joins]
      simp

theorem splitPath_separated (chars : List Char) : Separated chars (splitPath chars) := by
  fun_induction splitPath chars with
  | case1 => exact ⟨List.cons_ne_nil _ _, rfl, by simp, by simp⟩
  | case2 rest ih => exact ih.separator
  | case3 c rest other part others split ih =>
    rw [split] at ih
    exact ih.further other
  | case4 c rest other split ih => exact absurd split ih.nonempty

theorem splitPath_whole {part : List Char} (whole : ¬['_', '_'] <:+: part) : splitPath part = [part] := by
  fun_induction splitPath part with
  | case1 => rfl
  | case2 rest => exact absurd ⟨[], rest, rfl⟩ whole
  | case3 c rest other first others split ih =>
    have same := ih fun inside => whole (inside.trans (List.suffix_cons c rest).isInfix)
    obtain ⟨rfl, rfl⟩ : first = rest ∧ others = [] := by simpa [split] using same
    rfl
  | case4 c rest other split => exact absurd split (splitPath_separated rest).nonempty

theorem splitPath_append {part : List Char} (whole : ¬['_', '_'] <:+: part) (early : ¬['_'] <:+ part)
    (rest : List Char) : splitPath (part ++ ['_', '_'] ++ rest) = part :: splitPath rest := by
  induction part with
  | nil => rfl
  | cons c part ih =>
    have later := ih (fun inside => whole (inside.trans (List.suffix_cons c part).isInfix))
      (fun ends => early (ends.trans (List.suffix_cons c part)))
    have other : ∀ more, c = '_' → part ++ ['_', '_'] ++ rest = '_' :: more → False := by
      rintro more rfl leads
      cases part with
      | nil => exact early (List.suffix_refl _)
      | cons d part =>
        obtain rfl : d = '_' := (List.cons.inj leads).1
        exact whole ⟨[], part, rfl⟩
    rw [List.cons_append, List.cons_append, splitPath, later]
    exact other

/-- There is no other way to take a text apart. -/
theorem separated_iff {joined : List Char} {parts : List (List Char)} :
    Separated joined parts ↔ splitPath joined = parts := by
  constructor
  · rintro ⟨nonempty, rfl, whole, early⟩
    induction parts with
    | nil => exact absurd rfl nonempty
    | cons part others ih =>
      obtain ⟨first, later⟩ := List.forall_mem_cons.mp whole
      cases others with
      | nil => rw [List.intercalate_singleton, splitPath_whole first]
      | cons next others =>
        rw [List.dropLast_cons_of_ne_nil (List.cons_ne_nil next others), List.forall_mem_cons] at early
        rw [List.intercalate_cons_cons, splitPath_append first early.1,
          ih (List.cons_ne_nil next others) later early.2]
  · rintro rfl
    exact splitPath_separated joined

def begins (lead name : String) : Bool := (lead.toList ++ ['_', '_']).isPrefixOf name.toList

/-- The name of a variable spells the path of an override. -/
def Spells (lead name : String) (path : List String) : Prop :=
  ∃ rest parts, name.toList = lead.toList ++ ['_', '_'] ++ rest ∧ Separated rest parts ∧
    path = parts.map fun part => Text.lower (String.ofList part)

theorem Spells.further {lead name : String} {path : List String} (spells : Spells lead name path) : path ≠ [] := by
  obtain ⟨_, parts, _, separated, rfl⟩ := spells
  exact fun empty => separated.nonempty (List.map_eq_nil_iff.mp empty)

theorem path?_of_not_begins {lead name : String} (foreign : begins lead name = false) : path? lead name = none :=
  if_neg (ne_true_of_eq_false foreign)

theorem path?_of_begins {lead name : String} (leads : begins lead name = true) :
    ∃ path, path? lead name = some path ∧ Spells lead name path := by
  refine ⟨_, if_pos leads, name.toList.drop (lead.toList ++ ['_', '_']).length, _, ?_, splitPath_separated _, rfl⟩
  obtain ⟨rest, split⟩ := List.isPrefixOf_iff_prefix.mp leads
  rw [← split, List.drop_left]

theorem found_spelled (lead : String) (environment : Environment) :
    List.Forall₂ (fun entry override => Spells lead entry.1 override.1 ∧ override.2 = entry.2)
      (environment.filter fun entry => begins lead entry.1) (found lead environment) := by
  induction environment with
  | nil => exact .nil
  | cons entry rest ih =>
    obtain ⟨name, text⟩ := entry
    rw [List.filter_cons]
    cases leads : begins lead name with
    | false =>
      simp only [found, List.filterMap_cons, path?_of_not_begins leads, Option.map_none]
      exact ih
    | true =>
      obtain ⟨path, given, spells⟩ := path?_of_begins leads
      simp only [found, List.filterMap_cons, given, Option.map_some]
      exact .cons ⟨spells, rfl⟩ ih

theorem further_of_found {lead : String} {environment : Environment} {path : List String} {text : String}
    (member : (path, text) ∈ found lead environment) : path ≠ [] := by
  obtain ⟨⟨name, _⟩, _, given⟩ := List.mem_filterMap.mp member
  cases leads : begins lead name with
  | false => simp only [path?_of_not_begins leads, Option.map_none, reduceCtorEq] at given
  | true =>
    obtain ⟨spelled, same, spells⟩ := path?_of_begins leads
    simp only [same, Option.map_some, Option.some.injEq, Prod.mk.injEq] at given
    exact given.1 ▸ spells.further

theorem found_dropped {lead name : String} (foreign : begins lead name = false) (text : String)
    (before after : Environment) : found lead (before ++ (name, text) :: after) = found lead (before ++ after) := by
  simp [found, path?_of_not_begins foreign]

theorem apply_append (entries : Entries) (before after : List (List String × String)) :
    apply entries (before ++ after) = apply (apply entries before) after := List.foldl_append

theorem follow?_apply_of_not_meets {keys : List Value} {overrides : List (List String × String)}
    (apart : ∀ override ∈ overrides, ¬Meets keys override.1) (entries : Entries) :
    Value.follow? keys (.dict (apply entries overrides)) = Value.follow? keys (.dict entries) := by
  induction overrides generalizing entries with
  | nil => rfl
  | cons override rest ih =>
    obtain ⟨path, text⟩ := override
    rw [List.forall_mem_cons] at apart
    exact (ih apart.2 _).trans (follow?_putPath_of_not_meets (.text text) apart.1 entries)

theorem follow?_apply_last {path : List String} (further : path ≠ []) {keys : List Value}
    (spelled : keys.map Value.text? = path.map some) {after : List (List String × String)}
    (last : ∀ later ∈ after, ¬Meets keys later.1) (text : String) (before : List (List String × String))
    (entries : Entries) :
    Value.follow? keys (.dict (apply entries (before ++ (path, text) :: after))) = some (.text text) := by
  rw [apply_append]
  exact (follow?_apply_of_not_meets last _).trans (follow?_putPath_self (.text text) further spelled _)

theorem Reordered.apply {first second : Entries} (same : Reordered first second)
    (overrides : List (List String × String)) : Reordered (apply first overrides) (apply second overrides) := by
  induction overrides generalizing first second with
  | nil => exact same
  | cons override rest ih => exact ih (same.putPath (.text override.2) override.1)

theorem apply_perm {overrides others : List (List String × String)} (same : overrides.Perm others)
    (apart : overrides.Pairwise fun one other => Apart one.1 other.1) (entries : Entries) :
    Reordered (apply entries overrides) (apply entries others) := by
  induction same generalizing entries with
  | nil => exact .refl _
  | cons override _ ih => exact ih (List.pairwise_cons.mp apart).2 _
  | swap first second rest =>
    have parted := (List.pairwise_cons.mp apart).1 first List.mem_cons_self
    exact Reordered.apply (putPath_comm parted.symm (.text first.2) (.text second.2) entries) rest
  | trans one _ ih further =>
    exact (ih apart entries).trans (further (one.pairwise apart fun parted => parted.symm) entries)

theorem applyShared_shows {shared : Shared} {entries : Entries} (shows : shared.Shows entries)
    (overrides : List (List String × String)) : (applyShared shared overrides).Shows (apply entries overrides) := by
  induction overrides generalizing shared entries with
  | nil => exact shows
  | cons override rest ih => exact ih (shows.putPath (by simp) override.1)

/-- What the environment does to settings, as the tree that they are and as cells of which
each stands in one place. -/
theorem overriding_outcome (lead : String) (environment : Environment) (entries : Entries) :
    List.Forall₂ (fun entry override => Spells lead entry.1 override.1 ∧ override.2 = entry.2)
        (environment.filter fun entry => begins lead entry.1) (found lead environment) ∧
      (∀ before path text after keys, found lead environment = before ++ (path, text) :: after →
        keys.map Value.text? = path.map some → (∀ later ∈ after, ¬Meets keys later.1) →
          Value.follow? keys (.dict (apply entries (found lead environment))) = some (.text text)) ∧
      (∀ keys, (∀ override ∈ found lead environment, ¬Meets keys override.1) →
        Value.follow? keys (.dict (apply entries (found lead environment))) = Value.follow? keys (.dict entries)) ∧
      (∀ before name text after, environment = before ++ (name, text) :: after → begins lead name = false →
        apply entries (found lead environment) = apply entries (found lead (before ++ after))) ∧
      ((found lead environment).Pairwise (fun one other => Apart one.1 other.1) → ∀ other, environment.Perm other →
        Reordered (apply entries (found lead environment)) (apply entries (found lead other))) ∧
      ∀ shared : Shared, shared.Shows entries →
        (applyShared shared (found lead environment)).Shows (apply entries (found lead environment)) := by
  refine ⟨found_spelled lead environment, ?_, ?_, ?_, ?_, ?_⟩
  · intro before path text after keys split spelled last
    have further : path ≠ [] := further_of_found (split ▸ List.mem_append_right before List.mem_cons_self)
    rw [split]
    exact follow?_apply_last further spelled last text before entries
  · exact fun keys apart => follow?_apply_of_not_meets apart entries
  · rintro before name text after rfl foreign
    rw [found_dropped foreign]
  · exact fun apart other same => apply_perm (same.filterMap _) apart entries
  · exact fun shared shows => applyShared_shows shows _

def sampleEnvironment : Environment :=
  [("PATH", "/bin"), ("DASSOC__DATABASE__PLACEHOLDER", "?"), ("DASSOC__hosts__Users__base_url", "https://a.b")]

def sampleEntries : Entries :=
  [(.text "hosts", .text "none"), (.text "database", .dict [(.text "placeholder", .text "%s")])]

def sampleCells : Shared where
  cells := #[.dict [(.text "hosts", 1), (.text "database", 2)], .leaf (.text "none"),
    .dict [(.text "placeholder", 3)], .leaf (.text "%s")]
  root := 0

/-- A text that stands where hosts belong gives way to them, and what nobody wrote below it
stays absent. -/
theorem overriding_outcome_of_sample :
    let overrides := found "DASSOC" sampleEnvironment
    let after := apply sampleEntries overrides
    overrides = [(["database", "placeholder"], "?"), (["hosts", "users", "base_url"], "https://a.b")] ∧
      Value.follow? [.text "database", .text "placeholder"] (.dict after) = some (.text "?") ∧
      Value.follow? [.text "hosts", .text "users", .text "headers"] (.dict after) = none ∧
      after = apply sampleEntries (found "DASSOC" (sampleEnvironment.drop 1)) ∧
      Reordered after (apply sampleEntries (found "DASSOC" sampleEnvironment.reverse)) ∧
      sampleCells.Shows sampleEntries ∧ (applyShared sampleCells overrides).Shows after := by
  obtain ⟨_, last, others, foreign, order, cells⟩ := overriding_outcome "DASSOC" sampleEnvironment sampleEntries
  have overrides : found "DASSOC" sampleEnvironment =
      [(["database", "placeholder"], "?"), (["hosts", "users", "base_url"], "https://a.b")] := by rfl
  have tree : sampleCells.Shows sampleEntries :=
    ⟨[0, 1, 2, 3], .dict (by decide) rfl (.cons _ (.leaf (by decide) rfl (by simp)) (.cons _
      (.dict (by decide) rfl (.cons _ (.leaf (by decide) rfl (by simp)) .nil)) .nil)), by decide⟩
  refine ⟨overrides, ?_, ?_, ?_, ?_, tree, cells sampleCells tree⟩
  · exact last [] ["database", "placeholder"] "?" [(["hosts", "users", "base_url"], "https://a.b")] _ overrides rfl
      (by simp [Meets, Value.text?])
  · rw [others _ (by rw [overrides]; simp [Meets, Value.text?])]
    rfl
  · exact foreign [] "PATH" "/bin" (sampleEnvironment.drop 1) rfl (by decide)
  · exact order (by rw [overrides]; simp [Apart]) _ (List.reverse_perm _).symm

end FleetLink.Overrides
