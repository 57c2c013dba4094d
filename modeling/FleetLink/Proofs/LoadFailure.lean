import FleetLink.Proofs.InPlaceWriting
import FleetLink.Proofs.SettingChecks

/-! How loading settings fails once their file is found and read. Keys at the top of a
document become names of settings, and one that is no text ends the load before anything
is checked. Overrides neither bring such keys nor take them away. -/

namespace FleetLink

def Dict.Named (dict : Dict α) : Prop := ∀ entry ∈ dict, ∃ name, entry.1.text? = some name

namespace Dict

theorem named_cons_iff {entry : Value × α} {rest : Dict α} :
    Named (entry :: rest) ↔ (∃ name, entry.1.text? = some name) ∧ Named rest := List.forall_mem_cons

theorem named_put_iff (name : String) (value : α) (dict : Dict α) :
    Named (dict.put (.text name) value) ↔ dict.Named := by
  induction dict with
  | nil => simp [put, Named, Value.text?]
  | cons entry rest ih =>
    obtain ⟨key, held⟩ := entry
    rw [put_text_cons]
    split
    · rw [named_cons_iff, named_cons_iff]
    · rw [named_cons_iff, named_cons_iff, ih]

theorem named_map_iff {change : Value × α → Value × β} (same : ∀ entry, (change entry).1 = entry.1) (dict : Dict α) :
    Named (dict.map change) ↔ dict.Named := by
  simp only [Named, List.forall_mem_map, same]

theorem any_nameless_iff (dict : Dict α) : (dict.any fun (key, _) => key.text?.isNone) = true ↔ ¬dict.Named := by
  simp [Named, Option.isNone_iff_eq_none, Option.eq_none_iff_forall_ne_some]

end Dict

namespace Entries

theorem named_putPath_iff (value : Value) (path : List String) (entries : Entries) :
    Dict.Named (entries.putPath value path) ↔ entries.Named := by
  cases path with
  | nil => rfl
  | cons name rest => rw [putPath_cons, Dict.named_put_iff]

end Entries

namespace Shared

/-- There is a dictionary at a place, and its keys are texts just when those of the given one are. -/
def NamedLike (entries : Dict Nat) (place : Nat) (shared : Shared) : Prop :=
  ∃ after, shared.cell place = .dict after ∧ (after.Named ↔ entries.Named)

theorem NamedLike.put {given : Dict Nat} {place : Nat} {shared : Shared} (like : shared.NamedLike given place)
    (key : String) (cell : Cell) (target : Nat) : (shared.put key cell target).NamedLike given place := by
  obtain ⟨entries, held, same⟩ := like
  have inside := inside_of_cell held
  by_cases here : target = place
  · subst here
    have found : shared.entries target = entries := by simp only [Shared.entries, held]
    refine ⟨_, cell_put_self key cell inside, ?_⟩
    rw [Dict.named_put_iff, found, same]
  · exact ⟨entries, by rw [cell_put_other key cell inside here, held], same⟩

theorem NamedLike.putPath {given : Dict Nat} {place : Nat} {shared : Shared} (like : shared.NamedLike given place)
    (value : Value) (path : List String) (target : Nat) : (shared.putPath value path target).NamedLike given place := by
  induction path generalizing shared target with
  | nil => exact like
  | cons name rest ih =>
    cases rest with
    | nil => exact like.put name _ target
    | cons next more =>
      simp only [Shared.putPath]
      split
      next inner _ => exact ih like inner
      next => exact ih (like.put name _ target) _

theorem NamedLike.applyShared {given : Dict Nat} {shared : Shared} (overrides : List (List String × String))
    (like : shared.NamedLike given shared.root) :
    (Overrides.applyShared shared overrides).NamedLike given (Overrides.applyShared shared overrides).root := by
  induction overrides generalizing shared with
  | nil => exact like
  | cons override rest ih =>
    obtain ⟨path, value⟩ := override
    refine ih ?_
    rw [root_putPath]
    exact like.putPath _ path _

end Shared

namespace Overrides

theorem named_apply_iff (overrides : List (List String × String)) (entries : Entries) :
    Dict.Named (apply entries overrides) ↔ entries.Named := by
  induction overrides generalizing entries with
  | nil => rfl
  | cons override rest ih => exact (ih _).trans (Entries.named_putPath_iff _ _ entries)

end Overrides

namespace Settings
open Check Checked

inductive Document.Named : Document → Prop where
  | tree {entries : Entries} (named : entries.Named) : Named (.tree entries)
  | shared {values : Shared} {entries : Dict Nat} (held : values.cell values.root = .dict entries)
      (named : entries.Named) : Named (.shared values)

/-- What reading a file gives: a document with a dictionary at its top. -/
inductive Document.Rooted : Document → Prop where
  | tree (entries : Entries) : Rooted (.tree entries)
  | shared {values : Shared} {entries : Dict Nat} (held : values.cell values.root = .dict entries) :
      Rooted (.shared values)

theorem tree_of_ofValue? {value : Value} {document : Document} (made : Document.ofValue? value = some document) :
    ∃ entries, document = .tree entries := by
  unfold Document.ofValue? at made
  split at made
  · cases made
    exact ⟨_, rfl⟩
  · split at made <;> cases made
    exact ⟨[], rfl⟩

theorem rooted_of_ofValue? {value : Value} {document : Document} (made : Document.ofValue? value = some document) :
    document.Rooted := by
  obtain ⟨entries, rfl⟩ := tree_of_ofValue? made
  exact .tree entries

theorem rooted_of_readContent {content : Content} {document : Document}
    (parsed : readContent content = .ok (some document)) : document.Rooted := by
  cases content with
  | document value => exact rooted_of_ofValue? (Except.ok.inj parsed)
  | bytes bytes =>
    simp only [readContent, bind, Except.bind] at parsed
    split at parsed
    · cases parsed
    next values _ =>
      have made := Except.ok.inj parsed
      unfold Document.ofShared? at made
      split at made
      next held =>
        cases made
        exact .shared held
      next => exact rooted_of_ofValue? made

theorem named_overridden_iff {document : Document} (rooted : document.Rooted)
    (overrides : List (List String × String)) :
    Dict.Named (document.overridden overrides) ↔ document.Named := by
  cases rooted with
  | tree entries =>
    rw [Document.overridden, Overrides.named_apply_iff]
    exact ⟨.tree, fun | .tree named => named⟩
  | @shared values entries held =>
    obtain ⟨after, found, same⟩ := Shared.NamedLike.applyShared overrides ⟨entries, held, Iff.rfl⟩
    simp only [Document.overridden, Shared.unfold, found, Cell.value]
    rw [Dict.named_map_iff ?_ after, same]
    · refine ⟨fun named => .shared held named, fun given => ?_⟩
      cases given with
      | shared listed named =>
        rw [listed] at held
        exact Cell.dict.inj held ▸ named
    · exact fun _ => rfl

/-- A load that gives settings whose users are served by one of the hosts, or that says what
is wrong with the file. -/
inductive Reported : Except LoadError Settings → Prop where
  | loaded {settings : Settings} {host : Host} (known : settings.host? settings.users.host = some host) :
      Reported (.ok settings)
  | notFound (path : String) : Reported (.error (.notFound path))
  | notDictionary (path : String) : Reported (.error (.notDictionary path))
  | invalid (issues : List Issue) : Reported (.error (.invalid issues))
  | unknownHost (name : String) : Reported (.error (.unknownHost name))

theorem ofEntries_of_not_named {entries : Entries} (nameless : ¬entries.Named) :
    ofEntries entries = .error .keysNotText := by
  rw [ofEntries, if_pos ((Dict.any_nameless_iff entries).mpr nameless)]

theorem ofEntries_reported {entries : Entries} (named : entries.Named) : Reported (ofEntries entries) := by
  have texts := mt (Dict.any_nameless_iff entries).mp (not_not_intro named)
  rw [ofEntries, if_neg texts]
  split
  next issues _ => exact .invalid issues
  next settings _ =>
    split
    next known =>
      obtain ⟨host, served⟩ := Option.isSome_iff_exists.mp known
      exact .loaded served
    next => exact .unknownHost _

theorem not_reported_of_keysNotText : ¬Reported (.error .keysNotText) := nofun

section
variable {folder : Folder} {path : Option String} {environment : Environment} {lead : Option String} {content : Content}

theorem load_of_no_document (located : folder.locate (path.getD defaultPath) = .ok (.file content))
    (parsed : readContent content = .ok none) :
    load folder path environment lead = .error (.notDictionary (folder.shown (path.getD defaultPath))) := by
  simp only [load, readFile, located, parsed, bind, Except.bind, throw, throwThe, MonadExceptOf.throw]

theorem load_of_document {document : Document} (located : folder.locate (path.getD defaultPath) = .ok (.file content))
    (parsed : readContent content = .ok (some document)) :
    load folder path environment lead = ofEntries (document.overridden (overrides environment lead)) := by
  simp only [load, readFile, located, parsed, bind, Except.bind, pure, Except.pure]

/-- A file that can be read is loaded, or what is wrong with it is said, unless it is a
dictionary with a key at its top that is no text. -/
theorem load_reported_iff {found : Option Document}
    (located : folder.locate (path.getD defaultPath) = .ok (.file content)) (parsed : readContent content = .ok found) :
    (Reported (load folder path environment lead) ↔ ∀ document, found = some document → document.Named) ∧
      (load folder path environment lead = .error .keysNotText ↔
        ∃ document, found = some document ∧ ¬document.Named) := by
  cases found with
  | none =>
    rw [load_of_no_document located parsed]
    exact ⟨iff_of_true (.notDictionary _) nofun, iff_of_false nofun nofun⟩
  | some document =>
    rw [load_of_document located parsed]
    have same := named_overridden_iff (rooted_of_readContent parsed) (overrides environment lead)
    simp only [Option.some.injEq, forall_eq', exists_eq_left', ← same]
    by_cases named : Dict.Named (document.overridden (overrides environment lead))
    · have reported := ofEntries_reported named
      refine ⟨iff_of_true reported named, iff_of_false (fun nameless => ?_) (not_not_intro named)⟩
      rw [nameless] at reported
      exact not_reported_of_keysNotText reported
    · rw [ofEntries_of_not_named named]
      exact ⟨iff_of_false not_reported_of_keysNotText named, iff_of_true rfl named⟩

end

def folderWithContent (content : Content) : Folder where
  name := "."
  files := [(pathParts defaultPath, content)]
  folders := []

/-- An override that turns a number into a dictionary is one more thing that a check finds wrong. -/
theorem load_reported_of_overriddenVersion :
    ∃ issues, load (folderWithContent (.document (.dict [(.text "version", .int 1)]))) none [("LINK__VERSION__NEXT", "2")]
        (some "LINK") = .error (.invalid issues) ∧ ⟨[.key "version"], .intType⟩ ∈ issues ∧
      Reported (load (folderWithContent (.document (.dict [(.text "version", .int 1)]))) none
        [("LINK__VERSION__NEXT", "2")] (some "LINK")) := by
  have parsed : readContent (.document (.dict [(.text "version", .int 1)])) =
      .ok (some (.tree [(.text "version", .int 1)])) := by rfl
  refine ⟨_, by rfl, List.mem_cons_self, (load_reported_iff (by rfl) parsed).1.mpr ?_⟩
  rintro document ⟨⟩
  exact .tree (by simp [Dict.Named, Value.text?])

instance (result : Except LoadError Settings) : Decidable (result = .error .keysNotText) :=
  match result with
  | .error .keysNotText => .isTrue rfl
  | .error (.notFound _) | .error (.nameTooLong _) | .error (.isFolder _) | .error (.unreadable _) => .isFalse nofun
  | .error (.notDictionary _) | .error (.invalid _) | .error (.unknownHost _) | .ok _ => .isFalse nofun

/-- The file is found and can be read, and yet nothing is said that is about settings. -/
theorem load_unreported_of_numberedKey :
    (folderWithContent (.bytes (Text.Utf8.encode "1: 2"))).locate defaultPath =
        .ok (.file (.bytes (Text.Utf8.encode "1: 2"))) ∧
      (readContent (.bytes (Text.Utf8.encode "1: 2"))).toBool = true ∧
      load (folderWithContent (.bytes (Text.Utf8.encode "1: 2"))) none [] none = .error .keysNotText ∧
      ¬Reported (load (folderWithContent (.bytes (Text.Utf8.encode "1: 2"))) none [] none) := by
  have ended : load (folderWithContent (.bytes (Text.Utf8.encode "1: 2"))) none [] none = .error .keysNotText := by
    decide +kernel
  refine ⟨by rfl, by decide +kernel, ended, ?_⟩
  rw [ended]
  exact not_reported_of_keysNotText

end Settings

end FleetLink
