import FleetLink.Proofs.MadeCells
import FleetLink.Proofs.OverrideNames
import FleetLink.Proofs.WrittenSettings

/-! What an override means. The text of a variable is as good as the value in the file. -/

namespace FleetLink.Settings
open Check Checked Number Overrides

/-- The entries of a document with a value written at a path, where what is missing on the
way, or is no dictionary, gives way to an empty one. -/
def Document.written (value : Value) (path : List String) : Document → Entries
  | .tree entries => entries.putPath value path
  | .shared values => topEntries ((values.putPath value path values.root).unfold nesting)

/-- The dictionary that a path leads into is the headers of a host as well. Only a file in
which one value stands in several places can hold such a one. -/
inductive Document.Crossed (path : List String) : Document → Prop where
  | shared {values : Shared}
      (headers : IsHeaders (Shared.opened path values.root values).2 (Shared.opened path values.root values).1) :
      Crossed path (.shared values)

/-- An outcome as if the text, or the integer that it spells, were written in the file. -/
structure Meant (document : Document) (path : List String) (text : String)
    (outcome : Except LoadError Settings) : Prop where
  literal : outcome = ofEntries (document.written (.text text) path)
  integer : ∀ n : Int, IntegerPath path → text = toString n → (toString n).length ≤ digitLimit →
    ¬document.Crossed path → outcome = ofEntries (document.written (.int n) path)

theorem overridden_single (document : Document) (path : List String) (text : String) :
    document.overridden [(path, text)] = document.written (.text text) path := by
  cases document with
  | tree => rfl
  | shared values =>
    rw [Document.overridden, Document.written]
    rfl

theorem written_shared (value : Value) {path : List String} {leaf : String} (last : path.getLast? = some leaf)
    (values : Shared) :
    Document.written value path (.shared values) =
      topEntries (((Shared.opened path values.root values).2.put leaf (.leaf value)
        (Shared.opened path values.root values).1).valueAt (nesting + 1) (Shared.opened path values.root values).2.root) := by
  rw [Document.written, Shared.unfold_eq, Shared.putPath_eq value last]
  rfl

theorem ofEntries_written {document : Document} (whole : document.Whole) {path : List String} (integer : IntegerPath path)
    {n : Int} (short : (toString n).length ≤ digitLimit) (apart : ¬document.Crossed path) :
    ofEntries (document.written (.text (toString n)) path) = ofEntries (document.written (.int n) path) := by
  cases whole with
  | tree entries => exact ofEntries_putPath_alike integer short entries
  | @shared values whole =>
    obtain ⟨leaf, listed, last⟩ := integer.last
    have opened := (Shared.opened_whole path whole whole.root).1
    rw [written_shared _ last, written_shared _ last]
    exact ofEntries_cells_alike opened listed short (fun headers => apart (.shared headers)) (nesting + 1)

theorem meant_of_whole {document : Document} (whole : document.Whole) (path : List String) (text : String) :
    Meant document path text (ofEntries (document.overridden [(path, text)])) := by
  rw [overridden_single]
  refine ⟨rfl, ?_⟩
  rintro n integer rfl short apart
  exact ofEntries_written whole integer short apart

/-- A load that finds one variable looks at the document with what it says. -/
theorem load_single {folder : Folder} {place : Option String} {environment : Environment} {lead : String}
    {path : List String} {text : String} {document : Document} (leads : lead ≠ "") (further : path ≠ [])
    (plain : ∀ key ∈ path, PlainKey key)
    (single : environment.filter (fun entry => begins lead entry.1) = [(nameOf lead path, text)])
    (held : readFile folder (place.getD defaultPath) = .ok document) :
    load folder place environment (some lead) = ofEntries (document.overridden [(path, text)]) := by
  simp only [load, held, bind, Except.bind, overrides, String.isEmpty_iff, leads, if_false,
    found_single lead further plain single]

/-- The only variable with a lead, named after a path of plain keys, means what its text means
in the file. A load looks at the environment where the lead is not empty. -/
theorem override_meant {lead : String} {environment : Environment} {path : List String} {text : String}
    (further : path ≠ []) (plain : ∀ key ∈ path, PlainKey key)
    (single : environment.filter (fun entry => begins lead entry.1) = [(nameOf lead path, text)]) :
    (∀ document : Document, document.Whole →
        Meant document path text (ofEntries (document.overridden (found lead environment)))) ∧
      ∀ (folder : Folder) (place : Option String) (document : Document), lead ≠ "" →
        readFile folder (place.getD defaultPath) = .ok document →
          Meant document path text (load folder place environment (some lead)) := by
  constructor
  · intro document whole
    rw [found_single lead further plain single]
    exact meant_of_whole whole path text
  · intro folder place document leads held
    rw [load_single leads further plain single held]
    exact meant_of_whole (whole_of_readFile held) path text

def timeoutPath : List String := ["hosts", "u", "transport", "request_timeout_seconds"]

def timeoutEnvironment : Environment :=
  [("HOME", "/root"), ("LINK__HOSTS__U__TRANSPORT__REQUEST_TIMEOUT_SECONDS", "5")]

def hostlessEntries : Entries := [(.text "version", .int 1), (.text "hosts", .text "none")]

/-- One mapping is the headers and the transport of a host. -/
def anchoredFolder : Folder :=
  folderWithContent (.bytes (Text.Utf8.encode "hosts: \x7bu: \x7bheaders: &t \x7b\x7d, transport: *t\x7d\x7d\n"))

/-- The text is as good as the number even where there was no host, and as good as itself
where one mapping stands in two places. -/
theorem override_meant_of_timeout :
    load (folderWithContent (.document (.dict hostlessEntries))) none timeoutEnvironment (some "LINK") =
        ofEntries ((Document.tree hostlessEntries).written (.int 5) timeoutPath) ∧
      ∃ document, readFile anchoredFolder defaultPath = .ok document ∧
        load anchoredFolder none timeoutEnvironment (some "LINK") =
          ofEntries (document.written (.text "5") timeoutPath) := by
  have plain : ∀ key ∈ timeoutPath, PlainKey key := by decide
  have single : timeoutEnvironment.filter (fun entry => begins "LINK" entry.1) = [(nameOf "LINK" timeoutPath, "5")] := by
    decide +kernel
  obtain ⟨_, loads⟩ := override_meant (by decide) plain single
  constructor
  · have meant := loads (folderWithContent (.document (.dict hostlessEntries))) none (.tree hostlessEntries) (by decide) (by rfl)
    exact meant.integer 5 (.requestTimeout "u") (by decide) (by decide) nofun
  · have parsed : (readFile anchoredFolder defaultPath).toBool = true := by decide +kernel
    cases held : readFile anchoredFolder defaultPath with
    | error =>
      rw [held] at parsed
      cases parsed
    | ok document => exact ⟨document, rfl, (loads anchoredFolder none document (by decide) held).literal⟩

def finds (issue : Issue) : Except LoadError Settings → Bool
  | .error (.invalid issues) => issues.contains issue
  | _ => false

def numberedHeader : Issue :=
  ⟨[.key "hosts", .key "u", .key "headers", .key "request_timeout_seconds"], .stringType⟩

def longVersion : Issue := ⟨[.key "version"], .intParsingSize⟩

/-- The digits of the number are not too many, but its sign takes the place of one more. -/
def longNumber : Int := -(10 ^ 4300 - 1)

theorem longNumber_length : (Nat.toDigits 10 longNumber.natAbs).length = 4300 ∧ (toString longNumber).length = 4301 := by
  have digits : (Nat.toDigits 10 longNumber.natAbs).length = 4300 := by decide +kernel
  have negative : longNumber < 0 := by decide +kernel
  rw [length_toString_int, digits, if_pos negative]
  decide

theorem finds_longVersion {value : Value} (failed : Check.int value = .fail .intParsingSize) :
    finds longVersion (ofEntries [(.text "version", value)]) = true := by
  have version : field "version" Check.int [(.text "version", value)] = (Check.int value).within (.key "version") := rfl
  rw [ofEntries, check, version, failed]
  rfl

theorem not_finds_longVersion (n : Int) : finds longVersion (ofEntries [(.text "version", .int n)]) = false := rfl

/-- What is a header must be a text, so there the text of a number is accepted and the number is not.
A negative number of as many digits as there may be is accepted, and its text is not. -/
theorem override_unmeant_of_anchor_and_sign :
    (∃ document, readFile anchoredFolder defaultPath = .ok document ∧
      load anchoredFolder none [(nameOf "LINK" timeoutPath, toString (5 : Int))] (some "LINK") ≠
        ofEntries (document.written (.int 5) timeoutPath)) ∧
    (Nat.toDigits 10 longNumber.natAbs).length = 4300 ∧
      load (folderWithContent (.document (.dict []))) none [(nameOf "LINK" ["version"], toString longNumber)] (some "LINK") ≠
        ofEntries ((Document.tree []).written (.int longNumber) ["version"]) := by
  obtain ⟨digits, length⟩ := longNumber_length
  refine ⟨?_, digits, ?_⟩
  · have overridden : finds numberedHeader
        (load anchoredFolder none [(nameOf "LINK" timeoutPath, toString (5 : Int))] (some "LINK")) = false := by
      decide +kernel
    have written : ((readFile anchoredFolder defaultPath).map fun document =>
        finds numberedHeader (ofEntries (document.written (.int 5) timeoutPath))).toOption = some true := by
      decide +kernel
    cases held : readFile anchoredFolder defaultPath with
    | error =>
      rw [held] at written
      cases written
    | ok document =>
      rw [held] at written
      refine ⟨document, rfl, fun same => ?_⟩
      rw [same] at overridden
      exact Bool.noConfusion (overridden.symm.trans (Option.some.inj written))
  · have loaded : load (folderWithContent (.document (.dict []))) none
        [(nameOf "LINK" ["version"], toString longNumber)] (some "LINK") =
          ofEntries [(.text "version", .text (toString longNumber))] := by
      have single : [(nameOf "LINK" ["version"], toString longNumber)].filter (fun entry => begins "LINK" entry.1) =
          [(nameOf "LINK" ["version"], toString longNumber)] :=
        List.filter_eq_self.mpr (List.forall_mem_singleton.mpr (by decide))
      have held : readFile (folderWithContent (.document (.dict []))) defaultPath = .ok (.tree []) := rfl
      rw [load_single (by decide) (by decide) (by decide) single held]
      rfl
    have refused : Check.int (.text (toString longNumber)) = .fail .intParsingSize := by
      rw [int_toString, length]
      rfl
    have written : (Document.tree []).written (.int longNumber) ["version"] = [(.text "version", .int longNumber)] := rfl
    intro same
    have found := finds_longVersion refused
    rw [← loaded, same, written, not_finds_longVersion] at found
    cases found

end FleetLink.Settings
