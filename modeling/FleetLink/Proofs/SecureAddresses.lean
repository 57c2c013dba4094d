import Mathlib.Data.List.Induction
import FleetLink.Proofs.CharRuns
import FleetLink.Proofs.SettingChecks
import FleetLink.Proofs.UserCalls

/-! Which addresses the requests of a client go to. The scheme of a host's address is looked
at before slashes are dropped at its end, so that of an address which is nothing but the
scheme only a part is kept. -/

namespace FleetLink.Settings
open Check Checked

inductive Kept : List Char → List Char → Prop where
  | named (rest : List Char) {last : Char} (other : last ≠ '/') (slashes : Nat) :
      Kept (secureScheme ++ rest ++ [last] ++ List.replicate slashes '/') (secureScheme ++ rest ++ [last])
  | bare (slashes : Nat) : Kept (secureScheme ++ List.replicate slashes '/') "https:".toList

theorem trimmed_end (chars : List Char) {last : Char} (other : last ≠ '/') (slashes : Nat) :
    ((chars ++ [last] ++ List.replicate slashes '/').reverse.dropWhile (· == '/')).reverse = chars ++ [last] := by
  rw [List.reverse_append, Text.dropWhile_run, List.reverse_reverse]
  · simp
  · simp [other]

theorem split_end (chars : List Char) :
    (∃ slashes, chars = List.replicate slashes '/') ∨
      ∃ rest last slashes, last ≠ '/' ∧ chars = rest ++ [last] ++ List.replicate slashes '/' := by
  induction chars using List.reverseRecOn with
  | nil => exact .inl ⟨0, rfl⟩
  | append_singleton chars c ih =>
    by_cases slash : c = '/'
    · subst slash
      rcases ih with ⟨slashes, rfl⟩ | ⟨rest, last, slashes, other, rfl⟩
      · exact .inl ⟨slashes + 1, List.replicate_succ'.symm⟩
      · exact .inr ⟨rest, last, slashes + 1, other, by rw [List.replicate_succ', List.append_assoc]⟩
    · exact .inr ⟨chars, c, 0, slash, by simp⟩

theorem kept_trimmed {given kept : List Char} (keeps : Kept given kept) :
    (given.reverse.dropWhile (· == '/')).reverse = kept := by
  cases keeps with
  | named rest other slashes => exact trimmed_end _ other slashes
  | bare slashes =>
    -- Nothing tells the slashes of the scheme from those that follow it.
    have spelled : secureScheme ++ List.replicate slashes '/' =
        "https".toList ++ [':'] ++ List.replicate (slashes + 2) '/' := by
      rw [List.replicate_succ, List.replicate_succ]
      rfl
    rw [spelled]
    exact trimmed_end _ (by decide) _

theorem Kept.secure {given kept : List Char} (keeps : Kept given kept) : secureScheme <+: given := by
  cases keeps with
  | named rest other slashes =>
    rw [List.append_assoc, List.append_assoc]
    exact List.prefix_append _ _
  | bare slashes => exact List.prefix_append _ _

theorem exists_kept {given : List Char} (secure : secureScheme <+: given) : ∃ kept, Kept given kept := by
  obtain ⟨rest, rfl⟩ := secure
  rcases split_end rest with ⟨slashes, rfl⟩ | ⟨rest, last, slashes, other, rfl⟩
  · exact ⟨_, .bare slashes⟩
  · exact ⟨_, by simpa only [List.append_assoc] using Kept.named rest other slashes⟩

theorem checkBaseUrl_eq_ok_iff {url stored : String} :
    checkBaseUrl url = .ok stored ↔ Kept url.toList stored.toList := by
  unfold checkBaseUrl
  constructor
  · intro passed
    split at passed
    next secure =>
      obtain ⟨kept, keeps⟩ := exists_kept (List.isPrefixOf_iff_prefix.mp secure)
      cases passed
      rwa [kept_trimmed keeps, String.toList_ofList]
    next => cases passed
  · intro keeps
    rw [if_pos (List.isPrefixOf_iff_prefix.mpr keeps.secure), kept_trimmed keeps, String.ofList_toList]

theorem Kept.not_slash {given kept : List Char} (keeps : Kept given kept) : ¬['/'] <:+ kept := by
  cases keeps with
  | named rest other slashes => simpa [List.singleton_suffix_iff_getLast?_eq_some] using other
  | bare slashes => decide

theorem Kept.secure_iff {given kept : List Char} (keeps : Kept given kept) :
    secureScheme <+: kept ↔ kept ≠ "https:".toList := by
  cases keeps with
  | @named rest last other slashes =>
    have secure : secureScheme <+: secureScheme ++ rest ++ [last] := by
      rw [List.append_assoc]
      exact List.prefix_append _ _
    refine iff_of_true secure fun same => ?_
    rw [same] at secure
    exact absurd secure (by decide)
  | bare slashes => exact iff_of_false (by decide) fun apart => apart rfl

def Lists (entries : Entries) (name url : String) : Prop :=
  ∃ hosts key fields value, entries.getText? "hosts" = some (.dict hosts) ∧ (key, .dict fields) ∈ hosts ∧
    text key = .ok name ∧ Dict.getText? "base_url" fields = some value ∧ text value = .ok url

theorem checkHost_kept {entries : Entries} {host : Host} (passed : checkHost entries = .ok host) :
    ∃ value url, entries.getText? "base_url" = some value ∧ text value = .ok url ∧
      Kept url.toList host.baseUrl.toList := by
  simp only [checkHost, seq_eq_ok_iff, map_eq_ok_iff] at passed
  obtain ⟨_, _, ⟨_, _, ⟨_, address, rfl⟩, _, rfl⟩, _, rfl⟩ := passed
  obtain ⟨value, found, checked⟩ := field_eq_ok_iff.mp address
  obtain ⟨url, spelled, stored⟩ := andThen_eq_ok_iff.mp checked
  exact ⟨value, url, found, spelled, checkBaseUrl_eq_ok_iff.mp stored⟩

theorem hosts_kept {entries : Entries} {settings : Settings} (passed : check entries = .ok settings) {name : String}
    {host : Host} (member : (name, host) ∈ settings.hosts) :
    ∃ url, Lists entries name url ∧ Kept url.toList host.baseUrl.toList := by
  obtain ⟨value, found, named⟩ := field_eq_ok_iff.mp (check_eq_ok passed).1
  obtain ⟨hosts, key, held, rfl, inside, spelled, checked⟩ := mem_of_namesTo named member
  obtain ⟨fields, rfl, sound⟩ := part_eq_ok_iff.mp checked
  obtain ⟨address, url, given, written, keeps⟩ := checkHost_kept sound
  exact ⟨url, ⟨hosts, key, fields, address, found, inside, spelled, given, written⟩, keeps⟩

theorem rooted_slash (path : String) : ['/'] <+: (rooted path).toList := by
  unfold rooted
  split
  next leads =>
    obtain ⟨rest, spelled⟩ := List.head?_eq_some_iff.mp leads
    rw [spelled]
    exact List.prefix_append _ _
  next => simp

theorem filterPath_slash {entries : Entries} {settings : Settings} (passed : check entries = .ok settings) :
    ['/'] <+: settings.users.filterPath.toList := by
  obtain ⟨value, _, checked⟩ := field_eq_ok_iff.mp (check_eq_ok passed).2
  obtain ⟨fields, rfl, sound⟩ := part_eq_ok_iff.mp checked
  simp only [checkUsers, seq_eq_ok_iff, map_eq_ok_iff] at sound
  obtain ⟨_, _, ⟨_, _, ⟨_, _, rfl⟩, filter, rfl⟩, _, same⟩ := sound
  obtain ⟨_, _, stored⟩ := field_eq_ok_iff.mp filter
  obtain ⟨path, _, rfl⟩ := map_eq_ok_iff.mp stored
  rw [← same]
  exact rooted_slash path

theorem mem_of_host? {settings : Settings} {name : String} {host : Host} (known : settings.host? name = some host) :
    (name, host) ∈ settings.hosts := by
  obtain ⟨before, after, split, _⟩ := List.lookup_eq_some_iff.mp known
  rw [split]
  exact List.mem_append_right before List.mem_cons_self

/-- A request that calls of a client with these settings come to. -/
def Requested (settings : Settings) (request : Http.Request) : Prop :=
  ∃ calls answers made, request ∈ (Users.afterCalls settings calls (.start answers made)).requests

theorem requested_url {settings : Settings} {host : Host} (known : settings.host? settings.users.host = some host)
    {request : Http.Request} (requested : Requested settings request) :
    request.url = host.baseUrl ++ settings.users.filterPath := by
  obtain ⟨calls, answers, made, asked⟩ := requested
  obtain ⟨lookup, rfl⟩ := (Users.afterCalls_asks known calls (.start answers made)).of_mem_requests asked
  rfl

structure Addressed (settings : Settings) : Prop where
  ends : ∀ name host, (name, host) ∈ settings.hosts → ¬['/'] <:+ host.baseUrl.toList
  filter : ['/'] <+: settings.users.filterPath.toList
  target : ∃ host, settings.host? settings.users.host = some host ∧
    ∀ request, Requested settings request → request.url = host.baseUrl ++ settings.users.filterPath

/-- All addresses are secure, those of the hosts and those that requests go to. -/
structure Secured (settings : Settings) : Prop extends Addressed settings where
  hosts : ∀ name host, (name, host) ∈ settings.hosts → secureScheme <+: host.baseUrl.toList
  requests : ∀ request, Requested settings request → secureScheme <+: request.url.toList

theorem check_addressed {entries : Entries} {settings : Settings} (passed : check entries = .ok settings) {host : Host}
    (known : settings.host? settings.users.host = some host) : Addressed settings where
  ends name host member := by
    obtain ⟨_, _, keeps⟩ := hosts_kept passed member
    exact keeps.not_slash
  filter := filterPath_slash passed
  target := ⟨host, known, fun _ requested => requested_url known requested⟩

/-- Loaded settings are secure unless of some host's address nothing is kept but a part of
the scheme. -/
theorem load_secured_iff {folder : Folder} {path : Option String} {environment : Environment} {lead : Option String}
    {settings : Settings} (loaded : load folder path environment lead = .ok settings) :
    Addressed settings ∧
      (∃ document, readFile folder (path.getD defaultPath) = .ok document ∧
        ∀ name host, (name, host) ∈ settings.hosts →
          ∃ url, Lists (document.overridden (overrides environment lead)) name url ∧
            Kept url.toList host.baseUrl.toList) ∧
      (Secured settings ↔ ∀ name host, (name, host) ∈ settings.hosts → host.baseUrl ≠ "https:") := by
  obtain ⟨document, read, passed⟩ := load_eq_ok loaded
  obtain ⟨checked, host, known⟩ := ofEntries_eq_ok passed
  have addressed := check_addressed checked known
  refine ⟨addressed, ⟨document, read, fun name host member => hosts_kept checked member⟩, ?_, ?_⟩
  · intro secured name host member bare
    have secure := secured.hosts name host member
    rw [bare] at secure
    exact absurd secure (by decide)
  · intro whole
    have secure (name : String) (host : Host) (member : (name, host) ∈ settings.hosts) :
        secureScheme <+: host.baseUrl.toList := by
      obtain ⟨_, _, keeps⟩ := hosts_kept checked member
      exact keeps.secure_iff.mpr fun same => whole name host member (String.toList_injective same)
    refine ⟨addressed, secure, fun request requested => ?_⟩
    rw [requested_url known requested, String.toList_append]
    exact (secure _ host (mem_of_host? known)).trans (List.prefix_append _ _)

def entriesWith (url : String) : Entries :=
  [(.text "version", .int 1),
    (.text "hosts", .dict [(.text "users", .dict [(.text "base_url", .text url),
      (.text "transport", .dict [(.text "request_timeout_seconds", .int 15), (.text "connect_timeout_seconds", .int 5),
        (.text "retries", .dict [(.text "max_retries", .int 2), (.text "backoff_factor", .int 1),
          (.text "retry_statuses", .list [.int 503])])])])]),
    (.text "user_management", .dict [(.text "host", .text "users"), (.text "filter_path", .text "filter")])]

def folderWith (url : String) : Folder where
  name := "."
  files := [(pathParts defaultPath, .document (.dict (entriesWith url)))]
  folders := []

def loadedWith (url : String) : Settings :=
  ⟨1, {}, "%s", [("users", ⟨url, [], ⟨15, 5, ⟨2, .ofInt 1, [503]⟩⟩⟩)], ⟨"users", "/filter", some "sortOrder=DESC"⟩⟩

/-- The addresses that one lookup asks when the server answers nothing of use. -/
def askedWith (settings : Settings) : List String :=
  (Users.afterCalls settings [.detail "userId" (.text "jane") .null]
    (.start (fun _ => .ok ⟨200, true, .ok .null⟩) 0)).requests.map Http.Request.url

theorem load_secured_of_namedHost :
    load (folderWith "https://users.example/v1//") none [] none = .ok (loadedWith "https://users.example/v1") ∧
      Secured (loadedWith "https://users.example/v1") ∧
      askedWith (loadedWith "https://users.example/v1") = ["https://users.example/v1/filter"] := by
  have loaded : load (folderWith "https://users.example/v1//") none [] none =
      .ok (loadedWith "https://users.example/v1") := by rfl
  refine ⟨loaded, (load_secured_iff loaded).2.2.mpr ?_, by rfl⟩
  intro name host member
  obtain ⟨rfl, rfl⟩ := Prod.mk.inj (List.mem_singleton.mp member)
  decide

/-- The scheme alone passes the check, and what is kept of it is not secure any more. -/
theorem load_unsecured_of_bareScheme :
    load (folderWith "https://") none [] none = .ok (loadedWith "https:") ∧ ¬Secured (loadedWith "https:") ∧
      askedWith (loadedWith "https:") = ["https:/filter"] := by
  refine ⟨by rfl, fun secured => ?_, by rfl⟩
  exact absurd (secured.hosts "users" _ (List.mem_singleton_self _)) (by decide)

end FleetLink.Settings
