import SimTerm.Proofs.Session.Opening
import SimTerm.Proofs.Session.Rewiring

/-!
# What a Session Has Copied

Which replacements in a configuration are seen by the sessions that were built
from it.

Some settings are used up when a session is made: the caps of its output and
its history, the persona it starts with, its first line. Others it goes back to
whenever it needs them, and as it keeps an eye on the configuration in force, a
replacement reaches it in the middle of its life (`sharedKeys`). Under such a
key some replacement changes what later lines are answered with
(`not_keepsLines_of_mem`, by one run for each key).

Under all other keys nothing of the kind happens. A replacement there leaves
alone what lines read (`ReadsAlike`), and the settings that a session holds are
still those it was built with (`Watches.after`), so that observing the
replacement is no more than an exchange of settings that look alike
(`observe_eq_rewired`). The later lines then follow one another in step, in an
induction on the lines (`answers_rewired`).

## Main definitions

* `Wired`: The settings held besides the configuration are the same.
* `Watches`: A session watches a configuration and holds certain settings.
* `sharedKeys`: The keys whose values sessions share.
* `KeepsLines`: No replacement under a key is seen by a session that is there.
* `ReadsAlike`: What lines read of two configurations is the same.

## Theorems

* `submit_wired`: No line changes the settings that a session holds.
* `answers_rewired`: With settings that look alike all answers are the same.
* `readsAlike_of_set`: Which replacements leave alone what lines read.
* `keepsLines_iff`: The keys under which no replacement is seen.
* `replaced_hostname_shows`: One that is.
-/

namespace SimTerm

/-! ### What no line changes -/

namespace FileSystem

theorem attach?_settings (fs fs' : FileSystem) (now : Moment) (chain : List String) (child : Node)
    (h : fs.attach? now chain child = some fs') : fs'.settings = fs.settings := by
  unfold attach? at h
  split at h
  · exact absurd h (by simp only [reduceCtorEq, not_false_eq_true])
  · rw [← Option.some.inj h]

theorem createDirectory?_settings (fs fs' : FileSystem) (now : Moment) (name : String)
    (h : fs.createDirectory? now name = some fs') : fs'.settings = fs.settings := by
  unfold createDirectory? at h
  split at h
  · exact fs.attach?_settings fs' now _ _ h
  · exact absurd h (by simp only [reduceCtorEq, not_false_eq_true])

theorem createFile?_settings (fs fs' : FileSystem) (now : Moment) (name content : String)
    (h : fs.createFile? now name content = some fs') : fs'.settings = fs.settings := by
  unfold createFile? at h
  split at h
  · exact fs.attach?_settings fs' now _ _ h
  · exact absurd h (by simp only [reduceCtorEq, not_false_eq_true])

theorem changeDirectory?_settings (fs fs' : FileSystem) (path : String)
    (h : fs.changeDirectory? path = some fs') : fs'.settings = fs.settings := by
  unfold changeDirectory? at h
  repeat' split at h
  all_goals first
    | exact absurd h (by simp only [reduceCtorEq, not_false_eq_true])
    | rw [← Option.some.inj h]

end FileSystem

namespace Shell

theorem switch?_settings (sh sh' : Shell) (name : String) (h : sh.switch? name = some sh') :
    sh'.settings = sh.settings := by
  rw [switch?, Option.map_eq_some_iff] at h
  rcases h with ⟨p, _, rfl⟩
  rfl

theorem foldl_setVariable_settings (sh : Shell) (assignments : List (String × String)) :
    (assignments.foldl (fun sh a => sh.setVariable a.1 a.2) sh).settings = sh.settings := by
  induction assignments generalizing sh with
  | nil => rfl
  | cons a rest ih => exact ih (sh.setVariable a.1 a.2)

end Shell

namespace Session

/-- The settings that a session holds besides its configuration are the same. -/
structure Wired (s s' : Session) : Prop where
  /-- The looks of new nodes. -/
  files : s'.files.settings = s.files.settings
  /-- The settings for the prompt. -/
  shell : s'.shell.settings = s.shell.settings

theorem ending_wired {now : Moment} {cmd : Command} {s s' : Session} {b : Builtin} {o : Outcome}
    (h : Ending now cmd s b o s') : Wired s s' := by
  cases h with
  | moved files h => exact ⟨s.files.changeDirectory?_settings files _ h, rfl⟩
  | directoryMade name files hname h =>
      exact ⟨s.files.createDirectory?_settings files now name h, rfl⟩
  | fileMade name files hname h => exact ⟨s.files.createFile?_settings files now name "" h, rfl⟩
  | switched name shell texts hname h => exact ⟨rfl, s.shell.switch?_settings shell name h⟩
  | exported assignments h => exact ⟨rfl, s.shell.foldl_setVariable_settings assignments⟩
  | _ => exact ⟨rfl, rfl⟩

theorem runCommand_wired (now : Moment) (longest : Nat) (cmd : Command) (s : Session) :
    Wired s (s.runCommand now longest cmd).value.2 := by
  unfold runCommand
  by_cases hlong : longest < cmd.name.length
  · rw [if_pos hlong]
    exact ⟨rfl, rfl⟩
  · rw [if_neg hlong]
    cases s.handler? cmd.name with
    | some handler =>
        have hwired : Wired s (s.handle now handler cmd).value.2 := by
          cases handler with
          | builtin b => exact ending_wired (perform_ending now cmd s b)
          | added run => exact ⟨rfl, rfl⟩
        unfold conclude
        dsimp only
        -- The lines that an outcome makes only need their numbers.
        cases (s.handle now handler cmd).value.1 <;> exact ⟨hwired.files, hwired.shell⟩
    | none =>
        dsimp only
        split <;> exact ⟨rfl, rfl⟩

theorem dispatch_wired (now : Moment) (raw : String) (s : Session)
    (answer : Traced (List Line × Session)) (h : s.dispatch now raw = .ok answer) :
    Wired s answer.value.2 := by
  rcases dispatch_cases now raw s answer h with ⟨_, hanswer⟩ | ⟨cmd, caps, _, _, hanswer⟩
  · rw [hanswer]
    exact ⟨rfl, rfl⟩
  · rw [hanswer, cutAnswer_session]
    exact runCommand_wired now _ cmd s

theorem submit_wired (now : Moment) (raw : String) (s : Session) :
    Wired s (s.submit now raw).value.2 where
  files := submit_keeps (fun s => s.files.settings) (fun _ _ _ _ _ => rfl)
    (fun now raw s answer h => (dispatch_wired now raw s answer h).files) now raw s
  shell := submit_keeps (fun s => s.shell.settings) (fun _ _ _ _ _ => rfl)
    (fun now raw s answer h => (dispatch_wired now raw s answer h).shell) now raw s

theorem submit_isWatching (now : Moment) (raw : String) (s : Session) :
    (s.submit now raw).value.2.isWatching = s.isWatching :=
  submit_keeps Session.isWatching (fun _ _ _ _ _ => rfl)
    (fun now raw s answer h => (dispatch_frame now raw s answer h).isWatching) now raw s

/-! ### Sessions that look alike -/

/-- A session that keeps an eye on a configuration with certain settings. -/
structure Watches (s : Session) (c : Config) (files : FileSettings) (shell : ShellSettings) :
    Prop where
  /-- It keeps an eye on the one in force. -/
  isWatching : s.isWatching = true
  /-- This is the one it looks at. -/
  config : s.config = c
  /-- New nodes look like that. -/
  files : s.files.settings = files
  /-- The prompt is made from these. -/
  shell : s.shell.settings = shell

theorem Watches.after {s : Session} {c : Config} {files : FileSettings} {shell : ShellSettings}
    (h : s.Watches c files shell) (inputs : List Input) :
    (s.after inputs).Watches c files shell := by
  induction inputs generalizing s with
  | nil => exact h
  | cons i rest ih =>
      have hwired := submit_wired i.1 i.2 s
      have hnext : (s.enter i).Watches c files shell :=
        ⟨by rw [enter, submit_isWatching, h.isWatching], by rw [enter, submit_config, h.config],
          by rw [enter, hwired.files, h.files], by rw [enter, hwired.shell, h.shell]⟩
      rw [Session.after, List.foldl_cons]
      exact ih hnext

theorem looksAlike_enter {s : Session} {c : Config} {shell : ShellSettings}
    (h : s.LooksAlike c shell) (i : Input) : (s.enter i).LooksAlike c shell := by
  have hconfig : (s.enter i).config = s.config := by rw [enter, submit_config]
  have hshell : (s.enter i).shell.settings = s.shell.settings := by
    rw [enter, (submit_wired i.1 i.2 s).shell]
  exact ⟨by rw [h.title, hconfig], by rw [h.lineCaps, hconfig], by rw [h.place, hconfig],
    by rw [h.username, hshell], by rw [h.hostname, hshell]⟩

/-- A session that looks alike with other settings answers all lines alike. -/
theorem answers_rewired {s : Session} {c : Config} {shell : ShellSettings}
    (h : s.LooksAlike c shell) (inputs : List Input) :
    (s.rewired c shell).answers inputs = s.answers inputs := by
  induction inputs generalizing s with
  | nil => rfl
  | cons i rest ih =>
      have hsubmit := submit_rewired i.1 h i.2
      have henter : (s.rewired c shell).enter i = (s.enter i).rewired c shell := by
        simp only [enter, hsubmit, Traced.map, rewiring]
      rw [answers, answers, henter, ih (looksAlike_enter h i), hsubmit]
      simp only [Traced.map, rewiring]

/-- Without a change to the looks of new nodes, watching is rewiring. -/
theorem observe_eq_rewired (s : Session) (store : ConfigStore) (hwatch : s.isWatching = true)
    (hfiles : store.inForce.files.getD s.files.settings = s.files.settings) :
    s.observe store = s.rewired store.inForce (store.inForce.shell.getD s.shell.settings) := by
  rw [observe, if_pos hwatch, withConfig, FileSystem.withSettings, hfiles]
  rfl

/-! ### Keys -/

/-- The keys whose values sessions share with the configuration in force. -/
def sharedKeys : List String :=
  ["terminal", "terminal.name", "terminal.version", "session.max_dispatch_lines",
    "session.max_command_length", "shell.username", "shell.hostname",
    "filesystem.directory_size", "filesystem.directory_permissions",
    "filesystem.file_permissions"]

/-- No replacement under a key is ever seen by a session that was there before:
    the later lines are answered as if it had not been made. -/
def KeepsLines (key : String) : Prop :=
  ∀ (store₀ store store' : ConfigStore) (data v : Json) (id : String) (now : Moment) (s : Session)
    (before later : List Input),
    store₀.loadJson data = (.ok (), store) → ofStore id store now = .ok s →
    store.set key v = (.ok (), store') →
    ((s.after before).observe store').answers later = (s.after before).answers later

/-- What sessions read of a configuration is the same, and so are the looks of
    new nodes unless there are none any more. -/
structure ReadsAlike (c c' : Config) : Prop where
  /-- The name and the version of the terminal. -/
  title : c'.title? = c.title?
  /-- The caps that a line is run under. -/
  lineCaps : c'.lineCaps = c.lineCaps
  /-- The user and the machine. -/
  place : c'.place? = c.place?
  /-- The looks of new nodes. -/
  files : ∀ files, c.files = .settings files → c'.files.getD files = files

theorem readsAlike_fieldSet (c c' : Config) (part name : String) (v : Json)
    (h : Config.FieldSet c name v part c') (hkey : part ++ "." ++ name ∉ sharedKeys) :
    ReadsAlike c c' := by
  cases h with
  | terminal s s' hs h =>
      unfold Config.setTerminal? at h
      split at h
      case h_3 =>
        refine ⟨?_, rfl, rfl, fun files hfiles => by simp only [hfiles, Section.getD]⟩
        rw [← Option.some.inj h, Config.title?, Config.title?, hs]
        rfl
      case h_4 => exact absurd h (by simp only [reduceCtorEq, not_false_eq_true])
      all_goals exact absurd (by decide) hkey
  | session s s' hs h =>
      unfold Config.setSession? at h
      split at h
      case h_5 => exact absurd h (by simp only [reduceCtorEq, not_false_eq_true])
      case h_3 => exact absurd (by decide) hkey
      case h_4 => exact absurd (by decide) hkey
      all_goals
        refine ⟨rfl, ?_, rfl, fun files hfiles => by simp only [hfiles, Section.getD]⟩
        rw [← Option.some.inj h, Config.lineCaps, Config.lineCaps, hs]
        rfl
  | shell s s' hs h =>
      unfold Config.setShell? at h
      split at h
      case h_3 =>
        refine ⟨rfl, rfl, ?_, fun files hfiles => by simp only [hfiles, Section.getD]⟩
        rw [← Option.some.inj h, Config.place?, Config.place?, hs]
        rfl
      case h_4 => exact absurd h (by simp only [reduceCtorEq, not_false_eq_true])
      all_goals exact absurd (by decide) hkey
  | filesystem s s' hs h =>
      unfold Config.setFiles? at h
      split at h
      case h_4 => exact absurd h (by simp only [reduceCtorEq, not_false_eq_true])
      all_goals exact absurd (by decide) hkey
  | logging s s' hs h =>
      exact ⟨rfl, rfl, rfl, fun files hfiles => by simp only [hfiles, Section.getD]⟩

theorem readsAlike_replaceSection? (c c' : Config) (part : String) (v : Json)
    (h : c.replaceSection? part v = some c') (hc : c'.HasSections) (hkey : part ∉ sharedKeys) :
    ReadsAlike c c' := by
  unfold Config.replaceSection? at h
  split at h
  case h_4 =>
    rw [← Option.some.inj h]
    exact ⟨rfl, rfl, rfl, fun files _ => rfl⟩
  case h_6 => exact absurd h (by simp only [reduceCtorEq, not_false_eq_true])
  case h_1 => exact absurd (by decide) hkey
  -- The others are looked into, and they are gone.
  case h_2 =>
    rw [← Option.some.inj h] at hc
    rcases hc.session with ⟨_, hsession⟩
    exact absurd hsession (by simp only [reduceCtorEq, not_false_eq_true])
  case h_3 =>
    rw [← Option.some.inj h] at hc
    rcases hc.shell with ⟨_, hshell⟩
    exact absurd hshell (by simp only [reduceCtorEq, not_false_eq_true])
  case h_5 =>
    rw [← Option.some.inj h] at hc
    rcases hc.logging with ⟨_, hlogging⟩
    exact absurd hlogging (by simp only [reduceCtorEq, not_false_eq_true])

/-- What is replaced under a key that is not shared is not read by any session
    that is there. -/
theorem readsAlike_of_set (store store' : ConfigStore) (key : String) (v : Json)
    (h : store.set key v = (.ok (), store')) (hkey : key ∉ sharedKeys) :
    ReadsAlike store.inForce store'.inForce := by
  rcases store.set_ok store' key v h with ⟨hreplace, hvalid⟩
  rcases Config.replaceAt?_cases _ _ _ v hreplace with
    ⟨part, hparts, hset⟩ | ⟨part, name, hparts, hset⟩
  · rw [keyParts_singleton key part hparts] at hkey
    exact readsAlike_replaceSection? _ _ part v hset
      (Config.hasSections_of_validate _ hvalid) hkey
  · rw [keyParts_pair key part name hparts] at hkey
    exact readsAlike_fieldSet _ _ part name v hset hkey

theorem place_getD (c : Config) (shell : ShellSettings)
    (h : c.place? = some (shell.username, shell.hostname)) :
    (c.shell.getD shell).username = shell.username ∧
      (c.shell.getD shell).hostname = shell.hostname := by
  unfold Config.place? at h
  cases hc : c.shell with
  | settings s =>
      simp only [hc, Section.get?, Option.map_some, Option.some.injEq, Prod.mk.injEq] at h
      exact h
  | replaced v => exact ⟨rfl, rfl⟩

/-- Under a key that is not shared no replacement is seen. -/
theorem keepsLines_of_not_mem (key : String) (hkey : key ∉ sharedKeys) : KeepsLines key := by
  intro store₀ store store' data v id now s before later hload hstart hset
  have hreads := readsAlike_of_set store store' key v hset hkey
  rcases store₀.loadJson_ok store data hload with ⟨c, hdata, rfl⟩
  rcases Config.ofJson_ok data c hdata with ⟨⟨terminal, session, shell, files, logging, hc⟩, hvalid⟩
  rcases c.keptCaps_of_validate hvalid with ⟨caps, hcaps⟩
  have hfiles : c.files = .settings files := by rw [hc]
  have hshell : c.shell = .settings shell := by rw [hc]
  have hwatches : s.Watches c files shell := by
    rcases ofConfig_cases id c true now caps shell files hcaps hshell hfiles with
      ⟨_, hs⟩ | ⟨_, hs⟩
    · rw [← Except.ok.inj (hs.symm.trans hstart)]
      exact ⟨rfl, rfl, rfl, rfl⟩
    · exact absurd (hs.symm.trans hstart) (by simp only [reduceCtorEq, not_false_eq_true])
  -- That is how the session was built, and no line has changed it since.
  have hnow := hwatches.after before
  have hsame : store'.inForce.files.getD (s.after before).files.settings =
      (s.after before).files.settings := by
    rw [hnow.files]
    exact hreads.files files hfiles
  rw [observe_eq_rewired _ store' hnow.isWatching hsame]
  have hplace := place_getD store'.inForce (s.after before).shell.settings (by
    rw [hreads.place, hnow.shell]
    simp only [ConfigStore.inForce, Option.getD_some, Config.place?, hshell, Section.get?,
      Option.map_some])
  refine answers_rewired ⟨?_, ?_, ?_, hplace.1, hplace.2⟩ later
  · rw [hnow.config]
    exact hreads.title
  · rw [hnow.config]
    exact hreads.lineCaps
  · rw [hnow.config]
    exact hreads.place

/-! ### Shared settings -/

/-- A moment to enter lines at. -/
def evening : Moment := ⟨2024, 3, 5, 18, 30, 0⟩

/-- A session with an empty object for its configuration. -/
def plain : Session :=
  { id := "1", config := {}, isWatching := true, files := .standard {} evening
    shell := .start {}, output := { capacity := 1000 }, history := { capacity := 100 } }

/-- What the lines of some answers show. -/
def shown (answers : List (Except ConfigFault (List Line))) : List (List String) :=
  answers.map (fun answer =>
    match answer with
    | .ok lines => lines.map (fun l => l.text.display.toOption.getD "")
    | .error _ => [])

theorem not_keepsLines (key : String) (v : Json) (store : ConfigStore) (lines : List String)
    (hset : ({ loaded := some {} } : ConfigStore).set key v = (.ok (), store))
    (hlines : shown ((plain.observe store).answers (lines.map (evening, ·))) ≠
      shown (plain.answers (lines.map (evening, ·)))) : ¬ KeepsLines key := by
  intro h
  have hsame := h {} { loaded := some {} } store (.obj []) v "1" evening plain []
    (lines.map (evening, ·)) rfl rfl hset
  exact hlines (congrArg shown hsame)

/-- Under each of the shared keys some replacement is seen. -/
theorem not_keepsLines_of_mem (key : String) (hkey : key ∈ sharedKeys) : ¬ KeepsLines key := by
  simp only [sharedKeys, List.mem_cons, List.not_mem_nil, or_false] at hkey
  rcases hkey with rfl | rfl | rfl | rfl | rfl | rfl | rfl | rfl | rfl | rfl
  -- The title of the terminal shows in its version.
  · exact not_keepsLines _ .null _ ["version"] rfl (by decide +kernel)
  · exact not_keepsLines _ (.str "Terminal") _ ["version"] rfl (by decide +kernel)
  · exact not_keepsLines _ (.str "2.0.0") _ ["version"] rfl (by decide +kernel)
  -- Smaller caps cut more lines off and refuse more names.
  · exact not_keepsLines _ (.int 1) _ ["help"] rfl (by decide +kernel)
  · exact not_keepsLines _ (.int 1) _ ["pwd"] rfl (by decide +kernel)
  -- The prompt stands in front of every line.
  · exact not_keepsLines _ (.str "ann") _ ["pwd"] rfl (by decide +kernel)
  · exact not_keepsLines _ (.str "devbox") _ ["pwd"] rfl (by decide +kernel)
  -- New nodes show in a list.
  · exact not_keepsLines _ (.int 1) _ ["mkdir d", "ls"] rfl (by decide +kernel)
  · exact not_keepsLines _ (.str "private") _ ["mkdir d", "ls"] rfl (by decide +kernel)
  · exact not_keepsLines _ (.str "private") _ ["touch f", "ls"] rfl (by decide +kernel)

/-- The sessions that are there keep what they were built with under exactly
    those keys that are not shared. -/
theorem keepsLines_iff (key : String) : KeepsLines key ↔ key ∉ sharedKeys :=
  ⟨fun h hkey => not_keepsLines_of_mem key hkey h, keepsLines_of_not_mem key⟩

/-- A session that is there shows another name of the machine in its prompt as
    soon as that name is replaced. -/
theorem replaced_hostname_shows :
    ∃ store store', ({} : ConfigStore).loadJson (.obj []) = (.ok (), store) ∧
      ofStore "1" store evening = .ok plain ∧
      store.set "shell.hostname" (.str "devbox") = (.ok (), store') ∧
      shown (plain.answers [(evening, "pwd")]) = [["user@hyper-terminal:/$ pwd", "/"]] ∧
      shown ((plain.observe store').answers [(evening, "pwd")]) =
        [["user@devbox:/$ pwd", "/"]] :=
  ⟨{ loaded := some {} }, _, rfl, rfl, rfl, by decide +kernel, by decide +kernel⟩

end Session

end SimTerm
