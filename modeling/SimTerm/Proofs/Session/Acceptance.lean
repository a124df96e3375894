import SimTerm.Proofs.Config.Loading
import SimTerm.Proofs.Session.Copies
import SimTerm.Proofs.Session.Personas
import SimTerm.Proofs.Shell.Prompt

/-!
# Accepted Configurations

Which of the accepted configurations a session can be made from, and whether all
lines that are entered into it are answered.

A configuration that is accepted has all its sections and caps, so neither the
making of a session nor a line that is entered later misses one. Two things are
left that nothing has looked at. The caps of what a session keeps have to fit the
machine (`Fits`), or there is no session. And the user and the machine, which may
be any values, have to be written in front of every line. If one of them cannot
be, the first line that needs it fails, and nothing has happened then.

There is one way around that. As powershell a session shows neither name, and it
stays powershell for good if the cap on names keeps out the command that chooses
another persona. No other line can choose one. So the answers are there for all
runs exactly if the names can be written or never have to be (`Prompting`), and
each line leaves that as it is.

## Main definitions

* `Prompting`: A session has a prompt now and will always have one.

## Theorems

* `answers_ok`: What is kept by every line and has every line answered.
* `Prompting.enter`, `Prompting.submit_ok`: This is kept and has lines answered.
* `submit_of_names`: A line fails where a name cannot be written.
* `chooses_bash`: How the names come to be shown.
* `answers_ok_iff`: When all lines of all runs are answered.
* `accepted_opens`: What becomes of an accepted configuration.
* `accepted_too_large`: One that no session can be made from.
-/

namespace SimTerm

namespace Session

/-- Under a property that every line keeps and that has lines answered, all lines
    of a run are answered. -/
theorem answers_ok (P : Session → Prop) (hkept : ∀ s i, P s → P (s.enter i))
    (hok : ∀ s (i : Input), P s → ∃ lines, (s.submit i.1 i.2).value.1 = .ok lines) (s : Session)
    (hs : P s) (inputs : List Input) :
    ∀ answer ∈ s.answers inputs, ∃ lines, answer = .ok lines := by
  induction inputs generalizing s with
  | nil => exact fun answer hanswer => absurd hanswer List.not_mem_nil
  | cons i rest ih =>
      intro answer hanswer
      rcases List.mem_cons.mp hanswer with rfl | hanswer
      · exact hok s i hs
      · exact ih (s.enter i) (hkept s i hs) answer hanswer

/-- A session has a prompt and goes on having one: the names in it can be written,
    or they are not shown and the command that would show them has too long a
    name. -/
structure Prompting (caps : LineCaps) (s : Session) : Prop where
  /-- Lines are run under these caps. -/
  lineCaps : s.config.lineCaps = .ok caps
  /-- Built-in commands run under their own names. -/
  own : s.RunsOwn
  /-- The names can be written, or they are never shown. -/
  names : s.shell.settings.IsWritable ∨
    (s.shell.active = .powershell ∧ caps.maxCommandLength.val < "shell".length)

/-- A line that is entered chooses no persona if the cap keeps the command out. -/
theorem chosen?_of_short (s : Session) (caps : LineCaps) (hcaps : s.config.lineCaps = .ok caps)
    (hown : s.RunsOwn) (hshort : caps.maxCommandLength.val < "shell".length) (raw : String) :
    chosen? (s.entered? raw) = none := by
  cases hcall : s.entered? raw with
  | none => rfl
  | some call =>
      rcases call with ⟨b, c⟩
      rw [entered?_eq_some_iff, called?_eq_some_iff] at hcall
      rcases hcall with ⟨_, caps', hcaps', _, hlength, hname⟩
      rw [hcaps, Except.ok.injEq] at hcaps'
      cases b with
      | shell =>
          rw [hown c.name .shell hname, ← hcaps'] at hlength
          exact absurd hshort (Nat.not_lt.mpr hlength)
      | _ => rfl

/-- No line changes that. -/
theorem Prompting.enter {caps : LineCaps} {s : Session} (h : s.Prompting caps) (i : Input) :
    (s.enter i).Prompting caps where
  lineCaps := by rw [Session.enter, submit_config, h.lineCaps]
  own := h.own.of_handlers_eq (submit_handlers i.1 i.2 s)
  names := by
    rcases h.names with hnames | ⟨hactive, hshort⟩
    · left
      rw [Session.enter, (submit_wired i.1 i.2 s).shell]
      exact hnames
    · right
      have hapart := separates_line i.1 _ s s.ready _ rfl
        (submit_called (fun s => s.shell) (fun _ _ _ _ _ => rfl) i.1 i.2 s)
      rw [chosen?_of_short s caps h.lineCaps h.own hshort i.2] at hapart
      exact ⟨hapart.active.trans hactive, hshort⟩

theorem Prompting.submit_ok {caps : LineCaps} {s : Session} (h : s.Prompting caps) (i : Input) :
    ∃ lines, (s.submit i.1 i.2).value.1 = .ok lines := by
  have hshown : s.shell.active = .powershell ∨ s.shell.settings.IsWritable :=
    h.names.symm.imp_left And.left
  rcases (s.shell.exists_prompt_iff s.files.cwdText).mpr hshown with ⟨prompt, hprompt⟩
  exact Session.submit_ok i.1 i.2 s caps h.lineCaps prompt hprompt

/-! ### Names that cannot be written -/

/-- Where a name has to be shown that cannot be written, a line fails. -/
theorem submit_of_names (now : Moment) (raw : String) (s : Session)
    (hactive : s.shell.active ≠ .powershell) (hnames : ¬ s.shell.settings.IsWritable) :
    ∃ u, (s.submit now raw).value.1 = .error (.unwritable u) := by
  cases hprompt : s.prompt with
  | error u => exact ⟨u, by rw [submit_of_no_prompt now raw s u hprompt]⟩
  | ok prompt =>
      rcases (s.shell.exists_prompt_iff s.files.cwdText).mp ⟨prompt, hprompt⟩ with h | h
      · exact absurd h hactive
      · exact absurd h hnames

/-- The parts of a line that chooses a persona. -/
def choosingBash : Command where
  name := "shell"
  args := ["bash"]
  line := "shell bash"
  remainder := "bash"

/-- In a new session with powershell there is a line that makes bash the active
    one, if the cap on names allows for it. -/
theorem chooses_bash (s : Session) (caps : LineCaps) (hcaps : s.config.lineCaps = .ok caps)
    (hhandlers : s.handlers = standardHandlers) (hprofiles : s.shell.profiles = .standard)
    (hactive : s.shell.active = .powershell)
    (hlong : "shell".length ≤ caps.maxCommandLength.val) (now : Moment) :
    (s.enter (now, "shell bash")).shell.active = .bash := by
  have hcommand : s.commandOf? "shell bash" = some choosingBash := by
    have hprofile : s.shell.profile = Profiles.standard.get .powershell := by
      rw [Shell.profile, hprofiles, hactive]
    rw [commandOf?, Shell.expandAlias, hprofile]
    rfl
  have hprompt : ∃ prompt, s.prompt = .ok prompt :=
    (s.shell.exists_prompt_iff s.files.cwdText).mpr (.inl hactive)
  have hhandler : s.handler? "shell" = some (.builtin .shell) := by
    rw [handler?, hhandlers]
    rfl
  have hcall : s.entered? "shell bash" = some (.shell, choosingBash) :=
    (entered?_eq_some_iff _ _ _).mpr ⟨hprompt, (called?_eq_some_iff _ _ _ _).mpr
      ⟨caps, hcaps, hcommand, hlong, hhandler⟩⟩
  have hapart := separates_line now _ s s.ready _ rfl
    (submit_called (fun s => s.shell) (fun _ _ _ _ _ => rfl) now "shell bash" s)
  rw [hcall] at hapart
  exact hapart.active

/-! ### The law -/

/-- In a session with a new shell all lines of all runs are answered exactly if the
    names can be written or are never shown. -/
theorem answers_ok_iff (s : Session) (caps : LineCaps) (hcaps : s.config.lineCaps = .ok caps)
    (hhandlers : s.handlers = standardHandlers) (hprofiles : s.shell.profiles = .standard)
    (now : Moment) :
    (∀ inputs, ∀ answer ∈ s.answers inputs, ∃ lines, answer = .ok lines) ↔
      s.shell.settings.IsWritable ∨
        (s.shell.active = .powershell ∧ caps.maxCommandLength.val < "shell".length) := by
  constructor
  · intro hanswers
    -- A line that fails is no line that is answered.
    have hfails : ∀ inputs u, .error (.unwritable u) ∉ s.answers inputs := fun inputs u hu => by
      rcases hanswers inputs _ hu with ⟨lines, hlines⟩
      exact absurd hlines (by simp only [reduceCtorEq, not_false_eq_true])
    by_contra hnot
    rw [not_or, not_and] at hnot
    rcases hnot with ⟨hnames, hlong⟩
    by_cases hactive : s.shell.active = .powershell
    · -- Another persona has to be chosen first, and then the names are shown.
      have hbash := chooses_bash s caps hcaps hhandlers hprofiles hactive
        (Nat.not_lt.mp (hlong hactive)) now
      have hsettings : ¬ (s.enter (now, "shell bash")).shell.settings.IsWritable := by
        rw [enter, (submit_wired now "shell bash" s).shell]
        exact hnames
      rcases submit_of_names now "" (s.enter (now, "shell bash"))
        (by rw [hbash]; exact Persona.noConfusion) hsettings with ⟨u, hu⟩
      refine hfails [(now, "shell bash"), (now, "")] u ?_
      rw [answers, answers, hu]
      exact List.mem_cons_of_mem _ List.mem_cons_self
    · rcases submit_of_names now "" s hactive hnames with ⟨u, hu⟩
      refine hfails [(now, "")] u ?_
      rw [answers, hu]
      exact List.mem_cons_self
  · exact fun hnames => answers_ok (Prompting caps) (fun s i hs => hs.enter i)
      (fun s i hs => hs.submit_ok i) s ⟨hcaps, runsOwn_of_handlers _ hhandlers, hnames⟩

theorem personaOf_eq_powershell (v : Json) (hv : isShellName v = true) :
    Shell.personaOf v = .powershell ↔ v = .str "powershell" := by
  rcases (isShellName_iff v).mp hv with ⟨name, hname, rfl⟩
  have hnames : ∀ name ∈ Persona.names,
      (Shell.personaOf (.str name) = .powershell ↔ name = "powershell") := by decide
  rw [hnames name hname, Json.str.injEq]

/-- What becomes of an accepted configuration. If its two caps of what is kept do
    not fit the machine, there is no session with it. If they do, there is one,
    and every line of every run is answered exactly if the user and the machine
    can be written, or the session begins as powershell and the cap on names keeps
    out the command that chooses another persona. -/
theorem accepted_opens (store store' : ConfigStore) (data : Json)
    (h : store.loadJson data = (.ok (), store')) (id : String) (now : Moment) :
    ∃ shell kept caps, store'.inForce.shell = .settings shell ∧
      store'.inForce.keptCaps = .ok kept ∧ store'.inForce.lineCaps = .ok caps ∧
      (¬ Fits kept → ofStore id store' now = .error (.cap .tooLarge)) ∧
      (Fits kept → ∃ s, ofStore id store' now = .ok s ∧
        ((∀ inputs, ∀ answer ∈ s.answers inputs, ∃ lines, answer = .ok lines) ↔
          shell.IsWritable ∨ (shell.defaultShell = .str "powershell" ∧
            caps.maxCommandLength.val < "shell".length))) := by
  rcases store.loadJson_ok store' data h with ⟨c, hdata, rfl⟩
  rcases Config.ofJson_ok data c hdata with ⟨⟨terminal, session, shell, files, logging, hc⟩, hvalid⟩
  rcases c.keptCaps_of_validate hvalid with ⟨kept, hkept⟩
  rcases c.lineCaps_of_validate hvalid with ⟨caps, hcaps⟩
  have hshell : c.shell = .settings shell := by rw [hc]
  have hfiles : c.files = .settings files := by rw [hc]
  have hname : isShellName shell.defaultShell = true := by
    rcases c.validate_eq_ok_iff.mp hvalid .shell (by simp [Check.all]) with ⟨v, hv, hallows⟩
    have hfield : c.fieldAt? "shell" "default_shell" = some shell.defaultShell := by
      rw [hc]
      rfl
    rw [Option.some.inj (hfield.symm.trans hv)]
    exact hallows
  refine ⟨shell, kept, caps, hshell, hkept, hcaps, fun hfits => ?_, fun hfits => ?_⟩
  · rcases ofConfig_cases id c true now kept shell files hkept hshell hfiles with
      ⟨hyes, _⟩ | ⟨_, hs⟩
    · exact absurd hyes hfits
    · exact hs
  · rcases ofConfig_cases id c true now kept shell files hkept hshell hfiles with
      ⟨_, hs⟩ | ⟨hno, _⟩
    · refine ⟨_, hs, ?_⟩
      rw [← personaOf_eq_powershell _ hname]
      exact answers_ok_iff _ caps hcaps rfl rfl now
    · exact absurd hfits hno

/-- An empty object is accepted, and every line of every run is answered. -/
theorem accepted_opens_empty :
    ({} : ConfigStore).loadJson (.obj []) = (.ok (), ⟨some {}⟩) ∧
      ∃ s, ofStore "1" ⟨some {}⟩ ⟨2024, 3, 5, 12, 0, 0⟩ = .ok s ∧
        ∀ inputs, ∀ answer ∈ s.answers inputs, ∃ lines, answer = .ok lines := by
  have hload : ({} : ConfigStore).loadJson (.obj []) = (.ok (), ⟨some {}⟩) := rfl
  rcases accepted_opens {} ⟨some {}⟩ (.obj []) hload "1" ⟨2024, 3, 5, 12, 0, 0⟩ with
    ⟨shell, kept, caps, hshell, hkept, _, _, hopens⟩
  have hstandard : ({} : Config).keptCaps = .ok ⟨⟨1000, by decide⟩, ⟨100, by decide⟩⟩ := by rfl
  rw [← Except.ok.inj (hstandard.symm.trans hkept)] at hopens
  rcases hopens ⟨by decide, by decide⟩ with ⟨s, hs, hanswers⟩
  refine ⟨hload, s, hs, hanswers.mpr (.inl ?_)⟩
  rw [← Section.settings.inj hshell]
  exact ShellSettings.isWritable_of_texts _ "user" "hyper-terminal" rfl rfl

/-- A configuration whose history is larger than the machine is accepted, and
    there is no session with it. -/
theorem accepted_too_large :
    ∃ store, ({} : ConfigStore).loadJson
        (.obj [("session", .obj [("max_history", .int 9223372036854775808)])]) = (.ok (), store) ∧
      ofStore "1" store ⟨2024, 3, 5, 12, 0, 0⟩ = .error (.cap .tooLarge) :=
  ⟨_, rfl, rfl⟩

end Session

end SimTerm
