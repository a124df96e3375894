import SimTerm.Proofs.Schema.Theme
import SimTerm.Proofs.Session.Shape
import SimTerm.Proofs.Session.Stock

/-!
# The Active Theme

The theme that a session calls active is always in store.

A session keeps the name of its theme and the registry keeps the themes, so the
two could drift apart. They do not. A name becomes the active one only when it
is known, it is kept in small letters, and small letters are looked up as they
are (`knows_lowered`). And no name is ever lost, because a theme that is added
takes away at most the place of one with the same name (`Restocked.knows`). So
whatever happens to a session, its active theme is known afterwards if it was
before, and a new session begins with one that is.

For the `theme` command this means that without a name it always has colours to
show, and that it accepts every name that a theme was ever loaded under. If it
refuses, or if any other line fails, the active theme stays what it was.

## Theorems

* `Restocked.knows`, `Restocked.knows_active`: No change loses a theme or the
  active one.
* `knows_turns`, `knows_active_turns`: The same for runs.
* `loadTheme_lines_iff`, `knows_of_loadTheme`: When a theme is loaded, and that it is
  known then.
* `theme_of_failed_submit`, `theme_of_failed_dispatch`: A line that fails leaves
  the active theme alone.
* `active_theme_exists`: All of this for the runs of a new session.
-/

namespace SimTerm

namespace Session

/-! ### Known themes -/

theorem Restocked.knows {r r' : Registry} {active active' : String}
    (h : Restocked r active r' active') (name : String) (hname : r.Knows name) : r'.Knows name := by
  cases h with
  | same => exact hname
  | chosen => exact hname
  | themeAdded added t => exact (r.knows_addTheme added name t).mpr (.inr hname)
  | workflowAdded => exact hname

/-- The active theme changes only to one that is known. -/
theorem Restocked.knows_active {r r' : Registry} {active active' : String}
    (h : Restocked r active r' active') (hactive : r.Knows active) : r'.Knows active' := by
  cases h with
  | same => exact hactive
  | chosen name hname => exact (r.knows_lowered name).mpr hname
  | themeAdded added t => exact (r.knows_addTheme added active t).mpr (.inr hactive)
  | workflowAdded => exact hactive

theorem knows_turns (s : Session) (turns : List Turn) (name : String)
    (h : s.registry.Knows name) : (turns.foldl turn s).registry.Knows name :=
  stock_invariant (fun r _ => r.Knows name) (fun _ _ _ _ h => h.knows name) s turns h

theorem knows_active_turns (s : Session) (turns : List Turn) (h : s.registry.Knows s.theme) :
    (turns.foldl turn s).registry.Knows (turns.foldl turn s).theme :=
  stock_invariant (fun r active => r.Knows active) (fun _ _ _ _ h => h.knows_active) s turns h

/-! ### The commands -/

/-- Loading goes through exactly if there is a file with a theme. -/
theorem loadTheme_lines_iff (now : Moment) (c : Command) (s : Session) :
    (∃ texts, (s.perform now .loadTheme c).value.1 = .lines texts) ↔ s.LoadsTheme c := by
  constructor
  · rintro ⟨texts, h⟩
    by_contra hnone
    exact loadTheme_not_lines now c s hnone texts h
  · rintro ⟨name, path, rest, text, t, events, hargs, hpath, hread⟩
    have htext : s.fileText "load-theme" path = .ok text := by rw [fileText, hpath]
    rw [perform, loadTheme, hargs]
    simp only [htext, hread]
    exact ⟨_, rfl⟩

/-- A theme that was loaded is known by the name that it was loaded under. -/
theorem knows_of_loadTheme (now : Moment) (c : Command) (s : Session) (name : String)
    (rest : List String) (hargs : c.args = name :: rest) (h : s.LoadsTheme c) :
    (s.perform now .loadTheme c).value.2.registry.Knows name := by
  rcases h with ⟨name', path, more, text, t, events, hargs', hpath, hread⟩
  have hsame : name' = name := (List.cons.inj (hargs'.symm.trans hargs)).1
  have htext : s.fileText "load-theme" path = .ok text := by rw [fileText, hpath]
  have hstored : (s.perform now .loadTheme c).value.2.registry =
      (s.registry.addTheme name t).value := by
    rw [perform, loadTheme, hargs', hsame]
    simp only [htext, hread]
    rfl
  rw [hstored]
  exact (s.registry.knows_addTheme name name t).mpr (.inl rfl)

/-- A line that loads a theme makes it known, whatever has become of the rest of
    the session. -/
theorem knows_of_called (now : Moment) (call : Option (Builtin × Command))
    (s ready after : Session) (c : Command) (name : String) (rest : List String)
    (hcall : call = some (.loadTheme, c)) (hargs : c.args = name :: rest)
    (hloads : ready.LoadsTheme c)
    (h : (∃ b c, call = some (b, c) ∧
        after.registry = (ready.perform now b c).value.2.registry) ∨
      (call = none ∧ after.registry = s.registry)) : after.registry.Knows name := by
  rcases h with ⟨b, c', hcall', hafter⟩ | ⟨hnone, _⟩
  · rw [hcall, Option.some.injEq, Prod.mk.injEq] at hcall'
    rw [hafter, ← hcall'.1, ← hcall'.2]
    exact knows_of_loadTheme now c ready name rest hargs hloads
  · rw [hcall] at hnone
    exact absurd hnone (by simp only [reduceCtorEq, not_false_eq_true])

/-- Without a name the command shows the colours of the active theme. -/
theorem perform_theme_of_none (now : Moment) (c : Command) (s : Session) (t : Theme)
    (hc : c.first? = none) (ht : s.registry.theme? s.theme = some t) :
    s.perform now .theme c = s.answer (["Current theme: " ++ s.theme] ++ themeTexts t ++
      ["Use 'themes' to list available themes"]) := by
  rw [perform, chooseTheme, hc]
  simp only [ht]

/-- With a name that is known it makes that theme the active one. -/
theorem perform_theme_of_knows (now : Moment) (c : Command) (s : Session) (name : String)
    (hc : c.first? = some name) (h : s.registry.Knows name) :
    s.perform now .theme c =
      .pure (.texts ["Switched to theme: " ++ lowered name], { s with theme := lowered name }) := by
  rcases h with ⟨t, ht⟩
  rw [perform, chooseTheme, hc]
  simp only [ht]

/-! ### Lines that fail -/

theorem theme_of_failed_dispatch (now : Moment) (raw : String) (s : Session)
    (answer : Traced (List Line × Session)) (h : s.dispatch now raw = .ok answer)
    (hfailed : ∃ l ∈ answer.value.1, l.kind = .error) : answer.value.2.theme = s.theme := by
  rw [(refused_of_error now raw s answer h hfailed).session]

/-- The line of input that is written down with the answer is no error line. -/
theorem theme_of_failed_submit (now : Moment) (raw : String) (s : Session) (lines : List Line)
    (h : (s.submit now raw).value.1 = .ok lines) (hfailed : ∃ l ∈ lines, l.kind = .error) :
    (s.submit now raw).value.2.theme = s.theme := by
  rcases submit_cases now raw s with
    ⟨u, _, hs⟩ | ⟨f, _, hs⟩ | ⟨answer, _, _, hs⟩ | ⟨prompt, answer, _, hrun, _, hs⟩
  · rw [hs]
  · rw [hs]
    rfl
  · rw [hs, Except.ok.injEq] at h
    rw [← h] at hfailed
    rcases hfailed with ⟨l, hl, _⟩
    exact absurd hl List.not_mem_nil
  · rw [hs, Except.ok.injEq] at h
    have hanswer : ∃ l ∈ answer.value.1, l.kind = .error := by
      rcases hfailed with ⟨l, hl, hkind⟩
      rw [← h, record_lines, List.mem_cons] at hl
      rcases hl with rfl | hl
      · exact absurd hkind (by simp only [reduceCtorEq, not_false_eq_true])
      · exact ⟨l, hl, hkind⟩
    have htheme := theme_of_failed_dispatch now raw s.ready answer hrun hanswer
    rw [hs]
    simp only [record, remember, number, htheme, ready]

/-! ### Runs -/

/-- A run from a new session. The active theme is there, so without a name the
    `theme` command shows its colours. A command that fails changes nothing, and
    a line that fails leaves the active theme alone. And a line that has loaded a
    theme under some name leaves a session in which, after anything else, the
    `theme` command accepts that name. -/
theorem active_theme_exists (id : String) (c : Config) (isWatching : Bool) (now : Moment)
    (new : Session) (hnew : ofConfig id c isWatching now = .ok new) (turns : List Turn) :
    let s := turns.foldl turn new
    (∃ t, s.registry.theme? s.theme = some t ∧ ∀ now (c : Command), c.first? = none →
      s.perform now .theme c = s.answer (["Current theme: " ++ s.theme] ++ themeTexts t ++
        ["Use 'themes' to list available themes"])) ∧
    (∀ now c, (∀ texts, (s.perform now .theme c).value.1 ≠ .lines texts) →
      (s.perform now .theme c).value.2 = s) ∧
    (∀ now raw lines, (s.submit now raw).value.1 = .ok lines → (∃ l ∈ lines, l.kind = .error) →
      (s.submit now raw).value.2.theme = s.theme) ∧
    (∀ now raw answer, s.dispatch now raw = .ok answer →
      (∃ l ∈ answer.value.1, l.kind = .error) → answer.value.2.theme = s.theme) ∧
    ∀ now raw c name rest texts loaded,
      (s.entered? raw = some (.loadTheme, c) ∧ loaded = (s.submit now raw).value.2) ∨
        (s.called? raw = some (.loadTheme, c) ∧ loaded = s.act (.dispatch now raw)) →
      c.args = name :: rest → (s.perform now .loadTheme c).value.1 = .lines texts →
      ∀ later : List Turn,
        let s' := later.foldl turn loaded
        ∀ now (c : Command), c.first? = some name → s'.perform now .theme c =
          .pure (.texts ["Switched to theme: " ++ lowered name],
            { s' with theme := lowered name }) := by
  intro s
  have hactive : s.registry.Knows s.theme := by
    refine knows_active_turns new turns ?_
    rw [(ofConfig_stock id c isWatching now new hnew).1,
      (ofConfig_stock id c isWatching now new hnew).2]
    exact Registry.standard_knows
  refine ⟨?_, fun now c => ending_eq_of_not_lines (perform_ending now c s .theme),
    fun now raw => theme_of_failed_submit now raw s,
    fun now raw => theme_of_failed_dispatch now raw s, ?_⟩
  · rcases hactive with ⟨t, ht⟩
    exact ⟨t, ht, fun now c hc => perform_theme_of_none now c s t hc ht⟩
  · intro now raw c name rest texts loaded hcall hargs hlines later s' now' c' hc'
    refine perform_theme_of_knows now' c' s' name hc' (knows_turns loaded later name ?_)
    -- Whether there is a theme in the file does not depend on how the line is run.
    have hloads : s.LoadsTheme c := (loadTheme_lines_iff now c s).mp ⟨texts, hlines⟩
    rcases hcall with ⟨hcall, h⟩ | ⟨hcall, h⟩
    · rw [h]
      exact knows_of_called now _ s s.ready _ c name rest hcall hargs hloads
        (submit_called Session.registry (fun _ _ _ _ _ => rfl) now raw s)
    · rw [h]
      exact knows_of_called now _ s s _ c name rest hcall hargs hloads
        (act_dispatch_called Session.registry (fun _ _ => rfl) now raw s)

/-- The parts of a line that loads a theme. -/
def loadingTheme : Command where
  name := "load-theme"
  args := ["Neon", "t.yml"]
  line := "load-theme Neon t.yml"
  remainder := "Neon t.yml"

/-- A session with a theme in a file. -/
def withTheme : Session := [onlyFile "t.yml" Schema.sharedTheme].foldl turn untouched

/-- Another theme is chosen after that and the files are gone. -/
def afterTheme : List Turn :=
  [.happened (.acted (.submit noon "theme ASAM")), .happened (.filesReplaced oneFile)]

/-- The theme was loaded under a name with a capital, and that is still accepted. -/
theorem active_theme_exists_reloaded :
    ofConfig "1" {} false noon = .ok untouched ∧
      ∃ s, s = afterTheme.foldl turn (withTheme.submit noon "load-theme Neon t.yml").value.2 ∧
        s.perform noon .theme { name := "theme", args := ["Neon"] } =
          .pure (.texts ["Switched to theme: neon"], { s with theme := "neon" }) := by
  have hnew : ofConfig "1" {} false noon = .ok untouched := by rfl
  have hcall : withTheme.entered? "load-theme Neon t.yml" = some (.loadTheme, loadingTheme) := by rfl
  rcases Schema.sharedTheme_value with ⟨_, _, _, htheme⟩
  have hread := congrArg (accepted Event.themeRejected) htheme
  have hloads : withTheme.LoadsTheme loadingTheme :=
    ⟨"Neon", "t.yml", [], Schema.sharedTheme, _, [], rfl, by decide +kernel, hread⟩
  rcases (loadTheme_lines_iff noon loadingTheme _).mpr hloads with ⟨texts, hlines⟩
  have hlowered : lowered "Neon" = "neon" := by decide
  have hfirst : ({ name := "theme", args := ["Neon"] } : Command).first? = some "Neon" := by
    decide +kernel
  rw [withTheme] at hcall hlines ⊢
  rcases active_theme_exists "1" {} false noon untouched hnew [onlyFile "t.yml" Schema.sharedTheme] with
    ⟨_, _, _, _, haccepted⟩
  have hloaded := haccepted noon "load-theme Neon t.yml" _ "Neon" ["t.yml"] _ _ (.inl ⟨hcall, rfl⟩)
    rfl hlines afterTheme noon _ hfirst
  rw [hlowered] at hloaded
  exact ⟨hnew, _, rfl, hloaded⟩

end Session

end SimTerm
