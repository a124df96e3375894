import SimTerm.Session.Submission
/-!
# Tabs

Several sessions side by side, of which one is active. Each new session gets the next number
as its name, whether or not it can be opened. There is always at least one tab, and tabs stand
in the order in which they were opened.

## Main definitions

* `Tabs`: The open sessions, split at the active one.
* `Tabs.start`: The first tab.
* `Tabs.openTab`, `Tabs.close`, `Tabs.activate`: Changes of the tabs.
* `Tabs.observe`: The tabs after a setting was replaced.
-/

namespace SimTerm

/-- The open sessions, split at the active one. -/
structure Tabs where
  /-- The sessions opened before the active one. -/
  before : List Session
  /-- The active session. -/
  active : Session
  /-- The sessions opened after the active one. -/
  after : List Session
  /-- How many names were given away. -/
  issued : Nat

namespace Tabs

/-- All sessions in the order in which they were opened. -/
def sessions (t : Tabs) : List Session := t.before ++ t.active :: t.after

/-- The names of all sessions. -/
def ids (t : Tabs) : List String := t.sessions.map Session.id

/-- The session with a name. -/
def get? (t : Tabs) (id : String) : Option Session := t.sessions.find? (fun s => s.id == id)

/-- A session with the first lines of a new one. -/
def openSession (id : String) (store : ConfigStore) (now : Moment) :
    Traced (Except SessionFault Session) :=
  match Session.start id store now with
  | .error f => ⟨.error f, []⟩
  | .ok ⟨s, events⟩ =>
    match s.welcome with
    | .error f => ⟨.error (.config f), events⟩
    | .ok (_, s) => ⟨.ok s, events ++ [.tabOpened id]⟩

/-- The name with a number. -/
def nameOf (n : Nat) : String := toString n

/-- The first tab. -/
def start (store : ConfigStore) (now : Moment) : Traced (Except SessionFault Tabs) :=
  (openSession (nameOf 1) store now).map (fun r => r.map (fun s => ⟨[], s, [], 1⟩))

/-- Opens one more tab and makes it the active one. -/
def openTab (t : Tabs) (store : ConfigStore) (now : Moment) :
    Traced (Except SessionFault String × Tabs) :=
  let issued := t.issued + 1
  (openSession (nameOf issued) store now).map (fun r =>
    match r with
    | .error f => (.error f, { t with issued })
    | .ok s => (.ok s.id, ⟨t.sessions, s, [], issued⟩))

/-- The tabs with another one active, if there is one with the name. -/
def focus? (t : Tabs) (id : String) : Option Tabs :=
  match t.sessions.span (fun s => s.id != id) with
  | (before, s :: after) => some { t with before, active := s, after }
  | (_, []) => none

/-- Makes another tab the active one. -/
def activate (t : Tabs) (id : String) : Bool × Tabs :=
  match t.focus? id with
  | some t' => (true, t')
  | none => (false, t)

/-- The tabs without one of them; nothing if there is no such tab or no other one. In the
place of the active tab the last one opened becomes active. -/
def without? (t : Tabs) (id : String) : Option Tabs :=
  let others (ss : List Session) : List Session := ss.filter (fun s => s.id != id)
  if t.active.id == id then
    let rest := t.before ++ t.after
    rest.getLast?.map (fun s => { t with before := rest.dropLast, active := s, after := [] })
  else if (t.get? id).isSome then
    some { t with before := others t.before, after := others t.after }
  else none

/-- Closes a tab. -/
def close (t : Tabs) (id : String) : Traced (Bool × Tabs) :=
  match t.without? id with
  | some t' => ⟨(true, t'), [.tabClosed id]⟩
  | none => ⟨(false, t), []⟩

/-- The tabs after a setting in force was replaced. -/
def observe (t : Tabs) (store : ConfigStore) : Tabs :=
  { t with
    before := t.before.map (·.observe store)
    active := t.active.observe store
    after := t.after.map (·.observe store) }

/-- The tabs with another state of the active session. -/
def withActive (t : Tabs) (s : Session) : Tabs := { t with active := s }

end Tabs

end SimTerm
