import Mathlib.Data.List.Induction
import SimTerm.Journal

/-!
# What a Journal Remembers

A journal is the end of a record that is never cut, and a question about it is
answered from that end.

The record has the entries that were taken since the journal was started. The
buffer appends each of them and forgets the oldest one beyond its capacity, so
it is the end of the record at every moment (`recordAll_eq`), and what was
forgotten does not matter any more (`keepLast_keepLast_append`). Which messages
are taken depends on one start alone. Before the first one there is nothing to
take them, and after it the level stays what it is. So the run is cut at the
first start, and an open journal takes what is said behind it one message after
the other (`run_settled`). What a session reports is nothing else than messages
(`report_eq`).

The exception is a start whose file cannot be opened. It opens a journal that
the next start throws away, so of several such starts it is the last one that
counts, unless one follows that settles the level (`opening?`).

A question looks at the buffer through two filters and then counts from the end
of what is left. The count goes wrong at one place only. Counting nothing from
the end of a list cuts it at its front, so a limit of zero gives everything
(`takeRecent_natCast`).

## Main definitions

* `EntryBuffer.recordAll`: A buffer after some entries.
* `Entry.Matches`: An entry passes two filters.
* `Journal.Request`, `Journal.answer`, `Journal.run`: What can be done to a
  journal, and runs of it.
* `Journal.Opening`, `Journal.opening?`: The start that a run goes by, and what is
  said behind it.
* `Journal.heard`: The messages of a run that are taken.
* `Journal.HasRecorded`: A journal has recorded some entries and no others.
* `Journal.taking`: An open journal after some messages.
* `Journal.Continues`: What becomes of an open journal in a run.

## Theorems

* `EntryBuffer.recordAll_eq`: The buffer is the end of what was recorded.
* `foldl_open`: What an open journal takes step by step it takes in a row.
* `answer_settled`, `run_settled`: What it takes from requests once its level is
  settled.
* `run_unsettled`: And what becomes of one whose level is not.
* `run_hasRecorded`: What a journal has recorded after a run.
* `keeps_recent_past`: The buffer is the end of what was heard.
* `query_honours_limit_iff`: When a question is answered up to its limit.
* `query_without_limit`: A question that is not.
-/

namespace SimTerm

/-! ### The buffer -/

/-- Counted from the end of a list, no items are all items. -/
theorem takeRecent_natCast {α : Type} (n : Nat) (xs : List α) :
    takeRecent n xs = if n = 0 then xs else keepLast n xs := by
  rw [takeRecent]
  split
  case isTrue hpos => rw [if_neg (by omega), Int.toNat_natCast]
  case isFalse hzero => rw [if_pos (by omega), Int.toNat_of_nonpos (by omega), List.drop_zero]

theorem takeRecent_nil {α : Type} (n : Int) : takeRecent n ([] : List α) = [] := by
  rw [takeRecent, keepLast_nil, List.drop_nil, ite_self]

namespace EntryBuffer

/-- A buffer after some entries, oldest first. -/
def recordAll (b : EntryBuffer) (es : List Entry) : EntryBuffer := es.foldl record b

/-- An entry comes last, and the oldest one makes room for it. -/
theorem record_eq (b : EntryBuffer) (e : Entry) (hroom : 0 < b.capacity) :
    b.record e = { b with entries := keepLast b.capacity.toNat (b.entries ++ [e]) } := by
  rw [record]
  split
  · rw [takeRecent, if_pos hroom]
  · rw [keepLast_of_length_le _ _ (by omega)]

theorem recordAll_append (b : EntryBuffer) (es fs : List Entry) :
    b.recordAll (es ++ fs) = (b.recordAll es).recordAll fs := List.foldl_append

/-- A buffer with room is the end of what was recorded. -/
theorem recordAll_eq (b : EntryBuffer) (es : List Entry) (hroom : 0 < b.capacity)
    (hfits : b.entries.length ≤ b.capacity.toNat) :
    b.recordAll es = { b with entries := keepLast b.capacity.toNat (b.entries ++ es) } := by
  -- Entries come at the end, so the induction takes them from there.
  induction es using List.reverseRecOn with
  | nil => rw [recordAll, List.foldl_nil, List.append_nil, keepLast_of_length_le _ _ hfits]
  | append_singleton es e ih =>
      rw [recordAll_append, ih, recordAll, List.foldl_cons, List.foldl_nil, record_eq]
      -- What was cut off before the entry came would be cut off now.
      · rw [keepLast_keepLast_append, List.append_assoc]
      · exact hroom

end EntryBuffer

/-! ### Filters -/

/-- An entry passes two filters, if it has the level and the subsystem that they
    ask for. A filter without a text asks for nothing. -/
structure Entry.Matches (level subsystem : Option String) (e : Entry) : Prop where
  level_eq : ∀ l ∈ level, l ≠ "" → e.level = l
  subsystem_eq : ∀ s ∈ subsystem, s ≠ "" → e.subsystem = some (.str s)

namespace EntryBuffer

theorem passes_iff (asked actual : Option String) :
    passes asked actual = true ↔ ∀ s ∈ asked, s ≠ "" → actual = some s := by
  cases asked with
  | none => simp [passes]
  | some s => simp [passes, or_iff_not_imp_left]

theorem subsystemText_eq_some_iff (e : Entry) (s : String) :
    subsystemText e = some s ↔ e.subsystem = some (.str s) := by
  rw [subsystemText]
  split
  case h_1 t ht => simp [ht]
  -- A subsystem that is no text is none that a filter can ask for.
  case h_2 hother => exact iff_of_false nofun (hother s)

/-- The filters of a question let exactly the entries pass that match them. -/
theorem passes_iff_matches (level subsystem : Option String) (e : Entry) :
    (passes level (some e.level) && passes subsystem (subsystemText e)) = true ↔
      e.Matches level subsystem := by
  rw [Bool.and_eq_true, passes_iff, passes_iff]
  constructor
  · rintro ⟨hlevel, hsubsystem⟩
    exact ⟨fun l hl hsome => Option.some_inj.mp (hlevel l hl hsome),
      fun s hs hsome => (subsystemText_eq_some_iff e s).mp (hsubsystem s hs hsome)⟩
  · rintro ⟨hlevel, hsubsystem⟩
    exact ⟨fun l hl hsome => congrArg some (hlevel l hl hsome),
      fun s hs hsome => (subsystemText_eq_some_iff e s).mpr (hsubsystem s hs hsome)⟩

end EntryBuffer

instance (level subsystem : Option String) (e : Entry) : Decidable (e.Matches level subsystem) :=
  decidable_of_iff _ (EntryBuffer.passes_iff_matches level subsystem e)

/-! ### Messages -/

/-- What an event has to say. -/
def Event.told (e : Event) : Message where
  level := e.level
  text := e.message
  subsystem := e.subsystem
  session := match e.session? with
    | some s => .str s
    | none => .null
  context := .obj e.context

/-- The entry of an event is the one of what it has to say. -/
theorem Event.entry_told (e : Event) : e.told.entry = e.entry := by
  -- Only a message without details is given an empty object of them, and an
  -- event without details has that object already.
  have hcontext : (if (Json.obj e.context).isTruthy then Json.obj e.context else .obj []) =
      .obj e.context := by
    cases e.context <;> rfl
  rw [Message.entry, told, hcontext]
  rfl

namespace Journal

/-! ### Runs -/

/-- What can be done to a journal. -/
inductive Request where
  /-- It is started at the number of a level, with or without a file. -/
  | start (level : Int) (file : LogFile)
  /-- A part of the terminal has something to say. -/
  | log (now : Moment) (m : Message)
  /-- Some events are reported. -/
  | report (now : Moment) (events : List Event)

/-- The messages of a request. -/
def Request.messages : Request → List Message
  | .start _ _ => []
  | .log _ m => [m]
  | .report _ events => events.map Event.told

/-- The journal after a request. -/
def answer (j : Journal) : Request → Journal
  | .start level file => j.start level file
  | .log now m => j.log now m
  | .report now events => j.report now events

/-- The journal after some requests. -/
def run (j : Journal) (requests : List Request) : Journal := requests.foldl answer j

/-- A start in a run. -/
structure Opening where
  /-- The number of the level that was given. -/
  level : Int
  /-- Whether later starts change nothing. -/
  isSettled : Bool
  /-- What was said behind it. -/
  messages : List Message

/-- The start that a run goes by, if there is one. It is the first one, unless its
    file cannot be opened: then it is the one that the rest of the run goes by, if
    there is another one at all. -/
def opening? : List Request → Option Opening
  | [] => none
  | .start level file :: rest =>
    let first : Opening := ⟨level, file != .fails, rest.flatMap Request.messages⟩
    if first.isSettled then some first else (opening? rest).or (some first)
  | .log _ _ :: rest | .report _ _ :: rest => opening? rest

/-- The messages that a journal takes that was started at the number of a level. -/
def atLeast (level : Int) (messages : List Message) : List Message :=
  messages.filter (fun m => leastTaken level ≤ m.level.number)

/-- The messages of a run that were said since the start that it goes by and have
    at least the level that was given there. -/
def heard (requests : List Request) : List Message :=
  match opening? requests with
  | none => []
  | some o => atLeast o.level o.messages

/-- The entries in the buffer; none if the journal is silent. -/
def entries (j : Journal) : List Entry :=
  match j.started with
  | none => []
  | some o => o.buffer.entries

/-- A journal has recorded some entries in its buffer, and no others. -/
def HasRecorded (j : Journal) (recorded : List Entry) : Prop :=
  match j.started with
  | none => recorded = []
  | some o => o.buffer = ({} : EntryBuffer).recordAll recorded

theorem entries_of_hasRecorded (j : Journal) (recorded : List Entry)
    (h : j.HasRecorded recorded) : j.entries = keepLast 5000 recorded := by
  unfold HasRecorded at h
  unfold entries
  split at h
  · rw [h, keepLast_nil]
  · have hend := EntryBuffer.recordAll_eq {} recorded (by decide) (Nat.zero_le _)
    have hcapacity : ({} : EntryBuffer).capacity.toNat = 5000 := rfl
    rw [h, hend, hcapacity, List.nil_append]

/-- An open journal that has taken messages of its level, with the text that is in
    its file then. -/
def taking (o : OpenJournal) (messages : List Message) (file : Option String) : OpenJournal :=
  { o with buffer := o.buffer.recordAll ((atLeast o.threshold messages).map Message.entry), file }

theorem taking_nil (o : OpenJournal) : taking o [] o.file = o := rfl

theorem taking_taking (o : OpenJournal) (ms ns : List Message) (f g : Option String) :
    taking (taking o ms f) ns g = taking o (ms ++ ns) g := by
  have happend : (atLeast o.threshold (ms ++ ns)).map Message.entry =
      (atLeast o.threshold ms).map Message.entry ++
        (atLeast o.threshold ns).map Message.entry := by
    rw [atLeast, List.filter_append, List.map_append]
    rfl
  rw [taking, taking, taking, happend, EntryBuffer.recordAll_append]

/-- If an open journal takes what is said in each step, it takes what is said in a
    row of steps. -/
theorem foldl_open {α : Type} (step : Journal → α → Journal) (said : α → List Message)
    (settled : Bool)
    (hstep : ∀ o a, o.isSettled = settled →
      ∃ file, step ⟨some o⟩ a = ⟨some (taking o (said a) file)⟩)
    (o : OpenJournal) (ho : o.isSettled = settled) (steps : List α) :
    ∃ file, steps.foldl step ⟨some o⟩ = ⟨some (taking o (steps.flatMap said) file)⟩ := by
  -- Each step may write to the file, so the journal varies.
  induction steps generalizing o with
  | nil => exact ⟨o.file, by rw [List.foldl_nil, List.flatMap_nil, taking_nil]⟩
  | cons a rest ih =>
      rcases hstep o a ho with ⟨file, ha⟩
      rcases ih (taking o (said a) file) ho with ⟨file', hrest⟩
      exact ⟨file', by rw [List.foldl_cons, ha, hrest, taking_taking, List.flatMap_cons]⟩

theorem log_silent (now : Moment) (m : Message) : ({} : Journal).log now m = {} := rfl

/-- An open journal takes a message if it has at least the level. -/
theorem log_open (now : Moment) (o : OpenJournal) (m : Message) :
    ∃ file, (⟨some o⟩ : Journal).log now m = ⟨some (taking o [m] file)⟩ := by
  rw [log, write]
  unfold taking
  dsimp only
  split
  case isTrue hlow =>
    have hnone : atLeast o.threshold [m] = [] :=
      List.filter_cons_of_neg (by simpa using hlow)
    rw [hnone]
    exact ⟨o.file, rfl⟩
  case isFalse hhigh =>
    have hone : atLeast o.threshold [m] = [m] :=
      List.filter_cons_of_pos (by simpa using hhigh)
    rw [hone]
    exact ⟨_, rfl⟩

/-- Reporting events is saying what they have to say, one after the other. -/
theorem report_eq (j : Journal) (now : Moment) (events : List Event) :
    j.report now events = (events.map Event.told).foldl (fun j m => j.log now m) j := by
  rw [report, List.foldl_map]
  congr 1
  funext j e
  rw [reportOne, log, Event.entry_told]
  rfl

theorem logs_silent (now : Moment) (messages : List Message) :
    messages.foldl (fun j m => j.log now m) ({} : Journal) = {} := by
  induction messages with
  | nil => rfl
  | cons m rest ih => rw [List.foldl_cons, log_silent, ih]

theorem report_open (now : Moment) (o : OpenJournal) (events : List Event) :
    ∃ file, (⟨some o⟩ : Journal).report now events =
      ⟨some (taking o (events.map Event.told) file)⟩ := by
  rcases foldl_open (fun j m => j.log now m) ([·]) o.isSettled (fun o m _ => log_open now o m) o
    rfl (events.map Event.told) with ⟨file, htold⟩
  exact ⟨file, by rw [report_eq, htold, List.flatMap_singleton']⟩

/-- A journal whose level is settled takes the messages of a request that have at
    least that level. Nothing else changes but the file, also if it is started
    again. -/
theorem answer_settled (o : OpenJournal) (r : Request) (ho : o.isSettled = true) :
    ∃ file, (⟨some o⟩ : Journal).answer r = ⟨some (taking o r.messages file)⟩ := by
  cases r with
  | start level file => exact ⟨o.file, if_pos ho⟩
  | log now m => exact log_open now o m
  | report now events => exact report_open now o events

theorem run_settled (o : OpenJournal) (ho : o.isSettled = true) (requests : List Request) :
    ∃ file, (⟨some o⟩ : Journal).run requests =
      ⟨some (taking o (requests.flatMap Request.messages) file)⟩ :=
  foldl_open answer Request.messages true answer_settled o ho requests

/-- The journal that a start opens. -/
def Opening.journal (p : Opening) : OpenJournal :=
  { threshold := p.level, isSettled := p.isSettled }

/-- What an open journal has taken after a run, if its level is not settled: all
    that was said, or what was said since the start that the run goes by. -/
def Continues (o : OpenJournal) (requests : List Request) : Prop :=
  match opening? requests with
  | none => ∃ file, (⟨some o⟩ : Journal).run requests =
      ⟨some (taking o (requests.flatMap Request.messages) file)⟩
  | some p => ∃ file, (⟨some o⟩ : Journal).run requests = ⟨some (taking p.journal p.messages file)⟩

/-- What is said to an open journal is taken, and the run goes on from there. -/
theorem continues_cons (o : OpenJournal) (r : Request) (rest : List Request)
    (hr : ∃ file, (⟨some o⟩ : Journal).answer r = ⟨some (taking o r.messages file)⟩)
    (hsame : opening? (r :: rest) = opening? rest)
    (hrest : ∀ file, Continues (taking o r.messages file) rest) : Continues o (r :: rest) := by
  rcases hr with ⟨file, hr⟩
  have hcontinues := hrest file
  unfold Continues at hcontinues ⊢
  rw [hsame, run, List.foldl_cons, hr, ← run]
  split at hcontinues
  · rcases hcontinues with ⟨file', hrun⟩
    exact ⟨file', by rw [hrun, taking_taking, List.flatMap_cons]⟩
  · exact hcontinues

/-- A journal that was just started goes by that start, or by one that follows. -/
theorem run_opened (level : Int) (file : LogFile) (rest : List Request)
    (hrest : ∀ o : OpenJournal, o.isSettled = false → Continues o rest) :
    ∃ p, opening? (.start level file :: rest) = some p ∧ ∃ text,
      (⟨some (opened level file)⟩ : Journal).run rest =
        ⟨some (taking p.journal p.messages text)⟩ := by
  let first : Opening := ⟨level, file != .fails, rest.flatMap Request.messages⟩
  by_cases hfile : (file != .fails) = true
  · exact ⟨first, if_pos hfile, run_settled (opened level file) hfile rest⟩
  · have hcontinues := hrest (opened level file) (eq_false_of_ne_true hfile)
    unfold Continues at hcontinues
    rw [opening?, if_neg hfile]
    split at hcontinues
    next hnone => exact ⟨first, by rw [hnone, Option.none_or], hcontinues⟩
    next p hsome => exact ⟨p, by rw [hsome, Option.some_or], hcontinues⟩

/-- A journal whose level is not settled goes on until it is started again. -/
theorem run_unsettled (requests : List Request) (o : OpenJournal) (ho : o.isSettled = false) :
    Continues o requests := by
  induction requests generalizing o with
  | nil => exact ⟨o.file, rfl⟩
  | cons r rest ih =>
      cases r with
      | log now m => exact continues_cons o _ rest (log_open now o m) rfl (fun file => ih _ ho)
      | report now events =>
          exact continues_cons o _ rest (report_open now o events) rfl (fun file => ih _ ho)
      | start level file =>
          have hstart : (⟨some o⟩ : Journal).start level file = ⟨some (opened level file)⟩ :=
            if_neg (by simp only [ho, Bool.false_eq_true, not_false_eq_true])
          rcases run_opened level file rest ih with ⟨p, hp, hrun⟩
          rw [Continues, hp, run, List.foldl_cons, answer, hstart]
          exact hrun

/-- A journal that is started in a run has the level of the start that the run goes
    by, and it has recorded what was heard. One that is not started stays
    silent. -/
theorem run_opening (requests : List Request) :
    match opening? requests with
    | none => ({} : Journal).run requests = {}
    | some p => ∃ file,
        ({} : Journal).run requests = ⟨some (taking p.journal p.messages file)⟩ := by
  induction requests with
  | nil => rfl
  | cons r rest ih =>
      cases r with
      | start level file =>
          rcases run_opened level file rest (run_unsettled rest) with ⟨p, hp, hrun⟩
          rw [hp]
          exact hrun
      -- What is said to a silent journal leaves it as it is.
      | log now m => exact ih
      | report now events =>
          rw [run, List.foldl_cons, ← run, opening?, answer, report_eq, logs_silent]
          exact ih

theorem run_hasRecorded (requests : List Request) :
    (({} : Journal).run requests).HasRecorded ((heard requests).map Message.entry) := by
  have hrun := run_opening requests
  unfold heard
  split at hrun
  · rw [hrun]
    exact List.map_nil
  · rcases hrun with ⟨file, hrun⟩
    rw [hrun]
    exact rfl

/-- The buffer is exactly the recent past. After any run it holds the last five
    thousand of the messages that were said since the start that the run goes by
    and have at least its level, in order, each with all that it said. A run
    without a start leaves the journal silent. After that start the level is the
    one that was given there, and once it is settled, starting again changes
    nothing. -/
theorem keeps_recent_past (requests : List Request) :
    let j := ({} : Journal).run requests
    j.entries = keepLast 5000 ((heard requests).map Message.entry) ∧
    match opening? requests with
    | none => j = {}
    | some p => j.level = p.level ∧
        (p.isSettled = true → ∀ level file, j.start level file = j) := by
  intro j
  refine ⟨entries_of_hasRecorded j _ (run_hasRecorded requests), ?_⟩
  have hrun := run_opening requests
  split at hrun
  · exact hrun
  · rcases hrun with ⟨file, hrun⟩
    have hj : j = ⟨some _⟩ := hrun
    rw [hj]
    exact ⟨rfl, fun hsettled level file => if_pos hsettled⟩

example (now : Moment) (early mild late grave : String) :
    (({} : Journal).run [
      .log now { level := .error, text := early }, .start 30 .none,
      .log now { level := .info, text := mild }, .log now { level := .warning, text := late },
      .start 10 .opens, .log now { level := .info, text := mild },
      .log now { level := .critical, text := grave }]).entries =
    [({ level := .warning, text := late } : Message).entry,
      ({ level := .critical, text := grave } : Message).entry] := rfl

/-- A start that fails at its file is followed by another one, and what was
    recorded between them is gone. -/
example (now : Moment) (lost late : String) :
    (({} : Journal).run [
      .start 20 .fails, .log now { level := .info, text := lost }, .start 30 .none,
      .log now { level := .warning, text := late }]).entries =
    [({ level := .warning, text := late } : Message).entry] := rfl

/-! ### Questions -/

/-- A question counts from the end of the entries in the buffer that match it. -/
theorem query_eq (j : Journal) (level subsystem : Option String) (limit : Int) :
    j.query level subsystem limit =
      takeRecent limit (j.entries.filter (fun e => e.Matches level subsystem)) := by
  rcases j with ⟨_ | o⟩
  · exact (takeRecent_nil limit).symm
  · refine congrArg (takeRecent limit) (List.filter_congr fun e _ => ?_)
    exact Bool.eq_iff_iff.mpr
      ((EntryBuffer.passes_iff_matches level subsystem e).trans decide_eq_true_iff.symm)

/-- A question is answered with the newest of the entries that match it, up to
    its limit and oldest first, exactly if the limit is not zero or no entry
    matches. With a limit of zero all the entries come that match. -/
theorem query_honours_limit_iff (j : Journal) (recorded : List Entry)
    (h : j.HasRecorded recorded) (level subsystem : Option String) (limit : Nat) :
    let found := (keepLast 5000 recorded).filter (fun e => e.Matches level subsystem)
    j.query level subsystem limit = (if limit = 0 then found else keepLast limit found) ∧
    (j.query level subsystem limit = keepLast (min limit found.length) found ↔
      0 < limit ∨ found = []) := by
  intro found
  have hanswer : j.query level subsystem limit =
      if limit = 0 then found else keepLast limit found := by
    rw [query_eq, entries_of_hasRecorded j recorded h, takeRecent_natCast]
  refine ⟨hanswer, ?_⟩
  rw [hanswer, keepLast_min]
  split
  case isTrue hzero =>
    -- Everything that was found is nothing only if nothing was found.
    rw [hzero, keepLast_zero]
    exact (or_iff_right (Nat.lt_irrefl 0)).symm
  case isFalse hsome => exact iff_of_true rfl (.inl (Nat.pos_of_ne_zero hsome))

/-- Two of three messages come from the shell, and the newer one is the answer
    to a question about the shell with a limit of one. -/
theorem query_honours_limit_newest :
    let now : Moment := ⟨2026, 1, 1, 12, 0, 0⟩
    let older : Message := { level := .info, text := "older", subsystem := "shell" }
    let newer : Message := { level := .error, text := "newer", subsystem := "shell" }
    let other : Message := { level := .info, text := "other", subsystem := "session" }
    let j := ({} : Journal).run
      [.start 10 .none, .log now older, .log now newer, .log now other]
    j.HasRecorded [older.entry, newer.entry, other.entry] ∧
    j.query none (some "shell") (1 : Nat) = [newer.entry] := by
  intro now older newer other j
  have hrecorded : j.HasRecorded [older.entry, newer.entry, other.entry] := run_hasRecorded _
  refine ⟨hrecorded, ?_⟩
  rw [(query_honours_limit_iff j _ hrecorded none (some "shell") 1).1, if_neg Nat.one_ne_zero,
    keepLast_of_length_le 5000 _ (by decide)]
  rfl

/-- A limit of zero is no limit. One message was taken, none is asked for, and it
    is the answer. -/
theorem query_without_limit :
    let j := ({} : Journal).run
      [.start 20 .none, .log ⟨2026, 1, 1, 12, 0, 0⟩ { level := .info, text := "m" }]
    let recorded := [({ level := .info, text := "m" } : Message).entry]
    j.HasRecorded recorded ∧ j.query none none (0 : Nat) = recorded ∧
    j.query none none (0 : Nat) ≠ keepLast (min 0 recorded.length) recorded := by
  intro j recorded
  have hanswer : j.query none none (0 : Nat) = recorded := rfl
  refine ⟨rfl, hanswer, ?_⟩
  rw [hanswer]
  exact List.cons_ne_nil _ _

end Journal

end SimTerm
