/-
What a run of setups and records writes. A record is due when it reaches the threshold of the latest
setup: at the stream of this setup, and at its file if it asked for one and opened it. Whatever was
set up before, everything that is written is due and is written once and in its order; and all that
is due is written there and nowhere else, except under names that begin with a dot. A record under
such a name may go astray: if it is urgent enough its message is written, without the rest of the
line, to a stream of last resort, and otherwise it is lost.
-/
import CommandServer.Log.Session
import CommandServer.Proofs.Files
import CommandServer.Proofs.Log.Loggers

namespace CommandServer

open CommandServer.Text

theorem Machine.written_print (m : Machine) (stream text other : String) :
    (m.print stream text).written other =
      m.written other ++ if stream = other then text else "" := by
  unfold Machine.print Machine.written
  dsimp only
  rw [OrderedMap.get?_put]
  by_cases h : other = stream
  · rw [if_pos h, if_pos h.symm, h]
    rfl
  · rw [if_neg h, if_neg (Ne.symm h), String.append_empty]

namespace Log

/-! ## Deliveries -/

/-- A record under the name that its logger was asked for, where it is due, and the stream of last
resort at the time. -/
structure Delivery where
  name : Option String
  stamp : String
  record : Record
  stream : String
  file : Option Place
  stray : String
  deriving DecidableEq

/-- What is written of a record: the lines that are due, or the stray line. -/
inductive Writing where
  | made (d : Delivery)
  | stray (d : Delivery)
  deriving DecidableEq

/-- What is written to a stream. -/
def Writing.textFor (stream : String) : Writing → String
  | .made d => if d.stream = stream then d.record.consoleLine else ""
  | .stray d => if d.stray = stream then d.record.strayLine else ""

/-- What is written to the file at a place. -/
def Writing.bytesFor (place : Place) : Writing → List UInt8
  | .made d => if d.file = some place then encodeUtf8 (d.record.fileLine d.stamp) else []
  | .stray _ => []

def textFor (stream : String) (ws : List Writing) : String :=
  String.join (ws.map (Writing.textFor stream))

def bytesFor (place : Place) (ws : List Writing) : List UInt8 :=
  ws.flatMap (Writing.bytesFor place)

theorem textFor_singleton (stream : String) (w : Writing) :
    textFor stream [w] = w.textFor stream := by
  unfold textFor
  rw [List.map_singleton, String.join_cons]
  exact String.append_empty

theorem bytesFor_singleton (place : Place) (w : Writing) : bytesFor place [w] = w.bytesFor place :=
  List.flatMap_singleton ..

/-- From one machine to another, records are written and nothing else is: every stream and every
file goes on with its part of them. -/
structure Delivers (m : Machine) (ws : List Writing) (m' : Machine) : Prop where
  streams : ∀ stream, m'.written stream = m.written stream ++ textFor stream ws
  files : ∀ place, m'.files.content place = m.files.content place ++ bytesFor place ws

namespace Delivers

theorem refl (m : Machine) : Delivers m [] m where
  streams _ := String.append_empty.symm
  files _ := (List.append_nil _).symm

theorem trans {m m' m'' : Machine} {ws ws' : List Writing} (h : Delivers m ws m')
    (h' : Delivers m' ws' m'') : Delivers m (ws ++ ws') m'' where
  streams stream := by
    rw [h'.streams, h.streams, String.append_assoc]
    unfold textFor
    rw [List.map_append, String.join_append]
  files place := by
    rw [h'.files, h.files, List.append_assoc]
    unfold bytesFor
    rw [List.flatMap_append]

/-- Trees with the same content everywhere are alike to deliveries. -/
theorem of_content {m : Machine} {files : Files}
    (h : ∀ place, files.content place = m.files.content place) :
    Delivers m [] { m with files } where
  streams _ := String.append_empty.symm
  files place := (h place).trans (List.append_nil _).symm

theorem of_stray (m : Machine) (d : Delivery) :
    Delivers m [.stray d] (m.print d.stray d.record.strayLine) where
  streams stream := by
    rw [Machine.written_print, textFor_singleton]
    rfl
  files _ := (List.append_nil _).symm

end Delivers

/-! ## Files of setups -/

namespace Routing

theorem delivers_makeParents (m : Machine) (p : Path) : Delivers m [] (makeParents m p).2 := by
  have hcontent := Files.content_ensureDirectories m.working p.parent.root p.parent.parts.reverse
    m.files
  unfold makeParents
  dsimp only
  split
  · exact .refl m
  · split
    · next hmade =>
      rw [hmade] at hcontent
      exact .of_content hcontent
    · next hmade =>
      rw [hmade] at hcontent
      exact .of_content hcontent

theorem delivers_appendText_empty (m : Machine) {place : Place} (h : place ≠ []) :
    Delivers m [] (m.appendText place "") := by
  refine .of_content fun q => ?_
  have hempty : encodeUtf8 "" = [] := by decide +kernel
  rw [Files.content_append h, hempty, ite_self, List.append_nil]

/-- Opening a file writes nothing, and no file is opened at the root. -/
theorem openFile_spec (m : Machine) (p : Path) :
    Delivers m [] (openFile m p).2 ∧ ∀ place, (openFile m p).1 = .ok place → place ≠ [] := by
  have hparents := delivers_makeParents m p
  unfold openFile
  split
  · next hmade =>
    rw [hmade] at hparents
    exact ⟨hparents, nofun⟩
  · next m' hmade =>
    rw [hmade] at hparents
    dsimp only
    split
    · exact ⟨hparents, nofun⟩
    · split
      · next place hlocate =>
        have hplace : place ≠ [] := Files.ne_nil_of_locateFile hlocate
        refine ⟨hparents.trans (delivers_appendText_empty m' hplace), ?_⟩
        rintro _ ⟨⟩
        exact hplace
      · exact ⟨hparents, nofun⟩

theorem write_of_below {r : Routing} {record : Record} (h : record.level.atLeast r.threshold = false)
    (stamp : String) (m : Machine) : r.write stamp m record = m := by
  unfold write
  rw [h]
  rfl

/-- What a record that reaches the threshold does to the machine. -/
theorem delivers_write {r : Routing} (hfile : ∀ place, r.file = some place → place ≠ [])
    {record : Record} (h : record.level.atLeast r.threshold = true) (stamp : String) (m : Machine)
    (name : Option String) (stray : String) :
    Delivers m [.made ⟨name, stamp, record, r.stream, r.file, stray⟩] (r.write stamp m record) := by
  unfold write
  rw [h, if_pos rfl]
  dsimp only
  refine ⟨fun stream => ?_, fun place => ?_⟩
  · have hprint := m.written_print r.stream record.consoleLine stream
    rw [textFor_singleton]
    split
    · exact hprint
    · exact hprint
  · rw [bytesFor_singleton, Writing.bytesFor]
    split
    · next file hr =>
      show (m.files.append file _).content place = _
      rw [Files.content_append (hfile file hr), hr]
      simp only [Option.some.injEq, eq_comm]
    · next hr =>
      rw [hr]
      exact (List.append_nil _).symm

end Routing

/-! ## Runs -/

/-- A message that a logger is asked to log, with values that fit its slots, and the stream of last
resort at the time. -/
structure Request where
  stack : Stack
  stray : String
  stamp : String
  level : Level
  name : Option String
  message : String
  values : List Value
  text : String
  format_eq : format stack message values = some text

inductive Event where
  | setup (s : Setup)
  | request (r : Request)

/-- Where records are due after a setup: at its stream, and at its file if it asks for one that can
be opened. -/
def Setup.target (m : Machine) (s : Setup) : Routing where
  threshold := if s.debug then .debug else .warning
  stream := s.stream
  file := s.file.bind fun p => (Routing.openFile m p).1.toOption

theorem Setup.threshold_le (m : Machine) (s : Setup) :
    (s.target m).threshold.rank ≤ Level.warning.rank := by
  show (if s.debug then Level.debug else Level.warning).rank ≤ _
  cases s.debug
  · decide
  · decide

/-- What a request makes due. -/
def Request.due (target : Routing) (r : Request) : List Delivery :=
  if r.level.atLeast target.threshold then
    [⟨r.name, r.stamp, ⟨r.level, loggerName r.name, r.text⟩, target.stream, target.file, r.stray⟩]
  else []

/-- A session on a machine, with the latest setup, the fault that it ended for if it did, and an
account of what is due: where records are due since this setup, and what has become due since the
first one. -/
structure Course where
  session : Session
  machine : Machine
  latest : Setup
  fault : Option Fault
  target : Routing
  due : List Delivery

namespace Course

/-- A course begins with a setup. -/
def start (g : Loggers) (m : Machine) (s : Setup) : Course :=
  let ((session, fault), machine) := Session.configure g m s
  { session, machine, latest := s, fault, target := s.target m, due := [] }

def step (c : Course) : Event → Course
  | .setup s =>
    let ((session, fault), machine) := Session.configure c.session.loggers c.machine s
    { c with session, machine, latest := s, fault, target := s.target c.machine }
  | .request r =>
    let (session, machine) := c.session.log r.stack r.stray r.stamp c.machine r.level
      (loggerName r.name) r.message r.values
    { c with session, machine, due := c.due ++ r.due c.target }

def run (c : Course) (es : List Event) : Course := es.foldl step c

end Course

/-- What becomes of a record that is due. Under a name without a dot in front it is delivered; under
one with a single dot in front it goes astray or is lost; and more dots leave it open which of the
two it is. It goes astray when it is a warning or more urgent, and is lost when it is not. -/
inductive Fate (d : Delivery) : List Writing → Prop
  | made (hdots : leadingDots d.name ≠ 1) : Fate d [.made d]
  | stray (hdots : leadingDots d.name ≠ 0) (hlevel : d.record.level.atLeast .warning = true) :
    Fate d [.stray d]
  | lost (hdots : leadingDots d.name ≠ 0) (hlevel : d.record.level.atLeast .warning = false) :
    Fate d []

/-- What is written of all that is due, record by record. -/
inductive Accounts : List Delivery → List Writing → Prop
  | nil : Accounts [] []
  | cons {d : Delivery} {due : List Delivery} {ws ws' : List Writing} (h : Fate d ws)
    (hs : Accounts due ws') : Accounts (d :: due) (ws ++ ws')

namespace Accounts

variable {due due' : List Delivery} {ws ws' : List Writing}

theorem append (h : Accounts due ws) (h' : Accounts due' ws') :
    Accounts (due ++ due') (ws ++ ws') := by
  induction h with
  | nil => exact h'
  | cons hd hs ih =>
    rw [List.cons_append, List.append_assoc]
    exact .cons hd ih

theorem single {d : Delivery} (h : Fate d ws) : Accounts [d] ws :=
  List.append_nil ws ▸ .cons h .nil

/-- Without dots in front of names everything is delivered. -/
theorem eq_of_forall (h : Accounts due ws) (hdots : ∀ d ∈ due, leadingDots d.name = 0) :
    ws = due.map .made := by
  induction h with
  | nil => rfl
  | @cons d _ _ _ hd hs ih =>
    obtain ⟨hzero, hrest⟩ := List.forall_mem_cons.1 hdots
    rw [ih hrest]
    cases hd with
    | made => rfl
    | stray h => exact absurd hzero h
    | lost h => exact absurd hzero h

end Accounts

/-! ## What runs keep -/

/-- A setup writes nothing and makes the loggers decide anew. It directs records to a file exactly
when it asks for one and comes to its end. -/
theorem configure_spec (g : Loggers) (m : Machine) (s : Setup) :
    let after := Session.configure g m s
    after.1.1.routing = s.target m ∧ after.1.1.loggers = g.renewed ∧ Delivers m [] after.2 ∧
      (∀ place, (s.target m).file = some place → place ≠ []) ∧
      (s.target m).file.isSome = (s.file.isSome && after.1.2.isNone) := by
  obtain ⟨debug, file, stream⟩ := s
  cases file with
  | none => exact ⟨rfl, rfl, .refl m, nofun, rfl⟩
  | some p =>
    have hopen := Routing.openFile_spec m p
    unfold Session.configure Routing.configure Setup.target
    dsimp only [Option.bind_some]
    cases hresult : Routing.openFile m p with
    | mk opened m' =>
      rw [hresult] at hopen
      obtain ⟨hdelivers, hplace⟩ := hopen
      cases opened with
      | error f => exact ⟨rfl, rfl, hdelivers, nofun, rfl⟩
      | ok place =>
        refine ⟨rfl, rfl, hdelivers, ?_, rfl⟩
        rintro _ ⟨⟩
        exact hplace place rfl

/-- A request leaves the routing as it is, and what it makes due meets its fate. -/
theorem log_spec {s : Session} (hloggers : s.loggers.Sound s.routing.threshold)
    (hfile : ∀ place, s.routing.file = some place → place ≠ []) (m : Machine) (r : Request) :
    let after := s.log r.stack r.stray r.stamp m r.level (loggerName r.name) r.message r.values
    after.1.routing = s.routing ∧ after.1.loggers.Sound s.routing.threshold ∧
      ∃ ws, Accounts (r.due s.routing) ws ∧ Delivers m ws after.2 := by
  intro after
  have hafter : after = s.log r.stack r.stray r.stamp m r.level _ r.message r.values := rfl
  unfold Session.log at hafter
  rw [r.format_eq] at hafter
  generalize hg : (s.loggers.add (loggerName r.name)).settle s.routing.threshold (loggerName r.name)
    r.level = g at hafter
  have hsound : g.Sound s.routing.threshold := hg ▸ (hloggers.add r.name).settle _ _
  rw [hafter]
  refine ⟨rfl, hsound, ?_⟩
  dsimp only
  unfold Request.due
  cases hlevel : r.level.atLeast s.routing.threshold with
  | false =>
    -- a logger may have decided to take the record all the same, but no one writes it
    refine ⟨[], .nil, ?_⟩
    split
    · exact .refl m
    · split
      · rw [Routing.write_of_below hlevel]
        exact .refl m
      · rw [Loggers.strayThreshold, hsound.not_urgent hlevel]
        exact .refl m
  | true =>
    refine Exists.imp (fun _ (h : Fate _ _ ∧ Delivers _ _ _) => ⟨.single h.1, h.2⟩) ?_
    cases hadmits : g.admits s.routing.threshold (loggerName r.name) r.level with
    | false => exact ⟨[], .lost (hsound.leadingDots_ne_zero hlevel hadmits)
        (hsound.not_urgent_of_admits hadmits), .refl m⟩
    | true =>
      cases hreaches : g.reaches (loggerName r.name) with
      | true =>
        have hdots : leadingDots r.name ≠ 1 := by
          intro hone
          rw [hsound.not_reaches hone] at hreaches
          cases hreaches
        exact ⟨_, .made hdots, Routing.delivers_write hfile hlevel r.stamp m r.name r.stray⟩
      | false =>
        have hdots : leadingDots r.name ≠ 0 := by
          intro hzero
          rw [Loggers.reaches_of_leadingDots_eq_zero g hzero] at hreaches
          cases hreaches
        cases hurgent : r.level.atLeast .warning with
        | true => exact ⟨_, .stray hdots hurgent, by
            simpa [Loggers.strayThreshold, hurgent] using Delivers.of_stray m _⟩
        | false => exact ⟨_, .lost hdots hurgent, by
            simpa [Loggers.strayThreshold, hurgent] using Delivers.refl m⟩

/-- What holds of a course that began on a machine. -/
structure Course.Sound (m₀ : Machine) (c : Course) : Prop where
  routing : c.session.routing = c.target
  file : ∀ place, c.target.file = some place → place ≠ []
  opened : c.target.file.isSome = (c.latest.file.isSome && c.fault.isNone)
  loggers : c.session.loggers.Sound c.target.threshold
  delivers : ∃ ws, Accounts c.due ws ∧ Delivers m₀ ws c.machine

namespace Course

theorem sound_start {g : Loggers} (hasked : ∀ n ∈ g.names, ∃ name, n = loggerName name)
    (m : Machine) (s : Setup) : Sound m (start g m s) := by
  obtain ⟨hrouting, hloggers, hdelivers, hfile, hopened⟩ := configure_spec g m s
  refine ⟨hrouting, hfile, hopened, ?_, [], .nil, hdelivers⟩
  show (Session.configure g m s).1.1.loggers.Sound _
  rw [hloggers]
  exact .renewed hasked (s.threshold_le m)

namespace Sound

variable {m₀ : Machine} {c : Course}

theorem step_setup (h : Sound m₀ c) (s : Setup) : Sound m₀ (c.step (.setup s)) := by
  obtain ⟨hrouting, hloggers, hdelivers, hfile, hopened⟩ :=
    configure_spec c.session.loggers c.machine s
  obtain ⟨ds, haccounts, hds⟩ := h.delivers
  refine ⟨hrouting, hfile, hopened, ?_, ds, haccounts, ?_⟩
  · show (Session.configure c.session.loggers c.machine s).1.1.loggers.Sound _
    rw [hloggers]
    exact .renewed h.loggers.asked (s.threshold_le c.machine)
  · exact List.append_nil ds ▸ hds.trans hdelivers

theorem step_request (h : Sound m₀ c) (r : Request) : Sound m₀ (c.step (.request r)) := by
  have hloggers : c.session.loggers.Sound c.session.routing.threshold := by
    rw [h.routing]
    exact h.loggers
  have hfile : ∀ place, c.session.routing.file = some place → place ≠ [] := by
    rw [h.routing]
    exact h.file
  obtain ⟨hrouting, hsound, ds', haccounts', hds'⟩ := log_spec hloggers hfile c.machine r
  rw [h.routing] at hrouting hsound haccounts'
  obtain ⟨ds, haccounts, hds⟩ := h.delivers
  exact ⟨hrouting, h.file, h.opened, hsound, ds ++ ds', haccounts.append haccounts', hds.trans hds'⟩

theorem step (h : Sound m₀ c) (e : Event) : Sound m₀ (c.step e) := by
  cases e with
  | setup s => exact h.step_setup s
  | request r => exact h.step_request r

theorem run (h : Sound m₀ c) (es : List Event) : Sound m₀ (c.run es) := by
  induction es generalizing c with
  | nil => exact h
  | cons e es ih => exact ih (h.step e)

end Sound

/-- However often logging is set up, and whether or not a setup comes to its end, records go where
the latest setup directs them: to its stream, and to its file if it has opened one. All that is
written is due, once and in its order, and all that is due is written there unless a dot stands in
front of the name that its logger was asked for; behind a single dot it never is, but goes astray or
is lost. -/
theorem run_delivers {g : Loggers} (hasked : ∀ n ∈ g.names, ∃ name, n = loggerName name)
    (m : Machine) (s : Setup) (es : List Event) :
    let c := (start g m s).run es
    c.session.routing = c.target ∧
      c.session.routing.sinks = (if c.latest.file.isSome && c.fault.isNone then 2 else 1) ∧
      ∃ ws, Accounts c.due ws ∧ Delivers m ws c.machine := by
  intro c
  have h : Sound m c := (sound_start hasked m s).run es
  refine ⟨h.routing, ?_, h.delivers⟩
  rw [h.routing, ← h.opened]
  unfold Routing.sinks
  cases c.target.file <;> rfl

/-- A machine on which there is nothing. -/
def blank : Machine where
  files := ⟨[], [], []⟩
  environ := .empty
  working := []

/-- A message without values, where the terminal is the last resort. -/
def plainRequest (level : Level) (name : Option String) (message : String) : Request :=
  ⟨.usual, "terminal", "noon ", level, name, message, [], message, rfl⟩

/-- A record at a file and one at another stream, with one between them that is below the
threshold. -/
def redirection : List Event :=
  [.request (plainRequest .warning (some "x") "careful"), .setup { stream := "S" },
    .request (plainRequest .debug none "noise"), .request (plainRequest .error (some "x") "broken")]

theorem run_delivers_redirection :
    let c := (start {} blank { file := some (.ofString "logs/a.log") }).run redirection
    c.session.routing.sinks = 1 ∧
      c.machine.written "stderr" = "[studio-mcp] WARNING careful\n" ∧
      c.machine.written "S" = "[studio-mcp] ERROR broken\n" ∧
      c.machine.written "terminal" = "" ∧
      c.machine.files.content ["logs", "a.log"] =
        encodeUtf8 "noon WARNING studio_mcp.x: careful\n" := by
  intro c
  obtain ⟨-, hsinks, ws, haccounts, hdelivers⟩ := run_delivers (g := {}) nofun blank
    { file := some (.ofString "logs/a.log") } redirection
  have hdue : c.due =
      [⟨some "x", "noon ", ⟨.warning, "studio_mcp.x", "careful"⟩, "stderr",
          some ["logs", "a.log"], "terminal"⟩,
        ⟨some "x", "noon ", ⟨.error, "studio_mcp.x", "broken"⟩, "S", none, "terminal"⟩] := by
    decide +kernel
  have hws : ws = c.due.map .made := haccounts.eq_of_forall (by rw [hdue]; decide)
  rw [hws, hdue] at hdelivers
  refine ⟨hsinks, ?_, ?_, ?_, ?_⟩
  · exact (hdelivers.streams "stderr").trans (by decide)
  · exact (hdelivers.streams "S").trans (by decide)
  · exact (hdelivers.streams "terminal").trans (by decide)
  · exact (hdelivers.files ["logs", "a.log"]).trans (by decide +kernel)

/-- Behind a single dot a record goes astray: it is due at the stream of the setup, where nothing is
written, and its message alone is written to the terminal. -/
theorem not_delivers_of_dot :
    let c := (start {} blank { debug := true, stream := "S" }).run
      [.request (plainRequest .error (some ".x") "m")]
    c.due = [⟨some ".x", "noon ", ⟨.error, "studio_mcp..x", "m"⟩, "S", none, "terminal"⟩] ∧
      c.machine.written "S" = "" ∧ c.machine.written "terminal" = "m\n" ∧
      ¬Delivers blank (c.due.map .made) c.machine := by
  intro c
  have hdue :
      c.due = [⟨some ".x", "noon ", ⟨.error, "studio_mcp..x", "m"⟩, "S", none, "terminal"⟩] := by
    decide +kernel
  have hwritten : c.machine.written "S" = "" := by decide +kernel
  refine ⟨hdue, hwritten, by decide +kernel, fun h => ?_⟩
  rw [hdue] at h
  exact absurd (hwritten.symm.trans (h.streams "S")) (by decide)

end Course

end Log

end CommandServer
