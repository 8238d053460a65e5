/-
Faults that keep settings from being loaded. Home directories that are not known, names that are too
long, links in a circle, bytes that are no text, dates out of range, and texts and numbers of a
document that cannot be had are not turned into a refusal. Everything else is loaded or refused, and
the environment adds no fault.
-/
import CommandServer.Proofs.Files
import CommandServer.Proofs.Path
import CommandServer.Proofs.Settings.Document
import CommandServer.Proofs.Settings.Source
import CommandServer.Proofs.Text.Utf8

namespace CommandServer

open CommandServer.Text

/-! ## Hosts -/

/-- A date or a time, or the time zone of one, is out of its range. -/
inductive Fault.IsDate : Fault → Prop
  | field (field : DateField) : IsDate (.dateOutOfRange field)
  | zone (days : Int) (seconds : Nat) : IsDate (.zoneOutOfRange days seconds)

/-- What is asked of a host: its reader meets no fault but dates out of range, and a path is found
unless it holds the character zero or leads into a circle of links. -/
structure Host.Obeys (host : Host) : Prop where
  read : ∀ {text f}, host.read text = .error (.fault f) → f.IsDate
  nul : ∀ {p}, host.resolve p = .error .embeddedNul ↔ p.hasNul = true
  circle : ∀ {p f}, host.resolve p = .error f → f = .embeddedNul ∨ ∃ name, f = .linkLoop name

/-! ## Paths -/

/-- Faults of a tilde at the start of a path. -/
inductive Machine.HomeFault (m : Machine) : Path → Fault → Prop
  | nul {user : List Char} {rest : List String} (h : '\x00' ∈ user) :
    HomeFault m ⟨.relative, String.ofList ('~' :: user) :: rest⟩ .embeddedNul
  | homeless {user : List Char} {rest : List String} (h : '\x00' ∉ user)
    (hhome : ∀ home, m.home? (String.ofList user) = some home →
      (Path.trimSlashes home).startsWith "~" = true) :
    HomeFault m ⟨.relative, String.ofList ('~' :: user) :: rest⟩ .homeless

/-- The fault of looking at a path. -/
inductive Machine.LookFault (m : Machine) (p : Path) : Fault → Prop
  | tooLong (h : p.hasNul = false) (hname : m.files.HasLongName m.working p.text) :
    LookFault m p (.system (.nameTooLong (.name p.text)))

namespace Machine

variable {m : Machine} {p : Path} {f : Fault}

theorem expandHome_eq_error_iff : m.expandHome p = .error f ↔ m.HomeFault p f := by
  obtain ⟨root, parts⟩ := p
  constructor
  · intro h
    unfold expandHome at h
    dsimp only at h
    split at h
    · next part rest =>
      split at h
      · next user hpart =>
        obtain rfl : part = String.ofList ('~' :: user) := by
          rw [← hpart, String.ofList_toList]
        split at h
        · next hnul =>
          cases h
          exact .nul (List.contains_iff_mem.1 hnul)
        · next hnul =>
          have hmem : '\x00' ∉ user := fun hmem => hnul (List.contains_iff_mem.2 hmem)
          split at h
          · next hhome =>
            cases h
            refine .homeless hmem fun home hsome => ?_
            rw [hsome] at hhome
            cases hhome
          · next home hhome =>
            split at h
            · next htilde =>
              cases h
              refine .homeless hmem fun home' hsome => ?_
              rw [hsome] at hhome
              cases hhome
              exact htilde
            · cases h
      · cases h
    · cases h
  · intro h
    cases h with
    | nul h =>
      unfold expandHome
      dsimp only
      rw [String.toList_ofList]
      exact if_pos (List.contains_iff_mem.2 h)
    | @homeless user rest h hhome =>
      unfold expandHome
      dsimp only
      rw [String.toList_ofList]
      refine (if_neg fun hnul => h (List.contains_iff_mem.1 hnul)).trans ?_
      cases hsome : m.home? (String.ofList user) with
      | none => rfl
      | some home =>
        dsimp only [Option.map_some]
        rw [if_pos (hhome home hsome)]

theorem look_eq_error_iff : m.look p = .error f ↔ m.LookFault p f := by
  unfold look
  cases hnul : p.hasNul with
  | true =>
    refine iff_of_false (fun h => nomatch h) ?_
    rintro ⟨h, -⟩
    cases hnul.symm.trans h
  | false =>
    rw [if_neg Bool.false_ne_true]
    constructor
    · intro h
      split at h
      · cases h
      · next o hfind =>
        split at h
        · cases h
        · next habsent =>
          cases h
          have hmissing : o ≠ .missing := by
            rintro rfl
            exact habsent rfl
          have hfile : o ≠ .notADirectory := by
            rintro rfl
            exact habsent rfl
          obtain ⟨rfl, hname⟩ :=
            (Files.find_eq_error_iff_of_not_absence hmissing hfile).1 hfind
          exact .tooLong hnul hname
    · rintro ⟨-, hname⟩
      rw [(Files.find_eq_error_iff_of_not_absence (by decide) (by decide)).2 ⟨rfl, hname⟩]
      rfl

end Machine

namespace Settings

/-- Faults of finding where a path leads. -/
inductive ResolveFault (resolve : Resolver) (p : Path) : Fault → Prop
  | nul (h : p.hasNul = true) : ResolveFault resolve p .embeddedNul
  | circle {name : String} (h : resolve p = .error (.linkLoop name)) :
    ResolveFault resolve p (.linkLoop name)

theorem resolve_eq_error_iff {host : Host} (hhost : host.Obeys) {p : Path} {f : Fault} :
    host.resolve p = .error f ↔ ResolveFault host.resolve p f := by
  constructor
  · intro h
    rcases hhost.circle h with rfl | ⟨name, rfl⟩
    · exact .nul (hhost.nul.1 h)
    · exact .circle h
  · intro h
    cases h with
    | nul h => exact hhost.nul.2 h
    | circle h => exact h

/-! ## Documents -/

/-- Faults of the directory that a document names. -/
inductive DirectoryFault (resolve : Resolver) (root : Path) (d : Datum) : Fault → Prop
  | nul {t : String} (ht : someText? d = .ok (some t))
    (h : '\x00' ∈ t.toList ∨ (t.toList.head? ≠ some '/' ∧ root.hasNul = true)) :
    DirectoryFault resolve root d .embeddedNul
  | circle {t name : String} (ht : someText? d = .ok (some t))
    (h : resolve (root.join (.ofString t)) = .error (.linkLoop name)) :
    DirectoryFault resolve root d (.linkLoop name)

/-- The faults of a document that is seen from a root. -/
abbrev DocumentFaultAt (resolve : Resolver) (root : Path) (d : Datum) : Fault → Prop :=
  DocumentFault (DirectoryFault resolve root (directoryOf d)) d

section Document

variable {host : Host} {root : Path} {d : Datum} {f : Fault}

theorem isUnresolved_iff (hhost : host.Obeys) :
    IsUnresolved host.resolve root d f ↔ DirectoryFault host.resolve root d f := by
  unfold IsUnresolved
  simp only [resolve_eq_error_iff hhost]
  constructor
  · rintro ⟨t, ht, h⟩
    cases h with
    | nul h => exact .nul ht (Path.hasNul_join_ofString_iff.1 h)
    | circle h => exact .circle ht h
  · intro h
    cases h with
    | nul ht h => exact ⟨_, ht, .nul (Path.hasNul_join_ofString_iff.2 h)⟩
    | circle ht h => exact ⟨_, ht, .circle h⟩

theorem ofDatum_eq_fault_iff_of_obeys (hhost : host.Obeys) :
    ofDatum host.resolve root d = .error (.fault f) ↔ DocumentFaultAt host.resolve root d f := by
  -- the directory is the only part of a document that goes to the host
  have hunresolved : IsUnresolved host.resolve root (directoryOf d) =
      DirectoryFault host.resolve root (directoryOf d) :=
    funext fun g => propext (isUnresolved_iff hhost)
  rw [ofDatum_eq_fault_iff, hunresolved]

/-- A mapping without entries has nothing in it to fail on. -/
theorem ofDatum_nil_ne_fault (resolve : Resolver) (root : Path) (f : Fault) :
    ofDatum resolve root (.mapping []) ≠ .error (.fault f) :=
  nofun

end Document

/-! ## Files -/

/-- The path that is resolved for the settings file: the one of a fixed name in a directory. -/
def target (m : Machine) (p : Path) : Path :=
  match m.look p with
  | .ok (some .directory) => p.join (.ofString fileName)
  | _ => p

section Load

variable (host : Host) (m : Machine)

/-- Faults of finding the settings file that a path means. -/
inductive LocateFault (p : Path) : Fault → Prop
  | home {f : Fault} (h : m.HomeFault p f) : LocateFault p f
  | unseen {q : Path} {f : Fault} (hhome : m.expandHome p = .ok q) (h : m.LookFault q f) :
    LocateFault p f
  | unresolved {q : Path} {f : Fault} (hhome : m.expandHome p = .ok q)
    (hseen : ∀ g, ¬m.LookFault q g) (h : ResolveFault host.resolve (target m q) f) :
    LocateFault p f

/-- The text that a file is the encoding of, with its line breaks unified, unless it is blank. -/
structure SolidText (bytes : List UInt8) (text : List Char) : Prop where
  encoded : ∃ s, bytes = encodeUtf8 s ∧ text = unifyLineBreaks s.toList
  solid : allBlank text = false

/-- Faults of the bytes of a file in a directory. What is blank has none. -/
inductive BytesFault (root : Path) (bytes : List UInt8) : Fault → Prop
  | undecodable (h : ∀ s, bytes ≠ encodeUtf8 s) : BytesFault root bytes .undecodable
  | date {text : List Char} {f : Fault} (htext : SolidText bytes text) (hdate : f.IsDate)
    (h : host.read text = .error (.fault f)) : BytesFault root bytes f
  | document {text : List Char} {entries : List (Scalar × Datum)} {f : Fault}
    (htext : SolidText bytes text) (hread : host.read text = .ok (.mapping entries))
    (h : DocumentFaultAt host.resolve root (.mapping entries) f) : BytesFault root bytes f

/-- Faults of the settings file that a path means, or the environment when no path is given. -/
inductive LoadFault (environ : Environment) (path : Option Path) : Fault → Prop
  | unlocated {p : Path} {f : Fault} (hp : chosen environ path = some p)
    (h : LocateFault host m p f) : LoadFault environ path f
  | unseen {p file : Path} {f : Fault} (hp : chosen environ path = some p)
    (hfile : locate host m p = .ok file) (h : m.LookFault file f) : LoadFault environ path f
  | bytes {p file : Path} {bytes : List UInt8} {f : Fault} (hp : chosen environ path = some p)
    (hfile : locate host m p = .ok file) (hlook : m.look file = .ok (some (.file bytes)))
    (h : BytesFault host file.parent bytes f) : LoadFault environ path f

end Load

section Faults

variable {host : Host} {m : Machine} {f : Fault}

theorem locate_eq_error_iff (hhost : host.Obeys) {p : Path} :
    locate host m p = .error f ↔ LocateFault host m p f := by
  -- what is there decides only which path is resolved
  have hlocate : locate host m p = m.expandHome p >>= fun q =>
      m.look q >>= fun _ => host.resolve (target m q) := by
    unfold locate target
    refine bind_congr fun q => ?_
    cases m.look q with
    | error g => rfl
    | ok found =>
      cases found with
      | none => rfl
      | some e => cases e <;> rfl
  rw [hlocate]
  simp only [bind_eq_error_iff, Machine.expandHome_eq_error_iff, Machine.look_eq_error_iff,
    resolve_eq_error_iff hhost]
  constructor
  · rintro (h | ⟨q, hq, h | ⟨found, hfound, h⟩⟩)
    · exact .home h
    · exact .unseen hq h
    · refine .unresolved hq (fun g hg => ?_) h
      cases hfound.symm.trans (Machine.look_eq_error_iff.2 hg)
  · intro h
    cases h with
    | home h => exact .inl h
    | unseen hq h => exact .inr ⟨_, hq, .inl h⟩
    | @unresolved q _ hq hseen h =>
      cases hfound : m.look q with
      | error g => exact absurd (Machine.look_eq_error_iff.1 hfound) (hseen g)
      | ok found => exact .inr ⟨q, hq, .inr ⟨found, hfound, h⟩⟩

/-- The settings of what the text of a file reads as. -/
def ofReading (host : Host) (file : Path) :
    Except ReadFailure Datum → Except SettingsFailure Settings
  | .ok (.scalar .null) => ofDatum host.resolve file.parent (.mapping [])
  | .ok (.mapping entries) => ofDatum host.resolve file.parent (.mapping entries)
  | .ok _ => .error (.refused (.noMapping file.name))
  | .error .malformed => .error (.refused (.malformed file.name))
  | .error (.fault f) => .error (.fault f)

theorem ofReading_eq_fault_iff {file : Path} {reading : Except ReadFailure Datum} :
    ofReading host file reading = .error (.fault f) ↔ reading = .error (.fault f) ∨
      ∃ entries, reading = .ok (.mapping entries) ∧
        ofDatum host.resolve file.parent (.mapping entries) = .error (.fault f) := by
  unfold ofReading
  split
  · simp [ofDatum_nil_ne_fault]
  · simp
  · next hmapping => simpa using fun entries h => absurd h (hmapping entries)
  · simp
  · simp

section Bytes

variable {file : Path} {bytes : List UInt8} {s : String}

theorem ofBytes_of_solid (h : allBlank (unifyLineBreaks s.toList) = false) :
    ofBytes host file (encodeUtf8 s) =
      ofReading host file (host.read (unifyLineBreaks s.toList)) := by
  unfold ofBytes parse
  rw [decodeUtf8?_encodeUtf8, Option.map_some]
  dsimp only
  rw [h, if_neg Bool.false_ne_true]
  rcases host.read (unifyLineBreaks s.toList) with (_ | f) | (s | entries | _)
  · rfl
  · rfl
  · cases s <;> rfl
  · rfl
  · rfl

/-- What is blank is read as a mapping without entries. -/
theorem ofBytes_of_blank (h : allBlank (unifyLineBreaks s.toList) = true) :
    ofBytes host file (encodeUtf8 s) = ofDatum host.resolve file.parent (.mapping []) := by
  unfold ofBytes parse
  rw [decodeUtf8?_encodeUtf8, Option.map_some]
  dsimp only
  rw [if_pos h]
  rfl

theorem ofBytes_of_undecodable (h : ∀ s, bytes ≠ encodeUtf8 s) :
    ofBytes host file bytes = .error (.fault .undecodable) := by
  unfold ofBytes parse
  rw [decodeUtf8?_eq_none_iff.2 h]
  rfl

theorem ofBytes_eq_fault_iff (hhost : host.Obeys) :
    ofBytes host file bytes = .error (.fault f) ↔ BytesFault host file.parent bytes f := by
  constructor
  · intro h
    by_cases htext : ∃ s, bytes = encodeUtf8 s
    · obtain ⟨s, rfl⟩ := htext
      cases hblank : allBlank (unifyLineBreaks s.toList) with
      | true =>
        rw [ofBytes_of_blank hblank] at h
        exact absurd h (ofDatum_nil_ne_fault _ _ _)
      | false =>
        have htext : SolidText (encodeUtf8 s) (unifyLineBreaks s.toList) := ⟨⟨s, rfl, rfl⟩, hblank⟩
        rw [ofBytes_of_solid hblank, ofReading_eq_fault_iff] at h
        rcases h with hread | ⟨entries, hread, h⟩
        · exact .date htext (hhost.read hread) hread
        · exact .document htext hread ((ofDatum_eq_fault_iff_of_obeys hhost).1 h)
    · have hnone : ∀ s, bytes ≠ encodeUtf8 s := fun s hs => htext ⟨s, hs⟩
      rw [ofBytes_of_undecodable hnone] at h
      cases h
      exact .undecodable hnone
  · intro h
    cases h with
    | undecodable h => exact ofBytes_of_undecodable h
    | date htext _ hread =>
      obtain ⟨⟨s, rfl, rfl⟩, hsolid⟩ := htext
      rw [ofBytes_of_solid hsolid]
      exact ofReading_eq_fault_iff.2 (.inl hread)
    | document htext hread h =>
      obtain ⟨⟨s, rfl, rfl⟩, hsolid⟩ := htext
      rw [ofBytes_of_solid hsolid]
      exact ofReading_eq_fault_iff.2
        (.inr ⟨_, hread, (ofDatum_eq_fault_iff_of_obeys hhost).2 h⟩)

end Bytes

theorem ofFile_eq_fault_iff (hhost : host.Obeys) {file : Path} :
    ofFile host m file = .error (.fault f) ↔ m.LookFault file f ∨
      ∃ bytes, m.look file = .ok (some (.file bytes)) ∧ BytesFault host file.parent bytes f := by
  unfold ofFile
  rw [bind_eq_error_iff, lift_eq_error_iff]
  simp only [lift_eq_ok_iff, Machine.look_eq_error_iff]
  constructor
  · rintro (⟨g, hg, h⟩ | ⟨found, hlook, h⟩)
    · cases hg
      exact .inl h
    · split at h
      · cases h
      · exact .inr ⟨_, hlook, (ofBytes_eq_fault_iff hhost).1 h⟩
      · cases h
  · rintro (h | ⟨bytes, hlook, h⟩)
    · exact .inl ⟨f, rfl, h⟩
    · exact .inr ⟨_, hlook, (ofBytes_eq_fault_iff hhost).2 h⟩

/-! ## Loading -/

theorem mapError_refused_ne_fault {α : Type} {x : Except SettingsError α} :
    x.mapError SettingsFailure.refused ≠ .error (.fault f) := by
  intro h
  obtain ⟨e, he, -⟩ := mapError_eq_error_iff.1 h
  cases he

/-- The environment comes too late for a fault. -/
theorem load_eq_fault_iff_chosen {environ : Environment} {path : Option Path} :
    load host m environ path = .error (.fault f) ↔ ∃ p, chosen environ path = some p ∧
      (locate host m p = .error f ∨
        ∃ file, locate host m p = .ok file ∧ ofFile host m file = .error (.fault f)) := by
  unfold load
  cases chosen environ path with
  | none => exact iff_of_false mapError_refused_ne_fault fun ⟨_, h, _⟩ => nomatch h
  | some p =>
    simp only [bind_eq_error_iff, lift_eq_error_iff, lift_eq_ok_iff, Option.some.injEq,
      exists_eq_left']
    constructor
    · rintro (⟨g, hg, h⟩ | ⟨file, hfile, h | ⟨s, -, h⟩⟩)
      · cases hg
        exact .inl h
      · exact .inr ⟨file, hfile, h⟩
      · exact absurd h mapError_refused_ne_fault
    · rintro (h | ⟨file, hfile, h⟩)
      · exact .inl ⟨f, rfl, h⟩
      · exact .inr ⟨file, hfile, .inl h⟩

end Faults

/-- The faults of loading are those of the settings file, and those of a document are the ones of
its parts; in every other case there are settings, or a refusal. -/
theorem escapes_iff (host : Host) (hhost : host.Obeys) (root : Path) (d : Datum) (m : Machine)
    (environ : Environment) (path : Option Path) (f : Fault) :
    (ofDatum host.resolve root d = .error (.fault f) ↔ DocumentFaultAt host.resolve root d f) ∧
      (load host m environ path = .error (.fault f) ↔ LoadFault host m environ path f) := by
  refine ⟨ofDatum_eq_fault_iff_of_obeys hhost, ?_⟩
  rw [load_eq_fault_iff_chosen]
  simp only [ofFile_eq_fault_iff hhost, locate_eq_error_iff hhost]
  constructor
  · rintro ⟨p, hp, h | ⟨file, hfile, h | ⟨bytes, hlook, h⟩⟩⟩
    · exact .unlocated hp h
    · exact .unseen hp hfile h
    · exact .bytes hp hfile hlook h
  · intro h
    cases h with
    | unlocated hp h => exact ⟨_, hp, .inl h⟩
    | unseen hp hfile h => exact ⟨_, hp, .inr ⟨_, hfile, .inl h⟩⟩
    | bytes hp hfile hlook h => exact ⟨_, hp, .inr ⟨_, hfile, .inr ⟨_, hlook, h⟩⟩⟩

/-! ## Documents and files for examples -/

/-- The text of a date in a month that there is not. -/
def lateMonth : String := "2024-13-01"

/-- Reads the text of this date and no other. -/
def calendarHost : Host where
  read text :=
    .error (if text = lateMonth.toList then .fault (.dateOutOfRange .month) else .malformed)
  resolve := asWritten

theorem calendarHost_obeys : calendarHost.Obeys where
  read h := by
    unfold calendarHost at h
    dsimp only at h
    split at h
    · cases h
      exact .field _
    · cases h
  nul := asWritten_eq_error_iff.trans (and_iff_left rfl)
  circle h := .inl (asWritten_eq_error_iff.1 h).2

def calendarFile : Path := ⟨.slash, ["calendar.yml"]⟩

/-- A machine with this text in a file. -/
def calendarMachine : Machine where
  files := { entries := [(calendarFile.parts, .file (encodeUtf8 lateMonth))] }
  environ := .empty
  working := []

/-- A document whose time limit is beyond all numbers. -/
def largeLimit : Datum :=
  .mapping [(.text "execution", .mapping [(.text "timeout", .scalar (.int (powTen 400)))])]

theorem earlyFault_largeLimit : EarlyFault largeLimit .integerTooLarge := by
  refine .timeLimit ?_ ?_ ⟨powTen 400, rfl, ?_⟩
  · rintro ⟨n, h, -⟩
    cases h
  · rintro ⟨n, h, -⟩
    cases h
  · decide +kernel

theorem escapes_iff_calendar :
    ofDatum calendarHost.resolve topRoot largeLimit = .error (.fault .integerTooLarge) ∧
      load calendarHost calendarMachine .empty (some calendarFile) =
        .error (.fault (.dateOutOfRange .month)) := by
  have hlook : calendarMachine.look calendarFile =
      .ok (some (.file (encodeUtf8 lateMonth))) := by decide +kernel
  have hfile : locate calendarHost calendarMachine calendarFile = .ok calendarFile := by
    decide +kernel
  have htext : SolidText (encodeUtf8 lateMonth) lateMonth.toList :=
    ⟨⟨lateMonth, rfl, by decide +kernel⟩, by decide +kernel⟩
  have hdate : LoadFault calendarHost calendarMachine .empty (some calendarFile)
      (.dateOutOfRange .month) := .bytes rfl hfile hlook (.date htext (.field _) rfl)
  have hescapes := escapes_iff calendarHost calendarHost_obeys topRoot largeLimit calendarMachine
    .empty (some calendarFile)
  exact ⟨(hescapes _).1.2 (.inl earlyFault_largeLimit), (hescapes _).2.2 hdate⟩

/-- The time limit of the document is an integer above zero, and reading it ends in a fault. -/
theorem ofDatum_largeLimit :
    ofDatum asWritten ⟨.slash, ["srv-none", "root"]⟩ largeLimit =
      .error (.fault .integerTooLarge) :=
  ofDatum_of_earlyFault earlyFault_largeLimit

end Settings

end CommandServer
