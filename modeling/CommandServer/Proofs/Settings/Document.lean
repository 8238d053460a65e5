/-
The settings of a document. The texts for the log file and the directory are read first, then the
number of the time limit, which is judged at once; only when it stands are the directory resolved
and the variables and the name read. So a document ends in the first fault on this way, or is
refused for its time limit, or gives settings.
-/
import CommandServer.Proofs.Settings.Part

namespace CommandServer.Settings

/-! ## Order of reading -/

/-- Faults before the time limit is judged. -/
inductive EarlyFault (d : Datum) : Fault → Prop
  | logFile (h : IsLong (logFileOf d)) : EarlyFault d .integerUnwritable
  | directory (h : IsLong (directoryOf d)) : EarlyFault d .integerUnwritable
  | timeLimit (hlog : ¬IsLong (logFileOf d)) (hdirectory : ¬IsLong (directoryOf d))
    (h : IsLarge (timeoutOf d)) : EarlyFault d .integerTooLarge

/-- The document gives a time limit that is refused. -/
def IsRefused (d : Datum) : Prop := ∃ x, Denotes (timeoutOf d) x ∧ x.isNonPositive = true

section Late

variable (unresolved : Fault → Prop) (d : Datum)

/-- Faults once the time limit stands. Those of the directory come first. -/
inductive LateFault : Fault → Prop
  | directory {f : Fault} (h : unresolved f) : LateFault f
  | environment (hdirectory : ∀ f, ¬unresolved f) (h : HasLongVariable (variablesOf d)) :
    LateFault .integerUnwritable
  | name (hdirectory : ∀ f, ¬unresolved f) (h : IsLong (nameOf d)) : LateFault .integerUnwritable

/-- The faults of a document, in the order in which it is read. -/
def DocumentFault (f : Fault) : Prop :=
  EarlyFault d f ∨ (∀ g, ¬EarlyFault d g) ∧ ¬IsRefused d ∧ LateFault unresolved d f

end Late

/-- Reading once the time limit stands. -/
def afterLimit (resolve : Resolver) (root : Path) (d : Datum) (logFile directory : Option String)
    (timeout : Option Binary64) : Except SettingsFailure Settings := do
  let directory ← lift (directory.mapM fun s => resolve (root.join (.ofString s)))
  let environment ← lift (environmentOf (variablesOf d))
  let name ← lift (someText? (nameOf d))
  return {
    root := some root
    debug := (switch? (d.under "debug")).getD false
    logFile := logFile.map fun s => root.join (.ofString s)
    serverName := name.getD CommandServer.serverName
    execution := ⟨timeout.map .real, directory, environment⟩ }

theorem ofDatum_eq (resolve : Resolver) (root : Path) (d : Datum) : ofDatum resolve root d = (do
    let logFile ← lift (someText? (logFileOf d))
    let directory ← lift (someText? (directoryOf d))
    let timeout ← lift (number? (timeoutOf d))
    if timeout.any Binary64.isNonPositive then .error (.refused (.badTimeout .document))
    else afterLimit resolve root d logFile directory timeout) := rfl

section Lift

variable {α : Type} {x : Except Fault α}

theorem lift_eq_ok_iff {a : α} : lift x = .ok a ↔ x = .ok a := mapError_eq_ok_iff

theorem lift_eq_error_iff {e : SettingsFailure} :
    lift x = .error e ↔ ∃ f, e = .fault f ∧ x = .error f := mapError_eq_error_iff

end Lift

/-- What is read before the time limit is judged. -/
structure EarlyReading (d : Datum) (logFile directory : Option String)
    (timeout : Option Binary64) : Prop where
  logFile : someText? (logFileOf d) = .ok logFile
  directory : someText? (directoryOf d) = .ok directory
  timeout : number? (timeoutOf d) = .ok timeout

namespace EarlyReading

variable {d : Datum} {logFile directory : Option String} {timeout : Option Binary64}

theorem not_earlyFault (h : EarlyReading d logFile directory timeout) (f : Fault) :
    ¬EarlyFault d f := by
  intro hf
  cases hf with
  | logFile hlong => simpa [h.logFile] using someText?_eq_error_iff.2 ⟨rfl, hlong⟩
  | directory hlong => simpa [h.directory] using someText?_eq_error_iff.2 ⟨rfl, hlong⟩
  | timeLimit _ _ hlarge => simpa [h.timeout] using number?_eq_error_iff.2 ⟨rfl, hlarge⟩

theorem isRefused_iff (h : EarlyReading d logFile directory timeout) :
    IsRefused d ↔ timeout.any Binary64.isNonPositive = true := by
  rw [Option.any_eq_true]
  refine exists_congr fun x => and_congr_left fun _ => ?_
  rw [← number?_eq_some_iff, h.timeout, Except.ok.injEq]

end EarlyReading

theorem exists_earlyFault_or_earlyReading (d : Datum) :
    (∃ f, EarlyFault d f) ∨ ∃ logFile directory timeout,
      EarlyReading d logFile directory timeout := by
  cases hl : someText? (logFileOf d) with
  | error f => exact .inl ⟨_, .logFile (someText?_eq_error_iff.1 hl).2⟩
  | ok logFile =>
    cases hd : someText? (directoryOf d) with
    | error f => exact .inl ⟨_, .directory (someText?_eq_error_iff.1 hd).2⟩
    | ok directory =>
      cases ht : number? (timeoutOf d) with
      | ok timeout => exact .inr ⟨_, _, _, hl, hd, ht⟩
      | error f =>
        refine .inl ⟨_, .timeLimit (fun h => ?_) (fun h => ?_) (number?_eq_error_iff.1 ht).2⟩
        · simp [someText?_eq_error_iff.2 ⟨rfl, h⟩] at hl
        · simp [someText?_eq_error_iff.2 ⟨rfl, h⟩] at hd

/-! ## Outcomes -/

variable {resolve : Resolver} {root : Path} {d : Datum}

theorem ofDatum_of_earlyFault {f : Fault} (h : EarlyFault d f) :
    ofDatum resolve root d = .error (.fault f) := by
  rw [ofDatum_eq, bind_eq_error_iff]
  cases h with
  | logFile hlong => exact .inl (lift_eq_error_iff.2 ⟨_, rfl, someText?_eq_error_iff.2 ⟨rfl, hlong⟩⟩)
  | directory hlong =>
    cases hl : someText? (logFileOf d) with
    | error g =>
      -- the log file comes first, but its fault is the same one
      obtain ⟨rfl, -⟩ := someText?_eq_error_iff.1 hl
      exact .inl rfl
    | ok logFile =>
      rw [someText?_eq_error_iff.2 ⟨rfl, hlong⟩]
      exact .inr ⟨logFile, rfl, rfl⟩
  | timeLimit hlog hdirectory hlarge =>
    cases hl : someText? (logFileOf d) with
    | error g => exact absurd (someText?_eq_error_iff.1 hl).2 hlog
    | ok logFile =>
      cases hd : someText? (directoryOf d) with
      | error g => exact absurd (someText?_eq_error_iff.1 hd).2 hdirectory
      | ok directory =>
        rw [number?_eq_error_iff.2 ⟨rfl, hlarge⟩]
        exact .inr ⟨logFile, rfl, rfl⟩

theorem EarlyReading.ofDatum_eq {logFile directory : Option String} {timeout : Option Binary64}
    (h : EarlyReading d logFile directory timeout) :
    ofDatum resolve root d =
      if timeout.any Binary64.isNonPositive then .error (.refused (.badTimeout .document))
      else afterLimit resolve root d logFile directory timeout := by
  rw [Settings.ofDatum_eq, h.logFile, h.directory, h.timeout]
  rfl

theorem afterLimit_eq_error_iff {logFile directory : Option String} {timeout : Option Binary64}
    (h : someText? (directoryOf d) = .ok directory) {e : SettingsFailure} :
    afterLimit resolve root d logFile directory timeout = .error e ↔
      ∃ f, e = .fault f ∧ LateFault (IsUnresolved resolve root (directoryOf d)) d f := by
  have hresolved {p : Option Path}
      (hp : (directory.mapM fun s => resolve (root.join (.ofString s))) = .ok p) (g : Fault) :
      ¬IsUnresolved resolve root (directoryOf d) g := by
    intro hunresolved
    cases hp.symm.trans ((mapM_resolve_eq_error_iff h).2 hunresolved)
  unfold afterLimit
  simp only [bind_eq_error_iff, lift_eq_error_iff, lift_eq_ok_iff,
    mapM_resolve_eq_error_iff h, environmentOf_eq_error_iff, someText?_eq_error_iff]
  constructor
  · rintro (⟨f, rfl, hunresolved⟩ | ⟨p, hp, ⟨_, rfl, rfl, hlong⟩ |
      ⟨environment, -, ⟨_, rfl, rfl, hlong⟩ | ⟨name, -, ⟨⟩⟩⟩⟩)
    · exact ⟨f, rfl, .directory hunresolved⟩
    · exact ⟨_, rfl, .environment (hresolved hp) hlong⟩
    · exact ⟨_, rfl, .name (hresolved hp) hlong⟩
  · rintro ⟨f, rfl, hf⟩
    -- the directory comes first: only when it can be resolved do the others count
    cases hp : directory.mapM fun s => resolve (root.join (.ofString s)) with
    | error g =>
      have hunresolved := (mapM_resolve_eq_error_iff h).1 hp
      cases hf with
      | directory hf =>
        cases hp.symm.trans ((mapM_resolve_eq_error_iff h).2 hf)
        exact .inl ⟨_, rfl, hunresolved⟩
      | environment hdirectory => exact absurd hunresolved (hdirectory g)
      | name hdirectory => exact absurd hunresolved (hdirectory g)
    | ok p =>
      refine .inr ⟨p, rfl, ?_⟩
      cases hf with
      | directory hunresolved => exact absurd hunresolved (hresolved hp f)
      | environment _ hlong => exact .inl ⟨_, rfl, rfl, hlong⟩
      | name _ hlong =>
        cases he : environmentOf (variablesOf d) with
        | error g => exact .inl ⟨_, rfl, rfl, (environmentOf_eq_error_iff.1 he).2⟩
        | ok environment => exact .inr ⟨environment, rfl, .inl ⟨_, rfl, rfl, hlong⟩⟩

theorem ofDatum_eq_fault_iff {f : Fault} :
    ofDatum resolve root d = .error (.fault f) ↔
      DocumentFault (IsUnresolved resolve root (directoryOf d)) d f := by
  unfold DocumentFault
  rcases exists_earlyFault_or_earlyReading d with ⟨g, hg⟩ | ⟨logFile, directory, timeout, hread⟩
  · -- a document ends in one fault only, so that any other one found in it is the same
    constructor
    · intro h
      rw [ofDatum_of_earlyFault hg] at h
      cases h
      exact .inl hg
    · rintro (hf | ⟨hearly, -⟩)
      · exact ofDatum_of_earlyFault hf
      · exact absurd hg (hearly g)
  · rw [hread.ofDatum_eq, hread.isRefused_iff]
    split
    · next hrefused =>
      refine iff_of_false (fun h => nomatch h) ?_
      rintro (hf | ⟨-, hstands, -⟩)
      · exact hread.not_earlyFault f hf
      · exact hstands hrefused
    · next hstands =>
      rw [afterLimit_eq_error_iff hread.directory]
      constructor
      · rintro ⟨_, ⟨⟩, hf⟩
        exact .inr ⟨hread.not_earlyFault, hstands, hf⟩
      · rintro (hf | ⟨-, -, hf⟩)
        · exact absurd hf (hread.not_earlyFault f)
        · exact ⟨f, rfl, hf⟩

/-- A document is refused for its time limit only. -/
theorem ofDatum_eq_refused_iff {e : SettingsError} :
    ofDatum resolve root d = .error (.refused e) ↔
      e = .badTimeout .document ∧ (∀ g, ¬EarlyFault d g) ∧ IsRefused d := by
  rcases exists_earlyFault_or_earlyReading d with ⟨g, hg⟩ | ⟨logFile, directory, timeout, hread⟩
  · rw [ofDatum_of_earlyFault hg]
    exact iff_of_false (fun h => nomatch h) fun ⟨_, hearly, _⟩ => hearly g hg
  · rw [hread.ofDatum_eq, hread.isRefused_iff]
    split
    · next hrefused =>
      constructor
      · rintro ⟨⟩
        exact ⟨rfl, hread.not_earlyFault, hrefused⟩
      · rintro ⟨rfl, -⟩
        rfl
    · next hstands =>
      rw [afterLimit_eq_error_iff hread.directory]
      refine iff_of_false (fun ⟨_, h, _⟩ => nomatch h) fun ⟨_, _, hrefused⟩ => hstands hrefused

theorem parts_of_afterLimit {logFile directory : Option String} {timeout : Option Binary64}
    {s : Settings} (h : afterLimit resolve root d logFile directory timeout = .ok s) :
    s.execution.timeout = timeout.map .real ∧
      environmentOf (variablesOf d) = .ok s.execution.environment := by
  unfold afterLimit at h
  obtain ⟨p, -, h⟩ := bind_eq_ok_iff.1 h
  obtain ⟨environment, henvironment, h⟩ := bind_eq_ok_iff.1 h
  obtain ⟨name, -, h⟩ := bind_eq_ok_iff.1 h
  cases h
  exact ⟨rfl, lift_eq_ok_iff.1 henvironment⟩

/-- The time limit of settings is what the document says, and was not refused; the variables are
those of the document. -/
theorem parts_of_ofDatum {s : Settings} (h : ofDatum resolve root d = .ok s) :
    (¬IsRefused d ∧ ∀ t, s.execution.timeout = some t ↔ ∃ x, t = .real x ∧ Denotes (timeoutOf d) x) ∧
      environmentOf (variablesOf d) = .ok s.execution.environment := by
  rcases exists_earlyFault_or_earlyReading d with ⟨g, hg⟩ | ⟨logFile, directory, timeout, hread⟩
  · rw [ofDatum_of_earlyFault hg] at h
    cases h
  · rw [hread.ofDatum_eq] at h
    rw [hread.isRefused_iff]
    split at h
    · cases h
    · next hstands =>
      obtain ⟨htimeout, henvironment⟩ := parts_of_afterLimit h
      refine ⟨⟨hstands, fun t => ?_⟩, henvironment⟩
      rw [htimeout, Option.map_eq_some_iff]
      refine exists_congr fun x => ?_
      rw [← number?_eq_some_iff, hread.timeout, Except.ok.injEq, and_comm, eq_comm (a := t)]

end CommandServer.Settings
