/-
Loading settings in two stages. First it is found out where they come from: from nothing, from a
file that is missing, or from a document. What that gives is then settled with the environment of
the program, which sets a time limit of its own or is refused for it.
-/
import CommandServer.Proofs.Settings.Document
import CommandServer.Settings.Load

namespace CommandServer.Settings

open CommandServer.Text

/-! ## Sources -/

/-- Where settings come from, before the environment is put over them. -/
inductive Source where
  | nothing
  | missing (directory : Path)
  | document (root : Path) (d : Datum)

/-- The settings that a source gives. -/
def Source.settings (resolve : Resolver) : Source → Except SettingsFailure Settings
  | .nothing => .ok {}
  | .missing directory => .ok { root := some directory }
  | .document root d => ofDatum resolve root d

/-- The settings of a source with what the environment puts over them. -/
def settle (resolve : Resolver) (source : Source) (environ : Environment) :
    Except SettingsFailure Settings :=
  source.settings resolve >>= fun s => (s.overrideWith environ).mapError .refused

section Host

variable (host : Host)

def sourceOfBytes (file : Path) (bytes : List UInt8) : Except SettingsFailure Source :=
  parse host file.name bytes >>= fun
    | .scalar .null => .ok (.document file.parent (.mapping []))
    | .mapping entries => .ok (.document file.parent (.mapping entries))
    | _ => .error (.refused (.noMapping file.name))

def sourceOfFile (m : Machine) (file : Path) : Except SettingsFailure Source :=
  lift (m.look file) >>= fun
    | none => .ok (.missing file.parent)
    | some (.file bytes) => sourceOfBytes host file bytes
    | some .directory =>
      .error (.refused (.unreadable file (Obstacle.isADirectory.error (.name file.text))))

/-- The source that a path means, or the environment when no path is given. -/
def sourceAt (m : Machine) (environ : Environment) (path : Option Path) :
    Except SettingsFailure Source :=
  match chosen environ path with
  | none => .ok .nothing
  | some p => lift (locate host m p) >>= sourceOfFile host m

theorem ofBytes_eq (file : Path) (bytes : List UInt8) :
    ofBytes host file bytes = sourceOfBytes host file bytes >>= Source.settings host.resolve := by
  unfold ofBytes sourceOfBytes
  cases parse host file.name bytes with
  | error e => rfl
  | ok d =>
    cases d with
    | scalar s => cases s <;> rfl
    | mapping entries => rfl
    | collection => rfl

theorem ofFile_eq (m : Machine) (file : Path) :
    ofFile host m file = sourceOfFile host m file >>= Source.settings host.resolve := by
  unfold ofFile sourceOfFile
  cases m.look file with
  | error f => rfl
  | ok found =>
    cases found with
    | none => rfl
    | some e =>
      cases e with
      | directory => rfl
      | file bytes => exact ofBytes_eq host file bytes

/-- Settings are loaded by settling their source. -/
theorem load_eq (m : Machine) (environ : Environment) (path : Option Path) :
    load host m environ path = sourceAt host m environ path >>= fun source =>
      settle host.resolve source environ := by
  unfold load sourceAt
  cases chosen environ path with
  | none => rfl
  | some p =>
    dsimp only
    rw [bind_assoc]
    refine bind_congr fun file => ?_
    rw [ofFile_eq, bind_assoc]
    rfl

end Host

/-! ## The environment -/

/-- The time limit of the environment; an empty one counts as none. -/
def variableLimit? (environ : Environment) : Option String :=
  (environ.get? timeoutVariable).filter fun t => !t.isEmpty

section Override

variable {environ : Environment} {s s' : Settings}

theorem variableLimit?_eq_none_iff :
    variableLimit? environ = none ↔
      environ.get? timeoutVariable = none ∨ environ.get? timeoutVariable = some "" := by
  unfold variableLimit?
  cases environ.get? timeoutVariable with
  | none => simp
  | some t => simp

theorem variableLimit?_eq_some_iff {t : String} :
    variableLimit? environ = some t ↔ environ.get? timeoutVariable = some t ∧ t ≠ "" := by
  unfold variableLimit?
  rw [Option.filter_eq_some_iff]
  simp

theorem overrideWith_of_none (h : variableLimit? environ = none) :
    overrideWith environ s = .ok (s.overrideDebug environ) := by
  unfold overrideWith overrideTimeout
  unfold variableLimit? at h
  simp only [h]

theorem overrideWith_of_unread {t : String} (h : variableLimit? environ = some t)
    (hread : Binary64.read? t.toList = none) :
    overrideWith environ s = .error (.badTimeout .variable) := by
  unfold overrideWith overrideTimeout
  unfold variableLimit? at h
  simp only [h, hread]

theorem overrideWith_of_read {t : String} {x : Binary64} (h : variableLimit? environ = some t)
    (hread : Binary64.read? t.toList = some x) :
    overrideWith environ s = if x.isNonPositive then .error (.badTimeout .variable)
      else .ok ((s.overrideDebug environ).setTimeout (some (.real x))) := by
  unfold overrideWith overrideTimeout
  unfold variableLimit? at h
  simp only [h, hread]

/-- The environment sets a time limit when it has one, and leaves the one there is otherwise. -/
theorem overrideWith_eq_ok_iff : overrideWith environ s = .ok s' ↔
    (variableLimit? environ = none ∧ s' = s.overrideDebug environ) ∨
      ∃ t x, variableLimit? environ = some t ∧ Binary64.read? t.toList = some x ∧
        x.isNonPositive = false ∧ s' = (s.overrideDebug environ).setTimeout (some (.real x)) := by
  constructor
  · intro hs
    cases h : variableLimit? environ with
    | none =>
      rw [overrideWith_of_none h] at hs
      cases hs
      exact .inl ⟨rfl, rfl⟩
    | some t =>
      cases hread : Binary64.read? t.toList with
      | none =>
        rw [overrideWith_of_unread h hread] at hs
        cases hs
      | some x =>
        rw [overrideWith_of_read h hread] at hs
        split at hs
        · cases hs
        · next hpos =>
          cases hs
          exact .inr ⟨t, x, rfl, hread, Bool.not_eq_true _ ▸ hpos, rfl⟩
  · rintro (⟨h, rfl⟩ | ⟨t, x, h, hread, hpos, rfl⟩)
    · exact overrideWith_of_none h
    · rw [overrideWith_of_read h hread, if_neg]
      rw [hpos]
      exact Bool.false_ne_true

/-- The environment is refused when its time limit spells no number, or one that is not above
zero. -/
theorem overrideWith_eq_error_iff {e : SettingsError} : overrideWith environ s = .error e ↔
    e = .badTimeout .variable ∧ ∃ t, variableLimit? environ = some t ∧
      ∀ x, Binary64.read? t.toList = some x → x.isNonPositive = true := by
  constructor
  · intro hs
    cases h : variableLimit? environ with
    | none =>
      rw [overrideWith_of_none h] at hs
      cases hs
    | some t =>
      cases hread : Binary64.read? t.toList with
      | none =>
        rw [overrideWith_of_unread h hread] at hs
        cases hs
        exact ⟨rfl, t, rfl, fun x hx => by cases hread.symm.trans hx⟩
      | some x =>
        rw [overrideWith_of_read h hread] at hs
        split at hs
        · next hnon =>
          cases hs
          refine ⟨rfl, t, rfl, fun y hy => ?_⟩
          cases hread.symm.trans hy
          exact hnon
        · cases hs
  · rintro ⟨rfl, t, h, hnon⟩
    cases hread : Binary64.read? t.toList with
    | none => exact overrideWith_of_unread h hread
    | some x => rw [overrideWith_of_read h hread, if_pos (hnon x hread)]

end Override

/-! ## Outcomes -/

section Settle

variable {resolve : Resolver} {source : Source} {environ : Environment}

theorem settle_eq_ok_iff {s : Settings} : settle resolve source environ = .ok s ↔
    ∃ base, source.settings resolve = .ok base ∧ overrideWith environ base = .ok s := by
  unfold settle
  rw [bind_eq_ok_iff]
  exact exists_congr fun base => and_congr_right fun _ => mapError_eq_ok_iff

end Settle

/-! ## A host for examples -/

/-- Finds every path where it is written, unless it holds the character zero. -/
def asWritten : Resolver := fun p => if p.hasNul then .error .embeddedNul else .ok p

/-- The character zero is the only fault. -/
theorem asWritten_eq_error_iff {p : Path} {f : Fault} :
    asWritten p = .error f ↔ p.hasNul = true ∧ f = .embeddedNul := by
  unfold asWritten
  cases p.hasNul <;> simp [eq_comm]

/-- Reads no document. -/
def bareHost : Host := ⟨fun _ => .error .malformed, asWritten⟩

/-- The root of all paths. -/
def topRoot : Path := ⟨.slash, []⟩

end CommandServer.Settings
