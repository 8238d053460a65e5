/-
What the environment changes about settings. Without its two variables they are loaded from their
source alone, and where a source fails it fails whatever the variables say. Over the settings of a
source one variable puts a switch, if it spells one, and the other a time limit, if it spells a
number that is not zero or below. Any other text is ignored as a switch and refused as a limit.
-/
import CommandServer.Proofs.OrderedMap
import CommandServer.Proofs.Settings.Source
import CommandServer.Proofs.Text.Lower

namespace CommandServer

open CommandServer.Text

/-! ## Without the variables -/

/-- The environment without the switch for diagnosis and the time limit. -/
def Environment.withoutOverrides (environ : Environment) : Environment :=
  environ.filter fun k _ => k != debugVariable && k != timeoutVariable

theorem Environment.get?_withoutOverrides (environ : Environment) (k : String) :
    environ.withoutOverrides.get? k =
      if k = debugVariable ∨ k = timeoutVariable then none else environ.get? k := by
  unfold withoutOverrides
  rw [OrderedMap.get?_filter]
  by_cases h : k = debugVariable ∨ k = timeoutVariable
  · rw [if_pos h]
    refine Option.filter_eq_none_iff.2 fun v _ => ?_
    rcases h with rfl | rfl
    · simp
    · simp
  · rw [if_neg h]
    obtain ⟨hdebug, htimeout⟩ := not_or.1 h
    cases environ.get? k with
    | none => rfl
    | some v => simp [hdebug, htimeout]

namespace Settings

/-- A source is found without the two variables. -/
theorem sourceAt_withoutOverrides (host : Host) (m : Machine) (environ : Environment)
    (path : Option Path) :
    sourceAt host m environ.withoutOverrides path = sourceAt host m environ path := by
  have hsettings : environ.withoutOverrides.get? settingsVariable =
      environ.get? settingsVariable := by
    rw [Environment.get?_withoutOverrides, if_neg (by decide)]
  have hchosen : chosen environ.withoutOverrides path = chosen environ path := by
    unfold chosen
    rw [hsettings]
  unfold sourceAt
  rw [hchosen]

theorem overrideWith_withoutOverrides (environ : Environment) (s : Settings) :
    overrideWith environ.withoutOverrides s = .ok s := by
  have hdebug : environ.withoutOverrides.get? debugVariable = none := by
    rw [Environment.get?_withoutOverrides, if_pos (.inl rfl)]
  have htimeout : variableLimit? environ.withoutOverrides = none := by
    rw [variableLimit?, Environment.get?_withoutOverrides, if_pos (.inr rfl), Option.filter_none]
  rw [overrideWith_of_none htimeout, overrideDebug, hdebug]
  rfl

/-- Without the two variables settings are those of their source, and all that the variables do is
done to these. -/
theorem load_eq_bind_withoutOverrides (host : Host) (m : Machine) (environ : Environment)
    (path : Option Path) :
    load host m environ path = load host m environ.withoutOverrides path >>= fun base =>
      (overrideWith environ base).mapError .refused := by
  rw [load_eq, load_eq, sourceAt_withoutOverrides, bind_assoc]
  refine bind_congr fun source => ?_
  unfold settle
  rw [bind_assoc]
  refine bind_congr fun base => ?_
  rw [overrideWith_withoutOverrides]
  rfl

/-! ## The switch -/

/-- A text is one of some words, between blank characters and in letters of either case. -/
def Spells (words : List String) (t : String) : Prop :=
  ∃ w ∈ words, lowerPoints (codePoints (trim t.toList)) = codePoints w.toList

theorem spells_iff {words : List String}
    (hplain : (words.all fun w => w.toList.all fun c => IsPlain c.toNat) = true) (t : String) :
    Spells words t ↔ words.contains (String.ofList (lowerAscii (trim t.toList))) = true := by
  have h : ∀ w ∈ words, ∀ c ∈ w.toList, IsPlain c.toNat := by
    simpa only [List.all_eq_true, decide_eq_true_iff] using hplain
  rw [List.contains_eq_mem, decide_eq_true_iff]
  constructor
  · rintro ⟨w, hw, heq⟩
    rw [(lowerPoints_eq_iff (h w hw) _).1 heq, String.ofList_toList]
    exact hw
  · intro hmem
    refine ⟨_, hmem, ?_⟩
    rw [lowerPoints_eq_iff (h _ hmem), String.toList_ofList]

theorem switchOfText?_eq_some_true_iff {t : String} :
    switchOfText? t = some true ↔ Spells ["true", "yes", "1"] t := by
  rw [spells_iff (by decide)]
  unfold switchOfText? onWords
  dsimp only
  split
  · next h => exact iff_of_true rfl h
  · next h =>
    refine iff_of_false (fun hs => ?_) h
    split at hs <;> cases hs

theorem switchOfText?_eq_some_false_iff {t : String} :
    switchOfText? t = some false ↔ Spells ["false", "no", "0"] t := by
  rw [spells_iff (by decide)]
  have hdisjoint : ∀ w ∈ offWords, onWords.contains w = false := by decide
  unfold switchOfText?
  dsimp only
  constructor
  · intro hs
    split at hs
    · cases hs
    · split at hs
      · next h => exact h
      · cases hs
  · intro h
    have hmem : String.ofList (lowerAscii (trim t.toList)) ∈ offWords := List.contains_iff_mem.1 h
    rw [hdisjoint _ hmem, if_neg Bool.false_ne_true, if_pos (List.contains_iff_mem.2 hmem)]

/-! ## Both variables -/

/-- The time limit of the environment can be put over settings: there is none, or it is a number
that is not zero or below. -/
def LimitStands (environ : Environment) : Prop :=
  environ.get? timeoutVariable = none ∨ environ.get? timeoutVariable = some "" ∨
    ∃ t x, environ.get? timeoutVariable = some t ∧ Binary64.read? t.toList = some x ∧
      x.isNonPositive = false

/-- What settings become when the environment is put over them. -/
structure Overrides (environ : Environment) (base s : Settings) : Prop where
  root : s.root = base.root
  logFile : s.logFile = base.logFile
  serverName : s.serverName = base.serverName
  directory : s.execution.directory = base.execution.directory
  environment : s.execution.environment = base.execution.environment
  keepsTimeout :
    environ.get? timeoutVariable = none ∨ environ.get? timeoutVariable = some "" →
      s.execution.timeout = base.execution.timeout
  setsTimeout : ∀ t x, environ.get? timeoutVariable = some t → t ≠ "" →
    Binary64.read? t.toList = some x → s.execution.timeout = some (.real x)
  switchesOn : ∀ t, environ.get? debugVariable = some t →
    Spells ["true", "yes", "1"] t → s.debug = true
  switchesOff : ∀ t, environ.get? debugVariable = some t →
    Spells ["false", "no", "0"] t → s.debug = false
  keepsDebug : (∀ t, environ.get? debugVariable = some t →
    ¬Spells ["true", "yes", "1"] t ∧ ¬Spells ["false", "no", "0"] t) → s.debug = base.debug

variable {environ : Environment} {base s : Settings}

theorem exists_overrideWith_iff : (∃ s, overrideWith environ base = .ok s) ↔ LimitStands environ := by
  unfold LimitStands
  rw [← or_assoc, ← variableLimit?_eq_none_iff]
  simp only [overrideWith_eq_ok_iff]
  constructor
  · rintro ⟨s, ⟨h, -⟩ | ⟨t, x, h, hread, hx, -⟩⟩
    · exact .inl h
    · exact .inr ⟨t, x, (variableLimit?_eq_some_iff.1 h).1, hread, hx⟩
  · rintro (h | ⟨t, x, h, hread, hx⟩)
    · exact ⟨_, .inl ⟨h, rfl⟩⟩
    · have hempty : t ≠ "" := by
        rintro rfl
        have hnone : Binary64.read? "".toList = none := by decide +kernel
        cases hnone.symm.trans hread
      exact ⟨_, .inr ⟨t, x, variableLimit?_eq_some_iff.2 ⟨h, hempty⟩, hread, hx, rfl⟩⟩

theorem overrides_of_overrideWith (h : overrideWith environ base = .ok s) :
    Overrides environ base s := by
  -- whatever becomes of the limit, the switch is set first and stays
  have hdebug : s.debug = ((environ.get? debugVariable).bind switchOfText?).getD base.debug := by
    rcases overrideWith_eq_ok_iff.1 h with ⟨-, rfl⟩ | ⟨t, x, -, -, -, rfl⟩ <;> rfl
  have hframe : s.root = base.root ∧ s.logFile = base.logFile ∧ s.serverName = base.serverName ∧
      s.execution.directory = base.execution.directory ∧
      s.execution.environment = base.execution.environment := by
    rcases overrideWith_eq_ok_iff.1 h with ⟨-, rfl⟩ | ⟨t, x, -, -, -, rfl⟩ <;>
      exact ⟨rfl, rfl, rfl, rfl, rfl⟩
  obtain ⟨hroot, hlogFile, hserverName, hdirectory, henvironment⟩ := hframe
  refine ⟨hroot, hlogFile, hserverName, hdirectory, henvironment, ?_, ?_, ?_, ?_, ?_⟩
  · intro hnone
    rw [← variableLimit?_eq_none_iff] at hnone
    rcases overrideWith_eq_ok_iff.1 h with ⟨-, rfl⟩ | ⟨t, x, hsome, -⟩
    · rfl
    · cases hnone.symm.trans hsome
  · intro t x ht hempty hread
    have hsome := variableLimit?_eq_some_iff.2 ⟨ht, hempty⟩
    rcases overrideWith_eq_ok_iff.1 h with ⟨hnone, -⟩ | ⟨t', x', hsome', hread', -, rfl⟩
    · cases hnone.symm.trans hsome
    · cases hsome.symm.trans hsome'
      cases hread.symm.trans hread'
      rfl
  · intro t ht hspells
    rw [hdebug, ht, Option.bind_some, switchOfText?_eq_some_true_iff.2 hspells, Option.getD_some]
  · intro t ht hspells
    rw [hdebug, ht, Option.bind_some, switchOfText?_eq_some_false_iff.2 hspells, Option.getD_some]
  · intro hneither
    rw [hdebug]
    cases ht : environ.get? debugVariable with
    | none => rfl
    | some t =>
      obtain ⟨hon, hoff⟩ := hneither t ht
      rw [← switchOfText?_eq_some_true_iff] at hon
      rw [← switchOfText?_eq_some_false_iff] at hoff
      rw [Option.bind_some]
      cases hs : switchOfText? t with
      | none => rfl
      | some b =>
        cases b with
        | true => exact absurd hs hon
        | false => exact absurd hs hoff

/-- The two variables touch only what they name. Where loading fails without them, it fails in the
same way with them. Otherwise it comes to an end unless the time limit of the environment does not
stand, and is refused for this limit then; what it gives is what is loaded without the variables,
with the limit and the switch that they spell. -/
theorem load_overrides (host : Host) (m : Machine) (environ : Environment) (path : Option Path) :
    (∀ e, load host m environ.withoutOverrides path = .error e →
      load host m environ path = .error e) ∧
      ∀ base, load host m environ.withoutOverrides path = .ok base →
        ((∃ s, load host m environ path = .ok s) ↔ LimitStands environ) ∧
        (∀ e, load host m environ path = .error e → e = .refused (.badTimeout .variable)) ∧
        ∀ s, load host m environ path = .ok s → Overrides environ base s := by
  rw [load_eq_bind_withoutOverrides host m environ path]
  constructor
  · intro e he
    rw [he]
    rfl
  · intro base hbase
    rw [hbase]
    show ((∃ s, (overrideWith environ base).mapError SettingsFailure.refused = .ok s) ↔ _) ∧
      (∀ e, (overrideWith environ base).mapError SettingsFailure.refused = .error e → _) ∧
      ∀ s, (overrideWith environ base).mapError SettingsFailure.refused = .ok s → _
    simp only [mapError_eq_ok_iff, mapError_eq_error_iff]
    refine ⟨exists_overrideWith_iff, ?_, fun s => overrides_of_overrideWith⟩
    rintro _ ⟨e, rfl, he⟩
    rw [(overrideWith_eq_error_iff.1 he).1]

/-- An environment in which both variables are set, and a machine without files. -/
def switchedEnviron : Environment :=
  .ofPairs [(debugVariable, " Yes\t"), (timeoutVariable, "0.5")]

def switchedMachine : Machine :=
  { files := ⟨[], [], []⟩, environ := switchedEnviron, working := [] }

theorem load_overrides_yes :
    load bareHost switchedMachine switchedEnviron.withoutOverrides none = .ok {} ∧
      ∃ s, load bareHost switchedMachine switchedEnviron none = .ok s ∧ s.debug = true ∧
        s.serverName = CommandServer.serverName ∧
        s.execution.timeout = some (.real (.finite false (powTwo 52) (-53))) := by
  have hbase : load bareHost switchedMachine switchedEnviron.withoutOverrides none = .ok {} := by
    rw [load_eq]
    show settle asWritten .nothing switchedEnviron.withoutOverrides = _
    exact settle_eq_ok_iff.2 ⟨{}, rfl, overrideWith_withoutOverrides _ _⟩
  have hlimit : switchedEnviron.get? timeoutVariable = some "0.5" := by decide
  have hswitch : switchedEnviron.get? debugVariable = some " Yes\t" := by decide
  have hread : Binary64.read? "0.5".toList = some (.finite false (powTwo 52) (-53)) := by
    decide +kernel
  obtain ⟨hstands, -, hoverrides⟩ :=
    (load_overrides bareHost switchedMachine switchedEnviron none).2 {} hbase
  obtain ⟨s, hs⟩ := hstands.2 (.inr (.inr ⟨_, _, hlimit, hread, by decide +kernel⟩))
  have h := hoverrides s hs
  exact ⟨hbase, s, hs, h.switchesOn _ hswitch ⟨"yes", by decide, by decide +kernel⟩, h.serverName,
    h.setsTimeout _ _ hlimit (by decide) hread⟩

end Settings

end CommandServer
