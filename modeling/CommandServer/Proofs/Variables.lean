/-
The variables of the settings on their way to a command. An entry of the document sets a variable
when its value is a text, a number or a boolean, and of several entries with one text for their keys
the last one counts. What is set in this way comes before the environment of the program in every
command that a call starts, and any other variable of the program stays as it is.
-/
import CommandServer.Proofs.OrderedMap
import CommandServer.Proofs.Settings.Override
import CommandServer.Proofs.Tool
import Mathlib.Data.List.Basic

namespace CommandServer

open CommandServer.Template

/-! ## Entries of the document -/

namespace Settings

/-- An entry sets a variable: its value is a text, a number or a boolean, and name and value are the
texts of key and value. -/
inductive Sets : Scalar × Datum → String → String → Prop
  | intro {key value : Scalar} {k v : String} (h : isTextual value = true)
    (hk : key.written = .ok k) (hv : value.written = .ok v) : Sets (key, .scalar value) k v

/-- The last entry that sets a variable sets it to a value. -/
def LastSets (es : List (Scalar × Datum)) (k v : String) : Prop :=
  ∃ before e after, es = before ++ e :: after ∧ Sets e k v ∧ ∀ e' ∈ after, ∀ v', ¬Sets e' k v'

/-- The texts of an entry that sets a variable. -/
def textsOf? (e : Scalar × Datum) : Option (String × String) :=
  (environmentOf.textual? e).bind fun kv => (writePair kv).toOption

theorem textsOf?_eq_some_iff {e : Scalar × Datum} {k v : String} :
    textsOf? e = some (k, v) ↔ Sets e k v := by
  unfold textsOf?
  rw [Option.bind_eq_some_iff]
  constructor
  · rintro ⟨⟨key, value⟩, hkv, htexts⟩
    obtain ⟨rfl, hv⟩ := textual?_eq_some_iff.1 hkv
    cases hw : writePair (key, value) with
    | error f =>
      rw [hw] at htexts
      cases htexts
    | ok texts =>
      rw [hw] at htexts
      cases htexts
      obtain ⟨hkey, hvalue⟩ := writePair_eq_ok_iff.1 hw
      exact .intro hv hkey hvalue
  · rintro ⟨htextual, hkey, hvalue⟩
    refine ⟨_, textual?_eq_some_iff.2 ⟨rfl, htextual⟩, ?_⟩
    rw [writePair_eq_ok_iff.2 ⟨hkey, hvalue⟩]
    rfl

theorem lookup_texts_eq_some_iff {es : List (Scalar × Datum)} {k v : String} :
    (es.filterMap textsOf?).reverse.lookup k = some v ↔ LastSets es k v := by
  rw [List.lookup_eq_some_iff]
  constructor
  · rintro ⟨l₁, l₂, hsplit, hlast⟩
    -- in the order of the document, `l₂` comes before the entry and `l₁` after it
    have htexts : es.filterMap textsOf? = l₂.reverse ++ (k, v) :: l₁.reverse := by
      rw [← List.reverse_reverse (es.filterMap textsOf?), hsplit, List.reverse_append,
        List.reverse_cons, List.append_assoc, List.singleton_append]
    obtain ⟨before, rest, rfl, -, hrest⟩ := List.filterMap_eq_append_iff.1 htexts
    obtain ⟨skipped, e, after, rfl, -, he, hafter⟩ := List.filterMap_eq_cons_iff.1 hrest
    refine ⟨before ++ skipped, e, after, by simp, textsOf?_eq_some_iff.1 he, fun e' he' v' h => ?_⟩
    have hmem : (k, v') ∈ l₁.reverse :=
      hafter ▸ List.mem_filterMap.2 ⟨e', he', textsOf?_eq_some_iff.2 h⟩
    simpa using hlast _ (List.mem_reverse.1 hmem)
  · rintro ⟨before, e, after, rfl, he, hafter⟩
    refine ⟨(after.filterMap textsOf?).reverse, (before.filterMap textsOf?).reverse, ?_, ?_⟩
    · simp [List.filterMap_append, textsOf?_eq_some_iff.2 he]
    · rintro ⟨k', v'⟩ hmem
      obtain ⟨e', he', htexts⟩ := List.mem_filterMap.1 (List.mem_reverse.1 hmem)
      rw [bne_iff_ne]
      rintro rfl
      exact hafter e' he' v' (textsOf?_eq_some_iff.1 htexts)

theorem lookup_texts_eq_none_iff {es : List (Scalar × Datum)} {k : String} :
    (es.filterMap textsOf?).reverse.lookup k = none ↔ ∀ e ∈ es, ∀ v, ¬Sets e k v := by
  rw [List.lookup_eq_none_iff]
  constructor
  · intro h e he v hsets
    have hmem : (k, v) ∈ es.filterMap textsOf? :=
      List.mem_filterMap.2 ⟨e, he, textsOf?_eq_some_iff.2 hsets⟩
    simpa using h _ (List.mem_reverse.2 hmem)
  · rintro h ⟨k', v⟩ hmem
    obtain ⟨e, he, htexts⟩ := List.mem_filterMap.1 (List.mem_reverse.1 hmem)
    rw [bne_iff_ne]
    rintro rfl
    exact h e he v (textsOf?_eq_some_iff.1 htexts)

theorem get?_environmentOf {d : Datum} {environment : Environment}
    (h : environmentOf d = .ok environment) (k : String) :
    environment.get? k = (d.entries.filterMap textsOf?).reverse.lookup k := by
  have heq : environmentOf d = (d.entries.filterMap environmentOf.textual?).mapM writePair >>=
      fun pairs => .ok (.ofPairs pairs) := rfl
  rw [heq] at h
  obtain ⟨pairs, hpairs, h⟩ := bind_eq_ok_iff.1 h
  cases h
  rw [OrderedMap.get?_ofPairs, ← filterMap_toOption_of_mapM hpairs, List.filterMap_filterMap]
  rfl

/-- The entries that a source has for variables. -/
def Source.variables : Source → List (Scalar × Datum)
  | .document _ d => (variablesOf d).entries
  | _ => []

/-- Settled settings have the variables of their source; the environment changes nothing about
them. -/
theorem get?_environment_of_settle {resolve : Resolver} {source : Source} {environ : Environment}
    {s : Settings} (h : settle resolve source environ = .ok s) (k : String) :
    s.execution.environment.get? k =
      (source.variables.filterMap textsOf?).reverse.lookup k := by
  obtain ⟨base, hbase, hover⟩ := settle_eq_ok_iff.1 h
  rw [(overrides_of_overrideWith hover).environment]
  cases source with
  | nothing =>
    cases hbase
    rfl
  | missing directory =>
    cases hbase
    rfl
  | document root d => exact get?_environmentOf (parts_of_ofDatum hbase).2 k

end Settings

/-! ## Launches -/

/-- The value of a variable in a command that is launched. Without an environment of its own it has
that of the program. -/
def Launch.value? (environ : Environment) (l : Launch) (k : String) : Option String :=
  (l.environment.getD environ).get? k

/-- The launcher with a record of what it was asked to launch. -/
def Launcher.recorded {σ : Type} (launcher : Launcher σ) : Launcher (σ × List Launch) :=
  fun l (world, past) =>
    let (outcome, world) := launcher l world
    (outcome, (world, past ++ [l]))

theorem Execution.value?_launchOf (environ : Environment) (r : ExecutionRequest) (k : String) :
    (launchOf environ r).value? environ k =
      (r.settings.environment.get? k).or (environ.get? k) := by
  unfold launchOf Launch.value?
  dsimp only
  split
  · next h => rw [OrderedMap.get?_of_isEmpty h]; rfl
  · rw [Option.getD_some, OrderedMap.get?_overlay]

theorem Execution.launches_run {σ : Type} {environ : Environment} {launcher : Launcher σ}
    {r : ExecutionRequest} {world : σ} {l : Launch}
    (h : l ∈ (run environ launcher.recorded r (world, [])).state.2) : l = launchOf environ r := by
  unfold run at h
  split at h
  · cases h
  · exact List.mem_singleton.1 h

namespace Tool

/-- What a call launches is made of its own execution settings. -/
theorem launches_call {σ : Type} {stack : Stack} {t : Tool} {environ : Environment}
    {launcher : Launcher σ} {args : Arguments} {world : σ} {l : Launch}
    (h : l ∈ (t.call stack (executor environ launcher.recorded) args (world, [])).state.2) :
    ∃ argv, t.template.render stack args = .ok argv ∧
      l = Execution.launchOf environ ⟨argv, t.execution⟩ := by
  cases fate stack t args with
  | unlogged hlog =>
    rw [call_of_unlogged hlog] at h
    cases h
  | refused hlog hr =>
    rw [(call_of_refused hlog hr _ _).2] at h
    cases h
  | unwritten hlog hr =>
    rw [(call_of_fault hlog hr _ _).2] at h
    cases h
  | @rendered _ argv hlog hr =>
    rw [(call_of_ok hlog hr _ _).2] at h
    exact ⟨argv, hr, Execution.launches_run h⟩

/-- Whatever a call launches, and with whatever arguments, a variable that the settings set has the
value that the last entry gives to it, and every other variable the value that it has in the
environment of the program, or none. -/
theorem value?_of_launch {resolve : Resolver} {source : Settings.Source}
    {environ₀ : Environment} {s : Settings}
    (settled : Settings.settle resolve source environ₀ = .ok s) {σ : Type} (stack : Stack)
    (template : Template) (args : Arguments) (environ : Environment) (launcher : Launcher σ)
    (world : σ) :
    ∀ l ∈ (call stack ⟨template, s.execution⟩ (executor environ launcher.recorded) args
        (world, [])).state.2, ∀ k,
      (∀ v, Settings.LastSets source.variables k v → l.value? environ k = some v) ∧
      ((∀ e ∈ source.variables, ∀ v, ¬Settings.Sets e k v) →
        l.value? environ k = environ.get? k) := by
  intro l hl k
  obtain ⟨argv, -, rfl⟩ := launches_call hl
  rw [Execution.value?_launchOf]
  show (∀ v, _ → (s.execution.environment.get? k).or _ = some v) ∧
    (_ → (s.execution.environment.get? k).or _ = _)
  rw [Settings.get?_environment_of_settle settled]
  constructor
  · intro v hv
    rw [Settings.lookup_texts_eq_some_iff.2 hv]
    rfl
  · intro hnone
    rw [Settings.lookup_texts_eq_none_iff.2 hnone]
    rfl

/-- Entries that set a variable under a boolean and again under its text, and another one to
nothing. -/
def repeatedVariable : List (Scalar × Datum) :=
  [(.bool true, .scalar (.text "a")), (.text "HOME", .scalar .null),
    (.text "True", .scalar (.bool false))]

def repeatedDocument : Datum :=
  .mapping [(.text "execution", .mapping [(.text "env", .mapping repeatedVariable)])]

/-- An environment with both variables. -/
def homeEnviron : Environment := .ofPairs [("True", "b"), ("HOME", "/root")]

/-- Counts the commands that it launches. -/
def countingLauncher : Launcher Nat := fun _ n => (.completed none none 0, n + 1)

theorem value?_of_launch_repeated :
    ∃ s, Settings.settle Settings.asWritten (.document Settings.topRoot repeatedDocument) .empty =
        .ok s ∧
      ∃ l ∈ (call .usual ⟨⟨"env", []⟩, s.execution⟩
          (executor homeEnviron countingLauncher.recorded) .empty (0, [])).state.2,
        l.value? homeEnviron "True" = some "False" ∧
          l.value? homeEnviron "HOME" = some "/root" := by
  have hread : Settings.EarlyReading repeatedDocument none none none := ⟨rfl, rfl, rfl⟩
  have settled : Settings.settle Settings.asWritten
      (.document Settings.topRoot repeatedDocument) .empty = .ok
        { root := some Settings.topRoot
          execution := ⟨none, none, .ofPairs [("True", "False")]⟩ } :=
    Settings.settle_eq_ok_iff.2
      ⟨_, hread.ofDatum_eq.trans rfl, Settings.overrideWith_of_none rfl⟩
  have hlast : Settings.LastSets repeatedVariable "True" "False" :=
    Settings.lookup_texts_eq_some_iff.1 (by decide)
  have hnone : ∀ e ∈ repeatedVariable, ∀ v, ¬Settings.Sets e "HOME" v :=
    Settings.lookup_texts_eq_none_iff.1 (by decide)
  have hlaunched := value?_of_launch settled .usual ⟨"env", []⟩ .empty homeEnviron
    countingLauncher 0 _ List.mem_cons_self
  exact ⟨_, settled, _, List.mem_cons_self, (hlaunched "True").1 _ hlast,
    (hlaunched "HOME").2 hnone⟩

end Tool

end CommandServer
