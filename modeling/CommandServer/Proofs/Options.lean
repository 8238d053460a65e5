/-
Reading the command line. Flags in front of the command belong to the program, and the command with
all that follows it stays as it is written. One kind of argument behind the command is in the way of
that: a value that an equals sign gives to an option without a name. It could be meant for each of
the long options, and is refused wherever it stands, unless two dashes come before it.
-/
import CommandServer.Options
import Mathlib.Data.List.Nodup

namespace CommandServer

/-! ## Single arguments -/

namespace Argument

/-- A value that two dashes and an equals sign give to an option without a name. -/
def isNameless (w : String) : Bool := w.startsWith "--="

/-- The long names, each of which such an argument may be short for. -/
def longNames : List String := ["--help", "--debug", "--config", "--version"]

theorem isNameless_iff {w : String} : isNameless w = true ↔ ∃ r, w.toList = '-' :: '-' :: '=' :: r := by
  unfold isNameless
  rw [String.startsWith_string_iff]
  exact ⟨fun ⟨r, h⟩ => ⟨r, h.symm⟩, fun ⟨r, h⟩ => ⟨r, h.symm⟩⟩

theorem getElem?_toList_of_startsWith {n name : String} {i : Nat} {a : Char}
    (h : n.startsWith name = true) (ha : name.toList[i]? = some a) : n.toList[i]? = some a := by
  obtain ⟨r, hr⟩ := String.startsWith_string_iff.1 h
  rw [← hr, List.getElem?_append_left (List.getElem?_eq_some_iff.1 ha).1, ha]

/-- No two names have the same letter behind two dashes. -/
theorem countP_letter_le_one (a : Char) :
    Switch.table.countP (fun e => e.1.toList[2]? == some a) ≤ 1 := by
  have hnodup : (Switch.table.map fun e => e.1.toList[2]?).Nodup := by decide
  have hcount := List.nodup_iff_count_le_one.1 hnodup (some a)
  rwa [List.count, List.countP_map] at hcount

/-- What has a letter behind two dashes is short for one name at most. -/
theorem length_candidates_of_long {a : Char} (h : a ≠ '=') (r : List Char) :
    (candidates ('-' :: '-' :: a :: r)).length ≤ 1 := by
  have hname : (splitValue ('-' :: '-' :: a :: r)).1.toList[2]? = some a := by
    simp [splitValue, h]
  calc (candidates ('-' :: '-' :: a :: r)).length
      = Switch.table.countP fun e => e.1.startsWith (splitValue ('-' :: '-' :: a :: r)).1 := by
        rw [candidates, List.length_map, List.countP_eq_length_filter]
    _ ≤ Switch.table.countP fun e => e.1.toList[2]? == some a :=
        List.countP_mono_left fun e _ he =>
          beq_iff_eq.2 (getElem?_toList_of_startsWith he hname)
    _ ≤ 1 := countP_letter_le_one a

/-- All names but one have a second dash, and so no letter right behind the first. -/
theorem countP_short_le_one {c : Char} (h : c ≠ '-') :
    Switch.table.countP (fun e => e.1.toList[1]? == some c) ≤ 1 := by
  have hmap : (Switch.table.map fun e => e.1.toList[1]?) = some 'h' :: .replicate 4 (some '-') := by
    decide
  have hcount : Switch.table.countP (fun e => e.1.toList[1]? == some c) =
      (Switch.table.map fun e => e.1.toList[1]?).count (some c) := by
    rw [List.count, List.countP_map]
    rfl
  rw [hcount, hmap, List.count_cons, List.count_replicate, if_neg (by simpa using h.symm)]
  split
  · exact Nat.le_refl 1
  · exact Nat.zero_le 1

/-- What has a letter behind one dash is short for one name at most. -/
theorem length_candidates_of_short {c : Char} (h : c ≠ '-') (r : List Char) :
    (candidates ('-' :: c :: r)).length ≤ 1 := by
  rw [candidates, List.length_filterMap_eq_countP]
  · refine Nat.le_trans (List.countP_mono_left fun e _ he => ?_) (countP_short_le_one h)
    rw [beq_iff_eq]
    obtain ⟨n, s⟩ := e
    dsimp only at he ⊢
    split at he
    · next hn => rw [hn, String.toList_ofList]; rfl
    · split at he
      · next hn => exact getElem?_toList_of_startsWith hn (by rw [String.toList_ofList]; rfl)
      · cases he
  · exact fun hc => h hc

theorem names_candidates_of_nameless (r : List Char) :
    (candidates ('-' :: '-' :: '=' :: r)).map (·.1) = longNames := by
  have hname : (splitValue ('-' :: '-' :: '=' :: r)).1 = "--" := by
    simp [splitValue]
  have hfilter : (Switch.table.filter fun e => e.1.startsWith "--").map (·.1) = longNames := by
    decide +kernel
  rw [candidates, List.map_map, hname]
  exact hfilter

theorem length_candidates_le_one {w : String} (hdashes : w ≠ "--") (h : isNameless w = false) :
    (candidates w.toList).length ≤ 1 := by
  have hnameless : ∀ r, w.toList ≠ '-' :: '-' :: '=' :: r := fun r hr => by
    simp [isNameless_iff.2 ⟨r, hr⟩] at h
  cases hw : w.toList with
  | nil => exact Nat.zero_le 1
  | cons c cs =>
    by_cases hc : c = '-'
    · subst hc
      cases cs with
      | nil => exact Nat.zero_le 1
      | cons c cs =>
        by_cases hc : c = '-'
        · subst hc
          cases cs with
          | nil => exact absurd (String.toList_inj.1 hw) hdashes
          | cons a cs =>
            refine length_candidates_of_long (fun ha => hnameless cs ?_) cs
            rw [hw, ha]
        · exact length_candidates_of_short hc cs
    · have hnone : candidates (c :: cs) = [] := by
        unfold candidates
        split
        · next heq => exact absurd (List.cons.inj heq).1 hc
        · next heq => exact absurd (List.cons.inj heq).1 hc
        · rfl
      rw [hnone]
      exact Nat.zero_le 1

/-! ## Refused arguments -/

theorem exists_ofShortened {w : String} (h : (candidates w.toList).length ≤ 1) :
    ∃ a, ofShortened w = .ok a := by
  unfold ofShortened
  dsimp only
  cases hc : candidates w.toList with
  | nil => exact ⟨_, rfl⟩
  | cons e es =>
    cases es with
    | nil => exact ⟨_, rfl⟩
    | cons e' es => simp [hc] at h

/-- Any other argument is something, be it a switch, an operand or unknown. -/
theorem exists_ofString {w : String} (hdashes : w ≠ "--") (h : isNameless w = false) :
    ∃ a, ofString w = .ok a := by
  have hshortened := exists_ofShortened (length_candidates_le_one hdashes h)
  unfold ofString
  dsimp only
  split
  · exact ⟨_, rfl⟩
  · split
    · exact ⟨_, rfl⟩
    · split
      · split
        · exact ⟨_, rfl⟩
        · exact hshortened
      · exact hshortened

theorem ofShortened_of_isNameless {w : String} (h : isNameless w = true) :
    ofShortened w = .error (.ambiguous w longNames) := by
  obtain ⟨r, hr⟩ := isNameless_iff.1 h
  have hnames := names_candidates_of_nameless r
  unfold ofShortened
  rw [hr, ← hnames]
  dsimp only
  cases hc : candidates ('-' :: '-' :: '=' :: r) with
  | nil => simp [hc, longNames] at hnames
  | cons e es =>
    cases es with
    | nil => simp [hc, longNames] at hnames
    | cons e' es => rfl

theorem ofString_of_isNameless {w : String} (h : isNameless w = true) :
    ofString w = .error (.ambiguous w longNames) := by
  obtain ⟨r, hr⟩ := isNameless_iff.1 h
  have hnames : ∀ e ∈ Switch.table, isNameless e.1 = false := by decide +kernel
  have hlookup : Switch.table.lookup w = none := by
    rw [List.lookup_eq_none_iff]
    intro e he
    rw [bne_iff_ne]
    rintro rfl
    rw [hnames e he] at h
    cases h
  have hsplit : splitValue w.toList = ("--", some (String.ofList r)) := by
    simp [splitValue, hr]
  unfold ofString
  rw [if_neg (by simp [hr]), hlookup, hsplit]
  exact ofShortened_of_isNameless h

end Argument

namespace Options

/-! ## Classification -/

/-- The first argument without two dashes before it that gives a value to an option without a
name. -/
def nameless? (ws : List String) : Option String :=
  (ws.takeWhile (· != "--")).find? Argument.isNameless

theorem classify_of_nameless?_eq_none {ws : List String} (h : nameless? ws = none) :
    ∃ as, classify ws = .ok as ∧ as.map Prod.fst = ws := by
  induction ws with
  | nil => exact ⟨[], rfl, rfl⟩
  | cons w ws ih =>
    unfold classify
    split
    · refine ⟨_, rfl, ?_⟩
      rw [List.map_map]
      exact List.map_id _
    · next hdashes =>
      rw [nameless?, List.takeWhile_cons_of_pos (by simpa using hdashes), List.find?_cons] at h
      split at h
      · cases h
      · next hnameless =>
        obtain ⟨a, ha⟩ := Argument.exists_ofString hdashes hnameless
        obtain ⟨as, has, hwords⟩ := ih h
        rw [ha, has]
        exact ⟨(w, a) :: as, rfl, congrArg (w :: ·) hwords⟩

theorem classify_of_nameless?_eq_some {ws : List String} {w : String} (h : nameless? ws = some w) :
    classify ws = .error (.ambiguous w Argument.longNames) := by
  induction ws with
  | nil => cases h
  | cons w' ws ih =>
    unfold classify
    split
    · next hdashes =>
      rw [nameless?, List.takeWhile_cons_of_neg (by simpa using hdashes)] at h
      cases h
    · next hdashes =>
      rw [nameless?, List.takeWhile_cons_of_pos (by simpa using hdashes), List.find?_cons] at h
      split at h
      · next hnameless =>
        cases h
        rw [Argument.ofString_of_isNameless hnameless]
        rfl
      · next hnameless =>
        obtain ⟨a, ha⟩ := Argument.exists_ofString hdashes hnameless
        rw [ha, ih h]
        rfl

/-! ## Flags and the command -/

/-- A flag of the program in front of the command. -/
inductive Flag where
  | debug
  | config (path : String)
  deriving DecidableEq

namespace Flag

def words : Flag → List String
  | debug => ["--debug"]
  | config path => ["--config", path]

def path? : Flag → Option String
  | debug => none
  | config path => some path

/-- A path that starts with a dash would be an argument of its own. -/
def IsPlain (f : Flag) : Prop := ∀ path, f = config path → path.toList.head? ≠ some '-'

/-- The words with what they are. -/
def classified : Flag → List (String × Argument)
  | debug => [("--debug", .switch .debug true none)]
  | config path => [("--config", .switch .config true none), (path, .operand)]

/-- The options with the flag taken. -/
def apply (o : Options) : Flag → Options
  | debug => { o with debug := true }
  | config path => { o with config := some (.ofString path) }

end Flag

theorem ofString_of_operand {w : String} (h : w.toList.head? ≠ some '-') :
    Argument.ofString w = .ok .operand := by
  unfold Argument.ofString
  rw [if_pos (.inl h)]

theorem ne_dashes_of_operand {w : String} (h : w.toList.head? ≠ some '-') : w ≠ "--" := by
  rintro rfl
  exact h rfl

theorem classify_cons {w : String} {a : Argument} (hdashes : w ≠ "--")
    (h : Argument.ofString w = .ok a) (ws : List String) :
    classify (w :: ws) = (classify ws).map ((w, a) :: ·) := by
  rw [classify, if_neg hdashes, h]
  rfl

theorem classify_words {f : Flag} (h : f.IsPlain) (ws : List String) :
    classify (f.words ++ ws) = (classify ws).map (f.classified ++ ·) := by
  cases f with
  | debug => exact classify_cons (by decide) (by decide +kernel) ws
  | config path =>
    have hpath := h path rfl
    have hconfig : Argument.ofString "--config" = .ok (.switch .config true none) := by decide +kernel
    rw [Flag.words, List.cons_append, classify_cons (by decide) hconfig, List.cons_append,
      classify_cons (ne_dashes_of_operand hpath) (ofString_of_operand hpath), List.nil_append]
    cases classify ws with
    | error e => rfl
    | ok as => rfl

theorem classify_flags {flags : List Flag} (h : ∀ f ∈ flags, f.IsPlain) (ws : List String) :
    classify (flags.flatMap Flag.words ++ ws) =
      (classify ws).map (flags.flatMap Flag.classified ++ ·) := by
  induction flags with
  | nil =>
    show classify ws = _
    cases classify ws with
    | error e => rfl
    | ok as => rfl
  | cons f flags ih =>
    rw [List.flatMap_cons, List.append_assoc, classify_words (h f List.mem_cons_self),
      ih fun f hf => h f (List.mem_cons_of_mem _ hf)]
    cases classify ws with
    | error e => rfl
    | ok as => simp [Except.map]

theorem take_classified {f : Flag} (h : f.IsPlain) (o : Options) (as : List (String × Argument)) :
    take o [] (f.classified ++ as) = take (f.apply o) [] as := by
  cases f with
  | debug => rfl
  | config path =>
    have hpath := h path rfl
    show take o [] ((_, .switch .config _ none) :: (path, .operand) :: as) = _
    rw [take, if_neg (ne_dashes_of_operand hpath)]
    rfl

theorem take_flags {flags : List Flag} (h : ∀ f ∈ flags, f.IsPlain) (o : Options)
    (as : List (String × Argument)) :
    take o [] (flags.flatMap Flag.classified ++ as) = take (flags.foldl Flag.apply o) [] as := by
  induction flags generalizing o with
  | nil => rfl
  | cons f flags ih =>
    rw [List.flatMap_cons, List.append_assoc, take_classified (h f List.mem_cons_self),
      ih fun f hf => h f (List.mem_cons_of_mem _ hf), List.foldl_cons]

/-- Flags that are taken switch diagnosis on if one of them says so, and the last path counts. -/
theorem foldl_apply (flags : List Flag) (o : Options) :
    flags.foldl Flag.apply o =
      { o with
        debug := o.debug || decide (.debug ∈ flags)
        config := ((flags.filterMap Flag.path?).getLast?.map Path.ofString).or o.config } := by
  induction flags generalizing o with
  | nil => simp
  | cons f flags ih =>
    rw [List.foldl_cons, ih]
    cases f with
    | debug => simp [Flag.apply, Flag.path?]
    | config path =>
      simp only [Flag.apply, List.mem_cons, reduceCtorEq, false_or, List.filterMap_cons, Flag.path?,
        List.getLast?_cons]
      cases (flags.filterMap Flag.path?).getLast? with
      | none => rfl
      | some last => rfl

/-- Flags of the program come first, and the command with all that follows it is kept as it is
written: in this way a command line is read, unless an argument behind the command gives a value to
an option without a name and no two dashes stand before it. Then the command line is refused for
this argument. -/
theorem parse_flags {flags : List Flag} (plain : ∀ f ∈ flags, f.IsPlain) {command : String}
    (hcommand : command.toList.head? ≠ some '-') (rest : List String) :
    (nameless? rest = none →
      parse (flags.flatMap Flag.words ++ command :: rest) = .ok (.run
        { debug := decide (.debug ∈ flags)
          config := (flags.filterMap Flag.path?).getLast?.map Path.ofString
          command := command :: rest })) ∧
    ∀ w, nameless? rest = some w →
      parse (flags.flatMap Flag.words ++ command :: rest) =
        .error (.ambiguous w ["--help", "--debug", "--config", "--version"]) := by
  have hclassify : classify (flags.flatMap Flag.words ++ command :: rest) =
      (classify rest).map (flags.flatMap Flag.classified ++ (command, .operand) :: ·) := by
    rw [classify_flags plain, classify_cons (ne_dashes_of_operand hcommand)
      (ofString_of_operand hcommand)]
    cases classify rest with
    | error e => rfl
    | ok as => rfl
  unfold parse
  rw [hclassify]
  constructor
  · intro h
    obtain ⟨as, has, hwords⟩ := classify_of_nameless?_eq_none h
    rw [has]
    show take {} [] (flags.flatMap Flag.classified ++ (command, .operand) :: as) = _
    rw [take_flags plain, foldl_apply, take, hwords]
    simp [take.finish]
  · intro w h
    rw [classify_of_nameless?_eq_some h]
    rfl

theorem parse_flags_ls :
    (∀ f ∈ [Flag.debug, .config "a", .config "b"], f.IsPlain) ∧ "ls".toList.head? ≠ some '-' ∧
      (nameless? ["--debug", "", "--", "--=x"] = none ∧
        parse ["--debug", "--config", "a", "--config", "b", "ls", "--debug", "", "--", "--=x"] =
          .ok (.run ⟨true, some (.ofString "b"), ["ls", "--debug", "", "--", "--=x"]⟩)) ∧
      nameless? ["-h", "--=x", "--"] = some "--=x" ∧
        parse ["--debug", "--config", "a", "--config", "b", "ls", "-h", "--=x", "--"] =
          .error (.ambiguous "--=x" ["--help", "--debug", "--config", "--version"]) := by
  have plain : ∀ f ∈ [Flag.debug, .config "a", .config "b"], f.IsPlain := by
    simp [Flag.IsPlain]
  have hcommand : "ls".toList.head? ≠ some '-' := by decide
  have hnone : nameless? ["--debug", "", "--", "--=x"] = none := by decide +kernel
  have hsome : nameless? ["-h", "--=x", "--"] = some "--=x" := by decide +kernel
  exact ⟨plain, hcommand, ⟨hnone, (parse_flags plain hcommand _).1 hnone⟩, hsome,
    (parse_flags plain hcommand _).2 _ hsome⟩

/-- An argument of the command is refused as an option of the program. -/
theorem parse_of_nameless_argument :
    parse ["echo", "--=x"] =
      .error (.ambiguous "--=x" ["--help", "--debug", "--config", "--version"]) := by
  decide +kernel

end Options

end CommandServer
