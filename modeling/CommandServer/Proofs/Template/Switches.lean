/-
Words made of switches alone. Only the boolean itself turns a switch on. If some switch of the word is
on, the word becomes one argument, the switches that are on in their order, and this argument is
never empty. If none is on, a word of one switch contributes nothing, and so does a longer one when
no value for its switches has anything to show; with such a value, which turns no switch on but keeps
the word, a longer word contributes an empty argument.
-/
import CommandServer.Proofs.Template.Words
import CommandServer.Proofs.Template.Written

namespace CommandServer.Template

/-! ## Switches that are on -/

/-- The switches that are turned on. -/
def turnedOn (args : Arguments) (fs : List Field) : List Field :=
  fs.filter fun f => (args.lookup? f.name).any Value.isTrue

/-- Some value for the fields has anything to show. -/
def SomeMeaningful (args : Arguments) (fs : List Field) : Prop :=
  ∃ f ∈ fs, ∃ v, args.lookup? f.name = some v ∧ v.isMeaningful = true

variable {stack : Stack} {args : Arguments} {f : Field} {fs : List Field}

theorem isTrue_iff {v : Value} : v.isTrue = true ↔ v = .bool true := by
  cases v <;> simp [Value.isTrue]

theorem mem_turnedOn_iff :
    f ∈ turnedOn args fs ↔ f ∈ fs ∧ args.lookup? f.name = some (.bool true) := by
  unfold turnedOn
  rw [List.mem_filter]
  cases args.lookup? f.name <;> simp [isTrue_iff]

theorem someMeaningful_of_turnedOn (h : turnedOn args fs ≠ []) : SomeMeaningful args fs := by
  obtain ⟨f, hf⟩ := List.exists_mem_of_ne_nil _ h
  obtain ⟨hmem, hon⟩ := mem_turnedOn_iff.1 hf
  exact ⟨f, hmem, _, hon, rfl⟩

/-! ## The text of switches -/

theorem join_map_ite {α : Type} (p : α → Bool) (g : α → String) (l : List α) :
    String.join (l.map fun a => if p a then g a else "") = String.join ((l.filter p).map g) := by
  induction l with
  | nil => rfl
  | cons a l ih =>
    rw [List.map_cons, String.join_cons, ih, List.filter_cons]
    cases p a with
    | true => rw [if_pos rfl, if_pos rfl, List.map_cons, String.join_cons]
    | false => rw [if_neg Bool.false_ne_true, if_neg Bool.false_ne_true, String.empty_append]

theorem fieldText_of_isSwitch (h : f.isSwitch = true) :
    fieldText stack args f =
      .ok (if (args.lookup? f.name).any Value.isTrue then f.switchText else "") := by
  obtain ⟨dashes, hk⟩ := Field.isSwitch_iff.1 h
  unfold fieldText
  simp only [hk]

/-- A switch that is read from a word is not empty: it has a name. -/
theorem switchText_ne_empty_of_mem {word : String} (hf : .field f ∈ tokenize word)
    (h : f.isSwitch = true) : f.switchText ≠ "" := by
  obtain ⟨b, content, hparse⟩ := exists_parse?_of_mem_tokenize hf
  have hname : Field.IsName f.name.toList := (Field.isWellFormed_of_parse? hparse).name
  obtain ⟨dashes, hk⟩ := Field.isSwitch_iff.1 h
  intro hempty
  rw [Field.switchText, hk, ← String.toList_inj, String.toList_ofList] at hempty
  rw [(List.append_eq_nil_iff.1 hempty).2] at hname
  exact hname

theorem join_ne_empty {ss : List String} (hne : ss ≠ []) (h : ∀ s ∈ ss, s ≠ "") :
    String.join ss ≠ "" := by
  obtain ⟨s, hs⟩ := List.exists_mem_of_ne_nil _ hne
  intro hempty
  rw [← String.toList_inj, String.toList_join] at hempty
  exact h s hs (String.toList_inj.1 (List.flatMap_eq_nil_iff.1 hempty s hs))

/-! ## Words -/

section Switches

variable (hswitch : ∀ f ∈ fs, f.isSwitch = true)
include hswitch

theorem joined_switches :
    joined stack args (fs.map .field) =
      .ok [String.join ((turnedOn args fs).map Field.switchText)] := by
  have htexts : (fs.map Token.field).mapM (tokenText stack args) =
      .ok (fs.map fun f => if (args.lookup? f.name).any Value.isTrue then f.switchText else "") := by
    rw [mapM_eq_ok_iff, List.forall₂_map_left_iff, List.forall₂_map_right_iff, List.forall₂_same]
    exact fun f hf => fieldText_of_isSwitch (hswitch f hf)
  rw [joined, htexts, Except.map, join_map_ite]
  rfl

/-- A word of switches vanishes when no value for them has anything to show. -/
theorem vanishes_switches_iff :
    vanishes args (fs.map .field) = true ↔ ¬SomeMeaningful args fs := by
  unfold vanishes SomeMeaningful
  rw [List.all_map, List.all_eq_true]
  constructor
  · rintro h ⟨f, hf, v, hv, hm⟩
    have := h f hf
    simp [hv, hm] at this
  · intro h f hf
    obtain ⟨dashes, hk⟩ := Field.isSwitch_iff.1 (hswitch f hf)
    cases hv : args.lookup? f.name with
    | none => simp [Field.isRequired, hk, hv]
    | some v =>
      cases hm : v.isMeaningful with
      | true => exact absurd ⟨f, hf, v, hv, hm⟩ h
      | false => simp [Field.isRequired, hk, hv, hm]

end Switches

/-- What a word of switches contributes: the switches that are on, as one argument, or else nothing,
or else an empty argument. -/
inductive SwitchesYield (args : Arguments) (fs : List Field) : List String → Prop
  | on (h : turnedOn args fs ≠ []) :
    SwitchesYield args fs [String.join ((turnedOn args fs).map Field.switchText)]
  | off (h : turnedOn args fs = []) (h' : fs.length = 1 ∨ ¬SomeMeaningful args fs) :
    SwitchesYield args fs []
  | blank (h : turnedOn args fs = []) (hlength : 2 ≤ fs.length) (hsome : SomeMeaningful args fs) :
    SwitchesYield args fs [""]

theorem exists_switchesYield_single (h : f.isSwitch = true) :
    ∃ out, renderWord stack args [.field f] = .ok out ∧ SwitchesYield args [f] out := by
  obtain ⟨dashes, hk⟩ := Field.isSwitch_iff.1 h
  refine ⟨_, renderWord_switch hk, ?_⟩
  cases hon : (args.lookup? f.name).any Value.isTrue with
  | true =>
    have hturned : turnedOn args [f] = [f] := by simp [turnedOn, hon]
    have hyield : SwitchesYield args [f] _ := .on (by simp [hturned])
    simpa [hturned] using hyield
  | false => exact .off (by simp [turnedOn, hon]) (.inl rfl)

/-- Every word of switches contributes as the values of its switches say. -/
theorem exists_switchesYield (hswitch : ∀ f ∈ fs, f.isSwitch = true) (hne : fs ≠ []) :
    ∃ out, renderWord stack args (fs.map .field) = .ok out ∧ SwitchesYield args fs out := by
  by_cases hsingle : ∃ f, fs = [f]
  · obtain ⟨f, rfl⟩ := hsingle
    exact exists_switchesYield_single (hswitch f (List.mem_singleton_self f))
  · have hlength : 2 ≤ fs.length := by
      match fs, hne, hsingle with
      | [f], _, hsingle => exact absurd ⟨f, rfl⟩ hsingle
      | _ :: _ :: _, _, _ => simp
    cases hv : vanishes args (fs.map .field) with
    | true =>
      have hnone := (vanishes_switches_iff hswitch).1 hv
      refine ⟨[], renderWord_of_vanishes hv, .off (by_contra fun hon => ?_) (.inr hnone)⟩
      exact hnone (someMeaningful_of_turnedOn hon)
    | false =>
      have hsome : SomeMeaningful args fs := by
        by_contra hnone
        rw [(vanishes_switches_iff hswitch).2 hnone] at hv
        cases hv
      have hno : ∀ f, fs.map Token.field ≠ [.field f] := by
        intro f hf
        obtain ⟨g, rfl, -⟩ := List.map_eq_singleton_iff.1 hf
        exact hsingle ⟨g, rfl⟩
      refine ⟨_, (renderWord_of_not_single hv hno).trans (joined_switches hswitch), ?_⟩
      by_cases hon : turnedOn args fs = []
      · rw [hon]
        exact .blank hon hlength hsome
      · exact .on hon

theorem SwitchesYield.empty_mem_iff {out : List String} (h : SwitchesYield args fs out)
    (htext : ∀ f ∈ fs, f.switchText ≠ "") :
    "" ∈ out ↔ turnedOn args fs = [] ∧ 2 ≤ fs.length ∧ SomeMeaningful args fs := by
  cases h with
  | on hon =>
    have hjoin : String.join ((turnedOn args fs).map Field.switchText) ≠ "" := by
      refine join_ne_empty (fun hnil => hon (List.map_eq_nil_iff.1 hnil)) fun s hs => ?_
      obtain ⟨f, hf, rfl⟩ := List.mem_map.1 hs
      exact htext f (mem_turnedOn_iff.1 hf).1
    simp [hon, Ne.symm hjoin]
  | off hoff h =>
    rcases h with hone | hnone
    · simp [hone]
    · simp [hnone]
  | blank hoff hlength hsome => simp [hoff, hlength, hsome]

/-- A word of switches becomes one argument, the switches that are on, if there are any, and this
argument is not empty. With none on it contributes nothing, but for one case: a word of two or more
switches for one of which there is a value with anything to show contributes an empty argument. -/
theorem renderWord_of_switches {word : String} {fs : List Field}
    (hword : tokenize word = fs.map .field) (hswitch : ∀ f ∈ fs, f.isSwitch = true)
    (stack : Stack) (args : Arguments) :
    ∃ out, renderWord stack args (tokenize word) = .ok out ∧ SwitchesYield args fs out ∧
      ("" ∈ out ↔ turnedOn args fs = [] ∧ 2 ≤ fs.length ∧ SomeMeaningful args fs) := by
  have hne : fs ≠ [] := by
    rintro rfl
    exact tokenize_ne_nil word hword
  have htext : ∀ f ∈ fs, f.switchText ≠ "" := by
    intro f hf
    have hmem : .field f ∈ tokenize word := hword ▸ List.mem_map_of_mem hf
    exact switchText_ne_empty_of_mem hmem (hswitch f hf)
  have hyield : ∃ out, renderWord stack args (fs.map .field) = .ok out ∧
      SwitchesYield args fs out := exists_switchesYield hswitch hne
  obtain ⟨out, hout, hyields⟩ := hyield
  rw [hword]
  exact ⟨out, hout, hyields, hyields.empty_mem_iff htext⟩

/-- The switches of the word `[-a][-b]`. -/
def twoSwitches : List Field :=
  [⟨"a", "Enable -a flag", .switch 1⟩, ⟨"b", "Enable -b flag", .switch 1⟩]

/-- With the second switch on, the word is this switch. -/
theorem renderWord_of_switches_two :
    (tokenize "[-a][-b]" = twoSwitches.map .field ∧ ∀ f ∈ twoSwitches, f.isSwitch = true) ∧
      ∀ stack : Stack,
        renderWord stack (.ofPairs [("b", .bool true)]) (tokenize "[-a][-b]") = .ok ["-b"] := by
  have hword : tokenize "[-a][-b]" = twoSwitches.map .field := by decide +kernel
  have hswitch : ∀ f ∈ twoSwitches, f.isSwitch = true := by decide
  refine ⟨⟨hword, hswitch⟩, fun stack => ?_⟩
  have hon : turnedOn (.ofPairs [("b", .bool true)]) twoSwitches =
    [⟨"b", "Enable -b flag", .switch 1⟩] := by decide +kernel
  obtain ⟨out, hout, hyields, -⟩ :=
    renderWord_of_switches hword hswitch stack (.ofPairs [("b", .bool true)])
  rw [hout]
  cases hyields with
  | on h =>
    rw [hon]
    rfl
  | off h | blank h =>
    rw [hon] at h
    cases h

/-- A text for one of two switches turns none of them on and still leaves an empty argument. -/
theorem renderWord_of_text_switch :
    tokenize "[-a][-b]" = twoSwitches.map .field ∧
      turnedOn (.ofPairs [("a", .text "x")]) twoSwitches = [] ∧
      renderWord .usual (.ofPairs [("a", .text "x")]) (tokenize "[-a][-b]") = .ok [""] := by
  exact ⟨by decide +kernel, by decide +kernel, by decide +kernel⟩

end CommandServer.Template
