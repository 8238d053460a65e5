/-
The advertised schema as a contract. Arguments that conform to it are always rendered, and each
field that is a word of its own, of the declared type, becomes the value that was supplied for it.
-/
import CommandServer.Proofs.Advertised
import CommandServer.Proofs.Template.Validation
import CommandServer.Proofs.Template.Words

namespace CommandServer.Template

/-! ## What a field makes of a value -/

/-- The arguments for a field that is a word of its own, by the value under its name: a text that
must be supplied stands for itself, one that may be left out does when it is not empty; an array
gives its texts, a switch itself when it is on. -/
inductive Field.Yields (f : Field) : Option Value → List String → Prop
  | required (s : String) (h : f.kind = .scalar true) : Yields f (some (.text s)) [s]
  | given (s : String) (h : f.kind = .scalar false) (hs : s ≠ "") : Yields f (some (.text s)) [s]
  | empty (h : f.kind = .scalar false) : Yields f (some (.text "")) []
  | missing (h : f.kind = .scalar false) : Yields f none []
  | array {required : Bool} {v : Value} (ss : List String) (h : f.kind = .array required)
    (hv : v.items? = some (ss.map .text)) : Yields f (some v) ss
  | on {dashes : Nat} (h : f.kind = .switch dashes) : Yields f (some (.bool true)) [f.switchText]
  | off {dashes : Nat} (h : f.kind = .switch dashes) : Yields f (some (.bool false)) []
  | unset {dashes : Nat} (h : f.kind = .switch dashes) : Yields f none []

section Conforming

variable {stack : Stack} {words : List (List Token)} {args : Arguments} {f : Field} {n : String}
  {v : Value}

theorem hasType_of_mem (h : Conforms (Schema.ofWords words).toValue args)
    (hv : (n, v) ∈ args.entries) :
    ∃ type, (Schema.ofWords words).typeOf? n = some type ∧ v.HasType type :=
  ((Schema.conforms_toValue_iff (Schema.nodup_names_ofFields _)).1 h).1 n v hv

theorem isSome_get?_of_required (h : Conforms (Schema.ofWords words).toValue args)
    (hn : n ∈ (Schema.ofWords words).required) : (args.get? n).isSome = true :=
  ((Schema.conforms_toValue_iff (Schema.nodup_names_ofFields _)).1 h).2 n hn

/-- Conforming arguments are found under normalized names only. -/
theorem lookup?_of_conforms (h : Conforms (Schema.ofWords words).toValue args) (n : String) :
    args.lookup? n = args.get? (normalizeName n) := by
  refine Arguments.lookup?_of_normalized (fun k v hv => ?_) n
  obtain ⟨type, ht, -⟩ := hasType_of_mem h (OrderedMap.mem_entries_of_get? hv)
  exact Schema.normalizeName_of_typeOf? ht

theorem isSupplied_of_hasType {type : PropertyType} (h : v.HasType type) :
    isSupplied (some v) = true := by
  cases h with
  | text s => rfl
  | bool b => rfl
  | array ss hi =>
    cases v with
    | null => cases hi
    | _ => rfl

/-- Conforming arguments are accepted. -/
theorem accepted_of_conforms (h : Conforms (Schema.ofWords words).toValue args) :
    Accepted (.ofWords words) args where
  supplied n hn := by
    obtain ⟨v, hv⟩ := Option.isSome_iff_exists.1 (isSome_get?_of_required h hn)
    obtain ⟨type, ht, hvt⟩ := hasType_of_mem h (OrderedMap.mem_entries_of_get? hv)
    rw [lookup?_of_conforms h, Schema.normalizeName_of_typeOf? ht, hv]
    exact isSupplied_of_hasType hvt
  arrays k v hkv ht := by
    obtain ⟨type, ht', hvt⟩ := hasType_of_mem h hkv
    rw [Schema.normalizeName_of_typeOf? ht'] at ht
    cases ht'.symm.trans ht
    cases hvt with
    | array ss hi => rw [hi]; rfl

/-- The value under the name of a field is of the type of the field, when that is the type of the
property. -/
theorem hasType_of_get?_field (h : Conforms (Schema.ofWords words).toValue args)
    (ht : (Schema.ofWords words).typeOf? f.normalizedName = some f.propertyType)
    (hv : args.get? f.normalizedName = some v) : v.HasType f.propertyType := by
  obtain ⟨type, ht', hvt⟩ := hasType_of_mem h (OrderedMap.mem_entries_of_get? hv)
  cases ht'.symm.trans ht
  exact hvt

/-- A field that demands a value finds one under its normalized name. -/
theorem exists_get?_of_demands (h : Conforms (Schema.ofWords words).toValue args)
    (hw : [.field f] ∈ words) (hd : f.demands = true)
    (ht : (Schema.ofWords words).typeOf? f.normalizedName = some f.propertyType)
    (hb : f.propertyType ≠ .boolean) :
    ∃ v, args.get? f.normalizedName = some v ∧ v.HasType f.propertyType := by
  have hne : (Schema.ofWords words).typeOf? f.normalizedName ≠ some .boolean := by
    rw [ht]
    exact fun heq => hb (Option.some.inj heq)
  have hreq := Schema.mem_required_ofWords hw (List.mem_cons_self ..) hd hne
  obtain ⟨v, hv⟩ := Option.isSome_iff_exists.1 (isSome_get?_of_required h hreq)
  exact ⟨v, hv, hasType_of_get?_field h ht hv⟩

theorem lookup?_name_of_conforms (h : Conforms (Schema.ofWords words).toValue args) :
    args.lookup? f.name = args.get? f.normalizedName :=
  lookup?_of_conforms h f.name

theorem yields_of_scalar {required : Bool} (h : Conforms (Schema.ofWords words).toValue args)
    (hw : [.field f] ∈ words) (hk : f.kind = .scalar required)
    (ht : (Schema.ofWords words).typeOf? f.normalizedName = some f.propertyType) :
    ∃ out, renderWord stack args [.field f] = .ok out ∧
      f.Yields (args.get? f.normalizedName) out := by
  have htype : f.propertyType = .string := by rw [Field.propertyType, hk]
  rw [renderWord_scalar hk, lookup?_name_of_conforms h]
  cases required with
  | true =>
    -- the value is there even if it is the empty text, and that text is passed on
    obtain ⟨v, hv, hvt⟩ := exists_get?_of_demands h hw (by rw [Field.demands, hk]) ht
      (by rw [htype]; decide)
    rw [htype] at hvt
    cases hvt with
    | text s =>
      rw [hv]
      exact ⟨[s], by simp [Option.filter, bind, Except.bind, pure, Except.pure], .required s hk⟩
  | false =>
    cases hv : args.get? f.normalizedName with
    | none => exact ⟨[], rfl, .missing hk⟩
    | some v =>
      have hvt := hasType_of_get?_field h ht hv
      rw [htype] at hvt
      cases hvt with
      | text s =>
        by_cases hs : s = ""
        · subst hs
          exact ⟨[], rfl, .empty hk⟩
        · have hkept : ((some (.text s)).filter fun v : Value => false || v.isMeaningful) =
              some (.text s) := by simp [Option.filter, Value.isMeaningful, hs]
          rw [hkept]
          exact ⟨[s], by simp [bind, Except.bind, pure, Except.pure], .given s hk hs⟩

theorem yields_of_array {required : Bool} (h : Conforms (Schema.ofWords words).toValue args)
    (hw : [.field f] ∈ words) (hk : f.kind = .array required)
    (ht : (Schema.ofWords words).typeOf? f.normalizedName = some f.propertyType) :
    ∃ out, renderWord stack args [.field f] = .ok out ∧
      f.Yields (args.get? f.normalizedName) out := by
  have htype : f.propertyType = .array := by rw [Field.propertyType, hk]
  obtain ⟨v, hv, hvt⟩ := exists_get?_of_demands h hw (by rw [Field.demands, hk]) ht
    (by rw [htype]; decide)
  rw [htype] at hvt
  cases hvt with
  | array ss hi =>
    rw [renderWord_array hk ((lookup?_name_of_conforms h).trans hv) hi, hv]
    exact ⟨ss, Value.mapM_argumentText_texts _ ss, .array ss hk hi⟩

theorem yields_of_switch {dashes : Nat} (h : Conforms (Schema.ofWords words).toValue args)
    (hk : f.kind = .switch dashes)
    (ht : (Schema.ofWords words).typeOf? f.normalizedName = some f.propertyType) :
    ∃ out, renderWord stack args [.field f] = .ok out ∧
      f.Yields (args.get? f.normalizedName) out := by
  have htype : f.propertyType = .boolean := by rw [Field.propertyType, hk]
  refine ⟨_, renderWord_switch hk, ?_⟩
  rw [lookup?_name_of_conforms h]
  cases hv : args.get? f.normalizedName with
  | none => exact .unset hk
  | some v =>
    have hvt := hasType_of_get?_field h ht hv
    rw [htype] at hvt
    cases hvt with
    | bool b =>
      cases b with
      | true => exact .on hk
      | false => exact .off hk

/-- A field that is a word of its own yields what its kind says. -/
theorem yields_of_conforms (h : Conforms (Schema.ofWords words).toValue args)
    (hw : [.field f] ∈ words)
    (ht : (Schema.ofWords words).typeOf? f.normalizedName = some f.propertyType) :
    ∃ out, renderWord stack args [.field f] = .ok out ∧
      f.Yields (args.get? f.normalizedName) out := by
  cases hk : f.kind with
  | scalar required => exact yields_of_scalar h hw hk ht
  | array required => exact yields_of_array h hw hk ht
  | switch dashes => exact yields_of_switch h hk ht

theorem not_fails_of_hasType {type : PropertyType} {fault : Fault} (h : v.HasType type) :
    ¬v.Fails stack fault := by
  cases h with
  | text s =>
    rintro (hwhole | ⟨⟨⟩, -, -⟩)
    rw [Value.argumentText_text] at hwhole
    cases hwhole
  | bool b =>
    rintro (hwhole | ⟨⟨⟩, -, -⟩)
    rw [Value.argumentText] at hwhole
    cases hwhole
  | array ss hi => exact Value.not_fails_of_texts hi

/-- Every word can be written. -/
theorem exists_renderWord_of_conforms (h : Conforms (Schema.ofWords words).toValue args)
    (tokens : List Token) : ∃ out, renderWord stack args tokens = .ok out := by
  cases hw : renderWord stack args tokens with
  | ok out => exact ⟨out, rfl⟩
  | error fault =>
    obtain ⟨f, -, -, v, hv, hfails⟩ := exists_fails_of_renderWord hw
    rw [lookup?_name_of_conforms h] at hv
    obtain ⟨type, -, hvt⟩ := hasType_of_mem h (OrderedMap.mem_entries_of_get? hv)
    exact absurd hfails (not_fails_of_hasType hvt)

end Conforming

/-- The advertised schema is all that a client needs: for arguments that conform to it rendering
succeeds, and a word that is one field, of the type that the schema declares for its name, becomes
the value supplied for it. -/
theorem render_of_conforms {argv : List String} {t : Template} {args : Arguments}
    (accepted : ofArguments argv = .ok t) (conforms : Conforms t.schema.toValue args)
    (stack : Stack) :
    ∃ words contributions, argv = t.command :: words ∧
      t.render stack args = .ok (t.command :: contributions.flatten) ∧
      List.Forall₂ (fun w out => renderWord stack args (tokenize w) = .ok out ∧
        ∀ f, tokenize w = [.field f] →
          declaredType? t.schema.toValue f.normalizedName = some f.propertyType.name →
            f.Yields (args.get? f.normalizedName) out) words contributions := by
  obtain ⟨words, hargv, -, hwords⟩ := ofArguments_eq_ok_iff.1 accepted
  have hword : ∀ w ∈ t.words, ∃ out, renderWord stack args w = .ok out :=
    fun w _ => exists_renderWord_of_conforms conforms w
  obtain ⟨contributions, hrendered⟩ := exists_mapM_iff.2 hword
  refine ⟨words, contributions, hargv, ?_, ?_⟩
  · exact render_eq_ok_iff.2 ⟨accepted_of_conforms conforms, contributions, hrendered, rfl⟩
  · have hyields : ∀ w ∈ words, ∀ f, tokenize w = [.field f] →
        declaredType? t.schema.toValue f.normalizedName = some f.propertyType.name →
          ∃ out, renderWord stack args (tokenize w) = .ok out ∧
            f.Yields (args.get? f.normalizedName) out := by
      intro w hw f hf ht
      have hmem : [.field f] ∈ t.words := by
        rw [hwords, ← hf]
        exact List.mem_map_of_mem hw
      rw [schema, Schema.ofWords, Schema.declaredType?_toValue (Schema.nodup_names_ofFields _),
        Option.map_eq_some_iff] at ht
      obtain ⟨type, ht, hname⟩ := ht
      rw [PropertyType.name_injective hname] at ht
      rw [hf]
      exact yields_of_conforms conforms hmem ht
    rw [hwords, List.mapM_map, mapM_eq_ok_iff] at hrendered
    refine List.Forall₂.imp ?_ ((List.forall₂_and_left _ _).2 ⟨hyields, hrendered⟩)
    rintro w out ⟨hw, hout⟩
    refine ⟨hout, fun f hf ht => ?_⟩
    obtain ⟨out', hout', hyield⟩ := hw f hf ht
    cases hout.symm.trans hout'
    exact hyield

/-- A text to print, and a switch for the line break behind it. -/
def echo : Template :=
  ⟨"echo", [[.field ⟨"text", "", .scalar true⟩], [.field ⟨"n", "Enable -n flag", .switch 1⟩]]⟩

/-- The empty text for `echo`. -/
def echoNothing : Arguments := .ofPairs [("text", .text "")]

theorem render_of_conforms_echo :
    (ofArguments ["echo", "\x7b\x7btext\x7d\x7d", "[-n]"] = .ok echo ∧
      Conforms echo.schema.toValue echoNothing) ∧
    ∀ stack, ∃ words contributions, ["echo", "\x7b\x7btext\x7d\x7d", "[-n]"] = "echo" :: words ∧
      echo.render stack echoNothing = .ok ("echo" :: contributions.flatten) ∧
      List.Forall₂ (fun w out => renderWord stack echoNothing (tokenize w) = .ok out ∧
        ∀ f, tokenize w = [.field f] →
          declaredType? echo.schema.toValue f.normalizedName = some f.propertyType.name →
            f.Yields (echoNothing.get? f.normalizedName) out) words contributions := by
  have accepted : ofArguments ["echo", "\x7b\x7btext\x7d\x7d", "[-n]"] = .ok echo :=
    ofArguments_eq_ok_iff.2 ⟨["\x7b\x7btext\x7d\x7d", "[-n]"], rfl, by decide, by decide +kernel⟩
  have conforms : Conforms echo.schema.toValue echoNothing := by
    refine ⟨?_, by decide +kernel⟩
    rintro k v (_ | ⟨_, ⟨⟩⟩)
    exact ⟨.string, by decide +kernel, .text ""⟩
  exact ⟨⟨accepted, conforms⟩, render_of_conforms accepted conforms⟩

end CommandServer.Template
