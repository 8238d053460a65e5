/-
How many arguments the words of a command contribute. For accepted arguments the tokens of a word
fix the number, whatever the values are: one for a word that must stay, at most one for any other,
and one for each item only for an array that is a word of its own.
-/
import CommandServer.Proofs.Template.Validation
import CommandServer.Proofs.Template.Words

namespace CommandServer.Template

/-- What the arguments make of a word, by its tokens and the types of the names in it. -/
structure Contribution (stack : Stack) (s : Schema) (args : Arguments) (tokens : List Token)
    (out : List String) : Prop where
  rendered : renderWord stack args tokens = .ok out
  text : ∀ x, .text x ∈ tokens → out.length = 1
  required : 2 ≤ tokens.length → ∀ f, .field f ∈ tokens → f.isRequired = true → f.isArray = false →
    out.length = 1
  scalar : ∀ f, tokens = [.field f] → f.isRequired = true → f.isArray = false →
    s.typeOf? f.normalizedName ≠ some .boolean → out.length = 1
  array : ∀ f, tokens = [.field f] → f.isArray = true →
    s.typeOf? f.normalizedName = some .array →
      ∃ v items, args.lookup? f.name = some v ∧ v.items? = some items ∧
        List.Forall₂ (fun item s => item.argumentText stack.free = .ok s) items out
  other : (∀ f, tokens = [.field f] → f.isArray = false) → out.length ≤ 1

variable {stack : Stack} {words : List (List Token)} {args : Arguments} {f : Field}
  {out : List String}

theorem length_of_joined {tokens : List Token} (h : joined stack args tokens = .ok out) :
    out.length = 1 := by
  obtain ⟨s, rfl⟩ := exists_of_joined h
  rfl

/-- A scalar that must be supplied and is a word of its own contributes one argument: validation has
seen to it that there is a value, if the name is not that of a switch. -/
theorem length_of_renderWord_required (h : Accepted (.ofWords words) args)
    (hw : [.field f] ∈ words) (hk : f.kind = .scalar true)
    (ht : (Schema.ofWords words).typeOf? f.normalizedName ≠ some .boolean)
    (rendered : renderWord stack args [.field f] = .ok out) : out.length = 1 := by
  have hd : f.demands = true := by rw [Field.demands, hk]
  obtain ⟨v, hv⟩ := Option.isSome_iff_exists.1 (h.isSome_lookup? hw List.mem_cons_self hd ht)
  have hfound : ((args.lookup? f.name).filter fun v => true || v.isMeaningful).toList = [v] := by
    rw [hv]
    rfl
  rw [renderWord_scalar hk, hfound, mapM_eq_ok_iff] at rendered
  exact rendered.length_eq.symm

/-- Every word of a command contributes as its tokens say. -/
theorem contribution_of_mem {w : List Token} (h : Accepted (.ofWords words) args) (hw : w ∈ words)
    (rendered : renderWord stack args w = .ok out) :
    Contribution stack (.ofWords words) args w out where
  rendered := rendered
  text x hx := length_of_joined ((renderWord_of_text hx).symm.trans rendered)
  required hlen f hf hr ha := by
    have hk := Field.kind_eq_scalar_true_iff.2 ⟨hr, ha⟩
    exact length_of_joined ((renderWord_of_required hlen hf hk).symm.trans rendered)
  scalar f hf hr ha ht := by
    subst hf
    have hk := Field.kind_eq_scalar_true_iff.2 ⟨hr, ha⟩
    exact length_of_renderWord_required h hw hk ht rendered
  array f hf ha ht := by
    subst hf
    obtain ⟨v, items, hv, hi⟩ := h.exists_items hw List.mem_cons_self ha ht
    obtain ⟨required, hk⟩ := Field.isArray_iff.1 ha
    rw [renderWord_array hk hv hi, mapM_eq_ok_iff] at rendered
    exact ⟨v, items, hv, hi, rendered⟩
  other := length_le_one_of_renderWord rendered

/-- Values decide what the arguments of the command are, not how many: rendering gives the command
and then, word by word, as many arguments as the tokens of the word say. Only an array that is a
word of its own takes their number from its value. -/
theorem render_contributions {argv out : List String} {stack : Stack} {t : Template}
    {args : Arguments} (accepted : ofArguments argv = .ok t)
    (rendered : t.render stack args = .ok out) :
    ∃ words contributions, argv = t.command :: words ∧ out = t.command :: contributions.flatten ∧
      List.Forall₂ (fun w c => Contribution stack t.schema args (tokenize w) c) words
        contributions := by
  obtain ⟨words, hargv, -, hwords⟩ := ofArguments_eq_ok_iff.1 accepted
  obtain ⟨hacc, contributions, hrendered, hout⟩ := render_eq_ok_iff.1 rendered
  refine ⟨words, contributions, hargv, hout, ?_⟩
  have hmem : ∀ w ∈ words, tokenize w ∈ t.words := fun w hw => hwords ▸ List.mem_map_of_mem hw
  rw [hwords, List.mapM_map, mapM_eq_ok_iff] at hrendered
  refine List.Forall₂.imp ?_ ((List.forall₂_and_left _ _).2 ⟨hmem, hrendered⟩)
  rintro w c ⟨hw, hc⟩
  exact contribution_of_mem hacc hw hc

/-- A command for any number of files. -/
def cat : Template := ⟨"cat", [[.field ⟨"files", "", .array false⟩]]⟩

/-- Two files, one with a blank in its name and one without a name. -/
def twoFiles : Arguments := .ofPairs [("files", .list [.text "a b", .text ""])]

theorem render_contributions_cat :
    (ofArguments ["cat", "[files...]"] = .ok cat ∧
      cat.render .usual twoFiles = .ok ["cat", "a b", ""]) ∧
    ∃ words contributions, ["cat", "[files...]"] = "cat" :: words ∧
      ["cat", "a b", ""] = "cat" :: contributions.flatten ∧
      List.Forall₂ (fun w c => Contribution .usual cat.schema twoFiles (tokenize w) c) words
        contributions := by
  have accepted : ofArguments ["cat", "[files...]"] = .ok cat :=
    ofArguments_eq_ok_iff.2 ⟨["[files...]"], rfl, by decide, by decide +kernel⟩
  have rendered : cat.render .usual twoFiles = .ok ["cat", "a b", ""] := by
    refine render_eq_ok_iff.2 ⟨⟨by decide +kernel, ?_⟩, [["a b", ""]], by decide +kernel, rfl⟩
    rintro k v (_ | ⟨_, ⟨⟩⟩) -
    rfl
  exact ⟨⟨accepted, rendered⟩, render_contributions accepted rendered⟩

end CommandServer.Template
