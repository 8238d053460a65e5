/-
The schema as a merge. What a list of fields says about a name is gathered from all fields with this
name, in any spelling: the first of them fixes the type, the first description with anything in it
describes the property, and one that asks for a value makes the name required unless it is the name
of a switch. Adding the fields to a schema one after the other comes to the same.
-/
import CommandServer.Proofs.Advertised
import CommandServer.Proofs.Template.Validation
import Mathlib.Data.List.Induction

namespace CommandServer

open CommandServer.Template

/-! ## First occurrences -/

theorem eraseDups_concat (l : List String) (a : String) :
    (l ++ [a]).eraseDups = if a ∈ l then l.eraseDups else l.eraseDups ++ [a] := by
  rw [List.eraseDups_append]
  by_cases h : a ∈ l
  · simp [List.removeAll, h]
  · simp [List.removeAll, h, List.eraseDups_cons]

theorem nodup_eraseDups (l : List String) : l.eraseDups.Nodup := by
  induction l using List.reverseRecOn with
  | nil => exact List.nodup_nil
  | append_singleton l a ih =>
    rw [eraseDups_concat]
    split
    · exact ih
    · next ha =>
      refine List.nodup_append.2 ⟨ih, by simp, ?_⟩
      rintro b hb c hc rfl
      rw [List.mem_singleton] at hc
      rw [List.mem_eraseDups, hc] at hb
      exact ha hb

/-! ## What fields say about a name -/

/-- A field that asks for a value: an array between either brackets, a scalar between braces. -/
def Template.Field.asks (f : Field) : Bool := !f.isSwitch && (f.isArray || f.isRequired)

namespace Schema

/-- The fields with a name, in any spelling. -/
def occurrences (fields : List Field) (n : String) : List Field :=
  fields.filter (·.normalizedName == n)

/-- The type that the first occurrence gives to a name. -/
def mergedType (fields : List Field) (n : String) : PropertyType :=
  match occurrences fields n with
  | [] => .string
  | f :: _ => if f.isSwitch then .boolean else if f.isArray then .array else .string

/-- The first description of a name with anything in it. -/
def mergedDescription? (fields : List Field) (n : String) : Option String :=
  ((occurrences fields n).map (·.description)).find? (!·.isEmpty)

/-- The description of a property that no field describes. -/
def blankDescription : PropertyType → String
  | .array => defaultArrayDescription
  | _ => ""

def mergedProperty (fields : List Field) (n : String) : Property :=
  ⟨n, mergedType fields n,
    (mergedDescription? fields n).getD (blankDescription (mergedType fields n))⟩

/-- The schema of a list of fields, name by name: the properties in the order in which their names
first occur, the required names in the order in which a value is first asked for. -/
def merged (fields : List Field) : Schema :=
  ⟨(fields.map (·.normalizedName)).eraseDups.map (mergedProperty fields),
    ((fields.filter (·.asks)).map (·.normalizedName)).eraseDups.filter fun n =>
      mergedType fields n != .boolean⟩

theorem asks_eq_demands (f : Field) : f.asks = f.demands := by
  unfold Field.asks Field.isSwitch Field.isArray Field.isRequired Field.demands
  cases f.kind <;> rfl

theorem propertyType_eq_ite (f : Field) :
    f.propertyType = if f.isSwitch then .boolean else if f.isArray then .array else .string := by
  unfold Field.propertyType Field.isSwitch Field.isArray
  cases f.kind <;> rfl

theorem typeOf?_eq_some_boolean_iff {fields : List Field} {n : String} :
    (ofFields fields).typeOf? n = some .boolean ↔ mergedType fields n = .boolean := by
  unfold mergedType occurrences
  rw [typeOf?_ofFields, ← List.head?_filter]
  cases fields.filter (·.normalizedName == n) with
  | nil => simp
  | cons f fs =>
    rw [List.head?_cons, Option.map_some, Option.some_inj, propertyType_eq_ite]

/-! ## One more field -/

section Concat

variable {fields : List Field} {f : Field} {n : String}

theorem occurrences_concat (fields : List Field) (f : Field) (n : String) :
    occurrences (fields ++ [f]) n =
      if f.normalizedName = n then occurrences fields n ++ [f] else occurrences fields n := by
  unfold occurrences
  rw [List.filter_append, List.filter_cons, List.filter_nil]
  by_cases h : f.normalizedName = n
  · simp [h]
  · simp [h]

theorem occurrences_eq_nil_iff :
    occurrences fields n = [] ↔ n ∉ fields.map (·.normalizedName) := by
  unfold occurrences
  rw [List.filter_eq_nil_iff, List.mem_map]
  simp

/-- The property of a name while a description may still come. -/
def gathered (fields : List Field) (n : String) : Property :=
  ⟨n, mergedType fields n, (mergedDescription? fields n).getD ""⟩

theorem gathered_concat_of_ne (h : f.normalizedName ≠ n) :
    gathered (fields ++ [f]) n = gathered fields n := by
  unfold gathered mergedType mergedDescription?
  rw [occurrences_concat, if_neg h]

theorem isEmpty_of_mergedDescription? {d : String} (h : mergedDescription? fields n = some d) :
    d.isEmpty = false := by
  unfold mergedDescription? at h
  have hd := List.find?_some h
  rwa [Bool.not_eq_true'] at hd

/-- A description counts as none when there is nothing in it. -/
theorem getD_find?_description (d : String) : ([d].find? (!·.isEmpty)).getD "" = d := by
  by_cases h : d = ""
  · rw [h]
    rfl
  · simp [h]

/-- A new name takes all that its first field says. -/
theorem gathered_concat_of_notMem (h : f.normalizedName ∉ fields.map (·.normalizedName)) :
    gathered (fields ++ [f]) f.normalizedName = f.property := by
  have hocc : occurrences (fields ++ [f]) f.normalizedName = [f] := by
    rw [occurrences_concat, if_pos rfl, occurrences_eq_nil_iff.2 h, List.nil_append]
  unfold gathered mergedType mergedDescription? Field.property
  rw [hocc, propertyType_eq_ite]
  dsimp only
  rw [List.map_singleton, getD_find?_description]

/-- An old name takes no more than a description, if it has none. -/
theorem gathered_concat_of_mem (h : f.normalizedName ∈ fields.map (·.normalizedName)) :
    gathered (fields ++ [f]) f.normalizedName =
      describe f.description (gathered fields f.normalizedName) := by
  have hocc : occurrences (fields ++ [f]) f.normalizedName =
      occurrences fields f.normalizedName ++ [f] := by rw [occurrences_concat, if_pos rfl]
  have hne : occurrences fields f.normalizedName ≠ [] := fun hnil =>
    occurrences_eq_nil_iff.1 hnil h
  have htype : mergedType (fields ++ [f]) f.normalizedName =
      mergedType fields f.normalizedName := by
    unfold mergedType
    rw [hocc]
    cases hfs : occurrences fields f.normalizedName with
    | nil => exact absurd hfs hne
    | cons g gs => rfl
  have hdesc : mergedDescription? (fields ++ [f]) f.normalizedName =
      (mergedDescription? fields f.normalizedName).or ([f.description].find? (!·.isEmpty)) := by
    unfold mergedDescription?
    rw [hocc, List.map_append, List.find?_append, List.map_singleton]
  unfold gathered describe
  rw [htype, hdesc]
  dsimp only
  cases hd : mergedDescription? fields f.normalizedName with
  | none =>
    rw [Option.none_or, getD_find?_description]
    rfl
  | some d =>
    -- what was found is not empty, so nothing is put in its place
    rw [Option.some_or, Option.getD_some, isEmpty_of_mergedDescription? hd]
    rfl

end Concat

/-! ## All fields -/

theorem mergeProperty_of_notMem {q : Property} {ps : List Property}
    (h : q.name ∉ ps.map (·.name)) : mergeProperty q ps = ps ++ [q] := by
  induction ps with
  | nil => rfl
  | cons p ps ih =>
    rw [List.map_cons, List.mem_cons, not_or] at h
    rw [mergeProperty, if_neg (fun heq => h.1 heq.symm), ih h.2, List.cons_append]

theorem mergeProperty_map_of_mem {g : String → Property} (hg : ∀ m, (g m).name = m)
    {ns : List String} (hns : ns.Nodup) {q : Property} (h : q.name ∈ ns) :
    mergeProperty q (ns.map g) =
      ns.map fun m => if m = q.name then describe q.description (g m) else g m := by
  induction ns with
  | nil => cases h
  | cons m ns ih =>
    obtain ⟨hm, hns⟩ := List.nodup_cons.1 hns
    rw [List.map_cons, List.map_cons, mergeProperty, hg]
    by_cases heq : m = q.name
    · rw [if_pos heq, if_pos heq]
      -- the name does not come again
      have hrest : ∀ k ∈ ns, g k = if k = q.name then describe q.description (g k) else g k := by
        intro k hk
        rw [if_neg]
        rintro rfl
        exact hm (heq ▸ hk)
      rw [List.map_congr_left hrest]
    · have hmem : q.name ∈ ns := by
        rcases List.mem_cons.1 h with hq | hq
        · exact absurd hq.symm heq
        · exact hq
      rw [if_neg heq, if_neg heq, ih hns hmem]

theorem properties_foldl_add (fields : List Field) :
    (fields.foldl add empty).properties =
      (fields.map (·.normalizedName)).eraseDups.map (gathered fields) := by
  induction fields using List.reverseRecOn with
  | nil => rfl
  | append_singleton fields f ih =>
    have hother : ∀ m ∈ fields.map (·.normalizedName), m ≠ f.normalizedName →
        gathered (fields ++ [f]) m = gathered fields m := fun m _ hm =>
      gathered_concat_of_ne (Ne.symm hm)
    rw [List.foldl_append, List.foldl_cons, List.foldl_nil, add, ih, List.map_append,
      List.map_singleton, eraseDups_concat]
    by_cases h : f.normalizedName ∈ fields.map (·.normalizedName)
    · rw [if_pos h, mergeProperty_map_of_mem (fun _ => rfl) (nodup_eraseDups _)
        (List.mem_eraseDups.2 h)]
      refine List.map_congr_left fun m hm => ?_
      split
      · next heq =>
        rw [heq]
        exact (gathered_concat_of_mem h).symm
      · next hne => exact (hother m (List.mem_eraseDups.1 hm) hne).symm
    · rw [if_neg h, mergeProperty_of_notMem, List.map_append, List.map_singleton,
        gathered_concat_of_notMem h]
      · refine congrArg (· ++ [f.property]) (List.map_congr_left fun m hm => ?_)
        have hmem := List.mem_eraseDups.1 hm
        refine (hother m hmem ?_).symm
        rintro rfl
        exact h hmem
      · have hnames : ((fields.map (·.normalizedName)).eraseDups.map (gathered fields)).map
            (·.name) = (fields.map (·.normalizedName)).eraseDups := by
          rw [List.map_map]
          exact List.map_id _
        rw [hnames, List.mem_eraseDups]
        exact h

theorem required_foldl_add (fields : List Field) :
    (fields.foldl add empty).required =
      ((fields.filter (·.asks)).map (·.normalizedName)).eraseDups := by
  induction fields using List.reverseRecOn with
  | nil => rfl
  | append_singleton fields f ih =>
    rw [List.foldl_append, List.foldl_cons, List.foldl_nil, add, ih, List.filter_append,
      List.filter_cons, List.filter_nil, asks_eq_demands]
    dsimp only
    cases f.demands with
    | false => simp
    | true =>
      rw [List.map_append, if_pos rfl, List.map_singleton, eraseDups_concat]
      by_cases h : f.normalizedName ∈ (fields.filter (·.asks)).map (·.normalizedName)
      · simp [h]
      · simp [h]

/-- An array that no field describes gets the default description. -/
theorem describe_gathered (fields : List Field) (n : String) :
    (if (gathered fields n).type = .array then describe defaultArrayDescription (gathered fields n)
      else gathered fields n) = mergedProperty fields n := by
  unfold gathered mergedProperty describe
  dsimp only
  cases hd : mergedDescription? fields n with
  | none => cases mergedType fields n <;> rfl
  | some d =>
    rw [Option.getD_some, Option.getD_some, isEmpty_of_mergedDescription? hd]
    cases mergedType fields n <;> rfl

/-- Adding fields one after the other makes the schema that they say name by name. -/
theorem ofFields_eq_merged (fields : List Field) : ofFields fields = merged fields := by
  have hproperties : (ofFields fields).properties = (merged fields).properties := by
    unfold ofFields finish merged
    dsimp only
    rw [properties_foldl_add, List.map_map]
    exact List.map_congr_left fun n _ => describe_gathered fields n
  have hrequired : (ofFields fields).required = (merged fields).required := by
    unfold ofFields finish merged
    dsimp only
    rw [required_foldl_add]
    refine List.filter_congr fun n _ => ?_
    have htype : (fields.foldl add empty).typeOf? n = some .boolean ↔
        mergedType fields n = .boolean := by
      rw [← typeOf?_finish]
      exact typeOf?_eq_some_boolean_iff
    rw [typeOf?_eq_some_iff] at htype
    rw [bne, Bool.eq_iff_iff, Bool.not_eq_true', Bool.not_eq_true', ← Bool.not_eq_true,
      ← Bool.not_eq_true, htype, beq_iff_eq]
  show Schema.mk (ofFields fields).properties (ofFields fields).required = merged fields
  rw [hproperties, hrequired]

/-! ## Types and demands -/

section Demands

variable {fields : List Field} {p : Property}

/-- An array is required, since its first occurrence asks for a value. -/
theorem mem_required_of_array (h : p ∈ (merged fields).properties) (ht : p.type = .array) :
    p.name ∈ (merged fields).required := by
  obtain ⟨n, -, rfl⟩ := List.mem_map.1 h
  have htype : mergedType fields n = .array := ht
  have hasks : ∃ f ∈ fields, f.asks = true ∧ f.normalizedName = n := by
    unfold mergedType at htype
    split at htype
    · cases htype
    · next f fs hocc =>
      obtain ⟨hf, hn⟩ := List.mem_filter.1 (hocc ▸ List.mem_cons_self : f ∈ occurrences fields n)
      rw [beq_iff_eq] at hn
      refine ⟨f, hf, ?_, hn⟩
      unfold Field.asks
      cases hs : f.isSwitch with
      | true =>
        rw [hs] at htype
        cases htype
      | false =>
        cases ha : f.isArray with
        | true => rfl
        | false =>
          rw [hs, ha] at htype
          cases htype
  obtain ⟨f, hf, hfasks, hn⟩ := hasks
  refine List.mem_filter.2 ⟨List.mem_eraseDups.2 ?_, ?_⟩
  · exact List.mem_map.2 ⟨f, List.mem_filter.2 ⟨hf, hfasks⟩, hn⟩
  · rw [show (mergedProperty fields n).name = n from rfl, htype]
    rfl

theorem notMem_required_of_boolean (h : p ∈ (merged fields).properties) (ht : p.type = .boolean) :
    p.name ∉ (merged fields).required := by
  obtain ⟨n, -, rfl⟩ := List.mem_map.1 h
  intro hreq
  have hne := (List.mem_filter.1 hreq).2
  rw [bne_iff_ne] at hne
  exact hne ht

end Demands

/-- The schema of the words of a command is what their fields say name by name. No name comes twice,
an array is always required, and a switch never is. -/
theorem ofWords_eq_merged (words : List (List Token)) :
    ofWords words = merged (words.flatten.filterMap Token.field?) ∧
      (ofWords words).names.Nodup ∧ (ofWords words).required.Nodup ∧
      ∀ p ∈ (ofWords words).properties,
        (p.type = .array → p.name ∈ (ofWords words).required) ∧
          (p.type = .boolean → p.name ∉ (ofWords words).required) := by
  have heq : ofWords words = merged (words.flatten.filterMap Token.field?) :=
    ofFields_eq_merged _
  refine ⟨heq, nodup_names_ofFields _, ?_, ?_⟩
  · rw [heq]
    exact (nodup_eraseDups _).filter _
  · rw [heq]
    intro p hp
    exact ⟨mem_required_of_array hp, notMem_required_of_boolean hp⟩

example : merged [⟨"in-file", "", .array false⟩, ⟨"n", "", .switch 1⟩,
    ⟨"in_file", "Input", .scalar false⟩, ⟨"n", "Lines", .scalar true⟩] =
      ⟨[⟨"in_file", .array, "Input"⟩, ⟨"n", .boolean, "Lines"⟩], ["in_file"]⟩ := by
  cbv

end Schema

end CommandServer
