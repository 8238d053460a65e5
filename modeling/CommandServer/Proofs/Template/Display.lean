/-
The display form of a word, read again. Every field is shown in its own brackets, under its
normalized name and without its description, and no opener or closer comes to stand where there was
none: the scan of the display form takes the same steps as the scan of the word. Only a field in
double braces with a brace behind it, and nothing else in the word, is read in another way.
-/
import CommandServer.Proofs.Arguments
import CommandServer.Proofs.Template.Written
import CommandServer.Template

namespace CommandServer.Template

open CommandServer.Text

/-! ## Fields as they are shown -/

/-- The field that the display form of a field describes: a switch keeps its name, any other name is
normalized, arrays are shown between square brackets, and descriptions are not shown. -/
def Field.shown (f : Field) : Field :=
  match f.kind with
  | .switch n => ⟨f.name, switchDescription f.spelling.toList, .switch n⟩
  | .array _ => ⟨f.normalizedName, "", .array false⟩
  | .scalar required => ⟨f.normalizedName, "", .scalar required⟩

def Token.shown : Token → Token
  | .text s => .text s
  | .field f => .field f.shown

namespace Field

variable {f : Field}

theorem shown_of_switch {n : Nat} (h : f.kind = .switch n) :
    f.shown = ⟨f.name, switchDescription f.spelling.toList, .switch n⟩ := by
  rw [shown, h]

theorem shown_of_array {required : Bool} (h : f.kind = .array required) :
    f.shown = ⟨f.normalizedName, "", .array false⟩ := by
  rw [shown, h]

theorem shown_of_scalar {required : Bool} (h : f.kind = .scalar required) :
    f.shown = ⟨f.normalizedName, "", .scalar required⟩ := by
  rw [shown, h]

theorem isName_map_underscored {cs : List Char} (h : IsName cs) : IsName (cs.map underscored) := by
  rw [← isIdentifier_iff] at h ⊢
  unfold isIdentifier at h ⊢
  rw [List.map_map, show underscored ∘ underscored = underscored from funext underscored_underscored]
  exact h

theorem head?_map_underscored_ne_dash (cs : List Char) : (cs.map underscored).head? ≠ some '-' := by
  cases cs with
  | nil => simp
  | cons c r =>
    unfold underscored
    simp only [List.map_cons, List.head?_cons, ne_eq, Option.some.injEq]
    split
    · decide
    · assumption

theorem hasName_of_normalizedName {g : Field} (h : f.HasName) (hname : g.name = f.normalizedName)
    (hswitch : g.isSwitch = false) : g.HasName := by
  have hlist : g.name.toList = f.name.toList.map underscored := by
    rw [hname, normalizedName, normalizeName, String.toList_map]
  refine ⟨?_, fun _ => ?_, fun n hn => ?_⟩
  · rw [hlist]; exact isName_map_underscored h.name
  · rw [hlist]; exact head?_map_underscored_ne_dash _
  · exact absurd (isSwitch_iff.2 ⟨n, hn⟩) (Bool.eq_false_iff.1 hswitch)

theorem hasName_shown (h : f.HasName) : f.shown.HasName := by
  cases hk : f.kind with
  | switch n =>
    rw [shown_of_switch hk]
    refine ⟨h.name, fun _ => h.noDash (isRequired_of_switch hk), ?_⟩
    rintro m ⟨⟩
    exact h.dashes n hk
  | array required => rw [shown_of_array hk]; exact hasName_of_normalizedName h rfl rfl
  | scalar required => rw [shown_of_scalar hk]; exact hasName_of_normalizedName h rfl rfl

@[simp] theorem switchText_shown (f : Field) : f.shown.switchText = f.switchText := by
  obtain ⟨name, description, kind⟩ := f
  cases kind <;> rfl

theorem description_shown (f : Field) : f.shown.description = f.shown.descriptionOf [] := by
  cases hk : f.kind with
  | switch n =>
    have hkind : f.shown.kind = .switch n := by rw [shown_of_switch hk]
    have hspelling : f.shown.spelling = f.spelling := by
      rw [spelling, spelling, if_pos (isSwitch_iff.2 ⟨n, hkind⟩), if_pos (isSwitch_iff.2 ⟨n, hk⟩),
        switchText_shown]
    rw [descriptionOf, hspelling, shown_of_switch hk]
    rfl
  | array required => rw [shown_of_array hk]; rfl
  | scalar required => rw [shown_of_scalar hk]; rfl

/-- What stands between the brackets of the display form describes the field that is shown. -/
theorem parse?_shown (h : f.HasName) : parse? f.shown.bracket f.shown.label = some f.shown :=
  parse?_label (hasName_shown h) (description_shown f)

theorem toList_display (f : Field) :
    f.display.toList = f.shown.bracket.opener ++ f.shown.label ++ f.shown.bracket.closer := by
  unfold display label
  cases hk : f.kind with
  | switch n =>
    rw [shown_of_switch hk]
    simp [bracket, isRequired, spelling, isSwitch, isArray, switchText, hk, Bracket.opener,
      Bracket.closer]
  | array required =>
    rw [shown_of_array hk]
    simp [bracket, isRequired, spelling, isSwitch, isArray, arrayMark, Bracket.opener, Bracket.closer]
  | scalar required =>
    rw [shown_of_scalar hk]
    cases required <;>
      simp [bracket, isRequired, spelling, isSwitch, isArray, Bracket.opener, Bracket.closer]

@[simp] theorem display_shown (f : Field) : f.shown.display = f.display := by
  cases hk : f.kind with
  | switch n => rw [shown_of_switch hk]; simp [display, switchText, hk]
  | array required => rw [shown_of_array hk]; simp [display, normalizedName, hk]
  | scalar required => rw [shown_of_scalar hk]; cases required <;> simp [display, normalizedName, hk]

/-- Only a field in double braces is shown in double braces. -/
theorem isRequired_of_shown (h : f.shown.isRequired = true) : f.kind = .scalar true := by
  cases hk : f.kind with
  | switch n => rw [shown_of_switch hk] at h; cases h
  | array required => rw [shown_of_array hk] at h; cases h
  | scalar required =>
    rw [shown_of_scalar hk] at h
    cases required with
    | true => rfl
    | false => cases h

end Field

/-! ## Segments as they are shown -/

def Segment.shown : Segment → Segment
  | .text cs => .text cs
  | .field _ _ f => .field f.shown.bracket f.shown.label f.shown

@[simp] theorem Segment.token_shown (s : Segment) : s.shown.token = s.token.shown := by
  cases s <;> rfl

@[simp] theorem Segment.source_shown (s : Segment) : s.shown.source = s.token.display.toList := by
  cases s with
  | text cs => exact String.toList_ofList.symm
  | field b content f => exact (f.toList_display).symm

theorem toList_displayWord (ss : List Segment) :
    (displayWord (ss.map Segment.token)).toList = sources (ss.map Segment.shown) := by
  unfold displayWord sources
  rw [String.toList_join, List.map_map, List.flatMap_map, List.flatMap_map]
  exact List.flatMap_congr fun s _ => (s.source_shown).symm

theorem Segment.IsWellFormed.hasName {b : Bracket} {content : List Char} {f : Field}
    (h : (Segment.field b content f).IsWellFormed) : f.HasName ∧ f.bracket = b := by
  have hd := Field.parse?_eq_some_iff.1 h.2
  exact ⟨hd.toHasName, hd.bracket⟩

/-- A label holds no closer, not even together with the start of the closer behind it. -/
theorem not_closer_infix_label {f : Field} (h : f.HasName) :
    ¬ f.bracket.closer <:+: f.label ++ f.bracket.closer.dropLast := by
  refine not_infix_label_append h f.bracket.closer_ne_nil (fun _ => List.mem_append_right _) fun hi => ?_
  have hshort := hi.length_le
  have hpos := List.length_pos_of_ne_nil f.bracket.closer_ne_nil
  rw [List.length_dropLast] at hshort
  omega

/-- The display form of a run of segments starts as its source does, or with a square bracket. -/
theorem head?_sources_shown {ss : List Segment} (h : ∀ s ∈ ss, s.IsWellFormed) {c : Char}
    (hc : (sources (ss.map Segment.shown)).head? = some c) :
    c = '[' ∨ (sources ss).head? = some c := by
  induction ss with
  | nil => cases hc
  | cons s ss ih =>
    rw [List.map_cons, sources_cons] at hc
    rw [sources_cons]
    cases s with
    | text cs =>
      cases cs with
      | nil => exact ih (fun s hs => h s (List.mem_cons_of_mem _ hs)) hc
      | cons d cs => exact .inr hc
    | field b content f =>
      obtain ⟨-, rfl⟩ := (h _ (List.mem_cons_self ..)).hasName
      cases hr : f.shown.isRequired with
      | true =>
        have hbracket : f.bracket = .braces := by
          rw [Field.bracket_eq_braces_iff, Field.isRequired, Field.isRequired_of_shown hr]
        rw [Segment.shown, Segment.source, Field.bracket, hr] at hc
        rw [Segment.source, hbracket]
        exact .inr hc
      | false =>
        rw [Segment.shown, Segment.source, Field.bracket, hr] at hc
        exact .inl (Option.some.inj hc).symm

/-- The display form of a run of segments ends as its source does, or with a closing bracket. -/
theorem getLast?_sources_shown {ss : List Segment} {c : Char}
    (hc : (sources (ss.map Segment.shown)).getLast? = some c) :
    c = ']' ∨ c = '\x7d' ∨ (sources ss).getLast? = some c := by
  induction ss using List.reverseRecOn with
  | nil => cases hc
  | append_singleton ss s ih =>
    rw [List.map_append, sources_append, List.map_singleton, sources_cons, sources_nil,
      List.append_nil] at hc
    rw [sources_append, sources_cons, sources_nil, List.append_nil]
    cases s with
    | text cs =>
      rw [Segment.shown, Segment.source] at hc
      rw [Segment.source]
      cases cs using List.reverseRecOn with
      | nil =>
        rw [List.append_nil] at hc ⊢
        exact ih hc
      | append_singleton cs d =>
        rw [← List.append_assoc, List.getLast?_concat] at hc ⊢
        exact .inr (.inr hc)
    | field b content f =>
      rw [Segment.shown, Segment.source, ← List.append_assoc, List.getLast?_append] at hc
      cases hb : f.shown.bracket with
      | braces => rw [hb] at hc; exact .inr (.inl (Option.some.inj hc).symm)
      | squares => rw [hb] at hc; exact .inl (Option.some.inj hc).symm

/-! ## The scan of the display form -/

theorem opening?_cons_eq_none_iff {c : Char} {r : List Char} :
    opening? (c :: r) = none ↔ c ≠ '[' ∧ ¬ (c = '\x7b' ∧ r.head? = some '\x7b') := by
  constructor
  · intro h
    refine ⟨?_, ?_⟩
    · rintro rfl; cases h
    · rintro ⟨rfl, hr⟩
      obtain ⟨r, rfl⟩ := List.head?_eq_some_iff.1 hr
      cases h
  · rintro ⟨hsquare, hbrace⟩
    cases ho : opening? (c :: r) with
    | none => rfl
    | some p =>
      obtain ⟨b, r'⟩ := p
      have happ := append_of_opening? ho
      cases b with
      | braces => cases happ; exact absurd ⟨rfl, rfl⟩ hbrace
      | squares => cases happ; exact absurd rfl hsquare

/-- What stands in brackets without a closer inside is the next segment of a scan. -/
theorem ScanStep.of_source {b : Bracket} {content : List Char}
    (hc : ¬ b.closer <:+: content ++ b.closer.dropLast) (rest : List Char) :
    ScanStep (b.opener ++ content ++ b.closer ++ rest) (.ofContent b content) rest := by
  refine .bracket (r := content ++ b.closer ++ rest) ?_ (cutAt?_append b.closer_ne_nil hc rest)
  rw [← opening?_opener_append]
  simp only [List.append_assoc]

theorem ScanStep.shown {cs rest rest' : List Char} {s : Segment} (h : ScanStep cs s rest)
    (hnil : rest = [] → rest' = [])
    (hhead : ∀ c, rest'.head? = some c → c = '[' ∨ rest.head? = some c) :
    ScanStep (s.shown.source ++ rest') s.shown rest' := by
  cases h with
  | @char c r ho =>
    rw [opening?_cons_eq_none_iff] at ho
    refine .char (opening?_cons_eq_none_iff.2 ⟨ho.1, ?_⟩)
    -- behind a brace there was no brace, and none has come to stand there
    rintro ⟨rfl, hr⟩
    rcases hhead _ hr with hsquare | hbrace
    · cases hsquare
    · exact ho.2 ⟨rfl, hbrace⟩
  | @bracket _ r content _ b ho hc =>
    cases hf : Field.parse? b content with
    | none =>
      have htext : Segment.ofContent b content = .text (b.opener ++ content ++ b.closer) := by
        rw [Segment.ofContent, hf]
      have hstep := ScanStep.of_source (not_infix_of_cutAt? b.closer_ne_nil hc) rest'
      rw [htext] at hstep ⊢
      exact hstep
    | some f =>
      have hname : f.HasName := (Field.parse?_eq_some_iff.1 hf).toHasName
      have hfield : Segment.ofContent f.shown.bracket f.shown.label =
          .field f.shown.bracket f.shown.label f.shown := by
        rw [Segment.ofContent, Field.parse?_shown hname]
      have hstep := ScanStep.of_source (not_closer_infix_label (Field.hasName_shown hname)) rest'
      rw [hfield] at hstep
      rw [Segment.ofContent, hf]
      exact hstep
  | @unclosed _ r b ho hc =>
    rw [hnil rfl, Segment.shown, Segment.source, List.append_nil]
    exact .unclosed ho hc

theorem cuts_sources_shown (cs : List Char) :
    cuts (sources ((cuts cs).map Segment.shown)) = (cuts cs).map Segment.shown := by
  generalize hss : cuts cs = ss
  induction ss generalizing cs with
  | nil => exact cuts_nil
  | cons s ss ih =>
    obtain ⟨rest, hs, hrest⟩ := cuts_eq_cons_iff.1 hss
    have hsrc : sources ss = rest := by rw [← hrest, sources_cuts]
    have hwf : ∀ s ∈ ss, s.IsWellFormed := fun s hs' =>
      of_mem_cuts (fun _ _ _ => ScanStep.isWellFormed) (hrest ▸ hs')
    rw [List.map_cons, sources_cons, cuts_of_step (hs.shown ?_ ?_), ih rest hrest]
    · rintro rfl
      rw [cuts_nil] at hrest
      subst hrest
      rfl
    · intro c hc
      rw [← hsrc]
      exact head?_sources_shown hwf hc

theorem map_shown_joinText (s : Segment) (ss : List Segment) :
    (joinText s ss).map Segment.shown = joinText s.shown (ss.map Segment.shown) := by
  cases s with
  | field b content f => simp [joinText, Segment.shown]
  | text a =>
    cases a with
    | nil => simp [joinText, Segment.shown]
    | cons c a =>
      cases ss with
      | nil => rfl
      | cons s' ss => cases s' <;> rfl

theorem map_shown_foldr_joinText (l : List Segment) :
    (l.foldr joinText []).map Segment.shown = (l.map Segment.shown).foldr joinText [] := by
  induction l with
  | nil => rfl
  | cons s l ih => rw [List.foldr_cons, map_shown_joinText, ih, List.map_cons, List.foldr_cons]

/-- The segments of the display form are the segments of the word, as they are shown. -/
theorem segments_sources_shown (cs : List Char) :
    segments (sources ((segments cs).map Segment.shown)) = (segments cs).map Segment.shown := by
  have hsrc : sources ((segments cs).map Segment.shown) = sources ((cuts cs).map Segment.shown) := by
    rw [segments, map_shown_foldr_joinText, sources_foldr_joinText]
  rw [hsrc, segments, cuts_sources_shown, ← map_shown_foldr_joinText]
  rfl

/-! ## The display form of a word -/

theorem trim_sources_shown {cs : List Char} (h : trim cs = cs) :
    trim (sources ((segments cs).map Segment.shown)) = sources ((segments cs).map Segment.shown) := by
  rw [trim_eq_self_iff] at h ⊢
  refine ⟨fun c hc => ?_, fun c hc => ?_⟩
  · rcases head?_sources_shown (fun _ => isWellFormed_of_mem_segments) hc with rfl | hc
    · decide
    · rw [sources_segments] at hc
      exact h.1 c hc
  · rcases getLast?_sources_shown hc with rfl | rfl | hc
    · decide
    · decide
    · rw [sources_segments] at hc
      exact h.2 c hc

/-- The display form of a field is read as the field that it shows. -/
theorem tokenize_display {f : Field} (h : f.HasName) : tokenize f.display = [.field f.shown] := by
  have hlabel : ∀ p : List Char, p ≠ [] →
      (∀ c ∈ p, c ∈ f.shown.bracket.opener ++ f.shown.bracket.closer) → ¬ p <:+: f.shown.label := by
    intro p hp hb
    have hno := not_infix_label_append (Field.hasName_shown h) hp hb (r := [])
      fun hnil => hp (List.infix_nil.1 hnil)
    rwa [List.append_nil] at hno
  have henc : enclosed? f.shown.bracket f.display.toList = some f.shown.label :=
    enclosed?_eq_some_iff.2 ⟨f.toList_display,
      hlabel _ f.shown.bracket.opener_ne_nil fun _ => List.mem_append_left _,
      hlabel _ f.shown.bracket.closer_ne_nil fun _ => List.mem_append_right _⟩
  have htrim : trim f.display.toList = f.display.toList := by
    rw [f.toList_display]
    exact trim_bracket _ _
  rw [tokenize_of_enclosed htrim henc, Segment.ofContent, Field.parse?_shown h]
  rfl

theorem eq_of_map_shown {ts : List Token} {f : Field} {s : String} (hf : f.isRequired = true)
    (h : ts.map Token.shown = [.field f, .text s]) :
    ∃ g : Field, g.kind = .scalar true ∧ ts = [.field g, .text s] := by
  obtain ⟨t, ts, rfl, ht, hts⟩ := List.map_eq_cons_iff.1 h
  obtain ⟨t', ts, rfl, ht', hnil⟩ := List.map_eq_cons_iff.1 hts
  obtain rfl := List.map_eq_nil_iff.1 hnil
  cases t with
  | text => cases ht
  | field g =>
    cases t' with
    | field => cases ht'
    | text s' =>
      cases ht'
      cases ht
      exact ⟨g, Field.isRequired_of_shown hf, rfl⟩

theorem scanTokens_of_segments {cs : List Char} {ss : List Segment} (h : segments cs = ss)
    (hne : ss ≠ []) : scanTokens cs = ss.map Segment.token := by
  unfold scanTokens
  rw [h]
  cases ss with
  | nil => exact absurd rfl hne
  | cons s ss => rfl

/-- The display form of a word is read as the tokens that it shows, unless the word is a field in double
braces with a brace behind it. -/
theorem tokenize_displayWord {word : String} (h : trim word.toList = word.toList)
    (hno : ∀ f, f.kind = .scalar true → tokenize word ≠ [.field f, .text "\x7d"]) :
    tokenize (displayWord (tokenize word)) = (tokenize word).map Token.shown := by
  rcases tokenize_cases word with ⟨b, content, f, -, hf, hw⟩ | hw | ⟨hne, hw⟩
  · have hdisplay : displayWord (tokenize word) = f.display := by
      rw [hw]; simp [displayWord, Token.display]
    rw [hdisplay, tokenize_display (Field.parse?_eq_some_iff.1 hf).toHasName, hw]
    rfl
  · have hdisplay : displayWord (tokenize word) = word := by
      rw [hw]; simp [displayWord, Token.display]
    rw [hdisplay, hw]
    rfl
  · have hlist := toList_displayWord (segments word.toList)
    rw [← hw] at hlist
    have hscan : scanTokens (displayWord (tokenize word)).toList = (tokenize word).map Token.shown := by
      have hne' : (segments word.toList).map Segment.shown ≠ [] := by
        intro hnil
        have := tokenize_ne_nil word
        rw [hw] at this
        exact this (by simpa using hnil)
      rw [hlist, scanTokens_of_segments (segments_sources_shown _) hne', hw, List.map_map, List.map_map]
      exact List.map_congr_left fun s _ => s.token_shown
    rw [tokenize_eq_scanTokens _ fun hearly => ?_, hscan]
    · rw [hlist]
      exact trim_sources_shown h
    · obtain ⟨content, f, hf, hearly⟩ := scanTokens_of_closesEarly hearly
      have hbraces := (Field.parse?_eq_some_iff.1 hf).bracket
      obtain ⟨g, hg, heq⟩ :=
        eq_of_map_shown (Field.bracket_eq_braces_iff.1 hbraces) (hscan.symm.trans hearly)
      exact hno g hg heq

end CommandServer.Template
