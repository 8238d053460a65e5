/-
The scan of a word. Cutting at a text finds its first occurrence and no other. The scan is a run of
steps, each of which takes one segment off the front of what is left; the segments of a word put
together again are the word, and any run of neighbouring segments is what the scan makes of the
source of that run alone. So a text between two fields holds no field by itself.
-/
import CommandServer.Template.Scan
import Mathlib.Data.List.Chain

namespace CommandServer.Template

/-! ## The first occurrence -/

theorem append_dropLast_isPrefix_append (a pat b : List Char) : a ++ pat.dropLast <+: a ++ pat ++ b := by
  rw [List.append_assoc, List.prefix_append_right_inj]
  exact (List.dropLast_prefix pat).trans (List.prefix_append ..)

/-- Nothing of the pattern lies in front of the place of a cut, not even together with the start of
the pattern itself. -/
theorem not_infix_of_cutAt? {pat cs a b : List Char} (hp : pat ≠ [])
    (h : cutAt? pat cs = some (a, b)) : ¬ pat <:+: a ++ pat.dropLast := by
  induction cs generalizing a with
  | nil => simp [cutAt?] at h
  | cons c r ih =>
    rw [cutAt?] at h
    split at h
    · next rest hrest =>
      simp only [Option.some.injEq, Prod.mk.injEq] at h
      obtain ⟨rfl, rfl⟩ := h
      intro hi
      have hlen := hi.length_le
      have hpos := List.length_pos_of_ne_nil hp
      simp only [List.nil_append, List.length_dropLast] at hlen
      omega
    · next hnone =>
      simp only [Option.map_eq_some_iff, Prod.mk.injEq] at h
      obtain ⟨⟨a', b'⟩, hr, rfl, rfl⟩ := h
      intro hi
      rw [List.cons_append, List.infix_cons_iff] at hi
      rcases hi with hi | hi
      · have hpre : pat <+: c :: r := by
          rw [append_of_cutAt? hr]
          exact hi.trans (append_dropLast_isPrefix_append (c :: a') pat b')
        obtain ⟨rest, hrest⟩ := hpre
        rw [isPrefixOf?_eq_some_iff.2 hrest.symm] at hnone
        cases hnone
      · exact ih hr hi

/-- The converse: a place with nothing of the pattern in front of it is where a text is cut. -/
theorem cutAt?_append {pat a : List Char} (hp : pat ≠ []) (h : ¬ pat <:+: a ++ pat.dropLast)
    (b : List Char) : cutAt? pat (a ++ pat ++ b) = some (a, b) := by
  induction a with
  | nil =>
    obtain ⟨p, ps, rfl⟩ := List.exists_cons_of_ne_nil hp
    have hpre : (p :: ps).isPrefixOf? (p :: (ps ++ b)) = some b := isPrefixOf?_eq_some_iff.2 rfl
    rw [List.nil_append, List.cons_append, cutAt?, hpre]
  | cons c a ih =>
    rw [List.cons_append, List.cons_append, cutAt?]
    split
    · next rest hrest =>
      rw [isPrefixOf?_eq_some_iff] at hrest
      -- an occurrence at the start would end before the one that is given
      have hlen : pat.length ≤ (c :: a ++ pat.dropLast).length := by
        simp only [List.length_append, List.length_cons, List.length_dropLast]
        omega
      have hpre : pat <+: c :: (a ++ pat ++ b) := ⟨rest, hrest.symm⟩
      have := List.prefix_of_prefix_length_le hpre (append_dropLast_isPrefix_append (c :: a) pat b) hlen
      exact absurd this.isInfix h
    · rw [ih fun hi => h (List.infix_cons hi)]
      rfl

theorem cutAt?_eq_none_iff {pat cs : List Char} (hp : pat ≠ []) :
    cutAt? pat cs = none ↔ ¬ pat <:+: cs := by
  induction cs with
  | nil => simp [cutAt?, hp]
  | cons c r ih =>
    rw [cutAt?, List.infix_cons_iff, not_or]
    split
    · next rest hrest =>
      rw [isPrefixOf?_eq_some_iff] at hrest
      simp only [reduceCtorEq, false_iff, not_and]
      exact fun h => absurd ⟨rest, hrest.symm⟩ h
    · next hnone =>
      rw [Option.map_eq_none_iff, ih]
      refine ⟨fun h => ⟨?_, h⟩, fun h => h.2⟩
      rintro ⟨rest, hrest⟩
      rw [isPrefixOf?_eq_some_iff.2 hrest.symm] at hnone
      cases hnone

/-- A cut does not depend on what follows the place behind it. -/
theorem cutAt?_of_append {pat cs a b u : List Char} (hp : pat ≠ [])
    (h : cutAt? pat (cs ++ u) = some (a, b ++ u)) : cutAt? pat cs = some (a, b) := by
  have hcs : cs = a ++ pat ++ b := by
    have := append_of_cutAt? h
    rwa [← List.append_assoc, List.append_cancel_right_eq] at this
  rw [hcs]
  exact cutAt?_append hp (not_infix_of_cutAt? hp h) b

/-! ## One step of the scan -/

theorem Bracket.opener_ne_nil (b : Bracket) : b.opener ≠ [] := by cases b <;> simp [Bracket.opener]

theorem Bracket.closer_ne_nil (b : Bracket) : b.closer ≠ [] := by cases b <;> simp [Bracket.closer]

theorem opening?_opener_append (b : Bracket) (r : List Char) :
    opening? (b.opener ++ r) = some (b, r) := by
  cases b <;> rfl

theorem opening?_append {cs r u : List Char} {b : Bracket} (h : opening? cs = some (b, r)) :
    opening? (cs ++ u) = some (b, r ++ u) := by
  rw [append_of_opening? h, List.append_assoc, opening?_opener_append]

@[simp] theorem Segment.source_ofContent (b : Bracket) (content : List Char) :
    (Segment.ofContent b content).source = b.opener ++ content ++ b.closer := by
  unfold Segment.ofContent
  split <;> rfl

/-- The first segment of what is left of a word, and what is left behind it. -/
inductive ScanStep : List Char → Segment → List Char → Prop
  | char {c : Char} {r : List Char} : opening? (c :: r) = none → ScanStep (c :: r) (.text [c]) r
  | bracket {cs r content rest : List Char} {b : Bracket} : opening? cs = some (b, r) →
      cutAt? b.closer r = some (content, rest) → ScanStep cs (.ofContent b content) rest
  | unclosed {cs r : List Char} {b : Bracket} : opening? cs = some (b, r) →
      cutAt? b.closer r = none → ScanStep cs (.text cs) []

namespace ScanStep

theorem append {cs rest : List Char} {s : Segment} (h : ScanStep cs s rest) : cs = s.source ++ rest := by
  cases h with
  | char => rfl
  | bracket ho hc => rw [append_of_opening? ho, append_of_cutAt? hc]; simp
  | unclosed => simp [Segment.source]

/-- A step does not look further than its segment, unless it takes all that is left. -/
theorem restrict {s : Segment} {t u : List Char} (h : ScanStep (s.source ++ (t ++ u)) s (t ++ u)) :
    ScanStep (s.source ++ t) s t := by
  generalize hcs : s.source ++ (t ++ u) = cs at h
  generalize hrest : t ++ u = rest at h
  cases h with
  | @char c r ho =>
    refine .char ?_
    cases hc : opening? (c :: t) with
    | none => exact hc
    | some p =>
      have := opening?_append (u := u) hc
      rw [List.cons_append, hrest, ho] at this
      cases this
  | @bracket _ r content rest b ho hc =>
    subst hrest
    rw [Segment.source_ofContent]
    have hr : r = content ++ b.closer ++ t ++ u := by simpa using append_of_cutAt? hc
    refine .bracket (r := content ++ b.closer ++ t) ?_ ?_
    · rw [List.append_assoc, List.append_assoc, opening?_opener_append, List.append_assoc]
    · exact cutAt?_of_append (u := u) b.closer_ne_nil (hr ▸ hc)
  | unclosed ho hc =>
    obtain ⟨rfl, rfl⟩ := List.append_eq_nil_iff.1 hrest
    simp only [Segment.source, List.append_nil]
    exact .unclosed ho hc

end ScanStep

@[simp] theorem cuts_nil : cuts [] = [] := by rw [cuts]; rfl

/-- The scan takes one step and goes on with what is left. -/
theorem cuts_of_step {cs rest : List Char} {s : Segment} (h : ScanStep cs s rest) :
    cuts cs = s :: cuts rest := by
  cases h with
  | char ho => rw [cuts]; split <;> simp_all
  | bracket ho hc =>
    rw [cuts]
    split
    · next b r ho' =>
      rw [ho] at ho'
      cases ho'
      split
      · next content rest hc' => rw [hc] at hc'; cases hc'; rfl
      · next hc' => rw [hc] at hc'; cases hc'
    · next ho' => rw [ho] at ho'; cases ho'
  | unclosed ho hc =>
    rw [cuts]
    split
    · next b r ho' =>
      rw [ho] at ho'
      cases ho'
      split
      · next content rest hc' => rw [hc] at hc'; cases hc'
      · simp
    · next ho' => rw [ho] at ho'; cases ho'

theorem exists_step {cs : List Char} (h : cs ≠ []) : ∃ s rest, ScanStep cs s rest := by
  cases ho : opening? cs with
  | none =>
    obtain ⟨c, r, rfl⟩ := List.exists_cons_of_ne_nil h
    exact ⟨_, _, .char ho⟩
  | some p =>
    obtain ⟨b, r⟩ := p
    cases hc : cutAt? b.closer r with
    | none => exact ⟨_, _, .unclosed ho hc⟩
    | some q => exact ⟨_, _, .bracket ho hc⟩

theorem cuts_eq_cons_iff {cs : List Char} {s : Segment} {ss : List Segment} :
    cuts cs = s :: ss ↔ ∃ rest, ScanStep cs s rest ∧ cuts rest = ss := by
  constructor
  · intro h
    have hcs : cs ≠ [] := by rintro rfl; simp at h
    obtain ⟨s', rest, hs⟩ := exists_step hcs
    rw [cuts_of_step hs, List.cons.injEq] at h
    obtain ⟨rfl, h⟩ := h
    exact ⟨rest, hs, h⟩
  · rintro ⟨rest, hs, rfl⟩
    exact cuts_of_step hs

/-! ## The segments of a word -/

/-- The source of a run of segments. -/
def sources (ss : List Segment) : List Char := ss.flatMap Segment.source

@[simp] theorem sources_nil : sources [] = [] := rfl

@[simp] theorem sources_cons (s : Segment) (ss : List Segment) :
    sources (s :: ss) = s.source ++ sources ss := rfl

@[simp] theorem sources_append (ss ss' : List Segment) :
    sources (ss ++ ss') = sources ss ++ sources ss' := List.flatMap_append

theorem sources_cuts (cs : List Char) : sources (cuts cs) = cs := by
  -- the induction is on the segments: a word has as many steps as segments
  generalize hss : cuts cs = ss
  induction ss generalizing cs with
  | nil =>
    by_contra hcs
    obtain ⟨s, rest, hs⟩ := exists_step fun h => hcs h.symm
    rw [cuts_of_step hs] at hss
    cases hss
  | cons s ss ih =>
    obtain ⟨rest, hs, hrest⟩ := cuts_eq_cons_iff.1 hss
    rw [sources_cons, ih rest hrest, hs.append]

theorem cuts_sources_of_isSuffix {ss : List Segment} {cs : List Char} (h : ss <:+ cuts cs) :
    cuts (sources ss) = ss := by
  generalize hl : cuts cs = l at h
  induction l generalizing cs with
  | nil => rw [List.suffix_nil.1 h]; simp
  | cons s l ih =>
    rcases List.suffix_cons_iff.1 h with rfl | h
    · rw [← hl, sources_cuts]
    · obtain ⟨rest, -, hrest⟩ := cuts_eq_cons_iff.1 hl
      exact ih hrest h

theorem cuts_sources_of_isPrefix {ss : List Segment} {cs : List Char} (h : ss <+: cuts cs) :
    cuts (sources ss) = ss := by
  induction ss generalizing cs with
  | nil => simp
  | cons s ss ih =>
    obtain ⟨l, hl⟩ := h
    rw [List.cons_append] at hl
    obtain ⟨rest, hs, hrest⟩ := cuts_eq_cons_iff.1 hl.symm
    -- what is left behind the first segment ends in the segments behind the run, and the step that
    -- made the first segment did not need them
    have hsrc : rest = sources ss ++ sources l := by rw [← sources_cuts rest, hrest, sources_append]
    rw [hs.append, hsrc] at hs
    rw [sources_cons, cuts_of_step hs.restrict, ih ⟨l, hrest.symm⟩]

/-- Any run of neighbouring segments is what the scan makes of the source of the run alone. -/
theorem cuts_sources_of_isInfix {ss : List Segment} {cs : List Char} (h : ss <:+: cuts cs) :
    cuts (sources ss) = ss := by
  obtain ⟨l, hpre, hsuf⟩ := List.infix_iff_prefix_suffix.1 h
  rw [← cuts_sources_of_isSuffix hsuf] at hpre
  exact cuts_sources_of_isPrefix hpre

/-- A field segment stands in brackets whose content holds no closer and describes the field. -/
def Segment.IsWellFormed : Segment → Prop
  | .text _ => True
  | .field b content f => ¬ b.closer <:+: content ∧ Field.parse? b content = some f

theorem ScanStep.isWellFormed {cs rest : List Char} {s : Segment} (h : ScanStep cs s rest) :
    s.IsWellFormed := by
  cases h with
  | char => trivial
  | @bracket _ r content _ b ho hc =>
    unfold Segment.ofContent
    split
    · next f hf =>
      refine ⟨fun hi => ?_, hf⟩
      exact not_infix_of_cutAt? b.closer_ne_nil hc (hi.trans (List.prefix_append ..).isInfix)
    · trivial
  | unclosed => trivial

theorem of_mem_cuts {P : Segment → Prop} (hP : ∀ cs s rest, ScanStep cs s rest → P s)
    {cs : List Char} {s : Segment} (h : s ∈ cuts cs) : P s := by
  generalize hl : cuts cs = l at h
  induction l generalizing cs with
  | nil => cases h
  | cons s' l ih =>
    obtain ⟨rest, hs, hrest⟩ := cuts_eq_cons_iff.1 hl
    rcases List.mem_cons.1 h with rfl | h
    · exact hP _ _ _ hs
    · exact ih hrest h

/-! ## Joining texts -/

def Segment.isText : Segment → Bool
  | .text _ => true
  | .field .. => false

/-- No two texts next to each other. -/
def Joined (ss : List Segment) : Prop :=
  ss.IsChain fun s s' => ¬ (s.isText = true ∧ s'.isText = true)

/-- Joining puts a text and a text behind it together and leaves all else apart. -/
theorem joinText_cases (s : Segment) (ss : List Segment) :
    (∃ a b l, s = .text a ∧ ss = .text b :: l ∧ joinText s ss = .text (a ++ b) :: l) ∨
      (s = .text [] ∧ joinText s ss = ss) ∨
      (s ≠ .text [] ∧ (∀ s' ∈ ss.head?, ¬ (s.isText = true ∧ s'.isText = true)) ∧
        joinText s ss = s :: ss) := by
  cases s with
  | field b content f => exact .inr (.inr ⟨by simp, by simp [Segment.isText], by simp [joinText]⟩)
  | text a =>
    cases a with
    | nil => exact .inr (.inl ⟨rfl, by simp [joinText]⟩)
    | cons c a =>
      cases ss with
      | nil => exact .inr (.inr ⟨by simp, by simp, by simp [joinText]⟩)
      | cons s' l =>
        cases s' with
        | text b => exact .inl ⟨_, _, _, rfl, rfl, by simp [joinText]⟩
        | field b content f =>
          exact .inr (.inr ⟨by simp, by simp [Segment.isText], by simp [joinText]⟩)

@[simp] theorem sources_joinText (s : Segment) (ss : List Segment) :
    sources (joinText s ss) = s.source ++ sources ss := by
  rcases joinText_cases s ss with ⟨a, b, l, rfl, rfl, h⟩ | ⟨rfl, h⟩ | ⟨-, -, h⟩
  · rw [h]; simp [Segment.source]
  · rw [h]; simp [Segment.source]
  · rw [h]; simp

theorem joined_joinText {s : Segment} {ss : List Segment} (h : Joined ss) :
    Joined (joinText s ss) := by
  rcases joinText_cases s ss with ⟨a, b, l, rfl, rfl, hj⟩ | ⟨-, hj⟩ | ⟨-, hs, hj⟩
  · rw [hj]
    cases l with
    | nil => exact List.isChain_singleton _
    | cons s' l =>
      unfold Joined at h ⊢
      rw [List.isChain_cons_cons] at h ⊢
      exact h
  · rw [hj]; exact h
  · rw [hj]; exact List.isChain_cons.2 ⟨hs, h⟩

/-- The text at the start of a joined run is the source of the texts at its start. -/
theorem exists_prefix_of_foldr_joinText {l ss : List Segment} {t : List Char}
    (h : l.foldr joinText [] = .text t :: ss) :
    ∃ ss', ss' <+: l ∧ (∀ s ∈ ss', s.isText = true) ∧ sources ss' = t := by
  induction l generalizing t ss with
  | nil => cases h
  | cons s l ih =>
    rw [List.foldr_cons] at h
    rcases joinText_cases s (l.foldr joinText []) with ⟨a, b, l', rfl, hl, hj⟩ | ⟨rfl, hj⟩ | ⟨-, -, hj⟩
    · obtain ⟨ss', hpre, hall, hsrc⟩ := ih hl
      rw [hj] at h
      cases h
      refine ⟨.text a :: ss', List.cons_prefix_cons.2 ⟨rfl, hpre⟩, ?_, ?_⟩
      · simpa [Segment.isText] using hall
      · rw [sources_cons, hsrc]; rfl
    · rw [hj] at h
      obtain ⟨ss', hpre, hall, hsrc⟩ := ih h
      refine ⟨.text [] :: ss', List.cons_prefix_cons.2 ⟨rfl, hpre⟩, ?_, ?_⟩
      · simpa [Segment.isText] using hall
      · rw [sources_cons, hsrc]; rfl
    · rw [hj] at h
      cases h
      exact ⟨[.text t], by simp, by simp [Segment.isText], by simp [Segment.source]⟩

/-- Every text of a joined run is the source of a run of texts. -/
theorem exists_infix_of_text_mem {l : List Segment} {t : List Char}
    (h : .text t ∈ l.foldr joinText []) :
    ∃ ss, ss <:+: l ∧ (∀ s ∈ ss, s.isText = true) ∧ sources ss = t := by
  induction l with
  | nil => cases h
  | cons s l ih =>
    -- a text further behind lies in the rest already
    have hrest : .text t ∈ l.foldr joinText [] →
        ∃ ss, ss <:+: s :: l ∧ (∀ s ∈ ss, s.isText = true) ∧ sources ss = t := by
      intro h
      obtain ⟨ss, hin, hss⟩ := ih h
      exact ⟨ss, List.infix_cons hin, hss⟩
    rw [List.foldr_cons] at h
    rcases joinText_cases s (l.foldr joinText []) with ⟨a, b, l', rfl, hl, hj⟩ | ⟨-, hj⟩ | ⟨-, -, hj⟩
    · rw [hj] at h
      rcases List.mem_cons.1 h with h | h
      · cases h
        obtain ⟨ss, hpre, hss⟩ := exists_prefix_of_foldr_joinText (l := .text a :: l) hj
        exact ⟨ss, hpre.isInfix, hss⟩
      · exact hrest (hl ▸ List.mem_cons_of_mem _ h)
    · exact hrest (hj ▸ h)
    · rw [hj] at h
      rcases List.mem_cons.1 h with rfl | h
      · obtain ⟨ss, hpre, hss⟩ := exists_prefix_of_foldr_joinText (l := .text t :: l) hj
        exact ⟨ss, hpre.isInfix, hss⟩
      · exact hrest h

theorem mem_foldr_joinText_of_field {l : List Segment} {s : Segment} (hs : s.isText = false) :
    s ∈ l.foldr joinText [] ↔ s ∈ l := by
  induction l with
  | nil => simp
  | cons s' l ih =>
    have htext : ∀ a, s ≠ .text a := by rintro a rfl; cases hs
    rw [List.foldr_cons, List.mem_cons, ← ih]
    rcases joinText_cases s' (l.foldr joinText []) with ⟨a, b, l', rfl, hl, hj⟩ | ⟨rfl, hj⟩ | ⟨-, -, hj⟩
    · rw [hj, hl]; simp [htext]
    · rw [hj]; simp [htext]
    · rw [hj, List.mem_cons]

/-- A run of texts becomes one text. -/
theorem foldr_joinText_of_texts {l : List Segment} (h : ∀ s ∈ l, s.isText = true) :
    l.foldr joinText [] = joinText (.text (sources l)) [] := by
  induction l with
  | nil => rfl
  | cons s l ih =>
    rw [List.foldr_cons, ih fun s hs => h s (List.mem_cons_of_mem _ hs)]
    cases s with
    | field => cases h _ (List.mem_cons_self ..)
    | text a =>
      rw [sources_cons, Segment.source]
      cases a with
      | nil => rfl
      | cons c a => cases sources l <;> simp [joinText]

theorem text_nil_not_mem_foldr_joinText (l : List Segment) : .text [] ∉ l.foldr joinText [] := by
  induction l with
  | nil => simp
  | cons s l ih =>
    rw [List.foldr_cons]
    rcases joinText_cases s (l.foldr joinText []) with ⟨a, b, l', rfl, hl, hj⟩ | ⟨rfl, hj⟩ | ⟨hs, -, hj⟩
    · rw [hj]
      rw [hl] at ih
      simp only [List.mem_cons, not_or, Segment.text.injEq] at ih ⊢
      exact ⟨fun h => ih.1 (List.append_eq_nil_iff.1 h.symm).2.symm, ih.2⟩
    · rw [hj]; exact ih
    · rw [hj, List.mem_cons, not_or]; exact ⟨hs.symm, ih⟩

/-! ## The segments, joined -/

theorem sources_foldr_joinText (l : List Segment) : sources (l.foldr joinText []) = sources l := by
  induction l with
  | nil => rfl
  | cons s l ih => rw [List.foldr_cons, sources_joinText, ih, sources_cons]

@[simp] theorem sources_segments (cs : List Char) : sources (segments cs) = cs := by
  rw [segments, sources_foldr_joinText, sources_cuts]

theorem joined_segments (cs : List Char) : Joined (segments cs) := by
  unfold segments
  induction cuts cs with
  | nil => exact List.isChain_nil
  | cons s l ih => exact joined_joinText ih

theorem isWellFormed_of_mem_segments {cs : List Char} {s : Segment} (h : s ∈ segments cs) :
    s.IsWellFormed := by
  cases hs : s.isText with
  | true => cases s with
    | text => trivial
    | field => cases hs
  | false => exact of_mem_cuts (fun _ _ _ => ScanStep.isWellFormed) ((mem_foldr_joinText_of_field hs).1 h)

/-- A text of a word is one text for the scan. -/
theorem segments_of_text_mem {cs t : List Char} (h : .text t ∈ segments cs) :
    segments t = [.text t] := by
  have hne : t ≠ [] := by rintro rfl; exact text_nil_not_mem_foldr_joinText _ h
  obtain ⟨ss, hin, hall, rfl⟩ := exists_infix_of_text_mem h
  rw [segments, cuts_sources_of_isInfix hin, foldr_joinText_of_texts hall]
  obtain ⟨c, t, ht⟩ := List.exists_cons_of_ne_nil hne
  rw [ht]
  rfl

end CommandServer.Template
