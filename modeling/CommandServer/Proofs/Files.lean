/-
What an operation on the tree of files leaves as it is, and what stands in its way. An entry that is
put at a place changes no other place, and directories that are made hold nothing and take the place
of nothing, so that the bytes everywhere stay the same. Where a name leads nowhere, there is nothing
at its end, or the name is too long.
-/
import CommandServer.Files
import CommandServer.Proofs.Except

namespace CommandServer.Files

open CommandServer.Text

variable {fs fs' : Files} {place : Place}

/-! ## Entries -/

theorem lookup_filter_bne {α : Type} (es : List (Place × α)) {place q : Place} (h : q ≠ place) :
    (es.filter fun e => e.1 != place).lookup q = es.lookup q := by
  induction es with
  | nil => rfl
  | cons e es ih =>
    obtain ⟨p, a⟩ := e
    by_cases hp : p = place
    · have hq : (q == p) = false := by simpa [hp] using h
      rw [List.filter_cons_of_neg (by simpa using hp), ih, List.lookup_cons, hq]
    · rw [List.filter_cons_of_pos (by simpa using hp), List.lookup_cons, List.lookup_cons, ih]

theorem lookup_put (es : List (Place × Entry)) (place q : Place) (e : Entry) :
    ((es.filter fun x => x.1 != place) ++ [(place, e)]).lookup q =
      if q = place then some e else es.lookup q := by
  rw [List.lookup_append, List.lookup_cons]
  by_cases h : q = place
  · have hgone : (es.filter fun x => x.1 != place).lookup place = none :=
      List.lookup_eq_none_iff.2 fun x hx => bne_comm.trans (List.mem_filter.1 hx).2
    rw [h, hgone, if_pos rfl, beq_self_eq_true]
    rfl
  · rw [lookup_filter_bne es h, if_neg h, beq_eq_false_iff_ne.2 h]
    exact Option.or_none

/-- The root is a directory whatever is put there. -/
theorem get?_put (h : place ≠ []) (e : Entry) (q : Place) :
    (fs.put place e).get? q = if q = place then some e else fs.get? q := by
  unfold get? put
  rw [lookup_put]
  by_cases hq : q = place
  · rw [if_neg (hq ▸ h), if_pos hq, if_pos hq]
  · rw [if_neg hq, if_neg hq]

/-! ## Walking -/

section Walk

variable {part : String} {rest : List String}

/-- The place that a part leads to from a directory. -/
def enter (fs : Files) (place : Place) (part : String) : Place :=
  if part = "." then place
  else if part = ".." then place.dropLast
  else fs.follow (place ++ [part])

theorem walk_of_missing (h : fs.get? place = none) :
    fs.walk place (part :: rest) = .error .missing := by
  rw [walk, h]

theorem walk_of_file {bytes : List UInt8} (h : fs.get? place = some (.file bytes)) :
    fs.walk place (part :: rest) = .error .notADirectory := by
  rw [walk, h]

theorem walk_of_directory (h : fs.get? place = some .directory)
    (hsize : part.utf8ByteSize ≤ maxNameSize) :
    fs.walk place (part :: rest) = fs.walk (fs.enter place part) rest := by
  rw [walk, h]
  unfold enter
  dsimp only
  split
  · rfl
  · split
    · rfl
    · rw [if_neg (Nat.not_lt.2 hsize)]

theorem walk_of_long (h : fs.get? place = some .directory)
    (hsize : maxNameSize < part.utf8ByteSize) :
    fs.walk place (part :: rest) = .error .nameTooLong := by
  -- both parts with a meaning of their own are short
  have hdot : part ≠ "." := by
    rintro rfl
    exact absurd hsize (by decide)
  have hdots : part ≠ ".." := by
    rintro rfl
    exact absurd hsize (by decide)
  rw [walk, h]
  dsimp only
  rw [if_neg hdot, if_neg hdots, if_pos hsize]

end Walk

/-- A walk comes from a directory to a part that is too long for a name. -/
inductive MeetsLongPart (fs : Files) : Place → List String → Prop
  | here {place : Place} {part : String} {rest : List String} (h : fs.get? place = some .directory)
    (hsize : maxNameSize < part.utf8ByteSize) : MeetsLongPart fs place (part :: rest)
  | further {place : Place} {part : String} {rest : List String}
    (h : fs.get? place = some .directory) (hsize : part.utf8ByteSize ≤ maxNameSize)
    (hrest : MeetsLongPart fs (fs.enter place part) rest) : MeetsLongPart fs place (part :: rest)

/-- A walk ends early below what is no directory, or at a part that is too long. -/
theorem walk_eq_error_iff_of_not_absence {parts : List String} {o : Obstacle}
    (hmissing : o ≠ .missing) (hfile : o ≠ .notADirectory) :
    fs.walk place parts = .error o ↔ o = .nameTooLong ∧ fs.MeetsLongPart place parts := by
  induction parts generalizing place with
  | nil => exact iff_of_false (fun h => nomatch h) fun ⟨_, h⟩ => nomatch h
  | cons part rest ih =>
    constructor
    · intro h
      cases hplace : fs.get? place with
      | none =>
        rw [walk_of_missing hplace] at h
        cases h
        exact absurd rfl hmissing
      | some e =>
        cases e with
        | file bytes =>
          rw [walk_of_file hplace] at h
          cases h
          exact absurd rfl hfile
        | directory =>
          rcases Nat.lt_or_ge maxNameSize part.utf8ByteSize with hsize | hsize
          · rw [walk_of_long hplace hsize] at h
            cases h
            exact ⟨rfl, .here hplace hsize⟩
          · rw [walk_of_directory hplace hsize] at h
            obtain ⟨rfl, hrest⟩ := ih.1 h
            exact ⟨rfl, .further hplace hsize hrest⟩
    · rintro ⟨rfl, h⟩
      cases h with
      | here h hsize => exact walk_of_long h hsize
      | further h hsize hrest =>
        rw [walk_of_directory h hsize]
        exact ih.2 ⟨rfl, hrest⟩

/-- A name is too long as a whole, or a walk along it meets a part that is. -/
def HasLongName (fs : Files) (working : Place) (name : String) : Prop :=
  maxPathSize < name.utf8ByteSize ∨
    fs.MeetsLongPart (if name.startsWith "/" then [] else working) (steps name)

theorem steps_empty : steps "" = [] := by decide +kernel

theorem find_eq_error_iff_of_not_absence {working : Place} {name : String} {o : Obstacle}
    (hmissing : o ≠ .missing) (hfile : o ≠ .notADirectory) :
    fs.find working name = .error o ↔ o = .nameTooLong ∧ fs.HasLongName working name := by
  -- once a place is found, all that can be wrong with it is that there is nothing
  have hfind : fs.find working name = .error o ↔ fs.locate working name = .error o := by
    unfold find
    rw [bind_eq_error_iff]
    refine or_iff_left ?_
    rintro ⟨place, -, h⟩
    split at h
    · cases h
    · cases h
      exact hmissing rfl
  rw [hfind]
  unfold locate HasLongName
  split
  · next hempty =>
    rw [String.isEmpty_iff] at hempty
    subst hempty
    refine iff_of_false ?_ ?_
    · rintro ⟨⟩
      exact hmissing rfl
    · rintro ⟨-, h | h⟩
      · exact absurd h (by decide)
      · rw [steps_empty] at h
        cases h
  · split
    · next hsize =>
      constructor
      · rintro ⟨⟩
        exact ⟨rfl, .inl hsize⟩
      · rintro ⟨rfl, -⟩
        rfl
    · next hsize =>
      rw [walk_eq_error_iff_of_not_absence hmissing hfile, or_iff_right hsize]

/-! ## Content -/

theorem content_congr {q : Place} (h : fs'.get? q = fs.get? q) :
    fs'.content q = fs.content q := by
  unfold content
  rw [h]

theorem content_put_of_ne {q : Place} (h : place ≠ []) (e : Entry) (hq : q ≠ place) :
    (fs.put place e).content q = fs.content q :=
  content_congr (by rw [get?_put h, if_neg hq])

theorem content_append (h : place ≠ []) (bytes : List UInt8) (q : Place) :
    (fs.append place bytes).content q = fs.content q ++ if q = place then bytes else [] := by
  by_cases hq : q = place
  · rw [if_pos hq, hq]
    unfold append content
    rw [get?_put h, if_pos rfl]
  · rw [if_neg hq, List.append_nil]
    exact content_put_of_ne h _ hq

/-- Where nothing is, a directory may be put. -/
theorem content_put_directory (h : fs.get? place = none) (q : Place) :
    (fs.put place .directory).content q = fs.content q := by
  have hplace : place ≠ [] := by
    rintro rfl
    cases h
  by_cases hq : q = place
  · unfold content
    rw [get?_put hplace, if_pos hq, hq, h]
  · exact content_put_of_ne hplace _ hq

theorem content_create_directory (h : fs.get? place = none) (mask : Nat) (q : Place) :
    (fs.create mask place .directory).content q = fs.content q := by
  unfold create
  dsimp only
  split
  · exact content_put_directory h q
  · exact content_put_directory h q

/-! ## Directories -/

theorem content_makeDirectory {working : Place} {name : String} {mask : Nat}
    (h : fs.makeDirectory working name mask = .ok fs') (q : Place) :
    fs'.content q = fs.content q := by
  unfold makeDirectory at h
  obtain ⟨place, -, h⟩ := bind_eq_ok_iff.1 h
  cases hget : fs.get? place with
  | some e =>
    rw [hget] at h
    cases h
  | none =>
    rw [hget] at h
    cases h
    exact content_create_directory hget mask q

theorem content_ensureDirectory {working : Place} {name : String} {mask : Nat}
    (h : fs.ensureDirectory working name mask = .ok fs') (q : Place) :
    fs'.content q = fs.content q := by
  unfold ensureDirectory at h
  split at h
  · cases h
  · split at h
    · cases h
      rfl
    · cases h
  · next hmake =>
    cases h
    exact content_makeDirectory hmake q

/-- Also when the directories cannot all be made. -/
theorem content_ensureDirectories (working : Place) (root : PathRoot) (parts : List String)
    (fs : Files) (q : Place) :
    (ensureDirectories working root parts fs).2.content q = fs.content q := by
  induction parts generalizing fs with
  | nil => rfl
  | cons part above ih =>
    unfold ensureDirectories
    dsimp only
    split
    · next h => exact content_ensureDirectory h q
    · split
      · next fs₁ habove =>
        have hfs₁ : fs₁.content q = fs.content q := by rw [← ih fs, habove]
        split
        · next h => exact (content_ensureDirectory h q).trans hfs₁
        · exact hfs₁
      · exact ih fs
    · rfl

/-! ## Files to write to -/

theorem get?_of_locateFile {working : Place} {name : String}
    (h : fs.locateFile working name = .ok place) : fs.get? place ≠ some .directory := by
  unfold locateFile at h
  obtain ⟨found, -, h⟩ := bind_eq_ok_iff.1 h
  split at h
  · cases h
  · next hfound =>
    split at h
    · cases h
    · cases h
      exact hfound

/-- A file is never at the root. -/
theorem ne_nil_of_locateFile {working : Place} {name : String}
    (h : fs.locateFile working name = .ok place) : place ≠ [] := by
  rintro rfl
  exact get?_of_locateFile h rfl

end CommandServer.Files
