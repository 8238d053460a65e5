/-
The spellings of a name. All spellings under which a parameter is looked up have one normalized
form, and a name is found in every spelling in which its normalized form is found. Among arguments
that carry normalized names only, a lookup is a lookup of the normalized name.
-/
import CommandServer.Arguments
import CommandServer.Proofs.OrderedMap

namespace CommandServer

/-! ## Normalized names -/

@[simp] theorem underscored_underscored (c : Char) : underscored (underscored c) = underscored c := by
  unfold underscored
  split <;> simp_all

@[simp] theorem underscored_dashed (c : Char) : underscored (dashed c) = underscored c := by
  unfold underscored dashed
  split <;> simp_all

@[simp] theorem dashed_underscored (c : Char) : dashed (underscored c) = dashed c := by
  unfold underscored dashed
  split <;> simp_all

@[simp] theorem normalizeName_normalizeName (n : String) :
    normalizeName (normalizeName n) = normalizeName n := by
  simp [normalizeName, String.map_map, Function.comp_def]

@[simp] theorem normalizeName_denormalizeName (n : String) :
    normalizeName (denormalizeName n) = normalizeName n := by
  simp [normalizeName, denormalizeName, String.map_map, Function.comp_def]

@[simp] theorem denormalizeName_normalizeName (n : String) :
    denormalizeName (normalizeName n) = denormalizeName n := by
  simp [normalizeName, denormalizeName, String.map_map, Function.comp_def]

theorem normalizeName_of_notMem {n : String} (h : '-' ∉ n.toList) : normalizeName n = n := by
  have hchar : ∀ c ∈ n.toList, underscored c = id c := by
    intro c hc
    refine if_neg ?_
    rintro rfl
    exact h hc
  rw [← String.toList_inj, normalizeName, String.toList_map, List.map_congr_left hchar, List.map_id]

namespace Arguments

variable {args : Arguments} {n : String} {v : Value}

theorem normalizeName_of_mem_spellings {k : String} (h : k ∈ spellings n) :
    normalizeName k = normalizeName n := by
  simp only [spellings, List.mem_cons, List.not_mem_nil, or_false] at h
  rcases h with rfl | rfl | rfl <;> simp

/-- What a lookup finds stands under some spelling of the name. -/
theorem exists_get?_of_lookup? (h : args.lookup? n = some v) :
    ∃ k, normalizeName k = normalizeName n ∧ args.get? k = some v := by
  obtain ⟨k, hk, hv⟩ := List.exists_of_findSome?_eq_some h
  exact ⟨k, normalizeName_of_mem_spellings hk, hv⟩

/-- A name is looked up as it is written, and then as its normalized form is. -/
theorem lookup?_eq_or (args : Arguments) (n : String) :
    args.lookup? n = (args.get? n).or (args.lookup? (normalizeName n)) := by
  unfold lookup? spellings
  rw [normalizeName_normalizeName, denormalizeName_normalizeName]
  simp only [List.findSome?_cons, List.findSome?_nil]
  cases args.get? n with
  | some v => rfl
  | none => cases args.get? (normalizeName n) <;> rfl

/-- A name is found as it is written whenever its normalized form is found. -/
theorem isSome_lookup?_of_normalizeName (h : (args.lookup? (normalizeName n)).isSome = true) :
    (args.lookup? n).isSome = true := by
  rw [lookup?_eq_or, Option.isSome_or, h, Bool.or_true]

/-- With normalized names only, the normalized name is the one that counts. -/
theorem lookup?_of_normalized (h : ∀ k v, args.get? k = some v → normalizeName k = k) (n : String) :
    args.lookup? n = args.get? (normalizeName n) := by
  unfold lookup? spellings
  rw [List.findSome?_cons, List.findSome?_cons, List.findSome?_cons, List.findSome?_nil]
  cases hn : args.get? n with
  | some v => rw [h n v hn, hn]
  | none =>
    cases hm : args.get? (normalizeName n) with
    | some v => rfl
    | none =>
      cases hd : args.get? (denormalizeName n) with
      | none => rfl
      | some v =>
        -- the name with dashes is normalized itself, so it is the name that was tried before
        have hdash := h _ v hd
        rw [normalizeName_denormalizeName] at hdash
        rw [hdash, hd] at hm
        cases hm

/-- Among arguments under names without dashes a name is found as its normalized form is. -/
theorem lookup?_normalizeName (h : ∀ k ∈ args.keys, '-' ∉ k.toList) (n : String) :
    args.lookup? (normalizeName n) = args.lookup? n := by
  have hkeys : ∀ k v, args.get? k = some v → normalizeName k = k := fun k v hv =>
    normalizeName_of_notMem (h k (List.mem_map_of_mem (OrderedMap.mem_entries_of_get? hv)))
  rw [lookup?_of_normalized hkeys, lookup?_of_normalized hkeys, normalizeName_normalizeName]

end Arguments

end CommandServer
