/-
What maps hold. A map holds under a name what its entries pair with the name, of several pairs that
are put into it the last one counts, and a map put over another one comes before it.
-/
import CommandServer.OrderedMap

namespace CommandServer.OrderedMap

variable {α : Type}

/-! ## Entries -/

theorem mem_entries_of_get? {m : OrderedMap α} {k : String} {v : α} (h : m.get? k = some v) :
    (k, v) ∈ m.entries := by
  obtain ⟨l, r, hm, -⟩ := List.lookup_eq_some_iff.1 h
  rw [hm]
  simp

theorem get?_of_mem_entries {m : OrderedMap α} {k : String} {v : α} (h : (k, v) ∈ m.entries) :
    m.get? k = some v := by
  obtain ⟨es, hnodup⟩ := m
  unfold get?
  induction es with
  | nil => cases h
  | cons e es ih =>
    obtain ⟨j, u⟩ := e
    obtain ⟨hj, hes⟩ := List.nodup_cons.1 hnodup
    rw [lookup_cons_ite]
    rcases List.mem_cons.1 h with heq | hmem
    · cases heq
      rw [if_pos rfl]
    · rw [if_neg]
      · exact ih hes hmem
      · rintro rfl
        exact hj (List.mem_map.2 ⟨_, hmem, rfl⟩)

theorem get?_filter (m : OrderedMap α) (p : String → α → Bool) (k : String) :
    (m.filter p).get? k = (m.get? k).filter (p k) := by
  cases hget : m.get? k with
  | none =>
    cases hf : (m.filter p).get? k with
    | none => rfl
    | some v =>
      have hmem := (List.mem_filter.1 (mem_entries_of_get? hf)).1
      rw [get?_of_mem_entries hmem] at hget
      cases hget
  | some v =>
    have hmem := mem_entries_of_get? hget
    cases hp : p k v with
    | true =>
      rw [Option.filter_some, if_pos hp]
      exact get?_of_mem_entries (List.mem_filter.2 ⟨hmem, hp⟩)
    | false =>
      rw [Option.filter_some, if_neg (by rw [hp]; exact Bool.false_ne_true)]
      cases hf : (m.filter p).get? k with
      | none => rfl
      | some u =>
        obtain ⟨hu, hpu⟩ := List.mem_filter.1 (mem_entries_of_get? hf)
        rw [get?_of_mem_entries hu] at hget
        cases hget
        rw [hp] at hpu
        cases hpu

theorem get?_of_isEmpty {m : OrderedMap α} (h : m.isEmpty = true) (k : String) :
    m.get? k = none := by
  unfold get?
  rw [List.isEmpty_iff.1 h]
  rfl

/-! ## Maps put over others -/

/-- The last pair under a name counts. -/
theorem get?_putAll (m : OrderedMap α) (pairs : List (String × α)) (k : String) :
    (m.putAll pairs).get? k = (pairs.reverse.lookup k).or (m.get? k) := by
  induction pairs generalizing m with
  | nil => rfl
  | cons p pairs ih =>
    obtain ⟨j, v⟩ := p
    show ((m.put j v).putAll pairs).get? k = _
    rw [ih, get?_put, List.reverse_cons, List.lookup_append, lookup_cons_ite, Option.or_assoc]
    congr 1
    split <;> rfl

theorem get?_ofPairs (pairs : List (String × α)) (k : String) :
    (ofPairs pairs).get? k = pairs.reverse.lookup k := by
  rw [ofPairs, get?_putAll, get?_empty, Option.or_none]

/-- Since no name stands twice in a map, the last pair under a name is the only one. -/
theorem lookup_reverse_entries (m : OrderedMap α) (k : String) :
    m.entries.reverse.lookup k = m.get? k := by
  have hnodup : (m.entries.reverse.map Prod.fst).Nodup := by
    rw [List.map_reverse]
    exact List.pairwise_reverse.2 (m.nodup_keys.imp Ne.symm)
  refine Option.ext fun v => ?_
  show get? ⟨m.entries.reverse, hnodup⟩ k = some v ↔ _
  constructor
  · exact fun h => get?_of_mem_entries (List.mem_reverse.1 (mem_entries_of_get? h))
  · exact fun h => get?_of_mem_entries (List.mem_reverse.2 (mem_entries_of_get? h))

theorem get?_overlay (m n : OrderedMap α) (k : String) :
    (m.overlay n).get? k = (n.get? k).or (m.get? k) := by
  rw [overlay, get?_putAll, lookup_reverse_entries]

end CommandServer.OrderedMap
