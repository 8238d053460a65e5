/-
Maps from names to values in the order in which the names came. Putting a value under a name that
is present keeps the place of the name and replaces its value; a new name goes to the end.
-/
namespace CommandServer

/-! ## Entry lists -/

/-- The entries with `v` under `k`. -/
def putEntry {α : Type} (k : String) (v : α) : List (String × α) → List (String × α)
  | [] => [(k, v)]
  | (k', v') :: r => if k' = k then (k, v) :: r else (k', v') :: putEntry k v r

/-- The entries of a list of pairs, put one after the other. -/
def entriesOfPairs {α : Type} (pairs : List (String × α)) : List (String × α) :=
  pairs.foldl (fun es p => putEntry p.1 p.2 es) []

theorem keys_putEntry {α : Type} (k : String) (v : α) (es : List (String × α)) :
    (putEntry k v es).map Prod.fst =
      if k ∈ es.map Prod.fst then es.map Prod.fst else es.map Prod.fst ++ [k] := by
  induction es with
  | nil => simp [putEntry]
  | cons e r ih =>
    obtain ⟨k', v'⟩ := e
    by_cases h : k' = k
    · simp [putEntry, h]
    · have h' : ¬k = k' := fun e => h e.symm
      simp only [putEntry, h, if_false, List.map_cons, ih, List.mem_cons, h', false_or]
      split <;> simp

theorem nodup_keys_putEntry {α : Type} {es : List (String × α)} (h : (es.map Prod.fst).Nodup)
    (k : String) (v : α) : ((putEntry k v es).map Prod.fst).Nodup := by
  rw [keys_putEntry]
  split
  · exact h
  · next hk =>
    rw [List.nodup_append]
    refine ⟨h, by simp, ?_⟩
    intro a ha b hb
    simp only [List.mem_singleton] at hb
    exact fun e => hk (hb ▸ e ▸ ha)

theorem lookup_cons_ite {α : Type} (j k : String) (v : α) (es : List (String × α)) :
    ((k, v) :: es).lookup j = if j = k then some v else es.lookup j := by
  show (match j == k with
    | true => some v
    | false => es.lookup j) = _
  by_cases h : j = k
  · simp [h]
  · have : (j == k) = false := by simpa using h
    simp [h, this]

theorem lookup_putEntry {α : Type} (k j : String) (v : α) (es : List (String × α)) :
    (putEntry k v es).lookup j = if j = k then some v else es.lookup j := by
  induction es with
  | nil => simp [putEntry, lookup_cons_ite]
  | cons e r ih =>
    obtain ⟨k', v'⟩ := e
    by_cases h : k' = k
    · subst h
      by_cases hj : j = k' <;> simp [putEntry, lookup_cons_ite, hj]
    · by_cases hj : j = k'
      · subst hj; simp [putEntry, h]
      · simp [putEntry, lookup_cons_ite, h, hj, ih]

/-! ## Maps -/

structure OrderedMap (α : Type) where
  entries : List (String × α)
  nodup_keys : (entries.map Prod.fst).Nodup

namespace OrderedMap

variable {α β : Type}

def empty : OrderedMap α := ⟨[], by simp⟩

instance : Inhabited (OrderedMap α) := ⟨empty⟩

def isEmpty (m : OrderedMap α) : Bool := m.entries.isEmpty

def keys (m : OrderedMap α) : List String := m.entries.map Prod.fst

def get? (m : OrderedMap α) (k : String) : Option α := m.entries.lookup k

def put (m : OrderedMap α) (k : String) (v : α) : OrderedMap α :=
  ⟨putEntry k v m.entries, nodup_keys_putEntry m.nodup_keys k v⟩

/-- The pairs put into a map one after the other. -/
def putAll (m : OrderedMap α) (pairs : List (String × α)) : OrderedMap α :=
  pairs.foldl (fun m p => m.put p.1 p.2) m

def ofPairs (pairs : List (String × α)) : OrderedMap α :=
  empty.putAll pairs

/-- The first map with the entries of the second put over it. -/
def overlay (m n : OrderedMap α) : OrderedMap α :=
  m.putAll n.entries

/-- The entries that satisfy a condition. -/
def filter (p : String → α → Bool) (m : OrderedMap α) : OrderedMap α :=
  ⟨m.entries.filter fun e => p e.1 e.2, m.nodup_keys.sublist (List.filter_sublist.map Prod.fst)⟩

@[simp] theorem get?_empty (k : String) : (empty : OrderedMap α).get? k = none := rfl

theorem get?_put (m : OrderedMap α) (k j : String) (v : α) :
    (m.put k v).get? j = if j = k then some v else m.get? j :=
  lookup_putEntry k j v m.entries

end CommandServer.OrderedMap
