/-
Which values have a text. A value is written, as an argument or as JSON, unless an integer of too
many digits lies in it or its containers lie too deep in each other for what is left of the call
stack; so every value of moderate size has a text in all forms.
-/
import CommandServer.Proofs.Except
import CommandServer.Value.Json

namespace CommandServer

theorem writeInteger_eq_error_iff {n : Int} {f : Fault} :
    writeInteger n = .error f ↔ f = .integerUnwritable ∧ powTen Text.maxDigits ≤ n.natAbs := by
  unfold writeInteger
  split
  · next h => simp [h, eq_comm]
  · next h => simp [h]

namespace Value

/-! ## Type names -/

/-- The name of a value's type in JSON. Numbers of both sorts share one, lists and tuples another;
byte strings, which JSON does not have, go by a name of their own. -/
inductive HasTypeName : Value → String → Prop
  | null : HasTypeName .null "null"
  | bool (b : Bool) : HasTypeName (.bool b) "boolean"
  | int (n : Int) : HasTypeName (.int n) "number"
  | float (x : Binary64) : HasTypeName (.float x) "number"
  | text (s : String) : HasTypeName (.text s) "string"
  | bytes (bs : List UInt8) : HasTypeName (.bytes bs) "bytes"
  | list (xs : List Value) : HasTypeName (.list xs) "array"
  | tuple (xs : List Value) : HasTypeName (.tuple xs) "array"
  | record (es : List (String × Value)) : HasTypeName (.record es) "object"

theorem typeName_eq_iff {v : Value} {name : String} : v.typeName = name ↔ v.HasTypeName name := by
  constructor
  · rintro rfl
    cases v <;> constructor
  · rintro ⟨⟩ <;> rfl

/-! ## Values inside a value -/

/-- A value that lies directly in another one. -/
inductive Inside (x : Value) : Value → Prop
  | list {xs : List Value} (h : x ∈ xs) : Inside x (.list xs)
  | tuple {xs : List Value} (h : x ∈ xs) : Inside x (.tuple xs)
  | record {es : List (String × Value)} {k : String} (h : (k, x) ∈ es) : Inside x (.record es)

theorem Inside.sizeOf_lt {x v : Value} (h : x.Inside v) : sizeOf x < sizeOf v := by
  cases h with
  | list h =>
    have := List.sizeOf_lt_of_mem h
    simp
    omega
  | tuple h =>
    have := List.sizeOf_lt_of_mem h
    simp
    omega
  | record h =>
    have := List.sizeOf_lt_of_mem h
    simp at this ⊢
    omega

/-- What holds of a value when it holds of the values inside holds of every value. -/
@[elab_as_elim]
theorem insideInduction {motive : Value → Prop}
    (step : ∀ v, (∀ x, x.Inside v → motive x) → motive v) (v : Value) : motive v :=
  step v fun x _ => insideInduction step x
termination_by v
decreasing_by exact Inside.sizeOf_lt ‹_›

/-- Somewhere in the value is an integer of too many digits. -/
inductive HoldsLong : Value → Prop
  | int {n : Int} (h : powTen Text.maxDigits ≤ n.natAbs) : HoldsLong (.int n)
  | inside {x v : Value} (h : x.Inside v) (hx : HoldsLong x) : HoldsLong v

mutual

/-- The most containers that lie around a value in it. -/
def depth : Value → Nat
  | .list xs => itemsDepth xs
  | .tuple xs => itemsDepth xs
  | .record es => entriesDepth es
  | _ => 0

def itemsDepth : List Value → Nat
  | [] => 0
  | x :: xs => max (depth x + 1) (itemsDepth xs)

def entriesDepth : List (String × Value) → Nat
  | [] => 0
  | (_, x) :: es => max (depth x + 1) (entriesDepth es)

end

theorem depth_lt_itemsDepth {x : Value} {xs : List Value} (h : x ∈ xs) :
    x.depth < itemsDepth xs := by
  induction xs with
  | nil => cases h
  | cons y ys ih =>
    rw [itemsDepth]
    rcases List.mem_cons.1 h with rfl | h
    · omega
    · have := ih h
      omega

theorem depth_lt_entriesDepth {k : String} {x : Value} {es : List (String × Value)}
    (h : (k, x) ∈ es) : x.depth < entriesDepth es := by
  induction es with
  | nil => cases h
  | cons e es ih =>
    obtain ⟨k', y⟩ := e
    rw [entriesDepth]
    rcases List.mem_cons.1 h with heq | h
    · cases heq
      omega
    · have := ih h
      omega

theorem Inside.depth_lt {x v : Value} (h : x.Inside v) : x.depth < v.depth := by
  cases h with
  | list h => simpa only [depth] using depth_lt_itemsDepth h
  | tuple h => simpa only [depth] using depth_lt_itemsDepth h
  | record h => simpa only [depth] using depth_lt_entriesDepth h

/-! ## Values without a text -/

/-- The faults of a value that lies too deep. -/
def tooDeepFaults : List Fault := [.tooDeep, .tooDeepToWrite, .tooDeepToEncode]

/-- Why a value has no text, when each container takes a number of the free levels. -/
inductive Unwritable (cost free : Nat) (v : Value) : Fault → Prop
  | long (h : v.HoldsLong) : Unwritable cost free v .integerUnwritable
  | deep {f : Fault} (hf : f ∈ tooDeepFaults) (h : free ≤ cost * v.depth) :
    Unwritable cost free v f

section Unwritable

variable {cost free : Nat} {x v : Value} {f : Fault}

/-- A value inside another one costs the other its text as well. -/
theorem Unwritable.of_inside {levels : Nat} (h : x.Unwritable cost free f) (hx : x.Inside v)
    (hlevels : levels ≤ free + cost) : v.Unwritable cost levels f := by
  cases h with
  | long h => exact .long (.inside hx h)
  | deep hf h =>
    refine .deep hf ?_
    calc levels ≤ free + cost := hlevels
      _ ≤ cost * (x.depth + 1) := by rw [Nat.mul_succ]; omega
      _ ≤ cost * v.depth := Nat.mul_le_mul_left cost hx.depth_lt

theorem Unwritable.mono {cost' : Nat} (h : v.Unwritable cost free f) (hcost : cost ≤ cost') :
    v.Unwritable cost' free f := by
  cases h with
  | long h => exact .long h
  | deep hf h => exact .deep hf (Nat.le_trans h (Nat.mul_le_mul_right v.depth hcost))

theorem unwritable_of_writeInteger {n : Int} (h : writeInteger n = .error f) :
    Unwritable cost free (.int n) f := by
  obtain ⟨rfl, hlong⟩ := writeInteger_eq_error_iff.1 h
  exact .long (.int hlong)

/-! ## The written form -/

theorem writtenItems_eq_mapM (xs : List Value) :
    writtenItems (free + 1) xs = xs.mapM (written free) := by
  induction xs with
  | nil => rfl
  | cons x xs ih =>
    rw [writtenItems, List.mapM_cons, ih]

theorem writtenEntries_eq_mapM (es : List (String × Value)) :
    writtenEntries (free + 1) es =
      es.mapM fun e => (written free e.2).map fun s => Text.quoted e.1 ++ ": " ++ s := by
  induction es with
  | nil => rfl
  | cons e es ih =>
    obtain ⟨k, x⟩ := e
    rw [writtenEntries, List.mapM_cons, ih]
    cases written free x <;> rfl

/-- A list or a record whose parts are written fails for one of them. -/
theorem unwritable_of_mapM {α β : Type} {levels : Nat} {parts : List α} {part : α → Value}
    {write : α → Except Fault β} (hinside : ∀ a ∈ parts, (part a).Inside v)
    (hwrite : ∀ a ∈ parts, write a = .error f → (part a).Unwritable cost free f)
    (hlevels : levels ≤ free + cost) (h : parts.mapM write = .error f) :
    v.Unwritable cost levels f := by
  obtain ⟨before, a, after, rfl, ha, -⟩ := mapM_eq_error_iff_first.1 h
  exact (hwrite a (by simp) ha).of_inside (hinside a (by simp)) hlevels

theorem unwritable_of_writtenItems {xs : List Value} (hinside : ∀ x ∈ xs, x.Inside v)
    (ih : ∀ x ∈ xs, ∀ free, x.written free = .error f → x.Unwritable 1 free f)
    (h : writtenItems free xs = .error f) : v.Unwritable 1 free f := by
  cases free with
  | zero =>
    cases xs with
    | nil => cases h
    | cons x xs =>
      cases h
      exact .deep (by decide) (Nat.zero_le _)
  | succ free =>
    rw [writtenItems_eq_mapM] at h
    exact unwritable_of_mapM hinside (fun x hx => ih x hx free) (Nat.le_refl _) h

theorem unwritable_of_written (h : v.written free = .error f) : v.Unwritable 1 free f := by
  induction v using insideInduction generalizing free with
  | step v ih =>
    cases v with
    | int n => exact unwritable_of_writeInteger (by simpa only [written] using h)
    | list xs =>
      rw [written, bind_pure_eq_error_iff] at h
      exact unwritable_of_writtenItems (fun x => .list) (fun x hx _ => ih x (.list hx)) h
    | tuple xs =>
      rw [written, bind_pure_eq_error_iff] at h
      exact unwritable_of_writtenItems (fun x => .tuple) (fun x hx _ => ih x (.tuple hx)) h
    | record es =>
      rw [written, bind_pure_eq_error_iff] at h
      cases free with
      | zero =>
        cases es with
        | nil => cases h
        | cons e es =>
          cases h
          exact .deep (by decide) (Nat.zero_le _)
      | succ free =>
        rw [writtenEntries_eq_mapM] at h
        refine unwritable_of_mapM (fun e => .record) (fun e he hfail => ?_) (Nat.le_refl _) h
        exact ih e.2 (.record he) (map_eq_error_iff.1 hfail)
    | _ =>
      rw [written] at h
      cases h

/-! ## The argument form -/

theorem argumentTexts_eq_mapM (xs : List Value) :
    argumentTexts (free + 3) xs = xs.mapM (argumentText free) := by
  induction xs with
  | nil => rfl
  | cons x xs ih =>
    rw [argumentTexts, List.mapM_cons, ih]

theorem argumentTexts_of_lt (h : free < 3) (x : Value) (xs : List Value) :
    argumentTexts free (x :: xs) = .error .tooDeep := by
  match free with
  | 0 | 1 | 2 => rfl

theorem unwritable_of_argumentTexts {xs : List Value} (hinside : ∀ x ∈ xs, x.Inside v)
    (ih : ∀ x ∈ xs, ∀ free, x.argumentText free = .error f → x.Unwritable 3 free f)
    (h : argumentTexts free xs = .error f) : v.Unwritable 3 free f := by
  by_cases hfree : free < 3
  · cases xs with
    | nil => cases h
    | cons x xs =>
      rw [argumentTexts_of_lt hfree] at h
      cases h
      have hdepth := (hinside x (by simp)).depth_lt
      exact .deep (by decide) (by omega)
  · obtain ⟨free, rfl⟩ : ∃ n, free = n + 3 := ⟨free - 3, by omega⟩
    rw [argumentTexts_eq_mapM] at h
    exact unwritable_of_mapM hinside (fun x hx => ih x hx free) (Nat.le_refl _) h

theorem unwritable_of_argumentText (h : v.argumentText free = .error f) :
    v.Unwritable 3 free f := by
  induction v using insideInduction generalizing free with
  | step v ih =>
    cases v with
    | list xs =>
      rw [argumentText, bind_pure_eq_error_iff] at h
      exact unwritable_of_argumentTexts (fun x => .list) (fun x hx _ => ih x (.list hx)) h
    | tuple xs =>
      rw [argumentText, bind_pure_eq_error_iff] at h
      exact unwritable_of_argumentTexts (fun x => .tuple) (fun x hx _ => ih x (.tuple hx)) h
    | int n =>
      have h : written free (.int n) = .error f := by simpa only [argumentText] using h
      exact (unwritable_of_written h).mono (by decide)
    | float x => 
      have h : written free (.float x) = .error f := by simpa only [argumentText] using h
      exact (unwritable_of_written h).mono (by decide)
    | bytes bs =>
      have h : written free (.bytes bs) = .error f := by simpa only [argumentText] using h
      exact (unwritable_of_written h).mono (by decide)
    | record es =>
      have h : written free (.record es) = .error f := by simpa only [argumentText] using h
      exact (unwritable_of_written h).mono (by decide)
    | _ =>
      rw [argumentText] at h
      cases h

/-- An integer of too many digits has no text. -/
theorem argumentText_of_long {n : Int} (h : powTen Text.maxDigits ≤ n.natAbs) :
    argumentText free (.int n) = .error .integerUnwritable := by
  simp only [argumentText, written, writeInteger, if_pos h]

/-! ## JSON -/

theorem jsonItems_eq_mapM (xs : List Value) : jsonItems free xs = xs.mapM (json free) := by
  induction xs with
  | nil => rfl
  | cons x xs ih =>
    rw [jsonItems, List.mapM_cons, ih]

theorem jsonEntries_eq_mapM (es : List (String × Value)) :
    jsonEntries free es =
      es.mapM fun e => (json free e.2).map fun s => jsonString e.1 ++ ": " ++ s := by
  induction es with
  | nil => rfl
  | cons e es ih =>
    obtain ⟨k, x⟩ := e
    rw [jsonEntries, List.mapM_cons, ih]
    cases json free x <;> rfl

theorem unwritable_of_json_zero (h : v.json 0 = .error f) : v.Unwritable cost 0 f := by
  cases v with
  | int n =>
    rw [json] at h
    exact unwritable_of_writeInteger h
  | null | bool | float | text =>
    rw [json] at h
    cases h
  | bytes | list | tuple | record =>
    cases h
    exact .deep (by decide) (Nat.zero_le _)

theorem unwritable_of_json (h : v.json free = .error f) : v.Unwritable 1 free f := by
  induction v using insideInduction generalizing free with
  | step v ih =>
    cases free with
    | zero => exact unwritable_of_json_zero h
    | succ free =>
      cases v with
      | int n =>
        rw [json] at h
        exact unwritable_of_writeInteger h
      | list xs =>
        rw [json, bind_pure_eq_error_iff, jsonItems_eq_mapM] at h
        exact unwritable_of_mapM (fun x => .list) (fun x hx => ih x (.list hx)) (Nat.le_refl _) h
      | tuple xs =>
        rw [json, bind_pure_eq_error_iff, jsonItems_eq_mapM] at h
        exact unwritable_of_mapM (fun x => .tuple) (fun x hx => ih x (.tuple hx)) (Nat.le_refl _) h
      | record es =>
        rw [json, bind_pure_eq_error_iff, jsonEntries_eq_mapM] at h
        refine unwritable_of_mapM (fun e => .record) (fun e he hfail => ?_) (Nat.le_refl _) h
        exact ih e.2 (.record he) (map_eq_error_iff.1 hfail)
      | _ =>
        rw [json] at h
        cases h

/-! ## Values with a text -/

section Writable

variable (hlong : ¬v.HoldsLong)
include hlong

theorem not_unwritable (hdepth : cost * v.depth < free) : ¬v.Unwritable cost free f := by
  rintro (hl | ⟨-, hd⟩)
  · exact hlong hl
  · omega

/-- A value without long integers that does not lie too deep has a text as JSON. -/
theorem exists_json (hdepth : v.depth < free) : ∃ s, v.json free = .ok s := by
  cases h : v.json free with
  | error f =>
    exact absurd (unwritable_of_json h) (not_unwritable hlong (by rwa [Nat.one_mul]))
  | ok s => exact ⟨s, rfl⟩

end Writable

end Unwritable

/-! ## Values as arguments -/

/-- A value cannot be written as arguments, be it as a whole or item by item. -/
inductive Fails (stack : Stack) (v : Value) (fault : Fault) : Prop
  | whole (h : v.argumentText stack.free = .error fault)
  | item {xs : List Value} {x : Value} (hxs : v.items? = some xs) (hx : x ∈ xs)
    (h : x.argumentText stack.free = .error fault)

section Fails

variable {stack : Stack} {v : Value} {fault : Fault}

theorem Inside.of_items? {xs : List Value} {x : Value} (hxs : v.items? = some xs) (hx : x ∈ xs) :
    x.Inside v := by
  cases v with
  | list ys =>
    cases hxs
    exact .list hx
  | tuple ys =>
    cases hxs
    exact .tuple hx
  | _ => cases hxs

theorem Fails.unwritable (h : v.Fails stack fault) : v.Unwritable 3 stack.free fault := by
  cases h with
  | whole h => exact unwritable_of_argumentText h
  | item hxs hx h =>
    exact (unwritable_of_argumentText h).of_inside (.of_items? hxs hx) (Nat.le_add_right _ 3)

theorem mapM_argumentText_texts (free : Nat) (ss : List String) :
    (ss.map text).mapM (argumentText free) = .ok ss := by
  rw [mapM_eq_ok_iff, List.forall₂_map_left_iff, List.forall₂_same]
  exact fun s _ => argumentText_text free s

theorem argumentTexts_texts {free : Nat} (h : 3 ≤ free) (ss : List String) :
    argumentTexts free (ss.map text) = .ok ss := by
  obtain ⟨n, rfl⟩ := Nat.exists_eq_add_of_le' h
  rw [argumentTexts_eq_mapM, mapM_argumentText_texts]

/-- Texts alone always fit. -/
theorem not_fails_of_texts {ss : List String} (h : v.items? = some (ss.map text)) :
    ¬v.Fails stack fault := by
  rintro (hwhole | ⟨hxs, hx, hitem⟩)
  · have htexts := argumentTexts_texts stack.three_le_free ss
    cases v with
    | list xs | tuple xs =>
      cases h
      rw [argumentText, bind_pure_eq_error_iff, htexts] at hwhole
      cases hwhole
    | _ => cases h
  · rw [h] at hxs
    cases hxs
    obtain ⟨s, -, rfl⟩ := List.mem_map.1 hx
    rw [argumentText_text] at hitem
    cases hitem

end Fails

/-! ## Nests -/

/-- A value inside records, one in the other. -/
def inRecords : Nat → Value → Value
  | 0, v => v
  | n + 1, v => .record [("k", inRecords n v)]

/-- A value inside lists, one in the other. -/
def inLists : Nat → Value → Value
  | 0, v => v
  | n + 1, v => .list [inLists n v]

section Nests

variable {free n : Nat} {k : String} {v : Value}

@[simp] theorem depth_record_singleton : (record [(k, v)]).depth = v.depth + 1 := by
  simp [depth, entriesDepth]

@[simp] theorem depth_list_singleton : (list [v]).depth = v.depth + 1 := by
  simp [depth, itemsDepth]

@[simp] theorem holdsLong_record_singleton : (record [(k, v)]).HoldsLong ↔ v.HoldsLong := by
  constructor
  · rintro (_ | ⟨_ | _ | hx, hlong⟩)
    cases List.mem_singleton.1 hx
    exact hlong
  · exact .inside (.record (List.mem_singleton_self _))

@[simp] theorem holdsLong_list_singleton : (list [v]).HoldsLong ↔ v.HoldsLong := by
  constructor
  · rintro (_ | ⟨hx | _ | _, hlong⟩)
    cases List.mem_singleton.1 hx
    exact hlong
  · exact .inside (.list (List.mem_singleton_self _))

theorem depth_inRecords : (inRecords n v).depth = v.depth + n := by
  induction n with
  | zero => rfl
  | succ n ih => rw [inRecords, depth_record_singleton, ih, Nat.add_assoc]

theorem depth_inLists : (inLists n v).depth = v.depth + n := by
  induction n with
  | zero => rfl
  | succ n ih => rw [inLists, depth_list_singleton, ih, Nat.add_assoc]

theorem holdsLong_inRecords : (inRecords n v).HoldsLong ↔ v.HoldsLong := by
  induction n with
  | zero => exact Iff.rfl
  | succ n ih => rw [inRecords, holdsLong_record_singleton, ih]

theorem holdsLong_inLists : (inLists n v).HoldsLong ↔ v.HoldsLong := by
  induction n with
  | zero => exact Iff.rfl
  | succ n ih => rw [inLists, holdsLong_list_singleton, ih]

/-- More records than there are levels cannot be written. -/
theorem written_inRecords (h : free < n) :
    (inRecords n v).written free = .error .tooDeepToWrite := by
  induction n generalizing free with
  | zero => omega
  | succ n ih =>
    rw [inRecords, written, bind_pure_eq_error_iff]
    cases free with
    | zero => rfl
    | succ free =>
      rw [writtenEntries, bind_eq_error_iff]
      exact .inl (ih (by omega))

theorem argumentText_inRecords (h : free < n) :
    (inRecords n v).argumentText free = .error .tooDeepToWrite := by
  cases n with
  | zero => omega
  | succ n =>
    have heq : (inRecords (n + 1) v).argumentText free = (inRecords (n + 1) v).written free := by
      simp only [inRecords, argumentText]
    rw [heq, written_inRecords h]

/-- A list of one item is written as this item. -/
theorem argumentText_inLists :
    (inLists n v).argumentText (free + 3 * n) = v.argumentText free := by
  induction n with
  | zero => rfl
  | succ n ih =>
    rw [inLists, argumentText, Nat.mul_succ, ← Nat.add_assoc, argumentTexts_eq_mapM]
    simp only [List.mapM_cons, List.mapM_nil, ih]
    cases v.argumentText free <;> rfl

end Nests

/-- The least integer of too many digits. -/
def longInteger : Value := .int (powTen Text.maxDigits)

theorem powTen_le_longInteger : powTen Text.maxDigits ≤ (powTen Text.maxDigits : Int).natAbs :=
  Nat.le_of_eq (Int.natAbs_natCast _).symm

theorem argumentText_longInteger (free : Nat) :
    longInteger.argumentText free = .error .integerUnwritable :=
  argumentText_of_long powTen_le_longInteger

/-- JSON has no text for it either, also inside a record. -/
theorem json_record_longInteger (stack : Stack) (k : String) :
    (record [(k, longInteger)]).json stack.free = .error .integerUnwritable := by
  obtain ⟨free, hfree⟩ : ∃ n, stack.free = n + 1 :=
    Nat.exists_eq_add_of_le' (Nat.le_trans (by decide) stack.three_le_free)
  have hint : longInteger.json free = .error .integerUnwritable := by
    rw [longInteger, json, writeInteger_eq_error_iff]
    exact ⟨rfl, powTen_le_longInteger⟩
  rw [hfree, json, bind_pure_eq_error_iff, jsonEntries, hint]
  rfl

/-- A record of eighty levels inside three hundred and ten lists. -/
def nest : Value := inLists 310 (inRecords 80 (.text "z"))

theorem argumentText_nest : nest.argumentText Stack.usual.free = .error .tooDeepToWrite := by
  show nest.argumentText (40 + 3 * 310) = _
  rw [nest, argumentText_inLists]
  exact argumentText_inRecords (by decide)

/-- JSON takes fewer levels, and has a text for it. -/
theorem exists_json_record_nest (k : String) :
    ∃ text, (record [(k, nest)]).json Stack.usual.free = .ok text := by
  refine exists_json ?_ ?_
  · rw [holdsLong_record_singleton, nest, holdsLong_inLists, holdsLong_inRecords]
    rintro (_ | ⟨⟨⟩, -⟩)
  · rw [depth_record_singleton, nest, depth_inLists, depth_inRecords]
    decide

end Value

end CommandServer
