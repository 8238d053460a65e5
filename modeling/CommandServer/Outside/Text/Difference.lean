/-
What has changed between two lists: a shortest way from one to the other by leaving items out and
putting others in.
-/
namespace CommandServer.Text

/-- A step from one list to another. -/
inductive Edit (α : Type) where
  | keep (a b : α)
  | remove (a : α)
  | insert (b : α)

/-- Steps that follow one another without one that keeps an item, and where they begin in both
lists. -/
structure Hunk (α : Type) where
  start : Nat
  removed : List α
  otherStart : Nat
  inserted : List α

namespace Edit

variable {α : Type}

/-! ## Common items -/

/-- How many items an item and those behind it have in common with each end of another list, from
what those behind it have. -/
def commonRow (alike : α → α → Bool) (a : α) : List α → List Nat → List Nat
  | b :: bs, below :: more =>
    let rest := commonRow alike a bs more
    (if alike a b then more.headD 0 + 1 else max below (rest.headD 0)) :: rest
  | _, _ => [0]

/-- Such rows for every end of a list. -/
def commonRows (alike : α → α → Bool) (as bs : List α) : List (List Nat) :=
  as.foldr (fun a rows => commonRow alike a bs (rows.headD []) :: rows)
    [List.replicate (bs.length + 1) 0]

/-- A shortest way by such rows. What can be kept is kept, and items are left out before others are
put in. -/
def shortest (alike : α → α → Bool) : List (List Nat) → List α → List α → List (Edit α)
  | _, [], bs => bs.map insert
  | _, as, [] => as.map remove
  | rows, a :: as, b :: bs =>
    let next := rows.tail
    let shorter (rows : List (List Nat)) : List (List Nat) := rows.map List.tail
    if alike a b then keep a b :: shortest alike (shorter next) as bs
    else if (rows.headD []).getD 1 0 ≤ (next.headD []).headD 0 then
      remove a :: shortest alike next as (b :: bs)
    else insert b :: shortest alike (shorter rows) (a :: as) bs
termination_by _ as bs => as.length + bs.length

/-- The items that two lists have in common at their starts, and what is left of both. -/
def splitStart (alike : α → α → Bool) : List α → List α → List (Edit α) × List α × List α
  | a :: as, b :: bs =>
    if alike a b then
      let (kept, rest) := splitStart alike as bs
      (keep a b :: kept, rest)
    else ([], a :: as, b :: bs)
  | as, bs => ([], as, bs)

/-- A way from one list to another that keeps what they have in common at their starts and ends. -/
def between (alike : α → α → Bool) (as bs : List α) : List (Edit α) :=
  let (front, as, bs) := splitStart alike as bs
  let (back, as, bs) := splitStart alike as.reverse bs.reverse
  let (as, bs) := (as.reverse, bs.reverse)
  front ++ shortest alike (commonRows alike as bs) as bs ++ back.reverse

/-! ## Hunks -/

/-- The hunks of a way, the items before it being counted. -/
def hunks : Nat → Nat → Option (Hunk α) → List (Edit α) → List (Hunk α)
  | _, _, current, [] => current.toList
  | i, j, current, .keep _ _ :: rest => current.toList ++ hunks (i + 1) (j + 1) none rest
  | i, j, current, .remove a :: rest =>
    let h := current.getD ⟨i, [], j, []⟩
    hunks (i + 1) j (some { h with removed := h.removed ++ [a] }) rest
  | i, j, current, .insert b :: rest =>
    let h := current.getD ⟨i, [], j, []⟩
    hunks i (j + 1) (some { h with inserted := h.inserted ++ [b] }) rest

end Edit

end CommandServer.Text
