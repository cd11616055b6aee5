import Mathlib.Logic.Function.Iterate

/-!
# Erasing while iterating

A loop with an iterator over a container, which either steps over an element and makes
something of it, or erases it and goes on with the element behind it.
-/

namespace EraseLoop

variable {α β : Type*}

/-- The container, the place of the iterator, and what has been made of the elements before it. -/
structure Cursor (α β : Type*) where
  entries : List α
  place : Nat
  gathered : β

def Cursor.AtEnd (cursor : Cursor α β) : Prop := cursor.entries.length ≤ cursor.place

def turn (keep : α → Bool) (visit : β → α → β) (cursor : Cursor α β) : Cursor α β :=
  match cursor.entries[cursor.place]? with
  | none => cursor
  | some entry =>
    if keep entry then
      { cursor with place := cursor.place + 1, gathered := visit cursor.gathered entry }
    else { cursor with entries := cursor.entries.eraseIdx cursor.place }

variable {keep : α → Bool} {visit : β → α → β}

theorem turn_cons (front : List α) (entry : α) (rest : List α) (gathered : β) :
    turn keep visit ⟨front ++ entry :: rest, front.length, gathered⟩ =
      if keep entry then ⟨front ++ entry :: rest, front.length + 1, visit gathered entry⟩
      else ⟨front ++ rest, front.length, gathered⟩ := by
  have here : (front ++ entry :: rest)[front.length]? = some entry := by simp
  have erased : (front ++ entry :: rest).eraseIdx front.length = front ++ rest := by
    rw [List.eraseIdx_append_of_length_le (Nat.le_refl _), Nat.sub_self, List.eraseIdx_cons_zero]
  simp only [turn, here, erased]

/-- After one turn for each element behind the iterator the loop is at the end.  It has erased
what it was not to keep and nothing else. -/
theorem turn_iterate (front rest : List α) (gathered : β) :
    (turn keep visit)^[rest.length] ⟨front ++ rest, front.length, gathered⟩ =
      ⟨front ++ rest.filter keep, (front ++ rest.filter keep).length,
        (rest.filter keep).foldl visit gathered⟩ := by
  induction rest generalizing front gathered with
  | nil => simp
  | cons entry rest ih =>
    rw [List.length_cons, Function.iterate_succ_apply, turn_cons]
    cases kept : keep entry with
    | false =>
      rw [List.filter_cons_of_neg (by simp [kept]), if_neg Bool.false_ne_true]
      exact ih front gathered
    | true =>
      have next := ih (front ++ [entry]) (visit gathered entry)
      rw [List.length_append, List.length_singleton] at next
      simp only [List.append_assoc, List.singleton_append] at next
      rw [List.filter_cons_of_pos kept, List.foldl_cons, if_pos rfl]
      exact next

theorem turn_loop (entries : List α) (gathered : β) :
    (turn keep visit)^[entries.length] ⟨entries, 0, gathered⟩ =
      ⟨entries.filter keep, (entries.filter keep).length,
        (entries.filter keep).foldl visit gathered⟩ :=
  turn_iterate [] entries gathered

theorem lookup_filter {κ : Type*} [BEq κ] [LawfulBEq κ] {table : List (κ × α)}
    (distinct : (table.map Prod.fst).Nodup) (keep : α → Bool) (key : κ) :
    (table.filter fun entry => keep entry.2).lookup key = (table.lookup key).filter keep := by
  induction table with
  | nil => rfl
  | cons entry table ih =>
    obtain ⟨other, value⟩ := entry
    obtain ⟨absent, distinct⟩ := List.nodup_cons.mp distinct
    have rest := ih distinct
    by_cases same : key = other
    · subst same
      have gone : table.lookup key = none := by
        apply List.lookup_eq_none_iff.mpr
        intro entry member
        apply bne_iff_ne.mpr
        intro here
        exact absent (List.mem_map.mpr ⟨entry, member, here.symm⟩)
      rw [List.filter_cons, List.lookup_cons_self, Option.filter_some]
      cases keep value with
      | true => rw [if_pos rfl, if_pos rfl, List.lookup_cons_self]
      | false =>
        rw [if_neg Bool.false_ne_true, if_neg Bool.false_ne_true, rest, gone]
        rfl
    · have test : (key == other) = false := beq_eq_false_iff_ne.mpr same
      rw [List.filter_cons, List.lookup_cons, test]
      cases keep value with
      | true =>
        rw [if_pos rfl, List.lookup_cons, test]
        exact rest
      | false =>
        rw [if_neg Bool.false_ne_true]
        exact rest

end EraseLoop
