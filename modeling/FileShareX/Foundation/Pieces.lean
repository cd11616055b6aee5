import Mathlib.Algebra.Order.Floor.Div

/-!
# Cutting a list into pieces

All pieces but the last have the given size, and the last has at least one element.
-/

namespace Pieces

variable {α : Type*} {size : Nat} {whole piece : List α} {pieces : List (List α)}

/-- The pieces make up the whole, and only the last may be short. -/
structure Partition (size : Nat) (whole : List α) (pieces : List (List α)) : Prop where
  flatten : pieces.flatten = whole
  nonempty : ∀ piece ∈ pieces, piece ≠ []
  le : ∀ piece ∈ pieces, piece.length ≤ size
  full : ∀ piece ∈ pieces.dropLast, piece.length = size

def cut (size : Nat) [NeZero size] : List α → List (List α)
  | [] => []
  | first :: rest => (first :: rest).take size :: cut size ((first :: rest).drop size)
termination_by whole => whole.length
decreasing_by
  have positive := NeZero.pos size
  simp only [List.length_drop, List.length_cons]
  omega

theorem Partition.nil : Partition size ([] : List α) [] :=
  ⟨rfl, nofun, nofun, nofun⟩

/-- A full piece goes in front of any others, a shorter one only in front of none. -/
theorem Partition.cons (rest : Partition size whole pieces) (nonempty : piece ≠ [])
    (le : piece.length ≤ size) (full : pieces ≠ [] → piece.length = size) :
    Partition size (piece ++ whole) (piece :: pieces) where
  flatten := by rw [List.flatten_cons, rest.flatten]
  nonempty := List.forall_mem_cons.mpr ⟨nonempty, rest.nonempty⟩
  le := List.forall_mem_cons.mpr ⟨le, rest.le⟩
  full := by
    intro other member
    cases pieces with
    | nil => cases member
    | cons second more =>
      rw [List.dropLast_cons_of_ne_nil (by simp)] at member
      rcases List.mem_cons.mp member with rfl | member
      · exact full (by simp)
      · exact rest.full other member

theorem drop_length_take (whole : List α) (count : Nat) :
    whole.drop (whole.take count).length = whole.drop count := by
  have split := List.take_append_drop count whole
  calc whole.drop (whole.take count).length
      = (whole.take count ++ whole.drop count).drop (whole.take count).length := by rw [split]
    _ = whole.drop count := List.drop_left

variable [NeZero size]

@[simp] theorem cut_nil : cut size ([] : List α) = [] := by rw [cut]

theorem cut_partition (whole : List α) : Partition size whole (cut size whole) := by
  induction whole using cut.induct size with
  | case1 =>
    rw [cut_nil]
    exact .nil
  | case2 first rest ih =>
    rw [cut]
    have cons : Partition size ((first :: rest).take size ++ (first :: rest).drop size)
        ((first :: rest).take size :: cut size ((first :: rest).drop size)) := by
      refine ih.cons (by simp [NeZero.ne size]) (by simp) fun more => ?_
      have long : size < (first :: rest).length := by
        by_contra short
        rw [List.drop_eq_nil_of_le (Nat.le_of_not_lt short), cut_nil] at more
        exact more rfl
      rw [List.length_take, Nat.min_eq_left long.le]
    rwa [List.take_append_drop] at cons

theorem cut_length (whole : List α) : (cut size whole).length = whole.length ⌈/⌉ size := by
  have positive := NeZero.pos size
  induction whole using cut.induct size with
  | case1 => simp
  | case2 first rest ih =>
    rw [cut, List.length_cons, ih, List.length_drop, Nat.ceilDiv_eq_add_pred_div,
      Nat.ceilDiv_eq_add_pred_div]
    have nonempty : 0 < (first :: rest).length := List.length_pos_of_ne_nil nofun
    generalize (first :: rest).length = length at nonempty ⊢
    by_cases long : size ≤ length
    · rw [← Nat.add_div_right _ positive]
      congr 1
      omega
    · rw [Nat.div_eq_of_lt (by omega)]
      exact (Nat.div_eq_of_lt_le (by omega) (by omega)).symm

end Pieces
