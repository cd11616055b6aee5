import FileShareX.Foundation.BigEndian

/-!
# Streams that arrive in pieces

A call that asks for `n` bytes of a stream gets some of them, at least one while there
are any.  A loop that asks until it has enough does not see where the pieces end; a
single call does.
-/

namespace Wire

/-- The most bytes that each call gets. -/
structure Delivery where
  most : Nat → Nat
  positive : ∀ call, 0 < most call

def Delivery.upTo (most : Nat) (positive : 0 < most) : Delivery := ⟨fun _ => most, fun _ => positive⟩

structure Incoming where
  remaining : Bytes
  calls : Nat := 0

variable {delivery : Delivery}

def recv (delivery : Delivery) (n : Nat) (incoming : Incoming) : Bytes × Incoming :=
  let len := min n (delivery.most incoming.calls)
  (incoming.remaining.take len, ⟨incoming.remaining.drop len, incoming.calls + 1⟩)

theorem recv_eq_nil {n : Nat} (asked : 0 < n) {incoming : Incoming} :
    (recv delivery n incoming).1 = [] ↔ incoming.remaining = [] := by
  have some : 0 < min n (delivery.most incoming.calls) :=
    Nat.lt_min.mpr ⟨asked, delivery.positive _⟩
  rw [recv, List.take_eq_nil_iff, or_iff_right (Nat.ne_of_gt some)]

theorem recv_append (n : Nat) (incoming : Incoming) :
    (recv delivery n incoming).1 ++ (recv delivery n incoming).2.remaining = incoming.remaining :=
  List.take_append_drop ..

theorem recv_length_le (n : Nat) (incoming : Incoming) : (recv delivery n incoming).1.length ≤ n :=
  (List.length_take_le ..).trans (Nat.min_le_left ..)

/-- Ask for what is missing until `wanted` bytes are there, or a call gets nothing. -/
def recvUpTo (delivery : Delivery) (wanted : Nat) (got : Bytes) (incoming : Incoming) :
    Option Bytes :=
  if _ : got.length < wanted then
    let chunk := (recv delivery (wanted - got.length) incoming).1
    if chunk = [] then none
    else recvUpTo delivery wanted (got ++ chunk) (recv delivery (wanted - got.length) incoming).2
  else some got
termination_by wanted - got.length
decreasing_by
  have nonempty : 0 < (recv delivery (wanted - got.length) incoming).1.length :=
    List.length_pos_iff.mpr ‹_›
  rw [List.length_append]
  omega

/-- The loop takes the missing bytes off the front, however they are cut. -/
theorem recvUpTo_eq (wanted : Nat) (got : Bytes) (incoming : Incoming) :
    recvUpTo delivery wanted got incoming =
      if wanted ≤ got.length + incoming.remaining.length then
        some (got ++ incoming.remaining.take (wanted - got.length))
      else none := by
  fun_induction recvUpTo delivery wanted got incoming with
  | case1 got incoming missing chunk empty =>
    have ended : incoming.remaining = [] := (recv_eq_nil (by omega)).mp empty
    rw [ended, List.length_nil, if_neg (by omega)]
  | case2 got incoming missing chunk some ih =>
    have split := @recv_append delivery (wanted - got.length) incoming
    have short := @recv_length_le delivery (wanted - got.length) incoming
    have total := congrArg List.length split
    rw [List.length_append] at total
    rw [ih, List.length_append, ← total]
    refine ite_congr (by rw [Nat.add_assoc]) (fun _ => ?_) fun _ => rfl
    rw [← split, List.take_append, List.take_of_length_le short, List.append_assoc, Nat.sub_sub]
  | case3 got incoming enough =>
    rw [if_pos (by omega), Nat.sub_eq_zero_of_le (by omega), List.take_zero, List.append_nil]

end Wire
