import FileShareX.Gateway.ResponseAgreement

/-!
# The online list in its two parsers

`OnlineListResp::deserialize` and `_parse_online_list_resp` differ in one branch: a
name that overruns the payload ends the loop of the gateway, while the C++ loop goes
on behind its length field and takes the bytes of the name for lengths.
-/

namespace FileShareX.Gateway

open Wire Reader Protocol

variable {rest : Bytes} {word : UInt16}

/-! ### Both loops over the bytes still unread -/

def namesUpTo : Nat → Bytes → List Bytes
  | 0, _ => []
  | count + 1, unread =>
    if unread.length < 2 then []
    else
      let len := bigEndianValue (unread.take 2)
      let rest := unread.drop 2
      if len ≤ rest.length then rest.take len :: namesUpTo count (rest.drop len) else []

/-- The names found when only the length field of a name cut off is skipped. -/
def namesSkipping : Nat → Bytes → List Bytes
  | 0, _ => []
  | count + 1, unread =>
    if unread.length < 2 then []
    else
      let len := bigEndianValue (unread.take 2)
      let rest := unread.drop 2
      if len ≤ rest.length then rest.take len :: namesSkipping count (rest.drop len)
      else namesSkipping count rest

theorem unread_cases (unread : Bytes) :
    unread.length < 2 ∨ ∃ (word : UInt16) (rest : Bytes), unread = htons word ++ rest := by
  by_cases short : unread.length < 2
  · exact .inl short
  · refine .inr ⟨ntohs (unread.take 2), unread.drop 2, ?_⟩
    rw [htons_ntohs (by rw [List.length_take]; omega), List.take_append_drop]

theorem namesUpTo_short {unread : Bytes} (short : unread.length < 2) (count : Nat) :
    namesUpTo count unread = [] := by
  cases count with
  | zero => rfl
  | succ count => rw [namesUpTo, if_pos short]

theorem namesSkipping_short {unread : Bytes} (short : unread.length < 2) (count : Nat) :
    namesSkipping count unread = [] := by
  cases count with
  | zero => rfl
  | succ count => rw [namesSkipping, if_pos short]

theorem take_htons_append (word : UInt16) (rest : Bytes) : (htons word ++ rest).take 2 = htons word :=
  List.take_left' (htons_length word)

theorem drop_htons_append (word : UInt16) (rest : Bytes) : (htons word ++ rest).drop 2 = rest :=
  List.drop_left' (htons_length word)

theorem namesUpTo_htons (count : Nat) (word : UInt16) (rest : Bytes) :
    namesUpTo (count + 1) (htons word ++ rest) =
      if word.toNat ≤ rest.length then
        rest.take word.toNat :: namesUpTo count (rest.drop word.toNat)
      else [] := by
  rw [namesUpTo, if_neg (by rw [List.length_append, htons_length]; omega), take_htons_append,
    drop_htons_append, bigEndianValue_htons]

theorem namesSkipping_htons (count : Nat) (word : UInt16) (rest : Bytes) :
    namesSkipping (count + 1) (htons word ++ rest) =
      if word.toNat ≤ rest.length then
        rest.take word.toNat :: namesSkipping count (rest.drop word.toNat)
      else namesSkipping count rest := by
  rw [namesSkipping, if_neg (by rw [List.length_append, htons_length]; omega), take_htons_append,
    drop_htons_append, bigEndianValue_htons]

theorem ntohs_toNat {b : Bytes} (width : b.length = 2) : (ntohs b).toNat = bigEndianValue b := by
  rw [← bigEndianValue_htons, htons_ntohs width]

theorem slice_eq_take_drop (data : Bytes) (pos len : Nat) :
    slice data pos (pos + len) = (data.drop pos).take len := by
  rw [slice, List.drop_take, Nat.add_sub_cancel_left]

theorem deserializeFrom_result (v : Vec) (count : Nat) {pos : Nat} (usernames : List Bytes)
    (inside : pos ≤ v.size) :
    (OnlineListResp.deserializeFrom v.size count pos usernames).result v =
      .ok (usernames ++ namesSkipping count (v.bytes.drop pos)) := by
  have unread : (v.bytes.drop pos).length = v.size - pos := List.length_drop
  induction count generalizing pos usernames with
  | zero => simp [OnlineListResp.deserializeFrom, namesSkipping]
  | succ count ih =>
    rw [OnlineListResp.deserializeFrom]
    by_cases field : pos + 2 ≤ v.size
    · have length : (ntohs (v.slice pos 2)).toNat = bigEndianValue ((v.bytes.drop pos).take 2) := by
        rw [ntohs_toNat (Vec.slice_length v pos 2), v.slice_eq field]
      rw [if_pos field, result_bind, result_readU16, ok_bind, result_ite, length, namesSkipping,
        if_neg (show ¬ (v.bytes.drop pos).length < 2 by omega)]
      dsimp only
      rw [List.drop_drop, List.length_drop]
      by_cases fits : pos + 2 + bigEndianValue ((v.bytes.drop pos).take 2) ≤ v.size
      · have room : bigEndianValue ((v.bytes.drop pos).take 2) ≤ v.bytes.length - (pos + 2) :=
          Nat.le_sub_of_add_le' fits
        rw [if_pos fits, if_pos room, result_bind, result_bytes, ok_bind, ih _ fits List.length_drop,
          v.slice_eq fits, List.drop_drop, List.append_assoc]
        rfl
      · have none : ¬ bigEndianValue ((v.bytes.drop pos).take 2) ≤ v.bytes.length - (pos + 2) :=
          fun room => fits (Nat.add_le_of_le_sub' field room)
        rw [if_neg fits, if_neg none, ih _ field List.length_drop]
    · rw [if_neg field, result_pure, namesSkipping_short (by omega), List.append_nil]

theorem onlineListFrom_eq (payload : Bytes) (count pos : Nat) (usernames : List Bytes) :
    onlineListFrom payload count pos usernames =
      .ok (usernames ++ namesUpTo count (payload.drop pos)) := by
  have unread : (payload.drop pos).length = payload.length - pos := List.length_drop
  induction count generalizing pos usernames with
  | zero => simp [onlineListFrom, namesUpTo]
  | succ count ih =>
    rw [onlineListFrom]
    by_cases field : pos + 2 > payload.length
    · rw [if_pos field, namesUpTo_short (by omega), List.append_nil]
    · have width : (slice payload pos (pos + 2)).length = 2 := by
        rw [slice_length (by omega), Nat.add_sub_cancel_left]
      rw [if_neg field, unpack, if_pos width, py_ok_bind, namesUpTo,
        if_neg (show ¬ (payload.drop pos).length < 2 by omega)]
      dsimp only
      rw [slice_eq_take_drop, slice_eq_take_drop, List.drop_drop, List.length_drop]
      by_cases cut : pos + 2 + bigEndianValue ((payload.drop pos).take 2) > payload.length
      · rw [if_pos cut, if_neg (by omega), List.append_nil]
      · rw [if_neg cut, if_pos (by omega), ih _ _ List.length_drop, List.drop_drop, List.append_assoc]
        rfl

theorem deserialize_result (payload : Vec) {count : UInt16}
    (shape : payload.bytes = htons count ++ rest) :
    OnlineListResp.deserialize.result payload = .ok ⟨namesSkipping count.toNat rest⟩ := by
  have long : 2 ≤ payload.size := by simp [Vec.size, shape]
  have field : payload.slice 0 2 = htons count := by
    rw [payload.slice_eq long, List.drop_zero, shape, take_htons_append]
  rw [OnlineListResp.deserialize, result_bind, result_size, ok_bind, if_neg (by omega), result_bind,
    result_readU16, ok_bind, field, ntohs_htons, result_bind,
    deserializeFrom_result payload _ _ long, ok_bind, shape, drop_htons_append]
  rfl

theorem online_list_names_eq {payload : Bytes} {count : UInt16}
    (shape : payload = htons count ++ rest) :
    online_list_names payload = .ok (namesUpTo count.toNat rest) := by
  have long : 2 ≤ payload.length := by simp [shape]
  rw [online_list_names, if_neg (by omega), slice, List.drop_zero, shape, take_htons_append, unpack,
    if_pos (htons_length _), py_ok_bind, onlineListFrom_eq, bigEndianValue_htons, drop_htons_append]
  rfl

/-! ### Behind a name that overruns -/

/-- None of the first `rounds` length fields in a row has room for its name. -/
def NoneFits (rounds : Nat) (rest : Bytes) : Prop :=
  ∀ i < rounds, 2 * i + 2 ≤ rest.length →
    rest.length < 2 * i + 2 + bigEndianValue ((rest.drop (2 * i)).take 2)

theorem noneFits_htons {rounds : Nat} :
    NoneFits (rounds + 1) (htons word ++ rest) ↔ rest.length < word.toNat ∧ NoneFits rounds rest := by
  have length : (htons word ++ rest).length = 2 + rest.length := by simp
  have later (i : Nat) : (htons word ++ rest).drop (2 * (i + 1)) = rest.drop (2 * i) := by
    rw [show 2 * (i + 1) = 2 + 2 * i by omega, ← List.drop_drop, drop_htons_append]
  constructor
  · intro none
    have first := none 0 (Nat.succ_pos _) (by omega)
    rw [Nat.mul_zero, List.drop_zero, take_htons_append, bigEndianValue_htons] at first
    refine ⟨by omega, fun i inside room => ?_⟩
    have next := none (i + 1) (Nat.succ_lt_succ inside) (by omega)
    rw [later] at next
    omega
  · rintro ⟨first, none⟩ (_ | i) inside room
    · rw [Nat.mul_zero, List.drop_zero, take_htons_append, bigEndianValue_htons]
      omega
    · have next := none i (Nat.lt_of_succ_lt_succ inside) (by omega)
      rw [later]
      omega

theorem namesSkipping_eq_nil {rounds : Nat} :
    namesSkipping rounds rest = [] ↔ NoneFits rounds rest := by
  induction rounds generalizing rest with
  | zero => exact iff_of_true rfl fun i inside => absurd inside (Nat.not_lt_zero i)
  | succ rounds ih =>
    obtain short | ⟨word, rest, rfl⟩ := unread_cases rest
    · exact iff_of_true (namesSkipping_short short _) fun i _ room => by omega
    · rw [namesSkipping_htons, noneFits_htons]
      by_cases fits : word.toNat ≤ rest.length
      · rw [if_pos fits]
        exact iff_of_false (List.cons_ne_nil _ _) fun none => by omega
      · rw [if_neg fits, ih]
        exact (and_iff_right (by omega)).symm

/-- With `count` names announced, a name that overruns the payload is followed by nothing
that could be taken for a name. -/
def OverrunLast (count : Nat) (unread : Bytes) : Prop :=
  ∀ (names : List Bytes) (word : UInt16) (rest : Bytes), (∀ name ∈ names, name.length ≤ 65535) →
    unread = names.flatMap counted ++ (htons word ++ rest) → names.length < count →
    rest.length < word.toNat → NoneFits (count - names.length - 1) rest

theorem overrunLast_short {unread : Bytes} (short : unread.length < 2) (count : Nat) :
    OverrunLast count unread := by
  intro names word rest _ shape
  have length := congrArg List.length shape
  simp only [List.length_append, htons_length] at length
  omega

theorem htons_append_inj {word word' : UInt16} {rest rest' : Bytes}
    (same : htons word ++ rest = htons word' ++ rest') : word = word' ∧ rest = rest' := by
  obtain ⟨field, behind⟩ := List.append_inj same (by simp)
  exact ⟨by rw [← ntohs_htons word, field, ntohs_htons], behind⟩

theorem overrunLast_cut {count : Nat} (cut : rest.length < word.toNat) :
    OverrunLast (count + 1) (htons word ++ rest) ↔ NoneFits count rest := by
  constructor
  · intro last
    have none := last [] word rest (by simp) rfl (Nat.succ_pos _) cut
    simpa using none
  · intro none names word' rest' short shape fewer _
    cases names with
    | nil =>
      obtain ⟨rfl, rfl⟩ := htons_append_inj (by simpa using shape)
      simpa using none
    | cons name names =>
      -- a name that is there in full contradicts the cut
      rw [List.flatMap_cons, counted, List.append_assoc, List.append_assoc] at shape
      obtain ⟨rfl, rfl⟩ := htons_append_inj shape
      rw [ofNat_length_toNat (short name List.mem_cons_self)] at cut
      simp only [List.length_append] at cut
      omega

theorem overrunLast_whole {count : Nat} (whole : word.toNat ≤ rest.length) :
    OverrunLast (count + 1) (htons word ++ rest) ↔ OverrunLast count (rest.drop word.toNat) := by
  have width : (rest.take word.toNat).length = word.toNat := by
    rw [List.length_take, Nat.min_eq_left whole]
  have fits : (rest.take word.toNat).length ≤ 65535 := by
    have bound := word.toNat_lt
    omega
  have split : htons word ++ rest = counted (rest.take word.toNat) ++ rest.drop word.toNat := by
    rw [counted, width, UInt16.ofNat_toNat, List.append_assoc, List.take_append_drop]
  constructor
  · intro last names word' rest' short shape fewer cut
    have none := last (rest.take word.toNat :: names) word' rest'
      (List.forall_mem_cons.mpr ⟨fits, short⟩)
      (by rw [split, shape, List.flatMap_cons, List.append_assoc]) (Nat.succ_lt_succ fewer) cut
    rwa [List.length_cons, Nat.add_sub_add_right] at none
  · intro last names word' rest' short shape fewer cut
    cases names with
    | nil =>
      obtain ⟨rfl, rfl⟩ := htons_append_inj (by simpa using shape)
      omega
    | cons name names =>
      have tail := shape
      rw [List.flatMap_cons, counted, List.append_assoc, List.append_assoc] at tail
      obtain ⟨rfl, rfl⟩ := htons_append_inj tail
      have length := ofNat_length_toNat (short name List.mem_cons_self)
      have none := last names word' rest' (fun later member => short later (.tail _ member))
        (by rw [length, List.drop_left]) (Nat.lt_of_succ_lt_succ fewer) cut
      rwa [List.length_cons, Nat.add_sub_add_right]

/-- The loops find the same names unless the C++ loop finds one behind an overrun. -/
theorem names_eq_iff (count : Nat) (unread : Bytes) :
    namesSkipping count unread = namesUpTo count unread ↔ OverrunLast count unread := by
  induction count generalizing unread with
  | zero => exact iff_of_true rfl fun names _ _ _ _ fewer => absurd fewer (Nat.not_lt_zero _)
  | succ count ih =>
    obtain short | ⟨word, rest, rfl⟩ := unread_cases unread
    · rw [namesSkipping_short short, namesUpTo_short short]
      exact iff_of_true rfl (overrunLast_short short _)
    · rw [namesSkipping_htons, namesUpTo_htons]
      by_cases whole : word.toNat ≤ rest.length
      · rw [if_pos whole, if_pos whole, overrunLast_whole whole, ← ih, List.cons.injEq]
        exact and_iff_right rfl
      · rw [if_neg whole, if_neg whole, namesSkipping_eq_nil, overrunLast_cut (by omega)]

/-- Of a list that was cut off, the gateway's loop returns the names still whole. -/
theorem namesUpTo_prefix {names : List Bytes} (short : ∀ name ∈ names, name.length ≤ 65535)
    {unread : Bytes} (truncated : unread <+: names.flatMap counted) (count : Nat) :
    namesUpTo count unread <+: names := by
  induction names generalizing unread count with
  | nil =>
    have length := truncated.length_le
    rw [List.flatMap_nil, List.length_nil] at length
    have nothing : namesUpTo count unread = [] := namesUpTo_short (by omega) count
    exact nothing ▸ List.nil_prefix
  | cons name names ih =>
    cases count with
    | zero => exact List.nil_prefix
    | succ count =>
      obtain early | ⟨word, rest, rfl⟩ := unread_cases unread
      · rw [namesUpTo_short early]
        exact List.nil_prefix
      · obtain ⟨missing, shape⟩ := truncated
        rw [List.flatMap_cons, counted, List.append_assoc, List.append_assoc] at shape
        obtain ⟨rfl, behind⟩ := htons_append_inj shape
        rw [namesUpTo_htons, ofNat_length_toNat (short name List.mem_cons_self)]
        split
        · next whole =>
          obtain ⟨same, later⟩ : rest.take name.length = name ∧
              rest.drop name.length ++ missing = names.flatMap counted := by
            refine List.append_inj ?_ (by rw [List.length_take, Nat.min_eq_left whole])
            rw [← List.append_assoc, List.take_append_drop, behind]
          exact List.cons_prefix_cons.mpr
            ⟨same, ih (fun later member => short later (.tail _ member)) ⟨missing, later⟩ count⟩
        · exact List.nil_prefix

/-! ### On every payload -/

/-- Both parsers return the same names, and these begin every list that the payload is
a truncated encoding of. -/
def SameNames (payload : Vec) : Prop :=
  ∃ names, OnlineListResp.deserialize.result payload = .ok ⟨names⟩ ∧
    online_list_names payload.bytes = .ok names ∧
    _parse_online_list_resp payload.bytes = .ok (names.map decode) ∧
    ∀ usernames : List Bytes, usernames.length ≤ 65535 → (∀ name ∈ usernames, name.length ≤ 65535) →
      payload.bytes <+: OnlineListResp.serialize ⟨usernames⟩ → names <+: usernames

def Agreeable (payload : Bytes) : Prop :=
  ∀ (count : UInt16) (unread : Bytes), payload = htons count ++ unread →
    OverrunLast count.toNat unread

theorem parse_online_list_resp_eq {payload : Bytes} {names : List Bytes}
    (found : online_list_names payload = .ok names) :
    _parse_online_list_resp payload = .ok (names.map decode) := by
  rw [_parse_online_list_resp, found]
  rfl

/-- The parsers agree on a payload exactly if no name is found behind one that overruns it. -/
theorem same_names_iff (payload : Vec) : SameNames payload ↔ Agreeable payload.bytes := by
  obtain short | ⟨count, unread, shape⟩ := unread_cases payload.bytes
  · have found : online_list_names payload.bytes = .ok [] := by
      rw [online_list_names, if_pos short]
    refine iff_of_true ⟨[], ?_, found, parse_online_list_resp_eq found,
      fun _ _ _ _ => List.nil_prefix⟩ fun count unread shape => ?_
    · rw [OnlineListResp.deserialize, result_bind, result_size, ok_bind,
        if_pos (show payload.size < 2 from short)]
      rfl
    · rw [shape, List.length_append, htons_length] at short
      omega
  · have found := online_list_names_eq shape
    have agreeable : Agreeable payload.bytes ↔ OverrunLast count.toNat unread := by
      refine ⟨fun all => all count unread shape, fun last count' unread' shape' => ?_⟩
      obtain ⟨rfl, rfl⟩ := htons_append_inj (shape.symm.trans shape')
      exact last
    rw [agreeable, ← names_eq_iff]
    constructor
    · rintro ⟨names, core, gateway, -⟩
      rw [deserialize_result payload shape] at core
      rw [found] at gateway
      exact (congrArg OnlineListResp.usernames (Except.ok.inj core)).trans
        (Except.ok.inj gateway).symm
    · intro same
      refine ⟨_, deserialize_result payload shape, by rw [found, same],
        by rw [parse_online_list_resp_eq found, same], fun usernames few short truncated => ?_⟩
      obtain ⟨missing, whole⟩ := truncated
      rw [shape, List.append_assoc] at whole
      obtain ⟨-, behind⟩ := htons_append_inj
        (show _ = htons (UInt16.ofNat usernames.length) ++ usernames.flatMap counted from whole)
      rw [same]
      exact namesUpTo_prefix short ⟨missing, behind⟩ _

/-- Two names announced, the first one cut off: the C++ parser takes its first two bytes
for the length of an empty name. -/
theorem same_names_cut_off : ¬ ∀ payload, SameNames payload := by
  intro all
  obtain ⟨names, core, gateway, -⟩ := all ⟨htons 2 ++ [0, 3, 0, 0], fun _ => 0⟩
  have skipping : namesSkipping (2 : UInt16).toNat [0, 3, 0, 0] = [[]] := by decide
  have stopping : namesUpTo (2 : UInt16).toNat [0, 3, 0, 0] = [] := by decide
  rw [deserialize_result _ rfl, skipping] at core
  rw [online_list_names_eq rfl, stopping] at gateway
  cases core
  cases gateway

end FileShareX.Gateway
