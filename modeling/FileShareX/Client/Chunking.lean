import FileShareX.Client.FileTransfer
import FileShareX.Foundation.Pieces

/-!
# The chunks of a file

Once the receiver has accepted, `do_send` stands in front of its chunk loop.  From
there it is not interrupted until it waits for FILE_RESULT.
-/

namespace FileShareX.Client

open Wire Protocol Pieces

instance : NeZero DEFAULT_CHUNK_SIZE := ⟨by decide⟩

def Program.writes (program : Program) : Nat → Program × List Command
  | 0 => (program, [])
  | turns + 1 =>
    let (last, written) := program.write.1.writes turns
    (last, program.write.2 ++ written)

/-- The pieces of a file as chunks, numbered from `chunk_index` on. -/
def chunksFrom (transfer_id : UInt64) (chunk_index : UInt32) : List Bytes → List Command
  | [] => []
  | piece :: pieces =>
    .chunk transfer_id chunk_index piece :: chunksFrom transfer_id (chunk_index + 1) pieces

namespace Program

variable {program : Program} {upload : Upload} {transfer_id : UInt64} {chunk_index : UInt32}
  {total_sent : Nat}

theorem write_piece (task : program.task = .send upload) (steady : upload.Steady)
    (more : total_sent < upload.file_size.toNat) :
    (program.goto (.chunks transfer_id chunk_index total_sent)).write =
      let piece := (upload.content.drop total_sent).take DEFAULT_CHUNK_SIZE
      (program.goto (.chunks transfer_id (chunk_index + 1) (total_sent + piece.length)),
        [.chunk transfer_id chunk_index piece]) := by
  obtain ⟨piece, length, positive, -⟩ := steady.piece more
  simp only [write, goto, task, if_pos more]
  rw [if_neg (by rwa [length]), if_neg (by omega), piece]

theorem write_leaves (task : program.task = .send upload)
    (all : upload.file_size.toNat ≤ total_sent) :
    (program.goto (.chunks transfer_id chunk_index total_sent)).write =
      (program.goto (.finish transfer_id chunk_index), []) := by
  simp only [write, goto, task, if_neg (Nat.not_lt.mpr all)]

theorem write_done (task : program.task = .send upload) :
    (program.goto (.finish transfer_id chunk_index)).write =
      (program.goto .result,
        [.done transfer_id (total_chunks upload.file_size chunk_index) upload.file_size]) := by
  simp only [write, goto, task]

/-- The loop sends the pieces of what is left, one in each turn, and the FILE_DONE. -/
theorem writes_rest (task : program.task = .send upload) (steady : upload.Steady)
    (rest : Bytes) (left : upload.content.drop total_sent = rest)
    (within : total_sent ≤ upload.file_size.toNat) :
    let pieces := cut DEFAULT_CHUNK_SIZE rest
    (program.goto (.chunks transfer_id chunk_index total_sent)).writes (pieces.length + 2) =
      (program.goto .result, chunksFrom transfer_id chunk_index pieces ++
        [.done transfer_id
          (total_chunks upload.file_size (chunk_index + UInt32.ofNat pieces.length))
          upload.file_size]) := by
  induction rest using cut.induct DEFAULT_CHUNK_SIZE generalizing chunk_index total_sent with
  | case1 =>
    have all : upload.file_size.toNat ≤ total_sent := by
      rw [← show upload.content.length = _ from steady]
      exact List.drop_eq_nil_iff.mp left
    simp [writes, write_leaves task all, write_done task, chunksFrom]
  | case2 first rest ih =>
    have length : (first :: rest).length = upload.file_size.toNat - total_sent := by
      rw [← left, List.length_drop, show upload.content.length = _ from steady]
    have more : total_sent < upload.file_size.toNat := by
      rw [List.length_cons] at length
      omega
    have next : upload.content.drop (total_sent + ((first :: rest).take DEFAULT_CHUNK_SIZE).length) =
        (first :: rest).drop DEFAULT_CHUNK_SIZE := by
      rw [← List.drop_drop, left, drop_length_take]
    have inside : total_sent + ((first :: rest).take DEFAULT_CHUNK_SIZE).length ≤
        upload.file_size.toNat := by
      rw [List.length_take, length]
      omega
    have behind := @ih (chunk_index + 1) _ next inside
    rw [cut]
    dsimp only at behind ⊢
    rw [List.length_cons, Nat.add_right_comm, writes, write_piece task steady more, left]
    dsimp only
    rw [behind, chunksFrom, Nat.add_comm, UInt32.ofNat_add, ← UInt32.add_assoc]
    rfl

end Program

/-! ### The numbers -/

theorem chunksFrom_eq (transfer_id : UInt64) (start : Nat) (pieces : List Bytes) :
    chunksFrom transfer_id (UInt32.ofNat start) pieces =
      List.zipWith (.chunk transfer_id)
        ((List.range' start pieces.length).map UInt32.ofNat) pieces := by
  induction pieces generalizing start with
  | nil => rfl
  | cons piece pieces ih =>
    have next : UInt32.ofNat start + 1 = UInt32.ofNat (start + 1) := (UInt32.ofNat_add ..).symm
    rw [chunksFrom, next, ih, List.length_cons, List.range'_succ, List.map_cons,
      List.zipWith_cons_cons]

theorem map_toNat_range {count : Nat} (few : count < 2 ^ 32) :
    ((List.range' 0 count).map UInt32.ofNat).map UInt32.toNat = List.range count := by
  rw [List.map_map, ← List.range_eq_range']
  refine (List.map_congr_left fun index member => ?_).trans (List.map_id _)
  have below := List.mem_range.mp member
  exact UInt32.toNat_ofNat_of_lt' (below.trans few)

/-- The division in 64 bits rounds up, as long as its sum does not overflow. -/
theorem toNat_ceiling {file_size : UInt64}
    (fits : file_size.toNat + DEFAULT_CHUNK_SIZE < 2 ^ 64) :
    ((file_size + UInt64.ofNat DEFAULT_CHUNK_SIZE - 1) / UInt64.ofNat DEFAULT_CHUNK_SIZE).toNat =
      file_size.toNat ⌈/⌉ DEFAULT_CHUNK_SIZE := by
  have size : (UInt64.ofNat DEFAULT_CHUNK_SIZE).toNat = DEFAULT_CHUNK_SIZE := by decide
  have sum : (file_size + UInt64.ofNat DEFAULT_CHUNK_SIZE).toNat =
      file_size.toNat + DEFAULT_CHUNK_SIZE := by
    rw [UInt64.toNat_add, size, Nat.mod_eq_of_lt fits]
  have one_le : 1 ≤ file_size + UInt64.ofNat DEFAULT_CHUNK_SIZE := by
    rw [UInt64.le_iff_toNat_le, sum]
    exact Nat.le_add_left_of_le (by decide)
  rw [UInt64.toNat_div, UInt64.toNat_sub_of_le _ _ one_le, sum, size]
  exact (Nat.ceilDiv_eq_add_pred_div ..).symm

theorem total_chunks_eq {file_size : UInt64} {count : Nat}
    (ceiling : file_size.toNat ⌈/⌉ DEFAULT_CHUNK_SIZE = count) (few : count < 2 ^ 32) :
    total_chunks file_size (UInt32.ofNat count) = UInt32.ofNat count := by
  have bounds := ceiling
  rw [Nat.ceilDiv_eq_add_pred_div] at bounds
  simp only [DEFAULT_CHUNK_SIZE] at bounds
  unfold total_chunks
  split
  · next positive =>
    replace positive : 0 < file_size.toNat := UInt64.lt_iff_toNat_lt.mp positive
    have total : ((file_size + UInt64.ofNat DEFAULT_CHUNK_SIZE - 1) /
        UInt64.ofNat DEFAULT_CHUNK_SIZE).toUInt32 = UInt32.ofNat count := by
      rw [← UInt32.toNat_inj, UInt64.toNat_toUInt32, toNat_ceiling, ceiling, UInt32.toNat_ofNat']
      simp only [DEFAULT_CHUNK_SIZE]
      omega
    have nonzero : UInt32.ofNat count ≠ 0 := by
      intro zero
      have none : count = 0 := by
        rw [← UInt32.toNat_ofNat_of_lt' few, zero]
        rfl
      omega
    dsimp only
    rw [total, if_neg nonzero, if_neg (UInt32.lt_irrefl _)]
  · next empty =>
    have zero : file_size.toNat = 0 :=
      Nat.eq_zero_of_not_pos fun positive => empty (UInt64.lt_iff_toNat_lt.mpr positive)
    rw [zero] at bounds
    rw [← bounds]
    rfl

/-! ### The whole file -/

/-- The program goes from the loop to the result in one turn for each piece and two more.
It sends the pieces that the file is cut into, numbered from zero on, and at last their
number and the length of the file. -/
theorem chunks_partition_file {program : Program} {upload : Upload} {transfer_id : UInt64}
    (task : program.task = .send upload) (phase : program.phase = .chunks transfer_id 0 0)
    (steady : upload.Steady)
    (few : upload.content.length ⌈/⌉ DEFAULT_CHUNK_SIZE < 2 ^ 32) :
    ∃ pieces indices total file_size,
      program.writes (pieces.length + 2) =
        (program.goto .result,
          List.zipWith (.chunk transfer_id) indices pieces ++
            [.done transfer_id total file_size]) ∧
      Partition DEFAULT_CHUNK_SIZE upload.content pieces ∧
      pieces.length = upload.content.length ⌈/⌉ DEFAULT_CHUNK_SIZE ∧
      indices.map UInt32.toNat = List.range pieces.length ∧
      total.toNat = pieces.length ∧ file_size.toNat = upload.content.length := by
  have length : (cut DEFAULT_CHUNK_SIZE upload.content).length =
      upload.content.length ⌈/⌉ DEFAULT_CHUNK_SIZE := cut_length ..
  have size : upload.content.length = upload.file_size.toNat := steady
  have few' : (cut DEFAULT_CHUNK_SIZE upload.content).length < 2 ^ 32 := by rwa [length]
  have announced := total_chunks_eq (size ▸ length.symm) few'
  have numbered := chunksFrom_eq transfer_id 0 (cut DEFAULT_CHUNK_SIZE upload.content)
  have start : program = program.goto (.chunks transfer_id 0 0) := by
    rw [← phase]
    rfl
  have sent := @program.writes_rest _ transfer_id (UInt32.ofNat 0) 0 task steady upload.content rfl
    (Nat.zero_le _)
  dsimp only at sent
  rw [numbered, ← UInt32.ofNat_add, Nat.zero_add, announced] at sent
  refine ⟨cut DEFAULT_CHUNK_SIZE upload.content, _, _, upload.file_size, ?_, cut_partition _,
    length, map_toNat_range few', UInt32.toNat_ofNat_of_lt' few', size.symm⟩
  conv_lhs => rw [start]
  exact sent

def threeBytes : Upload := ⟨ascii "bob", ascii "a", 3, [1, 2, 3]⟩

theorem chunks_partition_file_three :
    ∃ pieces indices total file_size,
      Program.writes ⟨.send threeBytes, [], [], .chunks 1 0 0⟩ (pieces.length + 2) =
        (⟨.send threeBytes, [], [], .result⟩,
          List.zipWith (.chunk 1) indices pieces ++ [.done 1 total file_size]) ∧
      Partition DEFAULT_CHUNK_SIZE threeBytes.content pieces ∧
      pieces.length = threeBytes.content.length ⌈/⌉ DEFAULT_CHUNK_SIZE ∧
      indices.map UInt32.toNat = List.range pieces.length ∧
      total.toNat = pieces.length ∧ file_size.toNat = threeBytes.content.length :=
  chunks_partition_file rfl rfl (by decide) (by decide)

end FileShareX.Client
