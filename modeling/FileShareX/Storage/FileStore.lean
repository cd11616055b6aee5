import FileShareX.Foundation.Files

/-!
# The file store

`file_store.cpp`.  Each call of the operating system takes its answer from an
`Io` record; the log output is left out.
-/

namespace FileShareX.Storage

open Wire Posix

/-- The answers the operating system gives while one message is handled. -/
structure Io where
  create_directories : Bool := true
  mkdir : Bool := true
  fopen : Option Ptr := none
  fwrite : Nat := 0
  /-- How much `fwrite` hands on at once. -/
  through : Nat := 0
  fflush : Bool := true
  fclose : Bool := true
  /-- How much a flush that fails has stored. -/
  salvaged : Nat := 0
  rename : Bool := true

/-- The base path is given as a C string literal, so it has no NUL byte. -/
structure FileStore where
  base_path : Bytes
  nul_free : (0 : UInt8) ∉ base_path

namespace FileStore

variable (store : FileStore)

def get_file_path (transfer_id : UInt64) (filename : Bytes) : Bytes :=
  store.base_path ++ slash :: (decimal transfer_id.toNat ++ slash :: filename)

def get_temp_path (transfer_id : UInt64) (filename : Bytes) : Bytes :=
  store.base_path ++ slash :: (decimal transfer_id.toNat ++ slash :: (filename ++ ascii ".part"))

/-- `create_directories`, and when it throws the check by `stat` and `mkdir`. -/
def ensure_directory (os : Os) (path : Bytes) (io : Io) : Os × Bool :=
  match os.mkdirs path io.create_directories with
  | (made, true) => (made, true)
  | (os, false) =>
    let target := resolve os.cwd path
    if os.disk.IsDir target then (os, true)
    else if (os.disk.node target).isSome then (os, false)
    else if os.disk.IsDir target.dropLast then os.mkdirs path io.mkdir
    else (os, false)

/-- `initialize`, called once by `main`. -/
def initialize_store (os : Os) (io : Io) : Os × Bool := ensure_directory os store.base_path io

def open_for_write (os : Os) (transfer_id : UInt64) (filename : Bytes) (io : Io) :
    Os × Option Ptr :=
  let temp_path := store.get_temp_path transfer_id filename
  let transfer_dir := store.base_path ++ slash :: decimal transfer_id.toNat
  match ensure_directory os transfer_dir io with
  | (os, false) => (os, none)
  | (os, true) => os.fopen temp_path io.fopen

/-- A failing `fflush` is only logged. -/
def write_chunk (os : Os) (file_handle : Option Ptr) (data : Bytes) (io : Io) : Os × Int :=
  match file_handle with
  | none => (os, -1)
  | some f =>
    if data.length = 0 then (os, -1)
    else match os.fwrite f data io.fwrite io.through with
    | (os, written) =>
      if written ≠ data.length then (os, -1)
      else ((os.fflush f io.fflush io.salvaged).1, (written : Int))

/-- The stream is closed before the rename, whatever the rename does. -/
def finalize_file (os : Os) (transfer_id : UInt64) (filename : Bytes) (file_handle : Option Ptr)
    (io : Io) : Os × Bool :=
  match file_handle with
  | none => (os, false)
  | some f =>
    let os := os.fclose f io.fclose io.salvaged
    os.rename (store.get_temp_path transfer_id filename) (store.get_file_path transfer_id filename)
      io.rename

/-! ### What each operation changes -/

variable {store : FileStore} {os after : Os} {transfer_id : UInt64} {filename : Bytes} {io : Io}

theorem ensure_directory_spec {path : Bytes} {made : Bool}
    (called : ensure_directory os path io = (after, made)) :
    after.cwd = os.cwd ∧ after.streams = os.streams ∧ os.disk.KeepsFiles after.disk := by
  have mkdirs {os after : Os} {answer made : Bool} (called : os.mkdirs path answer = (after, made)) :
      after.cwd = os.cwd ∧ after.streams = os.streams ∧ os.disk.KeepsFiles after.disk := by
    obtain ⟨cwd, streams, made_⟩ := Os.mkdirs_spec called
    refine ⟨cwd, streams, ?_⟩
    split at made_
    · exact made_.toKeepsFiles
    · rw [made_]
      exact .refl _
  unfold ensure_directory at called
  split at called
  · next first =>
    cases called
    exact mkdirs first
  · next os' first =>
    obtain ⟨cwd, streams, keeps⟩ := mkdirs first
    dsimp only at called
    split at called
    · cases called
      exact ⟨cwd, streams, keeps⟩
    · split at called
      · cases called
        exact ⟨cwd, streams, keeps⟩
      · split at called
        · obtain ⟨cwd', streams', keeps'⟩ := mkdirs called
          exact ⟨cwd'.trans cwd, streams'.trans streams, keeps.trans keeps'⟩
        · cases called
          exact ⟨cwd, streams, keeps⟩

theorem open_for_write_none
    (called : store.open_for_write os transfer_id filename io = (after, none)) :
    after.cwd = os.cwd ∧ after.streams = os.streams ∧ os.disk.KeepsFiles after.disk := by
  unfold open_for_write at called
  dsimp only at called
  split at called
  · next made =>
    cases called
    exact ensure_directory_spec made
  · next made =>
    rw [Os.fopen_none called]
    exact ensure_directory_spec made

theorem open_for_write_refused {answer : Option Ptr}
    (called : store.open_for_write os transfer_id filename io = (after, answer))
    (refused : io.fopen = none) : answer = none := by
  unfold open_for_write at called
  dsimp only at called
  split at called
  · cases called
    rfl
  · rw [refused] at called
    cases called
    rfl

theorem open_for_write_some {file_handle : Ptr}
    (called : store.open_for_write os transfer_id filename io = (after, some file_handle)) :
    after.cwd = os.cwd ∧ os.streams file_handle = none ∧
      ∃ made inode, os.disk.KeepsFiles made ∧
        made.Truncates (resolve os.cwd (store.get_temp_path transfer_id filename)) after.disk inode ∧
        after.streams = Function.update os.streams file_handle (some ⟨inode, 0, []⟩) := by
  unfold open_for_write at called
  dsimp only at called
  split at called
  · cases called
  · next made ensured =>
    obtain ⟨cwd, streams, keeps⟩ := ensure_directory_spec ensured
    obtain ⟨unused, cwd', inode, truncates, opened⟩ := Os.fopen_some called
    rw [cwd] at truncates
    exact ⟨cwd'.trans cwd, streams ▸ unused, made.disk, inode, keeps, truncates, streams ▸ opened⟩

theorem write_chunk_onStream {file_handle : Ptr} {data : Bytes} {written : Int}
    (called : write_chunk os (some file_handle) data io = (after, written)) :
    os.OnStream after file_handle ∧
      ∀ other, (after.streams other).isSome = (os.streams other).isSome := by
  unfold write_chunk at called
  dsimp only at called
  have wrote : os.OnStream (os.fwrite file_handle data io.fwrite io.through).1 file_handle :=
    .put os file_handle ..
  have kept (other : Ptr) :
      ((os.fwrite file_handle data io.fwrite io.through).1.streams other).isSome =
        (os.streams other).isSome := Os.put_isSome os file_handle ..
  split at called
  · cases called
    exact ⟨.refl _ _, fun _ => rfl⟩
  · split at called
    · cases called
      exact ⟨wrote, kept⟩
    · cases called
      exact ⟨wrote.trans (.fflush _ _ _ _), fun other => by rw [Os.fflush_isSome, kept]⟩

theorem write_chunk_cwd {file_handle : Option Ptr} {data : Bytes} {written : Int}
    (called : write_chunk os file_handle data io = (after, written)) : after.cwd = os.cwd := by
  cases file_handle with
  | none =>
    cases called
    rfl
  | some f => exact (write_chunk_onStream called).1.cwd

theorem write_chunk_nonneg {file_handle : Option Ptr} {data : Bytes} {written : Int}
    (called : write_chunk os file_handle data io = (after, written)) (wrote : 0 ≤ written) :
    ∃ f, file_handle = some f ∧ data ≠ [] ∧ data.length ≤ io.fwrite ∧
      after = ((os.fwrite f data io.fwrite io.through).1.fflush f io.fflush io.salvaged).1 := by
  unfold write_chunk at called
  split at called
  · cases called
    omega
  · next f =>
    split at called
    · cases called
      omega
    · next nonempty =>
      split at called
      next os' count counted =>
      have counted' : min io.fwrite data.length = count := by
        rw [← Os.fwrite_snd os f data io.fwrite io.through, counted]
      split at called
      · cases called
        omega
      · next full =>
        cases called
        refine ⟨f, rfl, fun empty => nonempty (by simp [empty]), by omega, by rw [counted]⟩

theorem write_chunk_full {file_handle : Ptr} {data : Bytes} {written : Int}
    (called : write_chunk os (some file_handle) data io = (after, written)) (nonempty : data ≠ [])
    (taken : data.length ≤ io.fwrite) : 0 ≤ written := by
  unfold write_chunk at called
  dsimp only at called
  have all : (os.fwrite file_handle data io.fwrite io.through).2 = data.length := by
    rw [Os.fwrite_snd, Nat.min_eq_right taken]
  rw [if_neg (by simpa using nonempty), if_neg (not_not_intro all)] at called
  cases called
  exact Int.natCast_nonneg _

/-- On a stream at the end of its file with nothing buffered, a chunk whose flush works comes
behind what is stored. -/
theorem write_chunk_appends {file_handle : Ptr} {data : Bytes} {written : Int} {inode : Inode}
    (called : write_chunk os (some file_handle) data io = (after, written)) (wrote : 0 ≤ written)
    (flushes : io.fflush = true)
    (stream : os.streams file_handle = some ⟨inode, (os.disk.data inode).length, []⟩) :
    after.streams file_handle = some ⟨inode, (after.disk.data inode).length, []⟩ ∧
      after.disk.data inode = os.disk.data inode ++ data := by
  obtain ⟨f, same, -, taken, rfl⟩ := write_chunk_nonneg called wrote
  cases same
  obtain ⟨front, buffered⟩ := Os.put_end stream (data.take io.fwrite) io.through true
  rw [List.nil_append, List.take_of_length_le taken] at front buffered
  have wrote : (os.fwrite file_handle data io.fwrite io.through).1 =
      os.put file_handle data io.through true := by
    rw [Os.fwrite, List.take_of_length_le taken, decide_eq_true taken]
  obtain ⟨stored, ends⟩ := Os.flush_end (buffered.trans (by rw [front, if_pos rfl]))
  rw [front, List.append_assoc, List.take_append_drop] at stored ends
  rw [Os.fflush, if_pos flushes, wrote, stored]
  exact ⟨ends, rfl⟩

theorem write_chunk_refused {file_handle : Option Ptr} {data : Bytes} {written : Int}
    (called : write_chunk os file_handle data io = (after, written))
    (short : data = [] ∨ io.fwrite < data.length) : written < 0 := by
  by_contra wrote
  obtain ⟨f, -, nonempty, taken, -⟩ := write_chunk_nonneg called (Int.not_lt.mp wrote)
  rcases short with empty | short
  · exact nonempty empty
  · omega

/-- Nothing reaches the file when there is nothing to write, or nothing is handed on. -/
theorem write_chunk_disk {file_handle : Option Ptr} {data : Bytes} {written : Int}
    (called : write_chunk os file_handle data io = (after, written))
    (nothing : data = [] ∨ io.fwrite < data.length ∧ ∀ f stream, file_handle = some f →
      os.streams f = some stream → (stream.buffer ++ data.take io.fwrite).take io.through = []) :
    after.disk = os.disk := by
  unfold write_chunk at called
  split at called
  · cases called
    rfl
  · next f =>
    split at called
    · cases called
      rfl
    · next nonempty =>
      obtain ⟨short, nothing⟩ := nothing.resolve_left fun empty => nonempty (by simp [empty])
      have refused : (os.fwrite f data io.fwrite io.through).2 ≠ data.length := by
        rw [Os.fwrite_snd]
        omega
      dsimp only at called
      rw [if_pos refused] at called
      cases called
      exact Os.put_disk fun stream => nothing f stream rfl

theorem finalize_file_spec {file_handle : Ptr} {success : Bool}
    (called : store.finalize_file os transfer_id filename (some file_handle) io = (after, success)) :
    after.cwd = os.cwd ∧ after.streams = (os.fclose file_handle io.fclose io.salvaged).streams ∧
      if success then
        (os.fclose file_handle io.fclose io.salvaged).disk.Moves
          (resolve os.cwd (store.get_temp_path transfer_id filename))
          (resolve os.cwd (store.get_file_path transfer_id filename)) after.disk
      else after = os.fclose file_handle io.fclose io.salvaged := by
  unfold finalize_file at called
  have cwd := (Os.OnStream.fclose os file_handle io.fclose io.salvaged).cwd
  obtain ⟨cwd', streams, renamed⟩ := Os.rename_spec called
  rw [cwd] at renamed
  exact ⟨cwd'.trans cwd, streams, renamed⟩

theorem finalize_file_cwd {file_handle : Option Ptr} {success : Bool}
    (called : store.finalize_file os transfer_id filename file_handle io = (after, success)) :
    after.cwd = os.cwd := by
  cases file_handle with
  | none =>
    cases called
    rfl
  | some f => exact (finalize_file_spec called).1

theorem finalize_file_streams {file_handle : Option Ptr} {success : Bool}
    (called : store.finalize_file os transfer_id filename file_handle io = (after, success)) (f : Ptr) :
    after.streams f = if file_handle = some f then none else os.streams f := by
  cases file_handle with
  | none =>
    cases called
    rfl
  | some g =>
    rw [(finalize_file_spec called).2.1]
    by_cases same : g = f
    · rw [if_pos (congrArg some same), same, Os.fclose_self]
    · rw [if_neg (same ∘ Option.some.inj)]
      exact (Os.OnStream.fclose _ _ _ _).others f (Ne.symm same)

theorem finalize_file_no_rename {file_handle : Option Ptr} {success : Bool}
    (called : store.finalize_file os transfer_id filename file_handle io = (after, success))
    (refused : io.rename = false) : success = false := by
  unfold finalize_file at called
  split at called
  · cases called
    rfl
  · simp only [refused, Os.rename, Bool.false_eq_true, if_false] at called
    cases called
    rfl

theorem finalize_file_content {file_handle : Ptr} {stream : Stream}
    (called : store.finalize_file os transfer_id filename (some file_handle) io = (after, true))
    (opened : os.streams file_handle = some stream) (empty : stream.buffer = [])
    (node : os.disk.node (resolve os.cwd (store.get_temp_path transfer_id filename)) =
      some (.file stream.inode)) :
    after.disk.content (resolve os.cwd (store.get_file_path transfer_id filename)) =
      some (os.disk.data stream.inode) := by
  obtain ⟨-, -, renamed⟩ := finalize_file_spec called
  rw [if_pos rfl] at renamed
  rw [renamed.content_target, Os.fclose_disk opened empty, Disk.content_of_node node]

theorem open_for_write_leaves {answer : Option Ptr} {path : Path}
    (called : store.open_for_write os transfer_id filename io = (after, answer))
    (elsewhere : io.fopen = none ∨ path ≠ resolve os.cwd (store.get_temp_path transfer_id filename)) :
    os.Leaves after path := by
  unfold open_for_write at called
  dsimp only at called
  split at called
  · next made =>
    cases called
    obtain ⟨-, streams, keeps⟩ := ensure_directory_spec made
    exact .keepsFiles streams keeps
  · next made =>
    obtain ⟨cwd, streams, keeps⟩ := ensure_directory_spec made
    refine (Os.Leaves.keepsFiles streams keeps).trans ?_
    cases answer with
    | none =>
      rw [Os.fopen_none called]
      exact .refl _ _
    | some file_handle =>
      rcases elsewhere with refused | elsewhere
      · rw [refused] at called
        cases called
      · obtain ⟨-, -, inode, truncates, streams'⟩ := Os.fopen_some called
        exact .truncates (by rwa [cwd]) truncates streams'

theorem write_chunk_leaves {file_handle : Option Ptr} {data : Bytes} {written : Int} {path : Path}
    (called : write_chunk os file_handle data io = (after, written)) : os.Leaves after path := by
  cases file_handle with
  | none =>
    cases called
    exact .refl _ _
  | some f => exact .onStream path (write_chunk_onStream called).1

theorem finalize_file_leaves {file_handle : Option Ptr} {success : Bool} {path : Path}
    (called : store.finalize_file os transfer_id filename file_handle io = (after, success))
    (elsewhere : success = true →
      path ≠ resolve os.cwd (store.get_temp_path transfer_id filename) ∧
        path ≠ resolve os.cwd (store.get_file_path transfer_id filename)) :
    os.Leaves after path := by
  cases file_handle with
  | none =>
    cases called
    exact .refl _ _
  | some f =>
    obtain ⟨-, streams, renamed⟩ := finalize_file_spec called
    refine (Os.Leaves.onStream path (.fclose os f io.fclose io.salvaged)).trans ?_
    cases success with
    | false =>
      rw [if_neg (by simp)] at renamed
      rw [renamed]
      exact .refl _ _
    | true =>
      rw [if_pos rfl] at renamed
      obtain ⟨notTemp, notFinal⟩ := elsewhere rfl
      exact .moves notTemp notFinal renamed streams

end FileStore

end FileShareX.Storage
