import FileShareX.Storage.FileStore

/-!
# Where the files of a transfer are put

The filename of an offer is spliced into both paths unchecked.  Each path is
walked from the transfer's directory along the components of the filename, so
everything depends on where those components lead.
-/

namespace FileShareX.Storage

open Wire Posix

theorem decimal_nul_free (n : Nat) : (0 : UInt8) ∉ decimal n := by
  intro member
  have range := decimal_range member
  simp at range

theorem decimal_slash_free (n : Nat) : slash ∉ decimal n := by
  intro member
  have range := decimal_range member
  simp [slash] at range

theorem decimal_isEntry (n : Nat) : IsEntry (decimal n) := by
  have noDot : (46 : UInt8) ∉ decimal n := by
    intro member
    have range := decimal_range member
    simp at range
  refine ⟨decimal_ne_nil n, fun same => noDot ?_, fun same => noDot ?_⟩
  · simp [same, dot]
  · simp [same, dotdot]

theorem part_isEntry (name : Name) : IsEntry (name ++ ascii ".part") := by
  have long : 5 ≤ (name ++ ascii ".part").length := by simp [ascii]
  refine ⟨?_, ?_, ?_⟩ <;> intro same <;> simp [same, dot, dotdot] at long

namespace FileStore

variable (store : FileStore) (cwd : Path) (transfer_id : UInt64) (filename : Bytes)

def root : Path :=
  walk (if (store.base_path ++ [slash]).head? = some slash then [] else cwd)
    (components store.base_path)

def directory : Path := store.root cwd ++ [decimal transfer_id.toNat]

variable {store cwd transfer_id filename}

theorem directory_injective {other : UInt64}
    (same : store.directory cwd transfer_id = store.directory cwd other) : transfer_id = other := by
  have digits := (List.append_inj' same rfl).2
  exact UInt64.toNat_inj.mp (decimal_injective (List.cons.inj digits).1)

theorem resolve_transfer_dir :
    resolve cwd (store.base_path ++ slash :: decimal transfer_id.toNat) =
      store.directory cwd transfer_id := by
  have free : (0 : UInt8) ∉ store.base_path ++ slash :: decimal transfer_id.toNat := by
    simp [store.nul_free, decimal_nul_free, slash]
  have head : (store.base_path ++ slash :: decimal transfer_id.toNat).head? =
      (store.base_path ++ [slash]).head? := by
    cases store.base_path <;> rfl
  unfold resolve
  dsimp only
  rw [cString_eq_self free, head, components_append_slash,
    components_eq_singleton (decimal_slash_free _), walk_append, walk_singleton,
    enter_entry (decimal_isEntry _)]
  rfl

theorem resolve_below (text : Bytes) :
    resolve cwd (store.base_path ++ slash :: (decimal transfer_id.toNat ++ slash :: text)) =
      walk (store.directory cwd transfer_id) (components (cString text)) := by
  have shape : store.base_path ++ slash :: (decimal transfer_id.toNat ++ slash :: text) =
      (store.base_path ++ slash :: (decimal transfer_id.toNat ++ [slash])) ++ text := by simp
  have free : (0 : UInt8) ∉ store.base_path ++ slash :: (decimal transfer_id.toNat ++ [slash]) := by
    simp [store.nul_free, decimal_nul_free, slash]
  have seen : cString (store.base_path ++ slash :: (decimal transfer_id.toNat ++ slash :: text)) =
      store.base_path ++ slash :: (decimal transfer_id.toNat ++ slash :: cString text) := by
    rw [shape, cString_append free]
    simp
  have head (rest : Bytes) :
      (store.base_path ++ slash :: rest).head? = (store.base_path ++ [slash]).head? := by
    cases store.base_path <;> rfl
  unfold resolve
  dsimp only
  rw [seen, head, components_append_slash, components_append_slash,
    components_eq_singleton (decimal_slash_free _), walk_append, walk_append, walk_singleton,
    enter_entry (decimal_isEntry _)]
  rfl

theorem resolve_file_path : resolve cwd (store.get_file_path transfer_id filename) =
    walk (store.directory cwd transfer_id) (components (cString filename)) :=
  resolve_below filename

theorem resolve_temp_path (free : (0 : UInt8) ∉ filename) :
    resolve cwd (store.get_temp_path transfer_id filename) =
      walk (store.directory cwd transfer_id) (leading filename) ++
        [lastName filename ++ ascii ".part"] := by
  have seen : cString (filename ++ ascii ".part") = filename ++ ascii ".part" := by
    rw [cString_append free]
    rfl
  refine (resolve_below (filename ++ ascii ".part")).trans ?_
  rw [seen, components_append (by decide), walk_append, walk_singleton,
    enter_entry (part_isEntry _)]

/-- A NUL byte cuts both paths off before the extension. -/
theorem resolve_temp_path_of_nul (nul : (0 : UInt8) ∈ filename) :
    resolve cwd (store.get_temp_path transfer_id filename) =
      resolve cwd (store.get_file_path transfer_id filename) := by
  refine (resolve_below (filename ++ ascii ".part")).trans (Eq.trans ?_ resolve_file_path.symm)
  rw [cString_append_of_mem nul]

theorem resolve_of_nul {other : Bytes} (nul : (0 : UInt8) ∈ filename) (nul' : (0 : UInt8) ∈ other)
    (same : cString filename = cString other) :
    resolve cwd (store.get_temp_path transfer_id filename) =
        resolve cwd (store.get_temp_path transfer_id other) ∧
      resolve cwd (store.get_file_path transfer_id filename) =
        resolve cwd (store.get_file_path transfer_id other) := by
  rw [resolve_temp_path_of_nul nul, resolve_temp_path_of_nul nul', resolve_file_path,
    resolve_file_path, same]
  exact ⟨rfl, rfl⟩

theorem open_for_write_of_nul {os : Os} {io : Io} {other : Bytes} (nul : (0 : UInt8) ∈ filename)
    (nul' : (0 : UInt8) ∈ other) (same : cString filename = cString other) :
    store.open_for_write os transfer_id filename io = store.open_for_write os transfer_id other io := by
  unfold open_for_write
  dsimp only
  split
  · rfl
  · exact Os.fopen_congr (resolve_of_nul nul nul' same).1 _

theorem finalize_file_of_nul {os : Os} {io : Io} {other : Bytes} {file_handle : Option Ptr}
    (nul : (0 : UInt8) ∈ filename) (nul' : (0 : UInt8) ∈ other)
    (same : cString filename = cString other) :
    store.finalize_file os transfer_id filename file_handle io =
      store.finalize_file os transfer_id other file_handle io := by
  unfold finalize_file
  split
  · rfl
  · obtain ⟨temp, final⟩ := @resolve_of_nul store (os.fclose _ io.fclose io.salvaged).cwd transfer_id _ _ nul nul' same
    exact Os.rename_congr temp final _

variable (store cwd transfer_id filename)

/-- Both paths name entries of the transfer's own directory, and not the same one. -/
structure Confined : Prop where
  temp : ∃ entry, resolve cwd (store.get_temp_path transfer_id filename) =
    resolve cwd (store.base_path ++ slash :: decimal transfer_id.toNat) ++ [entry]
  final : ∃ entry, resolve cwd (store.get_file_path transfer_id filename) =
    resolve cwd (store.base_path ++ slash :: decimal transfer_id.toNat) ++ [entry]
  differ : resolve cwd (store.get_temp_path transfer_id filename) ≠
    resolve cwd (store.get_file_path transfer_id filename)

/-- The filename has no NUL byte, its leading components lead back to where they
started, and its last one is an entry. -/
def WellPlaced : Prop :=
  (0 : UInt8) ∉ filename ∧
    walk (store.directory cwd transfer_id) (leading filename) = store.directory cwd transfer_id ∧
    IsEntry (lastName filename)

instance : Decidable (WellPlaced store cwd transfer_id filename) :=
  inferInstanceAs (Decidable (_ ∧ _ ∧ _))

variable {store cwd transfer_id filename}

theorem resolve_file_path_of_free (free : (0 : UInt8) ∉ filename) :
    resolve cwd (store.get_file_path transfer_id filename) =
      enter (walk (store.directory cwd transfer_id) (leading filename)) (lastName filename) := by
  rw [resolve_file_path, cString_eq_self free, components_eq_leading_append, walk_append,
    walk_singleton]

theorem WellPlaced.confined (placed : WellPlaced store cwd transfer_id filename) :
    Confined store cwd transfer_id filename := by
  obtain ⟨free, back, entry⟩ := placed
  have temp := @resolve_temp_path store cwd transfer_id filename free
  have final := @resolve_file_path_of_free store cwd transfer_id filename free
  rw [back] at temp final
  rw [enter_entry entry] at final
  refine ⟨⟨_, temp.trans (by rw [resolve_transfer_dir])⟩,
    ⟨_, final.trans (by rw [resolve_transfer_dir])⟩, fun same => ?_⟩
  rw [temp, final] at same
  have equal := (List.cons.inj (List.append_inj' same rfl).2).1
  have longer := congrArg List.length equal
  simp [ascii] at longer

theorem Confined.wellPlaced (confined : Confined store cwd transfer_id filename) :
    WellPlaced store cwd transfer_id filename := by
  obtain ⟨⟨entry, temp⟩, ⟨entry', final⟩, differ⟩ := confined
  rw [resolve_transfer_dir] at temp final
  have free : (0 : UInt8) ∉ filename := fun nul => differ (resolve_temp_path_of_nul nul)
  rw [resolve_temp_path free] at temp
  have back := (List.append_inj' temp rfl).1
  rw [resolve_file_path_of_free free, back, enter_eq_concat_iff] at final
  exact ⟨free, back, final.1⟩

theorem confined_iff_wellPlaced :
    Confined store cwd transfer_id filename ↔ WellPlaced store cwd transfer_id filename :=
  ⟨Confined.wellPlaced, WellPlaced.confined⟩

/-! ### Plain names -/

/-- A single component without a NUL byte, as a client takes it from its path. -/
def Plain (filename : Bytes) : Prop := slash ∉ filename ∧ (0 : UInt8) ∉ filename

instance (filename : Bytes) : Decidable (Plain filename) := inferInstanceAs (Decidable (_ ∧ _))

theorem Plain.temp_path (plain : Plain filename) :
    resolve cwd (store.get_temp_path transfer_id filename) =
      store.directory cwd transfer_id ++ [filename ++ ascii ".part"] := by
  rw [resolve_temp_path plain.2, leading_of_not_mem plain.1, lastName_of_not_mem plain.1]
  rfl

theorem Plain.file_path (plain : Plain filename) :
    resolve cwd (store.get_file_path transfer_id filename) =
      enter (store.directory cwd transfer_id) filename := by
  rw [resolve_file_path_of_free plain.2, leading_of_not_mem plain.1, lastName_of_not_mem plain.1]
  rfl

/-- No `.part` file of a plainly named transfer is at a path of another one. -/
theorem Plain.paths_apart {other : UInt64} {filename' : Bytes} (plain : Plain filename)
    (plain' : Plain filename') (differ : other ≠ transfer_id) :
    resolve cwd (store.get_temp_path transfer_id filename) ≠
        resolve cwd (store.get_temp_path other filename') ∧
      resolve cwd (store.get_file_path transfer_id filename) ≠
        resolve cwd (store.get_temp_path other filename') := by
  have apart {entry entry' : Name} :
      store.directory cwd transfer_id ++ [entry] ≠ store.directory cwd other ++ [entry'] :=
    fun same => differ (directory_injective (List.append_inj' same rfl).1).symm
  rw [plain.temp_path, plain.file_path, plain'.temp_path]
  refine ⟨apart, ?_⟩
  by_cases entry : IsEntry filename
  · rw [enter_entry entry]
    exact apart
  · -- the directory itself and its parent are not deep enough
    intro same
    have depth := congrArg List.length same
    rcases enter_of_not_entry entry (store.directory cwd transfer_id) with stays | parent
    · rw [stays] at depth
      simp [directory] at depth
    · rw [parent] at depth
      simp [directory] at depth

end FileStore

end FileShareX.Storage
