import FileShareX.Net.Server
import FileShareX.Storage.Placement

/-!
# Confinement of the storage paths

The sending client offers the last component of its path, but the server takes
any filename.  Placement decides exactly which filenames stay in the directory
of their transfer.
-/

namespace FileShareX.Storage.FileStore

open Wire Posix

/-- The paths handed to the operating system for a transfer, resolved. -/
def paths (store : FileStore) (cwd : Path) (transfer_id : UInt64) (filename : Bytes) : List Path :=
  [resolve cwd (store.get_temp_path transfer_id filename),
    resolve cwd (store.get_file_path transfer_id filename)]

theorem WellPlaced.paths_eq {store : FileStore} {cwd : Path} {transfer_id : UInt64}
    {filename : Bytes} (placed : WellPlaced store cwd transfer_id filename) {path : Path}
    (used : path ∈ store.paths cwd transfer_id filename) :
    ∃ entry, path = store.directory cwd transfer_id ++ [entry] := by
  obtain ⟨temp, final, -⟩ := placed.confined
  rw [resolve_transfer_dir] at temp final
  rcases List.mem_pair.mp used with rfl | rfl
  · exact temp
  · exact final

/-- The paths of an offer are confined to its directory exactly if its filename
is well placed, and well placed offers of different numbers share no path. -/
theorem confined_iff (store : FileStore) (cwd : Path) :
    (∀ transfer_id filename,
      Confined store cwd transfer_id filename ↔ WellPlaced store cwd transfer_id filename) ∧
    ∀ transfer_id other filename filename', transfer_id ≠ other →
      WellPlaced store cwd transfer_id filename → WellPlaced store cwd other filename' →
      ∀ path ∈ store.paths cwd transfer_id filename, ∀ path' ∈ store.paths cwd other filename',
        path ≠ path' := by
  refine ⟨fun _ _ => confined_iff_wellPlaced, ?_⟩
  rintro transfer_id other filename filename' differ placed placed' path used path' used' rfl
  obtain ⟨entry, here⟩ := placed.paths_eq used
  obtain ⟨entry', there⟩ := placed'.paths_eq used'
  rw [here] at there
  exact differ (directory_injective (List.append_inj' there rfl).1)

end FileShareX.Storage.FileStore

namespace FileShareX.Net.Observed

open Wire Storage Machine

/-- An offer of `../../a` is accepted, and its files go into the parent of the
storage directory. -/
theorem offer_escapes :
    ∃ start labels label req receiver, start.Booted ∧
      (run step start labels).asks label = some (.offer req receiver) ∧
      .sent 0 (.fileOfferResp { ok := true, transfer_id := 1 }) ∈
        (run step start labels).events label ∧
      ¬ FileStore.Confined (run step start labels).server.store
        (run step start labels).server.os.cwd 1 req.filename :=
  ⟨Sample.start, [.connect, Sample.login 0 "alice" 1], Sample.offer 0 "alice" "../../a" 2,
    ⟨0, ascii "alice", ascii "../../a", 2, 1024⟩,
    ⟨1, ascii "alice", ascii "alice@example.org", []⟩, Sample.booted, by rfl, by decide,
    fun confined => absurd confined.wellPlaced (by decide)⟩

end FileShareX.Net.Observed
