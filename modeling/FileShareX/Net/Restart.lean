import FileShareX.Net.Server

/-!
# Restarts

The directory of a transfer is named by its number and stays on the disk; the
counter the numbers come from starts at 1 in every process.  A later run can
therefore come back to the names of an earlier one.
-/

namespace FileShareX.Net

open Wire Posix Protocol Storage Transfer Machine

/-- A file an earlier run has completed: the number and filename of its
transfer, where it is, and what that run has left there. -/
structure Saved where
  name : UInt64 × Bytes
  path : Path
  content : Option Bytes
  deriving DecidableEq

/-- The file and account store of one machine, with the process on it. -/
structure Installation where
  process : Observed
  up : Bool := true
  /-- The transfers this run has finalized. -/
  completed : List (UInt64 × Bytes) := []
  saved : List Saved := []

inductive Happening where
  | serve (label : Label)
  | exit (flushed : List (Ptr × Nat))
  | start (io : Io)

def Observed.name (state : Observed) (id : UInt64) : Option (UInt64 × Bytes) :=
  (state.server.transfers.get_transfer id).map fun session => (id, session.filename)

def Observed.finalizes (state : Observed) (label : Label) : List (UInt64 × Bytes) :=
  (state.events label).filterMap fun
    | .finalize_file id _ true => state.name id
    | _ => none

def Observed.stores (state : Observed) (label : Label) : List (UInt64 × Bytes) :=
  (state.events label).filterMap fun
    | .open_for_write id (some _) => state.name id
    | .finalize_file id _ true => state.name id
    | _ => none

namespace Installation

def os (state : Installation) : Os := state.process.server.os

def finalOf (state : Installation) (name : UInt64 × Bytes) : Path :=
  resolve state.os.cwd (state.process.server.store.get_file_path name.1 name.2)

/-- A new process keeps the storage directory and the accounts, and nothing else. -/
def step (state : Installation) : Happening → Installation
  | .serve label =>
    if state.up then
      { state with
        process := state.process.step label
        completed := state.completed ++ state.process.finalizes label }
    else state
  | .exit flushed =>
    if state.up then
      let os := state.os.endProcess flushed
      { process := ⟨{ state.process.server with os }, state.process.ledger⟩
        up := false
        saved := state.saved ++ state.completed.map fun name =>
          ⟨name, state.finalOf name, os.disk.content (state.finalOf name)⟩ }
    else state
  | .start io =>
    if state.up then state
    else match Server.boot state.process.server.store state.process.server.db state.os.cwd
      state.os.disk io with
    | some server => { state with process := { server }, up := true }
    | none => state

def Fresh (state : Installation) : Prop := state.process.Booted ∧ state.saved = []

def savedPaths (state : Installation) : List Path := state.saved.map Saved.path

/-- No transfer has the name of a file of an earlier run for one of its own. -/
def RequestSpares (state : Installation) (io : Io) : Request → Prop
  | .accept req session => req.accept = true → io.fopen = none ∨
      state.process.server.tempAt req.transfer_id session ∉ state.savedPaths ∧
        state.process.server.finalAt req.transfer_id session ∉ state.savedPaths
  | .done done session => session.file_handle = none ∨ io.rename = false ∨
      state.process.server.tempAt done.transfer_id session ∉ state.savedPaths ∧
        state.process.server.finalAt done.transfer_id session ∉ state.savedPaths
  | _ => True

instance (state : Installation) (io : Io) : DecidablePred (state.RequestSpares io)
  | .offer _ _ => .isTrue trivial
  | .accept _ _ => inferInstanceAs (Decidable (_ → _))
  | .chunk _ _ => .isTrue trivial
  | .done _ _ => inferInstanceAs (Decidable (_ ∨ _))

def SparesSaved (state : Installation) : Happening → Prop
  | .serve label => ∀ request ∈ state.process.asks label, state.RequestSpares label.env.io request
  | _ => True

instance (state : Installation) : DecidablePred state.SparesSaved
  | .serve label => inferInstanceAs (Decidable (∀ request ∈ state.process.asks label, _))
  | .exit _ => .isTrue trivial
  | .start _ => .isTrue trivial

structure Keeps (state : Installation) (entry : Saved) : Prop where
  content : state.os.disk.content entry.path = entry.content
  detached : state.os.Detached entry.path
  named : entry.path = state.finalOf entry.name

/-- All saved files are kept, and between two processes no stream is open. -/
structure Guarded (state : Installation) : Prop where
  closed : state.up = false → ∀ ptr, state.os.streams ptr = none
  kept : ∀ entry ∈ state.saved, state.Keeps entry

variable {state start : Installation} {label : Label} {path : Path}

theorem serve_leaves
    (spares : ∀ request ∈ state.process.asks label, state.RequestSpares label.env.io request)
    (isSaved : path ∈ state.savedPaths) :
    state.os.Leaves (state.process.step label).server.os path := by
  have ne {other : Path} (free : other ∉ state.savedPaths) : path ≠ other := by
    rintro rfl
    exact free isSaved
  cases asked : state.process.asks label with
  | none =>
    rw [(Observed.step_same asked).1.os]
    exact .refl _ _
  | some request =>
    have spares := spares request asked
    obtain ⟨conn, self, result, -, effect, -, stepped⟩ := Observed.step_effect asked
    rw [stepped]
    have finalized {os : Os} {id : UInt64} {session : TransferSession} {success : Bool}
        (called : state.process.server.store.finalize_file state.process.server.os id
          session.filename session.file_handle label.env.io = (os, success))
        (spares : session.file_handle = none ∨ label.env.io.rename = false ∨
          state.process.server.tempAt id session ∉ state.savedPaths ∧
            state.process.server.finalAt id session ∉ state.savedPaths) :
        state.os.Leaves os path := by
      refine FileStore.finalize_file_leaves called fun isTrue => ?_
      rcases spares with handle | refused | ⟨temp, final⟩
      · rw [handle] at called
        cases called
        cases isTrue
      · rw [FileStore.finalize_file_no_rename called refused] at isTrue
        cases isTrue
      · exact ⟨ne temp, ne final⟩
    cases effect with
    | offered => exact .refl _ _
    | openFailed authenticated found party accept called =>
      exact FileStore.open_for_write_leaves called
        ((spares accept).imp id fun free => ne free.1)
    | opened authenticated found party accept called =>
      exact FileStore.open_for_write_leaves called
        ((spares accept).imp id fun free => ne free.1)
    | rejected => exact .refl _ _
    | writeFailed authenticated found party running called =>
      exact FileStore.write_chunk_leaves called
    | received authenticated found party running called => exact FileStore.write_chunk_leaves called
    | strayed authenticated found party running called => exact FileStore.write_chunk_leaves called
    | finalizeFailed authenticated found party called => exact finalized called spares
    | finalized authenticated found party called => exact finalized called spares

theorem boot_leaves {store : FileStore} {db : Db} {os : Os} {io : Io} {server : Server}
    (started : Server.boot store db os.cwd os.disk io = some server)
    (closed : ∀ ptr, os.streams ptr = none) :
    server.store = store ∧ server.os.cwd = os.cwd ∧ ∀ path, os.Leaves server.os path := by
  unfold Server.boot at started
  split at started
  · next ensured =>
    cases started
    obtain ⟨cwd, streams, keeps⟩ := FileStore.ensure_directory_spec ensured
    refine ⟨rfl, cwd, fun path => .keepsFiles ?_ keeps⟩
    rw [streams]
    exact funext fun ptr => (closed ptr).symm
  · cases started

theorem step_cases (state : Installation) (happening : Happening) :
    state.step happening = state ∨
    (∃ label, happening = .serve label ∧ state.up = true ∧ state.step happening =
      { state with
        process := state.process.step label
        completed := state.completed ++ state.process.finalizes label }) ∨
    (∃ flushed, state.step happening =
      { process :=
          ⟨{ state.process.server with os := state.os.endProcess flushed }, state.process.ledger⟩
        up := false
        saved := state.saved ++ state.completed.map fun name => ⟨name, state.finalOf name,
          (state.os.endProcess flushed).disk.content (state.finalOf name)⟩ }) ∨
    ∃ io server, state.up = false ∧ Server.boot state.process.server.store state.process.server.db
      state.os.cwd state.os.disk io = some server ∧
      state.step happening = { state with process := { server }, up := true } := by
  cases up : state.up with
  | false =>
    cases happening with
    | serve label => exact .inl (by simp [step, up])
    | exit flushed => exact .inl (by simp [step, up])
    | start io =>
      cases started : Server.boot state.process.server.store state.process.server.db
        state.os.cwd state.os.disk io with
      | none => exact .inl (by simp [step, up, started])
      | some server => exact .inr (.inr (.inr ⟨io, server, rfl, started, by simp [step, up, started]⟩))
  | true =>
    cases happening with
    | serve label => exact .inr (.inl ⟨label, rfl, rfl, by simp [step, up]⟩)
    | exit flushed => exact .inr (.inr (.inl ⟨flushed, by simp [step, up]⟩))
    | start io => exact .inl (by simp [step, up])

theorem saved_subset_step (state : Installation) (happening : Happening) :
    state.saved ⊆ (state.step happening).saved := by
  rcases step_cases state happening with same | ⟨label, -, -, stepped⟩ | ⟨flushed, stepped⟩ |
    ⟨io, server, -, -, stepped⟩
  · rw [same]
    exact List.Subset.refl _
  · rw [stepped]
    exact List.Subset.refl _
  · rw [stepped]
    exact List.subset_append_left ..
  · rw [stepped]
    exact List.Subset.refl _

theorem saved_subset_run (state : Installation) (happenings : List Happening) :
    state.saved ⊆ (run step state happenings).saved := by
  induction happenings generalizing state with
  | nil => exact List.Subset.refl _
  | cons happening rest ih => exact List.Subset.trans (saved_subset_step state happening) (ih _)

namespace Guarded

theorem fresh (fresh : start.Fresh) : start.Guarded := by
  refine ⟨fun _ => fresh.1.fresh.2.2.2.2, fun entry isSaved => ?_⟩
  rw [fresh.2] at isSaved
  cases isSaved

/-- What leaves the saved files alone keeps the invariant, if what it saves itself is right. -/
theorem extend {after : Installation} (guarded : state.Guarded)
    (closed : after.up = false → ∀ ptr, after.os.streams ptr = none)
    (leaves : ∀ path ∈ state.savedPaths, state.os.Leaves after.os path)
    (root : ∀ name, after.finalOf name = state.finalOf name)
    (saves : ∀ entry ∈ after.saved, entry ∈ state.saved ∨ after.Keeps entry) : after.Guarded := by
  refine ⟨closed, fun entry isSaved => ?_⟩
  rcases saves entry isSaved with old | new
  · obtain ⟨content, detached, named⟩ := guarded.kept entry old
    obtain ⟨detached', content'⟩ := leaves entry.path (List.mem_map_of_mem old) detached
    exact ⟨content'.trans content, detached', named.trans (root _).symm⟩
  · exact new

theorem step (guarded : state.Guarded) {happening : Happening}
    (spares : state.SparesSaved happening) : (state.step happening).Guarded := by
  rcases step_cases state happening with same | ⟨label, rfl, up, stepped⟩ | ⟨flushed, stepped⟩ |
    ⟨io, server, down, started, stepped⟩
  · rwa [same]
  · rw [stepped]
    obtain ⟨store, cwd⟩ := state.process.step_root label
    refine guarded.extend (fun down => absurd (up.symm.trans down) (by decide))
      (fun path => serve_leaves spares) (fun name => ?_) (fun entry => .inl)
    simp only [finalOf, os, store, cwd]
  · rw [stepped]
    have ended (path : Path) : state.os.Leaves (state.os.endProcess flushed) path :=
      .endProcess state.os flushed path
    refine guarded.extend (fun _ _ => rfl) (fun path _ => ended path) (fun name => ?_)
      fun entry isSaved => ?_
    · simp only [finalOf, os, Os.endProcess_cwd]
    · rcases List.mem_append.mp isSaved with old | new
      · exact .inl old
      · obtain ⟨name, -, rfl⟩ := List.mem_map.mp new
        refine .inr ⟨rfl, fun _ _ opened => (nomatch opened), ?_⟩
        simp only [finalOf, os, Os.endProcess_cwd]
  · rw [stepped]
    obtain ⟨store, cwd, leaves⟩ := boot_leaves started (guarded.closed down)
    refine guarded.extend nofun (fun path _ => leaves path) (fun name => ?_) (fun entry => .inl)
    rw [finalOf, finalOf, os, store, cwd]

end Guarded

/-- A transfer whose file is opened or finalized has the name of no saved file. -/
theorem stores_fresh_name (guarded : state.Guarded)
    (spares : ∀ request ∈ state.process.asks label, state.RequestSpares label.env.io request)
    {name : UInt64 × Bytes} (stores : name ∈ state.process.stores label) {entry : Saved}
    (isSaved : entry ∈ state.saved) : entry.name ≠ name := by
  have fresh {id : UInt64} {session : TransferSession}
      (found : state.process.server.transfers.transfers id = some session)
      (free : state.process.server.finalAt id session ∉ state.savedPaths)
      (named : state.process.name id = some name) : entry.name ≠ name := by
    rw [Observed.name, TransferManager.get_transfer, found, Option.map_some] at named
    cases named
    intro same
    refine free (List.mem_map.mpr ⟨entry, isSaved, ?_⟩)
    rw [(guarded.kept entry isSaved).named, same]
    rfl
  obtain ⟨event, happens, named⟩ := List.mem_filterMap.mp stores
  cases asked : state.process.asks label with
  | none =>
    obtain ⟨peer, response, rfl, -⟩ := (Observed.step_same asked).2 event happens
    cases named
  | some request =>
    have spares := spares request asked
    obtain ⟨conn, self, result, -, effect, emitted, -⟩ := Observed.step_effect asked
    rw [emitted] at happens
    have told {session : TransferSession} {resp : FileAcceptResp} {peer : ConnId}
        {response : Response}
        (happens : event ∈ state.process.server.notifySender session resp ++ [.sent peer response]) :
        entry.name ≠ name := by
      rcases List.mem_append.mp happens with told | last
      · obtain ⟨peer, rfl⟩ := Server.notifySender_sent told
        cases named
      · rw [List.mem_singleton.mp last] at named
        cases named
    cases effect with
    | offered | openFailed | finalizeFailed =>
      rcases List.mem_pair.mp happens with rfl | rfl <;> cases named
    | opened authenticated found party accept called =>
      rcases List.mem_cons.mp happens with rfl | reply
      · rcases spares accept with refused | ⟨-, free⟩
        · cases FileStore.open_for_write_refused called refused
        · exact fresh found free named
      · exact told reply
    | rejected => exact told happens
    | writeFailed =>
      rw [List.mem_singleton.mp happens] at named
      cases named
    | received | strayed => rcases List.mem_pair.mp happens with rfl | rfl <;> cases named
    | finalized authenticated found party called =>
      rcases List.mem_pair.mp happens with rfl | rfl
      · rcases spares with handle | refused | ⟨-, free⟩
        · rw [handle] at called
          cases called
        · cases FileStore.finalize_file_no_rename called refused
        · exact fresh found free named
      · cases named

/-- What is promised of a sequence of runs: whatever the finished ones have
completed keeps its content, and its name is not used again. -/
structure Survives (start : Installation) (happenings : List Happening) : Prop where
  content : ∀ earlier later, happenings = earlier ++ later →
    ∀ entry ∈ (run step start earlier).saved,
      (run step start happenings).os.disk.content entry.path = entry.content
  fresh_name : ∀ earlier label later, happenings = earlier ++ .serve label :: later →
    ∀ entry ∈ (run step start earlier).saved,
      ∀ name ∈ (run step start earlier).process.stores label, entry.name ≠ name

/-- A sequence of runs that spare the paths of earlier ones also spares their files. -/
theorem completed_files_survive {happenings : List Happening} (fresh : start.Fresh)
    (along : Along step SparesSaved start happenings) : start.Survives happenings := by
  have guarded {earlier : List Happening} (along : Along step SparesSaved start earlier) :
      (run step start earlier).Guarded :=
    along.invariant (.fresh fresh) fun _ _ guarded spares => guarded.step spares
  refine ⟨?_, ?_⟩
  · rintro earlier later rfl entry isSaved
    refine ((guarded along).kept entry ?_).content
    rw [run_append]
    exact saved_subset_run _ later isSaved
  · rintro earlier label later rfl entry isSaved name stores
    obtain ⟨before, spares, -⟩ := along_append.mp along
    exact stores_fresh_name (guarded before) spares stores isSaved

def firstRun : List Happening := Sample.delivery.map .serve ++ [.exit []]

/-- The second run sends an empty file. -/
def secondRun (filename : String) : List Happening :=
  .start {} :: [.connect, Sample.login 0 "alice" 2, Sample.offer 0 "alice" filename 0,
    Sample.accept 0 1 5, Sample.done 0 1 0 0].map .serve

def installed : Installation := { process := Sample.start }

theorem completed_files_survive_sample : installed.Survives (firstRun ++ secondRun "b") :=
  completed_files_survive ⟨Sample.booted, rfl⟩ (by decide)

/-- Transfer 1 of the second run replaces the file of transfer 1 of the first. -/
theorem restart_overwrites :
    ∃ (start : Installation) (happenings : List Happening),
      start.Fresh ∧ ¬ start.Survives happenings := by
  refine ⟨installed, firstRun ++ secondRun "a", ⟨Sample.booted, rfl⟩, fun survives => ?_⟩
  have kept := survives.content firstRun (secondRun "a") rfl
    ⟨(1, ascii "a"), [ascii "storage", ascii "transfers", ascii "1", ascii "a"], some [1, 2]⟩
    (by decide)
  exact absurd kept (by decide)

end Installation

end FileShareX.Net
