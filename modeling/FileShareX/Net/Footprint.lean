import FileShareX.Net.Confinement
import FileShareX.Net.Parties
import FileShareX.Net.Restart

/-!
# The footprint of the server

The filename of an offer decides where the server writes.  As long as the names are
well placed, no process ever touches a file outside the directories of its transfers,
and no transfer one of another.
-/

namespace FileShareX.Net

open Wire Posix Protocol Storage Transfer Machine

namespace Server

def Placed (server : Server) : Prop :=
  ∀ id session, server.transfers.transfers id = some session →
    FileStore.WellPlaced server.store server.os.cwd id session.filename

end Server

namespace Observed

def PlacesWell (state : Observed) (label : Label) : Prop :=
  match state.asks label with
  | some (.offer req _) =>
    FileStore.WellPlaced state.server.store state.server.os.cwd
      state.server.transfers.next_transfer_id req.filename
  | _ => True

instance (state : Observed) (label : Label) : Decidable (state.PlacesWell label) :=
  match asked : state.asks label with
  | some (.offer _ _) =>
    decidable_of_iff (FileStore.WellPlaced _ _ _ _) (by rw [PlacesWell, asked])
  | some (.accept _ _) => .isTrue (by rw [PlacesWell, asked]; trivial)
  | some (.chunk _ _) => .isTrue (by rw [PlacesWell, asked]; trivial)
  | some (.done _ _) => .isTrue (by rw [PlacesWell, asked]; trivial)
  | none => .isTrue (by rw [PlacesWell, asked]; trivial)

variable {state : Observed} {label : Label} {id : UInt64} {session : TransferSession}

theorem placed_step (placed : state.server.Placed) (places : state.PlacesWell label) :
    (state.step label).server.Placed := by
  intro id session found
  obtain ⟨store, cwd⟩ := state.step_root label
  rw [store, cwd]
  cases asked : state.asks label with
  | none =>
    rw [(step_same asked).1.transfers] at found
    exact placed id session found
  | some request =>
    unfold PlacesWell at places
    rw [asked] at places
    rcases asks_cases asked with ⟨self, req, receiver, rfl, -, changed⟩ | ⟨other, -, -, about, -⟩
    · rw [changed] at found
      rcases TransferManager.put_found found with ⟨rfl, rfl⟩ | ⟨-, old⟩
      · exact places
      · exact placed id session old
    · obtain ⟨before, after, rewrites⟩ := step_rewrites asked about
      rw [rewrites.transfers] at found
      rcases TransferManager.put_found found with ⟨rfl, rfl⟩ | ⟨-, old⟩
      · rw [rewrites.kept]
        exact placed _ before rewrites.found
      · exact placed id session old

theorem Placed.apart (placed : state.server.Placed)
    (found : state.server.transfers.transfers id = some session) {path : Path}
    (mine : path ∈ [state.server.tempAt id session, state.server.finalAt id session]) :
    path ∉ state.otherPaths id := by
  intro shared
  obtain ⟨other, -, entry, found', ne, theirs⟩ := mem_otherPaths.mp shared
  exact (FileStore.confined_iff state.server.store state.server.os.cwd).2 id other _ _ (Ne.symm ne)
    (placed id session found) (placed other entry found') path mine path theirs rfl

end Observed

namespace Installation

def PlacesWell (state : Installation) : Happening → Prop
  | .serve label => state.process.PlacesWell label
  | _ => True

instance (state : Installation) : DecidablePred state.PlacesWell
  | .serve _ => inferInstanceAs (Decidable (Observed.PlacesWell _ _))
  | .exit _ => .isTrue trivial
  | .start _ => .isTrue trivial

def Outside (state : Installation) (path : Path) : Prop :=
  ∀ id entry, path ≠ state.process.server.store.directory state.os.cwd id ++ [entry]

/-- Nothing has happened to a path outside: what it names is as it was, and no stream is
open on it. -/
structure Spared (start state : Installation) (path : Path) : Prop where
  store : state.process.server.store = start.process.server.store
  cwd : state.os.cwd = start.os.cwd
  placed : state.process.server.Placed
  closed : state.up = false → ∀ ptr, state.os.streams ptr = none
  detached : state.os.Detached path
  content : state.os.disk.content path = start.os.disk.content path

variable {start state : Installation} {path : Path} {happenings : List Happening}

theorem requestSpares (placed : state.process.server.Placed) (outside : state.Outside path)
    {label : Label} {request : Request} (asked : state.process.asks label = some request) :
    { state with saved := [⟨(0, []), path, none⟩] }.RequestSpares label.env.io request := by
  have misses {id : UInt64} {session : TransferSession}
      (found : state.process.server.transfers.transfers id = some session) {mine : Path}
      (isMine : mine ∈ [state.process.server.tempAt id session, state.process.server.finalAt id session]) :
      mine ∉ [path] := by
    obtain ⟨entry, same⟩ := (placed id session found).paths_eq isMine
    rw [List.mem_singleton, same]
    exact (outside id entry).symm
  cases request with
  | offer => trivial
  | accept req session =>
    have found := Observed.asks_found asked rfl rfl
    exact fun _ => .inr ⟨misses found (by simp), misses found (by simp)⟩
  | chunk => trivial
  | done done session =>
    have found := Observed.asks_found asked rfl rfl
    exact .inr (.inr ⟨misses found (by simp), misses found (by simp)⟩)

theorem Spared.step (spared : Spared start state path) (outside : start.Outside path)
    {happening : Happening} (places : state.PlacesWell happening) :
    Spared start (state.step happening) path := by
  obtain ⟨store, cwd, placed, closed, detached, content⟩ := spared
  rcases step_cases state happening with same | ⟨label, rfl, up, stepped⟩ | ⟨flushed, stepped⟩ |
    ⟨io, server, down, started, stepped⟩
  · rw [same]
    exact ⟨store, cwd, placed, closed, detached, content⟩
  · have here : state.Outside path := by
      unfold Outside
      rwa [store, cwd]
    obtain ⟨store', cwd'⟩ := state.process.step_root label
    -- the path is watched as if an earlier run had saved it
    obtain ⟨detached', content'⟩ := @serve_leaves { state with saved := [⟨(0, []), path, none⟩] } label
      path (fun request asked => requestSpares placed here asked) (by simp [savedPaths]) detached
    rw [stepped]
    exact ⟨store'.trans store, cwd'.trans cwd, Observed.placed_step placed places,
      fun down => absurd (up.symm.trans down) (by decide), detached', content'.trans content⟩
  · obtain ⟨detached', content'⟩ := Os.Leaves.endProcess state.os flushed path detached
    rw [stepped]
    refine ⟨store, (Os.endProcess_cwd ..).trans cwd, fun id session found => ?_, fun _ _ => rfl,
      detached', content'.trans content⟩
    have same : (state.os.endProcess flushed).cwd = state.process.server.os.cwd :=
      Os.endProcess_cwd ..
    dsimp only
    rw [same]
    exact placed id session found
  · obtain ⟨store', cwd', leaves⟩ := boot_leaves started (closed down)
    obtain ⟨detached', content'⟩ := leaves path detached
    have booted : Observed.Booted { server } := ⟨rfl, _, _, _, _, _, started⟩
    rw [stepped]
    refine ⟨store'.trans store, cwd'.trans cwd, fun id session found => ?_, nofun, detached',
      content'.trans content⟩
    rw [booted.fresh.2.1] at found
    cases found

/-- What no transfer's directory holds stays as it is through every sequence of processes
whose offers are well placed: its content if it is a file, and its absence if not. -/
theorem footprint (fresh : start.Fresh) (along : Along step PlacesWell start happenings)
    (outside : start.Outside path) :
    (run step start happenings).os.disk.content path = start.os.disk.content path := by
  have initial : Spared start start path := by
    obtain ⟨-, transfers, -, -, streams⟩ := fresh.1.fresh
    refine ⟨rfl, rfl, fun id session found => ?_, fun _ => streams, fun ptr stream opened => ?_, rfl⟩
    · rw [transfers] at found
      cases found
    · have closed : start.os.streams ptr = none := streams ptr
      rw [closed] at opened
      cases opened
  have spared : (fun state => Spared start state path) (run step start happenings) :=
    along.invariant initial fun _ _ spared places => Spared.step spared outside places
  exact spared.content

theorem footprint_sample : (run step installed (firstRun ++ secondRun "b")).os.disk.content
    [ascii "etc", ascii "passwd"] = installed.os.disk.content [ascii "etc", ascii "passwd"] :=
  footprint ⟨Sample.booted, rfl⟩ (by decide) fun id entry same => by
    have deep := congrArg List.length same
    have root : (installed.process.server.store.root installed.os.cwd).length = 2 := by decide
    simp [FileStore.directory, root] at deep

end Installation

end FileShareX.Net
