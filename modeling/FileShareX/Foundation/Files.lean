import FileShareX.Foundation.Path
import Mathlib.Data.List.Infix
import Mathlib.Logic.Function.Basic

/-!
# Files and stdio streams

A disk maps resolved paths to directories and inodes, and inodes to contents.
A stream keeps the inode it was opened on, so a later rename or truncation of
the name does not redirect it, together with the bytes not yet handed on.  Every
call takes the answer of the operating system as an argument: whether it fails,
and how much reaches the file when it does, or before it is asked for.
-/

namespace Posix

open Wire

abbrev Inode := Nat

/-- A non-null `FILE*`. -/
abbrev Ptr := Nat

inductive Node where
  | dir
  | file (inode : Inode)
  deriving DecidableEq

/-- Every file has one name: hard links are not modelled. -/
structure Disk where
  node : Path → Option Node
  data : Inode → Bytes
  next : Inode
  below : ∀ {path inode}, node path = some (.file inode) → inode < next
  single : ∀ {path other inode}, node path = some (.file inode) →
    node other = some (.file inode) → path = other

namespace Disk

def IsDir (disk : Disk) (path : Path) : Prop := path = [] ∨ disk.node path = some .dir

instance (disk : Disk) (path : Path) : Decidable (disk.IsDir path) :=
  inferInstanceAs (Decidable (_ ∨ _))

def content (disk : Disk) (path : Path) : Option Bytes :=
  match disk.node path with
  | some (.file inode) => some (disk.data inode)
  | _ => none

/-- Bytes stored at an offset; a gap before them reads as zeros. -/
def writeAt (old : Bytes) (pos : Nat) (bytes : Bytes) : Bytes :=
  if bytes = [] then old
  else
    old.take pos ++ List.replicate (pos - old.length) 0 ++ bytes ++ old.drop (pos + bytes.length)

def store (disk : Disk) (inode : Inode) (bytes : Bytes) : Disk :=
  { disk with data := Function.update disk.data inode bytes }

/-- Every prefix of the path becomes a directory, unless a file is in the way. -/
def createDirectories (disk : Disk) (path : Path) : Option Disk :=
  if ∃ front ∈ path.inits, (disk.content front).isSome then none
  else some
    { disk with
      node := fun other => if other <+: path then some .dir else disk.node other
      below := by
        intro other inode found
        split at found
        · cases found
        · exact disk.below found
      single := by
        intro other another inode found again
        split at found
        · cases found
        · split at again
          · cases again
          · exact disk.single found again }

/-- `open` with `O_CREAT | O_TRUNC`. -/
def openTruncated (disk : Disk) (path : Path) : Option (Disk × Inode) :=
  if disk.IsDir path then none
  else match disk.node path with
  | some (.file inode) => some (disk.store inode [], inode)
  | _ =>
    if disk.IsDir path.dropLast then
      some
        ({ node := Function.update disk.node path (some (.file disk.next))
           data := Function.update disk.data disk.next []
           next := disk.next + 1
           below := by
             intro other inode here
             by_cases same : other = path
             · subst same
               rw [Function.update_self] at here
               cases here
               exact Nat.lt_succ_self _
             · rw [Function.update_of_ne same] at here
               exact Nat.lt_succ_of_lt (disk.below here)
           single := by
             intro other another inode here there
             by_cases same : other = path <;> by_cases same' : another = path
             · rw [same, same']
             · subst same
               rw [Function.update_self] at here
               rw [Function.update_of_ne same'] at there
               cases here
               exact absurd (disk.below there) (Nat.lt_irrefl _)
             · subst same'
               rw [Function.update_self] at there
               rw [Function.update_of_ne same] at here
               cases there
               exact absurd (disk.below here) (Nat.lt_irrefl _)
             · rw [Function.update_of_ne same] at here
               rw [Function.update_of_ne same'] at there
               exact disk.single here there }, disk.next)
    else none

/-- `rename` of a file; a file already at the target loses its name. -/
def rename (disk : Disk) (source target : Path) : Option Disk :=
  match found : disk.node source with
  | some (.file inode) =>
    if disk.IsDir target ∨ ¬ disk.IsDir target.dropLast then none
    else some
      { disk with
        node := fun path =>
          if path = target then some (.file inode)
          else if path = source then none
          else disk.node path
        below := by
          intro path other here
          split at here
          · cases here
            exact disk.below found
          · split at here
            · cases here
            · exact disk.below here
        single := by
          intro path other same here there
          split at here <;> split at there
          · rw [‹path = target›, ‹other = target›]
          · split at there
            · cases there
            · cases here
              exact absurd (disk.single there found) ‹_›
          · split at here
            · cases here
            · cases there
              exact absurd (disk.single here found) ‹_›
          · split at here
            · cases here
            · split at there
              · cases there
              · exact disk.single here there }
  | _ => none

/-! ### What each operation leaves alone -/

@[simp] theorem store_node (disk : Disk) (inode : Inode) (bytes : Bytes) :
    (disk.store inode bytes).node = disk.node := rfl

@[simp] theorem store_next (disk : Disk) (inode : Inode) (bytes : Bytes) :
    (disk.store inode bytes).next = disk.next := rfl

@[simp] theorem store_data (disk : Disk) (inode : Inode) (bytes : Bytes) :
    (disk.store inode bytes).data = Function.update disk.data inode bytes := rfl

theorem content_of_node {disk : Disk} {path : Path} {inode : Inode}
    (found : disk.node path = some (.file inode)) : disk.content path = some (disk.data inode) := by
  simp [content, found]

theorem content_eq_some {disk : Disk} {path : Path} {bytes : Bytes} :
    disk.content path = some bytes ↔
      ∃ inode, disk.node path = some (.file inode) ∧ disk.data inode = bytes := by
  unfold content
  rcases disk.node path with _ | _ | inode <;> simp

@[simp] theorem writeAt_end (old bytes : Bytes) : writeAt old old.length bytes = old ++ bytes := by
  unfold writeAt
  split
  · next empty => rw [empty, List.append_nil]
  · simp

@[simp] theorem writeAt_nil (old : Bytes) (pos : Nat) : writeAt old pos [] = old := if_pos rfl

theorem store_self (disk : Disk) (inode : Inode) : disk.store inode (disk.data inode) = disk := by
  unfold store
  rw [Function.update_eq_self]

structure KeepsFiles (disk after : Disk) : Prop where
  data : after.data = disk.data
  next : after.next = disk.next
  keeps_dir : ∀ other, disk.IsDir other → after.IsDir other
  file_iff : ∀ other inode,
    after.node other = some (.file inode) ↔ disk.node other = some (.file inode)

theorem KeepsFiles.refl (disk : Disk) : disk.KeepsFiles disk :=
  ⟨rfl, rfl, fun _ dir => dir, fun _ _ => Iff.rfl⟩

theorem KeepsFiles.trans {disk mid after : Disk} (first : disk.KeepsFiles mid)
    (second : mid.KeepsFiles after) : disk.KeepsFiles after where
  data := second.data.trans first.data
  next := second.next.trans first.next
  keeps_dir other dir := second.keeps_dir other (first.keeps_dir other dir)
  file_iff other inode := (second.file_iff other inode).trans (first.file_iff other inode)

theorem KeepsFiles.content {disk after : Disk} (keeps : disk.KeepsFiles after) (path : Path) :
    after.content path = disk.content path := by
  ext bytes
  rw [content_eq_some, content_eq_some, keeps.data]
  simp only [keeps.file_iff]

structure MakesDirectories (disk : Disk) (path : Path) (made : Disk) : Prop
    extends disk.KeepsFiles made where
  prefixes : ∀ front, front <+: path → made.IsDir front

theorem createDirectories_spec {disk made : Disk} {path : Path}
    (created : disk.createDirectories path = some made) : disk.MakesDirectories path made := by
  unfold createDirectories at created
  split at created
  · cases created
  · next clear =>
    cases created
    refine ⟨⟨rfl, rfl, ?_, ?_⟩, fun front below => .inr (if_pos below)⟩
    · rintro other (root | found)
      · exact .inl root
      · right
        change (if other <+: path then _ else _) = _
        split
        · rfl
        · exact found
    · intro other inode
      change (if other <+: path then _ else _) = _ ↔ _
      split
      · next below =>
        constructor
        · intro absurd_
          cases absurd_
        · intro found
          exact absurd ⟨other, List.mem_inits _ _ |>.mpr below, by simp [content, found]⟩ clear
      · rfl

/-- Opening for writing empties one inode and names at most one new file. -/
structure Truncates (disk : Disk) (path : Path) (after : Disk) (inode : Inode) : Prop where
  here : after.node path = some (.file inode)
  elsewhere : ∀ other, other ≠ path → after.node other = disk.node other
  empty : after.data inode = []
  data : ∀ other, other ≠ inode → after.data other = disk.data other
  next : disk.next ≤ after.next
  origin : disk.node path = some (.file inode) ∨ disk.node path = none ∧ inode = disk.next
  notDir : ¬ disk.IsDir path

theorem openTruncated_spec {disk after : Disk} {path : Path} {inode : Inode}
    (opened : disk.openTruncated path = some (after, inode)) : disk.Truncates path after inode := by
  unfold openTruncated at opened
  split at opened
  · cases opened
  · next notDir =>
    split at opened
    · next other found =>
      cases opened
      refine ⟨found, fun _ _ => rfl, by simp, fun j ne => ?_, Nat.le_refl _, .inl found, notDir⟩
      simp [Function.update_of_ne ne]
    · next notFile =>
      split at opened
      · cases opened
        have absent : disk.node path = none := by
          rcases found : disk.node path with _ | _ | inode
          · rfl
          · exact absurd (.inr found) notDir
          · exact absurd found (notFile inode)
        refine ⟨by simp, fun q ne => ?_, by simp, fun j ne => ?_, Nat.le_succ _,
          .inr ⟨absent, rfl⟩, notDir⟩
        · simp [Function.update_of_ne ne]
        · simp [Function.update_of_ne ne]
      · cases opened

theorem Truncates.keeps_dir {disk after : Disk} {path other : Path} {inode : Inode}
    (opened : disk.Truncates path after inode) (dir : disk.IsDir other) : after.IsDir other := by
  rcases dir with root | found
  · exact .inl root
  · refine .inr ?_
    rw [opened.elsewhere other ?_, found]
    rintro rfl
    exact opened.notDir (.inr found)

theorem Truncates.inode_ne {disk after : Disk} {path other : Path} {inode inode' : Inode}
    (opened : disk.Truncates path after inode) (ne : other ≠ path)
    (found : disk.node other = some (.file inode')) : inode' ≠ inode := by
  rintro rfl
  exact ne (after.single ((opened.elsewhere other ne).trans found) opened.here)

theorem Truncates.content_of_ne {disk after : Disk} {path other : Path} {inode : Inode}
    (opened : disk.Truncates path after inode) (ne : other ≠ path) :
    after.content other = disk.content other := by
  ext bytes
  rw [content_eq_some, content_eq_some,
    opened.elsewhere other ne]
  refine exists_congr fun inode' => and_congr_right fun found => ?_
  rw [opened.data inode' (opened.inode_ne ne found)]

/-- A rename moves one inode to a name that is not a directory. -/
structure Moves (disk : Disk) (source target : Path) (after : Disk) : Prop where
  moved : ∃ inode, disk.node source = some (.file inode) ∧ after.node target = some (.file inode)
  elsewhere : ∀ path, path ≠ source → path ≠ target → after.node path = disk.node path
  data : after.data = disk.data
  next : after.next = disk.next
  targetNotDir : ¬ disk.IsDir target

theorem rename_spec {disk after : Disk} {source target : Path}
    (renamed : disk.rename source target = some after) : disk.Moves source target after := by
  unfold rename at renamed
  split at renamed
  · next inode found =>
    split at renamed
    · cases renamed
    · next allowed =>
      cases renamed
      refine ⟨⟨inode, found, if_pos rfl⟩, fun path ne ne' => ?_, rfl, rfl, fun dir => allowed (.inl dir)⟩
      change (if _ then _ else _) = _
      rw [if_neg ne', if_neg ne]
  · cases renamed

theorem Moves.content_of_ne {disk after : Disk} {source target other : Path}
    (moved : disk.Moves source target after) (notSource : other ≠ source)
    (notTarget : other ≠ target) : after.content other = disk.content other := by
  unfold content
  rw [moved.elsewhere other notSource notTarget, moved.data]

theorem Moves.content_target {disk after : Disk} {source target : Path}
    (moved : disk.Moves source target after) : after.content target = disk.content source := by
  obtain ⟨inode, before, now⟩ := moved.moved
  rw [content_of_node before, content_of_node now, moved.data]

theorem Moves.keeps_dir {disk after : Disk} {source target other : Path}
    (moved : disk.Moves source target after) (dir : disk.IsDir other) : after.IsDir other := by
  rcases dir with root | found
  · exact .inl root
  · by_cases same : other = target
    · subst same
      exact absurd (.inr found) moved.targetNotDir
    · refine .inr ?_
      rw [moved.elsewhere other ?_ same, found]
      rintro rfl
      obtain ⟨inode, h, -⟩ := moved.moved
      rw [found] at h
      cases h

end Disk

structure Stream where
  inode : Inode
  pos : Nat
  buffer : Bytes
  deriving DecidableEq

structure Os where
  cwd : Path
  disk : Disk
  streams : Ptr → Option Stream
  backed : ∀ {ptr stream}, streams ptr = some stream → stream.inode < disk.next

namespace Os

def mkdirs (os : Os) (path : Bytes) (answer : Bool) : Os × Bool :=
  if answer then
    match made : os.disk.createDirectories (resolve os.cwd path) with
    | none => (os, false)
    | some disk =>
      ({ os with
         disk := disk
         backed := by
           intro ptr stream found
           rw [(Disk.createDirectories_spec made).next]
           exact os.backed found }, true)
  else (os, false)

/-- `fopen(path, "wb")`; the pointer answered may be any that is not in use. -/
def fopen (os : Os) (path : Bytes) (answer : Option Ptr) : Os × Option Ptr :=
  match answer with
  | none => (os, none)
  | some ptr =>
    if (os.streams ptr).isSome then (os, none)
    else match opened : os.disk.openTruncated (resolve os.cwd path) with
    | none => (os, none)
    | some (disk, inode) =>
      ({ os with
         disk := disk
         streams := Function.update os.streams ptr (some ⟨inode, 0, []⟩)
         backed := by
           intro other stream found
           have spec := Disk.openTruncated_spec opened
           by_cases same : other = ptr
           · rw [same, Function.update_self] at found
             cases found
             exact disk.below spec.here
           · rw [Function.update_of_ne same] at found
             exact Nat.lt_of_lt_of_le (os.backed found) spec.next }, some ptr)

def setStream (os : Os) (ptr : Ptr) (stream : Option Stream)
    (backed : ∀ s, stream = some s → s.inode < os.disk.next) : Os :=
  { os with
    streams := Function.update os.streams ptr stream
    backed := by
      intro other s found
      by_cases same : other = ptr
      · rw [same, Function.update_self] at found
        exact backed s found
      · rw [Function.update_of_ne same] at found
        exact os.backed found }

/-- `more` comes behind what is buffered.  Of both together the first `through` bytes reach
the file at the stream's position; the rest stays in the buffer, or is lost.  Writing to a
pointer that is not open is undefined; the model then stores nothing. -/
def put (os : Os) (ptr : Ptr) (more : Bytes) (through : Nat) (keeps : Bool) : Os :=
  match found : os.streams ptr with
  | none => os
  | some stream =>
    let hand := stream.buffer ++ more
    let written : Os :=
      { os with
        disk := os.disk.store stream.inode
          (Disk.writeAt (os.disk.data stream.inode) stream.pos (hand.take through))
        backed := os.backed }
    written.setStream ptr
      (some
        { stream with
          pos := stream.pos + (hand.take through).length
          buffer := if keeps then hand.drop through else [] })
      (by rintro _ ⟨⟩; exact (os.backed found : stream.inode < _))

/-- `fwrite(data, 1, len, ptr)`, which takes at most `answer` bytes.  Full blocks are handed
on at once; a write that comes short drops what it could not hand on. -/
def fwrite (os : Os) (ptr : Ptr) (data : Bytes) (answer through : Nat) : Os × Nat :=
  (os.put ptr (data.take answer) through (data.length ≤ answer), min answer data.length)

def flush (os : Os) (ptr : Ptr) : Os :=
  os.put ptr [] ((os.streams ptr).elim 0 fun stream => stream.buffer.length) true

/-- A failing `fflush` stores a part of the buffer and drops the rest. -/
def fflush (os : Os) (ptr : Ptr) (answer : Bool) (salvaged : Nat) : Os × Bool :=
  if answer then (os.flush ptr, true) else (os.put ptr [] salvaged false, false)

/-- `fclose` ends the stream even when its last flush fails. -/
def fclose (os : Os) (ptr : Ptr) (answer : Bool) (salvaged : Nat) : Os :=
  (os.fflush ptr answer salvaged).1.setStream ptr none (by rintro _ ⟨⟩)

def rename (os : Os) (source target : Bytes) (answer : Bool) : Os × Bool :=
  if answer then
    match renamed : os.disk.rename (resolve os.cwd source) (resolve os.cwd target) with
    | none => (os, false)
    | some disk =>
      ({ os with
         disk := disk
         backed := by
           intro ptr stream found
           rw [(Disk.rename_spec renamed).next]
           exact os.backed found }, true)
  else (os, false)

theorem fopen_congr {os : Os} {path other : Bytes} (same : resolve os.cwd path = resolve os.cwd other)
    (answer : Option Ptr) : os.fopen path answer = os.fopen other answer := by
  have opened := congrArg os.disk.openTruncated same
  unfold fopen
  split
  · rfl
  · split
    · rfl
    · split
      · next none => rw [opened] at none; split <;> simp_all
      · next some => rw [opened] at some; split <;> simp_all

theorem rename_congr {os : Os} {source source' target target' : Bytes}
    (sources : resolve os.cwd source = resolve os.cwd source')
    (targets : resolve os.cwd target = resolve os.cwd target') (answer : Bool) :
    os.rename source target answer = os.rename source' target' answer := by
  have renamed := congrArg₂ os.disk.rename sources targets
  unfold rename
  split
  · split
    · next none => rw [renamed] at none; split <;> simp_all
    · next some => rw [renamed] at some; split <;> simp_all
  · rfl

/-! ### What each call changes -/

theorem mkdirs_spec {os after : Os} {path : Bytes} {answer made : Bool}
    (called : os.mkdirs path answer = (after, made)) :
    after.cwd = os.cwd ∧ after.streams = os.streams ∧
      if made then os.disk.MakesDirectories (resolve os.cwd path) after.disk else after = os := by
  unfold mkdirs at called
  split at called
  · split at called
    · cases called
      exact ⟨rfl, rfl, rfl⟩
    · next disk created =>
      cases called
      exact ⟨rfl, rfl, Disk.createDirectories_spec created⟩
  · cases called
    exact ⟨rfl, rfl, rfl⟩

theorem fopen_none {os after : Os} {path : Bytes} {answer : Option Ptr}
    (called : os.fopen path answer = (after, none)) : after = os := by
  unfold fopen at called
  split at called
  · cases called
    rfl
  · split at called
    · cases called
      rfl
    · split at called <;> cases called
      rfl

theorem fopen_some {os after : Os} {path : Bytes} {answer : Option Ptr} {ptr : Ptr}
    (called : os.fopen path answer = (after, some ptr)) :
    os.streams ptr = none ∧ after.cwd = os.cwd ∧
      ∃ inode, os.disk.Truncates (resolve os.cwd path) after.disk inode ∧
        after.streams = Function.update os.streams ptr (some ⟨inode, 0, []⟩) := by
  unfold fopen at called
  split at called
  · cases called
  · next asked =>
    split at called
    · cases called
    · next unused =>
      split at called
      · cases called
      · next disk inode opened =>
        cases called
        exact ⟨by simpa using unused, rfl, inode, Disk.openTruncated_spec opened, rfl⟩

theorem rename_spec {os after : Os} {source target : Bytes} {answer done : Bool}
    (called : os.rename source target answer = (after, done)) :
    after.cwd = os.cwd ∧ after.streams = os.streams ∧
      if done then os.disk.Moves (resolve os.cwd source) (resolve os.cwd target) after.disk
      else after = os := by
  unfold rename at called
  split at called
  · split at called
    · cases called
      exact ⟨rfl, rfl, rfl⟩
    · next disk renamed =>
      cases called
      exact ⟨rfl, rfl, Disk.rename_spec renamed⟩
  · cases called
    exact ⟨rfl, rfl, rfl⟩

@[simp] theorem setStream_cwd (os : Os) (ptr : Ptr) (stream : Option Stream) (h) :
    (os.setStream ptr stream h).cwd = os.cwd := rfl

@[simp] theorem setStream_disk (os : Os) (ptr : Ptr) (stream : Option Stream) (h) :
    (os.setStream ptr stream h).disk = os.disk := rfl

@[simp] theorem setStream_streams (os : Os) (ptr : Ptr) (stream : Option Stream) (h) :
    (os.setStream ptr stream h).streams = Function.update os.streams ptr stream := rfl

@[simp] theorem put_cwd (os : Os) (ptr : Ptr) (more : Bytes) (through : Nat) (keeps : Bool) :
    (os.put ptr more through keeps).cwd = os.cwd := by
  unfold put
  split <;> rfl

theorem put_closed {os : Os} {ptr : Ptr} (closed : os.streams ptr = none) (more : Bytes)
    (through : Nat) (keeps : Bool) : os.put ptr more through keeps = os := by
  unfold put
  split
  · rfl
  · next other found =>
    rw [found] at closed
    cases closed

theorem put_open {os : Os} {ptr : Ptr} {stream : Stream} (opened : os.streams ptr = some stream)
    (more : Bytes) (through : Nat) (keeps : Bool) :
    (os.put ptr more through keeps).streams = Function.update os.streams ptr
        (some
          { stream with
            pos := stream.pos + ((stream.buffer ++ more).take through).length
            buffer := if keeps then (stream.buffer ++ more).drop through else [] }) ∧
      (os.put ptr more through keeps).disk = os.disk.store stream.inode
        (Disk.writeAt (os.disk.data stream.inode) stream.pos
          ((stream.buffer ++ more).take through)) := by
  unfold put
  split
  · next closed =>
    rw [closed] at opened
    cases opened
  · next other found =>
    rw [found] at opened
    cases opened
    exact ⟨rfl, rfl⟩

/-- A stream at the end of its file stays there. -/
theorem put_end {os : Os} {ptr : Ptr} {inode : Inode} {buffer : Bytes}
    (opened : os.streams ptr = some ⟨inode, (os.disk.data inode).length, buffer⟩) (more : Bytes)
    (through : Nat) (keeps : Bool) :
    (os.put ptr more through keeps).disk.data inode =
        os.disk.data inode ++ (buffer ++ more).take through ∧
      (os.put ptr more through keeps).streams ptr =
        some ⟨inode, (os.disk.data inode ++ (buffer ++ more).take through).length,
          if keeps then (buffer ++ more).drop through else []⟩ := by
  obtain ⟨streams, disk⟩ := put_open opened more through keeps
  rw [streams, disk, Disk.store_data, Function.update_self, Function.update_self, Disk.writeAt_end,
    List.length_append]
  exact ⟨rfl, rfl⟩

theorem flush_end {os : Os} {ptr : Ptr} {inode : Inode} {buffer : Bytes}
    (opened : os.streams ptr = some ⟨inode, (os.disk.data inode).length, buffer⟩) :
    (os.flush ptr).disk.data inode = os.disk.data inode ++ buffer ∧
      (os.flush ptr).streams ptr = some ⟨inode, (os.disk.data inode ++ buffer).length, []⟩ := by
  have ends := put_end opened [] buffer.length true
  rw [List.append_nil, List.take_length, List.drop_length, if_pos rfl] at ends
  rw [flush, opened]
  exact ends

theorem put_disk {os : Os} {ptr : Ptr} {more : Bytes} {through : Nat} {keeps : Bool}
    (nothing : ∀ stream, os.streams ptr = some stream → (stream.buffer ++ more).take through = []) :
    (os.put ptr more through keeps).disk = os.disk := by
  cases opened : os.streams ptr with
  | none => rw [put_closed opened]
  | some stream =>
    rw [(put_open opened more through keeps).2, nothing stream opened, Disk.writeAt_nil,
      Disk.store_self]

@[simp] theorem fwrite_snd (os : Os) (ptr : Ptr) (data : Bytes) (answer through : Nat) :
    (os.fwrite ptr data answer through).2 = min answer data.length := rfl

/-! ### Calls that touch one stream -/

/-- Nothing changes but the stream behind `ptr` and the file it was opened on. -/
structure OnStream (os after : Os) (ptr : Ptr) : Prop where
  cwd : after.cwd = os.cwd
  node : after.disk.node = os.disk.node
  next : after.disk.next = os.disk.next
  others : ∀ other, other ≠ ptr → after.streams other = os.streams other
  inode : ∀ stream', after.streams ptr = some stream' →
    ∃ stream, os.streams ptr = some stream ∧ stream'.inode = stream.inode
  data : ∀ inode, (∀ stream, os.streams ptr = some stream → stream.inode ≠ inode) →
    after.disk.data inode = os.disk.data inode

theorem OnStream.refl (os : Os) (ptr : Ptr) : os.OnStream os ptr :=
  ⟨rfl, rfl, rfl, fun _ _ => rfl, fun stream opened => ⟨stream, opened, rfl⟩, fun _ _ => rfl⟩

theorem OnStream.trans {os mid after : Os} {ptr : Ptr} (first : os.OnStream mid ptr)
    (second : mid.OnStream after ptr) : os.OnStream after ptr where
  cwd := second.cwd.trans first.cwd
  node := second.node.trans first.node
  next := second.next.trans first.next
  others other ne := (second.others other ne).trans (first.others other ne)
  inode stream'' opened := by
    obtain ⟨stream', opened', same'⟩ := second.inode stream'' opened
    obtain ⟨stream, opened, same⟩ := first.inode stream' opened'
    exact ⟨stream, opened, same'.trans same⟩
  data inode elsewhere := by
    refine (second.data inode fun stream' opened' => ?_).trans (first.data inode elsewhere)
    obtain ⟨stream, opened, same⟩ := first.inode stream' opened'
    rw [same]
    exact elsewhere stream opened

theorem OnStream.content {os after : Os} {ptr : Ptr} (only : os.OnStream after ptr) {path : Path}
    (elsewhere : ∀ stream, os.streams ptr = some stream →
      os.disk.node path ≠ some (.file stream.inode)) :
    after.disk.content path = os.disk.content path := by
  ext bytes
  rw [Disk.content_eq_some, Disk.content_eq_some, only.node]
  refine exists_congr fun inode => and_congr_right fun found => ?_
  rw [only.data inode fun stream opened same => elsewhere stream opened (same ▸ found)]

theorem OnStream.put (os : Os) (ptr : Ptr) (more : Bytes) (through : Nat) (keeps : Bool) :
    os.OnStream (os.put ptr more through keeps) ptr := by
  cases opened : os.streams ptr with
  | none =>
    rw [put_closed opened]
    exact .refl os ptr
  | some stream =>
    obtain ⟨streams, disk⟩ := put_open opened more through keeps
    refine ⟨put_cwd os ptr more through keeps, by rw [disk, Disk.store_node],
      by rw [disk, Disk.store_next], fun other ne => ?_, fun stream' opened' => ?_,
      fun inode elsewhere => ?_⟩
    · rw [streams, Function.update_of_ne ne]
    · rw [streams, Function.update_self] at opened'
      cases opened'
      exact ⟨stream, opened, rfl⟩
    · rw [disk, Disk.store_data, Function.update_of_ne (elsewhere stream opened).symm]

theorem OnStream.fflush (os : Os) (ptr : Ptr) (answer : Bool) (salvaged : Nat) :
    os.OnStream (os.fflush ptr answer salvaged).1 ptr := by
  cases answer
  · exact .put os ptr [] salvaged false
  · exact .put os ptr [] _ true

theorem OnStream.fclose (os : Os) (ptr : Ptr) (answer : Bool) (salvaged : Nat) :
    os.OnStream (os.fclose ptr answer salvaged) ptr := by
  refine (OnStream.fflush os ptr answer salvaged).trans
    ⟨rfl, rfl, rfl, fun other ne => ?_, fun stream' opened' => ?_, fun _ _ => rfl⟩
  · rw [Os.fclose, setStream_streams, Function.update_of_ne ne]
  · rw [Os.fclose, setStream_streams, Function.update_self] at opened'
    cases opened'

@[simp] theorem fclose_self (os : Os) (ptr : Ptr) (answer : Bool) (salvaged : Nat) :
    (os.fclose ptr answer salvaged).streams ptr = none := by
  simp [fclose]

/-- With nothing buffered, the answer to a flush does not matter. -/
theorem fclose_disk {os : Os} {ptr : Ptr} {stream : Stream} (opened : os.streams ptr = some stream)
    (empty : stream.buffer = []) (answer : Bool) (salvaged : Nat) :
    (os.fclose ptr answer salvaged).disk = os.disk := by
  have nothing (through : Nat) (keeps : Bool) : (os.put ptr [] through keeps).disk = os.disk :=
    put_disk fun other found => by
      cases opened.symm.trans found
      rw [empty, List.append_nil, List.take_nil]
  cases answer
  · exact nothing salvaged false
  · exact nothing _ true

theorem put_isSome (os : Os) (ptr : Ptr) (more : Bytes) (through : Nat) (keeps : Bool) (other : Ptr) :
    ((os.put ptr more through keeps).streams other).isSome = (os.streams other).isSome := by
  cases opened : os.streams ptr with
  | none => rw [put_closed opened]
  | some stream =>
    rw [(put_open opened more through keeps).1]
    by_cases same : other = ptr
    · simp [same, opened]
    · rw [Function.update_of_ne same]

theorem fflush_isSome (os : Os) (ptr : Ptr) (answer : Bool) (salvaged : Nat) (other : Ptr) :
    ((os.fflush ptr answer salvaged).1.streams other).isSome = (os.streams other).isSome := by
  cases answer
  · exact put_isSome os ptr [] salvaged false other
  · exact put_isSome os ptr [] _ true other

/-! ### Files that no stream is open on -/

def Detached (os : Os) (path : Path) : Prop :=
  ∀ ptr stream, os.streams ptr = some stream → os.disk.node path ≠ some (.file stream.inode)

/-- A file that no stream is open on stays so, with its content. -/
def Leaves (os after : Os) (path : Path) : Prop :=
  os.Detached path → after.Detached path ∧ after.disk.content path = os.disk.content path

theorem Leaves.refl (os : Os) (path : Path) : os.Leaves os path := fun detached => ⟨detached, rfl⟩

theorem Leaves.trans {os mid after : Os} {path : Path} (first : os.Leaves mid path)
    (second : mid.Leaves after path) : os.Leaves after path := by
  intro detached
  obtain ⟨detached', content⟩ := first detached
  obtain ⟨detached'', content'⟩ := second detached'
  exact ⟨detached'', content'.trans content⟩

theorem Leaves.keepsFiles {os after : Os} {path : Path} (streams : after.streams = os.streams)
    (keeps : os.disk.KeepsFiles after.disk) : os.Leaves after path := by
  refine fun detached => ⟨fun ptr stream opened => ?_, keeps.content path⟩
  rw [streams] at opened
  exact fun node => detached ptr stream opened ((keeps.file_iff path stream.inode).mp node)

theorem Leaves.onStream {os after : Os} {ptr : Ptr} (path : Path) (only : os.OnStream after ptr) :
    os.Leaves after path := by
  intro detached
  refine ⟨fun other stream opened => ?_, only.content (detached ptr)⟩
  rw [only.node]
  by_cases same : other = ptr
  · subst same
    obtain ⟨stream', opened', inode⟩ := only.inode stream opened
    rw [inode]
    exact detached other stream' opened'
  · rw [only.others other same] at opened
    exact detached other stream opened

theorem Leaves.truncates {os after : Os} {path target : Path} {ptr : Ptr} {inode : Inode}
    (elsewhere : path ≠ target) (truncates : os.disk.Truncates target after.disk inode)
    (streams : after.streams = Function.update os.streams ptr (some ⟨inode, 0, []⟩)) :
    os.Leaves after path := by
  refine fun detached => ⟨fun other stream opened node => ?_, truncates.content_of_ne elsewhere⟩
  rw [streams] at opened
  by_cases same : other = ptr
  · rw [same, Function.update_self] at opened
    cases opened
    exact elsewhere (after.disk.single node truncates.here)
  · rw [Function.update_of_ne same] at opened
    exact detached other stream opened ((truncates.elsewhere path elsewhere).symm.trans node)

theorem Leaves.moves {os after : Os} {path source target : Path} (notSource : path ≠ source)
    (notTarget : path ≠ target) (moves : os.disk.Moves source target after.disk)
    (streams : after.streams = os.streams) : os.Leaves after path := by
  refine fun detached => ⟨fun ptr stream opened => ?_, moves.content_of_ne notSource notTarget⟩
  rw [streams] at opened
  rw [moves.elsewhere path notSource notTarget]
  exact detached ptr stream opened

/-- The end of a process: of some streams as many buffered bytes are stored on the way out,
as by `exit`, or of none, as when it is killed. -/
def endProcess (os : Os) (flushed : List (Ptr × Nat)) : Os :=
  let os := flushed.foldl (fun os last => os.put last.1 [] last.2 false) os
  { os with streams := fun _ => none, backed := fun opened => nomatch opened }

theorem Leaves.endProcess (os : Os) (flushed : List (Ptr × Nat)) (path : Path) :
    os.Leaves (os.endProcess flushed) path := by
  have ends (os : Os) : os.Leaves (os.endProcess []) path :=
    fun _ => ⟨fun _ _ opened => (nomatch opened), rfl⟩
  induction flushed generalizing os with
  | nil => exact ends os
  | cons last rest ih =>
    exact (Leaves.onStream path (.put os last.1 [] last.2 false)).trans
      (ih (os.put last.1 [] last.2 false))

@[simp] theorem endProcess_cwd (os : Os) (flushed : List (Ptr × Nat)) :
    (os.endProcess flushed).cwd = os.cwd := by
  induction flushed generalizing os with
  | nil => rfl
  | cons last rest ih =>
    exact (ih (os.put last.1 [] last.2 false)).trans (put_cwd os last.1 [] last.2 false)

end Os

end Posix
