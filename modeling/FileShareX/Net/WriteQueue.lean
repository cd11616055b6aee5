import FileShareX.Net.Server

/-!
# The write queue of a connection

`TcpSession::send` and `do_write`.  A frame stays at the front of the queue while it is
written; the completion handler takes it off and starts the next write.
-/

namespace FileShareX.Net

open Wire Protocol Machine

/-- The queue, with the frames of the writes that have been started and not completed, and
of all that have been started. -/
structure WriteQueue where
  outq : List Bytes := []
  outstanding : List Bytes := []
  handed : List Bytes := []
  failed : Bool := false

inductive QueueEvent where
  | send (type : UInt8) (payload : Bytes)
  /-- The completion of one of the outstanding writes, with success or an error. -/
  | written (write : Nat) (ok : Bool)

namespace WriteQueue

def do_write (queue : WriteQueue) : WriteQueue :=
  match queue.outq with
  | [] => queue
  | front :: _ =>
    { queue with outstanding := queue.outstanding ++ [front], handed := queue.handed ++ [front] }

def send (queue : WriteQueue) (type : UInt8) (payload : Bytes) : WriteQueue :=
  let writing := !queue.outq.isEmpty
  let queue := { queue with outq := queue.outq ++ [frame type payload] }
  if !writing then queue.do_write else queue

/-- The handler that `do_write` passes to `async_write`. -/
def written (queue : WriteQueue) (write : Nat) (ok : Bool) : WriteQueue :=
  if write < queue.outstanding.length then
    let queue := { queue with outstanding := queue.outstanding.eraseIdx write }
    if !ok then { queue with failed := true }
    else
      let queue := { queue with outq := queue.outq.tail }
      if !queue.outq.isEmpty then queue.do_write else queue
  else queue

def step (queue : WriteQueue) : QueueEvent → WriteQueue
  | .send type payload => queue.send type payload
  | .written write ok => queue.written write ok

def calls (events : List QueueEvent) : List Bytes :=
  events.filterMap fun
    | .send type payload => some (frame type payload)
    | .written .. => none

/-- Nothing is queued, or the front of the queue is being written, or its write has failed. -/
inductive Phase : WriteQueue → List Bytes → Prop where
  | idle (handed : List Bytes) : Phase ⟨[], [], handed, false⟩ handed
  | busy (front : Bytes) (rest handed : List Bytes) :
    Phase ⟨front :: rest, [front], handed ++ [front], false⟩ (handed ++ front :: rest)
  | stuck (front : Bytes) (rest handed : List Bytes) :
    Phase ⟨front :: rest, [], handed ++ [front], true⟩ (handed ++ front :: rest)

variable {queue : WriteQueue} {called : List Bytes}

theorem Phase.send (phase : Phase queue called) (type : UInt8) (payload : Bytes) :
    Phase (queue.send type payload) (called ++ [frame type payload]) := by
  cases phase with
  | idle handed => exact .busy (frame type payload) [] called
  | busy front rest handed =>
    rw [List.append_assoc]
    exact .busy front (rest ++ [frame type payload]) handed
  | stuck front rest handed =>
    rw [List.append_assoc]
    exact .stuck front (rest ++ [frame type payload]) handed

theorem Phase.written (phase : Phase queue called) (write : Nat) (ok : Bool) :
    Phase (queue.written write ok) called := by
  unfold WriteQueue.written
  cases phase with
  | idle handed => exact .idle called
  | busy front rest handed =>
    dsimp only
    split
    · next inside =>
      obtain rfl : write = 0 := Nat.lt_one_iff.mp inside
      cases ok with
      | false => exact .stuck front rest handed
      | true =>
        cases rest with
        | nil => exact .idle (handed ++ [front])
        | cons next rest =>
          have shape : handed ++ front :: next :: rest = (handed ++ [front]) ++ next :: rest :=
            (List.append_assoc handed [front] _).symm
          rw [shape]
          exact .busy next rest (handed ++ [front])
    · exact .busy front rest handed
  | stuck front rest handed => exact .stuck front rest handed

theorem Phase.run (phase : Phase queue called) (events : List QueueEvent) :
    Phase (run step queue events) (called ++ calls events) := by
  induction events generalizing queue called with
  | nil =>
    rw [calls, List.filterMap_nil, List.append_nil]
    exact phase
  | cons event events ih =>
    cases event with
    | send type payload =>
      have later := ih (phase.send type payload)
      rwa [List.append_assoc] at later
    | written write ok => exact ih (phase.written write ok)

theorem run_stuck (front : Bytes) (rest handed : List Bytes) (events : List QueueEvent) :
    (run step ⟨front :: rest, [], handed, true⟩ events).handed = handed := by
  induction events generalizing rest with
  | nil => rfl
  | cons event events ih =>
    cases event with
    | send type payload => exact ih (rest ++ [frame type payload])
    | written write ok => exact ih rest

structure InOrder (queue : WriteQueue) (called : List Bytes) : Prop where
  /-- Only the front of the queue is being written. -/
  single : queue.outstanding.length ≤ 1
  front : ∀ bytes ∈ queue.outstanding, queue.outq.head? = some bytes
  busy : queue.failed = false → queue.outq ≠ [] → queue.outstanding ≠ []
  /-- What has not been handed over waits behind the front. -/
  order : queue.handed ++ queue.outq.tail = called
  silent : queue.failed = true → ∀ events, (run step queue events).handed = queue.handed

theorem Phase.inOrder (phase : Phase queue called) : queue.InOrder called := by
  cases phase with
  | idle handed => exact ⟨Nat.zero_le 1, by simp, by simp, List.append_nil _, nofun⟩
  | busy front rest handed =>
    exact ⟨Nat.le_refl 1, by simp, by simp, List.append_assoc .., nofun⟩
  | stuck front rest handed =>
    exact ⟨Nat.zero_le 1, by simp, nofun, List.append_assoc .., fun _ => run_stuck front rest _⟩

end WriteQueue

/-! ### The queues of all connections -/

structure Wired where
  core : Observed
  queues : ConnId → WriteQueue := fun _ => {}

inductive WiredMove where
  | serve (label : Label)
  | written (conn : ConnId) (write : Nat) (ok : Bool)

namespace Wired

/-- The `send` calls of a list of events, in order, on whichever connections they are. -/
def enqueue (queues : ConnId → WriteQueue) : List Event → ConnId → WriteQueue
  | [] => queues
  | .sent peer response :: rest =>
    enqueue (Function.update queues peer
      ((queues peer).send response.type.code response.payload)) rest
  | _ :: rest => enqueue queues rest

def step (state : Wired) : WiredMove → Wired
  -- a failed write is the completion of one
  | .serve (.disconnect _ .write) => state
  | .serve label => ⟨state.core.step label, enqueue state.queues (state.core.events label)⟩
  | .written conn write ok =>
    { core :=
        -- the handler of a failed write also clears the authentication
        if write < (state.queues conn).outstanding.length ∧ ok = false then
          state.core.step (.disconnect conn .write)
        else state.core
      queues := Function.update state.queues conn ((state.queues conn).written write ok) }

def framesTo (conn : ConnId) (events : List Event) : List Bytes :=
  events.filterMap fun
    | .sent peer response =>
      if peer = conn then some (frame response.type.code response.payload) else none
    | _ => none

def framesOf (conn : ConnId) (state : Wired) : WiredMove → List Bytes
  | .serve label => framesTo conn (state.core.events label)
  | .written .. => []

def sentTo (conn : ConnId) : Wired → List WiredMove → List Bytes
  | _, [] => []
  | state, move :: rest => state.framesOf conn move ++ sentTo conn (state.step move) rest

variable {conn : ConnId} {queues : ConnId → WriteQueue} {called : List Bytes}

@[simp] theorem framesTo_self (response : Response) (events : List Event) :
    framesTo conn (.sent conn response :: events) =
      frame response.type.code response.payload :: framesTo conn events := by
  simp [framesTo]

theorem framesTo_other {peer : ConnId} (differs : peer ≠ conn) (response : Response)
    (events : List Event) : framesTo conn (.sent peer response :: events) = framesTo conn events := by
  simp [framesTo, differs]

theorem enqueue_phase (phase : (queues conn).Phase called) (events : List Event) :
    (enqueue queues events conn).Phase (called ++ framesTo conn events) := by
  induction events generalizing queues called with
  | nil =>
    rw [framesTo, List.filterMap_nil, List.append_nil]
    exact phase
  | cons event events ih =>
    cases event with
    | sent peer response =>
      rw [enqueue]
      by_cases mine : peer = conn
      · subst mine
        rw [framesTo_self]
        have sent := phase.send response.type.code response.payload
        rw [← Function.update_self peer ((queues peer).send _ _) queues] at sent
        have later := ih sent
        rwa [List.append_assoc] at later
      · rw [framesTo_other mine]
        refine ih ?_
        rwa [Function.update_of_ne (Ne.symm mine)]
    | _ => exact ih phase

theorem step_phase {state : Wired} (phase : (state.queues conn).Phase called) (move : WiredMove) :
    ((state.step move).queues conn).Phase (called ++ state.framesOf conn move) := by
  cases move with
  | serve label =>
    cases label with
    | disconnect other reason =>
      have quiet : state.framesOf conn (.serve (.disconnect other reason)) = [] := rfl
      rw [quiet, List.append_nil]
      cases reason <;> exact phase
    | _ => exact enqueue_phase phase _
  | written other write ok =>
    have quiet : state.framesOf conn (.written other write ok) = [] := rfl
    rw [quiet, List.append_nil]
    show (Function.update state.queues other ((state.queues other).written write ok) conn).Phase called
    by_cases mine : other = conn
    · subst mine
      rw [Function.update_self]
      exact phase.written write ok
    · rwa [Function.update_of_ne (Ne.symm mine)]

theorem run_phase {state : Wired} (phase : (state.queues conn).Phase called)
    (moves : List WiredMove) :
    ((run step state moves).queues conn).Phase (called ++ sentTo conn state moves) := by
  induction moves generalizing state called with
  | nil =>
    rw [sentTo, List.append_nil]
    exact phase
  | cons move moves ih =>
    have later := ih (step_phase phase move)
    rwa [List.append_assoc] at later

end Wired

/-- Every interleaving of `send` calls and completions hands the frames over in the order of
the calls, one at a time and none after an error; on the server, the calls are those of the
handlers of all connections. -/
theorem write_queue_inOrder :
    (∀ events, (run WriteQueue.step {} events).InOrder (WriteQueue.calls events)) ∧
    ∀ (core : Observed) (moves : List WiredMove) (conn : ConnId),
      ((run Wired.step ⟨core, fun _ => {}⟩ moves).queues conn).InOrder
        (Wired.sentTo conn ⟨core, fun _ => {}⟩ moves) := by
  refine ⟨fun events => ?_, fun core moves conn => ?_⟩
  · exact ((WriteQueue.Phase.idle []).run events).inOrder
  · have start : ((⟨core, fun _ => {}⟩ : Wired).queues conn).Phase [] := .idle []
    exact (Wired.run_phase start moves).inOrder

end FileShareX.Net
