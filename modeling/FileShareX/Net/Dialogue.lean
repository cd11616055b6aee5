import FileShareX.Net.Framing
import FileShareX.Net.Replies
import FileShareX.Net.WriteQueue

/-!
# What the peer of one connection sees

The frames a connection is handed are the responses to it, in order.  Each step
adds the answer to the message it handles on the connection, after the
notification of a decision about a transfer that has been offered on it.
-/

namespace FileShareX.Net

open Wire Protocol Machine

def Response.message (response : Response) : UInt8 × Bytes := (response.type.code, response.payload)

namespace Wired

variable {conn : ConnId} {state start : Wired}

theorem step_core (state : Wired) (move : WiredMove) :
    (state.step move).core = state.core ∨ ∃ label, (state.step move).core = state.core.step label ∧
      (move = .serve label ∨ ∃ other reason, label = .disconnect other reason) := by
  cases move with
  | serve label =>
    cases label with
    | disconnect other reason =>
      cases reason with
      | write => exact .inl rfl
      | _ => exact .inr ⟨.disconnect other _, rfl, .inl rfl⟩
    | connect => exact .inr ⟨.connect, rfl, .inl rfl⟩
    | receive peer type payload env => exact .inr ⟨.receive peer type payload env, rfl, .inl rfl⟩
    | release other => exact .inr ⟨.release other, rfl, .inl rfl⟩
  | written other write ok =>
    unfold step
    dsimp only
    split
    · exact .inr ⟨.disconnect other .write, rfl, .inr ⟨other, .write, rfl⟩⟩
    · exact .inl rfl

theorem core_run (start : Wired) (moves : List WiredMove) :
    ∃ labels, (run step start moves).core = run Observed.step start.core labels := by
  induction moves generalizing start with
  | nil => exact ⟨[], rfl⟩
  | cons move rest ih =>
    obtain ⟨labels, later⟩ := ih (start.step move)
    rcases start.step_core move with same | ⟨label, stepped, -⟩
    · exact ⟨labels, by rw [run_cons, later, same]⟩
    · exact ⟨label :: labels, by rw [run_cons, later, stepped, run_cons]⟩

def responsesOf (conn : ConnId) (state : Wired) : WiredMove → List Response
  | .serve label => responsesTo conn (state.core.events label)
  | .written .. => []

def responsesSent (conn : ConnId) : Wired → List WiredMove → List Response
  | _, [] => []
  | state, move :: rest => state.responsesOf conn move ++ responsesSent conn (state.step move) rest

def owedOf (conn : ConnId) (state : Wired) : WiredMove → List MsgType
  | .serve label => state.core.owed conn label
  | .written .. => []

def owedOn (conn : ConnId) : Wired → List WiredMove → List MsgType
  | _, [] => []
  | state, move :: rest => state.owedOf conn move ++ owedOn conn (state.step move) rest

theorem responsesSent_types (start : Wired) (moves : List WiredMove) :
    (responsesSent conn start moves).map Response.type = owedOn conn start moves := by
  induction moves generalizing start with
  | nil => rfl
  | cons move rest ih =>
    rw [responsesSent, owedOn, List.map_append, ih]
    cases move with
    | serve label =>
      rw [responsesOf, owedOf, ← Observed.events_types]
      rfl
    | written other write ok => rfl

theorem framesTo_eq (events : List Event) :
    framesTo conn events =
      (responsesTo conn events).map fun response => frame response.type.code response.payload := by
  induction events with
  | nil => rfl
  | cons event events ih =>
    cases event with
    | sent peer response =>
      by_cases mine : peer = conn
      · subst mine
        rw [framesTo_self, responsesTo_self, List.map_cons, ih]
      · rw [framesTo_other mine, responsesTo_other mine, ih]
    | _ => exact ih

theorem sentTo_eq (moves : List WiredMove) :
    sentTo conn state moves =
      (responsesSent conn state moves).map fun response => frame response.type.code response.payload := by
  induction moves generalizing state with
  | nil => rfl
  | cons move rest ih =>
    rw [sentTo, responsesSent, List.map_append, ih]
    cases move with
    | serve label => rw [framesOf, responsesOf, framesTo_eq]
    | written other write ok => rfl

/-- The frames handed over so far are those of the first responses. -/
theorem handed_frames (core : Observed) (moves : List WiredMove)
    (small : ∀ response ∈ responsesSent conn ⟨core, fun _ => {}⟩ moves,
      response.payload.length ≤ MAX_PAYLOAD) :
    let queue := (run step ⟨core, fun _ => {}⟩ moves).queues conn
    ∃ done waiting, responsesSent conn ⟨core, fun _ => {}⟩ moves = done ++ waiting ∧
      queue.outq.tail.length = waiting.length ∧
      List.Forall₂ wireFormat.IsFrame queue.handed (done.map Response.message) := by
  intro queue
  have phase := @run_phase conn [] ⟨core, fun _ => {}⟩ (.idle []) moves
  have order := phase.inOrder.order
  rw [List.nil_append, sentTo_eq] at order
  obtain ⟨done, waiting, split, handed, tail⟩ := List.map_eq_append_iff.mp order.symm
  refine ⟨done, waiting, split, by rw [← tail, List.length_map], ?_⟩
  rw [← handed]
  refine List.forall₂_map_left_iff.mpr (List.forall₂_map_right_iff.mpr (List.forall₂_same.mpr ?_))
  intro response member
  refine isFrame_of_goodFrame (goodFrame_of_built (.inl rfl) (small response ?_))
  rw [split]
  exact List.mem_append_left _ member

end Wired

/-! ### One message on a connection -/

/-- None of the moves is a message on this connection. -/
def Undisturbed (conn : ConnId) (moves : List WiredMove) : Prop :=
  ∀ move ∈ moves, ∀ type payload env, move ≠ .serve (.receive conn type payload env)

namespace Wired

variable {conn : ConnId} {start : Wired} {maker : UInt64 → Option ConnId}

theorem madeBy_unmade {state : Observed} {label : Label} (unmade : ∀ id, maker id ≠ some conn)
    (noOffer : ∀ payload env, label ≠ .receive conn MsgType.FILE_OFFER_REQ.code payload env)
    (id : UInt64) : state.madeBy label maker id ≠ some conn := by
  by_cases offers : ∃ req receiver, state.asks label = some (.offer req receiver)
  · obtain ⟨req, receiver, asked⟩ := offers
    obtain ⟨peer, self, result, ⟨-, payload, env, rfl, -⟩, -⟩ := Observed.step_effect asked
    rw [Observed.madeBy_offer asked]
    by_cases newest : id = state.server.transfers.next_transfer_id
    · rw [newest, Function.update_self]
      intro same
      cases same
      exact noOffer payload env rfl
    · rw [Function.update_of_ne newest]
      exact unmade id
  · rw [Observed.madeBy_noOffer fun req receiver asked => offers ⟨req, receiver, asked⟩]
    exact unmade id

/-- The connection hears nothing of what others do, as long as it has made no offer. -/
theorem silent_run {moves : List WiredMove} (routing : start.core.server.Routing maker)
    (unmade : ∀ id, maker id ≠ some conn) (undisturbed : Undisturbed conn moves) :
    responsesSent conn start moves = [] ∧
      ∃ maker, (run step start moves).core.server.Routing maker ∧ ∀ id, maker id ≠ some conn := by
  induction moves generalizing start maker with
  | nil => exact ⟨rfl, maker, routing, unmade⟩
  | cons move rest ih =>
    have elsewhere := undisturbed move List.mem_cons_self
    have quiet : start.responsesOf conn move = [] := by
      cases move with
      | serve label =>
        have others (type : UInt8) (payload : Vec) (env : Env) :
            label ≠ .receive conn type payload env :=
          fun same => elsewhere type payload env (congrArg WiredMove.serve same)
        rcases Observed.told_elsewhere routing others with silent | ⟨id, _, _, made, _⟩
        · exact silent
        · exact absurd made (unmade id)
      | written other write ok => rfl
    have later : ∃ maker, (start.step move).core.server.Routing maker ∧
        ∀ id, maker id ≠ some conn := by
      rcases start.step_core move with same | ⟨label, stepped, serves⟩
      · exact ⟨maker, same ▸ routing, unmade⟩
      · refine ⟨_, stepped ▸ Observed.routing_step routing, madeBy_unmade unmade ?_⟩
        rintro payload env rfl
        rcases serves with served | ⟨other, reason, same⟩
        · exact elsewhere _ _ _ served
        · cases same
    obtain ⟨maker', routing', unmade'⟩ := later
    obtain ⟨silent, last⟩ := ih routing' unmade' fun other member =>
      undisturbed other (List.mem_cons_of_mem _ member)
    exact ⟨by rw [responsesSent, quiet, silent, List.nil_append], last⟩

theorem responsesSent_append (moves more : List WiredMove) :
    responsesSent conn start (moves ++ more) =
      responsesSent conn start moves ++ responsesSent conn (run step start moves) more := by
  induction moves generalizing start with
  | nil => rfl
  | cons move rest ih => rw [List.cons_append, responsesSent, responsesSent, ih, List.append_assoc]; rfl

theorem handed_single {queue : WriteQueue} {called : List Bytes} {bytes : Bytes}
    (phase : queue.Phase called) (one : called = [bytes]) : queue.handed = [bytes] := by
  have front {first : Bytes} {rest handed : List Bytes} (one : handed ++ first :: rest = [bytes]) :
      handed ++ [first] = [bytes] := by
    cases handed with
    | nil =>
      cases one
      rfl
    | cons other handed => simp at one
  cases phase with
  | idle handed => exact one
  | busy => exact front one
  | stuck => exact front one

/-- A connection with one message, which is no offer, is handed the response to it alone. -/
theorem handed_one {core : Observed} {earlier later : List WiredMove} {type : UInt8} {payload : Vec}
    {env : Env} {response : Response} (boot : core.Booted) (before : Undisturbed conn earlier)
    (after : Undisturbed conn later) (noOffer : type ≠ MsgType.FILE_OFFER_REQ.code)
    (answered : responsesTo conn ((run step ⟨core, fun _ => {}⟩ earlier).core.events
      (.receive conn type payload env)) = [response]) :
    ((run step ⟨core, fun _ => {}⟩
        (earlier ++ .serve (.receive conn type payload env) :: later)).queues conn).handed =
      [frame response.type.code response.payload] := by
  have routing := @Observed.routing_booted core (fun _ => none) boot
  obtain ⟨silent, maker, routing', unmade⟩ :=
    @silent_run conn ⟨core, fun _ => {}⟩ _ earlier routing (fun _ => Option.some_ne_none _ |>.symm) before
  have called := @Observed.routing_step (run step ⟨core, fun _ => {}⟩ earlier).core
    (.receive conn type payload env) maker routing'
  have unmade' := @madeBy_unmade conn maker (run step ⟨core, fun _ => {}⟩ earlier).core
    (.receive conn type payload env) unmade (by
      intro payload' env' same
      cases same
      exact noOffer rfl)
  have quiet := (@silent_run conn ((run step ⟨core, fun _ => {}⟩ earlier).step
    (.serve (.receive conn type payload env))) _ later called unmade' after).1
  have sent : sentTo conn ⟨core, fun _ => {}⟩
      (earlier ++ .serve (.receive conn type payload env) :: later) =
        [frame response.type.code response.payload] := by
    rw [sentTo_eq, responsesSent_append, silent, responsesSent, quiet, responsesOf, answered]
    rfl
  have phase := @run_phase conn [] ⟨core, fun _ => {}⟩ (.idle [])
    (earlier ++ .serve (.receive conn type payload env) :: later)
  exact handed_single phase sent

end Wired

/-- What the peer of a connection sees of a run. -/
structure Understands (conn : ConnId) (core : Observed) (moves : List WiredMove) : Prop where
  /-- Whatever part of the bytes has arrived, it reads the first responses. -/
  inOrder : ∀ arrived, wireFormat.deframe
      (((run Wired.step ⟨core, fun _ => {}⟩ moves).queues conn).handed.flatten.take arrived) <+:
    (Wired.responsesSent conn ⟨core, fun _ => {}⟩ moves).map Response.message
  /-- And all of them, once nothing waits to be written. -/
  complete : ((run Wired.step ⟨core, fun _ => {}⟩ moves).queues conn).outq = [] →
    wireFormat.deframe
        ((run Wired.step ⟨core, fun _ => {}⟩ moves).queues conn).handed.flatten =
      (Wired.responsesSent conn ⟨core, fun _ => {}⟩ moves).map Response.message
  answers : (Wired.responsesSent conn ⟨core, fun _ => {}⟩ moves).map Response.type =
    Wired.owedOn conn ⟨core, fun _ => {}⟩ moves

/-- On every connection, in every interleaving with the other connections and with the
completions of writes, the peer reads what its steps owe it, in their order. -/
theorem responses_understood (core : Observed) (moves : List WiredMove)
    (conn : ConnId)
    (small : ∀ response ∈ Wired.responsesSent conn ⟨core, fun _ => {}⟩ moves,
      response.payload.length ≤ MAX_PAYLOAD) :
    Understands conn core moves := by
  obtain ⟨done, waiting, split, behind, frames⟩ := Wired.handed_frames core moves small
  refine ⟨fun arrived => ?_, fun idle => ?_, ?_⟩
  · rw [split, List.map_append]
    refine List.IsPrefix.trans ?_ (List.prefix_append ..)
    rw [← FrameFormat.deframe_flatten frames]
    exact FrameFormat.deframe_mono (List.take_prefix ..)
  · have none : waiting = [] := by
      rw [idle] at behind
      exact List.length_eq_zero_iff.mp behind.symm
    rw [FrameFormat.deframe_flatten frames, split, none, List.append_nil]
  · exact Wired.responsesSent_types _ moves

/-- Alice offers a file to herself, and accepts it. -/
theorem responses_understood_sample : Understands 0 Sample.start
    [.serve .connect, .serve (Sample.login 0 "alice" 1), .serve (Sample.offer 0 "alice" "a" 2),
      .written 0 0 true, .serve (Sample.accept 0 1 5), .written 0 0 true] :=
  responses_understood _ _ 0 (by decide)

end FileShareX.Net
