import FileShareX.Net.Routing

/-!
# Who is sent what

A message is answered on its own connection, if at all, and with at most one
response.  The exception is a FILE_ACCEPT_REQ that decides about a transfer: it
is also told to the connection that has made the offer.
-/

namespace FileShareX.Net

open Wire Posix Protocol Storage Transfer

def responsesTo (conn : ConnId) (events : List Event) : List Response :=
  events.filterMap fun
    | .sent peer response => if peer = conn then some response else none
    | _ => none

section

variable {conn peer : ConnId} {response : Response} {event : Event} {events more : List Event}

@[simp] theorem responsesTo_nil : responsesTo conn [] = [] := rfl

@[simp] theorem responsesTo_append :
    responsesTo conn (events ++ more) = responsesTo conn events ++ responsesTo conn more :=
  List.filterMap_append

@[simp] theorem responsesTo_self :
    responsesTo conn (.sent conn response :: events) = response :: responsesTo conn events := by
  simp [responsesTo]

theorem responsesTo_other (ne : peer ≠ conn) :
    responsesTo conn (.sent peer response :: events) = responsesTo conn events := by
  simp [responsesTo, ne]

@[simp] theorem responsesTo_call (call : ∀ peer response, event ≠ .sent peer response) :
    responsesTo conn (event :: events) = responsesTo conn events := by
  cases event with
  | sent peer response => exact absurd rfl (call peer response)
  | _ => rfl

theorem responsesTo_eq_nil (elsewhere : ∀ response, .sent conn response ∉ events) :
    responsesTo conn events = [] := by
  refine List.filterMap_eq_nil_iff.mpr fun event happens => ?_
  cases event with
  | sent peer response =>
    refine if_neg fun same => ?_
    subst same
    exact elsewhere response happens
  | _ => rfl

def typesTo (conn : ConnId) (events : List Event) : List MsgType :=
  (responsesTo conn events).map Response.type

@[simp] theorem typesTo_nil : typesTo conn [] = [] := rfl

@[simp] theorem typesTo_append :
    typesTo conn (events ++ more) = typesTo conn events ++ typesTo conn more := by
  rw [typesTo, responsesTo_append, List.map_append]
  rfl

@[simp] theorem typesTo_self :
    typesTo conn (.sent conn response :: events) = response.type :: typesTo conn events := by
  rw [typesTo, responsesTo_self, List.map_cons]
  rfl

@[simp] theorem typesTo_call (call : ∀ peer response, event ≠ .sent peer response) :
    typesTo conn (event :: events) = typesTo conn events := by
  rw [typesTo, responsesTo_call call]
  rfl

end

def replyTo : MsgType → Option MsgType
  | .PING => some .PONG
  | .REGISTER_REQ => some .REGISTER_RESP
  | .LOGIN_REQ => some .LOGIN_RESP
  | .ONLINE_LIST_REQ => some .ONLINE_LIST_RESP
  | .FILE_OFFER_REQ => some .FILE_OFFER_RESP
  | .FILE_ACCEPT_REQ => some .FILE_ACCEPT_RESP
  | .FILE_DONE => some .FILE_RESULT
  | _ => none

/-- What a message of this type is answered with; a FILE_DONE that fails a check is not. -/
def answerTo (type : UInt8) (request : Option Request) : Option MsgType :=
  ((MsgType.ofCode? type).bind replyTo).filter fun reply => reply ≠ .FILE_RESULT ∨ request.isSome

/-- Nothing is sent on the connection, or one response of the given type. -/
inductive AtMostOne (conn : ConnId) (type : Option MsgType) (events : List Event) : Prop
  | silent (nothing : responsesTo conn events = [])
  | answered {response} (one : responsesTo conn events = [response])
      (typed : type = some response.type)

theorem AtMostOne.of_types {conn : ConnId} {type : UInt8} {request : Option Request}
    {events : List Event} (types : typesTo conn events = (answerTo type request).toList) :
    AtMostOne conn ((MsgType.ofCode? type).bind replyTo) events := by
  cases answer : answerTo type request with
  | none =>
    rw [answer] at types
    exact .silent (List.map_eq_nil_iff.mp types)
  | some reply =>
    rw [answer] at types
    obtain ⟨response, one, typed⟩ := List.map_eq_singleton_iff.mp types
    exact .answered one (by rw [typed, (Option.filter_eq_some_iff.mp answer).1])

namespace Server

/-- A FILE_ACCEPT_REQ that is not about to fail to open its file. -/
def Decides (server : Server) (io : Io) (req : FileAcceptReq) (session : TransferSession) : Prop :=
  req.accept = true →
    (server.store.open_for_write server.os req.transfer_id session.filename io).2 ≠ none

instance (server : Server) (io : Io) (req : FileAcceptReq) (session : TransferSession) :
    Decidable (server.Decides io req session) :=
  inferInstanceAs (Decidable (_ → _))

/-- The connection that is notified of what becomes of a request. -/
def notified (server : Server) (io : Io) : Option Request → Option ConnId
  | some (.accept req session) =>
    if server.Decides io req session ∧ session.sender_token ≠ [] then
      server.session_manager.get_session server.live session.sender_token
    else none
  | _ => none

def notices (server : Server) (io : Io) (request : Option Request) (peer : ConnId) : List MsgType :=
  if server.notified io request = some peer then [.FILE_ACCEPT_RESP] else []

variable {server : Server} {conn peer : ConnId} {self : TcpSession} {payload : Vec} {env : Env}

theorem responsesTo_notifySender {req : FileAcceptReq} {session : TransferSession}
    (decides : server.Decides env.io req session) (resp : FileAcceptResp) :
    responsesTo peer (server.notifySender session resp) =
      if server.notified env.io (some (.accept req session)) = some peer then [.fileAcceptResp resp]
      else [] := by
  unfold notifySender notified
  by_cases unsigned : session.sender_token = []
  · simp [unsigned]
  · cases found : server.session_manager.get_session server.live session.sender_token with
    | none => simp [unsigned, found]
    | some other =>
      by_cases same : other = peer
      · simp [unsigned, decides, found, same]
      · simp [unsigned, decides, found, same, responsesTo_other]

@[simp] theorem notices_none {io : Io} : server.notices io none peer = [] := rfl

theorem notices_of_type {request : Option Request}
    (noAccept : ∀ asked, request = some asked → asked.type ≠ .FILE_ACCEPT_REQ) :
    server.notices env.io request peer = [] := by
  cases request with
  | none => rfl
  | some asked =>
    cases asked with
    | accept req session => exact absurd rfl (noAccept _ rfl)
    | _ => rfl

theorem notified_some {io : Io} {request : Request}
    (told : server.notified io (some request) = some peer) :
    ∃ req session, request = .accept req session ∧ server.Decides io req session ∧
      server.session_manager.get_session server.live session.sender_token = some peer := by
  cases request with
  | accept req session =>
    unfold notified at told
    dsimp only at told
    split at told
    · next decided => exact ⟨req, session, rfl, decided.1, told⟩
    · cases told
  | _ => cases told

theorem handle_file_offer_req_types :
    typesTo conn (server.handle_file_offer_req conn self payload env).2 = [.FILE_OFFER_RESP] := by
  unfold handle_file_offer_req offerError
  dsimp only
  repeat' split
  all_goals simp [Response.type]

/-- The decision is told before the answer. -/
theorem handle_file_accept_req_types :
    typesTo conn (server.handle_file_accept_req conn self payload env).2 =
      server.notices env.io (server.accept? self payload) conn ++ [.FILE_ACCEPT_RESP] := by
  have refused {reason : Bytes} : typesTo conn (acceptError conn reason) = [.FILE_ACCEPT_RESP] := by
    simp [acceptError, Response.type]
  unfold handle_file_accept_req accept?
  cases self.is_authenticated with
  | false => exact refused
  | true =>
    simp only [Bool.not_true, Bool.false_eq_true, if_false]
    cases FileAcceptReq.deserialize.result payload with
    | error what => exact refused
    | ok req =>
      dsimp only
      cases found : server.transfers.get_transfer req.transfer_id with
      | none => exact refused
      | some session =>
        dsimp only
        by_cases party : session.receiver_user_id = self.user_id
        · have told {resp : FileAcceptResp} (decides : server.Decides env.io req session) :
              typesTo conn (server.notifySender session resp ++
                  [.sent conn (.fileAcceptResp { ok := true })]) =
                server.notices env.io (some (.accept req session)) conn ++ [.FILE_ACCEPT_RESP] := by
            rw [typesTo_append, typesTo, responsesTo_notifySender decides, notices]
            split <;> simp [Response.type]
          cases accept : req.accept with
          | false =>
            have decides : server.Decides env.io req session := fun accepts => by
              simp [accept] at accepts
            simpa [party, accept] using told decides
          | true =>
            rcases called : server.store.open_for_write server.os req.transfer_id session.filename
              env.io with ⟨os, _ | file_handle⟩
            · have undecided : ¬ server.Decides env.io req session := fun decides =>
                decides accept (by rw [called])
              simpa [party, accept, called, notices, notified, undecided] using refused
            · have decides : server.Decides env.io req session := fun _ => by simp [called]
              simpa [party, accept, called] using told decides
        · simpa [party] using refused

theorem handle_file_chunk_types :
    typesTo conn (server.handle_file_chunk self payload env).2 = [] := by
  unfold handle_file_chunk
  dsimp only
  repeat' split
  all_goals simp

theorem handle_file_done_types :
    typesTo conn (server.handle_file_done conn self payload env).2 =
      (server.done? self payload).toList.map fun _ => .FILE_RESULT := by
  unfold handle_file_done done?
  cases self.is_authenticated with
  | false => rfl
  | true =>
    simp only [Bool.not_true, Bool.false_eq_true, if_false]
    cases FileDone.deserialize.result payload with
    | error what => rfl
    | ok done =>
      dsimp only
      cases server.transfers.get_transfer done.transfer_id with
      | none => rfl
      | some session =>
        by_cases party : session.sender_user_id = self.user_id
        · rcases called : server.store.finalize_file server.os done.transfer_id session.filename
            session.file_handle env.io with ⟨os, _ | _⟩
          all_goals simp [party, called, Response.type]
        · simp [party]

theorem handle_register_req_types :
    typesTo conn (server.handle_register_req conn payload env).2 = [.REGISTER_RESP] := by
  unfold handle_register_req
  dsimp only
  split
  all_goals simp [Response.type]

theorem handle_login_req_types :
    typesTo conn (server.handle_login_req conn self payload env).2 = [.LOGIN_RESP] := by
  unfold handle_login_req
  dsimp only
  repeat' split
  all_goals simp [Response.type]

/-- What a message sends on its own connection: the notification of a decision, if it is the
sender's as well, and the answer. -/
theorem handle_message_types (type : UInt8) :
    let request := server.request? self payload env type
    typesTo conn (server.handle_message conn self payload env type).2 =
      server.notices env.io request conn ++ (answerTo type request).toList := by
  dsimp only
  unfold handle_message request? answerTo
  have silent {request : Option Request} {kind : MsgType} (ne : kind ≠ .FILE_ACCEPT_REQ)
      (sentAs : ∀ asked, request = some asked → asked.SentAs kind payload) :
      server.notices env.io request conn = [] :=
    notices_of_type fun asked here => (sentAs asked here).1 ▸ ne
  cases MsgType.ofCode? type with
  | none => rfl
  | some kind =>
    cases kind with
    | REGISTER_REQ => exact handle_register_req_types
    | LOGIN_REQ => exact handle_login_req_types
    | PING => exact typesTo_self
    | ONLINE_LIST_REQ => exact typesTo_self
    | FILE_OFFER_REQ =>
      dsimp only
      rw [handle_file_offer_req_types, silent (by decide) fun _ => offer?_sentAs]
      rfl
    | FILE_ACCEPT_REQ => exact handle_file_accept_req_types
    | FILE_CHUNK =>
      dsimp only
      rw [handle_file_chunk_types, silent (by decide) fun _ => chunk?_sentAs]
      rfl
    | FILE_DONE =>
      dsimp only
      rw [handle_file_done_types, silent (by decide) fun _ => done?_sentAs]
      cases server.done? self payload with
      | none => rfl
      | some asked => rfl
    | _ => rfl

theorem handle_message_reply {type : UInt8} (noAccept : type ≠ MsgType.FILE_ACCEPT_REQ.code) :
    AtMostOne conn ((MsgType.ofCode? type).bind replyTo)
      (server.handle_message conn self payload env type).2 := by
  have types := @handle_message_types server conn self payload env type
  dsimp only at types
  rw [notices_of_type fun asked here same => noAccept ((request?_sentAs here).1.trans (same ▸ rfl)),
    List.nil_append] at types
  exact .of_types types

theorem Effect.elsewhere {request : Request} {result : Server × List Event}
    (effect : server.Effect conn self env request result) (ne : conn ≠ peer) :
    ∃ resp, responsesTo peer result.2 =
      if server.notified env.io (some request) = some peer then [.fileAcceptResp resp] else [] := by
  cases effect with
  | openFailed _ _ _ accept called =>
    refine ⟨{}, ?_⟩
    simp [notified, Decides, accept, called, acceptError, responsesTo_other ne]
  | @opened req session os file_handle _ _ _ _ called =>
    have decides : server.Decides env.io req session := fun _ => by simp [called]
    refine ⟨{ ok := true }, ?_⟩
    simpa [responsesTo_other ne] using responsesTo_notifySender decides { ok := true }
  | @rejected req session _ _ _ reject =>
    have decides : server.Decides env.io req session := fun accept => by simp [reject] at accept
    refine ⟨{ ok := false, reason := ascii "Receiver rejected" }, ?_⟩
    simpa [responsesTo_other ne] using responsesTo_notifySender decides _
  | offered => exact ⟨{}, by simp [notified, responsesTo_other ne]⟩
  | writeFailed => exact ⟨{}, by simp [notified]⟩
  | received => exact ⟨{}, by simp [notified]⟩
  | strayed => exact ⟨{}, by simp [notified]⟩
  | finalizeFailed => exact ⟨{}, by simp [notified, responsesTo_other ne]⟩
  | finalized => exact ⟨{}, by simp [notified, responsesTo_other ne]⟩

theorem handle_message_notices (ne : conn ≠ peer) (type : UInt8) :
    typesTo peer (server.handle_message conn self payload env type).2 =
      server.notices env.io (server.request? self payload env type) peer := by
  have performs := @handle_message_performs server conn self payload env type
  cases asked : server.request? self payload env type with
  | none =>
    rw [asked] at performs
    rw [typesTo, responsesTo_eq_nil fun response sent => ?_]
    · rfl
    · obtain ⟨_, same, -⟩ := performs.replies _ sent
      cases same
      exact ne rfl
  | some request =>
    rw [asked] at performs
    obtain ⟨resp, told⟩ := Effect.elsewhere performs ne
    rw [typesTo, told, notices]
    split <;> rfl

end Server

namespace Observed

/-- The transfer about which the step decides, accepting or rejecting it. -/
def decides (state : Observed) (label : Label) : Option UInt64 :=
  match state.asks label with
  | some (.accept req session) =>
    if state.server.Decides label.env.io req session then some req.transfer_id else none
  | _ => none

variable {state : Observed} {label : Label} {conn : ConnId} {maker : UInt64 → Option ConnId}

theorem decides_asks {id : UInt64} (decides : state.decides label = some id) :
    ∃ req session, state.asks label = some (.accept req session) := by
  unfold Observed.decides at decides
  split at decides
  · next req session asked => exact ⟨req, session, asked⟩
  · cases decides

theorem events_receive (state : Observed) (conn : ConnId) (type : UInt8) (payload : Vec)
    (env : Env) :
    state.events (.receive conn type payload env) = [] ∨
      ∃ self, state.server.live conn = some self ∧ state.server.reading conn = true ∧
        state.events (.receive conn type payload env) =
          (state.server.handle_message conn self payload env type).2 := by
  unfold events Server.step
  dsimp only
  split
  · exact .inl rfl
  · next self alive =>
    split
    · next reading => exact .inr ⟨self, alive, reading, rfl⟩
    · exact .inl rfl

/-- A connection whose message it is not hears of a step only when it decides about the
transfer that the connection has offered. -/
theorem told_elsewhere (routing : state.server.Routing maker)
    (elsewhere : ∀ type payload env, label ≠ .receive conn type payload env) :
    responsesTo conn (state.events label) = [] ∨ ∃ id resp, state.decides label = some id ∧
      maker id = some conn ∧ (state.server.live conn).isSome ∧
      responsesTo conn (state.events label) = [.fileAcceptResp resp] := by
  cases asked : state.asks label with
  | none =>
    refine .inl (responsesTo_eq_nil fun response sent => ?_)
    cases label with
    | receive peer type payload env =>
      obtain nothing | ⟨self, alive, reading, handled⟩ := state.events_receive peer type payload env
      · rw [nothing] at sent
        cases sent
      · have quiet := @Server.handle_message_performs state.server peer self payload env type
        have refused : state.server.request? self payload env type = none := by
          simpa [asks, Server.asks, alive, reading] using asked
        rw [refused] at quiet
        rw [handled] at sent
        obtain ⟨_, same, -⟩ := quiet.replies _ sent
        cases same
        exact elsewhere _ _ _ rfl
    | _ => cases sent
  | some request =>
    obtain ⟨peer, self, result, ⟨-, payload, env, rfl, -⟩, effect, emitted, -⟩ := step_effect asked
    have ne : peer ≠ conn := by
      rintro rfl
      exact elsewhere _ _ _ rfl
    obtain ⟨resp, told⟩ := effect.elsewhere ne
    rw [emitted, told]
    by_cases notified : state.server.notified env.io (some request) = some conn
    · obtain ⟨req, session, rfl, decided, reached⟩ := Server.notified_some notified
      refine .inr ⟨req.transfer_id, resp, ?_,
        routing.routed effect.accept_found (SessionManager.get_session_mem reached),
        SessionManager.get_session_live reached, if_pos notified⟩
      simp [decides, asked, Label.env, decided]
    · exact .inl (if_neg notified)

def handled (state : Observed) (conn : ConnId) : Label → Option UInt8
  | .receive peer type _ _ =>
    if peer = conn ∧ (state.server.live conn).isSome ∧ state.server.reading conn then some type
    else none
  | _ => none

/-- What a step owes a connection, by type: the notification of a decision, and the answer to
the message that it handles on it. -/
def owed (state : Observed) (conn : ConnId) (label : Label) : List MsgType :=
  state.server.notices label.env.io (state.asks label) conn ++
    ((state.handled conn label).bind (answerTo · (state.asks label))).toList

theorem events_types (state : Observed) (conn : ConnId) (label : Label) :
    typesTo conn (state.events label) = state.owed conn label := by
  cases label with
  | receive peer type payload env =>
    cases alive : state.server.live peer with
    | none =>
      have unasked : state.asks (.receive peer type payload env) = none := by
        simp [asks, Server.asks, alive]
      have unhandled : state.handled conn (.receive peer type payload env) = none := by
        refine if_neg fun mine => ?_
        have lives := mine.2.1
        rw [← mine.1, alive] at lives
        cases lives
      simp [owed, unasked, unhandled, events, Server.step, alive]
    | some self =>
      by_cases reading : state.server.reading peer = true
      · have asked : state.asks (.receive peer type payload env) =
            state.server.request? self payload env type := by
          simp [asks, Server.asks, alive, reading]
        have emitted : state.events (.receive peer type payload env) =
            (state.server.handle_message peer self payload env type).2 := by
          simp [events, Server.step, alive, reading]
        rw [emitted, owed, asked]
        by_cases mine : peer = conn
        · subst mine
          have taken : state.handled peer (.receive peer type payload env) = some type :=
            if_pos ⟨rfl, by rw [alive]; rfl, reading⟩
          rw [taken]
          exact Server.handle_message_types type
        · have unhandled : state.handled conn (.receive peer type payload env) = none :=
            if_neg fun same => mine same.1
          rw [unhandled]
          refine Eq.trans ?_ (List.append_nil _).symm
          exact Server.handle_message_notices mine type
      · have unasked : state.asks (.receive peer type payload env) = none := by
          simp [asks, Server.asks, alive, reading]
        have unhandled : state.handled conn (.receive peer type payload env) = none := by
          refine if_neg fun mine => reading ?_
          rw [mine.1]
          exact mine.2.2
        simp [owed, unasked, unhandled, events, Server.step, alive, reading]
  | _ => rfl

theorem told_here {type : UInt8} {payload : Vec} {env : Env}
    (noAccept : type ≠ MsgType.FILE_ACCEPT_REQ.code) :
    AtMostOne conn ((MsgType.ofCode? type).bind replyTo)
      (state.events (.receive conn type payload env)) := by
  obtain nothing | ⟨self, -, -, handled⟩ := state.events_receive conn type payload env
  · rw [nothing]
    exact .silent rfl
  · rw [handled]
    exact Server.handle_message_reply noAccept

end Observed

end FileShareX.Net
