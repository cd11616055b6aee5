import FileShareX.Net.AuthHandler
import FileShareX.Net.ReadLoop
import FileShareX.Net.SessionManager
import FileShareX.Protocol.FileMessages
import FileShareX.Protocol.OnlineMessages
import FileShareX.Storage.FileStore
import FileShareX.Transfer.TransferManager

/-!
# The message handlers

`tcp_session.cpp`.  A handler takes the server and returns it changed, with the
list of what it has done, in order: the frames sent, and its calls of the
transfer manager and the file store.  The log output is left out.
-/

namespace FileShareX.Net

open Wire Posix Protocol Storage Transfer

/-- The answers of everything outside the server while one message is handled. -/
structure Env where
  io : Io := {}
  auth : AuthEnv := {}

inductive Response where
  | pong
  | registerResp (resp : RegisterResp)
  | loginResp (resp : LoginResp)
  | onlineListResp (resp : OnlineListResp)
  | fileOfferResp (resp : FileOfferResp)
  | fileAcceptResp (resp : FileAcceptResp)
  | fileResult (resp : FileResult)
  deriving DecidableEq

namespace Response

def type : Response → MsgType
  | pong => .PONG
  | registerResp _ => .REGISTER_RESP
  | loginResp _ => .LOGIN_RESP
  | onlineListResp _ => .ONLINE_LIST_RESP
  | fileOfferResp _ => .FILE_OFFER_RESP
  | fileAcceptResp _ => .FILE_ACCEPT_RESP
  | fileResult _ => .FILE_RESULT

def payload : Response → Bytes
  | pong => ascii "pong"
  | registerResp resp => resp.serialize
  | loginResp resp => resp.serialize
  | onlineListResp resp => resp.serialize
  | fileOfferResp resp => resp.serialize
  | fileAcceptResp resp => resp.serialize
  | fileResult resp => resp.serialize

def grants : Response → Bool
  | fileOfferResp resp => resp.ok
  | fileAcceptResp resp => resp.ok
  | fileResult _ => true
  | _ => false

end Response

inductive Event where
  | sent (peer : ConnId) (response : Response)
  | created (transfer_id : UInt64)
  | open_for_write (transfer_id : UInt64) (file_handle : Option Ptr)
  | write_chunk (transfer_id : UInt64) (file_handle : Option Ptr) (data : Bytes) (written : Int)
  | mark_chunk_received (transfer_id : UInt64) (chunk_index : UInt32) (data : Bytes) (ok : Bool)
  | finalize_file (transfer_id : UInt64) (file_handle : Option Ptr) (success : Bool)
  deriving DecidableEq

/-- The objects `main` owns, with the connections that are still alive and those
among them that are still read. -/
structure Server where
  store : FileStore
  os : Os
  db : Db := {}
  transfers : TransferManager := {}
  session_manager : SessionManager := {}
  live : Live := fun _ => none
  reading : ConnId → Bool := fun _ => false
  next_conn : ConnId := 0

/-- `min 1KB, max 1MB`, with the two replacement sizes. -/
def adjustChunkSize (requested : UInt32) : UInt32 :=
  let chunk_size := if requested < 1024 then 64 * 1024 else requested
  if chunk_size > 1024 * 1024 then 256 * 1024 else chunk_size

namespace Server

section Handlers

variable (server : Server) (conn : ConnId) (self : TcpSession) (payload : Vec) (env : Env)

def offerError (reason : Bytes) : List Event :=
  [.sent conn (.fileOfferResp { ok := false, transfer_id := 0, reason })]

def handle_file_offer_req : Server × List Event :=
  if !self.is_authenticated then (server, offerError conn (ascii "Not authenticated"))
  else match FileOfferReq.deserialize.result payload with
  | .error what => (server, offerError conn (ascii ("error: " ++ what)))
  | .ok req =>
    match server.db.get_user_by_username req.receiver_username env.auth with
    | .error what => (server, offerError conn (ascii ("error: " ++ what)))
    | .ok none => (server, offerError conn (ascii "Receiver not found"))
    | .ok (some receiver_user) =>
      let chunk_size := adjustChunkSize req.chunk_size
      let (transfers, transfer_id) := server.transfers.create_transfer self.user_id self.username
        self.token receiver_user.id receiver_user.username req.filename req.file_size chunk_size
      if transfer_id = 0 then
        ({ server with transfers },
          .created transfer_id :: offerError conn (ascii "Failed to create transfer"))
      else
        let transfers := transfers.modify transfer_id fun session =>
          { session with
            temp_file_path := server.store.get_temp_path transfer_id req.filename
            final_file_path := server.store.get_file_path transfer_id req.filename }
        ({ server with transfers },
          [.created transfer_id, .sent conn (.fileOfferResp { ok := true, transfer_id })])

def acceptError (reason : Bytes) : List Event :=
  [.sent conn (.fileAcceptResp { ok := false, reason })]

/-- The sender is told only while a session of its token is alive. -/
def notifySender (session : TransferSession) (resp : FileAcceptResp) : List Event :=
  if session.sender_token = [] then []
  else match server.session_manager.get_session server.live session.sender_token with
  | some sender_session => [.sent sender_session (.fileAcceptResp resp)]
  | none => []

def handle_file_accept_req : Server × List Event :=
  if !self.is_authenticated then (server, acceptError conn (ascii "Not authenticated"))
  else match FileAcceptReq.deserialize.result payload with
  | .error what => (server, acceptError conn (ascii ("error: " ++ what)))
  | .ok req =>
    match server.transfers.get_transfer req.transfer_id with
    | none => (server, acceptError conn (ascii "Transfer not found"))
    | some session =>
      if session.receiver_user_id ≠ self.user_id then
        (server, acceptError conn (ascii "Not the receiver"))
      else if req.accept then
        match server.store.open_for_write server.os req.transfer_id session.filename env.io with
        | (os, none) =>
          ({ server with os, transfers := (server.transfers.update_state req.transfer_id .FAILED).1 },
            .open_for_write req.transfer_id none ::
              acceptError conn (ascii "Failed to open file"))
        | (os, some file_handle) =>
          let transfers := server.transfers.modify req.transfer_id fun session =>
            { session with file_handle := some file_handle }
          ({ server with os, transfers := (transfers.update_state req.transfer_id .ACCEPTED).1 },
            .open_for_write req.transfer_id (some file_handle) ::
              (server.notifySender session { ok := true } ++
                [.sent conn (.fileAcceptResp { ok := true })]))
      else
        ({ server with transfers := (server.transfers.update_state req.transfer_id .FAILED).1 },
          server.notifySender session { ok := false, reason := ascii "Receiver rejected" } ++
            [.sent conn (.fileAcceptResp { ok := true })])

/-- The answer of `mark_chunk_received` is not looked at. -/
def handle_file_chunk : Server × List Event :=
  if !self.is_authenticated then (server, [])
  else match FileChunk.deserialize.result payload with
  | .error _ => (server, [])
  | .ok chunk =>
    match server.transfers.get_transfer chunk.transfer_id with
    | none => (server, [])
    | some session =>
      if session.sender_user_id ≠ self.user_id then (server, [])
      else if session.state ≠ .ACCEPTED ∧ session.state ≠ .RECEIVING then (server, [])
      else
        let (os, written) := FileStore.write_chunk server.os session.file_handle chunk.data env.io
        let wrote : Event := .write_chunk chunk.transfer_id session.file_handle chunk.data written
        if written < 0 then
          ({ server with os, transfers := (server.transfers.update_state chunk.transfer_id .FAILED).1 },
            [wrote])
        else
          let (transfers, ok) := server.transfers.mark_chunk_received chunk.transfer_id
            chunk.chunk_index chunk.data.length
          ({ server with os, transfers },
            [wrote, .mark_chunk_received chunk.transfer_id chunk.chunk_index chunk.data ok])

/-- Neither the state nor the counts in the message are looked at. -/
def handle_file_done : Server × List Event :=
  if !self.is_authenticated then (server, [])
  else match FileDone.deserialize.result payload with
  | .error _ => (server, [])
  | .ok done =>
    match server.transfers.get_transfer done.transfer_id with
    | none => (server, [])
    | some session =>
      if session.sender_user_id ≠ self.user_id then (server, [])
      else
        let (os, success) := server.store.finalize_file server.os done.transfer_id session.filename
          session.file_handle env.io
        let finalized : Event := .finalize_file done.transfer_id session.file_handle success
        if !success then
          ({ server with os, transfers := (server.transfers.update_state done.transfer_id .FAILED).1 },
            [finalized, .sent conn (.fileResult
              { transfer_id := done.transfer_id, ok := false
                path_or_reason := ascii "Failed to finalize file" })])
        else
          ({ server with
             os, transfers := (server.transfers.update_state done.transfer_id .COMPLETED).1 },
            [finalized, .sent conn (.fileResult
              { transfer_id := done.transfer_id, ok := true
                path_or_reason := session.final_file_path })])

def handle_register_req : Server × List Event :=
  let handled := do
    let req ← RegisterReq.deserialize.result payload
    AuthHandler.handle_register server.db req env.auth
  match handled with
  | .error what =>
    (server, [.sent conn (.registerResp { ok := false, msg := ascii ("error: " ++ what) })])
  | .ok (db, resp) => ({ server with db }, [.sent conn (.registerResp resp)])

/-- `count` is called for the log; it drops the expired entries. -/
def handle_login_req : Server × List Event :=
  let handled := do
    let req ← LoginReq.deserialize.result payload
    AuthHandler.handle_login server.db req env.auth
  match handled with
  | .error what =>
    (server, [.sent conn (.loginResp { ok := false, msg := ascii ("error: " ++ what) })])
  | .ok (db, resp) =>
    if resp.ok then
      let live := Function.update server.live conn
        (some (self.set_auth resp.token resp.user_id resp.username))
      let session_manager := ((server.session_manager.add_session resp.token conn).count live).1
      ({ server with db, live, session_manager }, [.sent conn (.loginResp resp)])
    else ({ server with db }, [.sent conn (.loginResp resp)])

def handle_online_list_req : Server × List Event :=
  let (session_manager, usernames) := server.session_manager.get_online_usernames server.live
  ({ server with session_manager }, [.sent conn (.onlineListResp { usernames })])

def handle_message (type : UInt8) : Server × List Event :=
  match MsgType.ofCode? type with
  | some .PING => (server, [.sent conn .pong])
  | some .REGISTER_REQ => server.handle_register_req conn payload env
  | some .LOGIN_REQ => server.handle_login_req conn self payload env
  | some .ONLINE_LIST_REQ => server.handle_online_list_req conn
  | some .FILE_OFFER_REQ => server.handle_file_offer_req conn self payload env
  | some .FILE_ACCEPT_REQ => server.handle_file_accept_req conn self payload env
  | some .FILE_CHUNK => server.handle_file_chunk self payload env
  | some .FILE_DONE => server.handle_file_done conn self payload env
  | _ => (server, [])

end Handlers

end Server

end FileShareX.Net
