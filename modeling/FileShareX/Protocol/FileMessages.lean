import FileShareX.Protocol.Message

/-!
# File transfer messages

`file_messages.h`.  In the three responses a status byte of zero means success.
-/

namespace FileShareX.Protocol

open Wire Reader

structure FileOfferReq where
  client_transfer_id : UInt64 := 0
  receiver_username : Bytes
  filename : Bytes
  file_size : UInt64 := 0
  chunk_size : UInt32 := 0
  deriving DecidableEq

namespace FileOfferReq

/-- The guard on the first field always holds, since fourteen bytes are there. -/
def deserialize : Reader FileOfferReq := do
  let size ← Reader.size
  throwIf (size < 14) "FILE_OFFER_REQ: payload too short"
  let first ← (if 0 + 8 ≤ size then do
      let id ← readU64 0
      pure (id, 8)
    else pure (0, 0) : Reader (UInt64 × Nat))
  let client_transfer_id := first.1
  let pos := first.2
  throwIf (pos + 2 > size) "FILE_OFFER_REQ: missing receiver_username_len"
  let receiver_username_len ← readU16 pos
  let pos := pos + 2
  throwIf (pos + receiver_username_len.toNat > size) "FILE_OFFER_REQ: invalid receiver_username_len"
  let receiver_username ← bytes pos receiver_username_len.toNat
  let pos := pos + receiver_username_len.toNat
  throwIf (pos + 2 > size) "FILE_OFFER_REQ: missing filename_len"
  let filename_len ← readU16 pos
  let pos := pos + 2
  throwIf (pos + filename_len.toNat > size) "FILE_OFFER_REQ: invalid filename_len"
  let filename ← bytes pos filename_len.toNat
  let pos := pos + filename_len.toNat
  throwIf (pos + 8 > size) "FILE_OFFER_REQ: missing file_size"
  let file_size ← readU64 pos
  let pos := pos + 8
  throwIf (pos + 4 > size) "FILE_OFFER_REQ: missing chunk_size"
  let chunk_size ← readU32 pos
  pure { client_transfer_id, receiver_username, filename, file_size, chunk_size }

def serialize (req : FileOfferReq) : Bytes :=
  htobe64 req.client_transfer_id ++
    (htons (UInt16.ofNat req.receiver_username.length) ++ (req.receiver_username ++
    (htons (UInt16.ofNat req.filename.length) ++ (req.filename ++
    (htobe64 req.file_size ++ htonl req.chunk_size)))))

end FileOfferReq

structure FileOfferResp where
  ok : Bool := false
  transfer_id : UInt64 := 0
  reason : Bytes := []
  deriving DecidableEq

namespace FileOfferResp

def deserialize : Reader FileOfferResp := do
  let size ← Reader.size
  throwIf (size < 9) "FILE_OFFER_RESP: payload too short"
  let status ← byte 0
  let ok := status == 0
  let transfer_id ← readU64 1
  let reason ← (if !ok ∧ 9 + 2 ≤ size then do
      let reason_len ← readU16 9
      if 11 + reason_len.toNat ≤ size then bytes 11 reason_len.toNat else pure []
    else pure [])
  pure { ok, transfer_id, reason }

def serialize (resp : FileOfferResp) : Bytes :=
  (if resp.ok then 0 else 1) :: (htobe64 resp.transfer_id ++
    if resp.ok then [] else htons (UInt16.ofNat resp.reason.length) ++ resp.reason)

end FileOfferResp

structure FileAcceptReq where
  transfer_id : UInt64 := 0
  accept : Bool := false
  deriving DecidableEq

namespace FileAcceptReq

def deserialize : Reader FileAcceptReq := do
  let size ← Reader.size
  throwIf (size < 9) "FILE_ACCEPT_REQ: payload too short"
  let transfer_id ← readU64 0
  let accept ← byte 8
  pure { transfer_id, accept := accept == 1 }

def serialize (req : FileAcceptReq) : Bytes :=
  htobe64 req.transfer_id ++ [if req.accept then 1 else 0]

end FileAcceptReq

structure FileAcceptResp where
  ok : Bool := false
  reason : Bytes := []
  deriving DecidableEq

namespace FileAcceptResp

def deserialize : Reader FileAcceptResp := do
  let size ← Reader.size
  throwIf (size < 1) "FILE_ACCEPT_RESP: payload too short"
  let status ← byte 0
  let ok := status == 0
  let reason ← (if !ok ∧ 3 ≤ size then do
      let reason_len ← readU16 1
      if 3 + reason_len.toNat ≤ size then bytes 3 reason_len.toNat else pure []
    else pure [])
  pure { ok, reason }

def serialize (resp : FileAcceptResp) : Bytes :=
  (if resp.ok then 0 else 1) ::
    if resp.ok then [] else htons (UInt16.ofNat resp.reason.length) ++ resp.reason

end FileAcceptResp

structure FileChunk where
  transfer_id : UInt64 := 0
  chunk_index : UInt32 := 0
  data : Bytes
  deriving DecidableEq

namespace FileChunk

def deserialize : Reader FileChunk := do
  let size ← Reader.size
  throwIf (size < 12) "FILE_CHUNK: payload too short"
  let transfer_id ← readU64 0
  let chunk_index ← readU32 8
  let data ← (if size > 12 then bytes 12 (size - 12) else pure [])
  pure { transfer_id, chunk_index, data }

def serialize (chunk : FileChunk) : Bytes :=
  htobe64 chunk.transfer_id ++ (htonl chunk.chunk_index ++ chunk.data)

end FileChunk

structure FileDone where
  transfer_id : UInt64 := 0
  total_chunks : UInt32 := 0
  file_size : UInt64 := 0
  deriving DecidableEq

namespace FileDone

/-- The length check asks for sixteen bytes, the fields occupy twenty. -/
def deserialize : Reader FileDone := do
  let size ← Reader.size
  throwIf (size < 16) "FILE_DONE: payload too short"
  let transfer_id ← readU64 0
  let total_chunks ← readU32 8
  let file_size ← readU64 12
  pure { transfer_id, total_chunks, file_size }

def serialize (done : FileDone) : Bytes :=
  htobe64 done.transfer_id ++ (htonl done.total_chunks ++ htobe64 done.file_size)

end FileDone

structure FileResult where
  transfer_id : UInt64 := 0
  ok : Bool := false
  path_or_reason : Bytes := []
  deriving DecidableEq

namespace FileResult

def deserialize : Reader FileResult := do
  let size ← Reader.size
  throwIf (size < 9) "FILE_RESULT: payload too short"
  let transfer_id ← readU64 0
  let status ← byte 8
  let path_or_reason ← (if 11 ≤ size then do
      let path_len ← readU16 9
      if 11 + path_len.toNat ≤ size then bytes 11 path_len.toNat else pure []
    else pure [])
  pure { transfer_id, ok := status == 0, path_or_reason }

def serialize (result : FileResult) : Bytes :=
  htobe64 result.transfer_id ++ ((if result.ok then 0 else 1) ::
    (htons (UInt16.ofNat result.path_or_reason.length) ++ result.path_or_reason))

end FileResult

end FileShareX.Protocol
