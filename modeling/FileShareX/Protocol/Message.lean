import FileShareX.Foundation.Reader

/-!
# The frame header and network byte order

`message.h`: twelve header bytes, magic, version, type, payload length and a
reserved field, all integers in network order.
-/

namespace FileShareX.Protocol

open Wire

def MAGIC : UInt32 := 0x46535831
def VERSION : UInt8 := 1
def HEADER_SIZE : Nat := 12

inductive MsgType where
  | HELLO | PING | PONG
  | REGISTER_REQ | REGISTER_RESP | LOGIN_REQ | LOGIN_RESP
  | ONLINE_LIST_REQ | ONLINE_LIST_RESP
  | FILE_OFFER_REQ | FILE_OFFER_RESP | FILE_ACCEPT_REQ | FILE_ACCEPT_RESP
  | FILE_CHUNK | FILE_DONE | FILE_RESULT
  | ADMIN_ONLINE_LIST_REQ | ADMIN_ONLINE_LIST_RESP
  deriving DecidableEq, Repr

namespace MsgType

def code : MsgType → UInt8
  | HELLO => 1
  | PING => 2
  | PONG => 3
  | REGISTER_REQ => 10
  | REGISTER_RESP => 11
  | LOGIN_REQ => 12
  | LOGIN_RESP => 13
  | ONLINE_LIST_REQ => 20
  | ONLINE_LIST_RESP => 21
  | FILE_OFFER_REQ => 30
  | FILE_OFFER_RESP => 31
  | FILE_ACCEPT_REQ => 32
  | FILE_ACCEPT_RESP => 33
  | FILE_CHUNK => 34
  | FILE_DONE => 35
  | FILE_RESULT => 36
  | ADMIN_ONLINE_LIST_REQ => 100
  | ADMIN_ONLINE_LIST_RESP => 101

def all : List MsgType :=
  [HELLO, PING, PONG, REGISTER_REQ, REGISTER_RESP, LOGIN_REQ, LOGIN_RESP, ONLINE_LIST_REQ,
    ONLINE_LIST_RESP, FILE_OFFER_REQ, FILE_OFFER_RESP, FILE_ACCEPT_REQ, FILE_ACCEPT_RESP,
    FILE_CHUNK, FILE_DONE, FILE_RESULT, ADMIN_ONLINE_LIST_REQ, ADMIN_ONLINE_LIST_RESP]

/-- The cast `static_cast<MsgType>(byte)` accepts every byte; the dispatcher
compares it with the named values, and `none` is a byte that equals none of them. -/
def ofCode? (byte : UInt8) : Option MsgType := all.find? fun type => type.code == byte

@[simp] theorem ofCode?_code (type : MsgType) : ofCode? type.code = some type := by
  cases type <;> decide

theorem code_of_ofCode? {byte : UInt8} {type : MsgType} (known : ofCode? byte = some type) :
    type.code = byte := by
  simpa using List.find?_some known

end MsgType

/-! ### Network order -/

def htons (x : UInt16) : Bytes := bigEndian 2 x.toNat
def htonl (x : UInt32) : Bytes := bigEndian 4 x.toNat
def htobe64 (x : UInt64) : Bytes := bigEndian 8 x.toNat

def ntohs (b : Bytes) : UInt16 := UInt16.ofNat (bigEndianValue b)
def ntohl (b : Bytes) : UInt32 := UInt32.ofNat (bigEndianValue b)
def be64toh (b : Bytes) : UInt64 := UInt64.ofNat (bigEndianValue b)

@[simp] theorem htons_length (x : UInt16) : (htons x).length = 2 := bigEndian_length _ _
@[simp] theorem htonl_length (x : UInt32) : (htonl x).length = 4 := bigEndian_length _ _
@[simp] theorem htobe64_length (x : UInt64) : (htobe64 x).length = 8 := bigEndian_length _ _

@[simp] theorem ntohs_htons (x : UInt16) : ntohs (htons x) = x := by
  rw [ntohs, htons, bigEndianValue_bigEndian, Nat.mod_eq_of_lt (show _ < 256 ^ 2 from x.toNat_lt),
    UInt16.ofNat_toNat]

@[simp] theorem ntohl_htonl (x : UInt32) : ntohl (htonl x) = x := by
  rw [ntohl, htonl, bigEndianValue_bigEndian, Nat.mod_eq_of_lt (show _ < 256 ^ 4 from x.toNat_lt),
    UInt32.ofNat_toNat]

@[simp] theorem be64toh_htobe64 (x : UInt64) : be64toh (htobe64 x) = x := by
  rw [be64toh, htobe64, bigEndianValue_bigEndian, Nat.mod_eq_of_lt (show _ < 256 ^ 8 from x.toNat_lt),
    UInt64.ofNat_toNat]

theorem htons_ntohs {b : Bytes} (width : b.length = 2) : htons (ntohs b) = b := by
  have low := bigEndianValue_lt b
  have back := bigEndian_bigEndianValue b
  rw [width] at low back
  rw [ntohs, htons, UInt16.toNat_ofNat', Nat.mod_eq_of_lt (show _ < 2 ^ 16 from low), back]

theorem htonl_ntohl {b : Bytes} (width : b.length = 4) : htonl (ntohl b) = b := by
  have low := bigEndianValue_lt b
  have back := bigEndian_bigEndianValue b
  rw [width] at low back
  rw [ntohl, htonl, UInt32.toNat_ofNat', Nat.mod_eq_of_lt (show _ < 2 ^ 32 from low), back]

theorem htobe64_be64toh {b : Bytes} (width : b.length = 8) : htobe64 (be64toh b) = b := by
  have low := bigEndianValue_lt b
  have back := bigEndian_bigEndianValue b
  rw [width] at low back
  rw [be64toh, htobe64, UInt64.toNat_ofNat', Nat.mod_eq_of_lt (show _ < 2 ^ 64 from low), back]

/-- `ntohs(*reinterpret_cast<const uint16_t*>(payload.data() + pos))`. -/
def readU16 (pos : Nat) : Reader UInt16 := do
  let b ← Reader.bytes pos 2
  pure (ntohs b)

def readU32 (pos : Nat) : Reader UInt32 := do
  let b ← Reader.bytes pos 4
  pure (ntohl b)

def readU64 (pos : Nat) : Reader UInt64 := do
  let b ← Reader.bytes pos 8
  pure (be64toh b)

@[simp] theorem result_readU16 (pos : Nat) (v : Vec) :
    (readU16 pos).result v = .ok (ntohs (v.slice pos 2)) := by
  simp [readU16]

@[simp] theorem result_readU32 (pos : Nat) (v : Vec) :
    (readU32 pos).result v = .ok (ntohl (v.slice pos 4)) := by
  simp [readU32]

@[simp] theorem result_readU64 (pos : Nat) (v : Vec) :
    (readU64 pos).result v = .ok (be64toh (v.slice pos 8)) := by
  simp [readU64]

/-! ### The header -/

/-- The multi-byte fields are kept as the bytes on the wire. -/
structure MessageHeaderWire where
  magic_be : Bytes
  version : UInt8
  type : UInt8
  len_be : Bytes
  reserved_be : Bytes
  deriving DecidableEq

def make_header (type : UInt8) (len : UInt32) : MessageHeaderWire where
  magic_be := htonl MAGIC
  version := VERSION
  type := type
  len_be := htonl len
  reserved_be := htons 0

def validate_header (h : MessageHeaderWire) : Except String Unit :=
  if ntohl h.magic_be ≠ MAGIC then .error "bad magic"
  else if h.version ≠ VERSION then .error "bad version"
  else .ok ()

theorem validate_header_eq_ok {h : MessageHeaderWire} :
    validate_header h = .ok () ↔ ntohl h.magic_be = MAGIC ∧ h.version = VERSION := by
  unfold validate_header
  by_cases magic : ntohl h.magic_be = MAGIC <;> by_cases version : h.version = VERSION <;>
    simp [magic, version]

def payload_len (h : MessageHeaderWire) : UInt32 := ntohl h.len_be

namespace MessageHeaderWire

def toBytes (h : MessageHeaderWire) : Bytes :=
  h.magic_be ++ [h.version, h.type] ++ h.len_be ++ h.reserved_be

def ofBytes (b : Bytes) : MessageHeaderWire where
  magic_be := b.take 4
  version := b.getD 4 0
  type := b.getD 5 0
  len_be := (b.drop 6).take 4
  reserved_be := (b.drop 10).take 2

end MessageHeaderWire

end FileShareX.Protocol
