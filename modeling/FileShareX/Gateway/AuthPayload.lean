import FileShareX.Gateway.CoreClient
import FileShareX.Protocol.RoundTrip

/-!
# The gateway's requests in the core's parsers

One Python function writes two layouts, with the email or without it.  The core's two
parsers read what the three callers send, unless a registration has no email.
-/

namespace FileShareX.Gateway

open Wire Protocol

/-- The only bound that `_make_auth_payload` checks. -/
def Encodable (text : String) : Prop := (utf8 text).length ≤ 65535

instance (text : String) : Decidable (Encodable text) := inferInstanceAs (Decidable (_ ≤ _))

def registerReq (username email password : String) : RegisterReq :=
  ⟨utf8 username, utf8 email, utf8 password⟩

def loginReq (username password : String) : LoginReq := ⟨utf8 username, utf8 password⟩

variable {username email password : String}

theorem packString_of_le {text : String} (short : Encodable text) (error : String) :
    packString (utf8 text) error = .ok (counted (utf8 text)) := by
  rw [packString, if_neg (Nat.not_lt.mpr short), counted, htons, ofNat_length_toNat short]

theorem make_auth_payload_login (shortUsername : Encodable username)
    (shortPassword : Encodable password) :
    _make_auth_payload username password = .ok (loginReq username password).canonical := by
  simp only [_make_auth_payload, packString_of_le shortUsername, packString_of_le shortPassword,
    ne_eq, not_true_eq_false, if_false, Reader.ok_bind, List.append_nil]
  rfl

theorem make_auth_payload_register (shortUsername : Encodable username)
    (shortEmail : Encodable email) (shortPassword : Encodable password) (present : email ≠ "") :
    _make_auth_payload username password email
      = .ok (registerReq username email password).canonical := by
  simp only [_make_auth_payload, packString_of_le shortUsername, packString_of_le shortEmail,
    packString_of_le shortPassword, if_pos present, Reader.ok_bind]
  exact congrArg Except.ok (List.append_assoc ..)

/-- The payload is what the parser makes of it, whatever lies behind it in memory. -/
def SentAndParsed {α : Type} (payload : Except String Bytes) (parser : Reader α) (req : α) : Prop :=
  ∃ bytes, payload = .ok bytes ∧ ∀ beyond, parser.result ⟨bytes, beyond⟩ = .ok req

theorem login_sentAndParsed (shortUsername : Encodable username)
    (shortPassword : Encodable password) :
    SentAndParsed (_make_auth_payload username password) LoginReq.deserialize
      (loginReq username password) :=
  ⟨_, make_auth_payload_login shortUsername shortPassword, fun beyond =>
    (LoginReq.deserialize_eq_ok _ _).mpr ⟨⟨shortUsername, shortPassword⟩, hasAt_self _ beyond⟩⟩

theorem register_without_email (shortUsername : Encodable username)
    (shortPassword : Encodable password) :
    ¬ SentAndParsed (register_user_payload username "" password) RegisterReq.deserialize
      (registerReq username "" password) := by
  rintro ⟨bytes, sent, parsed⟩
  rw [register_user_payload, make_auth_payload_login shortUsername shortPassword] at sent
  cases sent
  have room := ((RegisterReq.deserialize_eq_ok _ _).mp (parsed fun _ => 0)).2.1
  simp only [RegisterReq.canonical, LoginReq.canonical, registerReq, loginReq, Vec.size,
    List.length_append, counted_length] at room
  omega

/-- Sent by the gateway and parsed by the core, all three requests come out as they went
in, if and only if the email is not empty. -/
theorem auth_requests_agree (shortUsername : Encodable username) (shortEmail : Encodable email)
    (shortPassword : Encodable password) :
    SentAndParsed (register_user_payload username email password) RegisterReq.deserialize
          (registerReq username email password)
        ∧ SentAndParsed (login_user_payload username password) LoginReq.deserialize
          (loginReq username password)
        ∧ SentAndParsed (create_session_payload username password) LoginReq.deserialize
          (loginReq username password) ↔
      email ≠ "" := by
  have login := login_sentAndParsed shortUsername shortPassword
  constructor
  · rintro ⟨register, -⟩ rfl
    exact register_without_email shortUsername shortPassword register
  · intro present
    refine ⟨⟨_, make_auth_payload_register shortUsername shortEmail shortPassword present,
      fun beyond => ?_⟩, login, login⟩
    exact (RegisterReq.deserialize_eq_ok _ _).mpr
      ⟨⟨shortUsername, shortEmail, shortPassword⟩, hasAt_self _ beyond⟩

theorem auth_requests_agree_sample :
    SentAndParsed (register_user_payload "zoë" "zoe@example.org" "") RegisterReq.deserialize
      (registerReq "zoë" "zoe@example.org" "") :=
  ((auth_requests_agree (by decide) (by decide) (by decide)).mpr (by decide)).1

/-- `secret` is taken for the email, and no password is left. -/
theorem empty_email_shifts_password :
    ¬ SentAndParsed (register_user_payload "alice" "" "secret") RegisterReq.deserialize
      (registerReq "alice" "" "secret") :=
  register_without_email (by decide) (by decide)

end FileShareX.Gateway
