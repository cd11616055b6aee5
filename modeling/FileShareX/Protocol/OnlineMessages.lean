import FileShareX.Protocol.Message

/-!
# The online list

`online_messages.h`.
-/

namespace FileShareX.Protocol

open Wire Reader

structure OnlineListResp where
  usernames : List Bytes
  deriving DecidableEq

namespace OnlineListResp

def serialize (resp : OnlineListResp) : Bytes :=
  htons (UInt16.ofNat resp.usernames.length) ++
    resp.usernames.flatMap fun username => htons (UInt16.ofNat username.length) ++ username

/-- The loop of `deserialize` with `count` rounds left.  A name that overruns
the payload is skipped, and the loop goes on right behind its length field. -/
def deserializeFrom (size : Nat) : Nat → Nat → List Bytes → Reader (List Bytes)
  | 0, _, usernames => pure usernames
  | count + 1, pos, usernames =>
    if pos + 2 ≤ size then do
      let len ← readU16 pos
      let pos := pos + 2
      if pos + len.toNat ≤ size then do
        let username ← bytes pos len.toNat
        deserializeFrom size count (pos + len.toNat) (usernames ++ [username])
      else deserializeFrom size count pos usernames
    else pure usernames

def deserialize : Reader OnlineListResp := do
  let size ← Reader.size
  if size < 2 then pure ⟨[]⟩
  else do
    let count ← readU16 0
    let usernames ← deserializeFrom size count.toNat 2 []
    pure ⟨usernames⟩

end OnlineListResp

end FileShareX.Protocol
