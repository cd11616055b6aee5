import FileShareX.Foundation.Simulation

/-!
# What an upload is for

The purpose of a transfer, without the machine that carries it out: a sender
offers a file of a certain size, the receiver takes it or not, and then the
sender's data is appended until the file is complete and stored.  No operation
is left once it is.
-/

namespace FileShareX.Transfer

open Machine

variable (User Byte : Type*)

inductive Phase where
  | offered
  | taking (content : List Byte)
  | stored (content : List Byte)
  | failed

structure Upload where
  sender : User
  receiver : User
  filename : List Byte
  size : Nat
  phase : Phase Byte

/-- What a party can have done to an upload. -/
inductive Move where
  | accept
  | reject
  | append (data : List Byte)
  | finish
  | abort
  deriving DecidableEq

inductive Operation where
  | offer (sender receiver : User) (filename : List Byte) (size : Nat)
  | move (user : User) (move : Move Byte)
  deriving DecidableEq

variable {User Byte}

namespace Phase

/-- The receiver may accept again before anything has come; a file is neither
longer than offered nor finished before it is complete. -/
def act (size : Nat) : Phase Byte → Move Byte → Option (Phase Byte)
  | offered, .accept => some (taking [])
  | taking [], .accept => some (taking [])
  | taking content, .append data =>
    if content.length + data.length ≤ size then some (taking (content ++ data)) else none
  | taking content, .finish => if content.length = size then some (stored content) else none
  | stored _, _ => none
  | _, .reject => some failed
  | _, .abort => some failed
  | _, _ => none

def content : Phase Byte → List Byte
  | taking content => content
  | stored content => content
  | _ => []

end Phase

/-- The receiver decides on the offer, the sender delivers. -/
def Upload.Allows (upload : Upload User Byte) (user : User) : Move Byte → Prop
  | .accept => user = upload.receiver
  | .reject => user = upload.receiver
  | .append _ => user = upload.sender
  | .finish => user = upload.sender
  | .abort => user = upload.sender ∨ user = upload.receiver

instance [DecidableEq User] (upload : Upload User Byte) (user : User) :
    (move : Move Byte) → Decidable (upload.Allows user move)
  | .accept => inferInstanceAs (Decidable (_ = _))
  | .reject => inferInstanceAs (Decidable (_ = _))
  | .append _ => inferInstanceAs (Decidable (_ = _))
  | .finish => inferInstanceAs (Decidable (_ = _))
  | .abort => inferInstanceAs (Decidable (_ ∨ _))

namespace Upload

variable [DecidableEq User]

def perform : Option (Upload User Byte) → Operation User Byte → Option (Option (Upload User Byte))
  | none, .offer sender receiver filename size =>
    some (some { sender, receiver, filename, size, phase := .offered })
  | some upload, .move user move =>
    if upload.Allows user move then
      (upload.phase.act upload.size move).map fun phase => some { upload with phase }
    else none
  | _, _ => none

variable {upload : Upload User Byte} {next : Option (Upload User Byte)}
  {op : Operation User Byte}

theorem perform_move {upload : Upload User Byte} {user : User} {move : Move Byte}
    {phase : Phase Byte} (allows : upload.Allows user move)
    (acted : upload.phase.act upload.size move = some phase) :
    perform (some upload) (.move user move) = some (some { upload with phase }) := by
  simp [perform, allows, acted]

theorem perform_some (moved : perform (some upload) op = some next) :
    ∃ user move phase, op = .move user move ∧ upload.Allows user move ∧
      upload.phase.act upload.size move = some phase ∧ next = some { upload with phase } := by
  cases op with
  | offer => cases moved
  | move user move =>
    unfold perform at moved
    dsimp only at moved
    split at moved
    · next allowed =>
      obtain ⟨phase, acted, rfl⟩ := Option.map_eq_some_iff.mp moved
      exact ⟨user, move, phase, rfl, allowed, acted, rfl⟩
    · cases moved

theorem perform_none (moved : perform (none : Option (Upload User Byte)) op = some next) :
    ∃ sender receiver filename size, op = .offer sender receiver filename size ∧
      next = some { sender, receiver, filename, size, phase := .offered } := by
  cases op with
  | offer sender receiver filename size =>
    exact ⟨sender, receiver, filename, size, rfl, (Option.some.inj moved).symm⟩
  | move => cases moved

end Upload

def appended : List (Operation User Byte) → List Byte
  | [] => []
  | .move _ (.append data) :: rest => data ++ appended rest
  | _ :: rest => appended rest

theorem appended_append (moves more : List (Operation User Byte)) :
    appended (moves ++ more) = appended moves ++ appended more := by
  induction moves using appended.induct with
  | case1 => rfl
  | case2 user data rest ih => simp [appended, ih]
  | case3 op rest notData ih => simp [appended, ih]

namespace Phase

variable {size : Nat} {phase next : Phase Byte} {move : Move Byte}

/-- A move adds its data to what has come, or the upload has failed. -/
theorem content_act (acted : phase.act size move = some next) (user : User) :
    next = failed ∨ next.content = phase.content ++ appended [Operation.move user move] := by
  unfold act at acted
  split at acted
  · cases acted
    exact .inr rfl
  · cases acted
    exact .inr rfl
  · split at acted <;> cases acted
    exact .inr (by simp [content, appended])
  · split at acted <;> cases acted
    exact .inr (by simp [content, appended])
  all_goals cases acted
  all_goals exact .inl rfl

theorem act_fails (unfinished : ∀ content, phase ≠ stored content)
    (ends : move = .reject ∨ move = .abort) : phase.act size move = some failed := by
  cases phase with
  | offered => rcases ends with rfl | rfl <;> rfl
  | taking content => rcases ends with rfl | rfl <;> cases content <;> rfl
  | stored content => exact absurd rfl (unfinished content)
  | failed => rcases ends with rfl | rfl <;> rfl

theorem act_append {content data : List Byte} (fits : content.length + data.length ≤ size) :
    (taking content).act size (.append data) = some (taking (content ++ data)) := by
  cases content <;> simp [act] at * <;> exact fits

theorem act_finish {content : List Byte} (complete : content.length = size) :
    (taking content).act size .finish = some (stored content) := by
  cases content <;> simp [act] at * <;> exact complete

theorem act_failed (acted : (failed : Phase Byte).act size move = some next) : next = failed := by
  cases move <;> cases acted <;> rfl

theorem act_stored {content : List Byte} (acted : phase.act size move = some (stored content)) :
    content.length = size := by
  unfold act at acted
  split at acted
  all_goals (try split at acted) <;> cases acted
  assumption

end Phase

namespace Upload

variable [DecidableEq User] {upload : Upload User Byte} {ops : List (Operation User Byte)}

/-- How an upload has come about: one offer, then moves of its parties. -/
structure History (upload : Upload User Byte) (ops moves : List (Operation User Byte)) : Prop where
  offered : ops = .offer upload.sender upload.receiver upload.filename upload.size :: moves
  allowed : ∀ op ∈ moves, ∃ user move, op = .move user move ∧ upload.Allows user move
  content : upload.phase = .failed ∨ upload.phase.content = appended moves
  complete : ∀ content, upload.phase = .stored content → content.length = upload.size

theorem History.step {moves : List (Operation User Byte)} (history : upload.History ops moves)
    {op : Operation User Byte} {after : Upload User Byte}
    (moved : perform (some upload) op = some (some after)) :
    after.History (ops ++ [op]) (moves ++ [op]) := by
  obtain ⟨user, move, phase, rfl, allows, acted, same⟩ := perform_some moved
  cases same
  refine ⟨by rw [history.offered, List.cons_append], ?_, ?_, ?_⟩
  · intro op isMove
    rcases List.mem_append.mp isMove with earlier | last
    · exact history.allowed op earlier
    · exact ⟨user, move, List.mem_singleton.mp last, allows⟩
  · rcases history.content with failed | content
    · rw [failed] at acted
      exact .inl (Phase.act_failed acted)
    · refine (Phase.content_act acted user).imp id fun grown => ?_
      rw [grown, content, appended_append]
  · rintro content rfl
    exact Phase.act_stored acted

theorem History.run {moves more : List (Operation User Byte)} {after : Upload User Byte}
    (history : upload.History ops moves)
    (ran : attempt perform (some upload) more = some (some after)) :
    after.History (ops ++ more) (moves ++ more) := by
  induction more generalizing upload ops moves with
  | nil =>
    cases ran
    simpa using history
  | cons op rest ih =>
    obtain ⟨next, moved, ran⟩ := Option.bind_eq_some_iff.mp ran
    obtain ⟨user, move, phase, -, -, -, rfl⟩ := perform_some moved
    simpa using ih (history.step moved) ran

/-- Every upload has such a history. -/
theorem history (ran : attempt perform (none : Option (Upload User Byte)) ops = some (some upload)) :
    ∃ moves, upload.History ops moves := by
  cases ops with
  | nil => cases ran
  | cons op rest =>
    obtain ⟨next, moved, ran⟩ := Option.bind_eq_some_iff.mp ran
    obtain ⟨sender, receiver, filename, size, rfl, rfl⟩ := perform_none moved
    have first : History { sender, receiver, filename, size, phase := .offered }
        [Operation.offer sender receiver filename size] ([] : List (Operation User Byte)) :=
      ⟨rfl, by simp, .inr rfl, nofun⟩
    exact ⟨_, first.run ran⟩

end Upload

end FileShareX.Transfer
