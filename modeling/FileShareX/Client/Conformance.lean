import FileShareX.Client.Delivery
import FileShareX.Net.Online
import FileShareX.Net.Replies

/-!
# What `do_send` is sent

The program reads four responses in a fixed order.  The third one is not the
answer to anything it has written: the handler of the receiver's FILE_ACCEPT_REQ
sends it, however often it runs.
-/

namespace FileShareX.Client

open Wire Posix Protocol Storage Transfer Net Machine

/-! ### One connection -/

def Task.sends : Task → Bool
  | .send _ => true
  | .recv _ => false

/-- The types of the responses that `do_send` reads, in order. -/
def script : List MsgType := [.LOGIN_RESP, .FILE_OFFER_RESP, .FILE_ACCEPT_RESP, .FILE_RESULT]

def Phase.awaits : Phase → Option MsgType
  | .login => some .LOGIN_RESP
  | .offer => some .FILE_OFFER_RESP
  | .accept _ => some .FILE_ACCEPT_RESP
  | .result => some .FILE_RESULT
  | .recv => some .FILE_ACCEPT_RESP
  | .chunks .. | .finish .. | .ended _ => none

/-- How many responses `do_send` has read, as long as it goes on. -/
def Phase.heard : Phase → Option Nat
  | .login => some 0
  | .offer => some 1
  | .accept _ => some 2
  | .chunks .. | .finish .. | .result => some 3
  | .recv | .ended _ => none

/-- The place in the script of the answer to a command. -/
def Command.place : Command → Option Nat
  | .login .. => some 0
  | .offer .. => some 1
  | .done .. => some 3
  | .accept .. | .chunk .. => none

/-- The places of the answers to what `do_send` may still write. -/
def Phase.ahead : Phase → List Nat
  | .login => [1, 3]
  | .offer | .accept _ | .chunks .. | .finish .. => [3]
  | .result | .recv | .ended _ => []

/-- The responses sent follow the script, the program has read as many as it stands for, and
the answers to what is on its way or still to be written come next or later. -/
structure Orderly (sent inbox : List Response) (outbox : List Command) (program : Program) :
    Prop where
  order : sent.map Response.type <+: script
  unread : ∃ read, sent = read ++ inbox ∧ ∀ n, program.phase.heard = some n → read.length = n
  sends : program.phase ≠ .recv ∧ ∀ id flag, .accept id flag ∉ outbox
  due : outbox.filterMap Command.place = [] ∧ (∀ n ∈ program.phase.ahead, sent.length ≤ n) ∨
    outbox.filterMap Command.place = [sent.length] ∧ ∀ n ∈ program.phase.ahead, sent.length < n

theorem Program.read_unexpected {program : Program} {response : Response}
    (waits : program.waits = true) (other : program.phase.awaits ≠ some response.type) :
    program.read response = (program.goto (.ended false), []) := by
  have code (type : MsgType) (awaits : program.phase.awaits = some type) :
      response.type.code ≠ type.code := by
    intro same
    have named : response.type = type := by
      rw [← Option.some.injEq, ← MsgType.ofCode?_code, same, MsgType.ofCode?_code]
    exact other (awaits.trans (congrArg some named.symm))
  unfold Program.read
  cases phase : program.phase with
  | login => exact if_pos (.inl (code .LOGIN_RESP (by rw [phase]; rfl)))
  | offer => exact if_pos (.inl (code .FILE_OFFER_RESP (by rw [phase]; rfl)))
  | accept => exact if_pos (.inl (code .FILE_ACCEPT_RESP (by rw [phase]; rfl)))
  | result => exact if_pos (.inl (code .FILE_RESULT (by rw [phase]; rfl)))
  | recv => exact if_pos (.inl (code .FILE_ACCEPT_RESP (by rw [phase]; rfl)))
  | _ => simp [Program.waits, phase] at waits

theorem prefix_concat {α : Type*} {xs ys : List α} {y : α} (inside : xs <+: ys)
    (next : ys[xs.length]? = some y) : xs ++ [y] <+: ys := by
  obtain ⟨rest, rfl⟩ := inside
  rw [List.getElem?_append_right (Nat.le_refl _), Nat.sub_self] at next
  cases rest with
  | nil => cases next
  | cons first rest =>
    cases next
    exact ⟨rest, by simp⟩

/-- What the server answers a command with has the type at the command's place. -/
theorem Command.place_reply {command : Command} (noAccept : ∀ id flag, command ≠ .accept id flag) :
    command.frame.1 ≠ MsgType.FILE_ACCEPT_REQ.code ∧
      (MsgType.ofCode? command.frame.1).bind replyTo = command.place.bind (script[·]?) := by
  cases command with
  | accept => exact absurd rfl (noAccept _ _)
  | _ => exact ⟨of_decide_eq_true rfl, rfl⟩

namespace Orderly

variable {sent inbox unread : List Response} {outbox more : List Command} {program : Program}
  {command : Command} {response : Response}

theorem connected (task : Task) (username password : Bytes) :
    Orderly [] [] [.login username password] ⟨task, username, password, .login⟩ where
  order := List.nil_prefix
  unread := ⟨[], rfl, fun _ here => Option.some.inj here⟩
  sends := ⟨nofun, by simp⟩
  due := .inr ⟨rfl, by simp [Phase.ahead]⟩

theorem extend (orderly : Orderly sent inbox outbox program)
    (next : script[sent.length]? = some response.type)
    (sends : ∀ id flag, .accept id flag ∉ more)
    (due : more.filterMap Command.place = [])
    (later : ∀ n ∈ program.phase.ahead, sent.length < n) :
    Orderly (sent ++ [response]) (inbox ++ [response]) more program where
  order := by
    rw [List.map_append]
    exact prefix_concat orderly.order (by rwa [List.length_map])
  unread := by
    obtain ⟨read, whole, heard⟩ := orderly.unread
    exact ⟨read, by rw [whole, List.append_assoc], heard⟩
  sends := ⟨orderly.sends.1, sends⟩
  due := .inl ⟨due, fun n member => by
    rw [List.length_append]
    exact later n member⟩

theorem turn (orderly : Orderly sent inbox (command :: more) program) {n : Nat}
    (place : command.place = some n) : n = sent.length ∧ more.filterMap Command.place = [] ∧
      ∀ m ∈ program.phase.ahead, sent.length < m := by
  have due := orderly.due
  rw [List.filterMap_cons_some place] at due
  obtain ⟨taken, later⟩ := due.resolve_left fun ⟨nothing, _⟩ => List.cons_ne_nil _ _ nothing
  obtain ⟨same, rest⟩ := List.cons.inj taken
  exact ⟨same, rest, later⟩

theorem answer (orderly : Orderly sent inbox (command :: more) program) {responses : List Response}
    (reply : responses = [] ∨ ∃ response, responses = [response] ∧
      command.place.bind (script[·]?) = some response.type) :
    Orderly (sent ++ responses) (inbox ++ responses) more program := by
  have sends (id : UInt64) (flag : Bool) : .accept id flag ∉ more :=
    fun member => orderly.sends.2 id flag (List.mem_cons_of_mem _ member)
  cases place : command.place with
  | none =>
    have due := orderly.due
    rw [List.filterMap_cons_none place] at due
    obtain rfl | ⟨response, -, typed⟩ := reply
    · rw [List.append_nil, List.append_nil]
      exact ⟨orderly.order, orderly.unread, ⟨orderly.sends.1, sends⟩, due⟩
    · rw [place] at typed
      cases typed
  | some n =>
    obtain ⟨rfl, rest, later⟩ := orderly.turn place
    obtain rfl | ⟨response, rfl, typed⟩ := reply
    · rw [List.append_nil, List.append_nil]
      exact ⟨orderly.order, orderly.unread, ⟨orderly.sends.1, sends⟩,
        .inl ⟨rest, fun n member => (later n member).le⟩⟩
    · rw [place] at typed
      exact orderly.extend typed sends rest later

/-- The sender is told once that the receiver has decided. -/
theorem notified (orderly : Orderly sent inbox outbox program) (two : sent.length = 2)
    (resp : FileAcceptResp) :
    Orderly (sent ++ [.fileAcceptResp resp]) (inbox ++ [.fileAcceptResp resp]) outbox program := by
  have places : ∀ command ∈ outbox, command.place ≠ some 2 := by
    intro command _
    cases command <;> nofun
  have ahead : ∀ n ∈ program.phase.ahead, n ≠ 2 := by
    cases program.phase <;> simp [Phase.ahead]
  obtain ⟨nothing, later⟩ := orderly.due.resolve_right fun ⟨one, _⟩ => by
    have member : 2 ∈ outbox.filterMap Command.place := by simp [one, two]
    obtain ⟨command, inside, place⟩ := List.mem_filterMap.mp member
    exact places command inside place
  refine orderly.extend (by rw [two]; rfl) orderly.sends.2 nothing fun n member => ?_
  have le := later n member
  have ne := ahead n member
  omega

theorem goesOn (orderly : Orderly sent inbox outbox program) {phase : Phase}
    {written : List Command}
    (heard : ∃ read, sent = read ++ unread ∧ ∀ n, phase.heard = some n → read.length = n)
    (notRecv : phase ≠ .recv)
    (noAccept : ∀ id flag, .accept id flag ∉ written)
    (unanswered : written.filterMap Command.place = [])
    (ahead : phase.ahead ⊆ program.phase.ahead) :
    Orderly sent unread (outbox ++ written) (program.goto phase) where
  order := orderly.order
  unread := heard
  sends := ⟨notRecv, fun id flag member => (List.mem_append.mp member).elim
    (orderly.sends.2 id flag) (noAccept id flag)⟩
  due := by
    rw [List.filterMap_append, unanswered, List.append_nil]
    exact orderly.due.imp (fun ⟨nothing, later⟩ => ⟨nothing, fun n member => later n (ahead member)⟩)
      fun ⟨one, later⟩ => ⟨one, fun n member => later n (ahead member)⟩

theorem writes (orderly : Orderly sent inbox outbox program) {phase : Phase} {n : Nat}
    (heard : ∃ read, sent = read ++ unread ∧ ∀ n, phase.heard = some n → read.length = n)
    (notRecv : phase ≠ .recv) (place : command.place = some n) (now : n ∈ program.phase.ahead)
    (sentBefore : n ≤ sent.length)
    (ahead : ∀ m ∈ phase.ahead, n < m) :
    Orderly sent unread (outbox ++ [command]) (program.goto phase) where
  order := orderly.order
  unread := heard
  sends := by
    refine ⟨notRecv, fun id flag member => (List.mem_append.mp member).elim
      (orderly.sends.2 id flag) fun new => ?_⟩
    rw [← List.mem_singleton.mp new] at place
    cases place
  due := by
    obtain ⟨nothing, later⟩ := orderly.due.resolve_right fun ⟨_, later⟩ =>
      Nat.not_le.mpr (later n now) sentBefore
    obtain rfl := Nat.le_antisymm (later n now) sentBefore
    refine .inr ⟨?_, ahead⟩
    rw [List.filterMap_append, nothing, List.filterMap_cons_some place, List.filterMap_nil]
    rfl

theorem crash (orderly : Orderly sent inbox outbox program) (success : Bool) :
    Orderly sent inbox (outbox ++ []) (program.goto (.ended success)) := by
  obtain ⟨read, whole, -⟩ := orderly.unread
  exact orderly.goesOn ⟨read, whole, nofun⟩ nofun nofun rfl (List.nil_subset _)

theorem read (orderly : Orderly sent (response :: unread) outbox program) {upload : Upload}
    (task : program.task = .send upload) (waits : program.waits = true) :
    Orderly sent unread (outbox ++ (program.read response).2) (program.read response).1 := by
  obtain ⟨before, whole, heard⟩ := orderly.unread
  have whole' : sent = before ++ [response] ++ unread := by rw [whole, List.append_assoc]; rfl
  have next {phase : Phase} (n : Nat) (here : program.phase.heard = some n)
      (there : phase.heard = some (n + 1)) :
      ∃ read, sent = read ++ unread ∧ ∀ n, phase.heard = some n → read.length = n := by
    refine ⟨before ++ [response], whole', fun m same => ?_⟩
    cases there.symm.trans same
    rw [List.length_append, heard n here]
    rfl
  obtain ⟨success, reads⟩ | ⟨login, reads⟩ | ⟨offer, resp, -, -, reads⟩ |
    ⟨transfer_id, accept, resp, -, -, reads⟩ := @Program.read_cases program response waits
  · rw [reads]
    exact orderly.goesOn ⟨_, whole', by simp [Phase.heard]⟩ (by simp) (by simp) rfl (List.nil_subset _)
  · rw [reads, Program.begin_task, task]
    refine orderly.writes (next 0 (by rw [login]; rfl) rfl) (by simp) rfl ?_ ?_ (by simp [Phase.ahead])
    · rw [login]
      simp [Phase.ahead]
    · rw [whole, List.length_append, List.length_cons]
      omega
  · rw [reads]
    refine orderly.goesOn (next 1 (by rw [offer]; rfl) rfl) (by simp) (by simp) rfl ?_
    rw [offer]
    exact List.Subset.refl _
  · rw [reads]
    refine orderly.goesOn (next 2 (by rw [accept]; rfl) rfl) (by simp) (by simp) rfl ?_
    rw [accept]
    exact List.Subset.refl _

theorem write (orderly : Orderly sent inbox outbox program) {upload : Upload}
    (task : program.task = .send upload) :
    Orderly sent inbox (outbox ++ program.write.2) program.write.1 := by
  obtain ⟨before, whole, heard⟩ := orderly.unread
  have stays {phase : Phase} (same : phase.heard = program.phase.heard) :
      ∃ read, sent = read ++ inbox ∧ ∀ n, phase.heard = some n → read.length = n :=
    ⟨before, whole, fun n here => heard n (same.symm.trans here)⟩
  unfold Program.write
  rw [task]
  cases phase : program.phase with
  | chunks transfer_id chunk_index total_sent =>
    have here : program.phase.heard = some 3 := by rw [phase]; rfl
    have ahead : program.phase.ahead = [3] := by rw [phase]; rfl
    dsimp only
    repeat' split
    all_goals
      refine orderly.goesOn (stays here.symm) nofun (by simp) rfl ?_
      rw [ahead]
      exact List.Subset.refl _
  | finish transfer_id chunk_index =>
    have here : program.phase.heard = some 3 := by rw [phase]; rfl
    refine orderly.writes (stays here.symm) nofun rfl ?_ ?_ nofun
    · rw [phase]
      exact List.mem_cons_self ..
    · rw [whole, List.length_append, heard 3 here]
      exact Nat.le_add_right ..
  | _ => simpa using orderly

end Orderly

/-! ### Any number of clients and strangers -/

inductive Act where
  | client (move : Move)
  /-- A step of the server for a connection that no client has. -/
  | stranger (label : Label)

/-- The clients and the server, with what each connection has been sent. -/
structure Watched where
  net : Network
  sent : ConnId → List Response := fun _ => []
  /-- Whether a FILE_ACCEPT_REQ has decided about the transfer since it was offered. -/
  decided : UInt64 → Bool := fun _ => false

namespace Watched

/-- A client does not write what strangers send. -/
def strange (watched : Watched) : Label → Bool
  | .receive conn _ _ _ => (watched.net.programs conn).isNone
  | _ => true

def label? (watched : Watched) : Act → Option Label
  | .client move => watched.net.label? move
  | .stranger label => if watched.strange label then some label else none

def decidedBy (watched : Watched) (label : Label) : UInt64 → Bool :=
  match watched.net.core.asks label with
  | some (.offer _ _) =>
    Function.update watched.decided watched.net.core.server.transfers.next_transfer_id false
  | _ =>
    match watched.net.core.decides label with
    | some id => Function.update watched.decided id true
    | none => watched.decided

def note (watched : Watched) (label : Label) (net : Network) : Watched where
  net := net
  sent := deliver (watched.net.core.events label) watched.sent
  decided := watched.decidedBy label

def next (watched : Watched) : Act → Network
  | .client move => watched.net.step move
  | .stranger label => if watched.strange label then watched.net.serve label else watched.net

def step (watched : Watched) (act : Act) : Watched :=
  match watched.label? act with
  | some label => watched.note label (watched.next act)
  | none => { watched with net := watched.next act }

theorem step_some {watched : Watched} {act : Act} {label : Label}
    (taken : watched.label? act = some label) :
    watched.step act = watched.note label (watched.next act) := by
  unfold step
  rw [taken]

theorem step_none {watched : Watched} {act : Act} (idle : watched.label? act = none) :
    watched.step act = { watched with net := watched.next act } := by
  unfold step
  rw [idle]

def sending (watched : Watched) (conn : ConnId) : Bool :=
  (watched.net.core.server.live conn).isSome && (watched.net.programs conn).any (·.task.sends)

/-- A transfer that an open `do_send` has offered is accepted or rejected at most once, not
counting an accept whose file cannot be opened. -/
def Once (watched : Watched) (label : Label) : Prop :=
  ∀ id ∈ watched.net.core.decides label, ∀ conn ∈ watched.net.maker id,
    watched.sending conn = true → watched.decided id = false

instance (watched : Watched) (label : Label) : Decidable (watched.Once label) :=
  Option.decidableForallMem (watched.net.core.decides label)

def DecidesOnce (watched : Watched) (act : Act) : Prop :=
  ∀ label ∈ watched.label? act, watched.Once label

instance (watched : Watched) (act : Act) : Decidable (watched.DecidesOnce act) :=
  Option.decidableForallMem (watched.label? act)

def Fresh (watched : Watched) : Prop := watched.net.Fresh ∧ watched = { net := watched.net }

/-- Every `do_send` has been sent a beginning of the script, and when it waits, the response
it reads next is of the type it waits for. -/
def Conforms (watched : Watched) : Prop :=
  ∀ conn program upload, watched.net.programs conn = some program → program.task = .send upload →
    (watched.sent conn).map Response.type <+: script ∧
      (program.waits = true → ∀ response ∈ (watched.net.inbox conn).head?,
        program.phase.awaits = some response.type)

theorem decidedBy_noOffer {watched : Watched} {label : Label}
    (noOffer : ∀ req receiver, watched.net.core.asks label ≠ some (.offer req receiver)) :
    watched.decidedBy label = match watched.net.core.decides label with
      | some id => Function.update watched.decided id true
      | none => watched.decided := by
  unfold decidedBy
  split
  · next req receiver asked => exact absurd asked (noOffer req receiver)
  · rfl

/-- Of the transfers of a connection: there is none before the second response, only one at
any time, and once the third has been sent it is decided. -/
structure Settled (maker : UInt64 → Option ConnId) (decided : UInt64 → Bool) (conn : ConnId)
    (count : Nat) : Prop where
  unmade : count ≤ 1 → ∀ id, maker id ≠ some conn
  once : ∀ {id other}, maker id = some conn → maker other = some conn → other = id
  told : 3 ≤ count → ∀ {id}, maker id = some conn → decided id = true

namespace Settled

variable {watched : Watched} {conn : ConnId} {count : Nat} {label : Label}

theorem noted (settled : Settled watched.net.maker watched.decided conn count)
    (noOffer : ∀ req receiver, watched.net.core.asks label = some (.offer req receiver) →
      ∀ type payload env, label ≠ .receive conn type payload env) :
    Settled (watched.net.core.madeBy label watched.net.maker) (watched.decidedBy label) conn
      count := by
  have old (id : UInt64) (made : watched.net.core.madeBy label watched.net.maker id = some conn) :
      watched.net.maker id = some conn ∧
        (watched.decided id = true → watched.decidedBy label id = true) := by
    by_cases offers : ∃ req receiver, watched.net.core.asks label = some (.offer req receiver)
    · obtain ⟨req, receiver, asked⟩ := offers
      have elsewhere := noOffer req receiver asked
      obtain ⟨peer, -, -, ⟨-, payload, env, rfl, -⟩, -⟩ := Observed.step_effect asked
      rw [Observed.madeBy_offer asked] at made
      have ne : id ≠ watched.net.core.server.transfers.next_transfer_id := by
        rintro rfl
        rw [Function.update_self] at made
        cases made
        exact elsewhere _ _ _ rfl
      rw [Function.update_of_ne ne] at made
      refine ⟨made, fun decided => ?_⟩
      unfold decidedBy
      rw [asked]
      exact (Function.update_of_ne ne ..).trans decided
    · push Not at offers
      rw [Observed.madeBy_noOffer offers] at made
      refine ⟨made, fun decided => ?_⟩
      rw [decidedBy_noOffer offers]
      split
      · next other _ =>
        by_cases same : id = other
        · rw [same, Function.update_self]
        · rwa [Function.update_of_ne same]
      · exact decided
  exact ⟨fun few id made => settled.unmade few id (old id made).1,
    fun here there => settled.once (old _ here).1 (old _ there).1,
    fun many id made => (old id made).2 (settled.told many (old id made).1)⟩

/-- A decision about the transfer comes between the second response and the third. -/
theorem undecided (settled : Settled watched.net.maker watched.decided conn count) {id : UInt64}
    (made : watched.net.maker id = some conn) (open_ : watched.decided id = false) : count = 2 := by
  have late : ¬ count ≤ 1 := fun few => settled.unmade few id made
  have early : ¬ 3 ≤ count := fun many => by
    rw [settled.told many made] at open_
    cases open_
  omega

variable {maker : UInt64 → Option ConnId} {decided decided' : UInt64 → Bool}

theorem told_now (settled : Settled maker decided conn 2) {id : UInt64}
    (made : maker id = some conn) (now : decided id = true) : Settled maker decided conn 3 where
  unmade few := absurd few (by decide)
  once := settled.once
  told _ _ made' := settled.once made made' ▸ now

theorem answered (settled : Settled maker decided conn count) (place : count ≠ 2) :
    Settled maker decided conn (count + 1) where
  unmade few := settled.unmade (Nat.le_of_succ_le few)
  once := settled.once
  told many := settled.told (by omega)

theorem offered (settled : Settled maker decided conn count) (first : count ≤ 1) (id : UInt64) :
    Settled (Function.update maker id (some conn)) decided' conn 2 := by
  have own {other : UInt64} (made : Function.update maker id (some conn) other = some conn) :
      other = id := by
    by_contra ne
    rw [Function.update_of_ne ne] at made
    exact settled.unmade first other made
  exact ⟨fun few => absurd few (by decide), fun here there => (own there).trans (own here).symm,
    fun many => absurd many (by decide)⟩

end Settled

/-- What the server takes from a connection in a step: nothing, the first command of a
client, or a message of a stranger. -/
inductive Takes (net : Network) (label : Label) (outbox : ConnId → List Command) (conn : ConnId) :
    Prop
  | elsewhere (kept : outbox conn = net.outbox conn)
      (unheard : ∀ type payload env, label ≠ .receive conn type payload env)
  | command {command beyond env} (first : net.outbox conn = command :: outbox conn)
      (heard : label = command.label conn beyond env)
  | stranger (kept : outbox conn = net.outbox conn) (strange : net.programs conn = none)

structure Conforming (watched : Watched) : Prop where
  routing : watched.net.core.server.Routing watched.net.maker
  numbered : watched.net.core.server.Numbered
  unused : ∀ {conn}, watched.net.core.server.next_conn ≤ conn →
    watched.net.programs conn = none ∧ watched.sent conn = [] ∧
      ∀ id, watched.net.maker id ≠ some conn
  silent : ∀ {conn}, watched.net.programs conn = none → watched.net.outbox conn = []
  orderly : ∀ {conn program upload}, watched.net.programs conn = some program →
    program.task = .send upload →
    Orderly (watched.sent conn) (watched.net.inbox conn) (watched.net.outbox conn) program ∧
      Settled watched.net.maker watched.decided conn (watched.sent conn).length

namespace Conforming

variable {watched : Watched} {label : Label} {outbox : ConnId → List Command} {conn : ConnId}

theorem unused_step (conforming : watched.Conforming) (label : Label)
    (later : watched.net.core.server.next_conn ≤ conn) :
    responsesTo conn (watched.net.core.events label) = [] ∧
      ∀ id, watched.net.core.madeBy label watched.net.maker id ≠ some conn := by
  obtain ⟨-, -, unmade⟩ := conforming.unused later
  have absent (self : TcpSession) : watched.net.core.server.live conn ≠ some self := fun alive =>
    Nat.not_lt.mpr later (conforming.numbered conn self alive)
  constructor
  · by_cases here : ∃ type payload env, label = .receive conn type payload env
    · obtain ⟨type, payload, env, rfl⟩ := here
      refine (watched.net.core.events_receive conn type payload env).elim (fun nothing => ?_) ?_
      · rw [nothing, responsesTo_nil]
      · rintro ⟨self, alive, -⟩
        exact absurd alive (absent self)
    · push Not at here
      exact (Observed.told_elsewhere conforming.routing here).resolve_right
        fun ⟨id, _, _, made, _⟩ => unmade id made
  · have settled : Settled watched.net.maker watched.decided conn 0 :=
      ⟨fun _ => unmade, fun made => absurd made (unmade _), nofun⟩
    refine (settled.noted fun req receiver asked type payload env same => ?_).unmade (Nat.zero_le _)
    obtain ⟨peer, self, -, ⟨alive, _, _, label, -⟩, -⟩ := Observed.step_effect asked
    rw [same] at label
    cases label
    exact absent self alive

/-- Elsewhere something happens: at most, the sender is told of the decision. -/
theorem elsewhere_step (conforming : watched.Conforming) {program : Program} {upload : Upload}
    (running : watched.net.programs conn = some program) (task : program.task = .send upload)
    (unheard : ∀ type payload env, label ≠ .receive conn type payload env)
    (once : watched.Once label) :
    let told := responsesTo conn (watched.net.core.events label)
    Orderly (watched.sent conn ++ told) (watched.net.inbox conn ++ told) (watched.net.outbox conn)
        program ∧
      Settled (watched.net.core.madeBy label watched.net.maker) (watched.decidedBy label) conn
        (watched.sent conn ++ told).length := by
  obtain ⟨orderly, settled⟩ := conforming.orderly running task
  have noted := settled.noted fun req receiver
    (_ : watched.net.core.asks label = some (.offer req receiver)) => unheard
  obtain nothing | ⟨id, resp, decides, made, alive, told⟩ :=
    Observed.told_elsewhere conforming.routing unheard
  · rw [nothing]
    dsimp only
    rw [List.append_nil, List.append_nil]
    exact ⟨orderly, noted⟩
  · rw [told]
    have sending : watched.sending conn = true := by
      simp [Watched.sending, running, task, Task.sends, alive]
    have two := settled.undecided made (once id decides conn made sending)
    obtain ⟨req, session, asked⟩ := Observed.decides_asks decides
    have noOffer (req' : FileOfferReq) (receiver : UserRow) :
        watched.net.core.asks label ≠ some (.offer req' receiver) := by
      rw [asked]
      nofun
    have now : watched.decidedBy label id = true := by
      rw [decidedBy_noOffer noOffer, decides]
      exact Function.update_self ..
    have made' : watched.net.core.madeBy label watched.net.maker id = some conn := by
      rwa [Observed.madeBy_noOffer noOffer]
    rw [two] at noted
    refine ⟨orderly.notified two resp, ?_⟩
    rw [List.length_append, two]
    exact noted.told_now made' now

theorem command_step (conforming : watched.Conforming) {program : Program} {upload : Upload}
    (running : watched.net.programs conn = some program) (task : program.task = .send upload)
    {command : Command} {more : List Command} {beyond : Nat → UInt8} {env : Env}
    (first : watched.net.outbox conn = command :: more) :
    let label := command.label conn beyond env
    let told := responsesTo conn (watched.net.core.events label)
    Orderly (watched.sent conn ++ told) (watched.net.inbox conn ++ told) more program ∧
      Settled (watched.net.core.madeBy label watched.net.maker) (watched.decidedBy label) conn
        (watched.sent conn ++ told).length := by
  obtain ⟨orderly, settled⟩ := conforming.orderly running task
  rw [first] at orderly
  have noAccept (id : UInt64) (flag : Bool) : command ≠ .accept id flag := by
    rintro rfl
    exact orderly.sends.2 id flag (List.mem_cons_self ..)
  obtain ⟨type, typed⟩ := Command.place_reply noAccept
  have reply : responsesTo conn (watched.net.core.events (command.label conn beyond env)) = [] ∨
      ∃ response, responsesTo conn (watched.net.core.events (command.label conn beyond env)) =
        [response] ∧ command.place.bind (script[·]?) = some response.type := by
    rw [← typed]
    cases Observed.told_here type with
    | silent nothing => exact .inl nothing
    | answered one same => exact .inr ⟨_, one, same⟩
  refine ⟨orderly.answer reply, ?_⟩
  by_cases offers : ∃ req receiver,
    watched.net.core.asks (command.label conn beyond env) = some (.offer req receiver)
  · obtain ⟨req, receiver, asked⟩ := offers
    have place : command.place = some 1 := by
      have code := (Command.decoded asked).1
      cases command with
      | offer => rfl
      | _ => cases code
    obtain ⟨one, -⟩ := orderly.turn place
    have told : responsesTo conn (watched.net.core.events (command.label conn beyond env)) =
        [.fileOfferResp watched.net.core.server.offerReply] := by
      obtain ⟨self, result, -, effect, emitted, -⟩ := Command.effect asked
      rw [emitted]
      cases effect with
      | offered => simp
    rw [told, List.length_append, ← one]
    unfold Command.label at asked ⊢
    rw [Observed.madeBy_offer asked]
    exact settled.offered (le_of_eq one.symm) _
  · push Not at offers
    have noted := settled.noted fun req receiver asked => absurd asked (offers req receiver)
    obtain nothing | ⟨response, one, same⟩ := reply
    · rwa [nothing, List.append_nil]
    · rw [one, List.length_append]
      refine noted.answered ?_
      cases place : command.place with
      | none =>
        rw [place] at same
        cases same
      | some n =>
        rw [← (orderly.turn place).1]
        rintro rfl
        cases command <;> cases place

theorem note (conforming : watched.Conforming)
    (takes : ∀ conn, Takes watched.net label outbox conn)
    (once : watched.Once label) :
    (watched.note label { watched.net.serve label with outbox }).Conforming where
  routing := Observed.routing_step conforming.routing
  numbered := conforming.numbered.step label
  unused later := by
    have before := (Observed.next_conn_le _ _).trans later
    obtain ⟨none, unsent, -⟩ := conforming.unused before
    obtain ⟨nothing, unmade⟩ := conforming.unused_step label before
    refine ⟨none, ?_, unmade⟩
    change watched.sent _ ++ responsesTo _ _ = []
    rw [unsent, nothing]
    rfl
  silent {conn} none := by
    have empty := conforming.silent none
    cases takes conn with
    | elsewhere kept => exact kept.trans empty
    | command first => cases first.symm.trans empty
    | stranger kept => exact kept.trans empty
  orderly {conn program upload} running task := by
    change Orderly (watched.sent conn ++ responsesTo conn (watched.net.core.events label))
      (watched.net.inbox conn ++ responsesTo conn (watched.net.core.events label)) (outbox conn)
      program ∧ Settled _ _ conn (watched.sent conn ++ responsesTo conn _).length
    cases takes conn with
    | elsewhere kept unheard =>
      rw [kept]
      exact conforming.elsewhere_step running task unheard once
    | command first heard =>
      subst heard
      exact conforming.command_step running task first
    | stranger kept strange => cases strange.symm.trans running

theorem advance (conforming : watched.Conforming) {next : Program × List Command}
    {unread : List Response} (below : conn < watched.net.core.server.next_conn)
    (orderly : ∀ upload, next.1.task = .send upload →
      Orderly (watched.sent conn) unread (watched.net.outbox conn ++ next.2) next.1 ∧
        Settled watched.net.maker watched.decided conn (watched.sent conn).length) :
    Conforming { watched with net := watched.net.advance conn next unread } where
  routing := conforming.routing
  numbered := conforming.numbered
  unused {other} later := by
    have ne : other ≠ conn := Nat.ne_of_gt (Nat.lt_of_lt_of_le below later)
    obtain ⟨none, rest⟩ := conforming.unused later
    exact ⟨(Function.update_of_ne ne ..).trans none, rest⟩
  silent {other} none := by
    by_cases same : other = conn
    · subst same
      simp [Network.advance] at none
    · simp only [Network.advance, Function.update_of_ne same] at none ⊢
      exact conforming.silent none
  orderly {other program upload} running task := by
    by_cases same : other = conn
    · subst same
      simp only [Network.advance, Function.update_self] at running ⊢
      cases running
      exact orderly upload task
    · simp only [Network.advance, Function.update_of_ne same] at running ⊢
      exact conforming.orderly running task

theorem quiet (conforming : watched.Conforming)
    (unheard : ∀ conn type payload env, label ≠ .receive conn type payload env) :
    (watched.note label (watched.net.serve label)).Conforming := by
  refine conforming.note (fun conn => .elsewhere rfl (unheard conn)) fun id decides _ _ _ => ?_
  obtain ⟨req, session, asked⟩ := Observed.decides_asks decides
  obtain ⟨conn, -, -, ⟨-, payload, env, label, -⟩, -⟩ := Observed.step_effect asked
  exact absurd label (unheard conn _ payload env)

theorem goesOn (conforming : watched.Conforming) {program : Program}
    {next : Program × List Command} {unread : List Response}
    (running : watched.net.programs conn = some program) (task : next.1.task = program.task)
    (orderly : ∀ upload, program.task = .send upload →
      Orderly (watched.sent conn) (watched.net.inbox conn) (watched.net.outbox conn) program →
      Orderly (watched.sent conn) unread (watched.net.outbox conn ++ next.2) next.1) :
    Conforming { watched with net := watched.net.advance conn next unread } := by
  refine conforming.advance ?_ fun upload sends => ?_
  · by_contra late
    cases (conforming.unused (Nat.le_of_not_lt late)).1.symm.trans running
  · obtain ⟨order, settled⟩ := conforming.orderly running (task.symm.trans sends)
    exact ⟨orderly upload (task.symm.trans sends) order, settled⟩

theorem connect (conforming : watched.Conforming) (task : Task) (username password : Bytes) :
    (watched.note .connect (watched.net.step (.connect task username password))).Conforming := by
  have quiet : (watched.note .connect (watched.net.serve .connect)).Conforming :=
    conforming.quiet (by simp)
  obtain ⟨none, unsent, unmade⟩ := conforming.unused (Nat.le_refl _)
  refine quiet.advance (Nat.lt_succ_self _) fun upload sends => ?_
  have sent : (watched.note .connect (watched.net.serve .connect)).sent
      watched.net.core.server.next_conn = [] := by
    change watched.sent _ ++ responsesTo _ [] = []
    rw [unsent]
    rfl
  have outbox : (watched.note .connect (watched.net.serve .connect)).net.outbox
      watched.net.core.server.next_conn = [] := conforming.silent none
  rw [sent, outbox]
  exact ⟨.connected task username password, fun _ => unmade, fun made => absurd made (unmade _), nofun⟩

theorem silent_step (conforming : watched.Conforming) {move : Move}
    (idle : watched.net.label? move = none) :
    Conforming { watched with net := watched.net.step move } := by
  cases move with
  | read conn =>
    unfold Network.step
    dsimp only
    split
    · next program response unread running received =>
      split
      · next waits =>
        refine conforming.goesOn running (Program.read_task waits) fun upload task orderly => ?_
        rw [received] at orderly
        exact orderly.read task waits
      · exact conforming
    · exact conforming
  | write conn =>
    unfold Network.step
    dsimp only
    split
    · next program running =>
      obtain ⟨phase, goes, -⟩ := program.write_goto
      exact conforming.goesOn running (by rw [goes]; rfl) fun _ task orderly => orderly.write task
    · exact conforming
  | crash conn =>
    unfold Network.step
    dsimp only
    split
    · next program running =>
      exact conforming.goesOn running rfl fun _ _ orderly => orderly.crash false
    · exact conforming
  | handle conn beyond env =>
    cases first : watched.net.outbox conn with
    | nil =>
      have stays : watched.net.step (.handle conn beyond env) = watched.net := by
        simp only [Network.step, first]
      rw [stays]
      exact conforming
    | cons command more => simp [Network.label?, first] at idle
  | _ => cases idle

theorem handle (conforming : watched.Conforming) {conn : ConnId} {beyond : Nat → UInt8} {env : Env}
    (taken : watched.net.label? (.handle conn beyond env) = some label)
    (once : watched.Once label) :
    (watched.note label (watched.net.step (.handle conn beyond env))).Conforming := by
  cases first : watched.net.outbox conn with
  | nil => simp [Network.label?, first] at taken
  | cons command more =>
    obtain rfl : command.label conn beyond env = label := by
      simpa [Network.label?, first] using taken
    have served : watched.net.step (.handle conn beyond env) =
        { watched.net.serve (command.label conn beyond env) with
          outbox := Function.update watched.net.outbox conn more } := by
      simp only [Network.step, first]
    rw [served]
    refine conforming.note (fun other => ?_) once
    by_cases same : other = conn
    · subst same
      exact .command (by rw [Function.update_self, first]) rfl
    · exact .elsewhere (Function.update_of_ne same ..) (Command.elsewhere same)

theorem stranger (conforming : watched.Conforming) (strange : watched.strange label = true)
    (once : watched.Once label) :
    (watched.note label (watched.net.serve label)).Conforming := by
  refine conforming.note (fun conn => ?_) once
  cases label with
  | receive peer type payload env =>
    by_cases same : conn = peer
    · subst same
      exact .stranger rfl (Option.isNone_iff_eq_none.mp strange)
    · refine .elsewhere rfl fun _ _ _ label => ?_
      injection label with here
      exact same here.symm
  | _ => exact .elsewhere rfl (by simp)

theorem step (conforming : watched.Conforming) {act : Act} (once : watched.DecidesOnce act) :
    (watched.step act).Conforming := by
  cases taken : watched.label? act with
  | none =>
    rw [step_none taken]
    cases act with
    | stranger label =>
      have common : watched.strange label = false := by
        simpa [label?] using taken
      simp only [next, common, Bool.false_eq_true, if_false]
      exact conforming
    | client move => exact conforming.silent_step taken
  | some label =>
    rw [step_some taken]
    have alone := once label taken
    cases act with
    | stranger other =>
      obtain ⟨strange, rfl⟩ : watched.strange other = true ∧ other = label := by
        simpa [label?] using taken
      simp only [next, strange, if_true]
      exact conforming.stranger strange alone
    | client move =>
      cases move with
      | connect task username password =>
        cases taken
        exact conforming.connect task username password
      | handle conn beyond env => exact conforming.handle taken alone
      | disconnect conn reason =>
        cases taken
        exact conforming.quiet (by simp)
      | release conn =>
        cases taken
        exact conforming.quiet (by simp)
      | _ => cases taken

theorem fresh (fresh : watched.Fresh) : watched.Conforming := by
  obtain ⟨⟨boot, net⟩, same⟩ := fresh
  have programs : watched.net.programs = fun _ => none := congrArg Network.programs net
  have outbox : watched.net.outbox = fun _ => [] := congrArg Network.outbox net
  have maker : watched.net.maker = fun _ => none := congrArg Network.maker net
  have sent : watched.sent = fun _ => [] := congrArg Watched.sent same
  refine ⟨Observed.routing_booted boot, fun conn self alive => ?_, fun _ => ?_, fun _ => ?_,
    fun running => ?_⟩
  · rw [boot.fresh.2.2.2.1 conn] at alive
    cases alive
  · rw [programs, sent, maker]
    exact ⟨rfl, rfl, nofun⟩
  · rw [outbox]
  · rw [programs] at running
    cases running

theorem conforms (conforming : watched.Conforming) : watched.Conforms := by
  intro conn program upload running task
  obtain ⟨orderly, -⟩ := conforming.orderly running task
  refine ⟨orderly.order, fun waits response head => ?_⟩
  obtain ⟨n, heard, awaits⟩ : ∃ n, program.phase.heard = some n ∧
      program.phase.awaits = script[n]? := by
    have notRecv := orderly.sends.1
    unfold Program.waits at waits
    cases phase : program.phase with
    | login => exact ⟨0, rfl, rfl⟩
    | offer => exact ⟨1, rfl, rfl⟩
    | accept => exact ⟨2, rfl, rfl⟩
    | result => exact ⟨3, rfl, rfl⟩
    | recv => exact absurd phase notRecv
    | _ => simp [phase] at waits
  obtain ⟨read, whole, length⟩ := orderly.unread
  obtain ⟨unread, inbox⟩ := List.head?_eq_some_iff.mp head
  obtain ⟨rest, order⟩ := orderly.order
  rw [awaits, ← order, whole, inbox, ← length n heard]
  simp

end Conforming

end Watched

open Watched

/-- Whatever strangers do, as long as the transfer of a `do_send` is decided about only once, it
is sent the script and never reads a response of another type. -/
theorem do_send_conforms {start : Watched} {acts : List Act} (fresh : start.Fresh)
    (along : Along step DecidesOnce start acts) : (run step start acts).Conforms :=
  (along.invariant (Conforming.fresh fresh) fun _ _ conforming once => conforming.step once).conforms

/-- Two bytes from alice to bob, whose decisions are a stranger's, up to the FILE_DONE. -/
def errandWith (decisions : List Label) : List Act :=
  let offer : List Move :=
    [.connect (.send ⟨ascii "bob", ascii "a", 2, [1, 2]⟩) (ascii "alice") [120],
      Network.take 0 (Sample.env 0 1), .read 0, Network.take 0 (Sample.env 0 0), .read 0]
  let upload : List Move :=
    [.read 0, .write 0, .write 0, .write 0, Network.take 0 (Sample.env 0 0),
      Network.take 0 (Sample.env 0 0)]
  offer.map .client ++ (.connect :: Sample.login 1 "bob" 2 :: decisions).map .stranger ++
    upload.map .client

theorem do_send_conforms_sample :
    (run step { net := { core := Sample.start } } (errandWith [Sample.accept 1 1 5])).Conforms :=
  do_send_conforms ⟨⟨Sample.booted, rfl⟩, rfl⟩ (by decide +kernel)

/-- The receiver accepts twice; the second FILE_ACCEPT_RESP, which `do_send` reads where the
FILE_RESULT should be, ends it. -/
theorem do_send_acceptedTwice :
    ∃ start acts, Watched.Fresh start ∧ ¬ (run step start acts).Conforms ∧
      ∃ program response, (run step start acts).net.programs 0 = some program ∧
        ((run step start acts).net.inbox 0).head? = some response ∧
        program.read response = (program.goto (.ended false), []) := by
  refine ⟨{ net := { core := Sample.start } },
    errandWith [Sample.accept 1 1 5, Sample.accept 1 1 6], ⟨⟨Sample.booted, rfl⟩, rfl⟩, ?_⟩
  generalize made : run step { net := { core := Sample.start } }
    (errandWith [Sample.accept 1 1 5, Sample.accept 1 1 6]) = watched
  have reads : (watched.net.programs 0).any fun program => program.task.sends && program.waits &&
      program.phase.awaits = some .FILE_RESULT := by
    rw [← made]
    decide +kernel
  have next : (watched.net.inbox 0).head?.map Response.type = some .FILE_ACCEPT_RESP := by
    rw [← made]
    decide +kernel
  obtain ⟨program, running, reads⟩ := (Option.any_eq_true _ _).mp reads
  simp only [Bool.and_eq_true, decide_eq_true_eq] at reads
  obtain ⟨⟨sends, waits⟩, awaits⟩ := reads
  obtain ⟨response, head, typed⟩ := Option.map_eq_some_iff.mp next
  have other : program.phase.awaits ≠ some response.type := by
    rw [awaits, typed]
    decide
  refine ⟨fun conforms => ?_, program, response, running, head,
    Program.read_unexpected waits other⟩
  cases task : program.task with
  | send upload => exact other ((conforms 0 program upload running task).2 waits response head)
  | recv => simp [task, Task.sends] at sends

end FileShareX.Client
