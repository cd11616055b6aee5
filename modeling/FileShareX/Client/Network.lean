import FileShareX.Client.FileTransfer
import FileShareX.Net.PartFile
import FileShareX.Net.Routing

/-!
# Clients and server together

Any number of transfer clients, each on its own connection, and one server.
What is written waits in order until the other side takes it; the server takes
the next command of any connection, so every interleaving is a run.
-/

namespace FileShareX.Client

open Wire Posix Protocol Storage Transfer Net Machine

structure Network where
  core : Observed
  programs : ConnId → Option Program := fun _ => none
  /-- Written by the program, not handled yet. -/
  outbox : ConnId → List Command := fun _ => []
  /-- Sent by the server, not read yet. -/
  inbox : ConnId → List Response := fun _ => []
  /-- The connection whose offer has made a transfer. -/
  maker : UInt64 → Option ConnId := fun _ => none
  /-- The transfers for which a FILE_ACCEPT_REQ has passed its checks. -/
  accepted : List UInt64 := []

inductive Move where
  | connect (task : Task) (username password : Bytes)
  | read (conn : ConnId)
  | write (conn : ConnId)
  | crash (conn : ConnId)
  | handle (conn : ConnId) (beyond : Nat → UInt8) (env : Env)
  | disconnect (conn : ConnId) (reason : Exit)
  | release (conn : ConnId)

def deliver (events : List Event) (inbox : ConnId → List Response) (conn : ConnId) : List Response :=
  inbox conn ++ events.filterMap fun
    | .sent peer response => if peer = conn then some response else none
    | _ => none

def Command.label (command : Command) (conn : ConnId) (beyond : Nat → UInt8) (env : Env) : Label :=
  .receive conn command.frame.1 ⟨command.frame.2, beyond⟩ env

namespace Network

def serve (net : Network) (label : Label) : Network :=
  { net with
    core := net.core.step label
    inbox := deliver (net.core.events label) net.inbox
    maker := net.core.madeBy label net.maker
    accepted := match net.core.asks label with
      | some (.accept req _) => req.transfer_id :: net.accepted
      | _ => net.accepted }

/-- One step of a program: what it becomes, what it has written, and what is
left for it to read. -/
def advance (net : Network) (conn : ConnId) (next : Program × List Command)
    (unread : List Response) : Network :=
  { net with
    programs := Function.update net.programs conn (some next.1)
    outbox := Function.update net.outbox conn (net.outbox conn ++ next.2)
    inbox := Function.update net.inbox conn unread }

def step (net : Network) : Move → Network
  | .connect task username password =>
    (net.serve .connect).advance net.core.server.next_conn
      (⟨task, username, password, .login⟩, [.login username password]) []
  | .read conn =>
    match net.programs conn, net.inbox conn with
    | some program, response :: unread =>
      if program.waits then net.advance conn (program.read response) unread else net
    | _, _ => net
  | .write conn =>
    match net.programs conn with
    | some program => net.advance conn program.write (net.inbox conn)
    | none => net
  | .crash conn =>
    match net.programs conn with
    | some program => net.advance conn (program.goto (.ended false), []) (net.inbox conn)
    | none => net
  | .handle conn beyond env =>
    match net.outbox conn with
    | [] => net
    | command :: rest =>
      { net.serve (command.label conn beyond env) with
        outbox := Function.update net.outbox conn rest }
  | .disconnect conn reason => net.serve (.disconnect conn reason)
  | .release conn => net.serve (.release conn)

def label? (net : Network) : Move → Option Label
  | .connect .. => some .connect
  | .handle conn beyond env => (net.outbox conn).head?.map fun command => command.label conn beyond env
  | .disconnect conn reason => some (.disconnect conn reason)
  | .release conn => some (.release conn)
  | _ => none

def Fresh (net : Network) : Prop :=
  net.core.Booted ∧ net = { core := net.core }

end Network

end FileShareX.Client
