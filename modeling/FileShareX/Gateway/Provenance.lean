import FileShareX.Gateway.SharedAccounts
import FileShareX.Net.Provenance

/-!
# Who stands behind a transfer

Over the core's processes and the gateway's resets: behind every session there is a login
with the password its account had then, and behind every transfer, its acceptance, its
chunks and its end there are requests on such sessions.
-/

namespace FileShareX.Gateway

open Wire Posix Protocol Auth Net Storage Transfer Machine

namespace Deployment

variable {crypto : Crypto} {state start : Deployment} {occurrences : List Occurrence}
  {conn : ConnId} {user : TcpSession}

inductive CoreStep (crypto : Crypto) (state after : Deployment) : Occurrence → Prop
  | served {label salt} (up : state.core.up = true)
      (stepped : after.core.process = state.core.process.step (label.using crypto salt)) :
      CoreStep crypto state after (.core (.serve label) salt)
  | kept {occurrence} (db : Db) (up : after.core.up = state.core.up)
      (process : after.core.process =
        { state.core.process with server := { state.core.process.server with db } }) :
      CoreStep crypto state after occurrence
  | stopped {occurrence} (down : after.core.up = false) : CoreStep crypto state after occurrence
  | started {occurrence} (booted : after.core.process.Booted) : CoreStep crypto state after occurrence

theorem step_core (state : Deployment) (happening : Happening) (salt : Option (Vector UInt8 16)) :
    (state.step crypto (.core happening salt)).core =
      state.core.step (happening.using crypto salt) := by
  unfold step
  dsimp only
  split <;> rfl

theorem step_coreStep (state : Deployment) (occurrence : Occurrence) :
    CoreStep crypto state (state.step crypto occurrence) occurrence := by
  cases occurrence with
  | core happening salt =>
    have core : (state.step crypto (.core happening salt)).core =
        state.core.step (happening.using crypto salt) := state.step_core happening salt
    rcases Installation.step_cases state.core (happening.using crypto salt) with same |
      ⟨label, served, up, stepped⟩ | ⟨flushed, stepped⟩ | ⟨io, server, -, started, stepped⟩
    · exact .kept state.db (by rw [core, same]) (by rw [core, same]; rfl)
    · cases happening with
      | serve label =>
        cases served
        exact .served up (by rw [core, stepped])
      | _ => cases served
    · exact .stopped (by rw [core, stepped])
    · exact .started (by rw [core, stepped]; exact ⟨rfl, _, _, _, _, _, started⟩)
  | forgot email env => exact .kept _ rfl rfl
  | reset token new_password env =>
    unfold step
    dsimp only
    split <;> exact .kept _ rfl rfl

/-- A fact about a process that none begins with, and that the accounts play no part in. -/
structure Acquired (Fact : Observed → Prop) : Prop where
  booted : ∀ {state}, state.Booted → ¬Fact state
  blind : ∀ {state : Observed} {db},
    Fact { state with server := { state.server with db } } → Fact state

/-- A fact about the process that is running is due to a message it has served, and has held
ever since. -/
theorem arose {Fact : Observed → Prop} (acquired : Acquired Fact) (fresh : start.core.Fresh)
    (up : (run (step crypto) start occurrences).core.up = true)
    (now : Fact (run (step crypto) start occurrences).core.process) :
    ∃ earlier label salt later, occurrences = earlier ++ .core (.serve label) salt :: later ∧
      (run (step crypto) start earlier).core.up = true ∧
      ¬Fact (run (step crypto) start earlier).core.process ∧
      Fact ((run (step crypto) start earlier).core.process.step (label.using crypto salt)) ∧
      ∀ mid, mid <+: later →
        (run (step crypto) start (earlier ++ .core (.serve label) salt :: mid)).core.up = true ∧
          Fact (run (step crypto) start (earlier ++ .core (.serve label) salt :: mid)).core.process := by
  obtain ⟨earlier, occurrence, later, rfl, was, since⟩ :=
    since (fun state : Deployment => state.core.up = true ∧ Fact state.core.process)
      (fun initial => acquired.booted fresh.1 initial.2) ⟨up, now⟩
  have first := since [] (List.nil_prefix ..)
  rw [run_concat] at first
  have stepped : CoreStep crypto (run (step crypto) start earlier) _ occurrence :=
    step_coreStep _ occurrence
  cases stepped with
  | @served label salt before stepped =>
    refine ⟨earlier, label, salt, later, rfl, before, fun old => was ⟨before, old⟩, ?_, since⟩
    rw [← stepped]
    exact first.2
  | kept _ same process =>
    rw [same, process] at first
    exact absurd ⟨first.1, acquired.blind first.2⟩ was
  | stopped down => exact absurd (first.1.symm.trans down) (by decide)
  | started booted => exact absurd first.2 (acquired.booted booted)

/-- The connection is there with this authentication, in a process that is running. -/
def Online (state : Deployment) (conn : ConnId) (user : TcpSession) : Prop :=
  state.core.up = true ∧ state.core.process.server.live conn = some user

/-- The connection has logged in with the password its account had at the time, and has been
online ever since. -/
inductive LoggedIn (crypto : Crypto) (start : Deployment) (conn : ConnId) (user : TcpSession) :
    List Occurrence → Prop
  | login {earlier payload env salt req row later}
      (up : (run (step crypto) start earlier).core.up = true)
      (logsIn : (run (step crypto) start earlier).core.process.server.LogsIn user conn payload
        { env with auth := env.auth.using crypto salt } req row)
      (opens : ∀ secret, (run (step crypto) start earlier).secrets row.id = some secret →
        secret.Opens crypto req.password)
      (since : ∀ mid, mid <+: later → (run (step crypto) start
        (earlier ++ .core (.serve (.receive conn MsgType.LOGIN_REQ.code payload env)) salt ::
          mid)).Online conn user) :
      LoggedIn crypto start conn user
        (earlier ++ .core (.serve (.receive conn MsgType.LOGIN_REQ.code payload env)) salt :: later)

structure Sound (start : Deployment) (occurrences : List Occurrence) : Prop where
  fresh : start.core.Fresh
  wellFormed : start.db.WellFormed
  unset : start.secrets = fun _ => none
  room : start.db.next_user_id.toInt + occurrences.length < 2 ^ 63

theorem Sound.earlier {earlier later : List Occurrence} (sound : start.Sound (earlier ++ later)) :
    start.Sound earlier := by
  refine ⟨sound.fresh, sound.wellFormed, sound.unset, ?_⟩
  have room := sound.room
  rw [List.length_append] at room
  omega

theorem Sound.kept (sound : start.Sound occurrences) :
    (run (step crypto) start occurrences).Kept crypto := by
  refine kept_run ⟨Installation.accounted_fresh sound.fresh sound.wellFormed, fun row _ secret known => ?_⟩
    sound.room
  rw [sound.unset] at known
  cases known

theorem Kept.opens (kept : state.Kept crypto) {payload : Vec} {env : Env}
    {salt : Option (Vector UInt8 16)} {req : LoginReq} {row : UserRow} {secret : Secret}
    (logsIn : state.core.process.server.LogsIn user conn payload
      { env with auth := env.auth.using crypto salt } req row)
    (known : state.secrets row.id = some secret) : secret.Opens crypto req.password := by
  obtain ⟨stored, positive, inRange⟩ := kept.isSealed row logsIn.account secret known
  have fits : req.password.length < 2 ^ 31 := by
    have short := ((LoginReq.deserialize_eq_ok payload req).mp logsIn.parsed).1.2
    omega
  have verified : verify_password_pbkdf2 crypto req.password row.pass_hash = .ok true :=
    logsIn.verified
  rw [stored, secret.verify_stored positive inRange fits] at verified
  exact of_decide_eq_true (Except.ok.inj verified)

theorem online_loggedIn (sound : start.Sound occurrences)
    (online : (run (step crypto) start occurrences).Online conn user)
    (authenticated : user.is_authenticated = true) :
    LoggedIn crypto start conn user occurrences := by
  have acquired : Acquired fun state : Observed => state.server.live conn = some user := by
    refine ⟨fun booted alive => ?_, fun same => same⟩
    rw [booted.fresh.2.2.2.1] at alive
    cases alive
  obtain ⟨earlier, label, salt, later, rfl, up, was, now, since⟩ :=
    arose acquired sound.fresh online.1 online.2
  obtain ⟨payload, env, req, row, sent, logsIn⟩ := Server.step_logsIn was now authenticated
  cases label with
  | receive conn' type payload' env' =>
    cases sent
    have kept : (run (step crypto) start earlier).Kept crypto := sound.earlier.kept
    exact .login up logsIn (fun secret known => kept.opens logsIn known) since
  | _ => cases sent

/-- Every authenticated connection has logged in, and so has whoever makes a request. -/
structure Authenticates (crypto : Crypto) (start : Deployment) (occurrences : List Occurrence) :
    Prop where
  online : ∀ {conn user}, (run (step crypto) start occurrences).Online conn user →
    user.is_authenticated = true → LoggedIn crypto start conn user occurrences
  requests : ∀ {label request}, (run (step crypto) start occurrences).core.up = true →
    (run (step crypto) start occurrences).core.process.asks label = some request →
    ∃ conn user, (run (step crypto) start occurrences).core.process.AskedBy label conn user request ∧
      LoggedIn crypto start conn user occurrences

theorem sessions_authenticated (sound : start.Sound occurrences) :
    Authenticates crypto start occurrences := by
  refine ⟨online_loggedIn sound, fun up asked => ?_⟩
  obtain ⟨conn, user, -, by_, -, -⟩ := Observed.asks_askedBy asked
  exact ⟨conn, user, by_, online_loggedIn sound ⟨up, by_.live⟩ by_.authenticated⟩

/-- Carol logs in after her reset and sends herself a file. -/
def carolSends : List Occurrence :=
  carol ++ [Sample.receive 0 .LOGIN_REQ (LoginReq.canonical ⟨ascii "carol", ascii "geheim"⟩)
      (Sample.env 0 1), Sample.offer 0 "carol" "a" 2, Sample.accept 0 1 5,
    Sample.chunk 0 1 0 [1, 2], Sample.done 0 1 1 2].map fun label => .core (.serve label) none

def installed : Deployment := { core := Installation.installed }

theorem sessions_authenticated_carol : Authenticates summing installed carolSends :=
  sessions_authenticated ⟨⟨Sample.booted, rfl⟩, ⟨by decide, by decide, by decide, by decide⟩, rfl, by decide⟩

/-- The request has been made to the process that is running, on a connection logged in as
its party. -/
inductive Requested (crypto : Crypto) (start : Deployment) (conn : ConnId) (user : TcpSession)
    (request : Net.Request) : List Occurrence → Prop
  | asked {earlier label salt later}
      (asked : (run (step crypto) start earlier).core.process.AskedBy (label.using crypto salt) conn
        user request)
      (loggedIn : LoggedIn crypto start conn user earlier)
      (running : ∀ mid, mid <+: later →
        (run (step crypto) start (earlier ++ .core (.serve label) salt :: mid)).core.up = true) :
      Requested crypto start conn user request (earlier ++ .core (.serve label) salt :: later)

def Backed (crypto : Crypto) (start : Deployment) (occurrences : List Occurrence) (id : UInt64)
    (session : TransferSession) (kind : Net.Request → Prop) : Prop :=
  ∃ conn user request, Requested crypto start conn user request occurrences ∧
    request.Concerns id session user ∧ kind request

/-- What the record of a transfer and the chunks taken for it go back to. -/
structure Authorised (crypto : Crypto) (start : Deployment) (occurrences : List Occurrence)
    (id : UInt64) (session : TransferSession) (chunks : List (UInt32 × Bytes)) : Prop where
  offered : Backed crypto start occurrences id session (·.offers)
  accepted : session.state ∈ [.ACCEPTED, .RECEIVING, .COMPLETED] →
    Backed crypto start occurrences id session (·.accepts)
  taken : ∀ entry ∈ chunks, Backed crypto start occurrences id session (·.brings = some entry)
  completed : session.state = .COMPLETED → Backed crypto start occurrences id session (·.ends)

section Facts

variable {id : UInt64} {session : TransferSession} {Fact : Observed → Prop}

theorem backed {kind : Net.Request → Prop} (acquired : Acquired Fact)
    (due : ∀ {state : Observed} {label}, ¬Fact state → Fact (state.step label) →
      state.Due label id session kind)
    (sound : start.Sound occurrences) (up : (run (step crypto) start occurrences).core.up = true)
    (now : Fact (run (step crypto) start occurrences).core.process) :
    Backed crypto start occurrences id session kind := by
  obtain ⟨earlier, label, salt, later, rfl, before, was, after, since⟩ :=
    arose acquired sound.fresh up now
  obtain ⟨conn, user, request, by_, concerns, holds⟩ := due was after
  have loggedIn : LoggedIn crypto start conn user earlier :=
    online_loggedIn sound.earlier ⟨before, by_.live⟩ by_.authenticated
  exact ⟨conn, user, request, .asked by_ loggedIn fun mid inside => (since mid inside).1, concerns,
    holds⟩

theorem Acquired.of_found
    (found : ∀ {state}, Fact state → ∃ record, state.server.transfers.transfers id = some record)
    (blind : ∀ {state : Observed} {db},
      Fact { state with server := { state.server with db } } → Fact state) : Acquired Fact := by
  refine ⟨fun booted fact => ?_, blind⟩
  obtain ⟨record, present⟩ := found fact
  rw [booted.fresh.2.1] at present
  cases present

theorem needsStream_run (fresh : start.core.Fresh)
    (up : (run (step crypto) start occurrences).core.up = true) :
    (run (step crypto) start occurrences).core.process.NeedsStream := by
  have acquired : Acquired fun state => ¬state.NeedsStream := by
    refine ⟨fun booted lacks => lacks fun id session found => ?_, fun lacks needs => lacks needs⟩
    rw [booted.fresh.2.1] at found
    cases found
  by_contra lacks
  obtain ⟨earlier, label, salt, later, -, -, had, lost, -⟩ := arose acquired fresh up lacks
  exact lost (Observed.needsStream_step (not_not.mp had))

/-- Every transfer of the process that is running was offered on a session of its sender and
accepted on one of its receiver; its chunks and its end come from sessions of its sender. -/
theorem transfers_authorised (sound : start.Sound occurrences)
    (up : (run (step crypto) start occurrences).core.up = true)
    (found : (run (step crypto) start occurrences).core.process.server.transfers.transfers id =
      some session) :
    Authorised crypto start occurrences id session
      ((run (step crypto) start occurrences).core.process.ledger.chunks id) := by
  have offered : (run (step crypto) start occurrences).core.process.Offered id session :=
    ⟨session, found, .refl session⟩
  refine ⟨?_, fun further => ?_, fun entry taken => ?_, fun completed => ?_⟩
  · have acquired : Acquired (Observed.Offered id session) :=
      .of_found (fun fact => fact.imp fun _ fact => fact.1) fun fact => fact
    exact backed acquired Observed.offered_due sound up offered
  · have acquired : Acquired (Observed.Accepted id session) :=
      .of_found (fun fact => fact.imp fun _ fact => fact.1) fun fact => fact
    have opened := needsStream_run sound.fresh up id session found further
    exact backed acquired Observed.accepted_due sound up ⟨session, found, .refl session, opened⟩
  · have acquired : Acquired (Observed.Taken id session entry) :=
      .of_found (fun fact => fact.1.imp fun _ fact => fact.1) fun fact => fact
    exact backed acquired Observed.taken_due sound up ⟨offered, taken⟩
  · have acquired : Acquired (Observed.Completed id session) :=
      .of_found (fun fact => fact.imp fun _ fact => fact.1) fun fact => fact
    exact backed acquired Observed.completed_due sound up ⟨session, found, .refl session, completed⟩

end Facts

theorem transfers_authorised_carol : ∃ session,
    (run (step summing) installed carolSends).core.process.server.transfers.transfers 1 = some session ∧
      Authorised summing installed carolSends 1 session
        ((run (step summing) installed carolSends).core.process.ledger.chunks 1) := by
  have completed : (run (step summing) installed carolSends).core.process.stateOf 1 = some .COMPLETED := by
    decide +kernel
  obtain ⟨session, found, -⟩ := Option.map_eq_some_iff.mp completed
  exact ⟨session, found, transfers_authorised
    ⟨⟨Sample.booted, rfl⟩, ⟨by decide, by decide, by decide, by decide⟩, rfl, by decide⟩ (by decide +kernel) found⟩

end Deployment

end FileShareX.Gateway
