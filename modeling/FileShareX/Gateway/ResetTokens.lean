import FileShareX.Foundation.Transition
import FileShareX.Auth.StoredPassword

/-!
# Reset tokens over sequences of requests

Each service function touches the tables in one way or not at all.  A token that was
used for a change of password stays spent, provided its marking reaches the database
whenever the change does.
-/

namespace FileShareX.Gateway

open Wire Auth Machine

/-- The tables after a committed `UPDATE users`. -/
def ResetDb.setPassword (db : ResetDb) (user_id : Int64) (stored : Bytes) : ResetDb :=
  { db with
    users := db.users.map fun user =>
      if user.id == user_id then { user with pass_hash := stored } else user
    journal := db.journal ++ [.setPassword user_id stored] }

/-- The tables after a committed `UPDATE password_reset_tokens`. -/
def ResetDb.markUsed (db : ResetDb) (token : String) : ResetDb :=
  { db with
    password_reset_tokens := db.password_reset_tokens.map fun row =>
      if row.token == token then { row with used := true } else row
    journal := db.journal ++ [.markUsed token] }

/-- The tables after a committed `INSERT INTO password_reset_tokens`. -/
def ResetDb.issue (db : ResetDb) (row : ResetToken) : ResetDb :=
  { db with
    password_reset_tokens := db.password_reset_tokens ++ [row]
    journal := db.journal ++ [.issue row.token row.user_id] }

def Calls.writes (calls : Calls) : Bool :=
  calls.connect && calls.execute && calls.commit != .refused

/-- The function that made these calls returned without an exception on the way. -/
def Calls.returns (calls : Calls) : Bool :=
  calls.connect && calls.execute && calls.commit == .done && calls.close

section Functions

variable {crypto : Crypto} {calls : Calls} {db : ResetDb} {now : Int} {token email : String}

/-- A body that only commits leaves its tables exactly when its calls say so. -/
theorem withConnection_commit {α : Type} {fallback value : α} {after : ResetDb}
    (refused : Bool) :
    (withConnection calls db fallback
      (if !calls.execute || refused then (db, none) else calls.commit.apply db after value)).1
        = if calls.writes && !refused then after else db := by
  rcases calls with ⟨connect, select, execute, commit, rollback, close⟩
  cases connect <;> cases execute <;> cases refused <;> cases commit <;> rfl

theorem withConnection_body {α : Type} {fallback value : α} {body : ResetDb × Option α}
    (differs : value ≠ fallback) (returned : (withConnection calls db fallback body).2 = some value) :
    body.2 = some value := by
  unfold withConnection at returned
  split at returned
  · exact absurd (Option.some.inj returned).symm differs
  · dsimp only at returned
    split at returned
    · cases answer : body.2 with
      | none =>
        rw [answer] at returned
        dsimp only at returned
        split at returned
        · exact absurd (Option.some.inj returned).symm differs
        · cases returned
      | some other =>
        rw [answer] at returned
        exact returned
    · cases returned

theorem withConnection_returned {α : Type} {fallback value : α} {after : ResetDb}
    (refused : Bool) (differs : value ≠ fallback) :
    (withConnection calls db fallback
      (if !calls.execute || refused then (db, none)
        else calls.commit.apply db after value)).2 = some value ↔
      (calls.returns && !refused) = true := by
  rcases calls with ⟨connect, select, execute, commit, rollback, close⟩
  cases connect <;> cases execute <;> cases refused <;> cases commit <;> cases rollback <;>
    cases close <;> simp [withConnection, Commit.apply, Calls.returns, differs.symm]

theorem Calls.writes_of_returns (returned : calls.returns = true) : calls.writes = true := by
  simp only [Calls.returns, Bool.and_eq_true, beq_iff_eq] at returned
  simp [Calls.writes, returned]

theorem mark_token_used_db :
    (mark_token_used calls db token).1
      = if calls.writes && adaptable token then db.markUsed token else db := by
  rw [mark_token_used, withConnection_commit, Bool.not_not]
  rfl

theorem change_user_password_spec {salt : Vector UInt8 16} {user_id : Int64}
    {new_password : String} {stored : Bytes}
    (hashed : pass_hash_stored crypto (utf8 new_password) salt = some stored) :
    (change_user_password crypto calls db salt user_id new_password).1
        = (if calls.writes then db.setPassword user_id stored else db)
      ∧ ((change_user_password crypto calls db salt user_id new_password).2 = some true ↔
        calls.returns = true) := by
  have body : change_user_password crypto calls db salt user_id new_password
      = withConnection calls db false (if !calls.execute || false then (db, none)
        else calls.commit.apply db (db.setPassword user_id stored) true) := by
    rw [change_user_password, hashed, Bool.or_false]
    rfl
  have differs : true ≠ false := by decide
  rw [body, withConnection_commit, withConnection_returned false differs, Bool.not_false,
    Bool.and_true, Bool.and_true]
  exact ⟨rfl, Iff.rfl⟩

theorem create_reset_token_db :
    (create_reset_token calls db now token email).1 = db ∨
      ∃ user ∈ db.users, (∀ row ∈ db.password_reset_tokens, row.token ≠ token) ∧
        (create_reset_token calls db now token email).1
          = db.issue ⟨user.id, token, email, now + hour, false⟩ := by
  unfold create_reset_token
  by_cases selected : (!calls.select || !adaptable email) = true
  · rw [if_pos selected]
    unfold withConnection
    split <;> exact .inl rfl
  · rw [if_neg selected]
    cases found : db.users.find? fun user => user.email == utf8 email with
    | none =>
      unfold withConnection
      split <;> exact .inl rfl
    | some user =>
      dsimp only
      rw [withConnection_commit]
      split
      · next reached =>
        refine .inr ⟨user, List.mem_of_find?_eq_some found, ?_, rfl⟩
        simp only [Bool.and_eq_true, Bool.not_eq_true', List.any_eq_false, beq_iff_eq] at reached
        exact reached.2
      · exact .inl rfl

def ResetDb.Usable (db : ResetDb) (token : String) (now : Int) (row : ResetToken) : Prop :=
  row ∈ db.password_reset_tokens ∧ row.token = token ∧ now ≤ row.expires_at ∧ row.used = false

theorem tokenRow_spec {row : ResetToken} {user : Net.UserRow}
    (found : db.tokenRow token = some (row, user)) :
    row ∈ db.password_reset_tokens ∧ row.token = token := by
  obtain ⟨candidate, member, joined⟩ := List.exists_of_findSome?_eq_some found
  split at joined
  · next same =>
    obtain ⟨_, -, pair⟩ := Option.map_eq_some_iff.mp joined
    cases pair
    exact ⟨member, beq_iff_eq.mp same⟩
  · cases joined

theorem validate_reset_token_spec {info : UserInfo}
    (valid : validate_reset_token calls db now token = some (some info)) :
    adaptable token = true ∧ ∃ row, db.Usable token now row ∧ row.user_id = info.user_id := by
  unfold validate_reset_token at valid
  have body := withConnection_body (Option.some_ne_none info) valid
  split at body
  · cases body
  · next selected =>
    have adapted : adaptable token = true := by
      simp only [Bool.or_eq_true, Bool.not_eq_true', not_or, Bool.not_eq_false] at selected
      exact selected.2
    split at body
    · cases body
    · next row user found =>
      obtain ⟨member, same⟩ := tokenRow_spec found
      split at body
      · cases body
      · next inTime =>
        split at body
        · cases body
        · next unused =>
          cases body
          exact ⟨adapted, row,
            ⟨member, same, Int.not_lt.mp inTime, Bool.eq_false_of_not_eq_true unused⟩, rfl⟩

/-- A request gets as far as the change of password. -/
def ResetDb.attempts (db : ResetDb) (token new_password : String) (env : ResetEnv) : Bool :=
  (match validate_reset_token env.validate db env.now token with
    | some (some _) => true
    | _ => false)
  && decide (6 ≤ new_password.length) && decide ((utf8 new_password).length < 2 ^ 31)

/-- Once the new password is in the database, so is the mark on the token. -/
def ResetEnv.marksChange (env : ResetEnv) : Bool :=
  !env.change.writes || (env.change.returns && env.mark.writes)

/-- A reset changes nothing and fails, or it changes one password after a check of its
token, and then marks the token or not. -/
theorem reset_password_spec {new_password : String} {env : ResetEnv} {db' : ResetDb}
    {reply : Reply} (answered : reset_password crypto db token new_password env = (db', reply)) :
    (db' = db ∧ reply.ok = false) ∨
      db.attempts token new_password env = true ∧
        ∃ row stored, db.Usable token env.now row ∧
          (db' = (db.setPassword row.user_id stored).markUsed token ∨
            env.marksChange = false ∧ db' = db.setPassword row.user_id stored) := by
  unfold reset_password at answered
  cases valid : validate_reset_token env.validate db env.now token with
  | none =>
    rw [valid] at answered
    cases answered
    exact .inl ⟨rfl, rfl⟩
  | some user_info =>
    cases user_info with
    | none =>
      rw [valid] at answered
      cases answered
      exact .inl ⟨rfl, rfl⟩
    | some user_info =>
      rw [valid] at answered
      dsimp only at answered
      split at answered
      · cases answered
        exact .inl ⟨rfl, rfl⟩
      · next long =>
        obtain ⟨adapted, row, usable, owner⟩ := validate_reset_token_spec valid
        cases hashed : pass_hash_stored crypto (utf8 new_password) env.salt with
        | none =>
          have refused : change_user_password crypto env.change db env.salt user_info.user_id
              new_password = (db, some false) := by
            rw [change_user_password, hashed]
          rw [refused] at answered
          cases answered
          exact .inl ⟨rfl, rfl⟩
        | some stored =>
          have spec : (change_user_password crypto env.change db env.salt user_info.user_id
              new_password).1 = _ ∧ (_ ↔ _) := change_user_password_spec hashed
          have attempted : db.attempts token new_password env = true := by
            simp only [ResetDb.attempts, valid, Bool.true_and, Bool.and_eq_true, decide_eq_true_eq]
            exact ⟨Nat.not_lt.mp long, (pass_hash_stored_eq_some.mp hashed).1⟩
          cases outcome : change_user_password crypto env.change db env.salt user_info.user_id
              new_password with
          | mk db₁ success =>
            rw [outcome, ← owner] at spec
            rw [outcome] at answered
            obtain ⟨reached, returned⟩ := spec
            dsimp only at reached returned
            by_cases writes : env.change.writes = true
            · rw [if_pos writes] at reached
              refine .inr ⟨attempted, row, stored, usable, ?_⟩
              -- The new password is stored; the mark follows if the call returned `True`.
              match success with
              | none | some false =>
                cases answered
                refine .inr ⟨?_, reached⟩
                have failed : env.change.returns = false := by
                  rw [← Bool.not_eq_true, ← returned]
                  simp
                simp [ResetEnv.marksChange, writes, failed]
              | some true =>
                have after : db' = (mark_token_used env.mark db₁ token).1 := by
                  dsimp only at answered
                  split at answered <;> next marked => cases answered; rw [marked]
                rw [after, mark_token_used_db, adapted, Bool.and_true, reached]
                by_cases marks : env.mark.writes = true
                · exact .inl (if_pos marks)
                · refine .inr ⟨?_, if_neg marks⟩
                  simp [ResetEnv.marksChange, writes, marks]
            · rw [if_neg writes] at reached
              match success with
              | none | some false =>
                cases answered
                exact .inl ⟨reached, rfl⟩
              | some true => exact absurd (Calls.writes_of_returns (returned.mp rfl)) writes

theorem forgot_password_db (env : ForgotEnv) :
    (forgot_password db email env).1
      = (create_reset_token env.create db env.now env.token email).1 := by
  unfold forgot_password
  cases created : create_reset_token env.create db env.now env.token email with
  | mk after result =>
    match result with
    | none | some none => rfl
    | some (some token) =>
      dsimp only
      split <;> rfl

end Functions

/-! ### Sequences of requests -/

inductive Request where
  | forgot (email : String) (env : ForgotEnv)
  | reset (token new_password : String) (env : ResetEnv)

/-- The tables, with each change of a password under the token of its request, and the
tokens of the resets answered `ok`. -/
structure History where
  db : ResetDb
  changes : List (String × Int64) := []
  answered : List String := []

def Write.changed? : Write → Option Int64
  | .setPassword user_id _ => some user_id
  | _ => none

namespace History

def step (crypto : Crypto) (history : History) : Request → History
  | .forgot email env => { history with db := (forgot_password history.db email env).1 }
  | .reset token new_password env =>
    let (db, reply) := reset_password crypto history.db token new_password env
    let writes := db.journal.drop history.db.journal.length
    { db
      changes := history.changes ++ (writes.filterMap Write.changed?).map fun user => (token, user)
      answered := if reply.ok then history.answered ++ [token] else history.answered }

/-- If a new password reaches the database, `change_user_password` returns `True` and the
mark on the token reaches the database too. -/
def Marks (history : History) : Request → Prop
  | .forgot _ _ => True
  | .reset token new_password env =>
    history.db.attempts token new_password env = true → env.marksChange = true

instance (history : History) : (request : Request) → Decidable (history.Marks request)
  | .forgot _ _ => .isTrue trivial
  | .reset _ _ _ => inferInstanceAs (Decidable (_ → _))

def Checked (crypto : Crypto) (history : History) (request : Request) : Prop :=
  ∀ change ∈ (history.step crypto request).changes.drop history.changes.length,
    ∃ new_password env row, request = .reset change.1 new_password env ∧
      history.db.Usable change.1 env.now row ∧ row.user_id = change.2

end History

/-- No request can use the token any more. -/
def ResetDb.Unusable (db : ResetDb) (token : String) : Prop :=
  ∀ calls now info, validate_reset_token calls db now token ≠ some (some info)

def ResetDb.Spent (db : ResetDb) (token : String) : Prop :=
  (∃ row ∈ db.password_reset_tokens, row.token = token) ∧
    ∀ row ∈ db.password_reset_tokens, row.token = token → row.used = true

theorem ResetDb.Spent.unusable {db : ResetDb} {token : String} (spent : db.Spent token) :
    db.Unusable token := by
  intro calls now info valid
  obtain ⟨-, row, ⟨member, same, -, unused⟩, -⟩ := validate_reset_token_spec valid
  rw [spent.2 row member same] at unused
  cases unused

namespace ResetDb

variable {db : ResetDb} {token other : String} {row : ResetToken}

@[simp] theorem setPassword_tokens (user_id : Int64) (stored : Bytes) :
    (db.setPassword user_id stored).password_reset_tokens = db.password_reset_tokens := rfl

theorem mem_markUsed (member : row ∈ (db.markUsed token).password_reset_tokens) :
    ∃ old ∈ db.password_reset_tokens, old.token = row.token ∧ old.user_id = row.user_id ∧
      (old.used = true ∨ old.token = token → row.used = true) := by
  obtain ⟨old, present, rfl⟩ := List.mem_map.mp member
  refine ⟨old, present, ?_⟩
  split
  · exact ⟨rfl, rfl, fun _ => rfl⟩
  · next differs =>
    refine ⟨rfl, rfl, fun reason => reason.resolve_right fun same => differs ?_⟩
    exact beq_iff_eq.mpr same

theorem exists_markUsed (present : ∃ row ∈ db.password_reset_tokens, row.token = other) :
    ∃ row ∈ (db.markUsed token).password_reset_tokens, row.token = other := by
  obtain ⟨row, member, rfl⟩ := present
  refine ⟨_, List.mem_map_of_mem member, ?_⟩
  split <;> rfl

theorem Spent.markUsed (spent : db.Spent other) : (db.markUsed token).Spent other := by
  refine ⟨exists_markUsed spent.1, fun row member same => ?_⟩
  obtain ⟨old, present, tokens, -, used⟩ := mem_markUsed member
  exact used (.inl (spent.2 old present (tokens.trans same)))

theorem spent_markUsed (present : ∃ row ∈ db.password_reset_tokens, row.token = token) :
    (db.markUsed token).Spent token := by
  refine ⟨exists_markUsed present, fun row member same => ?_⟩
  obtain ⟨old, -, tokens, -, used⟩ := mem_markUsed member
  exact used (.inr (tokens.trans same))

theorem Spent.issue (spent : db.Spent other)
    (fresh : ∀ old ∈ db.password_reset_tokens, old.token ≠ row.token) :
    (db.issue row).Spent other := by
  obtain ⟨⟨old, present, same⟩, used⟩ := spent
  refine ⟨⟨old, List.mem_append_left _ present, same⟩, fun new member tokens => ?_⟩
  rcases List.mem_append.mp member with earlier | added
  · exact used new earlier tokens
  · cases List.mem_singleton.mp added
    exact absurd (same.trans tokens.symm) (fresh old present)

end ResetDb

inductive History.Effect (history : History) : Request → History → Prop
  | kept (request : Request) : history.Effect request history
  | issued {email : String} {env : ForgotEnv} {row : ResetToken}
      (fresh : ∀ other ∈ history.db.password_reset_tokens, other.token ≠ row.token) :
      history.Effect (.forgot email env) { history with db := history.db.issue row }
  | changed {token new_password : String} {env : ResetEnv} {row : ResetToken} {stored : Bytes}
      {db : ResetDb} {answered : List String}
      (attempted : history.db.attempts token new_password env = true)
      (usable : history.db.Usable token env.now row)
      (written : db = (history.db.setPassword row.user_id stored).markUsed token ∨
        env.marksChange = false ∧ db = history.db.setPassword row.user_id stored)
      (answers : answered = history.answered ∨ answered = history.answered ++ [token]) :
      history.Effect (.reset token new_password env)
        ⟨db, history.changes ++ [(token, row.user_id)], answered⟩

theorem History.step_effect (crypto : Crypto) (history : History) (request : Request) :
    history.Effect request (history.step crypto request) := by
  cases request with
  | forgot email env =>
    rw [step, forgot_password_db]
    have spec : (create_reset_token env.create history.db env.now env.token email).1 = _ ∨ _ :=
      create_reset_token_db
    obtain same | ⟨user, -, fresh, issued⟩ := spec
    · rw [same]
      exact .kept _
    · rw [issued]
      exact .issued fresh
  | reset token new_password env =>
    cases outcome : reset_password crypto history.db token new_password env with
    | mk db reply =>
      have answers : ∀ ok : Bool, (if ok then history.answered ++ [token] else history.answered)
          = history.answered ∨ (if ok then history.answered ++ [token] else history.answered)
          = history.answered ++ [token] := by
        rintro (_ | _)
        · exact .inl rfl
        · exact .inr rfl
      simp only [step, outcome]
      obtain ⟨rfl, refused⟩ | ⟨attempted, row, stored, usable, written⟩ :=
        reset_password_spec outcome
      · simp only [refused, List.drop_length, List.filterMap_nil, List.map_nil, List.append_nil,
          Bool.false_eq_true, if_false]
        exact .kept _
      · have changes : (db.journal.drop history.db.journal.length).filterMap Write.changed?
            = [row.user_id] := by
          obtain rfl | ⟨-, rfl⟩ := written <;>
            simp [ResetDb.setPassword, ResetDb.markUsed, Write.changed?]
        rw [changes]
        exact .changed attempted usable written (answers reply.ok)

namespace History

def Owned (db : ResetDb) (token : String) (user : Int64) : Prop :=
  (∃ row ∈ db.password_reset_tokens, row.token = token) ∧
    ∀ row ∈ db.password_reset_tokens, row.token = token → row.user_id = user

/-- Tokens that led to a change or to an answer `ok` are spent, and no token led to two
changes or to a change of another user than its own. -/
structure Inv (history : History) : Prop where
  spent : ∀ change ∈ history.changes, history.db.Spent change.1
  answered : ∀ token ∈ history.answered, history.db.Spent token
  once : (history.changes.map Prod.fst).Nodup
  issued : ∀ token user, .issue token user ∈ history.db.journal → Owned history.db token user
  owner : ∀ change ∈ history.changes, ∀ user, .issue change.1 user ∈ history.db.journal →
    change.2 = user

variable {crypto : Crypto} {history : History}

theorem Inv.issue (inv : history.Inv) {row : ResetToken}
    (fresh : ∀ old ∈ history.db.password_reset_tokens, old.token ≠ row.token) :
    Inv { history with db := history.db.issue row } where
  spent change member := (inv.spent change member).issue fresh
  answered token member := (inv.answered token member).issue fresh
  once := inv.once
  issued token user member := by
    rcases List.mem_append.mp member with earlier | added
    · obtain ⟨⟨old, present, same⟩, owned⟩ := inv.issued token user earlier
      refine ⟨⟨old, List.mem_append_left _ present, same⟩, fun new inTable tokens => ?_⟩
      rcases List.mem_append.mp inTable with kept | added
      · exact owned new kept tokens
      · cases List.mem_singleton.mp added
        exact absurd (same.trans tokens.symm) (fresh old present)
    · cases List.mem_singleton.mp added
      refine ⟨⟨row, by simp [ResetDb.issue], rfl⟩, fun new inTable tokens => ?_⟩
      rcases List.mem_append.mp inTable with kept | added
      · exact absurd tokens (fresh new kept)
      · cases List.mem_singleton.mp added
        rfl
  owner change member user issued := by
    rcases List.mem_append.mp issued with earlier | added
    · exact inv.owner change member user earlier
    · obtain ⟨old, present, same⟩ := (inv.spent change member).1
      obtain ⟨tokens, -⟩ := Write.issue.inj (List.mem_singleton.mp added)
      exact absurd (same.trans tokens) (fresh old present)

theorem Inv.change (inv : history.Inv) {token : String} {now : Int} {row : ResetToken}
    {stored : Bytes} {answered : List String} (usable : history.db.Usable token now row)
    (answers : answered = history.answered ∨ answered = history.answered ++ [token]) :
    Inv ⟨(history.db.setPassword row.user_id stored).markUsed token,
      history.changes ++ [(token, row.user_id)], answered⟩ := by
  obtain ⟨member, same, -, unused⟩ := usable
  have nowSpent : ((history.db.setPassword row.user_id stored).markUsed token).Spent token :=
    ResetDb.spent_markUsed ⟨row, member, same⟩
  have kept : ∀ other, history.db.Spent other →
      ((history.db.setPassword row.user_id stored).markUsed token).Spent other :=
    fun other spent => ResetDb.Spent.markUsed ⟨spent.1, spent.2⟩
  have journal : ∀ other user,
      .issue other user ∈ ((history.db.setPassword row.user_id stored).markUsed token).journal →
      .issue other user ∈ history.db.journal := by
    simp [ResetDb.setPassword, ResetDb.markUsed]
  refine ⟨?_, ?_, ?_, ?_, ?_⟩
  · intro change changed
    rcases List.mem_append.mp changed with earlier | added
    · exact kept _ (inv.spent change earlier)
    · cases List.mem_singleton.mp added
      exact nowSpent
  · intro other answeredOk
    rcases answers with rfl | rfl
    · exact kept _ (inv.answered other answeredOk)
    · rcases List.mem_append.mp answeredOk with earlier | added
      · exact kept _ (inv.answered other earlier)
      · cases List.mem_singleton.mp added
        exact nowSpent
  · rw [List.map_append, List.map_singleton]
    refine List.nodup_append.mpr ⟨inv.once, by simp, ?_⟩
    intro earlier again last isToken repeated
    obtain ⟨change, changed, first⟩ := List.mem_map.mp again
    have tokens : row.token = change.1 := by
      rw [same, first, repeated, List.mem_singleton.mp isToken]
    rw [(inv.spent change changed).2 row member tokens] at unused
    cases unused
  · intro other user issued
    obtain ⟨present, owned⟩ := inv.issued other user (journal _ _ issued)
    refine ⟨ResetDb.exists_markUsed present, fun new inTable tokens => ?_⟩
    obtain ⟨old, oldMember, sameToken, sameUser, -⟩ := ResetDb.mem_markUsed inTable
    exact sameUser.symm.trans (owned old oldMember (sameToken.trans tokens))
  · intro change changed user issued
    rcases List.mem_append.mp changed with earlier | added
    · exact inv.owner change earlier user (journal _ _ issued)
    · cases List.mem_singleton.mp added
      exact (inv.issued token user (journal _ _ issued)).2 row member same

theorem Inv.step (inv : history.Inv) {request : Request} (marks : history.Marks request) :
    (history.step crypto request).Inv := by
  generalize outcome : history.step crypto request = after
  have effect := outcome ▸ step_effect crypto history request
  cases effect with
  | kept => exact inv
  | issued fresh => exact inv.issue fresh
  | changed attempted usable written answers =>
    obtain rfl | ⟨unmarked, -⟩ := written
    · exact inv.change usable answers
    · rw [marks attempted] at unmarked
      cases unmarked

theorem checked (crypto : Crypto) (history : History) (request : Request) :
    history.Checked crypto request := by
  unfold Checked
  generalize outcome : history.step crypto request = after
  have effect := outcome ▸ step_effect crypto history request
  cases effect with
  | kept => simp
  | issued => simp
  | @changed token new_password env row _ _ _ _ usable =>
    intro change member
    rw [List.drop_left, List.mem_singleton] at member
    subst member
    exact ⟨new_password, env, row, rfl, usable, rfl⟩

/-- No token was used twice or for another user, and none answered `ok` is left usable. -/
structure SingleUse (history : History) : Prop where
  once : (history.changes.map Prod.fst).Nodup
  owner : ∀ change ∈ history.changes, ∀ user, .issue change.1 user ∈ history.db.journal →
    change.2 = user
  unusable : ∀ token ∈ history.answered, history.db.Unusable token

theorem inv_run {start : History} {requests : List Request}
    (sound : Along (step crypto) Marks start requests) (initial : start.Inv) :
    (run (step crypto) start requests).Inv := by
  induction requests generalizing start with
  | nil => exact initial
  | cons request rest ih => exact ih sound.2 (initial.step sound.1)

/-- If the mark on a token reaches the database whenever the change of password does, every
token leads to at most one change, of the password of the user it was issued for and after
a check in the same request, and no token of a request answered `ok` can be used again. -/
theorem reset_tokens_single_use (crypto : Crypto) (users : List Net.UserRow)
    (tokens : List ResetToken) (requests : List Request)
    (sound : Along (step crypto) Marks ⟨⟨users, tokens, []⟩, [], []⟩ requests) :
    (run (step crypto) ⟨⟨users, tokens, []⟩, [], []⟩ requests).SingleUse ∧
      ∀ earlier request later, requests = earlier ++ request :: later →
        Checked crypto (run (step crypto) ⟨⟨users, tokens, []⟩, [], []⟩ earlier) request := by
  have initial : Inv ⟨⟨users, tokens, []⟩, [], []⟩ := ⟨nofun, nofun, List.nodup_nil, nofun, nofun⟩
  have inv := inv_run sound initial
  exact ⟨⟨inv.once, inv.owner, fun token answered => (inv.answered token answered).unusable⟩,
    fun earlier request _ _ => checked crypto _ request⟩

end History

namespace Sample

def users : List Net.UserRow := [⟨1, ascii "alice", ascii "alice@example.org", []⟩]

def crypto : Crypto := uniform (fun _ => 0) fun _ => 0

/-- One token, and two resets with it; `mark` answers the marking after the first. -/
def requests (mark : Calls) : List Request :=
  [.forgot "alice@example.org" { now := 0, token := "T" },
    .reset "T" "secret1" { now := 1, salt := .replicate 16 0, mark },
    .reset "T" "secret2" { now := 2, salt := .replicate 16 0 }]

end Sample

theorem reset_tokens_single_use_sample :
    (run (History.step Sample.crypto) ⟨⟨Sample.users, [], []⟩, [], []⟩
      (Sample.requests {})).SingleUse :=
  (History.reset_tokens_single_use Sample.crypto Sample.users [] (Sample.requests {})
    (by decide)).1

/-- The connection that should mark the token fails; the reset answers `ok` all the same,
and the next one changes the password again. -/
theorem unmarked_token_used_again :
    ¬ (run (History.step Sample.crypto) ⟨⟨Sample.users, [], []⟩, [], []⟩
      (Sample.requests { connect := false })).SingleUse := by
  intro single
  have once := single.once
  revert once
  decide

end FileShareX.Gateway
