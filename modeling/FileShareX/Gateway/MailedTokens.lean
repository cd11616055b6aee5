import FileShareX.Gateway.Provenance

/-!
# Who can set a password

A password is set by the registration of its account, or by a reset with a token that was
issued for the account's own address within the hour; no mail takes that token anywhere else.
-/

namespace FileShareX.Gateway

open Wire Posix Protocol Auth Net Machine

/-! ### Issuing and mailing a token -/

section Tokens

variable {calls : Calls} {db : ResetDb} {now : Int} {token email : String} {env : ForgotEnv}

theorem withConnection_nothing {result : Option (Option String)}
    (nothing : result = none ∨ result = some none) :
    (withConnection calls db none (db, result)).1 = db ∧
      ∀ returned, (withConnection calls db none (db, result)).2 ≠ some (some returned) := by
  refine ⟨?_, fun returned found => ?_⟩
  · unfold withConnection
    split <;> rfl
  · have body : result = some (some returned) := withConnection_body (Option.some_ne_none _) found
    rcases nothing with none | none <;> rw [none] at body <;> cases body

theorem create_reset_token_spec :
    (create_reset_token calls db now token email).1 = db ∧
        (∀ returned, (create_reset_token calls db now token email).2 ≠ some (some returned)) ∨
      ∃ user ∈ db.users, user.email = utf8 email ∧
        (∀ row ∈ db.password_reset_tokens, row.token ≠ token) ∧
        (create_reset_token calls db now token email).1 =
          db.issue ⟨user.id, token, email, now + hour, false⟩ ∧
        ∀ returned, (create_reset_token calls db now token email).2 = some (some returned) →
          returned = token := by
  unfold create_reset_token
  by_cases selected : (!calls.select || !adaptable email) = true
  · rw [if_pos selected]
    exact .inl (withConnection_nothing (.inl rfl))
  · rw [if_neg selected]
    cases found : db.users.find? fun user => user.email == utf8 email with
    | none => exact .inl (withConnection_nothing (.inr rfl))
    | some user =>
      dsimp only
      generalize known : (db.password_reset_tokens.any fun row => row.token == token) = taken
      have same {returned : String} (answered : (withConnection calls db none
          (if !calls.execute || taken then (db, none)
            else calls.commit.apply db
              (db.issue ⟨user.id, token, email, now + hour, false⟩) (some token))).2 =
            some (some returned)) : returned = token := by
        have body := withConnection_body (Option.some_ne_none _) answered
        split at body
        · cases body
        · cases committed : calls.commit <;> rw [committed] at body <;> cases body
          rfl
      by_cases written : (calls.writes && !taken) = true
      · refine .inr ⟨user, List.mem_of_find?_eq_some found, by simpa using List.find?_some found, ?_, ?_,
          fun returned answered => same answered⟩
        · rw [← known] at written
          simp only [Bool.and_eq_true, Bool.not_eq_true', List.any_eq_false, beq_iff_eq] at written
          exact written.2
        · exact (withConnection_commit taken).trans (if_pos written)
      · refine .inl ⟨(withConnection_commit taken).trans (if_neg written), fun returned answered => ?_⟩
        obtain rfl := same answered
        have returns := (withConnection_returned taken (Option.some_ne_none _)).mp answered
        rw [Bool.and_eq_true] at returns
        exact written (Bool.and_eq_true _ _ ▸ ⟨Calls.writes_of_returns returns.1, returns.2⟩)

theorem forgot_password_mail {mail : Mail} (sent : (forgot_password db email env).2.2 = some mail) :
    mail.email = email ∧ mail.reset_token = env.token ∧
      ∃ user ∈ db.users, user.email = utf8 email ∧
        (forgot_password db email env).1 =
          db.issue ⟨user.id, env.token, email, env.now + hour, false⟩ := by
  rw [forgot_password_db]
  unfold forgot_password at sent
  have spec := @create_reset_token_spec env.create db env.now env.token email
  cases created : create_reset_token env.create db env.now env.token email with
  | mk after result =>
    rw [created] at sent spec
    dsimp only at spec
    match result with
    | none | some none => cases sent
    | some (some returned) =>
      dsimp only at sent
      split at sent
      · cases sent
      · cases sent
        obtain ⟨-, never⟩ | ⟨user, member, addressed, -, issued, same⟩ := spec
        · exact absurd rfl (never returned)
        · exact ⟨rfl, same returned rfl, user, member, addressed, issued⟩

end Tokens

namespace Deployment

variable {crypto : Crypto} {state start : Deployment} {occurrences : List Occurrence}
  {user_id : Int64} {email : Bytes}

/-! ### The addresses of the accounts -/

def Addressed (state : Deployment) (user_id : Int64) (email : Bytes) : Prop :=
  ∃ row ∈ state.db.users, row.id = user_id ∧ row.email = email

theorem Addressed.kept (addressed : state.Addressed user_id email) (occurrence : Occurrence) :
    (state.step crypto occurrence).Addressed user_id email := by
  obtain ⟨row, member, named⟩ := addressed
  cases occurrence with
  | core happening salt =>
    refine ⟨row, ?_, named⟩
    rw [db, step_core]
    exact (state.core.step_accounts (happening.using crypto salt)).keepsUsers.subset member
  | forgot email env =>
    refine ⟨row, ?_, named⟩
    show row ∈ (forgot_password state.tables email env).1.users
    rwa [forgot_password_users]
  | reset token new_password env =>
    have users := @reset_password_users crypto state.tables token new_password env
    have same : (state.step crypto (.reset token new_password env)).db.users =
        (reset_password crypto state.tables token new_password env).1.users := by
      unfold step
      dsimp only
      split <;> rfl
    unfold Addressed
    rw [same, users]
    split
    · next user _ =>
      have keeps := rehash_keepsIdentity user ((resetSecret new_password env).stored crypto)
      exact ⟨_, List.mem_map_of_mem member, (keeps.id row).trans named.1, (keeps.email row).trans named.2⟩
    · exact ⟨row, member, named⟩

theorem Addressed.later (addressed : state.Addressed user_id email) :
    (run (step crypto) state occurrences).Addressed user_id email := by
  induction occurrences generalizing state with
  | nil => exact addressed
  | cons occurrence rest ih => exact ih (addressed.kept occurrence)

theorem Addressed.only (addressed : state.Addressed user_id email) (wellFormed : state.db.WellFormed) :
    ∀ row ∈ state.db.users, row.id = user_id → row.email = email := by
  obtain ⟨row, member, rfl, rfl⟩ := addressed
  intro other present same
  rw [List.inj_on_of_nodup_map wellFormed.ids present member same]

/-! ### The tokens in the table -/

def issued (state : Deployment) : List ResetToken :=
  state.password_reset_tokens.map fun row => { row with used := false }

inductive Issues (state : Deployment) : Occurrence → List ResetToken → Prop
  | nothing (occurrence : Occurrence) : state.Issues occurrence []
  | token {user : UserRow} {email : String} {env : ForgotEnv} (account : user ∈ state.db.users)
      (addressed : user.email = utf8 email)
      (fresh : ∀ row ∈ state.issued, row.token ≠ env.token) :
      state.Issues (.forgot email env) [⟨user.id, env.token, email, env.now + hour, false⟩]

theorem step_issues (state : Deployment) (occurrence : Occurrence) :
    ∃ added, (state.step crypto occurrence).issued = state.issued ++ added ∧
      state.Issues occurrence added := by
  cases occurrence with
  | core happening salt =>
    refine ⟨[], ?_, .nothing _⟩
    rw [List.append_nil]
    unfold step
    dsimp only
    split <;> rfl
  | forgot email env =>
    have stored : (state.step crypto (.forgot email env)).issued =
        (forgot_password state.tables email env).1.password_reset_tokens.map
          fun row => { row with used := false } := rfl
    rw [stored, forgot_password_db]
    obtain ⟨same, -⟩ | ⟨user, member, addressed, fresh, added, -⟩ :=
      @create_reset_token_spec env.create state.tables env.now env.token email
    · rw [same]
      exact ⟨[], (List.append_nil _).symm, .nothing _⟩
    · rw [added]
      refine ⟨_, List.map_append, .token member addressed fun row issued => ?_⟩
      obtain ⟨old, present, rfl⟩ := List.mem_map.mp issued
      exact fresh old present
  | reset token new_password env =>
    refine ⟨[], ?_, .nothing _⟩
    have stored : (state.step crypto (.reset token new_password env)).issued =
        (reset_password crypto state.tables token new_password env).1.password_reset_tokens.map
          fun row => { row with used := false } := by
      unfold step
      dsimp only
      split <;> rfl
    have marked (tables : ResetDb) : (tables.markUsed token).password_reset_tokens.map
        (fun row => { row with used := false }) =
          tables.password_reset_tokens.map fun row => { row with used := false } := by
      rw [ResetDb.markUsed, List.map_map]
      refine List.map_congr_left fun row _ => ?_
      rw [Function.comp_apply]
      split <;> rfl
    rw [stored, List.append_nil]
    cases outcome : reset_password crypto state.tables token new_password env with
    | mk after reply =>
      obtain ⟨rfl, -⟩ | ⟨-, row, stored, -, rfl | ⟨-, rfl⟩⟩ := reset_password_spec outcome
      · rfl
      · rw [marked]
        rfl
      · rfl

theorem issued_run (state : Deployment) (occurrences : List Occurrence) :
    state.issued <+: (run (step crypto) state occurrences).issued := by
  induction occurrences generalizing state with
  | nil => exact List.prefix_refl _
  | cons occurrence rest ih =>
    obtain ⟨added, grown, -⟩ := @step_issues crypto state occurrence
    exact (grown ▸ List.prefix_append ..).trans (ih _)

theorem tokens_run (unissued : start.password_reset_tokens = []) :
    ((run (step crypto) start occurrences).issued.map (·.token)).Nodup := by
  induction occurrences using List.reverseRecOn with
  | nil => simp [issued, unissued]
  | append_singleton occurrences occurrence ih =>
    rw [run_concat]
    obtain ⟨added, grown, issues⟩ :=
      @step_issues crypto (run (step crypto) start occurrences) occurrence
    rw [grown, List.map_append]
    cases issues with
    | nothing => simpa using ih
    | token _ _ fresh =>
      refine ih.append (List.nodup_singleton _) fun token old new => ?_
      obtain ⟨row, member, rfl⟩ := List.mem_map.mp old
      exact fresh row member (List.mem_singleton.mp new)

/-! ### Setting a secret -/

theorem registered_account {server : Server} {conn : ConnId} {payload : Vec} {env : Env}
    {password : Bytes} (made : server.registered payload env = some password) :
    ∃ req pass_hash, RegisterReq.deserialize.result payload = .ok req ∧ password = req.password ∧
      (server.handle_register_req conn payload env).1.db.users = server.db.users ++
        [⟨server.db.next_user_id, cString req.username, cString req.email, cString pass_hash⟩] := by
  unfold Server.registered at made
  unfold Server.handle_register_req
  cases parsed : RegisterReq.deserialize.result payload with
  | error what =>
    rw [parsed] at made
    cases made
  | ok req =>
    rw [parsed] at made
    rw [Reader.ok_bind]
    dsimp only at made ⊢
    cases handled : AuthHandler.handle_register server.db req env.auth with
    | error what =>
      rw [handled] at made
      cases made
    | ok answer =>
      obtain ⟨after, resp⟩ := answer
      rw [handled] at made
      dsimp only at made
      obtain ⟨refused, -⟩ | ⟨ok, -, pass_hash, -, users, -⟩ := AuthHandler.handle_register_spec handled
      · rw [refused] at made
        cases made
      · rw [if_pos ok] at made
        cases made
        exact ⟨req, pass_hash, rfl, rfl, users⟩

theorem registers_account {happening : Happening} {password : Bytes}
    (made : state.core.registers happening = some password) :
    state.core.up = true ∧ ∃ conn payload env req pass_hash,
      happening = .serve (.receive conn MsgType.REGISTER_REQ.code payload env) ∧
      RegisterReq.deserialize.result payload = .ok req ∧ password = req.password ∧
      (state.core.step happening).process.server.db.users = state.db.users ++
        [⟨state.db.next_user_id, cString req.username, cString req.email, cString pass_hash⟩] := by
  cases happening with
  | serve label =>
    unfold Installation.registers at made
    dsimp only at made
    split at made
    · next up =>
      cases label with
      | receive conn type payload env =>
        unfold Server.registers at made
        dsimp only at made
        split at made
        · next taken =>
          obtain ⟨alive, reading, rfl⟩ := taken
          obtain ⟨self, alive⟩ := Option.isSome_iff_exists.mp alive
          obtain ⟨req, pass_hash, parsed, password, users⟩ := @registered_account _ conn _ _ _ made
          refine ⟨up, conn, payload, env, req, pass_hash, rfl, parsed, password, ?_⟩
          have stepped : (state.core.step (.serve (.receive conn MsgType.REGISTER_REQ.code payload
              env))).process.server =
                (state.core.process.server.handle_register_req conn payload env).1 := by
            unfold Installation.step Observed.step Server.step
            dsimp only
            rw [if_pos up, alive]
            dsimp only
            rw [if_pos reading]
            rfl
          rw [stepped]
          exact users
        · cases made
      | _ => cases made
    · cases made
  | _ => cases made

/-- How an occurrence can give an account this secret. -/
inductive Sets (crypto : Crypto) (state : Deployment) (user_id : Int64) (secret : Secret) :
    Occurrence → Prop
  | registration {conn payload env req} (up : state.core.up = true)
      (parsed : RegisterReq.deserialize.result payload = .ok req)
      (password : secret.password = req.password) (iters : secret.iters = 120000)
      (account : ∃ row ∈ (state.step crypto (.core (.serve (.receive conn MsgType.REGISTER_REQ.code
          payload env)) (some secret.salt))).db.users,
        row.id = user_id ∧ row.username = cString req.username ∧ row.email = cString req.email) :
      Sets crypto state user_id secret (.core (.serve (.receive conn MsgType.REGISTER_REQ.code payload
        env)) (some secret.salt))
  | reset {token new_password env} (resets : state.tables.resets token new_password env = some user_id)
      (same : secret = resetSecret new_password env) :
      Sets crypto state user_id secret (.reset token new_password env)

theorem step_sets {secret : Secret} {occurrence : Occurrence}
    (was : state.secrets user_id ≠ some secret)
    (now : (state.step crypto occurrence).secrets user_id = some secret) :
    Sets crypto state user_id secret occurrence := by
  -- the secret of another account stays
  have mine {account : Int64} {given : Secret} {secrets : Int64 → Option Secret}
      (same : secrets = state.secrets)
      (now : Function.update secrets account (some given) user_id = some secret) :
      user_id = account ∧ given = secret := by
    by_cases here : user_id = account
    · subst here
      rw [Function.update_self] at now
      exact ⟨rfl, Option.some.inj now⟩
    · rw [Function.update_of_ne here, same] at now
      exact absurd now was
  cases occurrence with
  | core happening salt =>
    have became := @step_core crypto state happening salt
    unfold step at now
    dsimp only at now
    split at now
    · next _ password drawn registers =>
      obtain ⟨rfl, rfl⟩ := mine rfl now
      obtain ⟨up, conn, payload, env, req, pass_hash, served, parsed, password, users⟩ :=
        registers_account registers
      cases happening with
      | serve label =>
        cases label with
        | receive conn' type payload' env' =>
          cases served
          let row : UserRow :=
            ⟨state.db.next_user_id, cString req.username, cString req.email, cString pass_hash⟩
          refine .registration up parsed password rfl ⟨row, ?_, rfl, rfl, rfl⟩
          rw [db, became, users]
          exact List.mem_append_right _ List.mem_cons_self
        | _ => cases served
      | _ => cases served
    · exact absurd now was
  | forgot email env => exact absurd now was
  | reset token new_password env =>
    unfold step at now
    dsimp only at now
    split at now
    · next account resets =>
      obtain ⟨rfl, rfl⟩ := mine rfl now
      exact .reset resets rfl
    · exact absurd now was

/-- The token was issued for this address, that of the account, an hour ago at most. -/
def Issued (crypto : Crypto) (start : Deployment) (token : String) (user_id : Int64) (email : String)
    (now : Int) (occurrences : List Occurrence) : Prop :=
  ∃ earlier env later, occurrences = earlier ++ .forgot email env :: later ∧ env.token = token ∧
    now ≤ env.now + hour ∧ (run (step crypto) start earlier).Addressed user_id (utf8 email)

/-- The account has no other address, and no mail has taken the token anywhere else. -/
structure OnlyTo (crypto : Crypto) (start : Deployment) (token : String) (user_id : Int64)
    (email : String) (occurrences : List Occurrence) : Prop where
  address : ∀ row ∈ (run (step crypto) start occurrences).db.users, row.id = user_id →
    row.email = utf8 email
  mails : ∀ earlier other env later mail, occurrences = earlier ++ .forgot other env :: later →
    (forgot_password (run (step crypto) start earlier).tables other env).2.2 = some mail →
    mail.reset_token = token → mail.email = email

/-- Where the secret of an account comes from; it has been the secret ever since. -/
def SetBy (crypto : Crypto) (start : Deployment) (user_id : Int64) (secret : Secret)
    (occurrences : List Occurrence) : Prop :=
  ∃ earlier occurrence later, occurrences = earlier ++ occurrence :: later ∧
    (run (step crypto) start earlier).Sets crypto user_id secret occurrence ∧
    (∀ token new_password env, occurrence = .reset token new_password env →
      ∃ email, Issued crypto start token user_id email env.now earlier ∧
        OnlyTo crypto start token user_id email occurrences) ∧
    ∀ mid, mid <+: later →
      (run (step crypto) start (earlier ++ occurrence :: mid)).secrets user_id = some secret

section Origin

variable {row : ResetToken}

/-- Every row goes back to a request for the address it has. -/
theorem issued_origin (unissued : start.password_reset_tokens = [])
    (member : row ∈ (run (step crypto) start occurrences).issued) :
    ∃ earlier env later, occurrences = earlier ++ .forgot row.email env :: later ∧
      env.token = row.token ∧ row.expires_at = env.now + hour ∧
      (run (step crypto) start earlier).Addressed row.user_id (utf8 row.email) := by
  have initial : ¬ row ∈ start.issued := by simp [issued, unissued]
  obtain ⟨earlier, occurrence, later, rfl, was, since⟩ :=
    since (fun state : Deployment => row ∈ state.issued) initial member
  have first := since [] (List.nil_prefix ..)
  obtain ⟨added, grown, issues⟩ := @step_issues crypto (run (step crypto) start earlier) occurrence
  rw [run_concat, grown] at first
  have new := (List.mem_append.mp first).resolve_left was
  cases issues with
  | nothing => cases new
  | token account addressed =>
    cases List.mem_singleton.mp new
    exact ⟨earlier, _, later, rfl, rfl, rfl, _, account, rfl, addressed⟩

/-- Of a token there is one row, so that its mails all go to the address of that row. -/
theorem issued_mails (unissued : start.password_reset_tokens = [])
    (member : row ∈ (run (step crypto) start occurrences).issued) {earlier later : List Occurrence}
    {other : String} {env : ForgotEnv} {mail : Mail}
    (split : occurrences = earlier ++ .forgot other env :: later)
    (sent : (forgot_password (run (step crypto) start earlier).tables other env).2.2 = some mail)
    (same : mail.reset_token = row.token) : mail.email = row.email := by
  obtain ⟨sent_to, token, user, -, -, written⟩ := forgot_password_mail sent
  have mailed : (⟨user.id, env.token, other, env.now + hour, false⟩ : ResetToken) ∈
      (run (step crypto) start (earlier ++ [.forgot other env])).issued := by
    rw [run_concat]
    refine List.mem_map.mpr ⟨⟨user.id, env.token, other, env.now + hour, false⟩, ?_, rfl⟩
    show _ ∈ (forgot_password _ other env).1.password_reset_tokens
    rw [written]
    exact List.mem_append_right _ List.mem_cons_self
  have kept := @issued_run crypto (run (step crypto) start (earlier ++ [.forgot other env])) later
  rw [← run_append, List.append_assoc, List.singleton_append, ← split] at kept
  have one := List.inj_on_of_nodup_map (tokens_run unissued) (kept.subset mailed) member
    (token.symm.trans same)
  rw [sent_to, ← one]

end Origin

/-- What the account's password is, its registration or a reset has made it, and the token of the
reset has been nowhere but in the mails of the account's own address. -/
theorem secrets_authorised {secret : Secret} (sound : start.Sound occurrences)
    (unissued : start.password_reset_tokens = [])
    (known : (run (step crypto) start occurrences).secrets user_id = some secret) :
    SetBy crypto start user_id secret occurrences := by
  have initial : ¬ start.secrets user_id = some secret := by simp [sound.unset]
  obtain ⟨earlier, occurrence, later, rfl, was, since⟩ :=
    since (fun state : Deployment => state.secrets user_id = some secret) initial known
  have first := since [] (List.nil_prefix ..)
  rw [run_concat] at first
  have sets := step_sets was first
  refine ⟨earlier, occurrence, later, rfl, sets, ?_, since⟩
  rintro token new_password env rfl
  cases sets with
  | reset resets =>
    unfold ResetDb.resets at resets
    split at resets
    · next info valid =>
      split at resets
      · cases resets
        obtain ⟨-, row, ⟨member, rfl, inTime, -⟩, owner⟩ := validate_reset_token_spec valid
        have present : { row with used := false } ∈ (run (step crypto) start earlier).issued :=
          List.mem_map_of_mem member
        obtain ⟨before, asked, between, rfl, named, expires, account⟩ := issued_origin unissued present
        dsimp only at named expires account
        rw [owner] at account
        refine ⟨row.email, ⟨before, asked, between, rfl, named, expires ▸ inTime, account⟩, ?_, ?_⟩
        · have still := @Addressed.later crypto _ (.forgot row.email asked :: between ++
            .reset row.token new_password env :: later) _ _ account
          rw [← run_append, ← List.append_assoc] at still
          exact still.only sound.kept.accounted.wellFormed
        · intro first other env' rest mail split sent same
          have kept := @issued_run crypto (run (step crypto) start
            (before ++ .forgot row.email asked :: between)) (.reset row.token new_password env :: later)
          rw [← run_append] at kept
          exact issued_mails unissued (kept.subset present) split sent same
      · cases resets
    · cases resets

theorem secrets_authorised_carol :
    SetBy summing installed 3 ⟨utf8 "geheim", .replicate 16 8, 100000⟩ carol :=
  secrets_authorised ⟨⟨Sample.booted, rfl⟩, ⟨by decide, by decide, by decide, by decide⟩, rfl, by decide⟩
    rfl (by decide +kernel)

end Deployment

end FileShareX.Gateway
