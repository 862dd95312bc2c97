import WendzelNNTPd.Access.Authentication
import WendzelNNTPd.Admin.Effects

/-! From `wendzelnntpadm adduser` to a login. The tool hashes the password as it was given;
the server hashes the word it finds in the command line behind `db_secure_sqlbuffer`.
-/

namespace WendzelNNTPd

open CString Atomic

/-- The lines of a login. -/
def userLine (user : Str) : Str := "AUTHINFO USER ".toList ++ user ++ "\r\n".toList

def passLine (pass : Str) : Str := "AUTHINFO PASS ".toList ++ pass ++ "\r\n".toList

/-- The reply to the second line of a login; `none` if the connection ends. -/
def loginReply (dbase : Dbase) (ext : Extern) (cfg : Config) (env : Env) (r : Session)
    (s : Store) (user pass : Str)
    : Option (List Piece) :=
  let login : Srv Unit := do
    serveLineOn dbase ext cfg env (userLine user)
    modify (fun r => { r with sent := [] })
    serveLineOn dbase ext cfg env (passLine pass)
  match (login.run r).run (exec ext) s with
  | (.ok (_, r'), _) => some r'.sent
  | (.error _, _) => none

section Words

/-- Bytes that do not end a word of a command line. -/
def IsWord (w : Str) : Prop := ∀ c ∈ w, c ≠ ' ' ∧ c ≠ '\r' ∧ c ≠ '\n' ∧ c ≠ NUL

theorem scan_word {w : Str} (word : IsWord w)
    : getSlinearg.scan w 0 = if w = [] then none else some w := by
  cases w with
  | nil => rfl
  | cons c cs =>
      obtain ⟨space, cr, -, -⟩ := word c (by simp)
      have whole : (c :: cs).takeWhile (fun d => d != ' ' && d != '\r') = c :: cs := by
        apply List.takeWhile_eq_self_iff.mpr
        intro d member
        obtain ⟨space, cr, -, -⟩ := word d member
        simp [space, cr]
      simp [getSlinearg.scan, space, cr, whole]

theorem getSlinearg_user {w : Str} (word : IsWord w)
    : getSlinearg ("AUTHINFO USER ".toList ++ w) 2 = if w = [] then none else some w :=
  scan_word word

theorem getSlinearg_pass {w : Str} (word : IsWord w)
    : getSlinearg ("AUTHINFO PASS ".toList ++ w) 2 = if w = [] then none else some w :=
  scan_word word

/-- Escaping keeps a word a word. -/
theorem isWord_dbSecureSqlbuffer (dbase : Dbase) {w : Str} (word : IsWord w)
    : IsWord (dbSecureSqlbuffer dbase w) := by
  cases dbase with
  | postgres => exact word
  | sqlite3 =>
      intro c member
      obtain ⟨d, inside, produced⟩ := List.mem_flatMap.mp member
      have plain := word d inside
      split at produced
      · rename_i quote
        simp_all
      · simp_all
  | mysql =>
      intro c member
      obtain ⟨d, inside, produced⟩ := List.mem_flatMap.mp member
      obtain ⟨space, cr, lf, nul⟩ := word d inside
      simp only [mysqlEscapeChar, nul, lf, cr, if_false] at produced
      repeat' split at produced
      all_goals simp at produced
      all_goals rcases produced with rfl | rfl
      all_goals first
        | exact ⟨space, cr, lf, nul⟩
        | decide

/-- The command strings of a login. -/
theorem command_userLine (dbase : Dbase) (user : Str)
    : dbSecureSqlbuffer dbase (stripCr (userLine user))
      = "AUTHINFO USER ".toList ++ dbSecureSqlbuffer dbase user := by
  have line : stripCr (userLine user) = "AUTHINFO USER ".toList ++ user := stripCr_line 'A' _
  rw [line, dbSecureSqlbuffer_append]
  cases dbase <;> rfl

theorem command_passLine (dbase : Dbase) (pass : Str)
    : dbSecureSqlbuffer dbase (stripCr (passLine pass))
      = "AUTHINFO PASS ".toList ++ dbSecureSqlbuffer dbase pass := by
  have line : stripCr (passLine pass) = "AUTHINFO PASS ".toList ++ pass := stripCr_line 'A' _
  rw [line, dbSecureSqlbuffer_append]
  cases dbase <;> rfl

end Words

theorem isWord_of_alnum {w : Str} (alnum : ∀ c ∈ w, isalnum c = true) : IsWord w := by
  intro c member
  have letter := alnum c member
  refine ⟨?_, ?_, ?_, ?_⟩
  all_goals
    rintro rfl
    revert letter
    decide

theorem dbSecureSqlbuffer_alnum {dbase : Dbase} {w : Str} (alnum : ∀ c ∈ w, isalnum c = true)
    : dbSecureSqlbuffer dbase w = w := by
  have special : dbase.escaped.all (fun d => isalnum d = false) = true := by
    cases dbase <;> decide
  refine dbSecureSqlbuffer_eq_self_iff.mpr (fun c member escaped => ?_)
  have letter := alnum c member
  rw [of_decide_eq_true (List.all_eq_true.mp special c escaped)] at letter
  cases letter

section Adduser

variable {ext : Extern} {hashSalt typed user pass : Str} {s s' : Store}

theorem admAccepts_adduser {mode : AdmMode}
    (accepts : admAccepts ["adduser".toList, user, pass] = some mode)
    : mode = .adduser := by
  have found : admMode "adduser".toList = some .adduser := by decide
  simp only [admAccepts, found] at accepts
  simp [AdmMode.isList, AdmMode.needsTwo] at accepts
  exact accepts.2.symm

/-- What `adduser` has checked when it succeeds, and the row it adds. -/
theorem adduser_accepted
    (accepted
      : (admMain ext hashSalt typed ["adduser".toList, user, pass]).run (exec ext) s
        = (.ok (), s'))
    : (∀ c ∈ user, isalnum c = true)
      ∧ 8 ≤ pass.length
      ∧ ¬s.HasUser user
      ∧ s'.users = s.users ++ [⟨user, admPassHash ext hashSalt user pass⟩] := by
  unfold admMain at accepted
  cases accepts : admAccepts ["adduser".toList, user, pass] with
  | none =>
      rw [accepts] at accepted
      cases accepted
  | some mode =>
      rw [accepts] at accepted
      obtain rfl := admAccepts_adduser accepts
      have program : admDispatch ext hashSalt typed ["adduser".toList, user, pass] .adduser
          = if !user.all isalnum then errExit
            else if user.length > 100 then errExit
            else if pass.length < 8 then errExit
            else if pass.length > 100 then errExit
            else
              exitIfExists (setExistenceOfUser user) >>= fun _ =>
                dbAddUser user (admPassHash ext hashSalt user pass) := rfl
      simp only [program] at accepted
      split at accepted
      · cases accepted
      split at accepted
      · cases accepted
      split at accepted
      · cases accepted
      split at accepted
      · cases accepted
      rename_i alnum _ long _
      simp only [exitIfExists, Prog.run_bind, setExistenceOfUser_run] at accepted
      cases there : !(s.users.filter (·.name == user)).isEmpty with
      | true =>
          rw [there] at accepted
          cases accepted
      | false =>
          rw [there] at accepted
          have missing : ¬s.HasUser user := by
            rw [← hasUser_iff, there]
            exact Bool.false_ne_true
          have fresh : s.users.any
              (fun other => other.name = (⟨user, admPassHash ext hashSalt user pass⟩ : User).name)
              = false := by
            rw [List.any_eq_false]
            intro other member same
            exact missing ⟨other, member, by simpa using same⟩
          have stored := congrArg Prod.snd accepted
          simp only [Bool.false_eq_true, if_false, Prog.pure_eq, Prog.run_done, dbAddUser,
            admInsert_run_store, exec, insertRow, fresh] at stored
          refine ⟨by simpa using alnum, by omega, missing, ?_⟩
          rw [← stored]

end Adduser

section Replies

variable {dbase : Dbase} {ext : Extern} {cfg : Config} {env : Env} {r : Session} {s : Store}

/-- A line that `do_command` hands to one of the AUTHINFO handlers. -/
theorem serveLineOn_run {recvbuf command : Str} {handler : Srv Unit} {r' : Session} {s' : Store}
    (steady : r.switchToTls = false)
    (escaped : dbSecureSqlbuffer dbase (stripCr recvbuf) = command)
    (dispatched : (doCommand ext cfg env command).run r = handler.run r)
    (ran : (handler.run r).run (exec ext) s = (.ok ((), r'), s'))
    (answered : r'.curstring ≠ [])
    : ((serveLineOn dbase ext cfg env recvbuf).run r).run (exec ext) s
      = (.ok ((), { r' with sent := r'.sent ++ r'.curstring, curstring := [] }), s') := by
  rw [serveLineOn, StateT.run_bind, switchToTls_run, steady, escaped]
  simp only [Bool.false_eq_true, if_false, Prog.done_bind]
  rw [StateT.run_bind, dispatched, Prog.run_bind, ran]
  show Prog.run (exec ext) (StateT.run (if r'.curstring = [] then crash else _) r') s' = _
  rw [if_neg answered]
  rfl

theorem doCommand_userLine (w : Str)
    : (doCommand ext cfg env ("AUTHINFO USER ".toList ++ w)).run r
      = (checkMandatoryTls cfg (docmdAuthinfoUser ("AUTHINFO USER ".toList ++ w))).run r :=
  rfl

theorem doCommand_passLine (w : Str)
    : (doCommand ext cfg env ("AUTHINFO PASS ".toList ++ w)).run r
      = (checkMandatoryTls cfg (docmdAuthinfoPass ext cfg ("AUTHINFO PASS ".toList ++ w))).run r :=
  rfl

theorem docmdAuthinfoUser_run_none {command : Str} (missing : getSlinearg command 2 = none)
    : ((docmdAuthinfoUser command).run r).run (exec ext) s
      = (.ok ((), { r with
          authIsThere := false, curstring := r.curstring ++ [⟨parameterMiss, none⟩] }), s) := by
  rw [docmdAuthinfoUser, missing]
  rfl

theorem docmdAuthinfoUser_run_some {command user : Str} (arg : getSlinearg command 2 = some user)
    : ((docmdAuthinfoUser command).run r).run (exec ext) s
      = (.ok ((), { r with
          authIsThere := false
          curAuthUser := some user
          curstring := r.curstring ++ [⟨needMoreInf, none⟩] }), s) := by
  rw [docmdAuthinfoUser, arg]
  rfl

/-- The texts of the two answers of AUTHINFO PASS. -/
def authAnswer (accepted : Bool) : Str := if accepted then authAccept else authReject

theorem docmdAuthinfoPass_run_none {command : Str} (missing : r.curAuthUser = none)
    : ((docmdAuthinfoPass ext cfg command).run r).run (exec ext) s
      = (.ok ((), { r with
          authIsThere := false, curstring := r.curstring ++ [⟨needMoreInf, none⟩] }), s) := by
  obtain ⟨_, curAuthUser⟩ := r
  obtain rfl : curAuthUser = none := missing
  rfl

/-- The answer to a password: whether the table holds the hash of the word in the line. -/
theorem docmdAuthinfoPass_run_some {command user pass : Str} (current : r.curAuthUser = some user)
    (arg : getSlinearg command 2 = some pass)
    : ((docmdAuthinfoPass ext cfg command).run r).run (exec ext) s
      = (.ok ((), { r with
          authIsThere := s.users.contains ⟨user, getSha256HashFromStr ext cfg user pass⟩
          curAuthUser := if cfg.useAcl then some user else none
          curAuthPass := none
          curstring := r.curstring
            ++ [⟨authAnswer (s.users.contains ⟨user, getSha256HashFromStr ext cfg user pass⟩),
              none⟩] }), s) := by
  rw [← selectUsers_isEmpty]
  obtain ⟨_, curAuthUser⟩ := r
  obtain rfl : curAuthUser = some user := current
  rw [docmdAuthinfoPass, arg]
  rfl

end Replies

section Login

variable {dbase : Dbase} {ext : Extern} {cfg : Config} {env : Env} {r : Session} {s : Store}
  {user pass : Str}

/-- What the second line of a login meets: the user named so far, and TLS as before. -/
structure Named (r : Session) (user : Option Str) (r₁ : Session) : Prop where
  steady : r₁.switchToTls = false
  tls : r₁.tlsActive = r.tlsActive
  user : r₁.curAuthUser = user
  idle : r₁.curstring = []

/-- The second line decides about the reply. -/
theorem loginReply_eq {named : Option Str} {reply : List Piece}
    (first
      : ∃ r₁,
        ((serveLineOn dbase ext cfg env (userLine user)).run r).run (exec ext) s
          = (.ok ((), r₁), s)
        ∧ Named r named r₁)
    (second
      : ∀ r₁, Named r named r₁ → r₁.sent = []
        → ∃ r₂,
          ((serveLineOn dbase ext cfg env (passLine pass)).run r₁).run (exec ext) s
            = (.ok ((), r₂), s)
          ∧ r₂.sent = reply)
    : loginReply dbase ext cfg env r s user pass = some reply := by
  obtain ⟨r₁, ranFirst, after⟩ := first
  obtain ⟨r₂, ranSecond, sent⟩ :=
    second { r₁ with sent := [] } ⟨after.steady, after.tls, after.user, after.idle⟩ rfl
  have both : ((do
      serveLineOn dbase ext cfg env (userLine user)
      modify (fun r => { r with sent := [] })
      serveLineOn dbase ext cfg env (passLine pass) : Srv Unit).run r).run (exec ext) s
        = (.ok ((), r₂), s) := by
    rw [StateT.run_bind, Prog.run_bind, ranFirst]
    exact ranSecond
  simp only [loginReply, both, sent]

section Tls

theorem checkMandatoryTls_refused (refused : (!r.tlsActive && cfg.tlsIsMandatory) = true)
    (m : Srv Unit)
    : ((checkMandatoryTls cfg m).run r).run (exec ext) s
      = (.ok ((), { r with curstring := r.curstring ++ [⟨tlsReq, none⟩] }), s) := by
  rw [checkMandatoryTls_run, if_pos refused]
  rfl

theorem checkMandatoryTls_passed (passed : ¬(!r.tlsActive && cfg.tlsIsMandatory) = true)
    (m : Srv Unit)
    : (checkMandatoryTls cfg m).run r = m.run r := by
  rw [checkMandatoryTls_run, if_neg passed]

end Tls

/-- Without TLS where it is mandatory the password is not looked at. -/
theorem loginReply_without_tls (steady : r.switchToTls = false)
    (refused : (!r.tlsActive && cfg.tlsIsMandatory) = true)
    : loginReply dbase ext cfg env r s user pass = some [⟨tlsReq, none⟩] := by
  apply loginReply_eq
  · refine ⟨_, serveLineOn_run steady (command_userLine dbase user) (doCommand_userLine _)
      (checkMandatoryTls_refused refused _) ?_, ⟨steady, rfl, rfl, rfl⟩⟩
    exact List.concat_ne_nil _ _
  · intro r₁ named unsent
    have still : (!r₁.tlsActive && cfg.tlsIsMandatory) = true := by
      rw [named.tls]
      exact refused
    refine ⟨_, serveLineOn_run named.steady (command_passLine dbase pass) (doCommand_passLine _)
      (checkMandatoryTls_refused still _) ?_, ?_⟩
    · exact List.concat_ne_nil _ _
    · simp [named.idle, unsent]

/-- A missing user name leaves the server without a user. -/
theorem loginReply_without_user (steady : r.switchToTls = false)
    (passed : ¬(!r.tlsActive && cfg.tlsIsMandatory) = true) (nobody : r.curAuthUser = none)
    : loginReply dbase ext cfg env r s [] pass = some [⟨needMoreInf, none⟩] := by
  have missing : getSlinearg ("AUTHINFO USER ".toList ++ dbSecureSqlbuffer dbase []) 2 = none := by
    cases dbase <;> rfl
  apply loginReply_eq
  · refine ⟨_, serveLineOn_run steady (command_userLine dbase [])
      ((doCommand_userLine _).trans (checkMandatoryTls_passed passed _))
      (docmdAuthinfoUser_run_none missing) ?_, ⟨steady, rfl, nobody, rfl⟩⟩
    exact List.concat_ne_nil _ _
  · intro r₁ named unsent
    have still : ¬(!r₁.tlsActive && cfg.tlsIsMandatory) = true := by
      rw [named.tls]
      exact passed
    refine ⟨_, serveLineOn_run named.steady (command_passLine dbase pass)
      ((doCommand_passLine _).trans (checkMandatoryTls_passed still _))
      (docmdAuthinfoPass_run_none named.user) ?_, ?_⟩
    · exact List.concat_ne_nil _ _
    · simp [named.idle, unsent]

theorem dbSecureSqlbuffer_ne_nil {w : Str} (nonempty : w ≠ []) : dbSecureSqlbuffer dbase w ≠ [] := by
  intro empty
  have longer := dbSecureSqlbuffer_length_le dbase w
  rw [empty] at longer
  exact nonempty (List.length_eq_zero_iff.mp (Nat.le_zero.mp longer))

/-- With a user name, the hash of the escaped password decides. -/
theorem loginReply_with_user (steady : r.switchToTls = false)
    (passed : ¬(!r.tlsActive && cfg.tlsIsMandatory) = true) (userWord : IsWord user)
    (userGiven : user ≠ []) (passWord : IsWord pass) (passGiven : pass ≠ [])
    : loginReply dbase ext cfg env r s user pass
      = some
          [⟨authAnswer
              (s.users.contains
                ⟨dbSecureSqlbuffer dbase user,
                  getSha256HashFromStr ext cfg (dbSecureSqlbuffer dbase user)
                    (dbSecureSqlbuffer dbase pass)⟩),
            none⟩] := by
  have userArg := getSlinearg_user (isWord_dbSecureSqlbuffer dbase userWord)
  have passArg := getSlinearg_pass (isWord_dbSecureSqlbuffer dbase passWord)
  rw [if_neg (dbSecureSqlbuffer_ne_nil userGiven)] at userArg
  rw [if_neg (dbSecureSqlbuffer_ne_nil passGiven)] at passArg
  apply loginReply_eq
  · refine ⟨_, serveLineOn_run steady (command_userLine dbase user)
      ((doCommand_userLine _).trans (checkMandatoryTls_passed passed _))
      (docmdAuthinfoUser_run_some userArg) ?_, ⟨steady, rfl, rfl, rfl⟩⟩
    exact List.concat_ne_nil _ _
  · intro r₁ named unsent
    have still : ¬(!r₁.tlsActive && cfg.tlsIsMandatory) = true := by
      rw [named.tls]
      exact passed
    refine ⟨_, serveLineOn_run named.steady (command_passLine dbase pass)
      ((doCommand_passLine _).trans (checkMandatoryTls_passed still _))
      (docmdAuthinfoPass_run_some named.user passArg) ?_, ?_⟩
    · exact List.concat_ne_nil _ _
    · simp [named.idle, unsent]

end Login

/-- A user added by `adduser` logs in with AUTHINFO USER and AUTHINFO PASS, on a backend with
the same hash salt, exactly if TLS is active where it is mandatory, the user name is not
empty, and the password has no byte that the backend escapes. The last hypothesis says that
SHA-256 does not map the password and its escaped form to one digest.
Witness: the server asks for the hash of the escaped word, the table holds the hash of the
password itself, and no other row has this user's name.
-/
theorem login_accepted_iff (dbase : Dbase) (ext : Extern) (cfg : Config) (env : Env)
    (tlsActive : Bool) (cmdtype : Cmdtype) (speccmd : Speccmd) (typed user pass : Str)
    (s s' : Store)
    (accepted
      : (admMain ext cfg.hashSalt typed ["adduser".toList, user, pass]).run (exec ext) s
        = (.ok (), s'))
    (word : ∀ c ∈ pass, c ≠ ' ' ∧ c ≠ '\r' ∧ c ≠ '\n' ∧ c ≠ NUL)
    (noCollision
      : ext.sha256hex (cfg.hashSalt ++ user ++ dbSecureSqlbuffer dbase pass)
          = ext.sha256hex (cfg.hashSalt ++ user ++ pass)
        → dbSecureSqlbuffer dbase pass = pass)
    : loginReply dbase ext cfg env (Session.fresh cfg tlsActive cmdtype speccmd) s' user pass
        = some [⟨authAccept, none⟩]
      ↔ (tlsActive = true ∨ cfg.tlsIsMandatory = false)
        ∧ user ≠ []
        ∧ ∀ c ∈ pass, c ∉ dbase.escaped := by
  obtain ⟨alnum, long, missing, users⟩ := adduser_accepted accepted
  by_cases refused : (!tlsActive && cfg.tlsIsMandatory) = true
  · rw [loginReply_without_tls rfl refused]
    have texts : tlsReq ≠ authAccept := by decide
    simp only [Bool.and_eq_true, Bool.not_eq_true'] at refused
    simp [texts, refused]
  by_cases unnamed : user = []
  · subst unnamed
    rw [loginReply_without_user rfl refused rfl]
    have texts : needMoreInf ≠ authAccept := by decide
    simp [texts]
  have plainName : dbSecureSqlbuffer dbase user = user := dbSecureSqlbuffer_alnum alnum
  have given : pass ≠ [] := by
    rintro rfl
    simp at long
  rw [loginReply_with_user rfl refused (isWord_of_alnum alnum) unnamed word given, plainName]
  have asked : s'.users.contains
      ⟨user, getSha256HashFromStr ext cfg user (dbSecureSqlbuffer dbase pass)⟩ = true
      ↔ ∀ c ∈ pass, c ∉ dbase.escaped := by
    rw [← dbSecureSqlbuffer_eq_self_iff, users, List.contains_iff_mem, List.mem_append,
      List.mem_singleton]
    constructor
    · rintro (old | new)
      · exact absurd ⟨_, old, rfl⟩ missing
      · exact noCollision (congrArg User.password new)
    · intro same
      rw [same]
      exact Or.inr rfl
  have passed : tlsActive = true ∨ cfg.tlsIsMandatory = false := by
    cases tlsActive <;> simp_all
  rw [← asked]
  simp only [passed, unnamed, ne_eq, not_false_eq_true, true_and]
  cases s'.users.contains
    ⟨user, getSha256HashFromStr ext cfg user (dbSecureSqlbuffer dbase pass)⟩ with
  | true => simp [authAnswer]
  | false =>
      have texts : authReject ≠ authAccept := by decide
      simp [authAnswer, texts]

/-- The library, with the real digests of the passwords of the two examples. -/
def loginExtern : Extern :=
  { sampleExtern with
    sha256hex := fun text =>
      if text = "saltalicesecret99".toList then
        "0a88aff4ba1a97334e95d27e97a36dd7d9787e926be9d18b99574fffa5119a53".toList
      else if text = "saltalicesecret'9".toList then
        "dc5ab0326803e1ca90de69b731529b6ae71fda01814b742bc42f0ae4bdbb3bf2".toList
      else if text = "saltalicesecret''9".toList then
        "cc1a82c07616629d93319c75147065d406916ab3f753830f1f0a8a42b0e26a4a".toList
      else [] }

/-- The store behind `adduser` on a fresh installation. -/
def storeWithUser (user pass : Str) : Store :=
  { Store.empty with users := [⟨user, admPassHash loginExtern sampleConfig.hashSalt user pass⟩] }

theorem plain_password_logs_in
    : loginReply .mysql loginExtern sampleConfig sampleEnv
        (Session.fresh sampleConfig false .article .cleared)
        (storeWithUser "alice".toList "secret99".toList) "alice".toList "secret99".toList
      = some [⟨authAccept, none⟩] :=
  (login_accepted_iff .mysql loginExtern sampleConfig sampleEnv false .article .cleared []
    "alice".toList "secret99".toList Store.empty
    (storeWithUser "alice".toList "secret99".toList) rfl (by simp [NUL]) (by decide)).mpr
    ⟨Or.inr rfl, by simp, by simp [Dbase.escaped, NUL]⟩

/-- A password with a quote is accepted by `adduser`, and the login with it rejected. -/
theorem quoted_password_rejected
    : (admMain loginExtern sampleConfig.hashSalt [] ["adduser".toList, "alice".toList,
          "secret'9".toList]).run (exec loginExtern) Store.empty
        = (.ok (), storeWithUser "alice".toList "secret'9".toList)
      ∧ (∀ c ∈ "secret'9".toList, c ≠ ' ' ∧ c ≠ '\r' ∧ c ≠ '\n' ∧ c ≠ NUL)
      ∧ loginReply .sqlite3 loginExtern sampleConfig sampleEnv
          (Session.fresh sampleConfig false .article .cleared)
          (storeWithUser "alice".toList "secret'9".toList) "alice".toList "secret'9".toList
        = some [⟨authReject, none⟩]
      ∧ authReject ≠ authAccept := by
  refine ⟨rfl, by simp [NUL], ?_, by decide⟩
  decide +kernel

end WendzelNNTPd
