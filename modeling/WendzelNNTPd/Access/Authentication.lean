import WendzelNNTPd.Access.Dispatch

/-! Who is authenticated on a connection, and what an unauthenticated client can reach. -/

namespace WendzelNNTPd

open CString Atomic

/-- The AUTHINFO commands evaluated while lines are served, each with the store at that
time. -/
def Connection.authEvents (ext : Extern) (cfg : Config)
    : Connection → List Line → List (AuthEvent × Store)
  | _, [] => []
  | conn, line :: rest =>
      (authinfoEvent cfg conn.session.access.atCommand.tlsActive line.command).toList.map
          (fun event => (event, conn.store))
        ++ match conn.serve ext cfg line with
          | some next => next.authEvents ext cfg rest
          | none => []

/-- The argument of the last AUTHINFO USER that had one. -/
def lastUserArg (events : List (AuthEvent × Store)) : Option Str :=
  (events.filterMap (fun entry =>
    match entry.1 with
    | .user arg => arg
    | .pass _ => none)).getLast?

/-- The last evaluated AUTHINFO command was an AUTHINFO PASS for which `users` held a row
of the user named last. -/
def LoggedIn (ext : Extern) (cfg : Config) (events : List (AuthEvent × Store)) (user : Str)
    : Prop :=
  ∃ pass s,
    events.getLast? = some (.pass (some pass), s)
    ∧ lastUserArg events = some user
    ∧ ⟨user, ext.sha256hex (cfg.hashSalt ++ user ++ pass)⟩ ∈ s.users

/-- The invariant of the authentication along a run. -/
structure AuthInv (ext : Extern) (cfg : Config) (events : List (AuthEvent × Store))
    (A : AccessState)
    : Prop where
  named : ∀ user, A.curAuthUser = some user → lastUserArg events = some user
  loggedIn
    : A.authIsThere = true
      → ∃ user, LoggedIn ext cfg events user ∧ (cfg.useAcl = true → A.curAuthUser = some user)

section History

variable {ext : Extern} {cfg : Config} {events : List (AuthEvent × Store)} {s : Store}

theorem lastUserArg_user (arg : Option Str)
    : lastUserArg (events ++ [(.user arg, s)]) = arg.or (lastUserArg events) := by
  cases arg with
  | none => simp [lastUserArg, List.filterMap_append]
  | some user => simp [lastUserArg, List.filterMap_append]

theorem lastUserArg_pass (arg : Option Str)
    : lastUserArg (events ++ [(.pass arg, s)]) = lastUserArg events := by
  simp [lastUserArg, List.filterMap_append]

/-- An evaluated AUTHINFO command keeps the invariant. -/
theorem AuthInv.authAfter {A : AccessState} (inv : AuthInv ext cfg events A) (event : AuthEvent)
    : AuthInv ext cfg (events ++ [(event, s)]) (authAfter ext cfg s A event) := by
  cases event with
  | user arg =>
      refine ⟨?_, fun there => by cases there⟩
      intro user named
      rw [lastUserArg_user]
      cases arg with
      | none => exact inv.named user named
      | some arg => exact named
  | pass arg =>
      simp only [WendzelNNTPd.authAfter]
      split
      · rename_i user pass current
        have last := inv.named user current
        refine ⟨?_, ?_⟩
        · intro user' named
          rw [lastUserArg_pass, last]
          split at named
          · exact named
          · cases named
        · intro there
          refine ⟨user, ⟨pass, s, by simp, ?_, ?_⟩, fun useAcl => by simp [useAcl]⟩
          · rw [lastUserArg_pass, last]
          · exact List.contains_iff_mem.mp there
      · refine ⟨?_, fun there => by cases there⟩
        intro user named
        rw [lastUserArg_pass]
        exact inv.named user named

/-- Other commands leave the authentication as it is. -/
theorem AuthInv.of_same {A A' : AccessState} (inv : AuthInv ext cfg events A)
    (auth : A'.authIsThere = A.authIsThere) (user : A'.curAuthUser = A.curAuthUser)
    : AuthInv ext cfg events A' := by
  refine ⟨?_, ?_⟩
  · rw [user]
    exact inv.named
  · rw [auth, user]
    exact inv.loggedIn

theorem atCommand_auth (A : AccessState)
    : A.atCommand.authIsThere = A.authIsThere ∧ A.atCommand.curAuthUser = A.curAuthUser := by
  unfold AccessState.atCommand
  split <;> exact ⟨rfl, rfl⟩

/-- One served line keeps the invariant, with the events of the line added. -/
theorem AuthInv.serve {conn conn' : Connection} {line : Line}
    (inv : AuthInv ext cfg events conn.session.access) (idle : conn.session.curstring = [])
    (served : conn.serve ext cfg line = some conn')
    : AuthInv ext cfg
        (events
          ++ (authinfoEvent cfg conn.session.access.atCommand.tlsActive line.command).toList.map
            (fun event => (event, conn.store)))
        conn'.session.access := by
  obtain ⟨⟨A', step, replying⟩, -, -⟩ :=
    serve_steps (P := fun _ => True) idle (fun _ _ _ => trivial) served
  rw [replying.access]
  have start : AuthInv ext cfg events conn.session.access.atCommand :=
    inv.of_same (atCommand_auth _).1 (atCommand_auth _).2
  have other {A' : AccessState}
      (event : authinfoEvent cfg conn.session.access.atCommand.tlsActive line.command = none)
      (inv' : AuthInv ext cfg events A')
      : AuthInv ext cfg
          (events
            ++ (authinfoEvent cfg conn.session.access.atCommand.tlsActive line.command).toList.map
              (fun event => (event, conn.store))) A' := by
    simpa [event] using inv'
  cases step with
  | unchanged event => exact other event start
  | authinfo event evaluated => simpa [evaluated] using start.authAfter event
  | group name event allowed => exact other event (start.of_same rfl rfl)
  | listgroup name event isListgroup may tls arg there => exact other event (start.of_same rfl rfl)
  | starttls event => exact other event (start.of_same rfl rfl)

/-- The run lemma: the invariant holds of the events of all lines served so far. -/
theorem AuthInv.serveAll {conn conn' : Connection} (lines : List Line)
    (inv : AuthInv ext cfg events conn.session.access) (idle : conn.session.curstring = [])
    (served : conn.serveAll ext cfg lines = some conn')
    : AuthInv ext cfg (events ++ conn.authEvents ext cfg lines) conn'.session.access := by
  induction lines generalizing conn events with
  | nil =>
      cases served
      simpa [Connection.authEvents] using inv
  | cons line rest ih =>
      rw [Connection.serveAll, List.foldlM_cons] at served
      obtain ⟨next, first, later⟩ := Option.bind_eq_some_iff.mp served
      have nextIdle := (serve_steps (P := fun _ => True) idle (fun _ _ _ => trivial) first).2.1
      have done := ih (inv.serve idle first) nextIdle later
      simpa [Connection.authEvents, first] using done

theorem serveAll_idle {conn conn' : Connection} (lines : List Line)
    (idle : conn.session.curstring = []) (served : conn.serveAll ext cfg lines = some conn')
    : conn'.session.curstring = [] := by
  induction lines generalizing conn with
  | nil =>
      cases served
      exact idle
  | cons line rest ih =>
      rw [Connection.serveAll, List.foldlM_cons] at served
      obtain ⟨next, first, later⟩ := Option.bind_eq_some_iff.mp served
      exact ih (serve_steps (P := fun _ => True) idle (fun _ _ _ => trivial) first).2.1 later

/-- Only an evaluated AUTHINFO changes the authentication. -/
theorem AccessStep.keeps_auth {command : Str} {A A' : AccessState}
    (step : AccessStep ext cfg s command A A')
    (event : authinfoEvent cfg A.tlsActive command = none)
    : A'.authIsThere = A.authIsThere ∧ A'.curAuthUser = A.curAuthUser := by
  cases step with
  | authinfo evaluated found =>
      rw [event] at found
      cases found
  | _ => exact ⟨rfl, rfl⟩

end History

section Statements

variable {ext : Extern} {cfg : Config}

/-- Sending a text performs no statement. -/
theorem toSend_uses {allowed : Stmt → Prop} (text : Str) : HandlerUses allowed (toSend text) :=
  HandlerUses.modify _

theorem docmdAuthinfoUser_uses {allowed : Stmt → Prop} (command : Str)
    : HandlerUses allowed (docmdAuthinfoUser command) := by
  refine (HandlerUses.modify _).bind (fun _ => ?_)
  split
  · exact toSend_uses _
  · exact (HandlerUses.modify _).bind (fun _ => toSend_uses _)

/-- AUTHINFO PASS queries the table `users` only. -/
theorem docmdAuthinfoPass_uses (command : Str)
    : HandlerUses (fun op => ∃ name password, op = Stmt.selectUsers name password)
        (docmdAuthinfoPass ext cfg command) := by
  have check : HandlerUses (fun op => ∃ name password, op = Stmt.selectUsers name password)
      dbAuthinfoCheck := by
    refine HandlerUses.get.bind (fun s => ?_)
    split
    · rename_i user pass _ _
      exact fun r => ⟨⟨user, pass, rfl⟩, fun _ => trivial⟩
    · exact fun r => trivial
  refine (HandlerUses.modify _).bind (fun _ => HandlerUses.get.bind (fun s => ?_))
  split
  · exact toSend_uses _
  · split
    · exact toSend_uses _
    · refine (HandlerUses.modify _).bind (fun _ => check.bind (fun _ => ?_))
      refine HandlerUses.get.bind (fun s => (toSend_uses _).bind (fun _ => ?_))
      exact HandlerUses.modify _

theorem docmdStarttls_uses {allowed : Stmt → Prop} : HandlerUses allowed (docmdStarttls cfg) := by
  refine HandlerUses.get.bind (fun s => ?_)
  refine HandlerUses.ite (fun _ => toSend_uses _) (fun _ => ?_)
  refine HandlerUses.ite (fun _ => toSend_uses _) (fun _ => ?_)
  refine HandlerUses.ite (fun _ => toSend_uses _) (fun _ => ?_)
  exact (HandlerUses.modify _).bind (fun _ => toSend_uses _)

theorem docmdCapabilities_uses {allowed : Stmt → Prop}
    : HandlerUses allowed (docmdCapabilities cfg) := by
  have last : HandlerUses allowed (toSend capsstringPost >>= fun _ => toSend periodEnd) :=
    (toSend_uses _).bind (fun _ => toSend_uses _)
  refine HandlerUses.get.bind (fun r => ?_)
  refine (toSend_uses _).bind (fun _ => (toSend_uses _).bind (fun _ => ?_))
  refine (toSend_uses _).bind (fun _ => (toSend_uses _).bind (fun _ => ?_))
  refine HandlerUses.ite (fun _ => (toSend_uses _).bind (fun _ => ?_)) (fun _ => ?_)
  all_goals
    exact HandlerUses.ite (fun _ => (toSend_uses _).bind (fun _ => last)) (fun _ => last)

theorem lastCommands_uses {allowed : Stmt → Prop} (authenticated : Bool) (command : Str)
    : HandlerUses allowed (lastCommands cfg authenticated command) := by
  refine HandlerUses.ite (fun _ => docmdStarttls_uses) (fun _ => ?_)
  refine HandlerUses.ite (fun _ => toSend_uses _) (fun _ => ?_)
  exact HandlerUses.ite (fun _ => toSend_uses _) (fun _ => toSend_uses _)

/-- Without TLS where it is mandatory, `CHECK_MANDATORY_TLS` runs no command. -/
theorem checkMandatoryTls_uses {allowed : Stmt → Prop} {r : Session} {m : Srv Unit}
    (uses : (!r.tlsActive && cfg.tlsIsMandatory) = false → (m.run r).Uses allowed)
    : ((checkMandatoryTls cfg m).run r).Uses allowed := by
  show ((if !r.tlsActive && cfg.tlsIsMandatory then toSend tlsReq else m).run r).Uses allowed
  split
  · exact toSend_uses _ r
  · rename_i passed
    exact uses (by simpa using passed)

theorem quit_uses {allowed : Stmt → Prop}
    : HandlerUses allowed (send quitstring >>= fun _ => (killThread : Srv Unit)) :=
  (HandlerUses.modify _).bind (fun _ => fun _ => trivial)

/-- The dispatch of `do_command` from a fixed session. -/
theorem doCommand_uses {allowed : Stmt → Prop} (env : Env) (command : Str) {r : Session}
    (user : ((checkMandatoryTls cfg (docmdAuthinfoUser command)).run r).Uses allowed)
    (pass : ((checkMandatoryTls cfg (docmdAuthinfoPass ext cfg command)).run r).Uses allowed)
    (rest
      : ∀ entry ∈ authCommands ext cfg env command,
        (r.authIsThere || !cfg.useAuth) = true → (entry.2.run r).Uses allowed)
    : ((doCommand ext cfg env command).run r).Uses allowed := by
  have ite {c : Prop} [Decidable c] {m m' : Srv Unit} (yes : (m.run r).Uses allowed)
      (no : (m'.run r).Uses allowed)
      : ((if c then m else m').run r).Uses allowed := by
    split
    · exact yes
    · exact no
  refine ite (quit_uses r) (ite user (ite pass ?_))
  dsimp only
  split
  · rename_i entry found
    obtain ⟨authenticated, -⟩ : (r.authIsThere || !cfg.useAuth) = true
        ∧ caseEqPrefix entry.1 command = true := by
      simpa using List.find?_some found
    exact rest entry (List.mem_of_find?_eq_some found) authenticated
  · exact lastCommands_uses _ command r

/-- Unauthenticated clients reach the table `users` and nothing else. -/
theorem doCommand_uses_users (env : Env) (command : Str) (useAuth : cfg.useAuth = true)
    {r : Session} (unauthenticated : r.authIsThere = false)
    : ((doCommand ext cfg env command).run r).Uses
        (fun op => ∃ name password, op = Stmt.selectUsers name password) := by
  refine doCommand_uses env command ?_ ?_ ?_
  · exact checkMandatoryTls_uses (fun _ => docmdAuthinfoUser_uses command r)
  · exact checkMandatoryTls_uses (fun _ => docmdAuthinfoPass_uses command r)
  · intro entry _ authenticated
    rw [unauthenticated, useAuth] at authenticated
    cases authenticated

/-- Without mandatory TLS no statement is executed at all.
Witness: all commands that perform statements are behind `CHECK_MANDATORY_TLS`.
-/
theorem doCommand_uses_nothing (env : Env) (command : Str) (mandatory : cfg.tlsIsMandatory = true)
    {r : Session} (inactive : r.tlsActive = false)
    : ((doCommand ext cfg env command).run r).Uses (fun _ => False) := by
  have stopped (m : Srv Unit) : ((checkMandatoryTls cfg m).run r).Uses (fun _ => False) := by
    refine checkMandatoryTls_uses (fun passed => ?_)
    rw [inactive, mandatory] at passed
    cases passed
  refine doCommand_uses env command (stopped _) (stopped _) ?_
  intro entry member _
  simp only [authCommands, List.mem_cons, List.not_mem_nil, or_false] at member
  rcases member with rfl | rfl | rfl | rfl | rfl | rfl | rfl | rfl | rfl | rfl | rfl | rfl
    | rfl | rfl | rfl | rfl | rfl
  case inr.inl => exact toSend_uses _ r
  case inr.inr.inr.inr.inr.inl => exact toSend_uses _ r
  all_goals first
    | exact stopped _
    | exact toSend_uses _ r
    | exact docmdCapabilities_uses r

theorem switchToTls_run (env : Env) (r : Session)
    : (switchToTls env).run r
      = if r.switchToTls then
          if env.tlsSessionInit then
            .done
              ((),
                { r with
                  switchToTls := false
                  tlsActive := true
                  selectedGroup := none
                  selectedArticle := none })
          else .stop (.killThread r.sent)
        else .done ((), r) := by
  show StateT.run (if r.switchToTls = true then _ else _) r = _
  split
  · split <;> rfl
  · rfl

/-- A served line runs `do_command` behind the switch to TLS. -/
theorem program_uses {allowed : Stmt → Prop} {conn : Connection} {line : Line}
    (command
      : ∀ r : Session, r.access = conn.session.access.atCommand
        → ((doCommand ext cfg line.env line.command).run r).Uses allowed)
    : (conn.program ext cfg line).Uses allowed := by
  have rest {r : Session} (access : r.access = conn.session.access.atCommand)
      : ((do
          doCommand ext cfg line.env line.command
          let s ← get
          if s.curstring = [] then crash
          else modify (fun s => { s with sent := s.sent ++ s.curstring, curstring := [] })
          : Srv Unit).run r).Uses allowed := by
    rw [StateT.run_bind]
    refine (command r access).bind (fun out => ?_)
    show (StateT.run (if out.2.curstring = [] then crash else _) out.2).Uses allowed
    split <;> exact trivial
  rw [Connection.program, serveLine, serveLineOn, StateT.run_bind, switchToTls_run]
  split
  · rename_i asked
    have switches : conn.session.access.switchToTls = true := asked
    split
    · refine rest ?_
      rw [AccessState.atCommand, if_pos switches]
      rfl
    · trivial
  · rename_i notAsked
    have stays : ¬conn.session.access.switchToTls = true := notAsked
    refine rest ?_
    rw [AccessState.atCommand, if_neg stays]
    rfl

end Statements

/-- The authentication of every reachable session. The arguments are those of the command
strings that `do_command` evaluates. A client is authenticated only behind an AUTHINFO PASS
that matched a row for the user named last; an unauthenticated client reaches the table
`users` only; without mandatory TLS no AUTHINFO is evaluated and no statement executed.
Witness: the run lemma of `AuthInv`, and the statements of each branch of `do_command`.
-/
theorem session_authentication (ext : Extern) (cfg : Config) (tlsActive : Bool)
    (cmdtype : Cmdtype) (speccmd : Speccmd) (store : Store) (lines : List Line)
    (conn : Connection)
    (reached
      : Connection.serveAll ext cfg ⟨Session.fresh cfg tlsActive cmdtype speccmd, store⟩ lines
        = some conn)
    : (cfg.useAuth = true
        → conn.session.authIsThere = true
        → ∃ user,
            LoggedIn ext cfg
              (Connection.authEvents ext cfg
                ⟨Session.fresh cfg tlsActive cmdtype speccmd, store⟩ lines) user
            ∧ (cfg.useAcl = true → conn.session.curAuthUser = some user))
      ∧ (cfg.useAuth = true
        → conn.session.authIsThere = false
        → ∀ line,
            (conn.program ext cfg line).Uses
              (fun op => ∃ name password, op = Stmt.selectUsers name password))
      ∧ (cfg.tlsIsMandatory = true
        → conn.session.access.atCommand.tlsActive = false
        → ∀ line,
            authinfoEvent cfg conn.session.access.atCommand.tlsActive line.command = none
            ∧ (conn.program ext cfg line).Uses (fun _ => False)
            ∧ ∀ conn', conn.serve ext cfg line = some conn'
              → conn'.session.authIsThere = conn.session.authIsThere
                ∧ conn'.session.curAuthUser = conn.session.curAuthUser) := by
  refine ⟨?_, ?_, ?_⟩
  · intro useAuth there
    have start : AuthInv ext cfg [] (Session.fresh cfg tlsActive cmdtype speccmd).access := by
      refine ⟨fun user named => (by cases named), fun authenticated => ?_⟩
      have fresh : (!cfg.useAuth) = true := authenticated
      rw [useAuth] at fresh
      cases fresh
    exact (start.serveAll lines rfl reached).loggedIn there
  · intro useAuth unauthenticated line
    refine program_uses (fun r access => doCommand_uses_users line.env line.command useAuth ?_)
    have same : r.authIsThere = conn.session.access.atCommand.authIsThere := by
      rw [← access]
      rfl
    rw [same, (atCommand_auth _).1]
    exact unauthenticated
  · intro mandatory inactive line
    have noEvent : authinfoEvent cfg conn.session.access.atCommand.tlsActive line.command = none := by
      simp [authinfoEvent, inactive, mandatory]
    refine ⟨noEvent, ?_, fun conn' served => ?_⟩
    · refine program_uses
        (fun r access => doCommand_uses_nothing line.env line.command mandatory ?_)
      rw [← inactive, ← access]
      rfl
    · have idle : conn.session.curstring = [] := serveAll_idle lines rfl reached
      obtain ⟨⟨A', step, replying⟩, -, -⟩ :=
        serve_steps (P := fun _ => True) idle (fun _ _ _ => trivial) served
      have same := step.keeps_auth noEvent
      rw [← replying.access, (atCommand_auth _).1, (atCommand_auth _).2] at same
      exact same

/-- A library in which the one password of the examples has its real digest. -/
def sampleExtern : Extern where
  sha256hex := fun text =>
    if text = "saltalicesecret99".toList then
      "0a88aff4ba1a97334e95d27e97a36dd7d9787e926be9d18b99574fffa5119a53".toList
    else []
  regexContains := fun pattern text => pattern == text
  localtimeToStr := fun _ => "Thu, 01 Jan 1970 00:00:00".toList
  postnumEq := fun postnum text => dec postnum == text

/-- Authentication and access control switched on, without TLS. -/
def sampleConfig : Config where
  useAuth := true
  useAcl := true
  messageBodyInDb := false
  messageCountInDb := false
  tlsIsMandatory := false
  anonymMessageIds := true
  maxPostSize := 1024
  hashSalt := "salt".toList
  enableStarttls := false

def sampleEnv : Env where
  ltime := some 0
  dateText := "111 19700101000000\r\n".toList
  fam4 := true
  addr := some "127.0.0.1".toList
  hostinfo := none
  hostname := some "news".toList
  domainname := none
  curHighInit := 0
  recv := []
  tlsSessionInit := false

/-- The user alice, two newsgroups of which alice may read the first one, and an article
in each of them. -/
def sampleStore : Store :=
  { Store.empty with
    newsgroups := [⟨"open".toList, 'y', 1⟩, ⟨"closed".toList, 'y', 1⟩]
    ngposts := [⟨"<cdp1@a>".toList, "closed".toList, 1⟩, ⟨"<cdp2@a>".toList, "open".toList, 1⟩]
    postings :=
      [⟨"<cdp1@a>".toList, 0, "b@c".toList, "closed".toList, "s".toList, 1, []⟩,
        ⟨"<cdp2@a>".toList, 0, "b@c".toList, "open".toList, "s".toList, 1, []⟩]
    users :=
      [⟨"alice".toList,
        "0a88aff4ba1a97334e95d27e97a36dd7d9787e926be9d18b99574fffa5119a53".toList⟩]
    aclUsers := [⟨"alice".toList, "open".toList⟩] }

def sampleConnection : Connection :=
  ⟨Session.fresh sampleConfig false .article .cleared, sampleStore⟩

def sampleLine (text : String) : Line := ⟨(text ++ "\r\n").toList, sampleEnv⟩

def sampleLogin : List Line :=
  [sampleLine "AUTHINFO USER alice", sampleLine "AUTHINFO PASS secret99"]

theorem sample_login_authenticates
    : ∃ conn,
        sampleConnection.serveAll sampleExtern sampleConfig sampleLogin = some conn
        ∧ conn.session.authIsThere = true
        ∧ ∃ user,
            LoggedIn sampleExtern sampleConfig
              (sampleConnection.authEvents sampleExtern sampleConfig sampleLogin) user
            ∧ (sampleConfig.useAcl = true → conn.session.curAuthUser = some user) := by
  have ran : (sampleConnection.serveAll sampleExtern sampleConfig sampleLogin).map
      (·.session.authIsThere) = some true := by
    decide +kernel
  obtain ⟨conn, reached, there⟩ := Option.map_eq_some_iff.mp ran
  exact ⟨conn, reached, there,
    (session_authentication sampleExtern sampleConfig false .article .cleared sampleStore
      sampleLogin conn reached).1 rfl there⟩

end WendzelNNTPd
