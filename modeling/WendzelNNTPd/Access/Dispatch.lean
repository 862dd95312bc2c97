import WendzelNNTPd.Access.Groups

/-! What one received line can do to the access state of its session, whatever bytes the
line consists of: the inversion lemma from which all session invariants follow.
-/

namespace WendzelNNTPd

open CString Atomic

/-- An AUTHINFO command that is evaluated, with its argument if it has one. -/
inductive AuthEvent
  | user (arg : Option Str)
  | pass (arg : Option Str)
  deriving DecidableEq, Repr

/-- The command string `do_command` gets for a line: without its end, and escaped. -/
def Line.command (line : Line) : Str := dbSecureSqlbuffer .sqlite3 (stripCr line.recvbuf)

/-- The AUTHINFO command that `do_command` evaluates, if the string is one and TLS, where
it is mandatory, is active. -/
def authinfoEvent (cfg : Config) (tlsActive : Bool) (command : Str) : Option AuthEvent :=
  if !tlsActive && cfg.tlsIsMandatory then none
  else if caseEqPrefix "quit".toList command then none
  else if caseEqPrefix "authinfo user ".toList command then
    some (.user (getSlinearg command 2))
  else if caseEqPrefix "authinfo pass ".toList command then
    some (.pass (getSlinearg command 2))
  else none

/-- The access state behind an evaluated AUTHINFO command. -/
def authAfter (ext : Extern) (cfg : Config) (s : Store) (A : AccessState)
    : AuthEvent → AccessState
  | .user arg => { A with authIsThere := false, curAuthUser := arg.or A.curAuthUser }
  | .pass arg =>
      match A.curAuthUser, arg with
      | some user, some pass =>
          { A with
            authIsThere := s.users.contains ⟨user, getSha256HashFromStr ext cfg user pass⟩
            curAuthUser := if cfg.useAcl then some user else none }
      | _, _ => { A with authIsThere := false }

/-- Commands other than AUTHINFO, STARTTLS and QUIT need an authenticated client. -/
def AccessState.mayCommand (cfg : Config) (A : AccessState) : Bool :=
  A.authIsThere || !cfg.useAuth

/-- Whether `CHECK_MANDATORY_TLS` lets a command through. -/
def AccessState.tlsSuffices (cfg : Config) (A : AccessState) : Bool :=
  A.tlsActive || !cfg.tlsIsMandatory

theorem not_tlsActive_and_mandatory (cfg : Config) (A : AccessState)
    : (!A.tlsActive && cfg.tlsIsMandatory) = !A.tlsSuffices cfg := by
  simp [AccessState.tlsSuffices]

section Events

variable {cfg : Config} {A : AccessState} {command : Str}

theorem authinfoEvent_without_tls (missing : A.tlsSuffices cfg = false)
    : authinfoEvent cfg A.tlsActive command = none := by
  rw [authinfoEvent, not_tlsActive_and_mandatory, missing]
  rfl

theorem authinfoEvent_quit (quit : caseEqPrefix "quit".toList command = true)
    : authinfoEvent cfg A.tlsActive command = none := by
  rw [authinfoEvent, if_pos quit, ite_self]

variable (tls : A.tlsSuffices cfg = true)
  (notQuit : ¬caseEqPrefix "quit".toList command = true)

include tls notQuit in
theorem authinfoEvent_user (user : caseEqPrefix "authinfo user ".toList command = true)
    : authinfoEvent cfg A.tlsActive command = some (.user (getSlinearg command 2)) := by
  rw [authinfoEvent, not_tlsActive_and_mandatory, tls, if_neg (by decide), if_neg notQuit,
    if_pos user]

include tls notQuit in
theorem authinfoEvent_pass (notUser : ¬caseEqPrefix "authinfo user ".toList command = true)
    (pass : caseEqPrefix "authinfo pass ".toList command = true)
    : authinfoEvent cfg A.tlsActive command = some (.pass (getSlinearg command 2)) := by
  rw [authinfoEvent, not_tlsActive_and_mandatory, tls, if_neg (by decide), if_neg notQuit,
    if_neg notUser, if_pos pass]

include notQuit in
theorem authinfoEvent_other (notUser : ¬caseEqPrefix "authinfo user ".toList command = true)
    (notPass : ¬caseEqPrefix "authinfo pass ".toList command = true)
    : authinfoEvent cfg A.tlsActive command = none := by
  rw [authinfoEvent, if_neg notQuit, if_neg notUser, if_neg notPass, ite_self]

end Events

/-- What a command can do to the access state. -/
inductive AccessStep (ext : Extern) (cfg : Config) (s : Store) (command : Str)
    (A : AccessState)
    : AccessState → Prop
  | unchanged (event : authinfoEvent cfg A.tlsActive command = none)
    : AccessStep ext cfg s command A A
  | authinfo (event : AuthEvent) (evaluated : authinfoEvent cfg A.tlsActive command = some event)
    : AccessStep ext cfg s command A (authAfter ext cfg s A event)
  | group (name : Str) (event : authinfoEvent cfg A.tlsActive command = none)
    (allowed : (cfg.useAuth && cfg.useAcl) = true → s.userAllows A.curAuthUser name = true)
    : AccessStep ext cfg s command A { A with selectedGroup := some name }
  | listgroup (name : Str) (event : authinfoEvent cfg A.tlsActive command = none)
    (isListgroup : caseEqPrefix "listgroup".toList command = true)
    (may : A.mayCommand cfg = true) (tls : A.tlsSuffices cfg = true)
    (arg : getSlinearg command 1 = some name) (there : s.HasGroup name)
    : AccessStep ext cfg s command A { A with selectedGroup := some name }
  | starttls (event : authinfoEvent cfg A.tlsActive command = none)
    : AccessStep ext cfg s command A { A with switchToTls := true }

section Handlers

variable {ext : Extern} {cfg : Config} {s₀ : Store} {A : AccessState} {P : Ngpost → Prop}

theorem docmdAuthinfoUser_changes (cfg : Config) (command : Str)
    : Ensures (exec ext) (fun r s => Replying A P r ∧ s = s₀) (docmdAuthinfoUser command)
        (fun _ r s => Replying (authAfter ext cfg s₀ A (.user (getSlinearg command 2))) P r
          ∧ s = s₀)
        (fun reason _ => reason.SentIn P) := by
  rintro r s ⟨replying, rfl⟩
  have access := replying.access
  have texts (text : Str) := rowsIn_append replying.curstring (@rowsIn_text P text)
  unfold docmdAuthinfoUser
  rcases getSlinearg command 2 with _ | user
  · refine ⟨⟨?_, texts parameterMiss, replying.sent⟩, rfl⟩
    rw [← access]
    rfl
  · refine ⟨⟨?_, texts needMoreInf, replying.sent⟩, rfl⟩
    rw [← access]
    rfl

/-- The query of `db_sqlite3_authinfo_check` finds a row if the table holds it. -/
theorem selectUsers_isEmpty (s : Store) (name password : Str)
    : (!(s.users.filter (fun u => u.name == name && u.password == password)).isEmpty)
      = s.users.contains ⟨name, password⟩ := by
  rw [Bool.eq_iff_iff, not_isEmpty_filter, List.contains_iff_mem]
  constructor
  · rintro ⟨u, member, same⟩
    simp only [Bool.and_eq_true, beq_iff_eq] at same
    obtain ⟨rfl, rfl⟩ := same
    exact member
  · intro member
    exact ⟨_, member, by simp⟩

theorem docmdAuthinfoPass_changes (command : Str)
    : Ensures (exec ext) (fun r s => Replying A P r ∧ s = s₀) (docmdAuthinfoPass ext cfg command)
        (fun _ r s => Replying (authAfter ext cfg s₀ A (.pass (getSlinearg command 2))) P r
          ∧ s = s₀)
        (fun reason _ => reason.SentIn P) := by
  rintro r s ⟨replying, rfl⟩
  have access := replying.access
  have texts (text : Str) := rowsIn_append replying.curstring (@rowsIn_text P text)
  have sent := replying.sent
  obtain ⟨_, curAuthUser⟩ := r
  unfold docmdAuthinfoPass
  cases curAuthUser with
  | none =>
      refine ⟨⟨?_, texts needMoreInf, sent⟩, rfl⟩
      rw [← access]
      rfl
  | some user =>
      rcases getSlinearg command 2 with _ | pass
      · refine ⟨⟨?_, texts parameterMiss, sent⟩, rfl⟩
        rw [← access]
        rfl
      · have found := selectUsers_isEmpty s user (getSha256HashFromStr ext cfg user pass)
        refine ⟨⟨?_, texts _, sent⟩, rfl⟩
        rw [← access]
        simp only [authAfter, Session.access, ← found]
        rfl

theorem quiet_docmdStarttls
    : Ensures (exec ext) (fun r s => Replying A P r ∧ s = s₀) (docmdStarttls cfg)
        (fun _ r s => (Replying A P r ∨ Replying { A with switchToTls := true } P r) ∧ s = s₀)
        (fun reason _ => reason.SentIn P) := by
  have refuse (text : Str)
      : Ensures (exec ext) (fun r s => Replying A P r ∧ s = s₀) (toSend text)
          (fun _ r s => (Replying A P r ∨ Replying { A with switchToTls := true } P r) ∧ s = s₀)
          (fun reason _ => reason.SentIn P) := by
    rintro r s ⟨replying, rfl⟩
    refine ⟨Or.inl ⟨replying.access, ?_, replying.sent⟩, rfl⟩
    exact rowsIn_append replying.curstring (rowsIn_text text)
  refine Ensures.read (fun r _ => ?_)
  refine Ensures.ite (fun _ => refuse _) (fun _ => Ensures.ite (fun _ => refuse _) (fun _ => ?_))
  refine Ensures.ite (fun _ => refuse _) (fun _ => ?_)
  rintro r s ⟨replying, rfl⟩
  refine ⟨Or.inr ⟨?_, ?_, replying.sent⟩, rfl⟩
  · rw [← replying.access]
    rfl
  · exact rowsIn_append replying.curstring (rowsIn_text _)

end Handlers

section Command

variable {ext : Extern} {cfg : Config} {s₀ : Store} {A : AccessState} {P : Ngpost → Prop}
  {command : Str}

/-- The command makes one of the listed changes to the access state, leaves the access
tables alone and shows only rows in `P`. -/
abbrev StepsFrom (ext : Extern) (cfg : Config) (s₀ : Store) (A : AccessState)
    (P : Ngpost → Prop) (command : Str) (m : Srv Unit)
    : Prop :=
  Ensures (exec ext) (fun r s => Replying A P r ∧ s = s₀) m
    (fun _ r s =>
      (∃ A', AccessStep ext cfg s₀ command A A' ∧ Replying A' P r)
      ∧ s.accessTables = s₀.accessTables)
    (fun reason _ => reason.SentIn P)

theorem stepsFrom_quiet (event : authinfoEvent cfg A.tlsActive command = none) {m : Srv Unit}
    (quiet : Quiet ext s₀.accessTables A P m)
    : StepsFrom ext cfg s₀ A P command m :=
  Ensures.weaken quiet (fun _ _ start => ⟨start.1, by rw [start.2]⟩)
    (fun _ _ _ done => ⟨⟨A, .unchanged event, done.1⟩, done.2⟩)

/-- `CHECK_MANDATORY_TLS` runs its command only where TLS suffices. -/
theorem stepsFrom_checkMandatoryTls {m : Srv Unit}
    (event : A.tlsSuffices cfg = false → authinfoEvent cfg A.tlsActive command = none)
    (steps : A.tlsSuffices cfg = true → StepsFrom ext cfg s₀ A P command m)
    : StepsFrom ext cfg s₀ A P command (checkMandatoryTls cfg m) := by
  refine Ensures.read (fun r ⟨_, start⟩ => ?_)
  have tls : r.tlsActive = A.tlsActive := by
    rw [← start.1.access]
    rfl
  rw [tls, not_tlsActive_and_mandatory]
  refine Ensures.ite (fun refused => ?_) (fun passed => ?_)
  · exact stepsFrom_quiet (event (by simpa using refused)) (quiet_toSend _)
  · exact steps (by simpa using passed)

/-- A reading command that is answered only to authenticated clients.
Witness: one case for each branch of `do_command` behind `QUESTION_AUTH`.
-/
theorem authCommands_steps (env : Env) (event : authinfoEvent cfg A.tlsActive command = none)
    (may : A.mayCommand cfg = true)
    (shown
      : ∀ row,
        A.selectedGroup = some row.ng
          ∨ ((cfg.useAuth && cfg.useAcl) = true → s₀.userAllows A.curAuthUser row.ng = true)
        → P row)
    {entry : Str × Srv Unit} (member : entry ∈ authCommands ext cfg env command)
    (selects : caseEqPrefix entry.1 command = true)
    : StepsFrom ext cfg s₀ A P command entry.2 := by
  have selected (row : Ngpost) (same : A.selectedGroup = some row.ng) : P row :=
    shown row (Or.inl same)
  have quiet {m : Srv Unit} (quiet : Quiet ext s₀.accessTables A P m)
      : StepsFrom ext cfg s₀ A P command (checkMandatoryTls cfg m) :=
    stepsFrom_checkMandatoryTls (fun _ => event) (fun _ => stepsFrom_quiet event quiet)
  simp only [authCommands, List.mem_cons, List.not_mem_nil, or_false] at member
  rcases member with rfl | rfl | rfl | rfl | rfl | rfl | rfl | rfl | rfl | rfl | rfl | rfl
    | rfl | rfl | rfl | rfl | rfl
  · exact quiet (quiet_docmdList cfg command .listNewsgroups)
  · exact stepsFrom_quiet event (quiet_toSend _)
  · refine stepsFrom_checkMandatoryTls (fun _ => event) (fun tls => ?_)
    refine (docmdListgroup_selects command (fun row allowed => shown row (Or.inr allowed))).post ?_
    rintro _ r s ⟨⟨g, replying, rfl | ⟨name, rfl, arg, there⟩⟩, tables⟩
    · exact ⟨⟨A, .unchanged event, replying⟩, tables⟩
    · exact ⟨⟨_, .listgroup name event selects may tls arg there, replying⟩, tables⟩
  · exact quiet (quiet_docmdList cfg command .list)
  · exact quiet (quiet_docmdList cfg command .xgtitle)
  · exact stepsFrom_quiet event (quiet_toSend _)
  · refine stepsFrom_checkMandatoryTls (fun _ => event) (fun _ => ?_)
    refine Ensures.weaken (docmdGroup_selects command)
      (fun _ _ start => ⟨start.1, by rw [start.2]⟩) ?_
    rintro _ r s ⟨⟨g, replying, rfl | ⟨name, rfl, allowed⟩⟩, tables⟩
    · exact ⟨⟨A, .unchanged event, replying⟩, tables⟩
    · exact ⟨⟨_, .group name event allowed, replying⟩, tables⟩
  · exact quiet (quiet_docmdXover env command selected)
  · exact quiet (quiet_docmdXhdr env command selected)
  · exact quiet (quiet_docmdArticle cfg command selected)
  · exact quiet (quiet_docmdArticle cfg command selected)
  · exact quiet (quiet_docmdArticle cfg command selected)
  · exact quiet (quiet_docmdArticle cfg command selected)
  · exact quiet (quiet_toSend _)
  · exact quiet (quiet_docmdPost cfg env)
  · exact stepsFrom_quiet event (quiet_toSend _)
  · exact stepsFrom_quiet event (quiet_docmdCapabilities cfg)

/-- The inversion lemma of `do_command`. Rows are shown to clients that may command, and
only rows of the selected newsgroup or of one the user has access to. -/
theorem doCommand_steps (env : Env)
    (shown
      : ∀ row,
        A.mayCommand cfg = true
        → A.selectedGroup = some row.ng
          ∨ ((cfg.useAuth && cfg.useAcl) = true → s₀.userAllows A.curAuthUser row.ng = true)
        → P row)
    : StepsFrom ext cfg s₀ A P command (doCommand ext cfg env command) := by
  refine Ensures.read (fun r ⟨_, start⟩ => ?_)
  have authenticated : (r.authIsThere || !cfg.useAuth) = A.mayCommand cfg := by
    rw [← start.1.access]
    rfl
  refine Ensures.ite (fun quit => ?_) (fun notQuit => ?_)
  · exact stepsFrom_quiet (authinfoEvent_quit quit)
      ((quiet_send _).bind (fun _ => quiet_killThread))
  refine Ensures.ite (fun user => ?_) (fun notUser => ?_)
  · refine stepsFrom_checkMandatoryTls authinfoEvent_without_tls (fun tls => ?_)
    refine (docmdAuthinfoUser_changes cfg command).post ?_
    rintro _ r s ⟨replying, rfl⟩
    exact ⟨⟨_, .authinfo _ (authinfoEvent_user tls notQuit user), replying⟩, rfl⟩
  refine Ensures.ite (fun pass => ?_) (fun notPass => ?_)
  · refine stepsFrom_checkMandatoryTls authinfoEvent_without_tls (fun tls => ?_)
    refine (docmdAuthinfoPass_changes command).post ?_
    rintro _ r s ⟨replying, rfl⟩
    exact ⟨⟨_, .authinfo _ (authinfoEvent_pass tls notQuit notUser pass), replying⟩, rfl⟩
  have event : authinfoEvent cfg A.tlsActive command = none :=
    authinfoEvent_other notQuit notUser notPass
  simp only [authenticated]
  split
  · rename_i entry found
    obtain ⟨may, selects⟩ : A.mayCommand cfg = true ∧ caseEqPrefix entry.1 command = true := by
      simpa using List.find?_some found
    exact authCommands_steps env event may (fun row => shown row may)
      (List.mem_of_find?_eq_some found) selects
  · refine Ensures.ite (fun _ => ?_) (fun _ => ?_)
    · refine quiet_docmdStarttls.post ?_
      rintro _ r s ⟨replying | replying, rfl⟩
      · exact ⟨⟨A, .unchanged event, replying⟩, rfl⟩
      · exact ⟨⟨_, .starttls event, replying⟩, rfl⟩
    · refine Ensures.ite (fun _ => stepsFrom_quiet event (quiet_toSend _)) (fun _ => ?_)
      refine Ensures.ite (fun _ => stepsFrom_quiet event (quiet_toSend _)) (fun _ => ?_)
      exact stepsFrom_quiet event (quiet_toSend _)

end Command

/-- The access state in which the next command runs: TLS starts first if it was asked for. -/
def AccessState.atCommand (A : AccessState) : AccessState :=
  if A.switchToTls then
    { A with switchToTls := false, tlsActive := true, selectedGroup := none }
  else A

section Lines

variable {ext : Extern} {cfg : Config} {A : AccessState} {P : Ngpost → Prop}

theorem switchToTls_changes {s₀ : Store} (env : Env)
    : Ensures (exec ext) (fun r s => Replying A P r ∧ s = s₀) (switchToTls env)
        (fun _ r s => Replying A.atCommand P r ∧ s = s₀) (fun reason _ => reason.SentIn P) := by
  refine Ensures.read (fun r ⟨_, start⟩ => ?_)
  have asked : r.switchToTls = A.switchToTls := by
    rw [← start.1.access]
    rfl
  rw [asked]
  refine Ensures.ite (fun yes => Ensures.ite (fun _ => ?_) (fun _ => ?_)) (fun no => ?_)
  · refine Ensures.modify (fun r s start => ⟨⟨?_, start.1.curstring, start.1.sent⟩, start.2⟩)
    rw [AccessState.atCommand, if_pos yes, ← start.1.access]
    rfl
  · exact fun r s start => start.1.sent
  · refine Ensures.pure (fun r s start => ?_)
    simpa [AccessState.atCommand, no] using start

/-- One line: a change of the access state, and a reply of rows in `P`. -/
theorem serveLine_steps (ext : Extern) {s₀ : Store} (line : Line)
    (shown
      : ∀ row,
        A.atCommand.mayCommand cfg = true
        → A.atCommand.selectedGroup = some row.ng
          ∨ ((cfg.useAuth && cfg.useAcl) = true
            → s₀.userAllows A.atCommand.curAuthUser row.ng = true)
        → P row)
    : Ensures (exec ext) (fun r s => Replying A P r ∧ s = s₀)
        (serveLine ext cfg line.env line.recvbuf)
        (fun _ r s =>
          (∃ A', AccessStep ext cfg s₀ line.command A.atCommand A' ∧ Replying A' P r)
          ∧ r.curstring = []
          ∧ s.accessTables = s₀.accessTables)
        (fun reason _ => reason.SentIn P) := by
  refine (switchToTls_changes line.env).bind (fun _ => ?_)
  refine (doCommand_steps line.env shown).bind (fun _ => Ensures.read (fun r _ => ?_))
  refine Ensures.ite (fun _ => fun _ _ _ => trivial) (fun _ => ?_)
  refine Ensures.modify ?_
  rintro r s ⟨⟨A', step, replying⟩, tables⟩
  refine ⟨⟨A', step, replying.access, ?_, ?_⟩, rfl, tables⟩
  · intro piece member
    cases member
  · exact rowsIn_append replying.sent replying.curstring

section Served

variable {conn : Connection} {line : Line} (idle : conn.session.curstring = [])
  (shown
    : ∀ row,
      conn.session.access.atCommand.mayCommand cfg = true
      → conn.session.access.atCommand.selectedGroup = some row.ng
        ∨ ((cfg.useAuth && cfg.useAcl) = true
          → conn.store.userAllows conn.session.access.atCommand.curAuthUser row.ng = true)
      → P row)

include idle in
/-- At the start of a line nothing has been replied. -/
theorem replying_start : Replying conn.session.access P { conn.session with sent := [] } := by
  have nothing : RowsIn P [] := fun piece member => by cases member
  refine ⟨rfl, ?_, nothing⟩
  simp only [idle]
  exact nothing

include idle shown in
/-- The inversion lemma of one served line. -/
theorem serve_steps {conn' : Connection} (served : conn.serve ext cfg line = some conn')
    : (∃ A', AccessStep ext cfg conn.store line.command conn.session.access.atCommand A'
        ∧ Replying A' P conn'.session)
      ∧ conn'.session.curstring = []
      ∧ conn'.store.accessTables = conn.store.accessTables := by
  unfold Connection.serve at served
  split at served
  · rename_i value session store ran
    cases served
    exact (serveLine_steps ext line shown).run_ok ⟨replying_start idle, rfl⟩ ran
  · cases served

include idle shown in
/-- All rows in the reply to a line are in `P`. -/
theorem reply_rowsIn : RowsIn P (conn.reply ext cfg line) := by
  have steps := serveLine_steps ext line shown _ _ ⟨replying_start idle, rfl⟩
  unfold Prog.wp at steps
  unfold Connection.reply Connection.program
  split at steps
  · rename_i ran
    rw [ran]
    obtain ⟨⟨A', -, replying⟩, -⟩ := steps
    exact replying.sent
  · rename_i reason store ran
    rw [ran]
    cases reason with
    | killThread sent => exact steps
    | crash => exact fun piece member => by cases member
    | waiting => exact fun piece member => by cases member

end Served

end Lines

end WendzelNNTPd
