import WendzelNNTPd.Access.BackendFrames
import WendzelNNTPd.Access.DateFlag

/-! What the reply to XHDR depends on. XHDR asks for the conversion of dates before it looks at
the article argument, and the request is withdrawn behind the query only: an XHDR for the date
that is refused in between leaves it to the XHDR commands that follow.
-/

namespace WendzelNNTPd

open CString Atomic

-----------------------------------------------------------------------------------------
-- The article argument
-----------------------------------------------------------------------------------------

/-- The handler asks the database and leaves the session alone; of the session only what has been
sent matters, to a client that is killed. -/
def Asks {α : Type} (m : Srv α) : Prop :=
  ∃ p : List Piece → Prog Sql Exit α, ∀ r, m.run r = p r.sent >>= fun a => pure (a, r)

namespace SrvBackend

variable (db : SrvBackend) (ext : Extern) (cfg : Config) (env : Env)

/-- Whether XHDR refuses its article argument. -/
def refusesArticle (cmdstring group : Str) (realMax : Nat) : Srv Bool := do
  let s ← get
  match getSlinearg cmdstring 2 with
  | none => pure (s.selectedArticle.all (fun article => decide (atoiU32 article > realMax)))
  | some arg =>
      if arg.head? = some '<' then do
        let there ← db.chkIfMsgidExists group arg
        pure (!there)
      else
        let (min, max) := articleRange realMax arg
        pure (decide (min > realMax ∨ max > realMax ∨ min > max))

/-- Whether XHDR is asked for the date and refuses its article argument. -/
def refusesDate (cmdstring : Str) : Srv Bool := do
  let s ← get
  match s.selectedGroup, (getSlinearg cmdstring 1).bind xhdrPart with
  | some group, some .date => do
      let realMax ← db.getHighValue env group
      db.refusesArticle cmdstring group realMax
  | _, _ => pure false

/-- The line is an XHDR command for the date that `do_command` lets through and that is refused
for its article argument. -/
def leavesDate (conn : Connection) (line : Line) : Bool :=
  let A := conn.session.access
  caseEqPrefix "xhdr".toList (db.command line.recvbuf)
  && A.mayCommand cfg && A.tlsSuffices cfg && !A.switchToTls
  && match ((db.refusesDate line.env (db.command line.recvbuf)).run
        { conn.session with sent := [] }).run (execOn db.dbase ext) conn.store with
    | (.ok (refused, _), _) => refused
    | _ => false

/-- No line of a run leaves the conversion of dates to the lines that follow. -/
def leavesNoDate (conn : Connection) : List Round → Bool
  | [] => true
  | round :: rest =>
      !db.leavesDate ext cfg (conn.meanwhile round) round.line
      && match db.serve ext cfg (conn.meanwhile round) round.line with
        | some next => leavesNoDate next rest
        | none => true

end SrvBackend

section Queries

variable {ext : Extern}

theorem Asks.bind_pure {α β : Type} {m : Srv α} (asks : Asks m) (f : α → β)
    : Asks (m >>= fun a => pure (f a)) := by
  obtain ⟨p, runs⟩ := asks
  refine ⟨fun sent => p sent >>= fun a => pure (f a), fun r => ?_⟩
  show _ = (p r.sent >>= fun a => pure (f a)) >>= fun b => pure (b, r)
  rw [StateT.run_bind, runs]
  generalize p r.sent = q
  induction q with
  | done value => rfl
  | stop reason => rfl
  | act op next ih =>
      simp only [Prog.act_bind]
      exact congrArg (Prog.act op) (funext ih)

theorem asks_sql (op : Stmt) : Asks (sql op) := ⟨fun _ => .act op .done, fun _ => rfl⟩

theorem asks_mysqlSrv {server : MysqlServer} (names : List Str) (op : Stmt)
    : Asks (mysqlSrv server names op) :=
  ⟨fun sent => mysqlRealQuery server (.killThread sent) names op, fun _ => rfl⟩

theorem asks_postgresSrv (sqlCmd : String) (params : List Str) (op : Stmt)
    : Asks (postgresSrv sqlCmd params op) :=
  ⟨fun sent => pqExecParams (.killThread sent) sqlCmd params op, fun _ => rfl⟩

theorem asks_getHighValue (servers : DbServers) (dbase : Dbase) (env : Env) (group : Str)
    : Asks ((srvBackend servers dbase).getHighValue env group) := by
  cases dbase with
  | sqlite3 => exact (asks_sql _).bind_pure _
  | mysql => exact (asks_mysqlSrv _ _).bind_pure _
  | postgres => exact (asks_postgresSrv _ _ _).bind_pure _

theorem asks_chkIfMsgidExists (servers : DbServers) (dbase : Dbase) (group msgid : Str)
    : Asks ((srvBackend servers dbase).chkIfMsgidExists group msgid) := by
  cases dbase with
  | sqlite3 => exact (asks_sql _).bind_pure _
  | mysql => exact (asks_mysqlSrv _ _).bind_pure _
  | postgres => exact (asks_postgresSrv _ _ _).bind_pure _

end Queries

-----------------------------------------------------------------------------------------
-- One line
-----------------------------------------------------------------------------------------

section Lines

variable {servers : DbServers} {dbase : Dbase} {ext : Extern} {cfg : Config} {env : Env}

/-- From this session and store the handler returns without `SPECCMD_DATE`, if it returns. -/
def EndsUndated (dbase : Dbase) (ext : Extern) (m : Srv Unit) (r : Session) (s : Store) : Prop :=
  (m.run r).wp (execOn dbase ext) (fun out _ => out.2.speccmd ≠ .date ∧ True) (fun _ _ => True) s

theorem Undated.ends {m : Srv Unit} (undated : Undated dbase ext m) {r : Session}
    (start : r.speccmd ≠ .date) (s : Store)
    : EndsUndated dbase ext m r s :=
  undated r s ⟨start, trivial⟩

/-- The reply of XHDR ends with the flag cleared. -/
theorem endsUndated_reply (group : Str) (part : XhdrPart) (msgid : Option Str) (min max : Nat)
    (r : Session) (s : Store)
    : EndsUndated (srvBackend servers dbase).dbase ext
        (SrvBackend.xhdrArticles.reply (srvBackend servers dbase) ext group part msgid min max)
        r s := by
  have clears := (clearsDate servers dbase ext).xhdr part group msgid min max
  have last : Undated (srvBackend servers dbase).dbase ext (toSend periodEnd) := Undated.toSend _
  have replies
      : Ensures (execOn (srvBackend servers dbase).dbase ext) (fun _ _ => True)
          (SrvBackend.xhdrArticles.reply (srvBackend servers dbase) ext group part msgid min max)
          (fun _ r _ => r.speccmd ≠ .date ∧ True) (fun _ _ => True) :=
    Ensures.bind (ensures_true _ _) (fun _ => Ensures.bind clears (fun _ => last))
  exact replies r s trivial

/-- An article argument that is not refused leads to the reply. -/
theorem endsUndated_xhdrArticles {command group : Str} {realMax : Nat} {part : XhdrPart}
    {r r' : Session} {s : Store} (sent : r'.sent = r.sent)
    (article : r'.selectedArticle = r.selectedArticle)
    (fine : (((srvBackend servers dbase).refusesArticle command group realMax).run r).wp
      (execOn (srvBackend servers dbase).dbase ext) (fun out _ => out.1 = false)
      (fun _ _ => True) s)
    : EndsUndated (srvBackend servers dbase).dbase ext
        ((srvBackend servers dbase).xhdrArticles ext command group realMax part) r' s := by
  have range (min max : Nat) (accepted : ¬(min > realMax ∨ max > realMax ∨ min > max))
      : EndsUndated (srvBackend servers dbase).dbase ext
          (SrvBackend.xhdrArticles.range (srvBackend servers dbase) ext group realMax part min max)
          r' s := by
    rw [SrvBackend.xhdrArticles.range, if_neg accepted]
    exact endsUndated_reply _ _ _ _ _ _ _
  unfold SrvBackend.refusesArticle at fine
  unfold SrvBackend.xhdrArticles
  simp only [EndsUndated, StateT.run_bind, StateT.run_get, Prog.pure_eq, Prog.done_bind,
    article] at fine ⊢
  cases given : getSlinearg command 2 with
  | none =>
      simp only [given] at fine ⊢
      cases selected : r.selectedArticle with
      | none =>
          rw [selected] at fine
          cases fine
      | some number =>
          rw [selected] at fine
          have accepted : decide (atoiU32 number > realMax) = false := fine
          apply range
          simp only [decide_eq_false_iff_not] at accepted
          omega
  | some arg =>
      simp only [given] at fine ⊢
      by_cases isId : arg.head? = some '<'
      · rw [if_pos isId] at fine ⊢
        obtain ⟨p, runs⟩ := asks_chkIfMsgidExists servers dbase group arg
        rw [StateT.run_bind, runs, Prog.wp_bind, Prog.wp_bind] at fine ⊢
        rw [sent]
        apply Prog.wp_mono _ fine _ (fun _ _ stopped => stopped)
        intro there s' answer
        have yes : (!there) = false := answer
        have isThere : there = true := by simpa using yes
        show EndsUndated _ ext (if there = true then _ else _) r' s'
        rw [if_pos isThere]
        exact endsUndated_reply _ _ _ _ _ _ _
      · rw [if_neg isId] at fine ⊢
        have accepted : decide ((articleRange realMax arg).1 > realMax
            ∨ (articleRange realMax arg).2 > realMax
            ∨ (articleRange realMax arg).1 > (articleRange realMax arg).2) = false := fine
        exact range _ _ (of_decide_eq_false accepted)

theorem undated_xhdrArticles {command group : Str} {realMax : Nat} {part : XhdrPart}
    : Undated (srvBackend servers dbase).dbase ext
        ((srvBackend servers dbase).xhdrArticles ext command group realMax part) := by
  have reply (msgid : Option Str) (min max : Nat)
      : Undated (srvBackend servers dbase).dbase ext
          (SrvBackend.xhdrArticles.reply (srvBackend servers dbase) ext group part msgid min max) :=
    fun r s _ => endsUndated_reply group part msgid min max r s
  have range (min max : Nat)
      : Undated (srvBackend servers dbase).dbase ext
          (SrvBackend.xhdrArticles.range (srvBackend servers dbase) ext group realMax part min
            max) :=
    (Undated.toSend _).ite (reply _ _ _)
  refine Undated.read (fun r => ?_)
  split
  · split
    · exact Undated.toSend _
    · exact range _ _
  · apply Undated.ite _ (range _ _)
    obtain ⟨p, runs⟩ := asks_chkIfMsgidExists servers dbase group _
    refine Undated.bind ?_ (fun there => (reply _ _ _).ite (Undated.toSend _))
    intro r s start
    rw [runs]
    exact Undated.program (p := fun r => p r.sent) r s start

/-- XHDR for another field than the date leaves no date conversion behind. -/
theorem undated_docmdXhdr {command : Str}
    (other : (getSlinearg command 1).bind xhdrPart ≠ some .date)
    : Undated (srvBackend servers dbase).dbase ext
        ((srvBackend servers dbase).docmdXhdr ext env command) := by
  refine Undated.read (fun r => ?_)
  split
  · exact Undated.toSend _
  · refine Undated.bind ((clearsDate servers dbase ext).getHighValue _ _) (fun realMax => ?_)
    split
    · exact Undated.toSend _
    · rename_i arg given
      split
      · exact Undated.toSend _
      · rename_i part named
        have notDate : part ≠ .date := by
          rintro rfl
          exact other (by rw [given, Option.bind_some, named])
        refine Undated.bind (Undated.modify (fun r date => ?_)) (fun _ => undated_xhdrArticles)
        rwa [if_neg notDate] at date

/-- So does XHDR for the date, if it does not refuse the article argument. -/
theorem endsUndated_docmdXhdr {command : Str} {r : Session} {s : Store}
    (start : r.speccmd ≠ .date)
    (fine : (((srvBackend servers dbase).refusesDate env command).run r).wp
      (execOn (srvBackend servers dbase).dbase ext) (fun out _ => out.1 = false)
      (fun _ _ => True) s)
    : EndsUndated (srvBackend servers dbase).dbase ext
        ((srvBackend servers dbase).docmdXhdr ext env command) r s := by
  by_cases date : (getSlinearg command 1).bind xhdrPart = some .date
  · obtain ⟨arg, given, named⟩ := Option.bind_eq_some_iff.mp date
    unfold SrvBackend.refusesDate at fine
    unfold SrvBackend.docmdXhdr
    simp only [EndsUndated, StateT.run_bind, StateT.run_get, Prog.pure_eq, Prog.done_bind] at fine ⊢
    cases selected : r.selectedGroup with
    | none => exact (Undated.toSend _).ends start s
    | some group =>
        obtain ⟨p, runs⟩ := asks_getHighValue servers dbase env group
        simp only [selected, date] at fine
        simp only [given, named]
        rw [StateT.run_bind, runs, Prog.wp_bind, Prog.wp_bind] at fine ⊢
        apply Prog.wp_mono _ fine _ (fun _ _ stopped => stopped)
        intro realMax s' accepted
        exact endsUndated_xhdrArticles (r := r) rfl rfl accepted
  · exact (undated_docmdXhdr date).ends start s

theorem endsUndated_doCommand {command : Str} {r : Session} {s : Store}
    (start : r.speccmd ≠ .date)
    (fine : caseEqPrefix "xhdr".toList command = true → r.access.mayCommand cfg = true →
      r.access.tlsSuffices cfg = true →
        (((srvBackend servers dbase).refusesDate env command).run r).wp
          (execOn (srvBackend servers dbase).dbase ext) (fun out _ => out.1 = false)
          (fun _ _ => True) s)
    : EndsUndated (srvBackend servers dbase).dbase ext
        ((srvBackend servers dbase).doCommand ext cfg env command) r s := by
  have clears := clearsDate servers dbase ext
  have quits : Undated (srvBackend servers dbase).dbase ext
      (do send quitstring; killThread : Srv Unit) :=
    Undated.bind (respects_send _) (fun _ => Undated.killThread)
  unfold SrvBackend.doCommand
  simp only [EndsUndated, StateT.run_bind, StateT.run_get, Prog.pure_eq, Prog.done_bind]
  split
  · exact quits.ends start s
  split
  · exact Undated.ends (respects_checkMandatoryTls (undated_docmdAuthinfoUser command)) start s
  split
  · exact Undated.ends (respects_checkMandatoryTls (undated_docmdAuthinfoPass clears command)) start s
  split
  · rename_i entry chosen
    have selects := List.find?_some chosen
    simp only [Bool.and_eq_true] at selects
    have others := leaves (I := fun r : Session => r.speccmd ≠ .date) servers dbase ext
    rcases respects_authCommands others (List.mem_of_find?_eq_some chosen) with rfl | undated
    · -- the branch of XHDR
      rw [checkMandatoryTls_run]
      split
      · exact (Undated.toSend _).ends start s
      · rename_i suffices'
        have tls : r.access.tlsSuffices cfg = true := by
          rw [← Bool.not_eq_false, ← Bool.not_eq_true', ← not_tlsActive_and_mandatory]
          exact suffices'
        exact endsUndated_docmdXhdr start (fine selects.2 selects.1 tls)
    · exact Undated.ends undated start s
  · exact Undated.ends (respects_lastCommands _ _) start s

theorem endsUndated_serveCommand {recvbuf : Str} {r : Session} {s : Store}
    (ends : EndsUndated (srvBackend servers dbase).dbase ext
      ((srvBackend servers dbase).doCommand ext cfg env
        ((srvBackend servers dbase).command recvbuf)) r s)
    : EndsUndated (srvBackend servers dbase).dbase ext
        ((srvBackend servers dbase).serveCommand ext cfg env recvbuf) r s := by
  have answers : Undated (srvBackend servers dbase).dbase ext
      (do
        let s ← get
        if s.curstring = [] then crash
        else modify (fun s => { s with sent := s.sent ++ s.curstring, curstring := [] })
        : Srv Unit) :=
    Undated.read (fun r => Undated.crash.ite (Undated.modify (fun _ date => date)))
  unfold SrvBackend.serveCommand EndsUndated
  rw [StateT.run_bind, Prog.wp_bind]
  exact Prog.wp_mono _ ends (fun out s' undated => answers out.2 s' undated)
    (fun _ _ stopped => stopped)

/-- A line that is not such a request leaves no date conversion behind. -/
theorem serve_undated {conn conn' : Connection} {line : Line}
    (start : conn.session.speccmd ≠ .date)
    (fine : (srvBackend servers dbase).leavesDate ext cfg conn line = false)
    (served : (srvBackend servers dbase).serve ext cfg conn line = some conn')
    : conn'.session.speccmd ≠ .date := by
  have ended {r : Session} {store : Store} {session : Session} {s : Store}
      (ran : (((srvBackend servers dbase).serveCommand ext cfg line.env line.recvbuf).run r).run
        (execOn (srvBackend servers dbase).dbase ext) s = (.ok ((), session), store))
      (ends : EndsUndated (srvBackend servers dbase).dbase ext
        ((srvBackend servers dbase).doCommand ext cfg line.env
          ((srvBackend servers dbase).command line.recvbuf)) r s)
      : session.speccmd ≠ .date := by
    have undated := endsUndated_serveCommand ends
    unfold EndsUndated Prog.wp at undated
    rw [ran] at undated
    exact undated.1
  unfold SrvBackend.serve SrvBackend.program at served
  rw [serveLine_cases] at served
  split at served
  · rename_i session store ran
    cases served
    split at ran
    · split at ran
      · -- behind the switch to TLS no newsgroup is selected
        exact ended ran (endsUndated_doCommand start (fun _ _ _ => rfl))
      · cases ran
    · rename_i steady
      refine ended ran (endsUndated_doCommand start (fun isXhdr may tls => ?_))
      have noSwitch : conn.session.access.switchToTls = false := Bool.eq_false_iff.mpr steady
      have may' : conn.session.access.mayCommand cfg = true := may
      have tls' : conn.session.access.tlsSuffices cfg = true := tls
      simp only [SrvBackend.leavesDate, isXhdr, may', tls', noSwitch, Bool.not_false,
        Bool.true_and] at fine
      unfold Prog.wp
      split at fine
      · rename_i refused session' store' ran'
        rw [ran']
        exact fine
      · rename_i other
        split
        · rename_i out store' ran'
          exact absurd ran' (other out.1 out.2 store')
        · trivial
  · cases served

/-- Over a whole run. -/
theorem serveRounds_undated {conn conn' : Connection} {rounds : List Round}
    (start : conn.session.speccmd ≠ .date)
    (fine : (srvBackend servers dbase).leavesNoDate ext cfg conn rounds = true)
    (served : (srvBackend servers dbase).serveRounds ext cfg conn rounds = some conn')
    : conn'.session.speccmd ≠ .date := by
  induction rounds generalizing conn with
  | nil =>
      cases served
      exact start
  | cons round rest ih =>
      obtain ⟨next, first, then'⟩ := Option.bind_eq_some_iff.mp served
      simp only [SrvBackend.leavesNoDate, Bool.and_eq_true, Bool.not_eq_true', first] at fine
      have kept : (conn.meanwhile round).session.speccmd ≠ .date := start
      exact ih (serve_undated kept fine.1 first) fine.2 then'

end Lines

-----------------------------------------------------------------------------------------
-- What a row shows
-----------------------------------------------------------------------------------------

/-- The line of XHDR for a row: the requested field of the posting, as a date if it is the date. -/
def xhdrLine (ext : Extern) (part : XhdrPart) (row : Ngpost × Posting) : Str :=
  let value := row.2.column part
  decInt (asInt32 row.1.postnum)
    ++ ' ' :: (if part = .date then ext.localtimeToStr (atol value) else value) ++ "\r\n".toList

/-- A piece made from a row of the newsgroup shows the field of the stored posting. -/
def Piece.ShowsField (ext : Extern) (s : Store) (group : Str) (part : XhdrPart) (piece : Piece)
    : Prop :=
  ∀ n, piece.row = some n →
    n ∈ s.ngposts ∧ n.ng = group
    ∧ ∃ p ∈ s.postings, p.msgid = n.msgid ∧ piece.text = xhdrLine ext part (n, p)

def Session.AllShow (ext : Extern) (s : Store) (group : Str) (part : XhdrPart) (r : Session)
    : Prop :=
  ∀ piece ∈ r.curstring, piece.ShowsField ext s group part

/-- The names that XHDR puts into its statements stand for themselves. -/
def PlainNames (dbase : Dbase) (group : Str) (msgid : Option Str) : Prop :=
  dbase = .sqlite3
  ∨ SqlLiteral.plain group = true ∧ ∀ name, msgid = some name → SqlLiteral.plain name = true

/-- The handler performs the statement as it is, or is stopped. -/
def Performs (op : Stmt) (m : Srv op.Result) : Prop :=
  ∀ r, m.run r = .act op (fun a => .done (a, r)) ∨ ∃ reason, m.run r = .stop reason

section Rows

variable {servers : DbServers} {dbase : Dbase} {ext : Extern} {s₀ : Store}

theorem performs_mysqlSrv {server : MysqlServer} {names : List Str} (op : Stmt)
    (plain : ∀ name ∈ names, SqlLiteral.plain name = true)
    : Performs op (mysqlSrv server names op) := by
  intro r
  left
  show (mysqlRealQuery server (Exit.killThread r.sent) names op >>= _) = _
  rw [mysqlRealQuery_of_plain plain]
  rfl

theorem performs_postgresSrv (sqlCmd : String) (params : List Str) (op : Stmt)
    : Performs op (postgresSrv sqlCmd params op) := by
  intro r
  by_cases required : requiredParams false sqlCmd.toList = params.length
  · left
    show (pqExecParams (Exit.killThread r.sent) sqlCmd params op >>= _) = _
    rw [pqExecParams_of_required required]
    rfl
  · right
    refine ⟨.killThread r.sent, ?_⟩
    show (pqExecParams (Exit.killThread r.sent) sqlCmd params op >>= _) = _
    rw [pqExecParams, if_neg required]
    rfl

theorem Performs.ensures {op : Stmt} {m : Srv op.Result} (performs : Performs op m)
    (query : op.isQuery = true) (I : Session → Prop)
    : Ensures (execOn dbase ext) (fun r s => I r ∧ s = s₀) m
        (fun a r s => (I r ∧ s = s₀) ∧ a = (execOn dbase ext op s₀).1) (fun _ _ => True) := by
  intro r s start
  obtain ⟨held, rfl⟩ := start
  rcases performs r with runs | ⟨reason, runs⟩
  · rw [runs]
    exact ⟨⟨held, execOn_query dbase ext query s⟩, rfl⟩
  · rw [runs]
    trivial

-- the texts of the statements are not to be evaluated
attribute [local irreducible] postgresSrv

theorem keeps_getHighValue {group : Str} {msgid : Option Str}
    (plain : PlainNames dbase group msgid) (env : Env) (I : Session → Prop)
    : Keeps (execOn (srvBackend servers dbase).dbase ext) I (· = s₀) (fun _ => True)
        ((srvBackend servers dbase).getHighValue env group) := by
  have names (given : SqlLiteral.plain group = true)
      : ∀ name ∈ [group], SqlLiteral.plain name = true := by
    simpa using given
  cases dbase with
  | sqlite3 =>
      refine Keeps.bind (fun r s start => ?_) (fun _ => Keeps.pure _)
      exact start
  | mysql =>
      rcases plain with other | ⟨given, _⟩
      · cases other
      · refine Keeps.bind ?_ (fun _ => Keeps.pure _)
        exact ((performs_mysqlSrv _ (names given)).ensures rfl I).post (fun _ _ _ done => done.1)
  | postgres =>
      refine Keeps.bind ?_ (fun _ => Keeps.pure _)
      exact ((performs_postgresSrv _ _ (.selectNewsgroup group)).ensures rfl I).post
        (fun _ _ _ done => done.1)

theorem keeps_chkIfMsgidExists {group msgid : Str} (plain : PlainNames dbase group (some msgid))
    (I : Session → Prop)
    : Keeps (execOn (srvBackend servers dbase).dbase ext) I (· = s₀) (fun _ => True)
        ((srvBackend servers dbase).chkIfMsgidExists group msgid) := by
  cases dbase with
  | sqlite3 =>
      refine Keeps.bind (fun r s start => ?_) (fun _ => Keeps.pure _)
      exact start
  | mysql =>
      rcases plain with other | ⟨given, named⟩
      · cases other
      · have names : ∀ name ∈ [group, msgid], SqlLiteral.plain name = true := by
          simpa using ⟨given, named msgid rfl⟩
        refine Keeps.bind ?_ (fun _ => Keeps.pure _)
        exact ((performs_mysqlSrv _ names).ensures rfl I).post (fun _ _ _ done => done.1)
  | postgres =>
      refine Keeps.bind ?_ (fun _ => Keeps.pure _)
      exact ((performs_postgresSrv _ _ (.selectNgpostsMsgid group msgid)).ensures rfl I).post
        (fun _ _ _ done => done.1)

/-- The rows of the newsgroup with their postings. -/
def Store.HasRow (s : Store) (group : Str) (row : Ngpost × Posting) : Prop :=
  row.1 ∈ s.ngposts ∧ row.1.ng = group ∧ row.2 ∈ s.postings ∧ row.2.msgid = row.1.msgid

theorem hasRow_of_join {group : Str} {p : Ngpost → Bool} {row : Ngpost × Posting}
    (member : row ∈ s₀.joinPostings ((s₀.ngRows group).filter p))
    : s₀.HasRow group row := by
  obtain ⟨n, chosen, joined⟩ := List.mem_flatMap.mp member
  obtain ⟨q, found, rfl⟩ := List.mem_map.mp joined
  have inGroup := List.mem_filter.mp (List.mem_filter.mp chosen).1
  have posting := List.mem_filter.mp found
  exact ⟨inGroup.1, by simpa using inGroup.2, posting.1, by simpa using posting.2⟩

/-- The conversion of dates is switched on exactly for the date, and all rows so far show the
requested field. -/
structure Session.Shows (ext : Extern) (s : Store) (group : Str) (part : XhdrPart) (r : Session)
    : Prop where
  date : r.speccmd = .date ↔ part = .date
  pieces : r.AllShow ext s group part

/-- If the conversion of dates is switched on for the date at most, the handler adds rows that show
the requested field. -/
def ShownBy (dbase : Dbase) (ext : Extern) (s : Store) (group : Str) (part : XhdrPart)
    (m : Srv Unit)
    : Prop :=
  Ensures (execOn dbase ext)
    (fun r s' => ((r.speccmd = .date → part = .date) ∧ r.AllShow ext s group part) ∧ s' = s) m
    (fun _ r s' => r.AllShow ext s group part ∧ s' = s) (fun _ _ => True)

theorem shows_xhdrCb {group : Str} {part : XhdrPart} {row : Ngpost × Posting}
    (stored : s₀.HasRow group row)
    : Keeps (execOn dbase ext) (Session.Shows ext s₀ group part) (· = s₀) (fun _ => True)
        (xhdrCb ext part row) := by
  refine Keeps.get_bind (fun r shows => Keeps.modify (fun r' shows' => ⟨shows'.date, ?_⟩))
  intro piece member
  rcases List.mem_append.mp member with before | new
  · exact shows'.pieces piece before
  · cases List.mem_singleton.mp new
    intro n isRow
    cases isRow
    refine ⟨stored.1, stored.2.1, row.2, stored.2.2.1, stored.2.2.2, ?_⟩
    simp only [xhdrLine, shows.date]

theorem Session.AllShow.append {group : Str} {part : XhdrPart} {r : Session}
    (shows : r.AllShow ext s₀ group part) (text : Str)
    : Session.AllShow ext s₀ group part
        { r with curstring := r.curstring ++ [⟨text, none⟩] } := by
  intro piece member
  rcases List.mem_append.mp member with before | new
  · exact shows piece before
  · cases List.mem_singleton.mp new
    exact fun n isRow => nomatch isRow

theorem shows_toSend {group : Str} {part : XhdrPart} (text : Str)
    : Keeps (execOn dbase ext) (Session.AllShow ext s₀ group part) (· = s₀) (fun _ => True)
        (toSend text) :=
  Keeps.modify (fun _ shows => shows.append text)

/-- The loops of XHDR, whatever their query, show stored rows. -/
theorem shows_xhdr {group : Str} {part : XhdrPart} {query : Srv (List (Ngpost × Posting))}
    (asks : Ensures (execOn dbase ext) (fun r s => r.Shows ext s₀ group part ∧ s = s₀) query
      (fun rows r s => (r.Shows ext s₀ group part ∧ s = s₀) ∧ ∀ row ∈ rows, s₀.HasRow group row)
      (fun _ _ => True))
    : ShownBy dbase ext s₀ group part
        (do
          modify (fun s => { s with speccmd := if part = .date then .date else s.speccmd })
          let rows ← query
          rows.forM (xhdrCb ext part)
          modify (fun s => { s with speccmd := .cleared }) : Srv Unit) := by
  have sets (r : Session) (off : r.speccmd = .date → part = .date)
      : (if part = .date then .date else r.speccmd) = Speccmd.date ↔ part = .date := by
    by_cases date : part = .date
    · simp [date]
    · simp only [date, if_false, iff_false]
      exact fun on => date (off on)
  refine Ensures.bind (R := fun _ r s => r.Shows ext s₀ group part ∧ s = s₀)
    (Ensures.modify (fun r s start => ⟨⟨sets r start.1.1, start.1.2⟩, start.2⟩)) (fun _ => ?_)
  refine Ensures.bind asks (fun rows r s start => ?_)
  have loop : Keeps (execOn dbase ext) (Session.Shows ext s₀ group part) (· = s₀) (fun _ => True)
      (rows.forM (xhdrCb ext part)) :=
    Keeps.forM rows (fun row member => shows_xhdrCb (start.2 row member))
  have ends
      : Ensures (execOn dbase ext) (fun r s => r.Shows ext s₀ group part ∧ s = s₀)
          (do
            rows.forM (xhdrCb ext part)
            modify (fun s => { s with speccmd := .cleared }) : Srv Unit)
          (fun _ r s => r.AllShow ext s₀ group part ∧ s = s₀) (fun _ _ => True) :=
    Ensures.bind loop (fun _ => Ensures.modify (fun r s done => ⟨done.1.pieces, done.2⟩))
  exact ends r s start.1

/-- The queries of XHDR find stored rows. -/
theorem finds_overview {group : Str} {min max : Int} {m : Srv (List (Ngpost × Posting))}
    (performs : Performs (.selectOverview group min max) m) (I : Session → Prop)
    : Ensures (execOn dbase ext) (fun r s => I r ∧ s = s₀) m
        (fun rows r s => (I r ∧ s = s₀) ∧ ∀ row ∈ rows, s₀.HasRow group row)
        (fun _ _ => True) := by
  refine (performs.ensures rfl I).post (fun rows r s done => ⟨done.1, fun row member => ?_⟩)
  rw [done.2] at member
  cases dbase with
  | sqlite3 => exact hasRow_of_join member
  | mysql => exact hasRow_of_join member
  | postgres => exact hasRow_of_join member

theorem finds_overviewMsgid {group msgid : Str} {m : Srv (List (Ngpost × Posting))}
    (performs : Performs (.selectOverviewMsgid group msgid) m) (I : Session → Prop)
    : Ensures (execOn dbase ext) (fun r s => I r ∧ s = s₀) m
        (fun rows r s => (I r ∧ s = s₀) ∧ ∀ row ∈ rows, s₀.HasRow group row)
        (fun _ _ => True) := by
  refine (performs.ensures rfl I).post (fun rows r s done => ⟨done.1, fun row member => ?_⟩)
  rw [done.2] at member
  cases dbase with
  | sqlite3 => exact hasRow_of_join member
  | mysql => exact hasRow_of_join member
  | postgres => exact hasRow_of_join member

theorem performs_xhdrGet {server : PostgresServer} (sqlCmd : String) (params : List Str)
    {names : List Str} (op : Stmt) (plain : ∀ name ∈ names, SqlLiteral.plain name = true)
    : Performs op (xhdrGet server sqlCmd params names op) := by
  have unquoted : names.all (fun name => !name.contains '\'') = true := by
    refine List.all_eq_true.mpr (fun name member => ?_)
    simpa using SqlLiteral.no_quote_of_plain (plain name member)
  have same : xhdrGet server sqlCmd params names op = postgresSrv sqlCmd params op := by
    funext r
    simp only [xhdrGet, unquoted, if_true]
  rw [same]
  exact performs_postgresSrv sqlCmd params op

theorem shows_dbXhdr {group : Str} {part : XhdrPart} {msgid : Option Str}
    (plain : PlainNames dbase group msgid) (min max : Nat)
    : ShownBy (srvBackend servers dbase).dbase ext s₀ group part
        ((srvBackend servers dbase).xhdr ext part group msgid min max) := by
  have names (given : SqlLiteral.plain group = true)
      : ∀ name ∈ [group], SqlLiteral.plain name = true := by
    simpa using given
  cases dbase with
  | sqlite3 =>
      cases msgid with
      | none => exact shows_xhdr (finds_overview (fun _ => Or.inl rfl) _)
      | some msgid => exact shows_xhdr (finds_overviewMsgid (fun _ => Or.inl rfl) _)
  | mysql =>
      rcases plain with other | ⟨given, named⟩
      · cases other
      · cases msgid with
        | none => exact shows_xhdr (finds_overview (performs_mysqlSrv _ (names given)) _)
        | some msgid =>
            have both : ∀ name ∈ [group, msgid], SqlLiteral.plain name = true := by
              simpa using ⟨given, named msgid rfl⟩
            exact shows_xhdr (finds_overviewMsgid (performs_mysqlSrv _ both) _)
  | postgres =>
      rcases plain with other | ⟨given, named⟩
      · cases other
      · cases msgid with
        | none => exact shows_xhdr (finds_overview (performs_xhdrGet _ _ _ (names given)) _)
        | some msgid =>
            have both : ∀ name ∈ [group, msgid], SqlLiteral.plain name = true := by
              simpa using ⟨given, named msgid rfl⟩
            exact shows_xhdr (finds_overviewMsgid (performs_xhdrGet _ _ _ both) _)

theorem PlainNames.none {group : Str} {msgid : Option Str} (plain : PlainNames dbase group msgid)
    : PlainNames dbase group none :=
  plain.imp_right (fun given => ⟨given.1, fun _ isName => nomatch isName⟩)

theorem shows_xhdrArticles {command group : Str} {part : XhdrPart} (realMax : Nat)
    (plain : PlainNames dbase group (getSlinearg command 2))
    : ShownBy (srvBackend servers dbase).dbase ext s₀ group part
        ((srvBackend servers dbase).xhdrArticles ext command group realMax part) := by
  have refuses
      : ShownBy (srvBackend servers dbase).dbase ext s₀ group part (toSend noarticleselected) :=
    Ensures.pre (shows_toSend _) (fun r s start => ⟨start.1.2, start.2⟩)
  have reply {msgid : Option Str} (plain : PlainNames dbase group msgid) (min max : Nat)
      : ShownBy (srvBackend servers dbase).dbase ext s₀ group part
          (SrvBackend.xhdrArticles.reply (srvBackend servers dbase) ext group part msgid min
            max) := by
    have query : ShownBy (srvBackend servers dbase).dbase ext s₀ group part
        ((srvBackend servers dbase).xhdr ext part group msgid min max) :=
      shows_dbXhdr plain min max
    refine Ensures.bind (Ensures.modify ?_) (fun _ => Ensures.bind query (fun _ => shows_toSend _))
    exact fun r s start => ⟨⟨start.1.1, start.1.2.append _⟩, start.2⟩
  have range (min max : Nat)
      : ShownBy (srvBackend servers dbase).dbase ext s₀ group part
          (SrvBackend.xhdrArticles.range (srvBackend servers dbase) ext group realMax part min
            max) :=
    Ensures.ite (fun _ => refuses) (fun _ => reply plain.none _ _)
  refine Ensures.read (fun r _ => ?_)
  split
  · split
    · exact refuses
    · exact range _ _
  · rename_i arg given
    rw [given] at plain
    refine Ensures.ite (fun _ => ?_) (fun _ => range _ _)
    refine Ensures.bind (keeps_chkIfMsgidExists plain _) (fun there => ?_)
    exact Ensures.ite (fun _ => reply plain _ _) (fun _ => refuses)

/-- XHDR shows the requested field, if it starts without `SPECCMD_DATE`. -/
theorem shows_docmdXhdr {env : Env} {command group : Str}
    (plain : PlainNames dbase group (getSlinearg command 2))
    : Ensures (execOn (srvBackend servers dbase).dbase ext)
        (fun r s => (r.selectedGroup = some group ∧ r.speccmd ≠ .date ∧ r.curstring = []) ∧ s = s₀)
        ((srvBackend servers dbase).docmdXhdr ext env command)
        (fun _ r _ => ∀ piece ∈ r.curstring, ∀ n, piece.row = some n →
          ∃ part, (getSlinearg command 1).bind xhdrPart = some part
            ∧ piece.ShowsField ext s₀ group part)
        (fun _ _ => True) := by
  have refuses (text : Str)
      : Ensures (execOn (srvBackend servers dbase).dbase ext)
          (fun r s => (r.selectedGroup = some group ∧ r.speccmd ≠ .date ∧ r.curstring = [])
            ∧ s = s₀)
          (toSend text)
          (fun _ r _ => ∀ piece ∈ r.curstring, ∀ n, piece.row = some n →
            ∃ part, (getSlinearg command 1).bind xhdrPart = some part
              ∧ piece.ShowsField ext s₀ group part)
          (fun _ _ => True) := by
    refine Ensures.modify (fun r s start piece member n isRow => ?_)
    rw [start.1.2.2] at member
    cases List.mem_singleton.mp member
    cases isRow
  refine Ensures.read (fun r start => ?_)
  obtain ⟨_, ⟨selected, _⟩, _⟩ := start
  rw [selected]
  refine Ensures.bind (keeps_getHighValue plain env _) (fun realMax => ?_)
  cases given : getSlinearg command 1 with
  | none =>
      rw [given] at refuses
      exact refuses _
  | some arg =>
      rw [given] at refuses
      cases named : xhdrPart arg with
      | none =>
          simp only [Option.bind_some, named] at refuses ⊢
          exact refuses _
      | some part =>
          simp only [Option.bind_some, named]
          have shown : ShownBy (srvBackend servers dbase).dbase ext s₀ group part
              ((srvBackend servers dbase).xhdrArticles ext command group realMax part) :=
            shows_xhdrArticles realMax plain
          refine Ensures.bind (Ensures.modify (fun r s start => ⟨⟨fun on => ?_, ?_⟩, start.2⟩))
            (fun _ => Ensures.post shown
              (fun _ r s done piece member n isRow => ⟨part, rfl, done.1 piece member⟩))
          · by_contra other
            simp only [if_neg other] at on
            exact start.1.2.1 on
          · intro piece member
            rw [start.1.2.2] at member
            cases member

end Rows

-----------------------------------------------------------------------------------------
-- Two histories
-----------------------------------------------------------------------------------------

/-- Two sessions that are the same to XHDR. -/
structure Session.SameToXhdr (r r' : Session) : Prop where
  selectedGroup : r.selectedGroup = r'.selectedGroup
  selectedArticle : r.selectedArticle = r'.selectedArticle
  curstring : r.curstring = r'.curstring
  sent : r.sent = r'.sent
  date : r.speccmd = .date ↔ r'.speccmd = .date

instance : SeesDate Session.SameToXhdr where
  sent _ _ same := same.sent
  append _ _ pieces same :=
    { same with curstring := congrArg (· ++ pieces) same.curstring }
  selectedGroup _ _ same := same.selectedGroup
  selectedArticle _ _ same := same.selectedArticle
  date _ _ same := same.date
  speccmd _ _ _ _ same alike := { same with date := alike }

section Histories

variable {servers : DbServers} {dbase : Dbase} {ext : Extern}

theorem Asks.blinded {P : Session → Session → Prop} [Sees P] {α : Type} {m : Srv α}
    (asks : Asks m)
    : Blinded dbase ext P m := by
  obtain ⟨p, runs⟩ := asks
  have same : m = fun r => p r.sent >>= fun a => pure (a, r) := funext runs
  rw [same]
  have alike (r r' : Session) (related : P r r') : p r.sent = p r'.sent :=
    congrArg p (Sees.sent r r' related)
  exact Blind.program (p := fun r : Session => p r.sent) alike

theorem blinded_backendXhdr {P : Session → Session → Prop} [SeesDate P] (part : XhdrPart)
    (group : Str) (msgid : Option Str) (min max : Nat)
    : Blinded (srvBackend servers dbase).dbase ext P
        ((srvBackend servers dbase).xhdr ext part group msgid min max) := by
  cases dbase with
  | sqlite3 =>
      cases msgid with
      | none => exact blinded_xhdr (Blinded.sql _)
      | some msgid => exact blinded_xhdr (Blinded.sql _)
  | mysql =>
      cases msgid with
      | none => exact blinded_xhdr (blinded_mysqlSrv _ _)
      | some msgid => exact blinded_xhdr (blinded_mysqlSrv _ _)
  | postgres =>
      cases msgid with
      | none => exact blinded_xhdr (blinded_xhdrGet _ _ _ _)
      | some msgid => exact blinded_xhdr (blinded_xhdrGet _ _ _ _)

/-- On SQLite the highest number of a newsgroup that does not exist is not initialised. -/
def Connection.SelectionExists (dbase : Dbase) (conn : Connection) : Prop :=
  dbase = .sqlite3 → ∀ group, conn.session.selectedGroup = some group → conn.store.HasGroup group

theorem docmdXhdr_env {conn : Connection} (exists' : conn.SelectionExists dbase) (env env' : Env)
    (command : Str) {r : Session} (selected : r.selectedGroup = conn.session.selectedGroup)
    : (((srvBackend servers dbase).docmdXhdr ext env command).run r).run
          (execOn (srvBackend servers dbase).dbase ext) conn.store
      = (((srvBackend servers dbase).docmdXhdr ext env' command).run r).run
          (execOn (srvBackend servers dbase).dbase ext) conn.store := by
  cases dbase with
  | sqlite3 =>
      cases chosen : r.selectedGroup with
      | none =>
          simp only [SrvBackend.docmdXhdr, StateT.run_bind, StateT.run_get, Prog.pure_eq,
            Prog.done_bind, chosen]
      | some group =>
          have there := exists' rfl group (selected ▸ chosen)
          have found : ∃ g, (conn.store.newsgroups.filter (·.name == group)).getLast? = some g := by
            have filled := (hasGroup_iff conn.store).mpr there
            simp only [Bool.not_eq_true', List.isEmpty_eq_false_iff] at filled
            exact ⟨_, List.getLast?_eq_some_getLast filled⟩
          obtain ⟨g, last⟩ := found
          have high (env : Env)
              : (((srvBackend servers .sqlite3).getHighValue env group).run r).run
                    (execOn (srvBackend servers .sqlite3).dbase ext) conn.store
                = (.ok (g.high % 2 ^ 32, r), conn.store) := by
            show (Except.ok (((conn.store.newsgroups.filter (·.name == group)).getLast?.map
              (·.high)).getD env.curHighInit % 2 ^ 32, r), conn.store) = _
            rw [last]
            rfl
          simp only [SrvBackend.docmdXhdr, StateT.run_bind, StateT.run_get, Prog.pure_eq,
            Prog.done_bind, chosen]
          rw [Prog.run_bind, Prog.run_bind, high env, high env']
  | mysql => rfl
  | postgres => rfl

/-- The reply that `docmd_xhdr` makes to a command string, or why the connection ends. -/
def SrvBackend.xhdrReply (db : SrvBackend) (ext : Extern) (env : Env) (conn : Connection)
    (cmdstring : Str)
    : Except Exit (List Piece) :=
  match ((db.docmdXhdr ext env cmdstring).run { conn.session with sent := [] }).run
    (execOn db.dbase ext) conn.store with
  | (.ok (_, session), _) => .ok session.curstring
  | (.error reason, _) => .error reason

/-- XHDR replies the same on both connections, whatever the operating system does meanwhile. -/
def SrvBackend.RepliesAlike (db : SrvBackend) (ext : Extern) (conn conn' : Connection) : Prop :=
  ∀ env env' command,
    db.xhdrReply ext env conn command = db.xhdrReply ext env' conn' command

/-- Each row of a reply to XHDR shows the requested field of a stored posting of the selected
newsgroup, converted if the field is the date. -/
def SrvBackend.ShowsFields (db : SrvBackend) (ext : Extern) (conn : Connection) : Prop :=
  ∀ env command group reply,
    conn.session.selectedGroup = some group → PlainNames db.dbase group (getSlinearg command 2) →
    db.xhdrReply ext env conn command = .ok reply →
      ∀ piece ∈ reply, ∀ n, piece.row = some n →
        ∃ part, (getSlinearg command 1).bind xhdrPart = some part
          ∧ piece.ShowsField ext conn.store group part

theorem repliesAlike {conn conn' : Connection}
    (same : ({ conn.session with sent := [] } : Session).SameToXhdr
      { conn'.session with sent := [] })
    (database : conn.store = conn'.store) (exists' : conn.SelectionExists dbase)
    : (srvBackend servers dbase).RepliesAlike ext conn conn' := by
  intro env env' command
  have blinded : Blinded (srvBackend servers dbase).dbase ext Session.SameToXhdr
      ((srvBackend servers dbase).docmdXhdr ext env' command) :=
    blinded_docmdXhdr (fun _ _ _ _ _ => blinded_backendXhdr _ _ _ _ _)
      (fun _ => (asks_getHighValue servers dbase env' _).blinded)
      (fun _ _ => (asks_chkIfMsgidExists servers dbase _ _).blinded) command
  unfold SrvBackend.xhdrReply
  rw [docmdXhdr_env exists' env env' command (r := { conn.session with sent := [] }) rfl,
    ← database]
  rcases Blind.run_cases blinded same conn.store with
    ⟨_, r, r', s, first, second, related⟩ | ⟨reason, s, first, second⟩
  · rw [first, second]
    exact congrArg Except.ok related.curstring
  · rw [first, second]

theorem showsFields {conn : Connection} (idle : conn.session.curstring = [])
    (undated : conn.session.speccmd ≠ .date)
    : (srvBackend servers dbase).ShowsFields ext conn := by
  intro env command group reply selected plain replied
  have is : (srvBackend servers dbase).dbase = dbase := by
    cases dbase with
    | sqlite3 => rfl
    | mysql => rfl
    | postgres => rfl
  rw [is] at plain
  unfold SrvBackend.xhdrReply at replied
  split at replied
  · rename_i session store ran
    cases replied
    have start : (({ conn.session with sent := [] } : Session).selectedGroup = some group
        ∧ ({ conn.session with sent := [] } : Session).speccmd ≠ .date
        ∧ ({ conn.session with sent := [] } : Session).curstring = []) ∧ conn.store = conn.store :=
      ⟨⟨selected, undated, idle⟩, rfl⟩
    exact (shows_docmdXhdr plain).run_ok start ran
  · cases replied

/-- On every backend the reply to XHDR depends on the database, the selection and the command
string only, between two histories that leave no request for the date behind.
Witness: no line of such a history ends with `SPECCMD_DATE`, and XHDR looks at nothing else.
-/
theorem xhdr_depends_on_selection (servers : DbServers) (dbase : Dbase) (ext : Extern)
    (cfg : Config) (tlsActive tlsActive' : Bool) (cmdtype cmdtype' : Cmdtype)
    (speccmd speccmd' : Speccmd) (store store' : Store) (rounds rounds' : List Round)
    (conn conn' : Connection)
    (reached : (srvBackend servers dbase).serveRounds ext cfg
      ⟨Session.fresh cfg tlsActive cmdtype speccmd, store⟩ rounds = some conn)
    (reached' : (srvBackend servers dbase).serveRounds ext cfg
      ⟨Session.fresh cfg tlsActive' cmdtype' speccmd', store'⟩ rounds' = some conn')
    (undated : speccmd ≠ .date) (undated' : speccmd' ≠ .date)
    (fine : (srvBackend servers dbase).leavesNoDate ext cfg
      ⟨Session.fresh cfg tlsActive cmdtype speccmd, store⟩ rounds = true)
    (fine' : (srvBackend servers dbase).leavesNoDate ext cfg
      ⟨Session.fresh cfg tlsActive' cmdtype' speccmd', store'⟩ rounds' = true)
    (group : conn.session.selectedGroup = conn'.session.selectedGroup)
    (article : conn.session.selectedArticle = conn'.session.selectedArticle)
    (database : conn.store = conn'.store) (exists' : conn.SelectionExists dbase)
    : (srvBackend servers dbase).RepliesAlike ext conn conn'
      ∧ (srvBackend servers dbase).ShowsFields ext conn := by
  have fresh (tlsActive : Bool) (cmdtype : Cmdtype) (speccmd : Speccmd)
      : (Session.fresh cfg tlsActive cmdtype speccmd).Waiting :=
    ⟨rfl, rfl, fun _ => rfl⟩
  have idle := (serveRounds_waits (blinds servers dbase ext) (fresh _ _ _) reached).idle
  have idle' := (serveRounds_waits (blinds servers dbase ext) (fresh _ _ _) reached').idle
  have off := serveRounds_undated undated fine reached
  have off' := serveRounds_undated undated' fine' reached'
  have date : conn.session.speccmd = .date ↔ conn'.session.speccmd = .date :=
    iff_of_false off off'
  exact ⟨repliesAlike ⟨group, article, idle.trans idle'.symm, rfl, date⟩ database exists',
    showsFields idle off⟩

end Histories

section Samples

/-- Neither authentication nor access control. -/
def readerConfig : Config := { sampleConfig with useAuth := false, useAcl := false }

def readerConnection : Connection :=
  ⟨Session.fresh readerConfig false .article .cleared, sampleStore⟩

def readerServe (conn : Connection) (text : String) : Option Connection :=
  (srvBackend sampleServers .sqlite3).serve sampleExtern readerConfig conn (sampleLine text)

/-- The connection behind `GROUP open`. -/
def groupSelected : Connection := (readerServe readerConnection "GROUP open").getD readerConnection

theorem readerServe_eq {conn : Connection} {text : String}
    (lasts : (readerServe conn text).isSome = true)
    : readerServe conn text = some ((readerServe conn text).getD readerConnection) := by
  obtain ⟨next, is⟩ := Option.isSome_iff_exists.mp lasts
  rw [is]
  rfl

/-- Queries leave the store alone. -/
theorem readerServe_store {conn conn' : Connection} {text : String}
    (served : readerServe conn text = some conn')
    (asks : (((srvBackend sampleServers .sqlite3).program sampleExtern readerConfig conn
      (sampleLine text)).performed (exec sampleExtern) conn.store).all Stmt.isQuery = true)
    : conn'.store = conn.store := by
  have kept := Prog.run_store_of_performed (exec sampleExtern) (fun op member s' =>
    execOn_query .sqlite3 sampleExtern (List.all_eq_true.mp asks op member) s')
  unfold readerServe SrvBackend.serve at served
  split at served
  · rename_i session store ran
    cases served
    exact (congrArg Prod.snd ran).symm.trans kept
  · cases served

theorem readerServe_rounds {conn mid conn' : Connection} {text : String} {rounds : List Round}
    (first : readerServe conn text = some mid)
    (rest : (srvBackend sampleServers .sqlite3).serveRounds sampleExtern readerConfig mid rounds
      = some conn')
    : (srvBackend sampleServers .sqlite3).serveRounds sampleExtern readerConfig conn
        (⟨sampleLine text, id⟩ :: rounds) = some conn' :=
  Option.bind_eq_some_iff.mpr ⟨mid, first, rest⟩

/-- The connections behind an XHDR for the date that is answered, and behind one that is refused. -/
def dateAnswered : Connection := (readerServe groupSelected "XHDR date 1").getD readerConnection

def dateRefused : Connection := (readerServe groupSelected "XHDR date 99").getD readerConnection

theorem answered_date_is_forgotten
    : (srvBackend sampleServers .sqlite3).RepliesAlike sampleExtern groupSelected dateAnswered
      ∧ (srvBackend sampleServers .sqlite3).ShowsFields sampleExtern groupSelected := by
  have first : readerServe readerConnection "GROUP open" = some groupSelected :=
    readerServe_eq (by decide +kernel)
  have second : readerServe groupSelected "XHDR date 1" = some dateAnswered :=
    readerServe_eq (by decide +kernel)
  have store : groupSelected.store = sampleStore := readerServe_store first (by decide +kernel)
  have store' : dateAnswered.store = groupSelected.store :=
    readerServe_store second (by decide +kernel)
  refine xhdr_depends_on_selection sampleServers .sqlite3 sampleExtern readerConfig false false
    .article .article .cleared .cleared sampleStore sampleStore [⟨sampleLine "GROUP open", id⟩]
    [⟨sampleLine "GROUP open", id⟩, ⟨sampleLine "XHDR date 1", id⟩] groupSelected dateAnswered
    (readerServe_rounds first rfl) (readerServe_rounds first (readerServe_rounds second rfl))
    Speccmd.noConfusion Speccmd.noConfusion (by decide +kernel) (by decide +kernel)
    (by decide +kernel) (by decide +kernel) store'.symm ?_
  intro _ group selected
  have open' : groupSelected.session.selectedGroup = some "open".toList := by decide +kernel
  rw [open'] at selected
  cases selected
  rw [store]
  exact ⟨_, List.mem_cons_self .., rfl⟩

/-- Behind a refused XHDR for the date, XHDR shows the subject as a date. -/
theorem refused_date_converts_subject
    : (srvBackend sampleServers .sqlite3).serveRounds sampleExtern readerConfig readerConnection
          [⟨sampleLine "GROUP open", id⟩] = some groupSelected
      ∧ (srvBackend sampleServers .sqlite3).serveRounds sampleExtern readerConfig readerConnection
          [⟨sampleLine "GROUP open", id⟩, ⟨sampleLine "XHDR date 99", id⟩] = some dateRefused
      ∧ groupSelected.session.selectedGroup = dateRefused.session.selectedGroup
      ∧ groupSelected.session.selectedArticle = dateRefused.session.selectedArticle
      ∧ groupSelected.store = dateRefused.store
      ∧ (srvBackend sampleServers .sqlite3).xhdrReply sampleExtern sampleEnv groupSelected
            "XHDR subject 1".toList
          = .ok [⟨xhdrReply, none⟩,
              ⟨"1 s\r\n".toList, some ⟨"<cdp2@a>".toList, "open".toList, 1⟩⟩, ⟨periodEnd, none⟩]
      ∧ (srvBackend sampleServers .sqlite3).xhdrReply sampleExtern sampleEnv dateRefused
            "XHDR subject 1".toList
          = .ok [⟨xhdrReply, none⟩,
              ⟨"1 Thu, 01 Jan 1970 00:00:00\r\n".toList,
                some ⟨"<cdp2@a>".toList, "open".toList, 1⟩⟩,
              ⟨periodEnd, none⟩] := by
  have first : readerServe readerConnection "GROUP open" = some groupSelected :=
    readerServe_eq (by decide +kernel)
  have second : readerServe groupSelected "XHDR date 99" = some dateRefused :=
    readerServe_eq (by decide +kernel)
  refine ⟨readerServe_rounds first rfl,
    readerServe_rounds first (readerServe_rounds second rfl), by decide +kernel, by decide +kernel,
    (readerServe_store second (by decide +kernel)).symm, by decide +kernel, by decide +kernel⟩

end Samples

end WendzelNNTPd
