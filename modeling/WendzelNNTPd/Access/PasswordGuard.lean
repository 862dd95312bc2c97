import WendzelNNTPd.Access.TlsSwitch
import WendzelNNTPd.Access.Untouched

/-! What a rejected AUTHINFO PASS means for the passwords that follow it. Without access control the
name of the user is dropped with the first password, so that a client has to send it again.
-/

namespace WendzelNNTPd

open CString Atomic

/-- An AUTHINFO PASS, as `do_command` recognises it. -/
def isAuthinfoPass (command : Str) : Bool := caseEqPrefix "authinfo pass ".toList command

/-- An AUTHINFO USER with an argument. -/
def namesUser (command : Str) : Bool :=
  caseEqPrefix "authinfo user ".toList command && (getSlinearg command 2).isSome

/-- Behind an AUTHINFO PASS that is answered 482, each AUTHINFO PASS is answered 381 and performs no
statement, until an AUTHINFO USER with an argument comes. A switch to TLS that is due succeeds. -/
def GuardsPasswords (db : SrvBackend) (ext : Extern) (cfg : Config) : Prop :=
  ∀ (tlsActive : Bool) (cmdtype : Cmdtype) (speccmd : Speccmd) (store : Store)
    (before between : List Round) (rejected further : Round) (asked guessing : Connection),
    db.serveRounds ext cfg ⟨Session.fresh cfg tlsActive cmdtype speccmd, store⟩ before = some asked
    → isAuthinfoPass (db.command rejected.line.recvbuf) = true
    → db.reply ext cfg (asked.meanwhile rejected) rejected.line = [⟨authReject, none⟩]
    → db.serveRounds ext cfg asked (rejected :: between) = some guessing
    → (∀ round ∈ between, namesUser (db.command round.line.recvbuf) = false)
    → isAuthinfoPass (db.command further.line.recvbuf) = true
    → (guessing.session.switchToTls = true → further.line.env.tlsSessionInit = true)
    → db.reply ext cfg (guessing.meanwhile further) further.line = [⟨needMoreInf, none⟩]
      ∧ (db.program ext cfg (guessing.meanwhile further) further.line).Uses (fun _ => False)

/-- `CHECK_MANDATORY_TLS` lets AUTHINFO through. -/
def Session.TlsSuffices (cfg : Config) (r : Session) : Prop :=
  cfg.tlsIsMandatory = true → r.tlsActive = true

/-- Nobody is named, and AUTHINFO is open to the client. -/
structure Session.Unnamed (cfg : Config) (r : Session) : Prop where
  user : r.curAuthUser = none
  tls : r.TlsSuffices cfg

section Marks

variable {cfg : Config} {dbase : Dbase} {ext : Extern}

instance : Marked (Session.Unnamed cfg) where
  of_marks same unnamed := by
    refine ⟨?_, fun mandatory => ?_⟩
    · exact (congrArg Marks.curAuthUser same).symm.trans unnamed.user
    · exact (congrArg Marks.tlsActive same).symm.trans (unnamed.tls mandatory)
  undated _ _ unnamed := ⟨unnamed.user, unnamed.tls⟩

instance : Marked (Session.TlsSuffices cfg) where
  of_marks same tls mandatory := (congrArg Marks.tlsActive same).symm.trans (tls mandatory)
  undated _ _ tls := tls

/-- XHDR changes `speccmd` only. -/
theorem unnamed_xhdrLoop {part : XhdrPart} {query : Srv (List (Ngpost × Posting))}
    (asks : Respects (Session.Unnamed cfg) dbase ext query)
    : Respects (Session.Unnamed cfg) dbase ext
        (do
          modify (fun s => { s with speccmd := if part = .date then .date else s.speccmd })
          let rows ← query
          rows.forM (xhdrCb ext part)
          modify (fun s => { s with speccmd := .cleared }) : Srv Unit) := by
  refine Keeps.bind (Keeps.modify (fun _ unnamed => ⟨unnamed.user, unnamed.tls⟩)) (fun _ => ?_)
  refine Respects.bind asks (fun rows => ?_)
  refine Respects.bind (Respects.forM rows (fun row => ?_)) (fun _ => ?_)
  · exact Respects.read (fun _ => Respects.toSendRow _ _)
  · exact Respects.undated .cleared Speccmd.noConfusion (fun _ => rfl)

variable {servers : DbServers} {env : Env}

theorem unnamed_xhdr (part : XhdrPart) (group : Str) (msgid : Option Str) (min max : Nat)
    : Respects (Session.Unnamed cfg) (srvBackend servers dbase).dbase ext
        ((srvBackend servers dbase).xhdr ext part group msgid min max) := by
  cases dbase with
  | sqlite3 => cases msgid <;> exact unnamed_xhdrLoop (Respects.sql _)
  | mysql => cases msgid <;> exact unnamed_xhdrLoop (respects_mysqlSrv _ _)
  | postgres => cases msgid <;> exact unnamed_xhdrLoop (respects_xhdrGet _ _ _ _)

theorem unnamed_docmdXhdr (command : Str)
    : Respects (Session.Unnamed cfg) (srvBackend servers dbase).dbase ext
        ((srvBackend servers dbase).docmdXhdr ext env command) := by
  have others := leaves (I := Session.Unnamed cfg) servers dbase ext
  have reply (group : Str) (part : XhdrPart) (msgid : Option Str) (min max : Nat)
      : Respects (Session.Unnamed cfg) (srvBackend servers dbase).dbase ext
          (SrvBackend.xhdrArticles.reply (srvBackend servers dbase) ext group part msgid min max) := by
    refine Respects.bind (Respects.toSend _) (fun _ => ?_)
    exact Respects.bind (unnamed_xhdr part group msgid min max) (fun _ => Respects.toSend _)
  have range (group : Str) (realMax : Nat) (part : XhdrPart) (min max : Nat)
      : Respects (Session.Unnamed cfg) (srvBackend servers dbase).dbase ext
          (SrvBackend.xhdrArticles.range (srvBackend servers dbase) ext group realMax part min max) :=
    (Respects.toSend _).ite (reply _ _ _ _ _)
  have articles (group : Str) (realMax : Nat) (part : XhdrPart)
      : Respects (Session.Unnamed cfg) (srvBackend servers dbase).dbase ext
          ((srvBackend servers dbase).xhdrArticles ext command group realMax part) := by
    refine Respects.read (fun r => ?_)
    split
    · split
      · exact Respects.toSend _
      · exact range _ _ _ _ _
    · apply Respects.ite _ (range _ _ _ _ _)
      refine Respects.bind (others.chkIfMsgidExists _ _) (fun there => ?_)
      exact (reply _ _ _ _ _).ite (Respects.toSend _)
  refine Respects.read (fun r => ?_)
  split
  · exact Respects.toSend _
  · refine Respects.bind (others.getHighValue _ _) (fun realMax => ?_)
    split
    · exact Respects.toSend _
    · split
      · exact Respects.toSend _
      · refine Respects.bind ?_ (fun _ => articles _ _ _)
        exact Keeps.modify (fun _ unnamed => ⟨unnamed.user, unnamed.tls⟩)

/-- Without a name a password is not looked at. -/
theorem unnamed_docmdAuthinfoPass (command : Str)
    : Respects (Session.Unnamed cfg) (srvBackend servers dbase).dbase ext
        ((srvBackend servers dbase).docmdAuthinfoPass ext cfg command) := by
  refine Respects.bind (Respects.modify (fun _ => rfl)) (fun _ => ?_)
  refine Keeps.get_bind (fun r unnamed => ?_)
  rw [unnamed.user]
  exact Respects.toSend _

/-- Only an AUTHINFO USER with an argument names a user. -/
theorem unnamed_docmdAuthinfoUser {command : Str} (none : getSlinearg command 2 = none)
    : Respects (Session.Unnamed cfg) dbase ext (docmdAuthinfoUser command) := by
  unfold docmdAuthinfoUser
  rw [none]
  exact Respects.bind (Respects.modify (fun _ => rfl)) (fun _ => Respects.toSend _)

theorem unnamed_doCommand {command : Str} (noUser : namesUser command = false)
    : Respects (Session.Unnamed cfg) (srvBackend servers dbase).dbase ext
        ((srvBackend servers dbase).doCommand ext cfg env command) := by
  have others := leaves (I := Session.Unnamed cfg) servers dbase ext
  refine Respects.read (fun r => ?_)
  split
  · exact Respects.bind (respects_send _) (fun _ => Respects.killThread)
  split
  · rename_i user
    have noArgument : getSlinearg command 2 = none := by
      rw [namesUser, user, Bool.true_and, Option.isSome_eq_false_iff] at noUser
      simpa using noUser
    exact respects_checkMandatoryTls (unnamed_docmdAuthinfoUser noArgument)
  split
  · exact respects_checkMandatoryTls (unnamed_docmdAuthinfoPass command)
  simp only
  split
  · rename_i entry chosen
    rcases respects_authCommands others (List.mem_of_find?_eq_some chosen) with rfl | respects
    · exact respects_checkMandatoryTls (unnamed_docmdXhdr command)
    · exact respects
  · exact respects_lastCommands _ _

theorem unnamed_serveLine {recvbuf : Str}
    (noUser : namesUser ((srvBackend servers dbase).command recvbuf) = false)
    : Respects (Session.Unnamed cfg) (srvBackend servers dbase).dbase ext
        ((srvBackend servers dbase).serveLine ext cfg env recvbuf) := by
  have switches : Respects (Session.Unnamed cfg) (srvBackend servers dbase).dbase ext
      (switchToTls env) := by
    refine Respects.read (fun r => Respects.ite (Respects.ite ?_ Respects.killThread) ?_)
    · exact Keeps.modify (fun _ unnamed => ⟨unnamed.user, fun _ => rfl⟩)
    · exact Respects.pure _
  refine Respects.bind switches (fun _ => Respects.bind (unnamed_doCommand noUser) (fun _ => ?_))
  exact Respects.read (fun r => Respects.crash.ite (Respects.modify (fun _ => rfl)))

end Marks

-----------------------------------------------------------------------------------------
-- Lines and runs
-----------------------------------------------------------------------------------------

section Lines

variable {servers : DbServers} {dbase : Dbase} {ext : Extern} {cfg : Config} {env : Env}

/-- What a session returns in after a line, read off the run of the line. -/
theorem session_of_serve {db : SrvBackend} {P : Session → Prop} {Q : Session → Prop}
    {conn conn' : Connection} {line : Line}
    (ensures : Ensures (execOn db.dbase ext) (fun r _ => P r)
      (db.serveLine ext cfg line.env line.recvbuf) (fun _ r _ => Q r) (fun _ _ => True))
    (start : P { conn.session with sent := [] }) (served : db.serve ext cfg conn line = some conn')
    : Q conn'.session := by
  unfold SrvBackend.serve SrvBackend.program at served
  split at served
  · rename_i session store ran
    cases served
    exact ensures.run_ok start ran
  · cases served

theorem reply_of_serve {db : SrvBackend} {conn conn' : Connection} {line : Line}
    (served : db.serve ext cfg conn line = some conn')
    : db.reply ext cfg conn line = conn'.session.sent := by
  unfold SrvBackend.serve at served
  unfold SrvBackend.reply
  split at served
  · rename_i session store ran
    cases served
    rw [ran]
  · cases served

/-- One line that names no user. -/
theorem unnamed_serve {conn conn' : Connection} {line : Line}
    (unnamed : conn.session.Unnamed cfg)
    (noUser : namesUser ((srvBackend servers dbase).command line.recvbuf) = false)
    (served : (srvBackend servers dbase).serve ext cfg conn line = some conn')
    : conn'.session.Unnamed cfg := by
  have respects := @unnamed_serveLine cfg dbase ext servers line.env line.recvbuf noUser
  exact session_of_serve respects.ensures ⟨unnamed.user, unnamed.tls⟩ served

/-- Lines that name no user.
Witness: induction on the lines; what the others do to the store in between does not matter.
-/
theorem unnamed_serveRounds {conn conn' : Connection} {rounds : List Round}
    (unnamed : conn.session.Unnamed cfg)
    (noUser : ∀ round ∈ rounds,
      namesUser ((srvBackend servers dbase).command round.line.recvbuf) = false)
    (served : (srvBackend servers dbase).serveRounds ext cfg conn rounds = some conn')
    : conn'.session.Unnamed cfg := by
  induction rounds generalizing conn with
  | nil =>
      cases served
      exact unnamed
  | cons round rest ih =>
      obtain ⟨next, first, later⟩ := Option.bind_eq_some_iff.mp served
      have kept : (conn.meanwhile round).session.Unnamed cfg := unnamed
      refine ih (unnamed_serve kept (noUser round List.mem_cons_self) first) ?_ later
      exact fun other member => noUser other (List.mem_cons_of_mem round member)

variable {command : Str}

theorem doCommand_pass {db : SrvBackend} (pass : isAuthinfoPass command = true)
    : db.doCommand ext cfg env command
      = checkMandatoryTls cfg (db.docmdAuthinfoPass ext cfg command) := by
  have notQuit : ¬caseEqPrefix "quit".toList command = true := by
    rw [caseEqPrefix_apart pass (by decide) (by decide)]
    decide
  have notUser : ¬caseEqPrefix "authinfo user ".toList command = true := by
    rw [caseEqPrefix_apart pass (by decide) (by decide)]
    decide
  have isPass : caseEqPrefix "authinfo pass ".toList command = true := pass
  unfold SrvBackend.doCommand
  simp only [if_neg notQuit, if_neg notUser, if_pos isPass]
  rfl

/-- The reply so far is another one than the rejection. -/
def Session.NotRejected (r : Session) : Prop :=
  r.sent = [] ∧ ∃ piece, r.curstring = [piece] ∧ piece ≠ ⟨authReject, none⟩

/-- Without access control, an AUTHINFO PASS that looks at a password drops the name of the user. -/
theorem docmdAuthinfoPass_drops (noAcl : cfg.useAcl = false)
    : Ensures (execOn (srvBackend servers dbase).dbase ext)
        (fun r _ => (r.curstring = [] ∧ r.sent = []) ∧ r.TlsSuffices cfg)
        ((srvBackend servers dbase).docmdAuthinfoPass ext cfg command)
        (fun _ r _ => r.Unnamed cfg ∨ r.NotRejected) (fun _ _ => True) := by
  have check := (leaves (I := Session.TlsSuffices cfg) servers dbase ext).authinfoCheck.ensures
  have replies {r : Session} {text : Str} (other : text ≠ authReject)
      : Ensures (execOn (srvBackend servers dbase).dbase ext)
          (fun r' _ => r' = r ∧ (r.curstring = [] ∧ r.sent = []) ∧ r.TlsSuffices cfg) (toSend text)
          (fun _ r _ => r.Unnamed cfg ∨ r.NotRejected) (fun _ _ => True) := by
    refine Ensures.modify (fun r' _ start => Or.inr ⟨start.1 ▸ start.2.1.2, ⟨text, none⟩, ?_, ?_⟩)
    · rw [start.1, start.2.1.1]
      rfl
    · exact fun same => other (congrArg Piece.text same)
  refine Ensures.bind
    (R := fun _ r _ => (r.curstring = [] ∧ r.sent = []) ∧ r.TlsSuffices cfg)
    (Ensures.modify (fun _ _ start => start)) (fun _ => Ensures.get_bind (fun r => ?_))
  split
  · exact replies (by decide)
  · split
    · exact replies (by decide)
    · refine Ensures.bind (R := fun _ r _ => r.TlsSuffices cfg)
        (Ensures.modify (fun r' _ start => start.1 ▸ start.2.2)) (fun _ => ?_)
      refine Ensures.bind check (fun _ => Ensures.read (fun r _ => ?_))
      refine Ensures.bind (R := fun _ r _ => r.TlsSuffices cfg)
        (Ensures.modify (fun _ _ start => start)) (fun _ => ?_)
      exact Ensures.modify (fun r' _ start => Or.inl ⟨by rw [noAcl]; rfl, start⟩)

theorem tlsSuffices_iff (r : Session)
    : r.TlsSuffices cfg ↔ ¬(!r.tlsActive && cfg.tlsIsMandatory) = true := by
  rw [Bool.and_eq_true, Bool.not_eq_true', not_and, Bool.not_eq_true]
  constructor
  · intro tls inactive
    cases mandatory : cfg.tlsIsMandatory with
    | false => rfl
    | true => exact absurd (tls mandatory) (by rw [inactive]; decide)
  · intro either mandatory
    cases active : r.tlsActive with
    | false => exact absurd (either active) (by rw [mandatory]; decide)
    | true => rfl

/-- An AUTHINFO PASS that is answered 482 leaves nobody named. -/
theorem serveLine_drops (noAcl : cfg.useAcl = false) {recvbuf : Str}
    (pass : isAuthinfoPass ((srvBackend servers dbase).command recvbuf) = true)
    : Ensures (execOn (srvBackend servers dbase).dbase ext)
        (fun r _ => r.curstring = [] ∧ r.sent = [])
        ((srvBackend servers dbase).serveLine ext cfg env recvbuf)
        (fun _ r _ => r.sent = [⟨authReject, none⟩] → r.Unnamed cfg) (fun _ _ => True) := by
  have switches : Ensures (execOn (srvBackend servers dbase).dbase ext)
      (fun r _ => r.curstring = [] ∧ r.sent = []) (switchToTls env)
      (fun _ r _ => r.curstring = [] ∧ r.sent = []) (fun _ _ => True) := by
    refine Ensures.read (fun r _ => Ensures.ite (fun _ => Ensures.ite (fun _ => ?_) (fun _ => ?_))
      (fun _ => Ensures.pure (fun _ _ start => start)))
    · exact Ensures.modify (fun _ _ start => start)
    · exact fun _ _ _ => trivial
  refine Ensures.bind switches (fun _ => ?_)
  refine Ensures.bind (R := fun _ r _ => r.Unnamed cfg ∨ r.NotRejected) ?_ (fun _ => ?_)
  · rw [doCommand_pass pass]
    intro r s start
    rw [checkMandatoryTls_run]
    split
    · have silent : r.curstring ++ [⟨tlsReq, none⟩] = [⟨tlsReq, none⟩] := by rw [start.1]; rfl
      exact Or.inr ⟨start.2, ⟨tlsReq, none⟩, silent, by decide⟩
    · rename_i passed
      exact docmdAuthinfoPass_drops noAcl r s ⟨start, (tlsSuffices_iff r).mpr passed⟩
  · refine Ensures.read (fun r _ => Ensures.ite (fun _ => ?_) (fun _ => ?_))
    · exact fun _ _ _ => trivial
    · refine Ensures.modify (fun r _ start rejected => ?_)
      rcases start with unnamed | ⟨nothing, piece, is, other⟩
      · exact ⟨unnamed.user, unnamed.tls⟩
      · simp only [nothing, is, List.nil_append, List.cons.injEq, and_true] at rejected
        exact absurd rejected other

/-- An AUTHINFO PASS while nobody is named. -/
theorem serveLine_unnamed {db : SrvBackend} {recvbuf : Str} {r : Session}
    (pass : isAuthinfoPass (db.command recvbuf) = true) (unnamed : r.Unnamed cfg)
    (idle : r.curstring = []) (sent : r.sent = [])
    (tls : r.switchToTls = true → env.tlsSessionInit = true)
    : ∃ r', (db.serveLine ext cfg env recvbuf).run r = .done ((), r')
        ∧ r'.sent = [⟨needMoreInf, none⟩] := by
  have serves {t : Session} (none : t.Unnamed cfg) (silent : t.curstring = []) (nothing : t.sent = [])
      : ∃ r', (db.serveCommand ext cfg env recvbuf).run t = .done ((), r')
        ∧ r'.sent = [⟨needMoreInf, Option.none⟩] := by
    unfold SrvBackend.serveCommand
    rw [doCommand_pass pass, StateT.run_bind, checkMandatoryTls_run,
      if_neg ((tlsSuffices_iff t).mp none.tls)]
    have answers : (db.docmdAuthinfoPass ext cfg (db.command recvbuf)).run t
        = .done ((), { t with authIsThere := false, curstring := [⟨needMoreInf, Option.none⟩] }) := by
      simp only [SrvBackend.docmdAuthinfoPass, StateT.run_bind, StateT.run_modify, StateT.run_get,
        Prog.pure_eq, Prog.done_bind, none.user, toSend_run, silent, List.nil_append]
    rw [answers]
    refine ⟨_, rfl, ?_⟩
    show t.sent ++ [_] = _
    rw [nothing, List.nil_append]
  by_cases due : r.switchToTls = true
  · have switches : (switchToTls env).run r = .done ((), r.switched) := by
      simp only [switchToTls, StateT.run_bind, StateT.run_get, Prog.pure_eq, Prog.done_bind,
        if_pos due, if_pos (tls due)]
      rfl
    rw [serveLine_run, StateT.run_bind, switches]
    exact serves ⟨unnamed.user, fun _ => rfl⟩ idle sent
  · have stays : (switchToTls env).run r = .done ((), r) := by
      simp only [switchToTls, StateT.run_bind, StateT.run_get, Prog.pure_eq, Prog.done_bind,
        if_neg due]
      rfl
    rw [serveLine_run, StateT.run_bind, stays]
    exact serves unnamed idle sent

/-- Without access control a rejected password is the last one that is looked at until the client
names a user again.
Witness: the rejection leaves nobody named, the lines behind it keep that, and an AUTHINFO PASS in
this state asks for the name.
-/
theorem guardsPasswords_without_acl (servers : DbServers) (dbase : Dbase) (ext : Extern)
    (cfg : Config) (noAcl : cfg.useAcl = false)
    : GuardsPasswords (srvBackend servers dbase) ext cfg := by
  intro tlsActive cmdtype speccmd store before between rejected further asked guessing
    reached pass answer served noUser again tls
  have waiting {conn conn' : Connection} {rounds : List Round} (start : conn.session.Waiting)
      (ran : (srvBackend servers dbase).serveRounds ext cfg conn rounds = some conn')
      : conn'.session.Waiting :=
    serveRounds_waits (fun K => blinds servers dbase ext K) start ran
  have fresh : (Session.fresh cfg tlsActive cmdtype speccmd).Waiting := ⟨rfl, rfl, fun _ => rfl⟩
  have askedWaits : asked.session.Waiting := waiting fresh reached
  obtain ⟨refused, first, later⟩ := Option.bind_eq_some_iff.mp served
  have unnamed : refused.session.Unnamed cfg := by
    have kept : (asked.meanwhile rejected).session.Waiting := askedWaits
    apply session_of_serve (serveLine_drops noAcl pass) ⟨kept.idle, rfl⟩ first
    rw [← reply_of_serve first]
    exact answer
  have still := unnamed_serveRounds unnamed noUser later
  have idle := (waiting askedWaits served).idle
  obtain ⟨session, ran, sent⟩ := @serveLine_unnamed ext cfg further.line.env
    (srvBackend servers dbase) further.line.recvbuf { guessing.session with sent := [] } again
    ⟨still.user, still.tls⟩ idle rfl tls
  have program : (srvBackend servers dbase).program ext cfg (guessing.meanwhile further) further.line
      = .done ((), session) := ran
  constructor
  · unfold SrvBackend.reply
    rw [program]
    exact sent
  · rw [program]
    trivial

end Lines

section Samples

def passwordRound (text : String) : Round := ⟨⟨(text ++ "\r\n").toList, sampleEnv⟩, id⟩

/-- Behind a wrong password the right one is not looked at. -/
theorem second_password_unread
    : ∃ asked guessing,
        (srvBackend sampleServers .sqlite3).serveRounds sampleExtern
            { sampleConfig with useAcl := false }
            ⟨Session.fresh { sampleConfig with useAcl := false } false .article .cleared, sampleStore⟩
            [passwordRound "AUTHINFO USER alice"] = some asked
        ∧ (srvBackend sampleServers .sqlite3).serveRounds sampleExtern
            { sampleConfig with useAcl := false } asked [passwordRound "AUTHINFO PASS wrong"]
          = some guessing
        ∧ (srvBackend sampleServers .sqlite3).reply sampleExtern
            { sampleConfig with useAcl := false }
            (guessing.meanwhile (passwordRound "AUTHINFO PASS secret99"))
            (passwordRound "AUTHINFO PASS secret99").line
          = [⟨needMoreInf, none⟩] :=
  ⟨_, _, rfl, rfl,
    (guardsPasswords_without_acl sampleServers .sqlite3 sampleExtern
      { sampleConfig with useAcl := false } rfl false .article .cleared sampleStore
      [passwordRound "AUTHINFO USER alice"] [] (passwordRound "AUTHINFO PASS wrong")
      (passwordRound "AUTHINFO PASS secret99") _ _ rfl (by decide) (by decide +kernel) rfl
      (fun _ member => nomatch member) (by decide) (fun due => nomatch due)).1⟩

/-- With access control the name stays, and the next password logs in. -/
theorem second_password_accepted_with_acl
    : ¬GuardsPasswords (srvBackend sampleServers .sqlite3) sampleExtern sampleConfig := by
  intro guards
  have guarded := (guards false .article .cleared sampleStore [passwordRound "AUTHINFO USER alice"] []
    (passwordRound "AUTHINFO PASS wrong") (passwordRound "AUTHINFO PASS secret99") _ _ rfl (by decide)
    (by decide +kernel) rfl (fun _ member => nomatch member) (by decide) (fun due => nomatch due)).1
  revert guarded
  decide +kernel

end Samples

end WendzelNNTPd
