import WendzelNNTPd.Server.Commands
import WendzelNNTPd.Server.Post

/-! `do_command` and the main loop of `do_server`, one received line at a time. -/

namespace WendzelNNTPd

open CString Atomic

/-- `CHECK_MANDATORY_TLS` -/
def checkMandatoryTls (cfg : Config) (cmd : Srv Unit) : Srv Unit := do
  let s ← get
  if !s.tlsActive && cfg.tlsIsMandatory then toSend tlsReq else cmd

theorem checkMandatoryTls_run {cfg : Config} (m : Srv Unit) (r : Session)
    : (checkMandatoryTls cfg m).run r
      = if (!r.tlsActive && cfg.tlsIsMandatory) = true then (toSend tlsReq).run r
        else m.run r := by
  show StateT.run (if (!r.tlsActive && cfg.tlsIsMandatory) = true then _ else _) r = _
  split <;> rfl

/-- The branches of `do_command` for `QUESTION_AUTH`, in the order in which they are tried:
the prefix that selects a branch and the handler it runs. -/
def authCommands (ext : Extern) (cfg : Config) (env : Env) (recvbuf : Str)
    : List (Str × Srv Unit) :=
  [("list newsgroups".toList, checkMandatoryTls cfg (docmdList ext cfg recvbuf .listNewsgroups)),
    ("list overview.fmt".toList, toSend listOverviewFmtInfo),
    ("listgroup".toList, checkMandatoryTls cfg (docmdListgroup cfg recvbuf)),
    ("list".toList, checkMandatoryTls cfg (docmdList ext cfg recvbuf .list)),
    ("xgtitle".toList, checkMandatoryTls cfg (docmdList ext cfg recvbuf .xgtitle)),
    ("help".toList, toSend helpstring),
    ("group".toList, checkMandatoryTls cfg (docmdGroup cfg recvbuf)),
    ("xover".toList, checkMandatoryTls cfg (docmdXover ext env recvbuf)),
    ("xhdr".toList, checkMandatoryTls cfg (docmdXhdr ext env recvbuf)),
    ("article".toList, checkMandatoryTls cfg (docmdArticle cfg recvbuf)),
    ("head".toList, checkMandatoryTls cfg (docmdArticle cfg recvbuf)),
    ("body".toList, checkMandatoryTls cfg (docmdArticle cfg recvbuf)),
    ("stat".toList, checkMandatoryTls cfg (docmdArticle cfg recvbuf)),
    ("mode reader".toList, checkMandatoryTls cfg (toSend modeReaderOk)),
    ("post".toList, checkMandatoryTls cfg (docmdPost ext cfg env)),
    ("date".toList, docmdDate env),
    ("capabilities".toList, docmdCapabilities cfg)]

/-- The branches behind the authenticated commands: STARTTLS is open to everybody. -/
def lastCommands (cfg : Config) (authenticated : Bool) (recvbuf : Str) : Srv Unit :=
  if caseEqPrefix "starttls".toList recvbuf then docmdStarttls cfg
  else if authenticated && caseEqPrefix "NEWNEWS".toList recvbuf then toSend cmdNotSupported
  else if authenticated then toSend unknownCmd
  else toSend authReq

def doCommand (ext : Extern) (cfg : Config) (env : Env) (recvbuf : Str) : Srv Unit := do
  let s ← get
  if caseEqPrefix "quit".toList recvbuf then do
    send quitstring
    killThread
  else if caseEqPrefix "authinfo user ".toList recvbuf then
    checkMandatoryTls cfg (docmdAuthinfoUser recvbuf)
  else if caseEqPrefix "authinfo pass ".toList recvbuf then
    checkMandatoryTls cfg (docmdAuthinfoPass ext cfg recvbuf)
  else
    let authenticated := s.authIsThere || !cfg.useAuth
    match (authCommands ext cfg env recvbuf).find?
      (fun entry => authenticated && caseEqPrefix entry.1 recvbuf) with
    | some entry => entry.2
    | none => lastCommands cfg authenticated recvbuf

/-- The head of the main loop: the switch to TLS that STARTTLS asked for. -/
def switchToTls (env : Env) : Srv Unit := do
  let s ← get
  if s.switchToTls then
    if env.tlsSessionInit then
      modify (fun s =>
        { s with
          switchToTls := false
          tlsActive := true
          selectedGroup := none
          selectedArticle := none })
    else killThread
  else pure ()

/-- One round of the main loop: `recvbuf` is a received line with its terminator. The
backend matters for the escaping; the handlers behind `doCommand` perform the statements of
SQLite, which for AUTHINFO are those of all backends. -/
def serveLineOn (dbase : Dbase) (ext : Extern) (cfg : Config) (env : Env) (recvbuf : Str)
    : Srv Unit := do
  switchToTls env
  doCommand ext cfg env (dbSecureSqlbuffer dbase (stripCr recvbuf))
  let s ← get
  -- `strlen` of a reply that was never begun
  if s.curstring = [] then crash
  else modify (fun s => { s with sent := s.sent ++ s.curstring, curstring := [] })

def serveLine (ext : Extern) (cfg : Config) (env : Env) (recvbuf : Str) : Srv Unit :=
  serveLineOn .sqlite3 ext cfg env recvbuf

/-- A line sent by the client and what the operating system does meanwhile. -/
structure Line where
  recvbuf : Str
  env : Env

/-- A connection and the store it works on. -/
structure Connection where
  session : Session
  store : Store

/-- The program that serves one line. What was sent for earlier lines is forgotten first,
so that `sent` becomes the reply to this line. -/
def Connection.program (ext : Extern) (cfg : Config) (conn : Connection) (line : Line)
    : Prog Sql Exit (Unit × Session) :=
  (serveLine ext cfg line.env line.recvbuf).run { conn.session with sent := [] }

/-- Serve one line; `none` if the connection has ended. -/
def Connection.serve (ext : Extern) (cfg : Config) (conn : Connection) (line : Line)
    : Option Connection :=
  match (conn.program ext cfg line).run (exec ext) conn.store with
  | (.ok (_, session), store) => some ⟨session, store⟩
  | (.error _, _) => none

/-- What the client is sent for a line, also if the connection is killed. -/
def Connection.reply (ext : Extern) (cfg : Config) (conn : Connection) (line : Line)
    : List Piece :=
  match (conn.program ext cfg line).run (exec ext) conn.store with
  | (.ok (_, session), _) => session.sent
  | (.error (.killThread sent), _) => sent
  | (.error _, _) => []

/-- Serve lines one after another. -/
def Connection.serveAll (ext : Extern) (cfg : Config) (conn : Connection) (lines : List Line)
    : Option Connection :=
  lines.foldlM (Connection.serve ext cfg) conn

end WendzelNNTPd
