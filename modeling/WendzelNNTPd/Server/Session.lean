import WendzelNNTPd.Database.Store

/-! The state of one client connection and the vocabulary of the command handlers. -/

namespace WendzelNNTPd

open CString Atomic

/-- The settings of `config.y` and of the connector that the session code reads. -/
structure Config where
  useAuth : Bool
  useAcl : Bool
  messageBodyInDb : Bool
  messageCountInDb : Bool
  tlsIsMandatory : Bool
  anonymMessageIds : Bool
  maxPostSize : Nat
  hashSalt : Str
  enableStarttls : Bool

/-- What one round of the receive loop of POST gets from `select` and `Receive`. -/
inductive RecvEvent
  | data (chunk : Str)
  | shutdown
  | recvError
  | selectError
  | nothing
  deriving DecidableEq, Repr

/-- What the operating system contributes while one command is served. -/
structure Env where
  /-- `time(NULL)`; `none` is `(time_t) - 1`. -/
  ltime : Option Int
  /-- `strftime` of the current time for DATE. -/
  dateText : Str
  /-- Whether the peer's family is `FAM_4`. -/
  fam4 : Bool
  /-- `inet_ntop` of the peer. -/
  addr : Option Str
  /-- `h_name` of `gethostbyaddr` of the peer. -/
  hostinfo : Option Str
  hostname : Option Str
  domainname : Option Str
  /-- The value of the local variable `cur_high` before it is assigned. -/
  curHighInit : Nat
  /-- The results of `Receive` in the receive loop of POST. -/
  recv : List RecvEvent
  /-- Whether `tls_session_init` succeeds. -/
  tlsSessionInit : Bool

/-- A part of a reply; `row` is the `ngposts` row it was made from, if any. -/
structure Piece where
  text : Str
  row : Option Ngpost
  deriving DecidableEq, Repr

inductive Cmdtype
  | article
  | head
  | body
  | stat
  deriving DecidableEq, Repr

inductive ListCmdtyp
  | list
  | xgtitle
  | listNewsgroups
  deriving DecidableEq, Repr

/-- `inf->speccmd`: cleared, `SPECCMD_DATE` or one of the list commands. -/
inductive Speccmd
  | cleared
  | date
  | listing (cmdtyp : ListCmdtyp)
  deriving DecidableEq, Repr

/-- `serverinfo_t`, `server_cb_inf` and the TLS fields of `sockinfo_t`. An empty
`curstring` is the NULL pointer; `sent` is what `Send` was called with. -/
structure Session where
  authIsThere : Bool
  curAuthUser : Option Str
  curAuthPass : Option Str
  selectedGroup : Option Str
  selectedArticle : Option Str
  curstring : List Piece
  chkname : Option Str
  foundGroup : Bool
  foundArticle : Bool
  wildmat : Option Str
  counter : Nat
  cmdtype : Cmdtype
  speccmd : Speccmd
  tlsActive : Bool
  switchToTls : Bool
  sent : List Piece
  deriving DecidableEq, Repr

/-- The session at the start of `do_server`. `inf.cmdtype` and `inf.speccmd` are not
initialised there. -/
def Session.fresh (cfg : Config) (tlsActive : Bool) (cmdtype : Cmdtype) (speccmd : Speccmd)
    : Session where
  authIsThere := !cfg.useAuth
  curAuthUser := none
  curAuthPass := none
  selectedGroup := none
  selectedArticle := none
  curstring := []
  chkname := none
  foundGroup := false
  foundArticle := false
  wildmat := none
  counter := 0
  cmdtype := cmdtype
  speccmd := speccmd
  tlsActive := tlsActive
  switchToTls := false
  sent := []

/-- How a handler may end without returning: `kill_thread`, the end of the whole process,
or a receive loop that waits for bytes that never come. -/
inductive Exit
  | killThread (sent : List Piece)
  | crash
  | waiting
  deriving DecidableEq, Repr

/-- Handlers read and change the session and perform statements on the store. -/
abbrev Srv (α : Type) := StateT Session (Prog Sql Exit) α

/-- Perform one statement. -/
def sql (op : Stmt) : Srv op.Result := fun s => .act op (fun r => .done (r, s))

def killThread {α : Type} : Srv α := fun s => .stop (.killThread s.sent)

/-- `exit`, `abort` or the use of a NULL pointer. -/
def crash {α : Type} : Srv α := fun _ => .stop .crash

/-- `ToSend`: append to the reply. -/
def toSend (text : Str) : Srv Unit :=
  modify (fun s => { s with curstring := s.curstring ++ [⟨text, none⟩] })

/-- `ToSend` of a text made from a row of `ngposts`. -/
def toSendRow (row : Ngpost) (text : Str) : Srv Unit :=
  modify (fun s => { s with curstring := s.curstring ++ [⟨text, some row⟩] })

/-- `Send` from within a handler, before the reply. -/
def send (text : Str) : Srv Unit :=
  modify (fun s => { s with sent := s.sent ++ [⟨text, none⟩] })

@[simp] theorem sql_run (op : Stmt) (s : Session)
    : (sql op).run s = .act op (fun r => .done (r, s)) :=
  rfl

@[simp] theorem killThread_run {α : Type} (s : Session)
    : (killThread : Srv α).run s = .stop (.killThread s.sent) :=
  rfl

@[simp] theorem crash_run {α : Type} (s : Session) : (crash : Srv α).run s = .stop .crash :=
  rfl

@[simp] theorem toSend_run (text : Str) (s : Session)
    : (toSend text).run s
      = .done ((), { s with curstring := s.curstring ++ [⟨text, none⟩] }) :=
  rfl

@[simp] theorem toSendRow_run (row : Ngpost) (text : Str) (s : Session)
    : (toSendRow row text).run s
      = .done ((), { s with curstring := s.curstring ++ [⟨text, some row⟩] }) :=
  rfl

@[simp] theorem send_run (text : Str) (s : Session)
    : (send text).run s = .done ((), { s with sent := s.sent ++ [⟨text, none⟩] }) :=
  rfl

end WendzelNNTPd
