import WendzelNNTPd.Lib.Handler
import WendzelNNTPd.Server.Backends

/-! What the commands leave alone of a session: the user of the connection and the state of its TLS
layer change with AUTHINFO and the switch to TLS only, and `inf->speccmd` marks a date for XHDR only.
-/

namespace WendzelNNTPd

open CString Atomic

/-- The part of a session that most commands leave as it is. -/
structure Marks where
  curAuthUser : Option Str
  tlsActive : Bool
  speccmd : Speccmd

def Session.marks (r : Session) : Marks := ⟨r.curAuthUser, r.tlsActive, r.speccmd⟩

/-- A property of the marks that LIST does not break, which clears `speccmd`. -/
class Marked (I : Session → Prop) : Prop where
  of_marks : ∀ {r r'}, r.marks = r'.marks → I r → I r'
  undated : ∀ {r} speccmd, speccmd ≠ .date → I r → I { r with speccmd := speccmd }

/-- Whenever the handler starts in `I` and returns, it returns in `I`. -/
def Respects (I : Session → Prop) (dbase : Dbase) (ext : Extern) {α : Type} (m : Srv α) : Prop :=
  Keeps (execOn dbase ext) I (fun _ => True) (fun _ => True) m

namespace Respects

variable {I : Session → Prop} {dbase : Dbase} {ext : Extern} {α β : Type}

theorem pure (a : α) : Respects I dbase ext (Pure.pure a : Srv α) := Keeps.pure a

theorem bind {m : Srv β} {f : β → Srv α} (first : Respects I dbase ext m)
    (rest : ∀ b, Respects I dbase ext (f b))
    : Respects I dbase ext (m >>= f) :=
  Keeps.bind first rest

theorem read {f : Session → Srv α} (rest : ∀ r, Respects I dbase ext (f r))
    : Respects I dbase ext (get >>= f) :=
  Keeps.get_bind (fun r _ => rest r)

theorem ite {c : Prop} [Decidable c] {m m' : Srv α} (yes : Respects I dbase ext m)
    (no : Respects I dbase ext m')
    : Respects I dbase ext (if c then m else m') :=
  Keeps.ite (fun _ => yes) (fun _ => no)

theorem forM {γ : Type} {f : γ → Srv PUnit} (l : List γ) (round : ∀ x, Respects I dbase ext (f x))
    : Respects I dbase ext (l.forM f) :=
  Keeps.forM l (fun x _ => round x)

/-- A change of `speccmd` to no date, and of other fields. -/
theorem undated [Marked I] {g : Session → Session} (speccmd : Speccmd) (undated : speccmd ≠ .date)
    (same : ∀ r, { r with speccmd := speccmd }.marks = (g r).marks)
    : Respects I dbase ext (modify g) :=
  Keeps.modify (fun r start => Marked.of_marks (same r) (Marked.undated speccmd undated start))

/-- A change of other fields. -/
theorem modify [Marked I] {g : Session → Session} (same : ∀ r, r.marks = (g r).marks)
    : Respects I dbase ext (modify g) :=
  Keeps.modify (fun r start => Marked.of_marks (same r) start)

theorem toSend [Marked I] (text : Str) : Respects I dbase ext (toSend text) := modify (fun _ => rfl)

theorem toSendRow [Marked I] (row : Ngpost) (text : Str) : Respects I dbase ext (toSendRow row text) :=
  modify (fun _ => rfl)

theorem sql (op : Stmt) : Respects I dbase ext (sql op) := fun _ _ start => start

theorem crash : Respects I dbase ext (crash : Srv α) := fun _ _ _ => trivial

theorem killThread : Respects I dbase ext (killThread : Srv α) := fun _ _ _ => trivial

/-- A handler that runs a program and leaves the session alone. -/
theorem program {p : Session → Prog Sql Exit α}
    : Respects I dbase ext (fun r => p r >>= fun a => Pure.pure (a, r) : Srv α) := by
  intro r s start
  show Prog.wp _ (p r >>= fun a => Pure.pure (a, r)) _ _ s
  rw [Prog.wp_bind]
  unfold Prog.wp
  split
  · exact ⟨start.1, trivial⟩
  · trivial

/-- The same as a rule of pre- and postconditions. -/
theorem ensures {m : Srv α} (respects : Respects I dbase ext m)
    : Ensures (execOn dbase ext) (fun r _ => I r) m (fun _ r _ => I r) (fun _ _ => True) :=
  fun r s start => Prog.wp_mono _ (respects r s ⟨start, trivial⟩) (fun _ _ done => done.1)
    (fun _ _ stopped => stopped)

end Respects

/-- The functions of a backend other than that of XHDR leave the marks alone. -/
structure SrvBackend.Leaves (db : SrvBackend) (I : Session → Prop) (ext : Extern) : Prop where
  authinfoCheck : Respects I db.dbase ext db.authinfoCheck
  list : ∀ cfg cmdtyp wildmat, Respects I db.dbase ext (db.list ext cfg cmdtyp wildmat)
  xover : ∀ group min max, Respects I db.dbase ext (db.xover ext group min max)
  article : ∀ cfg group type, Respects I db.dbase ext (db.article cfg group type)
  group : ∀ name, Respects I db.dbase ext (db.group name)
  listgroup : ∀ name, Respects I db.dbase ext (db.listgroup name)
  getHighValue : ∀ env group, Respects I db.dbase ext (db.getHighValue env group)
  chkIfMsgidExists : ∀ group msgid, Respects I db.dbase ext (db.chkIfMsgidExists group msgid)
  checkNewsgroupPostingAllowed : Respects I db.dbase ext db.checkNewsgroupPostingAllowed
  checkNewsgroupExistence : Respects I db.dbase ext db.checkNewsgroupExistence
  aclCheckUserGroup : ∀ user group, Respects I db.dbase ext (db.aclCheckUserGroup user group)
  storeMessageBody : ∀ messageId body, Respects I db.dbase ext (db.storeMessageBody messageId body)
  dbGetUniqnum : Respects I db.dbase ext db.dbGetUniqnum
  postInsertIntoPostings : ∀ row, Respects I db.dbase ext (db.postInsertIntoPostings row)
  postInsertIntoNgposts :
    ∀ messageId newsgroup n, Respects I db.dbase ext (db.postInsertIntoNgposts messageId newsgroup n)
  postUpdateHighValue : ∀ n newsgroup, Respects I db.dbase ext (db.postUpdateHighValue n newsgroup)

section Common

variable {I : Session → Prop} [Marked I] {dbase : Dbase} {ext : Extern}

theorem respects_authinfoCheck {query : Str → Str → Srv (List User)}
    (asks : ∀ user pass, Respects I dbase ext (query user pass))
    : Respects I dbase ext
        (do
          let s ← get
          match s.curAuthUser, s.curAuthPass with
          | some user, some pass => do
              let rows ← query user pass
              modify (fun s => { s with authIsThere := s.authIsThere || !rows.isEmpty })
          | _, _ => crash : Srv Unit) := by
  refine Respects.read (fun r => ?_)
  split
  · exact (asks _ _).bind (fun _ => Respects.modify (fun _ => rfl))
  · exact Respects.crash

theorem respects_found {query : Str → Srv (List Newsgroup)}
    (asks : ∀ name, Respects I dbase ext (query name))
    : Respects I dbase ext
        (do
          modify (fun s => { s with foundGroup := false })
          let s ← get
          match s.chkname with
          | none => crash
          | some name => do
              let rows ← query name
              modify (fun s => { s with foundGroup := !rows.isEmpty }) : Srv Unit) := by
  refine Respects.bind (Respects.modify (fun _ => rfl)) (fun _ => Respects.read (fun r => ?_))
  cases r.chkname with
  | none => exact Respects.crash
  | some name => exact (asks name).bind (fun _ => Respects.modify (fun _ => rfl))

omit [Marked I] in
theorem respects_acl {direct : Srv (List AclUser)} {viaRole : Srv (List (User2Role × AclRole))}
    (first : Respects I dbase ext direct) (second : Respects I dbase ext viaRole)
    : Respects I dbase ext
        (do
          let rows ← direct
          if rows.isEmpty then do
            let rows ← viaRole
            pure (!rows.isEmpty)
          else pure true : Srv Bool) :=
  first.bind (fun _ => (second.bind (fun _ => Respects.pure _)).ite (Respects.pure _))

theorem respects_xoverRows (postlen : Int) (rows : List (Ngpost × Posting))
    : Respects I dbase ext (xoverRows ext postlen rows) := by
  induction rows generalizing postlen with
  | nil => exact Respects.pure _
  | cons row rest ih => exact (Respects.toSendRow _ _).bind (fun _ => ih _)

theorem respects_sendListLine (cmdtyp : ListCmdtyp) (wildmat : Option Str) (g : Newsgroup)
    : Respects I dbase ext (sendListLine ext cmdtyp wildmat g) := by
  unfold sendListLine
  split
  · exact Respects.toSend _
  · exact Respects.pure _

theorem respects_articleCbCb2 (row : Ngpost) (header : Str)
    : Respects I dbase ext (articleCbCb2 row header) := by
  refine Respects.read (fun r => ?_)
  split
  · exact (Respects.toSendRow _ _).bind (fun _ => Respects.toSendRow _ _)
  · exact (Respects.toSendRow _ _).bind (fun _ => Respects.toSendRow _ _)
  · exact Respects.pure _

theorem respects_row {header body : Cmdtype → Ngpost → Srv Unit}
    (sendsHeader : ∀ cmdtype row, Respects I dbase ext (header cmdtype row))
    (sendsBody : ∀ cmdtype row, Respects I dbase ext (body cmdtype row)) (row : Ngpost)
    : Respects I dbase ext
        (do
          modify (fun s => { s with selectedArticle := some (dec row.postnum) })
          let s ← get
          toSendRow row (articleReply s.cmdtype row)
          header s.cmdtype row
          body s.cmdtype row
          modify (fun s => { s with foundArticle := true }) : Srv Unit) := by
  refine Respects.bind (Respects.modify (fun _ => rfl)) (fun _ => Respects.read (fun r => ?_))
  refine Respects.bind (Respects.toSendRow _ _) (fun _ => ?_)
  refine Respects.bind (sendsHeader _ _) (fun _ => Respects.bind (sendsBody _ _) (fun _ => ?_))
  exact Respects.modify (fun _ => rfl)

theorem respects_sendBody {text : Srv (Option Str)} (reads : Respects I dbase ext text) (row : Ngpost)
    : Respects I dbase ext
        (do
          let body ← text
          match body with
          | some body => toSendRow row body
          | none => pure () : Srv Unit) := by
  refine Respects.bind reads (fun body => ?_)
  cases body with
  | none => exact Respects.pure _
  | some text => exact Respects.toSendRow _ _

omit [Marked I] in
theorem respects_filebackendRetrbody (messageId : Str)
    : Respects I dbase ext (filebackendRetrbody messageId) :=
  (Respects.sql _).bind (fun _ => Respects.pure _)

end Common

section Sqlite3

variable {I : Session → Prop} [Marked I] {ext : Extern}

theorem respects_listCb (cfg : Config) (g : Newsgroup)
    : Respects I .sqlite3 ext (listCb ext cfg g) := by
  refine Respects.read (fun r => Respects.bind ?_ (fun visible => Respects.ite ?_ (Respects.pure _)))
  · apply Respects.ite _ (Respects.pure _)
    cases r.curAuthUser with
    | none => exact Respects.pure _
    | some user => exact respects_acl (Respects.sql _) (Respects.sql _)
  · split
    · exact (Respects.toSend _).ite (Respects.pure _)
    · exact (Respects.toSend _).ite (Respects.pure _)
    · exact Respects.toSend _

theorem respects_articleCb (cfg : Config) (row : Ngpost)
    : Respects I .sqlite3 ext (articleCb cfg row) := by
  apply respects_row
  · intro cmdtype row
    apply Respects.ite _ (Respects.pure _)
    exact (Respects.sql _).bind (fun headers => Respects.forM headers (respects_articleCbCb2 row))
  · intro cmdtype row
    apply Respects.ite _ (Respects.pure _)
    exact Respects.crash.ite (respects_sendBody (respects_filebackendRetrbody _) row)

theorem respects_groupCb (g : Newsgroup) : Respects I .sqlite3 ext (groupCb g) := by
  have selects (n : Ngpost)
      : Respects I .sqlite3 ext
          (modify (fun s => { s with selectedArticle := some (dec n.postnum) }) : Srv Unit) :=
    Respects.modify (fun _ => rfl)
  refine Respects.bind (Respects.toSend _) (fun _ => ?_)
  refine Respects.bind (Respects.modify (fun _ => rfl)) (fun _ => ?_)
  refine Respects.bind (Respects.sql _) (fun rows => ?_)
  exact Respects.bind (Respects.forM rows selects) (fun _ => Respects.modify (fun _ => rfl))

theorem respects_listgroupCb (row : Ngpost) : Respects I .sqlite3 ext (listgroupCb row) := by
  refine Respects.bind (Respects.toSendRow _ _) (fun _ => Respects.modify (fun r => ?_))
  split
  · rfl
  · rfl

theorem leaves_sqlite3 : SrvBackend.sqlite3.Leaves I ext where
  authinfoCheck := respects_authinfoCheck (fun _ _ => Respects.sql _)
  list cfg cmdtyp wildmat := by
    refine Respects.bind
      (Respects.undated (.listing cmdtyp) Speccmd.noConfusion (fun _ => rfl)) (fun _ => ?_)
    refine Respects.bind (Respects.sql _) (fun rows => ?_)
    refine Respects.bind (Respects.forM rows (respects_listCb cfg)) (fun _ => ?_)
    exact Respects.undated .cleared Speccmd.noConfusion (fun _ => rfl)
  xover group min max :=
    (Respects.sql _).bind (fun rows => Respects.forM rows (fun _ => Respects.toSendRow _ _))
  article cfg group type := by
    refine Respects.read (fun r => ?_)
    have rounds (rows : List Ngpost) : Respects I .sqlite3 ext (rows.forM (articleCb cfg)) :=
      Respects.forM rows (respects_articleCb cfg)
    cases type with
    | messageId param => exact (Respects.sql _).bind rounds
    | number param => exact (Respects.sql _).bind rounds
    | current => exact (Respects.sql _).bind rounds
  group name := by
    refine Respects.read (fun old => Respects.bind (Respects.sql _) (fun rows => ?_))
    refine Respects.bind (Respects.modify (fun _ => rfl)) (fun _ => ?_)
    exact Respects.bind (Respects.forM rows respects_groupCb)
      (fun _ => Respects.modify (fun _ => rfl))
  listgroup name := by
    refine Respects.bind (Respects.modify (fun _ => rfl)) (fun _ => ?_)
    refine Respects.bind (Respects.sql _) (fun rows => ?_)
    refine Respects.bind (Respects.forM rows respects_listgroupCb) (fun _ => ?_)
    refine Respects.bind (Respects.modify (fun r => ?_)) (fun _ => Respects.toSend _)
    split
    · rfl
    · rfl
  getHighValue _ _ := (Respects.sql _).bind (fun _ => Respects.pure _)
  chkIfMsgidExists _ _ := (Respects.sql _).bind (fun _ => Respects.pure _)
  checkNewsgroupPostingAllowed := respects_found (fun _ => Respects.sql _)
  checkNewsgroupExistence := respects_found (fun _ => Respects.sql _)
  aclCheckUserGroup _ _ := respects_acl (Respects.sql _) (Respects.sql _)
  storeMessageBody _ _ := Respects.crash
  dbGetUniqnum := Respects.crash
  postInsertIntoPostings row := by
    have fails : Respects I .sqlite3 ext (secexecError : Srv Unit) :=
      (Respects.toSend _).bind (fun _ => Respects.killThread)
    exact Respects.ite ((Respects.sql _).bind (fun ok => (Respects.pure _).ite fails)) fails
  postInsertIntoNgposts _ _ _ := by
    have fails : Respects I .sqlite3 ext (secexecError : Srv Unit) :=
      (Respects.toSend _).bind (fun _ => Respects.killThread)
    exact (Respects.sql _).bind (fun ok => (Respects.pure _).ite fails)
  postUpdateHighValue _ _ := (Respects.sql _).bind (fun _ => Respects.pure _)

end Sqlite3

section Engines

variable {I : Session → Prop} [Marked I] {engine : Engine} {dbase : Dbase} {ext : Extern}

/-- An engine whose statements leave the session alone. -/
def Engine.LeavesSession (engine : Engine) (I : Session → Prop) (dbase : Dbase) (ext : Extern) : Prop :=
  ∀ (sqlCmd : String) (names : List Str) (op : Stmt),
    Respects I dbase ext (engine.perform sqlCmd names op)

theorem Engine.LeavesSession.articleRow (respects : engine.LeavesSession I dbase ext)
    {loadBody : Str → Srv (Option Str)}
    (loads : ∀ messageId, Respects I dbase ext (loadBody messageId)) (cfg : Config)
    (row : Ngpost)
    : Respects I dbase ext (engine.articleRow loadBody cfg row) := by
  apply respects_row
  · intro cmdtype row
    apply Respects.ite _ (Respects.pure _)
    refine Respects.bind (respects _ _ _) (fun headers => ?_)
    split
    · exact respects_articleCbCb2 row _
    · exact Respects.pure _
  · intro cmdtype row
    apply Respects.ite _ (Respects.pure _)
    exact respects_sendBody ((loads _).ite (respects_filebackendRetrbody _)) row

theorem Engine.LeavesSession.groupRows (respects : engine.LeavesSession I dbase ext)
    (rounds : List Newsgroup → List Newsgroup) (group : Str)
    : Respects I dbase ext (engine.groupRows rounds group) := by
  have round (g : Newsgroup) : Respects I dbase ext (engine.groupRow g) := by
    refine Respects.bind (Respects.toSend _) (fun _ => ?_)
    refine Respects.bind (Respects.modify (fun _ => rfl)) (fun _ => ?_)
    refine Respects.bind (Respects.modify (fun _ => rfl)) (fun _ => ?_)
    refine Respects.bind (respects _ _ _) (fun rows => ?_)
    split
    · exact Respects.modify (fun _ => rfl)
    · exact Respects.pure _
  refine Respects.read (fun old => Respects.bind (Respects.modify (fun _ => rfl)) (fun _ => ?_))
  refine Respects.bind (respects _ _ _) (fun rows => ?_)
  exact Respects.bind (Respects.forM _ round) (fun _ => Respects.modify (fun _ => rfl))

theorem Engine.LeavesSession.listgroup (respects : engine.LeavesSession I dbase ext) (group : Str)
    : Respects I dbase ext (engine.listgroup group) := by
  refine Respects.bind (respects _ _ _) (fun rows => ?_)
  refine Respects.bind (Respects.forM rows (fun row => Respects.toSendRow _ _)) (fun _ => ?_)
  exact Respects.bind (Respects.modify (fun _ => rfl)) (fun _ => Respects.toSend _)

omit [Marked I] in
theorem Engine.LeavesSession.insert (respects : engine.LeavesSession I dbase ext) (sqlCmd : String)
    (names : List Str) (op : Stmt) (ok : op.Result → Bool)
    : Respects I dbase ext (engine.insert sqlCmd names op ok) :=
  (respects _ _ _).bind (fun _ => (Respects.pure _).ite Respects.killThread)

end Engines

section Mysql

variable {I : Session → Prop} [Marked I] {server : MysqlServer} {ext : Extern}

omit [Marked I] in
theorem respects_mysqlSrv (names : List Str) (op : Stmt)
    : Respects I .mysql ext (mysqlSrv server names op) :=
  Respects.program

omit [Marked I] in
theorem respects_mysqlEngine : (mysqlEngine server).LeavesSession I .mysql ext :=
  fun _ names op => respects_mysqlSrv names op

theorem leaves_mysql : (SrvBackend.mysql server).Leaves I ext where
  authinfoCheck := respects_authinfoCheck (fun _ _ => respects_mysqlSrv _ _)
  list cfg cmdtyp wildmat := by
    refine Respects.bind (respects_mysqlSrv _ _) (fun rows => Respects.forM rows (fun g => ?_))
    refine Respects.read (fun r => Respects.bind ?_ (fun visible => ?_))
    · apply Respects.ite _ (Respects.pure _)
      cases r.curAuthUser with
      | none => exact Respects.crash
      | some user => exact respects_acl (respects_mysqlSrv _ _) (respects_mysqlSrv _ _)
    · exact (respects_sendListLine cmdtyp wildmat g).ite (Respects.pure _)
  xover group min max := (respects_mysqlSrv _ _).bind (respects_xoverRows 0)
  article cfg group type := by
    refine Respects.read (fun r => Respects.bind ?_ (fun rows => ?_))
    · cases type with
      | messageId param => exact respects_mysqlSrv _ _
      | number param => exact respects_mysqlSrv _ _
      | current => exact respects_mysqlSrv _ _
    · split
      · exact respects_mysqlEngine.articleRow (fun _ => Respects.crash) cfg _
      · exact Respects.pure _
  group name := respects_mysqlEngine.groupRows _ name
  listgroup name := respects_mysqlEngine.listgroup name
  getHighValue _ _ := (respects_mysqlSrv _ _).bind (fun _ => Respects.pure _)
  chkIfMsgidExists _ _ := (respects_mysqlSrv _ _).bind (fun _ => Respects.pure _)
  checkNewsgroupPostingAllowed := respects_found (fun _ => respects_mysqlSrv _ _)
  checkNewsgroupExistence := respects_found (fun _ => respects_mysqlSrv _ _)
  aclCheckUserGroup _ _ := respects_acl (respects_mysqlSrv _ _) (respects_mysqlSrv _ _)
  storeMessageBody _ _ := Respects.crash
  dbGetUniqnum := Respects.crash
  postInsertIntoPostings row := by
    have inserts : Respects I .mysql ext (mysqlInsertPosting server row) := by
      unfold mysqlInsertPosting
      split
      · exact Respects.sql _
      · exact Respects.program
    exact inserts.bind (fun _ => (Respects.pure _).ite Respects.killThread)
  postInsertIntoNgposts _ _ _ := respects_mysqlEngine.insert _ _ _ _
  postUpdateHighValue _ _ := (respects_mysqlSrv _ _).bind (fun _ => Respects.pure _)

end Mysql

section Postgres

variable {I : Session → Prop} [Marked I] {server : PostgresServer} {ext : Extern}

omit [Marked I] in
theorem respects_postgresSrv (sqlCmd : String) (params : List Str) (op : Stmt)
    : Respects I .postgres ext (postgresSrv sqlCmd params op) :=
  Respects.program

omit [Marked I] in
theorem respects_postgresEngine : postgresEngine.LeavesSession I .postgres ext :=
  respects_postgresSrv

omit [Marked I] in
theorem respects_xhdrGet (sqlCmd : String) (params names : List Str) (op : Stmt)
    : Respects I .postgres ext (xhdrGet server sqlCmd params names op) := by
  intro r s start
  show Prog.wp _ (xhdrGet server sqlCmd params names op r) _ _ s
  unfold xhdrGet
  split
  · exact respects_postgresSrv sqlCmd params op r s start
  · exact Respects.program (p := fun r => server.misread Exit (.killThread r.sent) op) r s start

-- the texts of the statements are not to be evaluated
attribute [local irreducible] postgresSrv

theorem leaves_postgres : (SrvBackend.postgres server).Leaves I ext where
  authinfoCheck := respects_authinfoCheck (fun user pass =>
    respects_postgresSrv _ _ (.selectUsers user pass))
  list cfg cmdtyp wildmat := by
    refine Respects.bind (respects_postgresSrv _ _ .selectNewsgroups) (fun rows => ?_)
    exact Respects.forM rows (fun g => Respects.crash.ite (respects_sendListLine cmdtyp wildmat g))
  xover group min max := by
    apply Respects.ite _ Respects.killThread
    exact Respects.bind (respects_postgresSrv _ _ (.selectOverview group min max))
      (respects_xoverRows _)
  article cfg group type := by
    have compares (param : Str) : Respects I .postgres ext (postgresPostnum server group param) := by
      unfold postgresPostnum
      split
      · exact Respects.killThread
      · exact respects_postgresSrv _ _ (.selectNgpostsPostnum group param)
    refine Respects.read (fun r => Respects.bind ?_ (fun rows => ?_))
    · cases type with
      | messageId param => exact respects_postgresSrv _ _ (.selectNgpostsMsgid group param)
      | number param => exact compares _
      | current => exact compares _
    · split
      · exact respects_postgresEngine.articleRow
          (fun messageId => respects_postgresSrv _ _ (.bodyRead messageId)) cfg _
      · exact Respects.pure _
  group name := respects_postgresEngine.groupRows _ name
  listgroup name := respects_postgresEngine.listgroup name
  getHighValue _ group :=
    (respects_postgresSrv _ _ (.selectNewsgroup group)).bind (fun _ => Respects.pure _)
  chkIfMsgidExists group msgid :=
    (respects_postgresSrv _ _ (.selectNgpostsMsgid group msgid)).bind (fun _ => Respects.pure _)
  checkNewsgroupPostingAllowed :=
    respects_found (fun name => respects_postgresSrv _ [name] (.selectPostable name))
  checkNewsgroupExistence :=
    respects_found (fun name => respects_postgresSrv _ [name] (.selectNewsgroup name))
  aclCheckUserGroup user group :=
    respects_acl (respects_postgresSrv _ _ (.selectAclUsers user group))
      (respects_postgresSrv _ _ (.selectAclRoles user group))
  storeMessageBody messageId body := by
    refine Respects.bind (Respects.sql _) (fun old => Respects.killThread.ite ?_)
    refine Respects.bind (respects_postgresSrv _ _ (.bodyWrite messageId body)) (fun ok => ?_)
    exact (Respects.pure _).ite Respects.killThread
  dbGetUniqnum :=
    (Respects.sql _).bind (fun _ => (Respects.sql _).bind (fun _ => Respects.pure _))
  postInsertIntoPostings _ := respects_postgresEngine.insert _ _ _ _
  postInsertIntoNgposts _ _ _ := respects_postgresEngine.insert _ _ _ _
  postUpdateHighValue n newsgroup :=
    (respects_postgresSrv _ _ (.updateHigh newsgroup n)).bind (fun _ => Respects.pure _)

end Postgres

theorem leaves {I : Session → Prop} [Marked I] (servers : DbServers) (dbase : Dbase) (ext : Extern)
    : (srvBackend servers dbase).Leaves I ext := by
  cases dbase with
  | sqlite3 => exact leaves_sqlite3
  | mysql => exact leaves_mysql
  | postgres => exact leaves_postgres

section Handlers

variable {I : Session → Prop} [Marked I] {db : SrvBackend} {ext : Extern} {cfg : Config} {env : Env}

theorem respects_send (text : Str) : Respects I db.dbase ext (send text) :=
  Respects.modify (fun _ => rfl)

theorem respects_docmdList (leaves : db.Leaves I ext) (command : Str) (cmdtyp : ListCmdtyp)
    : Respects I db.dbase ext (db.docmdList ext cfg command cmdtyp) := by
  have list (reply : Str) (wildmat : Option Str)
      : Respects I db.dbase ext (SrvBackend.docmdList.list db ext cfg cmdtyp reply wildmat) := by
    refine Respects.bind (Respects.toSend _) (fun _ => ?_)
    exact Respects.bind (leaves.list cfg cmdtyp wildmat) (fun _ => Respects.toSend _)
  cases cmdtyp with
  | list => exact list _ _
  | listNewsgroups => exact list _ _
  | xgtitle =>
      simp only [SrvBackend.docmdList]
      split
      · exact Respects.toSend _
      · exact list _ _

theorem respects_docmdXover (leaves : db.Leaves I ext) (command : Str)
    : Respects I db.dbase ext (db.docmdXover ext env command) := by
  have range (group : Str) (realMax min max : Nat)
      : Respects I db.dbase ext (SrvBackend.docmdXover.range db ext group realMax min max) := by
    refine Respects.ite (Respects.toSend _) (Respects.bind (Respects.toSend _) (fun _ => ?_))
    exact Respects.bind (leaves.xover _ _ _) (fun _ => Respects.toSend _)
  refine Respects.read (fun r => ?_)
  split
  · exact Respects.toSend _
  · refine Respects.bind (leaves.getHighValue _ _) (fun realMax => ?_)
    split
    · split
      · exact Respects.toSend _
      · exact range _ _ _ _
    · exact range _ _ _ _

theorem respects_docmdArticle (leaves : db.Leaves I ext) (command : Str)
    : Respects I db.dbase ext (db.docmdArticle cfg command) := by
  have retrieve (group : Str) (type : Artcltyp)
      : Respects I db.dbase ext (SrvBackend.docmdArticle.retrieve db cfg group type) := by
    refine Respects.bind (leaves.article cfg group type) (fun _ => Respects.read (fun r => ?_))
    exact (Respects.pure _).ite (Respects.toSend _)
  refine Respects.bind (Respects.modify (fun _ => rfl)) (fun _ => Respects.read (fun r => ?_))
  split
  · exact Respects.toSend _
  · split
    · exact Respects.toSend _
    · exact (Respects.toSend _).ite (retrieve _ _)
    · exact retrieve _ _

omit [Marked I] in
theorem respects_aclCheck (leaves : db.Leaves I ext) (user : Option Str) (group : Str)
    : Respects I db.dbase ext (db.aclCheck user group) := by
  cases user with
  | none => exact Respects.pure _
  | some user => exact leaves.aclCheckUserGroup user group

theorem respects_docmdGroup (leaves : db.Leaves I ext) (command : Str)
    : Respects I db.dbase ext (db.docmdGroup cfg command) := by
  refine Respects.read (fun old => ?_)
  split
  · exact Respects.toSend _
  · refine Respects.bind (Respects.modify (fun _ => rfl)) (fun _ => ?_)
    refine Respects.bind leaves.checkNewsgroupExistence (fun _ => Respects.read (fun r => ?_))
    refine Respects.ite ?_ (Respects.ite ?_ (leaves.group _))
    · exact Respects.bind (Respects.toSend _) (fun _ => Respects.modify (fun _ => rfl))
    · refine Respects.bind (respects_aclCheck leaves _ _) (fun allowed => ?_)
      exact (leaves.group _).ite (Respects.toSend _)

theorem respects_docmdListgroup (leaves : db.Leaves I ext) (command : Str)
    : Respects I db.dbase ext (db.docmdListgroup cfg command) := by
  have reply (group : Str) : Respects I db.dbase ext (SrvBackend.docmdListgroup.reply db group) :=
    (Respects.toSend _).bind (fun _ => leaves.listgroup group)
  have listing (group : Str)
      : Respects I db.dbase ext (SrvBackend.docmdListgroup.listing db cfg group) := by
    refine Respects.read (fun r => Respects.ite ?_ (reply _))
    refine Respects.bind (respects_aclCheck leaves _ _) (fun allowed => ?_)
    exact (reply _).ite (Respects.toSend _)
  refine Respects.read (fun old => ?_)
  split
  · split
    · exact Respects.toSend _
    · exact listing _
  · refine Respects.bind (Respects.modify (fun _ => rfl)) (fun _ => ?_)
    refine Respects.bind leaves.checkNewsgroupExistence (fun _ => Respects.read (fun r => ?_))
    apply Respects.ite
    · exact Respects.bind (Respects.modify (fun _ => rfl)) (fun _ => Respects.toSend _)
    · exact Respects.bind (Respects.modify (fun _ => rfl)) (fun _ => listing _)

theorem respects_chkNgNameCorrectness (leaves : db.Leaves I ext) (groups : List Str)
    : Respects I db.dbase ext (db.chkNgNameCorrectness groups) := by
  have refuses (text : Str)
      : Respects I db.dbase ext (do toSend text; pure false : Srv Bool) :=
    (Respects.toSend _).bind (fun _ => Respects.pure _)
  induction groups with
  | nil => exact Respects.pure _
  | cons newsgroup rest ih =>
      refine Respects.bind (Respects.modify (fun _ => rfl)) (fun _ => ?_)
      refine Respects.bind leaves.checkNewsgroupExistence (fun _ => ?_)
      refine Respects.bind (Respects.modify (fun _ => rfl)) (fun _ => ?_)
      refine Respects.read (fun r => Respects.ite (refuses _) ?_)
      refine Respects.bind (Respects.modify (fun _ => rfl)) (fun _ => ?_)
      refine Respects.bind leaves.checkNewsgroupPostingAllowed (fun _ => ?_)
      refine Respects.bind (Respects.modify (fun _ => rfl)) (fun _ => ?_)
      refine Respects.read (fun r => Respects.ite (refuses _) ?_)
      exact Respects.bind (Respects.modify (fun _ => rfl)) (fun _ => ih)

omit [Marked I] in
theorem respects_postToGroups (leaves : db.Leaves I ext) (messageId : Str) (groups : List Str)
    (stack : Charstack)
    : Respects I db.dbase ext (db.postToGroups cfg env messageId groups stack) := by
  induction groups generalizing stack with
  | nil => exact Respects.pure _
  | cons newsgroup rest ih =>
      refine Respects.read (fun r => ?_)
      refine Respects.bind ((respects_aclCheck leaves _ _).ite (Respects.pure _)) (fun allowed => ?_)
      refine Respects.ite (ih stack) (Respects.bind (leaves.getHighValue _ _) (fun curHigh => ?_))
      refine Respects.ite Respects.killThread (Respects.ite (ih stack) ?_)
      refine Respects.bind (leaves.postInsertIntoNgposts _ _ _) (fun _ => ?_)
      exact Respects.bind (leaves.postUpdateHighValue _ _) (fun _ => ih _)

omit [Marked I] in
theorem respects_getUniqnum : Respects I db.dbase ext getUniqnum := by
  have write (id : Nat) : Respects I db.dbase ext (getUniqnum.write id) :=
    (Respects.sql _).bind (fun _ => Respects.pure _)
  refine Respects.bind (Respects.sql _) (fun opened => Respects.ite ?_ ?_)
  · refine Respects.bind (Respects.sql _) (fun id => ?_)
    cases id with
    | none => exact Respects.pure _
    | some id => exact write (id + 1)
  · exact Respects.bind (Respects.sql _) (fun created => (write 1).ite (Respects.pure _))

theorem respects_postAccepted (leaves : db.Leaves I ext) (len : Nat) (header ngstrp body : Str)
    : Respects I db.dbase ext (db.postAccepted ext cfg env len header ngstrp body) := by
  have stores (messageId body : Str)
      : Respects I db.dbase ext (db.storeBody cfg messageId body) := by
    apply Respects.ite (leaves.storeMessageBody _ _)
    exact (Respects.sql _).bind (fun _ => (Respects.sql _).bind (fun _ => Respects.pure _))
  have secures (value : Option Str) : Respects I db.dbase ext (db.secure value) := by
    unfold SrvBackend.secure
    split
    · exact Respects.pure _
    · exact Respects.pure _
    · exact Respects.crash
  refine Respects.bind (leaves.dbGetUniqnum.ite respects_getUniqnum) (fun newid => ?_)
  split
  · split
    · exact Respects.crash
    · exact Respects.killThread
    · refine Respects.bind (stores _ _) (fun _ => Respects.bind (secures _) (fun author => ?_))
      refine Respects.bind (secures _) (fun subject => ?_)
      refine Respects.bind (leaves.postInsertIntoPostings _) (fun _ => ?_)
      exact Respects.bind (respects_postToGroups leaves _ _ _) (fun _ => Respects.toSend _)
  · exact Respects.killThread

theorem respects_docmdPost (leaves : db.Leaves I ext)
    : Respects I db.dbase ext (db.docmdPost ext cfg env) := by
  have article (buf : Str) : Respects I db.dbase ext (db.postArticle ext cfg env buf) := by
    unfold SrvBackend.postArticle
    split
    · exact Respects.killThread
    · exact Respects.crash
    · exact Respects.toSend _
    · refine Respects.bind (respects_chkNgNameCorrectness leaves _) (fun ok => ?_)
      exact (respects_postAccepted leaves _ _ _ _).ite (Respects.pure _)
  refine Respects.bind (respects_send _) (fun _ => ?_)
  split
  · exact article _
  · exact (respects_send _).bind (fun _ => Respects.killThread)
  · exact Respects.killThread
  · exact fun _ _ _ => trivial

theorem respects_docmdCapabilities : Respects I db.dbase ext (docmdCapabilities cfg) := by
  have last : Respects I db.dbase ext (toSend capsstringPost >>= fun _ => toSend periodEnd) :=
    (Respects.toSend _).bind (fun _ => Respects.toSend _)
  refine Respects.read (fun r => ?_)
  refine (Respects.toSend _).bind (fun _ => (Respects.toSend _).bind (fun _ => ?_))
  refine (Respects.toSend _).bind (fun _ => (Respects.toSend _).bind (fun _ => ?_))
  refine Respects.ite ((Respects.toSend _).bind (fun _ => ?_)) ?_
  all_goals exact ((Respects.toSend _).bind (fun _ => last)).ite last

theorem respects_lastCommands (authenticated : Bool) (command : Str)
    : Respects I db.dbase ext (lastCommands cfg authenticated command) := by
  have starttls : Respects I db.dbase ext (docmdStarttls cfg) := by
    refine Respects.read (fun r => Respects.ite (Respects.toSend _) ?_)
    refine Respects.ite (Respects.toSend _) (Respects.ite (Respects.toSend _) ?_)
    exact Respects.bind (Respects.modify (fun _ => rfl)) (fun _ => Respects.toSend _)
  refine starttls.ite (Respects.ite (Respects.toSend _) ?_)
  exact (Respects.toSend _).ite (Respects.toSend _)

theorem respects_checkMandatoryTls {m : Srv Unit} (respects : Respects I db.dbase ext m)
    : Respects I db.dbase ext (checkMandatoryTls cfg m) :=
  Respects.read (fun _ => (Respects.toSend _).ite respects)

/-- A branch of `do_command` other than that of XHDR. -/
theorem respects_authCommands (leaves : db.Leaves I ext) {command : Str}
    {entry : Str × Srv Unit} (member : entry ∈ db.authCommands ext cfg env command)
    : entry = ("xhdr".toList, checkMandatoryTls cfg (db.docmdXhdr ext env command))
      ∨ Respects I db.dbase ext entry.2 := by
  have lists (cmdtyp : ListCmdtyp)
      : Respects I db.dbase ext (checkMandatoryTls cfg (db.docmdList ext cfg command cmdtyp)) :=
    respects_checkMandatoryTls (respects_docmdList leaves command cmdtyp)
  have reads : Respects I db.dbase ext (checkMandatoryTls cfg (db.docmdArticle cfg command)) :=
    respects_checkMandatoryTls (respects_docmdArticle leaves command)
  simp only [SrvBackend.authCommands, List.mem_cons, List.not_mem_nil, or_false] at member
  rcases member with rfl | rfl | rfl | rfl | rfl | rfl | rfl | rfl | rfl | rfl | rfl | rfl | rfl
    | rfl | rfl | rfl | rfl
  · exact Or.inr (lists _)
  · exact Or.inr (Respects.toSend _)
  · exact Or.inr (respects_checkMandatoryTls (respects_docmdListgroup leaves command))
  · exact Or.inr (lists _)
  · exact Or.inr (lists _)
  · exact Or.inr (Respects.toSend _)
  · exact Or.inr (respects_checkMandatoryTls (respects_docmdGroup leaves command))
  · exact Or.inr (respects_checkMandatoryTls (respects_docmdXover leaves command))
  · exact Or.inl rfl
  · exact Or.inr reads
  · exact Or.inr reads
  · exact Or.inr reads
  · exact Or.inr reads
  · exact Or.inr (respects_checkMandatoryTls (Respects.toSend _))
  · exact Or.inr (respects_checkMandatoryTls (respects_docmdPost leaves))
  · exact Or.inr (Respects.toSend _)
  · exact Or.inr respects_docmdCapabilities

end Handlers

end WendzelNNTPd
