import WendzelNNTPd.Lib.Demonic
import WendzelNNTPd.Posting.DeletedGroup
import WendzelNNTPd.Reading.GroupSelection

/-! One reply to each command, whatever others do to the database meanwhile. A handler begins its
reply with a status line before it sends anything else; only GROUP asks the database twice for one
thing and replies with what the second query finds.
-/

namespace WendzelNNTPd

open CString Atomic

-----------------------------------------------------------------------------------------
-- Replies
-----------------------------------------------------------------------------------------

/-- A code of three digits and a blank begin a single line. -/
def isStatusLine : Str → Bool
  | a :: b :: c :: ' ' :: words =>
      [a, b, c].all Char.isDigit && "\r\n".toList.isSuffixOf words && words.count '\n' == 1
  | _ => false

/-- The status lines that are followed by a block of text. Of those with code 211 it is the one of
LISTGROUP only. -/
def announcesBlock (line : Str) : Bool :=
  line == articleListFollows
  || ["100", "101", "215", "220", "221", "222", "224", "282"].any
      (fun code => code.toList.isPrefixOf line)

/-- One status line, and a block of text only if the line announces one. -/
def OneReply (reply : Str) : Prop :=
  ∃ line block,
    reply = line ++ block ∧ isStatusLine line = true
    ∧ (block = [] ∨ announcesBlock line = true)

/-- What the client was sent so far is `sent`, and there is one reply to be sent. -/
structure Session.Replied (sent : List Piece) (r : Session) : Prop where
  sent : r.sent = sent
  reply : OneReply r.texts.flatten

/-- The output of a session so far, and its user. -/
def Session.output (r : Session) : List Piece × List Piece × Option Str :=
  (r.sent, r.curstring, r.curAuthUser)

/-- The process goes on. -/
def Exit.Alive (reason : Exit) : Prop := reason ≠ .crash

-----------------------------------------------------------------------------------------
-- Kinds of handlers
-----------------------------------------------------------------------------------------

section Kinds

variable (guard : (op : Stmt) → op.Result → Prop) (user : Option Str) {α : Type} (m : Srv α)

/-- The handler outputs nothing. -/
def Still : Prop :=
  ∀ o, Settles guard Exit.Alive (fun r => r.output = o) m (fun _ r => r.output = o)

/-- The handler adds to a reply to `user`. -/
def Adds : Prop :=
  ∀ sent first,
    Settles guard Exit.Alive
      (fun r => r.sent = sent ∧ first <+: r.curstring ∧ r.curAuthUser = user) m
      (fun _ r => r.sent = sent ∧ first <+: r.curstring ∧ r.curAuthUser = user)

/-- The handler begins and completes the reply to `user`. -/
def Tells : Prop :=
  ∀ sent,
    Settles guard Exit.Alive (fun r => r.output = (sent, [], user)) m (fun _ => Session.Replied sent)

end Kinds

section Rules

variable {guard : (op : Stmt) → op.Result → Prop} {user : Option Str} {α β : Type}

theorem Still.pure (a : α) : Still guard (Pure.pure a : Srv α) :=
  fun _ => Settles.pure (fun _ start => start)

theorem Still.bind {m : Srv β} {f : β → Srv α} (first : Still guard m)
    (rest : ∀ b, Still guard (f b))
    : Still guard (m >>= f) :=
  fun o => (first o).bind (fun b => rest b o)

theorem Still.get_bind {f : Session → Srv α} (rest : ∀ r, Still guard (f r))
    : Still guard (get >>= f) :=
  fun o => Settles.get_bind (fun r _ => rest r o)

theorem Still.modify {g : Session → Session} (same : ∀ r, (g r).output = r.output)
    : Still guard (modify g) :=
  fun _ => Settles.modify (fun r start => (same r).trans start)

theorem Still.ite {c : Prop} [Decidable c] {m m' : Srv α} (yes : Still guard m)
    (no : Still guard m')
    : Still guard (if c then m else m') :=
  fun o => Settles.ite (fun _ => yes o) (fun _ => no o)

theorem settles_killThread {P : Session → Prop} {Q : α → Session → Prop}
    : Settles guard Exit.Alive P (killThread : Srv α) Q :=
  fun _ _ killed => by cases killed

theorem Still.killThread : Still guard (killThread : Srv α) := fun _ => settles_killThread

/-- A statement, or what a server misreads it as. -/
theorem Still.within {program : Session → Prog Sql Exit α} {allowed : Stmt → Prop}
    (within : ∀ r, (program r).Within allowed (· = .killThread r.sent))
    : Still guard (fun r => program r >>= fun a => Pure.pure (a, r)) := by
  intro o r start
  apply Prog.Always.bind
  refine (Prog.Always.of_within (within r) ?_).mono (fun a _ => start)
  intro reason killed crashed
  rw [killed] at crashed
  cases crashed

theorem settles_sql {P : Session → Prop} {op : Stmt}
    : Settles guard Exit.Alive P (sql op) (fun result r => P r ∧ guard op result) :=
  fun _ start _ admitted => ⟨start, admitted⟩

theorem Still.sql (op : Stmt) : Still guard (sql op) :=
  fun _ => settles_sql.post (fun _ _ done => done.1)

theorem Still.adds {m : Srv α} (still : Still guard m) : Adds guard user m := by
  intro sent first r start
  refine (still r.output r rfl).mono (fun out same => ?_)
  obtain ⟨sentSame, same⟩ := Prod.mk.inj same
  obtain ⟨curSame, userSame⟩ := Prod.mk.inj same
  exact ⟨sentSame.trans start.1, curSame ▸ start.2.1, userSame.trans start.2.2⟩

theorem Adds.pure (a : α) : Adds guard user (Pure.pure a : Srv α) := (Still.pure a).adds

theorem Adds.bind {m : Srv β} {f : β → Srv α} (first : Adds guard user m)
    (rest : ∀ b, Adds guard user (f b))
    : Adds guard user (m >>= f) :=
  fun sent start => (first sent start).bind (fun b => rest b sent start)

theorem Adds.get_bind {f : Session → Srv α} (rest : ∀ r, Adds guard user (f r))
    : Adds guard user (get >>= f) :=
  fun sent start => Settles.get_bind (fun r _ => rest r sent start)

theorem Adds.ite {c : Prop} [Decidable c] {m m' : Srv α} (yes : Adds guard user m)
    (no : Adds guard user m')
    : Adds guard user (if c then m else m') :=
  fun sent start => Settles.ite (fun _ => yes sent start) (fun _ => no sent start)

theorem Adds.forM {γ : Type} {f : γ → Srv PUnit} (l : List γ) (round : ∀ x, Adds guard user (f x))
    : Adds guard user (l.forM f) :=
  fun sent start => Settles.forM l (fun x _ => round x sent start)

theorem Adds.append {pieces : List Piece}
    : Adds guard user (modify (fun r => { r with curstring := r.curstring ++ pieces }) : Srv PUnit) :=
  fun _ _ => Settles.modify (fun _ start =>
    ⟨start.1, start.2.1.trans (List.prefix_append _ _), start.2.2⟩)

theorem Adds.toSend (text : Str) : Adds guard user (toSend text) := Adds.append

theorem Adds.toSendRow (row : Ngpost) (text : Str) : Adds guard user (toSendRow row text) := Adds.append

theorem Adds.modify {g : Session → Session} (same : ∀ r, (g r).output = r.output)
    : Adds guard user (modify g) :=
  (Still.modify same).adds

theorem Session.Replied.of_block {sent : List Piece} {r : Session} {piece : Piece}
    (status : isStatusLine piece.text = true) (block : announcesBlock piece.text = true)
    (same : r.sent = sent) (begins : [piece] <+: r.curstring)
    : r.Replied sent := by
  obtain ⟨more, is⟩ := begins
  refine ⟨same, piece.text, (more.map (·.text)).flatten, ?_, status, Or.inr block⟩
  rw [Session.texts, ← is, List.map_append, List.flatten_append]
  simp

theorem Session.Replied.of_line {sent : List Piece} {r : Session} {piece : Piece}
    (status : isStatusLine piece.text = true) (output : r.output = (sent, [piece], user))
    : r.Replied sent := by
  obtain ⟨same, output⟩ := Prod.mk.inj output
  obtain ⟨is, -⟩ := Prod.mk.inj output
  refine ⟨same, piece.text, [], ?_, status, Or.inl rfl⟩
  simp [Session.texts, is]

/-- The first piece of a reply. -/
theorem settles_append {P : Session → Prop} {sent : List Piece} (piece : Piece)
    (silent : ∀ r, P r → r.output = (sent, [], user))
    : Settles guard Exit.Alive P
        (modify (fun r : Session => { r with curstring := r.curstring ++ [piece] }) : Srv PUnit)
        (fun _ r => r.output = (sent, [piece], user)) := by
  refine Settles.modify (fun r start => ?_)
  obtain ⟨same, output⟩ := Prod.mk.inj (silent r start)
  obtain ⟨is, named⟩ := Prod.mk.inj output
  simp only [Session.output, same, is, named, List.nil_append]

/-- The pieces behind the first one. -/
theorem Adds.behind {m : Srv α} (adds : Adds guard user m) (sent : List Piece) (piece : Piece)
    : Settles guard Exit.Alive (fun r => r.output = (sent, [piece], user)) m
        (fun _ r => r.sent = sent ∧ [piece] <+: r.curstring ∧ r.curAuthUser = user) := by
  refine (adds sent [piece]).pre (fun r start => ?_)
  obtain ⟨same, output⟩ := Prod.mk.inj start
  obtain ⟨is, named⟩ := Prod.mk.inj output
  exact ⟨same, by rw [is], named⟩

/-- The reply begins with a status line; the rest of the handler may add what it announces. -/
theorem Tells.append_bind (piece : Piece) (status : isStatusLine piece.text = true)
    (block : announcesBlock piece.text = true) {m : Srv α} (rest : Adds guard user m)
    : Tells guard user
        (modify (fun r : Session => { r with curstring := r.curstring ++ [piece] })
          >>= fun _ => m) := by
  intro sent
  refine (settles_append piece (fun _ start => start)).bind (fun _ => (rest.behind sent piece).post ?_)
  exact fun _ r done => Session.Replied.of_block status block done.1 done.2.1

/-- The reply is a status line; the rest of the handler outputs nothing. -/
theorem Tells.append_still (piece : Piece) (status : isStatusLine piece.text = true) {m : Srv α}
    (rest : Still guard m)
    : Tells guard user
        (modify (fun r : Session => { r with curstring := r.curstring ++ [piece] })
          >>= fun _ => m) := by
  intro sent
  refine (settles_append piece (fun _ start => start)).bind (fun _ => (rest _).post ?_)
  exact fun _ r done => Session.Replied.of_line status done

theorem Tells.toSend {text : Str} (status : isStatusLine text = true)
    : Tells guard user (toSend text) := by
  have alone : Tells guard user (WendzelNNTPd.toSend text >>= fun _ => Pure.pure ()) :=
    Tells.append_still ⟨text, none⟩ status (Still.pure ())
  exact alone

/-- A status line and its block in one piece. -/
theorem Tells.block (line block : Str) (status : isStatusLine line = true)
    (announces : announcesBlock line = true)
    : Tells guard user (WendzelNNTPd.toSend (line ++ block)) := by
  intro sent
  refine Settles.modify (fun r start => ?_)
  obtain ⟨sentSame, output⟩ := Prod.mk.inj start
  obtain ⟨curSame, -⟩ := Prod.mk.inj output
  refine ⟨sentSame, line, block, ?_, status, Or.inr announces⟩
  simp [Session.texts, curSame]

theorem Tells.bind_still {m : Srv β} {f : β → Srv α} (first : Still guard m)
    (rest : ∀ b, Tells guard user (f b))
    : Tells guard user (m >>= f) :=
  fun sent => (first _).bind (fun b => rest b sent)

theorem Tells.get_bind {f : Session → Srv α} (rest : ∀ r, Tells guard user (f r))
    : Tells guard user (get >>= f) :=
  fun sent => Settles.get_bind (fun r _ => rest r sent)

theorem Tells.ite {c : Prop} [Decidable c] {m m' : Srv α} (yes : Tells guard user m)
    (no : Tells guard user m')
    : Tells guard user (if c then m else m') :=
  fun sent => Settles.ite (fun _ => yes sent) (fun _ => no sent)

end Rules

-----------------------------------------------------------------------------------------
-- Functions of the backends that may get any result
-----------------------------------------------------------------------------------------

/-- Functions of a backend that neither crash nor spoil a reply, whatever the database returns. -/
structure SrvBackend.Orderly (db : SrvBackend) (guard : (op : Stmt) → op.Result → Prop)
    (ext : Extern)
    : Prop where
  authinfoCheck :
    ∀ o, Settles guard Exit.Alive
      (fun r => r.output = o ∧ r.curAuthUser.isSome ∧ r.curAuthPass.isSome) db.authinfoCheck
      (fun _ r => r.output = o)
  checkNewsgroupExistence :
    ∀ o, Settles guard Exit.Alive (fun r => r.output = o ∧ r.chkname.isSome)
      db.checkNewsgroupExistence (fun _ r => r.output = o)
  checkNewsgroupPostingAllowed :
    ∀ o, Settles guard Exit.Alive (fun r => r.output = o ∧ r.chkname.isSome)
      db.checkNewsgroupPostingAllowed (fun _ r => r.output = o)
  getHighValue : ∀ env newsgroup, Still guard (db.getHighValue env newsgroup)
  chkIfMsgidExists : ∀ newsgroup msgid, Still guard (db.chkIfMsgidExists newsgroup msgid)
  aclCheckUserGroup : ∀ user newsgroup, Still guard (db.aclCheckUserGroup user newsgroup)
  xhdr : ∀ user part group msgid min max, Adds guard user (db.xhdr ext part group msgid min max)
  xover : ∀ user group min max, Adds guard user (db.xover ext group min max)
  listgroup : ∀ user group, Adds guard user (db.listgroup group)
  storeMessageBody :
    db.dbase = .postgres → ∀ messageId body, Still guard (db.storeMessageBody messageId body)
  dbGetUniqnum : db.dbase = .postgres → Still guard db.dbGetUniqnum
  postInsertIntoPostings : ∀ row, Still guard (db.postInsertIntoPostings row)
  postInsertIntoNgposts :
    ∀ messageId newsgroup n, Still guard (db.postInsertIntoNgposts messageId newsgroup n)
  postUpdateHighValue : ∀ n newsgroup, Still guard (db.postUpdateHighValue n newsgroup)

section Shared

variable {guard : (op : Stmt) → op.Result → Prop} {user : Option Str} {ext : Extern}

theorem settles_secexecError {P : Session → Prop} {α : Type} {Q : α → Session → Prop}
    : Settles guard Exit.Alive P (secexecError : Srv α) Q :=
  fun _ _ killed => by cases killed

/-- The lookup of a newsgroup by `chkname`, for any query. -/
def chkFound (query : Str → Srv (List Newsgroup)) : Srv Unit := do
  modify (fun s => { s with foundGroup := false })
  let s ← get
  match s.chkname with
  | none => crash
  | some name => do
      let rows ← query name
      modify (fun s => { s with foundGroup := !rows.isEmpty })

theorem settles_chkFound {query : Str → Srv (List Newsgroup)} (still : ∀ name, Still guard (query name))
    (o : List Piece × List Piece × Option Str)
    : Settles guard Exit.Alive (fun r => r.output = o ∧ r.chkname.isSome) (chkFound query)
        (fun _ r => r.output = o) := by
  refine Settles.bind (R := fun _ r => r.output = o ∧ r.chkname.isSome)
    (Settles.modify (fun _ start => start)) (fun _ => Settles.get_bind (fun r start => ?_))
  cases named : r.chkname with
  | none =>
      rw [named] at start
      cases start.2
  | some name =>
      exact ((still name o).pre (fun _ => And.left)).bind
        (fun rows => Settles.modify (fun _ done => done))

/-- The comparison of user and password with the database. -/
theorem settles_authinfo {query : Str → Str → Srv (List User)}
    (still : ∀ user pass, Still guard (query user pass))
    (o : List Piece × List Piece × Option Str)
    : Settles guard Exit.Alive
        (fun r => r.output = o ∧ r.curAuthUser.isSome ∧ r.curAuthPass.isSome)
        (do
          let s ← get
          match s.curAuthUser, s.curAuthPass with
          | some user, some pass => do
              let rows ← query user pass
              modify (fun s => { s with authIsThere := s.authIsThere || !rows.isEmpty })
          | _, _ => crash : Srv Unit)
        (fun _ r => r.output = o) := by
  refine Settles.get_bind (fun r start => ?_)
  obtain ⟨user, isUser⟩ := Option.isSome_iff_exists.mp start.2.1
  obtain ⟨pass, isPass⟩ := Option.isSome_iff_exists.mp start.2.2
  rw [isUser, isPass]
  exact ((still user pass o).pre (fun _ => And.left)).bind
    (fun rows => Settles.modify (fun _ done => done))

theorem still_acl {direct : Srv (List AclUser)} {viaRole : Srv (List (User2Role × AclRole))}
    (first : Still guard direct) (second : Still guard viaRole)
    : Still guard
        (do
          let rows ← direct
          if rows.isEmpty then do
            let rows ← viaRole
            pure (!rows.isEmpty)
          else pure true : Srv Bool) :=
  first.bind (fun _ => (second.bind (fun _ => Still.pure _)).ite (Still.pure _))

theorem adds_xhdr {part : XhdrPart} {query : Srv (List (Ngpost × Posting))}
    (still : Still guard query)
    : Adds guard user
        (do
          modify (fun s => { s with speccmd := if part = .date then .date else s.speccmd })
          let rows ← query
          rows.forM (xhdrCb ext part)
          modify (fun s => { s with speccmd := .cleared }) : Srv Unit) := by
  refine Adds.bind (Adds.modify (fun _ => rfl)) (fun _ => still.adds.bind (fun rows => ?_))
  refine Adds.bind (Adds.forM rows (fun row => ?_)) (fun _ => Adds.modify (fun _ => rfl))
  exact Adds.get_bind (fun r => Adds.toSendRow _ _)

theorem adds_xoverRows (postlen : Int) (rows : List (Ngpost × Posting))
    : Adds guard user (xoverRows ext postlen rows) := by
  induction rows generalizing postlen with
  | nil => exact Adds.pure _
  | cons row rest ih => exact (Adds.toSendRow _ _).bind (fun _ => ih _)

theorem orderly_sqlite3 : SrvBackend.sqlite3.Orderly guard ext where
  authinfoCheck := settles_authinfo (fun user pass => Still.sql (.selectUsers user pass))
  checkNewsgroupExistence := settles_chkFound (fun name => Still.sql (.selectNewsgroup name))
  checkNewsgroupPostingAllowed := settles_chkFound (fun name => Still.sql (.selectPostable name))
  getHighValue _ _ := (Still.sql _).bind (fun _ => Still.pure _)
  chkIfMsgidExists _ _ := (Still.sql _).bind (fun _ => Still.pure _)
  aclCheckUserGroup user newsgroup :=
    still_acl (Still.sql (.selectAclUsers user newsgroup)) (Still.sql (.selectAclRoles user newsgroup))
  xhdr _ part group msgid min max := by
    cases msgid with
    | none => exact adds_xhdr (Still.sql (.selectOverview group (asInt32 min) (asInt32 max)))
    | some msgid => exact adds_xhdr (Still.sql (.selectOverviewMsgid group msgid))
  xover _ group min max :=
    (Still.sql (.selectOverview group (asInt32 min) (asInt32 max))).adds.bind
      (fun rows => Adds.forM rows (fun _ => Adds.toSendRow _ _))
  listgroup user group := by
    refine Adds.bind (Adds.modify (fun _ => rfl)) (fun _ => ?_)
    refine (Still.sql (.selectPostnums group)).adds.bind (fun rows => ?_)
    have lists (row : Ngpost) : Adds guard user (listgroupCb row) :=
      (Adds.toSendRow _ _).bind (fun _ => Adds.modify (fun r => by split <;> rfl))
    refine (Adds.forM rows lists).bind (fun _ => Adds.bind ?_ (fun _ => Adds.toSend _))
    exact Adds.modify (fun r => by split <;> rfl)
  storeMessageBody wrong := by cases wrong
  dbGetUniqnum wrong := by cases wrong
  postInsertIntoPostings row := by
    refine Still.ite ((Still.sql _).bind (fun ok => ?_)) (fun _ => settles_secexecError)
    exact (Still.pure _).ite (fun _ => settles_secexecError)
  postInsertIntoNgposts _ _ _ :=
    (Still.sql _).bind (fun _ => (Still.pure _).ite (fun _ => settles_secexecError))
  postUpdateHighValue _ _ := (Still.sql _).bind (fun _ => Still.pure _)

end Shared

section Engines

variable {guard : (op : Stmt) → op.Result → Prop} {user : Option Str} {ext : Extern}
  {engine : Engine}

theorem Engine.adds_listgroup (still : ∀ sqlCmd names op, Still guard (engine.perform sqlCmd names op))
    (group : Str)
    : Adds guard user (engine.listgroup group) := by
  refine (still _ _ _).adds.bind (fun rows => ?_)
  refine (Adds.forM rows (fun row => Adds.toSendRow _ _)).bind (fun _ => ?_)
  refine Adds.bind (Adds.modify (fun _ => rfl)) (fun _ => ?_)
  exact Adds.toSend _

theorem Engine.still_insert (still : ∀ sqlCmd names op, Still guard (engine.perform sqlCmd names op))
    (sqlCmd : String) (names : List Str) (op : Stmt) (ok : op.Result → Bool)
    : Still guard (engine.insert sqlCmd names op ok) :=
  (still _ _ _).bind (fun _ => (Still.pure _).ite Still.killThread)

variable {servers : DbServers}

theorem still_mysqlSrv (single : servers.SingleStatements) (names : List Str) (op : Stmt)
    : Still guard (mysqlSrv servers.mysql names op) :=
  Still.within (fun r => mysqlSrv_within single names op (.killThread r.sent))

theorem still_mysqlInsert (single : servers.SingleStatements) (row : Posting)
    : Still guard (dbMysqlPostInsert servers.mysql row) := by
  have inserts : Still guard (mysqlInsertPosting servers.mysql row) := by
    unfold mysqlInsertPosting
    split
    · exact Still.sql _
    · exact Still.within (fun r => single.mysql Exit (.killThread r.sent) (.insertPosting row))
  exact inserts.bind (fun _ => (Still.pure _).ite Still.killThread)

theorem orderly_mysql (single : servers.SingleStatements)
    : (SrvBackend.mysql servers.mysql).Orderly guard ext where
  authinfoCheck :=
    settles_authinfo (fun user pass => still_mysqlSrv single [user, pass] (.selectUsers user pass))
  checkNewsgroupExistence :=
    settles_chkFound (fun name => still_mysqlSrv single [name] (.selectNewsgroup name))
  checkNewsgroupPostingAllowed :=
    settles_chkFound (fun name => still_mysqlSrv single [name] (.selectPostable name))
  getHighValue _ _ := (still_mysqlSrv single _ _).bind (fun _ => Still.pure _)
  chkIfMsgidExists _ _ := (still_mysqlSrv single _ _).bind (fun _ => Still.pure _)
  aclCheckUserGroup user newsgroup :=
    still_acl (still_mysqlSrv single _ (.selectAclUsers user newsgroup))
      (still_mysqlSrv single _ (.selectAclRoles user newsgroup))
  xhdr _ part group msgid min max := by
    cases msgid with
    | none =>
        exact adds_xhdr (still_mysqlSrv single [group]
          (.selectOverview group (asInt32 min) (asInt32 max)))
    | some msgid =>
        exact adds_xhdr (still_mysqlSrv single [group, msgid] (.selectOverviewMsgid group msgid))
  xover _ group min max :=
    (still_mysqlSrv single [group] (.selectOverview group (asInt32 min) (asInt32 max))).adds.bind
      (adds_xoverRows 0)
  listgroup _ := Engine.adds_listgroup (fun _ => still_mysqlSrv single)
  storeMessageBody wrong := by cases wrong
  dbGetUniqnum wrong := by cases wrong
  postInsertIntoPostings := still_mysqlInsert single
  postInsertIntoNgposts _ _ _ := Engine.still_insert (fun _ => still_mysqlSrv single) _ _ _ _
  postUpdateHighValue _ _ := (still_mysqlSrv single _ _).bind (fun _ => Still.pure _)

theorem still_postgresSrv (sqlCmd : String) (params : List Str) (op : Stmt)
    : Still guard (postgresSrv sqlCmd params op) :=
  Still.within (fun r => pqExecParams_within sqlCmd params op (.killThread r.sent))

theorem still_xhdrGet (single : servers.SingleStatements) (sqlCmd : String)
    (params names : List Str) (op : Stmt)
    : Still guard (xhdrGet servers.postgres sqlCmd params names op) := by
  intro o r start
  show (xhdrGet servers.postgres sqlCmd params names op r).Always _ _ _
  unfold xhdrGet
  split
  · exact still_postgresSrv sqlCmd params op o r start
  · exact Still.within (fun r => single.postgres Exit (.killThread r.sent) op) o r start

-- the texts of the statements are not to be evaluated
attribute [local irreducible] postgresSrv

theorem still_dbPostgresStoreMessageBody (messageId body : Str)
    : Still guard (dbPostgresStoreMessageBody messageId body) := by
  refine (Still.sql _).bind (fun old => Still.killThread.ite ?_)
  refine (still_postgresSrv _ _ (.bodyWrite messageId body)).bind (fun ok => ?_)
  exact (Still.pure _).ite Still.killThread

theorem orderly_postgres (single : servers.SingleStatements)
    : (SrvBackend.postgres servers.postgres).Orderly guard ext where
  authinfoCheck :=
    settles_authinfo (fun user pass => still_postgresSrv _ [user, pass] (.selectUsers user pass))
  checkNewsgroupExistence :=
    settles_chkFound (fun name => still_postgresSrv _ [name] (.selectNewsgroup name))
  checkNewsgroupPostingAllowed :=
    settles_chkFound (fun name => still_postgresSrv _ [name] (.selectPostable name))
  getHighValue _ group := (still_postgresSrv _ _ (.selectNewsgroup group)).bind (fun _ => Still.pure _)
  chkIfMsgidExists group msgid :=
    (still_postgresSrv _ _ (.selectNgpostsMsgid group msgid)).bind (fun _ => Still.pure _)
  aclCheckUserGroup user newsgroup :=
    still_acl (still_postgresSrv _ _ (.selectAclUsers user newsgroup))
      (still_postgresSrv _ _ (.selectAclRoles user newsgroup))
  xhdr _ part group msgid min max := by
    cases msgid with
    | none => exact adds_xhdr (still_xhdrGet single _ _ _ _)
    | some msgid => exact adds_xhdr (still_xhdrGet single _ _ _ _)
  xover _ group min max :=
    Adds.ite
      ((still_postgresSrv _ _ (.selectOverview group min max)).adds.bind (adds_xoverRows _))
      Still.killThread.adds
  listgroup _ := Engine.adds_listgroup still_postgresSrv
  storeMessageBody _ := still_dbPostgresStoreMessageBody
  dbGetUniqnum _ :=
    (Still.sql .msgidRead).bind (fun _ => (Still.sql _).bind (fun _ => Still.pure _))
  postInsertIntoPostings _ := Engine.still_insert still_postgresSrv _ _ _ _
  postInsertIntoNgposts _ _ _ := Engine.still_insert still_postgresSrv _ _ _ _
  postUpdateHighValue n newsgroup :=
    (still_postgresSrv _ _ (.updateHigh newsgroup n)).bind (fun _ => Still.pure _)

/-- The functions of each backend. -/
theorem orderly (single : servers.SingleStatements) (dbase : Dbase)
    : (srvBackend servers dbase).Orderly guard ext := by
  cases dbase with
  | sqlite3 => exact orderly_sqlite3
  | mysql => exact orderly_mysql single
  | postgres => exact orderly_postgres single

end Engines

-----------------------------------------------------------------------------------------
-- What the statements have to find
-----------------------------------------------------------------------------------------

/-- MySQL reads another name where a name does not stand for itself, or refuses the statement. -/
structure MysqlServer.ReadsNames (server : MysqlServer) : Prop where
  newsgroup :
    ∀ (error : Exit) name,
      server.misread Exit error (.selectNewsgroup name) = .stop error
      ∨ ∃ name', server.misread Exit error (.selectNewsgroup name)
          = .act (.selectNewsgroup name') .done
  msgid :
    ∀ (error : Exit) ng msgid,
      server.misread Exit error (.selectNgpostsMsgid ng msgid) = .stop error
      ∨ ∃ ng' msgid', server.misread Exit error (.selectNgpostsMsgid ng msgid)
          = .act (.selectNgpostsMsgid ng' msgid') .done
  postnum :
    ∀ (error : Exit) ng param,
      server.misread Exit error (.selectNgpostsPostnum ng param) = .stop error
      ∨ ∃ ng' param', server.misread Exit error (.selectNgpostsPostnum ng param)
          = .act (.selectNgpostsPostnum ng' param') .done

section Conditions

variable (dbase : Dbase) (cfg : Config) (command : Str)

/-- An article can be sent: its message id is part of a line, and the body is not looked for in a
database that has none. -/
def Sendable (row : Ngpost) : Prop :=
  '\n' ∉ row.msgid
  ∧ (caseEqPrefix "article".toList command = true ∨ caseEqPrefix "body".toList command = true →
      cfg.messageBodyInDb = true → dbase = .postgres)

/-- The articles that a query for one article returns: SQLite sends all of them. -/
def SendableRows (rows : List Ngpost) : Prop :=
  (dbase = .sqlite3 → rows.length ≤ 1) ∧ ∀ row, rows.head? = some row → Sendable dbase cfg command row

/-- What the statements of a command of `user` have to find. The access check of a listing fails
an assertion on PostgreSQL and takes NULL for a name on MySQL. -/
def Admits (user : Option Str) : (op : Stmt) → op.Result → Prop
  | .selectNewsgroups, rows =>
      (cfg.useAuth && cfg.useAcl) = true → dbase = .postgres ∨ dbase = .mysql ∧ user = none →
        rows = []
  | .selectNgpostsMsgid _ _, rows => SendableRows dbase cfg command rows
  | .selectNgpostsPostnum _ _, rows => SendableRows dbase cfg command rows
  | _, _ => True

/-- The query of `db_group` finds the newsgroup, and only once unless it looks at one row only. -/
def FindsGroup : (op : Stmt) → op.Result → Prop
  | .selectNewsgroup _, rows =>
      ∃ g : Newsgroup, rows.head? = some g ∧ '\n' ∉ g.name ∧ (dbase = .mysql ∨ rows = [g])
  | _, _ => True

/-- What the statements have to find behind the first one. -/
def AdmitsAgain (user : Option Str) (op : Stmt) (result : op.Result) : Prop :=
  Admits dbase cfg command user op result
  ∧ (caseEqPrefix "group".toList command = true → FindsGroup dbase op result)

/-- POST can store an article that it has received, or refuses it before: it has no NUL byte in
front of its body, each field to be removed ends, and the values that only SQLite prints if they
are missing are there. -/
def Storable (buf : Str) : Prop :=
  match checkArticle buf with
  | .garbage => True
  | .refused _ => True
  | .crash => False
  | .passed len header _ _ =>
      (cfg.messageBodyInDb = true → dbase = .postgres)
      ∧ (cfg.messageCountInDb = true → dbase = .postgres)
      ∧ ∃ stored, removeFields len header = some stored
          ∧ (dbase ≠ .sqlite3 →
              (cdpReturnLinevalue (cstr stored) "From:".toList).isSome
              ∧ (cdpReturnLinevalue (cstr stored) "Subject:".toList).isSome)

end Conditions

section Lists

variable {servers : DbServers} {dbase : Dbase} {ext : Extern} {cfg : Config} {command : Str}
  {user : Option Str}

theorem adds_sendListLine {guard : (op : Stmt) → op.Result → Prop} (cmdtyp : ListCmdtyp)
    (wildmat : Option Str) (g : Newsgroup)
    : Adds guard user (sendListLine ext cmdtyp wildmat g) := by
  unfold sendListLine
  split
  · exact Adds.toSend _
  · exact Adds.pure _

theorem adds_listCb {guard : (op : Stmt) → op.Result → Prop} (g : Newsgroup)
    : Adds guard user (listCb ext cfg g) := by
  have acl : ∀ user, Still guard (aclCheckIfUsed cfg user g.name) := by
    intro user
    refine Still.ite ?_ (Still.pure _)
    cases user with
    | none => exact Still.pure _
    | some user => exact (@orderly_sqlite3 guard ext).aclCheckUserGroup user g.name
  refine Adds.get_bind (fun r => (acl _).adds.bind (fun visible => Adds.ite ?_ (Adds.pure _)))
  split
  · exact (Adds.toSend _).ite (Adds.pure _)
  · exact (Adds.toSend _).ite (Adds.pure _)
  · exact Adds.toSend _

/-- A statement of MySQL gets what the server admits, also if it is misread. -/
theorem settles_mysqlSrv {guard : (op : Stmt) → op.Result → Prop} {P : Session → Prop}
    {names : List Str} {op : Stmt} {G : op.Result → Prop}
    (own : ∀ result, guard op result → G result)
    (misread : names.all SqlLiteral.plain ≠ true → ∀ error, Exit.Alive error →
      (servers.mysql.misread Exit error op).Always guard G Exit.Alive)
    : Settles guard Exit.Alive P (mysqlSrv servers.mysql names op) (fun result r => P r ∧ G result) := by
  intro r start
  apply Prog.Always.bind
  have asked : (mysqlRealQuery servers.mysql (.killThread r.sent) names op).Always guard G
      Exit.Alive := by
    unfold mysqlRealQuery
    split
    · exact own
    · exact misread ‹_› _ (fun killed => by cases killed)
  exact asked.mono (fun result admitted => ⟨start, admitted⟩)

theorem settles_postgresSrv {guard : (op : Stmt) → op.Result → Prop} {P : Session → Prop}
    {sqlCmd : String} {params : List Str} {op : Stmt}
    : Settles guard Exit.Alive P (postgresSrv sqlCmd params op)
        (fun result r => P r ∧ guard op result) := by
  intro r start
  apply Prog.Always.bind
  unfold pqExecParams
  split
  · exact fun result admitted => ⟨start, admitted⟩
  · exact fun killed => by cases killed

-- the texts of the statements are not to be evaluated
attribute [local irreducible] postgresSrv

/-- LIST adds its lines. -/
theorem adds_list (single : servers.SingleStatements) (cmdtyp : ListCmdtyp) (wildmat : Option Str)
    : Adds (Admits dbase cfg command user) user
        ((srvBackend servers dbase).list ext cfg cmdtyp wildmat) := by
  cases dbase with
  | sqlite3 =>
      refine Adds.bind (Adds.modify (fun _ => rfl)) (fun _ => ?_)
      refine (Still.sql .selectNewsgroups).adds.bind (fun rows => ?_)
      exact (Adds.forM rows adds_listCb).bind (fun _ => Adds.modify (fun _ => rfl))
  | mysql =>
      have lists (g : Newsgroup)
          (named : (cfg.useAuth && cfg.useAcl) = true → user ≠ none)
          : Adds (Admits .mysql cfg command user) user
              (do
                let s ← get
                let visible ← mysqlVisible servers.mysql cfg s.curAuthUser g.name
                if visible then sendListLine ext cmdtyp wildmat g else pure ()) := by
        intro sent first
        refine Settles.get_bind (fun r start => ?_)
        have visible : Still (Admits .mysql cfg command user)
            (mysqlVisible servers.mysql cfg r.curAuthUser g.name) := by
          rw [start.2.2]
          by_cases used : (cfg.useAuth && cfg.useAcl) = true
          · obtain ⟨name, isName⟩ := Option.ne_none_iff_exists'.mp (named used)
            simp only [mysqlVisible, used, if_true, isName]
            exact (@orderly_mysql _ ext _ single).aclCheckUserGroup name g.name
          · simp only [mysqlVisible, used, Bool.false_eq_true, if_false]
            exact Still.pure _
        exact (visible.adds.bind (fun shown => (adds_sendListLine cmdtyp wildmat g).ite
          (Adds.pure _))) sent first
      intro sent first
      refine Settles.bind (settles_mysqlSrv (fun _ => id) (fun quoted => absurd rfl quoted))
        (fun rows => ?_)
      rintro r ⟨start, admitted⟩
      by_cases unnamed : (cfg.useAuth && cfg.useAcl) = true ∧ user = none
      · rw [admitted unnamed.1 (Or.inr ⟨rfl, unnamed.2⟩)]
        exact start
      · refine Adds.forM rows (fun g => lists g (fun used isNone => ?_)) sent first r start
        exact unnamed ⟨used, isNone⟩
  | postgres =>
      intro sent first
      refine Settles.bind settles_postgresSrv (fun rows => ?_)
      rintro r ⟨start, admitted⟩
      by_cases used : (cfg.useAuth && cfg.useAcl) = true
      · rw [show rows = [] from admitted used (Or.inl rfl)]
        exact start
      · refine Adds.forM rows (fun g => ?_) sent first r start
        simp only [used, Bool.false_eq_true, if_false]
        exact adds_sendListLine cmdtyp wildmat g

end Lists

-----------------------------------------------------------------------------------------
-- ARTICLE and GROUP
-----------------------------------------------------------------------------------------

section StatusLines

theorem isStatusLine_append {a b c : Char} {words closing : Str}
    (digits : [a, b, c].all Char.isDigit = true) (single : '\n' ∉ words)
    (closes : "\r\n".toList.isSuffixOf closing = true) (once : closing.count '\n' = 1)
    : isStatusLine (a :: b :: c :: ' ' :: (words ++ closing)) = true := by
  have ends : "\r\n".toList.isSuffixOf (words ++ closing) = true := by
    rw [List.isSuffixOf_iff_suffix] at closes ⊢
    exact closes.trans (List.suffix_append _ _)
  have count : (words ++ closing).count '\n' = 1 := by
    rw [List.count_append, List.count_eq_zero.mpr single, once]
  simp only [isStatusLine, digits, ends, count, Bool.and_self, beq_self_eq_true]

theorem newline_notMem_dec (n : Nat) : '\n' ∉ dec n :=
  fun member => absurd (isDigit_of_mem_dec member) (by decide)

theorem newline_notMem_decInt (n : Int) : '\n' ∉ decInt n := by
  intro member
  rcases mem_decInt member with dash | digit
  · exact absurd dash (by decide)
  · exact absurd digit (by decide)

theorem isStatusLine_articleReply (cmdtype : Cmdtype) {row : Ngpost} (single : '\n' ∉ row.msgid)
    : isStatusLine (articleReply cmdtype row) = true := by
  have words : '\n' ∉ dec row.postnum ++ ' ' :: row.msgid := by
    simp [newline_notMem_dec, single]
  cases cmdtype with
  | article => exact isStatusLine_append (by decide) words (by decide) (by decide)
  | head => exact isStatusLine_append (by decide) words (by decide) (by decide)
  | body => exact isStatusLine_append (by decide) words (by decide) (by decide)
  | stat => exact isStatusLine_append (by decide) words (by decide) (by decide)

theorem announcesBlock_articleReply {cmdtype : Cmdtype} (block : cmdtype ≠ .stat) (row : Ngpost)
    : announcesBlock (articleReply cmdtype row) = true := by
  cases cmdtype with
  | article => rfl
  | head => rfl
  | body => rfl
  | stat => exact absurd rfl block

theorem isStatusLine_groupLine {g : Newsgroup} (single : '\n' ∉ g.name)
    : isStatusLine (groupLine g) = true := by
  have words : '\n' ∉ decInt (asInt32 g.high)
      ++ ' ' :: (if asInt32 g.high = 0 then ['0'] else ['1'])
      ++ ' ' :: decInt (asInt32 g.high) ++ ' ' :: g.name := by
    split <;> simp [newline_notMem_decInt, single]
  exact isStatusLine_append (by decide) words (by decide) (by decide)

end StatusLines

/-- A reply was made and the flag of ARTICLE is set, or neither. -/
def Session.Served (sent : List Piece) (user : Option Str) (r : Session) : Prop :=
  r.foundArticle = true ∧ r.Replied sent
  ∨ r.foundArticle = false ∧ r.output = (sent, [], user)

/-- ARTICLE, HEAD, BODY or STAT are about to ask for an article. -/
structure Session.Asking (sent : List Piece) (user : Option Str) (cmdtype : Cmdtype) (r : Session)
    : Prop where
  output : r.output = (sent, [], user)
  flag : r.foundArticle = false
  cmdtype : r.cmdtype = cmdtype

section Articles

variable {guard : (op : Stmt) → op.Result → Prop} {servers : DbServers} {dbase : Dbase}
  {cfg : Config} {command : Str} {user : Option Str} {cmdtype : Cmdtype}

/-- The rounds for an article: the status line, then header and body. -/
theorem settles_sendArticle (header body : Cmdtype → Srv Unit) {row : Ngpost}
    (single : '\n' ∉ row.msgid) (stat : Still guard (header .stat) ∧ Still guard (body .stat))
    (adds : Adds guard user (header cmdtype) ∧ Adds guard user (body cmdtype)) (sent : List Piece)
    : Settles guard Exit.Alive (Session.Asking sent user cmdtype)
        (do
          modify (fun s => { s with selectedArticle := some (dec row.postnum) })
          let s ← get
          toSendRow row (articleReply s.cmdtype row)
          header s.cmdtype
          body s.cmdtype
          modify (fun s => { s with foundArticle := true }))
        (fun _ => Session.Served sent user) := by
  have status := isStatusLine_articleReply cmdtype single
  refine Settles.bind (R := fun _ => Session.Asking sent user cmdtype)
    (Settles.modify (fun r start => ⟨start.output, start.flag, start.cmdtype⟩))
    (fun _ => Settles.get_bind (fun r start => ?_))
  rw [start.cmdtype]
  refine (settles_append ⟨articleReply cmdtype row, some row⟩
    (fun _ asking => asking.output)).bind (fun _ => ?_)
  by_cases isStat : cmdtype = .stat
  · subst isStat
    refine (stat.1 _).bind (fun _ => (stat.2 _).bind (fun _ => Settles.modify (fun r done => ?_)))
    exact Or.inl ⟨rfl, Session.Replied.of_line status done⟩
  · refine (adds.1.behind _ _).bind (fun _ => (adds.2 _ _).bind (fun _ =>
      Settles.modify (fun r done => ?_)))
    exact Or.inl ⟨rfl, Session.Replied.of_block status (announcesBlock_articleReply isStat row)
      done.1 done.2.1⟩

theorem adds_articleCbCb2 (row : Ngpost) (header : Str)
    : Adds guard user (articleCbCb2 row header) := by
  refine Adds.get_bind (fun r => ?_)
  split
  · exact (Adds.toSendRow _ _).bind (fun _ => Adds.toSendRow _ _)
  · exact (Adds.toSendRow _ _).bind (fun _ => Adds.toSendRow _ _)
  · exact Adds.pure _

theorem adds_bodyOf {body : Srv (Option Str)} (still : Still guard body) (row : Ngpost)
    : Adds guard user
        (do
          let body ← body
          match body with
          | some body => toSendRow row body
          | none => pure ()) := by
  refine still.adds.bind (fun body => ?_)
  cases body with
  | none => exact Adds.pure _
  | some text => exact Adds.toSendRow _ _

theorem still_filebackendRetrbody (messageId : Str)
    : Still guard (filebackendRetrbody messageId) :=
  (Still.sql _).bind (fun _ => Still.pure _)

/-- One row of SQLite. -/
theorem settles_articleCb {row : Ngpost} (single : '\n' ∉ row.msgid)
    (files : cmdtype = .article ∨ cmdtype = .body → cfg.messageBodyInDb = false)
    (sent : List Piece)
    : Settles guard Exit.Alive (Session.Asking sent user cmdtype) (articleCb cfg row)
        (fun _ => Session.Served sent user) := by
  have header : Adds guard user (articleSendHeader cmdtype row) :=
    Adds.ite ((Still.sql (.selectHeader row.msgid)).adds.bind
      (fun headers => Adds.forM headers (adds_articleCbCb2 row))) (Adds.pure _)
  have body : Adds guard user (articleSendBody cfg cmdtype row) := by
    unfold articleSendBody
    split
    · rw [if_neg (by rw [files ‹_›]; decide)]
      exact adds_bodyOf (still_filebackendRetrbody _) row
    · exact Adds.pure _
  exact settles_sendArticle (articleSendHeader · row) (articleSendBody cfg · row) single
    ⟨Still.pure _, Still.pure _⟩ ⟨header, body⟩ sent

/-- One row of MySQL or PostgreSQL. -/
theorem settles_articleRow {engine : Engine}
    (still : ∀ sqlCmd names op, Still guard (engine.perform sqlCmd names op))
    {loadBody : Str → Srv (Option Str)} {row : Ngpost} (single : '\n' ∉ row.msgid)
    (loads : cmdtype = .article ∨ cmdtype = .body → cfg.messageBodyInDb = true →
      ∀ messageId, Still guard (loadBody messageId))
    (sent : List Piece)
    : Settles guard Exit.Alive (Session.Asking sent user cmdtype)
        (engine.articleRow loadBody cfg row) (fun _ => Session.Served sent user) := by
  have header : Adds guard user (engine.articleSendHeader cmdtype row) := by
    refine Adds.ite ((still _ _ _).adds.bind (fun headers => ?_)) (Adds.pure _)
    split
    · exact adds_articleCbCb2 row _
    · exact Adds.pure _
  have body : Adds guard user (articleSendBodyVia loadBody cfg cmdtype row) := by
    unfold articleSendBodyVia
    split
    · rename_i wanted
      refine adds_bodyOf ?_ row
      unfold retrieveBody
      split
      · exact loads wanted ‹_› _
      · exact still_filebackendRetrbody _
    · exact Adds.pure _
  exact settles_sendArticle (engine.articleSendHeader · row)
    (articleSendBodyVia loadBody cfg · row) single ⟨Still.pure _, Still.pure _⟩ ⟨header, body⟩ sent

theorem Session.Asking.served {sent : List Piece} {r : Session}
    (asking : r.Asking sent user cmdtype)
    : r.Served sent user :=
  Or.inr ⟨asking.flag, asking.output⟩

/-- The query for an article on MySQL. -/
theorem settles_mysqlArticleRows (reads : servers.mysql.ReadsNames) (group : Str)
    (article : Option Str) (type : Artcltyp) {P : Session → Prop}
    : Settles (Admits dbase cfg command user) Exit.Alive P
        (mysqlArticleRows servers.mysql group article type)
        (fun rows r => P r ∧ SendableRows dbase cfg command rows) := by
  have byNumber (param : Str)
      : Settles (Admits dbase cfg command user) Exit.Alive P
          (mysqlSrv servers.mysql [group, param] (.selectNgpostsPostnum group param))
          (fun rows r => P r ∧ SendableRows dbase cfg command rows) := by
    refine settles_mysqlSrv (fun _ => id) (fun _ error alive => ?_)
    rcases reads.postnum error group param with refused | ⟨ng', param', read⟩
    · rw [refused]
      exact alive
    · rw [read]
      exact fun rows admitted => admitted
  cases type with
  | messageId param =>
      refine settles_mysqlSrv (fun _ => id) (fun _ error alive => ?_)
      rcases reads.msgid error group param with refused | ⟨ng', msgid', read⟩
      · rw [refused]
        exact alive
      · rw [read]
        exact fun rows admitted => admitted
  | number param => exact byNumber param
  | current => exact byNumber _

/-- The query for an article on PostgreSQL. -/
theorem settles_postgresArticleRows (group : Str) (article : Option Str) (type : Artcltyp)
    {P : Session → Prop}
    : Settles (Admits dbase cfg command user) Exit.Alive P
        (postgresArticleRows servers.postgres group article type)
        (fun rows r => P r ∧ SendableRows dbase cfg command rows) := by
  have byNumber (param : Str)
      : Settles (Admits dbase cfg command user) Exit.Alive P
          (postgresPostnum servers.postgres group param)
          (fun rows r => P r ∧ SendableRows dbase cfg command rows) := by
    unfold postgresPostnum
    split
    · exact settles_killThread
    · exact settles_postgresSrv
  cases type with
  | messageId param => exact settles_postgresSrv
  | number param => exact byNumber param
  | current => exact byNumber _

/-- The first row of MySQL or PostgreSQL is sent, if there is one. -/
theorem settles_headRow {rows : List Ngpost} {send : Ngpost → Srv Unit} {sent : List Piece}
    (sends : ∀ row, rows.head? = some row →
      Settles guard Exit.Alive (Session.Asking sent user cmdtype) (send row)
        (fun _ => Session.Served sent user))
    : Settles guard Exit.Alive (Session.Asking sent user cmdtype)
        (match rows.head? with
          | some row => send row
          | none => pure ())
        (fun _ => Session.Served sent user) := by
  split
  · exact sends _ ‹_›
  · exact Settles.pure (fun _ asking => asking.served)

/-- An article that is found is sent. -/
theorem settles_article (single : servers.SingleStatements) (reads : servers.mysql.ReadsNames)
    (named : cmdtype = .article ∨ cmdtype = .body →
      caseEqPrefix "article".toList command = true ∨ caseEqPrefix "body".toList command = true)
    (group : Str) (type : Artcltyp) (sent : List Piece)
    : Settles (Admits dbase cfg command user) Exit.Alive (Session.Asking sent user cmdtype)
        ((srvBackend servers dbase).article cfg group type)
        (fun _ => Session.Served sent user) := by
  have inDatabase {row : Ngpost} (sendable : Sendable dbase cfg command row)
      (wanted : cmdtype = .article ∨ cmdtype = .body) (stored : cfg.messageBodyInDb = true)
      : dbase = .postgres :=
    sendable.2 (named wanted) stored
  cases dbase with
  | sqlite3 =>
      have sends (rows : List Ngpost)
          : Settles (Admits .sqlite3 cfg command user) Exit.Alive
              (fun r => r.Asking sent user cmdtype ∧ SendableRows .sqlite3 cfg command rows)
              (rows.forM (articleCb cfg)) (fun _ => Session.Served sent user) := by
        rintro r ⟨asking, few, sendable⟩
        match rows, few rfl, sendable with
        | [], _, _ => exact asking.served
        | [row], _, sendable =>
            have only := sendable row rfl
            have files (wanted : cmdtype = .article ∨ cmdtype = .body)
                : cfg.messageBodyInDb = false := by
              by_contra stored
              cases inDatabase only wanted (by simpa using stored)
            have last : Settles (Admits .sqlite3 cfg command user) Exit.Alive
                (Session.Served sent user) (pure ⟨⟩ : Srv PUnit) (fun _ => Session.Served sent user) :=
              Settles.pure (fun _ done => done)
            exact (settles_articleCb only.1 files sent).bind (fun _ => last) r asking
      refine Settles.get_bind (fun r _ => ?_)
      cases type with
      | messageId param => exact settles_sql.bind sends
      | number param => exact settles_sql.bind sends
      | current => exact settles_sql.bind sends
  | mysql =>
      refine Settles.get_bind (fun r _ => ?_)
      refine (settles_mysqlArticleRows reads group _ type).bind (fun rows => ?_)
      rintro r ⟨asking, -, sendable⟩
      refine settles_headRow (fun row first => ?_) r asking
      refine settles_articleRow (fun _ => still_mysqlSrv single) (sendable row first).1
        (fun wanted stored => ?_) sent
      cases inDatabase (sendable row first) wanted stored
  | postgres =>
      refine Settles.get_bind (fun r _ => ?_)
      refine (settles_postgresArticleRows group _ type).bind (fun rows => ?_)
      rintro r ⟨asking, -, sendable⟩
      refine settles_headRow (fun row first => ?_) r asking
      exact settles_articleRow still_postgresSrv (sendable row first).1
        (fun _ _ messageId => still_postgresSrv _ _ (.bodyRead messageId)) sent

end Articles

section Groups

variable {guard : (op : Stmt) → op.Result → Prop} {servers : DbServers} {dbase : Dbase}
  {cfg : Config} {command : Str} {user : Option Str}

theorem Session.Replied.congr {sent : List Piece} {r r' : Session} (replied : r.Replied sent)
    (same : (r'.sent, r'.curstring) = (r.sent, r.curstring))
    : r'.Replied sent := by
  obtain ⟨sentSame, curSame⟩ := Prod.mk.inj same
  refine ⟨sentSame.trans replied.sent, ?_⟩
  rw [Session.texts, curSame]
  exact replied.reply

/-- The loop of `db_group` over one row. -/
theorem tells_oneRow {send : Newsgroup → Srv Unit} {g : Newsgroup}
    (tells : Tells guard user (send g)) {f : Session → Session}
    (same : ∀ r, ((f r).sent, (f r).curstring) = (r.sent, r.curstring))
    : Tells guard user ([g].forM send >>= fun _ => (modify f : Srv Unit)) := by
  intro sent
  have last : Settles guard Exit.Alive (Session.Replied sent) (modify f : Srv Unit)
      (fun _ => Session.Replied sent) :=
    Settles.modify (fun r replied => replied.congr (same r))
  have loop : Settles guard Exit.Alive (Session.Replied sent) (pure ⟨⟩ : Srv PUnit)
      (fun _ => Session.Replied sent) :=
    Settles.pure (fun _ replied => replied)
  exact Settles.bind ((tells sent).bind (fun _ => loop)) (fun _ => last)

theorem tells_groupCb {g : Newsgroup} (single : '\n' ∉ g.name) : Tells guard user (groupCb g) := by
  refine Tells.append_still ⟨groupLine g, none⟩ (isStatusLine_groupLine single) ?_
  refine Still.bind (Still.modify (fun _ => rfl)) (fun _ => ?_)
  refine (Still.sql (.selectFirstPostnum g.name)).bind (fun rows => ?_)
  have selects (n : Ngpost)
      : Still guard
          (modify (fun s => { s with selectedArticle := some (dec n.postnum) }) : Srv Unit) :=
    Still.modify (fun _ => rfl)
  refine Still.bind (fun o => Settles.forM rows (fun n _ => selects n o)) (fun _ => ?_)
  exact Still.modify (fun _ => rfl)

theorem tells_groupRow {engine : Engine}
    (still : ∀ sqlCmd names op, Still guard (engine.perform sqlCmd names op)) {g : Newsgroup}
    (single : '\n' ∉ g.name)
    : Tells guard user (engine.groupRow g) := by
  refine Tells.append_still ⟨groupLine g, none⟩ (isStatusLine_groupLine single) ?_
  refine Still.bind (Still.modify (fun _ => rfl)) (fun _ => ?_)
  refine Still.bind (Still.modify (fun _ => rfl)) (fun _ => ?_)
  refine (still _ _ (.selectPostnums g.name)).bind (fun rows => ?_)
  split
  · exact Still.modify (fun _ => rfl)
  · exact Still.pure _

-- the texts of the statements are not to be evaluated
attribute [local irreducible] postgresSrv

/-- `db_group` replies with the one row that it looks at. -/
theorem tells_group (single : servers.SingleStatements) (reads : servers.mysql.ReadsNames)
    (isGroup : caseEqPrefix "group".toList command = true) (group : Str)
    : Tells (AdmitsAgain dbase cfg command user) user ((srvBackend servers dbase).group group) := by
  intro sent
  cases dbase with
  | sqlite3 =>
      refine Settles.get_bind (fun old _ => settles_sql.bind (fun rows => ?_))
      rintro r ⟨start, -, finds⟩
      obtain ⟨g, -, name, wrong | only⟩ := finds isGroup
      · cases wrong
      · rw [show rows = [g] from only]
        refine Tells.bind_still ?_ (fun _ => ?_) sent r start
        · exact Still.modify (fun _ => rfl)
        · exact tells_oneRow (tells_groupCb name) (fun _ => rfl)
  | mysql =>
      have asks : Settles (AdmitsAgain .mysql cfg command user) Exit.Alive
          (fun r => r.output = (sent, [], user))
          (mysqlSrv servers.mysql [group] (.selectNewsgroup group))
          (fun rows r => r.output = (sent, [], user)
            ∧ ∃ g : Newsgroup, rows.head? = some g ∧ '\n' ∉ g.name) := by
        refine settles_mysqlSrv (fun rows admitted => ?_) (fun _ error alive => ?_)
        · obtain ⟨g, first, name, -⟩ := admitted.2 isGroup
          exact ⟨g, first, name⟩
        · rcases reads.newsgroup error group with refused | ⟨name', read⟩
          · rw [refused]
            exact alive
          · rw [read]
            intro rows admitted
            obtain ⟨g, first, name, -⟩ := admitted.2 isGroup
            exact ⟨g, first, name⟩
      refine Settles.get_bind (fun old _ => ?_)
      refine Settles.bind (R := fun _ r => r.output = (sent, [], user))
        (Settles.modify (fun _ start => start)) (fun _ => asks.bind (fun rows => ?_))
      rintro r ⟨start, g, first, name⟩
      have one : rows.take 1 = [g] := by
        cases rows with
        | nil => cases first
        | cons g' rest =>
            cases first
            rfl
      rw [show (fun rows : List Newsgroup => rows.take 1) rows = [g] from one]
      have still : ∀ sqlCmd names op, Still (AdmitsAgain .mysql cfg command user)
          ((mysqlEngine servers.mysql).perform sqlCmd names op) :=
        fun _ => still_mysqlSrv single
      refine tells_oneRow ?_ ?_ sent r start
      · exact tells_groupRow still name
      · exact fun _ => rfl
  | postgres =>
      refine Settles.get_bind (fun old _ => ?_)
      refine Settles.bind (R := fun _ r => r.output = (sent, [], user))
        (Settles.modify (fun _ start => start))
        (fun _ => settles_postgresSrv.bind (fun rows => ?_))
      rintro r ⟨start, -, finds⟩
      obtain ⟨g, -, name, wrong | only⟩ := finds isGroup
      · cases wrong
      · rw [show id rows = [g] from only]
        refine tells_oneRow ?_ ?_ sent r start
        · exact tells_groupRow still_postgresSrv name
        · exact fun _ => rfl

end Groups

-----------------------------------------------------------------------------------------
-- Handlers
-----------------------------------------------------------------------------------------

section Handlers

variable {guard : (op : Stmt) → op.Result → Prop} {servers : DbServers} {dbase : Dbase}
  {ext : Extern} {cfg : Config} {env : Env} {command : Str} {user : Option Str} {db : SrvBackend}

theorem tells_docmdAuthinfoUser : Tells guard user (docmdAuthinfoUser command) := by
  refine Tells.bind_still (Still.modify (fun _ => rfl)) (fun _ => ?_)
  split
  · exact Tells.toSend (by decide)
  · rename_i name _
    intro sent
    refine Settles.bind (R := fun _ r => r.output = (sent, [], some name)) ?_
      (fun _ => Tells.toSend (by decide) sent)
    refine Settles.modify (fun r start => ?_)
    obtain ⟨sentSame, output⟩ := Prod.mk.inj start
    obtain ⟨curSame, -⟩ := Prod.mk.inj output
    simp only [Session.output, sentSame, curSame]

theorem tells_docmdAuthinfoPass (orderly : db.Orderly guard ext)
    : Tells guard user (db.docmdAuthinfoPass ext cfg command) := by
  refine Tells.bind_still (Still.modify (fun _ => rfl)) (fun _ => ?_)
  intro sent
  refine Settles.get_bind (fun r start => ?_)
  cases named : r.curAuthUser with
  | none => exact Tells.toSend (by decide) sent
  | some name =>
      have isUser : user = some name := by
        obtain ⟨-, output⟩ := Prod.mk.inj start
        obtain ⟨-, same⟩ := Prod.mk.inj output
        rw [← same, named]
      cases getSlinearg command 2 with
      | none => exact Tells.toSend (by decide) sent
      | some pass =>
          refine Settles.bind (R := fun _ (r : Session) => r.output = (sent, [], user)
            ∧ r.curAuthUser.isSome ∧ r.curAuthPass.isSome) ?_ (fun _ => ?_)
          · refine Settles.modify (fun r start => ⟨start, ?_, rfl⟩)
            obtain ⟨-, output⟩ := Prod.mk.inj start
            obtain ⟨-, same⟩ := Prod.mk.inj output
            rw [show r.curAuthUser = some name from same.trans isUser]
            rfl
          · refine (orderly.authinfoCheck _).bind (fun _ => Settles.get_bind (fun r _ => ?_))
            have status : isStatusLine (if r.authIsThere = true then authAccept else authReject)
                = true := by
              split <;> decide
            refine (Tells.toSend status sent).bind (fun _ => Settles.modify (fun r replied => ?_))
            exact replied.congr rfl

theorem tells_docmdCapabilities : Tells guard user (docmdCapabilities cfg) := by
  have last : Adds guard user (toSend capsstringPost >>= fun _ => toSend periodEnd) :=
    (Adds.toSend _).bind (fun _ => Adds.toSend _)
  refine Tells.get_bind (fun r => ?_)
  refine Tells.append_bind ⟨capsstring, none⟩ (by decide) (by decide) ?_
  refine (Adds.toSend _).bind (fun _ => (Adds.toSend _).bind (fun _ => ?_))
  refine (Adds.toSend _).bind (fun _ => ?_)
  have mode : Adds guard user
      (if (!r.tlsActive) = true then
          toSend capsstringModereader >>= fun _ => toSend capsstringPost >>= fun _ => toSend periodEnd
        else toSend capsstringPost >>= fun _ => toSend periodEnd) :=
    ((Adds.toSend _).bind (fun _ => last)).ite last
  exact Adds.ite ((Adds.toSend _).bind (fun _ => mode)) mode

theorem tells_docmdStarttls : Tells guard user (docmdStarttls cfg) := by
  refine Tells.get_bind (fun r => Tells.ite (Tells.toSend (by decide)) ?_)
  refine Tells.ite (Tells.toSend (by decide)) (Tells.ite (Tells.toSend (by decide)) ?_)
  exact Tells.bind_still (Still.modify (fun _ => rfl)) (fun _ => Tells.toSend (by decide))

theorem prefix_toList_append {text : Str} {s : String} (starts : text <+: s.toList) (rest : String)
    : text <+: (s ++ rest).toList := by
  rw [String.toList_append]
  exact starts.trans (List.prefix_append _ _)

theorem tells_help : Tells guard user (toSend helpstring) := by
  have starts : "100 help text follows\r\n".toList <+: helpstring := by
    unfold helpstring
    iterate 27 refine prefix_toList_append ?_ _
    exact List.prefix_rfl
  obtain ⟨block, is⟩ := starts
  rw [← is]
  exact Tells.block _ block (by decide) (by decide)

theorem tells_overviewFmt : Tells guard user (toSend listOverviewFmtInfo) := by
  have starts : "215 Order of fields in overview database.\r\n".toList <+: listOverviewFmtInfo := by
    unfold listOverviewFmtInfo
    iterate 2 refine prefix_toList_append ?_ _
    exact List.prefix_rfl
  obtain ⟨block, is⟩ := starts
  rw [← is]
  exact Tells.block _ block (by decide) (by decide)

theorem tells_lastCommands (authenticated : Bool)
    : Tells guard user (lastCommands cfg authenticated command) :=
  Tells.ite tells_docmdStarttls
    (Tells.ite (Tells.toSend (by decide))
      (Tells.ite (Tells.toSend (by decide)) (Tells.toSend (by decide))))

theorem tells_docmdList (single : servers.SingleStatements) (cmdtyp : ListCmdtyp)
    : Tells (Admits dbase cfg command user) user
        ((srvBackend servers dbase).docmdList ext cfg command cmdtyp) := by
  have lists (reply : Str) (status : isStatusLine reply = true)
      (block : announcesBlock reply = true) (wildmat : Option Str)
      : Tells (Admits dbase cfg command user) user
          (SrvBackend.docmdList.list (srvBackend servers dbase) ext cfg cmdtyp reply wildmat) :=
    Tells.append_bind ⟨reply, none⟩ status block
      ((adds_list single cmdtyp wildmat).bind (fun _ => Adds.toSend _))
  cases cmdtyp with
  | list => exact lists _ (by decide) (by decide) _
  | xgtitle =>
      simp only [SrvBackend.docmdList]
      split
      · exact Tells.toSend (by decide)
      · exact lists _ (by decide) (by decide) _
  | listNewsgroups => exact lists _ (by decide) (by decide) _

theorem tells_xhdrArticles (orderly : db.Orderly guard ext) (group : Str) (realMax : Nat)
    (part : XhdrPart)
    : Tells guard user (db.xhdrArticles ext command group realMax part) := by
  have reply (msgid : Option Str) (min max : Nat)
      : Tells guard user (SrvBackend.xhdrArticles.reply db ext group part msgid min max) :=
    Tells.append_bind ⟨xhdrReply, none⟩ (by decide) (by decide)
      ((orderly.xhdr _ _ _ _ _ _).bind (fun _ => Adds.toSend _))
  have range (min max : Nat)
      : Tells guard user (SrvBackend.xhdrArticles.range db ext group realMax part min max) :=
    Tells.ite (Tells.toSend (by decide)) (reply _ _ _)
  refine Tells.get_bind (fun r => ?_)
  split
  · split
    · exact Tells.toSend (by decide)
    · exact range _ _
  · refine Tells.ite ?_ (range _ _)
    refine Tells.bind_still (orderly.chkIfMsgidExists _ _) (fun there => ?_)
    exact Tells.ite (reply _ _ _) (Tells.toSend (by decide))

theorem tells_docmdXhdr (orderly : db.Orderly guard ext)
    : Tells guard user (db.docmdXhdr ext env command) := by
  refine Tells.get_bind (fun r => ?_)
  split
  · exact Tells.toSend (by decide)
  · refine Tells.bind_still (orderly.getHighValue _ _) (fun realMax => ?_)
    split
    · exact Tells.toSend (by decide)
    · split
      · exact Tells.block xhdrReply periodEnd (by decide) (by decide)
      · refine Tells.bind_still (Still.modify (fun _ => rfl)) (fun _ => ?_)
        exact tells_xhdrArticles orderly _ _ _

theorem tells_docmdXover (orderly : db.Orderly guard ext)
    : Tells guard user (db.docmdXover ext env command) := by
  have range (group : Str) (realMax min max : Nat)
      : Tells guard user (SrvBackend.docmdXover.range db ext group realMax min max) :=
    Tells.ite (Tells.toSend (by decide))
      (Tells.append_bind ⟨xoverReply, none⟩ (by decide) (by decide)
        ((orderly.xover _ _ _ _).bind (fun _ => Adds.toSend _)))
  refine Tells.get_bind (fun r => ?_)
  split
  · exact Tells.toSend (by decide)
  · refine Tells.bind_still (orderly.getHighValue _ _) (fun realMax => ?_)
    split
    · split
      · exact Tells.toSend (by decide)
      · exact range _ _ _ _
    · exact range _ _ _ _

/-- HEAD and STAT do not send a body. -/
theorem cmdtypeOf_word {key : Str} (begins : caseEqPrefix key command = true)
    (isOne : key = "article".toList ∨ key = "head".toList ∨ key = "body".toList
      ∨ key = "stat".toList)
    (old : Cmdtype) (wanted : cmdtypeOf command old = .article ∨ cmdtypeOf command old = .body)
    : caseEqPrefix "article".toList command = true ∨ caseEqPrefix "body".toList command = true := by
  cases command with
  | nil => rcases isOne with rfl | rfl | rfl | rfl <;> cases begins
  | cons c cs =>
      have letter (l : Char) (rest : Str) (is : key = l :: rest) : c = l.toLower ∨ c = l.toUpper := by
        subst is
        simp only [caseEqPrefix, Bool.and_eq_true, beq_iff_eq] at begins
        exact toLower_eq_iff.mp begins.1.symm
      rcases isOne with rfl | is | rfl | is
      · exact Or.inl begins
      · rcases letter 'h' _ is with rfl | rfl <;> rcases wanted with wrong | wrong <;> cases wrong
      · exact Or.inr begins
      · rcases letter 's' _ is with rfl | rfl <;> rcases wanted with wrong | wrong <;> cases wrong

theorem tells_docmdArticle (single : servers.SingleStatements) (reads : servers.mysql.ReadsNames)
    (named : ∀ old, cmdtypeOf command old = .article ∨ cmdtypeOf command old = .body →
      caseEqPrefix "article".toList command = true ∨ caseEqPrefix "body".toList command = true)
    : Tells (Admits dbase cfg command user) user
        ((srvBackend servers dbase).docmdArticle cfg command) := by
  intro sent
  have retrieve (old : Cmdtype) (group : Str) (type : Artcltyp)
      : Settles (Admits dbase cfg command user) Exit.Alive
          (Session.Asking sent user (cmdtypeOf command old))
          (SrvBackend.docmdArticle.retrieve (srvBackend servers dbase) cfg group type)
          (fun _ => Session.Replied sent) := by
    refine (settles_article single reads (named old) group type sent).bind (fun _ => ?_)
    intro r served
    show (StateT.run (if r.foundArticle = true then pure () else toSend nosucharticle) r).Always _ _ _
    rcases served with ⟨found, replied⟩ | ⟨missed, output⟩
    · rw [if_pos found]
      exact replied
    · rw [if_neg (by rw [missed]; decide)]
      exact Tells.toSend (by decide) sent r output
  have silent (text : Str) (status : isStatusLine text = true)
      : Settles (Admits dbase cfg command user) Exit.Alive
          (fun r => ∃ old, r.Asking sent user (cmdtypeOf command old)) (toSend text)
          (fun _ => Session.Replied sent) :=
    (Tells.toSend status sent).pre (fun r ⟨_, asking⟩ => asking.output)
  have asks (group : Str) (type : Artcltyp)
      : Settles (Admits dbase cfg command user) Exit.Alive
          (fun r => ∃ old, r.Asking sent user (cmdtypeOf command old))
          (SrvBackend.docmdArticle.retrieve (srvBackend servers dbase) cfg group type)
          (fun _ => Session.Replied sent) :=
    fun r ⟨old, asking⟩ => retrieve old group type r asking
  refine Settles.bind (R := fun _ r => ∃ old, Session.Asking sent user (cmdtypeOf command old) r) ?_
    (fun _ => Settles.get_bind (fun r _ => ?_))
  · exact Settles.modify (fun r start => ⟨r.cmdtype, start, rfl, rfl⟩)
  · split
    · exact silent _ (by decide)
    · split
      · exact silent _ (by decide)
      · exact Settles.ite (fun _ => silent _ (by decide)) (fun _ => asks _ _)
      · exact asks _ _

theorem still_aclCheck (orderly : db.Orderly guard ext) (name : Option Str) (group : Str)
    : Still guard (db.aclCheck name group) := by
  cases name with
  | none => exact Still.pure _
  | some name => exact orderly.aclCheckUserGroup name group

theorem tells_docmdListgroup (orderly : db.Orderly guard ext)
    : Tells guard user (db.docmdListgroup cfg command) := by
  have reply (group : Str) : Tells guard user (SrvBackend.docmdListgroup.reply db group) :=
    Tells.append_bind ⟨articleListFollows, none⟩ (by decide) (by decide) (orderly.listgroup _ _)
  have listing (group : Str)
      : Tells guard user (SrvBackend.docmdListgroup.listing db cfg group) := by
    refine Tells.get_bind (fun r => Tells.ite ?_ (reply group))
    refine Tells.bind_still (still_aclCheck orderly _ _) (fun allowed => ?_)
    exact Tells.ite (reply group) (Tells.toSend (by decide))
  refine Tells.get_bind (fun r => ?_)
  split
  · split
    · exact Tells.toSend (by decide)
    · exact listing _
  · intro sent
    refine Settles.bind (R := fun _ (r : Session) => r.output = (sent, [], user)
      ∧ r.chkname.isSome) (Settles.modify (fun _ start => ⟨start, rfl⟩)) (fun _ => ?_)
    refine (orderly.checkNewsgroupExistence _).bind (fun _ => ?_)
    refine Tells.get_bind (fun found => Tells.ite ?_ ?_) sent
    · exact Tells.bind_still (Still.modify (fun _ => rfl)) (fun _ => Tells.toSend (by decide))
    · exact Tells.bind_still (Still.modify (fun _ => rfl)) (fun _ => listing _)

/-- GROUP behind its existence check. -/
theorem tells_groupFound (ext : Extern) (single : servers.SingleStatements)
    (reads : servers.mysql.ReadsNames) (isGroup : caseEqPrefix "group".toList command = true)
    (old : Session) (group : Str)
    : Tells (AdmitsAgain dbase cfg command user) user
        (do
          let s ← get
          if !s.foundGroup then do
            toSend nosuchgroup
            modify (fun s => { s with foundGroup := old.foundGroup })
          else if cfg.useAuth && cfg.useAcl then do
            let allowed ← (srvBackend servers dbase).aclCheck s.curAuthUser group
            if allowed then (srvBackend servers dbase).group group else toSend nosuchgroup
          else (srvBackend servers dbase).group group) := by
  have replies := @tells_group servers dbase cfg command user single reads isGroup group
  refine Tells.get_bind (fun r => Tells.ite ?_ (Tells.ite ?_ replies))
  · exact Tells.append_still ⟨nosuchgroup, none⟩ (by decide) (Still.modify (fun _ => rfl))
  · refine Tells.bind_still (still_aclCheck (@orderly _ ext _ single dbase) _ _) (fun allowed => ?_)
    exact replies.ite (Tells.toSend (by decide))

/-- An existence check whose query is a query for a newsgroup, or ends the connection. -/
theorem chkFound_run {query : Str → Srv (List Newsgroup)} {r : Session} {name : Str}
    (named : r.chkname = some name)
    (asks : ∀ r : Session,
      (query name).run r = .stop (.killThread r.sent)
      ∨ ∃ name' : Str, (query name).run r
          = .act (.selectNewsgroup name') (fun rows : List Newsgroup => .done (rows, r)))
    : (chkFound query).run r = .stop (.killThread r.sent)
      ∨ ∃ name' : Str, (chkFound query).run r
          = .act (.selectNewsgroup name')
              (fun rows : List Newsgroup => .done ((), { r with foundGroup := !rows.isEmpty })) := by
  have same : (chkFound query).run r
      = (query name).run { r with foundGroup := false } >>= fun out =>
          .done ((), { out.2 with foundGroup := !out.1.isEmpty }) := by
    show StateT.run (match r.chkname with
      | none => crash
      | some name => do
          let rows ← query name
          modify (fun s => { s with foundGroup := !rows.isEmpty }) : Srv Unit)
      { r with foundGroup := false } = _
    rw [named]
    rfl
  rw [same]
  rcases asks { r with foundGroup := false } with stopped | ⟨name', asked⟩
  · rw [stopped]
    exact Or.inl rfl
  · rw [asked]
    exact Or.inr ⟨name', rfl⟩

theorem checkNewsgroupExistence_run (reads : servers.mysql.ReadsNames) {r : Session} {name : Str}
    (named : r.chkname = some name)
    : (srvBackend servers dbase).checkNewsgroupExistence.run r = .stop (.killThread r.sent)
      ∨ ∃ name' : Str, (srvBackend servers dbase).checkNewsgroupExistence.run r
          = .act (.selectNewsgroup name')
              (fun rows : List Newsgroup => .done ((), { r with foundGroup := !rows.isEmpty })) := by
  cases dbase with
  | sqlite3 =>
      exact @chkFound_run (fun name => sql (.selectNewsgroup name)) r name named
        (fun _ => Or.inr ⟨name, rfl⟩)
  | mysql =>
      refine @chkFound_run (fun name => mysqlSrv servers.mysql [name] (.selectNewsgroup name)) r name
        named (fun r => ?_)
      have is : (mysqlSrv servers.mysql [name] (.selectNewsgroup name)).run r
          = (mysqlRealQuery servers.mysql (Exit.killThread r.sent) [name] (.selectNewsgroup name)
            >>= fun rows => pure (rows, r)) :=
        rfl
      rw [is]
      unfold mysqlRealQuery
      split
      · exact Or.inr ⟨name, rfl⟩
      · rcases reads.newsgroup (.killThread r.sent) name with refused | ⟨name', read⟩
        · rw [refused]
          exact Or.inl rfl
        · rw [read]
          exact Or.inr ⟨name', rfl⟩
  | postgres =>
      refine @chkFound_run (fun name => postgresSrv "select * from newsgroups where name=$1" [name]
        (.selectNewsgroup name)) r name named (fun r => ?_)
      show (pqExecParams (Exit.killThread r.sent) _ [name] (.selectNewsgroup name)
          >>= fun rows => pure (rows, r)) = _ ∨ ∃ name', _ = _
      unfold pqExecParams
      split
      · exact Or.inr ⟨name, rfl⟩
      · exact Or.inl rfl

theorem alwaysThen_docmdGroup (ext : Extern) (single : servers.SingleStatements)
    (reads : servers.mysql.ReadsNames) (isGroup : caseEqPrefix "group".toList command = true)
    {r : Session} {sent : List Piece} (start : r.output = (sent, [], user))
    : (((srvBackend servers dbase).docmdGroup cfg command).run r).AlwaysThen
        (Admits dbase cfg command user) (AdmitsAgain dbase cfg command user)
        (fun out => out.2.Replied sent) Exit.Alive := by
  cases arg : getSlinearg command 1 with
  | none =>
      have told := @Tells.toSend (Admits dbase cfg command user) user parameterMiss (by decide)
        sent r start
      have same : ((srvBackend servers dbase).docmdGroup cfg command).run r
          = (toSend parameterMiss).run r := by
        unfold SrvBackend.docmdGroup
        rw [arg]
        rfl
      rw [same]
      exact told
  | some name =>
      have same : ((srvBackend servers dbase).docmdGroup cfg command).run r
          = (srvBackend servers dbase).checkNewsgroupExistence.run
              { r with chkname := some name, foundGroup := false }
            >>= fun out => (do
              let s ← get
              if !s.foundGroup then do
                toSend nosuchgroup
                modify (fun s => { s with foundGroup := r.foundGroup })
              else if cfg.useAuth && cfg.useAcl then do
                let allowed ← (srvBackend servers dbase).aclCheck s.curAuthUser name
                if allowed then (srvBackend servers dbase).group name else toSend nosuchgroup
              else (srvBackend servers dbase).group name : Srv Unit).run out.2 := by
        unfold SrvBackend.docmdGroup
        rw [arg]
        rfl
      rw [same]
      rcases @checkNewsgroupExistence_run servers dbase reads
        { r with chkname := some name, foundGroup := false } name rfl with stopped | ⟨name', asked⟩
      · rw [stopped]
        exact fun killed => by cases killed
      · rw [asked]
        intro rows _
        exact tells_groupFound ext single reads isGroup r name sent _ start

end Handlers

-----------------------------------------------------------------------------------------
-- POST
-----------------------------------------------------------------------------------------

section Post

variable {guard : (op : Stmt) → op.Result → Prop} {ext : Extern} {cfg : Config} {env : Env}
  {user : Option Str} {db : SrvBackend}

/-- The names are in order, or the article is refused. -/
theorem settles_chkNgNameCorrectness (orderly : db.Orderly guard ext) (groups : List Str)
    (sent : List Piece)
    : Settles guard Exit.Alive (fun r => r.output = (sent, [], user))
        (db.chkNgNameCorrectness groups)
        (fun ok r => ok = true ∧ r.output = (sent, [], user) ∨ ok = false ∧ r.Replied sent) := by
  induction groups with
  | nil => exact Settles.pure (fun _ start => Or.inl ⟨rfl, start⟩)
  | cons newsgroup rest ih =>
      have names : Settles guard Exit.Alive (fun r => r.output = (sent, [], user))
          (modify (fun s => { s with chkname := some (dbSecureSqlbuffer db.dbase newsgroup) })
            : Srv Unit)
          (fun _ r => r.output = (sent, [], user) ∧ r.chkname.isSome) :=
        Settles.modify (fun _ start => ⟨start, rfl⟩)
      have forgets : Still guard (modify (fun s => { s with chkname := none }) : Srv Unit) :=
        Still.modify (fun _ => rfl)
      have refuses (text : Str) (status : isStatusLine text = true)
          : Settles guard Exit.Alive (fun r => r.output = (sent, [], user))
              (do
                toSend text
                pure false : Srv Bool)
              (fun ok r => ok = true ∧ r.output = (sent, [], user) ∨ ok = false ∧ r.Replied sent) :=
        (Tells.toSend status sent).bind (fun _ => Settles.pure (fun _ replied => Or.inr ⟨rfl, replied⟩))
      refine names.bind (fun _ => (orderly.checkNewsgroupExistence _).bind (fun _ => ?_))
      refine (forgets _).bind (fun _ => Settles.get_bind (fun r _ => Settles.ite ?_ (fun _ => ?_)))
      · exact fun _ => refuses _ (by decide)
      · refine names.bind (fun _ => (orderly.checkNewsgroupPostingAllowed _).bind (fun _ => ?_))
        refine (forgets _).bind (fun _ => Settles.get_bind (fun r _ => Settles.ite ?_ (fun _ => ?_)))
        · exact fun _ => refuses _ (by decide)
        · refine Settles.bind (R := fun _ r => r.output = (sent, [], user)) ?_ (fun _ => ih)
          exact Settles.modify (fun _ start => start)

theorem still_postToGroups (orderly : db.Orderly guard ext) (messageId : Str) (groups : List Str)
    (stack : Charstack)
    : Still guard (db.postToGroups cfg env messageId groups stack) := by
  induction groups generalizing stack with
  | nil => exact Still.pure _
  | cons newsgroup rest ih =>
      have allowed (name : Option Str) : Still guard (db.aclCheckIfUsed cfg name newsgroup) :=
        (still_aclCheck orderly name newsgroup).ite (Still.pure _)
      refine Still.get_bind (fun r => (allowed _).bind (fun may => (ih _).ite ?_))
      refine (orderly.getHighValue _ _).bind (fun curHigh => Still.killThread.ite ((ih _).ite ?_))
      refine (orderly.postInsertIntoNgposts _ _ _).bind (fun _ => ?_)
      exact (orderly.postUpdateHighValue _ _).bind (fun _ => ih _)

theorem still_secure {value : Option Str} (there : db.dbase ≠ .sqlite3 → value.isSome)
    : Still guard (db.secure value) := by
  unfold SrvBackend.secure
  split
  · exact Still.pure _
  · exact Still.pure _
  · rename_i other
    cases there (fun isSqlite => other isSqlite)

theorem still_filebackendSavebody (messageId body : Str)
    : Still guard (filebackendSavebody messageId body) :=
  (Still.sql _).bind (fun _ => (Still.sql _).bind (fun _ => Still.pure _))

theorem tells_storeArticle (orderly : db.Orderly guard ext)
    (inDb : cfg.messageBodyInDb = true → db.dbase = .postgres) {row : Posting} {header : Str}
    (values : db.dbase ≠ .sqlite3 →
      (cdpReturnLinevalue header "From:".toList).isSome
      ∧ (cdpReturnLinevalue header "Subject:".toList).isSome)
    (body : Str) (groups : List Str)
    : Tells guard user (db.storeArticle cfg env row header body groups) := by
  have stores : Still guard (db.storeBody cfg row.msgid body) := by
    unfold SrvBackend.storeBody
    split
    · exact orderly.storeMessageBody (inDb ‹_›) _ _
    · exact still_filebackendSavebody _ _
  refine Tells.bind_still stores (fun _ => ?_)
  refine Tells.bind_still (still_secure (fun other => (values other).1)) (fun author => ?_)
  refine Tells.bind_still (still_secure (fun other => (values other).2)) (fun subject => ?_)
  refine Tells.bind_still (orderly.postInsertIntoPostings _) (fun _ => ?_)
  refine Tells.bind_still (still_postToGroups orderly _ _ _) (fun _ => ?_)
  exact Tells.toSend (by decide)

theorem still_getUniqnum : Still guard getUniqnum := by
  have writes (id : Nat) : Still guard (getUniqnum.write id) :=
    (Still.sql _).bind (fun _ => Still.pure _)
  refine (Still.sql .msgidOpen).bind (fun opened => Still.ite ?_ ?_)
  · refine (Still.sql .msgidRead).bind (fun id => ?_)
    cases id with
    | none => exact Still.pure _
    | some id => exact writes _
  · exact (Still.sql .msgidCreate).bind (fun created => (writes _).ite (Still.pure _))

theorem isStatusLine_of_refused {buf message : Str} (refused : checkArticle buf = .refused message)
    : isStatusLine message = true := by
  have all : ∀ m ∈ [progerr503, hdrerrorNewsgroup, hdrerrorFrom, hdrerrorSubject],
      isStatusLine m = true := by
    decide
  exact all message (message_of_refused refused)

theorem tells_postArticle (orderly : db.Orderly guard ext) {buf : Str}
    (storable : Storable db.dbase cfg buf)
    : Tells guard user (db.postArticle ext cfg env buf) := by
  unfold SrvBackend.postArticle
  unfold Storable at storable
  split
  · exact fun _ => settles_killThread
  · rename_i crashed
    rw [crashed] at storable
    cases storable
  · rename_i message refused
    exact Tells.toSend (isStatusLine_of_refused refused)
  · rename_i len header ngstrp body passed
    rw [passed] at storable
    obtain ⟨inDb, counted, stored, removed, values⟩ := storable
    have number : Still guard (db.newMessageNumber cfg) := by
      unfold SrvBackend.newMessageNumber
      split
      · exact orderly.dbGetUniqnum (counted ‹_›)
      · exact still_getUniqnum
    have accepted : Tells guard user (db.postAccepted ext cfg env len header ngstrp body) := by
      refine Tells.bind_still number (fun newid => ?_)
      rw [removed]
      split
      · split
        · rename_i wrong
          cases wrong
        · exact fun _ => settles_killThread
        · rename_i same _
          cases same
          exact tells_storeArticle orderly inDb values _ _
      · exact fun _ => settles_killThread
    intro sent
    refine (settles_chkNgNameCorrectness orderly _ sent).bind (fun ok => ?_)
    rintro r (⟨rfl, silent⟩ | ⟨rfl, replied⟩)
    · exact accepted sent r silent
    · exact replied

/-- POST announces that it waits for an article, and replies to the article. -/
theorem settles_docmdPost (orderly : db.Orderly guard ext)
    (storable : ∀ buf, postReceive cfg.maxPostSize [] env.recv = .article buf →
      Storable db.dbase cfg buf)
    (sent : List Piece)
    : Settles guard Exit.Alive (fun r => r.output = (sent, [], user)) (db.docmdPost ext cfg env)
        (fun _ => Session.Replied (sent ++ [⟨postok, none⟩])) := by
  refine Settles.bind (R := fun _ r => r.output = (sent ++ [⟨postok, none⟩], [], user)) ?_
    (fun _ => ?_)
  · refine Settles.modify (fun r start => ?_)
    obtain ⟨sentSame, output⟩ := Prod.mk.inj start
    obtain ⟨curSame, userSame⟩ := Prod.mk.inj output
    simp only [Session.output, sentSame, curSame, userSame]
  · split
    · exact tells_postArticle orderly (storable _ ‹_›) _
    · exact fun _ _ killed => by cases killed
    · exact settles_killThread
    · exact fun _ _ waits => by cases waits

end Post

-----------------------------------------------------------------------------------------
-- do_command
-----------------------------------------------------------------------------------------

/-- What a command has been answered with: one reply, to POST behind the request for an
article. -/
def Session.Answered (before : Session) (command : Str) (r : Session) : Prop :=
  r.Replied before.sent
  ∨ caseEqPrefix "post".toList command = true ∧ r.Replied (before.sent ++ [⟨postok, none⟩])

/-- The conditions on the article that POST receives. -/
def PostsStorable (dbase : Dbase) (cfg : Config) (env : Env) (command : Str) : Prop :=
  caseEqPrefix "post".toList command = true →
    ∀ buf, postReceive cfg.maxPostSize [] env.recv = .article buf → Storable dbase cfg buf

section DoCommand

variable {servers : DbServers} {dbase : Dbase} {ext : Extern} {cfg : Config} {env : Env}
  {command : Str} {session : Session}

/-- A handler of `do_command` answers the command. -/
def Serves (dbase : Dbase) (cfg : Config) (command : Str) (session : Session) (m : Srv Unit)
    : Prop :=
  (m.run session).AlwaysThen (Admits dbase cfg command session.curAuthUser)
    (AdmitsAgain dbase cfg command session.curAuthUser)
    (fun out => session.Answered command out.2) Exit.Alive

theorem Tells.serves (silent : session.curstring = []) {m : Srv Unit}
    (tells : Tells (Admits dbase cfg command session.curAuthUser) session.curAuthUser m)
    : Serves dbase cfg command session m := by
  have start : session.output = (session.sent, [], session.curAuthUser) := by
    simp only [Session.output, silent]
  refine Prog.Always.then ((tells session.sent session start).mono (fun _ => Or.inl)) ?_
  exact fun _ _ admitted => admitted.1

theorem serves_checkMandatoryTls (silent : session.curstring = []) {m : Srv Unit}
    (serves : Serves dbase cfg command session m)
    : Serves dbase cfg command session (checkMandatoryTls cfg m) := by
  unfold Serves
  rw [checkMandatoryTls_run]
  split
  · exact (Tells.toSend (by decide)).serves silent
  · exact serves

theorem serves_docmdGroup (ext : Extern) (single : servers.SingleStatements)
    (reads : servers.mysql.ReadsNames) (isGroup : caseEqPrefix "group".toList command = true)
    (silent : session.curstring = [])
    : Serves dbase cfg command session ((srvBackend servers dbase).docmdGroup cfg command) := by
  have start : session.output = (session.sent, [], session.curAuthUser) := by
    simp only [Session.output, silent]
  have always := @alwaysThen_docmdGroup servers dbase cfg command session.curAuthUser ext single
    reads isGroup session session.sent start
  exact always.mono (fun _ => Or.inl)

theorem serves_docmdPost (single : servers.SingleStatements)
    (isPost : caseEqPrefix "post".toList command = true)
    (storable : PostsStorable dbase cfg env command) (silent : session.curstring = [])
    : Serves dbase cfg command session ((srvBackend servers dbase).docmdPost ext cfg env) := by
  have start : session.output = (session.sent, [], session.curAuthUser) := by
    simp only [Session.output, silent]
  have posts : ∀ buf, postReceive cfg.maxPostSize [] env.recv = .article buf →
      Storable (srvBackend servers dbase).dbase cfg buf := by
    rw [dbase_srvBackend]
    exact storable isPost
  have orderly := @orderly (Admits dbase cfg command session.curAuthUser) ext servers single dbase
  have always := settles_docmdPost orderly posts session.sent session start
  refine Prog.Always.then (always.mono (fun _ replied => Or.inr ⟨isPost, replied⟩)) ?_
  exact fun _ _ admitted => admitted.1

/-- Each branch of `do_command` for the authenticated answers its command. -/
theorem serves_authCommands (single : servers.SingleStatements) (reads : servers.mysql.ReadsNames)
    (date : isStatusLine env.dateText = true) (storable : PostsStorable dbase cfg env command)
    (silent : session.curstring = []) {entry : Str × Srv Unit}
    (member : entry ∈ (srvBackend servers dbase).authCommands ext cfg env command)
    (begins : caseEqPrefix entry.1 command = true)
    : Serves dbase cfg command session entry.2 := by
  have orderly := @orderly (Admits dbase cfg command session.curAuthUser) ext servers single dbase
  have checked {m : Srv Unit}
      (tells : Tells (Admits dbase cfg command session.curAuthUser) session.curAuthUser m)
      : Serves dbase cfg command session (checkMandatoryTls cfg m) :=
    serves_checkMandatoryTls silent (tells.serves silent)
  have lists (cmdtyp : ListCmdtyp)
      : Serves dbase cfg command session
          (checkMandatoryTls cfg ((srvBackend servers dbase).docmdList ext cfg command cmdtyp)) :=
    checked (tells_docmdList single cmdtyp)
  have reads (key : Str) (begins : caseEqPrefix key command = true)
      (isOne : key = "article".toList ∨ key = "head".toList ∨ key = "body".toList
        ∨ key = "stat".toList)
      : Serves dbase cfg command session
          (checkMandatoryTls cfg ((srvBackend servers dbase).docmdArticle cfg command)) :=
    checked (tells_docmdArticle single reads (cmdtypeOf_word begins isOne))
  simp only [SrvBackend.authCommands, List.mem_cons, List.not_mem_nil, or_false] at member
  rcases member with rfl | rfl | rfl | rfl | rfl | rfl | rfl | rfl | rfl | rfl | rfl | rfl | rfl
    | rfl | rfl | rfl | rfl
  · exact lists _
  · exact tells_overviewFmt.serves silent
  · exact checked (tells_docmdListgroup orderly)
  · exact lists _
  · exact lists _
  · exact tells_help.serves silent
  · exact serves_checkMandatoryTls silent (serves_docmdGroup ext single ‹_› begins silent)
  · exact checked (tells_docmdXover orderly)
  · exact checked (tells_docmdXhdr orderly)
  · exact reads _ begins (Or.inl rfl)
  · exact reads _ begins (Or.inr (Or.inl rfl))
  · exact reads _ begins (Or.inr (Or.inr (Or.inl rfl)))
  · exact reads _ begins (Or.inr (Or.inr (Or.inr rfl)))
  · exact checked (Tells.toSend (by decide))
  · exact serves_checkMandatoryTls silent (serves_docmdPost single begins storable silent)
  · exact (Tells.toSend date).serves silent
  · exact tells_docmdCapabilities.serves silent

/-- `do_command` ends the connection or answers the command. -/
theorem serves_doCommand (single : servers.SingleStatements) (reads : servers.mysql.ReadsNames)
    (date : isStatusLine env.dateText = true) (storable : PostsStorable dbase cfg env command)
    (silent : session.curstring = [])
    : Serves dbase cfg command session
        ((srvBackend servers dbase).doCommand ext cfg env command) := by
  have orderly := @orderly (Admits dbase cfg command session.curAuthUser) ext servers single dbase
  have run : ((srvBackend servers dbase).doCommand ext cfg env command).run session
      = StateT.run
          (if caseEqPrefix "quit".toList command then do
            send quitstring
            killThread
          else if caseEqPrefix "authinfo user ".toList command then
            checkMandatoryTls cfg (docmdAuthinfoUser command)
          else if caseEqPrefix "authinfo pass ".toList command then
            checkMandatoryTls cfg ((srvBackend servers dbase).docmdAuthinfoPass ext cfg command)
          else (srvBackend servers dbase).branch ext cfg env (session.authIsThere || !cfg.useAuth)
            command)
          session :=
    rfl
  unfold Serves
  rw [run]
  split
  · exact fun killed => by cases killed
  split
  · exact serves_checkMandatoryTls silent (tells_docmdAuthinfoUser.serves silent)
  split
  · exact serves_checkMandatoryTls silent ((tells_docmdAuthinfoPass orderly).serves silent)
  · unfold SrvBackend.branch
    split
    · rename_i entry chosen
      have selects : caseEqPrefix entry.1 command = true := by
        have both := List.find?_some chosen
        rw [Bool.and_eq_true] at both
        exact both.2
      exact serves_authCommands single reads date storable silent
        (List.mem_of_find?_eq_some chosen) selects
    · exact (tells_lastCommands _).serves silent

end DoCommand

-----------------------------------------------------------------------------------------
-- A command among calls of the tool
-----------------------------------------------------------------------------------------

/-- The program of `do_command` has not ended yet, has ended the connection or returns with one
reply. -/
def EndsOrReplies (before : Session) (command : Str) : PartyProg → Prop
  | .act _ _ => True
  | .stop (.inl reason) => reason.Alive
  | .done (.inl (_, after)) => before.Answered command after
  | _ => False

section Interleaved

variable {κ : Type} (servers : DbServers) (dbase : Dbase) (ext : Extern) (cfg : Config)
  (env : Env) (session : Session) (command : Str)

/-- `do_command` at the start of a command. -/
def commandProgram : PartyProg :=
  (((srvBackend servers dbase).doCommand ext cfg env command).run session).embed .inl .inl

/-- A command of a client and any number of calls of the tool, all at their start. -/
def commandPool (hashSalt : Str) (calls : κ → AdmCall) (s : Store)
    : Pool Sql (Exit ⊕ AdmExit) ((Unit × Session) ⊕ Unit) Store (Option κ) where
  threads
    | none => commandProgram servers dbase ext cfg env session command
    | some k =>
        (admMainOn (admBackend servers.mysql dbase) ext hashSalt (calls k).typed
          (calls k).args).embed .inr .inr
  store := s

/-- The next statement of the command, if it is the command's turn, finds what it has to find; the
first statement need not find a newsgroup. -/
def Undisturbed (pool : Pool Sql (Exit ⊕ AdmExit) ((Unit × Session) ⊕ Unit) Store (Option κ))
    (i : Option κ)
    : Prop :=
  i = none → ∀ op next, pool.threads none = .act op next →
    Admits dbase cfg command session.curAuthUser op (execOn dbase ext op pool.store).1
    ∧ (pool.threads none = commandProgram servers dbase ext cfg env session command
      ∨ AdmitsAgain dbase cfg command session.curAuthUser op (execOn dbase ext op pool.store).1)

variable {servers dbase ext cfg env session command}

theorem endsOrReplies_of_always {p : PartyProg} {later : (op : Stmt) → op.Result → Prop}
    (always : p.Always later
      (fun out => ∃ after, out = .inl ((), after) ∧ session.Answered command after)
      (fun reason => ∃ exit : Exit, reason = .inl exit ∧ exit.Alive))
    : EndsOrReplies session command p := by
  cases p with
  | act op next => trivial
  | stop reason =>
      obtain ⟨exit, rfl, alive⟩ := always
      exact alive
  | done out =>
      obtain ⟨after, rfl, answered⟩ := always
      exact answered

end Interleaved

-----------------------------------------------------------------------------------------
-- GROUP and the deletion of a newsgroup
-----------------------------------------------------------------------------------------

section Samples

/-- GROUP on SQLite, while the tool is called once. -/
def groupPool (call : AdmCall)
    : Pool Sql (Exit ⊕ AdmExit) ((Unit × Session) ⊕ Unit) Store (Option Unit) :=
  commandPool sampleServers .sqlite3 sampleExtern readerConfig sampleEnv readerConnection.session
    "GROUP open".toList [] (fun _ => call) sampleStore

/-- GROUP makes its first step, and then the tool all of its steps. -/
def toolBetween : List (Option Unit) := none :: List.replicate 9 (some ())

/-- The program of GROUP behind some steps. -/
def groupThread (call : AdmCall) (schedule : List (Option Unit)) : PartyProg :=
  ((groupPool call).run (execOn .sqlite3 sampleExtern) schedule).threads none

/-- The program has returned without a reply. -/
def returnsNull : PartyProg → Bool
  | .done (.inl (_, after)) => after.curstring.isEmpty
  | _ => false

theorem not_endsOrReplies_of_null {before : Session} {command : Str} {p : PartyProg}
    (null : returnsNull p = true)
    : ¬EndsOrReplies before command p := by
  have noReply {sent : List Piece} {after : Session} (empty : after.curstring = [])
      : ¬after.Replied sent := by
    rintro ⟨-, line, block, is, status, -⟩
    rw [Session.texts, empty] at is
    have nothing : line = [] := (List.append_eq_nil_iff.mp is.symm).1
    rw [nothing] at status
    cases status
  cases p with
  | act op next => cases null
  | stop reason => cases null
  | done out =>
      cases out with
      | inr out => cases null
      | inl out =>
          have empty : out.2.curstring = [] := List.isEmpty_iff.mp null
          rintro (replied | ⟨-, replied⟩)
          · exact noReply empty replied
          · exact noReply empty replied

/-- The steps of the tool are free. -/
theorem runsUnder_tool (n : Nat)
    (pool : Pool Sql (Exit ⊕ AdmExit) ((Unit × Session) ⊕ Unit) Store (Option Unit))
    : pool.RunsUnder (execOn .sqlite3 sampleExtern)
        (Undisturbed sampleServers .sqlite3 sampleExtern readerConfig sampleEnv
          readerConnection.session "GROUP open".toList)
        (List.replicate n (some ())) := by
  induction n generalizing pool with
  | zero => trivial
  | succ n ih => exact ⟨nofun, ih _⟩

/-- A query for one newsgroup finds what it has to find. -/
theorem undisturbed_of_asks
    {pool : Pool Sql (Exit ⊕ AdmExit) ((Unit × Session) ⊕ Unit) Store (Option Unit)}
    {name : Str} {g : Newsgroup}
    (asks : (pool.threads none).nextAct = some (.selectNewsgroup name))
    (there : pool.store.newsgroups.filter (·.name == name) = [g]) (line : '\n' ∉ g.name)
    : Undisturbed sampleServers .sqlite3 sampleExtern readerConfig sampleEnv
        readerConnection.session "GROUP open".toList pool none := by
  intro _ op next thread
  rw [thread] at asks
  cases asks
  refine ⟨trivial, Or.inr ⟨trivial, fun _ => ⟨g, ?_, line, Or.inr there⟩⟩⟩
  show (pool.store.newsgroups.filter (·.name == name)).head? = some g
  rw [there]
  rfl

/-- The deletion of another newsgroup. -/
def deletesClosed : AdmCall := ⟨["delgroup".toList, "closed".toList], []⟩

theorem undisturbed_first
    : Undisturbed sampleServers .sqlite3 sampleExtern readerConfig sampleEnv
        readerConnection.session "GROUP open".toList (groupPool deletesClosed) none := by
  have asks : ((groupPool deletesClosed).threads none).nextAct
      = some (.selectNewsgroup "open".toList) := by
    decide +kernel
  have there : (groupPool deletesClosed).store.newsgroups.filter (·.name == "open".toList)
      = [⟨"open".toList, 'y', 1⟩] := by
    decide +kernel
  exact undisturbed_of_asks asks there (by decide)

theorem undisturbed_second
    : Undisturbed sampleServers .sqlite3 sampleExtern readerConfig sampleEnv
        readerConnection.session "GROUP open".toList
        ((groupPool deletesClosed).run (execOn .sqlite3 sampleExtern) toolBetween) none := by
  have asks : (((groupPool deletesClosed).run (execOn .sqlite3 sampleExtern) toolBetween).threads
      none).nextAct = some (.selectNewsgroup "open".toList) := by
    decide +kernel
  have there : ((groupPool deletesClosed).run (execOn .sqlite3 sampleExtern)
      toolBetween).store.newsgroups.filter (·.name == "open".toList)
      = [⟨"open".toList, 'y', 1⟩] := by
    decide +kernel
  exact undisturbed_of_asks asks there (by decide)

theorem sampleServers_readsNames : sampleServers.mysql.ReadsNames :=
  ⟨fun _ _ => Or.inl rfl, fun _ _ _ => Or.inl rfl, fun _ _ _ => Or.inl rfl⟩

theorem runsUnder_deletesClosed
    : (groupPool deletesClosed).RunsUnder (execOn .sqlite3 sampleExtern)
        (Undisturbed sampleServers .sqlite3 sampleExtern readerConfig sampleEnv
          readerConnection.session "GROUP open".toList)
        (toolBetween ++ [none]) := by
  have between : (groupPool deletesClosed).RunsUnder (execOn .sqlite3 sampleExtern)
      (Undisturbed sampleServers .sqlite3 sampleExtern readerConfig sampleEnv
        readerConnection.session "GROUP open".toList)
      toolBetween :=
    And.intro undisturbed_first (runsUnder_tool 9 _)
  exact Pool.RunsUnder.append between (And.intro undisturbed_second trivial)

theorem group_postsStorable
    : PostsStorable .sqlite3 readerConfig sampleEnv "GROUP open".toList :=
  fun isPost => absurd isPost (by decide)

end Samples

end WendzelNNTPd
