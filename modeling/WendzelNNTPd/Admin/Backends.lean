import WendzelNNTPd.Admin.Tool
import WendzelNNTPd.Database.Schema
import WendzelNNTPd.Database.Sqlite3

/-! `wendzelnntpadm` on the three backends. `db_abstraction.c` calls the functions of the
configured backend; `main` is the same program for all of them.
-/

namespace WendzelNNTPd

open CString Atomic

/-- The functions of a backend that the tool calls. -/
structure AdmBackend where
  chkNewsgroupExistence : Str → Adm Bool
  chkUserExistence : Str → Adm Bool
  chkRoleExistence : Str → Adm Bool
  createNewsgroup : Str → Char → Adm Unit
  deleteNewsgroup : Str → Adm Unit
  modifyNewsgroup : Str → Char → Adm Unit
  addUser : Str → Str → Adm Unit
  delUser : Str → Adm Unit
  aclAddUser : Str → Str → Adm Unit
  aclDelUser : Str → Str → Adm Unit
  aclAddRole : Str → Adm Unit
  aclDelRole : Str → Adm Unit
  aclRoleConnectGroup : Str → Str → Adm Unit
  aclRoleDisconnectGroup : Str → Str → Adm Unit
  aclRoleConnectUser : Str → Str → Adm Unit
  aclRoleDisconnectUser : Str → Str → Adm Unit

/-- `db_sqlite3.c` -/
def sqlite3Backend : AdmBackend where
  chkNewsgroupExistence := setExistenceOfNewsgroup
  chkUserExistence := setExistenceOfUser
  chkRoleExistence := setExistenceOfRole
  createNewsgroup newsgroup postFlg :=
    admInsert (.insertNewsgroup ⟨newsgroup, postFlg, 0⟩) (fun ok : Bool => ok)
  deleteNewsgroup := dbDeleteNewsgroup
  modifyNewsgroup := dbModifyNewsgroup
  addUser := dbAddUser
  delUser := dbDelUser
  aclAddUser username newsgroup :=
    admInsert (.insertAclUser ⟨username, newsgroup⟩) (fun ok : Bool => ok)
  aclDelUser username newsgroup := admDo (.deleteAclUsers (some username) (some newsgroup))
  aclAddRole role := admInsert (.insertRole role) (fun ok : Bool => ok)
  aclDelRole := dbAclDelRole
  aclRoleConnectGroup role newsgroup :=
    admInsert (.insertAclRole ⟨role, newsgroup⟩) (fun ok : Bool => ok)
  aclRoleDisconnectGroup role newsgroup :=
    admDo (.deleteAclRoles (some role) (some newsgroup))
  aclRoleConnectUser role user :=
    admInsert (.insertUser2Role ⟨user, role⟩) (fun ok : Bool => ok)
  aclRoleDisconnectUser role user := admDo (.deleteUsers2Roles (some user) (some role))

-----------------------------------------------------------------------------------------
-- MySQL
-----------------------------------------------------------------------------------------

section Mysql

variable (server : MysqlServer)

/-- A query of the tool. -/
def mysqlAdm (names : List Str) (op : Stmt) : Adm op.Result :=
  mysqlRealQuery server .errExit names op

/-- An insert; an error of the server ends the tool in `MYSQL_CHK_ERR`. -/
def mysqlInsert (names : List Str) (op : Stmt) (ok : op.Result → Bool) : Adm Unit := do
  let r ← mysqlAdm server names op
  if ok r then pure () else errExit

/-- A statement that changes rows. -/
def mysqlDo (names : List Str) (op : Stmt) : Adm Unit := do
  let _ ← mysqlAdm server names op
  pure ()

/-- `db_mysql.c` -/
def mysqlBackend : AdmBackend where
  chkNewsgroupExistence name := do
    let rows : List Newsgroup ← mysqlAdm server [name] (.selectNewsgroup name)
    pure (!rows.isEmpty)
  chkUserExistence name := do
    let rows : List User ← mysqlAdm server [name] (.selectUser name)
    pure (!rows.isEmpty)
  chkRoleExistence name := do
    let rows : List Str ← mysqlAdm server [name] (.selectRole name)
    pure (!rows.isEmpty)
  createNewsgroup newsgroup postFlg :=
    mysqlInsert server [newsgroup] (.insertNewsgroup ⟨newsgroup, postFlg, 0⟩)
      (fun ok : Bool => ok)
  deleteNewsgroup newsgroup := do
    mysqlDo server [newsgroup] (.deleteNgposts newsgroup)
    mysqlDo server [newsgroup] (.deleteAclUsers none (some newsgroup))
    mysqlDo server [newsgroup] (.deleteAclRoles none (some newsgroup))
    mysqlDo server [newsgroup] (.deleteNewsgroup newsgroup)
    mysqlDo server [] .deleteOrphanPostings
  modifyNewsgroup newsgroup postFlg :=
    -- `'%c'` with an empty flag, a quote or a backslash leaves a string literal open
    if postFlg = NUL ∨ postFlg = '\'' ∨ postFlg = '\\' then errExit
    else mysqlDo server [newsgroup] (.updatePflag newsgroup postFlg)
  addUser username password :=
    mysqlInsert server [username, password] (.insertUser ⟨username, password⟩)
      (fun ok : Bool => ok)
  delUser username := do
    mysqlDo server [username] (.deleteAclUsers (some username) none)
    mysqlDo server [username] (.deleteUsers2Roles (some username) none)
    mysqlDo server [username] (.deleteUser username)
  aclAddUser username newsgroup :=
    mysqlInsert server [username, newsgroup] (.insertAclUser ⟨username, newsgroup⟩)
      (fun ok : Bool => ok)
  aclDelUser username newsgroup :=
    mysqlDo server [username, newsgroup] (.deleteAclUsers (some username) (some newsgroup))
  aclAddRole role := mysqlInsert server [role] (.insertRole role) (fun ok : Bool => ok)
  aclDelRole role := do
    mysqlDo server [role] (.deleteUsers2Roles none (some role))
    mysqlDo server [role] (.deleteAclRoles (some role) none)
    mysqlDo server [role] (.deleteRole role)
  aclRoleConnectGroup role newsgroup :=
    mysqlInsert server [role, newsgroup] (.insertAclRole ⟨role, newsgroup⟩) (fun ok : Bool => ok)
  aclRoleDisconnectGroup role newsgroup :=
    mysqlDo server [role, newsgroup] (.deleteAclRoles (some role) (some newsgroup))
  aclRoleConnectUser role user :=
    mysqlInsert server [user, role] (.insertUser2Role ⟨user, role⟩) (fun ok : Bool => ok)
  aclRoleDisconnectUser role user :=
    mysqlDo server [role, user] (.deleteUsers2Roles (some user) (some role))

end Mysql

-----------------------------------------------------------------------------------------
-- PostgreSQL
-----------------------------------------------------------------------------------------

/-- An insert; a status other than `PGRES_COMMAND_OK` ends the tool. -/
def postgresInsert (sqlCmd : String) (params : List Str) (op : Stmt) (ok : op.Result → Bool)
    : Adm Unit := do
  let r ← pqExecParams .errExit sqlCmd params op
  if ok r then pure () else errExit

/-- A statement that changes rows. -/
def postgresDo (sqlCmd : String) (params : List Str) (op : Stmt) : Adm Unit := do
  let _ ← pqExecParams .errExit sqlCmd params op
  pure ()

/-- `db_postgres.c`. A deletion of a user, a role or a newsgroup leaves the rows that refer
to it to the foreign keys. -/
def postgresBackend : AdmBackend where
  chkNewsgroupExistence name := do
    let rows : List Newsgroup ←
      pqExecParams .errExit "select * from newsgroups where name=$1" [name] (.selectNewsgroup name)
    pure (!rows.isEmpty)
  chkUserExistence name := do
    let rows : List User ←
      pqExecParams .errExit "select * from users where name=$1" [name] (.selectUser name)
    pure (!rows.isEmpty)
  chkRoleExistence name := do
    let rows : List Str ←
      pqExecParams .errExit "select * from roles where role = $1;" [name] (.selectRole name)
    pure (!rows.isEmpty)
  createNewsgroup newsgroup postFlg :=
    let post := if postFlg = 'y' then 'y' else 'n'
    postgresInsert "insert into newsgroups (name, pflag, high) values ($1, $2, $3);"
      [newsgroup, [post], ['0']] (.insertNewsgroup ⟨newsgroup, post, 0⟩) (fun ok : Bool => ok)
  deleteNewsgroup newsgroup :=
    postgresDo "delete from newsgroups where \"name\"=$1;" [newsgroup] (.deleteNewsgroup newsgroup)
  modifyNewsgroup newsgroup postFlg :=
    let post := if postFlg = 'y' then 'y' else 'n'
    postgresDo "update newsgroups set pflag = $2 where name = $1" [newsgroup, [post]]
      (.updatePflag newsgroup post)
  addUser username password :=
    postgresInsert "insert into users (name, password) values ($1, $2);" [username, password]
      (.insertUser ⟨username, password⟩) (fun ok : Bool => ok)
  delUser username :=
    postgresDo "delete from users where name=$1" [username] (.deleteUser username)
  aclAddUser username newsgroup :=
    postgresInsert "insert into acl_users (username, ng) values ($1,$2);" [username, newsgroup]
      (.insertAclUser ⟨username, newsgroup⟩) (fun ok : Bool => ok)
  aclDelUser username newsgroup :=
    postgresDo "delete from acl_users where username=$1 and ng=$2" [username, newsgroup]
      (.deleteAclUsers (some username) (some newsgroup))
  aclAddRole role :=
    postgresInsert "insert into roles (role) values ($1);" [role] (.insertRole role)
      (fun ok : Bool => ok)
  aclDelRole role := postgresDo "delete from roles where role=$1" [role] (.deleteRole role)
  aclRoleConnectGroup role newsgroup :=
    postgresInsert "INSERT INTO acl_roles (role, ng) VALUES ($1,$2);" [role, newsgroup]
      (.insertAclRole ⟨role, newsgroup⟩) (fun ok : Bool => ok)
  aclRoleDisconnectGroup role newsgroup :=
    -- the placeholders of the other backends: the statement requires no parameter
    postgresDo "DELETE FROM acl_roles WHERE role='%s' AND ng='%s';" [role, newsgroup]
      (.deleteAclRoles (some role) (some newsgroup))
  aclRoleConnectUser role user :=
    postgresInsert "INSERT INTO users2roles (username, role) VALUES ($1,$2);" [user, role]
      (.insertUser2Role ⟨user, role⟩) (fun ok : Bool => ok)
  aclRoleDisconnectUser role user :=
    postgresDo "DELETE FROM users2roles WHERE role=$1 AND username=$2;" [role, user]
      (.deleteUsers2Roles (some user) (some role))

-----------------------------------------------------------------------------------------
-- main
-----------------------------------------------------------------------------------------

/-- The backend that `dbase` names. -/
def admBackend (server : MysqlServer) : Dbase → AdmBackend
  | .sqlite3 => sqlite3Backend
  | .mysql => mysqlBackend server
  | .postgres => postgresBackend

section Main

variable (db : AdmBackend) (ext : Extern) (hashSalt typed : Str) (args : List Str)

/-- The command `adduser`. -/
def admAdduserOn : Adm Unit :=
  let username := argv args 2
  let pass := if args.length ≥ 3 then argv args 3 else typed
  if !username.all isalnum then errExit
  else if username.length > 100 then errExit
  else if pass.length < 8 then errExit
  else if pass.length > 100 then errExit
  else do
    exitIfExists (db.chkUserExistence username)
    db.addUser username (admPassHash ext hashSalt username pass)

/-- `db_create_newsgroup` -/
def dbCreateNewsgroupOn (newsgroup : Str) (postFlg : Char) : Adm Unit :=
  if postFlg ≠ 'y' ∧ postFlg ≠ 'n' then errExit else db.createNewsgroup newsgroup postFlg

/-- The mode switch of `main`. -/
def admDispatchOn : AdmMode → Adm Unit
  | .ngcreate =>
      if !(argv args 2).all (fun c => isalnum c || c == '.' || c == '-') then errExit
      else do
        exitIfExists (db.chkNewsgroupExistence (argv args 2))
        dbCreateNewsgroupOn db (argv args 2) (byteAt (argv args 3) 0)
  | .ngdelete => do
      exitIfNotExists (db.chkNewsgroupExistence (argv args 2))
      db.deleteNewsgroup (argv args 2)
  | .ngmodify => do
      exitIfNotExists (db.chkNewsgroupExistence (argv args 2))
      db.modifyNewsgroup (argv args 2) (byteAt (argv args 3) 0)
  | .adduser => admAdduserOn db ext hashSalt typed args
  | .deluser => do
      exitIfNotExists (db.chkUserExistence (argv args 2))
      db.delUser (argv args 2)
  | .addacluser => do
      exitIfNotExists (db.chkUserExistence (argv args 2))
      exitIfNotExists (db.chkNewsgroupExistence (argv args 3))
      db.aclAddUser (argv args 2) (argv args 3)
  | .delacluser => do
      exitIfNotExists (db.chkUserExistence (argv args 2))
      exitIfNotExists (db.chkNewsgroupExistence (argv args 3))
      db.aclDelUser (argv args 2) (argv args 3)
  | .addaclrole => do
      exitIfExists (db.chkRoleExistence (argv args 2))
      db.aclAddRole (argv args 2)
  | .delaclrole => do
      exitIfNotExists (db.chkRoleExistence (argv args 2))
      db.aclDelRole (argv args 2)
  | .rolegroupc => do
      exitIfNotExists (db.chkRoleExistence (argv args 2))
      exitIfNotExists (db.chkNewsgroupExistence (argv args 3))
      db.aclRoleConnectGroup (argv args 2) (argv args 3)
  | .rolegroupuc => do
      exitIfNotExists (db.chkRoleExistence (argv args 2))
      exitIfNotExists (db.chkNewsgroupExistence (argv args 3))
      db.aclRoleDisconnectGroup (argv args 2) (argv args 3)
  | .roleuserc => do
      exitIfNotExists (db.chkRoleExistence (argv args 2))
      exitIfNotExists (db.chkUserExistence (argv args 3))
      db.aclRoleConnectUser (argv args 2) (argv args 3)
  | .roleuseruc => do
      exitIfNotExists (db.chkRoleExistence (argv args 2))
      exitIfNotExists (db.chkUserExistence (argv args 3))
      db.aclRoleDisconnectUser (argv args 2) (argv args 3)
  | .nglist | .listuser | .listacl => pure ()

/-- `main` -/
def admMainOn : Adm Unit :=
  match admAccepts args with
  | none => errExit
  | some mode => admDispatchOn db ext hashSalt typed args mode

end Main

/-- `main` with the functions of SQLite is the tool on SQLite. -/
theorem admMainOn_sqlite3 (ext : Extern) (hashSalt typed : Str) (args : List Str)
    : admMainOn sqlite3Backend ext hashSalt typed args = admMain ext hashSalt typed args := by
  unfold admMainOn admMain
  cases admAccepts args with
  | none => rfl
  | some mode => cases mode <;> rfl

/-- One call of the tool on a backend: whether it accepts the command, and the store behind
it. -/
def admCallOn (server : MysqlServer) (dbase : Dbase) (ext : Extern) (hashSalt : Str) (s : Store)
    (call : AdmCall)
    : Bool × Store :=
  let (out, s') :=
    (admMainOn (admBackend server dbase) ext hashSalt call.typed call.args).run
      (execOn dbase ext) s
  (out.isOk, s')

/-- Calls of the tool one after another: which of them are accepted, and the store in the
end. -/
def admCallsOn (server : MysqlServer) (dbase : Dbase) (ext : Extern) (hashSalt : Str)
    : Store → List AdmCall → List Bool × Store
  | s, [] => ([], s)
  | s, call :: calls =>
      let (accepted, s') := admCallOn server dbase ext hashSalt s call
      let (flags, final) := admCallsOn server dbase ext hashSalt s' calls
      (accepted :: flags, final)

-----------------------------------------------------------------------------------------
-- The access check of the server
-----------------------------------------------------------------------------------------

/-- A statement of the server on MySQL; its refusal ends the connection. -/
def mysqlSrv (server : MysqlServer) (names : List Str) (op : Stmt) : Srv op.Result := fun s =>
  mysqlRealQuery server (.killThread s.sent) names op >>= fun r => pure (r, s)

/-- A statement of the server on PostgreSQL; its refusal ends the connection. -/
def postgresSrv (sqlCmd : String) (params : List Str) (op : Stmt) : Srv op.Result := fun s =>
  pqExecParams (.killThread s.sent) sqlCmd params op >>= fun r => pure (r, s)

/-- `db_mysql_acl_check_user_group` -/
def dbMysqlAclCheckUserGroup (server : MysqlServer) (user newsgroup : Str) : Srv Bool := do
  let direct : List AclUser ←
    mysqlSrv server [user, newsgroup] (.selectAclUsers user newsgroup)
  if direct.isEmpty then do
    let viaRole : List (User2Role × AclRole) ←
      mysqlSrv server [user, newsgroup] (.selectAclRoles user newsgroup)
    pure (!viaRole.isEmpty)
  else pure true

/-- `db_postgres_acl_check_user_group` -/
def dbPostgresAclCheckUserGroup (user newsgroup : Str) : Srv Bool := do
  let direct : List AclUser ←
    postgresSrv "SELECT * FROM acl_users WHERE username=$1 AND ng=$2;" [user, newsgroup]
      (.selectAclUsers user newsgroup)
  if direct.isEmpty then do
    let viaRole : List (User2Role × AclRole) ←
      postgresSrv
        ("SELECT * FROM users2roles ur,acl_roles aclr WHERE "
          ++ "ur.username=$1 AND ur.role=aclr.role AND aclr.ng=$2;")
        [user, newsgroup] (.selectAclRoles user newsgroup)
    pure (!viaRole.isEmpty)
  else pure true

/-- `db_acl_check_user_group` -/
def dbAclCheckUserGroupOn (server : MysqlServer) (dbase : Dbase) (user newsgroup : Str)
    : Srv Bool :=
  match dbase with
  | .sqlite3 => dbAclCheckUserGroup user newsgroup
  | .mysql => dbMysqlAclCheckUserGroup server user newsgroup
  | .postgres => dbPostgresAclCheckUserGroup user newsgroup

end WendzelNNTPd
