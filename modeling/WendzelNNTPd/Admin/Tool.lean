import WendzelNNTPd.Database.Store

/-! `wendzelnntpadm` on SQLite (`cdpnntpadm.c` and the administration part of
`db_sqlite3.c`). What the tool prints is left out; the list commands only print. -/

namespace WendzelNNTPd

open CString Atomic

/-- The modes of the tool, one for each command word. -/
inductive AdmMode
  | ngcreate
  | ngdelete
  | ngmodify
  | nglist
  | adduser
  | deluser
  | listuser
  | listacl
  | delacluser
  | addacluser
  | addaclrole
  | delaclrole
  | rolegroupc
  | rolegroupuc
  | roleuserc
  | roleuseruc
  deriving DecidableEq, Repr

/-- The command words, in the order in which `main` compares them. -/
def admModes : List (Str × AdmMode) :=
  [("addgroup".toList, .ngcreate), ("delgroup".toList, .ngdelete),
    ("modgroup".toList, .ngmodify), ("listgroups".toList, .nglist),
    ("adduser".toList, .adduser), ("deluser".toList, .deluser),
    ("listusers".toList, .listuser), ("listacl".toList, .listacl),
    ("delacluser".toList, .delacluser), ("addacluser".toList, .addacluser),
    ("addaclrole".toList, .addaclrole), ("delaclrole".toList, .delaclrole),
    ("rolegroupconnect".toList, .rolegroupc), ("rolegroupdisconnect".toList, .rolegroupuc),
    ("roleuserconnect".toList, .roleuserc), ("roleuserdisconnect".toList, .roleuseruc)]

def admMode (command : Str) : Option AdmMode :=
  (admModes.find? (fun entry => entry.1 == command)).map Prod.snd

/-- The modes that need no parameter. -/
def AdmMode.isList : AdmMode → Bool
  | .nglist | .listuser | .listacl => true
  | _ => false

/-- The modes that need two parameters. -/
def AdmMode.needsTwo : AdmMode → Bool
  | .ngcreate | .ngmodify | .addacluser | .delacluser | .rolegroupc | .rolegroupuc
  | .roleuserc | .roleuseruc => true
  | _ => false

/-- The tool ends with `exit(ERR_EXIT)` wherever it stops early. -/
inductive AdmExit
  | errExit
  deriving DecidableEq, Repr

abbrev Adm (α : Type) := Prog Sql AdmExit α

def errExit {α : Type} : Adm α := .stop .errExit

-----------------------------------------------------------------------------------------
-- Existence checks
-----------------------------------------------------------------------------------------

/-- `set_existence_of_newsgroup` -/
def setExistenceOfNewsgroup (group : Str) : Adm Bool :=
  .act (.selectNewsgroup group) (fun (rows : List Newsgroup) => .done (!rows.isEmpty))

/-- `set_existence_of_user` -/
def setExistenceOfUser (user : Str) : Adm Bool :=
  .act (.selectUser user) (fun (rows : List User) => .done (!rows.isEmpty))

/-- `set_existence_of_role` -/
def setExistenceOfRole (role : Str) : Adm Bool :=
  .act (.selectRole role) (fun (rows : List Str) => .done (!rows.isEmpty))

/-- `exit_if_.._exists` -/
def exitIfExists (check : Adm Bool) : Adm Unit := do
  let found ← check
  if found then errExit else pure ()

/-- `exit_if_.._not_exists` -/
def exitIfNotExists (check : Adm Bool) : Adm Unit := do
  let found ← check
  if found then pure () else errExit

-----------------------------------------------------------------------------------------
-- Statements
-----------------------------------------------------------------------------------------

/-- An insert; a violated primary key ends the tool in `sqlite3_secexec`. -/
def admInsert (op : Stmt) (ok : op.Result → Bool) : Adm Unit :=
  .act op (fun r => if ok r then .done () else errExit)

/-- A statement that cannot fail. -/
def admDo (op : Stmt) : Adm Unit := .act op (fun _ => .done ())

/-- `db_create_newsgroup` -/
def dbCreateNewsgroup (newsgroup : Str) (postFlg : Char) : Adm Unit :=
  if postFlg ≠ 'y' ∧ postFlg ≠ 'n' then errExit
  else admInsert (.insertNewsgroup ⟨newsgroup, postFlg, 0⟩) (fun ok : Bool => ok)

/-- `db_sqlite3_delete_newsgroup` -/
def dbDeleteNewsgroup (newsgroup : Str) : Adm Unit := do
  admDo (.deleteNgposts newsgroup)
  admDo (.deleteAclUsers none (some newsgroup))
  admDo (.deleteAclRoles none (some newsgroup))
  admDo (.deleteNewsgroup newsgroup)
  admDo .deleteOrphanPostings

/-- `db_modify_newsgroup`; the flag goes into the statement with `%c`, and an empty one or a
quote leaves a string literal open, which ends the tool in `sqlite3_secexec`. -/
def dbModifyNewsgroup (newsgroup : Str) (postFlg : Char) : Adm Unit :=
  if postFlg = NUL ∨ postFlg = '\'' then errExit
  else admDo (.updatePflag newsgroup postFlg)

/-- `db_sqlite3_add_user` -/
def dbAddUser (username password : Str) : Adm Unit :=
  admInsert (.insertUser ⟨username, password⟩) (fun ok : Bool => ok)

/-- `db_sqlite3_del_user` -/
def dbDelUser (username : Str) : Adm Unit := do
  admDo (.deleteAclUsers (some username) none)
  admDo (.deleteUsers2Roles (some username) none)
  admDo (.deleteUser username)

/-- `db_sqlite3_acl_del_role` -/
def dbAclDelRole (role : Str) : Adm Unit := do
  admDo (.deleteUsers2Roles none (some role))
  admDo (.deleteAclRoles (some role) none)
  admDo (.deleteRole role)

-----------------------------------------------------------------------------------------
-- main
-----------------------------------------------------------------------------------------

/-- `BUFSIZE` -/
def bufsize : Nat := 4096

/-- The `i`-th element of `argv`, counted as in C; `args` starts with `argv[1]`. -/
def argv (args : List Str) (i : Nat) : Str := (args[i - 1]?).getD []

/-- The password hash of `get_sha256_hash_from_str`. -/
def admPassHash (ext : Extern) (hashSalt username pass : Str) : Str :=
  ext.sha256hex (hashSalt ++ username ++ pass)

/-- The command `adduser`; `typed` is the password read by `getpass` if none is given. -/
def admAdduser (ext : Extern) (hashSalt typed : Str) (args : List Str) : Adm Unit :=
  let username := argv args 2
  let pass := if args.length ≥ 3 then argv args 3 else typed
  if !username.all isalnum then errExit
  else if username.length > 100 then errExit
  else if pass.length < 8 then errExit
  else if pass.length > 100 then errExit
  else do
    exitIfExists (setExistenceOfUser username)
    dbAddUser username (admPassHash ext hashSalt username pass)

/-- The mode switch of `main`. -/
def admDispatch (ext : Extern) (hashSalt typed : Str) (args : List Str) : AdmMode → Adm Unit
  | .ngcreate =>
      if !(argv args 2).all (fun c => isalnum c || c == '.' || c == '-') then errExit
      else do
        exitIfExists (setExistenceOfNewsgroup (argv args 2))
        dbCreateNewsgroup (argv args 2) (byteAt (argv args 3) 0)
  | .ngdelete => do
      exitIfNotExists (setExistenceOfNewsgroup (argv args 2))
      dbDeleteNewsgroup (argv args 2)
  | .ngmodify => do
      exitIfNotExists (setExistenceOfNewsgroup (argv args 2))
      dbModifyNewsgroup (argv args 2) (byteAt (argv args 3) 0)
  | .adduser => admAdduser ext hashSalt typed args
  | .deluser => do
      exitIfNotExists (setExistenceOfUser (argv args 2))
      dbDelUser (argv args 2)
  | .addacluser => do
      exitIfNotExists (setExistenceOfUser (argv args 2))
      exitIfNotExists (setExistenceOfNewsgroup (argv args 3))
      admInsert (.insertAclUser ⟨argv args 2, argv args 3⟩) (fun ok : Bool => ok)
  | .delacluser => do
      exitIfNotExists (setExistenceOfUser (argv args 2))
      exitIfNotExists (setExistenceOfNewsgroup (argv args 3))
      admDo (.deleteAclUsers (some (argv args 2)) (some (argv args 3)))
  | .addaclrole => do
      exitIfExists (setExistenceOfRole (argv args 2))
      admInsert (.insertRole (argv args 2)) (fun ok : Bool => ok)
  | .delaclrole => do
      exitIfNotExists (setExistenceOfRole (argv args 2))
      dbAclDelRole (argv args 2)
  | .rolegroupc => do
      exitIfNotExists (setExistenceOfRole (argv args 2))
      exitIfNotExists (setExistenceOfNewsgroup (argv args 3))
      admInsert (.insertAclRole ⟨argv args 2, argv args 3⟩) (fun ok : Bool => ok)
  | .rolegroupuc => do
      exitIfNotExists (setExistenceOfRole (argv args 2))
      exitIfNotExists (setExistenceOfNewsgroup (argv args 3))
      admDo (.deleteAclRoles (some (argv args 2)) (some (argv args 3)))
  | .roleuserc => do
      exitIfNotExists (setExistenceOfRole (argv args 2))
      exitIfNotExists (setExistenceOfUser (argv args 3))
      admInsert (.insertUser2Role ⟨argv args 3, argv args 2⟩) (fun ok : Bool => ok)
  | .roleuseruc => do
      exitIfNotExists (setExistenceOfRole (argv args 2))
      exitIfNotExists (setExistenceOfUser (argv args 3))
      admDo (.deleteUsers2Roles (some (argv args 3)) (some (argv args 2)))
  | .nglist | .listuser | .listacl => pure ()

/-- The checks of `main` before the mode switch: the number of parameters and their total
length. -/
def admAccepts (args : List Str) : Option AdmMode :=
  match args with
  | [] => none
  | command :: params => do
      let mode ← admMode command
      if params.isEmpty && !mode.isList then none
      else if mode.isList then some mode
      else if mode.needsTwo && params.length < 2 then none
      else if ((params.take 3).map List.length).sum > bufsize - 0xff then none
      else some mode

/-- `main`, with `args` the arguments from `argv[1]` on. -/
def admMain (ext : Extern) (hashSalt typed : Str) (args : List Str) : Adm Unit :=
  match admAccepts args with
  | none => errExit
  | some mode => admDispatch ext hashSalt typed args mode

/-- A call of the tool: its arguments and the password typed at its prompt. -/
structure AdmCall where
  args : List Str
  typed : Str
  deriving DecidableEq, Repr

/-- The store after one call of the tool. -/
def admCall (ext : Extern) (hashSalt : Str) (s : Store) (call : AdmCall) : Store :=
  ((admMain ext hashSalt call.typed call.args).run (exec ext) s).2

/-- The store after calls of the tool, one after another. -/
def admCalls (ext : Extern) (hashSalt : Str) (s : Store) (calls : List AdmCall) : Store :=
  calls.foldl (admCall ext hashSalt) s

end WendzelNNTPd
