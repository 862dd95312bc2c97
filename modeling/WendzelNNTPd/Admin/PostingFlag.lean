import WendzelNNTPd.Admin.DeleteGroup

/-! The posting flags of the newsgroups along a sequence of commands of `wendzelnntpadm`.
`db_create_newsgroup` refuses every letter but `y` and `n`; `db_modify_newsgroup` does not
look at the letter. SQLite and MySQL then store what the statement can carry, and PostgreSQL
stores `n` for everything that is not `y`.
-/

namespace WendzelNNTPd

open CString Atomic

/-- The letters of a posting flag. -/
def PostingFlag (flag : Char) : Prop := flag = 'y' ∨ flag = 'n'

instance (flag : Char) : Decidable (PostingFlag flag) :=
  inferInstanceAs (Decidable (_ ∨ _))

/-- The name and the flag letter of `addgroup` and `modgroup`. -/
def flagArgument (args : List Str) : Option (Str × Char) :=
  match admMode (argv args 1) with
  | some .ngcreate | some .ngmodify => some (argv args 2, byteAt (argv args 3) 0)
  | _ => none

/-- The flags that were given last, with one more call and whether it was accepted. -/
def noteFlag (flags : Str → Option Char) : AdmCall × Bool → Str → Option Char
  | (call, true) =>
      match flagArgument call.args with
      | some (name, flag) => Function.update flags name (some flag)
      | none => flags
  | (_, false) => flags

/-- For each name the flag of the last accepted `addgroup` or `modgroup`. -/
def lastFlags (history : List (AdmCall × Bool)) : Str → Option Char :=
  history.foldl noteFlag (fun _ => none)

/-- Every newsgroup has the flag that was given last for its name, and that is `y` or `n`. -/
def Store.FlagsAre (s : Store) (flags : Str → Option Char) : Prop :=
  ∀ g ∈ s.newsgroups, PostingFlag g.pflag ∧ flags g.name = some g.pflag

section Run

variable (server : MysqlServer) (dbase : Dbase) (ext : Extern) (hashSalt : Str) (s : Store)

/-- Behind every part of a sequence of commands the newsgroups have the flags given last, and
the next command is refused and leaves the newsgroups alone if it gives another letter. -/
structure PflagsRight (calls : List AdmCall) : Prop where
  flags : ∀ before, before <+: calls →
    let out := admCallsOn server dbase ext hashSalt s before
    out.2.FlagsAre (lastFlags (before.zip out.1))
  refused : ∀ before call, before ++ [call] <+: calls → ∀ name flag,
    flagArgument call.args = some (name, flag) → ¬PostingFlag flag →
    let reached := (admCallsOn server dbase ext hashSalt s before).2
    let out := admCallOn server dbase ext hashSalt reached call
    out.1 = false ∧ out.2.newsgroups = reached.newsgroups

end Run

-----------------------------------------------------------------------------------------
-- The commands that keep the flags
-----------------------------------------------------------------------------------------

/-- The letters that leave the string literal of the statement open; PostgreSQL gets none of
them. -/
def Dbase.refusesFlag : Dbase → Char → Prop
  | .sqlite3, flag => flag = NUL ∨ flag = '\''
  | .mysql, flag => flag = NUL ∨ flag = '\'' ∨ flag = '\\'
  | .postgres, _ => False

instance (dbase : Dbase) (flag : Char) : Decidable (dbase.refusesFlag flag) := by
  cases dbase <;> unfold Dbase.refusesFlag <;> infer_instance

/-- The names that a command puts into statements stand there for themselves. -/
def AdmMode.Readable (s : Store) (first second : Str) : AdmMode → Prop
  | .ngdelete | .ngmodify | .deluser | .addaclrole | .delaclrole => SqlLiteral.plain first
  | .addacluser | .delacluser =>
      SqlLiteral.plain first ∧ (s.HasUser first → SqlLiteral.plain second)
  | .rolegroupc | .rolegroupuc | .roleuserc | .roleuseruc =>
      SqlLiteral.plain first ∧ (first ∈ s.roles → SqlLiteral.plain second)
  | .ngcreate | .adduser | .nglist | .listuser | .listacl => True

/-- `modgroup` of an existing newsgroup gives `y` or `n`, or a letter that its statement
cannot carry. -/
def AdmMode.GivesFlag (dbase : Dbase) (s : Store) (name : Str) (flag : Char) : AdmMode → Prop
  | .ngmodify => s.HasGroup name → PostingFlag flag ∨ dbase.refusesFlag flag
  | _ => True

/-- An accepted command gives a posting flag, and MySQL reads it as it was meant. -/
def AdmCall.KeepsFlags (dbase : Dbase) (s : Store) (call : AdmCall) : Prop :=
  ∀ mode ∈ admAccepts call.args,
    (dbase = .mysql → mode.Readable s (argv call.args 2) (argv call.args 3))
    ∧ mode.GivesFlag dbase s (argv call.args 2) (byteAt (argv call.args 3) 0)

/-- Each call of a sequence keeps the flags in the store that it finds. -/
def AllKeepFlags (server : MysqlServer) (dbase : Dbase) (ext : Extern) (hashSalt : Str)
    : Store → List AdmCall → Prop
  | _, [] => True
  | s, call :: calls =>
      call.KeepsFlags dbase s
      ∧ AllKeepFlags server dbase ext hashSalt (admCallOn server dbase ext hashSalt s call).2 calls

instance (s : Store) (first second : Str) (mode : AdmMode)
    : Decidable (mode.Readable s first second) := by
  cases mode <;> unfold AdmMode.Readable <;> infer_instance

instance (dbase : Dbase) (s : Store) (name : Str) (flag : Char) (mode : AdmMode)
    : Decidable (mode.GivesFlag dbase s name flag) := by
  cases mode <;> unfold AdmMode.GivesFlag <;> infer_instance

instance (dbase : Dbase) (s : Store) (call : AdmCall) : Decidable (call.KeepsFlags dbase s) :=
  inferInstanceAs (Decidable (∀ mode ∈ admAccepts call.args, _))

instance decidableAllKeepFlags (server : MysqlServer) (dbase : Dbase) (ext : Extern)
    (hashSalt : Str)
    : ∀ (s : Store) (calls : List AdmCall),
        Decidable (AllKeepFlags server dbase ext hashSalt s calls)
  | _, [] => isTrue trivial
  | s, call :: calls =>
      have := decidableAllKeepFlags server dbase ext hashSalt
        (admCallOn server dbase ext hashSalt s call).2 calls
      inferInstanceAs (Decidable (call.KeepsFlags dbase s ∧ _))

-----------------------------------------------------------------------------------------
-- What one call can do to the newsgroups
-----------------------------------------------------------------------------------------

/-- The newsgroups behind a call, and whether it is accepted. -/
inductive GroupsEffect (s : Store) (args : List Str) : Bool → List Newsgroup → Prop
  | kept (accepted : Bool) (other : accepted = true → flagArgument args = none)
    : GroupsEffect s args accepted s.newsgroups
  | removed (accepted : Bool) (name : Str) (other : flagArgument args = none)
    : GroupsEffect s args accepted (s.newsgroups.filter (·.name != name))
  | added (name : Str) (flag : Char) (given : flagArgument args = some (name, flag))
    (letter : PostingFlag flag) (fresh : ¬s.HasGroup name)
    : GroupsEffect s args true (s.newsgroups ++ [⟨name, flag, 0⟩])
  | modified (name : Str) (flag : Char) (given : flagArgument args = some (name, flag))
    (letter : PostingFlag flag)
    : GroupsEffect s args true (s.withPflag name flag).newsgroups

/-- A refused call has left the newsgroups alone. -/
theorem GroupsEffect.of_refused {s : Store} {args : List Str}
    : GroupsEffect s args false s.newsgroups :=
  .kept false nofun

/-- A call whose letter is no posting flag can only have been refused. -/
theorem GroupsEffect.refused {s : Store} {args : List Str} {accepted : Bool}
    {rows : List Newsgroup} (effect : GroupsEffect s args accepted rows) {name : Str} {flag : Char}
    (given : flagArgument args = some (name, flag)) (other : ¬PostingFlag flag)
    : accepted = false ∧ rows = s.newsgroups := by
  cases effect with
  | kept _ silent =>
      refine ⟨?_, rfl⟩
      by_contra taken
      cases given.symm.trans (silent (by simpa using taken))
  | removed _ _ silent => cases given.symm.trans silent
  | added name' flag' given' letter _ =>
      cases given.symm.trans given'
      exact absurd letter other
  | modified name' flag' given' letter =>
      cases given.symm.trans given'
      exact absurd letter other

/-- One call keeps the newsgroups at the flags given last. -/
theorem GroupsEffect.flagsAre {s s' : Store} {call : AdmCall} {accepted : Bool}
    (effect : GroupsEffect s call.args accepted s'.newsgroups) {flags : Str → Option Char}
    (before : s.FlagsAre flags)
    : s'.FlagsAre (noteFlag flags (call, accepted)) := by
  -- the flags stay as they were unless an accepted call gave one
  have unnoted (other : accepted = true → flagArgument call.args = none)
      : noteFlag flags (call, accepted) = flags := by
    cases accepted with
    | false => rfl
    | true => simp only [noteFlag, other rfl]
  unfold Store.FlagsAre
  generalize found : s'.newsgroups = rows at effect
  cases effect with
  | kept _ other =>
      rw [unnoted other]
      exact before
  | removed _ name other =>
      rw [unnoted (fun _ => other)]
      intro g member
      exact before g (List.mem_filter.mp member).1
  | added name flag given letter fresh =>
      intro g member
      simp only [noteFlag, given]
      rcases List.mem_append.mp member with there | new
      · have differs : g.name ≠ name := fun same => fresh ⟨g, there, same⟩
        rw [Function.update_of_ne differs]
        exact before g there
      · cases List.mem_singleton.mp new
        exact ⟨letter, Function.update_self _ _ _⟩
  | modified name flag given letter =>
      intro g member
      simp only [noteFlag, given]
      obtain ⟨g', there, rfl⟩ := List.mem_map.mp member
      by_cases same : g'.name = name
      · simp only [same, beq_self_eq_true, if_true]
        exact ⟨letter, Function.update_self _ _ _⟩
      · have differs : (g'.name == name) = false := by simpa using same
        simp only [differs, Bool.false_eq_true, if_false]
        rw [Function.update_of_ne same]
        exact before g' there

-----------------------------------------------------------------------------------------
-- The functions of the backends
-----------------------------------------------------------------------------------------

/-- The statements that do not write to the table of newsgroups. -/
def Stmt.leavesGroups : Stmt → Prop
  | .insertNewsgroup _ | .updatePflag _ _ | .updateHigh _ _ | .deleteNewsgroup _ => False
  | _ => True

theorem exec_leavesGroups (ext : Extern) {op : Stmt} (s : Store) (leaves : op.leavesGroups)
    : (exec ext op s).2.newsgroups = s.newsgroups := by
  cases op <;> first | rfl | exact leaves.elim | (simp only [exec]; split <;> rfl)

theorem constrained_newsgroups {met : Bool} {s : Store} {inserted : Bool × Store}
    (same : inserted.2.newsgroups = s.newsgroups)
    : (constrained met s inserted).2.newsgroups = s.newsgroups := by
  unfold constrained
  split
  · exact same
  · rfl

/-- The cascades of the foreign keys do not lead to the table of newsgroups either. -/
theorem execOn_leavesGroups (dbase : Dbase) (ext : Extern) {op : Stmt} (s : Store)
    (leaves : op.leavesGroups)
    : (execOn dbase ext op s).2.newsgroups = s.newsgroups := by
  have schema (dbase : Dbase) : (schemaExec dbase ext op s).2.newsgroups = s.newsgroups := by
    cases op <;> first
      | exact exec_leavesGroups ext s leaves
      | exact constrained_newsgroups (exec_leavesGroups ext s leaves)
  cases dbase with
  | sqlite3 => exact exec_leavesGroups ext s leaves
  | mysql => exact schema .mysql
  | postgres => exact schema .postgres

/-- A program that does not touch the newsgroups. -/
abbrev LeavesGroups (prog : Adm Unit) : Prop := prog.Uses Stmt.leavesGroups

theorem LeavesGroups.run {dbase : Dbase} {ext : Extern} {prog : Adm Unit}
    (leaves : LeavesGroups prog) (s : Store)
    : (prog.run (execOn dbase ext) s).2.newsgroups = s.newsgroups := by
  have keeps (op : Stmt) (t : Store) (allowed : op.leavesGroups)
      (same : t.newsgroups = s.newsgroups)
      : (execOn dbase ext op t).2.newsgroups = s.newsgroups :=
    (execOn_leavesGroups dbase ext t allowed).trans same
  exact @Prog.Uses.run_invariant Sql AdmExit Unit Store _ _
    (fun t => t.newsgroups = s.newsgroups) keeps _ leaves _ rfl

/-- What the functions of a backend do to the newsgroups, for names that are `ok`. -/
structure AdmBackend.Flags (db : AdmBackend) (dbase : Dbase) (ext : Extern) (ok : Str → Prop)
    : Prop where
  create : ∀ name flag s, ok name → PostingFlag flag →
    let out := (db.createNewsgroup name flag).run (execOn dbase ext) s
    (out.1.isOk = true ∧ out.2.newsgroups = s.newsgroups ++ [⟨name, flag, 0⟩])
    ∨ (out.1.isOk = false ∧ out.2.newsgroups = s.newsgroups)
  delete : ∀ name s, ok name →
    ((db.deleteNewsgroup name).run (execOn dbase ext) s).2.newsgroups
      = s.newsgroups.filter (·.name != name)
  modify : ∀ name flag s, ok name → PostingFlag flag →
    (db.modifyNewsgroup name flag).run (execOn dbase ext) s = (.ok (), s.withPflag name flag)
  refuse : ∀ name flag, dbase.refusesFlag flag → db.modifyNewsgroup name flag = errExit
  addUser : ∀ name password, ok name → ok password → LeavesGroups (db.addUser name password)
  delUser : ∀ name, ok name → LeavesGroups (db.delUser name)
  aclAddUser : ∀ user group, ok user → ok group → LeavesGroups (db.aclAddUser user group)
  aclDelUser : ∀ user group, ok user → ok group → LeavesGroups (db.aclDelUser user group)
  aclAddRole : ∀ role, ok role → LeavesGroups (db.aclAddRole role)
  aclDelRole : ∀ role, ok role → LeavesGroups (db.aclDelRole role)
  connectGroup : ∀ role group, ok role → ok group →
    LeavesGroups (db.aclRoleConnectGroup role group)
  disconnectGroup : ∀ role group, ok role → ok group →
    LeavesGroups (db.aclRoleDisconnectGroup role group)
  connectUser : ∀ role user, ok role → ok user → LeavesGroups (db.aclRoleConnectUser role user)
  disconnectUser : ∀ role user, ok role → ok user →
    LeavesGroups (db.aclRoleDisconnectUser role user)

section Functions

variable {ext : Extern} {name : Str} {flag : Char}

theorem admInsert_leavesGroups {op : Stmt} {ok : op.Result → Bool} (leaves : op.leavesGroups)
    : LeavesGroups (admInsert op ok) := by
  refine ⟨leaves, fun r => ?_⟩
  show Prog.Uses _ (if ok r then Prog.done () else errExit)
  split <;> trivial

theorem admDo_leavesGroups {op : Stmt} (leaves : op.leavesGroups) : LeavesGroups (admDo op) :=
  ⟨leaves, fun _ => trivial⟩

/-- The deletions of a user and of a role are three statements. -/
theorem admDo_three_leavesGroups {op op' op'' : Stmt} (first : op.leavesGroups)
    (second : op'.leavesGroups) (third : op''.leavesGroups)
    : LeavesGroups (do admDo op; admDo op'; admDo op'') :=
  (admDo_leavesGroups first).bind fun _ =>
    (admDo_leavesGroups second).bind fun _ => admDo_leavesGroups third

theorem postgresInsert_leavesGroups {sqlCmd : String} {params : List Str} {op : Stmt}
    {ok : op.Result → Bool} (leaves : op.leavesGroups)
    : LeavesGroups (postgresInsert sqlCmd params op ok) := by
  unfold postgresInsert pqExecParams
  split
  · exact admInsert_leavesGroups leaves
  · trivial

/-- A statement that PostgreSQL refuses does not touch the newsgroups either. -/
theorem postgresDo_leavesGroups {sqlCmd : String} {params : List Str} {op : Stmt}
    (leaves : op.leavesGroups)
    : LeavesGroups (postgresDo sqlCmd params op) := by
  unfold postgresDo pqExecParams
  split
  · exact admDo_leavesGroups leaves
  · trivial

/-- An insert appends its row or is refused by a constraint of its table. -/
theorem run_insertNewsgroup {dbase : Dbase} (s : Store)
    : let out := (admInsert (.insertNewsgroup ⟨name, flag, 0⟩) (fun ok : Bool => ok)).run
        (execOn dbase ext) s
      (out.1.isOk = true ∧ out.2.newsgroups = s.newsgroups ++ [⟨name, flag, 0⟩])
      ∨ (out.1.isOk = false ∧ out.2.newsgroups = s.newsgroups) := by
  cases dbase with
  | sqlite3 => exact Or.inl ⟨rfl, rfl⟩
  | mysql =>
      simp only [admInsert, Prog.run_act, execOn, schemaExec, constrained]
      split
      · exact Or.inl ⟨rfl, rfl⟩
      · exact Or.inr ⟨rfl, rfl⟩
  | postgres =>
      simp only [admInsert, Prog.run_act, execOn, schemaExec, constrained]
      split
      · exact Or.inl ⟨rfl, rfl⟩
      · exact Or.inr ⟨rfl, rfl⟩

/-- A posting flag is no letter that a statement cannot carry. -/
theorem PostingFlag.carried (letter : PostingFlag flag)
    : flag ≠ NUL ∧ flag ≠ '\'' ∧ flag ≠ '\\' := by
  rcases letter with rfl | rfl <;> decide

/-- What PostgreSQL makes of a posting flag. -/
theorem PostingFlag.normal (letter : PostingFlag flag)
    : (if flag = 'y' then 'y' else 'n') = flag := by
  rcases letter with rfl | rfl <;> rfl

end Functions

theorem sqlite3Backend_flags (ext : Extern)
    : sqlite3Backend.Flags .sqlite3 ext (fun _ => True) where
  create name flag s _ _ := run_insertNewsgroup s
  delete name s _ := rfl
  modify name flag s _ letter := by
    have ⟨notNul, notQuote, _⟩ := letter.carried
    simp only [sqlite3Backend, dbModifyNewsgroup, notNul, notQuote, or_self, if_false]
    rfl
  refuse name flag refused := if_pos refused
  addUser _ _ _ _ := admInsert_leavesGroups trivial
  delUser _ _ := admDo_three_leavesGroups trivial trivial trivial
  aclAddUser _ _ _ _ := admInsert_leavesGroups trivial
  aclDelUser _ _ _ _ := admDo_leavesGroups trivial
  aclAddRole _ _ := admInsert_leavesGroups trivial
  aclDelRole _ _ := admDo_three_leavesGroups trivial trivial trivial
  connectGroup _ _ _ _ := admInsert_leavesGroups trivial
  disconnectGroup _ _ _ _ := admDo_leavesGroups trivial
  connectUser _ _ _ _ := admInsert_leavesGroups trivial
  disconnectUser _ _ _ _ := admDo_leavesGroups trivial

/-- Names that stand for themselves leave of a function of MySQL the statements it is meant
to send. -/
theorem mysqlBackend_flags (server : MysqlServer) (ext : Extern)
    : (mysqlBackend server).Flags .mysql ext (fun name => SqlLiteral.plain name = true) where
  create name flag s plain _ := by
    simp only [mysqlBackend, mysqlInsert_of_plain (plain_one plain)]
    exact run_insertNewsgroup s
  delete name s plain := by
    rw [run_mysql_deleteNewsgroup server plain]
    rfl
  modify name flag s plain letter := by
    obtain ⟨notNul, notQuote, notBackslash⟩ := letter.carried
    simp only [mysqlBackend, notNul, notQuote, notBackslash, or_self, if_false,
      mysqlDo_of_plain (plain_one plain)]
    rfl
  refuse name flag refused := if_pos refused
  addUser name password plain plainPassword := by
    simp only [mysqlBackend, mysqlInsert_of_plain (plain_two plain plainPassword)]
    exact admInsert_leavesGroups trivial
  delUser name plain := by
    simp only [mysqlBackend, mysqlDo_of_plain (plain_one plain)]
    exact admDo_three_leavesGroups trivial trivial trivial
  aclAddUser user group plainUser plainGroup := by
    simp only [mysqlBackend, mysqlInsert_of_plain (plain_two plainUser plainGroup)]
    exact admInsert_leavesGroups trivial
  aclDelUser user group plainUser plainGroup := by
    simp only [mysqlBackend, mysqlDo_of_plain (plain_two plainUser plainGroup)]
    exact admDo_leavesGroups trivial
  aclAddRole role plain := by
    simp only [mysqlBackend, mysqlInsert_of_plain (plain_one plain)]
    exact admInsert_leavesGroups trivial
  aclDelRole role plain := by
    simp only [mysqlBackend, mysqlDo_of_plain (plain_one plain)]
    exact admDo_three_leavesGroups trivial trivial trivial
  connectGroup role group plainRole plainGroup := by
    simp only [mysqlBackend, mysqlInsert_of_plain (plain_two plainRole plainGroup)]
    exact admInsert_leavesGroups trivial
  disconnectGroup role group plainRole plainGroup := by
    simp only [mysqlBackend, mysqlDo_of_plain (plain_two plainRole plainGroup)]
    exact admDo_leavesGroups trivial
  connectUser role user plainRole plainUser := by
    simp only [mysqlBackend, mysqlInsert_of_plain (plain_two plainUser plainRole)]
    exact admInsert_leavesGroups trivial
  disconnectUser role user plainRole plainUser := by
    simp only [mysqlBackend, mysqlDo_of_plain (plain_two plainRole plainUser)]
    exact admDo_leavesGroups trivial

theorem postgresBackend_flags (ext : Extern)
    : postgresBackend.Flags .postgres ext (fun _ => True) where
  create name flag s _ letter := by
    simp only [postgresBackend]
    rw [postgresInsert_of_required (by rfl)]
    rcases letter with rfl | rfl
    · exact run_insertNewsgroup s
    · exact run_insertNewsgroup s
  delete name s _ := by
    rw [run_postgres_deleteNewsgroup]
    rfl
  modify name flag s _ letter := by
    simp only [postgresBackend, letter.normal]
    rw [postgresDo_of_required (by rfl)]
    rfl
  refuse name flag refused := refused.elim
  addUser _ _ _ _ := by
    simp only [postgresBackend]
    refine postgresInsert_leavesGroups ?_
    trivial
  delUser _ _ := by
    simp only [postgresBackend]
    refine postgresDo_leavesGroups ?_
    trivial
  aclAddUser _ _ _ _ := by
    simp only [postgresBackend]
    refine postgresInsert_leavesGroups ?_
    trivial
  aclDelUser _ _ _ _ := by
    simp only [postgresBackend]
    refine postgresDo_leavesGroups ?_
    trivial
  aclAddRole _ _ := by
    simp only [postgresBackend]
    refine postgresInsert_leavesGroups ?_
    trivial
  aclDelRole _ _ := by
    simp only [postgresBackend]
    refine postgresDo_leavesGroups ?_
    trivial
  connectGroup _ _ _ _ := by
    simp only [postgresBackend]
    refine postgresInsert_leavesGroups ?_
    trivial
  disconnectGroup _ _ _ _ := by
    simp only [postgresBackend]
    refine postgresDo_leavesGroups ?_
    trivial
  connectUser _ _ _ _ := by
    simp only [postgresBackend]
    refine postgresInsert_leavesGroups ?_
    trivial
  disconnectUser _ _ _ _ := by
    simp only [postgresBackend]
    refine postgresDo_leavesGroups ?_
    trivial

-----------------------------------------------------------------------------------------
-- One call
-----------------------------------------------------------------------------------------

theorem sqlite3Backend_follows (ext : Extern)
    : sqlite3Backend.Follows (exec ext) ext (fun _ => True) where
  chkNewsgroup _ _ _ := rfl
  chkUser _ _ _ := rfl
  chkRole _ _ _ := rfl
  addUser _ _ _ _ _ _ _ := rfl
  delUser _ _ _ := rfl
  aclAddUser _ _ _ _ _ _ _ := rfl
  aclDelUser _ _ _ _ _ := rfl
  aclAddRole _ _ _ _ := rfl
  aclDelRole _ _ _ := rfl
  connectGroup _ _ _ _ _ _ _ := rfl
  connectUser _ _ _ _ _ _ _ := rfl
  disconnectUser _ _ _ _ _ := rfl

section Call

variable {engine : Exec Sql Store} {s : Store} {args : List Str}

/-- The effect of a program on the newsgroups. -/
abbrev Affects (engine : Exec Sql Store) (s : Store) (args : List Str) (prog : Adm Unit) : Prop :=
  GroupsEffect s args (prog.run engine s).1.isOk (prog.run engine s).2.newsgroups

theorem affects_errExit : Affects engine s args errExit := .of_refused

/-- Behind `exit_if_.._not_exists` the rest of a command decides, or the call is refused. -/
theorem affects_exitIfNotExists {check : Adm Bool} {rest : Adm Unit} {found : Bool}
    (looks : check.run engine s = (.ok found, s))
    (there : found = true → Affects engine s args rest)
    : Affects engine s args (exitIfNotExists check >>= fun _ => rest) := by
  simp only [Affects, exitIfNotExists, Prog.run_bind, looks]
  cases found with
  | false => exact .of_refused
  | true => exact there rfl

theorem affects_exitIfExists {check : Adm Bool} {rest : Adm Unit} {found : Bool}
    (looks : check.run engine s = (.ok found, s))
    (missing : found = false → Affects engine s args rest)
    : Affects engine s args (exitIfExists check >>= fun _ => rest) := by
  simp only [Affects, exitIfExists, Prog.run_bind, looks]
  cases found with
  | false => exact missing rfl
  | true => exact .of_refused

/-- A program that leaves the newsgroups alone, in a command without a flag. -/
theorem affects_leaving {dbase : Dbase} {ext : Extern} {prog : Adm Unit}
    (leaves : LeavesGroups prog) (other : flagArgument args = none)
    : Affects (execOn dbase ext) s args prog := by
  unfold Affects
  rw [leaves.run s]
  exact .kept _ (fun _ => other)

variable {db : AdmBackend} {dbase : Dbase} {ext : Extern} {ok : Str → Prop}
  (follows : db.Follows (execOn dbase ext) ext ok) (flags : db.Flags dbase ext ok)
include follows

theorem affects_checkUser {user : Str} (fine : ok user) {rest : Adm Unit}
    (behind : s.HasUser user → Affects (execOn dbase ext) s args rest)
    : Affects (execOn dbase ext) s args
        (exitIfNotExists (db.chkUserExistence user) >>= fun _ => rest) :=
  affects_exitIfNotExists (follows.chkUser user s fine)
    (fun found => behind ((hasUser_iff s).mp found))

theorem affects_checkRole {role : Str} (fine : ok role) {rest : Adm Unit}
    (behind : role ∈ s.roles → Affects (execOn dbase ext) s args rest)
    : Affects (execOn dbase ext) s args
        (exitIfNotExists (db.chkRoleExistence role) >>= fun _ => rest) :=
  affects_exitIfNotExists (follows.chkRole role s fine)
    (fun found => behind ((hasRole_iff s).mp found))

theorem affects_checkNewsgroup {group : Str} (fine : ok group) {rest : Adm Unit}
    (behind : s.HasGroup group → Affects (execOn dbase ext) s args rest)
    : Affects (execOn dbase ext) s args
        (exitIfNotExists (db.chkNewsgroupExistence group) >>= fun _ => rest) :=
  affects_exitIfNotExists (follows.chkNewsgroup group s fine)
    (fun found => behind ((hasGroup_iff s).mp found))

include flags

/-- `modgroup` stores a posting flag, if it is given one. -/
theorem affects_ngmodify (given : flagArgument args = some (argv args 2, byteAt (argv args 3) 0))
    (fine : ok (argv args 2)) (hashSalt typed : Str)
    (letter : s.HasGroup (argv args 2) →
      PostingFlag (byteAt (argv args 3) 0) ∨ dbase.refusesFlag (byteAt (argv args 3) 0))
    : Affects (execOn dbase ext) s args
        (admDispatchOn db ext hashSalt typed args .ngmodify) := by
  refine affects_checkNewsgroup follows fine (fun there => ?_)
  rcases letter there with letter | refused
  · unfold Affects
    rw [flags.modify _ _ s fine letter]
    exact .modified _ _ given letter
  · rw [flags.refuse _ _ refused]
    exact affects_errExit

variable (plainOk : ∀ name, SqlLiteral.plain name = true → ok name)
include plainOk

/-- `addgroup` admits names that stand for themselves, and `y` and `n`. -/
theorem affects_ngcreate (given : flagArgument args = some (argv args 2, byteAt (argv args 3) 0))
    (hashSalt typed : Str)
    : Affects (execOn dbase ext) s args
        (admDispatchOn db ext hashSalt typed args .ngcreate) := by
  simp only [admDispatchOn]
  split
  · exact affects_errExit
  · rename_i checked
    have valid : validGroupName (argv args 2) = true := by
      simpa only [validGroupName, Bool.not_eq_true', Bool.not_eq_false] using checked
    have fine : ok (argv args 2) := plainOk _ (plain_of_all _ (by decide) valid)
    refine affects_exitIfExists (follows.chkNewsgroup _ s fine) (fun missing => ?_)
    have fresh : ¬s.HasGroup (argv args 2) := fun there =>
      Bool.false_ne_true (missing.symm.trans ((hasGroup_iff s).mpr there))
    unfold dbCreateNewsgroupOn
    split
    · exact affects_errExit
    · rename_i letter
      have letter : PostingFlag (byteAt (argv args 3) 0) := by
        unfold PostingFlag
        tauto
      unfold Affects
      rcases flags.create _ _ s fine letter with ⟨taken, rows⟩ | ⟨refused, rows⟩
      · rw [taken, rows]
        exact .added _ _ given letter fresh
      · rw [refused, rows]
        exact .of_refused

/-- `adduser` admits names of letters and digits, and the hash has no quotes either. -/
theorem affects_adduser (digest : ext.HexDigest) (other : flagArgument args = none)
    (hashSalt typed : Str)
    : Affects (execOn dbase ext) s args (admAdduserOn db ext hashSalt typed args) := by
  unfold admAdduserOn
  simp only
  generalize (if args.length ≥ 3 then argv args 3 else typed) = pass
  split
  · exact affects_errExit
  rename_i alnum
  split
  · exact affects_errExit
  split
  · exact affects_errExit
  split
  · exact affects_errExit
  have fine : ok (argv args 2) := plainOk _ (plain_of_all isalnum (by decide) (by simpa using alnum))
  have hash := (digest (hashSalt ++ argv args 2 ++ pass)).2
  refine affects_exitIfExists (follows.chkUser _ s fine) (fun _ => ?_)
  exact affects_leaving (flags.addUser _ _ fine (plainOk _ (plain_of_all _ (by decide) hash))) other

/-- What each command does to the newsgroups. `readable` is asked of MySQL only.
Witness: by the mode; the checks do not touch the store, and behind them stands one function
of the backend.
-/
theorem affects_dispatch (digest : ext.HexDigest) {mode : AdmMode}
    (known : admMode (argv args 1) = some mode)
    (readable : mode.Readable s (argv args 2) (argv args 3) ∨ ∀ name, ok name)
    (gives : mode.GivesFlag dbase s (argv args 2) (byteAt (argv args 3) 0)) (hashSalt typed : Str)
    : Affects (execOn dbase ext) s args (admDispatchOn db ext hashSalt typed args mode) := by
  have argument
      : flagArgument args
        = if mode = .ngcreate ∨ mode = .ngmodify then some (argv args 2, byteAt (argv args 3) 0)
          else none := by
    simp only [flagArgument, known]
    cases mode <;> rfl
  have fineIf {name : Str} {first : Prop} (plain : first ∨ ∀ name, ok name)
      (reads : first → SqlLiteral.plain name = true)
      : ok name :=
    plain.elim (fun holds => plainOk name (reads holds)) (fun all => all name)
  cases mode with
  | ngcreate =>
      exact affects_ngcreate follows flags plainOk argument hashSalt typed
  | ngmodify =>
      exact affects_ngmodify follows flags argument (fineIf readable id) hashSalt typed gives
  | ngdelete =>
      have fine : ok (argv args 2) := fineIf readable id
      refine affects_checkNewsgroup follows fine (fun _ => ?_)
      unfold Affects
      rw [flags.delete _ s fine]
      exact .removed _ _ argument
  | nglist => exact .kept _ (fun _ => argument)
  | listuser => exact .kept _ (fun _ => argument)
  | listacl => exact .kept _ (fun _ => argument)
  | adduser =>
      exact affects_adduser follows flags plainOk digest argument hashSalt typed
  | deluser =>
      have fine : ok (argv args 2) := fineIf readable id
      exact affects_checkUser follows fine (fun _ => affects_leaving (flags.delUser _ fine) argument)
  | addaclrole =>
      have fine : ok (argv args 2) := fineIf readable id
      exact affects_exitIfExists (follows.chkRole _ s fine)
        (fun _ => affects_leaving (flags.aclAddRole _ fine) argument)
  | delaclrole =>
      have fine : ok (argv args 2) := fineIf readable id
      exact affects_checkRole follows fine
        (fun _ => affects_leaving (flags.aclDelRole _ fine) argument)
  | addacluser =>
      have fineUser : ok (argv args 2) := fineIf readable And.left
      refine affects_checkUser follows fineUser (fun hasUser => ?_)
      have fineGroup : ok (argv args 3) := fineIf readable (fun plain => plain.2 hasUser)
      exact affects_checkNewsgroup follows fineGroup
        (fun _ => affects_leaving (flags.aclAddUser _ _ fineUser fineGroup) argument)
  | delacluser =>
      have fineUser : ok (argv args 2) := fineIf readable And.left
      refine affects_checkUser follows fineUser (fun hasUser => ?_)
      have fineGroup : ok (argv args 3) := fineIf readable (fun plain => plain.2 hasUser)
      exact affects_checkNewsgroup follows fineGroup
        (fun _ => affects_leaving (flags.aclDelUser _ _ fineUser fineGroup) argument)
  | rolegroupc =>
      have fineRole : ok (argv args 2) := fineIf readable And.left
      refine affects_checkRole follows fineRole (fun hasRole => ?_)
      have fineGroup : ok (argv args 3) := fineIf readable (fun plain => plain.2 hasRole)
      exact affects_checkNewsgroup follows fineGroup
        (fun _ => affects_leaving (flags.connectGroup _ _ fineRole fineGroup) argument)
  | rolegroupuc =>
      have fineRole : ok (argv args 2) := fineIf readable And.left
      refine affects_checkRole follows fineRole (fun hasRole => ?_)
      have fineGroup : ok (argv args 3) := fineIf readable (fun plain => plain.2 hasRole)
      exact affects_checkNewsgroup follows fineGroup
        (fun _ => affects_leaving (flags.disconnectGroup _ _ fineRole fineGroup) argument)
  | roleuserc =>
      have fineRole : ok (argv args 2) := fineIf readable And.left
      refine affects_checkRole follows fineRole (fun hasRole => ?_)
      have fineUser : ok (argv args 3) := fineIf readable (fun plain => plain.2 hasRole)
      exact affects_checkUser follows fineUser
        (fun _ => affects_leaving (flags.connectUser _ _ fineRole fineUser) argument)
  | roleuseruc =>
      have fineRole : ok (argv args 2) := fineIf readable And.left
      refine affects_checkRole follows fineRole (fun hasRole => ?_)
      have fineUser : ok (argv args 3) := fineIf readable (fun plain => plain.2 hasRole)
      exact affects_checkUser follows fineUser
        (fun _ => affects_leaving (flags.disconnectUser _ _ fineRole fineUser) argument)

end Call

-----------------------------------------------------------------------------------------
-- Sequences of calls
-----------------------------------------------------------------------------------------

section Calls

variable (server : MysqlServer) {dbase : Dbase} {ext : Extern} (digest : ext.HexDigest)
  (hashSalt : Str)
include digest

/-- A call that keeps the flags has one of the listed effects on the newsgroups. -/
theorem admCallOn_groupsEffect {s : Store} {call : AdmCall} (keeps : call.KeepsFlags dbase s)
    : GroupsEffect s call.args (admCallOn server dbase ext hashSalt s call).1
        (admCallOn server dbase ext hashSalt s call).2.newsgroups := by
  show Affects (execOn dbase ext) s call.args
    (admMainOn (admBackend server dbase) ext hashSalt call.typed call.args)
  unfold admMainOn
  cases accepted : admAccepts call.args with
  | none => exact affects_errExit
  | some mode =>
      have ⟨readable, gives⟩ := keeps mode accepted
      have known := admAccepts_eq_admMode accepted
      cases dbase with
      | sqlite3 =>
          exact affects_dispatch (sqlite3Backend_follows ext) (sqlite3Backend_flags ext)
            (fun _ _ => trivial) digest known (Or.inr fun _ => trivial) gives _ _
      | mysql =>
          exact affects_dispatch (mysqlBackend_follows server ext) (mysqlBackend_flags server ext)
            (fun _ plain => plain) digest known (Or.inl (readable rfl)) gives _ _
      | postgres =>
          exact affects_dispatch (postgresBackend_follows ext) (postgresBackend_flags ext)
            (fun _ _ => trivial) digest known (Or.inr fun _ => trivial) gives _ _

/-- Induction on the sequence: the flags noted so far are those of the newsgroups. -/
theorem flagsAre_calls {calls : List AdmCall} {s : Store} {flags : Str → Option Char}
    (keep : AllKeepFlags server dbase ext hashSalt s calls) (start : s.FlagsAre flags)
    : let out := admCallsOn server dbase ext hashSalt s calls
      out.2.FlagsAre ((calls.zip out.1).foldl noteFlag flags) := by
  induction calls generalizing s flags with
  | nil => exact start
  | cons call calls ih =>
      exact ih keep.2 ((admCallOn_groupsEffect server digest hashSalt keep.1).flagsAre start)

omit digest in
theorem allKeepFlags_append {before after : List AdmCall} {s : Store}
    (keep : AllKeepFlags server dbase ext hashSalt s (before ++ after))
    : AllKeepFlags server dbase ext hashSalt s before
      ∧ AllKeepFlags server dbase ext hashSalt (admCallsOn server dbase ext hashSalt s before).2
          after := by
  induction before generalizing s with
  | nil => exact ⟨trivial, keep⟩
  | cons call before ih =>
      have ⟨first, rest⟩ := ih keep.2
      exact ⟨⟨keep.1, first⟩, rest⟩

end Calls

/-- A newsgroup that is created, closed, deleted and created again, with letters that are
refused in between. -/
def flaggedCalls : List AdmCall :=
  [admWords ["addgroup", "a.b", "yes"], admWords ["addgroup", "c", "x"],
    admWords ["modgroup", "a.b", "n"], admWords ["modgroup", "c", "x"],
    admWords ["modgroup", "a.b", "'"], admWords ["delgroup", "a.b"],
    admWords ["addgroup", "a.b", "y"]]

/-- `modgroup` with another letter. -/
def strayCalls : List AdmCall :=
  [admWords ["addgroup", "a.b", "y"], admWords ["modgroup", "a.b", "x"]]

theorem strayCalls_run (dbase : Dbase)
    : (admCallsOn refusingServer dbase digestExtern [] Store.empty strayCalls).1 = [true, true]
      ∧ (admCallsOn refusingServer dbase digestExtern [] Store.empty strayCalls).2.newsgroups
        = [⟨"a.b".toList, if dbase = .postgres then 'n' else 'x', 0⟩] := by
  cases dbase <;> decide +kernel

end WendzelNNTPd
