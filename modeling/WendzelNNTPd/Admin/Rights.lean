import WendzelNNTPd.Admin.AclIntegrity
import WendzelNNTPd.Lib.Register
import WendzelNNTPd.Posting.WriteAccess
import WendzelNNTPd.Reading.Listing

/-! Who may do what, by the history of the tool's calls. The tables of users, roles, newsgroups and
rights are a register of which the calls make and strike the entries; the lines of clients leave it
alone. So an access right is there exactly if a call has given it and none has taken it since.
-/

namespace WendzelNNTPd

open CString Atomic Register

-----------------------------------------------------------------------------------------
-- The register
-----------------------------------------------------------------------------------------

/-- What the tables of names and rights say. -/
inductive Right
  | user (name : Str)
  | role (name : Str)
  | group (name : Str)
  | aclUser (row : AclUser)
  | user2role (row : User2Role)
  | aclRole (row : AclRole)
  deriving DecidableEq, Repr

/-- The names in a row. -/
def Right.parties : Right → List Right
  | .user _ | .role _ | .group _ => []
  | .aclUser row => [.user row.username, .group row.ng]
  | .user2role row => [.user row.username, .role row.role]
  | .aclRole row => [.role row.role, .group row.ng]

/-- A party of a right is a name, and has none itself. -/
theorem parties_party {f g : Right} (party : f ∈ g.parties) : f.parties = [] := by
  cases g with
  | user | role | group => cases party
  | aclUser row | user2role row | aclRole row =>
      rcases List.mem_pair.mp party with rfl | rfl
      · rfl
      · rfl

def accessScheme : Scheme Right where
  parties := Right.parties
  trans first second := by
    rw [parties_party second] at first
    cases first

def Store.Records (s : Store) : Right → Prop
  | .user name => s.HasUser name
  | .role name => name ∈ s.roles
  | .group name => s.HasGroup name
  | .aclUser row => row ∈ s.aclUsers
  | .user2role row => row ∈ s.users2roles
  | .aclRole row => row ∈ s.aclRoles

def Store.rights (s : Store) : Set Right := {f | s.Records f}

/-- Whether `adduser` takes the name and the password. -/
def AdmCall.acceptable (call : AdmCall) : Bool :=
  let username := argv call.args 2
  let pass := if call.args.length ≥ 3 then argv call.args 3 else call.typed
  username.all isalnum && decide (username.length ≤ 100) && decide (8 ≤ pass.length)
    && decide (pass.length ≤ 100)

/-- What a call asks for, by its arguments alone. -/
def AdmCall.asks (call : AdmCall) : Option (Op Right) :=
  let name := argv call.args 2
  let other := argv call.args 3
  match admAccepts call.args with
  | some .ngcreate =>
      if validGroupName name ∧ (byteAt other 0 = 'y' ∨ byteAt other 0 = 'n') then
        some (.enter (.group name))
      else none
  | some .ngdelete => some (.strike (.group name))
  | some .adduser => if call.acceptable then some (.enter (.user name)) else none
  | some .deluser => some (.strike (.user name))
  | some .addacluser => some (.enter (.aclUser ⟨name, other⟩))
  | some .delacluser => some (.strike (.aclUser ⟨name, other⟩))
  | some .addaclrole => some (.enter (.role name))
  | some .delaclrole => some (.strike (.role name))
  | some .rolegroupc => some (.enter (.aclRole ⟨name, other⟩))
  | some .rolegroupuc => some (.strike (.aclRole ⟨name, other⟩))
  | some .roleuserc => some (.enter (.user2role ⟨other, name⟩))
  | some .roleuseruc => some (.strike (.user2role ⟨other, name⟩))
  | _ => none

/-- The lines of clients ask for nothing. -/
def SystemStep.asks : SystemStep → Option (Op Right)
  | .serve _ _ _ => none
  | .administer call => call.asks

/-- By the history of the calls, the user has the right of a newsgroup, or a role of theirs has. -/
def Granted (history : List (Op Right)) (user newsgroup : Str) : Prop :=
  Standing accessScheme history (.aclUser ⟨user, newsgroup⟩)
  ∨ ∃ role, Standing accessScheme history (.user2role ⟨user, role⟩)
      ∧ Standing accessScheme history (.aclRole ⟨role, newsgroup⟩)

-----------------------------------------------------------------------------------------
-- Statements
-----------------------------------------------------------------------------------------

section Statements

variable {s : Store}

theorem mem_insertRow_id {α : Type} [DecidableEq α] {row x : α} {table : List α}
    : x ∈ (insertRow id row table).2 ↔ x ∈ table ∨ x = row := by
  unfold insertRow
  split
  · rename_i there
    have member : row ∈ table := by simpa using there
    constructor
    · exact Or.inl
    · rintro (old | rfl)
      · exact old
      · exact member
  · simp

theorem rights_insertNewsgroup (row : Newsgroup)
    : Store.rights { s with newsgroups := s.newsgroups ++ [row] }
      = step accessScheme s.rights (.enter (.group row.name)) := by
  ext f
  cases f with
  | group name =>
      simp [Store.rights, Store.Records, Store.HasGroup, step, accessScheme, Right.parties, or_and_right,
        exists_or, eq_comm]
  | _ => simp [Store.rights, Store.Records, Store.HasUser, step]

theorem rights_insertUser (row : User) (missing : ¬s.HasUser row.name)
    : Store.rights { s with users := (insertRow (·.name) row s.users).2 }
      = step accessScheme s.rights (.enter (.user row.name)) := by
  have fresh : s.users.any (fun other => other.name = row.name) = false := by
    simpa [Store.HasUser] using missing
  simp only [insertRow, fresh, Bool.false_eq_true, if_false]
  ext f
  cases f with
  | user name =>
      simp [Store.rights, Store.Records, Store.HasUser, step, accessScheme, Right.parties, or_and_right,
        exists_or, eq_comm]
  | _ => simp [Store.rights, Store.Records, Store.HasGroup, step]

theorem rights_insertRole (role : Str)
    : Store.rights { s with roles := (insertRow id role s.roles).2 }
      = step accessScheme s.rights (.enter (.role role)) := by
  ext f
  cases f with
  | role name =>
      simp [Store.rights, Store.Records, mem_insertRow_id, step, accessScheme, Right.parties]
  | _ => simp [Store.rights, Store.Records, Store.HasGroup, Store.HasUser, step]

theorem rights_insertAclUser (row : AclUser) (user : s.HasUser row.username)
    (group : s.HasGroup row.ng)
    : Store.rights { s with aclUsers := (insertRow id row s.aclUsers).2 }
      = step accessScheme s.rights (.enter (.aclUser row)) := by
  ext f
  cases f with
  | aclUser other =>
      simp [Store.rights, Store.Records, mem_insertRow_id, step, accessScheme, Right.parties, user,
        group]
  | _ => simp [Store.rights, Store.Records, Store.HasGroup, Store.HasUser, step]

theorem rights_insertUser2Role (row : User2Role) (user : s.HasUser row.username)
    (role : row.role ∈ s.roles)
    : Store.rights { s with users2roles := (insertRow id row s.users2roles).2 }
      = step accessScheme s.rights (.enter (.user2role row)) := by
  ext f
  cases f with
  | user2role other =>
      simp [Store.rights, Store.Records, mem_insertRow_id, step, accessScheme, Right.parties, user,
        role]
  | _ => simp [Store.rights, Store.Records, Store.HasGroup, Store.HasUser, step]

theorem rights_insertAclRole (row : AclRole) (role : row.role ∈ s.roles) (group : s.HasGroup row.ng)
    : Store.rights { s with aclRoles := (insertRow id row s.aclRoles).2 }
      = step accessScheme s.rights (.enter (.aclRole row)) := by
  ext f
  cases f with
  | aclRole other =>
      simp [Store.rights, Store.Records, mem_insertRow_id, step, accessScheme, Right.parties, role,
        group]
  | _ => simp [Store.rights, Store.Records, Store.HasGroup, Store.HasUser, step]

theorem rights_withoutGroup (group : Str)
    : (s.withoutGroup group).rights = step accessScheme s.rights (.strike (.group group)) := by
  ext f
  cases f with
  | group name =>
      simpa [Store.rights, Store.Records, step, Strikes, accessScheme, Right.parties]
        using hasGroup_withoutGroup
  | aclUser row | aclRole row =>
      simp [Store.rights, Store.Records, Store.withoutGroup, step, Strikes, accessScheme,
        Right.parties]
      exact fun _ => ne_comm
  | _ =>
      simp [Store.rights, Store.Records, Store.HasUser, Store.withoutGroup, step, Strikes,
        accessScheme, Right.parties]

theorem rights_withoutUser (user : Str)
    : (s.withoutUser user).rights = step accessScheme s.rights (.strike (.user user)) := by
  ext f
  cases f with
  | user name =>
      simpa [Store.rights, Store.Records, step, Strikes, accessScheme, Right.parties]
        using hasUser_withoutUser
  | aclUser row | user2role row =>
      simp [Store.rights, Store.Records, Store.withoutUser, step, Strikes, accessScheme,
        Right.parties]
      exact fun _ => ne_comm
  | _ =>
      simp [Store.rights, Store.Records, Store.HasGroup, Store.withoutUser, step, Strikes,
        accessScheme, Right.parties]

theorem rights_withoutRole (role : Str)
    : (s.withoutRole role).rights = step accessScheme s.rights (.strike (.role role)) := by
  ext f
  cases f with
  | role name =>
      simp [Store.rights, Store.Records, Store.withoutRole, step, Strikes, accessScheme,
        Right.parties]
  | user2role row | aclRole row =>
      simp [Store.rights, Store.Records, Store.withoutRole, step, Strikes, accessScheme,
        Right.parties]
      exact fun _ => ne_comm
  | _ =>
      simp [Store.rights, Store.Records, Store.HasGroup, Store.HasUser, Store.withoutRole, step,
        Strikes, accessScheme, Right.parties]

theorem rights_withPflag (group : Str) (pflag : Char) : (s.withPflag group pflag).rights = s.rights := by
  ext f
  cases f with
  | group name => exact hasGroup_withPflag
  | _ => exact Iff.rfl

variable (ext : Extern)

theorem rights_deleteAclUsers (row : AclUser)
    : (exec ext (.deleteAclUsers (some row.username) (some row.ng)) s).2.rights
      = step accessScheme s.rights (.strike (.aclUser row)) := by
  ext f
  cases f with
  | aclUser other =>
      obtain ⟨user, group⟩ := other
      obtain ⟨user', group'⟩ := row
      simp [exec, whereEq, Store.rights, Store.Records, step, Strikes, accessScheme, Right.parties]
      exact fun _ => imp_iff_not_or.symm
  | _ =>
      simp [exec, Store.rights, Store.Records, Store.HasGroup, Store.HasUser, step, Strikes,
        accessScheme, Right.parties]

theorem rights_deleteUsers2Roles (row : User2Role)
    : (exec ext (.deleteUsers2Roles (some row.username) (some row.role)) s).2.rights
      = step accessScheme s.rights (.strike (.user2role row)) := by
  ext f
  cases f with
  | user2role other =>
      obtain ⟨user, role⟩ := other
      obtain ⟨user', role'⟩ := row
      simp [exec, whereEq, Store.rights, Store.Records, step, Strikes, accessScheme, Right.parties]
      exact fun _ => imp_iff_not_or.symm
  | _ =>
      simp [exec, Store.rights, Store.Records, Store.HasGroup, Store.HasUser, step, Strikes,
        accessScheme, Right.parties]

theorem rights_deleteAclRoles (row : AclRole)
    : (exec ext (.deleteAclRoles (some row.role) (some row.ng)) s).2.rights
      = step accessScheme s.rights (.strike (.aclRole row)) := by
  ext f
  cases f with
  | aclRole other =>
      obtain ⟨role, group⟩ := other
      obtain ⟨role', group'⟩ := row
      simp [exec, whereEq, Store.rights, Store.Records, step, Strikes, accessScheme, Right.parties]
      exact fun _ => imp_iff_not_or.symm
  | _ =>
      simp [exec, Store.rights, Store.Records, Store.HasGroup, Store.HasUser, step, Strikes,
        accessScheme, Right.parties]

end Statements

-----------------------------------------------------------------------------------------
-- Calls
-----------------------------------------------------------------------------------------

section Calls

variable {ext : Extern} {hashSalt : Str} {s : Store}

theorem dbDeleteNewsgroup_run (group : Str)
    : (dbDeleteNewsgroup group).run (exec ext) s = (.ok (), s.withoutGroup group) := by
  simp [dbDeleteNewsgroup, admDo, Prog.run, exec, whereEq, Store.withoutGroup, bne]

/-- The store behind `exit_if_.._exists` and the rest of a command. -/
theorem run_exitIfExists (ext : Extern) (s : Store) (P : Store → Prop) {check : Adm Bool}
    {rest : Adm Unit} {found : Bool} (looks : check.run (exec ext) s = (.ok found, s))
    (there : found = true → P s) (missing : found = false → P (rest.run (exec ext) s).2)
    : P ((exitIfExists check >>= fun _ => rest).run (exec ext) s).2 := by
  simp only [exitIfExists, Prog.run_bind, looks]
  cases found with
  | false => exact missing rfl
  | true => exact there rfl

/-- A command that first looks for two names. Without one of them its operation has no effect
either. -/
theorem rights_behind_two {op : Op Right} {first second : Adm Bool} {rest : Adm Unit}
    {foundFirst foundSecond : Bool} {named named' : Right}
    (looks : first.run (exec ext) s = (.ok foundFirst, s))
    (looks' : second.run (exec ext) s = (.ok foundSecond, s))
    (finds : foundFirst = true ↔ s.Records named) (finds' : foundSecond = true ↔ s.Records named')
    (idle : ¬s.Records named ∨ ¬s.Records named' → step accessScheme s.rights op = s.rights)
    (acts : s.Records named → s.Records named' →
      (rest.run (exec ext) s).2.rights = step accessScheme s.rights op)
    : ((exitIfNotExists first >>= fun _ => exitIfNotExists second >>= fun _ => rest).run
          (exec ext) s).2.rights
        = step accessScheme s.rights op := by
  refine run_exitIfNotExists ext s (fun t => t.rights = step accessScheme s.rights op) looks
    (fun missing => ?_) (fun there => ?_)
  · exact (idle (Or.inl (fun has => by simp [finds.mpr has] at missing))).symm
  · refine run_exitIfNotExists ext s (fun t => t.rights = step accessScheme s.rights op) looks'
      (fun missing => ?_) (fun there' => ?_)
    · exact (idle (Or.inr (fun has => by simp [finds'.mpr has] at missing))).symm
    · exact acts (finds.mp there) (finds'.mp there')

/-- A right of which a party is missing is not made. -/
theorem enter_idle {f named named' : Right} (parties : f.parties = [named, named'])
    : ¬s.Records named ∨ ¬s.Records named' →
        step accessScheme s.rights (.enter f) = s.rights := by
  have first : named ∈ accessScheme.parties f := by simp [accessScheme, parties]
  have second : named' ∈ accessScheme.parties f := by simp [accessScheme, parties]
  rintro (missing | missing)
  · exact step_enter_of_missing first missing
  · exact step_enter_of_missing second missing

/-- A right of which a party is missing is not there. -/
theorem strike_idle (complete : Complete accessScheme s.rights) {f named named' : Right}
    (parties : f.parties = [named, named'])
    : ¬s.Records named ∨ ¬s.Records named' →
        step accessScheme s.rights (.strike f) = s.rights := by
  have first : named ∈ accessScheme.parties f := by simp [accessScheme, parties]
  have second : named' ∈ accessScheme.parties f := by simp [accessScheme, parties]
  refine fun missing => step_strike_of_notMem complete (fun there => ?_)
  rcases missing with missing | missing
  · exact missing (complete f there named first)
  · exact missing (complete f there named' second)

/-- A command that deletes a name, behind its check. -/
theorem rights_behind_one (complete : Complete accessScheme s.rights) {check : Adm Bool}
    {rest : Adm Unit} {found : Bool} {named : Right}
    (looks : check.run (exec ext) s = (.ok found, s)) (finds : found = true ↔ s.Records named)
    (acts : (rest.run (exec ext) s).2.rights = step accessScheme s.rights (.strike named))
    : ((exitIfNotExists check >>= fun _ => rest).run (exec ext) s).2.rights
        = step accessScheme s.rights (.strike named) := by
  refine run_exitIfNotExists ext s
    (fun t => t.rights = step accessScheme s.rights (.strike named)) looks (fun missing => ?_)
    (fun _ => acts)
  exact (step_strike_of_notMem complete
    (fun has => by simp [finds.mpr has] at missing)).symm

/-- A command that adds a name, behind its check. -/
theorem rights_behind_fresh {check : Adm Bool} {rest : Adm Unit} {found : Bool} {named : Right}
    (looks : check.run (exec ext) s = (.ok found, s)) (finds : found = true ↔ s.Records named)
    (acts : ¬s.Records named →
      (rest.run (exec ext) s).2.rights = step accessScheme s.rights (.enter named))
    : ((exitIfExists check >>= fun _ => rest).run (exec ext) s).2.rights
        = step accessScheme s.rights (.enter named) := by
  refine run_exitIfExists ext s
    (fun t => t.rights = step accessScheme s.rights (.enter named)) looks (fun there => ?_)
    (fun missing => ?_)
  · have recorded : named ∈ s.rights := finds.mp there
    exact (step_enter_of_mem recorded).symm
  · exact acts (fun has => by simp [finds.mpr has] at missing)

theorem rights_ngcreate (name : Str) (flag : Char)
    : ((if !name.all (fun c => isalnum c || c == '.' || c == '-') then errExit
        else do
          exitIfExists (setExistenceOfNewsgroup name)
          dbCreateNewsgroup name flag : Adm Unit).run (exec ext) s).2.rights
      = (if validGroupName name ∧ (flag = 'y' ∨ flag = 'n') then some (.enter (.group name))
          else none).elim s.rights (step accessScheme s.rights) := by
  have valid : validGroupName name = name.all (fun c => isalnum c || c == '.' || c == '-') := rfl
  rw [← valid]
  cases checked : validGroupName name with
  | false => rfl
  | true =>
      by_cases known : flag = 'y' ∨ flag = 'n'
      · rw [if_neg (by simp), if_pos ⟨rfl, known⟩]
        refine rights_behind_fresh (setExistenceOfNewsgroup_run ext s name) (hasGroup_iff s)
          (fun _ => ?_)
        rw [dbCreateNewsgroup, if_neg (by tauto), admInsert_run_store]
        exact rights_insertNewsgroup ⟨name, flag, 0⟩
      · rw [if_neg (by simp), if_neg (fun both => known both.2)]
        refine run_exitIfExists ext s (fun t => t.rights = s.rights)
          (setExistenceOfNewsgroup_run ext s name) (fun _ => rfl) (fun _ => ?_)
        rw [dbCreateNewsgroup, if_pos (by tauto)]
        rfl

theorem rights_adduser (call : AdmCall)
    : ((admAdduser ext hashSalt call.typed call.args).run (exec ext) s).2.rights
      = (if call.acceptable then some (.enter (.user (argv call.args 2))) else none).elim s.rights
          (step accessScheme s.rights) := by
  obtain ⟨args, typed⟩ := call
  simp only [admAdduser, AdmCall.acceptable]
  generalize (if args.length ≥ 3 then argv args 3 else typed) = pass
  generalize argv args 2 = username
  split
  · rw [if_neg (by simp_all)]
    rfl
  · rename_i letters
    split
    · rw [if_neg (by simp; omega)]
      rfl
    · rename_i short
      split
      · rw [if_neg (by simp; omega)]
        rfl
      · rename_i long
        split
        · rw [if_neg (by simp; omega)]
          rfl
        · rename_i fits
          rw [if_pos (by simp_all)]
          refine rights_behind_fresh (setExistenceOfUser_run ext s username) (hasUser_iff s)
            (fun missing => ?_)
          rw [dbAddUser, admInsert_run_store]
          exact rights_insertUser ⟨username, admPassHash ext hashSalt username pass⟩ missing

/-- One call is one operation of the register, or none.
Witness: by mode; where a check of the tool fails, the operation has no effect either, because every
right has its parties.
-/
theorem rights_call (complete : Complete accessScheme s.rights) (call : AdmCall)
    : (admCall ext hashSalt s call).rights
      = call.asks.elim s.rights (step accessScheme s.rights) := by
  obtain ⟨args, typed⟩ := call
  simp only [admCall, admMain, AdmCall.asks]
  cases accepted : admAccepts args with
  | none => rfl
  | some mode =>
      cases mode with
      | nglist => rfl
      | listuser => rfl
      | listacl => rfl
      | ngcreate => exact rights_ngcreate _ _
      | ngdelete =>
          refine rights_behind_one complete (setExistenceOfNewsgroup_run ext s _) (hasGroup_iff s) ?_
          rw [dbDeleteNewsgroup_run]
          exact rights_withoutGroup _
      | ngmodify =>
          refine run_exitIfNotExists ext s (fun t => t.rights = s.rights)
            (setExistenceOfNewsgroup_run ext s _) (fun _ => rfl) (fun _ => ?_)
          rw [dbModifyNewsgroup]
          split
          · rfl
          · exact rights_withPflag _ _
      | adduser => exact rights_adduser ⟨args, typed⟩
      | deluser =>
          refine rights_behind_one complete (setExistenceOfUser_run ext s _) (hasUser_iff s) ?_
          rw [dbDelUser_run]
          exact rights_withoutUser _
      | addaclrole =>
          refine rights_behind_fresh (setExistenceOfRole_run ext s _) (hasRole_iff s) (fun _ => ?_)
          rw [admInsert_run_store]
          exact rights_insertRole _
      | delaclrole =>
          refine rights_behind_one complete (setExistenceOfRole_run ext s _) (hasRole_iff s) ?_
          rw [dbAclDelRole_run]
          exact rights_withoutRole _
      | addacluser =>
          refine rights_behind_two (setExistenceOfUser_run ext s _)
            (setExistenceOfNewsgroup_run ext s _) (hasUser_iff s) (hasGroup_iff s)
            (enter_idle rfl) (fun user group => ?_)
          rw [admInsert_run_store]
          exact rights_insertAclUser _ user group
      | delacluser =>
          exact rights_behind_two (setExistenceOfUser_run ext s _)
            (setExistenceOfNewsgroup_run ext s _) (hasUser_iff s) (hasGroup_iff s)
            (strike_idle complete rfl) (fun _ _ => rights_deleteAclUsers ext ⟨_, _⟩)
      | rolegroupc =>
          refine rights_behind_two (setExistenceOfRole_run ext s _)
            (setExistenceOfNewsgroup_run ext s _) (hasRole_iff s) (hasGroup_iff s)
            (enter_idle rfl) (fun role group => ?_)
          rw [admInsert_run_store]
          exact rights_insertAclRole _ role group
      | rolegroupuc =>
          exact rights_behind_two (setExistenceOfRole_run ext s _)
            (setExistenceOfNewsgroup_run ext s _) (hasRole_iff s) (hasGroup_iff s)
            (strike_idle complete rfl) (fun _ _ => rights_deleteAclRoles ext ⟨_, _⟩)
      | roleuserc =>
          refine rights_behind_two (setExistenceOfRole_run ext s _)
            (setExistenceOfUser_run ext s _) (hasRole_iff s) (hasUser_iff s)
            (fun missing => enter_idle rfl missing.symm) (fun role user => ?_)
          rw [admInsert_run_store]
          exact rights_insertUser2Role _ user role
      | roleuseruc =>
          exact rights_behind_two (setExistenceOfRole_run ext s _)
            (setExistenceOfUser_run ext s _) (hasRole_iff s) (hasUser_iff s)
            (fun missing => strike_idle complete rfl missing.symm)
            (fun _ _ => rights_deleteUsers2Roles ext ⟨_, _⟩)

end Calls

-----------------------------------------------------------------------------------------
-- Runs
-----------------------------------------------------------------------------------------

section Runs

variable {ext : Extern} {hashSalt : Str} {s t : Store}

/-- Articles change no name of a newsgroup. -/
theorem names_post (ext : Extern) (s : Store) (cfg : Config) (env : Env) (user : Option Str)
    : (s.post ext cfg env user).2.newsgroups.map (·.name) = s.newsgroups.map (·.name) := by
  cases stores : s.postStores cfg env with
  | none =>
      rcases (post_of_not_stores ext user stores).2 with same | same <;> rw [same]
      unfold Store.counted
      split
      · rfl
      · rfl
  | some stored =>
      obtain ⟨id, article⟩ := stored
      obtain ⟨ran, counted⟩ := post_of_stores ext user stores
      rw [ran, counted]
      rcases storeAlone_store { s with msgidFile := some (some id) } cfg env user
          (article.row ext env id) article.body article.groups with same | ⟨served, -, same⟩
      · rw [same]
        rfl
      · rw [same]
        refine map_name_of_eq (fun g => ?_) s.newsgroups
        split
        · rfl
        · rfl

theorem hasGroup_of_names (names : t.newsgroups.map (·.name) = s.newsgroups.map (·.name))
    (name : Str)
    : t.HasGroup name ↔ s.HasGroup name := by
  rw [hasGroup_iff_mem, hasGroup_iff_mem, names]

/-- The lines of clients leave the register alone. -/
theorem rights_serve (cfg : Config) (session : Session) (line : Line)
    : (SystemStep.perform ext hashSalt s (.serve cfg session line)).rights = s.rights := by
  rcases SystemStep.perform_serve ext hashSalt s cfg session line with same | posted
  · rw [same]
  · rw [posted]
    have accounts := @sameAccounts_post ext cfg line.env session.curAuthUser s
    have names := names_post ext s cfg line.env session.curAuthUser
    ext f
    cases f with
    | user name => simp [Store.rights, Store.Records, Store.HasUser, accounts.users]
    | role name => simp [Store.rights, Store.Records, accounts.roles]
    | group name => exact hasGroup_of_names names name
    | aclUser row => simp [Store.rights, Store.Records, accounts.aclUsers]
    | user2role row => simp [Store.rights, Store.Records, accounts.users2roles]
    | aclRole row => simp [Store.rights, Store.Records, accounts.aclRoles]

/-- A run is one of the register, with the operations that its calls ask for.
Witness: induction on the steps; the register stays complete.
-/
theorem rights_performAll (complete : Complete accessScheme s.rights) (steps : List SystemStep)
    : (performAll ext hashSalt s steps).rights
      = run accessScheme s.rights (steps.filterMap SystemStep.asks) := by
  induction steps generalizing s with
  | nil => rfl
  | cons step rest ih =>
      cases step with
      | serve cfg session line =>
          have same := @rights_serve ext hashSalt s cfg session line
          have later := @ih (SystemStep.perform ext hashSalt s (.serve cfg session line))
          rw [same] at later
          exact later complete
      | administer call =>
          have called := @rights_call ext hashSalt s complete call
          have later := @ih (admCall ext hashSalt s call)
          rw [called] at later
          cases asked : call.asks with
          | none =>
              rw [List.filterMap_cons_none (show SystemStep.asks (.administer call) = none from asked)]
              rw [asked] at later
              exact later complete
          | some op =>
              rw [List.filterMap_cons_some
                (show SystemStep.asks (.administer call) = some op from asked)]
              rw [asked] at later
              exact later (complete_step complete)

theorem rights_empty : Store.empty.rights = ∅ := by
  ext f
  cases f with
  | user | group => simp [Store.rights, Store.Records, Store.HasUser, Store.HasGroup, Store.empty]
  | _ => simp [Store.rights, Store.Records, Store.empty]

theorem rights_of_run (ext : Extern) (hashSalt : Str) (steps : List SystemStep)
    : (performAll ext hashSalt Store.empty steps).rights
      = run accessScheme ∅ (steps.filterMap SystemStep.asks) := by
  rw [← rights_empty]
  refine rights_performAll ?_ steps
  rw [rights_empty]
  rintro f ⟨⟩

/-- The tables allow what the history has granted. -/
theorem aclAllows_iff_granted (ext : Extern) (hashSalt : Str) (steps : List SystemStep)
    (user newsgroup : Str)
    : (performAll ext hashSalt Store.empty steps).aclAllows user newsgroup = true
      ↔ Granted (steps.filterMap SystemStep.asks) user newsgroup := by
  have stands (f : Right) : (performAll ext hashSalt Store.empty steps).Records f
      ↔ Standing accessScheme (steps.filterMap SystemStep.asks) f := by
    rw [← mem_run_iff, ← rights_of_run ext hashSalt]
    rfl
  rw [aclAllows_iff, Granted, ← stands]
  refine or_congr Iff.rfl (exists_congr (fun role => ?_))
  rw [← stands, ← stands]
  rfl

/-- A newsgroup that somebody has a right of is there. -/
theorem hasGroup_of_aclAllows (complete : Complete accessScheme s.rights) {user newsgroup : Str}
    (allowed : s.aclAllows user newsgroup = true)
    : s.HasGroup newsgroup := by
  rcases aclAllows_iff.mp allowed with direct | ⟨role, -, viaRole⟩
  · exact complete (.aclUser ⟨user, newsgroup⟩) direct (.group newsgroup)
      (by simp [accessScheme, Right.parties])
  · exact complete (.aclRole ⟨role, newsgroup⟩) viaRole (.group newsgroup)
      (by simp [accessScheme, Right.parties])

end Runs

/-- After any lines of clients and calls of the tool on a new installation, with access control: a
user who is logged in can select a newsgroup exactly if, by the history of the calls alone, a right
of it was given to them, or to a role that was given to them, and nothing has taken it since; to
every other name the answer is 411. -/
theorem group_selected_iff_granted (ext : Extern) (hashSalt : Str) (steps : List SystemStep)
    (cfg : Config) (acl : (cfg.useAuth && cfg.useAcl) = true) (r : Session)
    (commands : r.Commands cfg) (user : Str) (login : r.curAuthUser = some user) (line : Line)
    (name : Str) (begins : caseEqPrefix "group".toList line.command = true)
    (argument : getSlinearg line.command 1 = some name)
    : (Granted (steps.filterMap SystemStep.asks) user name →
        ∃ g ∈ (performAll ext hashSalt Store.empty steps).newsgroups, g.name = name
          ∧ (Connection.reply ext cfg ⟨r, performAll ext hashSalt Store.empty steps⟩ line).map (·.text)
            = [groupLine g])
      ∧ (¬Granted (steps.filterMap SystemStep.asks) user name →
        (Connection.reply ext cfg ⟨r, performAll ext hashSalt Store.empty steps⟩ line).map (·.text)
          = [nosuchgroup]) := by
  have numbered := (@performAll_numbered ext hashSalt Store.empty rfl steps).1
  have complete : Complete accessScheme (performAll ext hashSalt Store.empty steps).rights := by
    rw [rights_of_run]
    refine complete_run ?_
    rintro f ⟨⟩
  have granted := aclAllows_iff_granted ext hashSalt steps user name
  have same : Store.empty.withoutArticles = Store.empty := rfl
  rw [same] at numbered
  generalize performAll ext hashSalt Store.empty steps = s at numbered complete granted ⊢
  have answer := @reply_group ext cfg s numbered.names r commands line name begins argument
  have may (group : Str) : s.mayPost cfg r.curAuthUser group = s.aclAllows user group := by
    rw [Store.mayPost, if_pos acl, login]
    rfl
  constructor
  · intro given
    have allowed := granted.mpr given
    obtain ⟨g, member, named⟩ := hasGroup_of_aclAllows complete allowed
    have shown : g ∈ s.visible cfg r.curAuthUser := by
      refine List.mem_filter.mpr ⟨member, ?_⟩
      rw [may, named]
      exact allowed
    cases found : (s.visible cfg r.curAuthUser).find? (·.name == name) with
    | none =>
        have other := List.find?_eq_none.mp found g shown
        exact absurd (beq_iff_eq.mpr named) other
    | some first =>
        rw [found] at answer
        have inside := List.mem_of_find?_eq_some found
        exact ⟨first, (List.mem_filter.mp inside).1, by simpa using List.find?_some found, answer⟩
  · intro never
    have hidden : (s.visible cfg r.curAuthUser).find? (·.name == name) = none := by
      refine List.find?_eq_none.mpr (fun g shown named => never (granted.mp ?_))
      have allowed := (List.mem_filter.mp shown).2
      rw [may, beq_iff_eq.mp named] at allowed
      exact allowed
    rw [hidden] at answer
    exact answer

/-- Alice, a newsgroup, and her right. -/
def rightCalls : List SystemStep :=
  [.administer ⟨["adduser".toList, "alice".toList, "secret99".toList], []⟩,
    .administer ⟨["addgroup".toList, "open".toList, "y".toList], []⟩,
    .administer ⟨["addacluser".toList, "alice".toList, "open".toList], []⟩]

theorem rightCalls_selected
    : ∃ g ∈ (performAll sampleExtern [] Store.empty rightCalls).newsgroups, g.name = "open".toList
        ∧ (Connection.reply sampleExtern sampleConfig
            ⟨sampleReader, performAll sampleExtern [] Store.empty rightCalls⟩
            (sampleLine "GROUP open")).map (·.text) = [groupLine g] := by
  have history : rightCalls.filterMap SystemStep.asks
      = [.enter (.user "alice".toList)] ++ .enter (.group "open".toList)
          :: [.enter (.aclUser ⟨"alice".toList, "open".toList⟩)] := by decide
  have alice : Standing accessScheme
      [.enter (.user "alice".toList), .enter (.group "open".toList)] (.user "alice".toList) :=
    @Standing.entered _ accessScheme [] [.enter (.group "open".toList)] _
      (by simp [accessScheme, Right.parties]) (by simp [Strikes])
  have group : Standing accessScheme
      [.enter (.user "alice".toList), .enter (.group "open".toList)] (.group "open".toList) :=
    @Standing.entered _ accessScheme [.enter (.user "alice".toList)] [] _
      (by simp [accessScheme, Right.parties]) (by simp)
  have right : Granted (rightCalls.filterMap SystemStep.asks) "alice".toList "open".toList := by
    rw [history]
    refine Or.inl (@Standing.entered _ accessScheme
      [.enter (.user "alice".toList), .enter (.group "open".toList)] [] _ ?_ (by simp))
    intro p party
    rcases List.mem_pair.mp party with rfl | rfl
    · exact alice
    · exact group
  exact (group_selected_iff_granted sampleExtern [] rightCalls sampleConfig rfl sampleReader
    ⟨rfl, rfl, rfl, rfl⟩ "alice".toList rfl (sampleLine "GROUP open") "open".toList (by decide)
    (by decide)).1 right

end WendzelNNTPd
