import WendzelNNTPd.Admin.Tool

/-! What one call of `wendzelnntpadm` can do to the store: nothing, or exactly one of the
changes listed here, each under the checks its command makes first. -/

namespace WendzelNNTPd

open CString Atomic

namespace Store

/-- The store behind the five statements of `delgroup`. -/
def withoutGroup (s : Store) (group : Str) : Store :=
  { s with
    ngposts := s.ngposts.filter (·.ng != group)
    aclUsers := s.aclUsers.filter (·.ng != group)
    aclRoles := s.aclRoles.filter (·.ng != group)
    newsgroups := s.newsgroups.filter (·.name != group)
    postings := s.postings.filter
      (fun p => (s.ngposts.filter (·.ng != group)).any (·.msgid == p.msgid)) }

/-- The store behind the three statements of `deluser`. -/
def withoutUser (s : Store) (user : Str) : Store :=
  { s with
    aclUsers := s.aclUsers.filter (·.username != user)
    users2roles := s.users2roles.filter (·.username != user)
    users := s.users.filter (·.name != user) }

/-- The store behind the three statements of `delaclrole`. -/
def withoutRole (s : Store) (role : Str) : Store :=
  { s with
    users2roles := s.users2roles.filter (·.role != role)
    aclRoles := s.aclRoles.filter (·.role != role)
    roles := s.roles.filter (· != role) }

/-- The store with another posting flag for a group. -/
def withPflag (s : Store) (group : Str) (pflag : Char) : Store :=
  { s with
    newsgroups := s.newsgroups.map
      (fun g => if g.name == group then { g with pflag := pflag } else g) }

end Store

section Groups

variable {s : Store}

theorem hasGroup_withoutGroup {group name : Str}
    : (s.withoutGroup group).HasGroup name ↔ s.HasGroup name ∧ name ≠ group := by
  simp only [Store.HasGroup, Store.withoutGroup, List.mem_filter, bne_iff_ne]
  constructor
  · rintro ⟨g, ⟨member, other⟩, rfl⟩
    exact ⟨⟨g, member, rfl⟩, other⟩
  · rintro ⟨⟨g, member, rfl⟩, other⟩
    exact ⟨g, ⟨member, other⟩, rfl⟩

theorem hasGroup_withPflag {group name : Str} {pflag : Char}
    : (s.withPflag group pflag).HasGroup name ↔ s.HasGroup name := by
  simp only [Store.HasGroup, Store.withPflag, List.mem_map]
  constructor
  · rintro ⟨_, ⟨g, member, rfl⟩, rfl⟩
    refine ⟨g, member, ?_⟩
    split <;> rfl
  · rintro ⟨g, member, rfl⟩
    refine ⟨_, ⟨g, member, rfl⟩, ?_⟩
    split <;> rfl

end Groups

/-- The mode of an accepted command is that of its word. -/
theorem admAccepts_eq_admMode {args : List Str} {mode : AdmMode}
    (accepted : admAccepts args = some mode)
    : admMode (argv args 1) = some mode := by
  cases args with
  | nil => cases accepted
  | cons command params =>
      simp only [admAccepts, Option.bind_eq_bind, Option.bind_eq_some_iff] at accepted
      obtain ⟨found, known, checked⟩ := accepted
      repeat' split at checked
      all_goals cases checked
      all_goals exact known

/-- The names `addgroup` admits. -/
def validGroupName (name : Str) : Bool := name.all (fun c => isalnum c || c == '.' || c == '-')

/-- The change a call makes. -/
inductive AdmEffect (args : List Str) (s : Store) : Store → Prop
  | nothing : AdmEffect args s s
  | addgroup (pflag : Char) (mode : admAccepts args = some .ngcreate)
    (valid : validGroupName (argv args 2)) (fresh : ¬s.HasGroup (argv args 2))
    (flag : pflag = 'y' ∨ pflag = 'n')
    : AdmEffect args s
        { s with newsgroups := s.newsgroups ++ [⟨argv args 2, pflag, 0⟩] }
  | delgroup (mode : admAccepts args = some .ngdelete)
    : AdmEffect args s (s.withoutGroup (argv args 2))
  | modgroup (pflag : Char) (mode : admAccepts args = some .ngmodify)
    : AdmEffect args s (s.withPflag (argv args 2) pflag)
  | adduser (password : Str) (mode : admAccepts args = some .adduser)
    : AdmEffect args s { s with users := s.users ++ [⟨argv args 2, password⟩] }
  | deluser (mode : admAccepts args = some .deluser)
    : AdmEffect args s (s.withoutUser (argv args 2))
  | addacluser (mode : admAccepts args = some .addacluser)
    (user : s.HasUser (argv args 2)) (group : s.HasGroup (argv args 3))
    : AdmEffect args s { s with aclUsers := s.aclUsers ++ [⟨argv args 2, argv args 3⟩] }
  | delacluser (mode : admAccepts args = some .delacluser) (keep : AclUser → Bool)
    : AdmEffect args s { s with aclUsers := s.aclUsers.filter keep }
  | addaclrole (mode : admAccepts args = some .addaclrole)
    : AdmEffect args s { s with roles := s.roles ++ [argv args 2] }
  | delaclrole (mode : admAccepts args = some .delaclrole)
    : AdmEffect args s (s.withoutRole (argv args 2))
  | rolegroupconnect (mode : admAccepts args = some .rolegroupc)
    (role : argv args 2 ∈ s.roles) (group : s.HasGroup (argv args 3))
    : AdmEffect args s { s with aclRoles := s.aclRoles ++ [⟨argv args 2, argv args 3⟩] }
  | rolegroupdisconnect (mode : admAccepts args = some .rolegroupuc) (keep : AclRole → Bool)
    : AdmEffect args s { s with aclRoles := s.aclRoles.filter keep }
  | roleuserconnect (mode : admAccepts args = some .roleuserc)
    (role : argv args 2 ∈ s.roles) (user : s.HasUser (argv args 3))
    : AdmEffect args s
        { s with users2roles := s.users2roles ++ [⟨argv args 3, argv args 2⟩] }
  | roleuserdisconnect (mode : admAccepts args = some .roleuseruc) (keep : User2Role → Bool)
    : AdmEffect args s { s with users2roles := s.users2roles.filter keep }

-----------------------------------------------------------------------------------------
-- The existence checks
-----------------------------------------------------------------------------------------

section Checks

variable (ext : Extern) (s : Store)

/-- Behind `exit_if_.._exists` the rest of a command runs on the unchanged store. -/
theorem effect_of_missing {args : List Str} {check : Adm Bool} {rest : Adm Unit} {found : Bool}
    (looks : check.run (exec ext) s = (.ok found, s))
    (effect : found = false → AdmEffect args s (rest.run (exec ext) s).2)
    : AdmEffect args s ((exitIfExists check >>= fun _ => rest).run (exec ext) s).2 := by
  simp only [exitIfExists, Prog.run_bind, looks]
  cases found with
  | false => exact effect rfl
  | true => exact .nothing

/-- The store behind `exit_if_.._not_exists` and the rest of a command. -/
theorem run_exitIfNotExists (P : Store → Prop) {check : Adm Bool} {rest : Adm Unit}
    {found : Bool} (looks : check.run (exec ext) s = (.ok found, s))
    (missing : found = false → P s) (there : found = true → P (rest.run (exec ext) s).2)
    : P ((exitIfNotExists check >>= fun _ => rest).run (exec ext) s).2 := by
  simp only [exitIfNotExists, Prog.run_bind, looks]
  cases found with
  | false => exact missing rfl
  | true => exact there rfl

theorem effect_of_found {args : List Str} {check : Adm Bool} {rest : Adm Unit} {found : Bool}
    (looks : check.run (exec ext) s = (.ok found, s))
    (effect : found = true → AdmEffect args s (rest.run (exec ext) s).2)
    : AdmEffect args s ((exitIfNotExists check >>= fun _ => rest).run (exec ext) s).2 :=
  run_exitIfNotExists ext s (AdmEffect args s) looks (fun _ => .nothing) effect

theorem setExistenceOfNewsgroup_run (group : Str)
    : (setExistenceOfNewsgroup group).run (exec ext) s
      = (.ok (!(s.newsgroups.filter (·.name == group)).isEmpty), s) :=
  rfl

theorem setExistenceOfUser_run (user : Str)
    : (setExistenceOfUser user).run (exec ext) s
      = (.ok (!(s.users.filter (·.name == user)).isEmpty), s) :=
  rfl

theorem setExistenceOfRole_run (role : Str)
    : (setExistenceOfRole role).run (exec ext) s
      = (.ok (!(s.roles.filter (· == role)).isEmpty), s) :=
  rfl

end Checks

-----------------------------------------------------------------------------------------
-- The statements behind the checks
-----------------------------------------------------------------------------------------

section Statements

variable (ext : Extern) (s : Store)

theorem dbDelUser_run (user : Str)
    : (dbDelUser user).run (exec ext) s = (.ok (), s.withoutUser user) := by
  simp [dbDelUser, admDo, Prog.run, exec, whereEq, Store.withoutUser, bne]

theorem dbAclDelRole_run (role : Str)
    : (dbAclDelRole role).run (exec ext) s = (.ok (), s.withoutRole role) := by
  simp [dbAclDelRole, admDo, Prog.run, exec, whereEq, Store.withoutRole, bne]

/-- An insert appends its row or leaves the table alone. -/
theorem insertRow_cases {α κ : Type} [DecidableEq κ] (key : α → κ) (row : α) (table : List α)
    : (insertRow key row table).2 = table ∨ (insertRow key row table).2 = table ++ [row] := by
  unfold insertRow
  split
  · exact Or.inl rfl
  · exact Or.inr rfl

/-- The store behind an insert of the tool is the one behind its statement. -/
theorem admInsert_run_store (op : Stmt) (ok : op.Result → Bool)
    : ((admInsert op ok).run (exec ext) s).2 = (exec ext op s).2 := by
  simp only [admInsert, Prog.run_act]
  split <;> rfl

end Statements

-----------------------------------------------------------------------------------------
-- One call
-----------------------------------------------------------------------------------------

section Calls

variable (ext : Extern) (s : Store) {args : List Str}

theorem ngcreate_effect (postFlg : Char) (accepted : admAccepts args = some .ngcreate)
    (valid : validGroupName (argv args 2)) (fresh : ¬s.HasGroup (argv args 2))
    : AdmEffect args s ((dbCreateNewsgroup (argv args 2) postFlg).run (exec ext) s).2 := by
  rw [dbCreateNewsgroup]
  split
  · exact .nothing
  · rename_i flag
    rw [admInsert_run_store]
    exact .addgroup _ accepted valid fresh (by tauto)

theorem adduser_effect (password : Str) (accepted : admAccepts args = some .adduser)
    : AdmEffect args s ((dbAddUser (argv args 2) password).run (exec ext) s).2 := by
  rw [dbAddUser, admInsert_run_store]
  rcases insertRow_cases (·.name) ⟨argv args 2, password⟩ s.users with same | added
  · simp only [exec, same]
    exact .nothing
  · simp only [exec, added]
    exact .adduser password accepted

theorem addaclrole_effect (accepted : admAccepts args = some .addaclrole)
    : AdmEffect args s (exec ext (.insertRole (argv args 2)) s).2 := by
  rcases insertRow_cases id (argv args 2) s.roles with same | added
  · simp only [exec, same]
    exact .nothing
  · simp only [exec, added]
    exact .addaclrole accepted

/-- The three grants insert their row behind both checks. -/
theorem addacluser_effect (accepted : admAccepts args = some .addacluser)
    (user : s.HasUser (argv args 2)) (group : s.HasGroup (argv args 3))
    : AdmEffect args s
        (exec ext (.insertAclUser ⟨argv args 2, argv args 3⟩) s).2 := by
  rcases insertRow_cases id ⟨argv args 2, argv args 3⟩ s.aclUsers with same | added
  · simp only [exec, same]
    exact .nothing
  · simp only [exec, added]
    exact .addacluser accepted user group

theorem rolegroupc_effect (accepted : admAccepts args = some .rolegroupc)
    (role : argv args 2 ∈ s.roles) (group : s.HasGroup (argv args 3))
    : AdmEffect args s
        (exec ext (.insertAclRole ⟨argv args 2, argv args 3⟩) s).2 := by
  rcases insertRow_cases id ⟨argv args 2, argv args 3⟩ s.aclRoles with same | added
  · simp only [exec, same]
    exact .nothing
  · simp only [exec, added]
    exact .rolegroupconnect accepted role group

theorem roleuserc_effect (accepted : admAccepts args = some .roleuserc)
    (role : argv args 2 ∈ s.roles) (user : s.HasUser (argv args 3))
    : AdmEffect args s
        (exec ext (.insertUser2Role ⟨argv args 3, argv args 2⟩) s).2 := by
  rcases insertRow_cases id ⟨argv args 3, argv args 2⟩ s.users2roles with same | added
  · simp only [exec, same]
    exact .nothing
  · simp only [exec, added]
    exact .roleuserconnect accepted role user

end Calls

/-- One call of the tool makes at most one of the listed changes.
Witness: by mode; every mode is its existence checks, which do not touch the store, and
then one insert, one update or the statements of a delete.
-/
theorem admCall_effect (ext : Extern) (hashSalt : Str) (s : Store) (call : AdmCall)
    : AdmEffect call.args s (admCall ext hashSalt s call) := by
  obtain ⟨args, typed⟩ := call
  simp only [admCall, admMain]
  cases accepted : admAccepts args with
  | none => exact .nothing
  | some mode =>
      cases mode with
      | ngcreate =>
          simp only [admDispatch]
          split
          · exact .nothing
          · rename_i checked
            have valid : validGroupName (argv args 2) = true := by
              simpa only [validGroupName, Bool.not_eq_true', Bool.not_eq_false] using checked
            refine effect_of_missing ext s (setExistenceOfNewsgroup_run ext s _)
              (fun missing => ?_)
            refine ngcreate_effect ext s _ accepted valid ?_
            rw [← hasGroup_iff, missing]
            exact Bool.false_ne_true
      | ngdelete =>
          refine effect_of_found ext s (setExistenceOfNewsgroup_run ext s _) (fun _ => ?_)
          exact .delgroup accepted
      | ngmodify =>
          refine effect_of_found ext s (setExistenceOfNewsgroup_run ext s _) (fun _ => ?_)
          rw [dbModifyNewsgroup]
          split
          · exact .nothing
          · exact .modgroup _ accepted
      | adduser =>
          simp only [admDispatch, admAdduser]
          generalize (if args.length ≥ 3 then argv args 3 else typed) = pass
          -- the four checks of the name and the password
          split
          · exact .nothing
          split
          · exact .nothing
          split
          · exact .nothing
          split
          · exact .nothing
          refine effect_of_missing ext s (setExistenceOfUser_run ext s _) (fun _ => ?_)
          exact adduser_effect ext s _ accepted
      | deluser =>
          refine effect_of_found ext s (setExistenceOfUser_run ext s _) (fun _ => ?_)
          rw [dbDelUser_run]
          exact .deluser accepted
      | addacluser =>
          refine effect_of_found ext s (setExistenceOfUser_run ext s _) (fun user => ?_)
          refine effect_of_found ext s (setExistenceOfNewsgroup_run ext s _) (fun group => ?_)
          rw [admInsert_run_store]
          exact addacluser_effect ext s accepted ((hasUser_iff s).mp user)
            ((hasGroup_iff s).mp group)
      | delacluser =>
          refine effect_of_found ext s (setExistenceOfUser_run ext s _) (fun _ => ?_)
          refine effect_of_found ext s (setExistenceOfNewsgroup_run ext s _) (fun _ => ?_)
          exact .delacluser accepted _
      | addaclrole =>
          refine effect_of_missing ext s (setExistenceOfRole_run ext s _) (fun _ => ?_)
          rw [admInsert_run_store]
          exact addaclrole_effect ext s accepted
      | delaclrole =>
          refine effect_of_found ext s (setExistenceOfRole_run ext s _) (fun _ => ?_)
          rw [dbAclDelRole_run]
          exact .delaclrole accepted
      | rolegroupc =>
          refine effect_of_found ext s (setExistenceOfRole_run ext s _) (fun role => ?_)
          refine effect_of_found ext s (setExistenceOfNewsgroup_run ext s _) (fun group => ?_)
          rw [admInsert_run_store]
          exact rolegroupc_effect ext s accepted ((hasRole_iff s).mp role)
            ((hasGroup_iff s).mp group)
      | rolegroupuc =>
          refine effect_of_found ext s (setExistenceOfRole_run ext s _) (fun _ => ?_)
          refine effect_of_found ext s (setExistenceOfNewsgroup_run ext s _) (fun _ => ?_)
          exact .rolegroupdisconnect accepted _
      | roleuserc =>
          refine effect_of_found ext s (setExistenceOfRole_run ext s _) (fun role => ?_)
          refine effect_of_found ext s (setExistenceOfUser_run ext s _) (fun user => ?_)
          rw [admInsert_run_store]
          exact roleuserc_effect ext s accepted ((hasRole_iff s).mp role)
            ((hasUser_iff s).mp user)
      | roleuseruc =>
          refine effect_of_found ext s (setExistenceOfRole_run ext s _) (fun _ => ?_)
          refine effect_of_found ext s (setExistenceOfUser_run ext s _) (fun _ => ?_)
          exact .roleuserdisconnect accepted _
      | nglist => exact .nothing
      | listuser => exact .nothing
      | listacl => exact .nothing

end WendzelNNTPd
