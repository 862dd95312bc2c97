import WendzelNNTPd.Admin.Effects
import WendzelNNTPd.Database.AclCheck

/-! Referential integrity of the access tables. The SQLite schema declares no foreign keys:
the existence checks of the grants and the extra statements of the deletes keep the rows
in step. A name that is deleted and created again starts without any rights.
-/

namespace WendzelNNTPd

open CString Atomic

/-- Every row of the access tables names existing users, roles and newsgroups. -/
structure Store.AclIntegrity (s : Store) : Prop where
  aclUsers : ∀ a ∈ s.aclUsers, s.HasUser a.username ∧ s.HasGroup a.ng
  users2roles : ∀ a ∈ s.users2roles, s.HasUser a.username ∧ a.role ∈ s.roles
  aclRoles : ∀ a ∈ s.aclRoles, a.role ∈ s.roles ∧ s.HasGroup a.ng

/-- What an access row can name. -/
inductive AclName
  | user (name : Str)
  | role (name : Str)
  | group (name : Str)
  deriving DecidableEq, Repr

def Store.Has (s : Store) : AclName → Prop
  | .user name => s.HasUser name
  | .role name => name ∈ s.roles
  | .group name => s.HasGroup name

/-- No row of the access tables names it. -/
def Store.Ungranted (s : Store) : AclName → Prop
  | .user name =>
      (∀ a ∈ s.aclUsers, a.username ≠ name) ∧ ∀ a ∈ s.users2roles, a.username ≠ name
  | .role name => (∀ a ∈ s.users2roles, a.role ≠ name) ∧ ∀ a ∈ s.aclRoles, a.role ≠ name
  | .group name => (∀ a ∈ s.aclUsers, a.ng ≠ name) ∧ ∀ a ∈ s.aclRoles, a.ng ≠ name

/-- The names in a grant command: `addacluser`, `rolegroupconnect`, `roleuserconnect`. -/
def grantNames (args : List Str) : List AclName :=
  match admAccepts args with
  | some .addacluser => [.user (argv args 2), .group (argv args 3)]
  | some .rolegroupc => [.role (argv args 2), .group (argv args 3)]
  | some .roleuserc => [.role (argv args 2), .user (argv args 3)]
  | _ => []

/-- The name in a delete command: `delgroup`, `deluser`, `delaclrole`. -/
def deleteName (args : List Str) : Option AclName :=
  match admAccepts args with
  | some .ngdelete => some (.group (argv args 2))
  | some .deluser => some (.user (argv args 2))
  | some .delaclrole => some (.role (argv args 2))
  | _ => none

/-- The access check lets nobody in through a name. A user or a newsgroup is refused as
such; for a role, all answers are those of the store without it. -/
def Store.GrantsNothing (ext : Extern) (s : Store) : AclName → Prop
  | .user name =>
      ∀ group session,
        ((dbAclCheckUserGroup name group).run session).run (exec ext) s
          = (.ok (false, session), s)
  | .group name =>
      ∀ user session,
        ((dbAclCheckUserGroup user name).run session).run (exec ext) s
          = (.ok (false, session), s)
  | .role name =>
      ∀ user group session,
        (((dbAclCheckUserGroup user group).run session).run (exec ext) s).1
          = (((dbAclCheckUserGroup user group).run session).run (exec ext) (s.withoutRole name)).1

theorem aclIntegrity_empty : Store.empty.AclIntegrity := by
  refine ⟨?_, ?_, ?_⟩
  all_goals
    intro a member
    cases member

section Tables

variable {s : Store}

theorem hasUser_withoutUser {user name : Str}
    : (s.withoutUser user).HasUser name ↔ s.HasUser name ∧ name ≠ user := by
  simp only [Store.HasUser, Store.withoutUser, List.mem_filter, bne_iff_ne]
  constructor
  · rintro ⟨u, ⟨member, other⟩, rfl⟩
    exact ⟨⟨u, member, rfl⟩, other⟩
  · rintro ⟨⟨u, member, rfl⟩, other⟩
    exact ⟨u, ⟨member, other⟩, rfl⟩

theorem mem_roles_withoutRole {role name : Str}
    : name ∈ (s.withoutRole role).roles ↔ name ∈ s.roles ∧ name ≠ role := by
  simp [Store.withoutRole]

/-- With integrity, what does not exist is not named. -/
theorem Store.AclIntegrity.ungranted (integrity : s.AclIntegrity) {name : AclName}
    (missing : ¬s.Has name)
    : s.Ungranted name := by
  cases name with
  | user name =>
      refine ⟨?_, ?_⟩
      · rintro a member rfl
        exact missing (integrity.aclUsers a member).1
      · rintro a member rfl
        exact missing (integrity.users2roles a member).1
  | role name =>
      refine ⟨?_, ?_⟩
      · rintro a member rfl
        exact missing (integrity.users2roles a member).2
      · rintro a member rfl
        exact missing (integrity.aclRoles a member).1
  | group name =>
      refine ⟨?_, ?_⟩
      · rintro a member rfl
        exact missing (integrity.aclUsers a member).2
      · rintro a member rfl
        exact missing (integrity.aclRoles a member).2

/-- A name no row mentions lets nobody in. -/
theorem grantsNothing_of_ungranted (ext : Extern) {name : AclName} (ungranted : s.Ungranted name)
    : s.GrantsNothing ext name := by
  cases name with
  | user name =>
      intro group session
      rw [dbAclCheckUserGroup_run]
      have refused : s.aclAllows name group = false := by
        rw [Bool.eq_false_iff, ne_eq, aclAllows_iff]
        rintro (direct | ⟨role, member, -⟩)
        · exact ungranted.1 _ direct rfl
        · exact ungranted.2 _ member rfl
      rw [refused]
  | group name =>
      intro user session
      rw [dbAclCheckUserGroup_run]
      have refused : s.aclAllows user name = false := by
        rw [Bool.eq_false_iff, ne_eq, aclAllows_iff]
        rintro (direct | ⟨role, -, member⟩)
        · exact ungranted.1 _ direct rfl
        · exact ungranted.2 _ member rfl
      rw [refused]
  | role name =>
      intro user group session
      rw [dbAclCheckUserGroup_run, dbAclCheckUserGroup_run]
      have sameUsers : (s.withoutRole name).users2roles = s.users2roles := by
        simpa [Store.withoutRole, List.filter_eq_self] using ungranted.1
      have sameRoles : (s.withoutRole name).aclRoles = s.aclRoles := by
        simpa [Store.withoutRole, List.filter_eq_self] using ungranted.2
      simp only [Store.aclAllows, sameUsers, sameRoles]
      rfl

end Tables

section Steps

variable {args : List Str} {s s' : Store}

/-- The step lemma of the integrity: one case for each change of the tool. -/
theorem AdmEffect.keeps_integrity (effect : AdmEffect args s s') (integrity : s.AclIntegrity)
    : s'.AclIntegrity := by
  cases effect with
  | nothing => exact integrity
  | addgroup pflag mode valid fresh flag =>
      have kept {name : Str} (has : s.HasGroup name)
          : Store.HasGroup { s with newsgroups := s.newsgroups ++ [⟨argv args 2, pflag, 0⟩] } name := by
        obtain ⟨g, member, same⟩ := has
        exact ⟨g, List.mem_append_left _ member, same⟩
      refine ⟨?_, integrity.users2roles, ?_⟩
      · intro a member
        exact ⟨(integrity.aclUsers a member).1, kept (integrity.aclUsers a member).2⟩
      · intro a member
        exact ⟨(integrity.aclRoles a member).1, kept (integrity.aclRoles a member).2⟩
  | delgroup mode =>
      refine ⟨?_, integrity.users2roles, ?_⟩
      · intro a member
        obtain ⟨old, other⟩ := List.mem_filter.mp member
        obtain ⟨user, group⟩ := integrity.aclUsers a old
        exact ⟨user, hasGroup_withoutGroup.mpr ⟨group, bne_iff_ne.mp other⟩⟩
      · intro a member
        obtain ⟨old, other⟩ := List.mem_filter.mp member
        obtain ⟨role, group⟩ := integrity.aclRoles a old
        exact ⟨role, hasGroup_withoutGroup.mpr ⟨group, bne_iff_ne.mp other⟩⟩
  | modgroup pflag mode =>
      refine ⟨?_, integrity.users2roles, ?_⟩
      · intro a member
        exact ⟨(integrity.aclUsers a member).1,
          hasGroup_withPflag.mpr (integrity.aclUsers a member).2⟩
      · intro a member
        exact ⟨(integrity.aclRoles a member).1,
          hasGroup_withPflag.mpr (integrity.aclRoles a member).2⟩
  | adduser password mode =>
      have kept {name : Str} (has : s.HasUser name)
          : Store.HasUser { s with users := s.users ++ [⟨argv args 2, password⟩] } name := by
        obtain ⟨u, member, same⟩ := has
        exact ⟨u, List.mem_append_left _ member, same⟩
      refine ⟨?_, ?_, integrity.aclRoles⟩
      · intro a member
        exact ⟨kept (integrity.aclUsers a member).1, (integrity.aclUsers a member).2⟩
      · intro a member
        exact ⟨kept (integrity.users2roles a member).1, (integrity.users2roles a member).2⟩
  | deluser mode =>
      refine ⟨?_, ?_, integrity.aclRoles⟩
      · intro a member
        obtain ⟨old, other⟩ := List.mem_filter.mp member
        obtain ⟨user, group⟩ := integrity.aclUsers a old
        exact ⟨hasUser_withoutUser.mpr ⟨user, bne_iff_ne.mp other⟩, group⟩
      · intro a member
        obtain ⟨old, other⟩ := List.mem_filter.mp member
        obtain ⟨user, role⟩ := integrity.users2roles a old
        exact ⟨hasUser_withoutUser.mpr ⟨user, bne_iff_ne.mp other⟩, role⟩
  | addacluser mode user group =>
      refine ⟨?_, integrity.users2roles, integrity.aclRoles⟩
      intro a member
      rcases List.mem_append.mp member with old | new
      · exact integrity.aclUsers a old
      · obtain rfl := List.mem_singleton.mp new
        exact ⟨user, group⟩
  | delacluser mode keep =>
      refine ⟨?_, integrity.users2roles, integrity.aclRoles⟩
      intro a member
      exact integrity.aclUsers a (List.mem_filter.mp member).1
  | addaclrole mode =>
      refine ⟨integrity.aclUsers, ?_, ?_⟩
      · intro a member
        obtain ⟨user, role⟩ := integrity.users2roles a member
        exact ⟨user, List.mem_append_left _ role⟩
      · intro a member
        obtain ⟨role, group⟩ := integrity.aclRoles a member
        exact ⟨List.mem_append_left _ role, group⟩
  | delaclrole mode =>
      refine ⟨integrity.aclUsers, ?_, ?_⟩
      · intro a member
        obtain ⟨old, other⟩ := List.mem_filter.mp member
        obtain ⟨user, role⟩ := integrity.users2roles a old
        exact ⟨user, mem_roles_withoutRole.mpr ⟨role, bne_iff_ne.mp other⟩⟩
      · intro a member
        obtain ⟨old, other⟩ := List.mem_filter.mp member
        obtain ⟨role, group⟩ := integrity.aclRoles a old
        exact ⟨mem_roles_withoutRole.mpr ⟨role, bne_iff_ne.mp other⟩, group⟩
  | rolegroupconnect mode role group =>
      refine ⟨integrity.aclUsers, integrity.users2roles, ?_⟩
      intro a member
      rcases List.mem_append.mp member with old | new
      · exact integrity.aclRoles a old
      · obtain rfl := List.mem_singleton.mp new
        exact ⟨role, group⟩
  | rolegroupdisconnect mode keep =>
      refine ⟨integrity.aclUsers, integrity.users2roles, ?_⟩
      intro a member
      exact integrity.aclRoles a (List.mem_filter.mp member).1
  | roleuserconnect mode role user =>
      refine ⟨integrity.aclUsers, ?_, integrity.aclRoles⟩
      intro a member
      rcases List.mem_append.mp member with old | new
      · exact integrity.users2roles a old
      · obtain rfl := List.mem_singleton.mp new
        exact ⟨user, role⟩
  | roleuserdisconnect mode keep =>
      refine ⟨integrity.aclUsers, ?_, integrity.aclRoles⟩
      intro a member
      exact integrity.users2roles a (List.mem_filter.mp member).1

/-- Rows that only disappear leave an ungranted name ungranted. -/
theorem Store.Ungranted.of_subset {name : AclName} (ungranted : s.Ungranted name)
    (aclUsers : s'.aclUsers ⊆ s.aclUsers) (users2roles : s'.users2roles ⊆ s.users2roles)
    (aclRoles : s'.aclRoles ⊆ s.aclRoles)
    : s'.Ungranted name := by
  cases name with
  | user name =>
      exact ⟨fun a member => ungranted.1 a (aclUsers member),
        fun a member => ungranted.2 a (users2roles member)⟩
  | role name =>
      exact ⟨fun a member => ungranted.1 a (users2roles member),
        fun a member => ungranted.2 a (aclRoles member)⟩
  | group name =>
      exact ⟨fun a member => ungranted.1 a (aclUsers member),
        fun a member => ungranted.2 a (aclRoles member)⟩

/-- A property of all old rows and of the appended one holds of all rows. -/
theorem forall_mem_append_row {α : Type} {P : α → Prop} {l : List α} {row : α}
    (old : ∀ a ∈ l, P a) (new : P row)
    : ∀ a ∈ l ++ [row], P a := by
  intro a member
  rcases List.mem_append.mp member with inside | last
  · exact old a inside
  · rw [List.mem_singleton.mp last]
    exact new

/-- The new access rows of a call name only what the command names. -/
theorem AdmEffect.keeps_ungranted (effect : AdmEffect args s s') {name : AclName}
    (unnamed : name ∉ grantNames args) (ungranted : s.Ungranted name)
    : s'.Ungranted name := by
  have all {α : Type} (l : List α) : l ⊆ l := fun _ member => member
  cases effect with
  | nothing => exact ungranted
  | addgroup pflag mode valid fresh flag =>
      exact ungranted.of_subset (all _) (all _) (all _)
  | delgroup mode =>
      exact ungranted.of_subset (List.filter_subset_self _) (all _) (List.filter_subset_self _)
  | modgroup pflag mode => exact ungranted.of_subset (all _) (all _) (all _)
  | adduser password mode => exact ungranted.of_subset (all _) (all _) (all _)
  | deluser mode =>
      exact ungranted.of_subset (List.filter_subset_self _) (List.filter_subset_self _) (all _)
  | delacluser mode keep =>
      exact ungranted.of_subset (List.filter_subset_self _) (all _) (all _)
  | addaclrole mode => exact ungranted.of_subset (all _) (all _) (all _)
  | delaclrole mode =>
      exact ungranted.of_subset (all _) (List.filter_subset_self _) (List.filter_subset_self _)
  | rolegroupdisconnect mode keep =>
      exact ungranted.of_subset (all _) (all _) (List.filter_subset_self _)
  | roleuserdisconnect mode keep =>
      exact ungranted.of_subset (all _) (List.filter_subset_self _) (all _)
  | addacluser mode user group =>
      simp only [grantNames, mode, List.mem_cons, List.not_mem_nil, or_false, not_or] at unnamed
      cases name with
      | user name =>
          refine ⟨forall_mem_append_row ungranted.1 ?_, ungranted.2⟩
          rintro rfl
          exact unnamed.1 rfl
      | role name => exact ungranted
      | group name =>
          refine ⟨forall_mem_append_row ungranted.1 ?_, ungranted.2⟩
          rintro rfl
          exact unnamed.2 rfl
  | rolegroupconnect mode role group =>
      simp only [grantNames, mode, List.mem_cons, List.not_mem_nil, or_false, not_or] at unnamed
      cases name with
      | user name => exact ungranted
      | role name =>
          refine ⟨ungranted.1, forall_mem_append_row ungranted.2 ?_⟩
          rintro rfl
          exact unnamed.1 rfl
      | group name =>
          refine ⟨ungranted.1, forall_mem_append_row ungranted.2 ?_⟩
          rintro rfl
          exact unnamed.2 rfl
  | roleuserconnect mode role user =>
      simp only [grantNames, mode, List.mem_cons, List.not_mem_nil, or_false, not_or] at unnamed
      cases name with
      | user name =>
          refine ⟨ungranted.1, forall_mem_append_row ungranted.2 ?_⟩
          rintro rfl
          exact unnamed.2 rfl
      | role name =>
          refine ⟨forall_mem_append_row ungranted.1 ?_, ungranted.2⟩
          rintro rfl
          exact unnamed.1 rfl
      | group name => exact ungranted

end Steps

section Runs

variable (ext : Extern) (hashSalt : Str)

/-- A delete command leaves nothing of its name, whether it deletes or finds nothing. -/
theorem admCall_deletes (s : Store) (call : AdmCall) {name : AclName}
    (named : deleteName call.args = some name)
    : ¬(admCall ext hashSalt s call).Has name := by
  obtain ⟨args, typed⟩ := call
  simp only [admCall, admMain]
  simp only [deleteName] at named
  split at named
  · rename_i mode
    cases named
    rw [mode]
    refine run_exitIfNotExists ext s (fun t => ¬t.Has (.group (argv args 2)))
      (setExistenceOfNewsgroup_run ext s (argv args 2)) (fun missing => ?_) (fun _ => ?_)
    · show ¬s.HasGroup (argv args 2)
      rw [← hasGroup_iff, missing]
      exact Bool.false_ne_true
    · show ¬(s.withoutGroup (argv args 2)).HasGroup (argv args 2)
      rw [hasGroup_withoutGroup]
      exact fun has => has.2 rfl
  · rename_i mode
    cases named
    rw [mode]
    refine run_exitIfNotExists ext s (fun t => ¬t.Has (.user (argv args 2)))
      (setExistenceOfUser_run ext s (argv args 2)) (fun missing => ?_) (fun _ => ?_)
    · show ¬s.HasUser (argv args 2)
      rw [← hasUser_iff, missing]
      exact Bool.false_ne_true
    · rw [dbDelUser_run]
      show ¬(s.withoutUser (argv args 2)).HasUser (argv args 2)
      rw [hasUser_withoutUser]
      exact fun has => has.2 rfl
  · rename_i mode
    cases named
    rw [mode]
    refine run_exitIfNotExists ext s (fun t => ¬t.Has (.role (argv args 2)))
      (setExistenceOfRole_run ext s (argv args 2)) (fun missing => ?_) (fun _ => ?_)
    · show argv args 2 ∉ s.roles
      rw [← hasRole_iff, missing]
      exact Bool.false_ne_true
    · rw [dbAclDelRole_run]
      show argv args 2 ∉ (s.withoutRole (argv args 2)).roles
      rw [mem_roles_withoutRole]
      exact fun has => has.2 rfl
  · exact absurd named (by simp)

/-- The run lemma of the integrity. -/
theorem admCalls_keeps_integrity (calls : List AdmCall) {s : Store} (integrity : s.AclIntegrity)
    : (admCalls ext hashSalt s calls).AclIntegrity := by
  induction calls generalizing s with
  | nil => exact integrity
  | cons call rest ih => exact ih ((admCall_effect ext hashSalt s call).keeps_integrity integrity)

/-- A name stays ungranted as long as no grant names it. -/
theorem admCalls_keeps_ungranted (calls : List AdmCall) {s : Store} {name : AclName}
    (unnamed : ∀ call ∈ calls, name ∉ grantNames call.args) (ungranted : s.Ungranted name)
    : (admCalls ext hashSalt s calls).Ungranted name := by
  induction calls generalizing s with
  | nil => exact ungranted
  | cons call rest ih =>
      have first := (admCall_effect ext hashSalt s call).keeps_ungranted
        (unnamed call (by simp)) ungranted
      exact ih (fun later member => unnamed later (List.mem_cons_of_mem call member)) first

/-- From empty tables, every sequence of commands leaves access rows that name only what
exists. After a delete command the access check grants nothing through the deleted name,
even if it is created again, until a grant names it.
Witness: `AdmEffect.keeps_integrity` over the run; a deleted name is missing, hence not
named by any row, and only a grant with this name adds such a row.
-/
theorem admCalls_aclIntegrity (calls : List AdmCall)
    : (admCalls ext hashSalt Store.empty calls).AclIntegrity
      ∧ ∀ before delete after name,
          calls = before ++ delete :: after
          → deleteName delete.args = some name
          → (∀ call ∈ after, name ∉ grantNames call.args)
          → (admCalls ext hashSalt Store.empty calls).GrantsNothing ext name := by
  refine ⟨admCalls_keeps_integrity ext hashSalt calls aclIntegrity_empty, ?_⟩
  rintro before delete after name rfl named unnamed
  have missing := admCall_deletes ext hashSalt (admCalls ext hashSalt Store.empty before)
    delete named
  have integrity := admCalls_keeps_integrity ext hashSalt (before ++ [delete]) aclIntegrity_empty
  simp only [admCalls, List.foldl_append, List.foldl_cons, List.foldl_nil] at integrity missing ⊢
  apply grantsNothing_of_ungranted
  exact admCalls_keeps_ungranted ext hashSalt after unnamed (integrity.ungranted missing)

end Runs

/-- Library functions that the commands on newsgroups and roles never call. -/
def uncalledExtern : Extern := ⟨fun _ => [], fun _ _ => false, fun _ => [], fun _ _ => false⟩

/-- A role is connected with a newsgroup, which is deleted and created again. -/
theorem recreated_group_grants_nothing
    : (admCalls uncalledExtern [] Store.empty
        ([⟨["addgroup".toList, "a".toList, "y".toList], []⟩,
          ⟨["addaclrole".toList, "r".toList], []⟩,
          ⟨["rolegroupconnect".toList, "r".toList, "a".toList], []⟩]
          ++ ⟨["delgroup".toList, "a".toList], []⟩
            :: [⟨["addgroup".toList, "a".toList, "y".toList], []⟩])).GrantsNothing
        uncalledExtern (.group "a".toList) :=
  (admCalls_aclIntegrity uncalledExtern [] _).2 _ _ _ _ rfl (by decide) (by decide)

end WendzelNNTPd
