import WendzelNNTPd.Database.Sqlite3

/-! What the checks of the server decide: `db_sqlite3_acl_check_user_group` answers by the rows
of the three access tables alone, the checks of a newsgroup by its row, and none of them
changes anything. -/

namespace WendzelNNTPd

open CString Atomic

/-- A direct entry for the user and the newsgroup, or an entry for one of the user's roles. -/
def Store.aclAllows (s : Store) (user newsgroup : Str) : Bool :=
  s.aclUsers.contains ⟨user, newsgroup⟩
  || s.users2roles.any (fun ur => ur.username == user && s.aclRoles.contains ⟨ur.role, newsgroup⟩)

theorem aclAllows_iff {s : Store} {user newsgroup : Str}
    : s.aclAllows user newsgroup = true
      ↔ ⟨user, newsgroup⟩ ∈ s.aclUsers
        ∨ ∃ role, ⟨user, role⟩ ∈ s.users2roles ∧ ⟨role, newsgroup⟩ ∈ s.aclRoles := by
  simp only [Store.aclAllows, Bool.or_eq_true, List.contains_iff_mem, List.any_eq_true,
    Bool.and_eq_true, beq_iff_eq]
  constructor
  · rintro (direct | ⟨ur, member, rfl, viaRole⟩)
    · exact Or.inl direct
    · exact Or.inr ⟨ur.role, member, viaRole⟩
  · rintro (direct | ⟨role, member, viaRole⟩)
    · exact Or.inl direct
    · exact Or.inr ⟨⟨user, role⟩, member, rfl, viaRole⟩

theorem selectAclUsers_isEmpty (s : Store) (user newsgroup : Str)
    : (s.aclUsers.filter (fun a => a.username == user && a.ng == newsgroup)).isEmpty
      = !s.aclUsers.contains ⟨user, newsgroup⟩ := by
  rw [Bool.eq_iff_iff]
  simp only [List.isEmpty_iff, List.filter_eq_nil_iff, Bool.and_eq_true, beq_iff_eq, not_and,
    Bool.not_eq_true', ← Bool.not_eq_true, List.contains_iff_mem]
  constructor
  · intro missing member
    exact missing _ member rfl rfl
  · rintro missing a member rfl rfl
    exact missing member

theorem selectAclRoles_isEmpty (s : Store) (user newsgroup : Str)
    : ((s.users2roles.flatMap (fun ur => s.aclRoles.map (fun ar => (ur, ar)))).filter
        (fun (ur, ar) => ur.username == user && ur.role == ar.role && ar.ng == newsgroup)).isEmpty
      = !s.users2roles.any
          (fun ur => ur.username == user && s.aclRoles.contains ⟨ur.role, newsgroup⟩) := by
  rw [Bool.eq_iff_iff]
  simp only [List.isEmpty_iff, List.filter_eq_nil_iff, Bool.not_eq_true', ← Bool.not_eq_true,
    List.any_eq_true, List.mem_flatMap, List.mem_map]
  constructor
  · rintro missing ⟨ur, member, granted⟩
    simp only [Bool.and_eq_true, beq_iff_eq, List.contains_iff_mem] at granted
    refine missing (ur, ⟨ur.role, newsgroup⟩) ⟨ur, member, _, granted.2, rfl⟩ ?_
    simp [granted.1]
  · rintro missing _ ⟨ur, member, ar, granted, rfl⟩ found
    simp only [Bool.and_eq_true, beq_iff_eq] at found
    refine missing ⟨ur, member, ?_⟩
    obtain ⟨⟨sameUser, sameRole⟩, sameGroup⟩ := found
    subst sameGroup
    rw [sameRole]
    simpa [sameUser] using granted

section Runs

variable (ext : Extern) (s : Store) (session : Session)

/-- A statement and what is done with its result, running alone. -/
theorem run_sql_bind {α : Type} (op : Stmt) (f : op.Result → Srv α)
    : ((sql op >>= f).run session).run (exec ext) s
      = ((f (exec ext op s).1).run session).run (exec ext) (exec ext op s).2 :=
  rfl

/-- The access check answers whether the tables allow the access.
Witness: by the result of the first query; only without a direct entry is the join asked.
-/
theorem dbAclCheckUserGroup_run (user newsgroup : Str)
    : ((dbAclCheckUserGroup user newsgroup).run session).run (exec ext) s
      = (.ok (s.aclAllows user newsgroup, session), s) := by
  have direct := selectAclUsers_isEmpty s user newsgroup
  have viaRole := selectAclRoles_isEmpty s user newsgroup
  unfold dbAclCheckUserGroup
  refine (run_sql_bind ext s session (.selectAclUsers user newsgroup) _).trans ?_
  simp only [exec, direct]
  cases found : s.aclUsers.contains ⟨user, newsgroup⟩ with
  | true =>
      simp only [Store.aclAllows, found, Bool.true_or]
      rfl
  | false =>
      refine (run_sql_bind ext s session (.selectAclRoles user newsgroup) _).trans ?_
      simp only [exec, viaRole, Store.aclAllows, found, Bool.not_not, Bool.false_or]
      rfl

/-- Without a user there is no access. -/
def Store.userAllows (s : Store) (user : Option Str) (newsgroup : Str) : Bool :=
  user.any (fun user => s.aclAllows user newsgroup)

theorem aclCheckUserGroup_run (user : Option Str) (newsgroup : Str)
    : ((aclCheckUserGroup user newsgroup).run session).run (exec ext) s
      = (.ok (s.userAllows user newsgroup, session), s) := by
  cases user with
  | none => rfl
  | some user => exact dbAclCheckUserGroup_run ext s session user newsgroup

end Runs

section Lookups

variable (ext : Extern) (r : Session) (s : Store) {name : Str}

theorem dbCheckNewsgroupExistence_run (chkname : r.chkname = some name)
    : (dbCheckNewsgroupExistence.run r).run (exec ext) s
      = (.ok ((), { r with foundGroup := !(s.newsgroups.filter (·.name == name)).isEmpty }), s) := by
  obtain ⟨⟩ := r
  cases chkname
  rfl

theorem dbCheckNewsgroupPostingAllowed_run (chkname : r.chkname = some name)
    : (dbCheckNewsgroupPostingAllowed.run r).run (exec ext) s
      = (.ok ((),
          { r with
            foundGroup := !(s.newsgroups.filter
              (fun g => g.name == name && g.pflag == 'y')).isEmpty }), s) := by
  obtain ⟨⟩ := r
  cases chkname
  rfl

end Lookups

end WendzelNNTPd
