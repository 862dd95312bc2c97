import WendzelNNTPd.Admin.AclIntegrity
import WendzelNNTPd.Admin.BackendAgreement
import WendzelNNTPd.Posting.DeletedGroup

/-! `delgroup` on the three backends. SQLite and MySQL delete in five statements, the last of
which removes the postings that are filed nowhere any more. PostgreSQL deletes the newsgroup
and leaves the rest to the foreign keys; none of them leads from `ngposts` to `postings`, so
an article that was filed in this newsgroup only stays behind.
-/

namespace WendzelNNTPd

open CString Atomic

/-- Every row that refers to another one refers to one that exists. -/
structure Store.Integrity (s : Store) : Prop where
  filed : s.Filed
  acl : s.AclIntegrity

/-- What is left of a store when a newsgroup is deleted from it: no row names the newsgroup,
there are exactly those postings that are filed in a remaining newsgroup, and the rows of the
other newsgroups are as before. -/
structure Store.GroupDeleted (s s' : Store) (group : Str) : Prop where
  newsgroups : ∀ g ∈ s'.newsgroups, g.name ≠ group
  ngposts : ∀ n ∈ s'.ngposts, n.ng ≠ group
  aclUsers : ∀ a ∈ s'.aclUsers, a.ng ≠ group
  aclRoles : ∀ a ∈ s'.aclRoles, a.ng ≠ group
  postings
    : ∀ p, p ∈ s'.postings
        ↔ p ∈ s.postings ∧ ∃ n ∈ s'.ngposts, n.msgid = p.msgid ∧ s'.HasGroup n.ng
  otherNewsgroups
    : s'.newsgroups.filter (·.name != group) = s.newsgroups.filter (·.name != group)
  otherNgposts : s'.ngposts.filter (·.ng != group) = s.ngposts.filter (·.ng != group)
  otherAclUsers : s'.aclUsers.filter (·.ng != group) = s.aclUsers.filter (·.ng != group)
  otherAclRoles : s'.aclRoles.filter (·.ng != group) = s.aclRoles.filter (·.ng != group)

/-- Every posting is filed in a newsgroup other than this one. -/
def Store.FiledElsewhere (s : Store) (group : Str) : Prop :=
  ∀ p ∈ s.postings, ∃ n ∈ s.ngposts, n.msgid = p.msgid ∧ n.ng ≠ group

/-- The longest name that `main` lets through. -/
def maxNameLength : Nat := bufsize - 0xff

/-- `wendzelnntpadm delgroup` -/
def delgroupCall (group typed : Str) : AdmCall := ⟨["delgroup".toList, group], typed⟩

/-- The store behind the statement of PostgreSQL and its cascades. -/
def Store.cascaded (s : Store) (group : Str) : Store :=
  { s with
    ngposts := s.ngposts.filter (·.ng != group)
    aclUsers := s.aclUsers.filter (·.ng != group)
    aclRoles := s.aclRoles.filter (·.ng != group)
    newsgroups := s.newsgroups.filter (·.name != group) }

-----------------------------------------------------------------------------------------
-- The two stores behind a deletion
-----------------------------------------------------------------------------------------

section Stores

variable {s : Store} {group : Str}

theorem ne_of_mem_filter_bne {α : Type} {column : α → Str} {table : List α}
    : ∀ a ∈ table.filter (fun a => column a != group), column a ≠ group := by
  intro a member
  simpa using (List.mem_filter.mp member).2

/-- The rows that are left of `ngposts` are filed in newsgroups that are left. -/
theorem Store.Filed.hasGroup_cascaded (filed : s.Filed) {n : Ngpost}
    (member : n ∈ (s.cascaded group).ngposts)
    : (s.cascaded group).HasGroup n.ng := by
  obtain ⟨before, other⟩ := List.mem_filter.mp member
  obtain ⟨g, there, named⟩ := filed.group n before
  refine ⟨g, List.mem_filter.mpr ⟨there, ?_⟩, named⟩
  rw [named]
  exact other

/-- A store with the tables of the cascades deletes the newsgroup if its postings are the
ones that are still filed. -/
theorem groupDeleted_of_postings {postings : List Posting} (filed : s.Filed)
    (exactly
      : ∀ p, p ∈ postings
          ↔ p ∈ s.postings ∧ ∃ n ∈ s.ngposts.filter (·.ng != group), n.msgid = p.msgid)
    : s.GroupDeleted { s.cascaded group with postings := postings } group where
  newsgroups := ne_of_mem_filter_bne
  ngposts := ne_of_mem_filter_bne
  aclUsers := ne_of_mem_filter_bne
  aclRoles := ne_of_mem_filter_bne
  postings := by
    intro p
    rw [exactly p]
    refine and_congr_right (fun _ => exists_congr (fun n => and_congr_right (fun member => ?_)))
    exact (and_iff_left (filed.hasGroup_cascaded member)).symm
  otherNewsgroups := filter_twice _ _
  otherNgposts := filter_twice _ _
  otherAclUsers := filter_twice _ _
  otherAclRoles := filter_twice _ _

/-- The five statements delete the newsgroup. -/
theorem groupDeleted_withoutGroup (filed : s.Filed)
    : s.GroupDeleted (s.withoutGroup group) group := by
  refine groupDeleted_of_postings filed (fun p => ?_)
  simp only [List.mem_filter, List.any_eq_true, beq_iff_eq]

/-- The cascades delete the newsgroup if nothing was filed in it only.
Witness: they leave `postings` as it is.
-/
theorem groupDeleted_cascaded_iff (filed : s.Filed)
    : s.GroupDeleted (s.cascaded group) group ↔ s.FiledElsewhere group := by
  constructor
  · intro deleted p member
    obtain ⟨_, n, left, same, _⟩ := (deleted.postings p).mp member
    exact ⟨n, (List.mem_filter.mp left).1, same, deleted.ngposts n left⟩
  · intro elsewhere
    refine groupDeleted_of_postings filed (fun p => ⟨fun member => ⟨member, ?_⟩, And.left⟩)
    obtain ⟨n, before, same, other⟩ := elsewhere p member
    exact ⟨n, List.mem_filter.mpr ⟨before, bne_iff_ne.mpr other⟩, same⟩

/-- A store that still has the newsgroup has not deleted it. -/
theorem not_groupDeleted_self (there : s.HasGroup group) : ¬s.GroupDeleted s group := by
  intro deleted
  obtain ⟨g, member, named⟩ := there
  exact deleted.newsgroups g member named

end Stores

-----------------------------------------------------------------------------------------
-- The call
-----------------------------------------------------------------------------------------

section Call

variable {ext : Extern} {s : Store} {group : Str}

/-- `main` lets `delgroup` through unless the name is too long. -/
theorem admAccepts_delgroup (group : Str)
    : admAccepts ["delgroup".toList, group]
      = if group.length ≤ maxNameLength then some .ngdelete else none := by
  have known : admMode "delgroup".toList = some .ngdelete := by decide
  simp only [admAccepts, known, Option.bind_eq_bind, Option.bind_some]
  by_cases short : group.length ≤ maxNameLength
  · have fits : ¬group.length > bufsize - 0xff := Nat.not_lt.mpr short
    rw [if_pos short]
    simp [AdmMode.isList, AdmMode.needsTwo, fits]
  · have long : group.length > bufsize - 0xff := Nat.lt_of_not_le short
    rw [if_neg short]
    simp [AdmMode.isList, AdmMode.needsTwo, long]

/-- Behind a check that finds its name the rest of a command runs on the unchanged store. -/
theorem run_behind_found {engine : Exec Sql Store} {check : Adm Bool} {rest : Adm Unit}
    (found : check.run engine s = (.ok true, s))
    : (exitIfNotExists check >>= fun _ => rest).run engine s = rest.run engine s := by
  simp only [exitIfNotExists, Prog.run_bind, found]
  rfl

/-- The check of SQLite finds a newsgroup that is there. -/
theorem run_setExistenceOfNewsgroup_of_has (there : s.HasGroup group)
    : (setExistenceOfNewsgroup group).run (exec ext) s = (.ok true, s) := by
  rw [setExistenceOfNewsgroup_run, (hasGroup_iff s).mpr there]

/-- MySQL deletes with the statements of SQLite; the cascade of the fourth one finds nothing
left. -/
theorem run_mysql_deleteNewsgroup (server : MysqlServer) (plain : SqlLiteral.plain group = true)
    : ((mysqlBackend server).deleteNewsgroup group).run (execOn .mysql ext) s
      = (.ok (), s.withoutGroup group) := by
  simp only [mysqlBackend, mysqlDo_of_plain (plain_one plain)]
  rw [mysqlDo_of_plain (by simp)]
  simp [admDo, Prog.run, execOn, schemaExec, exec, whereEq, Store.withoutGroup, bne]

theorem run_postgres_deleteNewsgroup
    : (postgresBackend.deleteNewsgroup group).run (execOn .postgres ext) s
      = (.ok (), s.cascaded group) := by
  simp only [postgresBackend]
  rw [postgresDo_of_required (by rfl)]
  rfl

/-- The store behind an accepted `delgroup`. -/
def Store.behindDelgroup (s : Store) (group : Str) : Dbase → Store
  | .postgres => s.cascaded group
  | _ => s.withoutGroup group

/-- The two statements of `delgroup`, the check and the deletion, on each backend. -/
theorem run_delgroup (server : MysqlServer) {dbase : Dbase} (there : s.HasGroup group)
    (plain : dbase = .mysql → SqlLiteral.plain group = true)
    : (exitIfNotExists ((admBackend server dbase).chkNewsgroupExistence group)
        >>= fun _ => (admBackend server dbase).deleteNewsgroup group).run (execOn dbase ext) s
      = (.ok (), s.behindDelgroup group dbase) := by
  cases dbase with
  | sqlite3 => exact run_behind_found (run_setExistenceOfNewsgroup_of_has there)
  | mysql =>
      have found := (mysqlBackend_follows server ext).chkNewsgroup group s (plain rfl)
      rw [run_setExistenceOfNewsgroup_of_has there] at found
      exact (run_behind_found found).trans (run_mysql_deleteNewsgroup server (plain rfl))
  | postgres =>
      have found := (postgresBackend_follows ext).chkNewsgroup group s trivial
      rw [run_setExistenceOfNewsgroup_of_has there] at found
      exact (run_behind_found found).trans run_postgres_deleteNewsgroup

/-- What a call of `delgroup` does to a store with the newsgroup. -/
theorem admCallOn_delgroup (server : MysqlServer) {dbase : Dbase} (hashSalt typed : Str)
    (there : s.HasGroup group) (plain : dbase = .mysql → SqlLiteral.plain group = true)
    : (admCallOn server dbase ext hashSalt s (delgroupCall group typed)).2
      = if group.length ≤ maxNameLength then s.behindDelgroup group dbase else s := by
  simp only [admCallOn, admMainOn, delgroupCall, admAccepts_delgroup]
  by_cases short : group.length ≤ maxNameLength
  · simp only [if_pos short]
    exact congrArg Prod.snd (run_delgroup server there plain)
  · simp only [if_neg short]
    rfl

/-- `delgroup` deletes a newsgroup, everything filed in it only and nothing else exactly if
`main` lets its name through and, on PostgreSQL, nothing is filed in it only. The names that
`addgroup` admits stand for themselves in the statements of MySQL.
-/
theorem delgroup_deletes_iff (server : MysqlServer) (dbase : Dbase) (ext : Extern)
    (hashSalt typed : Str) {s : Store} {group : Str} (integrity : s.Integrity)
    (there : s.HasGroup group) (plain : dbase = .mysql → SqlLiteral.plain group = true)
    : s.GroupDeleted (admCallOn server dbase ext hashSalt s (delgroupCall group typed)).2 group
      ↔ group.length ≤ maxNameLength ∧ (dbase = .postgres → s.FiledElsewhere group) := by
  rw [admCallOn_delgroup server hashSalt typed there plain]
  by_cases short : group.length ≤ maxNameLength
  · rw [if_pos short, and_iff_right short]
    cases dbase with
    | postgres =>
        rw [forall_prop_of_true rfl]
        exact groupDeleted_cascaded_iff integrity.filed
    | sqlite3 => exact iff_of_true (groupDeleted_withoutGroup integrity.filed) nofun
    | mysql => exact iff_of_true (groupDeleted_withoutGroup integrity.filed) nofun
  · rw [if_neg short]
    exact iff_of_false (not_groupDeleted_self there) (fun holds => short holds.1)

end Call

-----------------------------------------------------------------------------------------
-- An article filed in one newsgroup and one filed in two
-----------------------------------------------------------------------------------------

/-- Two newsgroups, an article in the first one only and an article in both. -/
def twoFiledStore : Store :=
  { Store.empty with
    newsgroups := [⟨"a".toList, 'y', 2⟩, ⟨"b".toList, 'y', 1⟩]
    ngposts :=
      [⟨"<1@h>".toList, "a".toList, 1⟩, ⟨"<2@h>".toList, "a".toList, 2⟩,
        ⟨"<2@h>".toList, "b".toList, 1⟩]
    postings :=
      [⟨"<1@h>".toList, 0, [], "a".toList, [], 1, []⟩,
        ⟨"<2@h>".toList, 0, [], "a,b".toList, [], 1, []⟩] }

theorem twoFiledStore_integrity : twoFiledStore.Integrity where
  filed := ⟨by decide, by decide⟩
  acl := ⟨nofun, nofun, nofun⟩

/-- The store of PostgreSQL behind the deletion of one of the two newsgroups. -/
def twoFiledBehind (group : Str) : Store :=
  (admCallOn refusingServer .postgres uncalledExtern [] twoFiledStore (delgroupCall group [])).2

/-- The newsgroup `b` has no article of its own and is deleted. -/
theorem delgroup_deletes_crossposted
    : twoFiledStore.GroupDeleted (twoFiledBehind "b".toList) "b".toList :=
  (delgroup_deletes_iff refusingServer .postgres uncalledExtern [] [] twoFiledStore_integrity
    (by decide) nofun).mpr ⟨by decide, fun _ => by unfold Store.FiledElsewhere; decide⟩

theorem twoFiledBehind_eq : twoFiledBehind "a".toList = twoFiledStore.cascaded "a".toList :=
  @admCallOn_delgroup uncalledExtern twoFiledStore "a".toList refusingServer .postgres [] []
    (by decide) nofun

/-- The article that was filed in `a` only stays behind without a newsgroup. -/
theorem delgroup_keeps_orphan
    : ¬twoFiledStore.GroupDeleted (twoFiledBehind "a".toList) "a".toList := by
  rw [twoFiledBehind_eq, groupDeleted_cascaded_iff twoFiledStore_integrity.filed]
  unfold Store.FiledElsewhere
  decide

end WendzelNNTPd
