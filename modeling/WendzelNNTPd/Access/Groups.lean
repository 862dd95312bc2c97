import WendzelNNTPd.Access.Frames
import WendzelNNTPd.Database.AclCheck

/-! The commands that change the access state: GROUP and LISTGROUP select a newsgroup,
STARTTLS asks for TLS, AUTHINFO changes the user. GROUP selects behind the access check;
LISTGROUP selects first and checks afterwards.
-/

namespace WendzelNNTPd

open CString Atomic

/-- The access check depends on the access tables only. -/
theorem aclAllows_congr {s t : Store} (same : s.accessTables = t.accessTables)
    (user newsgroup : Str)
    : s.aclAllows user newsgroup = t.aclAllows user newsgroup := by
  simp only [Store.accessTables, AccessTables.mk.injEq] at same
  obtain ⟨-, -, users2roles, aclUsers, aclRoles⟩ := same
  simp only [Store.aclAllows, users2roles, aclUsers, aclRoles]

theorem userAllows_congr {s t : Store} (same : s.accessTables = t.accessTables)
    (user : Option Str) (newsgroup : Str)
    : s.userAllows user newsgroup = t.userAllows user newsgroup := by
  cases user with
  | none => rfl
  | some user => exact aclAllows_congr same user newsgroup

section Groups

variable {ext : Extern} {cfg : Config} {s₀ : Store} {A : AccessState} {P : Ngpost → Prop}

theorem quiet_dbCheckNewsgroupExistence {T : AccessTables}
    : Quiet ext T A P dbCheckNewsgroupExistence := by
  refine Keeps.bind (quiet_modify (fun _ => rfl)) (fun _ => Keeps.get_bind (fun r _ => ?_))
  cases r.chkname with
  | none => exact quiet_crash
  | some name => exact keeps_sql_bind rfl (fun s => quiet_modify (fun _ => rfl))

/-- The list of LISTGROUP is shown only behind the access check. -/
theorem quiet_listing (group : Str)
    (shown
      : ∀ row, row.ng = group
        → ((cfg.useAuth && cfg.useAcl) = true → s₀.userAllows A.curAuthUser group = true)
        → P row)
    : Quiet ext s₀.accessTables A P (docmdListgroup.listing cfg group) := by
  have reply (may : ∀ row, row.ng = group → P row)
      : Quiet ext s₀.accessTables A P (docmdListgroup.reply group) := by
    refine (quiet_toSend _).bind (fun _ => ?_)
    refine Keeps.bind (quiet_modify (fun _ => rfl)) (fun _ => keeps_sql_bind rfl (fun s => ?_))
    refine Keeps.bind (Keeps.forM _ (fun row member => ?_)) (fun _ => ?_)
    · have ofGroup : row.ng = group :=
        ng_of_mem_ngRows ((List.perm_insertionSort _ _).mem_iff.mp member)
      refine (quiet_toSendRow _ (may row ofGroup)).bind (fun _ => quiet_modify (fun r => ?_))
      cases r.foundArticle <;> rfl
    · refine Keeps.bind (quiet_modify (fun r => ?_)) (fun _ => quiet_toSend _)
      split <;> rfl
  refine Keeps.get_bind (fun r start => Keeps.ite (fun used => ?_) (fun unused => ?_))
  · have user : r.curAuthUser = A.curAuthUser := by
      rw [← start.access]
      rfl
    rw [user]
    refine Ensures.bind
      (Ensures.of_run (fun r s => aclCheckUserGroup_run ext s r A.curAuthUser group)) ?_
    rintro (_ | _)
    · exact (quiet_toSend _).pre (fun r s mid => mid.1)
    · intro r s mid
      have allowed : s₀.userAllows A.curAuthUser group = true := by
        rw [← userAllows_congr mid.1.2]
        exact mid.2.symm
      exact reply (fun row same => shown row same (fun _ => allowed)) r s mid.1
  · exact reply (fun row same => shown row same (fun used => absurd used unused))

/-- The access state is `A` but for the selected newsgroup, which is still the old one or
one that `may` admits. -/
def Selecting (A : AccessState) (P : Ngpost → Prop) (may : Str → Prop) (r : Session) : Prop :=
  ∃ g, Replying { A with selectedGroup := g } P r
    ∧ (g = A.selectedGroup ∨ ∃ name, g = some name ∧ may name)

/-- A handler that selects newsgroups `may` admits. -/
abbrev SelectsOnly (ext : Extern) (T : AccessTables) (A : AccessState) (P : Ngpost → Prop)
    (may : Str → Prop) {α : Type} (m : Srv α)
    : Prop :=
  Keeps (exec ext) (Selecting A P may) (fun s => s.accessTables = T) (Exit.SentIn P) m

theorem selectsOnly_of_quiet {T : AccessTables} {may : Str → Prop} {α : Type} {m : Srv α}
    (quiet : ∀ g, Quiet ext T { A with selectedGroup := g } P m)
    : SelectsOnly ext T A P may m := by
  rintro r s ⟨⟨g, replying, choice⟩, tables⟩
  refine Prog.wp_mono _ (quiet g r s ⟨replying, tables⟩) ?_ (fun _ _ stopped => stopped)
  exact fun out s' done => ⟨⟨g, done.1, choice⟩, done.2⟩

theorem Replying.select {r : Session} (replying : Replying A P r) (group article : Option Str)
    : Replying { A with selectedGroup := group } P
        { r with selectedGroup := group, selectedArticle := article } := by
  refine ⟨?_, replying.curstring, replying.sent⟩
  rw [← replying.access]
  rfl

/-- The selection of GROUP. -/
theorem selectsOnly_dbGroup {T : AccessTables} {may : Str → Prop} {group : Str} (allowed : may group)
    : SelectsOnly ext T A P may (dbGroup group) := by
  have callback {g : Newsgroup} (name : g.name = group)
      : SelectsOnly ext T A P may (groupCb g) := by
    refine Keeps.bind (selectsOnly_of_quiet (fun _ => quiet_toSend _)) (fun _ => ?_)
    refine Keeps.bind (Keeps.modify ?_) (fun _ => ?_)
    · rintro r ⟨old, replying, -⟩
      refine ⟨some g.name, replying.select (some g.name) none, Or.inr ⟨g.name, rfl, ?_⟩⟩
      rw [name]
      exact allowed
    · refine selectsOnly_of_quiet (fun _ => keeps_sql_bind rfl (fun s => ?_))
      refine Keeps.bind (Keeps.forM _ (fun n _ => quiet_modify (fun _ => rfl))) (fun _ => ?_)
      exact quiet_modify (fun _ => rfl)
  refine Keeps.get_bind (fun old _ => keeps_sql_bind rfl (fun s => ?_))
  refine Keeps.bind (selectsOnly_of_quiet (fun _ => quiet_modify (fun _ => rfl))) (fun _ => ?_)
  refine Keeps.bind (Keeps.forM _ (fun g member => callback ?_)) (fun _ => ?_)
  · exact beq_iff_eq.mp (List.mem_filter.mp member).2
  · refine selectsOnly_of_quiet (fun _ => quiet_modify (fun r => ?_))
    split <;> rfl

theorem unselected {may : Str → Prop} {m : Srv Unit} (quiet : Quiet ext s₀.accessTables A P m)
    : Ensures (exec ext) (fun r s => Replying A P r ∧ s.accessTables = s₀.accessTables) m
        (fun _ r s => Selecting A P may r ∧ s.accessTables = s₀.accessTables)
        (fun reason _ => reason.SentIn P) :=
  quiet.post (fun _ _ _ done => ⟨⟨A.selectedGroup, done.1, Or.inl rfl⟩, done.2⟩)

/-- GROUP selects only behind the access check. -/
theorem docmdGroup_selects (cmdstring : Str)
    : Ensures (exec ext) (fun r s => Replying A P r ∧ s.accessTables = s₀.accessTables)
        (docmdGroup cfg cmdstring)
        (fun _ r s =>
          Selecting A P
            (fun name =>
              (cfg.useAuth && cfg.useAcl) = true → s₀.userAllows A.curAuthUser name = true) r
          ∧ s.accessTables = s₀.accessTables)
        (fun reason _ => reason.SentIn P) := by
  have selects {may : Str → Prop} {group : Str} (allowed : may group)
      : Ensures (exec ext) (fun r s => Replying A P r ∧ s.accessTables = s₀.accessTables)
          (dbGroup group)
          (fun _ r s => Selecting A P may r ∧ s.accessTables = s₀.accessTables)
          (fun reason _ => reason.SentIn P) :=
    Ensures.pre (selectsOnly_dbGroup allowed)
      (fun r s start => ⟨⟨A.selectedGroup, start.1, Or.inl rfl⟩, start.2⟩)
  refine Ensures.read (fun old _ => ?_)
  rcases getSlinearg cmdstring 1 with _ | ptr
  · exact unselected (quiet_toSend _)
  · refine Ensures.bind (quiet_modify (fun _ => rfl)) (fun _ => ?_)
    refine Ensures.bind quiet_dbCheckNewsgroupExistence (fun _ => ?_)
    refine Ensures.read (fun r ⟨_, start⟩ => Ensures.ite (fun _ => ?_) (fun _ => ?_))
    · exact unselected ((quiet_toSend _).bind (fun _ => quiet_modify (fun _ => rfl)))
    · refine Ensures.ite (fun _ => ?_) (fun unused => selects (fun used => absurd used unused))
      have user : r.curAuthUser = A.curAuthUser := by
        rw [← start.1.access]
        rfl
      rw [user]
      refine Ensures.bind
        (Ensures.of_run (fun r s => aclCheckUserGroup_run ext s r A.curAuthUser ptr)) ?_
      rintro (_ | _)
      · exact (unselected (quiet_toSend _)).pre (fun r s mid => mid.1)
      · intro r s mid
        refine selects (fun _ => ?_) r s mid.1
        rw [← userAllows_congr mid.1.2]
        exact mid.2.symm

/-- LISTGROUP selects any existing newsgroup, and lists it only behind the access check.
Witness: the selection precedes the check, so only the existence of the group is known.
-/
theorem docmdListgroup_selects (cmdstring : Str)
    (shown
      : ∀ row,
        ((cfg.useAuth && cfg.useAcl) = true → s₀.userAllows A.curAuthUser row.ng = true)
        → P row)
    : Ensures (exec ext) (fun r s => Replying A P r ∧ s = s₀)
        (docmdListgroup cfg cmdstring)
        (fun _ r s =>
          Selecting A P (fun name => getSlinearg cmdstring 1 = some name ∧ s₀.HasGroup name) r
          ∧ s.accessTables = s₀.accessTables)
        (fun reason _ => reason.SentIn P) := by
  have shownIn (group : Str) (row : Ngpost) (same : row.ng = group)
      (allowed
        : (cfg.useAuth && cfg.useAcl) = true → s₀.userAllows A.curAuthUser group = true)
      : P row := by
    apply shown
    rw [same]
    exact allowed
  refine Ensures.read (fun old _ => ?_)
  cases arg : getSlinearg cmdstring 1 with
  | none =>
      refine Ensures.pre (unselected ?_) (fun r s start => ⟨start.1, by rw [start.2]⟩)
      cases old.selectedGroup with
      | none => exact quiet_toSend _
      | some group => exact quiet_listing group (shownIn group)
  | some ptr =>
      have named : Ensures (exec ext) (fun r s => Replying A P r ∧ s = s₀)
          (modify (fun r : Session => { r with chkname := some ptr }) : Srv PUnit)
          (fun _ r s => Replying A P r ∧ r.chkname = some ptr ∧ s = s₀)
          (fun reason _ => reason.SentIn P) :=
        Ensures.modify (fun r s start => ⟨start.1.congr rfl, rfl, start.2⟩)
      have checked : Ensures (exec ext)
          (fun r s => Replying A P r ∧ r.chkname = some ptr ∧ s = s₀)
          dbCheckNewsgroupExistence
          (fun _ r s => Replying A P r ∧ s = s₀ ∧ (r.foundGroup = true → s₀.HasGroup ptr))
          (fun reason _ => reason.SentIn P) := by
        rintro r s ⟨replying, chkname, rfl⟩
        rw [Prog.wp, dbCheckNewsgroupExistence_run ext r s chkname]
        exact ⟨replying.congr rfl, rfl, (hasGroup_iff s).mp⟩
      refine named.bind (fun _ => checked.bind (fun _ => Ensures.read (fun r before => ?_)))
      obtain ⟨_, start⟩ := before
      refine Ensures.ite (fun _ => ?_) (fun found => ?_)
      · refine Ensures.pre (unselected ?_) (fun r s start => ⟨start.1, by rw [start.2.1]⟩)
        exact Keeps.bind (quiet_modify (fun _ => rfl)) (fun _ => quiet_toSend _)
      · have exists' : s₀.HasGroup ptr := start.2.2 (by simpa using found)
        have select : Ensures (exec ext)
            (fun r s => Replying A P r ∧ s = s₀ ∧ (r.foundGroup = true → s₀.HasGroup ptr))
            (modify (fun r : Session => { r with selectedGroup := some ptr }) : Srv PUnit)
            (fun _ r s =>
              Replying { A with selectedGroup := some ptr } P r
              ∧ s.accessTables = s₀.accessTables)
            (fun reason _ => reason.SentIn P) :=
          Ensures.modify (fun r s start =>
            ⟨start.1.select (some ptr) r.selectedArticle, by rw [start.2.1]⟩)
        refine select.bind (fun _ => Ensures.post (quiet_listing ptr (shownIn ptr)) ?_)
        exact fun _ r s done =>
          ⟨⟨some ptr, done.1, Or.inr ⟨ptr, rfl, rfl, exists'⟩⟩, done.2⟩

end Groups

end WendzelNNTPd
