import Mathlib.Data.Finset.Max
import WendzelNNTPd.Posting.AllOrNothing

/-! Who may write where. POST looks its newsgroups up under escaped names and posts to the names
themselves, so that the check and the loop speak of the same newsgroups exactly as long as no
newsgroup has a name that the escaping changes.
-/

namespace WendzelNNTPd

open CString Atomic

section Property

variable (s : Store)

/-- The newsgroup exists and may be posted to. -/
def Store.Postable (newsgroup : Str) : Prop :=
  ∃ g ∈ s.newsgroups, g.name = newsgroup ∧ g.pflag = 'y'

instance (newsgroup : Str) : Decidable (s.Postable newsgroup) :=
  inferInstanceAs (Decidable (∃ g ∈ s.newsgroups, g.name = newsgroup ∧ g.pflag = 'y'))

/-- The reply due for the first newsgroup that does not exist or may not be posted to. -/
def Store.firstRefusal : List Str → Option Str
  | [] => none
  | newsgroup :: rest =>
      if (s.newsgroups.filter (·.name == newsgroup)).isEmpty then some nosuchgroup
      else if ¬s.Postable newsgroup then some posterrorNotallowed
      else firstRefusal rest

/-- `docmd_post_chk_ng_name_correctness` returns TRUE for the tokens of a value if and only if
all of them exist and may be posted to; otherwise it sends one reply, according to the first
that fails. -/
def CheckDecides (ext : Extern) (session : Session) (ngstrp : Str) : Prop :=
  ∃ ok session',
    ((chkNgNameCorrectness (strtok ',' ngstrp)).run session).run (exec ext) s
      = (.ok (ok, session'), s)
    ∧ (ok = true ↔ ∀ newsgroup ∈ strtok ',' ngstrp, s.Postable newsgroup)
    ∧ session'.curstring
      = session.curstring
        ++ ((s.firstRefusal (strtok ',' ngstrp)).map (fun m => ⟨m, none⟩)).toList

/-- A row for the newsgroup was inserted, or its high value was changed. -/
def WritesTo (s' : Store) (newsgroup : Str) : Prop :=
  (∃ n ∈ s'.ngposts, n ∉ s.ngposts ∧ n.ng = newsgroup)
  ∨ (s'.newsgroups.filter (·.name == newsgroup)).map (·.high)
    ≠ (s.newsgroups.filter (·.name == newsgroup)).map (·.high)

/-- POST writes only to newsgroups of the used value, all of whose tokens exist and may be
posted to, and only to those the user has access to. -/
def WritesControlled (ext : Extern) (cfg : Config) (env : Env) (session : Session) : Prop :=
  ∀ newsgroup,
    WritesTo s (((docmdPost ext cfg env).run session).run (exec ext) s).2 newsgroup →
      ∃ ngstrp next, prepare cfg env = .checked ngstrp next
        ∧ newsgroup ∈ strtok ',' ngstrp
        ∧ (∀ other ∈ strtok ',' ngstrp, s.Postable other)
        ∧ (cfg.useAuth = true → cfg.useAcl = true →
            ∃ user, session.curAuthUser = some user ∧ s.aclAllows user newsgroup = true)

/-- No newsgroup that a token can name has a quote in its name. -/
def Store.Unquoted : Prop := ∀ g ∈ s.newsgroups, '\'' ∈ g.name → ',' ∈ g.name

end Property

section Check

variable {s : Store}

theorem postable_iff {newsgroup : Str}
    : s.Postable newsgroup
      ↔ (s.newsgroups.filter (fun g => g.name == newsgroup && g.pflag == 'y')).isEmpty = false := by
  rw [Bool.eq_false_iff, ne_eq, List.isEmpty_iff, List.filter_eq_nil_iff]
  simp only [Store.Postable, Bool.and_eq_true, beq_iff_eq, not_forall, not_not]
  constructor
  · rintro ⟨g, member, found⟩
    exact ⟨g, member, found⟩
  · rintro ⟨g, member, found⟩
    exact ⟨g, member, found⟩

theorem missing_iff {newsgroup : Str}
    : (s.newsgroups.filter (·.name == newsgroup)).isEmpty = true ↔ ¬s.HasGroup newsgroup := by
  rw [← hasGroup_iff s, Bool.not_eq_true', Bool.not_eq_false]

theorem Store.Postable.hasGroup {newsgroup : Str} (postable : s.Postable newsgroup)
    : s.HasGroup newsgroup := by
  obtain ⟨g, member, named, -⟩ := postable
  exact ⟨g, member, named⟩

theorem firstRefusal_eq_none_iff {groups : List Str}
    : s.firstRefusal groups = none ↔ ∀ newsgroup ∈ groups, s.Postable newsgroup := by
  induction groups with
  | nil => simp [Store.firstRefusal]
  | cons newsgroup rest ih =>
      rw [Store.firstRefusal, List.forall_mem_cons]
      split
      · rename_i missing
        simp only [reduceCtorEq, false_iff, not_and]
        exact fun postable => absurd postable.hasGroup (missing_iff.mp missing)
      · split
        · rename_i closed
          simp only [reduceCtorEq, false_iff, not_and]
          exact fun postable => absurd postable closed
        · rename_i postable
          rw [ih]
          exact (and_iff_right (not_not.mp postable)).symm

theorem mem_escaped_of_quoted {name : Str} (quoted : '\'' ∈ name)
    : '\'' ∈ dbSecureSqlbuffer .sqlite3 name :=
  List.mem_flatMap.mpr ⟨'\'', quoted, by simp⟩

theorem comma_notMem_escaped {name : Str} (token : ',' ∉ name)
    : ',' ∉ dbSecureSqlbuffer .sqlite3 name := by
  intro comma
  obtain ⟨c, inside, made⟩ := List.mem_flatMap.mp comma
  split at made
  · simp at made
  · rw [List.mem_singleton.mp made] at token
    exact token inside

/-- A token is looked up under its own name, or neither name is there. -/
theorem lookups_agree (unquoted : s.Unquoted) {newsgroup : Str} (token : ',' ∉ newsgroup)
    : (s.HasGroup (dbSecureSqlbuffer .sqlite3 newsgroup) ↔ s.HasGroup newsgroup)
      ∧ (s.Postable (dbSecureSqlbuffer .sqlite3 newsgroup) ↔ s.Postable newsgroup) := by
  by_cases quote : '\'' ∈ newsgroup
  · have noRaw : ¬s.HasGroup newsgroup := by
      rintro ⟨g, member, rfl⟩
      exact token (unquoted g member quote)
    have noEscaped : ¬s.HasGroup (dbSecureSqlbuffer .sqlite3 newsgroup) := by
      rintro ⟨g, member, named⟩
      have quoted : '\'' ∈ g.name := named ▸ mem_escaped_of_quoted quote
      exact comma_notMem_escaped token (named ▸ unquoted g member quoted)
    refine ⟨iff_of_false noEscaped noRaw, iff_of_false ?_ ?_⟩
    · exact fun postable => noEscaped postable.hasGroup
    · exact fun postable => noRaw postable.hasGroup
  · rw [sqlite3_unchanged_iff.mpr quote]
    exact ⟨Iff.rfl, Iff.rfl⟩

/-- Without quoted names the check refuses what is to be refused. -/
theorem postRefusal_eq_firstRefusal (unquoted : s.Unquoted) {groups : List Str}
    (tokens : ∀ newsgroup ∈ groups, ',' ∉ newsgroup)
    : s.postRefusal groups = s.firstRefusal groups := by
  induction groups with
  | nil => rfl
  | cons newsgroup rest ih =>
      obtain ⟨exist, postable⟩ := lookups_agree unquoted (tokens newsgroup (by simp))
      have rest' := ih (fun other member => tokens other (List.mem_cons_of_mem _ member))
      have missing := missing_iff.trans ((not_congr exist).trans missing_iff.symm)
      have closed := (not_congr postable_iff).symm.trans (not_congr postable)
      rw [Bool.not_eq_false] at closed
      rw [Store.postRefusal, Store.firstRefusal, rest']
      exact if_congr missing rfl (if_congr closed rfl rfl)

/-- The check decides by the message of its own lookups. -/
theorem checkDecides_iff (ext : Extern) (session : Session) (ngstrp : Str)
    : CheckDecides s ext session ngstrp
      ↔ s.postRefusal (strtok ',' ngstrp) = s.firstRefusal (strtok ',' ngstrp) := by
  obtain ⟨session', ran, -, reply⟩ := chkNgNameCorrectness_run ext s session (strtok ',' ngstrp)
  constructor
  · rintro ⟨ok, session'', ran', -, reply'⟩
    rw [ran] at ran'
    cases ran'
    rw [reply] at reply'
    have sent := List.append_cancel_left reply'
    revert sent
    cases s.postRefusal (strtok ',' ngstrp) <;> cases s.firstRefusal (strtok ',' ngstrp) <;> simp
  · intro same
    refine ⟨_, session', ran, ?_, by rw [reply, same]⟩
    rw [same, Option.isNone_iff_eq_none]
    exact firstRefusal_eq_none_iff

end Check

section Writes

variable {s : Store} {init : Nat} {messageId : Str}

/-- Nothing is written where rows and high values are the same. -/
theorem not_writesTo {s' : Store} (rows : s'.ngposts = s.ngposts)
    (groups : s'.newsgroups = s.newsgroups) (newsgroup : Str)
    : ¬WritesTo s s' newsgroup := by
  intro writes
  rcases writes with ⟨n, member, fresh, -⟩ | changed
  · rw [rows] at member
    exact fresh member
  · rw [groups] at changed
    exact changed rfl

theorem mem_of_writesTo_deliver {served : List Str} {newsgroup : Str}
    (writes : WritesTo s (s.deliver init messageId served) newsgroup)
    : newsgroup ∈ served := by
  rcases writes with ⟨n, member, fresh, named⟩ | changed
  · rcases List.mem_append.mp member with old | new
    · exact absurd old fresh
    · obtain ⟨g, inside, made⟩ := List.mem_map.mp new
      rw [← named, ← made]
      exact inside
  · by_contra other
    rw [filter_deliver_of_notMem other] at changed
    exact changed rfl

/-- What POST leaves behind from the body file on: the body, or the posting too with rows in some
of the newsgroups that the user may post to. -/
theorem storeAlone_store (s : Store) (cfg : Config) (env : Env) (user : Option Str) (row : Posting)
    (body : Str) (groups : List Str)
    : (s.storeAlone cfg env user row body groups).2 = s.saveBody row.msgid body
      ∨ ∃ served ⊆ groups.filter (s.mayPost cfg user),
          (s.storeAlone cfg env user row body groups).2
            = ((s.saveBody row.msgid body).withPosting row).deliver env.curHighInit row.msgid
                served := by
  have none : Served ((s.saveBody row.msgid body).withPosting row) env.curHighInit row.msgid [] :=
    ⟨List.nodup_nil, by simp, by simp⟩
  have within := (serve_served (groups.filter (s.mayPost cfg user)) .empty none).2.2
  rw [List.nil_append] at within
  simp only [Store.storeAlone]
  split
  · exact Or.inl rfl
  · apply Or.inr
    split
    · rename_i served
      rw [served] at within
      exact ⟨_, within, rfl⟩
    · rename_i served
      rw [served] at within
      exact ⟨_, within, rfl⟩

/-- Where POST writes, an article came to be stored, and the newsgroup is one of those in its
Newsgroups value that the user may post to. -/
theorem post_writes (ext : Extern) {cfg : Config} {env : Env} {user : Option Str}
    {newsgroup : Str} (writes : WritesTo s (s.post ext cfg env user).2 newsgroup)
    : ∃ id article, s.postStores cfg env = some (id, article)
        ∧ newsgroup ∈ article.groups ∧ s.mayPost cfg user newsgroup = true := by
  have counted : s.counted.ngposts = s.ngposts ∧ s.counted.newsgroups = s.newsgroups := by
    unfold Store.counted
    split
    · exact ⟨rfl, rfl⟩
    · exact ⟨rfl, rfl⟩
  cases stores : s.postStores cfg env with
  | none =>
      rcases (post_of_not_stores ext user stores).2 with same | same
      · rw [same] at writes
        exact absurd writes (not_writesTo rfl rfl newsgroup)
      · rw [same] at writes
        exact absurd writes (not_writesTo counted.1 counted.2 newsgroup)
  | some stored =>
      obtain ⟨id, article⟩ := stored
      obtain ⟨ran, named⟩ := post_of_stores ext user stores
      rw [ran, named] at writes
      refine ⟨id, article, rfl, ?_⟩
      rcases storeAlone_store ({ s with msgidFile := some (some id) } : Store) cfg env user
        (article.row ext env id) article.body article.groups with saved | ⟨served, within, delivered⟩
      · rw [saved] at writes
        exact absurd writes (not_writesTo rfl rfl newsgroup)
      · rw [delivered] at writes
        exact List.mem_filter.mp (within (mem_of_writesTo_deliver writes))

/-- Without quoted names POST writes where it may. -/
theorem writesControlled_of_unquoted (unquoted : s.Unquoted) (ext : Extern) (cfg : Config)
    (env : Env) (session : Session)
    : WritesControlled s ext cfg env session := by
  intro newsgroup writes
  rw [(docmdPost_run ext cfg env s session).2] at writes
  obtain ⟨id, article, stores, member, allowed⟩ := post_writes ext writes
  obtain ⟨passed, -⟩ := postStores_checked stores
  obtain ⟨buf, len, header, body, received, checked, -⟩ := postStores_received stores
  refine ⟨article.ngstrp, prepareArticle cfg env len header article.ngstrp body, ?_, member, ?_, ?_⟩
  · simp only [prepare, prepareBuffer, received, checked]
  · have tokens : ∀ other ∈ article.groups, ',' ∉ other := fun _ => notMem_of_mem_strtok
    rw [postRefusal_eq_firstRefusal unquoted tokens] at passed
    exact firstRefusal_eq_none_iff.mp passed
  · intro useAuth useAcl
    simp only [Store.mayPost, useAuth, useAcl, Bool.and_self, if_true, Store.userAllows,
      Option.any_eq_true] at allowed
    exact allowed

end Writes

section Quoted

theorem sqlite3_longer {name : Str} (quoted : '\'' ∈ name)
    : name.length < (dbSecureSqlbuffer .sqlite3 name).length := by
  induction name with
  | nil => cases quoted
  | cons c rest ih =>
      have short := dbSecureSqlbuffer_length_le .sqlite3 rest
      rw [dbSecureSqlbuffer_eq_flatMap] at short ih ⊢
      rw [List.flatMap_cons, List.length_append, List.length_cons]
      by_cases quote : c = '\''
      · subst quote
        have two : (Dbase.sqlite3.escapeChar '\'').length = 2 := rfl
        omega
      · have one := escapeChar_cases .sqlite3 c
        have inside : '\'' ∈ rest := by
          rcases List.mem_cons.mp quoted with first | later
          · exact absurd first.symm quote
          · exact later
        have longer := ih inside
        rcases one with ⟨-, same⟩ | ⟨-, two⟩
        · rw [same, List.length_singleton]
          omega
        · omega

/-- If the check decides right for each value, no token has a quoted name.
Witness: the longest quoted name would have to be there in its escaped form too, which is
longer.
-/
theorem unquoted_of_checkDecides {s : Store} (ext : Extern) (session : Session)
    (decides : ∀ ngstrp, CheckDecides s ext session ngstrp)
    : s.Unquoted := by
  have escapedIsThere : ∀ newsgroup, s.HasGroup newsgroup → '\'' ∈ newsgroup → ',' ∉ newsgroup →
      s.HasGroup (dbSecureSqlbuffer .sqlite3 newsgroup) := by
    intro newsgroup found quoted token
    have same := (checkDecides_iff ext session newsgroup).mp (decides newsgroup)
    rw [strtok_of_notMem token (List.ne_nil_of_mem quoted)] at same
    by_contra missing
    rw [Store.postRefusal, if_pos (missing_iff.mpr missing), Store.firstRefusal,
      if_neg (fun absent => missing_iff.mp absent found)] at same
    split at same
    · exact absurd (Option.some.inj same) (by decide)
    · cases same
  intro g member quoted
  by_contra token
  let names := (s.newsgroups.filter (fun g => '\'' ∈ g.name ∧ ',' ∉ g.name)).map (·.name)
  have named : ∀ name, name ∈ names ↔ s.HasGroup name ∧ '\'' ∈ name ∧ ',' ∉ name := by
    intro name
    simp only [names, List.mem_map, List.mem_filter, decide_eq_true_eq]
    constructor
    · intro found
      obtain ⟨g, ⟨member, kind⟩, rfl⟩ := found
      exact ⟨⟨g, member, rfl⟩, kind⟩
    · intro found
      obtain ⟨⟨g, member, rfl⟩, kind⟩ := found
      exact ⟨g, ⟨member, kind⟩, rfl⟩
  obtain ⟨longest, inside, longestLength⟩ := names.toFinset.exists_max_image List.length
    ⟨g.name, List.mem_toFinset.mpr ((named _).mpr ⟨⟨g, member, rfl⟩, quoted, token⟩)⟩
  obtain ⟨found, quoted, token⟩ := (named _).mp (List.mem_toFinset.mp inside)
  have escaped := escapedIsThere longest found quoted token
  have stillToken := (named (dbSecureSqlbuffer .sqlite3 longest)).mpr
    ⟨escaped, mem_escaped_of_quoted quoted, comma_notMem_escaped token⟩
  have longer := longestLength _ (List.mem_toFinset.mpr stillToken)
  exact absurd (sqlite3_longer quoted) (by omega)

end Quoted

/-- POST writes where it may and its check decides right, whatever is received, if and only if no
newsgroup that a token can name has a quote in its name. -/
theorem post_write_access_iff (s : Store)
    : ((∀ ext cfg env session, WritesControlled s ext cfg env session)
        ∧ ∀ ext session ngstrp, CheckDecides s ext session ngstrp)
      ↔ s.Unquoted := by
  constructor
  · intro controlled
    exact unquoted_of_checkDecides postExtern (Session.fresh openConfig false .article .cleared)
      (controlled.2 _ _)
  · intro unquoted
    refine ⟨writesControlled_of_unquoted unquoted, fun ext session ngstrp => ?_⟩
    apply (checkDecides_iff ext session ngstrp).mpr
    exact postRefusal_eq_firstRefusal unquoted (fun _ => notMem_of_mem_strtok)

section Apostrophe

/-- The newsgroup `a''b`, the escaped form of `a'b`. -/
def escapedName : Store :=
  { Store.empty with newsgroups := [⟨"a''b".toList, 'y', 0⟩] }

/-- An article whose first Newsgroups line names `a'b`; the second one passes the header check. -/
def twoGroupLines : Str :=
  ("Newsgroups: a'b\r\nNewsgroups: x\r\nFrom: a@b.org\r\nSubject: hi\r\n\r\n"
    ++ "hello\r\n.\r\n").toList

/-- The check finds `a''b` where it looks for `a'b`, and POST adds a row for a newsgroup that does
not exist. -/
theorem apostrophe_posts_to_missing_group
    : ¬WritesControlled escapedName postExtern openConfig (sendingEnv twoGroupLines)
        (Session.fresh openConfig false .article .cleared) := by
  have inserted :
      (((docmdPost postExtern openConfig (sendingEnv twoGroupLines)).run
        (Session.fresh openConfig false .article .cleared)).run (exec postExtern)
        escapedName).2.ngposts.map (·.ng) = ["a'b".toList] := by
    decide +kernel
  intro controlled
  obtain ⟨n, member, named⟩ : ∃ n ∈ (((docmdPost postExtern openConfig
      (sendingEnv twoGroupLines)).run (Session.fresh openConfig false .article .cleared)).run
      (exec postExtern) escapedName).2.ngposts, n.ng = "a'b".toList := by
    apply List.mem_map.mp
    rw [inserted]
    simp
  obtain ⟨ngstrp, next, -, token, postable, -⟩ :=
    controlled "a'b".toList (Or.inl ⟨n, member, List.not_mem_nil, named⟩)
  exact absurd (postable _ token) (by decide)

end Apostrophe

end WendzelNNTPd
