import WendzelNNTPd.Server.Post
import WendzelNNTPd.Database.AclCheck
import WendzelNNTPd.Lib.Handler

/-! POST on a connection that has the store to itself: how the command ends and the store it
leaves behind, as functions of the article, the settings and the store before.
-/

namespace WendzelNNTPd

open CString Atomic

section Delivery

variable (s : Store) (init : Nat) (messageId : Str)

/-- The value `db_get_high_value` assigns; `init` is what the variable held before. -/
def Store.highValue (newsgroup : Str) : Nat :=
  ((s.newsgroups.filter (·.name == newsgroup)).getLast?.map (·.high)).getD init % 2 ^ 32

/-- Whether `ngposts` has the primary key of an article in a newsgroup. -/
def Store.hasNgpost (newsgroup : Str) : Bool :=
  s.ngposts.any (fun n => n.msgid == messageId && n.ng == newsgroup)

/-- The store behind the delivery of an article to some newsgroups. -/
def Store.deliver (groups : List Str) : Store :=
  { s with
    ngposts := s.ngposts ++ groups.map (fun g => ⟨messageId, g, s.highValue init g + 1⟩)
    newsgroups := s.newsgroups.map
      (fun r => if r.name ∈ groups then { r with high := s.highValue init r.name + 1 } else r) }

/-- The loop over the newsgroups the user may post to: whether it comes to its end, and the
newsgroups it has delivered the article to, behind those in `served`. -/
def Store.serve : List Str → Charstack → List Str → Bool × List Str
  | [], _, served => (true, served)
  | newsgroup :: rest, stack, served =>
      if (s.deliver init messageId served).highValue init newsgroup > highLimit then
        (false, served)
      else if stack.checkFor newsgroup then serve rest stack served
      else if s.hasNgpost messageId newsgroup || served.contains newsgroup then (false, served)
      else serve rest (stack.pushOn newsgroup) (served ++ [newsgroup])

/-- Whether the loop lets a user post to a newsgroup. -/
def Store.mayPost (cfg : Config) (user : Option Str) (newsgroup : Str) : Bool :=
  if cfg.useAuth && cfg.useAcl then s.userAllows user newsgroup else true

variable {s init messageId}

theorem deliver_nil : s.deliver init messageId [] = s := by
  simp [Store.deliver]

/-- The rows of a newsgroup, behind a change that keeps the names. -/
theorem filter_map_name {change : Newsgroup → Newsgroup} (names : ∀ r, (change r).name = r.name)
    (rows : List Newsgroup) (newsgroup : Str)
    : (rows.map change).filter (·.name == newsgroup)
      = (rows.filter (·.name == newsgroup)).map change := by
  rw [List.filter_map]
  congr 2
  funext r
  simp [names]

/-- A delivery does not touch the rows of another newsgroup. -/
theorem filter_deliver_of_notMem {groups : List Str} {newsgroup : Str}
    (other : newsgroup ∉ groups)
    : (s.deliver init messageId groups).newsgroups.filter (·.name == newsgroup)
      = s.newsgroups.filter (·.name == newsgroup) := by
  rw [Store.deliver, filter_map_name (by intro r; split <;> rfl)]
  refine (List.map_congr_left (fun r member => ?_)).trans (List.map_id _)
  have named : r.name = newsgroup := by simpa using (List.mem_filter.mp member).2
  rw [if_neg (named ▸ other)]
  rfl

theorem highValue_deliver_of_notMem {groups : List Str} {newsgroup : Str}
    (other : newsgroup ∉ groups)
    : (s.deliver init messageId groups).highValue init newsgroup = s.highValue init newsgroup := by
  simp only [Store.highValue, filter_deliver_of_notMem other]

/-- A delivery raises the high value of an existing newsgroup by one. -/
theorem highValue_deliver_of_mem {groups : List Str} {newsgroup : Str}
    (delivered : newsgroup ∈ groups) (found : s.HasGroup newsgroup)
    : (s.deliver init messageId groups).highValue init newsgroup
      = (s.highValue init newsgroup + 1) % 2 ^ 32 := by
  obtain ⟨r, member, named⟩ := found
  have there : s.newsgroups.filter (·.name == newsgroup) ≠ [] :=
    List.ne_nil_of_mem (List.mem_filter.mpr ⟨member, by simpa using named⟩)
  have isLast := List.getLast?_eq_some_getLast there
  generalize (s.newsgroups.filter (·.name == newsgroup)).getLast there = last at isLast
  have lastNamed : last.name = newsgroup := by
    simpa using (List.mem_filter.mp (List.mem_of_getLast? isLast)).2
  have changed : ((s.deliver init messageId groups).newsgroups.filter (·.name == newsgroup)).getLast?
      = some { last with high := s.highValue init newsgroup + 1 } := by
    rw [Store.deliver, filter_map_name (by intro r; split <;> rfl), List.getLast?_map, isLast]
    simp only [Option.map_some, lastNamed, delivered, if_true]
  rw [Store.highValue, changed]
  rfl

theorem hasNgpost_deliver {groups : List Str} {newsgroup : Str}
    : (s.deliver init messageId groups).hasNgpost messageId newsgroup
      = (s.hasNgpost messageId newsgroup || groups.contains newsgroup) := by
  simp only [Store.hasNgpost, Store.deliver, List.any_append, List.any_map]
  congr 1
  rw [Bool.eq_iff_iff]
  simp only [List.any_eq_true, Function.comp_apply, beq_self_eq_true, Bool.true_and, beq_iff_eq,
    exists_eq_right, List.contains_iff_mem]

/-- One more delivery: the row in `ngposts`, then the high value. -/
theorem deliver_append {groups : List Str} {newsgroup : Str} (fresh : newsgroup ∉ groups)
    : { s.deliver init messageId groups with
        ngposts := (s.deliver init messageId groups).ngposts
          ++ [⟨messageId, newsgroup, s.highValue init newsgroup + 1⟩]
        newsgroups := (s.deliver init messageId groups).newsgroups.map
          (fun r => if r.name == newsgroup then
            { r with high := s.highValue init newsgroup + 1 } else r) }
      = s.deliver init messageId (groups ++ [newsgroup]) := by
  simp only [Store.deliver, List.map_append, List.map_cons, List.map_nil, List.append_assoc,
    List.map_map, Store.mk.injEq, and_true]
  refine List.map_congr_left (fun r _ => ?_)
  by_cases named : r.name = newsgroup
  · subst named
    simp [fresh]
  · by_cases earlier : r.name ∈ groups
    · simp [earlier, named]
    · simp [earlier, named]

end Delivery

section Loop

variable (ext : Extern) (cfg : Config) (env : Env)

/-- Without access control everybody may post. -/
theorem aclCheckIfUsed_run (user : Option Str) (newsgroup : Str) (s : Store) (session : Session)
    : ((aclCheckIfUsed cfg user newsgroup).run session).run (exec ext) s
      = (.ok (s.mayPost cfg user newsgroup, session), s) := by
  unfold aclCheckIfUsed Store.mayPost
  split
  · exact aclCheckUserGroup_run ext s session user newsgroup
  · rfl

theorem dbGetHighValue_run (newsgroup : Str) (s : Store) (session : Session)
    : ((dbGetHighValue env newsgroup).run session).run (exec ext) s
      = (.ok (s.highValue env.curHighInit newsgroup, session), s) :=
  rfl

/-- A row is inserted into `ngposts` unless its primary key is there. -/
theorem exec_insertNgpost (row : Ngpost) (s : Store)
    : exec ext (.insertNgpost row) s
      = if s.hasNgpost row.msgid row.ng then (false, s)
        else (true, { s with ngposts := s.ngposts ++ [row] }) := by
  have key : s.ngposts.any (fun other => (other.msgid, other.ng) = (row.msgid, row.ng))
      = s.hasNgpost row.msgid row.ng := by
    simp only [Store.hasNgpost, Prod.mk.injEq, Bool.decide_and, Bool.beq_eq_decide_eq]
  simp only [exec, insertRow, key]
  split
  · rfl
  · rfl

theorem dbPostInsertIntoNgposts_run (messageId newsgroup : Str) (n : Nat) (s : Store)
    (session : Session)
    : ((dbPostInsertIntoNgposts messageId newsgroup n).run session).run (exec ext) s
      = if s.hasNgpost messageId newsgroup then (.error (.killThread session.sent), s)
        else (.ok ((), session), { s with ngposts := s.ngposts ++ [⟨messageId, newsgroup, n⟩] }) := by
  unfold dbPostInsertIntoNgposts
  refine (run_sql_bind ext s session (.insertNgpost ⟨messageId, newsgroup, n⟩) _).trans ?_
  rw [exec_insertNgpost]
  split
  · rfl
  · rfl

/-- The loop over the newsgroups does what `serve` says.
Witness: induction on the newsgroups; those without access are passed over, each of the others
is one round of `serve`.
-/
theorem postToGroups_run (messageId : Str) (session : Session) (s : Store) (groups : List Str)
    (stack : Charstack) (served : List Str)
    : ((postToGroups cfg env messageId groups stack).run session).run (exec ext)
          (s.deliver env.curHighInit messageId served)
      = match s.serve env.curHighInit messageId
            (groups.filter (s.mayPost cfg session.curAuthUser)) stack served with
        | (true, all) => (.ok ((), session), s.deliver env.curHighInit messageId all)
        | (false, part) =>
            (.error (.killThread session.sent), s.deliver env.curHighInit messageId part) := by
  induction groups generalizing stack served with
  | nil => rfl
  | cons newsgroup rest ih =>
      unfold postToGroups
      refine (run_bind_ok rfl).trans ?_
      refine (run_bind_ok (aclCheckIfUsed_run ext cfg _ newsgroup _ session)).trans ?_
      have allowed : (s.deliver env.curHighInit messageId served).mayPost cfg session.curAuthUser
          newsgroup = s.mayPost cfg session.curAuthUser newsgroup := rfl
      rw [allowed]
      cases access : s.mayPost cfg session.curAuthUser newsgroup with
      | false =>
          rw [List.filter_cons_of_neg (by simp [access])]
          exact ih stack served
      | true =>
          rw [List.filter_cons_of_pos access]
          simp only [Bool.not_true, Bool.false_eq_true, if_false, Store.serve]
          refine (run_bind_ok (dbGetHighValue_run ext env newsgroup _ session)).trans ?_
          by_cases full : (s.deliver env.curHighInit messageId served).highValue env.curHighInit
              newsgroup > highLimit
          · simp only [full, if_true]
            rfl
          · by_cases remembered : stack.checkFor newsgroup = true
            · simp only [full, remembered, if_false, if_true]
              exact ih stack served
            · simp only [full, remembered, if_false]
              have insert := dbPostInsertIntoNgposts_run ext messageId newsgroup
                ((s.deliver env.curHighInit messageId served).highValue env.curHighInit newsgroup + 1)
                (s.deliver env.curHighInit messageId served) session
              rw [hasNgpost_deliver] at insert
              by_cases taken : (s.hasNgpost messageId newsgroup || served.contains newsgroup) = true
              · rw [if_pos taken] at insert
                simp only [taken, if_true]
                exact run_bind_error insert
              · rw [if_neg taken] at insert
                have fresh : newsgroup ∉ served := by
                  intro member
                  simp [member] at taken
                have next := ih (stack.pushOn newsgroup) (served ++ [newsgroup])
                rw [← deliver_append fresh] at next
                simp only [taken, Bool.false_eq_true, if_false]
                refine (run_bind_ok insert).trans ?_
                rw [highValue_deliver_of_notMem fresh]
                exact (run_bind_ok rfl).trans next

end Loop

/-- How POST ends: with a reply, with the end of the connection or of the whole server, or not
at all. -/
inductive PostEnd
  | reply (message : Str)
  | killed
  | crashed
  | waiting
  deriving DecidableEq, Repr

/-- The result of a run that ends this way. -/
def PostEnd.IsEndOf (session : Session) (result : Except Exit (Unit × Session)) : PostEnd → Prop
  | .reply message =>
      ∃ session', result = .ok ((), session')
        ∧ session'.curstring = session.curstring ++ [⟨message, none⟩]
  | .killed => ∃ sent, result = .error (.killThread sent)
  | .crashed => result = .error .crash
  | .waiting => result = .error .waiting

/-- The message id with a number. -/
def numberedId (id : Nat) (host : Str) : Str := "<cdp".toList ++ dec id ++ ['@'] ++ host ++ ['>']

namespace Store

variable (s : Store)

/-- The number `get_uniqnum` takes. -/
def nextId : Option Nat :=
  if s.msgidWritable then
    match s.msgidFile with
    | none => some 1
    | some id => id.map (· + 1)
  else none

/-- The store behind `get_uniqnum`. -/
def counted : Store :=
  match s.nextId with
  | some id => { s with msgidFile := some (some id) }
  | none => s

/-- The store behind `filebackend_savebody`. -/
def saveBody (messageId body : Str) : Store :=
  { s with
    spool := Function.update s.spool (bodyFile messageId)
      (if s.spoolWritable then some body else none) }

/-- Whether `postings` has the primary key of an article. -/
def hasPosting (messageId : Str) : Bool := s.postings.any (·.msgid == messageId)

/-- Whether the insert into `postings` fails: on the primary key, or because it was cut. -/
def refusesPosting (row : Posting) : Bool := !row.statementFits || s.hasPosting row.msgid

/-- The store behind the insert into `postings`. -/
def withPosting (row : Posting) : Store := { s with postings := s.postings ++ [row] }

/-- The message of the check of the newsgroup names, which escapes them. -/
def postRefusal : List Str → Option Str
  | [] => none
  | newsgroup :: rest =>
      let name := dbSecureSqlbuffer .sqlite3 newsgroup
      if (s.newsgroups.filter (·.name == name)).isEmpty then some nosuchgroup
      else if (s.newsgroups.filter (fun g => g.name == name && g.pflag == 'y')).isEmpty then
        some posterrorNotallowed
      else postRefusal rest

/-- The end of POST from the body file on. -/
def storeAlone (cfg : Config) (env : Env) (user : Option Str) (row : Posting) (body : Str)
    (groups : List Str)
    : PostEnd × Store :=
  let saved := s.saveBody row.msgid body
  if s.refusesPosting row then (.killed, saved)
  else
    let posted := saved.withPosting row
    match posted.serve env.curHighInit row.msgid (groups.filter (s.mayPost cfg user)) .empty [] with
    | (true, all) => (.reply postdone, posted.deliver env.curHighInit row.msgid all)
    | (false, part) => (.killed, posted.deliver env.curHighInit row.msgid part)

end Store

section Store

variable (ext : Extern) (cfg : Config) (env : Env) (s : Store) (session : Session)

theorem getUniqnum_run
    : ((getUniqnum).run session).run (exec ext) s
      = (.ok (s.nextId.map (fun id => "<cdp".toList ++ dec id ++ ['@']), session), s.counted) := by
  unfold getUniqnum
  refine (run_sql_bind ext s session .msgidOpen _).trans ?_
  by_cases writable : s.msgidWritable = true
  · cases file : s.msgidFile with
    | none =>
        have next : s.nextId = some 1 := by simp [Store.nextId, writable, file]
        simp only [Store.counted, next]
        simp only [exec, file, Option.isSome_none, Bool.false_and, Bool.false_eq_true, if_false]
        refine (run_sql_bind ext s session .msgidCreate _).trans ?_
        simp only [exec, if_pos writable]
        rfl
    | some id =>
        have next : s.nextId = id.map (· + 1) := by simp [Store.nextId, writable, file]
        have opened : (exec ext .msgidOpen s).1 = true := by simp [exec, writable, file]
        simp only [Store.counted, next, opened, if_true]
        refine (run_sql_bind ext s session .msgidRead _).trans ?_
        simp only [exec, file, Option.join_some]
        cases id with
        | none => rfl
        | some id => rfl
  · have next : s.nextId = none := by simp [Store.nextId, writable]
    have opened : (exec ext .msgidOpen s).1 = false := by simp [exec, writable]
    simp only [Store.counted, next, opened, Bool.false_eq_true, if_false]
    refine (run_sql_bind ext s session .msgidCreate _).trans ?_
    simp only [exec, if_neg writable]
    rfl

theorem exec_bodyWrite (filename body : Str)
    : exec ext (.bodyWrite filename body) s
      = (s.spoolWritable,
          { s with
            spool := if s.spoolWritable then Function.update s.spool filename (some body)
              else s.spool }) := by
  obtain ⟨_, _, _, _, _, _, _, _, _, _, _, writable⟩ := s
  cases writable with
  | false => rfl
  | true => rfl

theorem filebackendSavebody_run (messageId body : Str)
    : ((filebackendSavebody messageId body).run session).run (exec ext) s
      = (.ok ((), session), s.saveBody messageId body) := by
  have written :
      (exec ext (.bodyWrite (bodyFile messageId) body)
        (exec ext (.bodyUnlink (bodyFile messageId)) s).2).2 = s.saveBody messageId body := by
    rw [exec_bodyWrite]
    simp only [exec, Store.saveBody, Function.update_idem]
    cases s.spoolWritable <;> rfl
  exact congrArg (fun t => (Except.ok ((), session), t)) written

/-- A row is inserted into `postings` unless its primary key is there. -/
theorem exec_insertPosting (row : Posting)
    : exec ext (.insertPosting row) s
      = if s.hasPosting row.msgid then (false, s) else (true, s.withPosting row) := by
  have key : s.postings.any (fun other => other.msgid = row.msgid) = s.hasPosting row.msgid := by
    simp only [Store.hasPosting, Bool.beq_eq_decide_eq]
  simp only [exec, insertRow, key]
  split
  · rfl
  · rfl

theorem dbPostInsertIntoPostings_run (row : Posting)
    : ((dbPostInsertIntoPostings row).run session).run (exec ext) s
      = if s.refusesPosting row then (.error (.killThread session.sent), s)
        else (.ok ((), session), s.withPosting row) := by
  unfold dbPostInsertIntoPostings
  cases fits : row.statementFits with
  | false =>
      simp only [Store.refusesPosting, fits, Bool.not_false, Bool.true_or, Bool.false_eq_true,
        if_true, if_false]
      rfl
  | true =>
      simp only [Store.refusesPosting, fits, Bool.not_true, Bool.false_or, if_true]
      refine (run_sql_bind ext s session (.insertPosting row) _).trans ?_
      rw [exec_insertPosting]
      split
      · rfl
      · rfl

/-- A run that ends a way and leaves a store behind. -/
def RunsTo (m : Srv Unit) (ends : PostEnd × Store) : Prop :=
  ends.1.IsEndOf session ((m.run session).run (exec ext) s).1
  ∧ ((m.run session).run (exec ext) s).2 = ends.2

theorem storeArticle_run (row : Posting) (body : Str) (groups : List Str)
    (bodyInFile : cfg.messageBodyInDb = false)
    : RunsTo ext s session (storeArticle cfg env row body groups)
        (s.storeAlone cfg env session.curAuthUser row body groups) := by
  have saved := filebackendSavebody_run ext s session row.msgid body
  have posted := dbPostInsertIntoPostings_run ext (s.saveBody row.msgid body) session row
  have samePostings : (s.saveBody row.msgid body).refusesPosting row = s.refusesPosting row := rfl
  rw [samePostings] at posted
  simp only [RunsTo, storeArticle, bodyInFile, Bool.false_eq_true, if_false]
  rw [run_bind_ok saved]
  simp only [Store.storeAlone]
  by_cases used : s.refusesPosting row = true
  · rw [if_pos used] at posted
    rw [run_bind_error posted, if_pos used]
    exact ⟨⟨session.sent, rfl⟩, rfl⟩
  · rw [if_neg used] at posted
    rw [run_bind_ok posted, if_neg used]
    have loop := postToGroups_run ext cfg env row.msgid session
      ((s.saveBody row.msgid body).withPosting row) groups .empty []
    have sameAccess : ((s.saveBody row.msgid body).withPosting row).mayPost cfg session.curAuthUser
        = s.mayPost cfg session.curAuthUser := rfl
    rw [deliver_nil, sameAccess] at loop
    generalize ((s.saveBody row.msgid body).withPosting row).serve env.curHighInit row.msgid
      (groups.filter (s.mayPost cfg session.curAuthUser)) .empty [] = outcome at loop ⊢
    obtain ⟨finished, served⟩ := outcome
    cases finished with
    | true =>
        rw [run_bind_ok loop]
        exact ⟨⟨_, rfl, rfl⟩, rfl⟩
    | false =>
        rw [run_bind_error loop]
        exact ⟨⟨session.sent, rfl⟩, rfl⟩

/-- One round of the check of the newsgroup names. -/
theorem chkNgNameCorrectness_cons (newsgroup : Str) (rest : List Str)
    : ((chkNgNameCorrectness (newsgroup :: rest)).run session).run (exec ext) s
      = if (s.newsgroups.filter (·.name == dbSecureSqlbuffer .sqlite3 newsgroup)).isEmpty then
          (.ok (false,
            { session with
              chkname := none, foundGroup := false
              curstring := session.curstring ++ [⟨nosuchgroup, none⟩] }), s)
        else if (s.newsgroups.filter
            (fun g => g.name == dbSecureSqlbuffer .sqlite3 newsgroup && g.pflag == 'y')).isEmpty then
          (.ok (false,
            { session with
              chkname := none, foundGroup := false
              curstring := session.curstring ++ [⟨posterrorNotallowed, none⟩] }), s)
        else
          ((chkNgNameCorrectness rest).run
            { session with chkname := none, foundGroup := false }).run (exec ext) s := by
  have found := dbCheckNewsgroupExistence_run ext
    { session with chkname := some (dbSecureSqlbuffer .sqlite3 newsgroup) } s rfl
  have posting := dbCheckNewsgroupPostingAllowed_run ext
    { session with chkname := some (dbSecureSqlbuffer .sqlite3 newsgroup), foundGroup := true } s rfl
  rw [chkNgNameCorrectness]
  refine (run_bind_ok rfl).trans ?_
  cases missing : (s.newsgroups.filter (·.name == dbSecureSqlbuffer .sqlite3 newsgroup)).isEmpty with
  | true =>
      rw [missing] at found
      exact (run_bind_ok found).trans rfl
  | false =>
      rw [missing] at found
      refine (run_bind_ok found).trans ?_
      refine (run_bind_ok rfl).trans ((run_bind_ok rfl).trans ((run_bind_ok rfl).trans ?_))
      cases closed : (s.newsgroups.filter
          (fun g => g.name == dbSecureSqlbuffer .sqlite3 newsgroup && g.pflag == 'y')).isEmpty with
      | true =>
          rw [closed] at posting
          exact (run_bind_ok posting).trans rfl
      | false =>
          rw [closed] at posting
          exact (run_bind_ok posting).trans rfl

/-- The check of the newsgroup names: the store stays as it is, and the reply gets the message
of the first name that is refused. -/
theorem chkNgNameCorrectness_run (groups : List Str)
    : ∃ session',
        ((chkNgNameCorrectness groups).run session).run (exec ext) s
          = (.ok ((s.postRefusal groups).isNone, session'), s)
        ∧ session'.curAuthUser = session.curAuthUser
        ∧ session'.curstring
          = session.curstring ++ ((s.postRefusal groups).map (fun m => ⟨m, none⟩)).toList := by
  induction groups generalizing session with
  | nil => exact ⟨session, rfl, rfl, by simp [Store.postRefusal]⟩
  | cons newsgroup rest ih =>
      rw [chkNgNameCorrectness_cons]
      simp only [Store.postRefusal]
      split
      · exact ⟨_, rfl, rfl, rfl⟩
      · split
        · exact ⟨_, rfl, rfl, rfl⟩
        · exact ih { session with chkname := none, foundGroup := false }

end Store

/-- An article as `docmd_post` has it when it starts to store it. -/
structure Article where
  host : Str
  ltime : Int
  ngstrp : Str
  header : Str
  body : Str
  deriving DecidableEq, Repr

def Article.groups (article : Article) : List Str := strtok ',' article.ngstrp

/-- The row for an article and the number of its message id. -/
def Article.row (ext : Extern) (env : Env) (article : Article) (id : Nat) : Posting :=
  postingRow ext env (numberedId id article.host) article.ltime article.ngstrp article.header
    article.body

/-- What `docmd_post` makes of the received text without a look at the store: it ends before the
check of the newsgroup names, or ends or goes on behind it. -/
inductive Prepared
  | ended (ends : PostEnd)
  | checked (ngstrp : Str) (next : Except PostEnd Article)

/-- The steps of `docmd_post` between the number and the store. -/
def prepareArticle (cfg : Config) (env : Env) (len : Nat) (header ngstrp body : Str)
    : Except PostEnd Article :=
  match messageIdHost cfg env with
  | none => .error .killed
  | some host =>
      match removeFields len header, env.ltime with
      | none, _ => .error .crashed
      | some _, none => .error .killed
      | some header, some ltime =>
          if cfg.messageBodyInDb then .error .crashed
          else .ok ⟨host, ltime, ngstrp, cstr header, body⟩

/-- What becomes of a received article. -/
def prepareBuffer (cfg : Config) (env : Env) (buf : Str) : Prepared :=
  match checkArticle buf with
  | .garbage => .ended .killed
  | .crash => .ended .crashed
  | .refused message => .ended (.reply message)
  | .passed len header ngstrp body =>
      .checked ngstrp (prepareArticle cfg env len header ngstrp body)

def prepare (cfg : Config) (env : Env) : Prepared :=
  match postReceive cfg.maxPostSize [] env.recv with
  | .tooBig => .ended .killed
  | .failed => .ended .killed
  | .waiting => .ended .waiting
  | .article buf => prepareBuffer cfg env buf

/-- The part of POST that uses the store. -/
def Store.postPrepared (ext : Extern) (cfg : Config) (env : Env) (user : Option Str) (s : Store)
    : Prepared → PostEnd × Store
  | .ended ends => (ends, s)
  | .checked ngstrp next =>
      match s.postRefusal (strtok ',' ngstrp) with
      | some message => (.reply message, s)
      | none =>
          if cfg.messageCountInDb then (.crashed, s)
          else
            match s.nextId, next with
            | none, _ => (.killed, s)
            | some _, .error ends => (ends, s.counted)
            | some id, .ok article =>
                s.counted.storeAlone cfg env user (article.row ext env id) article.body
                  article.groups

/-- POST on a store that nobody else uses: how it ends, and the store behind it. -/
def Store.post (ext : Extern) (cfg : Config) (env : Env) (user : Option Str) (s : Store)
    : PostEnd × Store :=
  s.postPrepared ext cfg env user (prepare cfg env)

section Post

variable (ext : Extern) (cfg : Config) (env : Env) (s : Store) (session : Session)

theorem PostEnd.IsEndOf.congr {session session' : Session} {result : Except Exit (Unit × Session)}
    {ends : PostEnd} (isEnd : ends.IsEndOf session' result)
    (same : session'.curstring = session.curstring)
    : ends.IsEndOf session result := by
  cases ends with
  | reply message => simpa only [PostEnd.IsEndOf, same] using isEnd
  | killed => exact isEnd
  | crashed => exact isEnd
  | waiting => exact isEnd

/-- The end of a handler whose first part returned without a reply. -/
theorem RunsTo.bind {α : Type} {m : Srv α} {f : α → Srv Unit} {a : α} {session' : Session}
    {s' : Store} {ends : PostEnd × Store}
    (first : (m.run session).run (exec ext) s = (.ok (a, session'), s'))
    (silent : session'.curstring = session.curstring)
    (rest : RunsTo ext s' session' (f a) ends)
    : RunsTo ext s session (m >>= f) ends := by
  obtain ⟨isEnd, store⟩ := rest
  have ran : ((m >>= f).run session).run (exec ext) s = ((f a).run session').run (exec ext) s' :=
    run_bind_ok first
  rw [RunsTo, ran]
  exact ⟨isEnd.congr silent, store⟩

theorem postAccepted_run (len : Nat) (header ngstrp body : Str)
    : RunsTo ext s session (postAccepted ext cfg env len header ngstrp body)
        (if cfg.messageCountInDb then (.crashed, s)
          else
            match s.nextId, prepareArticle cfg env len header ngstrp body with
            | none, _ => (.killed, s)
            | some _, .error ends => (ends, s.counted)
            | some id, .ok article =>
                s.counted.storeAlone cfg env session.curAuthUser (article.row ext env id)
                  article.body article.groups) := by
  unfold postAccepted newMessageNumber
  split
  · exact ⟨rfl, rfl⟩
  · refine RunsTo.bind ext s session (getUniqnum_run ext s session) rfl ?_
    cases taken : s.nextId with
    | none =>
        have unchanged : s.counted = s := by simp only [Store.counted, taken]
        rw [unchanged]
        exact ⟨⟨session.sent, rfl⟩, rfl⟩
    | some id =>
        simp only [Option.map_some, prepareArticle]
        cases messageIdHost cfg env with
        | none => exact ⟨⟨session.sent, rfl⟩, rfl⟩
        | some host =>
            cases removed : removeFields len header with
            | none => exact ⟨rfl, rfl⟩
            | some header =>
                cases env.ltime with
                | none => exact ⟨⟨session.sent, rfl⟩, rfl⟩
                | some ltime =>
                    cases bodyInDb : cfg.messageBodyInDb with
                    | true =>
                        simp only [storeArticle, bodyInDb, if_true]
                        exact ⟨rfl, rfl⟩
                    | false => exact storeArticle_run ext cfg env s.counted session _ _ _ bodyInDb

theorem postArticle_run (buf : Str)
    : RunsTo ext s session (postArticle ext cfg env buf)
        (s.postPrepared ext cfg env session.curAuthUser (prepareBuffer cfg env buf)) := by
  unfold postArticle prepareBuffer
  cases checkArticle buf with
  | garbage => exact ⟨⟨_, rfl⟩, rfl⟩
  | crash => exact ⟨rfl, rfl⟩
  | refused message => exact ⟨⟨_, rfl, rfl⟩, rfl⟩
  | passed len header ngstrp body =>
      obtain ⟨session', ran, user, reply⟩ := chkNgNameCorrectness_run ext s session (strtok ',' ngstrp)
      simp only [Store.postPrepared]
      cases refusal : s.postRefusal (strtok ',' ngstrp) with
      | some message =>
          rw [refusal] at ran reply
          simp only [RunsTo, run_bind_ok ran]
          exact ⟨⟨session', rfl, reply⟩, rfl⟩
      | none =>
          rw [refusal] at ran reply
          refine RunsTo.bind ext s session ran (by simpa using reply) ?_
          have accepted := postAccepted_run ext cfg env s session' len header ngstrp body
          rw [user] at accepted
          exact accepted

/-- POST on a store that nobody else uses does what `Store.post` says. -/
theorem docmdPost_run
    : RunsTo ext s session (docmdPost ext cfg env)
        (s.post ext cfg env session.curAuthUser) := by
  have sent : ((send postok).run session).run (exec ext) s
      = (.ok ((), { session with sent := session.sent ++ [⟨postok, none⟩] }), s) := rfl
  refine RunsTo.bind ext s session sent rfl ?_
  unfold Store.post prepare
  cases postReceive cfg.maxPostSize [] env.recv with
  | tooBig => exact ⟨⟨_, rfl⟩, rfl⟩
  | failed => exact ⟨⟨_, rfl⟩, rfl⟩
  | waiting => exact ⟨rfl, rfl⟩
  | article buf => exact postArticle_run ext cfg env s _ buf

end Post

end WendzelNNTPd
