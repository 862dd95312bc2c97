import WendzelNNTPd.Posting.RoundTrip
import WendzelNNTPd.Reading.GroupSelection

/-! What GROUP promises. In every store that the server and the tool reach, each number between
the first and the last one that GROUP reports is that of an article, and the article can be read.
-/

namespace WendzelNNTPd

open CString Atomic

-----------------------------------------------------------------------------------------
-- Stores in which every row can be read
-----------------------------------------------------------------------------------------

/-- The peers of a step have names that fit into message ids. -/
def SystemStep.Hosted : SystemStep → Prop
  | .serve _ _ line => HostNames line.env
  | .administer _ => True

/-- A message id that the server makes on a host. -/
def HostedId (messageId : Str) : Prop :=
  ∃ id host, messageId = numberedId id host ∧ ∀ c ∈ host, isHostChar c = true

/-- Every row stands for an article with a header and a body. -/
structure Store.Readable (s : Store) : Prop where
  numbered : s.Numbered
  filing : s.Filing
  rows : ∀ n ∈ s.ngposts,
    HostedId n.msgid ∧ ∃ header body, body ≠ [] ∧ s.Keeps n header body

section Readable

variable {ext : Extern} {hashSalt : Str} {s s' : Store} {n : Ngpost}

/-- The rows behind a delivery: those of before, and those of the article. -/
theorem rows_storeAlone {cfg : Config} {env : Env} {user : Option Str} {row : Posting} {text : Str}
    {groups : List Str} (writable : s.spoolWritable = true)
    (member : n ∈ (s.storeAlone cfg env user row text groups).2.ngposts)
    : n ∈ s.ngposts
      ∨ n.msgid = row.msgid
        ∧ (s.storeAlone cfg env user row text groups).2.Keeps n row.header text := by
  have delivered (served : List Str)
      (row' : n ∈ (((s.saveBody row.msgid text).withPosting row).deliver env.curHighInit row.msgid
        served).ngposts)
      : n ∈ s.ngposts
        ∨ n.msgid = row.msgid
          ∧ (((s.saveBody row.msgid text).withPosting row).deliver env.curHighInit row.msgid
              served).Keeps n row.header text := by
    rcases List.mem_append.mp row' with old | new
    · exact Or.inl old
    · obtain ⟨g, -, rfl⟩ := List.mem_map.mp new
      refine Or.inr ⟨rfl, row', ⟨row, ?_, rfl, rfl⟩, ?_⟩
      · exact List.mem_append_right _ (List.mem_singleton_self _)
      · exact (Function.update_self _ _ _).trans (if_pos writable)
  revert member
  simp only [Store.storeAlone]
  split
  · exact Or.inl
  · split
    · exact delivered _
    · exact delivered _

theorem counted_ngposts (s : Store) : s.counted.ngposts = s.ngposts := by
  unfold Store.counted
  split
  · rfl
  · rfl

theorem Store.Readable.post (readable : s.Readable) (cfg : Config) {env : Env}
    (hosts : HostNames env) (user : Option Str) (filing : (s.post ext cfg env user).2.Filing)
    : (s.post ext cfg env user).2.Readable := by
  refine ⟨numbered_post ext cfg env user readable.numbered, filing, fun n member => ?_⟩
  have old (row : n ∈ s.ngposts)
      : HostedId n.msgid
        ∧ ∃ header body, body ≠ [] ∧ (s.post ext cfg env user).2.Keeps n header body := by
    obtain ⟨named, header, body, nonempty, keeps⟩ := readable.rows n row
    exact ⟨named, header, body, nonempty, keeps.post readable.numbered cfg env user⟩
  cases stores : s.postStores cfg env with
  | none =>
      rcases (post_of_not_stores ext user stores).2 with same | same <;> rw [same] at member
      · exact old member
      · exact old (counted_ngposts s ▸ member)
  | some stored =>
      obtain ⟨id, article⟩ := stored
      obtain ⟨ran, counted⟩ := post_of_stores ext user stores
      have writable : s.counted.spoolWritable = true := by
        rw [counted]
        exact readable.filing.writable
      rw [ran] at member
      rcases rows_storeAlone writable member with row | ⟨named, keeps⟩
      · exact old (counted_ngposts s ▸ row)
      · refine ⟨⟨id, article.host, named, hosts.host (stored_article stores).1⟩, ?_⟩
        rw [ran]
        exact ⟨_, article.body, nonempty_of_stored stores, keeps⟩

theorem AdmEffect.old_row {args : List Str} (effect : AdmEffect args s s') (row : n ∈ s'.ngposts)
    : n ∈ s.ngposts := by
  cases effect with
  | delgroup mode => exact (List.mem_filter.mp row).1
  | _ => exact row

theorem SystemStep.keeps_readable (readable : s.Readable) {step : SystemStep} (hosted : step.Hosted)
    : (step.perform ext hashSalt s).Readable := by
  have filing := @SystemStep.keeps_filing ext hashSalt s readable.filing step
  cases step with
  | serve cfg session line =>
      rcases SystemStep.perform_serve ext hashSalt s cfg session line with same | posted
      · rw [same]
        exact readable
      · rw [posted] at filing ⊢
        exact readable.post cfg hosted _ filing
  | administer call =>
      have effect := admCall_effect ext hashSalt s call
      refine ⟨effect.keeps_numbered readable.numbered, filing, fun n row => ?_⟩
      obtain ⟨named, header, body, nonempty, keeps⟩ := readable.rows n (effect.old_row row)
      exact ⟨named, header, body, nonempty, effect.keeps_article keeps row⟩

/-- Every store that is reached from one without articles.
Witness: induction on the steps.
-/
theorem performAll_readable (accounts : Store) (writable : accounts.spoolWritable = true)
    {steps : List SystemStep} (hosted : ∀ step ∈ steps, step.Hosted)
    : (performAll ext hashSalt accounts.withoutArticles steps).Readable := by
  have run (s : Store) (readable : s.Readable) : (performAll ext hashSalt s steps).Readable := by
    induction steps generalizing s with
    | nil => exact readable
    | cons step rest ih =>
        refine ih (fun other member => hosted other (List.mem_cons_of_mem _ member)) _ ?_
        exact SystemStep.keeps_readable readable (hosted step (by simp))
  obtain ⟨numbered, filing⟩ := @performAll_numbered ext hashSalt accounts writable []
  refine run _ ⟨numbered, filing, fun n row => ?_⟩
  exact (List.not_mem_nil row).elim

end Readable

-----------------------------------------------------------------------------------------
-- GROUP
-----------------------------------------------------------------------------------------

/-- A client that may select the newsgroup. -/
structure Session.Enters (cfg : Config) (s : Store) (group : Str) (r : Session) : Prop
    extends r.Commands cfg where
  allowed : (cfg.useAuth && cfg.useAcl) = true → s.userAllows r.curAuthUser group = true

/-- The session behind a GROUP that has found its newsgroup. -/
def Session.entered (r : Session) (g : Newsgroup) (article : Option Str) : Session :=
  { r with
    curstring := r.curstring ++ [⟨groupLine g, none⟩]
    selectedGroup := some g.name
    selectedArticle := article
    foundGroup := true }

section Group

variable {ext : Extern} {cfg : Config} {s : Store} {g : Newsgroup}

/-- The article that GROUP selects. -/
def Store.firstOf (s : Store) (group : Str) : Option Str :=
  (s.ngposts.filter (fun n => s.minPostnum group == some n.postnum)).getLast?.map numberText

theorem groupCb_entered (r : Session)
    : ((groupCb g).run r).run (exec ext) s = (.ok ((), r.entered g (s.firstOf g.name)), s) := by
  let rows := s.ngposts.filter (fun n => s.minPostnum g.name == some n.postnum)
  let selected : Session :=
    { r with
      curstring := r.curstring ++ [⟨groupLine g, none⟩]
      selectedGroup := some g.name
      selectedArticle := none }
  have each := selectEach_run rows selected
  rw [Option.or_none] at each
  refine (run_bind_ok (rfl : ((toSend _).run r).run (exec ext) s = _)).trans ?_
  refine (run_bind_ok (rfl : ((modify _ : Srv PUnit).run _).run (exec ext) s
    = (.ok (⟨⟩, selected), s))).trans ?_
  refine (run_sql_bind ext s selected (.selectFirstPostnum g.name) _).trans ?_
  exact (run_bind_ok (congrArg (fun p => p.run (exec ext) s) each)).trans rfl

theorem dbGroup_entered (only : s.newsgroups.filter (·.name == g.name) = [g]) (r : Session)
    : ((dbGroup g.name).run r).run (exec ext) s
      = (.ok ((), r.entered g (s.firstOf g.name)), s) := by
  have one : ((([g] : List Newsgroup).forM groupCb).run { r with foundGroup := false }).run
      (exec ext) s
        = (.ok ((), ({ r with foundGroup := false } : Session).entered g (s.firstOf g.name)), s) :=
    (run_bind_ok (groupCb_entered _)).trans rfl
  refine (run_bind_ok (rfl : ((get : Srv Session).run r).run (exec ext) s = (.ok (r, r), s))).trans ?_
  refine (run_sql_bind ext s r (.selectNewsgroup g.name) _).trans ?_
  have rows : (exec ext (.selectNewsgroup g.name) s).1 = [g] := only
  rw [rows]
  refine (run_bind_ok (rfl : ((modify _ : Srv PUnit).run r).run (exec ext) s
    = (.ok (⟨⟩, { r with foundGroup := false }), s))).trans ?_
  exact (run_bind_ok one).trans rfl

theorem docmdGroup_sqlite3 (command : Str)
    : SrvBackend.sqlite3.docmdGroup cfg command = docmdGroup cfg command := by
  unfold SrvBackend.docmdGroup docmdGroup
  simp only [aclCheck_sqlite3]
  rfl

/-- The session in which GROUP has looked for a newsgroup. -/
def Session.lookedFor (r : Session) (name : Str) (found : Bool) : Session :=
  { r with chkname := some name, foundGroup := found }

/-- GROUP up to the existence check. -/
theorem docmdGroup_looked {command name : Str} (named : getSlinearg command 1 = some name)
    (r : Session) {found : Bool}
    (looks : (!(s.newsgroups.filter (·.name == name)).isEmpty) = found)
    : ((docmdGroup cfg command).run r).run (exec ext) s
      = ((if !found then do
            toSend nosuchgroup
            modify (fun s => { s with foundGroup := r.foundGroup })
          else if cfg.useAuth && cfg.useAcl then do
            let allowed ← aclCheckUserGroup r.curAuthUser name
            if allowed then dbGroup name else toSend nosuchgroup
          else dbGroup name : Srv Unit).run (r.lookedFor name found)).run (exec ext) s := by
  subst looks
  let rows := s.newsgroups.filter (·.name == name)
  have exists' : (dbCheckNewsgroupExistence.run (r.lookedFor name false)).run (exec ext) s
      = (.ok ((), r.lookedFor name (!rows.isEmpty)), s) :=
    dbCheckNewsgroupExistence_run ext (r.lookedFor name false) s rfl
  unfold docmdGroup
  refine (run_bind_ok (rfl : ((get : Srv Session).run r).run (exec ext) s = (.ok (r, r), s))).trans ?_
  rw [named]
  refine (run_bind_ok (rfl : ((modify _ : Srv PUnit).run r).run (exec ext) s
    = (.ok (⟨⟩, r.lookedFor name false), s))).trans ?_
  refine (run_bind_ok exists').trans ?_
  exact run_bind_ok (rfl : ((get : Srv Session).run (r.lookedFor name (!rows.isEmpty))).run
    (exec ext) s = (.ok (r.lookedFor name (!rows.isEmpty), r.lookedFor name (!rows.isEmpty)), s))

theorem docmdGroup_entered (only : s.newsgroups.filter (·.name == g.name) = [g]) {command : Str}
    (named : getSlinearg command 1 = some g.name) {r : Session}
    (allowed : (cfg.useAuth && cfg.useAcl) = true → s.userAllows r.curAuthUser g.name = true)
    : ((docmdGroup cfg command).run r).run (exec ext) s
      = (.ok ((), (r.lookedFor g.name true).entered g (s.firstOf g.name)), s) := by
  have entered := @dbGroup_entered ext s g only (r.lookedFor g.name true)
  have there : (!(s.newsgroups.filter (·.name == g.name)).isEmpty) = true := by
    rw [only]
    rfl
  refine (docmdGroup_looked named r there).trans ?_
  refine Eq.trans (congrArg (fun m : Srv Unit => (m.run (r.lookedFor g.name true)).run (exec ext) s)
    (if_neg (by simp))) ?_
  by_cases acl : (cfg.useAuth && cfg.useAcl) = true
  · rw [if_pos acl]
    refine (run_bind_ok (aclCheckUserGroup_run ext s (r.lookedFor g.name true) _ _)).trans ?_
    rw [if_pos (allowed acl)]
    exact entered
  · rw [if_neg acl]
    exact entered

theorem groupKeyword : isKeyword "group".toList = true := by decide

theorem doCommand_group {env : Env} {command : Str} {r : Session}
    (begins : caseEqPrefix "group".toList command = true)
    (authenticated : (r.authIsThere || !cfg.useAuth) = true)
    (secured : (!r.tlsActive && cfg.tlsIsMandatory) = false)
    : (doCommand ext cfg env command).run r
      = (SrvBackend.sqlite3.docmdGroup cfg command).run r := by
  have authinfo : caseEqPrefix "authinfo".toList command = false :=
    caseEqPrefix_apart begins (by decide) (by decide)
  have quit : ¬caseEqPrefix "quit".toList command = true := by
    rw [caseEqPrefix_apart begins (by decide) (by decide)]
    exact Bool.false_ne_true
  rw [← doCommand_sqlite3, doCommand_branch authinfo quit, authenticated, branch_group begins,
    checkMandatoryTls_run, secured]
  rfl

/-- A valid name is one word. -/
theorem isWord_of_valid {name : Str} (valid : validGroupName name = true)
    : IsWord name ∧ '\'' ∉ name := by
  have plain (c : Char) (member : c ∈ name) : (isalnum c || c == '.' || c == '-') = true :=
    List.all_eq_true.mp valid c member
  constructor
  · intro c member
    have ok := plain c member
    refine ⟨?_, ?_, ?_, ?_⟩
    all_goals
      rintro rfl
      exact absurd ok (by decide)
  · exact fun quote => absurd (plain _ quote) (by decide)

/-- The argument of a GROUP line. -/
theorem group_readLine (valid : validGroupName g.name = true) (nonempty : g.name ≠ []) {word : Str}
    (named : word.map Char.toLower = "group".toList) {line : Line}
    (is : line.recvbuf = readLine word g.name)
    : caseEqPrefix "group".toList line.command = true
      ∧ getSlinearg line.command 1 = some g.name := by
  obtain ⟨isWord, quoteless⟩ := isWord_of_valid valid
  have command : line.command = word ++ ' ' :: g.name := by
    rw [Line.command, is]
    exact command_readLine groupKeyword named quoteless
  rw [command]
  exact ⟨begins_readLine groupKeyword named _,
    getSlinearg_readLine groupKeyword named isWord nonempty⟩

/-- What GROUP does for a client that may select the newsgroup. -/
theorem program_group (only : s.newsgroups.filter (·.name == g.name) = [g]) {reader : Session}
    (enters : reader.Enters cfg s g.name) {line : Line}
    (begins : caseEqPrefix "group".toList line.command = true)
    (argument : getSlinearg line.command 1 = some g.name)
    : ∃ reader', ((Connection.program ext cfg ⟨reader, s⟩ line).run (exec ext) s
          = (.ok ((), reader'), s))
        ∧ reader'.ReadsIn cfg g.name ∧ reader'.sent.map (·.text) = [groupLine g] := by
  let fresh : Session := { reader with sent := [] }
  have ran : ((doCommand ext cfg line.env line.command).run fresh).run (exec ext) s
      = (.ok ((), (fresh.lookedFor g.name true).entered g (s.firstOf g.name)), s) := by
    rw [@doCommand_group ext cfg line.env line.command fresh begins enters.authenticated
      enters.secured, docmdGroup_sqlite3]
    exact docmdGroup_entered only argument enters.allowed
  have replied : ((fresh.lookedFor g.name true).entered g (s.firstOf g.name)).curstring ≠ [] :=
    List.append_ne_nil_of_right_ne_nil _ (List.cons_ne_nil _ _)
  refine ⟨_, @program_of_doCommand ext cfg ⟨reader, s⟩ line _ _ enters.settled ran replied, ?_, ?_⟩
  · exact ⟨⟨rfl, enters.authenticated, enters.secured, enters.settled⟩, rfl⟩
  · simp only [Session.entered, Session.lookedFor, fresh, enters.idle, List.nil_append]
    rfl

end Group

section Promise

variable {ext : Extern} {hashSalt : Str} {s : Store} {g : Newsgroup}

theorem groupLine_eq (limit : g.high ≤ 2 ^ 31 - 1)
    : groupLine g
      = "211 ".toList ++ dec g.high ++ ' ' :: (if g.high = 0 then ['0'] else ['1'])
          ++ ' ' :: dec g.high ++ ' ' :: g.name ++ " group selected\r\n".toList := by
  have small : asInt32 g.high = g.high := by
    rw [asInt32, Nat.mod_eq_of_lt (by omega), if_pos (by omega)]
  have zero : ((g.high : Int) = 0) = (g.high = 0) := by
    rw [Int.natCast_eq_zero]
  calc groupLine g
    _ = "211 ".toList ++ decInt (asInt32 g.high)
          ++ ' ' :: (if asInt32 g.high = 0 then ['0'] else ['1'])
          ++ ' ' :: decInt (asInt32 g.high) ++ ' ' :: g.name ++ " group selected\r\n".toList := rfl
    _ = "211 ".toList ++ dec g.high ++ ' ' :: (if g.high = 0 then ['0'] else ['1'])
          ++ ' ' :: dec g.high ++ ' ' :: g.name ++ " group selected\r\n".toList := by
      simp only [small, zero]
      rfl

/-- Every number up to the high value is that of an article. -/
theorem Store.Readable.article (readable : s.Readable) (group : g ∈ s.newsgroups) {k : Nat}
    (first : 1 ≤ k) (last : k ≤ g.high)
    : ∃ n header body, n ∈ s.ngRows g.name ∧ n.postnum = k ∧ HostedId n.msgid ∧ body ≠ []
        ∧ s.Finds n header body := by
  have inside : k ∈ (s.ngRows g.name).map (·.postnum) := by
    rw [readable.numbered.numbers g group, List.mem_range'_1]
    omega
  obtain ⟨n, row, number⟩ := List.mem_map.mp inside
  obtain ⟨hosted, header, body, nonempty, keeps⟩ := readable.rows n (List.mem_filter.mp row).1
  exact ⟨n, header, body, row, number, hosted, nonempty, readable.numbered, readable.filing, keeps⟩

end Promise

/-- A newsgroup is added, and an article is posted to it. -/
def groupWithReply : List SystemStep :=
  [.administer (addGroupCall "a".toList),
    .serve openConfig openSession ⟨"POST\r\n".toList, replyEnv⟩]

theorem groupWithReply_reached
    : performAll sampleExtern [] Store.empty.withoutArticles groupWithReply
      = (oneGroup.post sampleExtern openConfig replyEnv none).2 :=
  @perform_post sampleExtern openConfig oneGroup [] openSession ⟨"POST\r\n".toList, replyEnv⟩
    ⟨rfl, rfl, rfl, rfl⟩ (by decide)

theorem hosted_groupWithReply : ∀ step ∈ groupWithReply, step.Hosted := by
  intro step member
  rcases List.mem_cons.mp member with rfl | later
  · exact trivial
  · cases List.mem_singleton.mp later
    exact hostNames_replyEnv

end WendzelNNTPd
