import WendzelNNTPd.Posting.CounterFile
import WendzelNNTPd.Posting.CommonGroup

/-! Clients that take their message ids from the counter file at the same time. A body is
written before the row in `postings` is, under a name made from the message id. Message ids and
bodies stay apart, and no client is killed for another's sake, if no client reads or creates the
file between the read or the failed open of another one and its write.
-/

namespace WendzelNNTPd

open CString Atomic

-----------------------------------------------------------------------------------------
-- What clients must not do to each other
-----------------------------------------------------------------------------------------

section Property

variable {ι : Type} (ext : Extern) (clients : ι → PostClient) (s₀ : Store)

/-- What `filebackend_retrbody` finds. -/
def Store.retrbody (s : Store) (messageId : Str) : Option Str :=
  (s.spool (bodyFile messageId)).filter (fun b => !b.isEmpty)

theorem filebackendRetrbody_run (s : Store) (session : Session) (messageId : Str)
    : ((filebackendRetrbody messageId).run session).run (exec ext) s
      = (.ok (s.retrbody messageId, session), s) :=
  rfl

/-- A client has generated a message id in a run with these actions. -/
def Generated (trace : List (ι × Stmt)) (i : ι) (messageId : Str) : Prop :=
  ∃ id host, (i, .msgidWrite id) ∈ trace
    ∧ messageIdHost (clients i).cfg (clients i).env = some host
    ∧ messageId = numberedId id host

/-- Clients have not got in each other's way: their message ids differ, one that is killed would
have been killed on its own, the process is alive, and every article has the body it had before
or was posted with. -/
structure PostsApart (trace : List (ι × Stmt)) (pool : Pool Sql Exit (Unit × Session) Store ι)
    : Prop where
  ids : ∀ i j a b, i ≠ j → Generated clients trace i a → Generated clients trace j b → a ≠ b
  killed :
    ∀ i sent, pool.threads i = .stop (.killThread sent) →
      ∃ sent', (((clients i).program ext).run (exec ext) s₀).1 = .error (.killThread sent')
  alive : ∀ i, pool.threads i ≠ .stop .crash
  bodies :
    ∀ row ∈ pool.store.postings,
      row ∈ s₀.postings ∧ pool.store.retrbody row.msgid = s₀.retrbody row.msgid
      ∨ ∃ i article id, (clients i).article = some article
          ∧ row = article.row ext (clients i).env id
          ∧ pool.store.retrbody row.msgid = some article.body

/-- What a client meets only because of others: a number so long that the statement for its
article is cut short, and a newsgroup at its limit. -/
def PostClient.undisturbed (c : PostClient) (s : Store) : Stmt → Bool
  | .msgidWrite id =>
      c.article.all (fun article =>
        (article.row ext c.env id).statementFits
        || s₀.nextId.all (fun id' => !(article.row ext c.env id').statementFits))
  | .selectNewsgroup g =>
      decide (s.highValue c.env.curHighInit g ≤ highLimit)
      || decide (highLimit < s₀.highValue c.env.curHighInit g)
  | _ => true

/-- The chosen client reads or creates the counter file only while no other client is about to
create or write it, and is not disturbed otherwise. -/
def CounterAlone (pool : Pool Sql Exit (Unit × Session) Store ι) (i : ι) : Prop :=
  ((pool.threads i).nextAct.any Stmt.usesCounter = true →
    ∀ j, j ≠ i → (pool.threads j).nextAct.any Stmt.setsCounter = false)
  ∧ (pool.threads i).nextAct.all ((clients i).undisturbed ext s₀ pool.store) = true

instance [Fintype ι] [DecidableEq ι] (pool : Pool Sql Exit (Unit × Session) Store ι) (i : ι)
    : Decidable (CounterAlone ext clients s₀ pool i) :=
  inferInstanceAs (Decidable (_ ∧ _))

end Property

-----------------------------------------------------------------------------------------
-- Articles and bodies
-----------------------------------------------------------------------------------------

section Articles

/-- The body of the client's article is in its file. -/
def PostMode.hasBody : PostMode → Bool
  | .saved _ | .refused _ | .posting _ _ _ | .holding _ _ _ _ _ | .inserted _ _ _ _ _ => true
  | .full _ _ _ | .repeated _ _ _ => true
  | _ => false

/-- The article of the client is in `postings`. -/
def PostMode.posted : PostMode → Bool
  | .posting _ _ _ | .holding _ _ _ _ _ | .inserted _ _ _ _ _ | .full _ _ _ | .repeated _ _ _ => true
  | _ => false

variable {ι : Type} (ext : Extern) (clients : ι → PostClient) (s₀ : Store)

/-- A row of `postings` is the article of a client. -/
def PostedRow (modes : ι → PostMode) (p : Posting) : Prop :=
  ∃ i id article, (modes i).posted = true ∧ (modes i).number = some id
    ∧ (clients i).article = some article ∧ p = article.row ext (clients i).env id

/-- A row of `ngposts` is for the article of a client. -/
def DeliveredRow (modes : ι → PostMode) (n : Ngpost) : Prop :=
  ∃ i id article, (modes i).delivered n.ng = true ∧ (modes i).number = some id
    ∧ (clients i).article = some article ∧ n.msgid = numberedId id article.host

/-- Rows and bodies belong to the first store or to the clients. -/
structure ArticleInv (modes : ι → PostMode) (s : Store) : Prop where
  spoolWritable : s.spoolWritable = true
  postings : ∀ p ∈ s.postings, p ∈ s₀.postings ∨ PostedRow ext clients modes p
  ngposts : ∀ n ∈ s.ngposts, n ∈ s₀.ngposts ∨ DeliveredRow clients modes n
  oldBodies : ∀ p ∈ s₀.postings, s.spool (bodyFile p.msgid) = s₀.spool (bodyFile p.msgid)
  bodies : ∀ i id article, (modes i).hasBody = true → (modes i).number = some id →
    (clients i).article = some article →
    s.spool (bodyFile (numberedId id article.host)) = some article.body

variable {ext clients s₀}

theorem articleInv_start (writable : s₀.spoolWritable = true)
    : ArticleInv ext clients s₀ (fun _ => .checking) s₀ :=
  ⟨writable, fun _ => Or.inl, fun _ => Or.inl, fun _ _ => rfl, fun _ _ _ hasBody => nomatch hasBody⟩

variable {modes : ι → PostMode} {s s' : Store} {i : ι} {mode' : PostMode}

/-- The message id of a client without a row in `postings` is not in use. -/
theorem hasPosting_of_unposted (counter : CounterInv s₀ modes s)
    (inv : ArticleInv ext clients s₀ modes s) {id : Nat} {article : Article}
    (number : (modes i).number = some id) (unposted : (modes i).posted = false)
    : s.hasPosting (numberedId id article.host) = false := by
  rw [Store.hasPosting, List.any_eq_false]
  intro p member same
  rw [beq_iff_eq] at same
  rcases inv.postings p member with old | ⟨j, id', article', posted, number', -, rfl⟩
  · exact counter.fresh i id number ⟨article.host, Or.inl ⟨p, old, congrArg bodyFile same⟩⟩
  · obtain rfl := numberedId_injective same
    obtain rfl := counter.distinct i j id' number number'
    rw [posted] at unposted
    cases unposted

/-- The rows of a client's message id are those it has inserted. -/
theorem delivered_of_hasNgpost (counter : CounterInv s₀ modes s)
    (inv : ArticleInv ext clients s₀ modes s) {id : Nat} {article : Article} {group : Str}
    (number : (modes i).number = some id) (taken : s.hasNgpost (numberedId id article.host) group = true)
    : (modes i).delivered group = true := by
  obtain ⟨n, member, same⟩ := List.any_eq_true.mp taken
  rw [Bool.and_eq_true, beq_iff_eq, beq_iff_eq] at same
  rcases inv.ngposts n member with old | ⟨j, id', article', delivered, number', -, msgid⟩
  · exact absurd ⟨article.host, Or.inr ⟨n, old, same.1⟩⟩ (counter.fresh i id number)
  · rw [same.1] at msgid
    obtain rfl := numberedId_injective msgid
    obtain rfl := counter.distinct i j id number number'
    rw [same.2] at delivered
    exact delivered

variable [DecidableEq ι]

theorem PostedRow.update {p : Posting} (row : PostedRow ext clients modes p)
    (number : ∀ id, (modes i).number = some id → mode'.number = some id)
    (posted : (modes i).posted = true → mode'.posted = true)
    : PostedRow ext clients (Function.update modes i mode') p := by
  obtain ⟨j, id, article, isPosted, numbered, ready, same⟩ := row
  refine ⟨j, id, article, ?_, ?_, ready, same⟩
  all_goals
    by_cases chosen : j = i
    · subst chosen
      rw [Function.update_self]
      first | exact posted isPosted | exact number id numbered
    · rw [Function.update_of_ne chosen]
      assumption

theorem DeliveredRow.update {n : Ngpost} (row : DeliveredRow clients modes n)
    (number : ∀ id, (modes i).number = some id → mode'.number = some id)
    (delivered : ∀ g, (modes i).delivered g = true → mode'.delivered g = true)
    : DeliveredRow clients (Function.update modes i mode') n := by
  obtain ⟨j, id, article, isDelivered, numbered, ready, same⟩ := row
  refine ⟨j, id, article, ?_, ?_, ready, same⟩
  all_goals
    by_cases chosen : j = i
    · subst chosen
      rw [Function.update_self]
      first | exact delivered n.ng isDelivered | exact number id numbered
    · rw [Function.update_of_ne chosen]
      assumption

/-- A move that adds to the rows what its client answers for, and touches no body but its own. -/
theorem ArticleInv.move (inv : ArticleInv ext clients s₀ modes s)
    (spoolWritable : s'.spoolWritable = s.spoolWritable)
    (number : ∀ id, (modes i).number = some id → mode'.number = some id)
    (posted : (modes i).posted = true → mode'.posted = true)
    (delivered : ∀ g, (modes i).delivered g = true → mode'.delivered g = true)
    (postings
      : ∀ p ∈ s'.postings, p ∈ s.postings
        ∨ PostedRow ext clients (Function.update modes i mode') p)
    (ngposts
      : ∀ n ∈ s'.ngposts, n ∈ s.ngposts ∨ DeliveredRow clients (Function.update modes i mode') n)
    (oldBodies : ∀ p ∈ s₀.postings, s'.spool (bodyFile p.msgid) = s.spool (bodyFile p.msgid))
    (others
      : ∀ j, j ≠ i → ∀ id host, (modes j).number = some id →
          s'.spool (bodyFile (numberedId id host)) = s.spool (bodyFile (numberedId id host)))
    (own
      : ∀ id article, mode'.hasBody = true → mode'.number = some id →
          (clients i).article = some article →
          s'.spool (bodyFile (numberedId id article.host)) = some article.body)
    : ArticleInv ext clients s₀ (Function.update modes i mode') s' := by
  refine ⟨spoolWritable.trans inv.spoolWritable, ?_, ?_, ?_, ?_⟩
  · intro p member
    rcases postings p member with before | new
    · exact (inv.postings p before).imp_right (fun row => row.update number posted)
    · exact Or.inr new
  · intro n member
    rcases ngposts n member with before | new
    · exact (inv.ngposts n before).imp_right (fun row => row.update number delivered)
    · exact Or.inr new
  · intro p member
    exact (oldBodies p member).trans (inv.oldBodies p member)
  · intro j id article hasBody numbered ready
    by_cases chosen : j = i
    · subst chosen
      rw [Function.update_self] at hasBody numbered
      exact own id article hasBody numbered ready
    · rw [Function.update_of_ne chosen] at hasBody numbered
      rw [others j chosen id article.host numbered]
      exact inv.bodies j id article hasBody numbered ready

/-- A move that leaves rows and bodies as they are. -/
theorem ArticleInv.quiet (inv : ArticleInv ext clients s₀ modes s)
    (spoolWritable : s'.spoolWritable = s.spoolWritable) (postings : s'.postings = s.postings)
    (ngposts : s'.ngposts = s.ngposts) (spool : s'.spool = s.spool)
    (number : ∀ id, (modes i).number = some id → mode'.number = some id)
    (posted : (modes i).posted = true → mode'.posted = true)
    (delivered : ∀ g, (modes i).delivered g = true → mode'.delivered g = true)
    (hasBody : mode'.hasBody = true → (modes i).hasBody = true ∧ mode'.number = (modes i).number)
    : ArticleInv ext clients s₀ (Function.update modes i mode') s' := by
  refine inv.move spoolWritable number posted delivered ?_ ?_ ?_ ?_ ?_
  · intro p member
    exact Or.inl (postings ▸ member)
  · intro n member
    exact Or.inl (ngposts ▸ member)
  · intro p _
    rw [spool]
  · intro j _ id host _
    rw [spool]
  · intro id article now numbered ready
    obtain ⟨before, same⟩ := hasBody now
    rw [spool]
    exact inv.bodies i id article before (same ▸ numbered) ready

/-- A change of the client's own body file. -/
theorem ArticleInv.ownFile (inv : ArticleInv ext clients s₀ modes s) (counter : CounterInv s₀ modes s)
    {id : Nat} {article : Article} (ready : (clients i).article = some article)
    (before : (modes i).number = some id) (after : mode'.number = some id)
    (unposted : (modes i).posted = false) (undelivered : ∀ g, (modes i).delivered g = false)
    {content : Option Str}
    (saved : mode'.hasBody = true → content = some article.body)
    : ArticleInv ext clients s₀ (Function.update modes i mode')
        { s with
          spool := Function.update s.spool (bodyFile (numberedId id article.host)) content } := by
  refine inv.move rfl ?_ ?_ ?_ (fun _ => Or.inl) (fun _ => Or.inl) ?_ ?_ ?_
  · intro id' number
    rw [before] at number
    cases number
    exact after
  · rw [unposted]
    exact fun posted => nomatch posted
  · intro g
    rw [undelivered g]
    exact fun delivered => nomatch delivered
  · intro p member
    refine Function.update_of_ne (fun same => ?_) _ _
    exact counter.fresh i id before ⟨article.host, Or.inl ⟨p, member, same⟩⟩
  · intro j other id' host number
    refine Function.update_of_ne (fun same => ?_) _ _
    rw [bodyFile_numberedId_injective same] at number
    exact other (counter.distinct j i id number before)
  · intro id' article' hasBody number ready'
    rw [after] at number
    rw [ready] at ready'
    cases number
    cases ready'
    exact (Function.update_self _ _ _).trans (saved hasBody)

/-- Every move keeps rows and bodies where they belong.
Witness: the removal and the write of a body touch the client's own file, and the two inserts
add rows of the client; all other moves are quiet.
-/
theorem ArticleInv.step {op : Stmt} (inv : ArticleInv ext clients s₀ modes s)
    (counter : CounterInv s₀ modes s) (move : PostMove ext (clients i) (modes i) op s mode')
    : ArticleInv ext clients s₀ (Function.update modes i mode') (exec ext op s).2 := by
  have number : ∀ id, (modes i).number = some id → mode'.number = some id :=
    fun id => move.number_kept
  generalize mode : modes i = m at move
  cases move
  case unlink id article ready =>
    refine inv.ownFile counter ready ?_ rfl ?_ ?_ ?_
    all_goals simp [mode, PostMode.number, PostMode.posted, PostMode.delivered, PostMode.hasBody]
  case save id article ready =>
    rw [exec_bodyWrite, inv.spoolWritable, if_pos rfl, ← inv.spoolWritable]
    refine inv.ownFile counter ready ?_ rfl ?_ ?_ (fun _ => rfl)
    all_goals simp [mode, PostMode.number, PostMode.posted, PostMode.delivered]
  case insert id article ready fresh =>
    rw [(exec_insertPosting ext s _).trans (if_neg (Bool.eq_false_iff.mp fresh))]
    refine inv.move rfl number ?_ ?_ ?_ (fun _ => Or.inl) (fun _ _ => rfl)
      (fun _ _ _ _ _ => rfl) ?_
    · simp [mode, PostMode.posted]
    · simp [mode, PostMode.delivered]
    · intro p member
      rcases List.mem_append.mp member with before | new
      · exact Or.inl before
      · refine Or.inr ⟨i, id, article, ?_, ?_, ready, List.mem_singleton.mp new⟩
        all_goals rw [Function.update_self]; rfl
    · intro id' article' _ numbered ready'
      exact inv.bodies i id' article' (by rw [mode]; rfl) (by rw [mode]; exact numbered) ready'
  case number id stack served group high article ready free =>
    have inserted := exec_insertNgpost ext ⟨numberedId id article.host, group, high + 1⟩ s
    rw [inserted.trans (if_neg (Bool.eq_false_iff.mp free))]
    refine inv.move rfl number ?_ ?_ (fun _ => Or.inl) ?_ (fun _ _ => rfl)
      (fun _ _ _ _ _ => rfl) ?_
    · simp [mode, PostMode.posted]
    · intro g delivered
      rw [mode] at delivered
      simp only [PostMode.delivered] at delivered ⊢
      rw [delivered, Bool.true_or]
    · intro n member
      rcases List.mem_append.mp member with before | new
      · exact Or.inl before
      · rw [List.mem_singleton] at new
        refine Or.inr ⟨i, id, article, ?_, ?_, ready, by rw [new]⟩
        · rw [Function.update_self, new]
          simp [PostMode.delivered]
        · rw [Function.update_self]
          rfl
    · intro id' article' _ numbered ready'
      exact inv.bodies i id' article' (by rw [mode]; rfl) (by rw [mode]; exact numbered) ready'
  case insertFails id article ready used =>
    rw [(exec_insertPosting ext s _).trans (if_pos used)]
    refine inv.quiet rfl rfl rfl rfl number ?_ ?_ ?_
    all_goals simp [mode, PostMode.number, PostMode.posted, PostMode.delivered, PostMode.hasBody]
  case numberFails id stack served group high article ready taken =>
    have inserted := exec_insertNgpost ext ⟨numberedId id article.host, group, high + 1⟩ s
    rw [inserted.trans (if_pos taken)]
    refine inv.quiet rfl rfl rfl rfl number ?_ ?_ ?_
    all_goals simp [mode, PostMode.number, PostMode.posted, PostMode.delivered, PostMode.hasBody]
  case createFile writable =>
    simp only [exec, if_pos writable]
    refine inv.quiet rfl rfl rfl rfl number ?_ ?_ ?_
    all_goals simp [mode, PostMode.number, PostMode.posted, PostMode.delivered, PostMode.hasBody]
  case createFails failed =>
    have unchanged : (exec ext .msgidCreate s).2 = s := by simp [exec, failed]
    rw [unchanged]
    refine inv.quiet rfl rfl rfl rfl number ?_ ?_ ?_
    all_goals simp [mode, PostMode.number, PostMode.posted, PostMode.delivered, PostMode.hasBody]
  case raise =>
    refine inv.quiet rfl rfl rfl rfl number ?_ ?_ ?_
    all_goals simp [mode, PostMode.number, PostMode.posted, PostMode.delivered, PostMode.hasBody]
    tauto
  all_goals
    refine inv.quiet rfl rfl rfl rfl number ?_ ?_ ?_
    all_goals simp [mode, PostMode.number, PostMode.posted, PostMode.delivered, PostMode.hasBody]

end Articles

-----------------------------------------------------------------------------------------
-- Clients that are killed
-----------------------------------------------------------------------------------------

section Alone

variable {s : Store} {init : Nat} {messageId : Str}

/-- The loop of a client on its own ends early if one of its repetitions does not finish. -/
theorem finishes_of_serve (groups : List Str) (stack : Charstack) (served : List Str)
    (whole : (s.serve init messageId groups stack served).1 = true)
    : finishes groups stack served = true := by
  induction groups generalizing stack served with
  | nil => rfl
  | cons newsgroup rest ih =>
      simp only [Store.serve] at whole
      simp only [finishes]
      split at whole
      · cases whole
      · split at whole
        · rename_i known
          rw [if_pos known]
          exact ih stack served whole
        · rename_i unknown
          rw [if_neg unknown]
          split at whole
          · cases whole
          · rename_i free
            rw [if_neg (fun known => free (by rw [known, Bool.or_true]))]
            exact ih _ _ whole

/-- It ends early at a newsgroup above the limit. -/
theorem serve_of_full (groups : List Str) (stack : Charstack) (served : List Str) {g : Str}
    (member : g ∈ groups) (unserved : g ∉ served) (full : highLimit < s.highValue init g)
    : (s.serve init messageId groups stack served).1 = false := by
  induction groups generalizing stack served with
  | nil => cases member
  | cons newsgroup rest ih =>
      by_cases same : newsgroup = g
      · subst same
        rw [Store.serve, highValue_deliver_of_notMem unserved, if_pos full]
      · have later : g ∈ rest := (List.mem_cons.mp member).resolve_left (Ne.symm same)
        simp only [Store.serve]
        split
        · rfl
        · split
          · exact ih stack served later unserved
          · split
            · rfl
            · refine ih _ _ later ?_
              rw [List.mem_append, List.mem_singleton]
              exact fun known => known.elim unserved (Ne.symm same)

variable {s₀ : Store} {c : PostClient}

theorem counted_newsgroups (s : Store) : s.counted.newsgroups = s.newsgroups := by
  unfold Store.counted
  split <;> rfl

/-- The client on its own is killed if `postings` refuses its article or its loop ends early. -/
theorem post_killed_of_article (ext : Extern) (numbers : c.Numbers s₀) {article : Article}
    (ready : c.article = some article)
    (reason
      : ∀ id, s₀.nextId = some id →
          (article.row ext c.env id).statementFits = false
          ∨ finishes (c.targets s₀ article) .empty [] = false
          ∨ ∃ g ∈ c.targets s₀ article, highLimit < s₀.highValue c.env.curHighInit g)
    : (s₀.post ext c.cfg c.env c.session.curAuthUser).1 = .killed := by
  obtain ⟨ngstrp, next, prepared, accepted, inFile⟩ := numbers
  obtain rfl : next = .ok article := by
    cases next with
    | error ends => simp [PostClient.article, prepared] at ready
    | ok found => simpa [PostClient.article, prepared] using ready
  have allowed : s₀.counted.mayPost c.cfg c.session.curAuthUser
      = s₀.mayPost c.cfg c.session.curAuthUser := by
    unfold Store.counted
    split <;> rfl
  simp only [Store.post, Store.postPrepared, prepared, accepted, inFile, Bool.false_eq_true, if_false]
  cases taken : s₀.nextId with
  | none => rfl
  | some id =>
      have early : (s₀.counted.refusesPosting (article.row ext c.env id) = true)
          ∨ (((s₀.counted.saveBody (article.row ext c.env id).msgid article.body).withPosting
              (article.row ext c.env id)).serve c.env.curHighInit (article.row ext c.env id).msgid
              (c.targets s₀ article) .empty []).1 = false := by
        rcases reason id taken with long | stops | ⟨g, member, full⟩
        · left
          simp [Store.refusesPosting, long]
        · right
          by_contra whole
          rw [Bool.not_eq_false] at whole
          rw [finishes_of_serve _ _ _ whole] at stops
          cases stops
        · right
          refine serve_of_full _ _ _ member (List.not_mem_nil) ?_
          simpa only [Store.highValue, Store.withPosting, Store.saveBody, counted_newsgroups] using full
      rcases early with refused | stops
      · simp only [Store.storeAlone, refused, if_true]
      · simp only [Store.storeAlone, allowed]
        split
        · rfl
        · rw [← PostClient.targets]
          split
          · rename_i whole
            rw [whole] at stops
            cases stops
          · rfl

end Alone

section Ends

variable {ι : Type} (ext : Extern) (clients : ι → PostClient) (s₀ : Store)

/-- Why clients end early: nothing that they would not have met on their own. -/
structure EndsInv (modes : ι → PostMode) : Prop where
  refused : ∀ i id, modes i ≠ .refused id
  repeated : ∀ i id served group, modes i = .repeated id served group → group ∈ served
  full : ∀ i id served group, modes i = .full id served group →
    highLimit < s₀.highValue (clients i).env.curHighInit group
  long : ∀ i id article, (modes i).number = some id → (clients i).article = some article →
    (article.row ext (clients i).env id).statementFits = false →
    ∀ id', s₀.nextId = some id' → (article.row ext (clients i).env id').statementFits = false

/-- All that holds of clients and store. -/
structure PostsInv (modes : ι → PostMode) (s : Store) : Prop where
  frozen : s₀.Frozen s
  counter : CounterInv s₀ modes s
  articles : ArticleInv ext clients s₀ modes s
  ends : EndsInv ext clients s₀ modes

variable {ext clients s₀}

theorem postsInv_start (ahead : s₀.CountsAhead) (writable : s₀.spoolWritable = true)
    : PostsInv ext clients s₀ (fun _ => .checking) s₀ := by
  refine ⟨.refl s₀, counterInv_start ahead, articleInv_start writable, ?_, ?_, ?_, ?_⟩
  · exact fun _ _ mode => nomatch mode
  · exact fun _ _ _ _ mode => nomatch mode
  · exact fun _ _ _ _ mode => nomatch mode
  · exact fun _ _ _ number => nomatch number

variable [DecidableEq ι] {modes : ι → PostMode} {s : Store} {i : ι} {mode' : PostMode} {op : Stmt}

theorem EndsInv.step (inv : PostsInv ext clients s₀ modes s)
    (move : PostMove ext (clients i) (modes i) op s mode')
    (undisturbed : (clients i).undisturbed ext s₀ s op = true)
    : EndsInv ext clients s₀ (Function.update modes i mode') := by
  have counter := inv.counter
  -- what the clauses say of the client that has moved
  have own : (∀ id, mode' ≠ .refused id)
      ∧ (∀ id served group, mode' = .repeated id served group → group ∈ served)
      ∧ (∀ id served group, mode' = .full id served group →
          highLimit < s₀.highValue (clients i).env.curHighInit group)
      ∧ (∀ id article, mode'.number = some id → (clients i).article = some article →
          (article.row ext (clients i).env id).statementFits = false →
          ∀ id', s₀.nextId = some id' →
            (article.row ext (clients i).env id').statementFits = false) := by
    have long := inv.ends.long i
    generalize mode : modes i = m at move
    rw [mode] at long
    cases move
    case insertFails id article ready used =>
      rw [hasPosting_of_unposted counter inv.articles (i := i) (by rw [mode]; rfl)
        (by rw [mode]; rfl)] at used
      cases used
    case numberFails id stack served group high article ready taken =>
      refine ⟨by simp, ?_, by simp, long⟩
      have delivered := delivered_of_hasNgpost counter inv.articles (i := i) (by rw [mode]; rfl) taken
      rw [mode] at delivered
      simpa [PostMode.delivered] using delivered
    case limit id stack served group above =>
      refine ⟨by simp, by simp, ?_, long⟩
      simp only [PostClient.undisturbed, Bool.or_eq_true, decide_eq_true_eq] at undisturbed
      have before := undisturbed.resolve_left (Nat.not_le.mpr above)
      simpa using before
    case writeFile id =>
      refine ⟨by simp, by simp, by simp, ?_⟩
      intro id' article number ready short id'' next
      cases number
      simpa [PostClient.undisturbed, ready, short, next] using undisturbed
    all_goals exact ⟨by simp, by simp, by simp, long⟩
  obtain ⟨refused, repeated, full, long⟩ := own
  refine ⟨fun j => ?_, fun j => ?_, fun j => ?_, fun j => ?_⟩
  all_goals
    by_cases chosen : j = i
    · subst chosen
      rw [Function.update_self]
      assumption
    · rw [Function.update_of_ne chosen]
      first
        | exact inv.ends.refused j
        | exact inv.ends.repeated j
        | exact inv.ends.full j
        | exact inv.ends.long j

omit [DecidableEq ι] in
/-- A client that is killed would have been killed on its own. -/
theorem killed_alone (inv : PostsInv ext clients s₀ modes s)
    (reason : KillReason ext s₀ (clients i) (modes i))
    : (s₀.post ext (clients i).cfg (clients i).env (clients i).session.curAuthUser).1 = .killed := by
  generalize mode : modes i = m at reason
  cases m
  case checking => simp only [Store.post, show prepare _ _ = _ from reason, Store.postPrepared]
  case noNumber =>
    obtain ⟨ngstrp, next, prepared, accepted, inFile⟩ := reason
    have none := inv.counter.noNumber i mode
    simp [Store.post, Store.postPrepared, prepared, accepted, inFile, none]
  case numbered id =>
    obtain ⟨⟨ngstrp, next, prepared, accepted, inFile⟩, _, ended⟩ := reason
    rw [prepared] at ended
    cases ended
    simp only [Store.post, Store.postPrepared, prepared, accepted, inFile, Bool.false_eq_true,
      if_false]
    split
    · rfl
    · simp_all
    · simp_all
  case saved id =>
    obtain ⟨numbers, article, ready, short⟩ := reason
    refine post_killed_of_article ext numbers ready (fun id' next => Or.inl ?_)
    exact inv.ends.long i id article (by rw [mode]; rfl) ready short id' next
  case refused id => exact absurd mode (inv.ends.refused i id)
  case full id served group =>
    obtain ⟨numbers, article, ready, target⟩ := reason
    refine post_killed_of_article ext numbers ready (fun _ _ => Or.inr (Or.inr ?_))
    exact ⟨group, target, inv.ends.full i id served group mode⟩
  case repeated id served group =>
    obtain ⟨numbers, stops⟩ := reason
    obtain ⟨article, ready, early⟩ := stops (inv.ends.repeated i id served group mode)
    exact post_killed_of_article ext numbers ready (fun _ _ => Or.inr (Or.inl early))
  all_goals exact False.elim reason

end Ends

-----------------------------------------------------------------------------------------
-- Runs
-----------------------------------------------------------------------------------------

section Runs

variable {ext : Extern} {c : PostClient} {s₀ : Store}

/-- A client behind the read or the failed open of the counter file is about to change it. -/
theorem setsCounter_of_mode {p : Prog Sql Exit (Unit × Session)} {mode : PostMode}
    (follows : p.Follows (exec ext) (c.protocol ext s₀) (StopsFor ext s₀ c) mode (Returns s₀ c))
    (changes : mode = .missing ∨ ∃ id, mode = .writing id)
    : p.nextAct.any Stmt.setsCounter = true := by
  have running : mode.running = true := by
    rcases changes with rfl | ⟨id, rfl⟩ <;> rfl
  obtain ⟨op, mode', next, move⟩ := acts_of_running follows running
  rw [next, Option.any_some]
  rcases changes with rfl | ⟨id, rfl⟩
  · cases move <;> rfl
  · cases move
    rfl

/-- The body of an article that can be stored is not empty. -/
theorem body_ne_nil {article : Article} (ready : c.article = some article) : article.body ≠ [] := by
  unfold PostClient.article at ready
  split at ready
  · rename_i ngstrp found prepared
    cases ready
    obtain ⟨buf, len, header, body, -, passed, prepares⟩ := prepare_checked prepared
    rw [(prepareArticle_ok prepares.symm).2]
    exact (passesChecks_of_passed passed).nonempty
  · cases ready

variable {ι : Type} [DecidableEq ι] {clients : ι → PostClient}

/-- The invariant holds in every state of a run in which no client reads or creates the counter
file in between, and the modes know the numbers that have been written. -/
theorem postsInv_run (ahead : s₀.CountsAhead) (writable : s₀.spoolWritable = true)
    (schedule : List ι)
    (under : (postPool ext clients s₀).RunsUnder (exec ext) (CounterAlone ext clients s₀) schedule)
    : ∃ modes, PostsGoverned ext clients s₀ (PostsInv ext clients s₀)
          ((postPool ext clients s₀).run (exec ext) schedule) modes
        ∧ ∀ i id, (i, .msgidWrite id) ∈ (postPool ext clients s₀).trace (exec ext) schedule →
            (modes i).number = some id := by
  obtain ⟨modes, governed, traced, -⟩ := Pool.Governed.run
    (fun (op : Stmt) mode => ∀ id, op = .msgidWrite id → mode.number = some id)
    (fun modes s inv i => inv.frozen)
    (fun pool modes i op next mode' governed alone thread move _ => by
      have inv := governed.inv
      obtain ⟨exclusive, undisturbed⟩ := alone
      rw [thread] at exclusive undisturbed
      refine ⟨PostMove.frozen move inv.frozen, inv.counter.step move ?_,
        inv.articles.step inv.counter move, EndsInv.step inv move undisturbed⟩
      intro uses j other
      have theirs := exclusive uses j other
      constructor
      · intro mode
        rw [setsCounter_of_mode (governed.follows j) (Or.inl mode)] at theirs
        cases theirs
      · intro id mode
        rw [setsCounter_of_mode (governed.follows j) (Or.inr ⟨id, mode⟩)] at theirs
        cases theirs)
    (fun i mode op s mode' move => by
      refine ⟨fun id write => ?_, fun earlier recorded id write => ?_⟩
      · subst write
        cases move
        rfl
      · exact PostMove.number_kept move (recorded id write))
    schedule _ _ (postPool_governed ext clients s₀ (postsInv_start ahead writable)) under
  exact ⟨modes, governed, fun i id member => traced i (.msgidWrite id) member id rfl⟩

end Runs

section TwoClients

/-- A client with another article for the newsgroup `a`. -/
def otherClient : PostClient :=
  { plainClient with
    env := sendingEnv
      ("From: c@d.org\r\nNewsgroups: a\r\nSubject: hi\r\n\r\nworld\r\n.\r\n").toList }

def twoClients : Fin 2 → PostClient
  | 0 => plainClient
  | 1 => otherClient

theorem countsAhead_fourGroups : fourGroups.CountsAhead := by
  rintro next - id ⟨host, ⟨p, member, -⟩ | ⟨n, member, -⟩⟩
  · cases member
  · cases member

/-- An article that can be stored takes nothing down. -/
theorem not_crashes {c : PostClient} (inFile : c.cfg.messageCountInDb = false)
    (ready : c.article.isSome = true)
    : ¬c.Crashes := by
  rintro (inDb | ended | ⟨ngstrp, ended⟩)
  · rw [inFile] at inDb
    cases inDb
  · simp [PostClient.article, ended] at ready
  · simp [PostClient.article, ended] at ready

/-- The second client posts between the number and the body of the first one. -/
def inBetween : List (Fin 2) := List.replicate 5 0 ++ List.replicate 11 1 ++ List.replicate 6 0

end TwoClients

/-- Clients post at the same time, in any interleaving in which no client reads or creates the
counter file between the read or the failed open of another one and its write, and none is
disturbed by the length of its number or by the limit of a newsgroup. In every state reached
their message ids differ, none has been killed that would not have been killed on its own, and
every article has its body.
Witness: `PostsInv` holds in every state of the run.
-/
theorem posts_stay_apart (ext : Extern) {ι : Type} [DecidableEq ι] (clients : ι → PostClient)
    (s₀ : Store) (ahead : s₀.CountsAhead) (writable : s₀.spoolWritable = true)
    (harmless : ∀ i, ¬(clients i).Crashes) (schedule : List ι)
    (under : (postPool ext clients s₀).RunsUnder (exec ext) (CounterAlone ext clients s₀) schedule)
    : PostsApart ext clients s₀ ((postPool ext clients s₀).trace (exec ext) schedule)
        ((postPool ext clients s₀).run (exec ext) schedule) := by
  obtain ⟨modes, governed, numbers⟩ := postsInv_run ahead writable schedule under
  have inv := governed.inv
  refine ⟨?_, ?_, ?_, ?_⟩
  · rintro i j a b different ⟨id, host, written, -, rfl⟩ ⟨id', host', written', -, rfl⟩ same
    obtain rfl := numberedId_injective same
    exact different (inv.counter.distinct i j id (numbers i id written) (numbers j id written'))
  · intro i sent stopped
    have follows := governed.follows i
    rw [stopped] at follows
    have ends := (docmdPost_run ext (clients i).cfg (clients i).env s₀ (clients i).session).1
    rw [killed_alone inv follows] at ends
    exact ends
  · intro i stopped
    have follows := governed.follows i
    rw [stopped] at follows
    exact harmless i follows.1
  · intro row member
    rcases inv.articles.postings row member with old | ⟨i, id, article, posted, number, ready, rfl⟩
    · refine Or.inl ⟨old, ?_⟩
      rw [Store.retrbody, Store.retrbody, inv.articles.oldBodies row old]
    · have hasBody : (modes i).hasBody = true := by
        generalize modes i = mode at posted
        cases mode
        all_goals first | rfl | cases posted
      refine Or.inr ⟨i, article, id, ready, rfl, ?_⟩
      have stored := inv.articles.bodies i id article hasBody number ready
      have nonempty := body_ne_nil ready
      simp only [Store.retrbody, Article.row, postingRow, stored]
      simpa [Option.filter] using nonempty

theorem inBetween_stays_apart
    : PostsApart postExtern twoClients fourGroups
        ((postPool postExtern twoClients fourGroups).trace (exec postExtern) inBetween)
        ((postPool postExtern twoClients fourGroups).run (exec postExtern) inBetween) :=
  posts_stay_apart postExtern twoClients fourGroups countsAhead_fourGroups rfl
    (fun i => by
      match i with
      | 0 => exact not_crashes rfl (by decide +kernel)
      | 1 => exact not_crashes rfl (by decide +kernel))
    inBetween (by decide +kernel)

section SameNumber

/-- Both clients find the counter file missing before the first of them creates it. -/
def createTwice : List (Fin 2) :=
  List.replicate 3 0 ++ List.replicate 3 1 ++ [0, 0, 1, 1] ++ List.replicate 6 0
    ++ List.replicate 3 1

/-- Both clients write the number 1 into the counter file, so that both have the same message
id; the body of the second one replaces that of the article that is stored. -/
theorem same_number_taken_twice
    : ((postPool postExtern twoClients fourGroups).run (exec postExtern) createTwice).store.retrbody
          "<cdp1@WendzelNNTPdAnonymous>".toList
        = some "world\r\n.\r\n".toList
      ∧ ((postPool postExtern twoClients fourGroups).run (exec postExtern)
          createTwice).store.postings.map (·.author) = ["a@b.org".toList]
      ∧ ¬PostsApart postExtern twoClients fourGroups
          ((postPool postExtern twoClients fourGroups).trace (exec postExtern) createTwice)
          ((postPool postExtern twoClients fourGroups).run (exec postExtern) createTwice) := by
  refine ⟨by decide +kernel, by decide +kernel, fun apart => ?_⟩
  have first : Generated twoClients
      ((postPool postExtern twoClients fourGroups).trace (exec postExtern) createTwice) 0
      (numberedId 1 nntpdAnonymHost) :=
    ⟨1, nntpdAnonymHost, by decide +kernel, rfl, rfl⟩
  have second : Generated twoClients
      ((postPool postExtern twoClients fourGroups).trace (exec postExtern) createTwice) 1
      (numberedId 1 nntpdAnonymHost) :=
    ⟨1, nntpdAnonymHost, by decide +kernel, rfl, rfl⟩
  exact apart.ids 0 1 _ _ (by decide) first second rfl

end SameNumber

end WendzelNNTPd
