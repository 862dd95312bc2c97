import WendzelNNTPd.Posting.CommonGroup
import WendzelNNTPd.Posting.Numbering
import WendzelNNTPd.Lib.Handler
import WendzelNNTPd.Admin.Effects

/-! POST and `delgroup` at the same time. POST inserts the posting before its rows in `ngposts`,
and `delgroup` ends with a clean-up that deletes every posting without such a row. Two windows
are open between them: the clean-up can take a posting away from a POST that is about to insert
the first row for it, and POST can insert a row for the newsgroup that is being deleted.
-/

namespace WendzelNNTPd

open CString Atomic

/-- Every row of `ngposts` refers to an existing posting and an existing newsgroup. -/
structure Store.Filed (s : Store) : Prop where
  posting : ∀ n ∈ s.ngposts, s.hasPosting n.msgid = true
  group : ∀ n ∈ s.ngposts, s.HasGroup n.ng

/-- The names of all newsgroups are ones that `addgroup` admits. -/
def Store.ValidNames (s : Store) : Prop := ∀ g ∈ s.newsgroups, validGroupName g.name = true

-----------------------------------------------------------------------------------------
-- The two programs
-----------------------------------------------------------------------------------------

inductive Party
  | post
  | delgroup
  deriving DecidableEq, Repr

/-- A program of the server or of the tool. -/
abbrev PartyProg := Prog Sql (Exit ⊕ AdmExit) ((Unit × Session) ⊕ Unit)

/-- A client at the start of its POST and the tool at the start of `delgroup`. -/
def delgroupPool (ext : Extern) (c : PostClient) (hashSalt typed group : Str) (s₀ : Store)
    : Pool Sql (Exit ⊕ AdmExit) ((Unit × Session) ⊕ Unit) Store Party where
  threads
    | .post => (c.program ext).embed .inl .inl
    | .delgroup => (admMain ext hashSalt typed ["delgroup".toList, group]).embed .inr .inr
  store := s₀

/-- The program has no posting left to insert, but may still insert the row. -/
def MayFile (p : PartyProg) (row : Ngpost) : Prop :=
  p.Uses (fun op : Stmt => ∀ posting, op ≠ .insertPosting posting)
  ∧ ¬p.Uses (fun op : Stmt => op ≠ .insertNgpost row)

/-- `delgroup` is behind its first deletion. -/
def Begun (p : PartyProg) : Bool :=
  match p.nextAct with
  | some (.selectNewsgroup _) | some (.deleteNgposts _) => false
  | _ => true

/-- A step outside of the two windows: no row is inserted for the newsgroup whose deletion has
begun, and no clean-up is made while POST may still insert the first row of its article. -/
def OutsideWindows (group : Str)
    (pool : Pool Sql (Exit ⊕ AdmExit) ((Unit × Session) ⊕ Unit) Store Party)
    : Party → Prop
  | .post =>
      ∀ row, (pool.threads .post).nextAct = some (.insertNgpost row) → row.ng = group →
        Begun (pool.threads .delgroup) = false
  | .delgroup =>
      (pool.threads .delgroup).nextAct = some .deleteOrphanPostings →
        ∀ row, MayFile (pool.threads .post) row →
          ∃ n ∈ pool.store.ngposts, n.msgid = row.msgid

-----------------------------------------------------------------------------------------
-- Statements and rows
-----------------------------------------------------------------------------------------

/-- The statements that neither insert nor delete rows of newsgroups, postings and `ngposts`. -/
def Stmt.KeepsRows : Stmt → Prop
  | .insertPosting _ | .insertNgpost _ | .insertNewsgroup _ | .deleteNgposts _
  | .deleteNewsgroup _ | .deleteOrphanPostings => False
  | _ => True

/-- What may follow the insertion of a posting: rows for the same message id. -/
def Stmt.FilesUnder (first op : Stmt) : Prop :=
  op.KeepsRows ∨ ∃ row n, first = .insertPosting row ∧ op = .insertNgpost n ∧ n.msgid = row.msgid

def Stmt.InsertsPosting (op : Stmt) : Prop := ∃ row, op = .insertPosting row

/-- The same newsgroups, postings and rows of `ngposts`, up to flags and high values. -/
structure Store.SameRows (s s' : Store) : Prop where
  ngposts : s'.ngposts = s.ngposts
  postings : s'.postings = s.postings
  names : s'.newsgroups.map (·.name) = s.newsgroups.map (·.name)

section Rows

variable {s s' : Store}

theorem hasGroup_iff_mem {name : Str} : s.HasGroup name ↔ name ∈ s.newsgroups.map (·.name) := by
  simp only [Store.HasGroup, List.mem_map]

theorem validNames_iff
    : s.ValidNames ↔ ∀ name ∈ s.newsgroups.map (·.name), validGroupName name = true := by
  simp only [Store.ValidNames, List.forall_mem_map]

theorem Store.SameRows.hasGroup (same : s.SameRows s') {name : Str}
    : s'.HasGroup name ↔ s.HasGroup name := by
  rw [hasGroup_iff_mem, hasGroup_iff_mem, same.names]

theorem Store.SameRows.validNames (same : s.SameRows s') (valid : s.ValidNames)
    : s'.ValidNames := by
  rw [validNames_iff, same.names]
  exact validNames_iff.mp valid

theorem Store.SameRows.hasPosting (same : s.SameRows s') (messageId : Str)
    : s'.hasPosting messageId = s.hasPosting messageId := by
  simp only [Store.hasPosting, same.postings]

theorem Store.SameRows.filed (same : s.SameRows s') (filed : s.Filed) : s'.Filed := by
  constructor
  · intro n member
    rw [same.hasPosting]
    exact filed.posting n (same.ngposts ▸ member)
  · intro n member
    exact same.hasGroup.mpr (filed.group n (same.ngposts ▸ member))

theorem map_name_of_eq {f : Newsgroup → Newsgroup} (same : ∀ g, (f g).name = g.name)
    (rows : List Newsgroup)
    : (rows.map f).map (·.name) = rows.map (·.name) := by
  rw [List.map_map]
  exact List.map_congr_left (fun g _ => same g)

theorem exec_sameRows (ext : Extern) {op : Stmt} (keeps : op.KeepsRows) (s : Store)
    : s.SameRows (exec ext op s).2 := by
  cases op
  case insertPosting => cases keeps
  case insertNgpost => cases keeps
  case insertNewsgroup => cases keeps
  case deleteNgposts => cases keeps
  case deleteNewsgroup => cases keeps
  case deleteOrphanPostings => cases keeps
  case updateHigh name high =>
    refine ⟨rfl, rfl, map_name_of_eq (fun g => ?_) _⟩
    split <;> rfl
  case updatePflag name pflag =>
    refine ⟨rfl, rfl, map_name_of_eq (fun g => ?_) _⟩
    split <;> rfl
  case msgidCreate =>
    simp only [exec]
    split <;> exact ⟨rfl, rfl, rfl⟩
  case bodyWrite =>
    simp only [exec]
    split <;> exact ⟨rfl, rfl, rfl⟩
  all_goals exact ⟨rfl, rfl, rfl⟩

end Rows

-----------------------------------------------------------------------------------------
-- The shape of POST
-----------------------------------------------------------------------------------------

section Shape

variable (cfg : Config) (env : Env)

/-- A handler that only performs statements which keep the rows. -/
abbrev KeepsRows {α : Type} (m : Srv α) : Prop := HandlerUses Stmt.KeepsRows m

theorem dbCheckNewsgroupExistence_keepsRows : KeepsRows dbCheckNewsgroupExistence := by
  refine (HandlerUses.modify _).bind (fun _ => HandlerUses.get.bind (fun s => ?_))
  split
  · exact fun _ => trivial
  · exact fun _ => ⟨trivial, fun _ => trivial⟩

theorem dbCheckNewsgroupPostingAllowed_keepsRows : KeepsRows dbCheckNewsgroupPostingAllowed := by
  refine (HandlerUses.modify _).bind (fun _ => HandlerUses.get.bind (fun s => ?_))
  split
  · exact fun _ => trivial
  · exact fun _ => ⟨trivial, fun _ => trivial⟩

theorem chkNgNameCorrectness_keepsRows (groups : List Str)
    : KeepsRows (chkNgNameCorrectness groups) := by
  induction groups with
  | nil => exact HandlerUses.pure _
  | cons newsgroup rest ih =>
      refine (HandlerUses.modify _).bind (fun _ => ?_)
      refine dbCheckNewsgroupExistence_keepsRows.bind (fun _ => ?_)
      refine (HandlerUses.modify _).bind (fun _ => HandlerUses.get.bind (fun s => ?_))
      refine HandlerUses.ite (fun _ => (HandlerUses.modify _).bind (fun _ => HandlerUses.pure _))
        (fun _ => ?_)
      refine (HandlerUses.modify _).bind (fun _ => ?_)
      refine dbCheckNewsgroupPostingAllowed_keepsRows.bind (fun _ => ?_)
      refine (HandlerUses.modify _).bind (fun _ => HandlerUses.get.bind (fun s => ?_))
      refine HandlerUses.ite (fun _ => (HandlerUses.modify _).bind (fun _ => HandlerUses.pure _))
        (fun _ => ?_)
      exact (HandlerUses.modify _).bind (fun _ => ih)

theorem aclCheckIfUsed_keepsRows (user : Option Str) (group : Str)
    : KeepsRows (aclCheckIfUsed cfg user group) := by
  refine HandlerUses.ite (fun _ => ?_) (fun _ => HandlerUses.pure _)
  cases user with
  | none => exact HandlerUses.pure _
  | some user =>
      intro session
      refine ⟨trivial, fun (direct : List AclUser) => ?_⟩
      cases direct with
      | nil => exact ⟨trivial, fun _ => trivial⟩
      | cons _ _ => trivial

theorem dbGetHighValue_keepsRows (group : Str) : KeepsRows (dbGetHighValue env group) :=
  fun _ => ⟨trivial, fun _ => trivial⟩

theorem newMessageNumber_keepsRows : KeepsRows (newMessageNumber cfg) := by
  refine HandlerUses.ite (fun _ => fun _ => trivial) (fun _ => fun session => ?_)
  refine ⟨trivial, fun (opened : Bool) => ?_⟩
  cases opened with
  | true =>
      refine ⟨trivial, fun (id : Option Nat) => ?_⟩
      cases id with
      | none => trivial
      | some id => exact ⟨trivial, fun _ => trivial⟩
  | false =>
      refine ⟨trivial, fun (created : Bool) => ?_⟩
      cases created with
      | true => exact ⟨trivial, fun _ => trivial⟩
      | false => trivial

theorem filebackendSavebody_keepsRows (messageId body : Str)
    : KeepsRows (filebackendSavebody messageId body) :=
  fun _ => ⟨trivial, fun _ => ⟨trivial, fun _ => trivial⟩⟩

theorem dbPostUpdateHighValue_keepsRows (high : Nat) (group : Str)
    : KeepsRows (dbPostUpdateHighValue high group) :=
  fun _ => ⟨trivial, fun _ => trivial⟩

/-- The loop over the newsgroups inserts rows for one message id. -/
theorem postToGroups_files (row : Posting) (groups : List Str) (stack : Charstack)
    : HandlerUses (Stmt.FilesUnder (.insertPosting row))
        (postToGroups cfg env row.msgid groups stack) := by
  have quiet {α : Type} {m : Srv α} (keeps : KeepsRows m)
      : HandlerUses (Stmt.FilesUnder (.insertPosting row)) m :=
    fun session => (keeps session).mono (fun _ => Or.inl)
  induction groups generalizing stack with
  | nil => exact HandlerUses.pure _
  | cons newsgroup rest ih =>
      refine HandlerUses.get.bind (fun s => ?_)
      refine (quiet (aclCheckIfUsed_keepsRows cfg _ newsgroup)).bind (fun allowed => ?_)
      refine HandlerUses.ite (fun _ => ih stack) (fun _ => ?_)
      refine (quiet (dbGetHighValue_keepsRows env newsgroup)).bind (fun high => ?_)
      refine HandlerUses.ite (fun _ => fun _ => trivial) (fun _ => ?_)
      refine HandlerUses.ite (fun _ => ih stack) (fun _ => ?_)
      refine HandlerUses.bind ?_
        (fun _ => (quiet (dbPostUpdateHighValue_keepsRows _ newsgroup)).bind (fun _ => ih _))
      intro session
      refine ⟨Or.inr ⟨row, _, rfl, rfl, rfl⟩, fun (ok : Bool) => ?_⟩
      cases ok <;> trivial

/-- A handler that keeps the rows until it inserts a posting, and then inserts rows for it. -/
abbrev PostsOnce {α : Type} (m : Srv α) : Prop :=
  HandlerUsesUntil Stmt.KeepsRows Stmt.InsertsPosting Stmt.FilesUnder m

theorem storeArticle_shape (row : Posting) (body : Str) (groups : List Str)
    : PostsOnce (storeArticle cfg env row body groups) := by
  unfold storeArticle
  split
  · exact fun _ => trivial
  · refine (filebackendSavebody_keepsRows row.msgid body).bind_until (fun _ => ?_)
    unfold dbPostInsertIntoPostings
    split
    · refine fun session => Or.inr ⟨⟨row, rfl⟩, fun (ok : Bool) => ?_⟩
      cases ok with
      | false => trivial
      | true =>
          exact (postToGroups_files cfg env row groups .empty).bind
            (fun _ => HandlerUses.modify _) session
    · exact fun _ => trivial

theorem postAccepted_shape (ext : Extern) (len : Nat) (header ngstrp body : Str)
    : PostsOnce (postAccepted ext cfg env len header ngstrp body) := by
  refine (newMessageNumber_keepsRows cfg).bind_until (fun number => ?_)
  split
  · split
    · exact fun _ => trivial
    · exact fun _ => trivial
    · exact storeArticle_shape cfg env _ _ _
  · exact fun _ => trivial

theorem docmdPost_shape (ext : Extern) : PostsOnce (docmdPost ext cfg env) := by
  refine (HandlerUses.modify _).bind_until (fun _ => ?_)
  split
  · unfold postArticle
    split
    · exact fun _ => trivial
    · exact fun _ => trivial
    · exact fun _ => trivial
    · refine (chkNgNameCorrectness_keepsRows _).bind_until (fun ok => ?_)
      split
      · exact postAccepted_shape cfg env ext _ _ _ _
      · exact fun _ => trivial
  · exact fun _ => trivial
  · exact fun _ => trivial
  · exact fun _ => trivial

end Shape

-----------------------------------------------------------------------------------------
-- The newsgroups POST has found
-----------------------------------------------------------------------------------------

/-- The moves of POST with the newsgroups it has found: it inserts rows for these only. -/
inductive Finds : List Str → Stmt → Store → List Str → Prop
  | keep (known : List Str) {op : Stmt} (s : Store) (other : ∀ row, op ≠ .insertNgpost row)
    : Finds known op s known
  | found (known : List Str) {name : Str} {s : Store} (exist : s.HasGroup name)
    : Finds known (.selectNewsgroup name) s (name :: known)
  | file {known : List Str} {row : Ngpost} (s : Store) (member : row.ng ∈ known)
    : Finds known (.insertNgpost row) s known

/-- POST relies on the names that `addgroup` admits. -/
def findsProtocol : Protocol Sql Store (List Str) where
  Move := Finds
  Rely := Store.ValidNames

section Finding

variable (ext : Extern)

/-- A part of POST keeps to the newsgroups it has found. -/
def Searches {α : Type} (m : Srv α) (session : Session) (known : List Str)
    (Q : α → Session → List Str → Prop)
    : Prop :=
  (m.run session).Follows (exec ext) findsProtocol (fun _ _ => True) known
    (fun out known' => Q out.1 out.2 known')

variable {ext} {α β : Type} {session : Session} {known : List Str}

theorem Searches.bind {m : Srv α} {f : α → Srv β} {R : α → Session → List Str → Prop}
    {Q : β → Session → List Str → Prop} (first : Searches ext m session known R)
    (rest : ∀ a session' known', R a session' known' → Searches ext (f a) session' known' Q)
    : Searches ext (m >>= f) session known Q := by
  unfold Searches
  rw [StateT.run_bind]
  refine Prog.Follows.bind (Prog.Follows.mono first ?_)
  intro out known' returned
  exact rest out.1 out.2 known' returned

theorem Searches.mono {m : Srv α} {R Q : α → Session → List Str → Prop}
    (first : Searches ext m session known R)
    (imp : ∀ a session' known', R a session' known' → Q a session' known')
    : Searches ext m session known Q :=
  Prog.Follows.mono first (fun out known' => imp out.1 out.2 known')

theorem searches_modify {g : Session → Session} {f : PUnit → Srv α}
    {Q : α → Session → List Str → Prop} (rest : Searches ext (f ⟨⟩) (g session) known Q)
    : Searches ext (modify g >>= f) session known Q :=
  rest

theorem searches_get {f : Session → Srv α} {Q : α → Session → List Str → Prop}
    (rest : Searches ext (f session) session known Q)
    : Searches ext (get >>= f) session known Q :=
  rest

/-- An insert that must not fail. -/
theorem searches_insert {op : Stmt} {ok : op.Result → Bool} (moves : ∀ s, Finds known op s known)
    : Searches ext (sql op >>= fun r => if ok r then pure () else secexecError) session known
        (fun _ _ known' => known' = known) := by
  refine fun s _ => ⟨known, moves s, ?_⟩
  have ended : Searches ext (if ok (exec ext op s).1 then pure () else secexecError) session known
      (fun _ _ known' => known' = known) := by
    split
    · rfl
    · trivial
  exact ended

/-- A part that keeps the rows leaves what was found. -/
theorem searches_of_keepsRows {m : Srv α} (keeps : KeepsRows m)
    : Searches ext m session known (fun _ _ known' => known' = known) := by
  refine Prog.Follows.of_uses (keeps session) (fun op s keep => .keep known s ?_)
    (fun _ => trivial)
  rintro row rfl
  exact keep

/-- A newsgroup that passes the check has been found under its own name. -/
theorem dbCheckNewsgroupExistence_searches {name : Str}
    (chkname : session.chkname = some (dbSecureSqlbuffer .sqlite3 name))
    : Searches ext dbCheckNewsgroupExistence session known
        (fun _ session' known' =>
          (∀ g ∈ known, g ∈ known') ∧ (session'.foundGroup = true → name ∈ known')) := by
  obtain ⟨⟩ := session
  cases chkname
  intro s valid
  by_cases exist : s.HasGroup (dbSecureSqlbuffer .sqlite3 name)
  · refine ⟨_, .found known exist, fun g member => List.mem_cons_of_mem _ member, fun _ => ?_⟩
    obtain ⟨g, row, named⟩ := exist
    have same := escaped_eq_of_valid (named ▸ valid g row)
    exact List.mem_cons.mpr (Or.inl same.symm)
  · refine ⟨known, .keep known s (fun row => nofun), fun g member => member, fun found => ?_⟩
    exact absurd ((hasGroup_iff s).mp found) exist

/-- An article passes the check of its newsgroups only if all of them have been found. -/
theorem chkNgNameCorrectness_searches (groups : List Str)
    : Searches ext (chkNgNameCorrectness groups) session known
        (fun ok _ known' =>
          (∀ g ∈ known, g ∈ known') ∧ (ok = true → ∀ g ∈ groups, g ∈ known')) := by
  induction groups generalizing session known with
  | nil => exact ⟨fun _ member => member, fun _ g member => (List.not_mem_nil member).elim⟩
  | cons newsgroup rest ih =>
      unfold chkNgNameCorrectness
      apply searches_modify
      refine Searches.bind (dbCheckNewsgroupExistence_searches rfl) ?_
      rintro _ found known₁ ⟨grown, here⟩
      apply searches_modify
      apply searches_get
      by_cases missing : found.foundGroup = false
      · rw [if_pos (by simp [missing])]
        exact ⟨grown, fun passed => Bool.noConfusion passed⟩
      · rw [if_neg (by simp [missing])]
        apply searches_modify
        refine Searches.bind (searches_of_keepsRows dbCheckNewsgroupPostingAllowed_keepsRows) ?_
        rintro _ postable _ rfl
        apply searches_modify
        apply searches_get
        split
        · exact ⟨grown, fun passed => Bool.noConfusion passed⟩
        · apply searches_modify
          refine Searches.mono ih ?_
          rintro ok _ known₂ ⟨grown₂, all⟩
          refine ⟨fun g member => grown₂ g (grown g member), fun passed g member => ?_⟩
          rcases List.mem_cons.mp member with rfl | later
          · exact grown₂ g (here (Bool.eq_true_of_not_eq_false missing))
          · exact all passed g later

/-- The loop over the newsgroups inserts rows for its newsgroups only. -/
theorem postToGroups_searches (cfg : Config) (env : Env) (messageId : Str) (groups : List Str)
    (stack : Charstack) (found : ∀ g ∈ groups, g ∈ known)
    : Searches ext (postToGroups cfg env messageId groups stack) session known
        (fun _ _ known' => known' = known) := by
  induction groups generalizing session stack with
  | nil => exact rfl
  | cons newsgroup rest ih =>
      have goesOn (stack' : Charstack) (session' : Session)
          : Searches ext (postToGroups cfg env messageId rest stack') session' known
              (fun _ _ known' => known' = known) :=
        ih stack' (fun g member => found g (List.mem_cons_of_mem _ member))
      unfold postToGroups
      apply searches_get
      refine Searches.bind (searches_of_keepsRows (aclCheckIfUsed_keepsRows cfg _ newsgroup)) ?_
      rintro allowed session₁ known rfl
      split
      · exact goesOn stack session₁
      · refine Searches.bind (searches_of_keepsRows (dbGetHighValue_keepsRows env newsgroup)) ?_
        rintro high session₂ known rfl
        split
        · trivial
        · split
          · exact goesOn stack session₂
          · have files (s : Store)
                : Finds known (.insertNgpost ⟨messageId, newsgroup, high + 1⟩) s known :=
              .file s (found newsgroup (by simp))
            refine Searches.bind (searches_insert files) ?_
            rintro _ session₃ known rfl
            refine Searches.bind
              (searches_of_keepsRows (dbPostUpdateHighValue_keepsRows _ newsgroup)) ?_
            rintro _ session₄ known rfl
            exact goesOn _ session₄

/-- POST inserts rows for newsgroups that it has found. -/
theorem program_searches (c : PostClient)
    : (c.program ext).Follows (exec ext) findsProtocol (fun _ _ => True) []
        (fun _ _ => True) := by
  have stores (row : Posting) (body : Str) (groups known : List Str) (session : Session)
      (found : ∀ g ∈ groups, g ∈ known)
      : Searches ext (storeArticle c.cfg c.env row body groups) session known
          (fun _ _ _ => True) := by
    unfold storeArticle
    split
    · trivial
    · refine Searches.bind (searches_of_keepsRows (filebackendSavebody_keepsRows row.msgid body)) ?_
      rintro _ session₁ known rfl
      refine Searches.bind (R := fun _ _ known' => known' = known) ?_ ?_
      · unfold dbPostInsertIntoPostings
        split
        · exact searches_insert (fun s => .keep known s (fun row => nofun))
        · trivial
      · rintro _ session₂ known rfl
        refine Searches.bind (postToGroups_searches c.cfg c.env row.msgid groups .empty found) ?_
        exact fun _ _ _ _ => trivial
  have body : Searches ext (docmdPost ext c.cfg c.env) c.session [] (fun _ _ _ => True) := by
    unfold docmdPost
    apply searches_modify
    split
    · unfold postArticle
      split
      · trivial
      · trivial
      · trivial
      · refine Searches.bind (chkNgNameCorrectness_searches _) ?_
        intro ok session₁ known₁ ⟨_, found⟩
        split
        · rename_i passed
          unfold postAccepted
          refine Searches.bind (searches_of_keepsRows (newMessageNumber_keepsRows c.cfg)) ?_
          rintro number session₂ known₁ rfl
          split
          · split
            · trivial
            · trivial
            · exact stores _ _ _ _ _ (found passed)
          · trivial
        · trivial
    · trivial
    · trivial
    · trivial
  exact body

end Finding

-----------------------------------------------------------------------------------------
-- The progress of delgroup
-----------------------------------------------------------------------------------------

/-- How far `delgroup` has come. -/
inductive DelMode
  | waiting
  /-- The rows in `ngposts` are deleted. -/
  | cleared
  /-- The newsgroup itself is deleted. -/
  | gone
  deriving DecidableEq, Repr

inductive DelMove (group : Str) : DelMode → Stmt → Store → DelMode → Prop
  | look (s : Store) : DelMove group .waiting (.selectNewsgroup group) s .waiting
  | clear (s : Store) : DelMove group .waiting (.deleteNgposts group) s .cleared
  | clearUsers (s : Store)
    : DelMove group .cleared (.deleteAclUsers none (some group)) s .cleared
  | clearRoles (s : Store)
    : DelMove group .cleared (.deleteAclRoles none (some group)) s .cleared
  | remove (s : Store) : DelMove group .cleared (.deleteNewsgroup group) s .gone
  | clean (s : Store) : DelMove group .gone .deleteOrphanPostings s .gone

def delProtocol (group : Str) : Protocol Sql Store DelMode where
  Move := DelMove group
  Rely := fun _ => True

/-- `delgroup` performs its statements in this order, or is refused before the first one. -/
theorem delgroup_follows (ext : Extern) (hashSalt typed group : Str)
    : (admMain ext hashSalt typed ["delgroup".toList, group]).Follows (exec ext)
        (delProtocol group) (fun _ _ => True) .waiting (fun _ mode => mode = .gone) := by
  unfold admMain
  cases accepted : admAccepts ["delgroup".toList, group] with
  | none => trivial
  | some mode =>
      have known : admMode "delgroup".toList = some .ngdelete := by decide
      cases known.symm.trans (admAccepts_eq_admMode accepted)
      refine fun s _ => ⟨.waiting, .look s, ?_⟩
      have checked : ((if !(s.newsgroups.filter (·.name == group)).isEmpty then pure () else errExit)
          >>= fun _ => dbDeleteNewsgroup group : Adm Unit).Follows (exec ext) (delProtocol group)
          (fun _ _ => True) .waiting (fun _ mode => mode = .gone) := by
        split
        · exact fun s _ => ⟨_, .clear s, fun s _ => ⟨_, .clearUsers s, fun s _ => ⟨_, .clearRoles s,
            fun s _ => ⟨_, .remove s, fun s _ => ⟨_, .clean s, rfl⟩⟩⟩⟩⟩
        · trivial
      exact checked

section Progress

variable {ext : Extern} {group : Str} {p : PartyProg} {mode : DelMode}

/-- The programs that keep to `delgroup`. -/
abbrev Deletes (ext : Extern) (group : Str) (p : PartyProg) (mode : DelMode) : Prop :=
  p.Follows (exec ext) (delProtocol group) (fun _ _ => True) mode (fun _ mode' => mode' = .gone)

/-- What is not yet behind its first deletion has deleted nothing. -/
theorem Deletes.waiting (follows : Deletes ext group p mode) (notBegun : Begun p = false)
    : mode = .waiting := by
  cases p with
  | done value => cases notBegun
  | stop reason => cases notBegun
  | act op next =>
      obtain ⟨mode', move, -⟩ := follows Store.empty trivial
      cases move with
      | look => rfl
      | clear => rfl
      | clearUsers => cases notBegun
      | clearRoles => cases notBegun
      | remove => cases notBegun
      | clean => cases notBegun

end Progress

-----------------------------------------------------------------------------------------
-- Outside of the windows
-----------------------------------------------------------------------------------------

/-- The posting of a POST that has inserted it is there, or POST will not insert rows for it. -/
def Secured (p : PartyProg) (s : Store) (messageId : Str) : Prop :=
  s.hasPosting messageId = true ∨ p.Uses (fun op : Stmt => ∀ row, op ≠ .insertNgpost row)

/-- Before the insertion of the posting, or behind it with the posting secured. -/
def PostStage (p : PartyProg) (s : Store) : Prop :=
  p.UsesUntil Stmt.KeepsRows Stmt.InsertsPosting Stmt.FilesUnder
  ∨ ∃ row, p.Uses (Stmt.FilesUnder (.insertPosting row)) ∧ Secured p s row.msgid

/-- The invariant of the two programs outside of the windows. -/
structure Undamaged (ext : Extern) (group : Str) (post delgroup : PartyProg) (s : Store)
    (known : List Str) (mode : DelMode)
    : Prop where
  filed : s.Filed
  valid : s.ValidNames
  stage : PostStage post s
  searches : post.Follows (exec ext) findsProtocol (fun _ _ => True) known (fun _ _ => True)
  deletes : Deletes ext group delgroup mode
  found : ∀ g ∈ known, s.HasGroup g ∨ g = group ∧ mode = .gone
  cleared : mode ≠ .waiting → ∀ n ∈ s.ngposts, n.ng ≠ group

section Inserts

variable {s : Store}

/-- A store with the same newsgroups in which no posting is missing and every row is an earlier
one or refers to what is there. -/
theorem Store.Filed.grown {s' : Store} (filed : s.Filed)
    (postings : ∀ m, s.hasPosting m = true → s'.hasPosting m = true)
    (newsgroups : s'.newsgroups = s.newsgroups)
    (rows : ∀ n ∈ s'.ngposts, n ∈ s.ngposts ∨ s'.hasPosting n.msgid = true ∧ s.HasGroup n.ng)
    : s'.Filed := by
  constructor
  · intro n member
    rcases rows n member with earlier | ⟨there, -⟩
    · exact postings _ (filed.posting n earlier)
    · exact there
  · intro n member
    simp only [Store.HasGroup, newsgroups]
    rcases rows n member with earlier | ⟨-, exist⟩
    · exact filed.group n earlier
    · exact exist

/-- What the insertion of a posting leaves: the posting is there, if not a new one, then an
earlier one. -/
theorem exec_insertPosting_rows (ext : Extern) (row : Posting) (s : Store)
    : (exec ext (.insertPosting row) s).2.ngposts = s.ngposts
      ∧ (exec ext (.insertPosting row) s).2.newsgroups = s.newsgroups
      ∧ (exec ext (.insertPosting row) s).2.hasPosting row.msgid = true
      ∧ ∀ m, s.hasPosting m = true →
          (exec ext (.insertPosting row) s).2.hasPosting m = true := by
  rw [exec_insertPosting]
  cases used : s.hasPosting row.msgid with
  | true => exact ⟨rfl, rfl, used, fun _ there => there⟩
  | false =>
      refine ⟨rfl, rfl, ?_, fun m there => ?_⟩
      · simp [Store.withPosting, Store.hasPosting]
      · simp only [Store.hasPosting] at there
        simp [Store.withPosting, Store.hasPosting, there]

/-- What the insertion of a row leaves: no rows but this one and the earlier ones. -/
theorem exec_insertNgpost_rows (ext : Extern) (row : Ngpost) (s : Store)
    : (exec ext (.insertNgpost row) s).2.postings = s.postings
      ∧ (exec ext (.insertNgpost row) s).2.newsgroups = s.newsgroups
      ∧ ∀ n ∈ (exec ext (.insertNgpost row) s).2.ngposts, n ∈ s.ngposts ∨ n = row := by
  rw [exec_insertNgpost]
  split
  · exact ⟨rfl, rfl, fun n member => Or.inl member⟩
  · refine ⟨rfl, rfl, fun n member => ?_⟩
    simpa only [List.mem_append, List.mem_singleton] using member

end Inserts

section PostSteps

variable {ext : Extern} {group : Str} {delgroup : PartyProg} {s : Store} {known : List Str}
  {mode : DelMode} {op : Stmt} {next : op.Result → PartyProg}

theorem Secured.after {s' : Store} {messageId : Str} (secured : Secured (.act op next) s messageId)
    (kept : s.hasPosting messageId = true → s'.hasPosting messageId = true) (r : op.Result)
    : Secured (next r) s' messageId :=
  secured.imp kept (fun uses => uses.2 r)

/-- The stage of POST behind a statement of its own that keeps the rows. -/
theorem PostStage.after {s' : Store} (stage : PostStage (.act op next) s) (quiet : op.KeepsRows)
    (same : s.SameRows s') (r : op.Result)
    : PostStage (next r) s' := by
  rcases stage with (⟨-, rest⟩ | ⟨⟨row, rfl⟩, -⟩) | ⟨row, uses, secured⟩
  · exact Or.inl (rest r)
  · cases quiet
  · exact Or.inr ⟨row, uses.2 r, secured.after (fun there => (same.hasPosting _).trans there) r⟩

/-- A statement of POST that keeps the rows. -/
theorem Undamaged.post_quiet (undamaged : Undamaged ext group (.act op next) delgroup s known mode)
    (quiet : op.KeepsRows)
    : ∃ known', Undamaged ext group (next (exec ext op s).1) delgroup (exec ext op s).2 known'
        mode := by
  have same := exec_sameRows ext quiet s
  obtain ⟨known', move, rest⟩ := undamaged.searches s undamaged.valid
  have found (g : Str) (member : g ∈ known)
      : (exec ext op s).2.HasGroup g ∨ g = group ∧ mode = .gone :=
    (undamaged.found g member).imp same.hasGroup.mpr id
  refine ⟨known', same.filed undamaged.filed, same.validNames undamaged.valid,
    undamaged.stage.after quiet same _, rest, undamaged.deletes, ?_, ?_⟩
  · cases move with
    | keep => exact found
    | found exist =>
        intro g member
        rcases List.mem_cons.mp member with rfl | earlier
        · exact Or.inl (same.hasGroup.mpr exist)
        · exact found g earlier
    | file => cases quiet
  · rw [same.ngposts]
    exact undamaged.cleared

/-- The insertion of the posting. -/
theorem Undamaged.post_insertPosting {row : Posting} {next : Bool → PartyProg}
    (undamaged : Undamaged ext group (.act (.insertPosting row) next) delgroup s known mode)
    (late : ∀ r, (next r).Uses (Stmt.FilesUnder (.insertPosting row)))
    : Undamaged ext group (next (exec ext (.insertPosting row) s).1) delgroup
        (exec ext (.insertPosting row) s).2 known mode := by
  obtain ⟨ngposts, newsgroups, there, kept⟩ := exec_insertPosting_rows ext row s
  obtain ⟨known', move, rest⟩ := undamaged.searches s undamaged.valid
  cases move
  constructor
  case filed =>
    exact undamaged.filed.grown kept newsgroups (fun n member => Or.inl (ngposts ▸ member))
  case valid =>
    simp only [Store.ValidNames, newsgroups]
    exact undamaged.valid
  case stage => exact Or.inr ⟨row, late _, Or.inl there⟩
  case searches => exact rest
  case deletes => exact undamaged.deletes
  case found =>
    simp only [Store.HasGroup, newsgroups]
    exact undamaged.found
  case cleared =>
    rw [ngposts]
    exact undamaged.cleared

/-- The insertion of a row, for a secured posting and a newsgroup whose deletion has not
begun. -/
theorem Undamaged.post_insertNgpost {row : Posting} {n : Ngpost} {next : Bool → PartyProg}
    (undamaged : Undamaged ext group (.act (.insertNgpost n) next) delgroup s known mode)
    (outside : n.ng = group → Begun delgroup = false)
    (uses : (Prog.act (.insertNgpost n) next : PartyProg).Uses
      (Stmt.FilesUnder (.insertPosting row)))
    (secured : Secured (.act (.insertNgpost n) next) s row.msgid) (same : n.msgid = row.msgid)
    : Undamaged ext group (next (exec ext (.insertNgpost n) s).1) delgroup
        (exec ext (.insertNgpost n) s).2 known mode := by
  obtain ⟨postings, newsgroups, rows⟩ := exec_insertNgpost_rows ext n s
  have kept (m : Str) : (exec ext (.insertNgpost n) s).2.hasPosting m = s.hasPosting m := by
    simp only [Store.hasPosting, postings]
  have there : s.hasPosting n.msgid = true := by
    rw [same]
    rcases secured with there | never
    · exact there
    · exact absurd rfl (never.1 n)
  have waits (deleted : n.ng = group) : mode = .waiting :=
    undamaged.deletes.waiting (outside deleted)
  obtain ⟨known', move, rest⟩ := undamaged.searches s undamaged.valid
  cases move with
  | keep _ other => exact absurd rfl (other n)
  | file _ member =>
      have exist : s.HasGroup n.ng := by
        rcases undamaged.found _ member with exist | ⟨deleted, gone⟩
        · exact exist
        · exact absurd ((waits deleted).symm.trans gone) (by decide)
      constructor
      case filed =>
        refine undamaged.filed.grown (fun m there => (kept m).trans there) newsgroups ?_
        intro other member
        rcases rows other member with earlier | rfl
        · exact Or.inl earlier
        · exact Or.inr ⟨(kept _).trans there, exist⟩
      case valid =>
        simp only [Store.ValidNames, newsgroups]
        exact undamaged.valid
      case stage =>
        exact Or.inr ⟨row, uses.2 _, secured.after (fun there => (kept _).trans there) _⟩
      case searches => exact rest
      case deletes => exact undamaged.deletes
      case found =>
        simp only [Store.HasGroup, newsgroups]
        exact undamaged.found
      case cleared =>
        intro begun other member
        rcases rows other member with earlier | rfl
        · exact undamaged.cleared begun other earlier
        · exact fun deleted => begun (waits deleted)

/-- A step of POST outside of the windows.
Witness: by the statement. One that keeps the rows changes nothing here; the insertion of the
posting secures it; and a row is inserted for a secured posting and a newsgroup that was found
and whose deletion has not begun.
-/
theorem Undamaged.post_step (undamaged : Undamaged ext group (.act op next) delgroup s known mode)
    (outside : ∀ row, op = .insertNgpost row → row.ng = group → Begun delgroup = false)
    : ∃ known', Undamaged ext group (next (exec ext op s).1) delgroup (exec ext op s).2 known'
        mode := by
  rcases undamaged.stage with (⟨early, -⟩ | ⟨⟨row, rfl⟩, late⟩) | ⟨row, uses, secured⟩
  · exact undamaged.post_quiet early
  · exact ⟨known, undamaged.post_insertPosting late⟩
  · rcases uses.1 with early | ⟨_, n, first, rfl, same⟩
    · exact undamaged.post_quiet early
    · cases first
      exact ⟨known, undamaged.post_insertNgpost (outside n rfl) uses secured same⟩

end PostSteps

section DelSteps

variable {ext : Extern} {group : Str} {post : PartyProg} {s : Store} {known : List Str}
  {mode : DelMode} {op : Stmt} {next : op.Result → PartyProg}

/-- A statement of `delgroup` that keeps the rows. -/
theorem Undamaged.del_quiet (undamaged : Undamaged ext group post (.act op next) s known mode)
    (quiet : op.KeepsRows) (rest : Deletes ext group (next (exec ext op s).1) mode)
    : Undamaged ext group post (next (exec ext op s).1) (exec ext op s).2 known mode := by
  have same := exec_sameRows ext quiet s
  refine ⟨same.filed undamaged.filed, same.validNames undamaged.valid, ?_, undamaged.searches,
    rest, fun g member => (undamaged.found g member).imp same.hasGroup.mpr id, ?_⟩
  · refine undamaged.stage.imp id ?_
    rintro ⟨row, uses, secured⟩
    exact ⟨row, uses, secured.imp (fun there => (same.hasPosting _).trans there) id⟩
  · rw [same.ngposts]
    exact undamaged.cleared

/-- A posting that is there survives the clean-up if it has a row. -/
theorem hasPosting_cleaned {messageId : Str} (there : s.hasPosting messageId = true)
    (row : ∃ n ∈ s.ngposts, n.msgid = messageId)
    : (exec ext .deleteOrphanPostings s).2.hasPosting messageId = true := by
  obtain ⟨p, member, same⟩ := List.any_eq_true.mp there
  obtain ⟨n, filed, named⟩ := row
  refine List.any_eq_true.mpr ⟨p, List.mem_filter.mpr ⟨member, ?_⟩, same⟩
  refine List.any_eq_true.mpr ⟨n, filed, ?_⟩
  rw [beq_iff_eq] at same ⊢
  rw [named, same]

/-- A program that inserts rows for one message id, but none that it may insert, inserts none. -/
theorem never_files {p : PartyProg} {row : Posting}
    (uses : p.Uses (Stmt.FilesUnder (.insertPosting row)))
    (none : ∀ n : Ngpost, n.msgid = row.msgid → ¬MayFile p n)
    : p.Uses (fun op : Stmt => ∀ n, op ≠ .insertNgpost n) := by
  have noPosting : p.Uses (fun op : Stmt => ∀ posting, op ≠ .insertPosting posting) := by
    refine uses.mono (fun op files posting same => ?_)
    subst same
    rcases files with quiet | ⟨_, _, _, other, _⟩
    · exact quiet
    · cases other
  refine Prog.Uses.forall (fun n => ?_)
  by_cases same : n.msgid = row.msgid
  · by_contra may
    exact none n same ⟨noPosting, may⟩
  · refine uses.mono (fun op files filed => ?_)
    subst filed
    rcases files with quiet | ⟨_, _, first, other, named⟩
    · exact quiet
    · cases first
      cases other
      exact same named

/-- Behind the clean-up the posting of POST is secured: it has a row, or POST is not to insert
one. -/
theorem stage_cleaned (stage : PostStage post s)
    (outside : ∀ row, MayFile post row → ∃ n ∈ s.ngposts, n.msgid = row.msgid)
    : PostStage post (exec ext .deleteOrphanPostings s).2 := by
  refine stage.imp id ?_
  rintro ⟨row, uses, secured⟩
  refine ⟨row, uses, ?_⟩
  rcases secured with there | never
  · by_cases filed : ∃ n ∈ s.ngposts, n.msgid = row.msgid
    · exact Or.inl (hasPosting_cleaned there filed)
    · refine Or.inr (never_files uses (fun n same may => filed ?_))
      rw [← same]
      exact outside n may
  · exact Or.inr never

/-- A step of `delgroup` outside of the windows.
Witness: by the statement. The rows of the newsgroup go first, so that none is left when the
newsgroup goes; the clean-up takes no posting with a row.
-/
theorem Undamaged.del_step (undamaged : Undamaged ext group post (.act op next) s known mode)
    (outside
      : op = .deleteOrphanPostings →
          ∀ row, MayFile post row → ∃ n ∈ s.ngposts, n.msgid = row.msgid)
    : ∃ mode', Undamaged ext group post (next (exec ext op s).1) (exec ext op s).2 known mode' := by
  obtain ⟨mode', move, rest⟩ := undamaged.deletes s trivial
  refine ⟨mode', ?_⟩
  cases move with
  | look => exact undamaged.del_quiet trivial rest
  | clearUsers => exact undamaged.del_quiet trivial rest
  | clearRoles => exact undamaged.del_quiet trivial rest
  | clear =>
      have rows (n : Ngpost) (member : n ∈ s.ngposts.filter (·.ng != group))
          : n ∈ s.ngposts ∧ n.ng ≠ group := by
        simpa only [List.mem_filter, bne_iff_ne] using member
      refine ⟨⟨fun n member => ?_, fun n member => ?_⟩, undamaged.valid, undamaged.stage,
        undamaged.searches, rest, fun g member => ?_, fun _ n member => (rows n member).2⟩
      · exact undamaged.filed.posting n (rows n member).1
      · exact undamaged.filed.group n (rows n member).1
      · rcases undamaged.found g member with exist | ⟨-, gone⟩
        · exact Or.inl exist
        · cases gone
  | remove =>
      have exist {g : Str} (has : s.HasGroup g) (other : g ≠ group)
          : (exec ext (.deleteNewsgroup group) s).2.HasGroup g := by
        obtain ⟨row, member, rfl⟩ := has
        exact ⟨row, List.mem_filter.mpr ⟨member, bne_iff_ne.mpr other⟩, rfl⟩
      have cleared := undamaged.cleared (by decide)
      refine ⟨⟨undamaged.filed.posting, fun n member => ?_⟩, fun g member => ?_, undamaged.stage,
        undamaged.searches, rest, fun g member => ?_, fun _ => cleared⟩
      · exact exist (undamaged.filed.group n member) (cleared n member)
      · exact undamaged.valid g (List.mem_filter.mp member).1
      · rcases undamaged.found g member with has | ⟨-, gone⟩
        · by_cases same : g = group
          · exact Or.inr ⟨same, rfl⟩
          · exact Or.inl (exist has same)
        · cases gone
  | clean =>
      refine ⟨⟨fun n member => ?_, undamaged.filed.group⟩, undamaged.valid,
        stage_cleaned undamaged.stage (outside rfl), undamaged.searches, rest, undamaged.found,
        undamaged.cleared⟩
      exact hasPosting_cleaned (undamaged.filed.posting n member) ⟨n, member, rfl⟩

end DelSteps

-----------------------------------------------------------------------------------------
-- Runs
-----------------------------------------------------------------------------------------

/-- POST and `delgroup`, in any interleaving outside of the two windows, leave every row of
`ngposts` with its posting and its newsgroup, at every moment.
Witness: the invariant holds at the start, and every step of either program keeps it.
-/
theorem post_delgroup_filed (ext : Extern) (c : PostClient) (hashSalt typed group : Str) (s₀ : Store)
    (filed : s₀.Filed) (valid : s₀.ValidNames) (schedule : List Party)
    (outside : (delgroupPool ext c hashSalt typed group s₀).RunsUnder (exec ext)
      (OutsideWindows group) schedule)
    : ((delgroupPool ext c hashSalt typed group s₀).run (exec ext) schedule).store.Filed := by
  let Inv (pool : Pool Sql (Exit ⊕ AdmExit) ((Unit × Session) ⊕ Unit) Store Party) : Prop :=
    ∃ known mode, Undamaged ext group (pool.threads .post) (pool.threads .delgroup) pool.store
      known mode
  have start : Inv (delgroupPool ext c hashSalt typed group s₀) := by
    refine ⟨[], .waiting, filed, valid, ?_, ?_, ?_, nofun, nofun⟩
    · exact Or.inl ((docmdPost_shape c.cfg c.env ext c.session).embed _ _)
    · exact (program_searches c).embed (fun _ _ _ => trivial) (fun _ _ _ => trivial)
    · exact (delgroup_follows ext hashSalt typed group).embed (fun _ _ _ => trivial)
        (fun _ _ done => done)
  have kept : Inv ((delgroupPool ext c hashSalt typed group s₀).run (exec ext) schedule) := by
    refine Pool.run_invariant (exec ext) ?_ schedule start outside
    rintro pool i op next ⟨known, mode, undamaged⟩ permitted thread
    cases i with
    | post =>
        rw [thread] at undamaged
        obtain ⟨known', after⟩ := undamaged.post_step (fun row same =>
          permitted row (by rw [thread]; exact congrArg some same))
        exact ⟨known', mode, after⟩
    | delgroup =>
        rw [thread] at undamaged
        obtain ⟨mode', after⟩ := undamaged.del_step (fun same =>
          permitted (by rw [thread]; exact congrArg some same))
        exact ⟨known, mode', after⟩
  obtain ⟨known, mode, undamaged⟩ := kept
  exact undamaged.filed

/-- Steps that are outside of the windows for plain reasons: POST has ended before the
clean-up. -/
def clearlyOutside (group : Str)
    (pool : Pool Sql (Exit ⊕ AdmExit) ((Unit × Session) ⊕ Unit) Store Party)
    : Party → Bool
  | .post =>
      match (pool.threads .post).nextAct with
      | some (.insertNgpost row) => row.ng != group || !Begun (pool.threads .delgroup)
      | _ => true
  | .delgroup =>
      (pool.threads .delgroup).nextAct != some .deleteOrphanPostings
      || (pool.threads .post).nextAct.isNone

theorem outsideWindows_of_clearly {group : Str}
    (pool : Pool Sql (Exit ⊕ AdmExit) ((Unit × Session) ⊕ Unit) Store Party) (i : Party)
    (clear : clearlyOutside group pool i = true)
    : OutsideWindows group pool i := by
  cases i with
  | post =>
      intro row next same
      simp only [clearlyOutside, next, same, bne_self_eq_false, Bool.false_or,
        Bool.not_eq_true'] at clear
      exact clear
  | delgroup =>
      intro next row may
      simp only [clearlyOutside, next, bne_self_eq_false, Bool.false_or, Option.isNone_iff_eq_none]
        at clear
      cases ended : pool.threads .post with
      | done value =>
          rw [ended] at may
          exact absurd trivial may.2
      | stop reason =>
          rw [ended] at may
          exact absurd trivial may.2
      | act op rest =>
          rw [ended] at clear
          cases clear

section OtherGroup

theorem fourGroups_filed : fourGroups.Filed := ⟨nofun, nofun⟩

theorem fourGroups_validNames : fourGroups.ValidNames := by
  intro g member
  simp only [fourGroups, List.mem_cons, List.not_mem_nil, or_false] at member
  rcases member with rfl | rfl | rfl | rfl
  all_goals decide

/-- A POST to one newsgroup and the deletion of another one. -/
def otherGroupPool : Pool Sql (Exit ⊕ AdmExit) ((Unit × Session) ⊕ Unit) Store Party :=
  delgroupPool postExtern plainClient [] [] "b".toList fourGroups

/-- All of `delgroup` but its clean-up falls between the posting and its row. -/
def cleanUpLast : List Party :=
  List.replicate 8 .post ++ List.replicate 5 .delgroup ++ List.replicate 3 .post ++ [.delgroup]

theorem post_delgroup_filed_cleanUpLast
    : (otherGroupPool.run (exec postExtern) cleanUpLast).store.Filed
      ∧ (otherGroupPool.run (exec postExtern) cleanUpLast).store.ngposts.length = 1 :=
  ⟨post_delgroup_filed postExtern plainClient [] [] "b".toList fourGroups fourGroups_filed
      fourGroups_validNames cleanUpLast
      (Pool.RunsUnder.mono (exec postExtern) outsideWindows_of_clearly (by decide +kernel)),
    by decide +kernel⟩

/-- The whole of `delgroup` falls between the posting and its row. -/
def cleanUpBetween : List Party :=
  List.replicate 8 .post ++ List.replicate 6 .delgroup ++ List.replicate 3 .post

/-- The deletion of another newsgroup takes the posting away before POST, which is then
answered 240, inserts the row for it. -/
theorem delgroup_takes_posting
    : fourGroups.Filed
      ∧ ((otherGroupPool.run (exec postExtern) cleanUpBetween).threads .post).nextAct = none
      ∧ ((otherGroupPool.run (exec postExtern) cleanUpBetween).threads .delgroup).nextAct = none
      ∧ ¬(otherGroupPool.run (exec postExtern) cleanUpBetween).store.Filed := by
  refine ⟨fourGroups_filed, by decide +kernel, by decide +kernel, fun filed => ?_⟩
  have dangling : (otherGroupPool.run (exec postExtern) cleanUpBetween).store.ngposts.all
      (fun n => (otherGroupPool.run (exec postExtern) cleanUpBetween).store.hasPosting n.msgid)
      = false := by
    decide +kernel
  exact absurd (List.all_eq_true.mpr filed.posting) (by rw [dangling]; decide)

end OtherGroup

end WendzelNNTPd
