import WendzelNNTPd.Access.Errors
import WendzelNNTPd.Reading.ArticleRange

/-! The selection that GROUP and LISTGROUP make. GROUP asks for the smallest number on every
backend. LISTGROUP passes over the sorted numbers: MySQL and PostgreSQL select the first of them,
SQLite selects every one in turn, and none at all while `found_article` is set, which ARTICLE
leaves behind.
-/

namespace WendzelNNTPd

open CString Atomic

-----------------------------------------------------------------------------------------
-- The commands
-----------------------------------------------------------------------------------------

inductive SelectCommand
  | group
  | listgroup
  deriving DecidableEq, Repr

/-- The newsgroup a command is about: its argument; for LISTGROUP without one, the selected
newsgroup. -/
def SelectCommand.Names (session : Session) (command group : Str) : SelectCommand → Prop
  | .group => caseEqPrefix "group".toList command = true ∧ getSlinearg command 1 = some group
  | .listgroup =>
      caseEqPrefix "listgroup".toList command = true
      ∧ (getSlinearg command 1).or session.selectedGroup = some group

/-- The texts of a reply. -/
def Session.texts (r : Session) : List Str := r.curstring.map (·.text)

def Session.Answers211 (r : Session) : Prop :=
  ∃ text, r.texts.head? = some text ∧ "211".toList <+: text

/-- The smallest number of the newsgroup as text, or nothing if it has no articles. -/
def Store.FirstArticle (s : Store) (group : Str) : Option Str → Prop
  | none => s.ngRows group = []
  | some text =>
      ∃ n ∈ s.ngRows group, text = dec n.postnum ∧ ∀ m ∈ s.ngRows group, n.postnum ≤ m.postnum

/-- A list of all numbers of the newsgroup in ascending order, each once. -/
def Store.ListsNumbers (s : Store) (group : Str) (texts : List Str) : Prop :=
  ∃ numbers : List Nat,
    numbers.Pairwise (· < ·)
    ∧ (∀ k, k ∈ numbers ↔ ∃ n ∈ s.ngRows group, n.postnum = k)
    ∧ texts = articleListFollows :: numbers.map (fun k => dec k ++ "\r\n".toList) ++ [periodEnd]

/-- The newsgroup and its first article are selected. -/
structure Session.SelectsFirst (s : Store) (group : Str) (r : Session) : Prop where
  selected : r.selectedGroup = some group
  first : s.FirstArticle group r.selectedArticle

/-- What a command that is answered 211 leaves behind. -/
structure SelectCommand.Right (cmd : SelectCommand) (s : Store) (group : Str) (after : Session)
    : Prop where
  selects : after.SelectsFirst s group
  lists : cmd = .listgroup → s.ListsNumbers group after.texts

/-- No number is there twice and, on SQLite, LISTGROUP has at most one number to pass over, and
none if ARTICLE has left its flag behind. -/
def SelectCommand.Undisturbed (dbase : Dbase) (session : Session) (s : Store) (group : Str)
    : SelectCommand → Prop
  | .group => True
  | .listgroup =>
      ((s.ngRows group).map (·.postnum)).Nodup
      ∧ (dbase = .sqlite3 →
          s.ngRows group = [] ∨ session.foundArticle = false ∧ (s.ngRows group).length = 1)

-----------------------------------------------------------------------------------------
-- Sorted rows
-----------------------------------------------------------------------------------------

/-- The rows of a newsgroup in the order of their numbers. -/
def Store.sortedRows (s : Store) (group : Str) : List Ngpost :=
  (s.ngRows group).insertionSort (fun a b => a.postnum ≤ b.postnum)

def numberText (n : Ngpost) : Str := dec n.postnum

def numberLine (n : Ngpost) : Str := numberText n ++ "\r\n".toList

section Rows

variable {s : Store} {group : Str}

theorem sortedRows_perm : (s.sortedRows group).Perm (s.ngRows group) := List.perm_insertionSort _ _

theorem mem_sortedRows {n : Ngpost} : n ∈ s.sortedRows group ↔ n ∈ s.ngRows group :=
  sortedRows_perm.mem_iff

theorem sortedRows_eq_nil : s.sortedRows group = [] ↔ s.ngRows group = [] := by
  rw [← List.length_eq_zero_iff, sortedRows_perm.length_eq, List.length_eq_zero_iff]

theorem sortedRows_ascending : (s.sortedRows group).Pairwise (fun a b => a.postnum ≤ b.postnum) := by
  have total : Std.Total (fun a b : Ngpost => a.postnum ≤ b.postnum) :=
    ⟨fun a b => Nat.le_total _ _⟩
  have trans : IsTrans Ngpost (fun a b => a.postnum ≤ b.postnum) :=
    ⟨fun a b c => Nat.le_trans⟩
  exact List.pairwise_insertionSort _ _

/-- The first row has the smallest number. -/
theorem sortedRows_head_le {n m : Ngpost} (head : (s.sortedRows group).head? = some n)
    (member : m ∈ s.ngRows group)
    : n.postnum ≤ m.postnum := by
  have ascending := @sortedRows_ascending s group
  rw [← mem_sortedRows] at member
  cases sorted : s.sortedRows group with
  | nil => rw [sorted] at head; cases head
  | cons first rest =>
      rw [sorted] at head ascending member
      cases head
      rcases List.mem_cons.mp member with rfl | later
      · exact Nat.le_refl _
      · exact (List.pairwise_cons.mp ascending).1 m later

/-- The first row is the one to select. -/
theorem firstArticle_head : s.FirstArticle group ((s.sortedRows group).head?.map numberText) := by
  cases head : (s.sortedRows group).head? with
  | none => exact sortedRows_eq_nil.mp (List.head?_eq_none_iff.mp head)
  | some n =>
      have member : n ∈ s.ngRows group := mem_sortedRows.mp (List.mem_of_head? head)
      exact ⟨n, member, rfl, fun m => sortedRows_head_le head⟩

/-- There is only one article to select. -/
theorem Store.FirstArticle.eq {article article' : Option Str} (first : s.FirstArticle group article)
    (first' : s.FirstArticle group article')
    : article = article' := by
  cases article with
  | none =>
      cases article' with
      | none => rfl
      | some text' =>
          obtain ⟨n, member, _⟩ := first'
          rw [show s.ngRows group = [] from first] at member
          cases member
  | some text =>
      obtain ⟨n, member, rfl, least⟩ := first
      cases article' with
      | none =>
          rw [show s.ngRows group = [] from first'] at member
          cases member
      | some text' =>
          obtain ⟨n', member', rfl, least'⟩ := first'
          rw [Nat.le_antisymm (least n' member') (least' n member)]

/-- The last row is the one to select exactly if it is the only one. -/
theorem firstArticle_last_iff (distinct : ((s.ngRows group).map (·.postnum)).Nodup)
    : s.FirstArticle group ((s.sortedRows group).getLast?.map numberText)
      ↔ s.ngRows group = [] ∨ (s.ngRows group).length = 1 := by
  have sortedDistinct : ((s.sortedRows group).map (·.postnum)).Nodup :=
    (sortedRows_perm.map _).nodup_iff.mpr distinct
  have ascending := @sortedRows_ascending s group
  have lengths := (@sortedRows_perm s group).length_eq
  rw [← sortedRows_eq_nil, ← lengths]
  cases sorted : s.sortedRows group with
  | nil => exact iff_of_true (sortedRows_eq_nil.mp sorted) (Or.inl rfl)
  | cons first rest =>
      have head : (s.sortedRows group).head? = some first := by rw [sorted]; rfl
      have starts := @firstArticle_head s group
      rw [head] at starts
      constructor
      · intro selects
        have same := selects.eq starts
        rw [List.getLast?_cons, Option.map_some, Option.map_some, Option.some.injEq] at same
        have number : (rest.getLast?.getD first).postnum = first.postnum := dec_injective same
        cases rest with
        | nil => exact Or.inr rfl
        | cons second others =>
            rw [sorted] at sortedDistinct
            have apart := (List.nodup_cons.mp sortedDistinct).1
            refine absurd (List.mem_map.mpr ⟨(second :: others).getLast?.getD first, ?_, number⟩) apart
            rw [List.getLast?_eq_some_getLast (List.cons_ne_nil _ _), Option.getD_some]
            exact List.getLast_mem _
      · rintro (empty | single)
        · cases empty
        · have none' : rest = [] := by simpa using single
          rw [none']
          exact starts

/-- The lines of the sorted rows are the list to send exactly if no number is there twice. -/
theorem listsNumbers_iff
    : s.ListsNumbers group
          (articleListFollows :: (s.sortedRows group).map numberLine ++ [periodEnd])
      ↔ ((s.ngRows group).map (·.postnum)).Nodup := by
  have lines : (s.sortedRows group).map numberLine
      = ((s.sortedRows group).map (·.postnum)).map (fun k => dec k ++ "\r\n".toList) := by
    rw [List.map_map]
    rfl
  have injective : Function.Injective (fun k => dec k ++ "\r\n".toList) :=
    fun _ _ same => dec_injective (List.append_cancel_right same)
  have permuted : ((s.sortedRows group).map (·.postnum)).Perm ((s.ngRows group).map (·.postnum)) :=
    sortedRows_perm.map _
  rw [← permuted.nodup_iff]
  constructor
  · rintro ⟨numbers, ascending, _, is⟩
    rw [lines] at is
    have same := List.append_cancel_right (List.cons.inj is).2
    rw [(List.map_injective_iff.mpr injective) same]
    exact ascending.imp Nat.ne_of_lt
  · intro distinct
    refine ⟨(s.sortedRows group).map (·.postnum), ?_, fun k => ?_, by rw [lines]⟩
    · have ordered : ((s.sortedRows group).map (·.postnum)).Pairwise (· ≤ ·) :=
        List.pairwise_map.mpr sortedRows_ascending
      exact (ordered.and distinct).imp (fun both => Nat.lt_of_le_of_ne both.1 both.2)
    · rw [permuted.mem_iff, List.mem_map]

end Rows

-----------------------------------------------------------------------------------------
-- The functions of the backends
-----------------------------------------------------------------------------------------

/-- The line that GROUP sends for a row of `newsgroups`. -/
def groupLine (g : Newsgroup) : Str :=
  "211 ".toList ++ decInt (asInt32 g.high)
    ++ ' ' :: (if asInt32 g.high = 0 then ['0'] else ['1'])
    ++ ' ' :: decInt (asInt32 g.high) ++ ' ' :: g.name ++ " group selected\r\n".toList

/-- The rows of `newsgroups` that GROUP looks at: MySQL fetches one only. -/
def groupRounds (dbase : Dbase) (s : Store) (group : Str) : List Newsgroup :=
  match dbase with
  | .mysql => (s.newsgroups.filter (·.name == group)).take 1
  | _ => s.newsgroups.filter (·.name == group)

/-- The article that LISTGROUP selects. -/
def listgroupArticle (dbase : Dbase) (found : Bool) (rows : List Ngpost) : Option Str :=
  match dbase with
  | .sqlite3 => if found then none else rows.getLast?.map numberText
  | _ => rows.head?.map numberText

section Loops

variable {ext : Extern} {s : Store} {group : Str} {engine : Exec Sql Store}

/-- The loop of GROUP: each round sends a line and selects.
Witness: by induction on the rows; the last round decides.
-/
theorem groupLoop_run {round : Newsgroup → Srv Unit} (rows : List Newsgroup)
    (rounds : ∀ g ∈ rows, ∀ r, ∃ r', ((round g).run r).run engine s = (.ok ((), r'), s)
      ∧ r'.texts = r.texts ++ [groupLine g] ∧ r'.SelectsFirst s group)
    (r : Session)
    : ∃ r', ((rows.forM round).run r).run engine s = (.ok ((), r'), s)
        ∧ r'.texts = r.texts ++ rows.map groupLine
        ∧ (rows = [] ∨ r'.SelectsFirst s group) := by
  induction rows generalizing r with
  | nil => exact ⟨r, rfl, (List.append_nil _).symm, Or.inl rfl⟩
  | cons g rows ih =>
      obtain ⟨mid, ran, sent, selects⟩ := rounds g (List.mem_cons_self ..) r
      obtain ⟨r', rest, sent', selects'⟩ :=
        ih (fun g' member => rounds g' (List.mem_cons_of_mem g member)) mid
      refine ⟨r', ?_, ?_, Or.inr ?_⟩
      · show ((round g >>= fun _ => rows.forM round).run r).run engine s = _
        rw [run_bind_ok ran]
        exact rest
      · rw [sent', sent]
        simp
      · rcases selects' with none' | later
        · subst none'
          cases rest
          exact selects
        · exact later

theorem last_or (n : Ngpost) (rows : List Ngpost) (article : Option Str)
    : ((n :: rows).getLast?.map numberText).or article
      = (rows.getLast?.map numberText).or (some (numberText n)) := by
  rw [List.getLast?_cons]
  cases rows.getLast? with
  | none => rfl
  | some m => rfl

/-- SQLite selects the number of each row it is given. -/
theorem selectEach_run (rows : List Ngpost) (r : Session)
    : (rows.forM (fun n =>
          (modify (fun s => { s with selectedArticle := some (dec n.postnum) }) : Srv Unit))).run r
      = .done ((),
          { r with selectedArticle := (rows.getLast?.map numberText).or r.selectedArticle }) := by
  induction rows generalizing r with
  | nil => rfl
  | cons n rows ih =>
      rw [last_or]
      exact ih { r with selectedArticle := some (dec n.postnum) }

/-- All rows that SQLite finds for the smallest number have this number. -/
theorem firstArticle_ofMin
    : s.FirstArticle group
        ((s.ngposts.filter (fun n => s.minPostnum group == some n.postnum)).getLast?.map
          numberText) := by
  cases last : (s.ngposts.filter (fun n => s.minPostnum group == some n.postnum)).getLast? with
  | none =>
      have none' := List.getLast?_eq_none_iff.mp last
      by_contra filled
      obtain ⟨k, least⟩ : ∃ k, s.minPostnum group = some k := by
        refine Option.ne_none_iff_exists'.mp (fun empty => filled ?_)
        exact List.map_eq_nil_iff.mp (List.min?_eq_none_iff.mp empty)
      obtain ⟨n, member, number⟩ := List.mem_map.mp (List.min?_mem least)
      have found : n ∈ s.ngposts.filter (fun n => s.minPostnum group == some n.postnum) := by
        refine List.mem_filter.mpr ⟨(List.mem_filter.mp member).1, ?_⟩
        rw [least, number]
        exact beq_self_eq_true _
      rw [none'] at found
      cases found
  | some n =>
      have least : s.minPostnum group = some n.postnum := by
        simpa using (List.mem_filter.mp (List.mem_of_getLast? last)).2
      obtain ⟨m, member, number⟩ := List.mem_map.mp (List.min?_mem least)
      refine ⟨m, member, congrArg dec number.symm, fun other there => ?_⟩
      rw [number]
      exact (List.min?_eq_some_iff.mp least).2 _ (List.mem_map_of_mem there)

/-- A round of GROUP on SQLite. -/
theorem groupCb_run {g : Newsgroup} (named : g.name = group) (r : Session)
    : ∃ r', ((groupCb g).run r).run (exec ext) s = (.ok ((), r'), s)
        ∧ r'.texts = r.texts ++ [groupLine g] ∧ r'.SelectsFirst s group := by
  subst named
  have each := selectEach_run (s.ngposts.filter (fun n => s.minPostnum g.name == some n.postnum))
    { r with
      curstring := r.curstring ++ [⟨groupLine g, none⟩]
      selectedGroup := some g.name
      selectedArticle := none }
  rw [Option.or_none] at each
  refine ⟨{ r with
    curstring := r.curstring ++ [⟨groupLine g, none⟩]
    selectedGroup := some g.name
    selectedArticle :=
      (s.ngposts.filter (fun n => s.minPostnum g.name == some n.postnum)).getLast?.map numberText
    foundGroup := true }, ?_, ?_, rfl, firstArticle_ofMin⟩
  · unfold groupCb
    rw [run_bind_ok (b := ()) rfl, run_bind_ok (b := ⟨⟩) rfl, run_sql_bind]
    rw [run_bind_ok (b := ⟨⟩) (congrArg (Prog.run (exec ext) · s) each)]
    rfl
  · simp [Session.texts]

/-- The pieces that LISTGROUP sends for rows. -/
def numberPieces (rows : List Ngpost) : List Piece := rows.map (fun n => ⟨numberLine n, some n⟩)

/-- The loop of LISTGROUP on SQLite while `found_article` is set. -/
theorem listgroupCb_run_found (rows : List Ngpost) (r : Session) (found : r.foundArticle = true)
    : (rows.forM listgroupCb).run r
      = .done ((), { r with curstring := r.curstring ++ numberPieces rows }) := by
  induction rows generalizing r with
  | nil => simp [numberPieces]
  | cons n rows ih =>
      have first : (listgroupCb n).run r
          = .done ((), { r with curstring := r.curstring ++ [⟨numberLine n, some n⟩] }) := by
        simp [listgroupCb, found, numberLine, numberText]
      show (listgroupCb n >>= fun _ => rows.forM listgroupCb).run r = _
      rw [StateT.run_bind, first, Prog.done_bind]
      refine (ih { r with curstring := r.curstring ++ [⟨numberLine n, some n⟩] } found).trans ?_
      simp [numberPieces]

/-- Otherwise each round selects its row. -/
theorem listgroupCb_run_unset (rows : List Ngpost) (r : Session) (unset : r.foundArticle = false)
    : (rows.forM listgroupCb).run r
      = .done ((),
          { r with
            curstring := r.curstring ++ numberPieces rows
            selectedArticle := (rows.getLast?.map numberText).or r.selectedArticle
            counter := r.counter + rows.length }) := by
  induction rows generalizing r with
  | nil => simp [numberPieces]
  | cons n rows ih =>
      have first : (listgroupCb n).run r
          = .done ((),
              { r with
                curstring := r.curstring ++ [⟨numberLine n, some n⟩]
                selectedArticle := some (numberText n)
                counter := r.counter + 1 }) := by
        simp [listgroupCb, unset, numberLine, numberText]
      show (listgroupCb n >>= fun _ => rows.forM listgroupCb).run r = _
      rw [StateT.run_bind, first, Prog.done_bind, last_or]
      refine (ih
        { r with
          curstring := r.curstring ++ [⟨numberLine n, some n⟩]
          selectedArticle := some (numberText n)
          counter := r.counter + 1 } unset).trans ?_
      simp [numberPieces, Nat.add_assoc, Nat.add_comm 1]

/-- The loops of the other backends only send. -/
theorem sendNumbers_run (rows : List Ngpost) (r : Session)
    : (rows.forM (fun row => toSendRow row (dec row.postnum ++ "\r\n".toList))).run r
      = .done ((), { r with curstring := r.curstring ++ numberPieces rows }) := by
  induction rows generalizing r with
  | nil => simp [numberPieces]
  | cons n rows ih =>
      refine (ih { r with curstring := r.curstring ++ [⟨numberLine n, some n⟩] }).trans ?_
      simp [numberPieces]

end Loops

section Functions

variable {servers : DbServers} {dbase : Dbase} {ext : Extern} {s : Store} {group : Str}

theorem selectPostnums_rows
    : (execOn dbase ext (.selectPostnums group) s).1 = s.sortedRows group := by
  cases dbase with
  | sqlite3 => rfl
  | mysql => rfl
  | postgres => rfl

theorem selectNewsgroup_rows
    : (execOn dbase ext (.selectNewsgroup group) s).1 = s.newsgroups.filter (·.name == group) := by
  cases dbase with
  | sqlite3 => rfl
  | mysql => rfl
  | postgres => rfl

/-- The engine performs the three queries of GROUP and LISTGROUP as they are. -/
structure Engine.AsksFor (engine : Engine) (group : Str) : Prop where
  newsgroup :
    PerformsAs (.selectNewsgroup group)
      (engine.perform "select * from newsgroups where name=$1" [group] (.selectNewsgroup group))
  first :
    PerformsAs (.selectPostnums group)
      (engine.perform "select min(postnum) from ngposts where ng=$1" [group]
        (.selectPostnums group))
  numbers :
    PerformsAs (.selectPostnums group)
      (engine.perform "select postnum from ngposts where ng=$1 order by postnum asc" [group]
        (.selectPostnums group))

theorem asksFor_mysql {server : MysqlServer} (plain : SqlLiteral.plain group = true)
    : (mysqlEngine server).AsksFor group where
  newsgroup := performsAs_mysqlSrv _ (by simpa using plain)
  first := performsAs_mysqlSrv _ (by simpa using plain)
  numbers := performsAs_mysqlSrv _ (by simpa using plain)

theorem asksFor_postgres : postgresEngine.AsksFor group where
  newsgroup := by
    have required : requiredParams false "select * from newsgroups where name=$1".toList = 1 := by decide +kernel
    exact performsAs_postgresSrv _ required
  first := by
    have required : requiredParams false "select min(postnum) from ngposts where ng=$1".toList = 1 := by decide +kernel
    exact performsAs_postgresSrv _ required
  numbers := by
    have required : requiredParams false "select postnum from ngposts where ng=$1 order by postnum asc".toList = 1 := by decide +kernel
    exact performsAs_postgresSrv _ required

/-- A round of GROUP on the other backends. -/
theorem Engine.AsksFor.groupRow_run {engine : Engine} (asks : engine.AsksFor group)
    {g : Newsgroup} (named : g.name = group) (r : Session)
    : ∃ r', ((engine.groupRow g).run r).run (execOn dbase ext) s = (.ok ((), r'), s)
        ∧ r'.texts = r.texts ++ [groupLine g] ∧ r'.SelectsFirst s group := by
  subst named
  refine ⟨{ r with
    curstring := r.curstring ++ [⟨groupLine g, none⟩]
    selectedGroup := some g.name
    selectedArticle := (s.sortedRows g.name).head?.map numberText
    foundGroup := true }, ?_, ?_, rfl, firstArticle_head⟩
  · unfold Engine.groupRow Engine.setFirstArticleInGroup
    rw [run_bind_ok (b := ()) rfl, run_bind_ok (b := ⟨⟩) rfl, run_bind_ok (b := ⟨⟩) rfl,
      run_bind_ok (asks.first.run rfl _), selectPostnums_rows]
    cases (s.sortedRows g.name).head? with
    | none => rfl
    | some n => rfl
  · simp [Session.texts]

/-- GROUP on the other backends. -/
theorem Engine.AsksFor.groupRows_run {engine : Engine} (asks : engine.AsksFor group)
    {rounds : List Newsgroup → List Newsgroup} (sub : ∀ rows, ∀ g ∈ rounds rows, g ∈ rows)
    (r : Session)
    : ∃ r', ((engine.groupRows rounds group).run r).run (execOn dbase ext) s = (.ok ((), r'), s)
        ∧ r'.texts
          = r.texts ++ (rounds (s.newsgroups.filter (·.name == group))).map groupLine
        ∧ (rounds (s.newsgroups.filter (·.name == group)) = [] ∨ r'.SelectsFirst s group) := by
  have each : ∀ g ∈ rounds (s.newsgroups.filter (·.name == group)), g.name = group := by
    intro g member
    simpa using (List.mem_filter.mp (sub _ g member)).2
  obtain ⟨r', ran, sent, selects⟩ := groupLoop_run (rounds (s.newsgroups.filter (·.name == group)))
    (fun g member => @Engine.AsksFor.groupRow_run dbase ext s group engine asks g (each g member))
    { r with foundGroup := false }
  refine ⟨{ r' with foundGroup := if r'.foundGroup then true else r.foundGroup }, ?_, sent,
    selects.imp id (fun done => ⟨done.selected, done.first⟩)⟩
  unfold Engine.groupRows
  rw [run_bind_ok (b := r) rfl, run_bind_ok (b := ⟨⟩) rfl, run_bind_ok (asks.newsgroup.run rfl _),
    selectNewsgroup_rows, run_bind_ok ran]
  rfl

/-- LISTGROUP sends the numbers and selects one of them. -/
def SendsNumbers (dbase : Dbase) (ext : Extern) (s : Store) (group : Str) (m : Srv Unit) : Prop :=
  ∀ r, ∃ r', (m.run r).run (execOn dbase ext) s = (.ok ((), r'), s)
    ∧ r'.texts = r.texts ++ (s.sortedRows group).map numberLine ++ [periodEnd]
    ∧ r'.selectedGroup = r.selectedGroup
    ∧ r'.selectedArticle = listgroupArticle dbase r.foundArticle (s.sortedRows group)

theorem texts_numberPieces (pieces : List Piece) (rows : List Ngpost)
    : List.map Piece.text (pieces ++ numberPieces rows ++ [⟨periodEnd, none⟩])
      = pieces.map Piece.text ++ rows.map numberLine ++ [periodEnd] := by
  simp [numberPieces]

theorem Engine.AsksFor.sendsNumbers {engine : Engine} (asks : engine.AsksFor group)
    (other : dbase ≠ .sqlite3)
    : SendsNumbers dbase ext s group (engine.listgroup group) := by
  intro r
  refine ⟨{ r with
    curstring := r.curstring ++ numberPieces (s.sortedRows group) ++ [⟨periodEnd, none⟩]
    selectedArticle := (s.sortedRows group).head?.map numberText }, ?_, ?_, rfl, ?_⟩
  · unfold Engine.listgroup
    rw [run_bind_ok (asks.numbers.run rfl _), selectPostnums_rows,
      run_bind_ok (b := ⟨⟩) (congrArg (Prog.run _ · s) (sendNumbers_run _ r))]
    rfl
  · exact texts_numberPieces _ _
  · cases dbase with
    | sqlite3 => exact absurd rfl other
    | mysql => rfl
    | postgres => rfl

theorem dbGroup_run (r : Session)
    : ∃ r', ((dbGroup group).run r).run (exec ext) s = (.ok ((), r'), s)
        ∧ r'.texts = r.texts ++ (s.newsgroups.filter (·.name == group)).map groupLine
        ∧ (s.newsgroups.filter (·.name == group) = [] ∨ r'.SelectsFirst s group) := by
  have each : ∀ g ∈ s.newsgroups.filter (·.name == group), g.name = group := by
    intro g member
    simpa using (List.mem_filter.mp member).2
  obtain ⟨r', ran, sent, selects⟩ := groupLoop_run (s.newsgroups.filter (·.name == group))
    (fun g member => @groupCb_run ext s group g (each g member)) { r with foundGroup := false }
  refine ⟨{ r' with foundGroup := if r'.foundGroup then true else r.foundGroup }, ?_, sent,
    selects.imp id (fun done => ⟨done.selected, done.first⟩)⟩
  unfold dbGroup
  rw [run_bind_ok (b := r) rfl, run_sql_bind, run_bind_ok (b := ⟨⟩) rfl]
  exact (run_bind_ok ran).trans rfl

/-- What `db_sqlite3_listgroup` does behind its loop. -/
theorem listgroupEnd_run (mid : Session)
    : ((do
          modify (fun s => if s.counter = 0 then { s with selectedArticle := none } else s)
          toSend periodEnd : Srv Unit).run mid)
      = .done ((),
          { mid with
            selectedArticle := if mid.counter = 0 then none else mid.selectedArticle
            curstring := mid.curstring ++ [⟨periodEnd, none⟩] }) := by
  by_cases none' : mid.counter = 0
  · simp [none']
  · simp [none']

/-- SQLite selects nothing while `found_article` is set, and otherwise the last row. -/
theorem sendsNumbers_sqlite3 : SendsNumbers .sqlite3 ext s group (dbListgroup group) := by
  intro r
  have loop {mid : Session}
      (ran : ((s.sortedRows group).forM listgroupCb).run { r with counter := 0 } = .done ((), mid))
      : ((dbListgroup group).run r).run (exec ext) s
        = (.ok ((),
            { mid with
              selectedArticle := if mid.counter = 0 then none else mid.selectedArticle
              curstring := mid.curstring ++ [⟨periodEnd, none⟩] }), s) := by
    unfold dbListgroup
    rw [run_bind_ok (b := ⟨⟩) rfl, run_sql_bind]
    refine (run_bind_ok (congrArg (Prog.run (exec ext) · s) ran)).trans ?_
    exact congrArg (Prog.run (exec ext) · s) (listgroupEnd_run mid)
  by_cases found : r.foundArticle = true
  · refine ⟨_, loop (listgroupCb_run_found _ _ found), texts_numberPieces _ _, rfl, ?_⟩
    simp [listgroupArticle, found]
  · have unset : r.foundArticle = false := by simpa using found
    refine ⟨_, loop (listgroupCb_run_unset _ _ unset), texts_numberPieces _ _, rfl, ?_⟩
    cases s.sortedRows group with
    | nil => simp [listgroupArticle]
    | cons n rows => simp [listgroupArticle, unset, List.getLast?_cons]

theorem dbase_srvBackend (servers : DbServers) (dbase : Dbase)
    : (srvBackend servers dbase).dbase = dbase := by
  cases dbase with
  | sqlite3 => rfl
  | mysql => rfl
  | postgres => rfl

theorem group_run (plain : dbase = .mysql → SqlLiteral.plain group = true) (r : Session)
    : ∃ r', (((srvBackend servers dbase).group group).run r).run
          (execOn (srvBackend servers dbase).dbase ext) s = (.ok ((), r'), s)
        ∧ r'.texts = r.texts ++ (groupRounds dbase s group).map groupLine
        ∧ (groupRounds dbase s group = [] ∨ r'.SelectsFirst s group) := by
  cases dbase with
  | sqlite3 => exact dbGroup_run r
  | mysql =>
      exact (asksFor_mysql (plain rfl)).groupRows_run (fun _ _ => List.mem_of_mem_take) r
  | postgres => exact asksFor_postgres.groupRows_run (fun _ _ => id) r

theorem listgroup_sendsNumbers (plain : dbase = .mysql → SqlLiteral.plain group = true)
    : SendsNumbers dbase ext s group ((srvBackend servers dbase).listgroup group) := by
  cases dbase with
  | sqlite3 => exact sendsNumbers_sqlite3
  | mysql => exact (asksFor_mysql (plain rfl)).sendsNumbers nofun
  | postgres => exact asksFor_postgres.sendsNumbers nofun

end Functions

-----------------------------------------------------------------------------------------
-- The handlers
-----------------------------------------------------------------------------------------

/-- The session shows this face and, on SQLite, this flag of ARTICLE; the store is this one. -/
structure Ready (dbase : Dbase) (f : Face) (found : Bool) (s₀ : Store) (r : Session) (s : Store)
    : Prop where
  face : r.face = f
  store : s = s₀
  flag : dbase = .sqlite3 → r.foundArticle = found

section Handlers

variable {servers : DbServers} {dbase : Dbase} {ext : Extern} {cfg : Config} {f : Face}
  {found : Bool} {s₀ : Store}

/-- A lookup on another backend than SQLite. -/
theorem ready_lookup {α : Type} {m : Srv α} {engine : Dbase} (other : dbase ≠ .sqlite3)
    (lookup : Lookup engine ext m)
    : Ensures (execOn engine ext) (Ready dbase f found s₀) m (fun _ => Ready dbase f found s₀)
        (fun reason _ => reason.SentIs f.sent) :=
  (lookup f s₀).weaken (fun _ _ start => ⟨start.face, start.store⟩)
    (fun _ _ _ done => ⟨done.1, done.2, fun is => absurd is other⟩)

theorem ready_existence (single : servers.SingleStatements)
    : Ensures (execOn (srvBackend servers dbase).dbase ext) (Ready dbase f found s₀)
        (srvBackend servers dbase).checkNewsgroupExistence (fun _ => Ready dbase f found s₀)
        (fun reason _ => reason.SentIs f.sent) := by
  cases dbase with
  | sqlite3 =>
      intro r s start
      cases named : r.chkname with
      | none =>
          show Prog.wp (exec ext) (dbCheckNewsgroupExistence.run r) _ _ s
          simp [dbCheckNewsgroupExistence, named, Prog.wp, Exit.SentIs]
      | some name =>
          show Prog.wp (exec ext) (dbCheckNewsgroupExistence.run r) _ _ s
          rw [Prog.wp, dbCheckNewsgroupExistence_run ext r s named]
          exact ⟨start.face, start.store, start.flag⟩
  | mysql => exact ready_lookup (by decide) (frames single .mysql ext).checkNewsgroupExistence
  | postgres => exact ready_lookup (by decide) (frames single .postgres ext).checkNewsgroupExistence

theorem ready_aclCheck (single : servers.SingleStatements) (user : Option Str) (group : Str)
    : Ensures (execOn (srvBackend servers dbase).dbase ext) (Ready dbase f found s₀)
        ((srvBackend servers dbase).aclCheck user group) (fun _ => Ready dbase f found s₀)
        (fun reason _ => reason.SentIs f.sent) := by
  cases dbase with
  | sqlite3 =>
      intro r s start
      show Prog.wp (exec ext) ((SrvBackend.sqlite3.aclCheck user group).run r) _ _ s
      rw [aclCheck_sqlite3, Prog.wp, aclCheckUserGroup_run]
      exact start
  | mysql => exact ready_lookup (by decide) (lookup_aclCheck (frames single .mysql ext) user group)
  | postgres => exact ready_lookup (by decide) (lookup_aclCheck (frames single .postgres ext) user group)

/-- What holds of a session that answers 211. -/
def If211 (Q : Session → Prop) (r : Session) (_ : Store) : Prop := r.Answers211 → Q r

/-- Another answer. -/
theorem not_211 {r : Session} {text : Str} (is : r.texts = [text])
    (other : ¬"211".toList <+: text) (Q : Session → Prop) (s : Store)
    : If211 Q r s := by
  rintro ⟨text', head, begins⟩
  rw [is] at head
  cases head
  exact absurd begins other

theorem ready_refuses {Q : Session → Prop} {engine : Dbase} {text : Str} (idle : f.curstring = [])
    (other : ¬"211".toList <+: text)
    : Ensures (execOn engine ext) (Ready dbase f found s₀) (toSend text) (fun _ => If211 Q)
        (fun reason _ => reason.SentIs f.sent) := by
  apply Ensures.modify
  intro r s start
  have nothing : r.curstring = [] := (congrArg Face.curstring start.face).trans idle
  have only : ({ r with curstring := r.curstring ++ [⟨text, none⟩] } : Session).texts = [text] := by
    simp [Session.texts, nothing]
  exact not_211 only other Q s

/-- What GROUP leaves behind if it answers 211. -/
structure GroupLeaves (dbase : Dbase) (s : Store) (group : Str) (r : Session) : Prop where
  selects : r.SelectsFirst s group
  texts : r.texts = (groupRounds dbase s group).map groupLine

theorem ready_group {group : Str} (idle : f.curstring = [])
    (plain : dbase = .mysql → SqlLiteral.plain group = true)
    : Ensures (execOn (srvBackend servers dbase).dbase ext) (Ready dbase f found s₀)
        ((srvBackend servers dbase).group group) (fun _ => If211 (GroupLeaves dbase s₀ group))
        (fun reason _ => reason.SentIs f.sent) := by
  intro r s start
  obtain ⟨rfl⟩ := start.store
  obtain ⟨r', ran, sent, selects⟩ := @group_run servers dbase ext s₀ group plain r
  have nothing : r.texts = [] := by
    have empty : r.curstring = [] := (congrArg Face.curstring start.face).trans idle
    simp [Session.texts, empty]
  rw [nothing, List.nil_append] at sent
  rw [Prog.wp, ran]
  rintro ⟨text, head, _⟩
  refine ⟨selects.resolve_left (fun none' => ?_), sent⟩
  rw [sent, none'] at head
  cases head

theorem ready_docmdGroup (single : servers.SingleStatements) {command group : Str}
    (idle : f.curstring = []) (arg : getSlinearg command 1 = some group)
    (plain : dbase = .mysql → SqlLiteral.plain group = true)
    : Ensures (execOn (srvBackend servers dbase).dbase ext) (Ready dbase f found s₀)
        ((srvBackend servers dbase).docmdGroup cfg command)
        (fun _ => If211 (GroupLeaves dbase s₀ group)) (fun reason _ => reason.SentIs f.sent) := by
  have refuse : Ensures (execOn (srvBackend servers dbase).dbase ext) (Ready dbase f found s₀)
      (toSend nosuchgroup) (fun _ => If211 (GroupLeaves dbase s₀ group))
      (fun reason _ => reason.SentIs f.sent) :=
    ready_refuses idle (by decide)
  have select := @ready_group servers dbase ext f found s₀ group idle plain
  refine Ensures.get_bind (fun old => ?_)
  simp only [arg]
  refine Ensures.bind (R := fun _ => Ready dbase f found s₀) ?_ (fun _ => ?_)
  · apply Ensures.modify
    rintro r s ⟨rfl, start⟩
    exact ⟨start.face, start.store, start.flag⟩
  refine Ensures.bind (ready_existence single) (fun _ => ?_)
  refine Ensures.read (fun r _ => ?_)
  refine Ensures.ite (fun missing => ?_) (fun there => ?_)
  · refine Ensures.bind refuse (fun _ => ?_)
    apply Ensures.modify
    intro r s answers is211
    have leaves := answers is211
    exact ⟨⟨leaves.selects.selected, leaves.selects.first⟩, leaves.texts⟩
  · refine Ensures.ite (fun used => ?_) (fun unused => select)
    refine Ensures.bind (ready_aclCheck single _ _) (fun allowed => ?_)
    exact Ensures.ite (fun yes => select) (fun no => refuse)

/-- What LISTGROUP leaves behind if it answers 211. -/
structure ListgroupLeaves (dbase : Dbase) (found : Bool) (s : Store) (group : Str) (r : Session)
    : Prop where
  selected : r.selectedGroup = some group
  article : r.selectedArticle = listgroupArticle dbase found (s.sortedRows group)
  texts : r.texts = articleListFollows :: (s.sortedRows group).map numberLine ++ [periodEnd]

theorem ready_listing (single : servers.SingleStatements) {group : Str}
    (idle : f.curstring = []) (selected : f.selectedGroup = some group)
    (plain : dbase = .mysql → SqlLiteral.plain group = true)
    : Ensures (execOn (srvBackend servers dbase).dbase ext) (Ready dbase f found s₀)
        (SrvBackend.docmdListgroup.listing (srvBackend servers dbase) cfg group)
        (fun _ => If211 (ListgroupLeaves dbase found s₀ group))
        (fun reason _ => reason.SentIs f.sent) := by
  have reply : Ensures (execOn (srvBackend servers dbase).dbase ext) (Ready dbase f found s₀)
      (SrvBackend.docmdListgroup.reply (srvBackend servers dbase) group)
      (fun _ => If211 (ListgroupLeaves dbase found s₀ group))
      (fun reason _ => reason.SentIs f.sent) := by
    intro r s start
    obtain ⟨rfl⟩ := start.store
    have nothing : r.curstring = [] := (congrArg Face.curstring start.face).trans idle
    have group' : r.selectedGroup = some group :=
      (congrArg Face.selectedGroup start.face).trans selected
    obtain ⟨r', ran, sent, sameGroup, article⟩ :=
      @listgroup_sendsNumbers servers dbase ext s₀ group plain
        { r with curstring := r.curstring ++ [⟨articleListFollows, none⟩] }
    unfold SrvBackend.docmdListgroup.reply
    rw [Prog.wp, run_bind_ok (b := ()) rfl, dbase_srvBackend, ran]
    refine fun _ => ⟨sameGroup.trans group', ?_, ?_⟩
    · rw [article]
      cases dbase with
      | sqlite3 => exact congrArg (listgroupArticle .sqlite3 · _) (start.flag rfl)
      | mysql => rfl
      | postgres => rfl
    · rw [sent]
      simp [Session.texts, nothing]
  refine Ensures.read (fun r _ => ?_)
  refine Ensures.ite (fun used => ?_) (fun unused => reply)
  refine Ensures.bind (ready_aclCheck single _ _) (fun allowed => ?_)
  exact Ensures.ite (fun yes => reply) (fun no => ready_refuses idle (by decide))

/-- The newsgroup that LISTGROUP is about is the argument or the selected one. -/
theorem ready_docmdListgroup (single : servers.SingleStatements) {command group : Str}
    (idle : f.curstring = []) (named : (getSlinearg command 1).or f.selectedGroup = some group)
    (plain : dbase = .mysql → SqlLiteral.plain group = true)
    : Ensures (execOn (srvBackend servers dbase).dbase ext) (Ready dbase f found s₀)
        ((srvBackend servers dbase).docmdListgroup cfg command)
        (fun _ => If211 (ListgroupLeaves dbase found s₀ group))
        (fun reason _ => reason.SentIs f.sent) := by
  refine Ensures.read (fun old ready => ?_)
  obtain ⟨s, ready⟩ := ready
  cases arg : getSlinearg command 1 with
  | none =>
      rw [arg, Option.none_or] at named
      have selected : old.selectedGroup = some group :=
        (congrArg Face.selectedGroup ready.face).trans named
      simp only [selected]
      exact ready_listing single idle named plain
  | some ptr =>
      rw [arg, Option.some_or, Option.some.injEq] at named
      subst named
      refine Ensures.bind (R := fun _ => Ready dbase f found s₀) ?_ (fun _ => ?_)
      · apply Ensures.modify
        exact fun r s start => ⟨start.face, start.store, start.flag⟩
      refine Ensures.bind (ready_existence single) (fun _ => ?_)
      refine Ensures.read (fun r _ => ?_)
      refine Ensures.ite (fun missing => ?_) (fun there => ?_)
      · refine Ensures.bind (R := fun _ => Ready dbase f found s₀) ?_ (fun _ => ?_)
        · apply Ensures.modify
          exact fun r s start => ⟨start.face, start.store, start.flag⟩
        · exact ready_refuses idle (by decide)
      · refine Ensures.bind
          (R := fun _ => Ready dbase { f with selectedGroup := some ptr } found s₀) ?_ (fun _ => ?_)
        · apply Ensures.modify
          intro r s start
          refine ⟨?_, start.store, start.flag⟩
          rw [← start.face]
          rfl
        · exact ready_listing single idle rfl plain

end Handlers

-----------------------------------------------------------------------------------------
-- The commands
-----------------------------------------------------------------------------------------

section Commands

variable {servers : DbServers} {dbase : Dbase} {ext : Extern} {cfg : Config} {env : Env}
  {session after : Session} {s : Store} {command group : Str}

/-- A GROUP goes to its branch. -/
theorem branch_group {db : SrvBackend} (isGroup : caseEqPrefix "group".toList command = true)
    : db.branch ext cfg env true command = checkMandatoryTls cfg (db.docmdGroup cfg command) := by
  have notNewsgroups : caseEqPrefix "list newsgroups".toList command = false :=
    caseEqPrefix_apart isGroup (by decide) (by decide)
  have notOverview : caseEqPrefix "list overview.fmt".toList command = false :=
    caseEqPrefix_apart isGroup (by decide) (by decide)
  have notListgroup : caseEqPrefix "listgroup".toList command = false :=
    caseEqPrefix_apart isGroup (by decide) (by decide)
  have notList : caseEqPrefix "list".toList command = false :=
    caseEqPrefix_apart isGroup (by decide) (by decide)
  have notXgtitle : caseEqPrefix "xgtitle".toList command = false :=
    caseEqPrefix_apart isGroup (by decide) (by decide)
  have notHelp : caseEqPrefix "help".toList command = false :=
    caseEqPrefix_apart isGroup (by decide) (by decide)
  simp only [SrvBackend.branch, SrvBackend.authCommands, List.find?_cons, notNewsgroups,
    notOverview, notListgroup, notList, notXgtitle, notHelp, isGroup, Bool.and_true, Bool.and_false]

/-- The word of a command, and its handler. -/
def SelectCommand.word : SelectCommand → Str
  | .group => "group".toList
  | .listgroup => "listgroup".toList

def SelectCommand.handler (db : SrvBackend) (cfg : Config) (command : Str)
    : SelectCommand → Srv Unit
  | .group => db.docmdGroup cfg command
  | .listgroup => db.docmdListgroup cfg command

theorem branch_select {db : SrvBackend} {cmd : SelectCommand}
    (begins : caseEqPrefix cmd.word command = true)
    : db.branch ext cfg env true command
      = checkMandatoryTls cfg (cmd.handler db cfg command) := by
  cases cmd with
  | group => exact branch_group begins
  | listgroup => exact branch_listgroup begins

theorem branch_unauthenticated {db : SrvBackend}
    (notStarttls : caseEqPrefix "starttls".toList command = false)
    : db.branch ext cfg env false command = toSend authReq := by
  have none' : (db.authCommands ext cfg env command).find?
      (fun entry => false && caseEqPrefix entry.1 command) = none :=
    List.find?_eq_none.mpr (fun entry _ => by simp)
  unfold SrvBackend.branch
  rw [none']
  show lastCommands cfg false command = toSend authReq
  unfold lastCommands
  rw [notStarttls]
  rfl

/-- A command that is answered 211 was let through to its handler. -/
theorem answered_by_handler {db : SrvBackend} {cmd : SelectCommand}
    (begins : caseEqPrefix cmd.word command = true)
    (answered : (db.outcome ext cfg env session s command).1 = .ok ((), after))
    (is211 : after.Answers211)
    : ∃ s', ((cmd.handler db cfg command).run { session with curstring := [], sent := [] }).run
        (execOn db.dbase ext) s = (.ok ((), after), s') := by
  have refused {text : Str} (other : ¬"211".toList <+: text)
      (ran : (((toSend text).run { session with curstring := [], sent := [] }).run
        (execOn db.dbase ext) s).1 = .ok ((), after))
      : False := by
    cases ran
    exact not_211 (rfl : Session.texts _ = [text]) other (fun _ => False) s is211
  have apart {key : Str} (left : ∀ cmd : SelectCommand, caseEqPrefix cmd.word key = false)
      (right : ∀ cmd : SelectCommand, caseEqPrefix key cmd.word = false)
      : caseEqPrefix key command = false :=
    caseEqPrefix_apart begins (left cmd) (right cmd)
  have authinfo : caseEqPrefix "authinfo".toList command = false :=
    apart (fun cmd => by cases cmd <;> decide) (fun cmd => by cases cmd <;> decide)
  have quit : ¬caseEqPrefix "quit".toList command = true := by
    rw [apart (fun cmd => by cases cmd <;> decide) (fun cmd => by cases cmd <;> decide)]
    decide
  have starttls : caseEqPrefix "starttls".toList command = false :=
    apart (fun cmd => by cases cmd <;> decide) (fun cmd => by cases cmd <;> decide)
  unfold SrvBackend.outcome at answered
  rw [doCommand_branch authinfo quit] at answered
  by_cases may : (session.authIsThere || !cfg.useAuth) = true
  · rw [may, branch_select begins, checkMandatoryTls_run] at answered
    split at answered
    · exact (refused (by decide) answered).elim
    · exact ⟨_, Prod.ext answered rfl⟩
  · rw [Bool.eq_false_iff.mpr may, branch_unauthenticated starttls] at answered
    exact (refused (by decide) answered).elim

/-- What a command leaves behind if it answers 211. -/
def SelectCommand.Leaves (dbase : Dbase) (found : Bool) (s : Store) (group : Str) (r : Session)
    : SelectCommand → Prop
  | .group => GroupLeaves dbase s group r
  | .listgroup => ListgroupLeaves dbase found s group r

theorem outcome_leaves (single : servers.SingleStatements) {cmd : SelectCommand}
    (named : cmd.Names session command group)
    (plain : dbase = .mysql → SqlLiteral.plain group = true)
    (answered
      : ((srvBackend servers dbase).outcome ext cfg env session s command).1 = .ok ((), after))
    (is211 : after.Answers211)
    : cmd.Leaves dbase session.foundArticle s group after := by
  have ready : Ready dbase ⟨session.selectedGroup, session.selectedArticle, [], []⟩
      session.foundArticle s { session with curstring := [], sent := [] } s :=
    ⟨rfl, rfl, fun _ => rfl⟩
  cases cmd with
  | group =>
      obtain ⟨begins, arg⟩ := named
      have word : caseEqPrefix (SelectCommand.word .group) command = true := begins
      obtain ⟨s', ran⟩ := answered_by_handler word answered is211
      exact (ready_docmdGroup single rfl arg plain).run_ok ready ran is211
  | listgroup =>
      obtain ⟨begins, arg⟩ := named
      have word : caseEqPrefix (SelectCommand.word .listgroup) command = true := begins
      obtain ⟨s', ran⟩ := answered_by_handler word answered is211
      exact (ready_docmdListgroup single rfl arg plain).run_ok ready ran is211

/-- The article that LISTGROUP selects on SQLite is the first one exactly if there is none, or
only one that the flag of ARTICLE does not hide. -/
theorem firstArticle_listgroup_iff (found : Bool)
    (distinct : ((s.ngRows group).map (·.postnum)).Nodup)
    : s.FirstArticle group (listgroupArticle dbase found (s.sortedRows group))
      ↔ (dbase = .sqlite3 →
          s.ngRows group = [] ∨ found = false ∧ (s.ngRows group).length = 1) := by
  cases dbase with
  | mysql => exact iff_of_true firstArticle_head nofun
  | postgres => exact iff_of_true firstArticle_head nofun
  | sqlite3 =>
      rw [forall_prop_of_true rfl]
      cases found with
      | true => simp [listgroupArticle, Store.FirstArticle]
      | false =>
          simp only [listgroupArticle, Bool.false_eq_true, if_false, true_and]
          exact firstArticle_last_iff distinct

/-- A command leaves the right selection behind exactly if nothing disturbs it. -/
theorem right_iff_of_leaves {cmd : SelectCommand}
    (leaves : cmd.Leaves dbase session.foundArticle s group after)
    : cmd.Right s group after ↔ cmd.Undisturbed dbase session s group := by
  cases cmd with
  | group => exact iff_of_true ⟨leaves.selects, nofun⟩ trivial
  | listgroup =>
      have texts := leaves.texts
      constructor
      · intro right
        have distinct := listsNumbers_iff.mp (texts ▸ right.lists rfl)
        have first := right.selects.first
        rw [leaves.article] at first
        exact ⟨distinct, (firstArticle_listgroup_iff _ distinct).mp first⟩
      · intro undisturbed
        refine ⟨⟨leaves.selected, ?_⟩, fun _ => ?_⟩
        · rw [leaves.article]
          exact (firstArticle_listgroup_iff _ undisturbed.1).mpr undisturbed.2
        · rw [texts]
          exact listsNumbers_iff.mpr undisturbed.1

/-- What a command leaves behind if nothing disturbs it depends on the store only. -/
theorem leaves_eq {cmd : SelectCommand} {session' after' : Session}
    (leaves : cmd.Leaves dbase session.foundArticle s group after)
    (leaves' : cmd.Leaves dbase session'.foundArticle s group after')
    (undisturbed : cmd.Undisturbed dbase session s group)
    (undisturbed' : cmd.Undisturbed dbase session' s group)
    : after.selectedGroup = after'.selectedGroup ∧ after.selectedArticle = after'.selectedArticle
      ∧ after.texts = after'.texts := by
  have right := (right_iff_of_leaves leaves).mpr undisturbed
  have right' := (right_iff_of_leaves leaves').mpr undisturbed'
  refine ⟨right.selects.selected.trans right'.selects.selected.symm,
    right.selects.first.eq right'.selects.first, ?_⟩
  cases cmd with
  | group => exact leaves.texts.trans leaves'.texts.symm
  | listgroup => exact leaves.texts.trans leaves'.texts.symm

/-- After a GROUP or LISTGROUP that is answered 211 the named newsgroup and its first article are
selected, and LISTGROUP has listed each number once and in ascending order, exactly if no number
is there twice and, for LISTGROUP on SQLite, there is no article, or only one and the flag of
ARTICLE is not set. What two sessions get from such a command is then the same.
Witness: the loops of the backends, row by row; the statements find what is in the store.
-/
theorem selection_right_iff (servers : DbServers) (dbase : Dbase) (ext : Extern) (cfg : Config)
    (single : servers.SingleStatements) (cmd : SelectCommand) (s : Store) (group : Str)
    (plain : dbase = .mysql → SqlLiteral.plain group = true) (env env' : Env)
    (session session' after after' : Session) (command command' : Str)
    (named : cmd.Names session command group) (named' : cmd.Names session' command' group)
    (answered
      : ((srvBackend servers dbase).outcome ext cfg env session s command).1 = .ok ((), after))
    (answered'
      : ((srvBackend servers dbase).outcome ext cfg env' session' s command').1 = .ok ((), after'))
    (is211 : after.Answers211) (is211' : after'.Answers211)
    : (cmd.Right s group after ↔ cmd.Undisturbed dbase session s group)
      ∧ (cmd.Undisturbed dbase session s group → cmd.Undisturbed dbase session' s group →
          after.selectedGroup = after'.selectedGroup
          ∧ after.selectedArticle = after'.selectedArticle
          ∧ after.texts = after'.texts) := by
  have leaves := outcome_leaves single named plain answered is211
  have leaves' := outcome_leaves single named' plain answered' is211'
  exact ⟨right_iff_of_leaves leaves, leaves_eq leaves leaves'⟩

end Commands

-----------------------------------------------------------------------------------------
-- A newsgroup with two articles
-----------------------------------------------------------------------------------------

section Samples

/-- What becomes of a command of a session on SQLite with the two articles. -/
def twoArticlesOutcome (session : Session) (command : String) : Except Exit (Unit × Session) :=
  ((srvBackend sampleServers .sqlite3).outcome sampleExtern readerConfig sampleEnv session
    twoArticles command.toList).1

/-- The reader has read an article, and ARTICLE has left its flag behind. -/
def articleReader : Session :=
  { twoArticlesReader.session with selectedArticle := some "2".toList, foundArticle := true }

/-- The session behind a command that is answered. -/
def answeredSession (session : Session) (command : String) : Session :=
  match twoArticlesOutcome session command with
  | .ok (_, after) => after
  | .error _ => session

theorem answered_group (session : Session)
    (reads : session = articleReader ∨ session = twoArticlesReader.session)
    : twoArticlesOutcome session "GROUP open" = .ok ((), answeredSession session "GROUP open")
      ∧ (answeredSession session "GROUP open").texts.head?
        = some "211 2 1 2 open group selected\r\n".toList := by
  rcases reads with rfl | rfl
  · exact ⟨by decide +kernel, by decide +kernel⟩
  · exact ⟨by decide +kernel, by decide +kernel⟩

/-- GROUP selects the first article, whatever the session did before. -/
theorem group_selects_first
    : SelectCommand.Right .group twoArticles "open".toList (answeredSession articleReader "GROUP open")
      ∧ (answeredSession articleReader "GROUP open").selectedArticle
        = (answeredSession twoArticlesReader.session "GROUP open").selectedArticle := by
  have reader := answered_group articleReader (Or.inl rfl)
  have fresh := answered_group twoArticlesReader.session (Or.inr rfl)
  have both := selection_right_iff sampleServers .sqlite3 sampleExtern readerConfig
    sampleServers_single .group twoArticles "open".toList nofun sampleEnv sampleEnv articleReader
    twoArticlesReader.session (answeredSession articleReader "GROUP open")
    (answeredSession twoArticlesReader.session "GROUP open") "GROUP open".toList
    "GROUP open".toList ⟨by decide, by decide⟩ ⟨by decide, by decide⟩ reader.1 fresh.1
    ⟨_, reader.2, by decide⟩ ⟨_, fresh.2, by decide⟩
  exact ⟨both.1.mpr trivial, (both.2 trivial trivial).2.1⟩

theorem not_right_of_second {after : Session} (second : after.selectedArticle = some "2".toList)
    : ¬SelectCommand.Right .listgroup twoArticles "open".toList after := by
  intro right
  have first : twoArticles.FirstArticle "open".toList (some "1".toList) :=
    ⟨⟨"<cdp1@a>".toList, "open".toList, 1⟩, by decide, by decide, by decide⟩
  have same := right.selects.first.eq first
  rw [second] at same
  exact absurd same (by decide)

/-- LISTGROUP of the two articles selects the second one, and none behind ARTICLE. -/
theorem listgroup_selects_last
    : twoArticlesOutcome twoArticlesReader.session "LISTGROUP open"
        = .ok ((), answeredSession twoArticlesReader.session "LISTGROUP open")
      ∧ (answeredSession twoArticlesReader.session "LISTGROUP open").texts
        = [articleListFollows, "1\r\n".toList, "2\r\n".toList, periodEnd]
      ∧ (answeredSession articleReader "LISTGROUP open").selectedArticle = none
      ∧ ¬SelectCommand.Right .listgroup twoArticles "open".toList
          (answeredSession twoArticlesReader.session "LISTGROUP open") :=
  ⟨by decide +kernel, by decide +kernel, by decide +kernel,
    not_right_of_second (by decide +kernel)⟩

end Samples

end WendzelNNTPd
