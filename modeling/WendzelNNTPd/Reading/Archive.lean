import WendzelNNTPd.Lib.Boards
import WendzelNNTPd.Lib.Refinement
import WendzelNNTPd.Posting.WriteAccess
import WendzelNNTPd.Reading.Advertised

/-! What the tables are for. A newsgroup is a board on which articles are put up, each with all
that readers are shown of it; of three tables, a directory and a counter, nothing else matters to
them. Every line of a client and every call of the tool is a move of these boards, or none.
-/

namespace WendzelNNTPd

open CString Atomic Boards

-----------------------------------------------------------------------------------------
-- The boards of a store
-----------------------------------------------------------------------------------------

/-- An article as it is read. -/
structure Issue where
  posting : Posting
  body : Str
  deriving DecidableEq, Repr

/-- The boards of a server: the posting flags, and the articles by number. -/
abbrev Archive : Type := List (Board Str Char Issue)

/-- The article that a row of `ngposts` stands for. -/
def Store.issue (s : Store) (n : Ngpost) : Option Issue :=
  match s.postings.find? (·.msgid == n.msgid), s.spool (bodyFile n.msgid) with
  | some posting, some body => some ⟨posting, body⟩
  | _, _ => none

def Store.board (s : Store) (g : Newsgroup) : Board Str Char Issue :=
  ⟨g.name, g.pflag, (s.ngRows g.name).filterMap s.issue⟩

def Store.archive (s : Store) : Archive := s.newsgroups.map s.board

section Issues

variable {s : Store} {n : Ngpost} {i : Issue}

theorem find?_of_key {α κ : Type} [BEq κ] [LawfulBEq κ] [DecidableEq κ] {key : α → κ} {l : List α}
    (distinct : (l.map key).Nodup) {x : α} (member : x ∈ l)
    : l.find? (fun y => key y == key x) = some x := by
  have only : l.filter (fun y => key y == key x) = [x] := by
    rw [← filter_of_key distinct member]
    exact List.filter_congr (fun y _ => Bool.beq_eq_decide_eq _ _)
  rw [← List.head?_filter, only]
  rfl

theorem issue_eq_some_iff (distinct : (s.postings.map (·.msgid)).Nodup)
    : s.issue n = some i
      ↔ i.posting ∈ s.postings ∧ i.posting.msgid = n.msgid
        ∧ s.spool (bodyFile n.msgid) = some i.body := by
  constructor
  · intro is
    unfold Store.issue at is
    split at is
    · rename_i posting body found file
      cases is
      exact ⟨List.mem_of_find?_eq_some found, beq_iff_eq.mp (List.find?_some found :), file⟩
    · cases is
  · rintro ⟨member, named, file⟩
    have found := find?_of_key distinct member
    rw [named] at found
    unfold Store.issue
    rw [found, file]

/-- The article of a row is there. -/
theorem Store.Readable.exists_issue (readable : s.Readable) (row : n ∈ s.ngposts)
    : ∃ i, s.issue n = some i ∧ i.body ≠ [] ∧ s.Finds n i.posting.header i.body := by
  obtain ⟨-, header, body, nonempty, keeps⟩ := readable.rows n row
  obtain ⟨p, member, msgid, rfl⟩ := keeps.posting
  refine ⟨⟨p, body⟩, ?_, nonempty, readable.numbered, readable.filing, keeps⟩
  exact (issue_eq_some_iff readable.numbered.msgids).mpr ⟨member, msgid, keeps.file⟩

theorem getElem?_filterMap_of_some {α β : Type} {f : α → Option β} {l : List α}
    (defined : ∀ x ∈ l, (f x).isSome = true) (k : Nat)
    : (l.filterMap f)[k]? = l[k]?.bind f := by
  induction l generalizing k with
  | nil => rfl
  | cons x rest ih =>
      obtain ⟨y, is⟩ := Option.isSome_iff_exists.mp (defined x (by simp))
      rw [List.filterMap_cons_some is]
      cases k with
      | zero => exact is.symm
      | succ k => exact ih (fun z member => defined z (List.mem_cons_of_mem _ member)) k

theorem getElem?_items (readable : s.Readable) (name : Str) (k : Nat)
    : ((s.ngRows name).filterMap s.issue)[k]? = (s.ngRows name)[k]?.bind s.issue := by
  refine getElem?_filterMap_of_some (fun n row => ?_) k
  obtain ⟨i, is, -⟩ := readable.exists_issue (List.mem_filter.mp row).1
  rw [is]
  rfl

theorem find_archive (s : Store) (name : Str)
    : find s.archive name = (s.newsgroups.find? (fun g => decide (g.name = name))).map s.board := by
  rw [find, Store.archive, List.find?_map]
  rfl

/-- The k-th row of a newsgroup has the number k + 1. -/
theorem Store.Numbered.row_iff (numbered : s.Numbered) {name : Str} {k : Nat}
    : (s.ngRows name)[k]? = some n ↔ n ∈ s.ngRows name ∧ n.postnum = k + 1 := by
  have place {j : Nat} (at' : (s.ngRows name)[j]? = some n) : n.postnum = j + 1 := by
    have row := List.mem_of_getElem? at'
    obtain ⟨g, member, named⟩ := numbered.groups n (List.mem_filter.mp row).1
    have inGroup : n.ng = name := beq_iff_eq.mp (List.mem_filter.mp row).2
    have number : ((s.ngRows name).map (·.postnum))[j]? = some n.postnum := by
      rw [List.getElem?_map, at']
      rfl
    rw [← inGroup, ← named, numbered.numbers g member] at number
    obtain ⟨inside, same⟩ := List.getElem?_eq_some_iff.mp number
    rw [List.getElem_range'] at same
    omega
  constructor
  · exact fun at' => ⟨List.mem_of_getElem? at', place at'⟩
  · rintro ⟨row, number⟩
    obtain ⟨j, at'⟩ := List.getElem?_of_mem row
    have same := place at'
    have : j = k := by omega
    rw [← this]
    exact at'

/-- Number k + 1 of a newsgroup, whether or not there is one. -/
theorem Store.Readable.itemAt (readable : s.Readable) (name : Str) (k : Nat)
    : itemAt s.archive name k = (s.ngRows name)[k]?.bind s.issue := by
  rw [Boards.itemAt, find_archive]
  cases found : s.newsgroups.find? (fun g => decide (g.name = name)) with
  | none =>
      have missing : ¬s.HasGroup name := by
        rintro ⟨g, member, named⟩
        exact List.find?_eq_none.mp found g member (decide_eq_true named)
      rw [ngRows_of_missing readable.numbered missing]
      rfl
  | some g =>
      have named : g.name = name := of_decide_eq_true (List.find?_some found :)
      rw [← named]
      exact getElem?_items readable g.name k

end Issues

-----------------------------------------------------------------------------------------
-- Lines and calls as moves
-----------------------------------------------------------------------------------------

section Moves

variable {ext : Extern} {hashSalt : Str} {s s' : Store}

/-- Newsgroups and rows that stand for the same articles. -/
theorem archive_congr (newsgroups : s'.newsgroups = s.newsgroups) (ngposts : s'.ngposts = s.ngposts)
    (issues : ∀ n ∈ s.ngposts, s'.issue n = s.issue n)
    : s'.archive = s.archive := by
  rw [Store.archive, Store.archive, newsgroups]
  refine List.map_congr_left (fun g _ => ?_)
  have rows : s'.ngRows g.name = s.ngRows g.name := by
    rw [Store.ngRows, Store.ngRows, ngposts]
  rw [Store.board, Store.board, rows]
  congr 1
  exact List.filterMap_congr (fun n row => issues n (List.mem_filter.mp row).1)

theorem archive_counted (s : Store) : s.counted.archive = s.archive := by
  unfold Store.counted
  split
  · rfl
  · rfl

/-- A message id that no article has, in a file that no article is in. -/
structure Store.NewId (s : Store) (msgid : Str) : Prop where
  posting : s.hasPosting msgid = false
  file : ∀ n ∈ s.ngposts, bodyFile n.msgid ≠ bodyFile msgid

theorem newId_of_nextId (numbered : s.Numbered) {id : Nat} (taken : s.nextId = some id) (host : Str)
    : s.NewId (numberedId id host) := by
  refine ⟨hasPosting_of_nextId numbered taken host, fun n row same => ?_⟩
  obtain ⟨p, member, named⟩ := List.any_eq_true.mp (numbered.articles n row)
  obtain ⟨id', host', numbered', lt⟩ := lt_nextId numbered taken member
  rw [← beq_iff_eq.mp named, numbered'] at same
  exact absurd (bodyFile_injective same) (Nat.ne_of_lt lt)

theorem issue_saveBody {msgid body : Str} (new : s.NewId msgid) {n : Ngpost} (row : n ∈ s.ngposts)
    : (s.saveBody msgid body).issue n = s.issue n := by
  have file : (s.saveBody msgid body).spool (bodyFile n.msgid) = s.spool (bodyFile n.msgid) :=
    Function.update_of_ne (new.file n row) _ _
  unfold Store.issue
  rw [file]
  rfl

/-- An article that is delivered to some newsgroups is put up on their boards. -/
theorem archive_deliver (numbered : s.Numbered) (writable : s.spoolWritable = true) {row : Posting}
    {body : Str} (new : s.NewId row.msgid) (init : Nat) {groups : List Str} (distinct : groups.Nodup)
    : ((s.posted row body).deliver init row.msgid groups).archive
      = Move.apply s.archive (.publish groups ⟨row, body⟩) := by
  have postings : ((s.posted row body).deliver init row.msgid groups).postings = s.postings ++ [row] :=
    rfl
  have old (n : Ngpost) (there : n ∈ s.ngposts)
      : ((s.posted row body).deliver init row.msgid groups).issue n = s.issue n := by
    rw [← @issue_saveBody s row.msgid body new n there]
    have found : (s.postings ++ [row]).find? (·.msgid == n.msgid)
        = s.postings.find? (·.msgid == n.msgid) := by
      obtain ⟨p, member, named⟩ := List.any_eq_true.mp (numbered.articles n there)
      rw [List.find?_append, Option.or_of_isSome]
      exact List.find?_isSome.mpr ⟨p, member, named⟩
    unfold Store.issue
    rw [postings, found]
    rfl
  have last (name : Str) (number : Nat)
      : ((s.posted row body).deliver init row.msgid groups).issue ⟨row.msgid, name, number⟩
        = some ⟨row, body⟩ := by
    have missing : s.postings.find? (·.msgid == row.msgid) = none := by
      rw [List.find?_eq_none]
      intro p member same
      exact List.any_eq_false.mp new.posting p member same
    have found : (s.postings ++ [row]).find? (·.msgid == row.msgid) = some row := by
      rw [List.find?_append, missing, Option.none_or, List.find?_singleton, if_pos (beq_self_eq_true _)]
    have file : ((s.posted row body).deliver init row.msgid groups).spool (bodyFile row.msgid)
        = some body :=
      (Function.update_self _ _ _).trans (if_pos writable)
    unfold Store.issue
    rw [postings, found, file]
  rw [Store.archive, Store.archive, Move.apply, List.map_map]
  refine List.map_map.trans (List.map_congr_left (fun g _ => ?_))
  have rows := @ngRows_deliver (s.posted row body) init row.msgid groups distinct g.name
  have before : ((s.posted row body).ngRows g.name).filterMap
      ((s.posted row body).deliver init row.msgid groups).issue
        = (s.ngRows g.name).filterMap s.issue :=
    List.filterMap_congr (fun n there => old n (List.mem_filter.mp there).1)
  dsimp only [Function.comp_apply]
  by_cases delivered : g.name ∈ groups
  · rw [if_pos delivered] at rows
    have items := congrArg
      (List.filterMap ((s.posted row body).deliver init row.msgid groups).issue) rows
    rw [List.filterMap_append, before, List.filterMap_cons_some (last g.name _)] at items
    rw [if_pos delivered, if_pos (show (s.board g).name ∈ groups from delivered)]
    exact congrArg (Board.mk g.name g.pflag) items
  · rw [if_neg delivered, List.append_nil] at rows
    have items := congrArg
      (List.filterMap ((s.posted row body).deliver init row.msgid groups).issue) rows
    rw [before] at items
    rw [if_neg delivered, if_neg (show ¬(s.board g).name ∈ groups from delivered)]
    exact congrArg (Board.mk g.name g.pflag) items

/-- From the body file on, POST puts the article up on boards of newsgroups that the user may post
to, or on none. -/
theorem archive_storeAlone (numbered : s.Numbered) (writable : s.spoolWritable = true) (cfg : Config)
    (env : Env) (user : Option Str) {row : Posting} (body : Str) (new : s.NewId row.msgid)
    (groups : List Str)
    : (s.storeAlone cfg env user row body groups).2.archive = s.archive
      ∨ ∃ names, names.Nodup ∧ names ⊆ groups.filter (s.mayPost cfg user)
          ∧ (s.storeAlone cfg env user row body groups).2.archive
            = Move.apply s.archive (.publish names ⟨row, body⟩) := by
  have start : Served (s.posted row body) env.curHighInit row.msgid [] :=
    ⟨List.nodup_nil, by simp, by simp⟩
  obtain ⟨served, -, within⟩ := serve_served (groups.filter (s.mayPost cfg user)) .empty start
  rw [List.nil_append] at within
  have delivered := @archive_deliver s numbered writable row body new env.curHighInit _ served.nodup
  simp only [Store.posted] at within delivered served
  simp only [Store.storeAlone]
  split
  · exact Or.inl (archive_congr rfl rfl (fun n there => issue_saveBody new there))
  · refine Or.inr ⟨_, served.nodup, within, ?_⟩
    rw [← delivered]
    split
    · rename_i outcome
      rw [outcome]
    · rename_i outcome
      rw [outcome]

theorem archive_post (ext : Extern) (readable : s.Readable) (cfg : Config) (env : Env)
    (user : Option Str)
    : (s.post ext cfg env user).2.archive = s.archive
      ∨ ∃ id article names, s.postStores cfg env = some (id, article) ∧ names.Nodup
          ∧ names ⊆ article.groups.filter (s.mayPost cfg user)
          ∧ (s.post ext cfg env user).2.archive
            = Move.apply s.archive (.publish names ⟨article.row ext env id, article.body⟩) := by
  cases stores : s.postStores cfg env with
  | none =>
      rcases (post_of_not_stores ext user stores).2 with same | same <;> rw [same]
      · exact Or.inl rfl
      · exact Or.inl (archive_counted s)
  | some stored =>
      obtain ⟨id, article⟩ := stored
      obtain ⟨ran, counted⟩ := post_of_stores ext user stores
      have taken := (postStores_checked stores).2
      have numbered := numbered_counted readable.numbered
      have new := newId_of_nextId readable.numbered taken article.host
      have same := archive_counted s
      rw [ran]
      rw [counted] at numbered same ⊢
      rcases @archive_storeAlone _ numbered readable.filing.writable cfg env user
          (article.row ext env id) article.body ⟨new.posting, new.file⟩ article.groups with
        none' | ⟨names, distinct, within, put⟩
      · exact Or.inl (none'.trans same)
      · exact Or.inr ⟨id, article, names, rfl, distinct, within, put.trans (by rw [same])⟩

theorem names_archive (s : Store) : s.archive.map (·.name) = s.newsgroups.map (·.name) := by
  rw [Store.archive, List.map_map]
  rfl

theorem find_board (numbered : s.Numbered) {g : Newsgroup} (member : g ∈ s.newsgroups)
    : find s.archive g.name = some (s.board g) := by
  have distinct : (s.archive.map (·.name)).Nodup := by
    rw [names_archive]
    exact numbered.names
  exact find_of_mem distinct (List.mem_map_of_mem member)

theorem find_archive_eq_none {name : Str} : find s.archive name = none ↔ ¬s.HasGroup name := by
  rw [find_eq_none]
  constructor
  · rintro other ⟨g, member, named⟩
    exact other (s.board g) (List.mem_map_of_mem member) named
  · rintro missing b member named
    obtain ⟨g, row, rfl⟩ := List.mem_map.mp member
    exact missing ⟨g, row, named⟩

theorem ngRows_withoutGroup {group name : Str} (other : name ≠ group)
    : (s.withoutGroup group).ngRows name = s.ngRows name := by
  simp only [Store.ngRows, Store.withoutGroup, List.filter_filter]
  refine List.filter_congr (fun n _ => ?_)
  by_cases named : n.ng = name
  · simp [named, other]
  · simp [named]

theorem archive_withoutGroup (readable : s.Readable) (group : Str)
    : (s.withoutGroup group).archive = Move.apply s.archive (.remove group) := by
  have numbered := numbered_delgroup readable.numbered group
  have boards (g : Newsgroup) (other : g.name ≠ group)
      : (s.withoutGroup group).board g = s.board g := by
    rw [Store.board, Store.board, ngRows_withoutGroup other]
    congr 1
    refine List.filterMap_congr (fun n row => ?_)
    obtain ⟨there, inGroup⟩ := List.mem_filter.mp row
    obtain ⟨i, is, -⟩ := readable.exists_issue there
    obtain ⟨member, named, file⟩ := (issue_eq_some_iff readable.numbered.msgids).mp is
    rw [is, issue_eq_some_iff numbered.msgids]
    refine ⟨List.mem_filter.mpr ⟨member, ?_⟩, named, file⟩
    have kept : n.ng ≠ group := beq_iff_eq.mp inGroup ▸ other
    rw [List.any_eq_true]
    exact ⟨n, List.mem_filter.mpr ⟨there, bne_iff_ne.mpr kept⟩, beq_iff_eq.mpr named.symm⟩
  calc (s.withoutGroup group).archive
    _ = (s.newsgroups.filter (·.name != group)).map s.board :=
      List.map_congr_left (fun g member => boards g (bne_iff_ne.mp (List.mem_filter.mp member).2))
    _ = Move.apply s.archive (.remove group) := by
      rw [Move.apply, Store.archive, List.filter_map]
      congr 1
      refine List.filter_congr (fun g _ => ?_)
      rw [bne, Bool.beq_eq_decide_eq, ← decide_not]
      rfl

theorem archive_withPflag (s : Store) (group : Str) (pflag : Char)
    : (s.withPflag group pflag).archive = Move.apply s.archive (.reflag group pflag) := by
  rw [Store.archive, Store.archive, Move.apply, Store.withPflag, List.map_map, List.map_map]
  refine List.map_congr_left (fun g _ => ?_)
  simp only [Function.comp_apply]
  by_cases named : g.name = group
  · rw [if_pos (beq_iff_eq.mpr named), if_pos (show (s.board g).name = group from named)]
    rfl
  · rw [if_neg (fun same => named (beq_iff_eq.mp same)),
      if_neg (show ¬(s.board g).name = group from named)]
    rfl

theorem archive_addgroup (numbered : s.Numbered) {name : Str} (missing : ¬s.HasGroup name)
    (pflag : Char)
    : Store.archive { s with newsgroups := s.newsgroups ++ [⟨name, pflag, 0⟩] }
      = Move.apply s.archive (.create name pflag) := by
  have rows := ngRows_of_missing numbered missing
  have empty : s.board ⟨name, pflag, 0⟩ = ⟨name, pflag, []⟩ := by
    rw [Store.board, rows]
    rfl
  calc Store.archive { s with newsgroups := s.newsgroups ++ [⟨name, pflag, 0⟩] }
    _ = (s.newsgroups ++ ([⟨name, pflag, 0⟩] : List Newsgroup)).map s.board := rfl
    _ = Move.apply s.archive (.create name pflag) := by
      rw [List.map_append, List.map_singleton, empty]
      rfl

/-- The moves that a step may make. -/
inductive SystemStep.Permits (ext : Extern) (s : Store)
    : SystemStep → Move Str Char Issue → Prop
  | post {cfg session line id article names} (stores : s.postStores cfg line.env = some (id, article))
    (distinct : names.Nodup)
    (named : ∀ name ∈ names, name ∈ article.groups)
    (allowed : ∀ name ∈ names, s.mayPost cfg session.curAuthUser name = true)
    (writable : ∀ name ∈ names, ∃ b, find s.archive name = some b ∧ b.flag = 'y')
    (fresh : ∀ b ∈ s.archive, ∀ i ∈ b.items, i.posting.msgid ≠ numberedId id article.host)
    : Permits ext s (.serve cfg session line)
        (.publish names ⟨article.row ext line.env id, article.body⟩)
  | addgroup {call flag} (mode : admAccepts call.args = some .ngcreate)
    (valid : validGroupName (argv call.args 2)) (known : flag = 'y' ∨ flag = 'n')
    (fresh : find s.archive (argv call.args 2) = none)
    : Permits ext s (.administer call) (.create (argv call.args 2) flag)
  | delgroup {call} (mode : admAccepts call.args = some .ngdelete)
    : Permits ext s (.administer call) (.remove (argv call.args 2))
  | modgroup {call flag} (mode : admAccepts call.args = some .ngmodify)
    : Permits ext s (.administer call) (.reflag (argv call.args 2) flag)

theorem postable_of_checked (numbered : s.Numbered) {article : Article}
    (passed : s.postRefusal article.groups = none) {name : Str} (member : name ∈ article.groups)
    : s.Postable name := by
  have unquoted : s.Unquoted := by
    intro g row quote
    exact absurd (List.all_eq_true.mp (numbered.valid g row) _ quote) (by decide)
  have tokens (newsgroup : Str) (token : newsgroup ∈ article.groups) : ',' ∉ newsgroup :=
    notMem_of_mem_strtok token
  rw [postRefusal_eq_firstRefusal unquoted tokens] at passed
  exact firstRefusal_eq_none_iff.mp passed name member

theorem moves_serve (readable : s.Readable) (cfg : Config) (session : Session) (line : Line)
    : (SystemStep.perform ext hashSalt s (.serve cfg session line)).archive = s.archive
      ∨ ∃ m, SystemStep.Permits ext s (.serve cfg session line) m
          ∧ (SystemStep.perform ext hashSalt s (.serve cfg session line)).archive
            = Move.apply s.archive m := by
  rcases SystemStep.perform_serve ext hashSalt s cfg session line with same | posted
  · rw [same]
    exact Or.inl rfl
  · rw [posted]
    rcases archive_post ext readable cfg line.env session.curAuthUser with
      same | ⟨id, article, names, stores, distinct, within, put⟩
    · exact Or.inl same
    · obtain ⟨passed, taken⟩ := postStores_checked stores
      have new := newId_of_nextId readable.numbered taken article.host
      refine Or.inr ⟨_, .post stores distinct ?_ ?_ ?_ ?_, put⟩
      · exact fun name member => (List.mem_filter.mp (within member)).1
      · exact fun name member => (List.mem_filter.mp (within member)).2
      · intro name member
        obtain ⟨g, row, rfl, flag⟩ :=
          postable_of_checked readable.numbered passed (List.mem_filter.mp (within member)).1
        exact ⟨s.board g, find_board readable.numbered row, flag⟩
      · intro b board i item same
        obtain ⟨g, row, rfl⟩ := List.mem_map.mp board
        obtain ⟨n, there, is⟩ := List.mem_filterMap.mp item
        have posting := (issue_eq_some_iff readable.numbered.msgids).mp is
        exact List.any_eq_false.mp new.posting i.posting posting.1 (beq_iff_eq.mpr same)

theorem moves_administer (readable : s.Readable) (call : AdmCall)
    : (admCall ext hashSalt s call).archive = s.archive
      ∨ ∃ m, SystemStep.Permits ext s (.administer call) m
          ∧ (admCall ext hashSalt s call).archive = Move.apply s.archive m := by
  have effect := admCall_effect ext hashSalt s call
  revert effect
  generalize admCall ext hashSalt s call = s'
  intro effect
  cases effect with
  | addgroup pflag mode valid fresh flag =>
      exact Or.inr ⟨_, .addgroup mode valid flag (find_archive_eq_none.mpr fresh),
        archive_addgroup readable.numbered fresh pflag⟩
  | delgroup mode => exact Or.inr ⟨_, .delgroup mode, archive_withoutGroup readable _⟩
  | modgroup pflag mode => exact Or.inr ⟨_, .modgroup mode, archive_withPflag s _ pflag⟩
  | _ => exact Or.inl rfl

/-- The server and its tool, read as boards. -/
def archiveMapping (ext : Extern) (hashSalt : Str)
    : Refinement.Mapping Store SystemStep Archive (Move Str Char Issue) where
  step := SystemStep.perform ext hashSalt
  move := Move.apply
  image := Store.archive
  Invariant := Store.Readable
  Admits := SystemStep.Hosted
  Permits := SystemStep.Permits ext
  keeps := fun readable hosted => SystemStep.keeps_readable readable hosted
  moves := by
    intro s step readable hosted
    cases step with
    | serve cfg session line => exact moves_serve readable cfg session line
    | administer call => exact moves_administer readable call

end Moves

section Runs

variable {ext : Extern} {hashSalt : Str} {s : Store}

/-- A newsgroup has as many articles as its high value says. -/
theorem length_items (readable : s.Readable) {g : Newsgroup} (member : g ∈ s.newsgroups)
    : (s.board g).items.length = g.high := by
  have rows : (s.ngRows g.name).length = g.high := by
    rw [← List.length_map (·.postnum), readable.numbered.numbers g member, List.length_range']
  rw [← rows]
  refine List.filterMap_length_eq_length.mpr (fun n row => ?_)
  obtain ⟨i, is, -⟩ := readable.exists_issue (List.mem_filter.mp row).1
  rw [is]
  rfl

/-- Only a call that deletes a newsgroup takes its board down. -/
theorem deletes_of_permits {step : SystemStep} {group : Str}
    (permits : SystemStep.Permits ext s step (.remove group))
    : step.Deletes group := by
  cases permits with
  | delgroup mode => exact ⟨mode, rfl⟩

end Runs

end WendzelNNTPd
