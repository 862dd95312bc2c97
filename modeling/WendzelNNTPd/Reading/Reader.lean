import WendzelNNTPd.Reading.Archive
import WendzelNNTPd.Reading.Listing

/-! The reading commands as questions to the archive. What the server remembers of a reader is the
selected newsgroup and the number of the current article; with these two, and the boards, every
reply to LIST, GROUP, ARTICLE, HEAD, BODY and STAT is determined, also while others post and
administer.
-/

namespace WendzelNNTPd

open CString Atomic Boards

-----------------------------------------------------------------------------------------
-- A reader of an archive
-----------------------------------------------------------------------------------------

/-- What is remembered of a reader. -/
structure Reader where
  selected : Option Str
  current : Option Nat
  deriving DecidableEq, Repr

/-- How an article is asked for. -/
inductive Locator
  | number (k : Nat)
  | messageId (msgid : Str)
  | current

inductive Request
  | list
  | group (name : Str)
  | read (cmdtype : Cmdtype) (address : Locator)

/-- What LIST says of a board. -/
def listedLine (b : Board Str Char Issue) : Str :=
  snprintf 1023
    (b.name ++ ' ' :: dec b.items.length ++ ' ' :: (if b.items.length = 0 then ['0'] else ['1'])
      ++ ' ' :: b.flag :: "\r\n".toList)

/-- What GROUP says of a board. -/
def selectedLine (b : Board Str Char Issue) : Str :=
  "211 ".toList ++ dec b.items.length
    ++ ' ' :: (if b.items.length = 0 then ['0'] else ['1'])
    ++ ' ' :: dec b.items.length ++ ' ' :: b.name ++ " group selected\r\n".toList

/-- An article as ARTICLE, HEAD, BODY and STAT show it. -/
def Issue.texts (i : Issue) (cmdtype : Cmdtype) (group : Str) (k : Nat) : List Str :=
  articleReply cmdtype ⟨i.posting.msgid, group, k⟩
    :: (cmdtype.headerTexts i.posting.header ++ cmdtype.bodyTexts i.body)

/-- The number of a message id on a board. -/
def numberOf (archive : Archive) (group msgid : Str) : Option Nat :=
  (find archive group).bind
    (fun b => (b.items.findIdx? (fun i => i.posting.msgid == msgid)).map (· + 1))

namespace Reader

/-- Article `k` of the selected board. -/
def fetch (who : Reader) (archive : Archive) (cmdtype : Cmdtype) (group : Str) (k : Nat)
    : List Str × Reader :=
  match k with
  | 0 => ([nosucharticle], who)
  | j + 1 =>
      match itemAt archive group j with
      | some i => (i.texts cmdtype group (j + 1), { who with current := some (j + 1) })
      | none => ([nosucharticle], who)

/-- The reply to a request, and the reader behind it. -/
def answer (who : Reader) (archive : Archive) (access : Str → Bool) : Request → List Str × Reader
  | .list =>
      (listReply :: (archive.filter (fun b => access b.name)).map listedLine ++ [periodEnd], who)
  | .group name =>
      match find archive name with
      | some b =>
          if access name then
            ([selectedLine b], ⟨some name, if b.items.length = 0 then none else some 1⟩)
          else ([nosuchgroup], who)
      | none => ([nosuchgroup], who)
  | .read cmdtype address =>
      match who.selected, address with
      | none, _ => ([nogroupselected], who)
      | some group, .number k => who.fetch archive cmdtype group k
      | some group, .messageId msgid =>
          match numberOf archive group msgid with
          | some k => who.fetch archive cmdtype group k
          | none => ([nosucharticle], who)
      | some group, .current =>
          match who.current with
          | some k => who.fetch archive cmdtype group k
          | none => ([noarticleselected], who)

end Reader

-----------------------------------------------------------------------------------------
-- The lines of a reader
-----------------------------------------------------------------------------------------

namespace Request

def word : Request → Str
  | .list => "list".toList
  | .group _ => "group".toList
  | .read cmdtype _ => cmdtype.word

def argument : Request → Option Str
  | .list => none
  | .group name => some name
  | .read _ (.number k) => some (dec k)
  | .read _ (.messageId msgid) => some msgid
  | .read _ .current => none

/-- The line is the request, with its word in any case. -/
def SentAs (request : Request) (recvbuf : Str) : Prop :=
  ∃ word : Str, word.map Char.toLower = request.word
    ∧ recvbuf = match request.argument with
      | some arg => readLine word arg
      | none => word ++ "\r\n".toList

/-- A name or a message id of one word without quotes; a message id ends with its only `>`. -/
def Plain : Request → Prop
  | .group name => IsWord name ∧ name ≠ [] ∧ '\'' ∉ name
  | .read _ (.messageId msgid) =>
      IsWord msgid ∧ msgid ≠ [] ∧ '\'' ∉ msgid ∧ artcltyp (some msgid) = some (.messageId msgid)
  | _ => True

end Request

section Lines

variable {request : Request} {line : Line}

theorem isKeyword_request (request : Request) : isKeyword request.word = true := by
  cases request with
  | list => decide
  | group name => exact groupKeyword
  | read cmdtype address => exact isKeyword_word cmdtype

/-- An argument that stands in a line as it is. -/
structure OneWord (arg : Str) : Prop where
  word : IsWord arg
  nonempty : arg ≠ []
  quoteless : '\'' ∉ arg

theorem Request.Plain.oneWord (plain : request.Plain) {arg : Str}
    (is : request.argument = some arg)
    : OneWord arg := by
  cases request with
  | list => cases is
  | group name =>
      cases is
      exact ⟨plain.1, plain.2.1, plain.2.2⟩
  | read cmdtype address =>
      cases address with
      | number k =>
          cases is
          have addresses := addresses_number ⟨[], [], k⟩
          exact ⟨addresses.word, addresses.nonempty, addresses.quoteless⟩
      | messageId msgid =>
          cases is
          exact ⟨plain.1, plain.2.1, plain.2.2.1⟩
      | current => cases is

theorem getSlinearg_keyword {key word : Str} (keyword : isKeyword key = true)
    (named : word.map Char.toLower = key)
    : getSlinearg word 1 = none := by
  have jumps (text : Str) (letters : ∀ c ∈ text, c ≠ ' ') : getSlinearg.jump text 0 = none := by
    induction text with
    | nil => rfl
    | cons c cs ih =>
        rw [getSlinearg.jump, if_neg (letters c (by simp))]
        exact ih (fun d member => letters d (List.mem_cons_of_mem _ member))
  have letters (c : Char) (member : c ∈ word) := word_letters keyword named member
  obtain ⟨c, cs, rfl, -⟩ := exists_cons keyword named
  obtain ⟨blank, cr, -⟩ := letters c (by simp)
  have first : ¬(c = ' ' ∨ c = '\r') := by simp [blank, cr]
  rw [getSlinearg, getSlinearg.scan, if_neg first]
  exact jumps cs (fun d member => (letters d (List.mem_cons_of_mem _ member)).1)

/-- What `do_command` makes of the line. -/
structure Request.Parsed (request : Request) (command : Str) : Prop where
  begins : caseEqPrefix request.word command = true
  argument : getSlinearg command 1 = request.argument
  kind : ∀ cmdtype address, request = .read cmdtype address → ∀ old, cmdtypeOf command old = cmdtype
  short : request = .list → command.length = 4

theorem Request.SentAs.parsed (sent : request.SentAs line.recvbuf) (plain : request.Plain)
    : request.Parsed line.command := by
  obtain ⟨word, named, is⟩ := sent
  have keyword := isKeyword_request request
  cases argument : request.argument with
  | some arg =>
      have one := plain.oneWord argument
      rw [argument] at is
      have command : line.command = word ++ ' ' :: arg := by
        rw [Line.command, is]
        exact command_readLine keyword named one.quoteless
      rw [command]
      refine ⟨begins_readLine keyword named _, ?_, ?_, ?_⟩
      · rw [argument]
        exact getSlinearg_readLine keyword named one.word one.nonempty
      · rintro cmdtype address rfl old
        exact cmdtypeOf_readLine named _ old
      · rintro rfl
        cases argument
  | none =>
      rw [argument] at is
      have command : line.command = word := by
        obtain ⟨c, cs, rfl, -⟩ := exists_cons keyword named
        have stripped : stripCr line.recvbuf = c :: cs := by
          rw [is]
          exact stripCr_line c cs
        rw [Line.command, stripped, sqlite3_unchanged_iff]
        exact fun quote => (word_letters keyword named quote).2.2 rfl
      rw [command]
      have begins := begins_readLine keyword named []
      rw [List.append_nil] at begins
      refine ⟨begins, ?_, ?_, ?_⟩
      · rw [argument]
        exact getSlinearg_keyword keyword named
      · rintro cmdtype address rfl old
        have kind := @cmdtypeOf_readLine cmdtype word named [] old
        rw [List.append_nil] at kind
        exact kind
      · rintro rfl
        rw [← List.length_map Char.toLower, named]
        rfl

end Lines

-----------------------------------------------------------------------------------------
-- The rows of an article
-----------------------------------------------------------------------------------------

section Rows

variable {ext : Extern} {cfg : Config} {s : Store} {n : Ngpost} {group : Str}

/-- The rows that the query of a command finds. -/
def Artcltyp.rows (ext : Extern) (s : Store) (group : Str) (article : Option Str)
    : Artcltyp → List Ngpost
  | .messageId param => (s.ngRows group).filter (·.msgid == param)
  | .number param => (s.ngRows group).filter (fun n => ext.postnumEq n.postnum param)
  | .current => (s.ngRows group).filter (fun n => ext.postnumEq n.postnum (article.getD []))

theorem dbArticle_rows (type : Artcltyp) (r : Session)
    : ((dbArticle cfg group type).run r).run (exec ext) s
      = (((type.rows ext s group r.selectedArticle).forM (articleCb cfg)).run r).run (exec ext) s := by
  cases type with
  | messageId param => exact (run_sql_bind ext s r (.selectNgpostsMsgid group param) _).trans rfl
  | number param => exact (run_sql_bind ext s r (.selectNgpostsPostnum group param) _).trans rfl
  | current =>
      exact (run_sql_bind ext s r
        (.selectNgpostsPostnum group (r.selectedArticle.getD [])) _).trans rfl

/-- The session in which an article is looked for. -/
def Session.seeking (r : Session) (cmdtype : Cmdtype) : Session :=
  { r with foundArticle := false, cmdtype := cmdtype }

/-- ARTICLE up to its query. -/
theorem docmdArticle_retrieve {command : Str} {type : Artcltyp} {r : Session}
    (selected : r.selectedGroup = some group)
    (addressed : artcltyp (getSlinearg command 1) = some type)
    (there : type = .current → r.selectedArticle ≠ none)
    : ((docmdArticle cfg command).run r).run (exec ext) s
      = ((docmdArticle.retrieve cfg group type).run (r.seeking (cmdtypeOf command r.cmdtype))).run
        (exec ext) s := by
  let asked := r.seeking (cmdtypeOf command r.cmdtype)
  refine (run_bind_ok (rfl : ((modify _ : Srv PUnit).run r).run (exec ext) s
    = (.ok (⟨⟩, asked), s))).trans ?_
  refine (run_bind_ok (rfl : ((get : Srv Session).run asked).run (exec ext) s
    = (.ok (asked, asked), s))).trans ?_
  have group' : asked.selectedGroup = some group := selected
  rw [group', addressed]
  cases type with
  | messageId param => rfl
  | number param => rfl
  | current =>
      have some' : ¬asked.selectedArticle = none := there rfl
      dsimp only
      rw [if_neg some']

theorem retrieve_found (inFile : cfg.messageBodyInDb = false) {type : Artcltyp} {r : Session}
    (rows : type.rows ext s n.ng r.selectedArticle = [n]) {header body : Str}
    (finds : s.Finds n header body) (nonempty : body ≠ []) (cmdtype : Cmdtype)
    : ((docmdArticle.retrieve cfg n.ng type).run (r.seeking cmdtype)).run (exec ext) s
      = (.ok ((), r.behindRead cmdtype n header body), s) := by
  have one : ((([n] : List Ngpost).forM (articleCb cfg)).run (r.seeking cmdtype)).run (exec ext) s
      = (.ok ((), r.behindRead cmdtype n header body), s) :=
    (run_bind_ok (articleCb_run finds inFile nonempty (r.seeking cmdtype))).trans rfl
  have same : type.rows ext s n.ng (r.seeking cmdtype).selectedArticle = [n] := rows
  have found : ((dbArticle cfg n.ng type).run (r.seeking cmdtype)).run (exec ext) s
      = (.ok ((), r.behindRead cmdtype n header body), s) := by
    rw [dbArticle_rows, same]
    exact one
  exact (run_bind_ok found).trans rfl

theorem retrieve_missed {type : Artcltyp} {r : Session}
    (rows : type.rows ext s group r.selectedArticle = []) (cmdtype : Cmdtype)
    : ((docmdArticle.retrieve cfg group type).run (r.seeking cmdtype)).run (exec ext) s
      = (.ok ((), (r.seeking cmdtype).told [nosucharticle]), s) := by
  have same : type.rows ext s group (r.seeking cmdtype).selectedArticle = [] := rows
  have found : ((dbArticle cfg group type).run (r.seeking cmdtype)).run (exec ext) s
      = (.ok ((), r.seeking cmdtype), s) := by
    rw [dbArticle_rows, same]
    rfl
  exact (run_bind_ok found).trans rfl

/-- Numbers are told apart in a newsgroup. -/
theorem distinct_numbers (numbered : s.Numbered) (group : Str)
    : ((s.ngRows group).map (·.postnum)).Nodup := by
  by_cases there : s.HasGroup group
  · obtain ⟨g, member, rfl⟩ := there
    rw [numbered.numbers g member]
    exact List.nodup_range'
  · rw [ngRows_of_missing numbered there]
    exact List.nodup_nil

theorem rows_of_number (compares : ComparesNumbers ext) (numbered : s.Numbered) (group : Str) (k : Nat)
    : (s.ngRows group).filter (fun n => ext.postnumEq n.postnum (dec (k + 1)))
      = (s.ngRows group)[k]?.toList := by
  cases at' : (s.ngRows group)[k]? with
  | some n =>
      obtain ⟨row, number⟩ := numbered.row_iff.mp at'
      rw [← number]
      exact (List.filter_congr (fun m _ => compares m.postnum n.postnum)).trans
        (filter_of_key (distinct_numbers numbered group) row)
  | none =>
      rw [Option.toList_none, List.filter_eq_nil_iff]
      intro m row is
      rw [compares, decide_eq_true_eq] at is
      rw [numbered.row_iff.mpr ⟨row, is⟩] at at'
      cases at'

theorem rows_of_zero (compares : ComparesNumbers ext) (numbered : s.Numbered) (group : Str)
    : (s.ngRows group).filter (fun n => ext.postnumEq n.postnum (dec 0)) = [] := by
  rw [List.filter_eq_nil_iff]
  intro n row is
  rw [compares, decide_eq_true_eq] at is
  obtain ⟨j, at'⟩ := List.getElem?_of_mem row
  have number := (numbered.row_iff.mp at').2
  omega

/-- The number of a message id is that of its row. -/
theorem numberOf_archive (readable : s.Readable) (group msgid : Str)
    : numberOf s.archive group msgid
      = ((s.ngRows group).findIdx? (fun n => n.msgid == msgid)).map (· + 1) := by
  have items (g : Newsgroup)
      : (s.board g).items.map (fun i => i.posting.msgid) = (s.ngRows g.name).map (·.msgid) := by
    refine List.ext_getElem? (fun k => ?_)
    rw [List.getElem?_map, List.getElem?_map]
    have at' : (s.board g).items[k]? = (s.ngRows g.name)[k]?.bind s.issue :=
      getElem?_items readable g.name k
    rw [at']
    cases row : (s.ngRows g.name)[k]? with
    | none => rfl
    | some n =>
        have member := (List.mem_filter.mp (List.mem_of_getElem? row)).1
        obtain ⟨i, is, -⟩ := readable.exists_issue member
        have named := ((issue_eq_some_iff readable.numbered.msgids).mp is).2.1
        exact (congrArg (Option.map _) is).trans (congrArg some named)
  have byId (l : List Issue)
      : l.findIdx? (fun i => i.posting.msgid == msgid)
        = (l.map (fun i => i.posting.msgid)).findIdx? (· == msgid) := by
    rw [List.findIdx?_map]
    rfl
  have rowsById (l : List Ngpost)
      : l.findIdx? (fun n => n.msgid == msgid) = (l.map (·.msgid)).findIdx? (· == msgid) := by
    rw [List.findIdx?_map]
    rfl
  rw [numberOf, find_archive]
  cases found : s.newsgroups.find? (fun g => decide (g.name = group)) with
  | none =>
      have missing : ¬s.HasGroup group := by
        rintro ⟨g, member, named⟩
        exact List.find?_eq_none.mp found g member (decide_eq_true named)
      rw [ngRows_of_missing readable.numbered missing]
      rfl
  | some g =>
      have named : g.name = group := of_decide_eq_true (List.find?_some found :)
      rw [← named, rowsById, ← items g, ← byId]
      rfl

theorem rows_of_messageId (readable : s.Readable) (group msgid : Str)
    : (s.ngRows group).filter (·.msgid == msgid)
      = ((s.ngRows group).findIdx? (fun n => n.msgid == msgid)).elim []
          (fun k => (s.ngRows group)[k]?.toList) := by
  cases at' : (s.ngRows group).findIdx? (fun n => n.msgid == msgid) with
  | none =>
      rw [Option.elim_none, List.filter_eq_nil_iff]
      intro n row same
      rw [List.findIdx?_eq_none_iff.mp at' n row] at same
      cases same
  | some k =>
      obtain ⟨inside, named, -⟩ := List.findIdx?_eq_some_iff_getElem.mp at'
      have row : (s.ngRows group)[k]? = some (s.ngRows group)[k] := List.getElem?_eq_getElem inside
      obtain ⟨member, inGroup⟩ := List.mem_filter.mp (List.getElem_mem inside)
      obtain ⟨i, -, -, finds⟩ := readable.exists_issue member
      have only := row_of_msgid finds
      rw [beq_iff_eq.mp inGroup, beq_iff_eq.mp named] at only
      rw [only, Option.elim_some, row]
      rfl

/-- The rows of a number. -/
def Store.rowsAt (s : Store) (group : Str) : Nat → List Ngpost
  | 0 => []
  | k + 1 => (s.ngRows group)[k]?.toList

theorem rowsAt_number (compares : ComparesNumbers ext) (numbered : s.Numbered) (group : Str) (k : Nat)
    : (s.ngRows group).filter (fun n => ext.postnumEq n.postnum (dec k)) = s.rowsAt group k := by
  cases k with
  | zero => exact rows_of_zero compares numbered group
  | succ k => exact rows_of_number compares numbered group k

theorem rowsAt_messageId (readable : s.Readable) (group msgid : Str)
    : (s.ngRows group).filter (·.msgid == msgid)
      = (numberOf s.archive group msgid).elim [] (s.rowsAt group) := by
  rw [rows_of_messageId readable, numberOf_archive readable]
  cases (s.ngRows group).findIdx? (fun n => n.msgid == msgid) with
  | none => rfl
  | some k => rfl

end Rows

-----------------------------------------------------------------------------------------
-- The session of a reader
-----------------------------------------------------------------------------------------

/-- The server remembers the reader in this session. -/
structure Session.StandsFor (cfg : Config) (who : Reader) (r : Session) : Prop
    extends r.Commands cfg where
  selected : r.selectedGroup = who.selected
  article : r.selectedArticle = who.current.map dec

/-- A command has replied and left the rest of the session alone. -/
structure Session.RepliedAs (r r' : Session) (reply : List Str × Reader) : Prop where
  texts : r'.curstring.map (·.text) = r.curstring.map (·.text) ++ reply.1
  selected : r'.selectedGroup = reply.2.selected
  article : r'.selectedArticle = reply.2.current.map dec
  user : r'.curAuthUser = r.curAuthUser
  authenticated : r'.authIsThere = r.authIsThere
  tlsActive : r'.tlsActive = r.tlsActive
  switchToTls : r'.switchToTls = r.switchToTls
  sent : r'.sent = r.sent

section Answers

variable {ext : Extern} {cfg : Config} {env : Env} {s : Store} {group : Str} {r : Session}
  {who : Reader} {command : Str}

theorem Session.StandsFor.told (stands : r.StandsFor cfg who) (cmdtype : Cmdtype) (texts : List Str)
    : r.RepliedAs ((r.seeking cmdtype).told texts) (texts, who) where
  texts := by
    simp only [Session.told, Session.seeking, List.map_append, List.map_map]
    exact congrArg (_ ++ ·) (List.map_id texts)
  selected := stands.selected
  article := stands.article
  user := rfl
  authenticated := rfl
  tlsActive := rfl
  switchToTls := rfl
  sent := rfl

/-- What is found is what the archive has at that number. -/
theorem retrieve_fetches (readable : s.Readable) (inFile : cfg.messageBodyInDb = false)
    (stands : r.StandsFor cfg who) (selected : who.selected = some group) {type : Artcltyp} {k : Nat}
    (rows : type.rows ext s group r.selectedArticle = s.rowsAt group k) (cmdtype : Cmdtype)
    : ∃ r', (((docmdArticle.retrieve cfg group type).run (r.seeking cmdtype)).run (exec ext) s
          = (.ok ((), r'), s))
        ∧ r.RepliedAs r' (who.fetch s.archive cmdtype group k) := by
  cases k with
  | zero => exact ⟨_, retrieve_missed rows cmdtype, stands.told cmdtype [nosucharticle]⟩
  | succ j =>
      rw [Reader.fetch, readable.itemAt]
      cases at' : (s.ngRows group)[j]? with
      | none =>
          rw [Store.rowsAt, at'] at rows
          exact ⟨_, retrieve_missed rows cmdtype, stands.told cmdtype [nosucharticle]⟩
      | some n =>
          rw [Store.rowsAt, at'] at rows
          obtain ⟨row, number⟩ := readable.numbered.row_iff.mp at'
          obtain ⟨member, inGroup⟩ := List.mem_filter.mp row
          obtain ⟨i, is, nonempty, finds⟩ := readable.exists_issue member
          have named := ((issue_eq_some_iff readable.numbered.msgids).mp is).2.1
          obtain rfl : n.ng = group := beq_iff_eq.mp inGroup
          have whole : (⟨i.posting.msgid, n.ng, j + 1⟩ : Ngpost) = n := by
            rw [named, ← number]
          rw [Option.bind_some, is]
          refine ⟨_, retrieve_found inFile rows finds nonempty cmdtype, ?_⟩
          refine
            { texts := ?_
              selected := stands.selected
              article := congrArg (fun k => some (dec k)) number
              user := rfl
              authenticated := rfl
              tlsActive := rfl
              switchToTls := rfl
              sent := rfl }
          simp only [Session.behindRead, Session.sending, List.map_append, List.map_map, Issue.texts,
            whole]
          exact congrArg (_ ++ ·) (List.map_id _)

theorem read_answered (compares : ComparesNumbers ext) (readable : s.Readable)
    (inFile : cfg.messageBodyInDb = false) (stands : r.StandsFor cfg who) {cmdtype : Cmdtype}
    {address : Locator} (plain : (Request.read cmdtype address).Plain)
    (argument : getSlinearg command 1 = (Request.read cmdtype address).argument)
    (kind : ∀ old, cmdtypeOf command old = cmdtype) (access : Str → Bool)
    : ∃ r', (((docmdArticle cfg command).run r).run (exec ext) s = (.ok ((), r'), s))
        ∧ r.RepliedAs r' (who.answer s.archive access (.read cmdtype address)) := by
  have selected := stands.selected
  cases is : who.selected with
  | none =>
      rw [is] at selected
      refine ⟨(r.seeking cmdtype).told [nogroupselected], ?_, ?_⟩
      · have asked : ((docmdArticle cfg command).run r).run (exec ext) s
            = (.ok ((), (r.seeking (cmdtypeOf command r.cmdtype)).told [nogroupselected]), s) := by
          unfold docmdArticle
          refine (run_bind_ok (rfl : ((modify _ : Srv PUnit).run r).run (exec ext) s
            = (.ok (⟨⟩, r.seeking (cmdtypeOf command r.cmdtype)), s))).trans ?_
          refine (run_bind_ok (rfl : ((get : Srv Session).run _).run (exec ext) s
            = (.ok (r.seeking (cmdtypeOf command r.cmdtype),
                r.seeking (cmdtypeOf command r.cmdtype)), s))).trans ?_
          have none' : (r.seeking (cmdtypeOf command r.cmdtype)).selectedGroup = none := selected
          rw [none']
          rfl
        rw [kind] at asked
        exact asked
      · have reply : who.answer s.archive access (.read cmdtype address) = ([nogroupselected], who) := by
          simp only [Reader.answer, is]
        rw [reply]
        exact stands.told cmdtype [nogroupselected]
  | some group =>
      rw [is] at selected
      have retrieves {type : Artcltyp} {k : Nat} (addressed : artcltyp (getSlinearg command 1) = some type)
          (there : type = .current → r.selectedArticle ≠ none)
          (rows : type.rows ext s group r.selectedArticle = s.rowsAt group k)
          : ∃ r', (((docmdArticle cfg command).run r).run (exec ext) s = (.ok ((), r'), s))
              ∧ r.RepliedAs r' (who.fetch s.archive cmdtype group k) := by
        obtain ⟨r', ran, answered⟩ :=
          @retrieve_fetches ext cfg s group r who readable inFile stands is type k rows cmdtype
        refine ⟨r', ?_, answered⟩
        rw [docmdArticle_retrieve selected addressed there, kind]
        exact ran
      cases address with
      | number k =>
          have addressed : artcltyp (getSlinearg command 1) = some (.number (dec k)) := by
            rw [argument]
            exact artcltyp_dec k
          obtain ⟨r', ran, answered⟩ := retrieves addressed (fun same => by cases same)
            (rowsAt_number compares readable.numbered group k)
          refine ⟨r', ran, ?_⟩
          simp only [Reader.answer, is]
          exact answered
      | messageId msgid =>
          have addressed : artcltyp (getSlinearg command 1) = some (.messageId msgid) := by
            rw [argument]
            exact plain.2.2.2
          have rows : (Artcltyp.messageId msgid).rows ext s group r.selectedArticle
              = (numberOf s.archive group msgid).elim [] (s.rowsAt group) :=
            rowsAt_messageId readable group msgid
          simp only [Reader.answer, is]
          cases number : numberOf s.archive group msgid with
          | none =>
              rw [number] at rows
              obtain ⟨r', ran, answered⟩ := @retrieves _ 0 addressed (fun same => by cases same) rows
              exact ⟨r', ran, answered⟩
          | some k =>
              rw [number] at rows
              obtain ⟨r', ran, answered⟩ := @retrieves _ k addressed (fun same => by cases same) rows
              exact ⟨r', ran, answered⟩
      | current =>
          have addressed : artcltyp (getSlinearg command 1) = some .current := by
            rw [argument]
            rfl
          have article := stands.article
          simp only [Reader.answer, is]
          cases current : who.current with
          | none =>
              rw [current, Option.map_none] at article
              refine ⟨(r.seeking cmdtype).told [noarticleselected], ?_, stands.told _ _⟩
              have asked : ((docmdArticle cfg command).run r).run (exec ext) s
                  = (.ok ((), (r.seeking (cmdtypeOf command r.cmdtype)).told [noarticleselected]),
                      s) := by
                unfold docmdArticle
                refine (run_bind_ok (rfl : ((modify _ : Srv PUnit).run r).run (exec ext) s
                  = (.ok (⟨⟩, r.seeking (cmdtypeOf command r.cmdtype)), s))).trans ?_
                refine (run_bind_ok (rfl : ((get : Srv Session).run _).run (exec ext) s
                  = (.ok (r.seeking (cmdtypeOf command r.cmdtype),
                      r.seeking (cmdtypeOf command r.cmdtype)), s))).trans ?_
                have group' : (r.seeking (cmdtypeOf command r.cmdtype)).selectedGroup = some group :=
                  selected
                have none' : (r.seeking (cmdtypeOf command r.cmdtype)).selectedArticle = none :=
                  article
                rw [group', addressed]
                dsimp only
                rw [if_pos none']
                rfl
              rw [kind] at asked
              exact asked
          | some k =>
              rw [current, Option.map_some] at article
              have rows : Artcltyp.current.rows ext s group r.selectedArticle = s.rowsAt group k := by
                rw [article]
                exact rowsAt_number compares readable.numbered group k
              exact retrieves addressed (fun _ => by rw [article]; exact Option.some_ne_none _) rows

/-- GROUP takes the first article, if there is one. -/
theorem firstOf_eq (numbered : s.Numbered) {g : Newsgroup} (member : g ∈ s.newsgroups)
    : s.firstOf g.name = if g.high = 0 then none else some (dec 1) := by
  have least : s.minPostnum g.name = (List.range' 1 g.high).min? := by
    rw [Store.minPostnum, numbered.numbers g member]
  cases high : g.high with
  | zero =>
      rw [high] at least
      have nothing : s.minPostnum g.name = none := least
      have rows : s.ngposts.filter (fun n => s.minPostnum g.name == some n.postnum) = [] := by
        rw [List.filter_eq_nil_iff, nothing]
        exact fun n _ same => by cases same
      rw [Store.firstOf, rows]
      rfl
  | succ j =>
      rw [high] at least
      have one : s.minPostnum g.name = some 1 := by
        rw [least, List.min?_eq_some_iff]
        exact ⟨List.mem_range'_1.mpr (by omega), fun k inside => (List.mem_range'_1.mp inside).1⟩
      have first : 1 ∈ (s.ngRows g.name).map (·.postnum) := by
        rw [numbered.numbers g member, high]
        exact List.mem_range'_1.mpr (by omega)
      obtain ⟨n, row, number⟩ := List.mem_map.mp first
      have there : n ∈ s.ngposts.filter (fun n => s.minPostnum g.name == some n.postnum) := by
        refine List.mem_filter.mpr ⟨(List.mem_filter.mp row).1, ?_⟩
        rw [one, number]
        rfl
      obtain ⟨m, last⟩ : ∃ m, (s.ngposts.filter (fun n => s.minPostnum g.name == some n.postnum)).getLast?
          = some m := ⟨_, List.getLast?_eq_some_getLast (List.ne_nil_of_mem there)⟩
      have same := (List.mem_filter.mp (List.mem_of_getLast? last)).2
      rw [one, beq_iff_eq, Option.some_inj] at same
      rw [Store.firstOf, last, Option.map_some, if_neg (by omega), numberText, ← same]

theorem selectedLine_board (readable : s.Readable) {g : Newsgroup} (member : g ∈ s.newsgroups)
    : selectedLine (s.board g) = groupLine g := by
  rw [groupLine_eq (readable.numbered.limit g member), selectedLine, length_items readable member]
  rfl

theorem group_answered (readable : s.Readable) (stands : r.StandsFor cfg who) {name : Str}
    (argument : getSlinearg command 1 = some name)
    : ∃ r', (((docmdGroup cfg command).run r).run (exec ext) s = (.ok ((), r'), s))
        ∧ r.RepliedAs r' (who.answer s.archive (s.mayPost cfg r.curAuthUser) (.group name)) := by
  have refused (hidden : ∀ g ∈ s.visible cfg r.curAuthUser, g.name ≠ name)
      : ∃ r', (((docmdGroup cfg command).run r).run (exec ext) s = (.ok ((), r'), s))
          ∧ r.RepliedAs r' ([nosuchgroup], who) := by
    obtain ⟨found, ran⟩ := @docmdGroup_refused ext cfg s command name argument r hidden
    have told := stands.told r.cmdtype [nosuchgroup]
    exact ⟨_, ran, told.texts, told.selected, told.article, rfl, rfl, rfl, rfl, rfl⟩
  rw [Reader.answer, find_archive]
  cases found : s.newsgroups.find? (fun g => decide (g.name = name)) with
  | none =>
      refine refused (fun g member named => ?_)
      exact List.find?_eq_none.mp found g (List.mem_filter.mp member).1 (decide_eq_true named)
  | some g =>
      obtain rfl : g.name = name := of_decide_eq_true (List.find?_some found :)
      have member := List.mem_of_find?_eq_some found
      rw [Option.map_some]
      dsimp only
      by_cases may : s.mayPost cfg r.curAuthUser g.name = true
      · rw [if_pos may]
        have only : s.newsgroups.filter (·.name == g.name) = [g] := by
          rw [← filter_of_key readable.numbered.names member]
          exact List.filter_congr (fun other _ => Bool.beq_eq_decide_eq _ _)
        have allowed (acl : (cfg.useAuth && cfg.useAcl) = true)
            : s.userAllows r.curAuthUser g.name = true := by
          rw [Store.mayPost, if_pos acl] at may
          exact may
        refine ⟨_, docmdGroup_entered only argument allowed, ?_, rfl, ?_, rfl, rfl, rfl, rfl, rfl⟩
        · rw [selectedLine_board readable member]
          exact List.map_append
        · have count : (s.board g).items.length = g.high := length_items readable member
          rw [count]
          refine (firstOf_eq readable.numbered member).trans ?_
          split
          · rfl
          · rfl
      · rw [if_neg may]
        refine refused (fun other shown named => may ?_)
        rw [← named]
        exact (List.mem_filter.mp shown).2

theorem listedLine_board (readable : s.Readable) {g : Newsgroup} (member : g ∈ s.newsgroups)
    : listLine ext .list none g = some (listedLine (s.board g)) := by
  have limit := readable.numbered.limit g member
  have small : asInt32 g.high = g.high := by
    rw [asInt32, Nat.mod_eq_of_lt (by omega), if_pos (by omega)]
  have zero : ((g.high : Int) = 0) = (g.high = 0) := by
    rw [Int.natCast_eq_zero]
  have count : (s.board g).items.length = g.high := length_items readable member
  unfold listLine listedLine
  simp only [count, small, zero]
  rfl

theorem listTexts_archive (readable : s.Readable) (user : Option Str)
    : listTexts ext cfg s user .list listReply none
      = listReply
          :: (s.archive.filter (fun b => s.mayPost cfg user b.name)).map listedLine
          ++ [periodEnd] := by
  have lines : (s.visible cfg user).filterMap (listLine ext .list none)
      = (s.visible cfg user).map (fun g => listedLine (s.board g)) := by
    rw [← List.filterMap_eq_map]
    exact List.filterMap_congr (fun g shown => listedLine_board readable (List.mem_filter.mp shown).1)
  have boards : s.archive.filter (fun b => s.mayPost cfg user b.name)
      = (s.visible cfg user).map s.board := by
    rw [Store.archive, List.filter_map]
    rfl
  rw [listTexts, lines, boards, List.map_map]
  rfl

theorem list_answered (readable : s.Readable) (stands : r.StandsFor cfg who)
    : ∃ r', (((docmdList.list ext cfg .list listReply none).run r).run (exec ext) s
          = (.ok ((), r'), s))
        ∧ r.RepliedAs r' (who.answer s.archive (s.mayPost cfg r.curAuthUser) .list) := by
  refine ⟨_, docmdListList_run listReply none r, ?_⟩
  rw [listTexts_archive readable, Reader.answer]
  have told := stands.told r.cmdtype (listReply
    :: (s.archive.filter (fun b => s.mayPost cfg r.curAuthUser b.name)).map listedLine ++ [periodEnd])
  exact ⟨told.texts, told.selected, told.article, rfl, rfl, rfl, rfl, rfl⟩

theorem answer_ne_nil (archive : Archive) (access : Str → Bool) (request : Request)
    : (who.answer archive access request).1 ≠ [] := by
  have fetched (cmdtype : Cmdtype) (group : Str) (k : Nat)
      : (who.fetch archive cmdtype group k).1 ≠ [] := by
    unfold Reader.fetch
    repeat' split
    all_goals exact List.cons_ne_nil _ _
  unfold Reader.answer
  repeat' split
  all_goals first | exact List.cons_ne_nil _ _ | exact fetched _ _ _

/-- A longer word does not begin a line. -/
theorem not_begins_of_lt {key text : Str} (longer : text.length < key.length)
    : caseEqPrefix key text = false := by
  rw [Bool.eq_false_iff]
  intro begins
  exact absurd (caseEqPrefix_iff.mp begins).1 (Nat.not_le.mpr longer)

/-- The command of a request, on a session without replies. -/
theorem doCommand_answers (compares : ComparesNumbers ext) (readable : s.Readable)
    (inFile : cfg.messageBodyInDb = false) (stands : r.StandsFor cfg who) {request : Request}
    (parsed : request.Parsed command) (plain : request.Plain)
    : ∃ r', (((doCommand ext cfg env command).run r).run (exec ext) s = (.ok ((), r'), s))
        ∧ r.RepliedAs r' (who.answer s.archive (s.mayPost cfg r.curAuthUser) request) := by
  cases request with
  | list =>
      obtain ⟨r', ran, answered⟩ := @list_answered ext cfg s r who readable stands
      have four := parsed.short rfl
      have asks : AsksForList command .list listReply none :=
        .list parsed.begins (not_begins_of_lt (by rw [four]; decide))
          (not_begins_of_lt (by rw [four]; decide)) (not_begins_of_lt (by rw [four]; decide))
      refine ⟨r', ?_, answered⟩
      rw [doCommand_list asks stands.authenticated stands.secured]
      exact ran
  | group name =>
      obtain ⟨r', ran, answered⟩ :=
        @group_answered ext cfg s r who command readable stands name parsed.argument
      refine ⟨r', ?_, answered⟩
      rw [doCommand_group parsed.begins stands.authenticated stands.secured, docmdGroup_sqlite3]
      exact ran
  | read cmdtype address =>
      obtain ⟨r', ran, answered⟩ := @read_answered ext cfg s r who command compares readable inFile
        stands cmdtype address plain parsed.argument (parsed.kind cmdtype address rfl)
        (s.mayPost cfg r.curAuthUser)
      refine ⟨r', ?_, answered⟩
      have begins : caseEqPrefix cmdtype.word command = true := parsed.begins
      rw [doCommand_read begins stands.authenticated stands.secured]
      exact ran

/-- A line that is a request gets the reply of the archive, and the session stands for the reader
behind it. -/
theorem program_answers (compares : ComparesNumbers ext) (readable : s.Readable)
    (inFile : cfg.messageBodyInDb = false) (stands : r.StandsFor cfg who) {request : Request}
    {line : Line} (sent : request.SentAs line.recvbuf) (plain : request.Plain)
    : ∃ r', ((Connection.program ext cfg ⟨r, s⟩ line).run (exec ext) s = (.ok ((), r'), s))
        ∧ r'.StandsFor cfg (who.answer s.archive (s.mayPost cfg r.curAuthUser) request).2
        ∧ r'.curAuthUser = r.curAuthUser
        ∧ r'.sent.map (·.text) = (who.answer s.archive (s.mayPost cfg r.curAuthUser) request).1 := by
  let fresh : Session := { r with sent := [] }
  have stands' : fresh.StandsFor cfg who :=
    ⟨⟨stands.idle, stands.authenticated, stands.secured, stands.settled⟩, stands.selected,
      stands.article⟩
  obtain ⟨r', ran, answered⟩ := @doCommand_answers ext cfg line.env s fresh who line.command compares
    readable inFile stands' request (sent.parsed plain) plain
  have texts : r'.curstring.map (·.text)
      = (who.answer s.archive (s.mayPost cfg r.curAuthUser) request).1 := by
    rw [answered.texts, stands'.idle]
    rfl
  have replied : r'.curstring ≠ [] := by
    intro nothing
    rw [nothing] at texts
    exact answer_ne_nil _ _ _ texts.symm
  refine ⟨_, @program_of_doCommand ext cfg ⟨r, s⟩ line r' s stands.settled ran replied, ?_,
    answered.user, ?_⟩
  · refine ⟨⟨rfl, ?_, ?_, answered.switchToTls.trans stands.settled⟩, answered.selected,
      answered.article⟩
    · rw [← stands.authenticated]
      exact congrArg (· || !cfg.useAuth) answered.authenticated
    · rw [← stands.secured]
      exact congrArg (fun active => !active && cfg.tlsIsMandatory) answered.tlsActive
  · rw [← texts]
    exact congrArg (List.map (·.text)) (congrArg (· ++ r'.curstring) answered.sent)

end Answers

-----------------------------------------------------------------------------------------
-- A reader among others
-----------------------------------------------------------------------------------------

/-- A request, and what others do before it arrives. -/
structure Asking where
  before : List SystemStep
  request : Request
  line : Line

/-- The replies that a session is sent, line by line. -/
def readings (ext : Extern) (cfg : Config) (hashSalt : Str)
    : Session → Store → List Asking → List (List Piece)
  | _, _, [] => []
  | r, s, asking :: rest =>
      let conn : Connection := ⟨r, performAll ext hashSalt s asking.before⟩
      conn.reply ext cfg asking.line
        :: ((conn.serve ext cfg asking.line).map
          (fun next => readings ext cfg hashSalt next.session next.store rest)).getD []

/-- What there is to read when the requests arrive: the boards, and which ones the user may see. -/
def moments (ext : Extern) (cfg : Config) (hashSalt : Str) (user : Option Str)
    : Store → List Asking → List (Archive × (Str → Bool) × Request)
  | _, [] => []
  | s, asking :: rest =>
      let now := performAll ext hashSalt s asking.before
      (now.archive, now.mayPost cfg user, asking.request) :: moments ext cfg hashSalt user now rest

/-- The replies of archives that change between the requests. -/
def Reader.answers : Reader → List (Archive × (Str → Bool) × Request) → List (List Str)
  | _, [] => []
  | who, (archive, access, request) :: rest =>
      (who.answer archive access request).1 :: answers (who.answer archive access request).2 rest

theorem readable_performAll {ext : Extern} {hashSalt : Str} {s : Store} (readable : s.Readable)
    {steps : List SystemStep} (hosted : ∀ step ∈ steps, step.Hosted)
    : (performAll ext hashSalt s steps).Readable :=
  (archiveMapping ext hashSalt).invariant_run readable hosted

/-- The replies of a session that stands for a reader.
Witness: induction on the requests; each leaves a session that stands for the reader behind it.
-/
theorem readings_eq_answers {ext : Extern} (compares : ComparesNumbers ext) {hashSalt : Str}
    {cfg : Config} (inFile : cfg.messageBodyInDb = false) {askings : List Asking}
    (asked : ∀ asking ∈ askings, asking.request.SentAs asking.line.recvbuf ∧ asking.request.Plain)
    (hosted : ∀ asking ∈ askings, ∀ step ∈ asking.before, step.Hosted) {s : Store}
    (readable : s.Readable) {who : Reader} {r : Session} (stands : r.StandsFor cfg who)
    : (readings ext cfg hashSalt r s askings).map (·.map (·.text))
      = who.answers (moments ext cfg hashSalt r.curAuthUser s askings) := by
  induction askings generalizing s who r with
  | nil => rfl
  | cons asking rest ih =>
      obtain ⟨sentAs, plain⟩ := asked asking (by simp)
      have now := @readable_performAll ext hashSalt s readable asking.before (hosted asking (by simp))
      obtain ⟨r', ran, stands', user, sent⟩ :=
        @program_answers ext cfg (performAll ext hashSalt s asking.before) r who compares now inFile
          stands asking.request asking.line sentAs plain
      have reply : Connection.reply ext cfg ⟨r, performAll ext hashSalt s asking.before⟩ asking.line
          = r'.sent := by
        rw [Connection.reply, ran]
      have serve : Connection.serve ext cfg ⟨r, performAll ext hashSalt s asking.before⟩ asking.line
          = some ⟨r', performAll ext hashSalt s asking.before⟩ := by
        rw [Connection.serve, ran]
      have further := ih (fun other member => asked other (List.mem_cons_of_mem _ member))
        (fun other member => hosted other (List.mem_cons_of_mem _ member)) now stands'
      rw [user] at further
      simp only [readings, moments, Reader.answers, reply, serve, Option.map_some, Option.getD_some,
        List.map_cons, sent, further]

/-- LIST, then GROUP while another newsgroup is added, STAT and BODY of a number that is not there. -/
def sampleAskings : List Asking :=
  [⟨[], .list, ⟨"LIST\r\n".toList, replyEnv⟩⟩,
    ⟨[.administer (addGroupCall "b".toList)], .group "a".toList, ⟨"Group a\r\n".toList, replyEnv⟩⟩,
    ⟨[], .read .stat .current, ⟨"stat\r\n".toList, replyEnv⟩⟩,
    ⟨[], .read .body (.number 2), ⟨"BODY 2\r\n".toList, replyEnv⟩⟩]

end WendzelNNTPd
