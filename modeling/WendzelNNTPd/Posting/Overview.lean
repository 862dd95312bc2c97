import WendzelNNTPd.Posting.AllOrNothing
import WendzelNNTPd.Posting.InsertText
import WendzelNNTPd.Posting.HeaderText

/-! The lines of XOVER. Number, date, message id and the two counts are made by the server;
Subject and From come from columns that POST filled, References and Xref are cut out of the
stored header. POST looks for TAB in one Subject and one From line only, so that a line has its
nine fields exactly if the article has no TAB in the four values that are shown.
-/

namespace WendzelNNTPd

open CString Atomic

section Fields

/-- The text can stand as one field of an overview line. -/
def FieldText (text : Str) : Prop := '\t' ∉ text ∧ OneLine text

instance (text : Str) : Decidable (FieldText text) :=
  inferInstanceAs (Decidable ('\t' ∉ text ∧ OneLine text))

/-- The byte count of an article: the size of its body as the header has it, and its header. -/
def overviewBytes (p : Posting) : Int :=
  addLength
    (match cdpReturnLinevalue p.header "X-WendzelNNTPdBodysize:".toList with
      | some bodylen => asInt32 (atoiU32 bodylen)
      | none => 0)
    p.header.length

def overviewReferences (p : Posting) : Option Str :=
  cdpReturnLinevalue p.header "References:".toList

def overviewXref (p : Posting) : Option Str := cdpReturnLinevalue p.header "Xref:".toList

/-- Number, subject, author, date, message id, references, byte count, line count and xref. -/
def overviewFields (ext : Extern) (row : Ngpost × Posting) : List Str :=
  [decInt (asInt32 row.1.postnum), row.2.subject, row.2.author, ext.localtimeToStr row.2.date,
    row.1.msgid, (overviewReferences row.2).getD [' '], decInt (overviewBytes row.2),
    decInt row.2.lines, (overviewXref row.2).getD [' ']]

/-- The size of the buffer for an overview line. -/
def overviewSize (row : Ngpost × Posting) : Nat :=
  0xff + row.2.subject.length + row.2.author.length + 39 + row.1.msgid.length
    + ((overviewReferences row.2).map List.length).getD 0
    + ((overviewXref row.2).map List.length).getD 0

/-- The line that XOVER sends for an article. -/
def overviewLine (ext : Extern) (row : Ngpost × Posting) : Str :=
  snprintf (overviewSize row - 1) (['\t'].intercalate (overviewFields ext row) ++ "\r\n".toList)

/-- A line of nine fields with eight TABs between them, which ends with its only CRLF. -/
structure IsOverviewLine (line : Str) (fields : List Str) : Prop where
  nine : fields.length = 9
  joined : line = ['\t'].intercalate fields ++ "\r\n".toList
  tabs : line.count '\t' = 8
  lineEnd : OneLine (['\t'].intercalate fields)

theorem xoverCb_eq (ext : Extern) (row : Ngpost × Posting)
    : xoverCb ext row = toSendRow row.1 (overviewLine ext row) := by
  simp only [xoverCb, overviewLine, overviewSize, overviewFields, overviewBytes,
    overviewReferences, overviewXref, List.intercalate, List.intersperse, List.flatten_cons,
    List.flatten_nil, List.append_nil, List.cons_append, List.nil_append, List.append_assoc]
    <;> rfl

/-- XOVER sends one line for each article of the range. -/
theorem dbXover_run (ext : Extern) (group : Str) (min max : Nat) (s : Store) (session : Session)
    : ((dbXover ext group min max).run session).run (exec ext) s
      = (.ok ((), { session with
          curstring := session.curstring
            ++ (exec ext (.selectOverview group (asInt32 min) (asInt32 max)) s).1.map
              (fun row => ⟨overviewLine ext row, some row.1⟩) }), s) := by
  unfold dbXover
  refine (run_sql_bind ext s session (.selectOverview group (asInt32 min) (asInt32 max)) _).trans ?_
  have unchanged : (exec ext (.selectOverview group (asInt32 min) (asInt32 max)) s).2 = s := rfl
  rw [unchanged]
  generalize (exec ext (.selectOverview group (asInt32 min) (asInt32 max)) s).1 = rows
  induction rows generalizing session with
  | nil => simp only [List.map_nil, List.append_nil]; rfl
  | cons row rest ih =>
      have sends : ((xoverCb ext row).run session).run (exec ext) s
          = (.ok ((), { session with
              curstring := session.curstring ++ [⟨overviewLine ext row, some row.1⟩] }), s) := by
        rw [xoverCb_eq]
        rfl
      refine (run_bind_ok sends).trans ?_
      rw [ih]
      simp only [List.map_cons, List.append_assoc, List.singleton_append]

end Fields

section Separators

theorem fieldText_decInt (n : Int) : FieldText (decInt n) := by
  have other {c : Char} (member : c ∈ decInt n) : c = '-' ∨ c.isDigit := mem_decInt member
  refine ⟨fun tab => ?_, fun cr => ?_, fun lf => ?_⟩
  · exact absurd (other tab) (by decide)
  · exact absurd (other cr) (by decide)
  · exact absurd (other lf) (by decide)

theorem FieldText.append {text text' : Str} (first : FieldText text) (second : FieldText text')
    : FieldText (text ++ text') := by
  simp only [FieldText, OneLine, List.mem_append, not_or] at *
  exact ⟨⟨first.1, second.1⟩, ⟨first.2.1, second.2.1⟩, first.2.2, second.2.2⟩

theorem fieldText_dec (n : Nat) : FieldText (dec n) := by
  have same : decInt n = dec n := by simp [decInt]
  exact same ▸ fieldText_decInt n

theorem fieldText_numberedId (id : Nat) {host : Str} (clean : FieldText host)
    : FieldText (numberedId id host) := by
  unfold numberedId
  refine FieldText.append (.append (.append (.append ?_ (fieldText_dec id)) ?_) clean) ?_
  · decide
  · decide
  · decide

/-- A number below a power of ten has no more digits than that. -/
theorem length_decInt_le {n : Int} {digits : Nat} (positive : 0 < digits)
    (bound : n.natAbs < 10 ^ digits)
    : (decInt n).length ≤ digits + 1 := by
  have written : (dec n.natAbs).length ≤ digits :=
    (Nat.length_toDigits_le_iff (by decide) positive).mpr bound
  unfold decInt
  split
  · exact Nat.succ_le_succ written
  · exact Nat.le_succ_of_le written

/-- The fields that POST and XOVER make themselves are short and have no separators, and no line
ends within the others. -/
structure OverviewRow (ext : Extern) (row : Ngpost × Posting) : Prop where
  subject : OneLine row.2.subject
  author : OneLine row.2.author
  date : FieldText (ext.localtimeToStr row.2.date)
  dateSize : (ext.localtimeToStr row.2.date).length ≤ 38
  msgid : FieldText row.1.msgid
  bytes : (overviewBytes row.2).natAbs < 10 ^ 12
  lines : row.2.lines.natAbs < 10 ^ 12

theorem oneLine_intercalate {fields : List Str} (all : ∀ field ∈ fields, OneLine field)
    : OneLine (['\t'].intercalate fields) := by
  induction fields with
  | nil => decide
  | cons field rest ih =>
      have first := all field (by simp)
      have others := ih (fun other member => all other (List.mem_cons_of_mem field member))
      cases rest with
      | nil => simpa [List.intercalate] using first
      | cons next rest =>
          have joined : ['\t'].intercalate (field :: next :: rest)
              = field ++ (['\t'] ++ ['\t'].intercalate (next :: rest)) := by
            simp [List.intercalate]
          rw [joined]
          exact first.append (OneLine.append (by decide) others)

/-- A joined text has the separators of its fields and those between them. -/
theorem count_intercalate (fields : List Str)
    : (['\t'].intercalate fields).count '\t'
      = (fields.map (List.count '\t')).sum + (fields.length - 1) := by
  induction fields with
  | nil => rfl
  | cons field rest ih =>
      cases rest with
      | nil => simp [List.intercalate]
      | cons next rest =>
          have joined : ['\t'].intercalate (field :: next :: rest)
              = field ++ (['\t'] ++ ['\t'].intercalate (next :: rest)) := by
            simp [List.intercalate]
          rw [joined, List.count_append, List.count_append, ih]
          simp only [List.map_cons, List.sum_cons, List.length_cons, List.count_singleton_self]
          omega

theorem natAbs_asInt32_le (n : Nat) : (asInt32 n).natAbs ≤ 2 ^ 31 := by
  unfold asInt32
  split
  · omega
  · omega

/-- The buffer is large enough, so that nothing of a line is cut off. -/
theorem overviewLine_eq {ext : Extern} {row : Ngpost × Posting}
    (date : (ext.localtimeToStr row.2.date).length ≤ 38)
    (few : row.2.lines.natAbs < 10 ^ 12)
    : overviewLine ext row = ['\t'].intercalate (overviewFields ext row) ++ "\r\n".toList := by
  have number : (decInt (asInt32 row.1.postnum)).length ≤ 11 := by
    apply length_decInt_le (by decide)
    have bound := natAbs_asInt32_le row.1.postnum
    omega
  have bytes : (decInt (overviewBytes row.2)).length ≤ 11 := by
    apply length_decInt_le (by decide)
    have bound : (overviewBytes row.2).natAbs ≤ 2 ^ 31 := natAbs_asInt32_le _
    omega
  have lines := length_decInt_le (by decide) few
  have shown (value : Option Str)
      : (value.getD [' ']).length ≤ (value.map List.length).getD 0 + 1 := by
    cases value with
    | none => simp
    | some text => simp
  have references := shown (overviewReferences row.2)
  have xref := shown (overviewXref row.2)
  refine List.take_of_length_le ?_
  simp only [overviewSize, overviewFields, List.intercalate, List.intersperse, List.flatten_cons,
    List.flatten_nil, List.length_append, List.length_cons, List.length_nil]
  have crlf : "\r\n".toList.length = 2 := rfl
  omega

/-- A line is well formed exactly if the four values that come from the client have no TAB. -/
theorem isOverviewLine_iff {ext : Extern} {row : Ngpost × Posting} (made : OverviewRow ext row)
    : IsOverviewLine (overviewLine ext row) (overviewFields ext row)
      ↔ '\t' ∉ row.2.subject ∧ '\t' ∉ row.2.author
        ∧ '\t' ∉ (overviewReferences row.2).getD [' '] ∧ '\t' ∉ (overviewXref row.2).getD [' '] := by
  have line := overviewLine_eq made.dateSize made.lines
  have value (key : Str) : OneLine ((cdpReturnLinevalue row.2.header key).getD [' ']) := by
    cases found : cdpReturnLinevalue row.2.header key with
    | none => decide
    | some value => exact oneLine_linevalue found
  have lineEnd : OneLine (['\t'].intercalate (overviewFields ext row)) := by
    apply oneLine_intercalate
    simp only [overviewFields, List.mem_cons, List.not_mem_nil, or_false, forall_eq_or_imp,
      forall_eq]
    exact ⟨(fieldText_decInt _).2, made.subject, made.author, made.date.2, made.msgid.2, value _,
      (fieldText_decInt _).2, (fieldText_decInt _).2, value _⟩
  have tabs : (overviewLine ext row).count '\t'
      = row.2.subject.count '\t' + row.2.author.count '\t'
        + ((overviewReferences row.2).getD [' ']).count '\t'
        + ((overviewXref row.2).getD [' ']).count '\t' + 8 := by
    have crlf : "\r\n".toList.count '\t' = 0 := by decide
    rw [line, List.count_append, count_intercalate, crlf]
    simp only [overviewFields, List.map_cons, List.map_nil, List.sum_cons, List.sum_nil,
      List.length_cons, List.length_nil, List.count_eq_zero.mpr (fieldText_decInt _).1,
      List.count_eq_zero.mpr made.date.1, List.count_eq_zero.mpr made.msgid.1]
    omega
  constructor
  · intro whole
    have none := whole.tabs
    rw [tabs] at none
    simp only [← List.count_eq_zero]
    omega
  · intro ⟨subject, author, references, xref⟩
    refine ⟨rfl, line, ?_, lineEnd⟩
    rw [tabs, List.count_eq_zero.mpr subject, List.count_eq_zero.mpr author,
      List.count_eq_zero.mpr references, List.count_eq_zero.mpr xref]

end Separators

section Stored

theorem length_findTerminator {buf buf' : Str} (found : findTerminator buf = some buf')
    : buf'.length = buf.length := by
  obtain ⟨i, -, rfl⟩ := Option.map_eq_some_iff.mp found
  exact List.length_set

/-- An article is received with the read that shows its terminator.
Witness: induction on the events; a round that finds no terminator only adds to the buffer.
-/
theorem found_of_postReceive {maxPostSize : Nat} {buf buf' : Str} {events : List RecvEvent}
    (fits : buf.length ≤ maxPostSize)
    (received : postReceive maxPostSize buf events = .article buf')
    : ∃ whole, findTerminator whole = some buf' ∧ whole.length ≤ maxPostSize := by
  induction events generalizing buf with
  | nil => cases received
  | cons event rest ih =>
      cases event with
      | nothing => exact ih fits received
      | selectError => cases received
      | shutdown =>
          simp only [postReceive] at received
          split at received
          · cases received
          · cases received
      | recvError =>
          simp only [postReceive] at received
          split at received
          · cases received
          · cases received
      | data chunk =>
          simp only [postReceive] at received
          split at received
          · cases received
          · split at received
            · rename_i found
              cases received
              refine ⟨_, found, ?_⟩
              rw [List.length_append, List.length_take]
              omega
            · split at received
              · cases received
              · rename_i room
                apply ih _ received
                rw [List.length_append]
                omega

/-- A received article is smaller than the buffer for it. -/
theorem length_postReceive {maxPostSize : Nat} {buf : Str} {events : List RecvEvent}
    (received : postReceive maxPostSize [] events = .article buf)
    : buf.length ≤ maxPostSize := by
  obtain ⟨whole, found, small⟩ := found_of_postReceive (Nat.zero_le _) received
  rwa [length_findTerminator found]

/-- The body of a received article is no longer than the article. -/
theorem length_checkArticle {buf header ngstrp body : Str} {len : Nat}
    (passed : checkArticle buf = .passed len header ngstrp body)
    : body.length ≤ buf.length := by
  have text : (cstr buf).length ≤ buf.length := (List.takeWhile_sublist _).length_le
  rw [(passesChecks_of_passed passed).rest, List.length_drop]
  omega

end Stored

section Posted

/-- The texts the system hands to the server: dates fit their buffer of 39 bytes, names and
addresses are those of hosts, and sizes are of the type `int`. -/
structure SystemTexts (ext : Extern) (cfg : Config) (env : Env) : Prop where
  date : ∀ t, FieldText (ext.localtimeToStr t) ∧ (ext.localtimeToStr t).length ≤ 38
  name :
    ∀ name, env.addr = some name ∨ env.hostinfo = some name ∨ env.hostname = some name
      ∨ env.domainname = some name → FieldText name ∧ name.length ≤ 1024
  maxPostSize : cfg.maxPostSize < 2 ^ 31

variable {ext : Extern} {cfg : Config} {env : Env}

/-- The host of a message id is the anonymous one, or a name the system has. -/
theorem messageIdHost_of {P : Str → Prop} (anonym : P nntpdAnonymHost) (empty : P [])
    (name : ∀ name, env.addr = some name ∨ env.hostinfo = some name → P name) {host : Str}
    (named : messageIdHost cfg env = some host)
    : P host := by
  unfold messageIdHost at named
  split at named
  · cases named
    exact anonym
  · split at named
    · obtain ⟨addr, known, rfl⟩ := Option.map_eq_some_iff.mp named
      cases info : env.hostinfo with
      | none => exact name addr (Or.inl known)
      | some other => exact name other (Or.inr info)
    · cases named
      cases info : env.hostinfo with
      | none =>
          cases known : env.addr with
          | none => exact empty
          | some addr => exact name addr (Or.inl known)
      | some other => exact name other (Or.inr info)

theorem SystemTexts.host (texts : SystemTexts ext cfg env) {host : Str}
    (named : messageIdHost cfg env = some host)
    : FieldText host ∧ host.length ≤ 1024 := by
  refine messageIdHost_of (P := fun host => FieldText host ∧ host.length ≤ 1024) (by decide)
    (by decide) (fun name known => ?_) named
  rcases known with known | known
  · exact texts.name name (Or.inl known)
  · exact texts.name name (Or.inr (Or.inl known))

theorem OneLine.take {text : Str} (one : OneLine text) (n : Nat) : OneLine (text.take n) :=
  ⟨fun cr => one.1 (List.mem_of_mem_take cr), fun lf => one.2 (List.mem_of_mem_take lf)⟩

theorem oneLine_fqdn
    (names : ∀ name, env.hostname = some name ∨ env.domainname = some name → OneLine name)
    : OneLine (fqdn env) := by
  have hostname : OneLine (env.hostname.getD "unknown".toList) := by
    cases known : env.hostname with
    | none => decide
    | some name => exact names name (Or.inl known)
  have domain : OneLine ((env.domainname.filter
      (fun d => !"(none)".toList.isPrefixOf d)).getD "unknown".toList) := by
    cases known : env.domainname.filter (fun d => !"(none)".toList.isPrefixOf d) with
    | none => decide
    | some name => exact names name (Or.inr (Option.filter_eq_some_iff.mp known).1)
  have parts := (hostname.take 127).append (OneLine.append (by decide : OneLine ['.']) (domain.take 127))
  exact parts

theorem length_fqdn : (fqdn env).length ≤ 255 := by
  simp only [WendzelNNTPd.fqdn, List.length_append, List.length_cons, List.length_take]
  omega

/-- The lines in front of the client's header. -/
def serverLines (env : Env) (messageId date : Str) (lines : Int) (bodysize : Nat) : List Str :=
  ["Path: ".toList ++ WendzelNNTPd.fqdn env, "Message-ID: ".toList ++ messageId,
    "Date: ".toList ++ date, "Lines: ".toList ++ decInt lines,
    "X-WendzelNNTPdBodysize: ".toList ++ dec bodysize]

/-- The lines fit into their buffer. -/
theorem serverHeader_eq {messageId date : Str} {lines : Int} {bodysize : Nat}
    (short : messageId.length ≤ 1060) (shortDate : date.length ≤ 38)
    (few : lines.natAbs < 10 ^ 12) (small : bodysize < 10 ^ 12)
    : serverHeader env messageId date lines bodysize
      = crlfLines (serverLines env messageId date lines bodysize) := by
  have name := @length_fqdn env
  have number := length_decInt_le (by decide) few
  have size : (dec bodysize).length ≤ 12 :=
    (Nat.length_toDigits_le_iff (by decide) (by decide)).mpr small
  have text : crlfLines (serverLines env messageId date lines bodysize)
      = "Path: ".toList ++ WendzelNNTPd.fqdn env ++ "\r\nMessage-ID: ".toList ++ messageId
        ++ "\r\nDate: ".toList ++ date ++ "\r\nLines: ".toList ++ decInt lines
        ++ "\r\nX-WendzelNNTPdBodysize: ".toList ++ dec bodysize ++ "\r\n".toList := by
    simp [serverLines]
  rw [text]
  refine List.take_of_length_le ?_
  simp only [List.length_append, String.length_toList]
  have sizes : "Path: ".length + "\r\nMessage-ID: ".length + "\r\nDate: ".length
      + "\r\nLines: ".length + "\r\nX-WendzelNNTPdBodysize: ".length + "\r\n".length = 65 := by
    decide
  omega

theorem oneLine_serverLines {messageId date : Str} (name : OneLine (fqdn env))
    (clean : OneLine messageId) (cleanDate : OneLine date) (lines : Int) (bodysize : Nat)
    : ∀ line ∈ serverLines env messageId date lines bodysize, OneLine line := by
  simp only [serverLines, List.mem_cons, List.not_mem_nil, or_false, forall_eq_or_imp, forall_eq]
  refine ⟨OneLine.append ?_ name, OneLine.append ?_ clean, OneLine.append ?_ cleanDate,
    OneLine.append ?_ (fieldText_decInt lines).2, OneLine.append ?_ (fieldText_dec bodysize).2⟩
  · decide
  · decide
  · decide
  · decide
  · decide

/-- The lines of an article that XOVER cuts out of the stored header are those of the client. -/
theorem linevalue_stored {lines : List Str} {messageId date header : Str} {count : Int}
    {bodysize : Nat} (made : lines = serverLines env messageId date count bodysize)
    (one : ∀ line ∈ lines, OneLine line) {key : Str}
    (shown : key = "References:".toList ∨ key = "Xref:".toList)
    : cdpReturnLinevalue (crlfLines lines ++ header) key = cdpReturnLinevalue header key := by
  have plain : LineKey key := by
    rcases shown with rfl | rfl
    · exact ⟨by decide, by decide, by decide⟩
    · exact ⟨by decide, by decide, by decide⟩
  refine linevalue_lines plain header (fun line member => ⟨one line member, ?_⟩)
  simp only [made, serverLines, List.mem_cons, List.not_mem_nil, or_false] at member
  rcases shown with rfl | rfl
  · rcases member with rfl | rfl | rfl | rfl | rfl <;> rfl
  · rcases member with rfl | rfl | rfl | rfl | rfl <;> rfl

/-- The client's header has no TAB in the values that XOVER shows. -/
def TabFreeValues (header : Str) : Prop :=
  ∀ key ∈ ["Subject:".toList, "From:".toList, "References:".toList, "Xref:".toList],
    ∀ value, cdpReturnLinevalue header key = some value → '\t' ∉ value

theorem mem_secureOrNull {value : Option Str} {c : Char} (other : c ≠ '\'')
    (absent : c ∉ "(NULL)".toList)
    : c ∈ secureOrNull value ↔ ∃ text, value = some text ∧ c ∈ text := by
  cases value with
  | none => simpa [secureOrNull] using absent
  | some text =>
      simp only [secureOrNull, Option.map_some, Option.getD_some, Option.some.injEq, exists_eq_left',
        dbSecureSqlbuffer, sqlite3Q, List.mem_flatMap]
      constructor
      · rintro ⟨d, member, inside⟩
        split at inside
        · simp [other] at inside
        · rwa [List.mem_singleton.mp inside]
      · intro member
        exact ⟨c, member, by simp [other]⟩

theorem oneLine_secureOrNull (header key : Str)
    : OneLine (secureOrNull (cdpReturnLinevalue header key)) := by
  have inside {c : Char} (other : c ≠ '\'') (absent : c ∉ "(NULL)".toList)
      (member : c ∈ secureOrNull (cdpReturnLinevalue header key))
      : ∃ value, OneLine value ∧ c ∈ value := by
    obtain ⟨value, found, inside⟩ := (mem_secureOrNull other absent).mp member
    exact ⟨value, oneLine_linevalue found, inside⟩
  constructor
  · intro cr
    obtain ⟨value, one, inside⟩ := inside (by decide) (by decide) cr
    exact one.1 inside
  · intro lf
    obtain ⟨value, one, inside⟩ := inside (by decide) (by decide) lf
    exact one.2 inside

theorem notMem_getD_blank {value : Option Str} {c : Char} (other : c ≠ ' ')
    : c ∉ value.getD [' '] ↔ ∀ text, value = some text → c ∉ text := by
  cases value with
  | none => simp [other]
  | some text => simp

/-- What is known of an article that POST is about to store. -/
theorem stored_article {s : Store} {id : Nat} {article : Article}
    (stores : s.postStores cfg env = some (id, article))
    : messageIdHost cfg env = some article.host ∧ article.body.length ≤ cfg.maxPostSize := by
  obtain ⟨buf, len, header, body, received, passed, ready⟩ := postStores_received stores
  have size := length_postReceive received
  have part := length_checkArticle passed
  unfold prepareArticle at ready
  cases named : messageIdHost cfg env with
  | none => simp [named] at ready
  | some host =>
      simp only [named] at ready
      split at ready
      · cases ready
      · cases ready
      · split at ready
        · cases ready
        · have same := Except.ok.inj ready
          rw [← same]
          exact ⟨rfl, part.trans size⟩

theorem linecount_small {body : Str} (small : body.length < 2 ^ 31)
    : (linecount body).natAbs < 10 ^ 12 := by
  have few := @List.count_le_length _ _ '\n' body
  unfold linecount
  omega

/-- The stored header: the lines of the server fit into their buffer, and those of the client
follow. -/
theorem header_of_stored {id : Nat} {article : Article} (short : article.host.length ≤ 1024)
    (bounded : id < 2 ^ 64) (date : (ext.localtimeToStr article.ltime).length ≤ 38)
    (small : article.body.length < 2 ^ 31)
    : (article.row ext env id).header
      = crlfLines (serverLines env (numberedId id article.host) (ext.localtimeToStr article.ltime)
          (linecount article.body) article.body.length) ++ article.header := by
  have digits : (dec id).length ≤ 20 :=
    (Nat.length_toDigits_le_iff (by decide) (by decide)).mpr (by omega)
  have msgidSize : (numberedId id article.host).length ≤ 1060 := by
    simp only [numberedId, List.length_append, String.length_toList, List.length_cons,
      List.length_nil]
    have label : "<cdp".length = 4 := by decide
    omega
  rw [← serverHeader_eq msgidSize date (linecount_small small) (by omega)]
  rfl

/-- The overview line of an article from POST, wherever it is listed. -/
theorem overviewRow_of_stored {s : Store} {id : Nat} {article : Article} {n : Ngpost}
    (texts : SystemTexts ext cfg env) (stores : s.postStores cfg env = some (id, article))
    (listed : n.msgid = (article.row ext env id).msgid)
    : OverviewRow ext (n, article.row ext env id) := by
  obtain ⟨named, bodySize⟩ := stored_article stores
  have bytes : (overviewBytes (article.row ext env id)).natAbs < 10 ^ 12 :=
    (natAbs_asInt32_le _).trans_lt (by decide)
  exact
    { subject := oneLine_secureOrNull _ _
      author := oneLine_secureOrNull _ _
      date := (texts.date article.ltime).1
      dateSize := (texts.date article.ltime).2
      msgid := listed ▸ fieldText_numberedId id (texts.host named).1
      bytes := bytes
      lines := linecount_small (bodySize.trans_lt texts.maxPostSize) }

/-- The four values of an article from POST that can have a TAB are those of its header. -/
theorem tabFree_of_stored {s : Store} {id : Nat} {article : Article}
    (texts : SystemTexts ext cfg env) (stores : s.postStores cfg env = some (id, article))
    (bounded : id < 2 ^ 64)
    : '\t' ∉ (article.row ext env id).subject ∧ '\t' ∉ (article.row ext env id).author
        ∧ '\t' ∉ (overviewReferences (article.row ext env id)).getD [' ']
        ∧ '\t' ∉ (overviewXref (article.row ext env id)).getD [' ']
      ↔ TabFreeValues article.header := by
  obtain ⟨named, bodySize⟩ := stored_article stores
  obtain ⟨clean, short⟩ := texts.host named
  obtain ⟨cleanDate, shortDate⟩ := texts.date article.ltime
  have name : OneLine (fqdn env) := oneLine_fqdn fun name known =>
    (texts.name name (Or.inr (Or.inr known))).1.2
  have one := oneLine_serverLines name (fieldText_numberedId id clean).2 cleanDate.2
    (linecount article.body) article.body.length
  have header := @header_of_stored ext env id article short bounded shortDate
    (bodySize.trans_lt texts.maxPostSize)
  have stored {key : Str} (shown : key = "References:".toList ∨ key = "Xref:".toList)
      : cdpReturnLinevalue (article.row ext env id).header key
        = cdpReturnLinevalue article.header key := by
    rw [header]
    exact linevalue_stored rfl one shown
  have secured (value : Option Str)
      : '\t' ∉ secureOrNull value ↔ ∀ text, value = some text → '\t' ∉ text := by
    rw [mem_secureOrNull (by decide) (by decide)]
    simp only [not_exists, not_and]
  have subject : '\t' ∉ (article.row ext env id).subject ↔ _ := secured _
  have author : '\t' ∉ (article.row ext env id).author ↔ _ := secured _
  rw [subject, author, overviewReferences, overviewXref, stored (Or.inl rfl), stored (Or.inr rfl),
    notMem_getD_blank (by decide), notMem_getD_blank (by decide)]
  simp only [TabFreeValues, List.mem_cons, List.not_mem_nil, or_false, forall_eq_or_imp, forall_eq]

end Posted

section Listed

/-- An article that POST has answered with 240 is in `postings`, and its body was written. -/
theorem posted_of_answered {ext : Extern} {cfg : Config} {env : Env} {s : Store} {session : Session}
    (answered : (PostEnd.reply postdone).IsEndOf session
      (((docmdPost ext cfg env).run session).run (exec ext) s).1)
    : ∃ id article, s.postStores cfg env = some (id, article)
      ∧ (((docmdPost ext cfg env).run session).run (exec ext) s).2.postings
        = s.postings ++ [article.row ext env id]
      ∧ (((docmdPost ext cfg env).run session).run (exec ext) s).2.spool
          (bodyFile (article.row ext env id).msgid)
        = if s.spoolWritable then some article.body else none := by
  obtain ⟨isEnd, store⟩ := docmdPost_run ext cfg env s session
  rw [isEndOf_reply_iff isEnd] at answered
  cases stores : s.postStores cfg env with
  | none => exact absurd answered (post_of_not_stores ext session.curAuthUser stores).1
  | some stored =>
      obtain ⟨id, article⟩ := stored
      obtain ⟨ran, counted⟩ := post_of_stores ext session.curAuthUser stores
      refine ⟨id, article, rfl, ?_⟩
      rw [store]
      rw [ran, counted] at answered ⊢
      simp only [Store.storeAlone] at answered ⊢
      split at answered
      · cases answered
      · rename_i taken
        rw [if_neg taken]
        split
        · exact ⟨rfl, Function.update_self _ _ _⟩
        · exact ⟨rfl, Function.update_self _ _ _⟩

/-- For every article that POST has answered with 240, wherever XOVER lists it later: its line
has the nine fields, eight TABs between them and one CRLF at its end if and only if the client's
header has no TAB in its first Subject, From, References and Xref values. -/
theorem overview_line_iff_tabFree (ext : Extern) (cfg : Config) (env : Env)
    (texts : SystemTexts ext cfg env) (s : Store)
    (counter : ∀ id, s.nextId = some id → id < 2 ^ 64) (session : Session)
    (answered : (PostEnd.reply postdone).IsEndOf session
      (((docmdPost ext cfg env).run session).run (exec ext) s).1)
    : ∃ id article, s.postStores cfg env = some (id, article)
      ∧ (((docmdPost ext cfg env).run session).run (exec ext) s).2.postings
        = s.postings ++ [article.row ext env id]
      ∧ ∀ (later : Store) (group : Str) (min max : Nat) (reader : Session) (n : Ngpost),
          (n, article.row ext env id)
            ∈ (exec ext (.selectOverview group (asInt32 min) (asInt32 max)) later).1
          → ((dbXover ext group min max).run reader).run (exec ext) later
              = (.ok ((), { reader with
                  curstring := reader.curstring
                    ++ (exec ext (.selectOverview group (asInt32 min) (asInt32 max)) later).1.map
                      (fun row => ⟨overviewLine ext row, some row.1⟩) }), later)
            ∧ (IsOverviewLine (overviewLine ext (n, article.row ext env id))
                (overviewFields ext (n, article.row ext env id))
              ↔ TabFreeValues article.header) := by
  obtain ⟨id, article, stores, posted, -⟩ := posted_of_answered answered
  refine ⟨id, article, stores, posted, fun later group min max reader n listed => ⟨?_, ?_⟩⟩
  · exact dbXover_run ext group min max later reader
  · have bounded := counter id (postStores_checked stores).2
    have joined : n.msgid = (article.row ext env id).msgid := by
      obtain ⟨row, -, paired⟩ := List.mem_flatMap.mp listed
      obtain ⟨p, found, same⟩ := List.mem_map.mp paired
      cases same
      exact (beq_iff_eq.mp (List.mem_filter.mp found).2).symm
    rw [isOverviewLine_iff (overviewRow_of_stored texts stores joined)]
    exact tabFree_of_stored texts stores bounded

/-- An article with the given line in its header. -/
def articleWith (line : Str) : Str :=
  "From: a@b.org\r\nNewsgroups: a\r\nSubject: hi\r\n".toList ++ line
    ++ "\r\n\r\nhello\r\n.\r\n".toList

/-- The session of a client that has just connected. -/
def openSession : Session := Session.fresh openConfig false .article .cleared

theorem openTexts (text : Str) : SystemTexts postExtern openConfig (sendingEnv text) := by
  refine ⟨fun t => ?_, fun name known => ?_, by decide⟩
  · have fixed : FieldText "Thu, 01 Jan 1970 00:00:00".toList
        ∧ "Thu, 01 Jan 1970 00:00:00".toList.length ≤ 38 := by
      decide
    exact fixed
  · rcases known with known | known | known | known
    · cases known
      decide
    · cases known
    · cases known
      decide
    · cases known

/-- The answer to an article, read off the run of POST. -/
theorem answered_of_post {text : Str}
    (answered : (fourGroups.post postExtern openConfig (sendingEnv text) none).1 = .reply postdone)
    : (PostEnd.reply postdone).IsEndOf openSession
        (((docmdPost postExtern openConfig (sendingEnv text)).run openSession).run (exec postExtern)
          fourGroups).1 := by
  obtain ⟨isEnd, -⟩ := docmdPost_run postExtern openConfig (sendingEnv text) fourGroups openSession
  rw [isEndOf_reply_iff isEnd]
  exact answered

/-- An article with a References line, as newsreaders write it. -/
def replyArticle : Article where
  host := nntpdAnonymHost
  ltime := 0
  ngstrp := "a".toList
  header := "From: a@b.org\r\nNewsgroups: a\r\nSubject: hi\r\nReferences: <1@a> <2@a>\r\n".toList
  body := "hello\r\n.\r\n".toList

def replyEnv : Env := sendingEnv (articleWith "References: <1@a> <2@a>".toList)

theorem tabFree_reply : TabFreeValues replyArticle.header := by
  have values : ["Subject:".toList, "From:".toList, "References:".toList, "Xref:".toList].map
      (cdpReturnLinevalue replyArticle.header)
      = [some "hi".toList, some "a@b.org".toList, some "<1@a> <2@a>".toList, none] := by
    unfold replyArticle
    repeat rw [String.toList_ofList]
    decide +kernel
  intro key member value found
  have shown : some value
      ∈ [some "hi".toList, some "a@b.org".toList, some "<1@a> <2@a>".toList, none] := by
    rw [← values, ← found]
    exact List.mem_map_of_mem member
  simp only [List.mem_cons, Option.some.injEq, List.not_mem_nil, or_false, reduceCtorEq] at shown
  rcases shown with rfl | rfl | rfl
  · decide
  · decide
  · decide

theorem reply_has_overview_line
    : ∃ row,
        row ∈ (exec postExtern (.selectOverview "a".toList 1 1)
          (((docmdPost postExtern openConfig replyEnv).run openSession).run (exec postExtern)
            fourGroups).2).1
        ∧ IsOverviewLine (overviewLine postExtern row) (overviewFields postExtern row) := by
  have posted : (fourGroups.post postExtern openConfig replyEnv none).1 = .reply postdone := by
    unfold replyEnv articleWith postExtern
    repeat rw [String.toList_ofList]
    decide +kernel
  have stored : fourGroups.postStores openConfig replyEnv = some (1, replyArticle) := by
    unfold replyEnv articleWith replyArticle
    repeat rw [String.toList_ofList]
    decide +kernel
  have rows :
      (exec postExtern (.selectOverview "a".toList 1 1)
        (((docmdPost postExtern openConfig replyEnv).run openSession).run (exec postExtern)
          fourGroups).2).1
        = [(⟨numberedId 1 nntpdAnonymHost, "a".toList, 1⟩,
            replyArticle.row postExtern replyEnv 1)] := by
    unfold replyEnv articleWith postExtern replyArticle
    repeat rw [String.toList_ofList]
    decide +kernel
  obtain ⟨id, article, stores, -, listed⟩ :=
    overview_line_iff_tabFree postExtern openConfig replyEnv (openTexts _) fourGroups
      (fun id next => by cases next; decide) openSession (answered_of_post posted)
  rw [stored] at stores
  cases stores
  have there := List.mem_singleton_self
    ((⟨numberedId 1 nntpdAnonymHost, "a".toList, 1⟩ : Ngpost), replyArticle.row postExtern replyEnv 1)
  rw [← rows] at there
  have line := (listed _ "a".toList 1 1 openSession _ there).2
  exact ⟨_, there, line.mpr tabFree_reply⟩

/-- POST accepts a References line with a TAB, and XOVER then sends ten fields. -/
theorem tab_in_references_breaks_overview
    : (PostEnd.reply postdone).IsEndOf openSession
        (((docmdPost postExtern openConfig
            (sendingEnv (articleWith "References: <1@a>\t<2@a>".toList))).run openSession).run
          (exec postExtern) fourGroups).1
      ∧ ∃ row,
          (exec postExtern (.selectOverview "a".toList 1 1)
            (((docmdPost postExtern openConfig
                (sendingEnv (articleWith "References: <1@a>\t<2@a>".toList))).run openSession).run
              (exec postExtern) fourGroups).2).1 = [row]
          ∧ ¬IsOverviewLine (overviewLine postExtern row) (overviewFields postExtern row) := by
  have posted : (fourGroups.post postExtern openConfig
      (sendingEnv (articleWith "References: <1@a>\t<2@a>".toList)) none).1 = .reply postdone := by
    unfold articleWith postExtern
    repeat rw [String.toList_ofList]
    decide +kernel
  have tabs :
      (exec postExtern (.selectOverview "a".toList 1 1)
        (((docmdPost postExtern openConfig
            (sendingEnv (articleWith "References: <1@a>\t<2@a>".toList))).run openSession).run
          (exec postExtern) fourGroups).2).1.map (fun row => (overviewLine postExtern row).count '\t')
        = [9] := by
    unfold articleWith postExtern
    repeat rw [String.toList_ofList]
    decide +kernel
  refine ⟨answered_of_post posted, ?_⟩
  obtain ⟨row, rest, listed, nine, none⟩ := List.map_eq_cons_iff.mp tabs
  obtain rfl : rest = [] := List.map_eq_nil_iff.mp none
  refine ⟨row, listed, fun whole => ?_⟩
  have eight := whole.tabs
  omega

end Listed

end WendzelNNTPd
