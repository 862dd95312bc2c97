import WendzelNNTPd.Posting.InsertText
import WendzelNNTPd.Posting.HeaderGrammar
import WendzelNNTPd.Posting.ReceiveLoop
import WendzelNNTPd.Posting.RemovalBounds
import WendzelNNTPd.Posting.Overview

/-! The size of the statement that puts an article into `postings`. The buffers are sized from the
header, the subject and the sender, with a fixed reserve for all other values. SQLite doubles the
sum, so that a group list that stands in the header has room there; MySQL does not.
-/

namespace WendzelNNTPd

open CString SqlLiteral

-----------------------------------------------------------------------------------------
-- The texts and their sizes
-----------------------------------------------------------------------------------------

/-- The statement of `db_mysql_post_insert_into_postings` before it is cut to its buffer. -/
def mysqlInsertText (row : Posting) : Str :=
  mysqlInsertHead
    ++ rowText
        [row.msgid, decInt row.date, row.author, row.newsgroups, row.subject,
          decInt row.lines, row.header]
        ");".toList

/-- Both statements for an article are shorter than the size that `snprintf` is given. -/
structure StatementsWhole (row : Posting) : Prop where
  sqlite3
    : (sqlite3InsertText (row.secured .sqlite3)).length
      < 2 * (row.secured .sqlite3).statementLen - 1
  mysql : (mysqlInsertText (row.secured .mysql)).length < (row.secured .mysql).statementLen - 1

section Sizes

variable {row : Posting}

/-- `snprintf` leaves a text whole that is shorter than the size. -/
theorem snprintf_eq_iff {size : Nat} (positive : 0 < size) {text : Str}
    : snprintf size text = text ↔ text.length < size := by
  rw [snprintf, List.take_eq_self_iff]
  omega

theorem dbSqlite3PostInsertIntoPostings_eq_iff
    : dbSqlite3PostInsertIntoPostings row = sqlite3InsertText row
      ↔ (sqlite3InsertText row).length < 2 * row.statementLen - 1 :=
  snprintf_eq_iff (by simp only [Posting.statementLen]; omega)

theorem dbMysqlPostInsertIntoPostings_eq_iff
    : dbMysqlPostInsertIntoPostings row = mysqlInsertText row
      ↔ (mysqlInsertText row).length < row.statementLen - 1 :=
  snprintf_eq_iff (by simp only [Posting.statementLen]; omega)

theorem length_sqlite3InsertText
    : (sqlite3InsertText row).length
      = 115 + (row.msgid.length + row.msgid.count '\'') + (decInt row.date).length
        + (row.author.length + row.author.count '\'')
        + (row.newsgroups.length + row.newsgroups.count '\'')
        + (row.subject.length + row.subject.count '\'') + (decInt row.lines).length
        + (row.header.length + row.header.count '\'') := by
  have headLength : sqlite3InsertHead.length = 88 := by
    unfold sqlite3InsertHead
    repeat rw [String.toList_ofList]
    rfl
  have tailLength : ");".toList.length = 2 := rfl
  simp only [sqlite3InsertText, rowText, separator, List.length_append, List.length_cons,
    List.length_nil, headLength, tailLength, length_sqlite3Q]
  omega

theorem length_mysqlInsertText
    : (mysqlInsertText row).length
      = 129 + row.msgid.length + (decInt row.date).length + row.author.length
        + row.newsgroups.length + row.subject.length + (decInt row.lines).length
        + row.header.length := by
  have headLength : mysqlInsertHead.length = 102 := by
    unfold mysqlInsertHead
    rw [String.toList_append, String.toList_ofList, String.toList_ofList]
    rfl
  have tailLength : ");".toList.length = 2 := rfl
  simp only [mysqlInsertText, rowText, separator, List.length_append, List.length_cons,
    List.length_nil, headLength, tailLength]
  omega

/-- MySQL's statement is whole if the values that the size does not count fit into the reserve. -/
theorem mysql_whole_iff
    : (mysqlInsertText row).length < row.statementLen - 1
      ↔ row.msgid.length + (decInt row.date).length + row.newsgroups.length
          + (decInt row.lines).length
        ≤ 3964 := by
  rw [length_mysqlInsertText, Posting.statementLen]
  omega

/-- SQLite has twice the reserve, and room for the doubled quotes of the values that are counted.
-/
theorem sqlite3_whole_of_short
    (short : row.msgid.length + (decInt row.date).length + row.newsgroups.length
      + (decInt row.lines).length ≤ 3964)
    : (sqlite3InsertText row).length < 2 * row.statementLen - 1 := by
  have quotes (text : Str) : text.count '\'' ≤ text.length := List.count_le_length
  have msgid := quotes row.msgid
  have author := quotes row.author
  have newsgroups := quotes row.newsgroups
  have subject := quotes row.subject
  have header := quotes row.header
  rw [length_sqlite3InsertText, Posting.statementLen]
  omega

/-- SQLite has room for a group list of any length that stands in the header. -/
theorem sqlite3_whole_of_infix (listed : row.newsgroups <:+: row.header)
    (plain : '\'' ∉ row.newsgroups)
    (short : 2 * row.msgid.length + (decInt row.date).length + (decInt row.lines).length ≤ 8073)
    : (sqlite3InsertText row).length < 2 * row.statementLen - 1 := by
  have quotes (text : Str) : text.count '\'' ≤ text.length := List.count_le_length
  obtain ⟨front, rest, whole⟩ := listed
  have none : row.newsgroups.count '\'' = 0 := List.count_eq_zero_of_not_mem plain
  -- the quotes of the header stand outside of the group list
  have header : row.header.count '\'' + row.newsgroups.length ≤ row.header.length := by
    have before := quotes front
    have behind := quotes rest
    rw [← whole, List.count_append, List.count_append, none, List.length_append,
      List.length_append]
    omega
  have msgid := quotes row.msgid
  have author := quotes row.author
  have subject := quotes row.subject
  rw [length_sqlite3InsertText, Posting.statementLen]
  omega

end Sizes

/-- The statements for an article are whole exactly if message-id, date, group list and line count
together have at most 3964 bytes.
Witness: that is what MySQL's reserve leaves for them, and SQLite has more room.
-/
theorem statementsWhole_iff (row : Posting)
    : StatementsWhole row
      ↔ row.msgid.length + (decInt row.date).length + row.newsgroups.length
          + (decInt row.lines).length
        ≤ 3964 := by
  have mysql := @mysql_whole_iff (row.secured .mysql)
  constructor
  · intro whole
    exact mysql.mp whole.mysql
  · intro short
    exact ⟨@sqlite3_whole_of_short (row.secured .sqlite3) short, mysql.mpr short⟩

-----------------------------------------------------------------------------------------
-- An article of lines
-----------------------------------------------------------------------------------------

section Lines

theorem byteAt_ne_nul {text : Str} {i : Nat} (nul : NUL ∉ text) (inside : i < text.length)
    : byteAt text i ≠ NUL := by
  rw [byteAt, List.getElem?_eq_getElem inside]
  exact fun same => nul (same ▸ List.getElem_mem inside)

/-- A byte at which no separator begins is passed. -/
theorem headerEnd_cons {c : Char} {text : Str} (nul : NUL ∉ c :: text) (more : 4 ≤ text.length)
    (other : ¬headerSep <+: c :: text) (i : Nat)
    : headerEnd i (c :: text) = headerEnd (i + 1) text := by
  have byte : byteAt (c :: text) 4 ≠ NUL := byteAt_ne_nul nul (by rw [List.length_cons]; omega)
  rw [headerEnd, if_neg byte, if_neg (mt List.isPrefixOf_iff_prefix.mp other)]

/-- The loop passes a text without CR. -/
theorem headerEnd_skip {text rest : Str} (cr : '\r' ∉ text) (nul : NUL ∉ text ++ rest)
    (more : 4 ≤ rest.length) (i : Nat)
    : headerEnd i (text ++ rest) = headerEnd (i + text.length) rest := by
  induction text generalizing i with
  | nil => rfl
  | cons c cs ih =>
      rw [List.mem_cons, not_or] at cr
      have long : 4 ≤ (cs ++ rest).length := by
        rw [List.length_append]
        omega
      have other : ¬headerSep <+: c :: (cs ++ rest) := by
        intro begins
        exact cr.1 (List.cons_prefix_cons.mp begins).1
      have step : headerEnd i (c :: (cs ++ rest)) = headerEnd (i + 1) (cs ++ rest) :=
        headerEnd_cons nul long other i
      have behind : NUL ∉ cs ++ rest := fun member => nul (List.mem_cons_of_mem c member)
      rw [List.cons_append, step, ih cr.2 behind, List.length_cons]
      congr 1
      omega

/-- The loop finds the end of the header behind its last line.
Witness: induction on the lines; at a line end the next line begins, and not with CR.
-/
theorem headerEnd_lines {lines : List Str} {body : Str} (some : lines ≠ [])
    (nonempty : body ≠ [])
    (each : ∀ line ∈ lines, line ≠ [] ∧ OneLine line)
    (nul : NUL ∉ crlfLines lines ++ '\r' :: '\n' :: body) (i : Nat)
    : headerEnd i (crlfLines lines ++ '\r' :: '\n' :: body)
      = .some (i + (crlfLines lines).length - 2) := by
  induction lines generalizing i with
  | nil => exact absurd rfl some
  | cons line rest ih =>
      obtain ⟨-, one⟩ := each line (List.mem_cons_self ..)
      have whole : crlfLines (line :: rest) ++ '\r' :: '\n' :: body
          = line ++ ('\r' :: '\n' :: (crlfLines rest ++ '\r' :: '\n' :: body)) := by
        simp
      rw [whole] at nul ⊢
      have tail : NUL ∉ '\r' :: '\n' :: (crlfLines rest ++ '\r' :: '\n' :: body) :=
        fun member => nul (List.mem_append_right line member)
      have enough : 4 ≤ ('\r' :: '\n' :: (crlfLines rest ++ '\r' :: '\n' :: body)).length := by
        simp only [List.length_cons, List.length_append]
        omega
      rw [headerEnd_skip one.1 nul enough, crlfLines_cons]
      cases rest with
      | nil =>
          obtain ⟨b, bs, rfl⟩ := List.exists_cons_of_ne_nil nonempty
          have byte : byteAt ('\r' :: '\n' :: '\r' :: '\n' :: b :: bs) 4 ≠ NUL :=
            byteAt_ne_nul tail (by simp)
          have here : headerSep.isPrefixOf ('\r' :: '\n' :: '\r' :: '\n' :: b :: bs) = true := rfl
          rw [crlfLines_nil, List.nil_append, headerEnd, if_neg byte, if_pos here,
            List.length_append]
          rfl
      | cons next others =>
          obtain ⟨some', one'⟩ := each next (by simp)
          obtain ⟨c, cs, rfl⟩ := List.exists_cons_of_ne_nil some'
          generalize text : crlfLines ((c :: cs) :: others) ++ '\r' :: '\n' :: body = behind at *
          obtain ⟨ds, rfl⟩ : ∃ ds, behind = c :: ds := by
            rw [crlfLines_cons, List.cons_append, List.cons_append] at text
            exact ⟨_, text.symm⟩
          have size := congrArg List.length text
          simp only [crlfLines_cons, List.length_append, List.length_cons] at size
          have notSep : ¬headerSep <+: '\r' :: '\n' :: c :: ds := by
            intro begins
            have third := (List.cons_prefix_cons.mp (List.cons_prefix_cons.mp begins).2).2
            exact one'.1 ((List.cons_prefix_cons.mp third).1 ▸ List.mem_cons_self ..)
          have notLf : ¬headerSep <+: '\n' :: c :: ds :=
            fun begins => absurd (List.cons_prefix_cons.mp begins).1 (by decide)
          have short : NUL ∉ '\n' :: c :: ds := fun member => tail (List.mem_cons_of_mem _ member)
          rw [headerEnd_cons tail (by simp only [List.length_cons]; omega) notSep,
            headerEnd_cons short (by simp only [List.length_cons]; omega) notLf,
            ih (List.cons_ne_nil _ _) (fun line there => each line (List.mem_cons_of_mem _ there))
              (fun member => short (List.mem_cons_of_mem _ member))]
          congr 1
          simp only [crlfLines_cons, List.length_append, List.length_cons]
          omega

/-- An article of lines passes the checks if its header does. -/
theorem checkArticle_articleOf {lines : List Str} {ngstrp : Str} (some : lines ≠ [])
    (each : ∀ line ∈ lines, line ≠ [] ∧ OneLine line) (nul : NUL ∉ crlfLines lines)
    (required : chkRequiredHdrLines (crlfLines lines) = none)
    (newsgroups : cdpReturnLinevalue (crlfLines lines) "Newsgroups:".toList = .some ngstrp)
    : ∃ len, headerEnd 0 (articleOf lines) = .some len ∧ NUL ∉ articleOf lines
      ∧ checkArticle (articleOf lines)
        = .passed len (headerBuffer (articleOf lines) len) ngstrp "hello\r\n.\r\n".toList := by
  have clean : NUL ∉ articleOf lines := by
    rw [articleOf, List.mem_append, not_or]
    exact ⟨nul, by decide⟩
  have found : headerEnd 0 (articleOf lines) = .some (0 + (crlfLines lines).length - 2) :=
    headerEnd_lines some (by decide) each clean 0
  have two : 2 ≤ (crlfLines lines).length := by
    obtain ⟨line, rest, rfl⟩ := List.exists_cons_of_ne_nil some
    simp only [crlfLines_cons, List.length_append, List.length_cons]
    omega
  obtain ⟨len, size⟩ : ∃ len, (crlfLines lines).length = len + 2 :=
    ⟨(crlfLines lines).length - 2, by omega⟩
  rw [size, Nat.zero_add, Nat.add_sub_cancel] at found
  have early : NUL ∉ (articleOf lines).take 4 := fun member => clean (List.mem_of_mem_take member)
  obtain ⟨buffer, inside, -⟩ := headerBuffer_eq found early
  have text : (articleOf lines).take (len + 2) = crlfLines lines := by
    rw [articleOf, ← size, List.take_left]
  rw [text] at buffer inside
  have header : cstr (headerBuffer (articleOf lines) len) = crlfLines lines := by
    rw [buffer, cstr_append_nul inside]
  have body : (cstr (articleOf lines)).drop (len + 4) = "hello\r\n.\r\n".toList := by
    have behind : len + 4 = (crlfLines lines).length + 2 := by omega
    rw [cstr_eq_self clean, articleOf, behind, List.drop_length_add_append]
    rfl
  refine ⟨len, found, clean, ?_⟩
  unfold checkArticle
  rw [found, (strstr_headerSep_iff found).mpr early]
  simp only [header, body, required, newsgroups]
  rfl

end Lines

section Cross

variable (n : Nat)

/-- A group list that names the newsgroup `a` again and again. -/
def crossGroups : Str := [','].intercalate (List.replicate (n + 1) "a".toList)

def crossLines : List Str :=
  ["Newsgroups: ".toList ++ crossGroups n, "From: a@b.org".toList, "Subject: hi".toList]

/-- An article with that list. -/
def crossPost : Str := articleOf (crossLines n)

theorem crossGroups_succ : crossGroups (n + 1) = 'a' :: ',' :: crossGroups n := by
  rw [crossGroups, List.replicate_succ, List.replicate_succ, List.intercalate_cons_cons,
    ← List.replicate_succ]
  rfl

theorem length_crossGroups : (crossGroups n).length = 2 * n + 1 := by
  induction n with
  | zero => rfl
  | succ n ih =>
      rw [crossGroups_succ, List.length_cons, List.length_cons, ih]
      omega

theorem mem_crossGroups {c : Char} (member : c ∈ crossGroups n) : c = 'a' ∨ c = ',' := by
  induction n with
  | zero => exact Or.inl (List.mem_singleton.mp member)
  | succ n ih =>
      rw [crossGroups_succ] at member
      rcases List.mem_cons.mp member with first | member
      · exact Or.inl first
      · rcases List.mem_cons.mp member with second | member
        · exact Or.inr second
        · exact ih member

theorem strtok_crossGroups : strtok ',' (crossGroups n) = List.replicate (n + 1) "a".toList := by
  have split : (crossGroups n).splitOn ',' = List.replicate (n + 1) "a".toList := by
    refine List.splitOn_intercalate ',' (fun name member => ?_) (by simp)
    rw [List.eq_of_mem_replicate member]
    decide
  rw [strtok, split, List.filter_replicate]
  rfl

/-- No line of the header has a CR, LF or NUL. -/
theorem notMem_crossLines {c : Char} (special : c = NUL ∨ c = '\r' ∨ c = '\n') {line : Str}
    (there : line ∈ crossLines n)
    : c ∉ line := by
  have list : c ∉ crossGroups n := by
    intro member
    rcases mem_crossGroups n member with rfl | rfl
    · rcases special with other | other | other <;> cases other
    · rcases special with other | other | other <;> cases other
  simp only [crossLines, List.mem_cons, List.not_mem_nil, or_false] at there
  rcases there with rfl | rfl | rfl
  · rw [List.mem_append, not_or]
    refine ⟨?_, list⟩
    rcases special with rfl | rfl | rfl <;> decide
  · rcases special with rfl | rfl | rfl <;> decide
  · rcases special with rfl | rfl | rfl <;> decide

theorem required_crossLines : chkRequiredHdrLines (crlfLines (crossLines n)) = none := by
  have one : ∀ line ∈ crossLines n, '\n' ∉ line :=
    fun line there => notMem_crossLines n (Or.inr (Or.inr rfl)) there
  have newsgroups : HasNewsgroups (crossLines n) := by
    refine ⟨_, List.mem_cons_self .., "Newsgroups".toList, crossGroups n, rfl, by decide, ?_⟩
    refine ⟨List.replicate (n + 1) "a".toList, by simp, fun name member => ?_, rfl⟩
    rw [List.eq_of_mem_replicate member]
    exact ⟨by decide, by simp [isalnum]⟩
  have sender : HasFrom (crossLines n) := by
    refine ⟨"From: a@b.org".toList, by simp [crossLines], "From".toList, "a@b.org".toList, rfl,
      by decide,
      .plain ⟨"a".toList, "b.org".toList, rfl, ⟨by decide, by simp [isalnum]⟩, ?_⟩⟩
    exact ⟨by decide, by simp [isalnum]⟩
  have subject : HasSubject (crossLines n) :=
    ⟨"Subject: hi".toList, by simp [crossLines], "Subject".toList, "hi".toList, rfl, by decide,
      by simp [PlainText]⟩
  have text : crlfLines (crossLines n) = headerText (crossLines n) := rfl
  rw [text, chkRequiredHdrLines, (newsgroupsRx_headerText one).mpr newsgroups,
    (fromRx_headerText one).mpr (Or.inl sender), (subjectRx_headerText one).mpr subject]
  rfl

theorem newsgroups_crossLines
    : cdpReturnLinevalue (crlfLines (crossLines n)) "Newsgroups:".toList
      = some (crossGroups n) := by
  have one : OneLine ("Newsgroups: ".toList ++ crossGroups n) :=
    ⟨notMem_crossLines n (Or.inr (Or.inl rfl)) (List.mem_cons_self ..),
      notMem_crossLines n (Or.inr (Or.inr rfl)) (List.mem_cons_self ..)⟩
  have nonempty : (crossGroups n).isEmpty = false := by
    cases n with
    | zero => rfl
    | succ n => rw [crossGroups_succ]; rfl
  rw [crossLines, crlfLines_cons, linevalue_here ⟨by decide, by decide, by decide⟩ one rfl]
  have value : ("Newsgroups: ".toList ++ crossGroups n).drop ("Newsgroups:".toList.length + 1)
      = crossGroups n := rfl
  rw [lineValue, value, nonempty]
  rfl

/-- POST takes the article with the list, whatever its length. -/
theorem checkArticle_crossPost
    : ∃ len, headerEnd 0 (crossPost n) = some len ∧ NUL ∉ crossPost n
      ∧ checkArticle (crossPost n)
        = .passed len (headerBuffer (crossPost n) len) (crossGroups n) "hello\r\n.\r\n".toList := by
  refine checkArticle_articleOf (by simp [crossLines]) (fun line there => ⟨?_, ?_, ?_⟩) ?_
    (required_crossLines n) (newsgroups_crossLines n)
  · simp only [crossLines, List.mem_cons, List.not_mem_nil, or_false] at there
    rcases there with rfl | rfl | rfl <;> simp
  · exact notMem_crossLines n (Or.inr (Or.inl rfl)) there
  · exact notMem_crossLines n (Or.inr (Or.inr rfl)) there
  · rw [crlfLines, List.mem_flatten]
    rintro ⟨text, there, member⟩
    obtain ⟨line, isLine, rfl⟩ := List.mem_map.mp there
    rcases List.mem_append.mp member with inLine | inEnd
    · exact notMem_crossLines n (Or.inl rfl) isLine inLine
    · exact absurd inEnd (by decide)

/-- The check of the names on MySQL: the newsgroup `a` is there, and open. -/
theorem mysql_accepts (session : Session)
    : ∃ session',
        (((srvBackend sampleServers .mysql).chkNgNameCorrectness
            (List.replicate n "a".toList)).run session).run (exec postExtern) fourGroups
          = (.ok (true, session'), fourGroups) := by
  induction n generalizing session with
  | zero => exact ⟨session, rfl⟩
  | succ n ih =>
      rw [List.replicate_succ]
      exact ih { session with chkname := none, foundGroup := false }

theorem received_crossPost {maxPostSize : Nat} (room : 2 * n + 55 < maxPostSize)
    : postReceive maxPostSize [] [.data (crossPost n)] = .article (crossPost n) := by
  obtain ⟨len, -, clean, -⟩ := checkArticle_crossPost n
  have size : (crossPost n).length = 2 * n + 55 := by
    have name : "Newsgroups: ".toList.length = 12 := rfl
    have sender : "From: a@b.org".toList.length = 13 := rfl
    have subject : "Subject: hi".toList.length = 11 := rfl
    have rest : "\r\nhello\r\n.\r\n".toList.length = 12 := rfl
    simp only [crossPost, articleOf, crossLines, crlfLines_cons, crlfLines_nil, List.length_append,
      List.length_cons, List.length_nil, length_crossGroups, name, sender, subject, rest]
    omega
  have nonempty : crossPost n ≠ [] := by
    intro empty
    rw [empty] at size
    cases size
  have ends : terminator <:+ crossPost n := by
    rw [crossPost, articleOf]
    exact List.suffix_append_of_suffix (by decide)
  have fits : ([] : Str).length + (crossPost n).length < maxPostSize := by
    rw [size, List.length_nil, Nat.zero_add]
    exact room
  have whole : NUL ∉ [] ++ crossPost n := clean
  exact (postReceive_data whole nonempty fits).trans (if_pos ends)

/-- The row of that article on MySQL, with the author and subject it is given. -/
def crossRow (kept author subject : Str) : Posting :=
  { postingRow postExtern (sendingEnv (crossPost n)) (numberedId 1 nntpdAnonymHost) 0
      (crossGroups n) (cstr kept) "hello\r\n.\r\n".toList with
    author := author
    subject := subject }

end Cross

/-- An article that names the only newsgroup 2001 times passes all checks on MySQL, and its
statement is cut, whatever else is in its row. -/
theorem many_groups_truncated
    : postReceive 8192 [] [.data (crossPost 2000)] = .article (crossPost 2000)
      ∧ ∃ len kept,
        checkArticle (crossPost 2000)
          = .passed len (headerBuffer (crossPost 2000) len) (crossGroups 2000)
            "hello\r\n.\r\n".toList
        ∧ (∃ session,
            (((srvBackend sampleServers .mysql).chkNgNameCorrectness
                (strtok ',' (crossGroups 2000))).run openSession).run (exec postExtern) fourGroups
              = (.ok (true, session), fourGroups))
        ∧ removeFields len (headerBuffer (crossPost 2000) len) = some kept
        ∧ ∀ author subject, ¬StatementsWhole (crossRow 2000 kept author subject) := by
  obtain ⟨len, found, clean, passed⟩ := checkArticle_crossPost 2000
  have early : NUL ∉ (crossPost 2000).take 4 := fun member => clean (List.mem_of_mem_take member)
  obtain ⟨kept, removed, -⟩ :=
    foldlM_removePassAt (fun _ member => member) (keepsEnd_headerBuffer found early)
  refine ⟨?_, len, kept, passed, ?_, removed, fun author subject whole => ?_⟩
  · exact received_crossPost 2000 (by decide)
  · rw [strtok_crossGroups]
    exact mysql_accepts 2001 openSession
  · have short := (statementsWhole_iff _).mp whole
    have list : (crossRow 2000 kept author subject).newsgroups.length = 4001 :=
      length_crossGroups 2000
    omega

end WendzelNNTPd
