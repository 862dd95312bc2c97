import WendzelNNTPd.Server.Post
import WendzelNNTPd.Lib.SqlLiteral

/-! The statement that puts an article into `postings`, as the three backends hand it to
their servers, and the row that results. `docmd_post` escapes the From and Subject values; the
backends print all values with `%q` (SQLite) or `%s` (MySQL), or pass them as parameters
(PostgreSQL).
-/

namespace WendzelNNTPd

open CString SqlLiteral

/-- The values of a row as text, in the order of the columns. -/
def Posting.columns (row : Posting) : List Str :=
  [row.msgid, decInt row.date, row.author, row.newsgroups, row.subject, decInt row.lines,
    row.header]

/-- The statement of `db_sqlite3_post_insert_into_postings`. -/
def dbSqlite3PostInsertIntoPostings (row : Posting) : Str :=
  snprintf (2 * row.statementLen - 1) (sqlite3InsertText row)

def mysqlInsertHead : Str :=
  ("insert into postings (\x60msgid\x60, \x60date\x60, \x60author\x60, \x60newsgroups\x60, "
    ++ "\x60subject\x60, \x60lines\x60, \x60header\x60) values ('").toList

/-- The statement of `db_mysql_post_insert_into_postings`. -/
def dbMysqlPostInsertIntoPostings (row : Posting) : Str :=
  snprintf (row.statementLen - 1)
    (mysqlInsertHead
      ++ rowText
          [row.msgid, decInt row.date, row.author, row.newsgroups, row.subject,
            decInt row.lines, row.header]
          ");".toList)

/-- The parameters of `db_postgres_post_insert_into_postings`. -/
def dbPostgresPostInsertIntoPostings (row : Posting) : List Str :=
  [row.msgid, decInt row.date, row.author, row.newsgroups, row.subject, decInt row.lines,
    row.header]

/-- The row that `db_post_insert_into_postings` inserts; `none` if the text is anything but one
statement that inserts seven literals. -/
def insertedColumns : Dbase → Posting → Option (List Str)
  | .sqlite3, row =>
      readInsert false sqlite3InsertHead 7 (dbSqlite3PostInsertIntoPostings row)
  | .mysql, row => readInsert true mysqlInsertHead 7 (dbMysqlPostInsertIntoPostings row)
  | .postgres, row => some (dbPostgresPostInsertIntoPostings row)

/-- The escaping in `docmd_post`: From and Subject only. -/
def Posting.secured (dbase : Dbase) (row : Posting) : Posting :=
  { row with
    author := dbSecureSqlbuffer dbase row.author
    subject := dbSecureSqlbuffer dbase row.subject }

/-- The row that `docmd_post` inserts for an article with the given values. -/
def docmdPostInserts (dbase : Dbase) (row : Posting) : Option (List Str) :=
  insertedColumns dbase (row.secured dbase)

/-- When the row that is inserted has the values of the article. -/
def Posting.insertsVerbatim (row : Posting) : Dbase → Prop
  | .sqlite3 =>
      '\'' ∉ row.author ∧ '\'' ∉ row.subject
      ∧ row.msgid.length + row.msgid.count '\'' + (decInt row.date).length
          + row.newsgroups.length + row.newsgroups.count '\'' + (decInt row.lines).length
          + row.header.count '\''
        ≤ 8074 + row.header.length + row.subject.length + row.author.length
  | .mysql =>
      plain row.msgid = true ∧ plain row.newsgroups = true ∧ plain row.header = true
      ∧ row.msgid.length + (decInt row.date).length + row.newsgroups.length
          + (decInt row.lines).length ≤ 3965
  | .postgres => True

section Decimal

theorem mem_decInt {n : Int} {c : Char} (member : c ∈ decInt n) : c = '-' ∨ c.isDigit := by
  unfold decInt at member
  split at member
  · rcases List.mem_cons.mp member with rfl | digit
    · exact Or.inl rfl
    · exact Or.inr (isDigit_of_mem_dec digit)
  · exact Or.inr (isDigit_of_mem_dec member)

theorem decInt_ordinary {n : Int} {c : Char} (member : c ∈ decInt n) : c ≠ '\'' ∧ c ≠ '\\' := by
  rcases mem_decInt member with rfl | digit
  · decide
  · constructor
    · rintro rfl
      exact absurd digit (by decide)
    · rintro rfl
      exact absurd digit (by decide)

theorem plain_decInt (n : Int) : plain (decInt n) = true :=
  plain_of_forall (fun _ member => decInt_ordinary member)

theorem decInt_ne_nil (n : Int) : decInt n ≠ [] := by
  unfold decInt
  split
  · simp
  · simp [dec]

theorem head_decInt (n : Int) (text : Str) : (decInt n ++ text).head? ≠ some '\'' := by
  cases digits : decInt n with
  | nil => exact absurd digits (decInt_ne_nil n)
  | cons c cs =>
      have first : c ∈ decInt n := by simp [digits]
      simpa using (decInt_ordinary first).1

theorem sqlite3Q_decInt (n : Int) : sqlite3Q (decInt n) = decInt n := by
  have unchanged : dbSecureSqlbuffer .sqlite3 (decInt n) = decInt n := by
    rw [dbSecureSqlbuffer_eq_self_iff]
    intro c member
    simpa [Dbase.escaped] using (decInt_ordinary member).1
  exact unchanged

end Decimal

section Sqlite3

theorem scan_sqlite3Q (c : Char) (text : Str)
    : scan false (Dbase.sqlite3.escapeChar c ++ text) = (scan false text).map (emit [c]) := by
  simp only [Dbase.escapeChar]
  split
  · rename_i quote
    subst quote
    exact scan_doubled text
  · rename_i notQuote
    exact scan_ordinary notQuote (by simp) text

theorem length_sqlite3Q (s : Str) : (sqlite3Q s).length = s.length + s.count '\'' := by
  induction s with
  | nil => rfl
  | cons c cs ih =>
      simp only [sqlite3Q, List.flatMap_cons, List.length_append] at ih ⊢
      rw [ih]
      by_cases quote : c = '\''
      · subst quote
        simp
        omega
      · simp [quote]
        omega

theorem readRow_sqlite3 (row : Posting) (tail : Str)
    : readRow false 7 (rowText (row.columns.map sqlite3Q) (')' :: tail))
      = some (row.columns, ')' :: tail) :=
  readRow_escaped scan_sqlite3Q (by simp) row.columns

/-- Whatever the values are, SQLite reads back those it was handed, if the text fits. -/
theorem insertedColumns_sqlite3_iff {row : Posting} {columns : List Str}
    : insertedColumns .sqlite3 row = some columns
      ↔ row.columns = columns
        ∧ row.msgid.length + row.msgid.count '\'' + (decInt row.date).length
            + row.author.count '\'' + row.newsgroups.length + row.newsgroups.count '\''
            + row.subject.count '\'' + (decInt row.lines).length + row.header.count '\''
          ≤ 8074 + row.header.length + row.subject.length + row.author.length := by
  have written : row.columns.map sqlite3Q
      = [sqlite3Q row.msgid, decInt row.date, sqlite3Q row.author, sqlite3Q row.newsgroups,
          sqlite3Q row.subject, decInt row.lines, sqlite3Q row.header] := by
    simp [Posting.columns, sqlite3Q_decInt]
  have reads (tail behind : Str) (_ : '\'' ∉ tail)
      : readRow false 7 (rowText (row.columns.map sqlite3Q) (')' :: tail)) = some (columns, behind)
        ↔ row.columns = columns ∧ behind = ')' :: tail := by
    rw [readRow_sqlite3]
    simp [eq_comm]
  have headLength : sqlite3InsertHead.length = 88 := by
    unfold sqlite3InsertHead
    repeat rw [String.toList_ofList]
    rfl
  have fits := readInsert_take_iff sqlite3InsertHead (2 * row.statementLen - 1 - 1) reads
  rw [written] at fits
  refine fits.trans (and_congr_right (fun _ => ?_))
  simp only [rowText, separator, List.length_append, List.length_cons, List.length_nil,
    headLength, length_sqlite3Q, Posting.statementLen]
  omega

end Sqlite3

section Mysql

theorem scan_mysqlEscapeChar (c : Char) (text : Str)
    : scan true (mysqlEscapeChar c ++ text) = (scan true text).map (emit [c]) := by
  unfold mysqlEscapeChar
  repeat' split
  all_goals first
    | (rename_i special; subst special; exact scan_backslash _ text)
    | exact scan_ordinary ‹_› (by simp_all) text

theorem head_mysqlRealEscapeString {value : Str} (nonempty : value ≠ []) (text : Str)
    : (mysqlRealEscapeString value ++ text).head? ≠ some '\'' := by
  cases value with
  | nil => exact absurd rfl nonempty
  | cons c value =>
      simp only [mysqlRealEscapeString, List.flatMap_cons, List.append_assoc]
      unfold mysqlEscapeChar
      repeat' split
      all_goals simp_all

/-- The values that MySQL reads are those of the article if and only if the three values that
nobody escapes are plain.
Witness: the values one after another; a value that swallows its closing quote would have to
end with the blank in front of the next one.
-/
theorem readRow_mysql (row : Posting) {tail : Str} (noQuote : '\'' ∉ tail) (behind : Str)
    : readRow true 7
          (rowText
            [row.msgid, decInt row.date, mysqlRealEscapeString row.author, row.newsgroups,
              mysqlRealEscapeString row.subject, decInt row.lines, row.header] (')' :: tail))
        = some (row.columns, behind)
      ↔ (plain row.msgid = true ∧ plain row.newsgroups = true ∧ plain row.header = true)
        ∧ behind = ')' :: tail := by
  have comma (text : Str) : (separator ++ text).head? ≠ some '\'' := by simp [separator]
  have number (n : Int) (text : Str) : ReadsWhen true (decInt n) (separator ++ text) (decInt n) True :=
    .of_scan (scan_plain (comma text) (plain_decInt n))
  have escaped (value text : Str)
      : ReadsWhen true (mysqlRealEscapeString value) (separator ++ text) value True :=
    .of_scan (scan_flatMap scan_mysqlEscapeChar (comma text) value)
  have msgid := fun (text : Str) =>
    readsWhen_plain (comma (decInt row.date ++ text))
      (fun _ _ => swallowed_before_value (head_decInt row.date text)) row.msgid
  have newsgroups := fun (text : Str) =>
    readsWhen_plain
      (comma (mysqlRealEscapeString row.subject ++ '\'' :: (separator ++ (decInt row.lines ++ text))))
      (by
        intro after behind goesOn
        by_cases empty : row.subject = []
        · rw [empty] at goesOn
          exact swallowed_before_empty (head_decInt row.lines text) goesOn
        · exact swallowed_before_value (head_mysqlRealEscapeString empty _) goesOn)
      row.newsgroups
  have header : ReadsWhen true row.header (')' :: tail) row.header (plain row.header = true) := by
    refine readsWhen_plain (by simp) (fun after behind goesOn => ?_) row.header
    rw [scan_eq_none (by simpa using noQuote)] at goesOn
    cases goesOn
  simp only [rowText, Posting.columns]
  rw [readRow_cons (msgid _), readRow_cons (number _ _), readRow_cons (escaped _ _),
    readRow_cons (newsgroups _), readRow_cons (escaped _ _), readRow_cons (number _ _),
    readRow_last header]
  simp only [true_and, and_assoc]

theorem insertedColumns_mysql_iff {row : Posting}
    : insertedColumns .mysql (row.secured .mysql) = some row.columns
      ↔ row.insertsVerbatim .mysql := by
  have headLength : mysqlInsertHead.length = 102 := by
    unfold mysqlInsertHead
    rw [String.toList_append, String.toList_ofList, String.toList_ofList]
    rfl
  have fits :=
    readInsert_take_iff mysqlInsertHead ((row.secured .mysql).statementLen - 1 - 1)
      (fun _ behind noQuote => readRow_mysql row noQuote behind)
  refine fits.trans ?_
  simp only [Posting.insertsVerbatim, and_assoc]
  refine and_congr_right (fun _ => and_congr_right (fun _ => and_congr_right (fun _ => ?_)))
  simp only [rowText, separator, List.length_append, List.length_cons, List.length_nil,
    headLength, Posting.statementLen, Posting.secured, dbSecureSqlbuffer]
  omega

end Mysql

theorem secured_sqlite3_columns {row : Posting}
    : (row.secured .sqlite3).columns = row.columns
      ↔ '\'' ∉ row.author ∧ '\'' ∉ row.subject := by
  simp [Posting.columns, Posting.secured, sqlite3_unchanged_iff]

/-- The row that `docmd_post` inserts has the values of the article exactly if the backend's
escaping and the escaping in `docmd_post` come to one layer for every value that needs it, and
the statement fits into its buffer. -/
theorem docmdPost_inserts_article_iff (dbase : Dbase) (row : Posting)
    : docmdPostInserts dbase row = some row.columns ↔ row.insertsVerbatim dbase := by
  cases dbase with
  | sqlite3 =>
      rw [docmdPostInserts, insertedColumns_sqlite3_iff, secured_sqlite3_columns, and_assoc]
      refine and_congr_right (fun author => and_congr_right (fun subject => ?_))
      have same : row.secured .sqlite3 = row := by
        simp only [Posting.secured, sqlite3_unchanged_iff.mpr author,
          sqlite3_unchanged_iff.mpr subject]
      rw [same, List.count_eq_zero_of_not_mem author, List.count_eq_zero_of_not_mem subject]
      omega
  | mysql => exact insertedColumns_mysql_iff
  | postgres => simp [docmdPostInserts, insertedColumns, dbPostgresPostInsertIntoPostings,
      Posting.insertsVerbatim, Posting.columns, Posting.secured, dbSecureSqlbuffer]

/-- The row that `docmd_post` hands to the SQLite backend is that of the article with its From
and Subject values escaped. -/
theorem postingRow_eq_secured (ext : Extern) (env : Env) (messageId : Str) (ltime : Int)
    {ngstrp header body sender subject : Str}
    (fromLine : cdpReturnLinevalue header "From:".toList = some sender)
    (subjectLine : cdpReturnLinevalue header "Subject:".toList = some subject)
    : postingRow ext env messageId ltime ngstrp header body
      = { postingRow ext env messageId ltime ngstrp header body with
          author := sender, subject := subject }.secured .sqlite3 := by
  simp only [postingRow, Posting.secured, fromLine, subjectLine, secureOrNull, Option.map_some,
    Option.getD_some]

/-- An article whose sender has an apostrophe in the name. -/
def apostropheArticle : Str :=
  "From: O'Brien <ob@b.org>\r\nNewsgroups: a\r\nSubject: hi\r\n\r\nhello\r\n.\r\n".toList

/-- Its values, with the lines that the server adds to the header. -/
def apostropheRow : Posting where
  msgid := "<cdp1@WendzelNNTPdAnonymous>".toList
  date := 0
  author := "O'Brien <ob@b.org>".toList
  newsgroups := "a".toList
  subject := "hi".toList
  lines := 1
  header :=
    ("Path: news.unknown\r\nMessage-ID: <cdp1@WendzelNNTPdAnonymous>\r\n"
      ++ "Date: Thu, 01 Jan 1970 00:00:00\r\nLines: 1\r\nX-WendzelNNTPdBodysize: 10\r\n"
      ++ "From: O'Brien <ob@b.org>\r\nNewsgroups: a\r\nSubject: hi\r\n").toList

/-- SQLite stores the apostrophe of the From value twice, and MySQL gets a statement that the
apostrophe of the unescaped header breaks off. -/
theorem apostrophe_not_inserted_verbatim
    : (∃ header, checkArticle apostropheArticle
          = .passed 52 header apostropheRow.newsgroups "hello\r\n.\r\n".toList
        ∧ cdpReturnLinevalue (cstr header) "From:".toList = some apostropheRow.author
        ∧ cdpReturnLinevalue (cstr header) "Subject:".toList = some apostropheRow.subject)
      ∧ docmdPostInserts .sqlite3 apostropheRow
        = some { apostropheRow with author := "O''Brien <ob@b.org>".toList }.columns
      ∧ docmdPostInserts .sqlite3 apostropheRow ≠ some apostropheRow.columns
      ∧ docmdPostInserts .mysql apostropheRow = none := by
  -- The kernel is faster on a list of characters than on the literal it stands for.
  have twice : docmdPostInserts .sqlite3 apostropheRow
      = some { apostropheRow with author := "O''Brien <ob@b.org>".toList }.columns := by
    unfold docmdPostInserts insertedColumns dbSqlite3PostInsertIntoPostings sqlite3InsertText
      sqlite3InsertHead apostropheRow
    dsimp only
    rw [String.toList_append, String.toList_append]
    repeat rw [String.toList_ofList]
    decide +kernel
  refine ⟨⟨headerBuffer apostropheArticle 52, ?_, ?_, ?_⟩, twice, ?_, ?_⟩
  · unfold apostropheArticle
    rw [String.toList_ofList, String.toList_ofList]
    decide +kernel
  · unfold apostropheArticle
    rw [String.toList_ofList]
    decide +kernel
  · unfold apostropheArticle
    rw [String.toList_ofList]
    decide +kernel
  · rw [twice]
    decide
  · unfold docmdPostInserts insertedColumns dbMysqlPostInsertIntoPostings mysqlInsertHead
      apostropheRow
    dsimp only
    rw [String.toList_append, String.toList_ofList, String.toList_ofList, String.toList_append,
      String.toList_append]
    iterate 3 rw [String.toList_ofList]
    decide +kernel

end WendzelNNTPd
