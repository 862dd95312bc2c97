import WendzelNNTPd.Posting.Overview
import WendzelNNTPd.Posting.ReceiveLoop

/-! The two counts in the lines of XOVER. The line count is a column of the database, which POST
has filled with the line feeds of the body, counted from -1. The byte count is read back out of
the stored header, where the server's own line comes first, and the length of the header is then
added in an `int`. Lines are always counted right; bytes are unless header and body together have
2^31 or more.
-/

namespace WendzelNNTPd

open CString Atomic

-----------------------------------------------------------------------------------------
-- The lines of a body
-----------------------------------------------------------------------------------------

/-- The body consists of the lines and the dot line that ends it. -/
structure IsBodyOf (lines : List Str) (body : Str) : Prop where
  joined : body = lines.flatMap (· ++ ['\n']) ++ ".\r\n".toList
  whole : ∀ line ∈ lines, '\n' ∉ line

/-- A text that is empty or ends with a line feed consists of lines.
Witness: induction on the text; a byte in front of it starts a line if it is a line feed, and is
else added to the first one.
-/
theorem exists_lines {text : Str} (ends : ∀ c, text.getLast? = some c → c = '\n')
    : ∃ lines : List Str, text = lines.flatMap (· ++ ['\n']) ∧ ∀ line ∈ lines, '\n' ∉ line := by
  induction text with
  | nil => exact ⟨[], rfl, by simp⟩
  | cons c rest ih =>
      obtain ⟨lines, joined, whole⟩ := ih fun d last => ends d (by
        rw [List.getLast?_cons, last]
        rfl)
      by_cases lf : c = '\n'
      · refine ⟨[] :: lines, by simp [lf, ← joined], ?_⟩
        simpa using whole
      · have more : rest ≠ [] := by
          rintro rfl
          exact lf (ends c rfl)
        cases lines with
        | nil => exact absurd joined more
        | cons first others =>
            refine ⟨(c :: first) :: others, by simp [joined], ?_⟩
            simp only [List.mem_cons, forall_eq_or_imp, not_or] at whole ⊢
            exact ⟨⟨Ne.symm lf, whole.1⟩, whole.2⟩

theorem count_lines {lines : List Str} (whole : ∀ line ∈ lines, '\n' ∉ line)
    : (lines.flatMap (· ++ ['\n'])).count '\n' = lines.length := by
  induction lines with
  | nil => rfl
  | cons line rest ih =>
      have none : line.count '\n' = 0 := List.count_eq_zero.mpr (whole line (by simp))
      rw [List.flatMap_cons, List.count_append, List.count_append, none,
        ih (fun other member => whole other (List.mem_cons_of_mem line member)), List.length_cons]
      simp only [List.count_singleton_self]
      omega

/-- The line feeds, counted from -1, are the lines in front of the dot line. -/
theorem linecount_eq {lines : List Str} {body : Str} (is : IsBodyOf lines body)
    : linecount body = lines.length := by
  have dot : ".\r\n".toList.count '\n' = 1 := by decide
  rw [linecount, is.joined, List.count_append, count_lines is.whole, dot]
  omega

section Received

variable {buf : Str}

/-- An article without NUL ends with the terminator. -/
theorem terminator_of_received {maxPostSize : Nat} {events : List RecvEvent} (nul : NUL ∉ buf)
    (received : postReceive maxPostSize [] events = .article buf)
    : terminator <:+ buf := by
  obtain ⟨whole, found, -⟩ := found_of_postReceive (Nat.zero_le _) received
  have same : whole = buf := by
    obtain ⟨i, -, cut⟩ := Option.map_eq_some_iff.mp found
    by_cases inside : (if whole.length > 5 then whole.length - 5 else 0) + i + 5 < whole.length
    · refine absurd ?_ nul
      rw [← cut]
      exact List.mem_set inside NUL
    · rw [← cut, List.set_eq_of_length_le (by omega)]
  subst same
  rw [findTerminator_eq nul] at found
  by_contra other
  rw [if_neg other] at found
  cases found

/-- The body of an article without NUL consists of lines and the dot line.
Witness: the boundary has no dot, so that it cannot reach over the one of the terminator.
-/
theorem exists_isBodyOf {maxPostSize : Nat} {events : List RecvEvent} (nul : NUL ∉ buf)
    (received : postReceive maxPostSize [] events = .article buf) {len : Nat}
    {header ngstrp body : Str} (passed : checkArticle buf = .passed len header ngstrp body)
    : ∃ lines, IsBodyOf lines body := by
  obtain ⟨front, whole⟩ := terminator_of_received nul received
  have passes := passesChecks_of_passed passed
  have hit := strstr_some_prefix passes.boundary
  have rest := passes.rest
  have nonempty := passes.nonempty
  rw [cstr_eq_self nul] at hit rest
  have parts : buf = (front ++ "\r\n".toList) ++ ".\r\n".toList := by
    rw [← whole, List.append_assoc]
    rfl
  have size : (front ++ "\r\n".toList).length = front.length + 2 := by
    rw [List.length_append]
    rfl
  have inside : len + 4 ≤ front.length + 2 := by
    by_contra beyond
    have notEmpty : len + 4 < buf.length := by
      by_contra short
      exact nonempty (rest.trans (List.drop_eq_nil_of_le (by omega)))
    have length : buf.length = front.length + 5 := by
      rw [parts, List.length_append, size]
      rfl
    have dot : buf[front.length + 2]? = some '.' := by
      rw [parts, List.getElem?_append_right (by omega), size, Nat.sub_self]
      rfl
    obtain ⟨later, boundary⟩ := hit
    have offset : len + (front.length + 2 - len) = front.length + 2 := by omega
    rw [← offset, ← List.getElem?_drop, ← boundary,
      List.getElem?_append_left (by rw [show headerSep.length = 4 from rfl]; omega)] at dot
    have member : '.' ∈ headerSep := List.mem_of_getElem? dot
    exact absurd member (by decide)
  have text : body = (front ++ "\r\n".toList).drop (len + 4) ++ ".\r\n".toList := by
    rw [rest, parts, List.drop_append_of_le_length (by omega)]
  obtain ⟨lines, joined, all⟩ :=
    @exists_lines ((front ++ "\r\n".toList).drop (len + 4)) (fun c last => by
      have lf : (front ++ "\r\n".toList).getLast? = some '\n' := by
        rw [List.getLast?_append]
        rfl
      rw [List.getLast?_drop] at last
      split at last
      · cases last
      · rw [lf] at last
        exact (Option.some.inj last).symm)
  exact ⟨lines, by rw [text, joined], all⟩

end Received

-----------------------------------------------------------------------------------------
-- The two fields
-----------------------------------------------------------------------------------------

/-- A line of nine fields that shows the length of header and body as byte count and the number
of lines in front of the dot line as line count. -/
structure ShowsCounts (line : Str) (fields : List Str) (header body : Str) : Prop where
  nine : fields.length = 9
  joined : line = ['\t'].intercalate fields ++ "\r\n".toList
  bytes : fields[6]? = some (dec (header.length + body.length))
  lines : ∃ lines, IsBodyOf lines body ∧ fields[7]? = some (dec lines.length)

/-- The texts the system hands to the server: dates fit their buffer of 39 bytes, no line ends
within a name or an address, and sizes are of the type `int`. -/
structure SystemLines (ext : Extern) (cfg : Config) (env : Env) : Prop where
  date : ∀ t, OneLine (ext.localtimeToStr t) ∧ (ext.localtimeToStr t).length ≤ 38
  name :
    ∀ name, env.addr = some name ∨ env.hostinfo = some name ∨ env.hostname = some name
      ∨ env.domainname = some name → OneLine name ∧ name.length ≤ 1024
  maxPostSize : cfg.maxPostSize < 2 ^ 31

section Counts

variable {ext : Extern} {cfg : Config} {env : Env}

theorem SystemLines.host (texts : SystemLines ext cfg env) {host : Str}
    (named : messageIdHost cfg env = some host)
    : OneLine host ∧ host.length ≤ 1024 := by
  refine messageIdHost_of (P := fun host => OneLine host ∧ host.length ≤ 1024) (by decide)
    (by decide) (fun name known => ?_) named
  rcases known with known | known
  · exact texts.name name (Or.inl known)
  · exact texts.name name (Or.inr (Or.inl known))

theorem oneLine_numberedId (id : Nat) {host : Str} (one : OneLine host)
    : OneLine (numberedId id host) := by
  unfold numberedId
  refine OneLine.append (.append (.append (.append ?_ (fieldText_dec id).2) ?_) one) ?_
  · decide
  · decide
  · decide

theorem decInt_eq_dec_iff {n : Int} {m : Nat} : decInt n = dec m ↔ n = m := by
  unfold decInt
  split
  · rename_i negative
    constructor
    · intro same
      have digit : '-' ∈ dec m := same ▸ List.mem_cons_self ..
      exact absurd (isDigit_of_mem_dec digit) (by decide)
    · intro same
      omega
  · rw [dec_injective.eq_iff]
    omega

/-- A number is read back as it was written. -/
theorem atoiU32_dec {n : Nat} (small : n < 2 ^ 32) : atoiU32 (dec n) = n := by
  have all : ∀ c ∈ dec n, c.isDigit = true := fun c member => isDigit_of_mem_dec member
  have value : digitsValue (dec n) = n := by
    unfold digitsValue
    rw [List.takeWhile_eq_self_iff.mpr all]
    exact Nat.ofDigitChars_ten_toDigits
  have nonempty : dec n ≠ [] := Nat.toDigits_ne_nil
  have read := @atol_digits (dec n) [] nonempty all (fun _ head => nomatch head)
  rw [List.append_nil, value] at read
  rw [atoiU32, read]
  omega

/-- The server's own line gives the size of the body, whatever the client's lines are. -/
theorem bodysize_of_stored {messageId date header : Str} {count : Int} {bodysize : Nat}
    (one : ∀ line ∈ serverLines env messageId date count bodysize, OneLine line)
    : cdpReturnLinevalue (crlfLines (serverLines env messageId date count bodysize) ++ header)
        "X-WendzelNNTPdBodysize:".toList
      = some (dec bodysize) := by
  have plain : LineKey "X-WendzelNNTPdBodysize:".toList := ⟨by decide, by decide, by decide⟩
  have split : crlfLines (serverLines env messageId date count bodysize) ++ header
      = crlfLines ["Path: ".toList ++ fqdn env, "Message-ID: ".toList ++ messageId,
          "Date: ".toList ++ date, "Lines: ".toList ++ decInt count]
        ++ (("X-WendzelNNTPdBodysize: ".toList ++ dec bodysize) ++ '\r' :: '\n' :: header) := by
    simp [serverLines]
  have others : ∀ line ∈ ["Path: ".toList ++ fqdn env, "Message-ID: ".toList ++ messageId,
      "Date: ".toList ++ date, "Lines: ".toList ++ decInt count],
      OneLine line ∧ keyLine "X-WendzelNNTPdBodysize:".toList line = false := by
    intro line member
    refine ⟨one line ?_, ?_⟩
    · simp only [serverLines, List.mem_cons, List.not_mem_nil, or_false] at member ⊢
      tauto
    · simp only [List.mem_cons, List.not_mem_nil, or_false] at member
      rcases member with rfl | rfl | rfl | rfl <;> rfl
  have own := one ("X-WendzelNNTPdBodysize: ".toList ++ dec bodysize) (by simp [serverLines])
  rw [split, linevalue_lines plain _ others, linevalue_here plain own rfl]
  have value : ("X-WendzelNNTPdBodysize: ".toList ++ dec bodysize).drop
      ("X-WendzelNNTPdBodysize:".toList.length + 1) = dec bodysize := rfl
  have nonempty : (dec bodysize).isEmpty = false := by
    rw [List.isEmpty_eq_false_iff]
    exact Nat.toDigits_ne_nil
  rw [lineValue, value, nonempty]
  rfl

/-- The byte count of a stored article is right as long as an `int` can hold it. -/
theorem overviewBytes_eq_iff {p : Posting} {bodysize : Nat} (small : bodysize < 2 ^ 31)
    (own : cdpReturnLinevalue p.header "X-WendzelNNTPdBodysize:".toList = some (dec bodysize))
    : overviewBytes p = (p.header.length + bodysize : Nat) ↔ p.header.length + bodysize < 2 ^ 31 := by
  have read : asInt32 (atoiU32 (dec bodysize)) = bodysize := by
    rw [atoiU32_dec (by omega), asInt32]
    omega
  rw [overviewBytes, own]
  simp only
  rw [read, addLength, asInt32]
  omega

/-- The overview line of an article from POST shows the right counts exactly if an `int` can
hold the byte count. -/
theorem showsCounts_of_stored {s : Store} {id : Nat} {article : Article} {n : Ngpost}
    (texts : SystemLines ext cfg env) (stores : s.postStores cfg env = some (id, article))
    (bounded : id < 2 ^ 64)
    (nul : ∀ buf, postReceive cfg.maxPostSize [] env.recv = .article buf → NUL ∉ buf)
    : ShowsCounts (overviewLine ext (n, article.row ext env id))
        (overviewFields ext (n, article.row ext env id)) (article.row ext env id).header article.body
      ↔ (article.row ext env id).header.length + article.body.length < 2 ^ 31 := by
  obtain ⟨named, bodySize⟩ := stored_article stores
  have small : article.body.length < 2 ^ 31 := bodySize.trans_lt texts.maxPostSize
  obtain ⟨oneHost, short⟩ := texts.host named
  obtain ⟨oneDate, shortDate⟩ := texts.date article.ltime
  have name : OneLine (fqdn env) := oneLine_fqdn fun name known =>
    (texts.name name (Or.inr (Or.inr known))).1
  have own : cdpReturnLinevalue (article.row ext env id).header "X-WendzelNNTPdBodysize:".toList
      = some (dec article.body.length) := by
    rw [header_of_stored short bounded shortDate small]
    exact bodysize_of_stored (oneLine_serverLines name (oneLine_numberedId id oneHost) oneDate _ _)
  have bytes := overviewBytes_eq_iff small own
  have shown : (overviewFields ext (n, article.row ext env id))[6]?
      = some (decInt (overviewBytes (article.row ext env id))) := rfl
  constructor
  · intro right
    have same := right.bytes
    rw [shown, Option.some.injEq, decInt_eq_dec_iff] at same
    exact bytes.mp same
  · intro fits
    obtain ⟨buf, len, header, body, received, passed, ready⟩ := postStores_received stores
    obtain ⟨lines, is⟩ := exists_isBodyOf (nul buf received) received passed
    rw [← (prepareArticle_ok ready).2] at is
    refine ⟨rfl, overviewLine_eq shortDate (linecount_small small), ?_, lines, is, ?_⟩
    · rw [shown, decInt_eq_dec_iff.mpr (bytes.mpr fits)]
    · have count : (overviewFields ext (n, article.row ext env id))[7]?
          = some (decInt (linecount article.body)) := rfl
      rw [count, decInt_eq_dec_iff.mpr (linecount_eq is)]

end Counts

/-- For every article without NUL that POST has answered with 240, wherever XOVER lists it later:
its line shows the lines in front of the dot line and the bytes of the stored header and body if
and only if these are fewer than 2^31. -/
theorem overview_counts_iff_small (ext : Extern) (cfg : Config) (env : Env)
    (texts : SystemLines ext cfg env) (s : Store)
    (counter : ∀ id, s.nextId = some id → id < 2 ^ 64) (session : Session)
    (nul : ∀ buf, postReceive cfg.maxPostSize [] env.recv = .article buf → NUL ∉ buf)
    (answered : (PostEnd.reply postdone).IsEndOf session
      (((docmdPost ext cfg env).run session).run (exec ext) s).1)
    : ∃ id article, s.postStores cfg env = some (id, article)
      ∧ (((docmdPost ext cfg env).run session).run (exec ext) s).2.postings
        = s.postings ++ [article.row ext env id]
      ∧ (((docmdPost ext cfg env).run session).run (exec ext) s).2.spool
          (bodyFile (article.row ext env id).msgid)
        = (if s.spoolWritable then some article.body else none)
      ∧ ∀ (later : Store) (group : Str) (min max : Nat) (reader : Session) (n : Ngpost),
          (n, article.row ext env id)
            ∈ (exec ext (.selectOverview group (asInt32 min) (asInt32 max)) later).1
          → ((dbXover ext group min max).run reader).run (exec ext) later
              = (.ok ((), { reader with
                  curstring := reader.curstring
                    ++ (exec ext (.selectOverview group (asInt32 min) (asInt32 max)) later).1.map
                      (fun row => ⟨overviewLine ext row, some row.1⟩) }), later)
            ∧ (ShowsCounts (overviewLine ext (n, article.row ext env id))
                (overviewFields ext (n, article.row ext env id)) (article.row ext env id).header
                article.body
              ↔ (article.row ext env id).header.length + article.body.length < 2 ^ 31) := by
  obtain ⟨id, article, stores, posted, written⟩ := posted_of_answered answered
  refine ⟨id, article, stores, posted, written, fun later group min max reader n _ => ⟨?_, ?_⟩⟩
  · exact dbXover_run ext group min max later reader
  · exact showsCounts_of_stored texts stores (counter id (postStores_checked stores).2) nul

/-- A client that sends counts of its own. -/
def countingEnv : Env :=
  sendingEnv (articleWith "Lines: 77\r\nX-WendzelNNTPdBodysize: 9".toList)

/-- What POST keeps of it. -/
def countingArticle : Article where
  host := nntpdAnonymHost
  ltime := 0
  ngstrp := "a".toList
  header := "From: a@b.org\r\nNewsgroups: a\r\nSubject: hi\r\nX-WendzelNNTPdBodysize: 9\r\n".toList
  body := "hello\r\n.\r\n".toList

theorem openLines (text : Str) : SystemLines postExtern openConfig (sendingEnv text) := by
  have texts := openTexts text
  refine ⟨fun t => ?_, fun name known => ?_, texts.maxPostSize⟩
  · exact ⟨(texts.date t).1.2, (texts.date t).2⟩
  · exact ⟨(texts.name name known).1.2, (texts.name name known).2⟩

/-- The server's counts are shown, not those of the client. -/
theorem counting_shows_counts
    : ∃ row,
        row ∈ (exec postExtern (.selectOverview "a".toList 1 1)
          (((docmdPost postExtern openConfig countingEnv).run openSession).run (exec postExtern)
            fourGroups).2).1
        ∧ ShowsCounts (overviewLine postExtern row) (overviewFields postExtern row) row.2.header
          countingArticle.body := by
  have posted : (fourGroups.post postExtern openConfig countingEnv none).1 = .reply postdone := by
    unfold countingEnv articleWith postExtern
    repeat rw [String.toList_ofList]
    decide +kernel
  have stored : fourGroups.postStores openConfig countingEnv = some (1, countingArticle) := by
    unfold countingEnv articleWith countingArticle
    repeat rw [String.toList_ofList]
    decide +kernel
  have rows :
      (exec postExtern (.selectOverview "a".toList 1 1)
        (((docmdPost postExtern openConfig countingEnv).run openSession).run (exec postExtern)
          fourGroups).2).1
        = [(⟨numberedId 1 nntpdAnonymHost, "a".toList, 1⟩,
            countingArticle.row postExtern countingEnv 1)] := by
    unfold countingEnv articleWith postExtern countingArticle
    repeat rw [String.toList_ofList]
    decide +kernel
  have small : (countingArticle.row postExtern countingEnv 1).header.length
      + countingArticle.body.length < 2 ^ 31 := by
    unfold countingEnv articleWith postExtern countingArticle
    repeat rw [String.toList_ofList]
    decide +kernel
  have received : postReceive openConfig.maxPostSize [] countingEnv.recv
      = .article (articleWith "Lines: 77\r\nX-WendzelNNTPdBodysize: 9".toList) := by
    decide +kernel
  have clean : NUL ∉ articleWith "Lines: 77\r\nX-WendzelNNTPdBodysize: 9".toList := by
    decide +kernel
  obtain ⟨id, article, stores, -, -, listed⟩ :=
    overview_counts_iff_small postExtern openConfig countingEnv (openLines _) fourGroups
      (fun id next => by cases next; decide) openSession
      (fun buf found => by
        rw [received] at found
        cases found
        exact clean)
      (answered_of_post posted)
  rw [stored] at stores
  cases stores
  have there := List.mem_singleton_self
    ((⟨numberedId 1 nntpdAnonymHost, "a".toList, 1⟩ : Ngpost),
      countingArticle.row postExtern countingEnv 1)
  rw [← rows] at there
  exact ⟨_, there, (listed _ "a".toList 1 1 openSession _ there).2.mpr small⟩

-----------------------------------------------------------------------------------------
-- A large article
-----------------------------------------------------------------------------------------

section Longer

variable {text : Str}

theorem headerEnd_append {i end' : Nat} (found : headerEnd i text = some end') (more : Str)
    : headerEnd i (text ++ more) = some end' := by
  induction text generalizing i with
  | nil => cases found
  | cons c cs ih =>
      unfold headerEnd at found
      split at found
      · cases found
      · rename_i notNul
        have long : 4 < (c :: cs).length := by
          by_contra short
          refine notNul ?_
          rw [byteAt, List.getElem?_eq_none (by omega)]
          rfl
        have same : byteAt (c :: cs ++ more) 4 = byteAt (c :: cs) 4 := by
          unfold byteAt
          rw [List.getElem?_append_left long]
        have begins : headerSep.isPrefixOf (c :: cs ++ more) = headerSep.isPrefixOf (c :: cs) := by
          rw [Bool.eq_iff_iff, List.isPrefixOf_iff_prefix, List.isPrefixOf_iff_prefix]
          exact List.isPrefix_append_of_length long.le
        rw [List.cons_append] at same begins ⊢
        rw [headerEnd, same, if_neg notNul, begins]
        split at found
        · rename_i here
          rw [if_pos here]
          exact found
        · rename_i other
          rw [if_neg other]
          exact ih found

/-- More text behind an article that passes the checks makes its body longer. -/
theorem checkArticle_append {len : Nat} {header ngstrp body more : Str} (nul : NUL ∉ text ++ more)
    (passed : checkArticle text = .passed len header ngstrp body)
    : checkArticle (text ++ more) = .passed len header ngstrp (body ++ more) := by
  have passes := passesChecks_of_passed passed
  obtain ⟨i, ends, rfl⟩ := passes.ends
  have clean : NUL ∉ text := fun member => nul (List.mem_append_left _ member)
  have ends' := headerEnd_append ends more
  have early : NUL ∉ (text ++ more).take 4 := fun member => nul (List.mem_of_mem_take member)
  have boundary := (strstr_headerSep_iff ends').mpr early
  have first := (strstr_headerSep_iff ends).mpr fun member => clean (List.mem_of_mem_take member)
  obtain rfl : i = len := Option.some.inj (first.symm.trans passes.boundary)
  have rest := passes.rest
  rw [cstr_eq_self clean] at rest
  have inside : i + 4 < text.length := by
    by_contra short
    exact passes.nonempty (rest.trans (List.drop_eq_nil_of_le (by omega)))
  have same : headerBuffer (text ++ more) i = headerBuffer text i := by
    unfold headerBuffer
    rw [List.take_append_of_le_length (by omega)]
  have longer : (cstr (text ++ more)).drop (i + 4) = body ++ more := by
    rw [cstr_eq_self nul, rest, List.drop_append_of_le_length (by omega)]
  have nonempty : (body ++ more).isEmpty = false := by
    simp [passes.nonempty]
  unfold checkArticle
  rw [ends', boundary]
  simp only [same, longer, nonempty, passes.required, passes.newsgroups, Bool.false_eq_true, if_false]

end Longer

section Large

/-- The beginning of an article with one line of text. -/
def largeStart : Str := "From: a@b.org\r\nNewsgroups: a\r\nSubject: hi\r\n\r\nx".toList

/-- The rest of that line and the dot line. -/
def largeRest (n : Nat) : Str := List.replicate n 'x' ++ terminator

def largeConfig : Config := { openConfig with maxPostSize := 2 ^ 31 - 1 }

def largeArticle (n : Nat) : Article where
  host := nntpdAnonymHost
  ltime := 0
  ngstrp := "a".toList
  header := "From: a@b.org\r\nNewsgroups: a\r\nSubject: hi\r\n".toList
  body := 'x' :: largeRest n

variable {n : Nat}

theorem nul_notMem_large : NUL ∉ largeStart ++ largeRest n := by
  have start : NUL ∉ largeStart := by decide
  have ends : NUL ∉ terminator := by decide
  simp only [largeRest, List.mem_append, List.mem_replicate, not_or, not_and]
  exact ⟨start, fun _ => by decide, ends⟩

theorem length_large : (largeStart ++ largeRest n).length = n + 51 := by
  have start : largeStart.length = 46 := by decide
  have ends : terminator.length = 5 := rfl
  rw [largeRest, List.length_append, List.length_append, List.length_replicate, start, ends]
  omega

theorem received_large (small : n + 51 < 2 ^ 31 - 1)
    : postReceive largeConfig.maxPostSize [] [.data (largeStart ++ largeRest n)]
      = .article (largeStart ++ largeRest n) := by
  have nonempty : largeStart ++ largeRest n ≠ [] := by
    intro empty
    have size := @length_large n
    rw [empty] at size
    cases size
  have room : ([] : Str).length + (largeStart ++ largeRest n).length < largeConfig.maxPostSize := by
    rw [length_large, List.length_nil]
    exact (Nat.zero_add _).trans_lt small
  have ends : terminator <:+ largeStart ++ largeRest n := by
    rw [largeRest, ← List.append_assoc]
    exact List.suffix_append _ _
  have nul : NUL ∉ [] ++ (largeStart ++ largeRest n) := nul_notMem_large
  exact (postReceive_data nul nonempty room).trans (if_pos ends)

theorem passed_large
    : checkArticle (largeStart ++ largeRest n)
      = .passed 41 (headerBuffer largeStart 41) "a".toList ('x' :: largeRest n) := by
  have start : checkArticle largeStart
      = .passed 41 (headerBuffer largeStart 41) "a".toList ['x'] := by
    unfold largeStart
    repeat rw [String.toList_ofList]
    decide +kernel
  exact checkArticle_append nul_notMem_large start

theorem stores_large (small : n + 51 < 2 ^ 31 - 1)
    : fourGroups.postStores largeConfig (sendingEnv (largeStart ++ largeRest n))
      = some (1, largeArticle n) := by
  have removed : (removeFields 41 (headerBuffer largeStart 41)).map cstr
      = some "From: a@b.org\r\nNewsgroups: a\r\nSubject: hi\r\n".toList := by
    unfold largeStart
    repeat rw [String.toList_ofList]
    decide +kernel
  obtain ⟨kept, found, text⟩ := Option.map_eq_some_iff.mp removed
  have ready : prepareArticle largeConfig (sendingEnv (largeStart ++ largeRest n)) 41
      (headerBuffer largeStart 41) "a".toList ('x' :: largeRest n) = .ok (largeArticle n) := by
    have host : messageIdHost largeConfig (sendingEnv (largeStart ++ largeRest n))
        = some nntpdAnonymHost := rfl
    have time : (sendingEnv (largeStart ++ largeRest n)).ltime = some 0 := rfl
    have inFiles : largeConfig.messageBodyInDb = false := rfl
    simp only [prepareArticle, host, found, time, text, inFiles, Bool.false_eq_true, if_false]
    rfl
  have known : fourGroups.postRefusal (strtok ',' "a".toList) = none := by decide
  have number : fourGroups.nextId = some 1 := by decide
  have inFile : largeConfig.messageCountInDb = false := rfl
  have events : (sendingEnv (largeStart ++ largeRest n)).recv
      = [.data (largeStart ++ largeRest n)] := rfl
  simp only [Store.postStores, prepare, events, received_large small, prepareBuffer, passed_large,
    ready, known, number, inFile, Option.isNone_none, Bool.not_false, Bool.and_true, if_true,
    Option.map_some]

/-- The store behind an article for the newsgroup `a`. -/
def storedInA (row : Posting) (body text : Str) : Store :=
  ((fourGroups.counted.saveBody row.msgid body).withPosting row).deliver
    (sendingEnv text).curHighInit row.msgid ["a".toList]

/-- An article for the newsgroup `a` is delivered, whatever it is. -/
theorem storeAlone_fourGroups {cfg : Config} (anybody : (cfg.useAuth && cfg.useAcl) = false)
    {row : Posting} (fits : row.statementFits = true) (body text : Str)
    : fourGroups.counted.storeAlone cfg (sendingEnv text) none row body ["a".toList]
      = (.reply postdone, storedInA row body text) := by
  have taken : fourGroups.counted.refusesPosting row = false := by
    simp only [Store.refusesPosting, fits, Bool.not_true, Bool.false_or]
    rfl
  have served : ((fourGroups.counted.saveBody row.msgid body).withPosting row).serve
      (sendingEnv text).curHighInit row.msgid ["a".toList] .empty [] = (true, ["a".toList]) :=
    rfl
  have all : ["a".toList].filter (fourGroups.counted.mayPost cfg none) = ["a".toList] := by
    simp [Store.mayPost, anybody]
  simp only [Store.storeAlone, taken, all, served, Bool.false_eq_true, if_false]
  rfl

theorem spool_storedInA (row : Posting) (body text : Str)
    : (storedInA row body text).spool (bodyFile row.msgid) = some body := by
  have written : (storedInA row body text).spool
      = Function.update fourGroups.spool (bodyFile row.msgid) (some body) := rfl
  rw [written, Function.update_self]

theorem listed_storedInA (row : Posting) (body text : Str)
    : (exec postExtern (.selectOverview "a".toList 1 1) (storedInA row body text)).1
      = [(⟨row.msgid, "a".toList, 1⟩, row)] := by
  have numbered : ((storedInA row body text).ngRows "a".toList).filter
      (fun n => decide ((1 : Int) ≤ n.postnum ∧ (n.postnum : Int) ≤ 1))
      = [⟨row.msgid, "a".toList, 1⟩] :=
    rfl
  have only : (storedInA row body text).postings = [row] := rfl
  simp only [exec, numbered, Store.joinPostings, only]
  simp

/-- The row of the large article: one line, and a body of `n + 6` bytes. -/
theorem row_large (text : Str)
    : (largeArticle n).row postExtern (sendingEnv text) 1
      = { (largeArticle 0).row postExtern (sendingEnv []) 1 with
          header := serverHeader (sendingEnv []) (numberedId 1 nntpdAnonymHost)
            "Thu, 01 Jan 1970 00:00:00".toList 1 (n + 6) ++ (largeArticle 0).header } := by
  have count : linecount ('x' :: largeRest n) = 1 := by
    have none : (List.replicate n 'x').count '\n' = 0 := by
      rw [List.count_replicate]
      rfl
    have ends : terminator.count '\n' = 2 := by decide
    rw [linecount, largeRest, List.count_cons, List.count_append, none, ends]
    rfl
  have size : ('x' :: largeRest n).length = n + 6 := by
    have ends : terminator.length = 5 := rfl
    rw [largeRest, List.length_cons, List.length_append, List.length_replicate, ends]
  have zero : linecount ('x' :: largeRest 0) = 1 := by decide
  simp only [Article.row, postingRow, largeArticle, count, size, zero]
  rfl

/-- What POST and XOVER make of the large article, as far as its row in `postings` can be
stored. -/
theorem posted_large (small : n + 51 < 2 ^ 31 - 1)
    (fits : ((largeArticle n).row postExtern
      (sendingEnv (largeStart ++ largeRest n)) 1).statementFits = true)
    : (PostEnd.reply postdone).IsEndOf openSession
        (((docmdPost postExtern largeConfig (sendingEnv (largeStart ++ largeRest n))).run
          openSession).run (exec postExtern) fourGroups).1
      ∧ (((docmdPost postExtern largeConfig (sendingEnv (largeStart ++ largeRest n))).run
          openSession).run (exec postExtern) fourGroups).2
        = storedInA ((largeArticle n).row postExtern (sendingEnv (largeStart ++ largeRest n)) 1)
          (largeArticle n).body (largeStart ++ largeRest n) := by
  have ran := (post_of_stores postExtern none (stores_large small)).1.trans
    (storeAlone_fourGroups rfl fits (largeArticle n).body (largeStart ++ largeRest n))
  have run := docmdPost_run postExtern largeConfig (sendingEnv (largeStart ++ largeRest n))
    fourGroups openSession
  rw [show openSession.curAuthUser = none from rfl, ran] at run
  exact run

/-- An article of almost 2^31 bytes. -/
def largeText : Str := largeStart ++ largeRest (2 ^ 31 - 60)

def largeBody : Str := (largeArticle (2 ^ 31 - 60)).body

/-- POST takes an article of almost 2^31 bytes, and XOVER shows a negative byte count for it. -/
theorem large_article_miscounted
    : NUL ∉ largeText
      ∧ largeBody.length < 2 ^ 31
      ∧ (PostEnd.reply postdone).IsEndOf openSession
        (((docmdPost postExtern largeConfig (sendingEnv largeText)).run openSession).run
          (exec postExtern) fourGroups).1
      ∧ ∃ row,
          (((docmdPost postExtern largeConfig (sendingEnv largeText)).run openSession).run
            (exec postExtern) fourGroups).2.spool (bodyFile row.1.msgid) = some largeBody
          ∧ (exec postExtern (.selectOverview "a".toList 1 1)
            (((docmdPost postExtern largeConfig (sendingEnv largeText)).run openSession).run
              (exec postExtern) fourGroups).2).1 = [row]
          ∧ (overviewFields postExtern row)[6]? = some "-2147483518".toList
          ∧ ¬ShowsCounts (overviewLine postExtern row) (overviewFields postExtern row)
            row.2.header largeBody := by
  have row := @row_large (2 ^ 31 - 60) largeText
  have fits : ((largeArticle (2 ^ 31 - 60)).row postExtern (sendingEnv largeText) 1).statementFits
      = true := by
    rw [row]
    decide +kernel
  have shown : (overviewFields postExtern
      (⟨numberedId 1 nntpdAnonymHost, "a".toList, 1⟩,
        (largeArticle (2 ^ 31 - 60)).row postExtern (sendingEnv largeText) 1))[6]?
      = some "-2147483518".toList := by
    rw [row]
    decide +kernel
  obtain ⟨isEnd, store⟩ := posted_large (by decide) fits
  have size : largeBody.length < 2 ^ 31 := by
    rw [largeBody, largeArticle, largeRest, List.length_cons, List.length_append,
      List.length_replicate]
    decide
  refine ⟨nul_notMem_large, size, isEnd, _, ?_, ?_, shown, fun right => ?_⟩
  · rw [largeText, store]
    exact spool_storedInA _ _ _
  · rw [largeText, store]
    exact listed_storedInA _ _ _
  · have bytes := right.bytes
    rw [shown, Option.some.injEq] at bytes
    have sign : '-' ∈ "-2147483518".toList := by decide
    rw [bytes] at sign
    exact absurd (isDigit_of_mem_dec sign) (by decide)

end Large

end WendzelNNTPd
