import WendzelNNTPd.Access.XhdrHistory

/-! The range arguments of XHDR and XOVER. Both commands look for a `-` until `max` equals the
highest number, read numbers with `atoi` into 32 bits and list the articles between `min` and
`max`; XHDR also refuses a `max` above the highest number.
-/

namespace WendzelNNTPd

open CString Atomic

-----------------------------------------------------------------------------------------
-- Range arguments
-----------------------------------------------------------------------------------------

/-- A decimal numeral of a positive number. -/
structure Numeral where
  digits : Str
  isDigits : ∀ c ∈ digits, c.isDigit = true
  positive : 0 < digitsValue digits

def Numeral.value (n : Numeral) : Nat := digitsValue n.digits

/-- The arguments `a`, `a-` and `a-b`. -/
inductive RangeArg
  | article (a : Numeral)
  | since (a : Numeral)
  | between (a b : Numeral)

namespace RangeArg

def text : RangeArg → Str
  | .article a => a.digits
  | .since a => a.digits ++ ['-']
  | .between a b => a.digits ++ '-' :: b.digits

/-- Whether an article number lies in the interval that the argument stands for. -/
def covers (realMax : Nat) (n : Nat) : RangeArg → Bool
  | .article a => n == a.value
  | .since a => decide (a.value ≤ n ∧ n ≤ realMax)
  | .between a b => decide (a.value ≤ n ∧ n ≤ b.value)

end RangeArg

/-- What `atoi` makes of a numeral: `strtol` saturates, and the low 32 bits are kept. -/
def atoiValue (n : Nat) : Nat := min n (2 ^ 63 - 1) % 2 ^ 32

/-- The end of a range as it is read; zero stands for the highest number. -/
def endValue (realMax n : Nat) : Nat := if atoiValue n = 0 then realMax else atoiValue n

/-- The numbers of the argument are read such that the right articles are listed. -/
def RangeArg.ReadsRight (realMax : Nat) : RangeArg → Prop
  | .article a | .since a => a.value ≤ realMax ∨ realMax < atoiValue a.value
  | .between a b =>
      if a.value < realMax then b.value ≤ realMax ∨ endValue realMax b.value = realMax
      else if a.value = realMax then realMax ≤ b.value
      else realMax < atoiValue a.value
        ∨ atoiValue a.value < realMax ∧ endValue realMax b.value < atoiValue a.value

section Numerals

theorem Numeral.ne_nil (n : Numeral) : n.digits ≠ [] := by
  intro empty
  have positive := n.positive
  rw [empty] at positive
  exact absurd positive (by decide)

theorem ne_dash_of_isDigit {c : Char} (digit : c.isDigit = true) : c ≠ '-' := by
  rintro rfl
  exact absurd digit (by decide)

theorem atoiU32_numeral (n : Numeral) {rest : Str}
    (ends : ∀ c, rest.head? = some c → c.isDigit = false)
    : atoiU32 (n.digits ++ rest) = atoiValue n.value := by
  unfold atoiU32 atoiValue Numeral.value
  rw [atol_digits n.ne_nil n.isDigits ends]
  omega

theorem atoiU32_digits (n : Numeral) : atoiU32 n.digits = atoiValue n.value := by
  have read : atoiU32 (n.digits ++ []) = atoiValue n.value :=
    atoiU32_numeral n (fun _ head => nomatch head)
  rwa [List.append_nil] at read

theorem atoiValue_of_lt {n : Nat} (small : n < 2 ^ 32) : atoiValue n = n := by
  unfold atoiValue
  omega

/-- The loop passes over digits as long as `max` is not the highest number. -/
theorem scanDash_digits {realMax max : Nat} (below : max ≠ realMax) {digits : Str}
    (all : ∀ c ∈ digits, c.isDigit = true) (rest : Str)
    : scanDash realMax max (digits ++ rest) = scanDash realMax max rest := by
  induction digits with
  | nil => rfl
  | cons c digits ih =>
      have notDash := ne_dash_of_isDigit (all c (List.mem_cons_self ..))
      rw [List.cons_append, scanDash, if_neg below, if_neg notDash]
      exact ih (fun d member => all d (List.mem_cons_of_mem c member))

theorem scanDash_reached (realMax : Nat) (text : Str)
    : scanDash realMax realMax text = (realMax, text) := by
  cases text with
  | nil => rfl
  | cons c text => rw [scanDash, if_pos rfl]

/-- If the first number is the highest one, the loop does not start, and the whole argument is
read again as the end of the range. -/
theorem articleRange_reached {realMax : Nat} (positive : 0 < realMax) {arg : Str}
    (reached : atoiU32 arg = realMax)
    : articleRange realMax arg = (realMax, realMax) := by
  unfold articleRange
  simp only [reached, scanDash_reached, if_neg (Nat.ne_of_gt positive), ite_self]

/-- The bounds that an argument is read as. -/
theorem articleRange_text {realMax : Nat} (positive : 0 < realMax) (arg : RangeArg)
    : articleRange realMax arg.text
      = match arg with
        | .article a => (atoiValue a.value, atoiValue a.value)
        | .since a => (atoiValue a.value, realMax)
        | .between a b =>
            (atoiValue a.value,
              if atoiValue a.value = realMax then realMax else endValue realMax b.value) := by
  cases arg with
  | article a =>
      have first : atoiU32 a.digits = atoiValue a.value := atoiU32_digits a
      by_cases reached : atoiValue a.value = realMax
      · have whole := articleRange_reached positive (first.trans reached)
        simpa [RangeArg.text, reached] using whole
      · have scanned := scanDash_digits reached a.isDigits []
        rw [List.append_nil] at scanned
        simp only [RangeArg.text, articleRange, first, scanned, scanDash]
        rw [if_neg (fun both => reached both.1)]
  | since a =>
      have first : atoiU32 (a.digits ++ ['-']) = atoiValue a.value :=
        atoiU32_numeral a (fun c head => by cases head; rfl)
      by_cases reached : atoiValue a.value = realMax
      · have whole := articleRange_reached positive (first.trans reached)
        simpa [RangeArg.text, reached] using whole
      · have scanned := scanDash_digits reached a.isDigits ['-']
        simp only [RangeArg.text, articleRange, first, scanned, scanDash, if_neg reached, if_true]
        simp
  | between a b =>
      have first : atoiU32 (a.digits ++ '-' :: b.digits) = atoiValue a.value :=
        atoiU32_numeral a (fun c head => by cases head; rfl)
      by_cases reached : atoiValue a.value = realMax
      · have whole := articleRange_reached positive (first.trans reached)
        simpa [RangeArg.text, reached] using whole
      · have scanned := scanDash_digits reached a.isDigits ('-' :: b.digits)
        simp only [RangeArg.text, articleRange, first, scanned, scanDash, if_neg reached, if_true,
          scanDash_reached, atoiU32_digits]
        have filled : (!b.digits.isEmpty) = true := by
          simpa using b.ne_nil
        rw [if_pos ⟨trivial, filled⟩]
        rfl

end Numerals

-----------------------------------------------------------------------------------------
-- Lines for rows
-----------------------------------------------------------------------------------------

/-- The newsgroup has the articles from 1 to its highest number, each with its posting. -/
structure Store.CountsTo (s : Store) (group : Str) (top : Nat) : Prop where
  there : s.HasGroup group
  high : ∀ g ∈ s.newsgroups, g.name = group → g.high = top
  numbers : ((s.ngRows group).map (·.postnum)).Perm (List.range' 1 top)
  postings : ∀ n ∈ s.ngRows group, ∃ p, s.postings.filter (·.msgid == n.msgid) = [p]

/-- The lines are those of the rows, each beginning with its number. -/
def ShowsRows (sep : Char) (rows : List Ngpost) (lines : List Piece) : Prop :=
  List.Forall₂ (fun n line => line.row = some n ∧ (dec n.postnum ++ [sep]) <+: line.text) rows
    lines

/-- The handler sends the lines of the rows. -/
def SendsRows (sep : Char) (rows : List Ngpost) (m : Srv Unit) : Prop :=
  ∀ r, ∃ lines, m.run r = .done ((), { r with curstring := r.curstring ++ lines })
    ∧ ShowsRows sep rows lines

section Lines

variable {ext : Extern} {s : Store} {group : Str} {top : Nat}

theorem Store.CountsTo.mem_iff (counts : s.CountsTo group top) (k : Nat)
    : (∃ n ∈ s.ngRows group, n.postnum = k) ↔ 1 ≤ k ∧ k ≤ top := by
  have member : k ∈ (s.ngRows group).map (·.postnum) ↔ k ∈ List.range' 1 top :=
    counts.numbers.mem_iff
  rw [List.mem_map, List.mem_range'_1] at member
  refine member.trans ?_
  omega

theorem Store.CountsTo.filter_ne_nil (counts : s.CountsTo group top)
    : s.newsgroups.filter (·.name == group) ≠ [] := by
  have found := (hasGroup_iff s).mpr counts.there
  simpa using found

theorem Store.CountsTo.high_of_mem (counts : s.CountsTo group top) {g : Newsgroup}
    (member : g ∈ s.newsgroups.filter (·.name == group))
    : g.high = top := by
  have found := List.mem_filter.mp member
  exact counts.high g found.1 (by simpa using found.2)

/-- Each row is joined with its posting. -/
theorem Store.CountsTo.map_join (counts : s.CountsTo group top) (p : Ngpost → Bool)
    : (s.joinPostings ((s.ngRows group).filter p)).map Prod.fst = (s.ngRows group).filter p := by
  have ofGroup : ∀ n ∈ (s.ngRows group).filter p, n ∈ s.ngRows group :=
    fun n member => (List.mem_filter.mp member).1
  generalize (s.ngRows group).filter p = rows at ofGroup
  induction rows with
  | nil => rfl
  | cons n rows ih =>
      obtain ⟨q, found⟩ := counts.postings n (ofGroup n (List.mem_cons_self ..))
      have rest := ih (fun m member => ofGroup m (List.mem_cons_of_mem n member))
      simp only [Store.joinPostings, List.flatMap_cons, found, List.map_cons, List.map_nil,
        List.cons_append, List.nil_append]
      exact congrArg (n :: ·) rest

theorem SendsRows.nil {sep : Char} : SendsRows sep [] (pure ()) :=
  fun r => ⟨[], by rw [List.append_nil]; rfl, .nil⟩

/-- A row is sent, then the others. -/
theorem SendsRows.cons {sep : Char} {n : Ngpost} {rows : List Ngpost} {text : Str}
    {rest : Srv Unit} (starts : (dec n.postnum ++ [sep]) <+: text)
    (others : SendsRows sep rows rest)
    : SendsRows sep (n :: rows) (do toSendRow n text; rest) := by
  intro r
  obtain ⟨lines, runs, shows⟩ := others { r with curstring := r.curstring ++ [⟨text, some n⟩] }
  refine ⟨⟨text, some n⟩ :: lines, ?_, .cons ⟨rfl, starts⟩ shows⟩
  show rest.run _ = _
  rw [runs]
  simp

theorem asInt32_of_small {n : Nat} (small : n < 2 ^ 31) : asInt32 n = n := by
  unfold asInt32
  rw [Nat.mod_eq_of_lt (by omega), if_pos small]

theorem dec_of_small {n : Nat} (small : n < 2 ^ 31) : decInt (asInt32 n) = dec n := by
  rw [asInt32_of_small small]
  simp [decInt]

/-- The buffers of XOVER hold at least the number. -/
theorem starts_snprintf {n size : Nat} {sep : Char} {rest : Str} (small : n < 2 ^ 31)
    (large : 12 ≤ size)
    : (dec n ++ [sep]) <+: snprintf size (decInt (asInt32 n) ++ sep :: rest) := by
  have short : (dec n).length ≤ 10 :=
    (Nat.length_toDigits_le_iff (by decide) (by decide)).mpr (by omega)
  have whole : (dec n ++ [sep]) <+: decInt (asInt32 n) ++ sep :: rest := by
    rw [dec_of_small small]
    exact ⟨rest, by simp⟩
  unfold snprintf
  refine List.prefix_take_iff.mpr ⟨whole, ?_⟩
  simp only [List.length_append, List.length_singleton]
  omega

variable {rows : List (Ngpost × Posting)}

theorem sendsRows_xhdr (part : XhdrPart) (small : ∀ row ∈ rows, row.1.postnum < 2 ^ 31)
    : SendsRows ' ' (rows.map Prod.fst) (rows.forM (xhdrCb ext part)) := by
  induction rows with
  | nil => exact SendsRows.nil
  | cons row rows ih =>
      have others := ih (fun other member => small other (List.mem_cons_of_mem row member))
      intro r
      have number := dec_of_small (small row (List.mem_cons_self ..))
      have starts (value : Str)
          : (dec row.1.postnum ++ [' '])
            <+: decInt (asInt32 row.1.postnum) ++ ' ' :: value ++ "\r\n".toList := by
        rw [number]
        exact ⟨value ++ "\r\n".toList, by simp⟩
      exact SendsRows.cons (starts _) others r

theorem sendsRows_xoverCb (small : ∀ row ∈ rows, row.1.postnum < 2 ^ 31)
    : SendsRows '\t' (rows.map Prod.fst) (rows.forM (xoverCb ext)) := by
  induction rows with
  | nil => exact SendsRows.nil
  | cons row rows ih =>
      have others := ih (fun other member => small other (List.mem_cons_of_mem row member))
      refine SendsRows.cons ?_ others
      simp only [List.append_assoc, List.cons_append]
      exact starts_snprintf (small row (List.mem_cons_self ..)) (by omega)

theorem sendsRows_xoverRows (small : ∀ row ∈ rows, row.1.postnum < 2 ^ 31) (postlen : Int)
    : SendsRows '\t' (rows.map Prod.fst) (xoverRows ext postlen rows) := by
  induction rows generalizing postlen with
  | nil => exact SendsRows.nil
  | cons row rows ih =>
      have others := ih (fun other member => small other (List.mem_cons_of_mem row member))
      refine SendsRows.cons ?_ (others _)
      simp only [xoverLine, List.append_assoc, List.cons_append]
      exact starts_snprintf (small row (List.mem_cons_self ..)) (by omega)

end Lines

-----------------------------------------------------------------------------------------
-- The queries
-----------------------------------------------------------------------------------------

/-- The rows of the newsgroup with numbers between the two. -/
def Store.rowsBetween (s : Store) (group : Str) (min max : Int) : List Ngpost :=
  (s.ngRows group).filter (fun n => decide (min ≤ n.postnum ∧ (n.postnum : Int) ≤ max))

/-- The handler performs the statement as it is. -/
def PerformsAs (op : Stmt) (m : Srv op.Result) : Prop :=
  ∀ r, m.run r = .act op (fun a => .done (a, r))

section Queries

variable {servers : DbServers} {dbase : Dbase} {ext : Extern} {s : Store} {group : Str} {top : Nat}

theorem performsAs_mysqlSrv {server : MysqlServer} {names : List Str} (op : Stmt)
    (plain : ∀ name ∈ names, SqlLiteral.plain name = true)
    : PerformsAs op (mysqlSrv server names op) := by
  intro r
  show (mysqlRealQuery server (Exit.killThread r.sent) names op >>= _) = _
  rw [mysqlRealQuery_of_plain plain]
  rfl

theorem performsAs_postgresSrv {sqlCmd : String} {params : List Str} (op : Stmt)
    (required : requiredParams false sqlCmd.toList = params.length)
    : PerformsAs op (postgresSrv sqlCmd params op) := by
  intro r
  show (pqExecParams (Exit.killThread r.sent) sqlCmd params op >>= _) = _
  rw [pqExecParams_of_required required]
  rfl

/-- A query returns what it finds, and the store and the session are as before. -/
theorem PerformsAs.run {op : Stmt} {m : Srv op.Result} (performs : PerformsAs op m)
    (query : op.isQuery = true) (r : Session)
    : (m.run r).run (execOn dbase ext) s = (.ok ((execOn dbase ext op s).1, r), s) := by
  rw [performs r]
  show (Except.ok ((execOn dbase ext op s).1, r), (execOn dbase ext op s).2) = _
  rw [execOn_query dbase ext query s]

theorem selectOverview_rows (min max : Int)
    : (execOn dbase ext (.selectOverview group min max) s).1
      = s.joinPostings (s.rowsBetween group min max) := by
  cases dbase with
  | sqlite3 => rfl
  | mysql => rfl
  | postgres => rfl

theorem Store.CountsTo.small (counts : s.CountsTo group top) (bound : top < 2 ^ 31) {min max : Int}
    : ∀ row ∈ s.joinPostings (s.rowsBetween group min max), row.1.postnum < 2 ^ 31 := by
  intro row member
  have inRows : row.1 ∈ (s.joinPostings (s.rowsBetween group min max)).map Prod.fst :=
    List.mem_map_of_mem member
  have joined : (s.joinPostings (s.rowsBetween group min max)).map Prod.fst
      = s.rowsBetween group min max :=
    counts.map_join _
  rw [joined] at inRows
  have number := (counts.mem_iff row.1.postnum).mp ⟨row.1, (List.mem_filter.mp inRows).1, rfl⟩
  omega

/-- The loops of XHDR send the lines of the rows between the bounds. -/
theorem xhdrLoop_run (counts : s.CountsTo group top) (bound : top < 2 ^ 31) {part : XhdrPart}
    {min max : Int} {query : Srv (List (Ngpost × Posting))}
    (performs : PerformsAs (.selectOverview group min max) query) (r : Session)
    : ∃ lines r',
        ((do
            modify (fun s => { s with speccmd := if part = .date then .date else s.speccmd })
            let rows ← query
            rows.forM (xhdrCb ext part)
            modify (fun s => { s with speccmd := .cleared }) : Srv Unit).run r).run
            (execOn dbase ext) s = (.ok ((), r'), s)
        ∧ r'.curstring = r.curstring ++ lines
        ∧ ShowsRows ' ' (s.rowsBetween group min max) lines := by
  have loop : SendsRows ' ' ((s.joinPostings (s.rowsBetween group min max)).map Prod.fst)
      ((s.joinPostings (s.rowsBetween group min max)).forM (xhdrCb ext part)) :=
    sendsRows_xhdr part (counts.small bound)
  obtain ⟨lines, sends, shows⟩ := loop
    { r with speccmd := if part = .date then .date else r.speccmd }
  refine ⟨lines, { r with speccmd := .cleared, curstring := r.curstring ++ lines }, ?_, rfl, ?_⟩
  · rw [run_bind_ok (b := ⟨⟩) rfl, run_bind_ok (performs.run rfl _), selectOverview_rows,
      run_bind_ok (b := ⟨⟩) (by rw [sends]; rfl)]
    rfl
  · have joined := counts.map_join (fun n => decide (min ≤ n.postnum ∧ (n.postnum : Int) ≤ max))
    rw [← Store.rowsBetween] at joined
    rwa [joined] at shows

/-- The loops of XOVER, too. -/
theorem xoverLoop_run (counts : s.CountsTo group top) {min max : Int}
    {query : Srv (List (Ngpost × Posting))} {loop : List (Ngpost × Posting) → Srv Unit}
    (performs : PerformsAs (.selectOverview group min max) query)
    (sends : SendsRows '\t' ((s.joinPostings (s.rowsBetween group min max)).map Prod.fst)
      (loop (s.joinPostings (s.rowsBetween group min max))))
    (r : Session)
    : ∃ lines r',
        ((query >>= loop : Srv Unit).run r).run (execOn dbase ext) s = (.ok ((), r'), s)
        ∧ r'.curstring = r.curstring ++ lines
        ∧ ShowsRows '\t' (s.rowsBetween group min max) lines := by
  obtain ⟨lines, runs, shows⟩ := sends r
  refine ⟨lines, { r with curstring := r.curstring ++ lines }, ?_, rfl, ?_⟩
  · rw [run_bind_ok (performs.run rfl _), selectOverview_rows, runs]
    rfl
  · have joined := counts.map_join (fun n => decide (min ≤ n.postnum ∧ (n.postnum : Int) ≤ max))
    rw [← Store.rowsBetween] at joined
    rwa [joined] at shows

-- the texts of the statements are not to be evaluated
attribute [local irreducible] postgresSrv

/-- XHDR lists the rows between its bounds as it prints them. -/
theorem listsBetween_xhdr (counts : s.CountsTo group top) (bound : top < 2 ^ 31)
    (plain : PlainNames dbase group none) (part : XhdrPart) (min max : Nat) (r : Session)
    : ∃ lines r',
        (((srvBackend servers dbase).xhdr ext part group none min max).run r).run
            (execOn (srvBackend servers dbase).dbase ext) s = (.ok ((), r'), s)
        ∧ r'.curstring = r.curstring ++ lines
        ∧ ShowsRows ' ' (s.rowsBetween group (asInt32 min) (asInt32 max)) lines := by
  cases dbase with
  | sqlite3 => exact xhdrLoop_run counts bound (fun _ => rfl) r
  | mysql =>
      rcases plain with other | ⟨given, _⟩
      · cases other
      · have names : ∀ name ∈ [group], SqlLiteral.plain name = true := by simpa using given
        exact xhdrLoop_run counts bound (performsAs_mysqlSrv _ names) r
  | postgres =>
      rcases plain with other | ⟨given, _⟩
      · cases other
      · have unquoted : [group].all (fun name => !name.contains '\'') = true := by
          simpa using SqlLiteral.no_quote_of_plain given
        refine xhdrLoop_run counts bound (fun r => ?_) r
        show xhdrGet _ _ _ _ _ r = _
        simp only [xhdrGet, unquoted, if_true]
        have required
            : requiredParams false "select * from xhdr_get($1, $2, null, $3, $4)".toList = 4 := by
          decide +kernel
        exact performsAs_postgresSrv _ required r

/-- XOVER lists the rows between its bounds, or is stopped. -/
theorem listsBetween_xover (counts : s.CountsTo group top) (bound : top < 2 ^ 31)
    (plain : PlainNames dbase group none) (min max : Nat) (r : Session)
    : (∃ lines r',
        (((srvBackend servers dbase).xover ext group min max).run r).run
            (execOn (srvBackend servers dbase).dbase ext) s = (.ok ((), r'), s)
        ∧ r'.curstring = r.curstring ++ lines
        ∧ ShowsRows '\t' (s.rowsBetween group (asInt32 min) (asInt32 max)) lines)
      ∨ (2 ^ 31 ≤ min ∨ 2 ^ 31 ≤ max)
        ∧ (((srvBackend servers dbase).xover ext group min max).run r).run
            (execOn (srvBackend servers dbase).dbase ext) s = (.error (.killThread r.sent), s) := by
  cases dbase with
  | sqlite3 =>
      exact Or.inl (xoverLoop_run counts (fun _ => rfl) (sendsRows_xoverCb (counts.small bound)) r)
  | mysql =>
      rcases plain with other | ⟨given, _⟩
      · cases other
      · have names : ∀ name ∈ [group], SqlLiteral.plain name = true := by simpa using given
        exact Or.inl (xoverLoop_run counts (performsAs_mysqlSrv _ names)
          (sendsRows_xoverRows (counts.small bound) 0) r)
  | postgres =>
      by_cases fits : min < 2 ^ 31 ∧ max < 2 ^ 31
      · left
        rw [asInt32_of_small fits.1, asInt32_of_small fits.2]
        show ∃ lines r', ((dbPostgresXover servers.postgres ext group min max).run r).run _ _ = _ ∧ _
        rw [dbPostgresXover, if_pos fits]
        have required
            : requiredParams false
                ("select n.postnum, p.subject, p.author, p.date, n.msgid, p.lines, p.header"
                  ++ " from ngposts n,postings p"
                  ++ " where ng=$1 and (postnum between $2 and $3) and n.msgid = p.msgid;").toList
              = 3 := by
          decide +kernel
        exact xoverLoop_run counts (performsAs_postgresSrv _ required)
          (sendsRows_xoverRows (counts.small bound) _) r
      · right
        refine ⟨by omega, ?_⟩
        show ((dbPostgresXover servers.postgres ext group min max).run r).run _ _ = _
        rw [dbPostgresXover, if_neg fits]
        rfl

theorem Engine.getHighValue_run {engine : Engine} (counts : s.CountsTo group top)
    (bound : top < 2 ^ 31)
    (asks : PerformsAs (.selectNewsgroup group)
      (engine.perform "select high from newsgroups where name = $1" [group]
        (.selectNewsgroup group)))
    (r : Session)
    : ((engine.getHighValue group).run r).run (execOn dbase ext) s = (.ok (top, r), s) := by
  have filled : s.newsgroups.filter (·.name == group) ≠ [] := counts.filter_ne_nil
  have first : (((s.newsgroups.filter (·.name == group)).head?.map (·.high)).getD 0) % 2 ^ 32
      = top := by
    rw [List.head?_eq_some_head filled, Option.map_some, Option.getD_some,
      counts.high_of_mem (List.head_mem filled)]
    omega
  unfold Engine.getHighValue
  rw [run_bind_ok (asks.run rfl r)]
  cases dbase with
  | sqlite3 => exact congrArg (fun n => (Except.ok (n, r), s)) first
  | mysql => exact congrArg (fun n => (Except.ok (n, r), s)) first
  | postgres => exact congrArg (fun n => (Except.ok (n, r), s)) first

theorem getHighValue_run (counts : s.CountsTo group top) (bound : top < 2 ^ 31)
    (plain : PlainNames dbase group none) (env : Env) (r : Session)
    : (((srvBackend servers dbase).getHighValue env group).run r).run
        (execOn (srvBackend servers dbase).dbase ext) s = (.ok (top, r), s) := by
  cases dbase with
  | sqlite3 =>
      have filled : s.newsgroups.filter (·.name == group) ≠ [] := counts.filter_ne_nil
      have last : (((s.newsgroups.filter (·.name == group)).getLast?.map (·.high)).getD
          env.curHighInit) % 2 ^ 32 = top := by
        rw [List.getLast?_eq_some_getLast filled, Option.map_some, Option.getD_some,
          counts.high_of_mem (List.getLast_mem filled)]
        omega
      exact congrArg (fun n => (Except.ok (n, r), s)) last
  | mysql =>
      rcases plain with other | ⟨given, _⟩
      · cases other
      · have names : ∀ name ∈ [group], SqlLiteral.plain name = true := by simpa using given
        exact Engine.getHighValue_run counts bound (performsAs_mysqlSrv _ names) r
  | postgres =>
      have required
          : requiredParams false "select high from newsgroups where name = $1".toList = 1 := by
        decide +kernel
      exact Engine.getHighValue_run counts bound (performsAs_postgresSrv _ required) r

end Queries

-----------------------------------------------------------------------------------------
-- Bounds and intervals
-----------------------------------------------------------------------------------------

/-- The bounds refuse what has no article, or are those of the articles in the interval. -/
def RangeArg.BoundsRight (arg : RangeArg) (top min max : Nat) : Prop :=
  (∀ k, 1 ≤ k → k ≤ top → arg.covers top k = false) ∧ (min > top ∨ min > max)
  ∨ (∃ k, 1 ≤ k ∧ k ≤ top ∧ arg.covers top k = true) ∧ min ≤ max ∧ max ≤ top
    ∧ ∀ k, 1 ≤ k → k ≤ top → (arg.covers top k = true ↔ min ≤ k ∧ k ≤ max)

section Bounds

variable {top : Nat}

theorem Numeral.value_pos (n : Numeral) : 1 ≤ n.value := n.positive

theorem boundsRight_article (bound : top < 2 ^ 31) (a : Numeral)
    : (RangeArg.article a).BoundsRight top (atoiValue a.value) (atoiValue a.value)
      ↔ (RangeArg.article a).ReadsRight top := by
  have positive := a.value_pos
  have small : a.value ≤ top → atoiValue a.value = a.value := fun le => atoiValue_of_lt (by omega)
  simp only [RangeArg.BoundsRight, RangeArg.ReadsRight, RangeArg.covers, beq_iff_eq,
    beq_eq_false_iff_ne]
  constructor
  · rintro (⟨_, refused⟩ | ⟨⟨k, _, le, is⟩, _⟩)
    · omega
    · omega
  · intro reads
    by_cases le : a.value ≤ top
    · right
      rw [small le]
      exact ⟨⟨a.value, positive, le, rfl⟩, Nat.le_refl _, le, fun k _ _ => by omega⟩
    · left
      exact ⟨fun k _ _ => by omega, by omega⟩

theorem boundsRight_since (bound : top < 2 ^ 31) (a : Numeral)
    : (RangeArg.since a).BoundsRight top (atoiValue a.value) top
      ↔ (RangeArg.since a).ReadsRight top := by
  have positive := a.value_pos
  have small : a.value ≤ top → atoiValue a.value = a.value := fun le => atoiValue_of_lt (by omega)
  simp only [RangeArg.BoundsRight, RangeArg.ReadsRight, RangeArg.covers, decide_eq_true_eq,
    decide_eq_false_iff_not]
  constructor
  · rintro (⟨_, refused⟩ | ⟨⟨k, _, le, is⟩, _⟩)
    · omega
    · omega
  · intro reads
    by_cases le : a.value ≤ top
    · right
      rw [small le]
      exact ⟨⟨a.value, positive, le, Nat.le_refl _, le⟩, le, Nat.le_refl _, fun k _ _ => by omega⟩
    · left
      exact ⟨fun k _ _ => by omega, by omega⟩

theorem boundsRight_between (positive : 0 < top) (bound : top < 2 ^ 31) (a b : Numeral)
    : (RangeArg.between a b).BoundsRight top (atoiValue a.value)
          (if atoiValue a.value = top then top else endValue top b.value)
      ↔ (RangeArg.between a b).ReadsRight top := by
  have first := a.value_pos
  have last := b.value_pos
  have small : a.value ≤ top → atoiValue a.value = a.value := fun le => atoiValue_of_lt (by omega)
  have smallEnd : b.value ≤ top → endValue top b.value = b.value := by
    intro le
    have same : atoiValue b.value = b.value := atoiValue_of_lt (by omega)
    rw [endValue, same, if_neg (by omega)]
  simp only [RangeArg.BoundsRight, RangeArg.ReadsRight, RangeArg.covers, decide_eq_true_eq,
    decide_eq_false_iff_not]
  generalize endValue top b.value = last' at *
  generalize atoiValue a.value = first' at *
  constructor
  · rintro (⟨none', refused⟩ | ⟨⟨k, _, le, within⟩, lower, upper, same⟩)
    · by_cases below : a.value < top
      · rw [if_pos below]
        have empty := none' a.value first (by omega)
        left
        omega
      · rw [if_neg below]
        by_cases is : a.value = top
        · have empty := none' top positive (Nat.le_refl _)
          rw [if_pos is]
          rw [small (by omega), if_pos is] at refused
          omega
        · rw [if_neg is]
          split at refused
          · omega
          · omega
    · by_cases below : a.value < top
      · rw [if_pos below]
        rw [if_neg (by omega)] at lower upper same
        have atTop := same top positive (Nat.le_refl _)
        omega
      · rw [if_neg below]
        by_cases is : a.value = top
        · rw [if_pos is]
          omega
        · omega
  · intro reads
    by_cases below : a.value < top
    · rw [if_pos below] at reads
      have notTop : ¬first' = top := by
        have same := small (by omega)
        omega
      rw [if_neg notTop, small (by omega)]
      by_cases ordered : a.value ≤ b.value
      · right
        refine ⟨⟨a.value, first, by omega, Nat.le_refl _, ordered⟩, ?_, ?_, fun k _ _ => ?_⟩
        · omega
        · omega
        · omega
      · left
        exact ⟨fun k _ _ => by omega, by omega⟩
    · rw [if_neg below] at reads
      by_cases is : a.value = top
      · rw [if_pos is] at reads
        right
        rw [small (by omega), if_pos is]
        refine ⟨⟨top, positive, Nat.le_refl _, by omega⟩, by omega, Nat.le_refl _, fun k _ _ => ?_⟩
        omega
      · rw [if_neg is] at reads
        left
        refine ⟨fun k _ _ => by omega, ?_⟩
        split
        · omega
        · omega

/-- The bounds of an argument are right exactly if its numbers are read right. -/
theorem boundsRight_iff (positive : 0 < top) (bound : top < 2 ^ 31) (arg : RangeArg)
    : arg.BoundsRight top (articleRange top arg.text).1 (articleRange top arg.text).2
      ↔ arg.ReadsRight top := by
  rw [articleRange_text positive]
  cases arg with
  | article a => exact boundsRight_article bound a
  | since a => exact boundsRight_since bound a
  | between a b => exact boundsRight_between positive bound a b

end Bounds

-----------------------------------------------------------------------------------------
-- XHDR and XOVER
-----------------------------------------------------------------------------------------

/-- The reply that `docmd_xover` makes to a command string, or why the connection ends. -/
def SrvBackend.xoverReply (db : SrvBackend) (ext : Extern) (env : Env) (conn : Connection)
    (cmdstring : Str)
    : Except Exit (List Piece) :=
  match ((db.docmdXover ext env cmdstring).run { conn.session with sent := [] }).run
    (execOn db.dbase ext) conn.store with
  | (.ok (_, session), _) => .ok session.curstring
  | (.error reason, _) => .error reason

/-- The reply lists exactly these rows, and is the error 420 exactly if there are none. -/
def ListsExactly (status : Str) (sep : Char) (rows : List Ngpost) (reply : Except Exit (List Piece))
    : Prop :=
  if rows = [] then reply = .ok [⟨noarticleselected, none⟩]
  else
    ∃ lines, reply = .ok (⟨status, none⟩ :: lines ++ [⟨periodEnd, none⟩])
      ∧ ShowsRows sep rows lines

/-- The rows of the newsgroup whose numbers lie in the interval of an argument. -/
def Store.coveredRows (s : Store) (group : Str) (top : Nat) (arg : RangeArg) : List Ngpost :=
  (s.ngRows group).filter (fun n => arg.covers top n.postnum)

/-- A reader of a newsgroup: nothing of a reply is left over. -/
structure Connection.Reads (conn : Connection) (group : Str) (top : Nat) : Prop where
  selected : conn.session.selectedGroup = some group
  idle : conn.session.curstring = []
  counts : conn.store.CountsTo group top

section Replies

variable {servers : DbServers} {dbase : Dbase} {ext : Extern} {env : Env} {conn : Connection}
  {group : Str} {top : Nat}

theorem Connection.Reads.covered_eq_nil (reads : conn.Reads group top) (arg : RangeArg)
    : conn.store.coveredRows group top arg = []
      ↔ ∀ k, 1 ≤ k → k ≤ top → arg.covers top k = false := by
  unfold Store.coveredRows
  rw [List.filter_eq_nil_iff]
  constructor
  · intro none' k lower upper
    obtain ⟨n, member, rfl⟩ := (reads.counts.mem_iff k).mpr ⟨lower, upper⟩
    exact Bool.eq_false_iff.mpr (none' n member)
  · intro none' n member
    have range := (reads.counts.mem_iff n.postnum).mp ⟨n, member, rfl⟩
    rw [none' n.postnum range.1 range.2]
    decide

/-- Two ways to choose rows of the newsgroup that agree on its numbers. -/
theorem Connection.Reads.covered_eq (reads : conn.Reads group top) (bound : top < 2 ^ 31)
    {min max : Nat} (lower : min ≤ top) (upper : max ≤ top) (arg : RangeArg)
    : conn.store.coveredRows group top arg
        = conn.store.rowsBetween group (asInt32 min) (asInt32 max)
      ↔ ∀ k, 1 ≤ k → k ≤ top → (arg.covers top k = true ↔ min ≤ k ∧ k ≤ max) := by
  rw [asInt32_of_small (by omega), asInt32_of_small (by omega)]
  unfold Store.coveredRows Store.rowsBetween
  constructor
  · intro same k low high
    obtain ⟨n, member, rfl⟩ := (reads.counts.mem_iff k).mpr ⟨low, high⟩
    have both := congrArg (n ∈ ·) same
    simp only [List.mem_filter, member, true_and, decide_eq_true_eq, eq_iff_iff] at both
    rw [both]
    omega
  · intro same
    apply List.filter_congr
    intro n member
    have range := (reads.counts.mem_iff n.postnum).mp ⟨n, member, rfl⟩
    have agree := same n.postnum range.1 range.2
    rw [Bool.eq_iff_iff, decide_eq_true_eq, agree]
    omega

theorem RangeArg.head_text (arg : RangeArg) : arg.text.head? ≠ some '<' := by
  have digit (a : Numeral) (rest : Str) : (a.digits ++ rest).head? ≠ some '<' := by
    obtain ⟨first, others, is⟩ := List.exists_cons_of_ne_nil a.ne_nil
    have all := a.isDigits first (by rw [is]; exact List.mem_cons_self ..)
    rw [is]
    intro same
    cases same
    exact absurd all (by decide)
  cases arg with
  | article a => simpa [RangeArg.text] using digit a []
  | since a => exact digit a _
  | between a b => exact digit a _

/-- XHDR gets to the test of its bounds. -/
theorem docmdXhdr_run (reads : conn.Reads group top) (bound : top < 2 ^ 31)
    (plain : PlainNames dbase group none) {command field : Str} {part : XhdrPart} {arg : RangeArg}
    (named : getSlinearg command 1 = some field) (known : xhdrPart field = some part)
    (given : getSlinearg command 2 = some arg.text)
    : (((srvBackend servers dbase).docmdXhdr ext env command).run
          { conn.session with sent := [] }).run (execOn (srvBackend servers dbase).dbase ext)
          conn.store
      = ((SrvBackend.xhdrArticles.range (srvBackend servers dbase) ext group top part
            (articleRange top arg.text).1 (articleRange top arg.text).2).run
          { conn.session with
            sent := []
            speccmd := if part = .date then .date else conn.session.speccmd }).run
          (execOn (srvBackend servers dbase).dbase ext) conn.store := by
  simp only [SrvBackend.docmdXhdr, StateT.run_bind, StateT.run_get, Prog.pure_eq, Prog.done_bind,
    reads.selected]
  rw [Prog.run_bind, getHighValue_run reads.counts bound plain]
  simp only [named, known, StateT.run_bind, StateT.run_modify, Prog.pure_eq, Prog.done_bind,
    SrvBackend.xhdrArticles, StateT.run_get, given, if_neg arg.head_text]

/-- XHDR refuses its bounds, or lists the rows between them. -/
theorem xhdrReply_cases (reads : conn.Reads group top) (bound : top < 2 ^ 31)
    (plain : PlainNames dbase group none) {command field : Str} {part : XhdrPart} {arg : RangeArg}
    (named : getSlinearg command 1 = some field) (known : xhdrPart field = some part)
    (given : getSlinearg command 2 = some arg.text)
    : if (articleRange top arg.text).1 > top ∨ (articleRange top arg.text).2 > top
          ∨ (articleRange top arg.text).1 > (articleRange top arg.text).2 then
        (srvBackend servers dbase).xhdrReply ext env conn command
          = .ok [⟨noarticleselected, none⟩]
      else
        ∃ lines,
          (srvBackend servers dbase).xhdrReply ext env conn command
            = .ok (⟨xhdrReply, none⟩ :: lines ++ [⟨periodEnd, none⟩])
          ∧ ShowsRows ' ' (conn.store.rowsBetween group (asInt32 (articleRange top arg.text).1)
              (asInt32 (articleRange top arg.text).2)) lines := by
  unfold SrvBackend.xhdrReply
  rw [docmdXhdr_run reads bound plain named known given]
  unfold SrvBackend.xhdrArticles.range
  split
  · show Except.ok (conn.session.curstring ++ [_]) = _
    rw [reads.idle]
    rfl
  · obtain ⟨lines, r', ran, sent, shows⟩ :=
      @listsBetween_xhdr servers dbase ext conn.store group top reads.counts bound plain part
        (articleRange top arg.text).1 (articleRange top arg.text).2
        { conn.session with
          sent := []
          speccmd := if part = .date then .date else conn.session.speccmd
          curstring := conn.session.curstring ++ [⟨xhdrReply, none⟩] }
    refine ⟨lines, ?_, shows⟩
    unfold SrvBackend.xhdrArticles.reply
    rw [run_bind_ok (b := ()) rfl, run_bind_ok ran]
    show Except.ok (r'.curstring ++ [_]) = _
    rw [sent, reads.idle]
    rfl

theorem docmdXover_run (reads : conn.Reads group top) (bound : top < 2 ^ 31)
    (plain : PlainNames dbase group none) {command : Str} {arg : RangeArg}
    (given : getSlinearg command 1 = some arg.text)
    : (((srvBackend servers dbase).docmdXover ext env command).run
          { conn.session with sent := [] }).run (execOn (srvBackend servers dbase).dbase ext)
          conn.store
      = ((SrvBackend.docmdXover.range (srvBackend servers dbase) ext group top
            (articleRange top arg.text).1 (articleRange top arg.text).2).run
          { conn.session with sent := [] }).run
          (execOn (srvBackend servers dbase).dbase ext) conn.store := by
  simp only [SrvBackend.docmdXover, StateT.run_bind, StateT.run_get, Prog.pure_eq, Prog.done_bind,
    reads.selected]
  rw [Prog.run_bind, getHighValue_run reads.counts bound plain]
  simp only [given]

/-- XOVER refuses its bounds, or lists the rows between them; only bounds of 32 bits can stop
it. -/
theorem xoverReply_cases (reads : conn.Reads group top) (bound : top < 2 ^ 31)
    (plain : PlainNames dbase group none) {command : Str} {arg : RangeArg}
    (given : getSlinearg command 1 = some arg.text)
    : if (articleRange top arg.text).1 > top
          ∨ (articleRange top arg.text).1 > (articleRange top arg.text).2 then
        (srvBackend servers dbase).xoverReply ext env conn command
          = .ok [⟨noarticleselected, none⟩]
      else
        (∃ lines,
          (srvBackend servers dbase).xoverReply ext env conn command
            = .ok (⟨xoverReply, none⟩ :: lines ++ [⟨periodEnd, none⟩])
          ∧ ShowsRows '\t' (conn.store.rowsBetween group (asInt32 (articleRange top arg.text).1)
              (asInt32 (articleRange top arg.text).2)) lines)
        ∨ 2 ^ 31 ≤ (articleRange top arg.text).2
          ∧ (srvBackend servers dbase).xoverReply ext env conn command
            = .error (.killThread []) := by
  unfold SrvBackend.xoverReply
  rw [docmdXover_run reads bound plain given]
  unfold SrvBackend.docmdXover.range
  split
  · show Except.ok (conn.session.curstring ++ [_]) = _
    rw [reads.idle]
    rfl
  · rename_i accepted
    rcases @listsBetween_xover servers dbase ext conn.store group top reads.counts bound plain
        (articleRange top arg.text).1 (articleRange top arg.text).2
        { conn.session with
          sent := []
          curstring := conn.session.curstring ++ [⟨xoverReply, none⟩] } with
      ⟨lines, r', ran, sent, shows⟩ | ⟨large, stopped⟩
    · refine Or.inl ⟨lines, ?_, shows⟩
      rw [run_bind_ok (b := ()) rfl, run_bind_ok ran]
      show Except.ok (r'.curstring ++ [_]) = _
      rw [sent, reads.idle]
      rfl
    · refine Or.inr ⟨by omega, ?_⟩
      rw [run_bind_ok (b := ()) rfl, run_bind_error stopped]

theorem ShowsRows.eq {sep : Char} {rows rows' : List Ngpost} {lines : List Piece}
    (shows : ShowsRows sep rows lines) (shows' : ShowsRows sep rows' lines)
    : rows = rows' := by
  induction shows generalizing rows' with
  | nil =>
      cases shows'
      rfl
  | cons first rest ih =>
      cases shows' with
      | cons first' rest' =>
          rw [first.1] at first'
          cases first'.1
          rw [ih rest']

section Lists

variable {status : Str} {sep : Char} {rows shown : List Ngpost} {reply : Except Exit (List Piece)}

theorem listsExactly_refused (refused : reply = .ok [⟨noarticleselected, none⟩])
    : ListsExactly status sep rows reply ↔ rows = [] := by
  unfold ListsExactly
  split
  · rename_i none'
    exact iff_of_true refused none'
  · rename_i filled
    refine iff_of_false ?_ filled
    rintro ⟨lines, is, _⟩
    rw [refused] at is
    simp at is

theorem listsExactly_listed {lines : List Piece}
    (listed : reply = .ok (⟨status, none⟩ :: lines ++ [⟨periodEnd, none⟩]))
    (shows : ShowsRows sep shown lines)
    : ListsExactly status sep rows reply ↔ rows ≠ [] ∧ rows = shown := by
  unfold ListsExactly
  split
  · rename_i none'
    refine iff_of_false ?_ (fun both => both.1 none')
    rw [listed]
    simp
  · rename_i filled
    constructor
    · rintro ⟨lines', is, shows'⟩
      rw [listed] at is
      simp only [List.cons_append, Except.ok.injEq, List.cons.injEq, true_and,
        List.append_cancel_right_eq] at is
      exact ⟨filled, (is ▸ shows').eq shows⟩
    · rintro ⟨_, rfl⟩
      exact ⟨lines, listed, shows⟩

theorem not_listsExactly_error {reason : Exit} (stopped : reply = .error reason)
    : ¬ListsExactly status sep rows reply := by
  unfold ListsExactly
  rw [stopped]
  split
  · exact fun is => nomatch is
  · rintro ⟨lines, is, _⟩
    cases is

end Lists

/-- Both commands list the right rows exactly if the bounds are right. -/
theorem listsExactly_iff (reads : conn.Reads group top) (bound : top < 2 ^ 31)
    (plain : PlainNames dbase group none) {command command' field : Str} {part : XhdrPart}
    {arg : RangeArg} (named : getSlinearg command 1 = some field)
    (known : xhdrPart field = some part) (given : getSlinearg command 2 = some arg.text)
    (given' : getSlinearg command' 1 = some arg.text)
    : ListsExactly xhdrReply ' ' (conn.store.coveredRows group top arg)
          ((srvBackend servers dbase).xhdrReply ext env conn command)
        ∧ ListsExactly xoverReply '\t' (conn.store.coveredRows group top arg)
          ((srvBackend servers dbase).xoverReply ext env conn command')
      ↔ arg.BoundsRight top (articleRange top arg.text).1 (articleRange top arg.text).2 := by
  have xhdr := @xhdrReply_cases servers dbase ext env conn group top reads bound plain command field
    part arg named known given
  have xover := @xoverReply_cases servers dbase ext env conn group top reads bound plain command' arg
    given'
  have empty := reads.covered_eq_nil arg
  have filled : conn.store.coveredRows group top arg ≠ []
      ↔ ∃ k, 1 ≤ k ∧ k ≤ top ∧ arg.covers top k = true := by
    rw [ne_eq, empty]
    simp
  unfold RangeArg.BoundsRight
  rw [← empty, ← filled]
  generalize (articleRange top arg.text).1 = min at *
  generalize (articleRange top arg.text).2 = max at *
  by_cases refused : min > top ∨ min > max
  · rw [if_pos (by omega)] at xhdr
    rw [if_pos refused] at xover
    rw [listsExactly_refused xhdr, listsExactly_refused xover]
    constructor
    · exact fun both => Or.inl ⟨both.1, refused⟩
    · rintro (⟨none', _⟩ | ⟨_, _, _, _⟩)
      · exact ⟨none', none'⟩
      · omega
  · rw [if_neg refused] at xover
    by_cases above : max > top
    · -- XHDR refuses what XOVER lists
      rw [if_pos (by omega)] at xhdr
      rw [listsExactly_refused xhdr]
      constructor
      · rintro ⟨none', lists⟩
        rcases xover with ⟨lines, listed, shows⟩ | ⟨_, stopped⟩
        · exact absurd none' ((listsExactly_listed listed shows).mp lists).1
        · exact absurd lists (not_listsExactly_error stopped)
      · rintro (⟨_, other⟩ | ⟨_, _, _, _⟩)
        · exact absurd other refused
        · omega
    · rw [if_neg (by omega)] at xhdr
      obtain ⟨lines, listed, shows⟩ := xhdr
      rcases xover with ⟨lines', listed', shows'⟩ | ⟨large, _⟩
      · rw [listsExactly_listed listed shows, listsExactly_listed listed' shows',
          reads.covered_eq bound (by omega) (by omega)]
        constructor
        · rintro ⟨⟨some', same⟩, _⟩
          exact Or.inr ⟨some', by omega, by omega, same⟩
        · rintro (⟨_, other⟩ | ⟨some', _, _, same⟩)
          · exact absurd other refused
          · exact ⟨⟨some', same⟩, some', same⟩
      · omega

/-- On every backend XHDR and XOVER list exactly the articles that a range argument asks for, and
answer 420 exactly if there are none, if and only if the numbers of the argument are read right.
Witness: the bounds that the loop finds are compared with the interval, form by form.
-/
theorem ranges_right_iff (servers : DbServers) (dbase : Dbase) (ext : Extern) (env : Env)
    (conn : Connection) (group : Str) (top : Nat) (positive : 0 < top) (bound : top < 2 ^ 31)
    (reads : conn.Reads group top) (plain : PlainNames dbase group none)
    (command command' field : Str) (part : XhdrPart) (arg : RangeArg)
    (named : getSlinearg command 1 = some field) (known : xhdrPart field = some part)
    (given : getSlinearg command 2 = some arg.text)
    (given' : getSlinearg command' 1 = some arg.text)
    : ListsExactly xhdrReply ' ' (conn.store.coveredRows group top arg)
          ((srvBackend servers dbase).xhdrReply ext env conn command)
        ∧ ListsExactly xoverReply '\t' (conn.store.coveredRows group top arg)
          ((srvBackend servers dbase).xoverReply ext env conn command')
      ↔ arg.ReadsRight top := by
  rw [listsExactly_iff reads bound plain named known given given',
    boundsRight_iff positive bound arg]

end Replies

section Samples

/-- A newsgroup with two articles. -/
def twoArticles : Store :=
  { Store.empty with
    newsgroups := [⟨"open".toList, 'y', 2⟩]
    ngposts := [⟨"<cdp1@a>".toList, "open".toList, 1⟩, ⟨"<cdp2@a>".toList, "open".toList, 2⟩]
    postings :=
      [⟨"<cdp1@a>".toList, 0, "b@c".toList, "open".toList, "s".toList, 1, []⟩,
        ⟨"<cdp2@a>".toList, 0, "b@c".toList, "open".toList, "t".toList, 1, []⟩] }

def twoArticlesReader : Connection :=
  ⟨{ Session.fresh readerConfig false .article .cleared with selectedGroup := some "open".toList },
    twoArticles⟩

theorem twoArticlesReader_reads : twoArticlesReader.Reads "open".toList 2 where
  selected := rfl
  idle := rfl
  counts :=
    { there := ⟨_, List.mem_cons_self .., rfl⟩
      high := by decide
      numbers := by decide
      postings := by
        intro n member
        have rows : twoArticlesReader.store.ngRows "open".toList
            = [⟨"<cdp1@a>".toList, "open".toList, 1⟩, ⟨"<cdp2@a>".toList, "open".toList, 2⟩] := by
          decide
        rw [rows] at member
        rcases List.mem_pair.mp member with rfl | rfl
        · exact ⟨_, rfl⟩
        · exact ⟨_, rfl⟩ }

def numeralOne : Numeral := ⟨['1'], by simp, by decide⟩

def numeralThree : Numeral := ⟨['3'], by simp, by decide⟩

theorem open_range_is_listed
    : ListsExactly xhdrReply ' ' (twoArticles.coveredRows "open".toList 2 (.since numeralOne))
          ((srvBackend sampleServers .sqlite3).xhdrReply sampleExtern sampleEnv twoArticlesReader
            "XHDR subject 1-".toList)
      ∧ ListsExactly xoverReply '\t' (twoArticles.coveredRows "open".toList 2 (.since numeralOne))
          ((srvBackend sampleServers .sqlite3).xoverReply sampleExtern sampleEnv twoArticlesReader
            "XOVER 1-".toList) :=
  (ranges_right_iff sampleServers .sqlite3 sampleExtern sampleEnv twoArticlesReader "open".toList 2
    (by decide) (by decide) twoArticlesReader_reads (Or.inl rfl) "XHDR subject 1-".toList
    "XOVER 1-".toList "subject".toList .subject (.since numeralOne) (by decide) (by decide) (by decide)
    (by decide)).mpr (Or.inl (by decide))

/-- XHDR answers 420 to a range that ends above the highest number. -/
theorem end_above_high_is_refused
    : twoArticlesReader.Reads "open".toList 2
      ∧ (srvBackend sampleServers .sqlite3).xhdrReply sampleExtern sampleEnv twoArticlesReader
          "XHDR subject 1-3".toList = .ok [⟨noarticleselected, none⟩]
      ∧ ¬ListsExactly xhdrReply ' '
          (twoArticles.coveredRows "open".toList 2 (.between numeralOne numeralThree))
          ((srvBackend sampleServers .sqlite3).xhdrReply sampleExtern sampleEnv twoArticlesReader
            "XHDR subject 1-3".toList) := by
  have refused : (srvBackend sampleServers .sqlite3).xhdrReply sampleExtern sampleEnv
      twoArticlesReader "XHDR subject 1-3".toList = .ok [⟨noarticleselected, none⟩] := by
    decide +kernel
  refine ⟨twoArticlesReader_reads, refused, fun lists => ?_⟩
  have none' := (listsExactly_refused refused).mp lists
  exact absurd none' (by decide)

end Samples

end WendzelNNTPd
