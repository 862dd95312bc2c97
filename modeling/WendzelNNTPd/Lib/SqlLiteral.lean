import WendzelNNTPd.Lib.CString
import Mathlib.Data.List.Induction

/-! String literals of SQL, as a server reads them from the text of a statement.
A doubled quote stands for a quote; where backslashes escape, a backslash and the byte
behind it stand for one byte, except before the wildcards `%` and `_`, where both remain.
-/

namespace SqlLiteral

open CString

/-- What a backslash and the byte behind it stand for. -/
def unescape (c : Char) : Str :=
  if c = '0' then [NUL]
  else if c = 'b' then ['\x08']
  else if c = 'n' then ['\n']
  else if c = 'r' then ['\r']
  else if c = 't' then ['\t']
  else if c = 'Z' then ['\x1a']
  else if c = '%' ∨ c = '_' then ['\\', c]
  else [c]

/-- Put decoded text in front of what was read behind it. -/
def emit (text : Str) (read : Str × Str) : Str × Str := (text ++ read.1, read.2)

/-- Read a literal whose opening quote has been consumed: its value and the text behind its
closing quote. -/
def scan (backslash : Bool) : Str → Option (Str × Str)
  | [] => none
  | [c] => if c = '\'' then some ([], []) else none
  | c :: d :: rest =>
      if c = '\'' then
        if d = '\'' then (scan backslash rest).map (emit ['\'']) else some ([], d :: rest)
      else if backslash = true ∧ c = '\\' then (scan backslash rest).map (emit (unescape d))
      else (scan backslash (d :: rest)).map (emit [c])

/-- The texts that a literal with backslash escapes denotes unchanged. -/
def plain : Str → Bool
  | [] => true
  | [c] => c != '\'' && c != '\\'
  | c :: d :: rest =>
      if c = '\'' then false
      else if c = '\\' then (d == '%' || d == '_') && plain rest
      else plain (d :: rest)

theorem map_emit {text value rest : Str} {read : Option (Str × Str)}
    (emitted : read.map (emit text) = some (value, rest))
    : ∃ inner : Str × Str, read = some inner ∧ text ++ inner.1 = value ∧ inner.2 = rest := by
  obtain ⟨inner, same, out⟩ := Option.map_eq_some_iff.mp emitted
  simp only [emit, Prod.mk.injEq] at out
  exact ⟨inner, same, out.1, out.2⟩

section Scan

variable {backslash : Bool} {rest : Str}

theorem scan_quote (notQuote : rest.head? ≠ some '\'')
    : scan backslash ('\'' :: rest) = some ([], rest) := by
  cases rest with
  | nil => rfl
  | cons d rest =>
      have other : d ≠ '\'' := by simpa using notQuote
      simp [scan, other]

theorem scan_doubled (rest : Str)
    : scan backslash ('\'' :: '\'' :: rest) = (scan backslash rest).map (emit ['\'']) := by
  simp [scan]

theorem scan_backslash (d : Char) (rest : Str)
    : scan true ('\\' :: d :: rest) = (scan true rest).map (emit (unescape d)) := by
  simp [scan]

/-- A byte that is neither a quote nor an escaping backslash stands for itself. -/
theorem scan_ordinary {c : Char} (notQuote : c ≠ '\'') (notEscape : ¬(backslash = true ∧ c = '\\'))
    (text : Str)
    : scan backslash (c :: text) = (scan backslash text).map (emit [c]) := by
  cases text with
  | nil => simp [scan, notQuote]
  | cons d rest => simp only [scan, notQuote, if_false, notEscape]

/-- Text behind a closed literal does not change how it is read.
Witness: the recursion of `scan`; the byte behind the closing quote is there already.
-/
theorem scan_append {text value more : Str} (read : scan backslash text = some (value, rest))
    (nonempty : rest ≠ [])
    : scan backslash (text ++ more) = some (value, rest ++ more) := by
  fun_induction scan backslash text generalizing value with
  | case1 => cases read
  | case2 =>
      simp only [Option.some.injEq, Prod.mk.injEq] at read
      exact absurd read.2.symm nonempty
  | case3 c notQuote => cases read
  | case4 tail ih =>
      obtain ⟨⟨inner, behind⟩, scanned, rfl, rfl⟩ := map_emit read
      rw [List.cons_append, List.cons_append, scan_doubled, ih scanned]
      rfl
  | case5 d tail notQuote =>
      cases read
      simp [scan, notQuote]
  | case6 c d tail notQuote escapes ih =>
      obtain ⟨⟨inner, behind⟩, scanned, rfl, rfl⟩ := map_emit read
      obtain ⟨rfl, rfl⟩ := escapes
      rw [List.cons_append, List.cons_append, scan_backslash, ih scanned]
      rfl
  | case7 c d tail notQuote notEscape ih =>
      obtain ⟨⟨inner, behind⟩, scanned, rfl, rfl⟩ := map_emit read
      rw [List.cons_append, scan_ordinary notQuote notEscape, ih scanned]
      rfl

end Scan

section Escaping

variable {backslash : Bool} {rest : Str}

/-- An escaping whose every byte reads back as itself reads back as a whole. -/
theorem scan_flatMap {escape : Char → Str}
    (inverse :
      ∀ c text, scan backslash (escape c ++ text) = (scan backslash text).map (emit [c]))
    (closed : rest.head? ≠ some '\'') (value : Str)
    : scan backslash (value.flatMap escape ++ '\'' :: rest) = some (value, rest) := by
  induction value with
  | nil => exact scan_quote closed
  | cons c value ih =>
      rw [List.flatMap_cons, List.append_assoc, inverse, ih]
      rfl

theorem unescape_wildcard {d : Char} (wildcard : d = '%' ∨ d = '_')
    : unescape d = ['\\', d] := by
  rcases wildcard with rfl | rfl
  · rfl
  · rfl

theorem unescape_length {d : Char} (other : ¬(d = '%' ∨ d = '_'))
    : (unescape d).length = 1 := by
  unfold unescape
  repeat' split
  all_goals simp_all

/-- What can become of a text put into a literal as it is: it reads back unchanged, something
of it is lost, or its last byte takes the closing quote along and the literal goes on. -/
def Outcome (rest value out behind : Str) : Prop :=
  plain value = true ∧ out = value ∧ behind = rest
  ∨ out.length < value.length
  ∨ ∃ before after, out = before ++ after ∧ scan true rest = some (after, behind)
      ∧ (value.getLast? = some '\\' ∨ value.getLast? = some '\'')

/-- The outcome of a text from that of its end. -/
theorem Outcome.behind {value out behind decoded : Str}
    (ends : Outcome rest value out behind) (source : Str) (shorter : decoded.length ≤ source.length)
    (same :
      decoded.length = source.length → plain value = true →
        decoded = source ∧ plain (source ++ value) = true)
    : Outcome rest (source ++ value) (decoded ++ out) behind := by
  rcases ends with ⟨unchanged, rfl, rfl⟩ | lost | ⟨before, after, rfl, goesOn, last⟩
  · rcases Nat.lt_or_eq_of_le shorter with less | equal
    · exact Or.inr (Or.inl (by simpa using less))
    · obtain ⟨rfl, whole⟩ := same equal unchanged
      exact Or.inl ⟨whole, rfl, rfl⟩
  · exact Or.inr (Or.inl (by simp only [List.length_append]; omega))
  · refine Or.inr (Or.inr ⟨decoded ++ before, after, by simp, goesOn, ?_⟩)
    rcases last with last | last
    · exact Or.inl (by simp [List.getLast?_append, last])
    · exact Or.inr (by simp [List.getLast?_append, last])

/-- Every literal around a text as it is has one of the outcomes.
Witness: induction on the text, two bytes at a time as a backslash or a quote joins two.
-/
theorem scan_unescaped (closed : rest.head? ≠ some '\'') (value : Str) {out behind : Str}
    (read : scan true (value ++ '\'' :: rest) = some (out, behind))
    : Outcome rest value out behind := by
  induction value using List.twoStepInduction generalizing out with
  | nil =>
      rw [List.nil_append, scan_quote closed] at read
      cases read
      exact Or.inl ⟨rfl, rfl, rfl⟩
  | singleton c =>
      by_cases quote : c = '\''
      · subst quote
        rw [List.singleton_append, scan_doubled] at read
        obtain ⟨⟨after, _⟩, scanned, rfl, rfl⟩ := map_emit read
        exact Or.inr (Or.inr ⟨_, after, rfl, scanned, Or.inr rfl⟩)
      · by_cases escape : c = '\\'
        · subst escape
          rw [List.singleton_append, scan_backslash] at read
          obtain ⟨⟨after, _⟩, scanned, rfl, rfl⟩ := map_emit read
          exact Or.inr (Or.inr ⟨_, after, rfl, scanned, Or.inl rfl⟩)
        · rw [List.singleton_append, scan_ordinary quote (by simp [escape]),
            scan_quote closed] at read
          cases read
          exact Or.inl ⟨by simp [plain, quote, escape], rfl, rfl⟩
  | cons_cons c d value ih ihNext =>
      by_cases quote : c = '\''
      · subst quote
        by_cases doubled : d = '\''
        · subst doubled
          rw [List.cons_append, List.cons_append, scan_doubled] at read
          obtain ⟨⟨inner, _⟩, scanned, rfl, rfl⟩ := map_emit read
          exact (ih scanned).behind ['\'', '\''] (by simp) (by simp)
        · rw [List.cons_append, scan_quote (by simpa using doubled)] at read
          cases read
          exact Or.inr (Or.inl (by simp))
      · by_cases escape : c = '\\'
        · subst escape
          rw [List.cons_append, List.cons_append, scan_backslash] at read
          obtain ⟨⟨inner, _⟩, scanned, rfl, rfl⟩ := map_emit read
          by_cases wildcard : d = '%' ∨ d = '_'
          · rw [unescape_wildcard wildcard]
            refine (ih scanned).behind ['\\', d] (Nat.le_refl _) (fun _ ends => ⟨rfl, ?_⟩)
            simpa [plain, ends] using wildcard
          · have one := unescape_length wildcard
            exact (ih scanned).behind ['\\', d] (by simp [one]) (by simp [one])
        · rw [List.cons_append, scan_ordinary quote (by simp [escape])] at read
          obtain ⟨⟨inner, _⟩, scanned, rfl, rfl⟩ := map_emit read
          refine (ihNext d scanned).behind [c] (Nat.le_refl _) (fun _ ends => ⟨rfl, ?_⟩)
          simpa [plain, quote, escape] using ends

/-- Plain text reads back unchanged. -/
theorem scan_plain (closed : rest.head? ≠ some '\'') {value : Str}
    (unchanged : plain value = true)
    : scan true (value ++ '\'' :: rest) = some (value, rest) := by
  fun_induction plain value with
  | case1 => exact scan_quote closed
  | case2 c =>
      obtain ⟨quote, escape⟩ : c ≠ '\'' ∧ c ≠ '\\' := by simpa using unchanged
      rw [List.singleton_append, scan_ordinary quote (by simp [escape]), scan_quote closed]
      rfl
  | case3 d value => cases unchanged
  | case4 d value notQuote ih =>
      obtain ⟨wildcard, ends⟩ : (d = '%' ∨ d = '_') ∧ plain value = true := by
        simpa using unchanged
      rw [List.cons_append, List.cons_append, scan_backslash, ih ends,
        unescape_wildcard wildcard]
      rfl
  | case5 c d value quote escape ih =>
      rw [List.cons_append, scan_ordinary quote (by simp [escape]), ih unchanged]
      rfl

theorem no_quote_of_plain {value : Str} (unchanged : plain value = true) : '\'' ∉ value := by
  fun_induction plain value with
  | case1 => simp
  | case2 c =>
      simp only [Bool.and_eq_true, bne_iff_ne] at unchanged
      simpa using unchanged.1.symm
  | case3 => cases unchanged
  | case4 d value other ih =>
      simp only [Bool.and_eq_true, Bool.or_eq_true, beq_iff_eq] at unchanged
      obtain ⟨wildcard, ends⟩ := unchanged
      rcases wildcard with rfl | rfl
      · simpa using ih ends
      · simpa using ih ends
  | case5 c d value quote escape ih =>
      have tail := ih unchanged
      simp only [List.mem_cons, not_or] at tail ⊢
      exact ⟨fun is => quote is.symm, tail⟩

/-- Text without quotes and backslashes is plain. -/
theorem plain_of_forall {value : Str} (ordinary : ∀ c ∈ value, c ≠ '\'' ∧ c ≠ '\\')
    : plain value = true := by
  fun_induction plain value with
  | case1 => rfl
  | case2 c => simpa using ordinary c (by simp)
  | case3 d value => exact absurd rfl (ordinary _ (by simp)).1
  | case4 d value notQuote ih => exact absurd rfl (ordinary _ (by simp)).2
  | case5 c d value quote escape ih =>
      exact ih (fun e member => ordinary e (List.mem_cons_of_mem c member))

/-- A literal without a quote behind it is not closed. -/
theorem scan_eq_none {text : Str} (noQuote : '\'' ∉ text) : scan backslash text = none := by
  fun_induction scan backslash text with
  | case1 => rfl
  | case2 => simp at noQuote
  | case3 c notQuote => rfl
  | case4 tail ih => simp at noQuote
  | case5 d tail notQuote => simp at noQuote
  | case6 c d tail notQuote escapes ih =>
      rw [ih (fun member => noQuote (by simp [member]))]
      rfl
  | case7 c d tail notQuote notEscape ih =>
      rw [ih (fun member => noQuote (List.mem_cons_of_mem c member))]
      rfl

end Escaping

section Row

/-- The text of `rest` is such that the written value, put in front of it and closed by a
quote, reads as `value` exactly under a condition. -/
def ReadsWhen (backslash : Bool) (written rest value : Str) (condition : Prop) : Prop :=
  ∀ behind, scan backslash (written ++ '\'' :: rest) = some (value, behind)
    ↔ condition ∧ behind = rest

variable {backslash : Bool} {rest : Str}

theorem ReadsWhen.of_scan {written value : Str}
    (read : scan backslash (written ++ '\'' :: rest) = some (value, rest))
    : ReadsWhen backslash written rest value True := by
  intro behind
  rw [read]
  simp [eq_comm]

/-- A text put into a literal as it is reads back if and only if it is plain, provided that
a literal that swallows its closing quote does not end as a swallowing text does. -/
theorem readsWhen_plain (closed : rest.head? ≠ some '\'')
    (swallowed : ∀ after behind, scan true rest = some (after, behind) → after.getLast? = some ' ')
    (value : Str)
    : ReadsWhen true value rest value (plain value = true) := by
  intro behind
  constructor
  · intro read
    rcases scan_unescaped closed value read with
      ⟨unchanged, -, same⟩ | lost | ⟨before, after, whole, goesOn, last⟩
    · exact ⟨unchanged, same⟩
    · exact absurd lost (Nat.lt_irrefl _)
    · have blank := swallowed after behind goesOn
      have ends : value.getLast? = some ' ' := by
        rw [whole, List.getLast?_append, blank]
        rfl
      rw [ends] at last
      simp at last
  · rintro ⟨unchanged, rfl⟩
    exact scan_plain closed unchanged

/-- The text between the closing quote of a value and the next value. -/
def separator : Str := [',', ' ', '\'']

theorem scan_separator {text : Str} (value : text.head? ≠ some '\'')
    : scan true (separator ++ text) = some ([',', ' '], text) := by
  have comma : scan true (separator ++ text) = ((scan true ('\'' :: text)).map (emit [' '])).map
      (emit [',']) := by
    rw [← scan_ordinary (by decide) (by decide), ← scan_ordinary (by decide) (by decide)]
    rfl
  rw [comma, scan_quote value]
  rfl

/-- A literal that swallows its closing quote ends with the blank in front of a value. -/
theorem swallowed_before_value {text : Str} (value : text.head? ≠ some '\'') {after behind : Str}
    (goesOn : scan true (separator ++ text) = some (after, behind))
    : after.getLast? = some ' ' := by
  rw [scan_separator value] at goesOn
  cases goesOn
  rfl

/-- It also does in front of an empty value, whose quotes it takes for a quote. -/
theorem swallowed_before_empty {text : Str} (value : text.head? ≠ some '\'') {after behind : Str}
    (goesOn : scan true (separator ++ '\'' :: (separator ++ text)) = some (after, behind))
    : after.getLast? = some ' ' := by
  have doubled : scan true (separator ++ '\'' :: (separator ++ text))
      = (scan true (separator ++ text)).map (emit [',', ' ', '\'']) := by
    rw [scan_separator value]
    simp [separator, scan, scan_quote value, emit]
  rw [doubled, scan_separator value] at goesOn
  cases goesOn
  rfl

/-- The text of a list of values behind the first opening quote. -/
def rowText : List Str → Str → Str
  | [], tail => tail
  | [value], tail => value ++ '\'' :: tail
  | value :: next :: values, tail =>
      value ++ '\'' :: (separator ++ rowText (next :: values) tail)

/-- Read a list of literals whose first opening quote has been consumed. -/
def readRow (backslash : Bool) : Nat → Str → Option (List Str × Str)
  | 0, text => some ([], text)
  | 1, text => (scan backslash text).map (fun read => ([read.1], read.2))
  | n + 2, text => do
      let (value, rest) ← scan backslash text
      let text ← rest.dropPrefix? separator
      let (values, rest) ← readRow backslash (n + 1) text
      pure (value :: values, rest)

theorem rowText_append (values : List Str) (tail more : Str)
    : rowText values (tail ++ more) = rowText values tail ++ more := by
  fun_induction rowText values tail with
  | case1 tail => rfl
  | case2 value tail => simp [rowText]
  | case3 value next values tail ih => simp [rowText, ih]

theorem dropPrefix_append (start text : Str) : (start ++ text).dropPrefix? start = some text :=
  List.dropPrefix?_append_of_beq text (beq_self_eq_true start)

theorem append_of_dropPrefix {start text rest : Str} (dropped : text.dropPrefix? start = some rest)
    : text = start ++ rest := by
  obtain ⟨found, whole, same⟩ := List.dropPrefix?_eq_some_iff.mp dropped
  rw [whole, eq_of_beq same]

theorem readRow_last {written value : Str} {condition : Prop}
    (reads : ReadsWhen backslash written rest value condition) {behind : Str}
    : readRow backslash 1 (written ++ '\'' :: rest) = some ([value], behind)
      ↔ condition ∧ behind = rest := by
  rw [← reads behind]
  simp [readRow]

theorem readRow_cons {written text value : Str} {condition : Prop} {n : Nat}
    (reads : ReadsWhen backslash written (separator ++ text) value condition)
    {values : List Str} {behind : Str}
    : readRow backslash (n + 2) (written ++ '\'' :: (separator ++ text))
        = some (value :: values, behind)
      ↔ condition ∧ readRow backslash (n + 1) text = some (values, behind) := by
  constructor
  · intro read
    simp only [readRow, Option.bind_eq_bind, Option.bind_eq_some_iff, Prod.exists,
      Option.pure_def, Option.some.injEq, Prod.mk.injEq, List.cons.injEq] at read
    obtain ⟨first, next, scanned, after, dropped, others, last, readRest, ⟨rfl, rfl⟩, rfl⟩ := read
    obtain ⟨holds, rfl⟩ := (reads next).mp scanned
    rw [dropPrefix_append, Option.some.injEq] at dropped
    subst dropped
    exact ⟨holds, readRest⟩
  · rintro ⟨holds, readRest⟩
    simp only [readRow, (reads _).mpr ⟨holds, rfl⟩, Option.bind_eq_bind, Option.bind_some,
      dropPrefix_append, readRest, Option.pure_def]

/-- Escaped values read back, whatever they are. -/
theorem readRow_escaped {escape : Char → Str}
    (inverse :
      ∀ c text, scan backslash (escape c ++ text) = (scan backslash text).map (emit [c]))
    (closed : rest.head? ≠ some '\'') (values : List Str)
    : readRow backslash values.length (rowText (values.map (fun v => v.flatMap escape)) rest)
      = some (values, rest) := by
  induction values with
  | nil => rfl
  | cons value values ih =>
      cases values with
      | nil =>
          exact (readRow_last (.of_scan (scan_flatMap inverse closed value))).mpr ⟨trivial, rfl⟩
      | cons next values =>
          have open_ : (separator ++ rowText ((next :: values).map (fun v => v.flatMap escape))
              rest).head? ≠ some '\'' := by simp [separator]
          exact (readRow_cons (.of_scan (scan_flatMap inverse open_ value))).mpr ⟨trivial, ih⟩

/-- Text behind a closed row does not change how it is read. -/
theorem readRow_append {n : Nat} {text more : Str} {values : List Str}
    (read : readRow backslash n text = some (values, rest)) (nonempty : rest ≠ [])
    : readRow backslash n (text ++ more) = some (values, rest ++ more) := by
  fun_induction readRow backslash n text generalizing values with
  | case1 text =>
      cases read
      rfl
  | case2 text =>
      simp only [Option.map_eq_some_iff, Prod.exists, Prod.mk.injEq] at read
      obtain ⟨value, after, scanned, rfl, rfl⟩ := read
      simp [readRow, scan_append scanned nonempty]
  | case3 n text ih =>
      simp only [Option.bind_eq_bind, Option.bind_eq_some_iff, Prod.exists,
        Option.pure_def, Option.some.injEq, Prod.mk.injEq] at read
      obtain ⟨first, next, scanned, after, dropped, others, last, readRest, rfl, rfl⟩ := read
      have whole := append_of_dropPrefix dropped
      have nextNonempty : next ≠ [] := by simp [whole, separator]
      have longer : (next ++ more).dropPrefix? separator = some (after ++ more) := by
        rw [whole, List.append_assoc, dropPrefix_append]
      simp only [readRow, scan_append scanned nextNonempty, Option.bind_eq_bind,
        Option.bind_some, longer, ih after readRest, Option.pure_def]

/-- The row that a text inserts, if it is one statement `head '..', .., '..');` whose values
are literals. The semicolon may be missing. -/
def readInsert (backslash : Bool) (head : Str) (columns : Nat) (text : Str)
    : Option (List Str) := do
  let text ← text.dropPrefix? head
  let (row, rest) ← readRow backslash columns text
  if rest = [')'] ∨ rest = [')', ';'] then some row else none

theorem readInsert_eq_some_iff {head text : Str} {columns : Nat} {row : List Str}
    : readInsert backslash head columns text = some row
      ↔ ∃ values rest, text = head ++ values
          ∧ readRow backslash columns values = some (row, rest)
          ∧ (rest = [')'] ∨ rest = [')', ';']) := by
  simp only [readInsert, Option.bind_eq_bind, Option.bind_eq_some_iff, Prod.exists]
  constructor
  · rintro ⟨values, dropped, read, rest, readsRow, ends⟩
    split at ends
    · rename_i closed
      obtain rfl := Option.some.inj ends
      exact ⟨values, rest, append_of_dropPrefix dropped, readsRow, closed⟩
    · cases ends
  · rintro ⟨values, rest, rfl, readsRow, closed⟩
    exact ⟨values, dropPrefix_append head values, row, rest, readsRow, if_pos closed⟩

/-- A statement that was cut to `kept` bytes inserts a row if and only if at most its
semicolon is lost and its values read back.
Witness: the text that was cut off does not change how the row before it is read, so what is
left of the statement closes the row where the whole statement does.
-/
theorem readInsert_take_iff (head : Str) (kept : Nat) {columns : Nat} {written row : List Str}
    {condition : Prop}
    (reads :
      ∀ tail behind, '\'' ∉ tail →
        (readRow backslash columns (rowText written (')' :: tail)) = some (row, behind)
          ↔ condition ∧ behind = ')' :: tail))
    : readInsert backslash head columns ((head ++ rowText written [')', ';']).take kept) = some row
      ↔ condition ∧ (head ++ rowText written [')', ';']).length ≤ kept + 1 := by
  rw [readInsert_eq_some_iff]
  constructor
  · rintro ⟨values, rest, cut, readsRow, closed⟩
    have whole := List.take_append_drop kept (head ++ rowText written [')', ';'])
    generalize lost : (head ++ rowText written [')', ';']).drop kept = more at whole
    rw [cut, List.append_assoc, List.append_cancel_left_eq] at whole
    have nonempty : rest ≠ [] := by rcases closed with rfl | rfl <;> simp
    have longer : readRow backslash columns (values ++ more) = some (row, rest ++ more) :=
      readRow_append readsRow nonempty
    rw [whole] at longer
    obtain ⟨holds, ends⟩ := (reads [';'] _ (by decide)).mp longer
    have short : more.length ≤ 1 := by
      have lengths := congrArg List.length ends
      rcases closed with rfl | rfl <;>
        simp only [List.length_append, List.length_cons, List.length_nil] at lengths <;> omega
    have lengths := congrArg List.length lost
    rw [List.length_drop] at lengths
    exact ⟨holds, by omega⟩
  · rintro ⟨holds, fits⟩
    by_cases all : (head ++ rowText written [')', ';']).length ≤ kept
    · rw [List.take_of_length_le all]
      exact ⟨_, [')', ';'], rfl, (reads [';'] _ (by decide)).mpr ⟨holds, rfl⟩, Or.inr rfl⟩
    · have split : head ++ rowText written [')', ';'] = (head ++ rowText written [')']) ++ [';'] := by
        rw [List.append_assoc, ← rowText_append]
        rfl
      have lengths := congrArg List.length split
      simp only [List.length_append, List.length_singleton] at lengths fits all
      rw [split, List.take_left' (by simp only [List.length_append]; omega)]
      exact ⟨_, [')'], rfl, (reads [] _ (by decide)).mpr ⟨holds, rfl⟩, Or.inl rfl⟩

end Row

end SqlLiteral
