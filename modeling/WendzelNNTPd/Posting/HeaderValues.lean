import WendzelNNTPd.Posting.HeaderText

/-! The header values that `docmd_post` uses, against the lines it has validated. The check accepts
a header if any of its lines has the right form; the values are those of the first line with the
name, taken from the header before and after the removal loop.
-/

namespace WendzelNNTPd

open CString Ere

section Patterns

/-- The words of a pattern are lines with their CRLF. -/
def LineEnded (r : Ere) : Prop := ∀ w ∈ r.language, ∃ u, w = u ++ "\r\n".toList ∧ OneLine u

/-- No byte of the words ends a line. -/
def Inline (r : Ere) : Prop := r.Within (fun c => isEol c = false)

theorem oneLine_of_isEol {text : Str} (none : ∀ c ∈ text, isEol c = false) : OneLine text := by
  constructor
  · intro cr
    exact absurd (none _ cr) (by decide)
  · intro lf
    exact absurd (none _ lf) (by decide)

theorem lineEnded_crlf : LineEnded (seqAll [crlf]) := by
  intro w member
  obtain ⟨u, inFirst, v, empty, rfl⟩ := mem_seq.mp member
  obtain rfl : v = [] := empty
  rw [mem_literal.mp inFirst]
  exact ⟨[], rfl, by decide⟩

theorem LineEnded.seq {first second : Ere} (within : Inline first) (ended : LineEnded second)
    : LineEnded (.seq first second) := by
  intro w member
  obtain ⟨u, inFirst, v, inSecond, rfl⟩ := mem_seq.mp member
  obtain ⟨line, rfl, one⟩ := ended v inSecond
  have front := oneLine_of_isEol (Within.of_mem within inFirst)
  exact ⟨u ++ line, (List.append_assoc _ _ _).symm, front.append one⟩

/-- Two lines that end at the same place are the same; a CR alone does not end one. -/
theorem line_eq_of_starts {u line rest : Str} (one : OneLine u) (other : '\n' ∉ line)
    (starts : u ++ "\r\n".toList <+: line ++ "\r\n".toList ++ rest)
    : u = line := by
  induction u generalizing line with
  | nil =>
      rcases line with _ | ⟨d, _ | ⟨e, line⟩⟩
      · rfl
      · have ends : ['\r', '\n'] <+: d :: '\r' :: '\n' :: rest := starts
        obtain ⟨-, second⟩ := List.cons_prefix_cons.mp ends
        exact absurd (List.cons_prefix_cons.mp second).1 (by decide)
      · have ends : ['\r', '\n'] <+: d :: e :: (line ++ "\r\n".toList ++ rest) := starts
        obtain ⟨-, second⟩ := List.cons_prefix_cons.mp ends
        obtain ⟨rfl, -⟩ := List.cons_prefix_cons.mp second
        exact absurd (List.mem_cons_of_mem _ List.mem_cons_self) other
  | cons c u ih =>
      cases line with
      | nil =>
          obtain ⟨rfl, -⟩ := List.cons_prefix_cons.mp starts
          exact absurd (Or.inl rfl) (oneLine_cons one).1
      | cons d line =>
          obtain ⟨rfl, rest⟩ := List.cons_prefix_cons.mp starts
          rw [ih (oneLine_cons one).2 (fun later => other (List.mem_cons_of_mem _ later)) rest]

/-- The first line of a text matches if it is a word of the pattern together with its CRLF. -/
theorem LineEnded.matchesPrefix_line {r : Ere} (ended : LineEnded r) {line : Str}
    (one : '\n' ∉ line) (rest : Str)
    : r.matchesPrefix (line ++ "\r\n".toList ++ rest) = true
      ↔ line ++ "\r\n".toList ∈ r.language := by
  rw [Ere.matchesPrefix_iff]
  constructor
  · rintro ⟨w, member, starts⟩
    obtain ⟨u, rfl, inside⟩ := ended w member
    rw [← line_eq_of_starts inside one starts]
    exact member
  · intro member
    exact ⟨_, member, List.prefix_append _ _⟩

theorem LineEnded.matchesPrefix_iff {r : Ere} (ended : LineEnded r) {line : Str} (one : OneLine line)
    : r.matchesPrefix (line ++ "\r\n".toList) = true ↔ line ++ "\r\n".toList ∈ r.language := by
  have whole := ended.matchesPrefix_line one.2 []
  rwa [List.append_nil] at whole

/-- What a pattern finds in a header is a line of it.
Witness: a match starts behind a line end and goes up to one.
-/
theorem LineEnded.line_of_match {r : Ere} (ended : LineEnded r) {text : Str}
    (found : r.matchesLineStart text = true)
    : ∃ line ∈ headerLines text, r.matchesPrefix (line ++ "\r\n".toList) = true := by
  obtain ⟨before, rest, rfl, start, hit⟩ := matchesLineStart_iff.mp found
  obtain ⟨w, member, more, rfl⟩ := Ere.matchesPrefix_iff.mp hit
  obtain ⟨line, rfl, one⟩ := ended w member
  have first : line ∈ headerLines (line ++ "\r\n".toList ++ more) := by
    have text : line ++ "\r\n".toList ++ more = line ++ '\r' :: ('\n' :: more) := by simp
    rw [text, headerLines_append rfl, headerLines_oneLine one]
    exact List.mem_append_left _ (List.mem_singleton_self _)
  refine ⟨line, ?_, (ended.matchesPrefix_iff one).mpr member⟩
  rcases start with rfl | ⟨front, rfl⟩
  · exact first
  · rw [List.append_assoc, List.singleton_append, headerLines_append rfl]
    exact List.mem_append_right _ first

theorem oneLine_of_mem_headerLines {text line : Str} (member : line ∈ headerLines text)
    : OneLine line := by
  induction size : text.length using Nat.strong_induction_on generalizing text with
  | _ n ih =>
      obtain ⟨first, rest, rfl, one, ends⟩ := exists_line text
      cases rest with
      | nil =>
          rw [List.append_nil, headerLines_oneLine one, List.mem_singleton] at member
          exact member ▸ one
      | cons e tail =>
          rw [headerLines_append (ends e rfl), headerLines_oneLine one] at member
          rcases List.mem_append.mp member with here | later
          · exact List.mem_singleton.mp here ▸ one
          · rw [List.length_append, List.length_cons] at size
            exact ih tail.length (by omega) later rfl

/-- The pattern of a field: its name in either case, colon, blank, and the pattern of the value. -/
def named (name : Str) (value : Ere) : Ere := .seq (.caseWord name) (.seq (.literal ": ".toList) value)

theorem mem_named {name w : Str} {value : Ere}
    : w ∈ (named name value).language
      ↔ ∃ u v, w = u ++ ": ".toList ++ v ∧ u.map Char.toLower = name.map Char.toLower
        ∧ v ∈ value.language := by
  rw [named, mem_seq]
  constructor
  · rintro ⟨u, inName, rest, inRest, rfl⟩
    obtain ⟨colon, inColon, v, inValue, rfl⟩ := mem_seq.mp inRest
    rw [mem_literal.mp inColon]
    exact ⟨u, v, (List.append_assoc _ _ _).symm, mem_caseWord.mp inName, inValue⟩
  · rintro ⟨u, v, rfl, same, inValue⟩
    refine ⟨u, mem_caseWord.mpr same, ": ".toList ++ v, ?_, (List.append_assoc _ _ _).symm⟩
    exact mem_seq.mpr ⟨_, mem_literal.mpr rfl, v, inValue, rfl⟩

/-- A line with the name, colon and blank matches the pattern if its value does. -/
theorem mem_named_line {name line : Str} {value : Ere} (ended : LineEnded value)
    : line ++ "\r\n".toList ∈ (named name value).language
      ↔ keyLine (name ++ [':']) line = true ∧ byteAt line (name ++ [':']).length = ' '
        ∧ line.drop ((name ++ [':']).length + 1) ++ "\r\n".toList ∈ value.language := by
  have size : (name ++ [':']).length = name.length + 1 := List.length_append
  rw [mem_named]
  constructor
  · rintro ⟨u, w, whole, same, inValue⟩
    obtain ⟨v, rfl, -⟩ := ended w inValue
    rw [← List.append_assoc] at whole
    obtain rfl := List.append_cancel_right whole
    have length : u.length = name.length := by simpa using congrArg List.length same
    have byte : byteAt (u ++ ": ".toList ++ v) (name ++ [':']).length = ' ' := by
      have place : u.length ≤ (name ++ [':']).length := by omega
      rw [List.append_assoc, byteAt, List.getElem?_append_right place, size, length,
        Nat.add_sub_cancel_left]
      rfl
    have rest : (u ++ ": ".toList ++ v).drop ((name ++ [':']).length + 1) = v := by
      rw [size, ← length]
      exact List.drop_left' (by simp)
    refine ⟨?_, byte, ?_⟩
    · rw [keyLine, byte, Bool.and_eq_true, caseEqPrefix_iff]
      refine ⟨⟨?_, ?_⟩, by decide⟩
      · have two : ": ".toList.length = 2 := rfl
        simp only [List.length_append, size, length, two]
        omega
      · rw [size, ← length, List.map_append, ← same]
        have front : (u ++ ": ".toList ++ v).take (u.length + 1) = u ++ [':'] := by
          have text : u ++ ": ".toList ++ v = (u ++ [':']) ++ (' ' :: v) := by simp
          rw [text]
          exact List.take_left' (by simp)
        rw [front, List.map_append]
    · rw [rest]
      exact inValue
  · rintro ⟨here, byte, inValue⟩
    have long := length_lt_of_keyLine here
    rw [keyLine, Bool.and_eq_true, caseEqPrefix_iff] at here
    obtain ⟨⟨-, same⟩, -⟩ := here
    have front : line = line.take (name.length + 1) ++ ' ' :: line.drop (name.length + 2) := by
      rw [size] at byte long
      rw [byteAt, List.getElem?_eq_getElem long] at byte
      have blank : line.get ⟨name.length + 1, long⟩ = ' ' := byte
      have behind : line.drop (name.length + 1)
          = line.get ⟨name.length + 1, long⟩ :: line.drop (name.length + 2) :=
        List.drop_eq_getElem_cons long
      have parts := List.take_append_drop (name.length + 1) line
      rw [behind, blank] at parts
      exact parts.symm
    have colon : line.take (name.length + 1) = line.take name.length ++ [':'] := by
      rw [size] at same long
      have short : name.length < line.length := by omega
      have next : line.take (name.length + 1)
          = line.take name.length ++ [line.get ⟨name.length, short⟩] :=
        List.take_succ_eq_append_getElem short
      rw [next, List.map_append, List.map_append] at same
      have last := (List.append_inj' same rfl).2
      rw [next]
      have single : (line.get ⟨name.length, short⟩).toLower = ':'.toLower := by simpa using last
      rcases toLower_eq_iff.mp single with isColon | isColon
      · rw [isColon]; rfl
      · rw [isColon]; rfl
    refine ⟨line.take name.length, line.drop (name.length + 2) ++ "\r\n".toList, ?_, ?_, ?_⟩
    · have text := congrArg (· ++ "\r\n".toList) front
      rw [colon] at text
      simpa using text
    · rw [size, colon, List.map_append, List.map_append] at same
      exact (List.append_inj' same rfl).1
    · rw [size] at inValue
      exact inValue

/-- What one of the header checks accepts: a line with the key, a blank, and a value of its form. -/
def ChecksValue (key : Str) (accepts : Str → Bool) (ok : Str → Prop) : Prop :=
  ∀ line, OneLine line →
    (accepts line = true
      ↔ keyLine key line = true ∧ byteAt line key.length = ' ' ∧ ok (line.drop (key.length + 1)))

/-- The line that a field's pattern matches is one line, since the key has no line end. -/
theorem LineEnded.named {key name : Str} {value : Ere} (ended : LineEnded value)
    (plain : LineKey key) (same : key.map Char.toLower = (name ++ [':']).map Char.toLower)
    : LineEnded (named name value) := by
  intro w member
  obtain ⟨u, v, rfl, letters, inValue⟩ := mem_named.mp member
  obtain ⟨line, rfl, one⟩ := ended v inValue
  have front : OneLine u := by
    apply oneLine_of_isEol
    intro c member
    by_contra eol
    apply plain.eol (by simpa using eol)
    rw [same, List.map_append, ← letters]
    exact List.mem_append_left _ (List.mem_map_of_mem member)
  exact ⟨u ++ ": ".toList ++ line, (List.append_assoc _ _ _).symm,
    (front.append (by decide)).append one⟩

/-- The case of a key does not matter. -/
theorem keyLine_congr {key key' : Str} (same : key.map Char.toLower = key'.map Char.toLower) (line : Str)
    : keyLine key line = keyLine key' line := by
  have length : key.length = key'.length := by simpa using congrArg List.length same
  have front : caseEqPrefix key line = caseEqPrefix key' line := by
    rw [Bool.eq_iff_iff, caseEqPrefix_iff, caseEqPrefix_iff, length, same]
  rw [keyLine, keyLine, front, length]

/-- A check by one pattern. -/
theorem checksValue_named {key name : Str} {value : Ere} (ended : LineEnded value)
    (plain : LineKey key) (same : key.map Char.toLower = (name ++ [':']).map Char.toLower)
    : ChecksValue key (fun line => (named name value).matchesPrefix (line ++ "\r\n".toList))
        (fun v => v ++ "\r\n".toList ∈ value.language) := by
  intro line one
  have length : key.length = (name ++ [':']).length := by simpa using congrArg List.length same
  rw [(ended.named plain same).matchesPrefix_iff one, mem_named_line ended, keyLine_congr same,
    length]

/-- A check by one of two patterns. -/
theorem ChecksValue.or {key : Str} {accepts accepts' : Str → Bool} {ok ok' : Str → Prop}
    (first : ChecksValue key accepts ok) (second : ChecksValue key accepts' ok')
    : ChecksValue key (fun line => accepts line || accepts' line) (fun v => ok v ∨ ok' v) := by
  intro line one
  rw [Bool.or_eq_true, first line one, second line one]
  tauto

end Patterns

section Checks

theorem inline_oneOf {set : Char → Bool} (cr : set '\r' = false) (lf : set '\n' = false)
    : Inline (.oneOf set) := by
  intro c inside
  by_contra eol
  rcases isEol_iff.mp (by simpa using eol) with rfl | rfl
  · rw [cr] at inside
    cases inside
  · rw [lf] at inside
    cases inside

theorem inline_plus {r : Ere} (within : Inline r) : Inline r.plus := ⟨within, within⟩

theorem inline_domainChar : Inline domainChar := inline_oneOf (by decide) (by decide)

theorem inline_textChar : Inline textChar := inline_oneOf (by decide) (by decide)

theorem inline_char {c : Char} (cr : c ≠ '\r') (lf : c ≠ '\n') : Inline (char c) :=
  inline_oneOf (by simpa using cr.symm) (by simpa using lf.symm)

theorem inline_addressRx : Inline addressRx :=
  ⟨inline_plus (inline_oneOf (by decide) (by decide)), inline_char (by decide) (by decide),
    inline_plus inline_domainChar, trivial⟩

/-- The value patterns of the three fields. -/
def newsgroupsValue : Ere :=
  seqAll [domainChar.plus, .star (.seq (.char ',') domainChar.plus), crlf]

def fromPlainValue : Ere := seqAll [addressRx, crlf]

def fromCommentValue : Ere := seqAll [addressRx, .char ' ', textChar.plus, crlf]

def fromAngleValue : Ere :=
  seqAll [.star textChar, .literal " <".toList, addressRx, .char '>', crlf]

def subjectValue : Ere := seqAll [.star textChar, crlf]

theorem lineEnded_newsgroupsValue : LineEnded newsgroupsValue := by
  have more : Inline (.star (.seq (.char ',') domainChar.plus)) :=
    ⟨inline_char (by decide) (by decide), inline_plus inline_domainChar⟩
  exact LineEnded.seq (inline_plus inline_domainChar) (LineEnded.seq more lineEnded_crlf)

theorem lineEnded_fromPlainValue : LineEnded fromPlainValue :=
  LineEnded.seq inline_addressRx lineEnded_crlf

theorem lineEnded_fromCommentValue : LineEnded fromCommentValue := by
  have comment : LineEnded (seqAll [.char ' ', textChar.plus, crlf]) :=
    LineEnded.seq (inline_char (by decide) (by decide))
      (LineEnded.seq (inline_plus inline_textChar) lineEnded_crlf)
  exact LineEnded.seq inline_addressRx comment

theorem lineEnded_fromAngleValue : LineEnded fromAngleValue := by
  have name : Inline (.star textChar) := inline_textChar
  have angle : Inline (.literal " <".toList) :=
    ⟨inline_char (by decide) (by decide), inline_char (by decide) (by decide), trivial⟩
  have address : LineEnded (seqAll [addressRx, .char '>', crlf]) :=
    LineEnded.seq inline_addressRx
      (LineEnded.seq (inline_char (by decide) (by decide)) lineEnded_crlf)
  exact LineEnded.seq name (LineEnded.seq angle address)

theorem lineEnded_subjectValue : LineEnded subjectValue := by
  have text : Inline (.star textChar) := inline_textChar
  exact LineEnded.seq text lineEnded_crlf

/-- A line that the check for Newsgroups accepts. -/
def newsgroupsLine (line : Str) : Bool := newsgroupsRx.matchesPrefix (line ++ "\r\n".toList)

/-- A line that one of the checks for From accepts. -/
def fromLine (line : Str) : Bool :=
  fromPlainRx.matchesPrefix (line ++ "\r\n".toList)
    || fromCommentRx.matchesPrefix (line ++ "\r\n".toList)
    || fromAngleRx.matchesPrefix (line ++ "\r\n".toList)

/-- A line that the check for Subject accepts. -/
def subjectLine (line : Str) : Bool := subjectRx.matchesPrefix (line ++ "\r\n".toList)

theorem lineKey_newsgroups : LineKey "Newsgroups:".toList := ⟨by decide, by decide, by decide⟩

theorem lineKey_from : LineKey "From:".toList := ⟨by decide, by decide, by decide⟩

theorem lineKey_subject : LineKey "Subject:".toList := ⟨by decide, by decide, by decide⟩

theorem newsgroups_checksValue : ∃ ok, ChecksValue "Newsgroups:".toList newsgroupsLine ok :=
  ⟨_, checksValue_named lineEnded_newsgroupsValue lineKey_newsgroups (by decide)⟩

theorem from_checksValue : ∃ ok, ChecksValue "From:".toList fromLine ok := by
  have plain := checksValue_named lineEnded_fromPlainValue lineKey_from
    (by decide : _ = ("from".toList ++ [':']).map Char.toLower)
  have comment := checksValue_named lineEnded_fromCommentValue lineKey_from
    (by decide : _ = ("from".toList ++ [':']).map Char.toLower)
  have angle := checksValue_named lineEnded_fromAngleValue lineKey_from
    (by decide : _ = ("from".toList ++ [':']).map Char.toLower)
  exact ⟨_, (plain.or comment).or angle⟩

theorem subject_checksValue : ∃ ok, ChecksValue "Subject:".toList subjectLine ok :=
  ⟨_, checksValue_named lineEnded_subjectValue lineKey_subject (by decide)⟩

/-- A header that passes the check has an accepted line for each field. -/
theorem accepted_lines {text : Str} (checked : chkRequiredHdrLines text = none)
    : (∃ line ∈ headerLines text, newsgroupsLine line = true)
      ∧ (∃ line ∈ headerLines text, fromLine line = true)
      ∧ ∃ line ∈ headerLines text, subjectLine line = true := by
  have newsgroupsEnded : LineEnded newsgroupsRx :=
    lineEnded_newsgroupsValue.named lineKey_newsgroups (by decide)
  have plainEnded : LineEnded fromPlainRx := lineEnded_fromPlainValue.named lineKey_from (by decide)
  have commentEnded : LineEnded fromCommentRx :=
    lineEnded_fromCommentValue.named lineKey_from (by decide)
  have angleEnded : LineEnded fromAngleRx := lineEnded_fromAngleValue.named lineKey_from (by decide)
  have subjectEnded : LineEnded subjectRx := lineEnded_subjectValue.named lineKey_subject (by decide)
  unfold chkRequiredHdrLines at checked
  split at checked
  · cases checked
  · rename_i newsgroups
    split at checked
    · cases checked
    · rename_i sender
      split at checked
      · cases checked
      · rename_i subject
        simp only [Bool.not_eq_true', Bool.not_eq_false, Bool.or_eq_true] at newsgroups sender subject
        refine ⟨newsgroupsEnded.line_of_match newsgroups, ?_, subjectEnded.line_of_match subject⟩
        rcases sender with (plain | comment) | angle
        · obtain ⟨line, there, hit⟩ := plainEnded.line_of_match plain
          exact ⟨line, there, by simp only [fromLine, hit, Bool.true_or]⟩
        · obtain ⟨line, there, hit⟩ := commentEnded.line_of_match comment
          exact ⟨line, there, by simp only [fromLine, hit, Bool.true_or, Bool.or_true]⟩
        · obtain ⟨line, there, hit⟩ := angleEnded.line_of_match angle
          exact ⟨line, there, by simp only [fromLine, hit, Bool.or_true]⟩

end Checks

section Values

/-- The value found in `text` is that of a line of the header which the check accepts. -/
def TakesChecked (key : Str) (accepts : Str → Bool) (header text : Str) : Prop :=
  ∃ value line, cdpReturnLinevalue text key = some value ∧ line ∈ headerLines header
    ∧ accepts line = true ∧ lineValue key line = some value

/-- The first line with the key has a value and is one that the check accepts, or repeats behind a
TAB the value of such a line. -/
def FirstIsChecked (key : Str) (accepts : Str → Bool) (text : Str) : Prop :=
  ∀ first, (headerLines text).find? (keyLine key) = some first →
    lineValue key first ≠ none
    ∧ (accepts first = true
      ∨ byteAt first key.length = '\t'
        ∧ ∃ line ∈ headerLines text, accepts line = true ∧ lineValue key line = lineValue key first)

theorem lineValue_some {key line value : Str} (found : lineValue key line = some value)
    : line.drop (key.length + 1) = value := by
  unfold lineValue at found
  split at found
  · cases found
  · exact Option.some.inj found

/-- The value that is found is validated exactly if the first line with the key is. -/
theorem takesChecked_iff {key text : Str} {accepts : Str → Bool} {ok : Str → Prop}
    (plain : LineKey key) (check : ChecksValue key accepts ok)
    (accepted : ∃ line ∈ headerLines text, accepts line = true)
    : TakesChecked key accepts text text ↔ FirstIsChecked key accepts text := by
  unfold TakesChecked
  rw [linevalue_headerLines plain text]
  constructor
  · rintro ⟨value, line, found, there, good, same⟩ first isFirst
    rw [isFirst, Option.bind_some] at found
    refine ⟨by rw [found]; simp, ?_⟩
    have here := List.find?_some isFirst
    have behind : byteAt first key.length = ' ' ∨ byteAt first key.length = '\t' := by
      simpa only [keyLine, Bool.and_eq_true, Bool.or_eq_true, beq_iff_eq] using
        (Bool.and_eq_true_iff.mp here).2
    rcases behind with blank | tab
    · have oneFirst := oneLine_of_mem_headerLines (List.mem_of_find?_eq_some isFirst)
      have form := ((check line (oneLine_of_mem_headerLines there)).mp good).2.2
      rw [lineValue_some same, ← lineValue_some found] at form
      exact Or.inl ((check first oneFirst).mpr ⟨here, blank, form⟩)
    · exact Or.inr ⟨tab, line, there, good, same.trans found.symm⟩
  · intro checked
    obtain ⟨line, there, good⟩ := accepted
    have here := ((check line (oneLine_of_mem_headerLines there)).mp good).1
    obtain ⟨first, isFirst⟩ := Option.isSome_iff_exists.mp
      (List.find?_isSome.mpr ⟨line, there, here⟩)
    obtain ⟨nonempty, form⟩ := checked first isFirst
    obtain ⟨value, found⟩ := Option.ne_none_iff_exists'.mp nonempty
    rw [isFirst, Option.bind_some]
    rcases form with self | ⟨-, other, inText, good', same⟩
    · exact ⟨value, first, found, List.mem_of_find?_eq_some isFirst, self, found⟩
    · exact ⟨value, other, found, inText, good', same.trans found⟩

/-- The place behind a text is the beginning of a line. -/
def AtLineStart (front : Str) : Prop := front = [] ∨ ∃ c ∈ front.getLast?, isEol c = true

/-- A text in which a name starts a line of its own, which ends with CRLF or LF. -/
structure OwnLine (field pre value eol : Str) : Prop where
  start : AtLineStart pre
  one : OneLine value
  name : caseEqPrefix field value = true
  ends : eol = "\r\n".toList ∨ eol = "\n".toList

/-- Wherever the name stands in the text, it starts a line of its own. -/
def OnOwnLines (field text : Str) : Prop :=
  ∀ i, caseEqPrefix field (text.drop i) = true →
    ∃ pre value eol post, text = pre ++ (value ++ eol) ++ post ∧ pre.length = i
      ∧ OwnLine field pre value eol

/-- The lines of two texts that meet at the beginning of a line. -/
theorem find_headerLines_append {key : Str} (plain : LineKey key) {front : Str}
    (start : AtLineStart front) (rest : Str)
    : (headerLines (front ++ rest)).find? (keyLine key)
      = ((headerLines front).find? (keyLine key)).or ((headerLines rest).find? (keyLine key)) := by
  rcases start with rfl | ⟨e, last, eol⟩
  · have empty : headerLines [] = [[]] := rfl
    rw [List.nil_append, empty, List.find?_cons_of_neg (by simp [keyLine_nil plain])]
    rfl
  · obtain ⟨front, rfl⟩ : ∃ init, front = init ++ [e] := by
      obtain ⟨init, whole⟩ := List.getLast?_eq_some_iff.mp last
      exact ⟨init, whole⟩
    have empty : headerLines (front ++ [e]) = headerLines front ++ [[]] :=
      headerLines_append eol front []
    rw [List.append_assoc, List.singleton_append, headerLines_append eol, empty, List.find?_append,
      List.find?_append, List.find?_cons_of_neg (by simp [keyLine_nil plain])]
    cases (headerLines front).find? (keyLine key) <;> rfl

/-- The value of a checked field does not change when another field's line is removed. -/
theorem linevalue_removed {key field pre value eol post : Str}
    (checked : key = "Newsgroups:".toList ∨ key = "From:".toList ∨ key = "Subject:".toList)
    (plain : LineKey key) (member : field ∈ removeLines) (own : OwnLine field pre value eol)
    : cdpReturnLinevalue (pre ++ (value ++ eol) ++ post) key = cdpReturnLinevalue (pre ++ post) key := by
  have other : keyLine key value = false := by
    by_contra here
    have kept := not_removable checked (by simpa using here)
    rw [removable, List.any_eq_false] at kept
    exact kept field member own.name
  have middle : (headerLines (value ++ eol ++ post)).find? (keyLine key)
      = (headerLines post).find? (keyLine key) := by
    have first : headerLines value = [value] := headerLines_oneLine own.one
    rcases own.ends with rfl | rfl
    · have text : value ++ "\r\n".toList ++ post = value ++ '\r' :: ([] ++ '\n' :: post) := by simp
      rw [text, headerLines_append rfl, headerLines_append rfl, first]
      have empty : headerLines [] = [[]] := rfl
      rw [empty, List.singleton_append, List.singleton_append,
        List.find?_cons_of_neg (by simp [other]),
        List.find?_cons_of_neg (by simp [keyLine_nil plain])]
    · have text : value ++ "\n".toList ++ post = value ++ '\n' :: post := by simp
      rw [text, headerLines_append rfl, first, List.singleton_append,
        List.find?_cons_of_neg (by simp [other])]
  rw [linevalue_headerLines plain, linevalue_headerLines plain, List.append_assoc,
    find_headerLines_append plain own.start, find_headerLines_append plain own.start, middle]

/-- The names that are removed stay on their own lines when one of these lines is removed.
Witness: before the removed line a hit cannot reach over the line end, and behind it the hit has
moved with its line.
-/
theorem OnOwnLines.removed {other field pre value eol post : Str}
    (own : OnOwnLines other (pre ++ (value ++ eol) ++ post)) (line : OwnLine field pre value eol)
    (member : other ∈ removeLines) (fieldMember : field ∈ removeLines)
    : OnOwnLines other (pre ++ post) := by
  intro i hit
  by_cases before : i < pre.length
  · obtain ⟨init, e, rfl, isEol⟩ : ∃ init e, pre = init ++ [e] ∧ isEol e = true := by
      rcases line.start with rfl | ⟨e, last, isEol⟩
      · cases before
      · obtain ⟨init, whole⟩ := List.getLast?_eq_some_iff.mp last
        exact ⟨init, e, whole, isEol⟩
    have short : i ≤ init.length := by
      rw [List.length_append, List.length_singleton] at before
      omega
    have split (rest : Str) : (init ++ [e] ++ rest).drop i = init.drop i ++ e :: rest := by
      rw [List.append_assoc, List.drop_append_of_le_length short, List.singleton_append]
    have noEol : e.toLower ∉ other.map Char.toLower :=
      removeLines_plain member (Or.inr (isEol_iff.mp isEol))
    rw [split] at hit
    have within := length_le_of_line noEol hit
    have earlier : caseEqPrefix other ((init ++ [e] ++ (value ++ eol) ++ post).drop i) = true := by
      rw [List.append_assoc (init ++ [e]), split, caseEqPrefix_append within]
      rwa [caseEqPrefix_append within] at hit
    obtain ⟨p, v, l, q, whole, rfl, start, one, name, ends⟩ := own i earlier
    have parts : p = init.take p.length
        ∧ init.drop p.length ++ e :: (value ++ eol ++ post) = v ++ (l ++ q) := by
      have taken := congrArg (List.take p.length) whole
      have dropped := congrArg (List.drop p.length) whole
      rw [List.append_assoc (init ++ [e]), split, List.append_assoc p, List.drop_left,
        List.append_assoc v] at dropped
      rw [List.append_assoc p, List.take_left, List.append_assoc, List.append_assoc init,
        List.take_append_of_le_length short] at taken
      exact ⟨taken.symm, dropped⟩
    obtain ⟨frontEq, rest⟩ := parts
    obtain ⟨w, valueRest⟩ : v <+: init.drop p.length := by
      have here : v <+: init.drop p.length ++ e :: (value ++ eol ++ post) := by
        rw [rest]
        exact List.prefix_append _ _
      refine List.prefix_of_prefix_length_le here (List.prefix_append _ _) ?_
      by_contra long
      have longer : init.drop p.length ++ [e] <+: v := by
        refine List.prefix_of_prefix_length_le ⟨value ++ eol ++ post, by simp⟩ here ?_
        rw [List.length_append, List.length_singleton]
        omega
      have inside := one.isEol e (longer.subset (by simp))
      rw [isEol] at inside
      cases inside
    rw [← valueRest, List.append_assoc] at rest
    have ending := List.append_cancel_left rest
    obtain ⟨q', more⟩ : l <+: w ++ [e] := by
      refine List.prefix_of_prefix_length_le (List.prefix_append l q) (ending ▸ ⟨value ++ eol ++ post, by simp⟩) ?_
      by_contra long
      have nonempty := removeLines_length fieldMember
      have valueLong := (caseEqPrefix_iff.mp line.name).1
      rcases ends with rfl | rfl
      · cases w with
        | nil =>
            cases value with
            | nil =>
                rw [List.length_nil] at valueLong
                omega
            | cons c cs =>
                obtain ⟨-, next⟩ := List.cons.inj ending
                obtain ⟨rfl, -⟩ := List.cons.inj next
                exact (oneLine_cons line.one).1 (Or.inr rfl)
        | cons c cs =>
            apply long
            simp
      · apply long
        simp
    refine ⟨p, v, l, q' ++ post, ?_, rfl, start, one, name, ends⟩
    have text : init ++ [e] ++ post = init.take p.length ++ (init.drop p.length ++ [e] ++ post) := by
      rw [← List.append_assoc, ← List.append_assoc, List.take_append_drop]
    rw [text, ← frontEq, ← valueRest, List.append_assoc v, ← more]
    simp only [List.append_assoc]
  · obtain ⟨j, rfl⟩ := Nat.exists_eq_add_of_le (Nat.not_lt.mp before)
    rw [List.drop_length_add_append] at hit
    obtain ⟨p, v, l, q, whole, size, start, one, name, ends⟩ :=
      own ((pre ++ (value ++ eol)).length + j) (by rwa [List.drop_length_add_append])
    have taken := congrArg (List.take p.length) whole
    have dropped := congrArg (List.drop p.length) whole
    rw [List.append_assoc p, List.take_left, size, List.take_length_add_append] at taken
    rw [List.append_assoc p, List.drop_left, size, List.drop_length_add_append] at dropped
    have within : (post.take j).length = j := by
      have lengths := congrArg List.length taken
      rw [List.length_append, size] at lengths
      omega
    refine ⟨pre ++ post.take j, v, l, q, ?_, ?_, ?_, one, name, ends⟩
    · rw [List.append_assoc (pre ++ post.take j), ← dropped, List.append_assoc,
        List.take_append_drop]
    · rw [List.length_append, within]
    · cases here : post.take j with
      | nil =>
          rw [List.append_nil]
          exact line.start
      | cons c cs =>
          rw [here] at taken
          have last : p.getLast? = (c :: cs).getLast? := by
            rw [← taken, List.getLast?_append_of_ne_nil _ (by simp)]
          rcases start with rfl | ⟨d, inLast, isEol⟩
          · simp at taken
          · refine Or.inr ⟨d, ?_, isEol⟩
            rw [List.getLast?_append_of_ne_nil _ (by simp), ← last]
            exact inLast

/-- One pass of the removal loop leaves the values of the checked fields alone. -/
theorem removeField_values {len : Nat} {buf field text : Str} (holds : HoldsHeader len buf text)
    (member : field ∈ removeLines) (own : ∀ other ∈ removeLines, OnOwnLines other text)
    : ∃ buf' text', removeField len buf field = some buf' ∧ HoldsHeader len buf' text'
      ∧ (∀ other ∈ removeLines, OnOwnLines other text')
      ∧ ∀ key, LineKey key →
          (key = "Newsgroups:".toList ∨ key = "From:".toList ∨ key = "Subject:".toList) →
          cdpReturnLinevalue text' key = cdpReturnLinevalue text key := by
  rcases removeField_cases holds member with ⟨-, buf', same, kept⟩ | ⟨i, hit, removal⟩
  · exact ⟨buf', text, same, kept, own, fun _ _ _ => rfl⟩
  · obtain ⟨pre, value, eol, post, rfl, rfl, line⟩ := own field member i hit
    obtain ⟨buf', ran, kept⟩ := removeAt_line holds line.one member line.name line.ends
    refine ⟨buf', pre ++ post, removal.trans ran, kept, ?_, ?_⟩
    · intro other there
      exact (own other there).removed line there member
    · intro key plain checked
      exact (linevalue_removed checked plain member line).symm

/-- All passes. -/
theorem removeAll_values {len : Nat} {fields : List Str} (members : ∀ field ∈ fields, field ∈ removeLines)
    {buf text : Str} (holds : HoldsHeader len buf text)
    (own : ∀ other ∈ removeLines, OnOwnLines other text)
    : ∃ buf', fields.foldlM (removeField len) buf = some buf'
      ∧ ∀ key, LineKey key →
          (key = "Newsgroups:".toList ∨ key = "From:".toList ∨ key = "Subject:".toList) →
          cdpReturnLinevalue (cstr buf') key = cdpReturnLinevalue text key := by
  induction fields generalizing buf text with
  | nil =>
      obtain ⟨tail, whole⟩ := holds.ended
      refine ⟨buf, rfl, fun key _ _ => ?_⟩
      rw [whole, cstr_append_nul holds.nul]
  | cons field rest ih =>
      obtain ⟨next, text', removed, holdsNext, ownNext, values⟩ :=
        removeField_values holds (members field List.mem_cons_self) own
      obtain ⟨buf', ran, final⟩ :=
        ih (fun other there => members other (List.mem_cons_of_mem _ there)) holdsNext ownNext
      refine ⟨buf', ?_, fun key plain checked => ?_⟩
      · rw [List.foldlM_cons, removed]
        exact ran
      · exact (final key plain checked).trans (values key plain checked)

/-- What was validated is what is used: the values that `docmd_post` takes from a header are those
of lines of the header that its check accepts. -/
structure UsesValidated (len : Nat) (header : Str) : Prop where
  newsgroups : TakesChecked "Newsgroups:".toList newsgroupsLine (cstr header) (cstr header)
  removed :
    ∃ out, removeFields len header = some out
      ∧ TakesChecked "Subject:".toList subjectLine (cstr header) (cstr out)
      ∧ TakesChecked "From:".toList fromLine (cstr header) (cstr out)

/-- The first lines of the three fields. -/
structure FirstLinesChecked (text : Str) : Prop where
  newsgroups : FirstIsChecked "Newsgroups:".toList newsgroupsLine text
  subject : FirstIsChecked "Subject:".toList subjectLine text
  sender : FirstIsChecked "From:".toList fromLine text

/-- In lines that end with CRLF, a name that starts lines only is on its own lines. -/
theorem onOwnLines_crlfLines {field : Str} {lines : List Str} (member : field ∈ removeLines)
    (one : ∀ line ∈ lines, OneLine line)
    (starts : ∀ line ∈ lines, ∀ k, 0 < k → caseEqPrefix field (line.drop k) = false)
    : OnOwnLines field (crlfLines lines) := by
  intro i hit
  have nonempty : field ≠ [] := List.length_pos_iff.mp (by have := removeLines_length member; omega)
  obtain ⟨pre, line, post, k, rfl, rfl, found⟩ :=
    found_in_line nonempty (fun c special => removeLines_plain member special) hit
  obtain rfl : k = 0 := by
    by_contra inside
    rw [starts line (by simp) k (Nat.pos_of_ne_zero inside)] at found
    cases found
  refine ⟨crlfLines pre, line, "\r\n".toList, crlfLines post, ?_, rfl, ?_⟩
  · rw [crlfLines_append, crlfLines_cons]
    simp
  · refine ⟨?_, one line (by simp), found, Or.inl rfl⟩
    by_cases first : pre = []
    · exact Or.inl (by rw [first, crlfLines_nil])
    · obtain ⟨front, whole⟩ := crlf_suffix first
      refine Or.inr ⟨'\n', ?_, rfl⟩
      rw [← whole, List.getLast?_append_of_ne_nil _ (by simp)]
      rfl

/-- The lines of a header with two senders. -/
def twoFromLines : List Str :=
  ["From: me".toList, "From: a@b.org".toList, "Newsgroups: a".toList, "Subject: hi".toList]

end Values

end WendzelNNTPd
