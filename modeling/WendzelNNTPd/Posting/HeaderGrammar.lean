import WendzelNNTPd.Posting.AllOrNothing
import WendzelNNTPd.Posting.HeaderValues
import WendzelNNTPd.Server.Backends

/-! The header lines that POST requires, as the comments of the check describe them, and the
expressions that look for them. The parentheses around the name behind an address are not
escaped in their expression, so they group and match nothing: any text is taken for a name.
-/

namespace WendzelNNTPd

open CString Ere

-----------------------------------------------------------------------------------------
-- The documented lines
-----------------------------------------------------------------------------------------

/-- A header of lines that end with CRLF each. -/
def headerText (lines : List Str) : Str := lines.flatMap (· ++ "\r\n".toList)

/-- The name of a newsgroup or of a domain. -/
def DotName (text : Str) : Prop := text ≠ [] ∧ ∀ c ∈ text, isalnum c || c == '.' || c == '-'

/-- A line's text: no CR, LF and TAB. -/
def PlainText (text : Str) : Prop := ∀ c ∈ text, c != '\r' && c != '\n' && c != '\t'

/-- `blah@blah.com` -/
def Address (text : Str) : Prop :=
  ∃ user domain, text = user ++ '@' :: domain
    ∧ (user ≠ [] ∧ ∀ c ∈ user, isalnum c || c == '.' || c == '_' || c == '+' || c == '-')
    ∧ DotName domain

/-- Names of newsgroups with commas between them. -/
def NewsgroupList (value : Str) : Prop :=
  ∃ names : List Str, names ≠ [] ∧ (∀ name ∈ names, DotName name)
    ∧ value = [','].intercalate names

/-- The three forms that the comments give for From. -/
inductive Sender : Str → Prop
  | plain {address : Str} (is : Address address) : Sender address
  | comment {address name : Str} (is : Address address) (nonempty : name ≠ [])
    (text : PlainText name)
    : Sender (address ++ " (".toList ++ name ++ [')'])
  | angle {name address : Str} (text : PlainText name) (is : Address address)
    : Sender (name ++ " <".toList ++ address ++ ['>'])

/-- An address with a text behind it, in parentheses or not. -/
def AddressText (value : Str) : Prop :=
  ∃ address text, value = address ++ ' ' :: text ∧ Address address ∧ text ≠ [] ∧ PlainText text

/-- Some line is the name of the field in either case, a colon, a blank and such a value. -/
def HasField (name : Str) (ok : Str → Prop) (lines : List Str) : Prop :=
  ∃ line ∈ lines, ∃ key value, line = key ++ ": ".toList ++ value
    ∧ key.map Char.toLower = name.map Char.toLower ∧ ok value

def HasNewsgroups : List Str → Prop := HasField "newsgroups".toList NewsgroupList

def HasFrom : List Str → Prop := HasField "from".toList Sender

def HasSubject : List Str → Prop := HasField "subject".toList PlainText

/-- `SEND_441ERR` for the message of the first check that fails, and the result. -/
def hdrReply : Option Str → Srv Bool
  | none => pure true
  | some message => do
      toSend message
      pure false

/-- `docmd_post_chk_required_hdr_lines` with the reply it sends. -/
def docmdPostChkRequiredHdrLines (header : Str) : Srv Bool := hdrReply (chkRequiredHdrLines header)

/-- The check accepts the documented headers and answers every other one with one reply, for
the first field that is missing. -/
structure HdrLinesRight (lines : List Str) : Prop where
  accepts : HasNewsgroups lines → HasFrom lines → HasSubject lines →
    docmdPostChkRequiredHdrLines (headerText lines) = pure true
  newsgroups : ¬HasNewsgroups lines →
    docmdPostChkRequiredHdrLines (headerText lines)
      = (toSend hdrerrorNewsgroup >>= fun _ => pure false)
  sender : HasNewsgroups lines → ¬HasFrom lines →
    docmdPostChkRequiredHdrLines (headerText lines)
      = (toSend hdrerrorFrom >>= fun _ => pure false)
  subject : HasNewsgroups lines → HasFrom lines → ¬HasSubject lines →
    docmdPostChkRequiredHdrLines (headerText lines)
      = (toSend hdrerrorSubject >>= fun _ => pure false)

-----------------------------------------------------------------------------------------
-- The words of the expressions
-----------------------------------------------------------------------------------------

section Words

theorem mem_domainChar_plus {w : Str} : w ∈ domainChar.plus.language ↔ DotName w :=
  mem_plus_oneOf

/-- A value pattern is a sequence of parts and the CRLF behind them.
Witness: induction on the parts; the word of the last one is the CRLF.
-/
theorem mem_parts_crlf {parts : List Ere} {v : Str}
    : v ++ "\r\n".toList ∈ (seqAll (parts ++ [crlf])).language ↔ v ∈ (seqAll parts).language := by
  have single {w : Str} : w ∈ (seqAll [crlf]).language ↔ w = "\r\n".toList := by
    rw [seqAll, mem_seq]
    constructor
    · rintro ⟨u, inFirst, e, empty, rfl⟩
      rw [mem_literal.mp inFirst, mem_eps.mp empty, List.append_nil]
    · rintro rfl
      exact ⟨_, mem_literal.mpr rfl, [], rfl, List.append_nil _⟩
  have ends {parts : List Ere} {w : Str} (member : w ∈ (seqAll (parts ++ [crlf])).language)
      : ∃ y, w = y ++ "\r\n".toList := by
    induction parts generalizing w with
    | nil => exact ⟨[], single.mp member⟩
    | cons part parts ih =>
        obtain ⟨u, -, rest, inRest, rfl⟩ := mem_seq.mp member
        obtain ⟨y, rfl⟩ := ih inRest
        exact ⟨u ++ y, (List.append_assoc _ _ _).symm⟩
  induction parts generalizing v with
  | nil =>
      rw [List.nil_append, single]
      exact List.append_left_eq_self.trans Iff.rfl
  | cons part parts ih =>
      rw [List.cons_append, seqAll, seqAll, mem_seq, mem_seq]
      constructor
      · rintro ⟨u, inPart, rest, inRest, whole⟩
        obtain ⟨y, rfl⟩ := ends inRest
        rw [← List.append_assoc] at whole
        exact ⟨u, inPart, y, ih.mp inRest, List.append_cancel_right whole⟩
      · rintro ⟨u, inPart, y, inRest, rfl⟩
        exact ⟨u, inPart, _, ih.mpr inRest, (List.append_assoc _ _ _).symm⟩

theorem mem_addressRx {w : Str} : w ∈ addressRx.language ↔ Address w := by
  simp only [addressRx, seqAll, mem_seq, mem_char, mem_eps]
  constructor
  · rintro ⟨user, inUser, -, ⟨-, rfl, -, ⟨domain, inDomain, -, rfl, rfl⟩, rfl⟩, rfl⟩
    exact ⟨user, domain, by simp, mem_plus_oneOf.mp inUser, mem_plus_oneOf.mp inDomain⟩
  · rintro ⟨user, domain, rfl, isUser, isDomain⟩
    exact ⟨user, mem_plus_oneOf.mpr isUser, _,
      ⟨_, rfl, _, ⟨domain, mem_plus_oneOf.mpr isDomain, [], rfl, rfl⟩, rfl⟩, by simp⟩

theorem intercalate_cons (first : Str) (names : List Str)
    : [','].intercalate (first :: names) = first ++ (names.map (',' :: ·)).flatten := by
  induction names generalizing first with
  | nil => simp [List.intercalate]
  | cons next names ih =>
      have later := ih next
      rw [List.intercalate_cons_cons, later]
      simp

theorem mem_newsgroupsValue {v : Str}
    : v ++ "\r\n".toList ∈ newsgroupsValue.language ↔ NewsgroupList v := by
  have more {w : Str}
      : w ∈ (star (seq (char ',') domainChar.plus)).language
        ↔ ∃ names : List Str, (∀ name ∈ names, DotName name) ∧ w = (names.map (',' :: ·)).flatten := by
    rw [mem_star]
    constructor
    · rintro ⟨parts, rfl, all⟩
      induction parts with
      | nil => exact ⟨[], by simp, rfl⟩
      | cons part parts ih =>
          obtain ⟨names, good, same⟩ := ih (fun other there => all other (List.mem_cons_of_mem _ there))
          obtain ⟨comma, isComma, name, isName, rfl⟩ := mem_seq.mp (all _ List.mem_cons_self)
          refine ⟨name :: names, List.forall_mem_cons.mpr ⟨mem_domainChar_plus.mp isName, good⟩, ?_⟩
          rw [List.flatten_cons, same, mem_char.mp isComma]
          rfl
    · rintro ⟨names, good, rfl⟩
      refine ⟨names.map (',' :: ·), rfl, fun part there => ?_⟩
      obtain ⟨name, member, rfl⟩ := List.mem_map.mp there
      exact mem_seq.mpr
        ⟨[','], mem_char.mpr rfl, name, mem_domainChar_plus.mpr (good name member), rfl⟩
  refine (@mem_parts_crlf [domainChar.plus, star (seq (char ',') domainChar.plus)] v).trans ?_
  simp only [seqAll, mem_seq, mem_eps, mem_domainChar_plus, more]
  constructor
  · rintro ⟨first, isFirst, -, ⟨-, ⟨names, good, rfl⟩, -, rfl, rfl⟩, rfl⟩
    refine ⟨first :: names, by simp, List.forall_mem_cons.mpr ⟨isFirst, good⟩, ?_⟩
    rw [intercalate_cons, List.append_nil]
  · rintro ⟨names, nonempty, good, rfl⟩
    cases names with
    | nil => exact absurd rfl nonempty
    | cons first names =>
        obtain ⟨isFirst, others⟩ := List.forall_mem_cons.mp good
        refine ⟨first, isFirst, _, ⟨_, ⟨names, others, rfl⟩, [], rfl, List.append_nil _⟩, ?_⟩
        rw [intercalate_cons]

/-- The three expressions for From take the documented values, and any text behind an
address. -/
theorem mem_fromValue {v : Str}
    : (v ++ "\r\n".toList ∈ fromPlainValue.language
        ∨ v ++ "\r\n".toList ∈ fromCommentValue.language
        ∨ v ++ "\r\n".toList ∈ fromAngleValue.language)
      ↔ Sender v ∨ AddressText v := by
  have plain : v ++ "\r\n".toList ∈ fromPlainValue.language ↔ Address v := by
    refine (@mem_parts_crlf [addressRx] v).trans ?_
    simp only [seqAll, mem_seq, mem_eps, mem_addressRx, exists_eq_left, List.append_nil,
      exists_eq_right]
  have comment : v ++ "\r\n".toList ∈ fromCommentValue.language ↔ AddressText v := by
    refine (@mem_parts_crlf [addressRx, char ' ', textChar.plus] v).trans ?_
    simp only [seqAll, mem_seq, mem_eps, mem_char, mem_addressRx]
    constructor
    · rintro ⟨address, is, -, ⟨-, rfl, -, ⟨text, inText, -, rfl, rfl⟩, rfl⟩, rfl⟩
      have ⟨nonempty, all⟩ := mem_plus_oneOf.mp inText
      exact ⟨address, text, by simp, is, nonempty, all⟩
    · rintro ⟨address, text, rfl, is, nonempty, all⟩
      exact ⟨address, is, _,
        ⟨_, rfl, _, ⟨text, mem_plus_oneOf.mpr ⟨nonempty, all⟩, [], rfl, rfl⟩, rfl⟩, by simp⟩
  have angle
      : v ++ "\r\n".toList ∈ fromAngleValue.language
        ↔ ∃ name address, v = name ++ " <".toList ++ address ++ ['>']
          ∧ PlainText name ∧ Address address := by
    refine (@mem_parts_crlf [star textChar, literal " <".toList, addressRx, char '>'] v).trans ?_
    simp only [seqAll, mem_seq, mem_eps, mem_char, mem_literal, mem_addressRx]
    constructor
    · rintro ⟨name, inName, -, ⟨-, rfl, -, ⟨address, is, -, ⟨-, rfl, -, rfl, rfl⟩, rfl⟩, rfl⟩, rfl⟩
      exact ⟨name, address, by simp, mem_star_oneOf.mp inName, is⟩
    · rintro ⟨name, address, rfl, all, is⟩
      exact ⟨name, mem_star_oneOf.mpr all, _,
        ⟨_, rfl, _, ⟨address, is, _, ⟨_, rfl, [], rfl, rfl⟩, rfl⟩, rfl⟩, by simp⟩
  rw [plain, comment, angle]
  constructor
  · rintro (is | text | ⟨name, address, rfl, all, is⟩)
    · exact Or.inl (.plain is)
    · exact Or.inr text
    · exact Or.inl (.angle all is)
  · rintro (sender | text)
    · cases sender with
      | plain is => exact Or.inl is
      | @comment address name is nonempty all =>
          refine Or.inr (Or.inl ⟨address, '(' :: name ++ [')'], by simp, is, by simp, ?_⟩)
          intro c member
          rcases List.mem_append.mp member with inside | last
          · rcases List.mem_cons.mp inside with rfl | inName
            · decide
            · exact all c inName
          · rw [List.mem_singleton.mp last]
            decide
      | angle all is => exact Or.inr (Or.inr ⟨_, _, rfl, all, is⟩)
    · exact Or.inr (Or.inl text)

theorem mem_subjectValue {v : Str}
    : v ++ "\r\n".toList ∈ subjectValue.language ↔ PlainText v := by
  refine (@mem_parts_crlf [star textChar] v).trans ?_
  simp only [seqAll, mem_seq, mem_eps, exists_eq_left, List.append_nil, exists_eq_right]
  exact mem_star_oneOf

end Words

-----------------------------------------------------------------------------------------
-- The check on a header
-----------------------------------------------------------------------------------------

section Header

variable {lines : List Str}

/-- What an expression finds in a header is one of its lines.
Witness: induction on the lines; a match starts at the beginning of the first one or behind
it.
-/
theorem matchesLineStart_headerText {r : Ere} (ended : LineEnded r)
    (one : ∀ line ∈ lines, '\n' ∉ line)
    : r.matchesLineStart (headerText lines) = true
      ↔ ∃ line ∈ lines, line ++ "\r\n".toList ∈ r.language := by
  induction lines with
  | nil =>
      have notEmpty : [] ∉ r.language := by
        intro member
        obtain ⟨u, whole, -⟩ := ended _ member
        exact absurd whole (by simp)
      simp [headerText, matchesLineStart, matchesPrefix, nullable_iff, notEmpty]
  | cons line lines ih =>
      obtain ⟨first, rest⟩ := List.forall_mem_cons.mp one
      have text : headerText (line :: lines) = line ++ "\r\n".toList ++ headerText lines := rfl
      have cut : headerText (line :: lines) = (line ++ ['\r']) ++ '\n' :: headerText lines := by
        rw [text]
        simp
      have noLf : '\n' ∉ line ++ ['\r'] := by simpa using first
      rw [cut, matchesLineStart_line noLf, ← cut, text, ended.matchesPrefix_line first, ih rest,
        List.exists_mem_cons_iff]

/-- A line that a field's pattern takes is the name, colon, blank and a value. -/
theorem hasField_named {name : Str} {value : Ere} (ended : LineEnded value)
    : (∃ line ∈ lines, line ++ "\r\n".toList ∈ (named name value).language)
      ↔ HasField name (fun v => v ++ "\r\n".toList ∈ value.language) lines := by
  refine exists_congr (fun line => and_congr_right (fun _ => ?_))
  rw [mem_named]
  constructor
  · rintro ⟨u, w, whole, same, inValue⟩
    obtain ⟨v, rfl, -⟩ := ended w inValue
    rw [← List.append_assoc] at whole
    exact ⟨u, v, List.append_cancel_right whole, same, inValue⟩
  · rintro ⟨u, v, rfl, same, inValue⟩
    exact ⟨u, v ++ "\r\n".toList, by simp, same, inValue⟩

theorem HasField.congr {name : Str} {ok ok' : Str → Prop} (same : ∀ value, ok value ↔ ok' value)
    : HasField name ok lines ↔ HasField name ok' lines := by
  simp only [HasField, same]

theorem HasField.or {name : Str} {ok ok' : Str → Prop}
    : HasField name (fun value => ok value ∨ ok' value) lines
      ↔ HasField name ok lines ∨ HasField name ok' lines := by
  constructor
  · rintro ⟨line, member, key, value, text, same, good | good⟩
    · exact Or.inl ⟨line, member, key, value, text, same, good⟩
    · exact Or.inr ⟨line, member, key, value, text, same, good⟩
  · rintro (⟨line, member, key, value, text, same, good⟩ | ⟨line, member, key, value, text, same, good⟩)
    · exact ⟨line, member, key, value, text, same, Or.inl good⟩
    · exact ⟨line, member, key, value, text, same, Or.inr good⟩

variable (one : ∀ line ∈ lines, '\n' ∉ line)
include one

theorem newsgroupsRx_headerText
    : newsgroupsRx.matchesLineStart (headerText lines) = true ↔ HasNewsgroups lines :=
  (matchesLineStart_headerText
    (lineEnded_newsgroupsValue.named lineKey_newsgroups (by decide)) one).trans
    ((hasField_named lineEnded_newsgroupsValue).trans (HasField.congr fun _ => mem_newsgroupsValue))

theorem subjectRx_headerText
    : subjectRx.matchesLineStart (headerText lines) = true ↔ HasSubject lines :=
  (matchesLineStart_headerText
    (lineEnded_subjectValue.named lineKey_subject (by decide)) one).trans
    ((hasField_named lineEnded_subjectValue).trans (HasField.congr fun _ => mem_subjectValue))

/-- The check for From also takes a line with a text behind the address. -/
theorem fromRx_headerText
    : (fromPlainRx.matchesLineStart (headerText lines)
        || fromCommentRx.matchesLineStart (headerText lines)
        || fromAngleRx.matchesLineStart (headerText lines)) = true
      ↔ HasFrom lines ∨ HasField "from".toList AddressText lines := by
  have found {value : Ere} (ended : LineEnded value)
      : (named "from".toList value).matchesLineStart (headerText lines) = true
        ↔ HasField "from".toList (fun v => v ++ "\r\n".toList ∈ value.language) lines :=
    (matchesLineStart_headerText (ended.named lineKey_from (by decide)) one).trans
      (hasField_named ended)
  rw [Bool.or_eq_true, Bool.or_eq_true, or_assoc]
  refine (or_congr (found lineEnded_fromPlainValue)
    (or_congr (found lineEnded_fromCommentValue) (found lineEnded_fromAngleValue))).trans ?_
  rw [← HasField.or, ← HasField.or, HasFrom, ← HasField.or]
  exact HasField.congr fun _ => mem_fromValue

end Header

section Reply

/-- POST goes on behind the check only if it has returned `TRUE`. -/
theorem postArticle_chkRequiredHdrLines (db : SrvBackend) (ext : Extern) (cfg : Config) (env : Env)
    {buf : Str} {i len : Nat} (ends : headerEnd 0 buf = some i)
    (separated : strstr headerSep (cstr buf) = some len)
    (body : ((cstr buf).drop (len + 4)).isEmpty = false)
    : db.postArticle ext cfg env buf
      = (do
          let ok ← docmdPostChkRequiredHdrLines (cstr (headerBuffer buf i))
          if ok then
            match cdpReturnLinevalue (cstr (headerBuffer buf i)) "Newsgroups:".toList with
            | none => toSend hdrerrorNewsgroup
            | some ngstrp => do
                let ok ← db.chkNgNameCorrectness (strtok ',' ngstrp)
                if ok then
                  db.postAccepted ext cfg env len (headerBuffer buf i) ngstrp ((cstr buf).drop (len + 4))
                else pure ()
          else pure ()) := by
  simp only [SrvBackend.postArticle, checkArticle, ends, separated, body, Bool.false_eq_true, if_false,
    docmdPostChkRequiredHdrLines]
  cases chkRequiredHdrLines (cstr (headerBuffer buf i)) with
  | some message => rfl
  | none =>
      cases cdpReturnLinevalue (cstr (headerBuffer buf i)) "Newsgroups:".toList with
      | none => rfl
      | some ngstrp => rfl

/-- The result and the session behind the check show which message it was. -/
theorem hdrReply_injective : Function.Injective hdrReply := by
  intro found found' same
  have ran := congrFun same (Session.fresh openConfig false .article .cleared)
  cases found with
  | none =>
      cases found' with
      | none => rfl
      | some message => cases ran
  | some message =>
      cases found' with
      | none => cases ran
      | some message' =>
          have state := (Prod.mk.inj (Atomic.Prog.done.inj ran)).2
          have sent := congrArg Session.curstring state
          obtain ⟨piece, -⟩ := List.cons.inj sent
          rw [(Piece.mk.inj piece).1]

end Reply

/-- The check is the documented one unless, in a header with a Newsgroups line, a text behind an
address stands for the missing From line.
Witness: the expressions for Newsgroups and Subject have the documented words, and those for
From have more.
-/
theorem hdr_lines_right_iff (lines : List Str) (one : ∀ line ∈ lines, '\n' ∉ line)
    : HdrLinesRight lines
      ↔ (HasNewsgroups lines → HasField "from".toList AddressText lines → HasFrom lines) := by
  have newsgroups := newsgroupsRx_headerText one
  have sender := fromRx_headerText one
  have subject := subjectRx_headerText one
  constructor
  · intro right hasNewsgroups text
    by_contra missing
    have refused : chkRequiredHdrLines (headerText lines) = some hdrerrorFrom :=
      hdrReply_injective (right.sender hasNewsgroups missing)
    unfold chkRequiredHdrLines at refused
    rw [newsgroups.mpr hasNewsgroups, sender.mpr (Or.inr text)] at refused
    simp only [Bool.not_true, Bool.false_eq_true, if_false] at refused
    split at refused
    · exact absurd (Option.some.inj refused) (by decide)
    · cases refused
  · intro condition
    have found (hasNewsgroups : HasNewsgroups lines)
        : (fromPlainRx.matchesLineStart (headerText lines)
            || fromCommentRx.matchesLineStart (headerText lines)
            || fromAngleRx.matchesLineStart (headerText lines)) = true
          ↔ HasFrom lines :=
      sender.trans (or_iff_left_of_imp (condition hasNewsgroups))
    refine ⟨?_, ?_, ?_, ?_⟩
    · intro hasNewsgroups hasFrom hasSubject
      unfold docmdPostChkRequiredHdrLines chkRequiredHdrLines
      rw [newsgroups.mpr hasNewsgroups, (found hasNewsgroups).mpr hasFrom, subject.mpr hasSubject]
      rfl
    · intro missing
      have no : newsgroupsRx.matchesLineStart (headerText lines) = false :=
        Bool.eq_false_iff.mpr (fun hit => missing (newsgroups.mp hit))
      unfold docmdPostChkRequiredHdrLines chkRequiredHdrLines
      rw [no]
      rfl
    · intro hasNewsgroups missing
      have no := Bool.eq_false_iff.mpr (fun hit => missing ((found hasNewsgroups).mp hit))
      unfold docmdPostChkRequiredHdrLines chkRequiredHdrLines
      rw [newsgroups.mpr hasNewsgroups, no]
      rfl
    · intro hasNewsgroups hasFrom missing
      have no : subjectRx.matchesLineStart (headerText lines) = false :=
        Bool.eq_false_iff.mpr (fun hit => missing (subject.mp hit))
      unfold docmdPostChkRequiredHdrLines chkRequiredHdrLines
      rw [newsgroups.mpr hasNewsgroups, (found hasNewsgroups).mpr hasFrom, no]
      rfl

/-- A header with a name in parentheses. -/
def commentedHeader : List Str :=
  ["newsgroups: a.b,c".toList, "From: max@b.org (Max M.)".toList, "Subject: hi".toList]

/-- The same header with a name that stands there without parentheses. -/
def uncommentedHeader : List Str :=
  ["newsgroups: a.b,c".toList, "From: max@b.org Max".toList, "Subject: hi".toList]

theorem hdr_lines_right_commented : HdrLinesRight commentedHeader := by
  refine (hdr_lines_right_iff commentedHeader (by decide +kernel)).mpr (fun _ _ => ?_)
  refine ⟨_, List.mem_cons_of_mem _ List.mem_cons_self, "From".toList, _, rfl, by decide, ?_⟩
  exact @Sender.comment "max@b.org".toList "Max M.".toList
    ⟨"max".toList, "b.org".toList, rfl,
      ⟨by decide, by simp [isalnum]⟩, by decide, by simp [isalnum]⟩
    (by decide) (by simp [PlainText])

/-- A line is cut behind the name of its field. -/
theorem field_parts {name line key value : Str} (text : line = key ++ ": ".toList ++ value)
    (same : key.map Char.toLower = name.map Char.toLower)
    : (line.take name.length).map Char.toLower = name.map Char.toLower
      ∧ value = line.drop (name.length + 2) := by
  have length : key.length = name.length := by simpa using congrArg List.length same
  rw [text, ← length]
  refine ⟨?_, (List.drop_left' (by simp)).symm⟩
  rw [List.append_assoc, List.take_left, same]

theorem not_sender_uncommented : ¬Sender "max@b.org Max".toList := by
  intro sender
  have last : "max@b.org Max".toList.getLast? = some 'x' := by decide
  generalize found : "max@b.org Max".toList = value at sender last
  cases sender with
  | plain is =>
      -- a blank is in no part of an address
      obtain ⟨user, domain, whole, ⟨-, inUser⟩, -, inDomain⟩ := is
      have blank : ' ' ∈ user ++ '@' :: domain := by
        rw [← whole, ← found]
        decide
      rcases List.mem_append.mp blank with there | there
      · exact absurd (inUser _ there) (by decide)
      · rcases List.mem_cons.mp there with sign | there
        · exact absurd sign (by decide)
        · exact absurd (inDomain _ there) (by decide)
  | comment _ _ _ =>
      rw [List.getLast?_concat] at last
      exact absurd (Option.some.inj last) (by decide)
  | angle _ _ =>
      rw [List.getLast?_concat] at last
      exact absurd (Option.some.inj last) (by decide)

theorem not_hasFrom_uncommented : ¬HasFrom uncommentedHeader := by
  rintro ⟨line, member, key, value, text, same, sender⟩
  have ⟨front, rest⟩ := field_parts text same
  simp only [uncommentedHeader, List.mem_cons, List.not_mem_nil, or_false] at member
  rcases member with rfl | rfl | rfl
  · exact absurd front (by decide)
  · rw [rest] at sender
    exact not_sender_uncommented sender
  · exact absurd front (by decide)

/-- A name that stands behind the address without parentheses is accepted. -/
theorem uncommented_accepted
    : docmdPostChkRequiredHdrLines (headerText uncommentedHeader) = pure true
      ∧ ¬HdrLinesRight uncommentedHeader := by
  have accepted : chkRequiredHdrLines (headerText uncommentedHeader) = none := by decide +kernel
  refine ⟨congrArg hdrReply accepted, fun right => ?_⟩
  have newsgroups : HasNewsgroups uncommentedHeader :=
    (newsgroupsRx_headerText (by decide +kernel)).mp (by decide +kernel)
  have refused : chkRequiredHdrLines (headerText uncommentedHeader) = some hdrerrorFrom :=
    hdrReply_injective (right.sender newsgroups not_hasFrom_uncommented)
  cases accepted.symm.trans refused

end WendzelNNTPd
