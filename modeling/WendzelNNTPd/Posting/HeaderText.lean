import WendzelNNTPd.Server.Post

/-! The header of an article as `docmd_post` finds it. The boundary between header and body is
looked for by a loop over the buffer, which goes on behind a NUL, and by `strstr`, which does
not.
-/

namespace WendzelNNTPd

open CString

section Boundary

/-- What the loop has seen when it finds the end of the header.
Witness: induction on the buffer; a round that goes on adds one position.
-/
theorem headerEnd_spec {i e : Nat} {buf : Str} (found : headerEnd i buf = some e)
    : ∃ k, e = i + k ∧ headerSep <+: buf.drop k ∧ (∀ j < k, ¬headerSep <+: buf.drop j)
      ∧ ∀ j ≤ k, byteAt buf (j + 4) ≠ NUL := by
  induction buf generalizing i with
  | nil => cases found
  | cons c cs ih =>
      rw [headerEnd] at found
      split at found
      · cases found
      · rename_i more
        split at found
        · rename_i hit
          cases found
          refine ⟨0, rfl, by simpa using hit, fun j less => absurd less (by omega), ?_⟩
          intro j le
          obtain rfl : j = 0 := Nat.le_zero.mp le
          exact more
        · rename_i miss
          obtain ⟨k, rfl, hit, first, rest⟩ := ih found
          refine ⟨k + 1, by omega, hit, fun j less => ?_, fun j le => ?_⟩
          · cases j with
            | zero => simpa using miss
            | succ j => exact first j (by omega)
          · cases j with
            | zero => exact more
            | succ j => exact rest j (by omega)

/-- The first bytes of a C string, as far as there is no NUL. -/
theorem take_cstr {buf : Str} {n : Nat} (nul : NUL ∉ buf.take n)
    : (cstr buf).take n = buf.take n := by
  induction buf generalizing n with
  | nil => rfl
  | cons c cs ih =>
      cases n with
      | zero => rfl
      | succ n =>
          rw [List.take_succ_cons, List.mem_cons, not_or] at nul
          have kept : (c != NUL) = true := bne_iff_ne.mpr (fun same => nul.1 same.symm)
          rw [cstr, List.takeWhile_cons, if_pos kept, List.take_succ_cons, List.take_succ_cons]
          exact congrArg (c :: ·) (ih nul.2)

theorem cstr_prefix (buf : Str) : cstr buf <+: buf := List.takeWhile_prefix _

/-- A NUL among the first bytes ends the C string there. -/
theorem length_cstr_lt {buf : Str} {n : Nat} (nul : NUL ∈ buf.take n) : (cstr buf).length < n := by
  by_contra long
  have same : (cstr buf).take n = buf.take n := by
    obtain ⟨rest, whole⟩ := cstr_prefix buf
    have short : n ≤ (cstr buf).length := Nat.not_lt.mp long
    have longer : (cstr buf ++ rest).take n = (cstr buf).take n :=
      List.take_append_of_le_length short
    rw [← longer, whole]
  rw [← same] at nul
  have other := List.mem_takeWhile_imp (List.mem_of_mem_take nul)
  simp at other

/-- The loop does not pass a NUL behind the first four bytes. -/
theorem no_nul_before_end {buf : Str} {i : Nat} (found : headerEnd 0 buf = some i)
    (early : NUL ∉ buf.take 4)
    : NUL ∉ buf.take (i + 4) := by
  obtain ⟨k, same, hit, first, rest⟩ := headerEnd_spec found
  obtain rfl : i = k := by omega
  intro member
  obtain ⟨m, less, isNul⟩ := List.mem_iff_getElem.mp member
  rw [List.getElem_take] at isNul
  rw [List.length_take] at less
  by_cases within : m < 4
  · apply early
    rw [← isNul]
    exact List.mem_take_iff_getElem.mpr ⟨m, by omega, rfl⟩
  · apply rest (m - 4) (by omega)
    rw [byteAt, Nat.sub_add_cancel (by omega), List.getElem?_eq_getElem (by omega), isNul]
    rfl

/-- The loop and `strstr` find the same boundary exactly if the client does not send a NUL among
the first four bytes.
Witness: the loop ends before a NUL that stands behind its first look, so that it can only have
passed one of the first four bytes.
-/
theorem strstr_headerSep_iff {buf : Str} {i : Nat} (found : headerEnd 0 buf = some i)
    : strstr headerSep (cstr buf) = some i ↔ NUL ∉ buf.take 4 := by
  obtain ⟨k, same, hit, first, rest⟩ := headerEnd_spec found
  obtain rfl : i = k := by omega
  have four : headerSep.length = 4 := rfl
  constructor
  · intro boundary nul
    have hit := strstr_some_prefix boundary
    have inside := hit.length_le
    have short := length_cstr_lt nul
    rw [four, List.length_drop] at inside
    omega
  · intro early
    have nul := no_nul_before_end found early
    have there : headerSep <+: (cstr buf).drop i := by
      have taken : ((cstr buf).drop i).take 4 = (buf.drop i).take 4 := by
        rw [List.take_drop, List.take_drop, take_cstr nul]
      have whole : headerSep = (buf.drop i).take 4 := List.prefix_iff_eq_take.mp hit
      rw [whole, ← taken]
      exact List.take_prefix _ _
    have bound : i ≤ (cstr buf).length := by
      have inside := there.length_le
      rw [four, List.length_drop] at inside
      omega
    obtain ⟨j, located, le⟩ := strstr_le_of_prefix there bound
    have earlier : headerSep <+: buf.drop j := by
      obtain ⟨rest, whole⟩ := cstr_prefix buf
      have short : j ≤ (cstr buf).length := by omega
      rw [← whole, List.drop_append_of_le_length short]
      have hit := strstr_some_prefix located
      exact hit.trans (List.prefix_append _ _)
    have notBefore : ¬j < i := fun less => first j less earlier
    obtain rfl : j = i := by omega
    exact located

/-- Header and body meet where the loop has found the header's end: `body`, `len` and the start
of the line count all refer to that place, and no failed search is used. -/
structure OneBoundary (buf : Str) (i : Nat) : Prop where
  boundary : strstr headerSep (cstr buf) = some i
  found : checkArticle buf ≠ .crash
  parts :
    ∀ len header ngstrp body, checkArticle buf = .passed len header ngstrp body →
      len = i ∧ header = headerBuffer buf i ∧ body = (cstr buf).drop (i + 4)

theorem oneBoundary_of_early {buf : Str} {i : Nat} (found : headerEnd 0 buf = some i)
    (early : NUL ∉ buf.take 4)
    : OneBoundary buf i := by
  have boundary := (strstr_headerSep_iff found).mpr early
  refine ⟨boundary, ?_, ?_⟩
  · unfold checkArticle
    rw [found, boundary]
    simp only
    repeat' split
    all_goals intro crashed
    all_goals cases crashed
  · intro len header ngstrp body passed
    have passes := passesChecks_of_passed passed
    obtain ⟨j, ends, same⟩ := passes.ends
    obtain rfl : i = j := Option.some.inj (found.symm.trans ends)
    obtain rfl : i = len := Option.some.inj (boundary.symm.trans passes.boundary)
    exact ⟨rfl, same, passes.rest⟩

/-- Whatever buffer the receive loop leaves and wherever the header ends in it, there is one
boundary between header and body exactly if the first four bytes of the client have no NUL. -/
theorem oneBoundary_iff (buf : Str) (i : Nat) (headerFound : headerEnd 0 buf = some i)
    : OneBoundary buf i ↔ NUL ∉ buf.take 4 := by
  constructor
  · intro agree
    exact (strstr_headerSep_iff headerFound).mp agree.boundary
  · intro early
    exact oneBoundary_of_early headerFound early

/-- An ordinary article. -/
theorem ordinary_article_has_oneBoundary
    : OneBoundary "From: a@b.org\r\n\r\nhello\r\n.\r\n".toList 13 :=
  (oneBoundary_iff _ 13 (by decide)).mpr (by decide)

/-- The loop passes a NUL at the beginning of the article, `strstr` returns NULL, and `body` is
read from address 4. -/
theorem leading_nul_breaks_boundary
    : ∃ buf,
        postReceive 64 [] [.data "\x00From: a@b.org\r\n\r\nhello\r\n.\r\n".toList] = .article buf
        ∧ headerEnd 0 buf = some 14 ∧ strstr headerSep (cstr buf) = none
        ∧ checkArticle buf = .crash ∧ ¬OneBoundary buf 14 := by
  refine ⟨"\x00From: a@b.org\r\n\r\nhello\r\n.\r\n".toList, by decide, by decide, by decide,
    by decide, fun agree => ?_⟩
  have missed : strstr headerSep (cstr "\x00From: a@b.org\r\n\r\nhello\r\n.\r\n".toList) = none := by
    decide
  have found := agree.boundary
  rw [missed] at found
  cases found

end Boundary

section Lines

/-- No line ends within the text. -/
def OneLine (text : Str) : Prop := '\r' ∉ text ∧ '\n' ∉ text

instance (text : Str) : Decidable (OneLine text) :=
  inferInstanceAs (Decidable ('\r' ∉ text ∧ '\n' ∉ text))

theorem OneLine.append {text text' : Str} (first : OneLine text) (second : OneLine text')
    : OneLine (text ++ text') := by
  simp only [OneLine, List.mem_append, not_or] at *
  exact ⟨⟨first.1, second.1⟩, first.2, second.2⟩

/-- The text of lines that end with CRLF. -/
def crlfLines (lines : List Str) : Str := (lines.map (· ++ "\r\n".toList)).flatten

@[simp] theorem crlfLines_nil : crlfLines [] = [] := rfl

@[simp] theorem crlfLines_cons (line : Str) (rest : List Str)
    : crlfLines (line :: rest) = line ++ '\r' :: '\n' :: crlfLines rest := by
  simp [crlfLines]

theorem crlfLines_append (lines lines' : List Str)
    : crlfLines (lines ++ lines') = crlfLines lines ++ crlfLines lines' := by
  simp [crlfLines]

theorem caseEqPrefix_iff {key text : Str}
    : caseEqPrefix key text = true
      ↔ key.length ≤ text.length
        ∧ (text.take key.length).map Char.toLower = key.map Char.toLower := by
  induction key generalizing text with
  | nil => simp [caseEqPrefix]
  | cons k ks ih =>
      cases text with
      | nil => simp [caseEqPrefix]
      | cons c cs =>
          simp only [caseEqPrefix, Bool.and_eq_true, beq_iff_eq, ih, List.length_cons,
            Nat.add_le_add_iff_right, List.take_succ_cons, List.map_cons, List.cons.injEq]
          constructor
          · rintro ⟨first, long, rest⟩
            exact ⟨long, first.symm, rest⟩
          · rintro ⟨long, first, rest⟩
            exact ⟨first.symm, long, rest⟩

/-- A byte that no letter of the key stands for is not where the key is found. -/
theorem notMem_of_caseEqPrefix {key text : Str} {c : Char} (found : caseEqPrefix key text = true)
    (other : c.toLower ∉ key.map Char.toLower)
    : c ∉ text.take key.length := by
  intro member
  rw [← (caseEqPrefix_iff.mp found).2] at other
  exact other (List.mem_map_of_mem member)

/-- A value ends before its line does. -/
theorem oneLine_linevalue {buf key value : Str} (found : cdpReturnLinevalue buf key = some value)
    : OneLine value := by
  have both : (cdpReturnLinevalue.line key buf = some value → OneLine value)
      ∧ (cdpReturnLinevalue.skip key buf = some value → OneLine value) := by
    clear found
    induction buf with
    | nil =>
        constructor
        · intro found
          cases found
        · intro found
          cases found
    | cons c cs ih =>
        constructor
        · intro found
          rw [cdpReturnLinevalue.line] at found
          split at found
          · split at found
            · split at found
              · simp only at found
                split at found
                · cases found
                · cases found
                  constructor
                  · intro cr
                    simpa using List.mem_takeWhile_imp cr
                  · intro lf
                    simpa using List.mem_takeWhile_imp lf
              · split at found
                · exact ih.1 found
                · exact ih.2 found
            · cases found
          · split at found
            · exact ih.1 found
            · exact ih.2 found
        · intro found
          rw [cdpReturnLinevalue.skip] at found
          split at found
          · exact ih.1 found
          · exact ih.2 found
  exact both.1 found

/-- A line end as `CDP_return_linevalue` sees it. -/
def isEol (c : Char) : Bool := c == '\r' || c == '\n'

theorem isEol_iff {c : Char} : isEol c = true ↔ c = '\r' ∨ c = '\n' := by
  simp [isEol]

theorem OneLine.isEol {text : Str} (one : OneLine text) : ∀ c ∈ text, isEol c = false := by
  intro c member
  by_contra eol
  rcases isEol_iff.mp (by simpa using eol) with rfl | rfl
  · exact one.1 member
  · exact one.2 member

theorem oneLine_cons {c : Char} {cs : Str} (one : OneLine (c :: cs))
    : ¬(c = '\r' ∨ c = '\n') ∧ OneLine cs := by
  simp only [OneLine, List.mem_cons, not_or] at one
  refine ⟨?_, one.1.2, one.2.2⟩
  rintro (rfl | rfl)
  · exact one.1.1 rfl
  · exact one.2.1 rfl

/-- The rest of a text behind a line: nothing, or a line end and more. -/
def LineRest (rest : Str) : Prop := ∀ c ∈ rest.head?, isEol c = true

/-- The lines of a text, which end with a CR or LF each. -/
def headerLines (text : Str) : List Str := text.splitOnP isEol

/-- The lines of a text are those of the part before a line end and of the part behind it. -/
theorem headerLines_append {e : Char} (eol : isEol e = true) (front rest : Str)
    : headerLines (front ++ e :: rest) = headerLines front ++ headerLines rest :=
  List.splitOnP_append_cons _ _ eol

theorem headerLines_oneLine {line : Str} (one : OneLine line) : headerLines line = [line] :=
  List.splitOnP_eq_singleton one.isEol

/-- A text starts with a line. -/
theorem exists_line (text : Str) : ∃ line rest, text = line ++ rest ∧ OneLine line ∧ LineRest rest := by
  induction text with
  | nil => exact ⟨[], [], rfl, by decide, by simp [LineRest]⟩
  | cons c cs ih =>
      by_cases eol : isEol c = true
      · exact ⟨[], c :: cs, rfl, by decide, by simpa [LineRest] using eol⟩
      · obtain ⟨line, rest, rfl, one, ends⟩ := ih
        rw [isEol_iff, not_or] at eol
        refine ⟨c :: line, rest, rfl, ?_, ends⟩
        simp only [OneLine, List.mem_cons, not_or]
        exact ⟨⟨fun same => eol.1 same.symm, one.1⟩, fun same => eol.2 same.symm, one.2⟩

theorem skip_line {key line rest : Str} (one : OneLine line) (ends : LineRest rest)
    : cdpReturnLinevalue.skip key (line ++ rest) = cdpReturnLinevalue.line key rest.tail := by
  induction line with
  | nil =>
      cases rest with
      | nil => rfl
      | cons e tail =>
          have eol : isEol e = true := ends e rfl
          rw [List.nil_append, cdpReturnLinevalue.skip, if_pos (isEol_iff.mp eol)]
          rfl
  | cons c cs ih =>
      obtain ⟨other, short⟩ := oneLine_cons one
      rw [List.cons_append, cdpReturnLinevalue.skip, if_neg other]
      exact ih short

/-- A key with letters only: neither empty nor with a line end in it. -/
structure LineKey (key : Str) : Prop where
  nonempty : key ≠ []
  cr : '\r'.toLower ∉ key.map Char.toLower
  lf : '\n'.toLower ∉ key.map Char.toLower

theorem LineKey.eol {key : Str} (plain : LineKey key) {e : Char} (eol : isEol e = true)
    : e.toLower ∉ key.map Char.toLower := by
  rcases isEol_iff.mp eol with rfl | rfl
  · exact plain.cr
  · exact plain.lf

/-- Whether a line has the key, with a blank or TAB behind it. -/
def keyLine (key line : Str) : Bool :=
  caseEqPrefix key line && (byteAt line key.length == ' ' || byteAt line key.length == '\t')

theorem keyLine_nil {key : Str} (plain : LineKey key) : keyLine key [] = false := by
  cases key with
  | nil => exact absurd rfl plain.nonempty
  | cons k ks => rfl

/-- A line with the key has a byte behind it. -/
theorem length_lt_of_keyLine {key line : Str} (here : keyLine key line = true)
    : key.length < line.length := by
  by_contra outside
  have byte : byteAt line key.length = NUL := by
    rw [byteAt, List.getElem?_eq_none (Nat.not_lt.mp outside)]
    rfl
  simp [keyLine, byte, NUL] at here

/-- In a text that is shorter than the key nothing is found. -/
theorem linevalue_short {key text : Str} (short : text.length < key.length)
    : cdpReturnLinevalue.line key text = none ∧ cdpReturnLinevalue.skip key text = none := by
  induction text with
  | nil => exact ⟨rfl, rfl⟩
  | cons c cs ih =>
      obtain ⟨line, skip⟩ := ih (Nat.lt_of_succ_lt short)
      constructor
      · rw [cdpReturnLinevalue.line, if_neg (Nat.not_le.mpr short), line, skip]
        split
        · rfl
        · split <;> rfl
      · rw [cdpReturnLinevalue.skip, line, skip]
        split <;> rfl

theorem LineKey.first {key : Str} (plain : LineKey key) {c : Char} (rest : Str)
    (other : c.toLower ∉ key.map Char.toLower)
    : ¬caseEqPrefix (key.take 1) (c :: rest) = true := by
  cases key with
  | nil => exact absurd rfl plain.nonempty
  | cons k ks =>
      simp only [List.map_cons, List.mem_cons, not_or] at other
      simpa [caseEqPrefix] using fun same => other.1 same.symm

/-- A name that is found at the beginning of a line stands within the line. -/
theorem length_le_of_line {key line rest : Str} {e : Char}
    (other : e.toLower ∉ key.map Char.toLower)
    (found : caseEqPrefix key (line ++ e :: rest) = true)
    : key.length ≤ line.length := by
  by_contra short
  apply notMem_of_caseEqPrefix found other
  rw [List.take_append, List.mem_append]
  refine Or.inr ?_
  obtain ⟨n, more⟩ : ∃ n, key.length - line.length = n + 1 :=
    ⟨_, (Nat.succ_pred (by omega)).symm⟩
  rw [more]
  simp

/-- What the search tests at the beginning of a line is whether the line has the key. -/
theorem keyLine_iff {key line rest : Str} (plain : LineKey key) (ends : LineRest rest)
    : (caseEqPrefix key (line ++ rest) = true
        ∧ (byteAt (line ++ rest) key.length = ' ' ∨ byteAt (line ++ rest) key.length = '\t'))
      ↔ keyLine key line = true := by
  cases rest with
  | nil => simp only [List.append_nil, keyLine, Bool.and_eq_true, Bool.or_eq_true, beq_iff_eq]
  | cons e tail =>
      have eol : isEol e = true := ends e rfl
      by_cases long : key.length < line.length
      · have byte : byteAt (line ++ e :: tail) key.length = byteAt line key.length := by
          rw [byteAt, byteAt, List.getElem?_append_left long]
        rw [caseEqPrefix_append (Nat.le_of_lt long), byte]
        simp only [keyLine, Bool.and_eq_true, Bool.or_eq_true, beq_iff_eq]
      · constructor
        · intro ⟨found, blank⟩
          obtain same : key.length = line.length := by
            have within := length_le_of_line (plain.eol eol) found
            omega
          have byte : byteAt (line ++ e :: tail) key.length = e := by
            rw [same, byteAt, List.getElem?_append_right (Nat.le_refl _), Nat.sub_self]
            rfl
          rw [byte] at blank
          rcases blank with rfl | rfl
          · exact absurd eol (by decide)
          · exact absurd eol (by decide)
        · intro here
          exact absurd (length_lt_of_keyLine here) long

/-- The value of a line with the key, if it has one. -/
def lineValue (key line : Str) : Option Str :=
  if (line.drop (key.length + 1)).isEmpty then none else some (line.drop (key.length + 1))

/-- The search at the beginning of a line. -/
theorem linevalue_line {key line rest : Str} (plain : LineKey key) (one : OneLine line)
    (ends : LineRest rest)
    : cdpReturnLinevalue (line ++ rest) key
      = if keyLine key line = true then lineValue key line
        else cdpReturnLinevalue rest.tail key := by
  have test := @keyLine_iff key line rest plain ends
  unfold cdpReturnLinevalue
  cases line with
  | nil =>
      rw [keyLine_nil plain, if_neg (by simp), List.nil_append]
      cases rest with
      | nil => rfl
      | cons e tail =>
          have eol : isEol e = true := ends e rfl
          rw [cdpReturnLinevalue.line, if_neg (plain.first _ (plain.eol eol)),
            if_pos (isEol_iff.mp eol)]
          rfl
  | cons c cs =>
      obtain ⟨kept, short⟩ := oneLine_cons one
      have skipped := @skip_line key cs rest short ends
      rw [List.cons_append] at test ⊢
      rw [cdpReturnLinevalue.line]
      by_cases here : keyLine key (c :: cs) = true
      · have found := test.mpr here
        have starts : caseEqPrefix (key.take 1) (c :: (cs ++ rest)) = true :=
          caseEqPrefix_take found.1 1
        have value : ((c :: (cs ++ rest)).drop (key.length + 1)).takeWhile
            (fun d => d != '\r' && d != '\n') = (c :: cs).drop (key.length + 1) := by
          rw [← List.cons_append, List.drop_append_of_le_length (length_lt_of_keyLine here),
            List.takeWhile_append_of_pos]
          · cases rest with
            | nil => simp
            | cons e tail =>
                rcases isEol_iff.mp (ends e rfl) with rfl | rfl
                · simp
                · simp
          · intro d member
            have inside := one.isEol d (List.mem_of_mem_drop member)
            simpa [isEol] using inside
        rw [if_pos starts, if_pos (caseEqPrefix_iff.mp found.1).1, if_pos found, if_pos here, value]
        rfl
      · rw [if_neg (mt test.mp here), if_neg here, if_neg kept, skipped]
        by_cases starts : caseEqPrefix (key.take 1) (c :: (cs ++ rest)) = true
        · rw [if_pos starts]
          by_cases reaches : key.length ≤ (c :: (cs ++ rest)).length
          · rw [if_pos reaches]
          · rw [if_neg reaches]
            simp only [List.length_cons, List.length_append] at reaches
            exact (linevalue_short (by rw [List.length_tail]; omega)).1.symm
        · rw [if_neg starts]

/-- The search in a text: its first line with the key counts.
Witness: induction on the length of the text, one line after the other.
-/
theorem linevalue_headerLines {key : Str} (plain : LineKey key) (text : Str)
    : cdpReturnLinevalue text key
      = ((headerLines text).find? (keyLine key)).bind (lineValue key) := by
  induction size : text.length using Nat.strong_induction_on generalizing text with
  | _ n ih =>
      obtain ⟨line, rest, rfl, one, ends⟩ := exists_line text
      rw [linevalue_line plain one ends]
      have lines : headerLines (line ++ rest)
          = line :: (if rest.isEmpty then [] else headerLines rest.tail) := by
        cases rest with
        | nil => rw [List.append_nil, headerLines_oneLine one]; rfl
        | cons e tail =>
            rw [headerLines_append (ends e rfl), headerLines_oneLine one]
            rfl
      rw [lines]
      by_cases here : keyLine key line = true
      · rw [if_pos here, List.find?_cons_of_pos here]
        rfl
      · rw [if_neg here, List.find?_cons_of_neg here]
        cases rest with
        | nil => rfl
        | cons e tail =>
            rw [List.length_append, List.length_cons] at size
            exact ih tail.length (by omega) tail rfl

theorem lineRest_crlf (rest : Str) : LineRest ('\r' :: '\n' :: rest) := by
  simp [LineRest, isEol]

/-- A line without the key is passed over. -/
theorem linevalue_other {key line rest : Str} (plain : LineKey key) (one : OneLine line)
    (other : keyLine key line = false)
    : cdpReturnLinevalue (line ++ '\r' :: '\n' :: rest) key = cdpReturnLinevalue rest key := by
  have lf := @linevalue_line key [] ('\n' :: rest) plain (by decide) (by simp [LineRest, isEol])
  rw [List.nil_append, keyLine_nil plain, if_neg (by simp)] at lf
  rw [linevalue_line plain one (lineRest_crlf rest), if_neg (by simp [other])]
  exact lf

theorem linevalue_here {key line rest : Str} (plain : LineKey key) (one : OneLine line)
    (here : keyLine key line = true)
    : cdpReturnLinevalue (line ++ '\r' :: '\n' :: rest) key = lineValue key line := by
  rw [linevalue_line plain one (lineRest_crlf rest), if_pos here]

/-- The search in lines: the first one with the key counts. -/
theorem linevalue_crlfLines {key : Str} (plain : LineKey key) {lines : List Str}
    (one : ∀ line ∈ lines, OneLine line)
    : cdpReturnLinevalue (crlfLines lines) key
      = (lines.find? (keyLine key)).bind (lineValue key) := by
  induction lines with
  | nil => rfl
  | cons line rest ih =>
      have first := one line (by simp)
      rw [crlfLines_cons]
      cases here : keyLine key line with
      | true =>
          rw [List.find?_cons_of_pos here, linevalue_here plain first here]
          rfl
      | false =>
          rw [List.find?_cons_of_neg (by simp [here]), linevalue_other plain first here]
          exact ih (fun other there => one other (List.mem_cons_of_mem line there))

/-- Lines without the key are passed over, whatever follows them. -/
theorem linevalue_lines {key : Str} (plain : LineKey key) {lines : List Str} (rest : Str)
    (other : ∀ line ∈ lines, OneLine line ∧ keyLine key line = false)
    : cdpReturnLinevalue (crlfLines lines ++ rest) key = cdpReturnLinevalue rest key := by
  induction lines with
  | nil => rfl
  | cons line lines ih =>
      obtain ⟨one, without⟩ := other line (by simp)
      have text : crlfLines (line :: lines) ++ rest
          = line ++ '\r' :: '\n' :: (crlfLines lines ++ rest) := by
        simp
      rw [text, linevalue_other plain one without]
      exact ih (fun line there => other line (List.mem_cons_of_mem _ there))

end Lines

section Removal

/-- A line that `docmd_post` has to remove. -/
def removable (line : Str) : Bool := removeLines.any (fun field => caseEqPrefix field line)

/-- No name that is removed has a NUL, CR or LF. -/
theorem removeLines_plain {field : Str} (member : field ∈ removeLines) {c : Char}
    (special : c = NUL ∨ c = '\r' ∨ c = '\n')
    : c.toLower ∉ field.map Char.toLower := by
  simp only [removeLines, List.mem_cons, List.not_mem_nil, or_false] at member
  rcases member with rfl | rfl | rfl
  · rcases special with rfl | rfl | rfl <;> decide
  · rcases special with rfl | rfl | rfl <;> decide
  · rcases special with rfl | rfl | rfl <;> decide

/-- Where a name is found in lines, it stands within one of them.
Witness: induction on the lines; the name cannot reach over a line end.
-/
theorem found_in_line {key : Str} {lines : List Str} {i : Nat} (nonempty : key ≠ [])
    (plain : ∀ c, c = NUL ∨ c = '\r' ∨ c = '\n' → c.toLower ∉ key.map Char.toLower)
    (found : caseEqPrefix key ((crlfLines lines).drop i) = true)
    : ∃ pre line post k, lines = pre ++ line :: post ∧ i = (crlfLines pre).length + k
      ∧ caseEqPrefix key (line.drop k) = true := by
  induction lines generalizing i with
  | nil =>
      rw [crlfLines_nil, List.drop_nil] at found
      cases key with
      | nil => exact absurd rfl nonempty
      | cons k ks => cases found
  | cons line rest ih =>
      rw [crlfLines_cons] at found
      by_cases later : line.length + 2 ≤ i
      · obtain ⟨j, rfl⟩ := Nat.exists_eq_add_of_le later
        have behind : (line ++ '\r' :: '\n' :: crlfLines rest).drop (line.length + 2 + j)
            = (crlfLines rest).drop j := by
          rw [Nat.add_assoc, List.drop_length_add_append, Nat.add_comm 2 j]
          rfl
        rw [behind] at found
        obtain ⟨pre, other, post, k, rfl, rfl, hit⟩ := ih found
        refine ⟨line :: pre, other, post, k, rfl, ?_, hit⟩
        simp only [crlfLines_cons, List.length_append, List.length_cons]
        omega
      · by_cases within : i ≤ line.length
        · refine ⟨[], line, rest, i, rfl, by simp, ?_⟩
          rw [List.drop_append_of_le_length within] at found
          have long : key.length ≤ (line.drop i).length := by
            by_contra short
            apply notMem_of_caseEqPrefix found (plain '\r' (by simp))
            rw [List.take_append, List.mem_append]
            refine Or.inr ?_
            obtain ⟨n, more⟩ := Nat.exists_eq_add_of_lt (Nat.not_le.mp short)
            rw [more, Nat.add_assoc, Nat.add_sub_cancel_left]
            simp
          rwa [caseEqPrefix_append long] at found
        · obtain rfl : i = line.length + 1 := by omega
          have lf : (line ++ '\r' :: '\n' :: crlfLines rest).drop (line.length + 1)
              = '\n' :: crlfLines rest := by
            rw [List.drop_length_add_append]
            rfl
          rw [lf] at found
          have first := notMem_of_caseEqPrefix found (plain '\n' (by simp))
          cases key with
          | nil => exact absurd rfl nonempty
          | cons k ks => simp at first

theorem findEol_line {line tail : Str} (one : OneLine line) (n : Nat)
    : findEol n (line ++ '\r' :: tail) = some (n + line.length) := by
  induction line generalizing n with
  | nil =>
      cases tail with
      | nil => simp [findEol]
      | cons d rest => simp [findEol]
  | cons c cs ih =>
      simp only [OneLine, List.mem_cons, not_or] at one
      have next := ih ⟨one.1.2, one.2.2⟩ (n + 1)
      cases cs with
      | nil =>
          have other : ¬(c = '\r' ∨ '\r' = '\n') := by
            rintro (rfl | lf)
            · exact one.1.1 rfl
            · cases lf
          rw [List.cons_append, List.nil_append, findEol, if_neg other]
          exact next
      | cons d rest =>
          have other : ¬(c = '\r' ∨ d = '\n') := by
            rintro (rfl | rfl)
            · exact one.1.1 rfl
            · exact one.2.2 (by simp)
          rw [List.cons_append, List.cons_append, findEol, if_neg other]
          refine next.trans ?_
          simp only [List.length_cons]
          congr 1
          omega

theorem findEol_lf {line tail : Str} (one : OneLine line) (nonempty : line ≠ []) (n : Nat)
    : findEol n (line ++ '\n' :: tail) = some (n + line.length - 1) := by
  induction line generalizing n with
  | nil => exact absurd rfl nonempty
  | cons c cs ih =>
      obtain ⟨kept, short⟩ := oneLine_cons one
      cases cs with
      | nil =>
          rw [List.cons_append, List.nil_append, findEol, if_pos (Or.inr rfl)]
          simp
      | cons d rest =>
          have other : ¬(c = '\r' ∨ d = '\n') := by
            rintro (rfl | rfl)
            · exact kept (Or.inl rfl)
            · exact (oneLine_cons short).1 (Or.inr rfl)
          rw [List.cons_append, List.cons_append, findEol, if_neg other]
          refine (ih short (by simp) (n + 1)).trans ?_
          simp only [List.length_cons]
          congr 1
          omega

theorem findEol_of_mem {text : Str} (cr : '\r' ∈ text) (n : Nat)
    : ∃ m, findEol n text = some m ∧ n ≤ m := by
  induction text generalizing n with
  | nil => cases cr
  | cons c cs ih =>
      cases cs with
      | nil =>
          obtain rfl : '\r' = c := by simpa using cr
          exact ⟨n, rfl, Nat.le_refl n⟩
      | cons d rest =>
          rw [findEol]
          split
          · exact ⟨n, rfl, Nat.le_refl n⟩
          · rename_i other
            rcases List.mem_cons.mp cr with rfl | later
            · exact absurd (Or.inl rfl) other
            · obtain ⟨m, found, le⟩ := ih later (n + 1)
              exact ⟨m, found, by omega⟩

theorem cstr_append_nul {text rest : Str} (nul : NUL ∉ text) : cstr (text ++ NUL :: rest) = text := by
  rw [cstr, List.takeWhile_append_of_pos]
  · simp
  · intro c member
    simpa using fun same : c = NUL => nul (same ▸ member)

/-- The loop moves bytes within the allocation. -/
theorem length_copyDown (rounds : Nat) (header : Str) (i lenb : Nat)
    : (copyDown rounds header i lenb).1.length = header.length := by
  induction rounds generalizing header i lenb with
  | zero => rfl
  | succ rounds ih =>
      rw [copyDown]
      split
      · rw [ih, List.length_set]
      · rfl

/-- A C string that does not fill its buffer ends with a NUL. -/
theorem cstr_ended {buf : Str} (inside : (cstr buf).length < buf.length)
    : ∃ tail, buf = cstr buf ++ NUL :: tail := by
  induction buf with
  | nil => cases inside
  | cons c cs ih =>
      by_cases nul : c = NUL
      · subst nul
        exact ⟨cs, rfl⟩
      · have kept : cstr (c :: cs) = c :: cstr cs := by
          rw [cstr, List.takeWhile_cons, if_pos (by simpa using nul)]
          rfl
        rw [kept] at inside ⊢
        obtain ⟨tail, whole⟩ := ih (by simpa using inside)
        exact ⟨tail, by rw [List.cons_append, ← whole]⟩

/-- What `copyDown` and the NUL behind it leave: the text without its middle part, and
everything behind as it was. -/
theorem copyDown_spec {rounds : Nat} {pre mid rest tail : Str} (nul : NUL ∉ pre ++ mid ++ rest)
    (some : mid ≠ []) (enough : rest.length < rounds)
    : let out := copyDown rounds (pre ++ mid ++ rest ++ NUL :: tail) pre.length
        (pre.length + mid.length)
      cstr (out.1.set out.2 NUL) = pre ++ rest
      ∧ ∀ n, pre.length + rest.length + 1 < n →
          (out.1.set out.2 NUL).drop n = (pre ++ mid ++ rest ++ NUL :: tail).drop n := by
  induction rest generalizing pre mid rounds with
  | nil =>
      cases mid with
      | nil => exact absurd rfl some
      | cons m ms =>
          cases rounds with
          | zero => cases enough
          | succ rounds =>
              rw [List.append_nil] at nul ⊢
              have length : (cstr (pre ++ (m :: ms) ++ NUL :: tail)).length
                  = pre.length + (m :: ms).length := by
                rw [cstr_append_nul nul, List.length_append]
              have byte : byteAt (pre ++ (m :: ms) ++ NUL :: tail) (pre.length + (m :: ms).length)
                  = NUL := by
                rw [byteAt, ← List.length_append, List.getElem?_append_right (Nat.le_refl _),
                  Nat.sub_self]
                rfl
              have moved : (pre ++ (m :: ms) ++ NUL :: tail).set pre.length NUL
                  = pre ++ NUL :: (ms ++ NUL :: tail) := by
                simp
              have stops : copyDown rounds (pre ++ NUL :: (ms ++ NUL :: tail)) (pre.length + 1)
                    (pre.length + (m :: ms).length + 1)
                  = (pre ++ NUL :: (ms ++ NUL :: tail), pre.length + 1) := by
                have short : (cstr (pre ++ NUL :: (ms ++ NUL :: tail))).length = pre.length := by
                  rw [cstr_append_nul (fun member => nul (List.mem_append_left _ member))]
                cases rounds with
                | zero => rfl
                | succ rounds => rw [copyDown, short, if_neg (by omega)]
              simp only [copyDown, length, Nat.le_refl, if_true, byte, moved, stops]
              constructor
              · rw [List.set_append_right _ _ (by omega), Nat.add_sub_cancel_left]
                simp only [List.set_cons_succ, List.append_nil]
                exact cstr_append_nul (fun member => nul (List.mem_append_left _ member))
              · intro n behind
                rw [List.length_nil] at behind
                rw [List.drop_set_of_lt (by omega), ← moved, List.drop_set_of_lt (by omega)]
  | cons q rest ih =>
      cases mid with
      | nil => exact absurd rfl some
      | cons m ms =>
          cases rounds with
          | zero => cases enough
          | succ rounds =>
              have length : (cstr (pre ++ (m :: ms) ++ (q :: rest) ++ NUL :: tail)).length
                  = pre.length + (m :: ms).length + (rest.length + 1) := by
                rw [cstr_append_nul nul]
                simp only [List.length_append, List.length_cons]
              have byte : byteAt (pre ++ (m :: ms) ++ (q :: rest) ++ NUL :: tail)
                  (pre.length + (m :: ms).length) = q := by
                rw [byteAt, ← List.length_append, List.append_assoc,
                  List.getElem?_append_right (Nat.le_refl _), Nat.sub_self]
                rfl
              have moved : (pre ++ (m :: ms) ++ (q :: rest) ++ NUL :: tail).set pre.length q
                  = (pre ++ [q]) ++ (ms ++ [q]) ++ rest ++ NUL :: tail := by
                simp
              have next := @ih rounds (pre ++ [q]) (ms ++ [q])
                (by
                  intro member
                  apply nul
                  simp only [List.mem_append, List.mem_cons, List.not_mem_nil, or_false] at member ⊢
                  tauto)
                (by simp) (by rw [List.length_cons] at enough; omega)
              have first : (pre ++ [q]).length = pre.length + 1 := List.length_append
              have second : (ms ++ [q]).length = (m :: ms).length := List.length_append
              have start : pre.length + 1 + (m :: ms).length = pre.length + (m :: ms).length + 1 := by
                omega
              rw [first, second, start] at next
              have goesOn : pre.length + (m :: ms).length
                  ≤ (cstr (pre ++ (m :: ms) ++ (q :: rest) ++ NUL :: tail)).length := by
                rw [length]
                exact Nat.le_add_right _ _
              rw [copyDown, if_pos goesOn, byte, moved]
              constructor
              · rw [next.1]
                simp
              · intro n behind
                rw [List.length_cons] at behind
                rw [next.2 n (by omega), ← moved, List.drop_set_of_lt (by omega)]

/-- The allocation for the header during the removal: its text, and the CR that stood behind the
header from the beginning. -/
structure HoldsHeader (len : Nat) (buf text : Str) : Prop where
  nul : NUL ∉ text
  ended : ∃ tail, buf = text ++ NUL :: tail
  short : text.length ≤ len + 2
  cr : (buf.drop len).head? = some '\r'

/-- The name of a field stands in no line but at its beginning, and in one line only. -/
structure AppearsOnce (field : Str) (lines : List Str) : Prop where
  starts : ∀ line ∈ lines, ∀ k, 0 < k → caseEqPrefix field (line.drop k) = false
  once : (lines.filter (caseEqPrefix field)).length ≤ 1

/-- Within the text of lines, the name is found at the beginning of its line. -/
theorem AppearsOnce.found {field : Str} {lines : List Str} {i : Nat}
    (once : AppearsOnce field lines) (member : field ∈ removeLines)
    (found : caseEqPrefix field ((crlfLines lines).drop i) = true)
    : ∃ pre line post, lines = pre ++ line :: post ∧ i = (crlfLines pre).length
      ∧ caseEqPrefix field line = true
      ∧ lines.filter (fun line => !caseEqPrefix field line) = pre ++ post := by
  have nonempty : field ≠ [] := by
    rintro rfl
    exact absurd member (by decide)
  obtain ⟨pre, line, post, k, rfl, rfl, hit⟩ :=
    found_in_line nonempty (fun c special => removeLines_plain member special) found
  obtain rfl : k = 0 := by
    by_contra inside
    have none := once.starts line (by simp) k (Nat.pos_of_ne_zero inside)
    rw [none] at hit
    cases hit
  rw [List.drop_zero] at hit
  have others : ∀ other ∈ pre ++ post, caseEqPrefix field other = false := by
    intro other there
    by_contra same
    have few := once.once
    rw [List.filter_append, List.filter_cons_of_pos hit, List.length_append, List.length_cons] at few
    have before : pre.filter (caseEqPrefix field) = [] := List.length_eq_zero_iff.mp (by omega)
    have behind : post.filter (caseEqPrefix field) = [] := List.length_eq_zero_iff.mp (by omega)
    rcases List.mem_append.mp there with inPre | inPost
    · exact List.filter_eq_nil_iff.mp before other inPre (by simpa using same)
    · exact List.filter_eq_nil_iff.mp behind other inPost (by simpa using same)
  refine ⟨pre, line, post, rfl, rfl, hit, ?_⟩
  rw [List.filter_append, List.filter_cons_of_neg (by simp [hit]), ← List.filter_append]
  refine List.filter_eq_self.mpr (fun other there => ?_)
  simp [others other there]

theorem removeLines_length {field : Str} (member : field ∈ removeLines) : 6 ≤ field.length := by
  revert field
  decide

/-- The removal behind the search for the end of the line. -/
theorem removeAt_eq {header field : Str} {i lenb : Nat}
    (eol : findEol (i + field.length - 1) (header.drop (i + field.length - 1)) = some lenb)
    : removeAt header field i
      = some ((copyDown (header.length + 1) header i (lenb + 2)).1.set
          (copyDown (header.length + 1) header i (lenb + 2)).2 NUL) := by
  unfold removeAt
  rw [eol]
  rfl

/-- The search for the end of a line starts at the blank of the field's name. -/
theorem findEol_field {field value eol rest : Str} (one : OneLine value) (member : field ∈ removeLines)
    (starts : caseEqPrefix field value = true) (ends : eol = "\r\n".toList ∨ eol = "\n".toList) (n : Nat)
    : findEol (n + field.length - 1) ((value ++ eol ++ rest).drop (field.length - 1))
      = some (n + value.length + eol.length - 2) := by
  have long := (caseEqPrefix_iff.mp starts).1
  have six := removeLines_length member
  have short : OneLine (value.drop (field.length - 1)) :=
    ⟨fun there => one.1 (List.mem_of_mem_drop there), fun there => one.2 (List.mem_of_mem_drop there)⟩
  rw [List.append_assoc, List.drop_append_of_le_length (by omega)]
  rcases ends with rfl | rfl
  · refine (findEol_line short (n + field.length - 1)).trans ?_
    rw [List.length_drop]
    have two : "\r\n".toList.length = 2 := rfl
    congr 1
    omega
  · refine (findEol_lf short ?_ (n + field.length - 1)).trans ?_
    · rw [← List.length_pos_iff, List.length_drop]
      omega
    · rw [List.length_drop]
      have single : "\n".toList.length = 1 := rfl
      congr 1
      omega

/-- The removal of a line at whose beginning the name stands. -/
theorem removeAt_line {len : Nat} {buf field pre value eol post : Str}
    (holds : HoldsHeader len buf (pre ++ (value ++ eol) ++ post)) (one : OneLine value)
    (member : field ∈ removeLines) (starts : caseEqPrefix field value = true)
    (ends : eol = "\r\n".toList ∨ eol = "\n".toList)
    : ∃ buf', removeAt buf field pre.length = some buf' ∧ HoldsHeader len buf' (pre ++ post) := by
  obtain ⟨nul, ⟨tail, rfl⟩, short, cr⟩ := holds
  have long := (caseEqPrefix_iff.mp starts).1
  have six := removeLines_length member
  have size : (value ++ eol).length = value.length + eol.length := List.length_append
  have few : 1 ≤ eol.length ∧ eol.length ≤ 2 := by
    rcases ends with rfl | rfl <;> decide
  rw [List.length_append, List.length_append, size] at short
  have found : findEol (pre.length + field.length - 1)
      ((pre ++ (value ++ eol) ++ post ++ NUL :: tail).drop (pre.length + field.length - 1))
      = some (pre.length + value.length + eol.length - 2) := by
    have text : pre ++ (value ++ eol) ++ post ++ NUL :: tail
        = pre ++ (value ++ eol ++ (post ++ NUL :: tail)) := by
      simp
    have place : pre.length + field.length - 1 = pre.length + (field.length - 1) := by
      omega
    rw [text, place, List.drop_length_add_append, ← place]
    exact findEol_field one member starts ends pre.length
  have behindLine : pre.length + value.length + eol.length - 2 + 2
      = pre.length + (value ++ eol).length := by
    omega
  have rounds : post.length < (pre ++ (value ++ eol) ++ post ++ NUL :: tail).length + 1 := by
    simp only [List.length_append]
    omega
  have moved := @copyDown_spec _ pre (value ++ eol) post tail nul
    (List.length_pos_iff.mp (by omega)) rounds
  rw [← behindLine] at moved
  obtain ⟨text, behind⟩ := moved
  generalize out : copyDown _ _ _ _ = moved at text behind
  refine ⟨moved.1.set moved.2 NUL, ?_, ?_⟩
  · rw [removeAt_eq found, out]
  · have kept : moved.1.length = (pre ++ (value ++ eol) ++ post ++ NUL :: tail).length := by
      rw [← out, length_copyDown]
    rw [← text]
    refine ⟨?_, ?_, ?_, ?_⟩
    · rw [text]
      intro mem
      apply nul
      rcases List.mem_append.mp mem with inPre | inPost
      · exact List.mem_append_left _ (List.mem_append_left _ inPre)
      · exact List.mem_append_right _ inPost
    · apply cstr_ended
      rw [text, List.length_set, kept]
      simp only [List.length_append, List.length_cons]
      omega
    · rw [text, List.length_append]
      omega
    · rw [behind len (by omega)]
      exact cr

/-- A hit in what is left behind the header's end changes nothing of the header. -/
theorem removeAt_behind {len i : Nat} {buf text field : Str} (holds : HoldsHeader len buf text)
    (member : field ∈ removeLines) (found : caseEqPrefix field (buf.drop i) = true)
    (inside : i < len) (behind : text.length < i)
    : ∃ buf', removeAt buf field i = some buf' ∧ HoldsHeader len buf' text := by
  obtain ⟨nul, ⟨tail, rfl⟩, short, cr⟩ := holds
  have six := removeLines_length member
  obtain ⟨rest, atLen⟩ : ∃ rest, (text ++ NUL :: tail).drop len = '\r' :: rest :=
    List.head?_eq_some_iff.mp cr
  have split (j : Nat) (before : j ≤ len)
      : (text ++ NUL :: tail).drop j
        = ((text ++ NUL :: tail).drop j).take (len - j) ++ '\r' :: rest := by
    rw [← atLen]
    have parts := List.take_append_drop (len - j) ((text ++ NUL :: tail).drop j)
    rw [List.drop_drop, Nat.add_sub_cancel' before] at parts
    exact parts.symm
  -- the name has no CR, so that it ends before the CR at `len`
  have room : i + field.length ≤ len := by
    by_contra long
    apply notMem_of_caseEqPrefix found (removeLines_plain member (Or.inr (Or.inl rfl)))
    rw [split i (Nat.le_of_lt inside), List.take_append, List.mem_append]
    refine Or.inr ?_
    have size : (((text ++ NUL :: tail).drop i).take (len - i)).length ≤ len - i :=
      List.length_take_le _ _
    obtain ⟨n, more⟩ : ∃ n, field.length - (((text ++ NUL :: tail).drop i).take (len - i)).length
        = n + 1 := ⟨_, (Nat.succ_pred (by omega)).symm⟩
    rw [more]
    simp
  have cr' : '\r' ∈ (text ++ NUL :: tail).drop (i + field.length - 1) := by
    rw [split _ (by omega)]
    simp
  obtain ⟨lenb, eol, le⟩ := findEol_of_mem cr' (i + field.length - 1)
  have stays : copyDown ((text ++ NUL :: tail).length + 1) (text ++ NUL :: tail) i (lenb + 2)
      = (text ++ NUL :: tail, i) := by
    rw [copyDown, cstr_append_nul nul, if_neg (by omega)]
  refine ⟨_, removeAt_eq eol, ?_⟩
  rw [stays]
  refine ⟨nul, ⟨tail.set (i - text.length - 1) NUL, ?_⟩, short, ?_⟩
  · rw [List.set_append_right _ _ (by omega)]
    obtain ⟨n, same⟩ := Nat.exists_eq_add_of_lt behind
    rw [same, Nat.add_assoc, Nat.add_sub_cancel_left]
    rfl
  · rw [List.drop_set_of_lt inside]
    exact cr

/-- A line with the name at its beginning is a hit within the header. -/
theorem line_is_hit {len : Nat} {buf field line : Str} {lines : List Str}
    (holds : HoldsHeader len buf (crlfLines lines)) (member : field ∈ removeLines)
    (there : line ∈ lines) (starts : caseEqPrefix field line = true)
    : ∃ j, j < len ∧ caseEqPrefix field ((crlfLines lines).drop j) = true := by
  obtain ⟨pre, post, rfl⟩ := List.append_of_mem there
  have long := (caseEqPrefix_iff.mp starts).1
  have six := removeLines_length member
  have short := holds.short
  rw [crlfLines_append, crlfLines_cons] at short ⊢
  simp only [List.length_append, List.length_cons] at short
  refine ⟨(crlfLines pre).length, by omega, ?_⟩
  rw [List.drop_left, caseEqPrefix_append long]
  exact starts

/-- One pass of the removal loop: the header has no hit, so that it stays as it is, or its first
hit is where the removal starts.
Witness: a hit behind the header's end stands in what earlier passes left there.
-/
theorem removeField_cases {len : Nat} {buf field text : Str} (holds : HoldsHeader len buf text)
    (member : field ∈ removeLines)
    : ((∀ j < len, ¬caseEqPrefix field (text.drop j) = true)
        ∧ ∃ buf', removeField len buf field = some buf' ∧ HoldsHeader len buf' text)
      ∨ ∃ i, caseEqPrefix field (text.drop i) = true
        ∧ removeField len buf field = removeAt buf field i := by
  -- a hit in the header is one in the allocation
  have hitInBuf (j : Nat) (hit : caseEqPrefix field (text.drop j) = true)
      : caseEqPrefix field (buf.drop j) = true ∧ j < text.length := by
    obtain ⟨tail, rfl⟩ := holds.ended
    have long := (caseEqPrefix_iff.mp hit).1
    have six := removeLines_length member
    rw [List.length_drop] at long
    refine ⟨?_, by omega⟩
    rw [List.drop_append_of_le_length (by omega), caseEqPrefix_append (caseEqPrefix_iff.mp hit).1]
    exact hit
  unfold removeField
  cases search : (List.range len).find? (fun i => caseEqPrefix field (buf.drop i)) with
  | none =>
      rw [List.find?_eq_none] at search
      refine Or.inl ⟨fun j inside hit => ?_, buf, rfl, holds⟩
      exact search j (List.mem_range.mpr inside) (hitInBuf j hit).1
  | some i =>
      have hit := List.find?_some search
      have inside : i < len := List.mem_range.mp (List.mem_of_find?_eq_some search)
      by_cases behind : text.length < i
      · refine Or.inl ⟨fun j _ earlier => ?_, removeAt_behind holds member hit inside behind⟩
        obtain ⟨found, within⟩ := hitInBuf j earlier
        obtain ⟨-, -, before⟩ := List.find?_range_eq_some.mp search
        have missed := before j (by omega)
        rw [found] at missed
        cases missed
      · refine Or.inr ⟨i, ?_, rfl⟩
        obtain ⟨tail, rfl⟩ := holds.ended
        rw [List.drop_append_of_le_length (by omega)] at hit
        have long := length_le_of_line (removeLines_plain member (Or.inl rfl)) hit
        rwa [caseEqPrefix_append long] at hit

/-- One pass of the removal loop removes the lines with the name.
Witness: the first hit is the line with the name if there is one.
-/
theorem removeField_spec {len : Nat} {buf field : Str} {lines : List Str}
    (holds : HoldsHeader len buf (crlfLines lines)) (one : ∀ line ∈ lines, OneLine line)
    (member : field ∈ removeLines) (once : AppearsOnce field lines)
    : ∃ buf', removeField len buf field = some buf'
      ∧ HoldsHeader len buf' (crlfLines (lines.filter (fun line => !caseEqPrefix field line))) := by
  rcases removeField_cases holds member with ⟨noHit, buf', same, kept⟩ | ⟨i, text, removal⟩
  · have absent : lines.filter (fun line => !caseEqPrefix field line) = lines := by
      refine List.filter_eq_self.mpr (fun line there => ?_)
      by_contra starts
      obtain ⟨j, inside, hit⟩ := line_is_hit holds member there (by simpa using starts)
      exact noHit j inside hit
    rw [absent]
    exact ⟨buf', same, kept⟩
  · obtain ⟨pre, line, post, rfl, rfl, starts, rest⟩ := once.found member text
    have whole : crlfLines (pre ++ line :: post)
        = crlfLines pre ++ (line ++ "\r\n".toList) ++ crlfLines post := by
      rw [crlfLines_append, crlfLines_cons]
      simp
    rw [rest, removal, crlfLines_append]
    rw [whole] at holds
    exact removeAt_line holds (one line (by simp)) member starts (Or.inl rfl)

/-- All passes of the removal loop. -/
theorem removeAll_spec {len : Nat} {fields : List Str} (members : ∀ field ∈ fields, field ∈ removeLines)
    {buf : Str} {lines : List Str} (holds : HoldsHeader len buf (crlfLines lines))
    (one : ∀ line ∈ lines, OneLine line) (once : ∀ field ∈ fields, AppearsOnce field lines)
    : ∃ buf', fields.foldlM (removeField len) buf = some buf'
      ∧ HoldsHeader len buf'
        (crlfLines (lines.filter (fun line => !fields.any (fun field => caseEqPrefix field line)))) := by
  induction fields generalizing buf lines with
  | nil =>
      have all : lines.filter (fun line => !([] : List Str).any (fun field => caseEqPrefix field line))
          = lines :=
        List.filter_eq_self.mpr (fun _ _ => rfl)
      exact ⟨buf, rfl, by rw [all]; exact holds⟩
  | cons field rest ih =>
      obtain ⟨next, removed, holdsNext⟩ :=
        removeField_spec holds one (members field (by simp)) (once field (by simp))
      have sub : lines.filter (fun line => !caseEqPrefix field line) ⊆ lines :=
        fun line there => (List.mem_filter.mp there).1
      obtain ⟨buf', ran, final⟩ := ih (fun other there => members other (List.mem_cons_of_mem _ there))
        holdsNext (fun line there => one line (sub there)) (by
          intro other there
          have before := once other (List.mem_cons_of_mem _ there)
          refine ⟨fun line inside => before.starts line (sub inside), ?_⟩
          have fewer := (List.filter_sublist (p := fun line => !caseEqPrefix field line)
            (l := lines)).filter (caseEqPrefix other)
          exact fewer.length_le.trans before.once)
      refine ⟨buf', ?_, ?_⟩
      · rw [List.foldlM_cons, removed]
        exact ran
      · rw [List.filter_filter] at final
        have same : (fun line => (!rest.any (fun field => caseEqPrefix field line))
              && !caseEqPrefix field line)
            = fun line => !(field :: rest).any (fun field => caseEqPrefix field line) := by
          funext line
          simp only [List.any_cons, Bool.not_or, Bool.and_comm]
        rw [same] at final
        exact final

/-- The allocation for the header: the text up to and with the first half of the separator, and a
NUL. -/
theorem headerBuffer_eq {buf : Str} {len : Nat} (found : headerEnd 0 buf = some len)
    (early : NUL ∉ buf.take 4)
    : headerBuffer buf len = buf.take (len + 2) ++ [NUL] ∧ NUL ∉ buf.take (len + 2)
      ∧ (buf.take (len + 2)).drop len = "\r\n".toList := by
  obtain ⟨k, same, sep, -, -⟩ := headerEnd_spec found
  obtain rfl : len = k := by omega
  obtain ⟨rest, at'⟩ := sep
  have size : len + 4 ≤ buf.length := by
    have inside := congrArg List.length at'
    rw [List.length_append, List.length_drop] at inside
    have four : headerSep.length = 4 := rfl
    omega
  have clean : NUL ∉ buf.take (len + 2) := by
    intro member
    apply no_nul_before_end found early
    exact (List.take_sublist_take_left (by omega)).mem member
  have more : len + 3 - (buf.take (len + 2)).length = 1 := by
    rw [List.length_take]
    omega
  refine ⟨?_, clean, ?_⟩
  · simp only [headerBuffer, cstr_eq_self clean, more]
    rfl
  · have two : len + 2 - len = 2 := by omega
    rw [List.drop_take, ← at', two]
    rfl

/-- Behind the header's length stand the CRLF of its last line and the NUL. -/
theorem drop_headerBuffer {buf : Str} {len : Nat} (found : headerEnd 0 buf = some len)
    (early : NUL ∉ buf.take 4)
    : (headerBuffer buf len).drop len = "\r\n".toList ++ [NUL] := by
  obtain ⟨whole, -, ends⟩ := headerBuffer_eq found early
  have long : len ≤ (buf.take (len + 2)).length := by
    have inside := congrArg List.length ends
    rw [List.length_drop] at inside
    have two : "\r\n".toList.length = 2 := rfl
    omega
  rw [whole, List.drop_append_of_le_length long, ends]

theorem holdsHeader_of_headerEnd {buf : Str} {len : Nat} (found : headerEnd 0 buf = some len)
    (early : NUL ∉ buf.take 4)
    : HoldsHeader len (headerBuffer buf len) (cstr (headerBuffer buf len)) := by
  obtain ⟨whole, clean, -⟩ := headerBuffer_eq found early
  have behind := drop_headerBuffer found early
  rw [whole] at behind ⊢
  rw [cstr_append_nul clean]
  refine ⟨clean, ⟨[], rfl⟩, List.length_take_le _ _, ?_⟩
  rw [behind]
  rfl

/-- The allocation for the header of an article without NUL. -/
theorem holdsHeader_of_passed {buf header ngstrp body : Str} {len : Nat} (nul : NUL ∉ buf)
    (passed : checkArticle buf = .passed len header ngstrp body)
    : HoldsHeader len header (cstr header) := by
  obtain ⟨i, found, -⟩ := (passesChecks_of_passed passed).ends
  have early : NUL ∉ buf.take 4 := fun member => nul (List.mem_of_mem_take member)
  have one := oneBoundary_of_early found early
  obtain ⟨rfl, rfl, -⟩ := one.parts _ _ _ _ passed
  exact holdsHeader_of_headerEnd found early

/-- A line with one of the fields that are checked is not removed. -/
theorem not_removable {key line : Str}
    (checked : key = "Newsgroups:".toList ∨ key = "From:".toList ∨ key = "Subject:".toList)
    (here : keyLine key line = true)
    : removable line = false := by
  rw [keyLine, Bool.and_eq_true] at here
  rw [removable, List.any_eq_false]
  intro field member starts
  have apart : caseEqPrefix key field = false ∧ caseEqPrefix field key = false := by
    simp only [removeLines, List.mem_cons, List.not_mem_nil, or_false] at member
    rcases member with rfl | rfl | rfl
    · rcases checked with rfl | rfl | rfl <;> decide
    · rcases checked with rfl | rfl | rfl <;> decide
    · rcases checked with rfl | rfl | rfl <;> decide
  rcases caseEqPrefix_comparable here.1 starts with first | second
  · rw [apart.1] at first
    cases first
  · rw [apart.2] at second
    cases second

theorem crlf_suffix {lines : List Str} (nonempty : lines ≠ []) : "\r\n".toList <:+ crlfLines lines := by
  obtain ⟨front, last, rfl⟩ := List.eq_nil_or_concat lines |>.resolve_left nonempty
  rw [List.concat_eq_append, crlfLines_append, crlfLines_cons, crlfLines_nil]
  refine ⟨crlfLines front ++ last, ?_⟩
  simp

/-- The lines of a header with a date and a line count. -/
def datedLines : List Str :=
  ["From: a@b.org".toList, "Date: today".toList, "Newsgroups: a".toList, "Subject: hi".toList,
    "lines: 3".toList]

def articleOf (lines : List Str) : Str := crlfLines lines ++ "\r\nhello\r\n.\r\n".toList

end Removal

end WendzelNNTPd
