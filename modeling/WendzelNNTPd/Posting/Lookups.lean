import WendzelNNTPd.Posting.AllOrNothing
import WendzelNNTPd.Posting.HeaderText

/-! The two searches that POST relies on: the stack of the newsgroups that are already served, and
the search for a header line, here with the index of every byte it reads.
-/

namespace WendzelNNTPd

open CString

-----------------------------------------------------------------------------------------
-- The stack of newsgroups
-----------------------------------------------------------------------------------------

/-- The stack behind a sequence of pushes. -/
def Charstack.pushAll (values : List Str) : Charstack := values.foldl Charstack.pushOn .empty

/-- Behind the first value the stack has room for one more.
Witness: induction on the pushes; each of them replaces the node that is linked behind the first.
-/
theorem foldl_pushOn (value : Str) (next values : List Str)
    : values.foldl Charstack.pushOn (.hasdata value next)
      = .hasdata value ((values.getLast?.map (fun last => [last])).getD next) := by
  induction values generalizing next with
  | nil => rfl
  | cons v rest ih =>
      rw [List.foldl_cons, Charstack.pushOn, ih]
      cases rest with
      | nil => rfl
      | cons w others =>
          rw [List.getLast?_cons_cons]
          cases last : (w :: others).getLast? with
          | none => exact absurd last (by simp)
          | some u => rfl

theorem mem_values_pushAll {values : List Str} {v : Str}
    : v ∈ (Charstack.pushAll values).values ↔ values.head? = some v ∨ values.getLast? = some v := by
  cases values with
  | nil => simp [Charstack.pushAll, Charstack.values]
  | cons first rest =>
      have pushed : Charstack.pushAll (first :: rest)
          = .hasdata first ((rest.getLast?.map (fun last => [last])).getD []) :=
        foldl_pushOn first [] rest
      rw [pushed, Charstack.values]
      cases rest with
      | nil => simp [eq_comm]
      | cons second others =>
          have last := List.getLast?_eq_some_getLast (List.cons_ne_nil second others)
          rw [List.getLast?_cons_cons, last]
          simp [eq_comm]

/-- The search in the stack is right about a value exactly if the value was not pushed, or was
pushed first or last.
Witness: only the first node and the node linked behind it are left.
-/
theorem checkFor_right_iff (values : List Str) (v : Str)
    : ((Charstack.pushAll values).checkFor v = true ↔ v ∈ values)
      ↔ (v ∈ values → values.head? = some v ∨ values.getLast? = some v) := by
  rw [checkFor_iff, mem_values_pushAll]
  constructor
  · exact fun right pushed => right.mpr pushed
  · intro remembered
    refine ⟨fun found => ?_, remembered⟩
    rcases found with first | last
    · exact List.mem_of_head? first
    · exact List.mem_of_getLast? last

/-- The second of three newsgroups is forgotten. -/
theorem second_of_three_forgotten
    : ¬((Charstack.pushAll ["a".toList, "b".toList, "c".toList]).checkFor "b".toList = true
        ↔ "b".toList ∈ ["a".toList, "b".toList, "c".toList]) := by
  decide

-----------------------------------------------------------------------------------------
-- CDP_return_linevalue, byte by byte
-----------------------------------------------------------------------------------------

section Model

variable (buf key : Str)

/-- `buf[i]` of a string that ends with NUL; `none` reads behind the NUL. -/
def readByte (i : Nat) : Option Char := (buf ++ [NUL])[i]?

/-- `strlen(buf + i)` -/
def strlenAt (i : Nat) : Option Nat := if i ≤ buf.length then some (buf.length - i) else none

/-- `strncasecmp(buf + i, key, n) == 0` for the first bytes of a key. -/
def strncasecmpAt (i : Nat) : Str → Option Bool
  | [] => some true
  | k :: ks => do
      let c ← readByte buf i
      if c.toLower = k.toLower then strncasecmpAt (i + 1) ks else some false

/-- `strncpy(str, buf + start, len)` -/
def strncpyAt (start len : Nat) : Option Str :=
  if start + len ≤ buf.length then some ((buf.drop start).take len) else none

/-- The loop over a value, which stops at the end of its line. A round advances the index, so the
length of the text bounds the number of rounds. -/
def valueEnd : Nat → Nat → Option Nat
  | 0, _ => none
  | rounds + 1, i =>
      if i < buf.length then do
        let c ← readByte buf i
        if c ≠ '\r' ∧ c ≠ '\n' then valueEnd rounds (i + 1) else some i
      else some i

/-- The loop to the end of a line; the inner `none` is the end of the text. -/
def lineEnd : Nat → Nat → Option (Option Nat)
  | 0, _ => none
  | rounds + 1, i => do
      let c ← readByte buf i
      if c ≠ '\r' ∧ c ≠ '\n' then
        if c = NUL then some none else lineEnd rounds (i + 1)
      else some (some i)

/-- The value that starts at an index. -/
def valueAt (start : Nat) : Option (Option Str) := do
  let i ← valueEnd buf (buf.length + 1) start
  if i - start = 0 then some none
  else do
    let str ← strncpyAt buf start (i - start)
    some (some str)

/-- Whether the line at an index has the key; the inner `none` is a rest of the text that is too
short for it. -/
def keyAt (i : Nat) : Option (Option Bool) := do
  let first ← strncasecmpAt buf i (key.take 1)
  if first then do
    let len ← strlenAt buf i
    if key.length ≤ len then do
      let whole ← strncasecmpAt buf i key
      if whole then do
        let c ← readByte buf (i + key.length)
        some (some (c = ' ' ∨ c = '\t'))
      else some (some false)
    else some none
  else some (some false)

/-- The outer loop, at the beginning of a line. -/
def linevalueLoop : Nat → Nat → Option (Option Str)
  | 0, _ => none
  | rounds + 1, i =>
      if i < buf.length then do
        let found ← keyAt buf key i
        match found with
        | none => some none
        | some true => valueAt buf (i + key.length + 1)
        | some false => do
            let eol ← lineEnd buf (buf.length + 1) i
            match eol with
            | none => some none
            | some i => linevalueLoop rounds (i + 1)
      else some none

/-- `CDP_return_linevalue` with its indices; the outer `none` is a read behind the NUL. -/
def cdpReturnLinevalueAt : Option (Option Str) := linevalueLoop buf key (buf.length + 1) 0

end Model

-----------------------------------------------------------------------------------------
-- What the bytes read say about a line
-----------------------------------------------------------------------------------------

section Reading

variable {key : Str}

theorem readByte_append (front text : Str) (j : Nat)
    : readByte (front ++ text) (front.length + j) = (text ++ [NUL])[j]? := by
  rw [readByte, List.append_assoc, List.getElem?_append_right (Nat.le_add_right _ _),
    Nat.add_sub_cancel_left]

theorem readByte_here (front : Str) (c : Char) (rest : Str)
    : readByte (front ++ c :: rest) front.length = some c :=
  readByte_append front (c :: rest) 0

theorem readByte_end (front : Str) : readByte (front ++ []) front.length = some NUL :=
  readByte_append front [] 0

/-- Up to the NUL a read yields the byte of the text. -/
theorem readByte_byteAt {front text : Str} {j : Nat} (within : j ≤ text.length)
    : readByte (front ++ text) (front.length + j) = some (byteAt text j) := by
  rw [readByte_append, byteAt]
  rcases Nat.lt_or_eq_of_le within with inside | rfl
  · rw [List.getElem?_append_left inside, List.getElem?_eq_getElem inside]
    rfl
  · rw [List.getElem?_append_right (Nat.le_refl _), Nat.sub_self,
      List.getElem?_eq_none (Nat.le_refl _)]
    rfl

/-- A byte before the letters is the only one with its lower case. -/
theorem eq_of_toLower_eq {c d : Char} (low : c.toLower = c ∧ c.toUpper = c)
    (same : d.toLower = c.toLower)
    : d = c := by
  rcases toLower_eq_iff.mp same with lower | upper
  · rw [lower, low.1]
  · rw [upper, low.2]

theorem strncasecmpAt_eq (plain : NUL ∉ key) (front text : Str)
    : strncasecmpAt (front ++ text) front.length key = some (caseEqPrefix key text) := by
  induction key generalizing front text with
  | nil => cases text <;> rfl
  | cons k ks ih =>
      rw [List.mem_cons, not_or] at plain
      cases text with
      | nil =>
          have other : ¬NUL.toLower = k.toLower := by
            intro same
            exact plain.1 (eq_of_toLower_eq ⟨rfl, rfl⟩ same.symm).symm
          simp only [strncasecmpAt, readByte_end, Option.bind_eq_bind, Option.bind_some, if_neg other,
            caseEqPrefix]
      | cons c cs =>
          have next := ih plain.2 (front ++ [c]) cs
          rw [List.append_assoc, List.length_append] at next
          by_cases same : c.toLower = k.toLower
          · simp only [strncasecmpAt, readByte_here, Option.bind_eq_bind, Option.bind_some, if_pos same,
              caseEqPrefix]
            rw [← same, beq_self_eq_true, Bool.true_and]
            exact next
          · have differ : (k.toLower == c.toLower) = false := by
              simpa using fun eq => same eq.symm
            simp [strncasecmpAt, readByte_here, same, caseEqPrefix, differ]

/-- The loop over a value stops where its line ends.
Witness: induction on the value; a round is spent on each byte of it.
-/
theorem valueEnd_eq {value rest : Str} (one : OneLine value) (ends : LineRest rest)
    {rounds : Nat} (enough : value.length < rounds) (front : Str)
    : valueEnd (front ++ (value ++ rest)) rounds front.length = some (front.length + value.length) := by
  induction value generalizing rounds front with
  | nil =>
      obtain ⟨rounds, rfl⟩ : ∃ n, rounds = n + 1 := ⟨_, (Nat.succ_pred_eq_of_pos enough).symm⟩
      cases rest with
      | nil => simp [valueEnd]
      | cons e tail =>
          have eol : ¬(e ≠ '\r' ∧ e ≠ '\n') := by
            rw [← not_or, not_not]
            exact isEol_iff.mp (ends e rfl)
          simp only [valueEnd, List.nil_append, readByte_here, Option.bind_eq_bind,
            Option.bind_some, if_neg eol, ite_self]
          rfl
  | cons c cs ih =>
      obtain ⟨rounds, rfl⟩ : ∃ n, rounds = n + 1 := ⟨_, (Nat.succ_pred_eq_of_pos (by omega)).symm⟩
      obtain ⟨kept, short⟩ := oneLine_cons one
      rw [List.length_cons, Nat.add_lt_add_iff_right] at enough
      have next := ih short enough (front ++ [c])
      rw [List.append_assoc, List.length_append] at next
      have inside : front.length < (front ++ (c :: cs ++ rest)).length := by
        simp only [List.length_append, List.length_cons]
        omega
      rw [valueEnd, if_pos inside, List.cons_append, readByte_here]
      simp only [Option.bind_eq_bind, Option.bind_some, if_pos (not_or.mp kept)]
      rw [List.length_cons, Nat.add_comm cs.length, ← Nat.add_assoc]
      exact next

/-- The loop to the end of a line finds it, or the end of the text. -/
theorem lineEnd_eq {line rest : Str} (one : OneLine line) (plain : NUL ∉ line)
    (ends : LineRest rest) {rounds : Nat} (enough : line.length < rounds) (front : Str)
    : lineEnd (front ++ (line ++ rest)) rounds front.length
      = some (if rest.isEmpty then none else some (front.length + line.length)) := by
  induction line generalizing rounds front with
  | nil =>
      obtain ⟨rounds, rfl⟩ : ∃ n, rounds = n + 1 := ⟨_, (Nat.succ_pred_eq_of_pos enough).symm⟩
      cases rest with
      | nil =>
          rw [lineEnd, List.nil_append, readByte_end]
          rfl
      | cons e tail =>
          have eol : ¬(e ≠ '\r' ∧ e ≠ '\n') := by
            rw [← not_or, not_not]
            exact isEol_iff.mp (ends e rfl)
          rw [lineEnd, List.nil_append, readByte_here]
          simp only [Option.bind_eq_bind, Option.bind_some, if_neg eol]
          rfl
  | cons c cs ih =>
      obtain ⟨rounds, rfl⟩ : ∃ n, rounds = n + 1 := ⟨_, (Nat.succ_pred_eq_of_pos (by omega)).symm⟩
      obtain ⟨kept, short⟩ := oneLine_cons one
      rw [List.mem_cons, not_or] at plain
      rw [List.length_cons, Nat.add_lt_add_iff_right] at enough
      have next := ih short plain.2 enough (front ++ [c])
      rw [List.append_assoc, List.length_append] at next
      rw [lineEnd, List.cons_append, readByte_here]
      simp only [Option.bind_eq_bind, Option.bind_some, if_pos (not_or.mp kept),
        if_neg (Ne.symm plain.1)]
      refine next.trans ?_
      rw [List.length_singleton, List.length_cons, Nat.add_assoc, Nat.add_comm 1]

theorem LineKey.of_oneLine (nonempty : key ≠ []) (one : OneLine key) : LineKey key := by
  refine ⟨nonempty, ?_, ?_⟩
  · intro member
    obtain ⟨k, inside, same⟩ := List.mem_map.mp member
    exact one.1 (eq_of_toLower_eq ⟨rfl, rfl⟩ same ▸ inside)
  · intro member
    obtain ⟨k, inside, same⟩ := List.mem_map.mp member
    exact one.2 (eq_of_toLower_eq ⟨rfl, rfl⟩ same ▸ inside)

/-- The test at the beginning of a line: the rest of the text is shorter than the key, or the test
tells whether the line has the key.
Witness: a text with the key begins with the first byte of the key, so that the shortcut misses
no line.
-/
theorem keyAt_eq (plain : LineKey key) (noNul : NUL ∉ key) {line rest : Str}
    (ends : LineRest rest) (front : Str)
    : ((line ++ rest).length < key.length
        ∧ keyAt (front ++ (line ++ rest)) key front.length = some none)
      ∨ keyAt (front ++ (line ++ rest)) key front.length = some (some (keyLine key line)) := by
  have here := @keyLine_iff key line rest plain ends
  have noNulFirst : NUL ∉ key.take 1 := fun member => noNul (List.mem_of_mem_take member)
  generalize line ++ rest = text at here ⊢
  have len : strlenAt (front ++ text) front.length = some text.length := by
    rw [strlenAt, if_pos (by simp), List.length_append, Nat.add_sub_cancel_left]
  rw [keyAt, strncasecmpAt_eq noNulFirst, strncasecmpAt_eq noNul, len]
  simp only [Option.bind_eq_bind, Option.bind_some]
  by_cases first : caseEqPrefix (key.take 1) text = true
  · rw [if_pos first]
    by_cases long : key.length ≤ text.length
    · refine Or.inr ?_
      rw [if_pos long, readByte_byteAt long]
      by_cases whole : caseEqPrefix key text = true
      · rw [if_pos whole]
        simp only [Option.bind_some, Option.some.injEq]
        rw [Bool.eq_iff_iff, ← here, decide_eq_true_iff]
        exact (and_iff_right whole).symm
      · rw [if_neg whole, Bool.eq_false_of_not_eq_true (mt here.mpr (fun both => whole both.1))]
    · exact Or.inl ⟨Nat.not_le.mp long, by rw [if_neg long]⟩
  · refine Or.inr ?_
    have none : keyLine key line = false :=
      Bool.eq_false_of_not_eq_true (mt here.mpr (fun both => first (caseEqPrefix_take both.1 1)))
    rw [if_neg first, none]

/-- The value behind a key on its line. -/
theorem valueAt_eq {line rest : Str} (one : OneLine line) (ends : LineRest rest)
    (here : keyLine key line = true) (front : Str)
    : valueAt (front ++ (line ++ rest)) (front.length + key.length + 1) = some (lineValue key line) := by
  have long := length_lt_of_keyLine here
  have parts : front ++ (line ++ rest)
      = (front ++ line.take (key.length + 1)) ++ (line.drop (key.length + 1) ++ rest) := by
    rw [List.append_assoc, ← List.append_assoc (line.take _), List.take_append_drop]
  have start : front.length + key.length + 1 = (front ++ line.take (key.length + 1)).length := by
    rw [List.length_append, List.length_take]
    omega
  have oneValue : OneLine (line.drop (key.length + 1)) :=
    ⟨fun cr => one.1 (List.mem_of_mem_drop cr), fun lf => one.2 (List.mem_of_mem_drop lf)⟩
  rw [parts, start]
  generalize front ++ line.take (key.length + 1) = before
  generalize value : line.drop (key.length + 1) = val at oneValue
  have enough : val.length < (before ++ (val ++ rest)).length + 1 := by
    simp only [List.length_append]
    omega
  have copied : strncpyAt (before ++ (val ++ rest)) before.length val.length = some val := by
    rw [strncpyAt, if_pos (by simp), List.drop_left, List.take_left]
  rw [valueAt, valueEnd_eq oneValue ends enough]
  simp only [Option.bind_eq_bind, Option.bind_some, Nat.add_sub_cancel_left, copied, lineValue, value]
  cases val with
  | nil => rfl
  | cons v vs => rfl

/-- From the beginning of a line the outer loop finds what the search line by line finds.
Witness: induction on the rest of the text, one line after the other; a line spends a round, and
leaves at least its line end behind.
-/
theorem linevalueLoop_eq (plain : LineKey key) (noNul : NUL ∉ key) {text : Str}
    (noNulText : NUL ∉ text) {rounds : Nat} (enough : text.length < rounds) (front : Str)
    : linevalueLoop (front ++ text) key rounds front.length = some (cdpReturnLinevalue text key) := by
  induction rounds generalizing text front with
  | zero => exact absurd enough (Nat.not_lt_zero _)
  | succ rounds ih =>
      by_cases within : front.length < (front ++ text).length
      · rw [linevalueLoop, if_pos within]
        obtain ⟨line, rest, rfl, one, ends⟩ := exists_line text
        rw [List.mem_append, not_or] at noNulText
        rcases keyAt_eq plain noNul ends front with ⟨short, test⟩ | test
        · rw [test]
          exact congrArg some (linevalue_short short).1.symm
        · rw [test, linevalue_line plain one ends]
          simp only [Option.bind_eq_bind, Option.bind_some]
          by_cases here : keyLine key line = true
          · rw [here, if_pos rfl]
            exact valueAt_eq one ends here front
          · have skipped := @lineEnd_eq line rest one noNulText.1 ends
              ((front ++ (line ++ rest)).length + 1) (by simp; omega) front
            rw [if_neg here, Bool.eq_false_of_not_eq_true here]
            simp only [skipped, Option.bind_some]
            cases rest with
            | nil => rfl
            | cons e tail =>
                have next := @ih tail (fun member => noNulText.2 (List.mem_cons_of_mem _ member))
                  (by simp at enough; omega) (front ++ (line ++ [e]))
                simpa [Nat.add_assoc] using next
      · have empty : text = [] := by
          rw [List.length_append] at within
          exact List.eq_nil_of_length_eq_zero (by omega)
        rw [linevalueLoop, if_neg within, empty]
        rfl

/-- The search reads no byte behind the NUL, and the first line with the key determines what it
returns. -/
theorem cdpReturnLinevalueAt_eq (buf : Str) (terminated : NUL ∉ buf) (nonempty : key ≠ [])
    (noNul : NUL ∉ key) (one : OneLine key)
    : cdpReturnLinevalueAt buf key
      = some (((headerLines buf).find? (keyLine key)).bind (lineValue key)) := by
  have plain := LineKey.of_oneLine nonempty one
  rw [← linevalue_headerLines plain]
  exact linevalueLoop_eq plain noNul terminated (Nat.lt_succ_self _) []

/-- The name of the second line is shorter than the key, and the third line has a TAB behind the key. -/
theorem linevalueAt_tab
    : cdpReturnLinevalueAt "x\r\nFro\nFROM:\ta b\nfrom: c".toList "From:".toList
      = some (some "a b".toList) := by
  rw [cdpReturnLinevalueAt_eq _ (by decide) (by decide) (by decide) (by decide)]
  decide

end Reading

end WendzelNNTPd
