import WendzelNNTPd.Lib.Words
import WendzelNNTPd.Server.Text
import WendzelNNTPd.Database.Escaping

/-! The arguments of a command line. `get_slinearg` skips blanks and CRs and ends an argument at
either of them, but jumps over an argument that is not wanted to the next blank, so that it does
not count what stands behind a CR in between.
-/

namespace WendzelNNTPd

open CString

def isBlank (c : Char) : Bool := c == ' '

def isSeparator (c : Char) : Bool := c == ' ' || c == '\r'

/-- The words of a command line: its maximal runs without blank and CR. -/
def arguments (cmdstring : Str) : List Str := Words.words isSeparator cmdstring

/-- The words of each piece between two blanks, pieces without a word left out. -/
def blankGroups (cmdstring : Str) : List (List Str) :=
  Words.groups isSeparator isBlank cmdstring

/-- The number of words that `num` jumps pass. -/
def wordsPassed (cmdstring : Str) (num : Nat) : Nat :=
  ((blankGroups cmdstring).take num).flatten.length

/-- When the jumps do not lead to another word: there are at most `num` words, or each of the
first `num` pieces with a word holds only one, or the jumps pass more than `num` words and the
word that follows is spelled like word `num`. -/
def ArgumentReached (cmdstring : Str) (num : Nat) : Prop :=
  (arguments cmdstring).length ≤ num
  ∨ (∀ group ∈ (blankGroups cmdstring).take num, group.length = 1)
  ∨ num < wordsPassed cmdstring num
    ∧ (arguments cmdstring)[wordsPassed cmdstring num]? = (arguments cmdstring)[num]?

instance (cmdstring : Str) (num : Nat) : Decidable (ArgumentReached cmdstring num) :=
  inferInstanceAs (Decidable (_ ∨ _ ∨ _))

theorem isSeparator_iff {c : Char} : isSeparator c = true ↔ c = ' ' ∨ c = '\r' := by
  simp [isSeparator]

theorem isBlank_iff {c : Char} : isBlank c = true ↔ c = ' ' := by
  simp [isBlank]

theorem isSeparator_of_isBlank (c : Char) (blank : isBlank c = true) : isSeparator c = true :=
  isSeparator_iff.mpr (Or.inl (isBlank_iff.mp blank))

theorem flatten_blankGroups (cmdstring : Str)
    : (blankGroups cmdstring).flatten = arguments cmdstring :=
  Words.flatten_groups isSeparator_of_isBlank cmdstring

/-- The outer loop takes the first word of a group, and a jump leaves the rest of its group out.
Witness: induction on the text; the jump stands in the first piece, the loop before all of them.
-/
theorem scan_jump_groups (cmdstring : Str) (num : Nat)
    : getSlinearg.scan cmdstring num = (blankGroups cmdstring)[num]?.bind List.head?
      ∧ ∀ first rest, cmdstring.splitOnP isBlank = first :: rest →
        getSlinearg.jump cmdstring num
          = ((rest.map arguments).filter (fun group => !group.isEmpty))[num]?.bind List.head? := by
  induction cmdstring generalizing num with
  | nil =>
      refine ⟨rfl, fun first rest split => ?_⟩
      cases split
      rfl
  | cons c cs ih =>
      obtain ⟨piece, pieces, split⟩ := Words.exists_splitOnP isBlank cs
      constructor
      · by_cases separates : c = ' ' ∨ c = '\r'
        · have skipped : getSlinearg.scan (c :: cs) num = getSlinearg.scan cs num := by
            cases num with
            | zero => rw [getSlinearg.scan, if_pos separates]
            | succ num => rw [getSlinearg.scan, if_pos separates]
          rw [skipped, (ih num).1]
          by_cases blank : isBlank c = true
          · rw [blankGroups, blankGroups, Words.groups_cons_of_cut blank]
          · rw [blankGroups, blankGroups,
              Words.groups_cons_of_sep blank (isSeparator_iff.mpr separates)]
        · obtain ⟨group, begins, groups⟩ :=
            Words.groups_cons_of_plain isSeparator_of_isBlank (mt isSeparator_iff.mp separates) split
          rw [blankGroups, groups]
          cases num with
          | zero =>
              rw [getSlinearg.scan, if_neg separates, List.getElem?_cons_zero, Option.bind_some,
                begins]
              simp [isSeparator, Bool.not_or, bne]
          | succ num =>
              rw [getSlinearg.scan, if_neg separates, List.getElem?_cons_succ]
              exact (ih num).2 piece pieces split
      · intro first rest whole
        rw [List.splitOnP_cons_eq_if_modifyHead, split] at whole
        rw [getSlinearg.jump]
        by_cases blank : c = ' '
        · rw [if_pos (isBlank_iff.mpr blank)] at whole
          cases whole
          rw [if_pos blank, (ih num).1, blankGroups, Words.groups, split]
          rfl
        · rw [if_neg (mt isBlank_iff.mp blank), List.modifyHead_cons] at whole
          cases whole
          rw [if_neg blank]
          exact (ih num).2 piece pieces split

/-- The word that is returned, by its place among all words. -/
theorem getSlinearg_eq (cmdstring : Str) (num : Nat)
    : getSlinearg cmdstring num = (arguments cmdstring)[wordsPassed cmdstring num]? := by
  rw [getSlinearg, (scan_jump_groups cmdstring num).1, wordsPassed, ← flatten_blankGroups]
  exact Words.head?_getElem?_eq_flatten (fun _ member => Words.ne_nil_of_mem_groups member) num

/-- Word `num` is returned, or NULL if there are at most `num` words, exactly if the jumps do not
lead to another word.
Witness: a jump passes one word at least, and more only where a piece holds more than one.
-/
theorem getSlinearg_right_iff (cmdstring : Str) (num : Nat)
    : getSlinearg cmdstring num = (arguments cmdstring)[num]?
      ↔ ArgumentReached cmdstring num := by
  have nonempty : ∀ group ∈ (blankGroups cmdstring).take num, group ≠ [] :=
    fun _ member => Words.ne_nil_of_mem_groups (List.mem_of_mem_take member)
  obtain ⟨few, single⟩ := Words.length_flatten_parts nonempty
  have all : (blankGroups cmdstring).length ≤ (blankGroups cmdstring).flatten.length :=
    (Words.length_flatten_parts (fun _ member => Words.ne_nil_of_mem_groups member)).1
  rw [List.length_take] at few single
  rw [flatten_blankGroups] at all
  -- without a piece for each jump the jumps pass all words
  have passesAll (short : (blankGroups cmdstring).length ≤ num)
      : wordsPassed cmdstring num = (arguments cmdstring).length := by
    rw [wordsPassed, List.take_of_length_le short, flatten_blankGroups]
  rw [getSlinearg_eq, ArgumentReached, ← single, ← wordsPassed]
  rw [← wordsPassed] at few
  constructor
  · intro same
    by_cases short : (arguments cmdstring).length ≤ num
    · exact Or.inl short
    · by_cases pieces : (blankGroups cmdstring).length ≤ num
      · have passed := passesAll pieces
        exact Or.inr (Or.inr ⟨by omega, same⟩)
      · by_cases more : num < wordsPassed cmdstring num
        · exact Or.inr (Or.inr ⟨more, same⟩)
        · exact Or.inr (Or.inl (by omega))
  · rintro (short | singles | ⟨-, same⟩)
    · rw [passesAll (by omega), List.getElem?_eq_none (Nat.le_refl _), List.getElem?_eq_none short]
    · by_cases pieces : (blankGroups cmdstring).length ≤ num
      · have passed := passesAll pieces
        rw [List.getElem?_eq_none (by omega), List.getElem?_eq_none (by omega)]
      · rw [singles, Nat.min_eq_left (by omega)]
    · exact same

/-- A CR within the second piece of an XHDR line: the range is not found. -/
theorem argument_behind_cr_missed
    : dbSecureSqlbuffer .sqlite3 (stripCr "XHDR from\r7 9\r\n".toList) = "XHDR from\r7 9".toList
      ∧ arguments "XHDR from\r7 9".toList
        = ["XHDR".toList, "from".toList, "7".toList, "9".toList]
      ∧ getSlinearg "XHDR from\r7 9".toList 2 = some "9".toList
      ∧ getSlinearg "XHDR from\r7 9".toList 2 ≠ (arguments "XHDR from\r7 9".toList)[2]?
      ∧ getSlinearg "XHDR from\r7".toList 2 = none
      ∧ (arguments "XHDR from\r7".toList)[2]? = some "7".toList := by
  decide

end WendzelNNTPd
