import Mathlib.Data.List.Basic
import Mathlib.Data.List.TakeWhile
import Mathlib.Algebra.Order.Ring.Int

/-! Byte strings and the functions of the C string library.
A byte is written as a character; a C string is the part of a buffer before its first NUL,
and a buffer that was cleared on allocation reads NUL wherever nothing was stored.
-/

namespace CString

abbrev Str := List Char

instance : LawfulBEq Str := inferInstance

def NUL : Char := '\x00'

/-- The C string that starts at the beginning of a buffer. -/
def cstr (buf : Str) : Str := buf.takeWhile (· != NUL)

/-- The byte at an index of a buffer whose unwritten part is cleared. -/
def byteAt (buf : Str) (i : Nat) : Char := buf[i]?.getD NUL

/-- `strstr`, as the index of the first occurrence. -/
def strstr (needle : Str) : Str → Option Nat
  | [] => if needle.isEmpty then some 0 else none
  | c :: cs => if needle.isPrefixOf (c :: cs) then some 0 else (strstr needle cs).map (· + 1)

/-- `strncasecmp(s, key, strlen(key)) == 0` -/
def caseEqPrefix : Str → Str → Bool
  | [], _ => true
  | _ :: _, [] => false
  | k :: ks, c :: cs => k.toLower == c.toLower && caseEqPrefix ks cs

/-- The tokens that successive calls of `strtok_r` return. -/
def strtok (sep : Char) (s : Str) : List Str := (s.splitOn sep).filter (· != [])

/-- `isalnum` in the C locale. -/
def isalnum (c : Char) : Bool := c.isAlphanum

def isspace (c : Char) : Bool := c = ' ' || ('\t' ≤ c && c ≤ '\r')

/-- The decimal value of the leading digits. -/
def digitsValue (s : Str) : Nat :=
  (s.takeWhile Char.isDigit).foldl (fun n c => 10 * n + (c.toNat - '0'.toNat)) 0

/-- `strtol(s, NULL, 10)` with 64-bit saturation, which `atol` returns. -/
def atol (s : Str) : Int :=
  match s.dropWhile isspace with
  | '-' :: rest => max (-(digitsValue rest : Int)) (-(2 ^ 63))
  | '+' :: rest => min (digitsValue rest) (2 ^ 63 - 1)
  | rest => min (digitsValue rest) (2 ^ 63 - 1)

/-- `atoi` converted to `u_int32_t`: the low 32 bits of `strtol`. -/
def atoiU32 (s : Str) : Nat := (atol s % 2 ^ 32).toNat

/-- `%i` of an unsigned 32-bit value: its two's complement reading. -/
def asInt32 (n : Nat) : Int := if n % 2 ^ 32 < 2 ^ 31 then (n % 2 ^ 32 : Nat) else (n % 2 ^ 32 : Nat) - 2 ^ 32

/-- `%u` and `%lld` of a non-negative value. -/
def dec (n : Nat) : Str := Nat.toDigits 10 n

/-- `%i` and `%lli`. -/
def decInt (n : Int) : Str := if n < 0 then '-' :: dec n.natAbs else dec n.natAbs

/-- The text `snprintf` leaves in a buffer of the given size. -/
def snprintf (size : Nat) (text : Str) : Str := text.take (size - 1)

-----------------------------------------------------------------------------------------
-- Facts
-----------------------------------------------------------------------------------------

/-- A string without NUL is its own C string. -/
theorem cstr_eq_self {buf : Str} (h : NUL ∉ buf) : cstr buf = buf := by
  apply List.takeWhile_eq_self_iff.mpr
  intro c member
  simpa using fun same : c = NUL => h (same ▸ member)

/-- The index that `strstr` returns starts an occurrence.
Witness: induction on the text; a later hit is shifted with the text.
-/
theorem strstr_some_prefix {needle text : Str} {i : Nat} (h : strstr needle text = some i)
    : needle <+: text.drop i := by
  induction text generalizing i with
  | nil =>
      simp only [strstr] at h
      split at h
      · rename_i empty
        simp [List.isEmpty_iff.mp empty]
      · simp at h
  | cons c cs ih =>
      simp only [strstr] at h
      split at h
      · rename_i hit
        obtain rfl : 0 = i := Option.some.inj h
        simpa using hit
      · obtain ⟨j, found, rfl⟩ := Option.map_eq_some_iff.mp h
        simpa using ih found

/-- An occurrence is found, at its own index or before it. -/
theorem strstr_le_of_prefix {needle text : Str} {i : Nat} (h : needle <+: text.drop i)
    (bound : i ≤ text.length)
    : ∃ j, strstr needle text = some j ∧ j ≤ i := by
  induction text generalizing i with
  | nil =>
      obtain rfl : i = 0 := by simpa using bound
      have : needle = [] := by simpa using h
      exact ⟨0, by simp [strstr, this], Nat.le_refl 0⟩
  | cons c cs ih =>
      by_cases hit : needle.isPrefixOf (c :: cs)
      · exact ⟨0, by simp only [strstr, hit, if_true], Nat.zero_le _⟩
      · cases i with
        | zero => exact absurd (by simpa using h) hit
        | succ i =>
            obtain ⟨j, found, le⟩ := ih (by simpa using h) (by simpa using bound)
            exact ⟨j + 1, by simp only [strstr, hit, found]; rfl, by omega⟩

/-- An escaping that lengthens what it changes does not shorten a string. -/
theorem length_le_flatMap {f : Char → Str} (longer : ∀ c, f c = [c] ∨ 2 ≤ (f c).length)
    (s : Str)
    : s.length ≤ (s.flatMap f).length := by
  induction s with
  | nil => simp
  | cons c cs ih =>
      rcases longer c with same | long
      · simp only [List.flatMap_cons, same, List.length_append, List.length_cons,
          List.length_nil]
        omega
      · simp only [List.flatMap_cons, List.length_append, List.length_cons]
        omega

/-- An escaping that lengthens what it changes leaves a string alone only if it leaves every
byte alone.
Witness: induction on the string; a changed byte makes the result too long.
-/
theorem flatMap_eq_self_iff {f : Char → Str} (longer : ∀ c, f c = [c] ∨ 2 ≤ (f c).length)
    {s : Str}
    : s.flatMap f = s ↔ ∀ c ∈ s, f c = [c] := by
  induction s with
  | nil => simp
  | cons c cs ih =>
      rcases longer c with same | long
      · simp [List.flatMap_cons, same, ih]
      · constructor
        · intro unchanged
          have lengths := congrArg List.length unchanged
          have rest := length_le_flatMap longer cs
          simp only [List.flatMap_cons, List.length_append, List.length_cons] at lengths
          omega
        · intro unchanged
          have bytes := congrArg List.length (unchanged c (by simp))
          simp only [List.length_singleton] at bytes
          omega

/-- Decimal notation is injective.
Witness: reading the digits back gives the number.
-/
theorem dec_injective : Function.Injective dec := by
  intro m n same
  have read := congrArg (fun ds => Nat.ofDigitChars 10 ds 0) same
  simpa only [dec, Nat.ofDigitChars_ten_toDigits] using read

theorem isDigit_of_mem_dec {n : Nat} {c : Char} (h : c ∈ dec n) : c.isDigit :=
  Nat.isDigit_of_mem_toDigits (by decide) (by decide) h

/-- No token contains the separator. -/
theorem notMem_of_mem_strtok {sep : Char} {text token : Str} (member : token ∈ strtok sep text)
    : sep ∉ token := by
  have parts : ∀ part ∈ text.splitOn sep, sep ∉ part := by
    unfold List.splitOn
    clear member
    induction text with
    | nil => simp
    | cons c cs ih =>
        intro part found
        rw [List.splitOnP_cons_eq_if_modifyHead] at found
        split at found
        · rcases List.mem_cons.mp found with rfl | later
          · simp
          · exact ih part later
        · rename_i other
          cases rest : List.splitOnP (fun d => d == sep) cs with
          | nil => exact absurd rest (List.splitOnP_ne_nil _ _)
          | cons first more =>
              rw [rest, List.modifyHead_cons] at found
              rw [rest] at ih
              rcases List.mem_cons.mp found with rfl | later
              · rw [List.mem_cons, not_or]
                exact ⟨fun same => other (beq_iff_eq.mpr same.symm), ih first (by simp)⟩
              · exact ih part (List.mem_cons_of_mem first later)
  exact parts token (List.mem_filter.mp member).1

/-- A text without the separator is its only token. -/
theorem strtok_of_notMem {sep : Char} {text : Str} (absent : sep ∉ text) (some : text ≠ [])
    : strtok sep text = [text] := by
  have whole : text.splitOn sep = [text] := by
    refine List.splitOnP_eq_singleton (fun c member => ?_)
    exact beq_eq_false_iff_ne.mpr (fun same => absent (same ▸ member))
  simp [strtok, whole, some]

theorem caseEqPrefix_trans {key longer text : Str} (first : caseEqPrefix key longer = true)
    (second : caseEqPrefix longer text = true)
    : caseEqPrefix key text = true := by
  induction key generalizing longer text with
  | nil => rfl
  | cons k ks ih =>
      cases longer with
      | nil => cases first
      | cons l ls =>
          cases text with
          | nil => cases second
          | cons c cs =>
              simp only [caseEqPrefix, Bool.and_eq_true, beq_iff_eq] at first second ⊢
              exact ⟨first.1.trans second.1, ih first.2 second.2⟩

/-- A key is looked for within its own length. -/
theorem caseEqPrefix_append {key text : Str} (long : key.length ≤ text.length) (rest : Str)
    : caseEqPrefix key (text ++ rest) = caseEqPrefix key text := by
  induction key generalizing text with
  | nil => rfl
  | cons k ks ih =>
      cases text with
      | nil => cases long
      | cons c cs =>
          rw [List.cons_append, caseEqPrefix, caseEqPrefix, ih (Nat.le_of_succ_le_succ long)]

/-- Of two keys at the beginning of one text, one is the beginning of the other. -/
theorem caseEqPrefix_comparable {key key' text : Str} (first : caseEqPrefix key text = true)
    (second : caseEqPrefix key' text = true)
    : caseEqPrefix key key' = true ∨ caseEqPrefix key' key = true := by
  induction text generalizing key key' with
  | nil =>
      cases key with
      | nil => exact Or.inl rfl
      | cons k ks => cases first
  | cons c cs ih =>
      cases key with
      | nil => exact Or.inl rfl
      | cons k ks =>
          cases key' with
          | nil => exact Or.inr rfl
          | cons k' ks' =>
              simp only [caseEqPrefix, Bool.and_eq_true, beq_iff_eq] at first second ⊢
              rcases ih first.2 second.2 with left | right
              · exact Or.inl ⟨first.1.trans second.1.symm, left⟩
              · exact Or.inr ⟨second.1.trans first.1.symm, right⟩

/-- A text that begins with a key begins with every part of it from its first byte on. -/
theorem caseEqPrefix_take {key text : Str} (begins : caseEqPrefix key text = true) (n : Nat)
    : caseEqPrefix (key.take n) text = true := by
  induction n generalizing key text with
  | zero => rfl
  | succ n ih =>
      cases key with
      | nil => rfl
      | cons k ks =>
          cases text with
          | nil => exact begins
          | cons c cs =>
              simp only [List.take_succ_cons, caseEqPrefix, Bool.and_eq_true] at begins ⊢
              exact ⟨begins.1, ih begins.2⟩

/-- A text that begins with one key begins with no key that is apart from it. -/
theorem caseEqPrefix_apart {key other text : Str} (begins : caseEqPrefix key text = true)
    (left : caseEqPrefix key other = false) (right : caseEqPrefix other key = false)
    : caseEqPrefix other text = false := by
  by_contra both
  rcases caseEqPrefix_comparable begins (by simpa using both) with sub | sub
  · rw [left] at sub
    cases sub
  · rw [right] at sub
    cases sub

theorem toNat_toLower (c : Char)
    : c.toLower.toNat = if 65 ≤ c.toNat ∧ c.toNat ≤ 90 then c.toNat + 32 else c.toNat := by
  unfold Char.toLower
  split
  · rename_i upper
    have range : 65 ≤ c.toNat ∧ c.toNat ≤ 90 := upper
    have sum : (c.val + ('a'.val - 'A'.val)).toNat = (c.toNat + 32) % 2 ^ 32 := UInt32.toNat_add _ _
    rw [if_pos range]
    refine sum.trans (Nat.mod_eq_of_lt ?_)
    omega
  · rename_i other
    exact (if_neg other).symm

theorem toNat_toUpper (c : Char)
    : c.toUpper.toNat = if 97 ≤ c.toNat ∧ c.toNat ≤ 122 then c.toNat - 32 else c.toNat := by
  unfold Char.toUpper
  split
  · rename_i lower
    have range : 97 ≤ c.toNat ∧ c.toNat ≤ 122 := lower
    have sum : (c.val + ('A'.val - 'a'.val)).toNat = (c.toNat + 4294967264) % 2 ^ 32 :=
      UInt32.toNat_add _ _
    rw [if_pos range]
    refine sum.trans ?_
    omega
  · rename_i other
    exact (if_neg other).symm

/-- The two bytes that stand for one letter. -/
theorem toLower_eq_iff {c d : Char} : d.toLower = c.toLower ↔ d = c.toLower ∨ d = c.toUpper := by
  simp only [← Char.toNat_inj, toNat_toLower, toNat_toUpper]
  split <;> split <;> split <;> omega

theorem isDigit_iff_range {c : Char} : c.isDigit = true ↔ 48 ≤ c.toNat ∧ c.toNat ≤ 57 := by
  simp only [Char.isDigit, Bool.and_eq_true, decide_eq_true_eq]
  exact Iff.rfl

/-- The digits are read up to a byte that is none. -/
theorem digitsValue_append {digits rest : Str} (all : ∀ c ∈ digits, c.isDigit = true)
    (ends : ∀ c, rest.head? = some c → c.isDigit = false)
    : digitsValue (digits ++ rest) = digitsValue digits := by
  have stops : rest.takeWhile Char.isDigit = [] := by
    cases rest with
    | nil => rfl
    | cons c rest => simp [ends c rfl]
  have whole : digits.takeWhile Char.isDigit = digits := List.takeWhile_eq_self_iff.mpr all
  unfold digitsValue
  rw [List.takeWhile_append_of_pos all, stops, List.append_nil, whole]

/-- A number starts with its digits. -/
theorem atol_digits {digits rest : Str} (nonempty : digits ≠ [])
    (all : ∀ c ∈ digits, c.isDigit = true) (ends : ∀ c, rest.head? = some c → c.isDigit = false)
    : atol (digits ++ rest) = min (digitsValue digits : Int) (2 ^ 63 - 1) := by
  obtain ⟨first, others, is⟩ := List.exists_cons_of_ne_nil nonempty
  have digit : first.isDigit = true := all first (by rw [is]; exact List.mem_cons_self ..)
  have range := isDigit_iff_range.mp digit
  have notSpace : isspace first = false := by
    have notBlank : first ≠ ' ' := by
      rintro rfl
      exact absurd digit (by decide)
    have above : ¬first ≤ '\r' := by
      intro below
      have small : first.toNat ≤ 13 := below
      omega
    simp [isspace, notBlank, above]
  have kept : (digits ++ rest).dropWhile isspace = digits ++ rest := by
    rw [is]
    simp [notSpace]
  unfold atol
  rw [kept]
  split
  · rename_i sign
    rw [is] at sign
    cases sign
    exact absurd digit (by decide)
  · rename_i sign
    rw [is] at sign
    cases sign
    exact absurd digit (by decide)
  · rw [digitsValue_append all ends]

end CString
