import Mathlib.Computability.Language
import WendzelNNTPd.Lib.CString

/-! Extended regular expressions matched by derivatives, with `^` in newline mode, and the
languages that the derivatives decide. -/

open CString

/-- Regular expressions over bytes; a bracket expression is the set of its bytes. -/
inductive Ere
  | fail
  | eps
  | oneOf (set : Char → Bool)
  | seq (first second : Ere)
  | alt (left right : Ere)
  | star (inner : Ere)

namespace Ere

def plus (r : Ere) : Ere := .seq r (.star r)

def char (c : Char) : Ere := .oneOf (· == c)

/-- The concatenation of single bytes. -/
def literal : Str → Ere
  | [] => .eps
  | c :: cs => .seq (char c) (literal cs)

/-- A word in which each letter may be in either case: `[nN][eE][wW]`. -/
def caseWord : Str → Ere
  | [] => .eps
  | c :: cs => .seq (.oneOf (fun d => d == c.toLower || d == c.toUpper)) (caseWord cs)

def seqAll : List Ere → Ere
  | [] => .eps
  | r :: rs => .seq r (seqAll rs)

def nullable : Ere → Bool
  | .fail => false
  | .eps => true
  | .oneOf _ => false
  | .seq first second => first.nullable && second.nullable
  | .alt left right => left.nullable || right.nullable
  | .star _ => true

/-- The expression for what may follow once the byte `c` has been read. -/
def deriv (c : Char) : Ere → Ere
  | .fail => .fail
  | .eps => .fail
  | .oneOf set => if set c then .eps else .fail
  | .seq first second =>
      if first.nullable then .alt (.seq (first.deriv c) second) (second.deriv c)
      else .seq (first.deriv c) second
  | .alt left right => .alt (left.deriv c) (right.deriv c)
  | .star inner => .seq (inner.deriv c) (.star inner)

/-- Some prefix of the text matches. -/
def matchesPrefix (r : Ere) : Str → Bool
  | [] => r.nullable
  | c :: cs => r.nullable || (r.deriv c).matchesPrefix cs

/-- `regexec` of `^r` with `REG_NEWLINE`: a match may start at the beginning of the text
or just behind a newline. -/
def matchesLineStart (r : Ere) : Str → Bool
  | [] => r.matchesPrefix []
  | text => r.matchesPrefix text || behindNewline r text
where
  behindNewline (r : Ere) : Str → Bool
    | [] => false
    | c :: cs => (c == '\n' && r.matchesPrefix cs) || behindNewline r cs

-----------------------------------------------------------------------------------------
-- Languages
-----------------------------------------------------------------------------------------

/-- The words of an expression. -/
def language : Ere → Language Char
  | .fail => 0
  | .eps => 1
  | .oneOf set => { w | ∃ c, set c = true ∧ w = [c] }
  | .seq first second => first.language * second.language
  | .alt left right => left.language + right.language
  | .star inner => KStar.kstar inner.language

theorem mem_oneOf {set : Char → Bool} {w : Str}
    : w ∈ (oneOf set).language ↔ ∃ c, set c = true ∧ w = [c] :=
  Iff.rfl

theorem mem_seq {first second : Ere} {w : Str}
    : w ∈ (seq first second).language
      ↔ ∃ u ∈ first.language, ∃ v ∈ second.language, u ++ v = w :=
  Iff.rfl

theorem mem_alt {left right : Ere} {w : Str}
    : w ∈ (alt left right).language ↔ w ∈ left.language ∨ w ∈ right.language :=
  Iff.rfl

theorem mem_star {inner : Ere} {w : Str}
    : w ∈ (star inner).language ↔ ∃ parts : List Str, w = parts.flatten
      ∧ ∀ part ∈ parts, part ∈ inner.language :=
  Language.mem_kstar

/-- A repetition that is not empty starts with a part that is not empty. -/
theorem cons_mem_star {inner : Ere} {c : Char} {w : Str}
    : c :: w ∈ (star inner).language
      ↔ ∃ u v, u ++ v = w ∧ c :: u ∈ inner.language ∧ v ∈ (star inner).language := by
  constructor
  · intro member
    obtain ⟨parts, whole, all⟩ := mem_star.mp member
    induction parts with
    | nil => cases whole
    | cons part parts ih =>
        cases part with
        | nil => exact ih whole (fun other there => all other (List.mem_cons_of_mem _ there))
        | cons d u =>
            obtain ⟨rfl, rest⟩ := List.cons.inj whole
            refine ⟨u, parts.flatten, rest.symm, all _ List.mem_cons_self, ?_⟩
            exact mem_star.mpr
              ⟨parts, rfl, fun other there => all other (List.mem_cons_of_mem _ there)⟩
  · rintro ⟨u, v, rfl, first, rest⟩
    obtain ⟨parts, rfl, all⟩ := mem_star.mp rest
    refine mem_star.mpr ⟨(c :: u) :: parts, rfl, fun part there => ?_⟩
    rcases List.mem_cons.mp there with rfl | later
    · exact first
    · exact all part later

theorem nullable_iff {r : Ere} : r.nullable = true ↔ [] ∈ r.language := by
  induction r with
  | fail => simp [nullable, language]
  | eps => simp [nullable, language]
  | oneOf set => simp [nullable, mem_oneOf]
  | seq first second ihFirst ihSecond =>
      rw [nullable, Bool.and_eq_true, ihFirst, ihSecond, mem_seq]
      simp
  | alt left right ihLeft ihRight =>
      rw [nullable, Bool.or_eq_true, ihLeft, ihRight, mem_alt]
  | star inner ih => exact ⟨fun _ => Language.nil_mem_kstar _, fun _ => rfl⟩

/-- The derivative has the words of the expression that start with `c`, without their `c`.
Witness: induction on the expression; the first part of a sequence may be empty.
-/
theorem mem_deriv {r : Ere} {c : Char} {w : Str}
    : w ∈ (r.deriv c).language ↔ c :: w ∈ r.language := by
  induction r generalizing w with
  | fail => simp [deriv, language]
  | eps => simp [deriv, language]
  | oneOf set =>
      rw [deriv, mem_oneOf]
      by_cases inside : set c = true
      · rw [if_pos inside]
        simp [language, inside]
      · rw [if_neg inside]
        simp [language, inside]
  | alt left right ihLeft ihRight => rw [deriv, mem_alt, mem_alt, ihLeft, ihRight]
  | star inner ih =>
      rw [deriv, mem_seq, cons_mem_star]
      constructor
      · rintro ⟨u, first, v, rest, rfl⟩
        exact ⟨u, v, rfl, ih.mp first, rest⟩
      · rintro ⟨u, v, rfl, first, rest⟩
        exact ⟨u, ih.mpr first, v, rest, rfl⟩
  | seq first second ihFirst ihSecond =>
      have long : w ∈ (seq (first.deriv c) second).language
          ↔ ∃ u v, u ++ v = w ∧ c :: u ∈ first.language ∧ v ∈ second.language := by
        rw [mem_seq]
        constructor
        · rintro ⟨u, inFirst, v, inSecond, rfl⟩
          exact ⟨u, v, rfl, ihFirst.mp inFirst, inSecond⟩
        · rintro ⟨u, v, rfl, inFirst, inSecond⟩
          exact ⟨u, ihFirst.mpr inFirst, v, inSecond, rfl⟩
      have split : c :: w ∈ (seq first second).language
          ↔ (∃ u v, u ++ v = w ∧ c :: u ∈ first.language ∧ v ∈ second.language)
            ∨ ([] ∈ first.language ∧ c :: w ∈ second.language) := by
        rw [mem_seq]
        constructor
        · rintro ⟨u, inFirst, v, inSecond, whole⟩
          cases u with
          | nil =>
              rw [List.nil_append] at whole
              subst whole
              exact Or.inr ⟨inFirst, inSecond⟩
          | cons d u =>
              obtain ⟨rfl, rest⟩ := List.cons.inj whole
              exact Or.inl ⟨u, v, rest, inFirst, inSecond⟩
        · rintro (⟨u, v, rfl, inFirst, inSecond⟩ | ⟨empty, inSecond⟩)
          · exact ⟨c :: u, inFirst, v, inSecond, rfl⟩
          · exact ⟨[], empty, c :: w, inSecond, rfl⟩
      rw [deriv, split]
      by_cases empty : first.nullable = true
      · rw [if_pos empty, mem_alt, long, ihSecond]
        simp only [nullable_iff.mp empty, true_and]
      · have notEmpty : [] ∉ first.language := fun inside => empty (nullable_iff.mpr inside)
        rw [if_neg empty, long]
        simp only [notEmpty, false_and, or_false]

/-- Derivatives find the words at the beginning of a text. -/
theorem matchesPrefix_iff {r : Ere} {text : Str}
    : r.matchesPrefix text = true ↔ ∃ w ∈ r.language, w <+: text := by
  induction text generalizing r with
  | nil =>
      rw [matchesPrefix, nullable_iff]
      simp
  | cons c cs ih =>
      rw [matchesPrefix, Bool.or_eq_true, nullable_iff, ih]
      constructor
      · rintro (empty | ⟨w, member, starts⟩)
        · exact ⟨[], empty, List.nil_prefix⟩
        · exact ⟨c :: w, mem_deriv.mp member, (List.prefix_cons_inj c).mpr starts⟩
      · rintro ⟨w, member, starts⟩
        cases w with
        | nil => exact Or.inl member
        | cons d w =>
            obtain ⟨rfl, rest⟩ := List.cons_prefix_cons.mp starts
            exact Or.inr ⟨w, mem_deriv.mpr member, rest⟩

/-- A match starts at the beginning of the text or behind a newline. -/
theorem matchesLineStart_iff {r : Ere} {text : Str}
    : r.matchesLineStart text = true
      ↔ ∃ before rest, text = before ++ rest ∧ (before = [] ∨ ['\n'] <:+ before)
        ∧ r.matchesPrefix rest = true := by
  have behind (text : Str)
      : matchesLineStart.behindNewline r text = true
        ↔ ∃ before rest, text = before ++ '\n' :: rest ∧ r.matchesPrefix rest = true := by
    induction text with
    | nil => simp [matchesLineStart.behindNewline]
    | cons c cs ih =>
        rw [matchesLineStart.behindNewline, Bool.or_eq_true, Bool.and_eq_true, beq_iff_eq, ih]
        constructor
        · rintro (⟨rfl, here⟩ | ⟨before, rest, rfl, there⟩)
          · exact ⟨[], cs, rfl, here⟩
          · exact ⟨c :: before, rest, rfl, there⟩
        · rintro ⟨before, rest, whole, found⟩
          cases before with
          | nil =>
              obtain ⟨rfl, rfl⟩ := List.cons.inj whole
              exact Or.inl ⟨rfl, found⟩
          | cons d before =>
              obtain ⟨rfl, rfl⟩ := List.cons.inj whole
              exact Or.inr ⟨before, rest, rfl, found⟩
  have whole : r.matchesLineStart text = true
      ↔ r.matchesPrefix text = true ∨ matchesLineStart.behindNewline r text = true := by
    cases text with
    | nil => simp [matchesLineStart, matchesLineStart.behindNewline]
    | cons c cs => rw [matchesLineStart, Bool.or_eq_true]; simp
  rw [whole, behind]
  constructor
  · rintro (start | ⟨before, rest, rfl, found⟩)
    · exact ⟨[], text, rfl, Or.inl rfl, start⟩
    · exact ⟨before ++ ['\n'], rest, by simp, Or.inr (List.suffix_append _ _), found⟩
  · rintro ⟨before, rest, rfl, rfl | ⟨front, rfl⟩, found⟩
    · exact Or.inl found
    · exact Or.inr ⟨front, rest, by simp, found⟩

/-- A match starts in the first line of a text, at its beginning, or behind that line. -/
theorem matchesLineStart_line {r : Ere} {line rest : Str} (one : '\n' ∉ line)
    : r.matchesLineStart (line ++ '\n' :: rest) = true
      ↔ r.matchesPrefix (line ++ '\n' :: rest) = true ∨ r.matchesLineStart rest = true := by
  rw [matchesLineStart_iff, matchesLineStart_iff]
  constructor
  · rintro ⟨before, tail, whole, rfl | ⟨front, rfl⟩, hit⟩
    · rw [whole]
      exact Or.inl hit
    · rw [List.append_assoc, List.singleton_append] at whole
      refine Or.inr ?_
      -- the newline in front of the match is the one behind the line, or a later one
      rcases List.append_eq_append_iff.mp whole with ⟨more, rfl, ends⟩ | ⟨more, rfl, ends⟩
      · cases more with
        | nil =>
            obtain ⟨-, rfl⟩ := List.cons.inj ends
            exact ⟨[], rest, rfl, Or.inl rfl, hit⟩
        | cons c more =>
            obtain ⟨-, rfl⟩ := List.cons.inj ends
            exact ⟨more ++ ['\n'], tail, by simp, Or.inr (List.suffix_append _ _), hit⟩
      · cases more with
        | nil =>
            obtain ⟨-, rfl⟩ := List.cons.inj ends
            exact ⟨[], tail, rfl, Or.inl rfl, hit⟩
        | cons c more =>
            obtain ⟨rfl, -⟩ := List.cons.inj ends
            simp at one
  · rintro (start | ⟨before, tail, rfl, start, hit⟩)
    · exact ⟨[], _, rfl, Or.inl rfl, start⟩
    · refine ⟨line ++ '\n' :: before, tail, by simp, Or.inr ?_, hit⟩
      rcases start with rfl | ends
      · exact List.suffix_append _ _
      · exact ends.trans ((List.suffix_cons _ _).trans (List.suffix_append _ _))

/-- All bytes of the words of an expression satisfy `p`. -/
def Within (p : Char → Prop) : Ere → Prop
  | .fail => True
  | .eps => True
  | .oneOf set => ∀ c, set c = true → p c
  | .seq first second => first.Within p ∧ second.Within p
  | .alt left right => left.Within p ∧ right.Within p
  | .star inner => inner.Within p

theorem Within.of_mem {p : Char → Prop} {r : Ere} {w : Str} (within : r.Within p)
    (member : w ∈ r.language)
    : ∀ c ∈ w, p c := by
  induction r generalizing w with
  | fail => cases member
  | eps =>
      obtain rfl : w = [] := member
      simp
  | oneOf set =>
      obtain ⟨c, inside, rfl⟩ := mem_oneOf.mp member
      simpa using within c inside
  | seq first second ihFirst ihSecond =>
      obtain ⟨u, inFirst, v, inSecond, rfl⟩ := mem_seq.mp member
      intro c there
      rcases List.mem_append.mp there with inU | inV
      · exact ihFirst within.1 inFirst c inU
      · exact ihSecond within.2 inSecond c inV
  | alt left right ihLeft ihRight =>
      rcases mem_alt.mp member with inLeft | inRight
      · exact ihLeft within.1 inLeft
      · exact ihRight within.2 inRight
  | star inner ih =>
      obtain ⟨parts, rfl, all⟩ := mem_star.mp member
      intro c there
      obtain ⟨part, inParts, inside⟩ := List.mem_flatten.mp there
      exact ih within (all part inParts) c inside

theorem mem_eps {w : Str} : w ∈ eps.language ↔ w = [] := Iff.rfl

theorem mem_char {c : Char} {w : Str} : w ∈ (char c).language ↔ w = [c] := by
  rw [char, mem_oneOf]
  constructor
  · rintro ⟨d, same, rfl⟩
    rw [beq_iff_eq.mp same]
  · rintro rfl
    exact ⟨c, by simp, rfl⟩

/-- The repetition of a bracket expression are the texts over its bytes. -/
theorem mem_star_oneOf {set : Char → Bool} {w : Str}
    : w ∈ (star (oneOf set)).language ↔ ∀ c ∈ w, set c = true := by
  induction w with
  | nil => exact iff_of_true (Language.nil_mem_kstar _) (by simp)
  | cons c w ih =>
      rw [cons_mem_star, List.forall_mem_cons, ← ih]
      constructor
      · rintro ⟨u, v, rfl, first, rest⟩
        obtain ⟨d, inside, single⟩ := mem_oneOf.mp first
        obtain ⟨rfl, rfl⟩ := List.cons.inj single
        exact ⟨inside, rest⟩
      · rintro ⟨inside, rest⟩
        exact ⟨[], w, rfl, mem_oneOf.mpr ⟨c, inside, rfl⟩, rest⟩

theorem mem_plus_oneOf {set : Char → Bool} {w : Str}
    : w ∈ (oneOf set).plus.language ↔ w ≠ [] ∧ ∀ c ∈ w, set c = true := by
  rw [plus, mem_seq]
  constructor
  · rintro ⟨u, first, v, rest, rfl⟩
    obtain ⟨c, inside, rfl⟩ := mem_oneOf.mp first
    refine ⟨by simp, ?_⟩
    rw [List.singleton_append, List.forall_mem_cons]
    exact ⟨inside, mem_star_oneOf.mp rest⟩
  · rintro ⟨nonempty, all⟩
    cases w with
    | nil => exact absurd rfl nonempty
    | cons c w =>
        obtain ⟨inside, rest⟩ := List.forall_mem_cons.mp all
        exact ⟨[c], mem_oneOf.mpr ⟨c, inside, rfl⟩, w, mem_star_oneOf.mpr rest, rfl⟩

theorem mem_literal {text w : Str} : w ∈ (literal text).language ↔ w = text := by
  induction text generalizing w with
  | nil => rfl
  | cons c cs ih =>
      rw [literal, mem_seq]
      constructor
      · rintro ⟨u, inFirst, v, inSecond, rfl⟩
        obtain ⟨d, same, rfl⟩ := mem_oneOf.mp inFirst
        rw [ih.mp inSecond, beq_iff_eq.mp same]
        rfl
      · rintro rfl
        exact ⟨[c], mem_oneOf.mpr ⟨c, by simp, rfl⟩, cs, ih.mpr rfl, rfl⟩

theorem mem_caseWord {word w : Str}
    : w ∈ (caseWord word).language ↔ w.map Char.toLower = word.map Char.toLower := by
  induction word generalizing w with
  | nil =>
      rw [List.map_nil, List.map_eq_nil_iff]
      rfl
  | cons c cs ih =>
      rw [caseWord, mem_seq]
      constructor
      · rintro ⟨u, inFirst, v, inSecond, rfl⟩
        obtain ⟨d, same, rfl⟩ := mem_oneOf.mp inFirst
        have letter : d.toLower = c.toLower := toLower_eq_iff.mpr (by simpa using same)
        rw [List.cons_append, List.nil_append, List.map_cons, List.map_cons, letter,
          ih.mp inSecond]
      · intro same
        cases w with
        | nil => cases same
        | cons d w =>
            obtain ⟨letter, rest⟩ := List.cons.inj same
            have inside := toLower_eq_iff.mp letter
            exact ⟨[d], mem_oneOf.mpr ⟨d, by simpa using inside, rfl⟩, w, ih.mpr rest, rfl⟩

end Ere
