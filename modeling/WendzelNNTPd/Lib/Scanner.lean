import Mathlib.Data.List.Basic

/-! Scanners. A rule says for a text how much of its beginning it takes and which token that is, if
it is one; the scanner applies it again and again to what is left.
-/

namespace Scanner

variable {α β : Type} (rule : List α → Nat × Option β)

/-- The tokens of a text; `skip` places of it belong to the last match. -/
def scan (skip : Nat) : List α → List β
  | [] => []
  | c :: cs =>
      match skip with
      | skip + 1 => scan skip cs
      | 0 => (rule (c :: cs)).2.toList ++ scan ((rule (c :: cs)).1 - 1) cs

/-- The rule takes the piece when the rest is behind it. -/
structure Takes (piece rest : List α) (token : Option β) : Prop where
  nonempty : piece ≠ []
  rule : rule (piece ++ rest) = (piece.length, token)

/-- The text falls into pieces that the rule takes, and these are their tokens. -/
inductive Reads : List α → List β → Prop
  | nil : Reads [] []
  | piece {piece rest : List α} {token : Option β} {tokens : List β}
      (takes : Takes rule piece rest token) (later : Reads rest tokens)
      : Reads (piece ++ rest) (token.toList ++ tokens)

variable {rule}

/-- The places of a match are passed over. -/
theorem scan_skip (passed rest : List α)
    : scan rule passed.length (passed ++ rest) = scan rule 0 rest := by
  induction passed with
  | nil => rfl
  | cons c cs ih => exact ih

theorem Takes.scan {piece rest : List α} {token : Option β} (takes : Takes rule piece rest token)
    : scan rule 0 (piece ++ rest) = token.toList ++ scan rule 0 rest := by
  have taken := takes.rule
  cases piece with
  | nil => exact absurd rfl takes.nonempty
  | cons c cs =>
      rw [List.cons_append] at taken ⊢
      rw [Scanner.scan, taken]
      exact congrArg (token.toList ++ ·) (scan_skip cs rest)

/-- Induction on the pieces. -/
theorem Reads.scan {text : List α} {tokens : List β} (reads : Reads rule text tokens)
    : scan rule 0 text = tokens := by
  induction reads with
  | nil => rfl
  | piece takes _ ih => rw [takes.scan, ih]

theorem Takes.reads {piece rest : List α} {tokens : List β} {token : β}
    (takes : Takes rule piece rest (some token)) (later : Reads rule rest tokens)
    : Reads rule (piece ++ rest) (token :: tokens) :=
  .piece takes later

/-- Every token stands somewhere in the text, where the rule has found it.
Witness: induction on the text; within a match there is no token.
-/
theorem mem_scan {text : List α} {skip : Nat} {token : β} (member : token ∈ scan rule skip text)
    : ∃ rest, (rule rest).2 = some token := by
  induction text generalizing skip with
  | nil => cases member
  | cons c cs ih =>
      cases skip with
      | succ skip => exact ih member
      | zero =>
          rcases List.mem_append.mp member with here | later
          · exact ⟨c :: cs, Option.mem_toList.mp here⟩
          · exact ih later

end Scanner
