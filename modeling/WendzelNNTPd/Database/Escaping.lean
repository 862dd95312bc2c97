import WendzelNNTPd.Lib.CString

/-! `db_secure_sqlbuffer`: the escaping each backend applies to text from a client. -/

namespace WendzelNNTPd

open CString

inductive Dbase
  | sqlite3
  | mysql
  | postgres
  deriving DecidableEq, Repr

/-- The conversion `%q` of `sqlite3_mprintf`: single quotes are doubled. -/
def sqlite3Q (s : Str) : Str := s.flatMap (fun c => if c = '\'' then ['\'', '\''] else [c])

/-- One byte of `mysql_real_escape_string`. -/
def mysqlEscapeChar (c : Char) : Str :=
  if c = NUL then ['\\', '0']
  else if c = '\n' then ['\\', 'n']
  else if c = '\r' then ['\\', 'r']
  else if c = '\\' then ['\\', '\\']
  else if c = '\'' then ['\\', '\'']
  else if c = '"' then ['\\', '"']
  else if c = '\x1a' then ['\\', 'Z']
  else [c]

def mysqlRealEscapeString (s : Str) : Str := s.flatMap mysqlEscapeChar

/-- PostgreSQL gets the text as a statement parameter, so it is only copied there. -/
def dbSecureSqlbuffer : Dbase → Str → Str
  | .sqlite3, s => sqlite3Q s
  | .mysql, s => mysqlRealEscapeString s
  | .postgres, s => s

/-- The bytes a backend's escaping changes. -/
def Dbase.escaped : Dbase → Str
  | .sqlite3 => ['\'']
  | .mysql => [NUL, '\n', '\r', '\\', '\'', '"', '\x1a']
  | .postgres => []

theorem mysqlEscapeChar_cases (c : Char)
    : c ∉ Dbase.mysql.escaped ∧ mysqlEscapeChar c = [c]
      ∨ c ∈ Dbase.mysql.escaped ∧ (mysqlEscapeChar c).length = 2 := by
  unfold mysqlEscapeChar Dbase.escaped
  repeat' split
  all_goals simp_all

/-- What a backend does to one byte. -/
def Dbase.escapeChar : Dbase → Char → Str
  | .sqlite3, c => if c = '\'' then ['\'', '\''] else [c]
  | .mysql, c => mysqlEscapeChar c
  | .postgres, c => [c]

theorem dbSecureSqlbuffer_eq_flatMap (dbase : Dbase) (s : Str)
    : dbSecureSqlbuffer dbase s = s.flatMap dbase.escapeChar := by
  cases dbase with
  | sqlite3 => rfl
  | mysql => rfl
  | postgres => exact (List.flatMap_pure_eq_map id s).trans (List.map_id s) |>.symm

theorem dbSecureSqlbuffer_append (dbase : Dbase) (a b : Str)
    : dbSecureSqlbuffer dbase (a ++ b) = dbSecureSqlbuffer dbase a ++ dbSecureSqlbuffer dbase b := by
  simp only [dbSecureSqlbuffer_eq_flatMap, List.flatMap_append]

theorem escapeChar_cases (dbase : Dbase) (c : Char)
    : c ∉ dbase.escaped ∧ dbase.escapeChar c = [c]
      ∨ c ∈ dbase.escaped ∧ (dbase.escapeChar c).length = 2 := by
  cases dbase with
  | sqlite3 =>
      simp only [Dbase.escaped, Dbase.escapeChar]
      split <;> simp_all
  | mysql => exact mysqlEscapeChar_cases c
  | postgres => simp [Dbase.escaped, Dbase.escapeChar]

theorem escapeChar_longer (dbase : Dbase) (c : Char)
    : dbase.escapeChar c = [c] ∨ 2 ≤ (dbase.escapeChar c).length := by
  rcases escapeChar_cases dbase c with ⟨-, same⟩ | ⟨-, long⟩
  · exact Or.inl same
  · exact Or.inr (by omega)

theorem dbSecureSqlbuffer_length_le (dbase : Dbase) (s : Str)
    : s.length ≤ (dbSecureSqlbuffer dbase s).length := by
  rw [dbSecureSqlbuffer_eq_flatMap]
  exact length_le_flatMap (escapeChar_longer dbase) s

/-- The escaping of a backend leaves exactly the strings without its special bytes alone. -/
theorem dbSecureSqlbuffer_eq_self_iff {dbase : Dbase} {s : Str}
    : dbSecureSqlbuffer dbase s = s ↔ ∀ c ∈ s, c ∉ dbase.escaped := by
  rw [dbSecureSqlbuffer_eq_flatMap, flatMap_eq_self_iff (escapeChar_longer dbase)]
  refine forall₂_congr (fun c _ => ?_)
  rcases escapeChar_cases dbase c with ⟨plain, same⟩ | ⟨special, long⟩
  · simp [plain, same]
  · refine ⟨fun same => ?_, fun plain => absurd special plain⟩
    rw [same] at long
    cases long

theorem sqlite3_unchanged_iff {s : Str} : dbSecureSqlbuffer .sqlite3 s = s ↔ '\'' ∉ s := by
  rw [dbSecureSqlbuffer_eq_self_iff]
  simp only [Dbase.escaped, List.mem_singleton]
  exact ⟨fun other member => other _ member rfl, fun none c member same => none (same ▸ member)⟩

end WendzelNNTPd
