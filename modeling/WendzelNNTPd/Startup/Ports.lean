import WendzelNNTPd.Startup.TlsContexts

/-! Port numbers from the configuration file to the calls that use them. `atoi` reads a numeral, a
16-bit field keeps the low half of it, and the files of the databases declare their port signed.
-/

namespace WendzelNNTPd

open CString

/-- A decimal numeral. -/
structure IsNumeral (text : Str) : Prop where
  nonempty : text ≠ []
  digits : ∀ c ∈ text, c.isDigit = true

/-- `extern short db_port` where the variable is an `unsigned short`. -/
def asInt16 (n : Nat) : Int := if n % 2 ^ 16 < 2 ^ 15 then (n % 2 ^ 16 : Nat) else (n % 2 ^ 16 : Nat) - 2 ^ 16

/-- The `unsigned int` that `db_mysql_open_connection` passes to `mysql_real_connect`. -/
def mysqlRealConnectPort (g : Settings) : Nat := (asInt16 g.dbPort % 2 ^ 32).toNat

/-- The text that `db_postgres_open_connection` passes to `PQsetdbLogin`. -/
def pqSetdbLoginPort (g : Settings) : Str := snprintf 512 (decInt (asInt16 g.dbPort))

/-- The `database-port` statement in effect, which is the last one. -/
def lastDbPort : List Command → Option Str
  | [] => none
  | .dbPort yytext :: rest => (lastDbPort rest).or (some yytext)
  | _ :: rest => lastDbPort rest

/-- A server that starts binds each connector with `port n` to the port `n`, which is a port. -/
def BindsPort (n : Str) : Prop :=
  ∀ host file cmds g,
    statements file = some cmds → startServer host file = some g →
      ∀ cs, .connector cs ∈ cmds → .usePort n ∈ cs →
        (∃ l ∈ g.sockinfo, Made host cs l ∧ l.connectorinfo.port = digitsValue n)
        ∧ 1 ≤ digitsValue n ∧ digitsValue n ≤ 65535

/-- A server that starts with `database-port n` connects to the port `n` of its database, which is
a port. -/
def ConnectsToPort (n : Str) : Prop :=
  ∀ host file cmds g,
    statements file = some cmds → startServer host file = some g → lastDbPort cmds = some n →
      (g.dbase = some .mysql → mysqlRealConnectPort g = digitsValue n)
      ∧ (g.dbase = some .postgres → pqSetdbLoginPort g = dec (digitsValue n))
      ∧ 1 ≤ digitsValue n ∧ digitsValue n ≤ 65535

/-- What the 16-bit fields keep of a numeral. -/
def portValue (v : Nat) : Nat := min v (2 ^ 63 - 1) % 2 ^ 16

theorem atoiU32_port {n : Str} (numeral : IsNumeral n)
    : atoiU32 n % 2 ^ 16 = portValue (digitsValue n) := by
  have read := @atol_digits n [] numeral.nonempty numeral.digits (fun _ head => nomatch head)
  rw [List.append_nil] at read
  unfold atoiU32 portValue
  rw [read]
  omega

/-- Within 16 bits a numeral is kept. -/
theorem portValue_eq_iff {v : Nat} : portValue v = v ↔ v ≤ 65535 := by
  unfold portValue
  omega

theorem portValue_eq_zero_iff {v : Nat} : portValue v = 0 ↔ v < 2 ^ 63 ∧ v % 65536 = 0 := by
  unfold portValue
  omega

-----------------------------------------------------------------------------------------
-- The port of a connector
-----------------------------------------------------------------------------------------

section Connectors

variable {host : Host} {n : Str} {c c' : Connectorinfo}

/-- Only `port` sets the port, and only once. -/
theorem connectorAction_port {cmd : ConnectorCmd} (ran : connectorAction c cmd = some c')
    : (∃ m, cmd = .usePort m ∧ c.port = 0 ∧ c'.port = atoiU32 m % 2 ^ 16 ∧ atoiU32 m % 2 ^ 16 ≠ 0)
      ∨ (∀ m, cmd ≠ .usePort m) ∧ c'.port = c.port := by
  cases cmd with
  | usePort m =>
      rw [connectorAction] at ran
      split at ran
      · rename_i accepted
        cases ran
        exact Or.inl ⟨m, rfl, accepted.1, rfl, accepted.2⟩
      · cases ran
  | listenonSpec yytext =>
      rw [connectorAction] at ran
      split at ran
      · cases ran
        exact Or.inr ⟨by simp, rfl⟩
      · cases ran
  | _ =>
      cases ran
      exact Or.inr ⟨by simp, rfl⟩

theorem connectorActions_port {cs : List ConnectorCmd}
    (ran : cs.foldlM connectorAction c = some c')
    : (.usePort n ∈ cs → c.port = 0 ∧ c'.port = atoiU32 n % 2 ^ 16 ∧ atoiU32 n % 2 ^ 16 ≠ 0)
      ∧ (c.port ≠ 0 → c'.port = c.port) := by
  induction cs generalizing c with
  | nil =>
      obtain rfl : c = c' := Option.some.inj ran
      exact ⟨nofun, fun _ => rfl⟩
  | cons cmd rest ih =>
      rw [List.foldlM_cons] at ran
      obtain ⟨next, first, more⟩ := Option.bind_eq_some_iff.mp ran
      obtain ⟨later, kept⟩ := ih more
      rcases connectorAction_port first with ⟨m, rfl, unset, set, nonzero⟩ | ⟨other, same⟩
      · have stays : c'.port = atoiU32 m % 2 ^ 16 := by
          rw [← set]
          exact kept (by rw [set]; exact nonzero)
        refine ⟨fun member => ?_, fun wasSet => absurd unset wasSet⟩
        rcases List.mem_cons.mp member with is | inRest
        · cases is
          exact ⟨unset, stays, nonzero⟩
        · have again := (later inRest).1
          rw [set] at again
          exact absurd again nonzero
      · rw [← same]
        refine ⟨fun member => ?_, kept⟩
        rcases List.mem_cons.mp member with is | inRest
        · exact absurd is.symm (other n)
        · exact later inRest

/-- A port that was set is not replaced by the default port. -/
theorem connectorEnd_port {l : Listener} (set : c.port ≠ 0) (ended : connectorEnd host c = some l)
    : l.connectorinfo.port = c.port := by
  unfold connectorEnd at ended
  rw [if_neg set] at ended
  obtain ⟨listen, -, ended⟩ := Option.bind_eq_some_iff.mp ended
  obtain ⟨next, prepared, ended⟩ := Option.bind_eq_some_iff.mp ended
  have same : next.port = c.port := by
    unfold connectorTls tlsGlobalInit at prepared
    split at prepared
    · split at prepared
      · cases prepared
        rfl
      · cases prepared
    · cases prepared
      rfl
  rw [startListeners_connectorinfo ended, same]

theorem made_port {cs : List ConnectorCmd} {l : Listener} (made : Made host cs l)
    (given : .usePort n ∈ cs)
    : l.connectorinfo.port = atoiU32 n % 2 ^ 16 ∧ atoiU32 n % 2 ^ 16 ≠ 0 := by
  obtain ⟨c, actions, ended⟩ := made
  obtain ⟨-, port, nonzero⟩ := (connectorActions_port actions).1 given
  rw [connectorEnd_port (by rw [port]; exact nonzero) ended]
  exact ⟨port, nonzero⟩

end Connectors

-----------------------------------------------------------------------------------------
-- The port of the database
-----------------------------------------------------------------------------------------

section Database

variable {host : Host} {g g' : Settings}

theorem action_dbPort {cmd : Command} (ran : action host g cmd = some g')
    : (∃ m, cmd = .dbPort m ∧ g'.dbPort = atoiU32 m % 2 ^ 16 ∧ atoiU32 m % 2 ^ 16 ≠ 0)
      ∨ (∀ m, cmd ≠ .dbPort m) ∧ g'.dbPort = g.dbPort := by
  cases cmd with
  | dbPort m =>
      rw [action] at ran
      split at ran
      · cases ran
      · rename_i nonzero
        cases ran
        exact Or.inl ⟨m, rfl, rfl, nonzero⟩
  | connector cs =>
      obtain ⟨c, actions, more⟩ := Option.bind_eq_some_iff.mp ran
      obtain ⟨l, ended, done⟩ := Option.bind_eq_some_iff.mp more
      cases done
      exact Or.inr ⟨by simp, rfl⟩
  | dbEngine yytext =>
      obtain ⟨dbase, -, rfl⟩ := Option.map_eq_some_iff.mp ran
      exact Or.inr ⟨by simp, rfl⟩
  | useAcl | messageBodyInDb | messageCountInDb =>
      rw [action] at ran
      split at ran
      · cases ran
        exact Or.inr ⟨by simp, rfl⟩
      · cases ran
  | maxPostSize =>
      rw [action] at ran
      split at ran
      · cases ran
      · cases ran
        exact Or.inr ⟨by simp, rfl⟩
  | _ =>
      cases ran
      exact Or.inr ⟨by simp, rfl⟩

/-- The last statement about it sets the port of the database. -/
theorem actions_dbPort {cmds : List Command} (ran : cmds.foldlM (action host) g = some g')
    : (∀ n, lastDbPort cmds = some n → g'.dbPort = atoiU32 n % 2 ^ 16 ∧ atoiU32 n % 2 ^ 16 ≠ 0)
      ∧ (lastDbPort cmds = none → g'.dbPort = g.dbPort) := by
  induction cmds generalizing g with
  | nil =>
      obtain rfl : g = g' := Option.some.inj ran
      exact ⟨nofun, fun _ => rfl⟩
  | cons cmd rest ih =>
      rw [List.foldlM_cons] at ran
      obtain ⟨next, first, more⟩ := Option.bind_eq_some_iff.mp ran
      obtain ⟨later, kept⟩ := ih more
      rcases action_dbPort first with ⟨m, rfl, set, nonzero⟩ | ⟨other, same⟩
      · rw [lastDbPort]
        cases last : lastDbPort rest with
        | some k =>
            refine ⟨fun n is => ?_, nofun⟩
            cases is
            exact later k last
        | none =>
            refine ⟨fun n is => ?_, nofun⟩
            cases is
            rw [kept last, set]
            exact ⟨rfl, nonzero⟩
      · have skipped : lastDbPort (cmd :: rest) = lastDbPort rest := by
          cases cmd with
          | dbPort m => exact absurd rfl (other m)
          | _ => rfl
        rw [skipped, ← same]
        exact ⟨later, kept⟩

/-- The checks behind the parser leave a port that was set. -/
theorem startServer_dbPort {file : Str} (started : startServer host file = some g) {n : Str}
    {cmds : List Command} (parsed : statements file = some cmds) (last : lastDbPort cmds = some n)
    : g.dbPort = atoiU32 n % 2 ^ 16 ∧ atoiU32 n % 2 ^ 16 ≠ 0 := by
  obtain ⟨cmds', parsed', ran⟩ := Option.bind_eq_some_iff.mp started
  obtain rfl : cmds = cmds' := Option.some.inj (parsed.symm.trans parsed')
  obtain ⟨read, actions, ran⟩ := Option.bind_eq_some_iff.mp ran
  obtain ⟨checked, check, ran⟩ := Option.bind_eq_some_iff.mp ran
  obtain ⟨set, nonzero⟩ := (actions_dbPort actions).1 n last
  have isSet : read.dbPort ≠ 0 := by
    rw [set]
    exact nonzero
  obtain rfl : g = checked := by
    unfold checkDb at ran
    split at ran
    · cases ran
      rfl
    · cases ran
  unfold checkSettings at check
  rw [if_neg isSet] at check
  split at check
  · cases check
  · split at check
    · cases check
    · cases check
      exact ⟨set, nonzero⟩

end Database

-----------------------------------------------------------------------------------------
-- Files with a numeral
-----------------------------------------------------------------------------------------

section Files

variable {n : Str}

/-- The bytes of a match are passed over. -/
theorem yylex_skip (match' rest : Str) : yylex match'.length (match' ++ rest) = yylex 0 rest := by
  induction match' with
  | nil => rfl
  | cons c cs ih => exact ih

theorem wordChar_of_isDigit {c : Char} (digit : c.isDigit = true) : wordChar c = true := by
  simp [wordChar, isalnum, Char.isAlphanum, digit]

/-- No keyword and no version consists of digits only. -/
theorem wordToken_numeral (numeral : IsNumeral n) : wordToken n = .name n := by
  have missing : keywords.lookup n = none := by
    have letters : ∀ entry ∈ keywords, entry.1.any (fun c => !c.isDigit) = true := by
      decide +kernel
    rw [List.lookup_eq_none_iff]
    intro entry member
    rw [bne_iff_ne]
    intro same
    obtain ⟨c, inside, letter⟩ := List.any_eq_true.mp (letters entry member)
    rw [← same] at inside
    rw [numeral.digits c inside] at letter
    cases letter
  have noVersion : isVersionString n = false := by
    unfold isVersionString
    split
    · exact absurd (numeral.digits '.' (by simp)) (by decide)
    · rfl
  rw [wordToken, missing]
  simp only [noVersion]
  rfl

theorem yylex_numeral (numeral : IsNumeral n) {rest : Str}
    (ends : ∀ c ∈ rest.head?, wordChar c = false)
    : yylex 0 (n ++ rest) = .name n :: yylex 0 rest := by
  have whole : (n ++ rest).takeWhile wordChar = n := by
    rw [List.takeWhile_append_of_pos (fun c inside => wordChar_of_isDigit (numeral.digits c inside))]
    cases rest with
    | nil => simp
    | cons c cs => simp [ends c rfl]
  have token := wordToken_numeral numeral
  cases is : n with
  | nil => exact absurd is numeral.nonempty
  | cons c cs =>
      rw [is] at whole token
      have first : wordChar c = true :=
        wordChar_of_isDigit (numeral.digits c (by rw [is]; exact List.mem_cons_self))
      rw [List.cons_append] at whole ⊢
      rw [yylex, lexRule, if_pos first, whole, token]
      exact congrArg (Token.name (c :: cs) :: ·) (yylex_skip cs rest)

/-- A token that the grammar takes. -/
theorem parse_step {state next : ParserState} {token : Token} {rest : List Token}
    {cmds more : List Command} (step : parseToken state token = some (next, cmds))
    (later : parse next rest = some more)
    : parse state (token :: rest) = some (cmds ++ more) := by
  rw [parse, step, Option.bind_eq_bind, Option.bind_some]
  simp only [later]
  rfl

/-- A connector with a port statement. -/
def portFile (n : Str) : Str :=
  "database-engine sqlite3\n<connector>\nlisten 0.0.0.0\nport ".toList
    ++ (n ++ "\n</connector>\n".toList)

/-- A database with a port statement. -/
def dbPortFile (n : Str) : Str :=
  "database-engine mysql\ndatabase-server db\ndatabase-username news\n".toList
    ++ ("database-password secret\n<connector>\nlisten 0.0.0.0\n</connector>\n".toList
      ++ ("database-port ".toList ++ n))

theorem yylex_portFile (numeral : IsNumeral n)
    : yylex 0 (portFile n)
      = [.dbEngine, .name "sqlite3".toList, .connBegin, .listenOn, .name "0.0.0.0".toList, .port,
          .name n, .connEnd] := by
  have front (rest : Str)
      : yylex 0 ("database-engine sqlite3\n<connector>\nlisten 0.0.0.0\nport ".toList ++ rest)
        = [.dbEngine, .name "sqlite3".toList, .connBegin, .listenOn, .name "0.0.0.0".toList, .port]
          ++ yylex 0 rest := by
    rw [String.toList_ofList]
    rfl
  have last : yylex 0 "\n</connector>\n".toList = [.connEnd] := by
    rw [String.toList_ofList]
    decide
  have read : yylex 0 (n ++ "\n</connector>\n".toList) = [.name n, .connEnd] :=
    (yylex_numeral numeral (fun c head => by cases head; decide)).trans
      (congrArg (Token.name n :: ·) last)
  exact (front _).trans (congrArg _ read)

theorem yylex_dbPortFile (numeral : IsNumeral n)
    : yylex 0 (dbPortFile n)
      = [.dbEngine, .name "mysql".toList, .dbServer, .name "db".toList, .dbUser,
            .name "news".toList]
          ++ ([.dbPass, .name "secret".toList, .connBegin, .listenOn, .name "0.0.0.0".toList,
              .connEnd] ++ [.dbPort, .name n]) := by
  have engine (rest : Str)
      : yylex 0 ("database-engine mysql\ndatabase-server db\ndatabase-username news\n".toList ++ rest)
        = [.dbEngine, .name "mysql".toList, .dbServer, .name "db".toList, .dbUser,
            .name "news".toList] ++ yylex 0 rest := by
    rw [String.toList_ofList]
    rfl
  have connector (rest : Str)
      : yylex 0 ("database-password secret\n<connector>\nlisten 0.0.0.0\n</connector>\n".toList ++ rest)
        = [.dbPass, .name "secret".toList, .connBegin, .listenOn, .name "0.0.0.0".toList, .connEnd]
          ++ yylex 0 rest := by
    rw [String.toList_ofList]
    rfl
  have port (rest : Str) : yylex 0 ("database-port ".toList ++ rest) = .dbPort :: yylex 0 rest := rfl
  have read : yylex 0 n = [.name n] := by
    have alone := @yylex_numeral n numeral [] (fun c head => nomatch head)
    rwa [List.append_nil] at alone
  have last := (port n).trans (congrArg _ read)
  exact (engine _).trans (congrArg _ ((connector _).trans (congrArg _ last)))

theorem statements_portFile (numeral : IsNumeral n)
    : statements (portFile n)
      = some [.dbEngine "sqlite3".toList,
          .connector [.listenonSpec "0.0.0.0".toList, .usePort n]] := by
  rw [statements, yylex_portFile numeral]
  exact Eq.trans (parse_step rfl (parse_step rfl (parse_step rfl (parse_step rfl (parse_step rfl
    (parse_step rfl (parse_step rfl (parse_step rfl rfl)))))))) rfl

theorem statements_dbPortFile (numeral : IsNumeral n)
    : statements (dbPortFile n)
      = some [.dbEngine "mysql".toList, .dbServer "db".toList, .dbUser "news".toList,
          .dbPass "secret".toList, .connector [.listenonSpec "0.0.0.0".toList], .dbPort n] := by
  rw [statements, yylex_dbPortFile numeral]
  exact Eq.trans (parse_step rfl (parse_step rfl (parse_step rfl (parse_step rfl (parse_step rfl
    (parse_step rfl (parse_step rfl (parse_step rfl (parse_step rfl (parse_step rfl (parse_step rfl
      (parse_step rfl (parse_step rfl (parse_step rfl rfl)))))))))))))) rfl

/-- An action that does not exit. -/
theorem foldlM_cons_some {α β : Type} {f : β → α → Option β} {a : α} {l : List α} {b next : β}
    {result : Option β} (step : f b a = some next) (rest : l.foldlM f next = result)
    : (a :: l).foldlM f b = result := by
  rw [List.foldlM_cons, step]
  exact rest

theorem action_connector {host : Host} {g : Settings} {cs : List ConnectorCmd} {l : Listener}
    (made : Made host cs l)
    : action host g (.connector cs) = some { g with sockinfo := g.sockinfo ++ [l] } := by
  obtain ⟨c, actions, ended⟩ := made
  rw [action, actions, Option.bind_eq_bind, Option.bind_some, ended]
  rfl

/-- The checks behind the parser pass. -/
theorem startServer_of {file : Str} {cmds : List Command} {g : Settings}
    (parsed : statements file = some cmds)
    (actions : cmds.foldlM (action sampleHost) Settings.initial = some g)
    (checked : checkSettings g = some g) (engine : g.dbase.isSome = true)
    : startServer sampleHost file = some g := by
  have opens : checkDb sampleHost g = some g := if_pos ⟨engine, rfl⟩
  simp only [startServer, parsed, Option.bind_eq_bind, Option.bind_some, actions, checked, opens]

/-- The connector of the file, with the port that was read. -/
def portConnector (port : Nat) : Connectorinfo :=
  { connectorBegin with listen := some "0.0.0.0".toList, port := port }

theorem made_portConnector (kept : atoiU32 n % 2 ^ 16 ≠ 0)
    : Made sampleHost [.listenonSpec "0.0.0.0".toList, .usePort n]
        ⟨portConnector (atoiU32 n % 2 ^ 16), .inet⟩ := by
  have set : connectorAction (portConnector 0) (.usePort n)
      = some (portConnector (atoiU32 n % 2 ^ 16)) :=
    if_pos ⟨rfl, kept⟩
  refine ⟨_, foldlM_cons_some rfl (foldlM_cons_some set rfl), ?_⟩
  generalize atoiU32 n % 2 ^ 16 = port at kept
  have isSet : (portConnector port).port ≠ 0 := kept
  rw [connectorEnd, if_neg isSet]
  rfl

/-- A port is taken if its low 16 bits are not all zero. -/
theorem startServer_portFile (numeral : IsNumeral n) (kept : atoiU32 n % 2 ^ 16 ≠ 0)
    : ∃ g, startServer sampleHost (portFile n) = some g := by
  have made := made_portConnector kept
  generalize (⟨portConnector (atoiU32 n % 2 ^ 16), .inet⟩ : Listener) = l at made
  refine ⟨{ Settings.initial with dbase := some .sqlite3, sockinfo := [l] },
    startServer_of (statements_portFile numeral) ?_ rfl rfl⟩
  exact foldlM_cons_some rfl (foldlM_cons_some (action_connector made) rfl)

theorem startServer_dbPortFile (numeral : IsNumeral n) (kept : atoiU32 n % 2 ^ 16 ≠ 0)
    : ∃ g, startServer sampleHost (dbPortFile n) = some g ∧ g.dbase = some .mysql := by
  obtain ⟨l, made⟩ : ∃ l, Made sampleHost [.listenonSpec "0.0.0.0".toList] l := ⟨_, _, rfl, rfl⟩
  have set (g : Settings) : action sampleHost g (.dbPort n)
      = some { g with dbPort := atoiU32 n % 2 ^ 16 } :=
    if_neg kept
  refine ⟨{ Settings.initial with
      dbase := some .mysql
      dbServer := some "db".toList
      dbUser := some "news".toList
      dbPass := some "secret".toList
      sockinfo := [l]
      dbPort := atoiU32 n % 2 ^ 16 },
    startServer_of (statements_dbPortFile numeral) ?_ ?_ rfl, rfl⟩
  · exact foldlM_cons_some rfl (foldlM_cons_some rfl (foldlM_cons_some rfl (foldlM_cons_some rfl
      (foldlM_cons_some (action_connector made) (foldlM_cons_some (set _) rfl)))))
  · exact if_neg kept

end Files

-----------------------------------------------------------------------------------------
-- Numerals that are handled right
-----------------------------------------------------------------------------------------

section Numerals

variable {n : Str}

theorem bindsPort_iff (numeral : IsNumeral n)
    : BindsPort n ↔ digitsValue n ≤ 65535 ∨ digitsValue n < 2 ^ 63 ∧ digitsValue n % 65536 = 0 := by
  constructor
  · intro binds
    by_cases kept : atoiU32 n % 2 ^ 16 = 0
    · rw [atoiU32_port numeral] at kept
      exact Or.inr (portValue_eq_zero_iff.mp kept)
    · obtain ⟨g, started⟩ := startServer_portFile numeral kept
      exact Or.inl (binds sampleHost (portFile n) _ g (statements_portFile numeral) started
        [.listenonSpec "0.0.0.0".toList, .usePort n] (by simp) (by simp)).2.2
  · intro right host file cmds g parsed started cs connector given
    obtain ⟨cmds', read, port, parsed', actions, rfl⟩ := startServer_cases started
    obtain rfl : cmds = cmds' := Option.some.inj (parsed.symm.trans parsed')
    obtain ⟨l, there, made⟩ := (actions_listeners actions).all cs connector
    obtain ⟨is, nonzero⟩ := made_port made given
    rw [atoiU32_port numeral] at is nonzero
    have small : digitsValue n ≤ 65535 := by
      rcases right with small | zero
      · exact small
      · exact absurd (portValue_eq_zero_iff.mpr zero) nonzero
    rw [portValue_eq_iff.mpr small] at is nonzero
    exact ⟨⟨l, there, made, is⟩, Nat.pos_of_ne_zero nonzero, small⟩

/-- The numerals that a signed 16-bit variable holds are passed on. -/
theorem connectPort_of_le {g : Settings} (small : g.dbPort ≤ 32767)
    : mysqlRealConnectPort g = g.dbPort ∧ pqSetdbLoginPort g = dec g.dbPort := by
  have signed : asInt16 g.dbPort = g.dbPort := by
    unfold asInt16
    split <;> omega
  constructor
  · rw [mysqlRealConnectPort, signed]
    omega
  · have short : (dec g.dbPort).length ≤ 5 :=
      (Nat.length_toDigits_le_iff (by decide) (by decide)).mpr (by omega)
    have written : decInt (g.dbPort : Int) = dec g.dbPort := if_neg (by omega)
    rw [pqSetdbLoginPort, signed, written, snprintf, List.take_of_length_le (by omega)]

theorem connectsToPort_iff (numeral : IsNumeral n)
    : ConnectsToPort n
      ↔ digitsValue n ≤ 32767 ∨ digitsValue n < 2 ^ 63 ∧ digitsValue n % 65536 = 0 := by
  constructor
  · intro connects
    by_cases kept : atoiU32 n % 2 ^ 16 = 0
    · rw [atoiU32_port numeral] at kept
      exact Or.inr (portValue_eq_zero_iff.mp kept)
    · obtain ⟨g, started, engine⟩ := startServer_dbPortFile numeral kept
      have parsed := statements_dbPortFile numeral
      obtain ⟨passed, -, -, small⟩ := connects sampleHost (dbPortFile n) _ g parsed started rfl
      have is := (startServer_dbPort started parsed rfl).1
      rw [atoiU32_port numeral, portValue_eq_iff.mpr small] at is
      refine Or.inl ?_
      have same := passed engine
      unfold mysqlRealConnectPort asInt16 at same
      rw [is] at same
      split at same
      · omega
      · omega
  · intro right host file cmds g parsed started last
    obtain ⟨is, nonzero⟩ := startServer_dbPort started parsed last
    rw [atoiU32_port numeral] at is nonzero
    have small : digitsValue n ≤ 32767 := by
      rcases right with small | zero
      · exact small
      · exact absurd (portValue_eq_zero_iff.mpr zero) nonzero
    rw [portValue_eq_iff.mpr (by omega)] at is nonzero
    obtain ⟨mysql, postgres⟩ := connectPort_of_le (g := g) (by rw [is]; exact small)
    rw [is] at mysql postgres
    exact ⟨fun _ => mysql, fun _ => postgres, Nat.pos_of_ne_zero nonzero, by omega⟩

/-- The numerals for which a server that starts uses the port they stand for.
Witness: a 16-bit field keeps a numeral up to 65535 and refuses a multiple of 65536; read as a
signed variable it keeps a numeral up to 32767.
-/
theorem ports_right_iff (numeral : IsNumeral n)
    : (BindsPort n ↔ digitsValue n ≤ 65535 ∨ digitsValue n < 2 ^ 63 ∧ digitsValue n % 65536 = 0)
      ∧ (ConnectsToPort n
        ↔ digitsValue n ≤ 32767 ∨ digitsValue n < 2 ^ 63 ∧ digitsValue n % 65536 = 0) :=
  ⟨bindsPort_iff numeral, connectsToPort_iff numeral⟩

theorem default_ports_right : BindsPort "119".toList ∧ ConnectsToPort "5432".toList :=
  ⟨(ports_right_iff ⟨by decide, by simp⟩).1.mpr (Or.inl (by decide)),
    (ports_right_iff ⟨by decide, by simp⟩).2.mpr (Or.inl (by decide))⟩

/-- The port 65655 is bound as 119, and the port 33060 of MySQL is passed as a negative one. -/
theorem ports_wrong
    : (startServer sampleHost (portFile "65655".toList)).map
          (fun g => g.sockinfo.map (·.connectorinfo.port)) = some [119]
      ∧ ¬BindsPort "65655".toList
      ∧ (startServer sampleHost (dbPortFile "33060".toList)).map
          (fun g => (mysqlRealConnectPort g, pqSetdbLoginPort g))
        = some (2 ^ 32 - 32476, "-32476".toList)
      ∧ ¬ConnectsToPort "33060".toList := by
  refine ⟨?_, ?_, ?_, ?_⟩
  · rw [startServer, statements_portFile ⟨by decide, by simp⟩]
    decide +kernel
  · rw [bindsPort_iff ⟨by decide, by simp⟩]
    decide
  · rw [startServer, statements_dbPortFile ⟨by decide, by simp⟩]
    decide +kernel
  · rw [connectsToPort_iff ⟨by decide, by simp⟩]
    decide

end Numerals

end WendzelNNTPd
