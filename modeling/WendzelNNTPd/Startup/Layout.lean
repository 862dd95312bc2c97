import WendzelNNTPd.Lib.Scanner
import WendzelNNTPd.Startup.Ports

/-! The layout of the configuration file. Statements are printed as tokens, and tokens as text with
anything between them that the scanner passes over; whatever was printed is read back, and only what
can be printed is ever read.
-/

namespace WendzelNNTPd

open CString

-----------------------------------------------------------------------------------------
-- Printing
-----------------------------------------------------------------------------------------

/-- The text of a token. -/
def Token.text : Token → Str
  | .name yytext => yytext
  | .tlsVersionString yytext => yytext
  | .connBegin => "<connector>".toList
  | .connEnd => "</connector>".toList
  | .eof => [NUL]
  | token => ((keywords.find? (·.2 = token)).map Prod.fst).getD []

/-- A word of which the scanner makes this token. -/
structure Token.IsWord (token : Token) : Prop where
  nonempty : token.text ≠ []
  chars : token.text.all wordChar = true
  same : wordToken token.text = token

/-- The tokens that have a text. An argument is a word that is no keyword. -/
def Token.Printable (token : Token) : Prop :=
  token.IsWord ∨ token = .connBegin ∨ token = .connEnd ∨ token = .eof

def ConnectorCmd.tokens : ConnectorCmd → List Token
  | .usePort yytext => [.port, .name yytext]
  | .listenonSpec yytext => [.listenOn, .name yytext]
  | .enableTls => [.tls]
  | .enableStarttls => [.starttls]
  | .tlsCiphers yytext => [.tlsCiphers, .name yytext]
  | .tlsCipherSuites yytext => [.tlsCipherSuites, .name yytext]
  | .tlsCert yytext => [.tlsCert, .name yytext]
  | .tlsKey yytext => [.tlsKey, .name yytext]
  | .tlsCaCert yytext => [.tlsCaCert, .name yytext]
  | .tlsVersion yytext => [.tlsVersion, .tlsVersionString yytext]
  | .tlsVerifyClient yytext => [.tlsVerifyClient, .name yytext]
  | .tlsVerifyClientDepth yytext => [.tlsVerifyClientDepth, .name yytext]
  | .tlsCrl yytext => [.tlsCrl, .name yytext]
  | .tlsCrlFile yytext => [.tlsCrlFile, .name yytext]

def Command.tokens : Command → List Token
  | .beVerbose => [.verboseMode]
  | .anonMessageIds => [.anonymMids]
  | .useAuth => [.useAuth]
  | .useAcl => [.useAcl]
  | .maxPostSize yytext => [.maxPostSize, .name yytext]
  | .dbEngine yytext => [.dbEngine, .name yytext]
  | .dbServer yytext => [.dbServer, .name yytext]
  | .dbUser yytext => [.dbUser, .name yytext]
  | .dbPass yytext => [.dbPass, .name yytext]
  | .dbPort yytext => [.dbPort, .name yytext]
  | .hashSalt yytext => [.hashsalt, .name yytext]
  | .messageBodyInDb => [.messageBodyInDb]
  | .messageCountInDb => [.messageCountInDb]
  | .tlsMandatory => [.tlsMandatory]
  | .eof => [.eof]
  | .connector cmds => .connBegin :: (cmds.flatMap ConnectorCmd.tokens ++ [.connEnd])

def Command.Printable (cmd : Command) : Prop := ∀ token ∈ cmd.tokens, token.Printable

/-- The bytes that no rule takes wherever they stand. -/
def passed (c : Char) : Bool :=
  !wordChar c && c != ';' && c != '|' && c != '<' && c != NUL

/-- What may stand between two tokens: such bytes, and comments. -/
inductive Filler : Str → Prop
  | nil : Filler []
  | byte {c : Char} {rest : Str} (passed : passed c = true) (later : Filler rest)
      : Filler (c :: rest)
  | comment {mark : Char} {text rest : Str} (marks : mark = ';' ∨ mark = '|')
      (line : '\n' ∉ text) (later : Filler rest)
      : Filler (mark :: (text ++ '\n' :: rest))

/-- The tokens stand in the text one after another, with fillers around them, and nothing is joined
to a word. -/
inductive Laid : List Token → Str → Prop
  | nil {gap : Str} (filler : Filler gap) : Laid [] gap
  | cons {gap rest : Str} {token : Token} {tokens : List Token} (filler : Filler gap)
      (apart : token.IsWord → ∀ c ∈ rest.head?, wordChar c = false) (later : Laid tokens rest)
      : Laid (token :: tokens) (gap ++ (token.text ++ rest))

-----------------------------------------------------------------------------------------
-- Scanning what was printed
-----------------------------------------------------------------------------------------

section Scanning

variable {c : Char} {cs gap rest : Str} {token : Token} {tokens : List Token}

theorem yylex_eq_scan (skip : Nat) (text : Str) : yylex skip text = Scanner.scan lexRule skip text := by
  induction text generalizing skip with
  | nil => rfl
  | cons c cs ih =>
      cases skip with
      | zero => exact congrArg ((lexRule (c :: cs)).2.toList ++ ·) (ih _)
      | succ skip => exact ih skip

/-- A text that does not start with `<` is no mark of a connector. -/
theorem not_connector {mark : Str} (other : c ≠ '<')
    : ('<' :: mark).isPrefixOf (c :: cs) = false := by
  rw [List.isPrefixOf, beq_eq_false_iff_ne.mpr other.symm, Bool.false_and]

theorem takes_byte (free : passed c = true) : Scanner.Takes lexRule [c] rest none := by
  refine ⟨List.cons_ne_nil c [], ?_⟩
  simp only [passed, Bool.and_eq_true, Bool.not_eq_true', bne_iff_ne] at free
  obtain ⟨⟨⟨⟨noWord, noSemicolon⟩, noBar⟩, noBracket⟩, noEnd⟩ := free
  have noBegin : "<connector>".toList.isPrefixOf (c :: rest) = false :=
    not_connector noBracket
  have noClose : "</connector>".toList.isPrefixOf (c :: rest) = false :=
    not_connector noBracket
  have noMark : ¬(c = ';' ∨ c = '|') := not_or.mpr ⟨noSemicolon, noBar⟩
  rw [List.singleton_append, lexRule, noWord, noBegin, noClose, if_neg Bool.false_ne_true,
    if_neg noMark, if_neg Bool.false_ne_true, if_neg Bool.false_ne_true, if_neg noEnd]
  rfl

theorem takes_comment {mark : Char} {text : Str} (marks : mark = ';' ∨ mark = '|')
    (line : '\n' ∉ text)
    : Scanner.Takes lexRule (mark :: (text ++ ['\n'])) rest none := by
  refine ⟨List.cons_ne_nil mark _, ?_⟩
  have noWord : wordChar mark = false := by rcases marks with rfl | rfl <;> decide
  have upTo : (text ++ '\n' :: rest).takeWhile (· != '\n') = text := by
    rw [List.takeWhile_append_of_pos (fun c member => by
      simpa using fun same : c = '\n' => line (same ▸ member))]
    simp
  simp [lexRule, noWord, marks, upTo]

/-- A word is taken whole. -/
theorem takes_word (word : token.IsWord) (apart : ∀ c ∈ rest.head?, wordChar c = false)
    : Scanner.Takes lexRule token.text rest (some token) := by
  refine ⟨word.nonempty, ?_⟩
  have chars : ∀ c ∈ token.text, wordChar c = true := List.all_eq_true.mp word.chars
  have whole : (token.text ++ rest).takeWhile wordChar = token.text := by
    rw [List.takeWhile_append_of_pos chars]
    cases rest with
    | nil => simp
    | cons c cs => simp [apart c rfl]
  have same := word.same
  cases is : token.text with
  | nil => exact absurd is word.nonempty
  | cons c cs =>
      rw [is] at whole same
      have first : wordChar c = true := chars c (by rw [is]; exact List.mem_cons_self)
      rw [List.cons_append] at whole ⊢
      rw [lexRule, if_pos first, whole, same]

theorem takes_token (printable : token.Printable)
    (apart : token.IsWord → ∀ c ∈ rest.head?, wordChar c = false)
    : Scanner.Takes lexRule token.text rest (some token) := by
  rcases printable with word | rfl | rfl | rfl
  · exact takes_word word (apart word)
  · exact ⟨by decide, rfl⟩
  · exact ⟨by decide, rfl⟩
  · exact ⟨by decide, rfl⟩

/-- A filler adds no token. Induction on the filler. -/
theorem Filler.reads (filler : Filler gap) (later : Scanner.Reads lexRule rest tokens)
    : Scanner.Reads lexRule (gap ++ rest) tokens := by
  induction filler with
  | nil => exact later
  | byte free _ ih => exact .piece (takes_byte free) ih
  | comment marks line _ ih =>
      have read := Scanner.Reads.piece (takes_comment marks line) ih
      simpa using read

/-- Tokens that were printed are read back. Induction on the layout. -/
theorem Laid.reads (laid : Laid tokens rest) (printable : ∀ token ∈ tokens, token.Printable)
    : Scanner.Reads lexRule rest tokens := by
  induction laid with
  | nil filler =>
      have read := filler.reads Scanner.Reads.nil
      rwa [List.append_nil] at read
  | cons filler apart _ ih =>
      have now := printable _ List.mem_cons_self
      have later := ih (fun token member => printable token (List.mem_cons_of_mem _ member))
      exact filler.reads ((takes_token now apart).reads later)

theorem yylex_laid (laid : Laid tokens rest) (printable : ∀ token ∈ tokens, token.Printable)
    : yylex 0 rest = tokens := by
  rw [yylex_eq_scan]
  exact (laid.reads printable).scan

end Scanning

-----------------------------------------------------------------------------------------
-- Only what can be printed is read
-----------------------------------------------------------------------------------------

section Read

variable {token : Token} {tokens : List Token}

/-- The token of a word has the word as its text. -/
theorem wordToken_text (word : Str) : (wordToken word).text = word := by
  have texts : keywords.all (fun entry => entry.2.text == entry.1) = true := by
    decide +kernel
  unfold wordToken
  split
  · next token found =>
      have member : (word, token) ∈ keywords := by
        rw [List.lookup_eq_some_iff] at found
        obtain ⟨l₁, l₂, split, -⟩ := found
        rw [split]
        simp
      exact beq_iff_eq.mp (List.all_eq_true.mp texts _ member)
  · split
    · rfl
    · rfl

theorem lexRule_printable {text : Str} (found : (lexRule text).2 = some token) : token.Printable := by
  cases text with
  | nil => cases found
  | cons c cs =>
      rw [lexRule] at found
      split at found
      · next isWord =>
          injection found with found
          have text : token.text = (c :: cs).takeWhile wordChar := by
            rw [← found]
            exact wordToken_text _
          refine Or.inl ⟨?_, ?_, ?_⟩
          · rw [text, List.takeWhile_cons_of_pos isWord]
            exact List.cons_ne_nil c _
          · rw [text]
            exact List.all_takeWhile
          · rw [text]
            exact found
      · split at found
        · split at found <;> cases found
        · split at found
          · injection found with found
            exact Or.inr (Or.inl found.symm)
          · split at found
            · injection found with found
              exact Or.inr (Or.inr (Or.inl found.symm))
            · split at found
              · injection found with found
                exact Or.inr (Or.inr (Or.inr found.symm))
              · cases found

theorem yylex_printable {file : Str} (member : token ∈ yylex 0 file) : token.Printable := by
  rw [yylex_eq_scan] at member
  obtain ⟨rest, found⟩ := Scanner.mem_scan member
  exact lexRule_printable found

end Read

-----------------------------------------------------------------------------------------
-- The grammar
-----------------------------------------------------------------------------------------

/-- The tokens that the parser has taken for a statement that is not complete. -/
def ParserState.pending : ParserState → List Token
  | .commands => []
  | .argument keyword => [keyword]
  | .connectorCmds cmds => .connBegin :: cmds.flatMap ConnectorCmd.tokens
  | .connectorArgument cmds keyword => .connBegin :: (cmds.flatMap ConnectorCmd.tokens ++ [keyword])

section Grammar

variable {state next : ParserState} {token keyword : Token} {tokens rest : List Token}
  {cmds more : List Command}

theorem command_tokens {cmd : Command} (found : token.command = some cmd) : cmd.tokens = [token] := by
  cases token <;> cases found <;> rfl

theorem namedCommand_tokens {cmd : Str → Command} (found : token.namedCommand = some cmd)
    (yytext : Str)
    : (cmd yytext).tokens = [token, .name yytext] := by
  cases token <;> cases found <;> rfl

theorem connectorCmd_tokens {cmd : ConnectorCmd} (found : token.connectorCmd = some cmd)
    : cmd.tokens = [token] := by
  cases token <;> cases found <;> rfl

theorem namedConnectorCmd_tokens {cmd : Str → ConnectorCmd}
    (found : token.namedConnectorCmd = some cmd) (yytext : Str)
    : (cmd yytext).tokens = [token, .name yytext] := by
  cases token <;> cases found <;> rfl

theorem connectorArgument_tokens {cmd : ConnectorCmd}
    (found : connectorArgument keyword token = some cmd)
    : cmd.tokens = [keyword, token] := by
  unfold connectorArgument at found
  split at found
  · cases found
    rfl
  · obtain ⟨mk, named, rfl⟩ := Option.map_eq_some_iff.mp found
    exact namedConnectorCmd_tokens named _
  · cases found

/-- One token is either still pending or part of the statement that it completes. -/
theorem parseToken_pending (step : parseToken state token = some (next, cmds))
    : state.pending ++ [token] = cmds.flatMap Command.tokens ++ next.pending := by
  cases state with
  | commands =>
      simp only [parseToken] at step
      split at step
      · next cmd found =>
          cases step
          simp [ParserState.pending, command_tokens found]
      · split at step
        · cases step
          rfl
        · split at step
          · next isBegin =>
              cases step
              rw [isBegin]
              rfl
          · cases step
  | argument keyword =>
      cases token with
      | name yytext =>
          obtain ⟨mk, named, same⟩ := Option.map_eq_some_iff.mp step
          cases same
          simp [ParserState.pending, namedCommand_tokens named]
      | _ => cases step
  | connectorCmds cs =>
      simp only [parseToken] at step
      split at step
      · next cmd found =>
          cases step
          simp [ParserState.pending, connectorCmd_tokens found]
      · split at step
        · cases step
          rfl
        · split at step
          · next isEnd =>
              cases step
              simp [ParserState.pending, Command.tokens, isEnd]
          · cases step
  | connectorArgument cs keyword =>
      obtain ⟨cmd, found, same⟩ := Option.map_eq_some_iff.mp step
      cases same
      simp [ParserState.pending, connectorArgument_tokens found]

/-- The statements are made of the tokens, in their order, and of no others.
Witness: induction on the tokens; `parseToken_pending` moves one token.
-/
theorem tokens_of_parse (read : parse state tokens = some cmds)
    : state.pending ++ tokens = cmds.flatMap Command.tokens := by
  induction tokens generalizing state cmds with
  | nil =>
      cases state with
      | commands =>
          cases read
          rfl
      | _ => cases read
  | cons token rest ih =>
      rw [parse] at read
      · obtain ⟨⟨next, now⟩, step, read⟩ := Option.bind_eq_some_iff.mp read
        obtain ⟨more, later, same⟩ := Option.bind_eq_some_iff.mp read
        cases same
        have pending := parseToken_pending step
        calc state.pending ++ token :: rest
            = (state.pending ++ [token]) ++ rest := by simp
          _ = now.flatMap Command.tokens ++ (next.pending ++ rest) := by
              rw [pending, List.append_assoc]
          _ = (now ++ more).flatMap Command.tokens := by
              rw [ih later, List.flatMap_append]

/-- A token within a statement. -/
theorem parse_taken (step : parseToken state token = some (next, []))
    (later : parse next rest = some more)
    : parse state (token :: rest) = some more :=
  parse_step step later

/-- The last token of a statement. -/
theorem parse_complete {cmd : Command} (step : parseToken state token = some (next, [cmd]))
    (later : parse next rest = some more)
    : parse state (token :: rest) = some (cmd :: more) :=
  parse_step step later

/-- Induction on the connector's commands. -/
theorem parse_connectorCmds (cs : List ConnectorCmd) {done : List ConnectorCmd}
    (later : parse .commands rest = some more)
    : parse (.connectorCmds done) (cs.flatMap ConnectorCmd.tokens ++ .connEnd :: rest)
      = some (.connector (done ++ cs) :: more) := by
  induction cs generalizing done with
  | nil =>
      rw [List.append_nil]
      exact parse_complete rfl later
  | cons cmd cs ih =>
      have following := @ih (done ++ [cmd])
      rw [List.append_assoc, List.singleton_append] at following
      rw [List.flatMap_cons, List.append_assoc]
      cases cmd with
      | enableTls => exact parse_taken rfl following
      | enableStarttls => exact parse_taken rfl following
      | _ => exact parse_taken rfl (parse_taken rfl following)

theorem parse_command (cmd : Command) (later : parse .commands rest = some more)
    : parse .commands (cmd.tokens ++ rest) = some (cmd :: more) := by
  cases cmd with
  | connector cs =>
      have read := @parse_connectorCmds rest more cs [] later
      have moved : (Command.connector cs).tokens ++ rest
          = .connBegin :: (cs.flatMap ConnectorCmd.tokens ++ .connEnd :: rest) := by
        simp [Command.tokens]
      rw [moved]
      exact parse_taken rfl read
  | maxPostSize yytext => exact parse_taken rfl (parse_complete rfl later)
  | dbEngine yytext => exact parse_taken rfl (parse_complete rfl later)
  | dbServer yytext => exact parse_taken rfl (parse_complete rfl later)
  | dbUser yytext => exact parse_taken rfl (parse_complete rfl later)
  | dbPass yytext => exact parse_taken rfl (parse_complete rfl later)
  | dbPort yytext => exact parse_taken rfl (parse_complete rfl later)
  | hashSalt yytext => exact parse_taken rfl (parse_complete rfl later)
  | _ => exact parse_complete rfl later

/-- The parser reads the tokens of statements as these statements, and nothing else as them. -/
theorem parse_eq_some_iff
    : parse .commands tokens = some cmds ↔ tokens = cmds.flatMap Command.tokens := by
  constructor
  · intro read
    exact tokens_of_parse read
  · rintro rfl
    induction cmds with
    | nil => rfl
    | cons cmd cmds ih => exact parse_command cmd ih

end Grammar

-----------------------------------------------------------------------------------------
-- Files
-----------------------------------------------------------------------------------------

section Files

variable {cmds : List Command} {file text : Str}

/-- Statements that were printed are read back. -/
theorem statements_laid (printable : ∀ cmd ∈ cmds, cmd.Printable)
    (laid : Laid (cmds.flatMap Command.tokens) text)
    : statements text = some cmds := by
  have tokens : ∀ token ∈ cmds.flatMap Command.tokens, token.Printable := by
    intro token member
    obtain ⟨cmd, inside, member⟩ := List.mem_flatMap.mp member
    exact printable cmd inside token member
  rw [statements, yylex_laid laid tokens]
  exact parse_eq_some_iff.mpr rfl

/-- What was read can be printed. -/
theorem statements_printable (read : statements file = some cmds) : ∀ cmd ∈ cmds, cmd.Printable := by
  intro cmd member token inside
  have tokens := parse_eq_some_iff.mp read
  refine @yylex_printable token file ?_
  rw [tokens]
  exact List.mem_flatMap.mpr ⟨cmd, member, inside⟩

/-- A file that the parser takes can be laid out anew, with other comments and other space, and the
server starts with it as before. -/
theorem relaid_file_starts_alike (read : statements file = some cmds)
    (laid : Laid (cmds.flatMap Command.tokens) text)
    : statements text = some cmds ∧ ∀ host, startServer host text = startServer host file := by
  have again := statements_laid (statements_printable read) laid
  refine ⟨again, fun host => ?_⟩
  rw [startServer, startServer, again, read]

end Files

/-- One token a line. -/
def printTokens (tokens : List Token) : Str := tokens.flatMap (fun token => token.text ++ ['\n'])

theorem Laid.byte {tokens : List Token} {text : Str} {c : Char} (laid : Laid tokens text)
    (free : passed c = true)
    : Laid tokens (c :: text) := by
  cases laid with
  | nil filler => exact .nil (.byte free filler)
  | cons filler apart later => exact .cons (.byte free filler) apart later

/-- Induction on the tokens. -/
theorem laid_printTokens (tokens : List Token) : Laid tokens (printTokens tokens) := by
  induction tokens with
  | nil => exact .nil .nil
  | cons token tokens ih =>
      have newline : Laid tokens ('\n' :: printTokens tokens) := ih.byte (by decide)
      have apart : token.IsWord → ∀ c ∈ ('\n' :: printTokens tokens).head?, wordChar c = false := by
        rintro _ c ⟨⟩
        decide
      have line := Laid.cons .nil apart newline
      simpa [printTokens] using line

/-- A file with comments. -/
def commentedFile : Str :=
  "; SQLite\ndatabase-engine sqlite3\n<connector> | plain\n\tlisten ::1\n</connector>\n".toList

/-- The same on lines of their own. -/
theorem commentedFile_relaid
    : statements (printTokens [.dbEngine, .name "sqlite3".toList, .connBegin, .listenOn,
            .name "::1".toList, .connEnd])
          = some [.dbEngine "sqlite3".toList, .connector [.listenonSpec "::1".toList]]
        ∧ ∀ host, startServer host (printTokens [.dbEngine, .name "sqlite3".toList, .connBegin,
            .listenOn, .name "::1".toList, .connEnd])
          = startServer host commentedFile := by
  refine relaid_file_starts_alike ?_ (laid_printTokens _)
  unfold commentedFile
  rw [String.toList_ofList]
  decide +kernel

end WendzelNNTPd
