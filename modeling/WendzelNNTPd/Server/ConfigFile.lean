import WendzelNNTPd.Server.Session
import WendzelNNTPd.Database.Escaping

/-! The configuration file: the scanner of `config.l`, the grammar and the actions of `config.y`
in server mode, and the checks up to the main loop of `main`.
-/

namespace WendzelNNTPd

open CString

-----------------------------------------------------------------------------------------
-- config.l
-----------------------------------------------------------------------------------------

/-- The tokens; two of them are used with their text. -/
inductive Token
  | verboseMode
  | dbEngine
  | dbServer
  | dbUser
  | dbPass
  | dbPort
  | useAuth
  | useAcl
  | messageBodyInDb
  | messageCountInDb
  | anonymMids
  | listenOn
  | port
  | maxPostSize
  | dynipdev
  | clientLimit
  | changeuid
  | changegid
  | hashsalt
  | tlsMandatory
  | connBegin
  | tls
  | starttls
  | tlsCiphers
  | tlsCipherSuites
  | tlsCert
  | tlsKey
  | tlsCaCert
  | tlsVersion
  | tlsVersionString (yytext : Str)
  | tlsVerifyClient
  | tlsVerifyClientDepth
  | tlsCrl
  | tlsCrlFile
  | connEnd
  | name (yytext : Str)
  | eof
  deriving DecidableEq, Repr

/-- The rules for words. -/
def keywords : List (Str × Token) :=
  [("verbose-mode".toList, .verboseMode), ("database-engine".toList, .dbEngine),
    ("database-server".toList, .dbServer), ("database-username".toList, .dbUser),
    ("database-password".toList, .dbPass), ("database-port".toList, .dbPort),
    ("use-authentication".toList, .useAuth), ("use-acl".toList, .useAcl),
    ("message-body-in-db".toList, .messageBodyInDb),
    ("message-count-in-db".toList, .messageCountInDb), ("enable-anonym-mids".toList, .anonymMids),
    ("listen".toList, .listenOn), ("port".toList, .port),
    ("max-size-of-postings".toList, .maxPostSize), ("dynamic-ip-device".toList, .dynipdev),
    ("client-limit".toList, .clientLimit), ("change-uid".toList, .changeuid),
    ("change-gid".toList, .changegid), ("hash-salt".toList, .hashsalt),
    ("tls-is-mandatory".toList, .tlsMandatory), ("enable-tls".toList, .tls),
    ("enable-starttls".toList, .starttls), ("tls-ciphers".toList, .tlsCiphers),
    ("tls-cipher-suites".toList, .tlsCipherSuites), ("tls-server-certificate".toList, .tlsCert),
    ("tls-server-key".toList, .tlsKey), ("tls-ca-certificate".toList, .tlsCaCert),
    ("tls-version".toList, .tlsVersion), ("tls-verify-client".toList, .tlsVerifyClient),
    ("tls-verify-client-depth".toList, .tlsVerifyClientDepth), ("tls-crl".toList, .tlsCrl),
    ("tls-crl-file".toList, .tlsCrlFile)]

/-- `[a-zA-Z0-9\.\:\\\/\-\_!]` -/
def wordChar (c : Char) : Bool :=
  isalnum c || c == '.' || c == ':' || c == '\\' || c == '/' || c == '-' || c == '_' || c == '!'

/-- `1\.[0-3]-1\.[0-3]` -/
def isVersionString : Str → Bool
  | ['1', '.', a, '-', '1', '.', b] => ('0' ≤ a && a ≤ '3') && ('0' ≤ b && b ≤ '3')
  | _ => false

/-- The token of a longest word: of two rules that match all of it, the first one counts. -/
def wordToken (word : Str) : Token :=
  match keywords.lookup word with
  | some token => token
  | none => if isVersionString word then .tlsVersionString word else .name word

/-- The rule that applies at the beginning of a text: the length of the match and its token. A byte
that no rule matches is passed over, so is a comment without a newline behind it. -/
def lexRule : Str → Nat × Option Token
  | [] => (0, none)
  | c :: cs =>
      if wordChar c then
        ((c :: cs).takeWhile wordChar |>.length, some (wordToken ((c :: cs).takeWhile wordChar)))
      else if c = ';' ∨ c = '|' then
        if '\n' ∈ cs then ((cs.takeWhile (· != '\n')).length + 2, none) else (1, none)
      else if "<connector>".toList.isPrefixOf (c :: cs) then (11, some .connBegin)
      else if "</connector>".toList.isPrefixOf (c :: cs) then (12, some .connEnd)
      else if c = NUL then (1, some .eof)
      else (1, none)

/-- The tokens that `yylex` returns for a text; `skip` bytes belong to the last match. -/
def yylex (skip : Nat) : Str → List Token
  | [] => []
  | c :: cs =>
      match skip with
      | skip + 1 => yylex skip cs
      | 0 => (lexRule (c :: cs)).2.toList ++ yylex ((lexRule (c :: cs)).1 - 1) cs

-----------------------------------------------------------------------------------------
-- The grammar of config.y
-----------------------------------------------------------------------------------------

/-- `connectorCmd`, with the text of its second token. -/
inductive ConnectorCmd
  | usePort (yytext : Str)
  | listenonSpec (yytext : Str)
  | enableTls
  | enableStarttls
  | tlsCiphers (yytext : Str)
  | tlsCipherSuites (yytext : Str)
  | tlsCert (yytext : Str)
  | tlsKey (yytext : Str)
  | tlsCaCert (yytext : Str)
  | tlsVersion (yytext : Str)
  | tlsVerifyClient (yytext : Str)
  | tlsVerifyClientDepth (yytext : Str)
  | tlsCrl (yytext : Str)
  | tlsCrlFile (yytext : Str)
  deriving DecidableEq, Repr

/-- `command` and `connector` -/
inductive Command
  | beVerbose
  | anonMessageIds
  | useAuth
  | useAcl
  | maxPostSize (yytext : Str)
  | dbEngine (yytext : Str)
  | dbServer (yytext : Str)
  | dbUser (yytext : Str)
  | dbPass (yytext : Str)
  | dbPort (yytext : Str)
  | hashSalt (yytext : Str)
  | messageBodyInDb
  | messageCountInDb
  | tlsMandatory
  | eof
  | connector (cmds : List ConnectorCmd)
  deriving DecidableEq, Repr

/-- The commands of one token. -/
def Token.command : Token → Option Command
  | .verboseMode => some .beVerbose
  | .anonymMids => some .anonMessageIds
  | .useAuth => some .useAuth
  | .useAcl => some .useAcl
  | .messageBodyInDb => some .messageBodyInDb
  | .messageCountInDb => some .messageCountInDb
  | .tlsMandatory => some .tlsMandatory
  | .eof => some .eof
  | _ => none

/-- The commands of a token and a name. -/
def Token.namedCommand : Token → Option (Str → Command)
  | .maxPostSize => some .maxPostSize
  | .dbEngine => some .dbEngine
  | .dbServer => some .dbServer
  | .dbUser => some .dbUser
  | .dbPass => some .dbPass
  | .dbPort => some .dbPort
  | .hashsalt => some .hashSalt
  | _ => none

def Token.connectorCmd : Token → Option ConnectorCmd
  | .tls => some .enableTls
  | .starttls => some .enableStarttls
  | _ => none

def Token.namedConnectorCmd : Token → Option (Str → ConnectorCmd)
  | .port => some .usePort
  | .listenOn => some .listenonSpec
  | .tlsCiphers => some .tlsCiphers
  | .tlsCipherSuites => some .tlsCipherSuites
  | .tlsCert => some .tlsCert
  | .tlsKey => some .tlsKey
  | .tlsCaCert => some .tlsCaCert
  | .tlsVerifyClient => some .tlsVerifyClient
  | .tlsVerifyClientDepth => some .tlsVerifyClientDepth
  | .tlsCrl => some .tlsCrl
  | .tlsCrlFile => some .tlsCrlFile
  | _ => none

/-- Where the parser stands: between statements, behind the keyword of a statement that takes an
argument, or within a connector with the commands read so far. -/
inductive ParserState
  | commands
  | argument (keyword : Token)
  | connectorCmds (cmds : List ConnectorCmd)
  | connectorArgument (cmds : List ConnectorCmd) (keyword : Token)
  deriving DecidableEq, Repr

/-- The argument of a connector's command. -/
def connectorArgument (keyword token : Token) : Option ConnectorCmd :=
  match keyword, token with
  | .tlsVersion, .tlsVersionString yytext => some (.tlsVersion yytext)
  | keyword, .name yytext => keyword.namedConnectorCmd.map (fun cmd => cmd yytext)
  | _, _ => none

/-- One token: the next state and the statement that is complete with it. `none` is a syntax
error. -/
def parseToken : ParserState → Token → Option (ParserState × List Command)
  | .commands, token =>
      match token.command with
      | some cmd => some (.commands, [cmd])
      | none =>
          if token.namedCommand.isSome then some (.argument token, [])
          else if token = .connBegin then some (.connectorCmds [], [])
          else none
  | .argument keyword, .name yytext =>
      keyword.namedCommand.map (fun cmd => (.commands, [cmd yytext]))
  | .argument _, _ => none
  | .connectorCmds cmds, token =>
      match token.connectorCmd with
      | some cmd => some (.connectorCmds (cmds ++ [cmd]), [])
      | none =>
          if token.namedConnectorCmd.isSome ∨ token = .tlsVersion then
            some (.connectorArgument cmds token, [])
          else if token = .connEnd then some (.commands, [.connector cmds])
          else none
  | .connectorArgument cmds keyword, token =>
      (connectorArgument keyword token).map (fun cmd => (.connectorCmds (cmds ++ [cmd]), []))

/-- The statements of a token list. -/
def parse : ParserState → List Token → Option (List Command)
  | .commands, [] => some []
  | _, [] => none
  | state, token :: rest => do
      let (next, cmds) ← parseToken state token
      let more ← parse next rest
      pure (cmds ++ more)

/-- The statements of a configuration file. -/
def statements (file : Str) : Option (List Command) := parse .commands (yylex 0 file)

-----------------------------------------------------------------------------------------
-- Connectors and settings
-----------------------------------------------------------------------------------------

inductive VerifyClient
  | undev
  | none
  | optional
  | require
  deriving DecidableEq, Repr

inductive Crl
  | undev
  | none
  | leaf
  | chain
  deriving DecidableEq, Repr

/-- `connectorinfo_t`; a TLS version is the digit behind `1.`, and `ctx` is whether the context is
there. -/
structure Connectorinfo where
  port : Nat
  listen : Option Str
  enableTls : Bool
  enableStarttls : Bool
  ciphers : Option Str
  cipherSuites : Option Str
  serverCertFile : Option Str
  serverKeyFile : Option Str
  tlsMinimumVersion : Nat
  tlsMaximumVersion : Nat
  caCertFile : Option Str
  tlsVerifyClient : VerifyClient
  tlsVerifyClientDepth : Int
  tlsCrl : Crl
  tlsCrlFile : Option Str
  ctx : Bool
  deriving DecidableEq, Repr

/-- The action of `connectorBegin`. -/
def connectorBegin : Connectorinfo where
  port := 0
  listen := none
  enableTls := false
  enableStarttls := false
  ciphers := none
  cipherSuites := none
  serverCertFile := none
  serverKeyFile := none
  tlsMinimumVersion := 2
  tlsMaximumVersion := 3
  caCertFile := none
  tlsVerifyClient := .undev
  tlsVerifyClientDepth := 10
  tlsCrl := .undev
  tlsCrlFile := none
  ctx := false

inductive Family
  | inet
  | inet6
  deriving DecidableEq, Repr

/-- A listener: what `start_listeners` puts into `sockinfo`. -/
structure Listener where
  connectorinfo : Connectorinfo
  family : Family
  deriving DecidableEq, Repr

/-- The global variables of `config.y`; without a `dbase` it is `DBASE_NONE`. -/
structure Settings where
  sockinfo : List Listener
  maxPostSize : Int
  useAuth : Bool
  useAcl : Bool
  beVerbose : Bool
  anonymMessageIds : Bool
  dbase : Option Dbase
  messageBodyInDb : Bool
  messageCountInDb : Bool
  dbServer : Option Str
  dbUser : Option Str
  dbPass : Option Str
  dbPort : Nat
  hashSalt : Str
  tlsIsMandatory : Bool
  deriving DecidableEq, Repr

def Settings.initial : Settings where
  sockinfo := []
  maxPostSize := 20 * 1024 * 1024
  useAuth := false
  useAcl := false
  beVerbose := false
  anonymMessageIds := false
  dbase := none
  messageBodyInDb := false
  messageCountInDb := false
  dbServer := none
  dbUser := none
  dbPass := none
  dbPort := 0
  hashSalt := "default-hash-salt-0_----3331".toList
  tlsIsMandatory := false

/-- What the operating system, OpenSSL and the database answer during the start. -/
structure Host where
  /-- `access(path, R_OK) == 0` -/
  readable : Str → Bool
  /-- `inet_pton` -/
  inetPton : Family → Str → Bool
  /-- Whether `socket`, `bind` and `listen` succeed. -/
  binds : Family → Connectorinfo → Bool
  /-- Whether the calls of OpenSSL in `tls_global_init` succeed. -/
  tlsContext : Connectorinfo → Bool
  /-- Whether `db_open_connection` succeeds. -/
  dbOpens : Settings → Bool

-----------------------------------------------------------------------------------------
-- The actions of config.y
-----------------------------------------------------------------------------------------

/-- An assignment that only the first statement of its kind makes. -/
def firstOnly (old : Option Str) (yytext : Str) : Option Str := some (old.getD yytext)

/-- The digits of a version string, the smaller one first. -/
def versionDigits (yytext : Str) : Nat × Nat :=
  let minimum := (byteAt yytext 2).toNat - '0'.toNat
  let maximum := (byteAt yytext 6).toNat - '0'.toNat
  (min minimum maximum, max minimum maximum)

/-- The actions within a connector; `none` is an `exit`. -/
def connectorAction (c : Connectorinfo) : ConnectorCmd → Option Connectorinfo
  | .usePort yytext =>
      if c.port = 0 ∧ atoiU32 yytext % 2 ^ 16 ≠ 0 then
        some { c with port := atoiU32 yytext % 2 ^ 16 }
      else none
  | .listenonSpec yytext => if c.listen.isNone then some { c with listen := some yytext } else none
  | .enableTls => some { c with enableTls := true }
  | .enableStarttls => some { c with enableStarttls := true }
  | .tlsCiphers yytext => some { c with ciphers := firstOnly c.ciphers yytext }
  | .tlsCipherSuites yytext => some { c with cipherSuites := firstOnly c.cipherSuites yytext }
  | .tlsCert yytext => some { c with serverCertFile := firstOnly c.serverCertFile yytext }
  | .tlsKey yytext => some { c with serverKeyFile := firstOnly c.serverKeyFile yytext }
  | .tlsCaCert yytext => some { c with caCertFile := firstOnly c.caCertFile yytext }
  | .tlsVersion yytext =>
      some
        { c with
          tlsMinimumVersion := (versionDigits yytext).1
          tlsMaximumVersion := (versionDigits yytext).2 }
  | .tlsVerifyClient yytext =>
      some
        { c with
          tlsVerifyClient :=
            if "none".toList.isPrefixOf yytext then .none
            else if "optional".toList.isPrefixOf yytext then .optional
            else if "require".toList.isPrefixOf yytext then .require
            else c.tlsVerifyClient }
  | .tlsVerifyClientDepth yytext =>
      some
        { c with
          tlsVerifyClientDepth :=
            if asInt32 (atoiU32 yytext) > 128 then 10 else asInt32 (atoiU32 yytext) }
  | .tlsCrl yytext =>
      some
        { c with
          tlsCrl :=
            if "none".toList.isPrefixOf yytext then .none
            else if "leaf".toList.isPrefixOf yytext then .leaf
            else if "chain".toList.isPrefixOf yytext then .chain
            else c.tlsCrl }
  | .tlsCrlFile yytext => some { c with tlsCrlFile := some yytext }

/-- `initialize_connector_ports` -/
def initializeConnectorPorts (c : Connectorinfo) : Connectorinfo :=
  { c with port := if c.enableTls then 563 else 119 }

/-- `check_tls_prerequisites` -/
def checkTlsPrerequisites (host : Host) (c : Connectorinfo) : Bool :=
  match c.serverCertFile, c.serverKeyFile with
  | some cert, some key => host.readable cert && host.readable key
  | _, _ => false

/-- `tls_global_init`; `none` is one of its exits. -/
def tlsGlobalInit (host : Host) (c : Connectorinfo) : Option Connectorinfo :=
  if host.tlsContext c then some { c with ctx := true } else none

/-- `start_listeners` -/
def startListeners (host : Host) (c : Connectorinfo) (listen : Str) : Option Listener :=
  if host.inetPton .inet listen then if host.binds .inet c then some ⟨c, .inet⟩ else none
  else if host.inetPton .inet6 listen then if host.binds .inet6 c then some ⟨c, .inet6⟩ else none
  else none

/-- The TLS part of `connectorEnd`. A failed check of the prerequisites is only reported. -/
def connectorTls (host : Host) (c : Connectorinfo) : Option Connectorinfo :=
  if (c.enableTls || c.enableStarttls) && checkTlsPrerequisites host c then tlsGlobalInit host c
  else some c

/-- The action of `connectorEnd`. -/
def connectorEnd (host : Host) (c : Connectorinfo) : Option Listener := do
  let c := if c.port = 0 then initializeConnectorPorts c else c
  let listen ← c.listen
  let c ← connectorTls host c
  startListeners host c listen

/-- The engine that a name selects: any beginning of an engine's name does. -/
def engineNamed (yytext : Str) : Option Dbase :=
  if yytext.isPrefixOf "sqlite3".toList then some .sqlite3
  else if yytext.isPrefixOf "mysql".toList then some .mysql
  else if yytext.isPrefixOf "postgres".toList then some .postgres
  else none

/-- The actions of the statements; `none` is an `exit`. -/
def action (host : Host) (g : Settings) : Command → Option Settings
  | .beVerbose => some { g with beVerbose := true }
  | .anonMessageIds => some { g with anonymMessageIds := true }
  | .useAuth => some { g with useAuth := true }
  | .useAcl => if g.useAuth then some { g with useAcl := true } else none
  | .maxPostSize yytext =>
      if asInt32 (atoiU32 yytext) = 0 then none
      else some { g with maxPostSize := asInt32 (atoiU32 yytext) }
  | .dbEngine yytext => (engineNamed yytext).map (fun dbase => { g with dbase := some dbase })
  | .dbServer yytext => some { g with dbServer := some yytext }
  | .dbUser yytext => some { g with dbUser := some yytext }
  | .dbPass yytext => some { g with dbPass := some yytext }
  | .dbPort yytext =>
      if atoiU32 yytext % 2 ^ 16 = 0 then none
      else some { g with dbPort := atoiU32 yytext % 2 ^ 16 }
  | .hashSalt yytext => some { g with hashSalt := yytext }
  | .messageBodyInDb =>
      if g.dbase = some .postgres then some { g with messageBodyInDb := true } else none
  | .messageCountInDb =>
      if g.dbase = some .postgres then some { g with messageCountInDb := true } else none
  | .tlsMandatory => some { g with tlsIsMandatory := true }
  | .eof => some g
  | .connector cmds => do
      let c ← cmds.foldlM connectorAction connectorBegin
      let listener ← connectorEnd host c
      pure { g with sockinfo := g.sockinfo ++ [listener] }

-----------------------------------------------------------------------------------------
-- The start of the server
-----------------------------------------------------------------------------------------

/-- The checks of `basic_setup_server` behind the parser, with the default ports. -/
def checkSettings (g : Settings) : Option Settings :=
  if g.sockinfo = [] then none
  else if (g.dbase = some .mysql ∨ g.dbase = some .postgres)
    ∧ (g.dbServer.isNone ∨ g.dbUser.isNone ∨ g.dbPass.isNone) then none
  else if g.dbPort = 0 then
    match g.dbase with
    | some .sqlite3 => some g
    | some .mysql => some { g with dbPort := 3306 }
    | some .postgres => some { g with dbPort := 5432 }
    | none => none
  else some g

/-- `check_db_` -/
def checkDb (host : Host) (g : Settings) : Option Settings :=
  if g.dbase.isSome ∧ host.dbOpens g then some g else none

/-- `main` up to its main loop. An action that exits and a syntax error both end the process, so it
does not matter that the parser runs each action when its statement is complete. -/
def startServer (host : Host) (file : Str) : Option Settings := do
  let cmds ← statements file
  let g ← cmds.foldlM (action host) Settings.initial
  let g ← checkSettings g
  checkDb host g

end WendzelNNTPd
