import WendzelNNTPd.Database.Sqlite3
import WendzelNNTPd.Database.Escaping

/-! The command handlers of `server.c` other than POST. -/

namespace WendzelNNTPd

open CString Atomic

-----------------------------------------------------------------------------------------
-- AUTHINFO, CAPABILITIES, STARTTLS, DATE
-----------------------------------------------------------------------------------------

/-- `get_sha256_hash_from_str` -/
def getSha256HashFromStr (ext : Extern) (cfg : Config) (username password : Str) : Str :=
  ext.sha256hex (cfg.hashSalt ++ username ++ password)

def docmdAuthinfoUser (cmdstring : Str) : Srv Unit := do
  modify (fun s => { s with authIsThere := false })
  match getSlinearg cmdstring 2 with
  | none => toSend parameterMiss
  | some user => do
      modify (fun s => { s with curAuthUser := some user })
      toSend needMoreInf

def docmdAuthinfoPass (ext : Extern) (cfg : Config) (cmdstring : Str) : Srv Unit := do
  modify (fun s => { s with authIsThere := false })
  let s ← get
  match s.curAuthUser with
  | none => toSend needMoreInf
  | some user =>
      match getSlinearg cmdstring 2 with
      | none => toSend parameterMiss
      | some pass => do
          modify (fun s => { s with curAuthPass := some (getSha256HashFromStr ext cfg user pass) })
          dbAuthinfoCheck
          let s ← get
          toSend (if s.authIsThere then authAccept else authReject)
          modify (fun s =>
            { s with
              curAuthUser := if cfg.useAcl then s.curAuthUser else none
              curAuthPass := none })

def docmdCapabilities (cfg : Config) : Srv Unit := do
  let s ← get
  toSend capsstring
  toSend capsstringVersion
  toSend capsstringAuthinfo
  toSend capsstringList
  if !s.tlsActive && cfg.enableStarttls && (!cfg.useAuth || !s.authIsThere) then
    toSend capsstringStarttls
  if !s.tlsActive then
    toSend capsstringModereader
  toSend capsstringPost
  toSend periodEnd

def docmdStarttls (cfg : Config) : Srv Unit := do
  let s ← get
  if s.tlsActive then toSend starttlsNotallowed
  else if !cfg.enableStarttls then toSend cmdNotSupported
  else if cfg.useAuth && s.authIsThere then toSend cmdNotSupported
  else do
    modify (fun s => { s with switchToTls := true })
    toSend tlsConnect

def docmdDate (env : Env) : Srv Unit := toSend env.dateText

-----------------------------------------------------------------------------------------
-- LIST, LIST NEWSGROUPS, XGTITLE
-----------------------------------------------------------------------------------------

def docmdList (ext : Extern) (cfg : Config) (cmdstring : Str) (cmdtyp : ListCmdtyp)
    : Srv Unit :=
  match cmdtyp with
  | .list => list listReply none
  | .xgtitle =>
      match getSlinearg cmdstring 1 with
      | none => toSend parameterMiss
      | some wildmat => list xgtitleReply (some wildmat)
  | .listNewsgroups =>
      list listNewsgroupsReply (some ((getSlinearg cmdstring 2).getD ".*".toList))
where
  list (reply : Str) (wildmat : Option Str) : Srv Unit := do
    toSend reply
    dbList ext cfg cmdtyp wildmat
    toSend periodEnd

-----------------------------------------------------------------------------------------
-- XHDR and XOVER
-----------------------------------------------------------------------------------------

/-- The header field named by the first argument of XHDR. -/
def xhdrPart (arg : Str) : Option XhdrPart :=
  if caseEqPrefix "from".toList arg then some .from
  else if caseEqPrefix "date".toList arg then some .date
  else if caseEqPrefix "newsgroups".toList arg then some .newsgroups
  else if caseEqPrefix "subject".toList arg then some .subject
  else if caseEqPrefix "lines".toList arg then some .lines
  else none

/-- The loop of XHDR and XOVER that looks for a `-`: it stops behind the byte at which
`max` equals `realMax`, and returns `max` and the rest of the argument. -/
def scanDash (realMax max : Nat) : Str → Nat × Str
  | [] => (max, [])
  | c :: cs =>
      if max = realMax then (max, c :: cs)
      else scanDash realMax (if c = '-' then realMax else max) cs

/-- The numbers `min` and `max` of a range argument. -/
def articleRange (realMax : Nat) (arg : Str) : Nat × Nat :=
  let min := atoiU32 arg
  let (max, rest) := scanDash realMax min arg
  if max = realMax ∧ !rest.isEmpty then
    (min, if atoiU32 rest = 0 then realMax else atoiU32 rest)
  else (min, max)

/-- The part of `docmd_xhdr` behind the choice of the header field. -/
def xhdrArticles (ext : Extern) (cmdstring group : Str) (realMax : Nat) (part : XhdrPart)
    : Srv Unit := do
  let s ← get
  match getSlinearg cmdstring 2 with
  | none =>
      match s.selectedArticle with
      | none => toSend noarticleselected
      | some article => range (atoiU32 article) (atoiU32 article)
  | some arg =>
      if arg.head? = some '<' then do
        let there ← dbChkIfMsgidExists group arg
        if there then reply (some arg) 0 0 else toSend noarticleselected
      else range (articleRange realMax arg).1 (articleRange realMax arg).2
where
  range (min max : Nat) : Srv Unit :=
    if min > realMax ∨ max > realMax ∨ min > max then toSend noarticleselected
    else reply none min max
  reply (msgid : Option Str) (min max : Nat) : Srv Unit := do
    toSend xhdrReply
    dbXhdr ext part group msgid min max
    toSend periodEnd

def docmdXhdr (ext : Extern) (env : Env) (cmdstring : Str) : Srv Unit := do
  let s ← get
  match s.selectedGroup with
  | none => toSend nogroupselected
  | some group => do
      let realMax ← dbGetHighValue env group
      match getSlinearg cmdstring 1 with
      | none => toSend noarticleselected
      | some arg =>
          match xhdrPart arg with
          | none => toSend xhdrHdrnotpresent
          | some part => do
              modify (fun s => { s with speccmd := if part = .date then .date else s.speccmd })
              xhdrArticles ext cmdstring group realMax part

def docmdXover (ext : Extern) (env : Env) (cmdstring : Str) : Srv Unit := do
  let s ← get
  match s.selectedGroup with
  | none => toSend nogroupselected
  | some group => do
      let realMax ← dbGetHighValue env group
      match getSlinearg cmdstring 1 with
      | none =>
          match s.selectedArticle with
          | none => toSend noarticleselected
          | some article => range group realMax (atoiU32 article) (atoiU32 article)
      | some arg => range group realMax (articleRange realMax arg).1 (articleRange realMax arg).2
where
  range (group : Str) (realMax min max : Nat) : Srv Unit :=
    if min > realMax ∨ min > max then toSend noarticleselected
    else do
      toSend xoverReply
      dbXover ext group min max
      toSend periodEnd

-----------------------------------------------------------------------------------------
-- ARTICLE, HEAD, BODY, STAT
-----------------------------------------------------------------------------------------

/-- The command a handler call of `docmd_article` stands for, by its first letter. -/
def cmdtypeOf (cmdstring : Str) (old : Cmdtype) : Cmdtype :=
  match cmdstring.head? with
  | some 'A' | some 'a' => .article
  | some 'H' | some 'h' => .head
  | some 'B' | some 'b' => .body
  | some 'S' | some 's' => .stat
  | _ => old

/-- How an article is addressed; `none` is an argument of no valid form. A message id ends
behind its first `>`. -/
def artcltyp (param : Option Str) : Option Artcltyp :=
  match param with
  | none => some .current
  | some [] => none
  | some (c :: cs) =>
      if c = '<' then
        match strstr ['>'] (c :: cs) with
        | none => none
        | some i => some (.messageId ((c :: cs).take (i + 1)))
      else if '0' ≤ c ∧ c ≤ '9' then some (.number (c :: cs))
      else none

def docmdArticle (cfg : Config) (cmdstring : Str) : Srv Unit := do
  modify (fun s => { s with foundArticle := false, cmdtype := cmdtypeOf cmdstring s.cmdtype })
  let s ← get
  match s.selectedGroup with
  | none => toSend nogroupselected
  | some group =>
      match artcltyp (getSlinearg cmdstring 1) with
      | none => toSend noarticleselected
      | some .current =>
          if s.selectedArticle = none then toSend noarticleselected
          else retrieve group .current
      | some type => retrieve group type
where
  retrieve (group : Str) (type : Artcltyp) : Srv Unit := do
    dbArticle cfg group type
    let s ← get
    if s.foundArticle then pure () else toSend nosucharticle

-----------------------------------------------------------------------------------------
-- GROUP and LISTGROUP
-----------------------------------------------------------------------------------------

def docmdGroup (cfg : Config) (cmdstring : Str) : Srv Unit := do
  let old ← get
  match getSlinearg cmdstring 1 with
  | none => toSend parameterMiss
  | some ptr => do
      modify (fun s => { s with chkname := some ptr, foundGroup := false })
      dbCheckNewsgroupExistence
      let s ← get
      if !s.foundGroup then do
        toSend nosuchgroup
        modify (fun s => { s with foundGroup := old.foundGroup })
      else if cfg.useAuth && cfg.useAcl then do
        let allowed ← aclCheckUserGroup s.curAuthUser ptr
        if allowed then dbGroup ptr else toSend nosuchgroup
      else dbGroup ptr

def docmdListgroup (cfg : Config) (cmdstring : Str) : Srv Unit := do
  let s ← get
  match getSlinearg cmdstring 1 with
  | none =>
      match s.selectedGroup with
      | none => toSend nogroupselected
      | some group => listing group
  | some ptr => do
      modify (fun s => { s with chkname := some ptr })
      dbCheckNewsgroupExistence
      let found ← get
      if !found.foundGroup then do
        modify (fun t => { t with foundGroup := s.foundGroup })
        toSend nosuchgroup
      else do
        -- the group is selected before the access check
        modify (fun s => { s with selectedGroup := some ptr })
        listing ptr
where
  listing (group : Str) : Srv Unit := do
    let s ← get
    if cfg.useAuth && cfg.useAcl then do
      let allowed ← aclCheckUserGroup s.curAuthUser group
      if allowed then reply group else toSend nosuchgroup
    else reply group
  reply (group : Str) : Srv Unit := do
    toSend articleListFollows
    dbListgroup group

end WendzelNNTPd
