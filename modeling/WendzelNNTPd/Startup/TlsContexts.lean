import WendzelNNTPd.Access.TlsSwitch
import WendzelNNTPd.Startup.InDatabase

/-! The TLS contexts of the listeners. The end of a connector makes the context if certificate and
key are there, and starts the listener in any case; the sessions use the context because of the
connector's flags.
-/

namespace WendzelNNTPd

open CString Atomic

section Connectors

def ConnectorCmd.cert : ConnectorCmd → Option Str
  | .tlsCert yytext => some yytext
  | _ => none

def ConnectorCmd.key : ConnectorCmd → Option Str
  | .tlsKey yytext => some yytext
  | _ => none

/-- The file of the first statement of its kind. -/
def firstFile (kind : ConnectorCmd → Option Str) (cs : List ConnectorCmd) : Option Str :=
  cs.findSome? kind

/-- The connector asks for TLS at once or on demand. -/
def AsksForTls (cs : List ConnectorCmd) : Prop := .enableTls ∈ cs ∨ .enableStarttls ∈ cs

/-- A connector that asks for TLS names a certificate and a key that can be read. -/
def ConnectorReady (host : Host) (cs : List ConnectorCmd) : Prop :=
  AsksForTls cs →
    (∃ cert, firstFile ConnectorCmd.cert cs = some cert ∧ host.readable cert = true)
    ∧ ∃ key, firstFile ConnectorCmd.key cs = some key ∧ host.readable key = true

/-- What the commands of a connector do to the fields in question. -/
structure ConnectorEffect (cs : List ConnectorCmd) (c c' : Connectorinfo) : Prop where
  enableTls : c'.enableTls = true ↔ .enableTls ∈ cs ∨ c.enableTls = true
  enableStarttls : c'.enableStarttls = true ↔ .enableStarttls ∈ cs ∨ c.enableStarttls = true
  serverCertFile : c'.serverCertFile = c.serverCertFile.or (firstFile ConnectorCmd.cert cs)
  serverKeyFile : c'.serverKeyFile = c.serverKeyFile.or (firstFile ConnectorCmd.key cs)
  ctx : c'.ctx = c.ctx

theorem firstOnly_eq (old : Option Str) (yytext : Str) : firstOnly old yytext = old.or (some yytext) := by
  cases old with
  | none => rfl
  | some _ => rfl

theorem connectorAction_effect {cmd : ConnectorCmd} {c c' : Connectorinfo}
    (ran : connectorAction c cmd = some c')
    : ConnectorEffect [cmd] c c' := by
  have other (h : c'.enableTls = c.enableTls ∧ c'.enableStarttls = c.enableStarttls
        ∧ c'.serverCertFile = c.serverCertFile ∧ c'.serverKeyFile = c.serverKeyFile
        ∧ c'.ctx = c.ctx)
      (tls : cmd ≠ .enableTls) (starttls : cmd ≠ .enableStarttls) (cert : cmd.cert = none)
      (key : cmd.key = none)
      : ConnectorEffect [cmd] c c' := by
    obtain ⟨sameTls, sameStarttls, sameCert, sameKey, sameCtx⟩ := h
    refine ⟨?_, ?_, ?_, ?_, sameCtx⟩
    · rw [sameTls, List.mem_singleton]
      simp [tls.symm]
    · rw [sameStarttls, List.mem_singleton]
      simp [starttls.symm]
    · simp [firstFile, cert, sameCert]
    · simp [firstFile, key, sameKey]
  cases cmd with
  | usePort yytext =>
      rw [connectorAction] at ran
      split at ran
      · cases ran
        exact other ⟨rfl, rfl, rfl, rfl, rfl⟩ nofun nofun rfl rfl
      · cases ran
  | listenonSpec yytext =>
      rw [connectorAction] at ran
      split at ran
      · cases ran
        exact other ⟨rfl, rfl, rfl, rfl, rfl⟩ nofun nofun rfl rfl
      · cases ran
  | enableTls =>
      cases ran
      exact ⟨by simp, by simp, by simp [firstFile, ConnectorCmd.cert],
        by simp [firstFile, ConnectorCmd.key], rfl⟩
  | enableStarttls =>
      cases ran
      exact ⟨by simp, by simp, by simp [firstFile, ConnectorCmd.cert],
        by simp [firstFile, ConnectorCmd.key], rfl⟩
  | tlsCert yytext =>
      cases ran
      exact ⟨by simp, by simp, firstOnly_eq _ _, by simp [firstFile, ConnectorCmd.key], rfl⟩
  | tlsKey yytext =>
      cases ran
      exact ⟨by simp, by simp, by simp [firstFile, ConnectorCmd.cert], firstOnly_eq _ _, rfl⟩
  | _ =>
      cases ran
      exact other ⟨rfl, rfl, rfl, rfl, rfl⟩ nofun nofun rfl rfl

theorem connectorActions_effect {cs : List ConnectorCmd} {c c' : Connectorinfo}
    (ran : cs.foldlM connectorAction c = some c')
    : ConnectorEffect cs c c' := by
  induction cs generalizing c with
  | nil =>
      obtain rfl : c = c' := Option.some.inj ran
      exact ⟨by simp, by simp, by simp [firstFile], by simp [firstFile], rfl⟩
  | cons cmd rest ih =>
      rw [List.foldlM_cons] at ran
      obtain ⟨next, first, more⟩ := Option.bind_eq_some_iff.mp ran
      have step := connectorAction_effect first
      have later := ih more
      have files (kind : ConnectorCmd → Option Str)
          : firstFile kind (cmd :: rest) = (firstFile kind [cmd]).or (firstFile kind rest) := by
        simp only [firstFile, List.findSome?_cons, List.findSome?_nil]
        cases kind cmd <;> rfl
      refine ⟨?_, ?_, ?_, ?_, later.ctx.trans step.ctx⟩
      · rw [later.enableTls, step.enableTls, List.mem_singleton, List.mem_cons]
        tauto
      · rw [later.enableStarttls, step.enableStarttls, List.mem_singleton, List.mem_cons]
        tauto
      · rw [later.serverCertFile, step.serverCertFile, files, Option.or_assoc]
      · rw [later.serverKeyFile, step.serverKeyFile, files, Option.or_assoc]

/-- A connector of the file and the listener that it gives. -/
def Made (host : Host) (cs : List ConnectorCmd) (l : Listener) : Prop :=
  ∃ c, cs.foldlM connectorAction connectorBegin = some c ∧ connectorEnd host c = some l

/-- The sessions of a listener use its context. -/
def Connectorinfo.UsesTls (c : Connectorinfo) : Prop := c.enableTls = true ∨ c.enableStarttls = true

theorem startListeners_connectorinfo {host : Host} {c : Connectorinfo} {listen : Str} {l : Listener}
    (started : startListeners host c listen = some l)
    : l.connectorinfo = c := by
  unfold startListeners at started
  split at started
  · split at started
    · cases started
      rfl
    · cases started
  · split at started
    · split at started
      · cases started
        rfl
      · cases started
    · cases started

/-- The context of a listener is there if TLS was asked for and the prerequisites hold. -/
theorem connectorEnd_context {host : Host} {c : Connectorinfo} {l : Listener} (fresh : c.ctx = false)
    (ended : connectorEnd host c = some l)
    : l.connectorinfo.enableTls = c.enableTls ∧ l.connectorinfo.enableStarttls = c.enableStarttls
      ∧ l.connectorinfo.ctx
        = ((c.enableTls || c.enableStarttls) && checkTlsPrerequisites host c) := by
  unfold connectorEnd at ended
  obtain ⟨listen, -, ended⟩ := Option.bind_eq_some_iff.mp ended
  obtain ⟨made, init, started⟩ := Option.bind_eq_some_iff.mp ended
  rw [startListeners_connectorinfo started]
  have port : ∀ c' : Connectorinfo, c' = (if c.port = 0 then initializeConnectorPorts c else c) →
      c'.enableTls = c.enableTls ∧ c'.enableStarttls = c.enableStarttls ∧ c'.ctx = c.ctx
      ∧ checkTlsPrerequisites host c' = checkTlsPrerequisites host c := by
    rintro c' rfl
    split
    · exact ⟨rfl, rfl, rfl, rfl⟩
    · exact ⟨rfl, rfl, rfl, rfl⟩
  obtain ⟨tls, starttls, ctx, prerequisites⟩ := port _ rfl
  generalize (if c.port = 0 then initializeConnectorPorts c else c) = c' at *
  rw [← tls, ← starttls, ← prerequisites]
  unfold connectorTls at init
  split at init
  · rename_i ready
    unfold tlsGlobalInit at init
    split at init
    · cases init
      exact ⟨rfl, rfl, ready.symm⟩
    · cases init
  · rename_i notReady
    cases init
    refine ⟨rfl, rfl, ?_⟩
    rw [ctx, fresh]
    exact (Bool.eq_false_iff.mpr notReady).symm

/-- A listener has its context exactly if its connector is ready. -/
theorem made_ready_iff {host : Host} {cs : List ConnectorCmd} {l : Listener} (made : Made host cs l)
    : (l.connectorinfo.UsesTls → l.connectorinfo.ctx = true) ↔ ConnectorReady host cs := by
  obtain ⟨c, actions, ended⟩ := made
  have effect := connectorActions_effect actions
  obtain ⟨tls, starttls, ctx⟩ := connectorEnd_context effect.ctx ended
  have asks : l.connectorinfo.UsesTls ↔ AsksForTls cs := by
    unfold Connectorinfo.UsesTls AsksForTls
    rw [tls, starttls, effect.enableTls, effect.enableStarttls]
    simp [connectorBegin]
  have cert : c.serverCertFile = firstFile ConnectorCmd.cert cs := effect.serverCertFile
  have key : c.serverKeyFile = firstFile ConnectorCmd.key cs := effect.serverKeyFile
  have checks : checkTlsPrerequisites host c = true
      ↔ (∃ cert, firstFile ConnectorCmd.cert cs = some cert ∧ host.readable cert = true)
        ∧ ∃ key, firstFile ConnectorCmd.key cs = some key ∧ host.readable key = true := by
    rw [← cert, ← key]
    unfold checkTlsPrerequisites
    cases c.serverCertFile with
    | none => simp
    | some _ =>
        cases c.serverKeyFile with
        | none => simp
        | some _ => simp
  unfold ConnectorReady
  rw [← checks, ← asks, ctx]
  have used : l.connectorinfo.UsesTls ↔ (c.enableTls || c.enableStarttls) = true := by
    rw [Connectorinfo.UsesTls, tls, starttls, Bool.or_eq_true]
  constructor
  · intro there uses
    exact (Bool.and_eq_true_iff.mp (there uses)).2
  · intro ready uses
    exact Bool.and_eq_true_iff.mpr ⟨used.mp uses, ready uses⟩

/-- The listeners of a file and its connectors. -/
structure ListenerEffect (host : Host) (cmds : List Command) (g g' : Settings) : Prop where
  made : ∀ l ∈ g'.sockinfo, l ∈ g.sockinfo ∨ ∃ cs, .connector cs ∈ cmds ∧ Made host cs l
  kept : ∀ l ∈ g.sockinfo, l ∈ g'.sockinfo
  all : ∀ cs, .connector cs ∈ cmds → ∃ l ∈ g'.sockinfo, Made host cs l

theorem action_listeners {host : Host} {cmd : Command} {g g' : Settings}
    (ran : action host g cmd = some g')
    : ListenerEffect host [cmd] g g' := by
  have other (same : g'.sockinfo = g.sockinfo) (notConnector : ∀ cs, cmd ≠ .connector cs)
      : ListenerEffect host [cmd] g g' := by
    refine ⟨fun l there => Or.inl (same ▸ there), fun l there => same ▸ there, fun cs there => ?_⟩
    exact absurd (List.mem_singleton.mp there).symm (notConnector cs)
  cases cmd with
  | connector cs =>
      obtain ⟨c, actions, more⟩ := Option.bind_eq_some_iff.mp ran
      obtain ⟨l, ended, done⟩ := Option.bind_eq_some_iff.mp more
      cases done
      refine ⟨fun l' there => ?_, fun l' there => List.mem_append_left _ there, fun cs' there => ?_⟩
      · rcases List.mem_append.mp there with old | new
        · exact Or.inl old
        · rw [List.mem_singleton.mp new]
          exact Or.inr ⟨cs, List.mem_singleton_self _, c, actions, ended⟩
      · cases List.mem_singleton.mp there
        exact ⟨l, List.mem_append_right _ (List.mem_singleton_self l), c, actions, ended⟩
  | dbEngine yytext =>
      obtain ⟨dbase, -, rfl⟩ := Option.map_eq_some_iff.mp ran
      exact other rfl (by simp)
  | useAcl | messageBodyInDb | messageCountInDb =>
      rw [action] at ran
      split at ran
      · cases ran
        exact other rfl (by simp)
      · cases ran
  | maxPostSize | dbPort =>
      rw [action] at ran
      split at ran
      · cases ran
      · cases ran
        exact other rfl (by simp)
  | _ =>
      cases ran
      exact other rfl (by simp)

theorem actions_listeners {host : Host} {cmds : List Command} {g g' : Settings}
    (ran : cmds.foldlM (action host) g = some g')
    : ListenerEffect host cmds g g' := by
  induction cmds generalizing g with
  | nil =>
      obtain rfl : g = g' := Option.some.inj ran
      exact ⟨fun _ => Or.inl, fun _ => id, nofun⟩
  | cons cmd rest ih =>
      rw [List.foldlM_cons] at ran
      obtain ⟨next, first, more⟩ := Option.bind_eq_some_iff.mp ran
      have step := action_listeners first
      have later := ih more
      refine ⟨fun l there => ?_, fun l there => later.kept l (step.kept l there), fun cs there => ?_⟩
      · rcases later.made l there with early | ⟨cs, member, made⟩
        · rcases step.made l early with old | ⟨cs, member, made⟩
          · exact Or.inl old
          · exact Or.inr ⟨cs, List.mem_singleton.mp member ▸ List.mem_cons_self, made⟩
        · exact Or.inr ⟨cs, List.mem_cons_of_mem _ member, made⟩
      · rcases List.mem_cons.mp there with rfl | inRest
        · obtain ⟨l, inNext, made⟩ := step.all cs (List.mem_singleton_self _)
          exact ⟨l, later.kept l inNext, made⟩
        · exact later.all cs inRest

end Connectors

section Sessions

variable {db : SrvBackend} {ext : Extern} {cfg : Config} {env : Env}

/-- A switch to TLS is due only on a connector with STARTTLS. -/
def StarttlsOnly (cfg : Config) (_pass : Option Str) (_tlsActive switchToTls : Bool) : Prop :=
  switchToTls = true → cfg.enableStarttls = true

theorem blinded_lastCommands_starttls (authenticated : Bool) (command : Str)
    : Blinded db.dbase ext (Session.Like db.dbase (StarttlsOnly cfg))
        (lastCommands cfg authenticated command) := by
  have starttls : Blinded db.dbase ext (Session.Like db.dbase (StarttlsOnly cfg))
      (docmdStarttls cfg) := by
    refine Blinded.read (fun r r' like => ?_)
    rw [← like.tlsActive, ← like.authIsThere]
    apply Blinded.ite (Blinded.toSend _)
    cases enabled : cfg.enableStarttls with
    | false => exact Blinded.toSend _
    | true =>
        refine Blinded.ite (Blinded.toSend _) (Blinded.ite (Blinded.toSend _) ?_)
        refine Blinded.bind (Blinded.modify (fun r r' like => ?_)) (fun _ => Blinded.toSend _)
        exact ⟨congrArg (fun v : View => { v with switchToTls := true }) like.view,
          fun _ => enabled⟩
  exact starttls.ite ((Blinded.toSend _).ite ((Blinded.toSend _).ite (Blinded.toSend _)))

theorem serveCommand_starttls (blinds : ∀ K, db.Blinds ext K) {recvbuf : Str} {r r' : Session}
    {s s' : Store} (known : r.switchToTls = true → cfg.enableStarttls = true)
    (ran : ((db.serveCommand ext cfg env recvbuf).run r).run (execOn db.dbase ext) s
      = (.ok ((), r'), s'))
    : r'.switchToTls = true → cfg.enableStarttls = true := by
  have stage : PassStage (StarttlsOnly cfg) (StarttlsOnly cfg) :=
    ⟨fun _ _ _ _ known => known, fun _ _ _ known => known⟩
  have blinded : Blinded db.dbase ext (Session.Like db.dbase (StarttlsOnly cfg))
      (db.serveCommand ext cfg env recvbuf) :=
    blinded_serveCommand stage blinds recvbuf (fun _ => blinded_lastCommands_starttls _ _)
  rcases Blind.run_cases blinded (⟨rfl, known⟩ : r.Like db.dbase _ r) s with
    ⟨_, t, t', s'', first, -, like⟩ | ⟨reason, s'', first, -⟩
  · rw [ran] at first
    cases first
    exact like.known
  · rw [ran] at first
    cases first

theorem serve_starttls (blinds : ∀ K, db.Blinds ext K) {conn conn' : Connection} {line : Line}
    (known : conn.session.switchToTls = true → cfg.enableStarttls = true)
    (served : db.serve ext cfg conn line = some conn')
    : conn'.session.switchToTls = true → cfg.enableStarttls = true := by
  have forgotten : Session.switchToTls { conn.session with sent := [] } = true →
      cfg.enableStarttls = true :=
    known
  unfold SrvBackend.serve SrvBackend.program at served
  rw [serveLine_cases] at served
  split at served
  · rename_i session store ran
    cases served
    split at ran
    · rename_i asked
      split at ran
      · exact serveCommand_starttls blinds (fun _ => forgotten asked) ran
      · cases ran
    · exact serveCommand_starttls blinds forgotten ran
  · cases served

/-- Over a whole run. -/
theorem serveRounds_starttls (blinds : ∀ K, db.Blinds ext K) {conn conn' : Connection}
    {rounds : List Round} (known : conn.session.switchToTls = true → cfg.enableStarttls = true)
    (served : db.serveRounds ext cfg conn rounds = some conn')
    : conn'.session.switchToTls = true → cfg.enableStarttls = true := by
  induction rounds generalizing conn with
  | nil =>
      cases served
      exact known
  | cons round rest ih =>
      obtain ⟨next, first, then'⟩ := Option.bind_eq_some_iff.mp served
      have kept : (conn.meanwhile round).session.switchToTls = true → cfg.enableStarttls = true :=
        known
      exact ih (serve_starttls blinds kept first) then'

end Sessions

section Contexts

/-- The session of a client on a listener comes to `tls_session_init`: at its start, or at the head
of the main loop behind any rounds of lines. -/
inductive RunsTlsSessionInit (servers : DbServers) (g : Settings) (c : Connectorinfo) : Prop
  | start (enabled : c.enableTls = true)
  | switch {dbase : Dbase} {ext : Extern} {cfg : Config} {cmdtype : Cmdtype} {speccmd : Speccmd}
      {store : Store} {rounds : List Round} {conn : Connection} (engine : g.dbase = some dbase)
      (follows : cfg.Follows g) (connector : cfg.enableStarttls = c.enableStarttls)
      (served : (srvBackend servers dbase).serveRounds ext cfg
        ⟨Session.fresh cfg c.enableTls cmdtype speccmd, store⟩ rounds = some conn)
      (asked : conn.session.switchToTls = true)

/-- Every listener whose connector asks for TLS has a context, and no client makes
`tls_session_init` run without one. -/
structure ContextsThere (servers : DbServers) (g : Settings) : Prop where
  listeners : ∀ l ∈ g.sockinfo, l.connectorinfo.UsesTls → l.connectorinfo.ctx = true
  sessions :
    ∀ l ∈ g.sockinfo, RunsTlsSessionInit servers g l.connectorinfo → l.connectorinfo.ctx = true

/-- Each connector of the file that asks for TLS names a certificate and a key that can be read. -/
def TlsPrepared (host : Host) (file : Str) : Prop :=
  ∀ cmds, statements file = some cmds → ∀ cs, .connector cs ∈ cmds → ConnectorReady host cs

/-- `tls_session_init` runs because of the connector's flags. -/
theorem usesTls_of_runs {servers : DbServers} {g : Settings} {c : Connectorinfo}
    (runs : RunsTlsSessionInit servers g c)
    : c.UsesTls := by
  cases runs with
  | start enabled => exact Or.inl enabled
  | switch engine follows connector served asked =>
      refine Or.inr (connector.symm.trans ?_)
      have calm {cfg : Config} {tls : Bool} {cmdtype : Cmdtype} {speccmd : Speccmd}
          : (Session.fresh cfg tls cmdtype speccmd).switchToTls = true →
            cfg.enableStarttls = true := by
        intro asked
        cases asked
      exact serveRounds_starttls (blinds servers _ _) calm served asked

/-- Whatever file a server has started with, its contexts are there exactly if each connector of the
file that asks for TLS names files that can be read. -/
theorem contextsThere_iff_tlsPrepared (servers : DbServers) {host : Host} {file : Str}
    {g : Settings} (serverStarted : startServer host file = some g)
    : ContextsThere servers g ↔ TlsPrepared host file := by
  obtain ⟨cmds, read, port, parsed, actions, rfl⟩ := startServer_cases serverStarted
  have effect := actions_listeners actions
  constructor
  · intro there cmds' parsed' cs member
    obtain rfl := Option.some.inj (parsed.symm.trans parsed')
    obtain ⟨l, inList, made⟩ := effect.all cs member
    exact (made_ready_iff made).mp (there.listeners l inList)
  · intro prepared
    have listeners : ∀ l ∈ read.sockinfo, l.connectorinfo.UsesTls → l.connectorinfo.ctx = true := by
      intro l inList
      rcases effect.made l inList with old | ⟨cs, member, made⟩
      · cases old
      · exact (made_ready_iff made).mpr (prepared cmds parsed cs member)
    exact ⟨listeners, fun l inList runs => listeners l inList (usesTls_of_runs runs)⟩

/-- A file with one connector. -/
def tlsFile (cert : String) : Str :=
  ("database-engine sqlite3\n<connector>\nlisten 0.0.0.0\nenable-starttls\n" ++ cert
    ++ "tls-server-key /key.pem\n</connector>\n").toList

theorem complete_connector_has_context
    : ∃ g, startServer sampleHost (tlsFile "tls-server-certificate /cert.pem\n") = some g
      ∧ ContextsThere sampleServers g := by
  have parsed : statements (tlsFile "tls-server-certificate /cert.pem\n")
      = some [.dbEngine "sqlite3".toList,
          .connector
            [.listenonSpec "0.0.0.0".toList, .enableStarttls, .tlsCert "/cert.pem".toList,
              .tlsKey "/key.pem".toList]] := by
    unfold tlsFile
    rw [String.toList_append, String.toList_append, String.toList_ofList, String.toList_ofList,
      String.toList_ofList]
    decide +kernel
  obtain ⟨g, started⟩ : ∃ g,
      startServer sampleHost (tlsFile "tls-server-certificate /cert.pem\n") = some g := by
    rw [← Option.isSome_iff_exists, startServer, parsed]
    decide +kernel
  refine ⟨g, started, (contextsThere_iff_tlsPrepared sampleServers started).mpr ?_⟩
  intro cmds isParsed cs member _
  obtain rfl := Option.some.inj (parsed.symm.trans isParsed)
  simp only [List.mem_cons, List.not_mem_nil, or_false, reduceCtorEq, false_or,
    Command.connector.injEq] at member
  subst member
  exact ⟨⟨_, rfl, rfl⟩, _, rfl, rfl⟩

/-- Without a certificate the check fails, which is only printed, and the listener is started: its
flag for STARTTLS is set and its context is missing. -/
theorem missing_certificate_leaves_no_context
    : ∃ g, startServer sampleHost (tlsFile "") = some g
      ∧ g.sockinfo.map (fun l => (l.connectorinfo.enableStarttls, l.connectorinfo.ctx))
        = [(true, false)]
      ∧ ¬ContextsThere sampleServers g := by
  have settings : (startServer sampleHost (tlsFile "")).map
      (fun g => g.sockinfo.map (fun l => (l.connectorinfo.enableStarttls, l.connectorinfo.ctx)))
      = some [(true, false)] := by
    unfold tlsFile
    rw [String.append_empty, String.toList_append, String.toList_ofList, String.toList_ofList]
    decide +kernel
  obtain ⟨g, started, same⟩ := Option.map_eq_some_iff.mp settings
  refine ⟨g, started, same, fun there => ?_⟩
  have member : (true, false)
      ∈ g.sockinfo.map (fun l => (l.connectorinfo.enableStarttls, l.connectorinfo.ctx)) := by
    rw [same]
    exact List.mem_singleton_self _
  obtain ⟨l, inList, flags⟩ := List.mem_map.mp member
  obtain ⟨starttls, missing⟩ := Prod.mk.inj flags
  have ctx := there.listeners l inList (Or.inr starttls)
  rw [missing] at ctx
  cases ctx

end Contexts

end WendzelNNTPd
