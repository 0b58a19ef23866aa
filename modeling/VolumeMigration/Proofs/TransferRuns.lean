import VolumeMigration.Command.Transfer
import VolumeMigration.Proofs.Connections
import VolumeMigration.Proofs.InvalidInput
import VolumeMigration.Proofs.Waits
/-!
# The order of a transfer

A transfer changes two clusters, and waits for the second one, which others go
on changing. Up to the client's side it touches the first one in no way, however
that ends (`prepareTransfer_ends`), and from the end of the server's side on it
touches the second one in no way. `runTransfer_ordered` puts both together with
what is known once the client's side is made. Neither is touched for invalid
input: what comes after the checks of it trusts the clusters, and a cluster
answers with failures of its own (`Cluster.ValidatesNothing`).
-/

namespace VolumeMigration

open Attempt

/-! ## Before the client's side -/

/-- Waits for a server that was created, and connects to it as it is found in the destination. -/
def connectServer (options : StunnelOptions) (p : Patience) (server : Transfer) :
    Command (Cluster × Cluster) Transfer := do
  let endpoint ← Command.awaitLearning p "endpoint address" server.endpoint destinationHealthy
  Command.await p "server pods" (Attempt.onSecond server.isServerHealthy)
  let transport ← Command.attempt (Attempt.onSecond
    (Transport.discover server.transport.type server.serverNamespace server.id options))
  Command.attempt (Attempt.ofResult (server.withConnection endpoint transport))

/-- What a transfer does before it creates the client's side. -/
def prepareTransfer (c : MigrationConfig) (password : String) (issued : TlsMaterial) (p : Patience) :
    Command (Cluster × Cluster) Transfer := do
  let planned ← Command.attempt (c.plan password)
  let server ← Command.attempt (Attempt.onSecond (Attempt.changing planned (Transfer.createServer issued)))
  connectServer c.transport.stunnelOptions p server

/-- Creates the client's side, and waits for its end if asked to. -/
def followClient (p : Patience) (waitForClient : Bool) (connected : Transfer) :
    Command (Cluster × Cluster) Transfer := do
  let client ← Command.attempt (Attempt.onFirst (Attempt.changing connected Transfer.createClient))
  if waitForClient && client.type == .blockrsync then
    Command.await p "block transfer" (Attempt.onFirst client.isClientComplete)
  return client

variable {config : MigrationConfig} {password : String} {issued : TlsMaterial} {p : Patience} {waitForClient : Bool}
  {options : StunnelOptions} {server : Transfer} {source : Cluster} {v : Timed Cluster}

theorem runTransfer_eq (config : MigrationConfig) (password : String) (issued : TlsMaterial) (p : Patience)
    (waitForClient : Bool) : runTransfer config password issued p waitForClient =
      prepareTransfer config password issued p >>= followClient p waitForClient := by
  simp only [runTransfer, prepareTransfer, connectServer, bind_assoc]
  rfl

/-- What is known of a server that was created, once it is connected to: a check of its endpoint passed, a later one
of its pods passed, and its transport was found at that time. -/
structure Connected (options : StunnelOptions) (server : Transfer) (v : Timed Cluster) where
  /-- The endpoint with what the checks before the last one had learned of its address. -/
  asked : Endpoint
  endpoint : Endpoint
  reached : Timed Cluster
  running : Timed Cluster
  transport : Transport
  connected : Transfer
  passes_reached : v.Passes reached
  asked_eq : asked.recorded = server.endpoint.recorded
  reached_eq : outcome Endpoint.isHealthy (asked, reached.state) = (.ok true, (endpoint, reached.state))
  passes_running : reached.Passes running
  running_eq : outcome server.isServerHealthy running.state = (.ok true, running.state)
  transport_eq :
    outcome (Transport.discover server.transport.type server.serverNamespace server.id options) running.state =
      (.ok transport, running.state)
  connected_eq : server.withConnection endpoint transport = .ok connected

/-- What is known when a transfer turns to the source: it was planned, its server's side was created in the
destination, and that was connected to. -/
structure Preparation (config : MigrationConfig) (password : String) (issued : TlsMaterial) (source : Cluster)
    (v : Timed Cluster) where
  planned : Transfer
  server : Transfer
  created : Cluster
  planned_eq : outcome (config.plan password) (source, v.state) = (.ok planned, (source, v.state))
  created_eq : outcome (Transfer.createServer issued) (planned, v.state) = (.ok (), (server, created))
  found : Connected config.transport.stunnelOptions server { v with state := created }

theorem destinationHealthy_watches (e : Endpoint) :
    destinationHealthy.Watches fun asked => asked.recorded = e.recorded where
  reads asked s := by
    unfold destinationHealthy
    rw [outcome_within]
    exact Prod.ext rfl (Endpoint.isHealthy_reads asked s.2)
  keeps asked s learned h hasked := by
    unfold destinationHealthy at h
    rw [outcome_within] at h
    rcases hrun : outcome Endpoint.isHealthy (asked, s.2) with ⟨r, e', c'⟩
    rw [hrun] at h
    obtain ⟨rfl, hlearned⟩ := Prod.mk.inj h
    obtain ⟨rfl, -⟩ := Prod.mk.inj hlearned
    exact (Endpoint.isHealthy_recorded hrun).trans hasked

/-- The wait for the endpoint ends on a check of it. -/
theorem awaitEndpoint_ends (e : Endpoint) (p : Patience) (what : String) (w : Timed Cluster) (source : Cluster) :
    ∃ r w' asked, Command.outcome (Command.awaitLearning p what e destinationHealthy) (w.beside source) =
        (r, w'.beside source) ∧ w.Passes w' ∧ asked.recorded = e.recorded ∧
      (∀ e', r = .ok e' → outcome Endpoint.isHealthy (asked, w'.state) = (.ok true, (e', w'.state))) ∧
      ∀ f, r = .error (.failure f) → (outcome Endpoint.isHealthy (asked, w'.state)).1 = .error f := by
  obtain ⟨r, w', asked, hrun, hpasses, hasked, hpassed, hfailed⟩ :=
    Command.awaitLearning_ends (destinationHealthy_watches e) p what rfl w source
  refine ⟨r, w', asked, hrun, hpasses, hasked, fun e' he => ?_, fun f hf => ?_⟩
  · have hlast := hpassed e' he
    unfold destinationHealthy at hlast
    rw [outcome_within] at hlast
    exact Prod.ext (congrArg (·.1) hlast) (Prod.ext (congrArg (·.2.1) hlast) (congrArg (·.2.2.2) hlast))
  · exact hfailed f hf

/-- Connecting to a server changes neither cluster, whatever time makes of the destination. -/
theorem connectServer_ends (options : StunnelOptions) (p : Patience) (server : Transfer) (source : Cluster)
    (v : Timed Cluster) : ∃ r v',
      Command.outcome (connectServer options p server) (v.beside source) = (r, v'.beside source) ∧ v.Passes v' ∧
      (∀ connected, r = .ok connected →
        ∃ found : Connected options server v, found.connected = connected ∧ found.running = v') ∧
      ∀ errors, r = .error (.failure (.validation errors)) → v'.state.Injects (.validation errors) := by
  unfold connectServer
  obtain ⟨r, reached, asked, hrun, hreached, hasked, hhealthy, hfailed⟩ :=
    awaitEndpoint_ends server.endpoint p "endpoint address" v source
  rcases r with f | endpoint
  · refine ⟨_, reached, Command.outcome_bind_error hrun _, hreached, fun _ he => (nomatch he), fun errors he => ?_⟩
    obtain rfl := Except.error.inj he
    exact Endpoint.isHealthy_trusts asked reached.state (hfailed _ rfl)
  rw [Command.outcome_bind_ok hrun]
  obtain ⟨r, running, hrun, hrunning, hpods, hfailed⟩ :=
    Command.await_ends server.isServerHealthy_reads.onSecond p "server pods" reached source
  have hpasses := hreached.trans hrunning
  rcases r with f | _
  · refine ⟨_, running, Command.outcome_bind_error hrun _, hpasses, fun _ he => (nomatch he), fun errors he => ?_⟩
    obtain rfl := Except.error.inj he
    exact server.isServerHealthy_trusts _ _ (hfailed _ rfl)
  rw [Command.outcome_bind_ok hrun]
  rcases hfound :
    outcome (Transport.discover server.transport.type server.serverNamespace server.id options) running.state
    with ⟨f | transport, d⟩
  all_goals
    obtain rfl := (Transport.discover_reads _ _ _ _).state_eq hfound
    have hrun := Command.outcome_attempt_onSecond (w := running) source hfound
  · refine ⟨_, running, Command.outcome_bind_error hrun _, hpasses, fun _ he => (nomatch he), fun errors he => ?_⟩
    cases he
    exact Transport.discover_trusts _ _ _ _ _ _ (congrArg Prod.fst hfound)
  rw [Command.outcome_bind_ok hrun]
  refine ⟨_, running, Command.outcome_attempt_same rfl, hpasses, fun connected he => ?_, fun errors he => ?_⟩
  · cases hconnected : server.withConnection endpoint transport with
    | error f =>
      rw [hconnected] at he
      cases he
    | ok u =>
      rw [hconnected] at he
      cases he
      have hlast : outcome server.isServerHealthy running.state = (.ok true, running.state) :=
        Prod.ext (congrArg (·.1) (hpods rfl)) (congrArg (·.2.2) (hpods rfl))
      exact ⟨{ asked, endpoint, reached, running, transport, connected, passes_reached := hreached, asked_eq := hasked
               reached_eq := hhealthy endpoint rfl, passes_running := hrunning, running_eq := hlast
               transport_eq := hfound, connected_eq := hconnected }, rfl, rfl⟩
  · cases hconnected : server.withConnection endpoint transport with
    | error f =>
      rw [hconnected] at he
      cases he
      exact absurd hconnected (server.withConnection_sound endpoint transport errors)
    | ok u =>
      rw [hconnected] at he
      cases he

/-- How the preparation of a transfer ends, and in what state it leaves the destination. -/
inductive PreparationEnd (config : MigrationConfig) (password : String) (issued : TlsMaterial) (source : Cluster)
    (v : Timed Cluster) : Except CommandFailure Transfer → Timed Cluster → Prop where
  /-- Nothing was planned. -/
  | unplanned {f : Failure} (h : outcome (config.plan password) (source, v.state) = (.error f, (source, v.state))) :
    PreparationEnd config password issued source v (.error (.failure f)) v
  /-- It fails on the way, with the destination as the server's side and time have left it. -/
  | stopped {planned : Transfer} {f : CommandFailure} {v' : Timed Cluster}
    (hplan : outcome (config.plan password) (source, v.state) = (.ok planned, (source, v.state)))
    (hpasses :
      ({ v with state := (outcome (Transfer.createServer issued) (planned, v.state)).2.2 } : Timed Cluster).Passes v')
    (hrule : ∀ errors, f = .failure (.validation errors) →
      v.state.Injects (.validation errors) ∨ v'.state.Injects (.validation errors)) :
    PreparationEnd config password issued source v (.error f) v'
  | prepared (prep : Preparation config password issued source v) :
    PreparationEnd config password issued source v (.ok prep.found.connected) prep.found.running

/-- The preparation of a transfer leaves the source as it is, wherever it ends. -/
theorem prepareTransfer_ends (config : MigrationConfig) (password : String) (issued : TlsMaterial) (p : Patience)
    (source : Cluster) (v : Timed Cluster) : ∃ r v',
      Command.outcome (prepareTransfer config password issued p) (v.beside source) = (r, v'.beside source) ∧
      PreparationEnd config password issued source v r v' := by
  unfold prepareTransfer
  rcases hplan : outcome (config.plan password) (source, v.state) with ⟨f | planned, s⟩
  all_goals
    obtain rfl := (MigrationConfig.plan_reads config password).state_eq hplan
    have hrun := Command.outcome_attempt_same (w := v.beside source) hplan
  · exact ⟨_, v, Command.outcome_bind_error hrun _, .unplanned hplan⟩
  rw [Command.outcome_bind_ok hrun]
  rcases hserver : outcome (Transfer.createServer issued) (planned, v.state) with ⟨f | _, server, created⟩
  all_goals have hrun := Command.outcome_attempt_onSecond (w := v) source (outcome_changing hserver)
  · refine ⟨_, _, Command.outcome_bind_error hrun _, .stopped hplan ?_ fun errors he => ?_⟩
    · rw [hserver]
      exact .refl _
    · cases he
      exact .inl ((MigrationConfig.plan_ok hplan).2.createServer_trusts (congrArg Prod.fst hserver))
  rw [Command.outcome_bind_ok hrun]
  obtain ⟨r, v', hrun, hpasses, hfound, hrule⟩ :=
    connectServer_ends config.transport.stunnelOptions p server source { v with state := created }
  refine ⟨r, v', hrun, ?_⟩
  rcases r with f | connected
  · refine .stopped hplan ?_ fun errors he => .inr (hrule errors (congrArg Except.error he))
    rw [hserver]
    exact hpasses
  · obtain ⟨found, rfl, rfl⟩ := hfound connected rfl
    exact .prepared { planned, server, created, planned_eq := hplan, created_eq := hserver, found }

/-! ## The client's side -/

/-- What a transfer was prepared with is found valid by its client's side. -/
theorem Preparation.createClient_trusts (prep : Preparation config password issued source v) {errors : List String}
    (h : (outcome Transfer.createClient (prep.found.connected, source)).1 = .error (.validation errors)) :
    source.Injects (.validation errors) := by
  obtain ⟨-, hconnected⟩ := Transfer.withConnection_eq_ok.1 prep.found.connected_eq
  have hoptions := MigrationConfig.plan_options prep.planned_eq
  refine Transfer.createClient_trusts ?_ hoptions h
  rw [hconnected]
  exact Transport.discover_options prep.found.transport_eq

/-- Only the creation of the client's side changes the source, and the destination is left to time. -/
theorem followClient_ends (p : Patience) (waitForClient : Bool) (connected : Transfer) (source : Cluster)
    (v : Timed Cluster) : ∃ r v', Command.outcome (followClient p waitForClient connected) (v.beside source) =
        (r, v'.beside (outcome Transfer.createClient (connected, source)).2.2) ∧ v.Passes v' ∧
      ∀ errors, r = .error (.failure (.validation errors)) →
        (outcome Transfer.createClient (connected, source)).1 = .error (.validation errors) ∨
        source.Injects (.validation errors) := by
  unfold followClient
  rcases hclient : outcome Transfer.createClient (connected, source) with ⟨f | _, client, source'⟩
  all_goals have hrun := Command.outcome_attempt_onFirst v (outcome_changing hclient)
  · refine ⟨_, v, Command.outcome_bind_error hrun _, .refl v, fun errors he => .inl ?_⟩
    cases he
    rfl
  rw [Command.outcome_bind_ok hrun]
  split
  · obtain ⟨waited, v', hrun, hpasses, -, hfailed⟩ :=
      Command.await_ends client.isClientComplete_reads.onFirst p "block transfer" v source'
    rcases waited with f | _
    · refine ⟨_, v', Command.outcome_bind_error hrun _, hpasses, fun errors he => .inr ?_⟩
      obtain rfl := Except.error.inj he
      refine ((Transfer.createClient_advances hclient).injects_iff _).1 ?_
      exact client.isClientComplete_trusts source' errors (hfailed _ rfl)
    · exact ⟨_, v', Command.outcome_bind_ok hrun _, hpasses, fun errors he => nomatch he⟩
  · exact ⟨_, v, rfl, .refl v, fun errors he => nomatch he⟩

/-! ## The whole of it -/

/-- The server's side leaves the rules of the destination as they are, and what is still to come. -/
theorem keeps_createServer (h : v.Keeps Cluster.ValidatesNothing) (planned : Transfer) (issued : TlsMaterial) :
    ({ v with state := (outcome (Transfer.createServer issued) (planned, v.state)).2.2 } : Timed Cluster).Keeps
      Cluster.ValidatesNothing := by
  rcases hrun : outcome (Transfer.createServer issued) (planned, v.state) with ⟨r, t, c⟩
  have hadvances := Transfer.createServer_advances hrun
  exact ⟨h.state.of_refusals_eq hadvances.refusals, h.coming⟩

/-- A transfer ended with a result, and left a source and a destination. -/
structure Ordered (config : MigrationConfig) (password : String) (issued : TlsMaterial) (p : Patience)
    (source : Cluster) (v : Timed Cluster) (r : Except CommandFailure Transfer) (source' : Cluster)
    (v' : Timed Cluster) : Prop where
  /-- The source is another one only if the transfer had been prepared, and then it is what the creation of the
  client's side made of it, from that time on. -/
  written : source' ≠ source → ∃ prep : Preparation config password issued source v,
    source' = (outcome Transfer.createClient (prep.found.connected, source)).2.2 ∧ prep.found.running.Passes v'
  /-- An error that ends the preparation ends the transfer, and leaves the source as it was. -/
  untouched : ∀ f w, Command.outcome (prepareTransfer config password issued p) (v.beside source) = (.error f, w) →
    r = .error f ∧ source' = source
  /-- The destination is what the creation of the server's side made of it, and time from then on; it is as it was
  if nothing was planned. -/
  destination : (∃ planned, outcome (config.plan password) (source, v.state) = (.ok planned, (source, v.state)) ∧
      ({ v with state := (outcome (Transfer.createServer issued) (planned, v.state)).2.2 } : Timed Cluster).Passes v') ∨
    (∃ f, outcome (config.plan password) (source, v.state) = (.error f, (source, v.state))) ∧ v' = v
  /-- Invalid input is found before anything was done. No cluster is to answer with a failure of validation: neither
  the source nor the destination, whatever others make of that. -/
  invalid (hsource : source.ValidatesNothing) (hv : v.Keeps Cluster.ValidatesNothing) :
    ∀ errors, r = .error (.failure (.validation errors)) → source' = source ∧ v' = v

/-- Whatever the configuration, the clusters and their rules, whatever others make of the destination meanwhile,
and however one waits: a transfer keeps its order. -/
theorem runTransfer_ordered (config : MigrationConfig) (password : String) (issued : TlsMaterial) (p : Patience)
    (waitForClient : Bool) (source : Cluster) (v : Timed Cluster) : ∃ r source' v',
      Command.outcome (runTransfer config password issued p waitForClient) (v.beside source) = (r, v'.beside source') ∧
      Ordered config password issued p source v r source' v' := by
  rw [runTransfer_eq]
  obtain ⟨r, v₁, hprepare, hend⟩ := prepareTransfer_ends config password issued p source v
  cases hend with
  | @unplanned f hplan =>
    refine ⟨_, source, v, Command.outcome_bind_error hprepare _, fun hne => absurd rfl hne, fun g w hg => ?_,
      .inr ⟨⟨f, hplan⟩, rfl⟩, fun _ _ errors _ => ⟨rfl, rfl⟩⟩
    exact ⟨congrArg Prod.fst (hprepare.symm.trans hg), rfl⟩
  | @stopped planned f _ hplan hpasses hrule =>
    refine ⟨_, source, v₁, Command.outcome_bind_error hprepare _, fun hne => absurd rfl hne, fun g w hg => ?_,
      .inl ⟨planned, hplan, hpasses⟩, fun _ hv errors he => ?_⟩
    · exact ⟨congrArg Prod.fst (hprepare.symm.trans hg), rfl⟩
    · have hlater := (keeps_createServer hv planned issued).passes hpasses
      rcases hrule errors (Except.error.inj he) with h | h
      · exact absurd h (hv.state.not_injects errors)
      · exact absurd h (hlater.state.not_injects errors)
  | prepared prep =>
    obtain ⟨r, v', hfollow, hpasses, hvalid⟩ :=
      followClient_ends p waitForClient prep.found.connected source prep.found.running
    refine ⟨r, _, v', (Command.outcome_bind_ok hprepare _).trans hfollow, fun _ => ⟨prep, rfl, hpasses⟩,
      fun g w hg => ?_, .inl ⟨prep.planned, prep.planned_eq, ?_⟩, fun hsource _ errors he => ?_⟩
    · cases congrArg Prod.fst (hprepare.symm.trans hg)
    · rw [prep.created_eq]
      exact prep.found.passes_reached.trans (prep.found.passes_running.trans hpasses)
    · exact absurd ((hvalid errors he).elim prep.createClient_trusts id) (hsource.not_injects errors)

/-- A tree of files that goes to a depot without a tunnel. -/
def toDepot : MigrationConfig where
  pairs := [{ source := ⟨"shop", "data"⟩, destination := some ⟨"depot", ""⟩ }]
  endpoint := .service .clusterIP none
  transport := .none

/-- A look every second, and ten seconds for each wait. -/
def hurried : Patience := { interval := 1000, timeout := some 10, horizon := 3600000 }

/-- Others give the service of the depot an address, and run the pod of its server. -/
def attended (c : Cluster) : Cluster :=
  let id := "8d777f385d3dfec8815d20f7496026dc"
  let labels : StringMap := .ofList
    [(Label.component, "rsync-server"), (Label.managedBy, Label.manager), (Label.transfer, id)]
  let service : Object :=
    { metadata := { name := some (MigrationConfig.endpointName id), ns := some "depot" }
      content := .service (some { clusterIP := some "10.96.0.15" }) none }
  let pod : Object :=
    { metadata := { name := some "server-0", ns := some "depot", labels := some labels }
      content := .pod (some {}) (some { phase := some "Running" }) }
  (c.place service).place pod

/-- Once the server is attended to, the client's side is created. -/
example : (Command.outcome (runTransfer toDepot "secret" default hurried false)
      (Timed.beside { state := {}, coming := [⟨3300, attended⟩] } Transfer.shop)).2.state.1.log.map LogEntry.line =
    ["create Secret shop/ferry-rsync-client-secret-8d777f385d3dfec8815d20f7496026dc",
      "create Pod shop/ferry-rsync-client-8d777f385d3dfec8815d20f7496026dc"] := by
  decide +kernel

/-- A look every second, and two seconds for each wait. -/
def impatient : Patience := { hurried with timeout := some 2 }

/-- The same tree through a tunnel with a level that does not exist. -/
def unchecked : MigrationConfig := { toDepot with transport := .stunnel { caVerifyLevel := "9" } }

/-- What was found invalid, if that is why a command ended. -/
def invalidInput? {α : Type} : Except CommandFailure α → Option (List String)
  | .error (.failure (.validation errors)) => some errors
  | _ => none

theorem invalidInput?_eq_some {α : Type} {r : Except CommandFailure α} {errors : List String}
    (h : invalidInput? r = some errors) : r = .error (.failure (.validation errors)) := by
  unfold invalidInput? at h
  split at h
  · cases h
    rfl
  · cases h

/-- A shop where no pod can be created. -/
def guardedShop : Cluster :=
  { Transfer.shop with faults := [{ operation := .create, kind := .pod }] }

/-- A depot that forbids to update services, and is attended to after more than three seconds. -/
def watchedDepot : Timed Cluster where
  state := { refusals := [({ operation := .update, kind := .service }, .api 403 "forbidden")] }
  coming := [⟨3300, attended⟩]

theorem guardedShop_validatesNothing : guardedShop.ValidatesNothing := by
  intro rule hrule
  cases hrule

theorem watchedDepot_keeps : watchedDepot.Keeps Cluster.ValidatesNothing where
  state rule hrule errors he := by
    obtain rfl := List.mem_singleton.1 hrule
    cases he
  coming e he c h := by
    obtain rfl := List.mem_singleton.1 he
    exact h

/-- A transfer with patience comes as far as the client's pod, one without it leaves the shop as it is, and one
through a tunnel that is not valid leaves both clusters as they are. -/
theorem runTransfer_ordered_guardedShop :
    (∃ r source' v', Command.outcome (runTransfer toDepot "secret" default hurried false)
        (watchedDepot.beside guardedShop) = (r, v'.beside source') ∧
      source'.log.map LogEntry.line =
        ["create Secret shop/ferry-rsync-client-secret-8d777f385d3dfec8815d20f7496026dc"] ∧
      ∃ prep : Preparation toDepot "secret" default guardedShop watchedDepot, prep.found.running.Passes v') ∧
    (∃ f v', Command.outcome (runTransfer toDepot "secret" default impatient false)
      (watchedDepot.beside guardedShop) = (.error f, Timed.beside v' guardedShop)) ∧
    Command.outcome (runTransfer unchecked "secret" default hurried false) (watchedDepot.beside guardedShop) =
      (.error (.failure (.validation ["stunnel verify level '9' must be 0 through 4"])),
        watchedDepot.beside guardedShop) := by
  refine ⟨?_, ?_, ?_⟩
  · obtain ⟨r, source', v', hrun, hordered⟩ :=
      runTransfer_ordered toDepot "secret" default hurried false guardedShop watchedDepot
    have hlog : source'.log.map LogEntry.line =
        ["create Secret shop/ferry-rsync-client-secret-8d777f385d3dfec8815d20f7496026dc"] := by
      have hsource : (Command.outcome (runTransfer toDepot "secret" default hurried false)
          (watchedDepot.beside guardedShop)).2.state.1 = source' := congrArg (·.2.state.1) hrun
      rw [← hsource]
      decide +kernel
    have hne : source' ≠ guardedShop := by
      intro heq
      rw [heq] at hlog
      cases hlog
    obtain ⟨prep, -, hpasses⟩ := hordered.written hne
    exact ⟨r, source', v', hrun, hlog, prep, hpasses⟩
  · obtain ⟨r, source', v', hrun, hordered⟩ :=
      runTransfer_ordered toDepot "secret" default impatient false guardedShop watchedDepot
    have hfails : (Command.outcome (prepareTransfer toDepot "secret" default impatient)
        (watchedDepot.beside guardedShop)).1.toOption.isNone = true := by
      decide +kernel
    rcases hprepare : Command.outcome (prepareTransfer toDepot "secret" default impatient)
      (watchedDepot.beside guardedShop) with ⟨f | t, w⟩
    · obtain ⟨rfl, rfl⟩ := hordered.untouched f w hprepare
      exact ⟨f, v', hrun⟩
    · rw [hprepare] at hfails
      cases hfails
  · obtain ⟨r, source', v', hrun, hordered⟩ :=
      runTransfer_ordered unchecked "secret" default hurried false guardedShop watchedDepot
    have hinvalid : r = .error (.failure (.validation ["stunnel verify level '9' must be 0 through 4"])) := by
      apply invalidInput?_eq_some
      have hresult : (Command.outcome (runTransfer unchecked "secret" default hurried false)
          (watchedDepot.beside guardedShop)).1 = r := congrArg Prod.fst hrun
      rw [← hresult]
      decide +kernel
    obtain ⟨rfl, rfl⟩ := hordered.invalid guardedShop_validatesNothing watchedDepot_keeps _ hinvalid
    rw [hrun, hinvalid]

end VolumeMigration
