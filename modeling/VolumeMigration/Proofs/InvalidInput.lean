import VolumeMigration.Proofs.Discovery
import VolumeMigration.Proofs.ServerStarts
/-!
# Where input is found invalid

Input is found invalid when a transfer is planned. What comes after that may
fail in other ways, but what it is given has been checked by then, so that only
a rule of a cluster has it report invalid input (`Attempt.Trusts`). That goes
for the checks of a wait and for what is discovered, and for both sides of a
transfer with a tunnel whose options were checked
(`Transfer.Planned.createServer_trusts`, `Transfer.createClient_trusts`). A
cluster that validates nothing has no such rule
(`Cluster.ValidatesNothing.not_injects`).
-/

namespace VolumeMigration

open Attempt

/-- Something else than invalid input. -/
def Result.Sound {α : Type} (r : Result α) : Prop := ∀ errors, r ≠ .error (.validation errors)

theorem Result.Sound.bind {α β : Type} {r : Result α} {k : α → Result β} (hr : r.Sound)
    (hk : ∀ x, r = .ok x → (k x).Sound) : Result.Sound (r >>= k) := by
  cases r with
  | error f =>
    intro errors he
    cases he
    exact hr errors rfl
  | ok x => exact hk x rfl

/-! ## Clusters -/

namespace Cluster

variable {c c' : Cluster}

/-- The cluster validates nothing: what it was told to answer with is never a failure of validation. Those are for
input that is checked before anything is created. -/
def ValidatesNothing (c : Cluster) : Prop := ∀ rule ∈ c.refusals, ∀ errors, rule.2 ≠ .validation errors

theorem ValidatesNothing.of_refusals_eq (h : c.ValidatesNothing) (heq : c'.refusals = c.refusals) :
    c'.ValidatesNothing := by
  unfold ValidatesNothing
  rw [heq]
  exact h

/-- Nor is any failure that is injected into it. -/
theorem ValidatesNothing.not_injects (h : c.ValidatesNothing) (errors : List String) :
    ¬c.Injects (.validation errors) := by
  rintro (⟨rule, hrule, heq⟩ | ⟨operation, kind, name, hfault⟩)
  · exact h rule hrule errors heq
  · unfold fault? at hfault
    split at hfault <;> cases hfault

end Cluster

/-! ## Attempts -/

namespace Attempt

variable {α β : Type} {own replaced : Key → Prop} {c : Cluster}

/-- Only a rule of the cluster has the attempt report invalid input. -/
def Trusts (a : Attempt Cluster α) : Prop :=
  ∀ c errors, (outcome a c).1 = .error (.validation errors) → c.Injects (.validation errors)

theorem Creates.trusts {a : Attempt Cluster α} (h : a.Creates own replaced) : a.Trusts :=
  fun c _ he => h.rejected c _ he rfl

theorem Trusts.ofResult {r : Result α} (h : r.Sound) : (Attempt.ofResult r).Trusts :=
  fun _ errors he => absurd he (h errors)

theorem Trusts.pure (x : α) : (Pure.pure x : Attempt Cluster α).Trusts := fun _ _ he => nomatch he

theorem Trusts.bind {a : Attempt Cluster α} {k : α → Attempt Cluster β} (ha : a.Trusts) (hreads : Reads a)
    (hk : ∀ x, (k x).Trusts) : (a >>= k).Trusts := by
  intro c errors he
  have hsame := hreads c
  rw [outcome_bind] at he
  rcases h : outcome a c with ⟨f | x, c'⟩
  · rw [h] at he
    cases he
    exact ha c errors (by rw [h])
  · rw [h] at he hsame
    obtain rfl : c' = c := hsame
    exact hk x c' errors he

end Attempt

namespace Cluster

theorem find?_trusts (k : Kind) (n : ObjectName) : (find? k n).Trusts :=
  (creates_find? k n : (find? k n).Creates (fun _ => True) fun _ => True).trusts

theorem require_reads (k : Kind) (n : ObjectName) : Reads (require k n) := by
  refine .bind (find?_reads k n) fun found => ?_
  cases found with
  | none => exact .throw _
  | some o => exact .pure o

theorem require_trusts (k : Kind) (n : ObjectName) : (require k n).Trusts := by
  refine .bind (find?_trusts k n) (find?_reads k n) fun found => ?_
  cases found with
  | none => exact fun _ _ he => nomatch he
  | some o => exact .pure o

theorem list_reads (k : Kind) (ns : String) (selector : Option String) : Reads (list k ns selector) := by
  intro c
  rw [list_outcome]
  cases c.refusal? .list k "" <;> cases c.fault? .list k "" <;> rfl

theorem list_trusts (k : Kind) (ns : String) (selector : Option String) : (list k ns selector).Trusts := by
  intro c errors he
  rw [list_outcome] at he
  cases hr : c.refusal? .list k "" with
  | some f =>
    rw [hr] at he
    cases he
    exact injects_of_refusal hr
  | none =>
    cases hf : c.fault? .list k "" with
    | some f =>
      rw [hr, hf] at he
      cases he
      exact .inr ⟨_, _, _, hf⟩
    | none =>
      rw [hr, hf] at he
      cases he

end Cluster

/-! ## Endpoints -/

namespace Endpoint

variable {e : Endpoint} {c : Cluster}

theorem observe_sound (e : Endpoint) (o : Object) : (e.observe o).Sound := by
  intro errors he
  unfold observe at he
  split at he
  case h_1 | h_5 => split at he <;> cases he
  case h_4 =>
    split at he
    · cases he
    · split at he <;> cases he
  all_goals cases he

theorem outcome_isHealthy (e : Endpoint) (c : Cluster) : outcome isHealthy (e, c) =
    match outcome (do Attempt.ofResult (e.observe (← Cluster.require e.watchedKind e.name))) c with
      | (.error f, c') => (.error f, (e, c'))
      | (.ok (e', healthy), c') => (.ok healthy, (e', c')) := by
  unfold isHealthy
  simp only [outcome_bind, outcome_get, outcome_onSecond, outcome_ofResult, outcome_modify]
  rcases outcome (Cluster.require e.watchedKind e.name) c with ⟨f | o, c'⟩
  · rfl
  · cases he : e.observe o with
    | error f => simp only [he]
    | ok x => simp only [he]; rfl

theorem isHealthy_reads (e : Endpoint) (c : Cluster) : (outcome isHealthy (e, c)).2.2 = c := by
  have hreads : Reads (do Attempt.ofResult (e.observe (← Cluster.require e.watchedKind e.name))) :=
    .bind (Cluster.require_reads _ _) fun _ => .ofResult _
  have hsame := hreads c
  rw [outcome_isHealthy]
  rcases h : outcome (do Attempt.ofResult (e.observe (← Cluster.require e.watchedKind e.name))) c
    with ⟨f | ⟨e', healthy⟩, c'⟩
  all_goals
    rw [h] at hsame
    exact hsame

theorem isHealthy_trusts (e : Endpoint) (c : Cluster) {errors : List String}
    (h : (outcome isHealthy (e, c)).1 = .error (.validation errors)) : c.Injects (.validation errors) := by
  have htrusts : Trusts (do Attempt.ofResult (e.observe (← Cluster.require e.watchedKind e.name))) :=
    .bind (Cluster.require_trusts _ _) (Cluster.require_reads _ _) fun o => .ofResult (observe_sound e o)
  rw [outcome_isHealthy] at h
  rcases hrun : outcome (do Attempt.ofResult (e.observe (← Cluster.require e.watchedKind e.name))) c with
    ⟨f | ⟨e', healthy⟩, c'⟩
  · rw [hrun] at h
    cases h
    exact htrusts c errors (by rw [hrun])
  · rw [hrun] at h
    cases h

end Endpoint

/-! ## Transports -/

theorem TlsMaterial.ofSecret_sound (secret : Object) : (ofSecret secret).Sound := by
  have hentry : ∀ key, (entry secret key).Sound := by
    intro key errors he
    simp only [entry] at he
    split at he <;> cases he
  refine (hentry _).bind fun _ _ => (hentry _).bind fun _ _ => (hentry _).bind fun _ _ errors he => ?_
  cases he

theorem Address.ofEndpoint_sound (e : Endpoint) : (ofEndpoint e).Sound := by
  intro errors he
  unfold ofEndpoint at he
  split at he <;> cases he

theorem StunnelOptions.faults_eq_nil_of_validate {o : StunnelOptions} (h : o.validate = .ok ()) : o.faults = [] :=
  List.map_eq_nil_iff.1 (Failure.checkValidation_eq_ok.1 h)

/-- Options that were checked name a proxy that can be read, if they name one. -/
theorem StunnelOptions.proxyHost_ok {o : StunnelOptions} (h : o.validate = .ok ()) :
    ∃ proxy, o.proxyHost = .ok proxy := by
  unfold proxyHost
  cases hurl : o.proxyUrl with
  | none => exact ⟨none, rfl⟩
  | some url =>
    cases hhost : proxyHost? url with
    | some host => exact ⟨some host, by simp only [hhost]⟩
    | none =>
      have hfault : Fault.proxyUrl url ∈ o.faults := by simp [faults, hurl, hhost]
      rw [faults_eq_nil_of_validate h] at hfault
      cases hfault

theorem StunnelOptions.proxyHost_sound {o : StunnelOptions} (h : o.validate = .ok ()) : o.proxyHost.Sound := by
  obtain ⟨proxy, hproxy⟩ := proxyHost_ok h
  intro errors he
  rw [hproxy] at he
  cases he

namespace Transport

variable {type : TransportType} {ns id : String} {options : StunnelOptions} {e : Endpoint} {c c' : Cluster}
    {t : Transport}

theorem discover_reads (type : TransportType) (ns id : String) (options : StunnelOptions) :
    Reads (discover type ns id options) := by
  cases type with
  | stunnel =>
    exact .bind (.bind (Cluster.require_reads _ _) fun _ => .bind (.ofResult _) fun _ => .pure _) fun _ => .pure _
  | none => exact .pure _

theorem discover_trusts (type : TransportType) (ns id : String) (options : StunnelOptions) :
    (discover type ns id options).Trusts := by
  cases type with
  | stunnel =>
    refine .bind (.bind (Cluster.require_trusts _ _) (Cluster.require_reads _ _) fun secret => ?_)
      (.bind (Cluster.require_reads _ _) fun _ => .bind (.ofResult _) fun _ => .pure _) fun _ => .pure _
    exact .bind (.ofResult (TlsMaterial.ofSecret_sound secret)) (.ofResult _) fun _ => .pure _
  | none => exact .pure _

/-- A tunnel that is discovered has the given options. -/
theorem discover_options (h : outcome (discover type ns id options) c = (.ok t, c')) :
    t = .direct none ∨ ∃ tunnel : Stunnel, t = .stunnel tunnel ∧ tunnel.options = options := by
  cases type with
  | stunnel =>
    obtain ⟨tunnel, c₁, htunnel, hmade⟩ := bind_eq_ok.1 h
    cases hmade
    obtain ⟨secret, c₂, -, hread⟩ := bind_eq_ok.1 htunnel
    obtain ⟨material, c₃, -, hpure⟩ := bind_eq_ok.1 hread
    cases hpure
    exact .inr ⟨_, rfl, rfl⟩
  | none =>
    cases h
    exact .inl rfl

/-- A tunnel with options that were checked finds nothing invalid in what its client's side is made of. -/
theorem clientObjects_sound (h : t = .direct none ∨ ∃ tunnel : Stunnel, t = .stunnel tunnel ∧ tunnel.options = options)
    (hoptions : options.validate = .ok ()) : (t.clientObjects ns id e).Sound := by
  rcases h with rfl | ⟨tunnel, rfl, rfl⟩
  · exact fun errors he => nomatch he
  · change Result.Sound (tunnel.options.validate >>= fun _ => _)
    refine .bind (fun errors he => ?_) fun _ _ => ?_
    · rw [hoptions] at he
      cases he
    · cases tunnel.material with
      | none => exact fun errors he => nomatch he
      | some material =>
        have hconfig : (Stunnel.clientConfig tunnel.options e).Sound :=
          (Address.ofEndpoint_sound e).bind fun _ _ =>
            (StunnelOptions.proxyHost_sound hoptions).bind fun _ _ _ he => nomatch he
        exact hconfig.bind fun _ _ _ he => nomatch he

end Transport

/-! ## Transfers -/

namespace Transfer

variable {t : Transfer} {issued : TlsMaterial} {options : StunnelOptions} {c : Cluster} {errors : List String}

theorem isServerHealthy_reads (t : Transfer) : Reads t.isServerHealthy :=
  .bind (Cluster.list_reads _ _ _) fun _ => .pure _

theorem isServerHealthy_trusts (t : Transfer) : t.isServerHealthy.Trusts :=
  .bind (Cluster.list_trusts _ _ _) (Cluster.list_reads _ _ _) fun _ => .pure _

theorem isClientComplete_reads (t : Transfer) : Reads t.isClientComplete := by
  unfold isClientComplete
  split
  · refine .bind (Cluster.find?_reads _ _) fun found => ?_
    cases found with
    | none => exact .pure _
    | some pod =>
      simp only
      split
      · exact .pure _
      · exact .throw _
      · exact .pure _
  · exact .throw _

theorem isClientComplete_trusts (t : Transfer) : t.isClientComplete.Trusts := by
  unfold isClientComplete
  split
  · refine .bind (Cluster.find?_trusts _ _) (Cluster.find?_reads _ _) fun found => ?_
    cases found with
    | none => exact .pure _
    | some pod =>
      simp only
      split
      · exact .pure _
      · exact fun _ _ he => nomatch he
      · exact .pure _
  · exact fun _ _ he => nomatch he

theorem withConnection_sound (t : Transfer) (e : Endpoint) (transport : Transport) :
    (t.withConnection e transport).Sound := by
  have hcheck : (checkCompatible t.method.type t.pairs e transport).Sound := by
    intro errors he
    unfold checkCompatible at he
    split at he
    · cases he
    · split at he
      · cases he
      · split at he
        · cases he
        · split at he <;> cases he
  exact hcheck.bind fun _ _ _ he => nomatch he

theorem target_sound (t : Transfer) : t.target.Sound := by
  unfold target Transport.target
  split
  · exact Address.ofEndpoint_sound t.endpoint
  · intro errors he
    split at he <;> cases he

/-- The server's side of a transfer that was planned is made of what was found valid. -/
theorem Planned.createServer_trusts (h : t.Planned)
    (hrun : (outcome (createServer issued) (t, c)).1 = .error (.validation errors)) :
    c.Injects (.validation errors) := by
  refine Classical.byContradiction fun hrule => ?_
  have hsteps := cluster_createServer t issued c
  rcases hdone : outcome (createServer issued) (t, c) with ⟨r, t', c'⟩
  rw [hdone] at hrun hsteps
  obtain rfl : r = .error (.validation errors) := hrun
  obtain ⟨htunnel, -⟩ := (t.serverParts_of issued).tunnel_of_rejected hsteps.symm rfl hrule
  obtain ⟨os, hok⟩ := h.tunnel_ok issued
  rw [hok] at htunnel
  cases htunnel

/-- The client's side is made of what was found valid, if the options of its tunnel were checked. -/
theorem createClient_trusts
    (h : t.transport = .direct none ∨ ∃ tunnel : Stunnel, t.transport = .stunnel tunnel ∧ tunnel.options = options)
    (hoptions : options.validate = .ok ())
    (hrun : (outcome createClient (t, c)).1 = .error (.validation errors)) : c.Injects (.validation errors) := by
  refine Classical.byContradiction fun hrule => ?_
  have hsteps := cluster_createClient t c
  rcases hdone : outcome createClient (t, c) with ⟨r, t', c'⟩
  rw [hdone] at hrun hsteps
  obtain rfl : r = .error (.validation errors) := hrun
  cases htarget : t.target with
  | error f =>
    rw [htarget] at hsteps
    cases hsteps
    exact target_sound t errors htarget
  | ok target =>
    rw [htarget] at hsteps
    obtain ⟨htunnel, -⟩ := (t.clientParts_of target).tunnel_of_rejected hsteps.symm rfl hrule
    exact Transport.clientObjects_sound h hoptions errors htunnel

end Transfer

end VolumeMigration
