import VolumeMigration.Config.Plan
import VolumeMigration.Proofs.Creation
import VolumeMigration.Proofs.PairRules
/-!
# What a plan promises

Planning writes to neither cluster (`MigrationConfig.plan_reads`). A transfer
that was planned has parts that go together, and its transport is as it was
configured, with options that were checked (`MigrationConfig.plan_ok`).
-/

namespace VolumeMigration

open Attempt

/-- A transfer as it comes out of a configuration. -/
structure Transfer.Planned (t : Transfer) : Prop where
  accepted : t.Accepted
  transport : t.transport = .direct none ∨ ∃ options : StunnelOptions, options.validate = .ok () ∧
    t.transport = .stunnel { options }

namespace MigrationConfig

variable {config : MigrationConfig} {password : String} {s s' : Cluster × Cluster} {t : Transfer}

/-! ## Planning reads -/

theorem findClaim?_reads (n : ObjectName) : Reads (findClaim? n) :=
  .bind (Cluster.find?_reads _ n) fun _ => .pure _

theorem readPair_reads (p : PairConfig) : Reads (readPair p) := by
  refine .bind (findClaim?_reads _).onFirst fun source? => ?_
  cases source? with
  | none => exact .throw _
  | some source => exact .bind (findClaim?_reads _).onSecond fun _ => .pure _

theorem readPairs_reads (ps : List PairConfig) : Reads (readPairs ps) := by
  induction ps with
  | nil => exact .pure []
  | cons p ps ih => exact .bind (readPair_reads p) fun _ => .bind ih fun _ => .pure _

theorem pairList_reads (config : MigrationConfig) : Reads config.pairList :=
  .bind (.ofResult _) fun _ => .bind (readPairs_reads _) fun _ => .ofResult _

theorem plan_reads (config : MigrationConfig) (password : String) : Reads (config.plan password) :=
  .bind (pairList_reads config) fun _ => .bind (.ofResult _) fun _ => .bind (.ofResult _) fun _ =>
    .bind (.ofResult _) fun _ => .ofResult _

/-! ## What was planned -/

theorem buildTransport_ok {transport : Transport} (h : config.buildTransport = .ok transport) :
    transport = .direct none ∨ ∃ options : StunnelOptions, options.validate = .ok () ∧
      transport = .stunnel { options } := by
  unfold buildTransport at h
  cases hconfig : config.transport with
  | none =>
    rw [hconfig] at h
    cases h
    exact .inl rfl
  | stunnel options =>
    rw [hconfig] at h
    obtain ⟨⟨⟩, hvalid, hmade⟩ := Result.bind_eq_ok.1 h
    cases hmade
    exact .inr ⟨options, hvalid, rfl⟩

/-- The parts of a planned transfer go together, and its transport is the configured one. -/
theorem plan_parts (h : outcome (config.plan password) s = (.ok t, s')) :
    t.Accepted ∧ config.buildTransport = .ok t.transport := by
  unfold plan at h
  obtain ⟨pairs, s₁, -, h⟩ := bind_eq_ok.1 h
  obtain ⟨endpoint, s₂, -, h⟩ := bind_eq_ok.1 h
  obtain ⟨transport, s₃, htransport, h⟩ := bind_eq_ok.1 h
  obtain ⟨method, s₄, -, h⟩ := bind_eq_ok.1 h
  obtain ⟨hnew, -⟩ := Prod.mk.inj h
  obtain ⟨hbuilt, -⟩ := Prod.mk.inj htransport
  refine ⟨.new hnew, ?_⟩
  unfold Transfer.new at hnew
  obtain ⟨_, -, hnew⟩ := Result.bind_eq_ok.1 hnew
  obtain ⟨_, -, hnew⟩ := Result.bind_eq_ok.1 hnew
  cases hnew
  exact hbuilt

theorem plan_ok (h : outcome (config.plan password) s = (.ok t, s')) : s' = s ∧ t.Planned := by
  obtain ⟨haccepted, hbuilt⟩ := plan_parts h
  exact ⟨(plan_reads config password).state_eq h, haccepted, buildTransport_ok hbuilt⟩

/-- An endpoint of any type is named after the first pair, and its labels tell the transfer and its manager. -/
theorem buildEndpoint_ok {pairs : PairList} {endpoint : Endpoint} (h : config.buildEndpoint pairs = .ok endpoint) :
    endpoint.name = ⟨pairs.destinationNamespace, endpointName pairs.transferId⟩ ∧
      endpoint.labels = Label.withManager (.ofList [(Label.transfer, pairs.transferId)]) := by
  unfold buildEndpoint at h
  cases hconfig : config.endpoint with
  | route termination subdomain | ingress subdomain className =>
    simp only [hconfig] at h
    cases h
    exact ⟨rfl, rfl⟩
  | service type address =>
    simp only [hconfig] at h
    split at h <;> cases h <;> exact ⟨rfl, rfl⟩

/-- The endpoint of a planned transfer is the configured one of its pairs. -/
theorem plan_endpoint (h : outcome (config.plan password) s = (.ok t, s')) :
    config.buildEndpoint t.pairs = .ok t.endpoint := by
  unfold plan at h
  obtain ⟨pairs, s₁, -, h⟩ := bind_eq_ok.1 h
  obtain ⟨endpoint, s₂, hendpoint, h⟩ := bind_eq_ok.1 h
  obtain ⟨transport, s₃, -, h⟩ := bind_eq_ok.1 h
  obtain ⟨method, s₄, -, h⟩ := bind_eq_ok.1 h
  obtain ⟨hnew, -⟩ := Prod.mk.inj h
  obtain ⟨hbuilt, -⟩ := Prod.mk.inj hendpoint
  unfold Transfer.new at hnew
  obtain ⟨_, -, hnew⟩ := Result.bind_eq_ok.1 hnew
  obtain ⟨_, -, hnew⟩ := Result.bind_eq_ok.1 hnew
  cases hnew
  exact hbuilt

/-- The labels of a planned endpoint tell the transfer and its manager, and nothing else. -/
theorem plan_labels (h : outcome (config.plan password) s = (.ok t, s')) :
    t.endpoint.labels = Label.withManager (.ofList [(Label.transfer, t.id)]) :=
  (buildEndpoint_ok (plan_endpoint h)).2

/-- The options that a tunnel is to be discovered with were checked as well. -/
theorem plan_options (h : outcome (config.plan password) s = (.ok t, s')) :
    config.transport.stunnelOptions.validate = .ok () := by
  obtain ⟨-, hbuilt⟩ := plan_parts h
  unfold buildTransport at hbuilt
  cases hconfig : config.transport with
  | none => rfl
  | stunnel options =>
    rw [hconfig] at hbuilt
    obtain ⟨⟨⟩, hvalid, -⟩ := Result.bind_eq_ok.1 hbuilt
    exact hvalid

end MigrationConfig

end VolumeMigration
