import VolumeMigration.Proofs.EndpointParts
import VolumeMigration.Proofs.QuiesceRuns
import VolumeMigration.Proofs.ShapeFields
/-!
# Fields that an update keeps

To change an object it is read, changed and written, so a field that reading
drops is lost. A deployment config is written with every field that it was read
with, and stopping and restoring it changes no field but its replicas. A route
is written with the fields of its schema and with no other, so that a change
keeps it exactly if it has no other field (`Object.updates_keep_iff`).
-/

namespace VolumeMigration

/-! ## Routes -/

namespace RouteSpec

open Shape

theorem writes_target :
    Writes (.record [demanded "kind" .text, demanded "name" .text, field "weight" .int32])
      (JsonForm.toJson : RouteTarget → Json) := by
  refine writes_record fun hkind => ?_
  obtain ⟨kind, _, hname, rfl⟩ := writes_text.demanded hkind
  obtain ⟨name, _, hweight, rfl⟩ := writes_text.demanded hname
  obtain ⟨weight, _, hend, rfl⟩ := writes_int32.field hweight
  cases hend
  exact ⟨{ kind, name, weight }, by simp [Fields.member, Fields.present]⟩

theorem writes_tls : Writes (.record [demanded "termination" .text, field "insecureEdgeTerminationPolicy" .text])
    (JsonForm.toJson : RouteTls → Json) := by
  refine writes_record fun htermination => ?_
  obtain ⟨termination, _, hpolicy, rfl⟩ := writes_text.demanded htermination
  obtain ⟨insecurePolicy, _, hend, rfl⟩ := writes_text.field hpolicy
  cases hend
  exact ⟨{ termination, insecurePolicy }, by simp [Fields.member, Fields.present]⟩

theorem writes_port : Writes (.record [demanded "targetPort" .intOrText])
    fun port : PortRef => .obj (Fields.member "targetPort" port) := by
  refine writes_record fun hport => ?_
  obtain ⟨port, _, hend, rfl⟩ := writes_intOrText.demanded hport
  cases hend
  exact ⟨port, rfl⟩

theorem writes_spec : Writes Schema.routeSpec (JsonForm.toJson : RouteSpec → Json) := by
  refine writes_record fun hhost => ?_
  obtain ⟨host, _, htarget, rfl⟩ := writes_text.field hhost
  obtain ⟨target, _, hport, rfl⟩ := writes_target.demanded htarget
  obtain ⟨port, _, htls, rfl⟩ := writes_port.field hport
  obtain ⟨tls, _, hend, rfl⟩ := writes_tls.field htls
  cases hend
  exact ⟨{ target, host, port, tls }, by simp [Fields.member, Fields.present]⟩

theorem ofJson?_toJson (s : RouteSpec) : JsonForm.ofJson? (JsonForm.toJson s) = some s := by
  obtain ⟨⟨kind, name, weight⟩, host, port, tls⟩ := s
  cases weight <;> cases host <;> rcases port with _ | _ | _ <;> rcases tls with _ | ⟨_, _ | _⟩ <;> rfl

theorem isPlain_schema : Schema.routeSpec.IsPlain := by
  simp [Schema.routeSpec, IsPlain, ArePlain, field, demanded]

end RouteSpec

/-! ## Deployment configs -/

namespace ReplicaSpec

variable {j : Json} {s : ReplicaSpec} {key : String}

theorem ofVerbatim?_eq_some (h : ofVerbatim? j = some s) :
    ∃ fs : Fields, j = .obj fs ∧ s.rest = fs.without ["replicas"] ∧
    (fs.get? "replicas" = s.replicas.map .int ∨ s.replicas = none ∧ fs.get? "replicas" = some .null) := by
  obtain ⟨fs, hfs, hread⟩ := Option.bind_eq_some_iff.1 h
  cases j <;> cases hfs
  refine ⟨fs, rfl, ?_⟩
  split at hread
  · rename_i hmissing
    cases hread
    exact ⟨rfl, .inl hmissing⟩
  · rename_i hnull
    cases hread
    exact ⟨rfl, .inr ⟨rfl, hnull⟩⟩
  · rename_i n hn
    obtain ⟨replicas, hreplicas, hread⟩ := Option.bind_eq_some_iff.1 hread
    obtain ⟨m, hm, rfl⟩ := Option.map_eq_some_iff.1 hreplicas
    cases hread
    exact ⟨rfl, .inl (by rw [hn, (Text.within?_eq_some.1 hm).1]; rfl)⟩
  · cases hread

/-- Written are the replicas, and the other fields as they were read. -/
theorem member?_toJson {fs : Fields} (hrest : s.rest = fs.without ["replicas"]) (key : String) :
    (JsonForm.toJson s).member? key = if key = "replicas" then s.replicas.map .int else fs.get? key := by
  show (Fields.present "replicas" s.replicas ++ s.rest).get? key = _
  rw [Fields.get?_append, hrest, Fields.present]
  by_cases hkey : key = "replicas"
  · subst hkey
    rw [Fields.get?_opt_self, Fields.get?_without_of_mem List.mem_cons_self, Option.or_none, if_pos rfl]
    rfl
  · rw [Fields.get?_opt_of_ne (Ne.symm hkey), Option.none_or, Fields.get?_without_of_not_mem (by simpa using hkey),
      if_neg hkey]

/-- Whatever the replicas are, all other fields are those that were read. -/
theorem field?_rescaled (h : ofVerbatim? j = some s) (replicas : Option Int) {path : List String}
    (hpath : path.head? ≠ some "replicas") : (JsonForm.toJson { s with replicas }).field? path = j.field? path := by
  obtain ⟨fs, rfl, hrest, -⟩ := ofVerbatim?_eq_some h
  cases path with
  | nil => rfl
  | cons key path =>
    have hkey : key ≠ "replicas" := fun heq => hpath (congrArg some heq)
    rw [Json.field?, member?_toJson (s := { s with replicas }) hrest, if_neg hkey]
    rfl

theorem keeps_ofVerbatim? (h : ofVerbatim? j = some s) : j.Keeps [["replicas"]] (JsonForm.toJson s) := by
  intro path
  by_cases hpath : path.head? = some "replicas"
  · obtain ⟨path, rfl⟩ : ∃ rest, path = "replicas" :: rest := ⟨path.tail, (List.cons_head?_tail hpath).symm⟩
    obtain ⟨fs, rfl, hrest, hreplicas⟩ := ofVerbatim?_eq_some h
    unfold Json.KeepsAt
    rw [Json.field?, member?_toJson hrest, if_pos rfl, Json.field?_obj]
    rcases hreplicas with hsame | ⟨hnone, hnull⟩
    · exact .inl (by rw [hsame])
    · rw [hnone, hnull]
      cases path with
      | nil => exact .inr ⟨List.mem_cons_self, rfl, rfl⟩
      | cons key path => exact .inl rfl
  · exact .inl (field?_rescaled h s.replicas hpath)

end ReplicaSpec

namespace Object

variable {j : Json} {o o' : Object} {k : Kind}

/-- An object's fields are read by the schema of its kind. -/
theorem ofJson?_eq_some (h : ofJson? k j = some o) : ∃ given fs, j = .obj given ∧
    Shape.conformFields? (Schema.topFields k) given = some fs ∧ contentOf? fs k = some o.content := by
  unfold ofJson? at h
  obtain ⟨given, hgiven, hread⟩ := Option.bind_eq_some_iff.1 h
  cases j <;> cases hgiven
  split at hread
  · cases hread
  · obtain ⟨fs, hfs, hread⟩ := Option.bind_eq_some_iff.1 hread
    obtain ⟨metadata, -, hread⟩ := Option.bind_eq_some_iff.1 hread
    obtain ⟨content, hcontent, hread⟩ := Option.bind_eq_some_iff.1 hread
    cases hread
    exact ⟨given, fs, rfl, hfs, hcontent⟩

theorem member?_spec_route {spec : RouteSpec} {status : Option RouteStatus} (h : o.content = .route spec status) :
    o.toJson.member? "spec" = some (JsonForm.toJson spec) := by
  simp [toJson, h, contentFields, Json.member?, Json.obj?, Fields.member, Fields.get?]

theorem member?_spec_deploymentConfig {spec : ReplicaSpec} (h : o.content = .deploymentConfig spec) :
    o.toJson.member? "spec" = some (JsonForm.toJson spec) := by
  simp [toJson, h, contentFields, Json.member?, Json.obj?, Fields.member, Fields.get?]

/-- Of a route's specification the fields of the schema are read. -/
theorem route_reads (h : ofJson? .route j = some o) : ∃ given spec status, j.member? "spec" = some given ∧
    o.content = .route spec status ∧
    given.Takes Schema.routeSpec.paths Schema.routeSpec.nullable (JsonForm.toJson spec) := by
  obtain ⟨members, fs, rfl, hfs, hcontent⟩ := ofJson?_eq_some h
  have hmem : ("spec", .demanded, Schema.routeSpec) ∈ Schema.topFields .route := by
    simp [Schema.topFields, Shape.demanded]
  obtain ⟨given, read, hgiven, hread, hspec⟩ := Shape.get?_conformFields?_demanded hfs (by decide) hmem
  obtain ⟨spec, rfl⟩ := RouteSpec.writes_spec hread
  obtain ⟨spec', hspec', hcontent⟩ := Option.bind_eq_some_iff.1 hcontent
  obtain ⟨status, -, hcontent⟩ := Option.bind_eq_some_iff.1 hcontent
  rw [Fields.value?, hspec, Option.bind_some, RouteSpec.ofJson?_toJson] at hspec'
  cases hspec'
  exact ⟨given, spec, status, hgiven, (Option.some.inj hcontent).symm,
    Shape.takes_conform? Schema.routeSpec RouteSpec.isPlain_schema hread⟩

example : Schema.routeSpec.paths = [[], ["host"], ["to"], ["to", "kind"], ["to", "name"], ["to", "weight"], ["port"],
    ["port", "targetPort"], ["tls"], ["tls", "termination"], ["tls", "insecureEdgeTerminationPolicy"]] := rfl

/-- A deployment config's specification is read verbatim. -/
theorem deploymentConfig_reads (h : ofJson? .deploymentConfig j = some o) : ∃ given spec,
    j.member? "spec" = some given ∧ ReplicaSpec.ofVerbatim? given = some spec ∧
    o.content = .deploymentConfig spec := by
  obtain ⟨members, fs, rfl, hfs, hcontent⟩ := ofJson?_eq_some h
  have hmem : ("spec", .demanded, .any) ∈ Schema.topFields .deploymentConfig := by
    simp [Schema.topFields, Shape.demanded]
  obtain ⟨given, read, hgiven, hread, hspec⟩ := Shape.get?_conformFields?_demanded hfs (by decide) hmem
  rw [Shape.conform?] at hread
  cases hread
  rw [contentOf?, hspec, Option.bind_some] at hcontent
  obtain ⟨spec, hread, hcontent⟩ := Option.map_eq_some_iff.1 hcontent
  exact ⟨given, spec, hgiven, hread, hcontent.symm⟩

end Object

/-! ## Updates -/

namespace Quiesce

variable {ns : String} {k : WorkloadKind} {key : Key} {spec : ReplicaSpec} {c d : Cluster} {o o' : Object}

/-- Under the key is a deployment config that has the specification, whatever its replicas are. -/
def Rescaled (key : Key) (spec : ReplicaSpec) (c : Cluster) : Prop :=
  ∃ o replicas, c.objects.get? key = some o ∧ o.content = .deploymentConfig { spec with replicas }

theorem withSetting_deploymentConfig (spec : ReplicaSpec) (s : Setting) :
    ∃ replicas, (Content.deploymentConfig spec).withSetting s = .deploymentConfig { spec with replicas } := by
  cases s <;> exact ⟨_, rfl⟩

/-- Stopping and restoring write the setting of a controller and nothing else of its content. -/
theorem Action.Makes.content_cases {a : Action} (h : a.Makes k o o') :
    o'.content = o.content ∨ ∃ s, o'.content = o.content.withSetting s := by
  cases a with
  | quiesce =>
    cases hs : isStopped o with
    | true => exact .inl (congrArg (·.content) (Stops.of_stopped h hs))
    | false => exact .inr ⟨_, (Stops.of_running h hs).content_eq⟩
  | unquiesce =>
    cases hr : o.metadata.annotation? k.recordKey with
    | none => exact .inl (congrArg (·.content) (Resumes.of_fresh h hr))
    | some text =>
      cases hs : isStopped o with
      | true =>
        obtain ⟨r, hrestore, hal⟩ := Resumes.of_stopped h hr hs
        rw [restore_eq] at hrestore
        obtain ⟨s, -, rfl⟩ := Result.map_eq_ok.1 hrestore
        exact .inr ⟨s, hal.content_eq⟩
      | false =>
        have hal : o'.Alike (forget k o) := by simpa [Makes, Resumes, hr, hs] using h
        exact .inl hal.content_eq

theorem Rescaled.moved {a : Action} (h : Rescaled key spec c)
    (hm : Moved (fun o o' => ∃ k, Served c k ∧ Listed ns k o ∧ a.Makes k o o') c d) : Rescaled key spec d := by
  obtain ⟨o, replicas, ho, hcontent⟩ := h
  rcases hm.objects key with he | ⟨b, o', hb, ho', k, -, -, hmake⟩
  · exact ⟨o, replicas, he.trans ho, hcontent⟩
  · cases ho.symm.trans hb
    rcases hmake.content_cases with hsame | ⟨s, hset⟩
    · exact ⟨o', replicas, ho', hsame.trans hcontent⟩
    · rw [hcontent] at hset
      obtain ⟨replicas', hset'⟩ := withSetting_deploymentConfig { spec with replicas } s
      exact ⟨o', replicas', ho', hset.trans hset'⟩

/-- However calls are put together, a deployment config keeps its specification, its replicas aside. -/
theorem Rescaled.runStates (calls : List Call) (hc : c.WellKept) (h : Rescaled key spec c) :
    ∀ d ∈ runStates ns calls c, Rescaled key spec d := by
  induction calls generalizing c with
  | nil =>
    intro d hd
    rwa [List.mem_singleton.1 hd]
  | cons call calls ih =>
    have hstart : Rescaled key spec (call.start c) := h
    have hgoes := call.goes ns hc
    intro d hd
    rcases List.mem_append.1 hd with hd | hd
    · rcases List.mem_cons.1 hd with rfl | hd
      · exact h
      · rcases List.mem_cons.1 hd with rfl | hd
        · exact hstart
        · exact hstart.moved (hgoes.moved d hd)
    · exact ih (hgoes.moved_last.kept hc) (hstart.moved hgoes.moved_last) d hd

end Quiesce

/-- Marking an endpoint for cleanup leaves what objects hold, besides their labels. -/
theorem Endpoint.content_markForCleanup {c : Cluster} (hc : c.WellKept) (e : Endpoint) (label value : String)
    {key : Key} {o : Object} (ho : c.objects.get? key = some o) :
    ∃ o', (Attempt.outcome (e.markForCleanup label value) c).2.objects.get? key = some o' ∧ o'.content = o.content := by
  have hlabelled := (e.markForCleanup_labelsAll label value hc).labelled
  by_cases hkey : key ∈ (e.kinds.filter fun k => (e.labelFailure? label value c k).isNone).map e.keyOf
  · obtain ⟨k, hk, rfl⟩ := List.mem_map.1 hkey
    obtain ⟨a, o', ha, ho', hrelabels⟩ := hlabelled.relabels k hk
    cases ho.symm.trans ha
    exact ⟨o', ho', congrArg (·.content) hrelabels.rest⟩
  · exact ⟨o, (hlabelled.kept key hkey).trans ho, rfl⟩

namespace Object

/-- Of a deployment config every field of the specification is written as it was read, and stopping and restoring it
changes none but its replicas. Of a route the fields of the schema are written and no other; so it is written with all
of its fields exactly if the schema has them all, and marking it for cleanup changes nothing of what is written. -/
theorem updates_keep_iff (j : Json) :
    (∀ o, ofJson? .deploymentConfig j = some o → ∃ spec spec', j.member? "spec" = some spec ∧
      o.toJson.member? "spec" = some spec' ∧ spec.Keeps [["replicas"]] spec' ∧
      ∀ ns calls (c : Cluster), c.WellKept → c.objects.get? o.key = some o → ∀ d ∈ Quiesce.runStates ns calls c,
        ∃ o' spec'', d.objects.get? o.key = some o' ∧ o'.toJson.member? "spec" = some spec'' ∧
          ∀ path : List String, path.head? ≠ some "replicas" → spec''.field? path = spec.field? path) ∧
    (∀ o, ofJson? .route j = some o → ∃ spec spec', j.member? "spec" = some spec ∧
      o.toJson.member? "spec" = some spec' ∧ spec.Takes Schema.routeSpec.paths Schema.routeSpec.nullable spec' ∧
      (spec.Keeps Schema.routeSpec.nullable spec' ↔ ∀ path, spec.field? path ≠ none → path ∈ Schema.routeSpec.paths) ∧
      ∀ (e : Endpoint) (label value : String) (c : Cluster), c.WellKept → c.objects.get? o.key = some o →
        ∃ o', (Attempt.outcome (e.markForCleanup label value) c).2.objects.get? o.key = some o' ∧
          o'.toJson.member? "spec" = some spec') := by
  constructor
  · intro o h
    obtain ⟨spec, s, hspec, hread, hcontent⟩ := deploymentConfig_reads h
    refine ⟨spec, _, hspec, member?_spec_deploymentConfig hcontent, ReplicaSpec.keeps_ofVerbatim? hread, ?_⟩
    intro ns calls c hc ho d hd
    obtain ⟨o', replicas, ho', hcontent'⟩ := Quiesce.Rescaled.runStates calls hc ⟨o, s.replicas, ho, hcontent⟩ d hd
    refine ⟨o', _, ho', member?_spec_deploymentConfig hcontent', fun path hpath => ?_⟩
    exact ReplicaSpec.field?_rescaled hread replicas hpath
  · intro o h
    obtain ⟨spec, s, status, hspec, hcontent, htakes⟩ := route_reads h
    refine ⟨spec, _, hspec, member?_spec_route hcontent, htakes, htakes.keeps_iff (by decide), ?_⟩
    intro e label value c hc ho
    obtain ⟨o', ho', hcontent'⟩ := e.content_markForCleanup hc label value ho
    exact ⟨o', ho', member?_spec_route (hcontent'.trans hcontent)⟩

/-- A deployment config with fields that a migration does not look at. -/
def rolling : Json := .obj [
  ("apiVersion", .str "apps.openshift.io/v1"), ("kind", .str "DeploymentConfig"),
  ("metadata", .obj [("name", .str "web"), ("namespace", .str "shop")]),
  ("spec", .obj [
    ("replicas", .int 3),
    ("selector", .obj [("app", .str "web")]),
    ("strategy", .obj [("type", .str "Rolling"), ("rollingParams", .null)])])]

/-- A route with fields that a migration does not look at. -/
def certified : Json := .obj [
  ("apiVersion", .str "route.openshift.io/v1"), ("kind", .str "Route"),
  ("metadata", .obj [("name", .str "web"), ("namespace", .str "shop")]),
  ("spec", .obj [
    ("to", .obj [("kind", .str "Service"), ("name", .str "web"), ("weight", .null)]),
    ("tls", .obj [("termination", .str "edge"), ("certificate", .str "PEM")]),
    ("wildcardPolicy", .str "None")])]

theorem updates_keep_iff_rolling :
    (∃ o, ofJson? .deploymentConfig rolling = some o ∧ ∃ spec spec', rolling.member? "spec" = some spec ∧
      o.toJson.member? "spec" = some spec' ∧ spec.Keeps [["replicas"]] spec' ∧
      ∀ d ∈ Quiesce.runStates "shop" [⟨.quiesce, [], []⟩, ⟨.unquiesce, [], []⟩] (({} : Cluster).place o),
        ∃ o' spec'', d.objects.get? o.key = some o' ∧ o'.toJson.member? "spec" = some spec'' ∧
          spec''.field? ["strategy", "rollingParams"] = spec.field? ["strategy", "rollingParams"]) ∧
    ∃ o, ofJson? .route certified = some o ∧ ∃ spec spec', certified.member? "spec" = some spec ∧
      o.toJson.member? "spec" = some spec' ∧ spec.Takes Schema.routeSpec.paths Schema.routeSpec.nullable spec' ∧
      (spec.Keeps Schema.routeSpec.nullable spec' ↔
        ∀ path, spec.field? path ≠ none → path ∈ Schema.routeSpec.paths) := by
  constructor
  · obtain ⟨o, ho⟩ := Option.isSome_iff_exists.1
      (show (ofJson? .deploymentConfig rolling).isSome = true by decide +kernel)
    obtain ⟨spec, spec', hspec, hspec', hkeeps, hruns⟩ := (updates_keep_iff rolling).1 o ho
    refine ⟨o, ho, spec, spec', hspec, hspec', hkeeps, fun d hd => ?_⟩
    have hplaced : (({} : Cluster).place o).objects.get? o.key = some o := by rw [Cluster.get?_place, if_pos rfl]
    obtain ⟨o', spec'', ho', hspec'', hsame⟩ := hruns "shop" _ _ (Cluster.wellKept_empty.place o) hplaced d hd
    exact ⟨o', spec'', ho', hspec'', hsame _ (by decide)⟩
  · obtain ⟨o, ho⟩ := Option.isSome_iff_exists.1 (show (ofJson? .route certified).isSome = true by decide +kernel)
    obtain ⟨spec, spec', hspec, hspec', htakes, hiff, -⟩ := (updates_keep_iff certified).2 o ho
    exact ⟨o, ho, spec, spec', hspec, hspec', htakes, hiff⟩

/-- A route loses the fields that its schema does not have, the nested ones too. -/
theorem certified_loses : ∃ o spec spec', ofJson? .route certified = some o ∧ certified.member? "spec" = some spec ∧
    o.toJson.member? "spec" = some spec' ∧ ¬spec.Keeps Schema.routeSpec.nullable spec' ∧
    spec.field? ["wildcardPolicy"] = some (.str "None") ∧ spec'.field? ["wildcardPolicy"] = none ∧
    spec.field? ["tls", "certificate"] = some (.str "PEM") ∧ spec'.field? ["tls", "certificate"] = none := by
  obtain ⟨o, ho⟩ := Option.isSome_iff_exists.1 (show (ofJson? .route certified).isSome = true by decide +kernel)
  obtain ⟨spec, s, status, hspec, hcontent, htakes⟩ := route_reads ho
  cases hspec
  refine ⟨o, _, _, ho, rfl, member?_spec_route hcontent, fun hkeeps => ?_, rfl, htakes.drops _ (by decide), rfl,
    htakes.drops _ (by decide)⟩
  have hknown := (htakes.keeps_iff (by decide)).1 hkeeps ["wildcardPolicy"] (by rw [Json.field?]; decide)
  exact absurd hknown (by decide)

end Object

end VolumeMigration
