import VolumeMigration.Proofs.FailureFree
import VolumeMigration.Proofs.PairRules
import VolumeMigration.Proofs.Parts
/-!
# Input that is turned down during a creation

The options, the material and the proxy of a tunnel, and the address of an
endpoint behind one, are looked at only when the tunnel is created. By then the
files of the side exist, so that input that is turned down leaves nothing behind
just if there is no tunnel or there are no files (`Transfer.rejected_keeps_iff`).
-/

namespace VolumeMigration

open Attempt

/-- The input was turned down. -/
def Result.isRejected {α : Type} : Result α → Bool
  | .error f => f.isRejection
  | .ok _ => false

theorem Attempt.outcome_of_isRejected {σ α : Type} {a : Attempt σ α} {s : σ} (h : (outcome a s).1.isRejected = true) :
    ∃ f, outcome a s = (.error f, (outcome a s).2) ∧ f.isRejection = true := by
  rcases ha : outcome a s with ⟨f | x, s'⟩
  · rw [ha] at h
    exact ⟨f, rfl, h⟩
  · rw [ha] at h
    cases h

/-- A cluster without rules answers with no failure of its own. -/
theorem Cluster.not_injects_empty (f : Failure) : ¬({} : Cluster).Injects f :=
  FailureFree.not_injects ⟨rfl, rfl⟩ f

/-- After its files were created a side left its cluster as it was only if it has none. -/
theorem Parts.Of.files_keep_iff {t : Transfer} {side : Side} {p : Parts} {c c' : Cluster} (h : p.Of t side)
    (hfiles : outcome (inOrder (p.files.map Endpoint.createObject)) c = (.ok (), c')) :
    c'.objects = c.objects ∧ c'.log = c.log ↔ t.type = .blockrsync := by
  rw [← h.files_nil]
  constructor
  · rintro ⟨-, hlog⟩
    cases hp : p.files with
    | nil => rfl
    | cons o os =>
      obtain ⟨entries, hentries, e, he, -⟩ :=
        logs_inOrder (fun _ => h.creates_file) Endpoint.createObject_logs hfiles o (by simp [hp])
      rw [hlog, List.self_eq_append_right] at hentries
      rw [hentries] at he
      cases he
  · intro hnil
    rw [hnil] at hfiles
    cases hfiles
    exact ⟨rfl, rfl⟩

namespace Transfer

/-- Creates a side of a transfer. -/
def createSide (issued : TlsMaterial) : Side → Attempt (Transfer × Cluster) Unit
  | .server => createServer issued
  | .client => createClient

variable {t t' : Transfer} {issued : TlsMaterial} {side : Side} {c c' : Cluster} {f : Failure}

/-- With a tunnel it is known from the start where the client connects to. -/
theorem isDirect_of_target_error (h : t.target = .error f) : t.transport.isDirect = true := by
  cases ht : t.transport with
  | direct port => rfl
  | stunnel tunnel =>
    rw [Transfer.target, ht] at h
    cases h

/-- Input is turned down before anything was done, or by the tunnel after the files were created. -/
theorem rejected_cases (hrun : outcome (createSide issued side) (t, c) = (.error f, (t', c')))
    (hrejects : f.isRejection = true) (hrule : ¬c.Injects f) :
    (t.transport.isDirect = true ∧ c' = c) ∨ t.transport.isDirect = false ∧ ∃ p : Parts, p.Of t side ∧
      outcome (inOrder (p.files.map Endpoint.createObject)) c = (.ok (), c') := by
  cases side with
  | server =>
    have hsteps := cluster_createServer t issued c
    change outcome (createServer issued) (t, c) = _ at hrun
    rw [hrun] at hsteps
    obtain ⟨htunnel, hfiles⟩ := (t.serverParts_of issued).rejected hsteps.symm hrejects hrule
    exact .inr ⟨htunnel, _, t.serverParts_of issued, hfiles⟩
  | client =>
    have hsteps := cluster_createClient t c
    change outcome createClient (t, c) = _ at hrun
    rw [hrun] at hsteps
    cases htarget : t.target with
    | error g =>
      rw [htarget] at hsteps
      cases hsteps
      exact .inl ⟨isDirect_of_target_error htarget, rfl⟩
    | ok target =>
      rw [htarget] at hsteps
      obtain ⟨htunnel, hfiles⟩ := (t.clientParts_of target).rejected hsteps.symm hrejects hrule
      exact .inr ⟨htunnel, _, t.clientParts_of target, hfiles⟩

/-- A side whose input is turned down, by the transfer and not by a rule of the cluster, leaves the objects
and the log of the cluster as they were if the transport is direct or the transfer copies devices, and
only then. Whatever there was before is as it was in any case. -/
theorem rejected_keeps_iff (hrun : outcome (createSide issued side) (t, c) = (.error f, (t', c')))
    (hrejects : f.isRejection = true) (hrule : ¬c.Injects f) :
    (c'.objects = c.objects ∧ c'.log = c.log ↔ t.transport.isDirect = true ∨ t.type = .blockrsync) ∧ c.Grows c' := by
  rcases rejected_cases hrun hrejects hrule with ⟨hdirect, rfl⟩ | ⟨htunnel, p, hp, hfiles⟩
  · exact ⟨⟨fun _ => .inl hdirect, fun _ => ⟨rfl, rfl⟩⟩, .refl c'⟩
  · rw [hp.files_keep_iff hfiles, htunnel]
    exact ⟨by simp, (createAll_ok p.files hfiles).1⟩

/-- A tree of files that is sent through a tunnel with an illegal level of verification. -/
def misverified : Transfer where
  method := .rsync .archive
  pairs := { pairs := [Pair.ofClaims (.named ⟨"shop", "data"⟩) (some (.named ⟨"depot", "data-copy"⟩))]
             sound := by decide +kernel }
  endpoint := .ofClusterIP ⟨"depot", "inbox"⟩ (.ofList [("app", "inbox")])
  transport := .stunnel { options := { caVerifyLevel := "9" } }
  credentials := .ofPassword "secret"
  workload := {}

theorem rejected_keeps_iff_misverified : ∃ f, outcome (createSide default .server) (misverified, {}) =
      (.error f, (outcome (createSide default .server) (misverified, {})).2) ∧
    f.isRejection = true ∧ ¬({} : Cluster).Injects f ∧
    ((outcome (createSide default .server) (misverified, {})).2.2.objects = ({} : Cluster).objects ∧
        (outcome (createSide default .server) (misverified, {})).2.2.log = ({} : Cluster).log ↔
      misverified.transport.isDirect = true ∨ misverified.type = .blockrsync) ∧
    ({} : Cluster).Grows (outcome (createSide default .server) (misverified, {})).2.2 := by
  obtain ⟨f, hrun, hrejects⟩ := outcome_of_isRejected (a := createSide default .server) (s := (misverified, {}))
    (by decide +kernel)
  have hrule := Cluster.not_injects_empty f
  exact ⟨f, hrun, hrejects, hrule, rejected_keeps_iff hrun hrejects hrule⟩

/-- The parts of the transfer are found to go together, and when its server's side is created the options of
the tunnel are turned down, but not before two objects were created. -/
theorem createServer_misverified_leaves_files : misverified.Accepted ∧
    ∃ f, outcome (createServer default) (misverified, {}) =
      (.error f, (outcome (createServer default) (misverified, {})).2) ∧
      f.isRejection = true ∧
      (outcome (createServer default) (misverified, {})).2.2.log.map LogEntry.line =
        ["create ConfigMap depot/ferry-rsync-config-8d777f385d3dfec8815d20f7496026dc",
          "create Secret depot/ferry-rsync-secret-8d777f385d3dfec8815d20f7496026dc"] := by
  constructor
  · exact .of_checks (by decide +kernel) (by decide +kernel) rfl
  · obtain ⟨f, hrun, hrejects⟩ := outcome_of_isRejected (a := createServer default) (s := (misverified, {}))
      (by decide +kernel)
    exact ⟨f, hrun, hrejects, by decide +kernel⟩

end Transfer

end VolumeMigration
