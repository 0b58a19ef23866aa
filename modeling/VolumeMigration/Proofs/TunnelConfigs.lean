import VolumeMigration.Proofs.PairedVolumes
import VolumeMigration.Proofs.ProxyUrls
import VolumeMigration.Proofs.ServerPorts
/-!
# The configuration of a tunnel's client line by line

What the client's side of a tunnel is configured with is known down to the last
line: fixed options, and then the settings of its one service, which depend on
whether there is a proxy, whether a user is named to it, and whether the other
side is checked (`Stunnel.clientConfig_lines`). What is left out leaves no blank
line behind, and no key is set twice.
-/

namespace VolumeMigration

open ConfigFile (Written HasBreak keyValue?)

namespace ConfigFile

/-- The keys that lines set, in order. -/
def keys (lines : List String) : List String := lines.filterMap fun l => (keyValue? l).map (·.1)

theorem keys_lines (ws : List Written) : keys (ws.map Written.line) = ws.filterMap fun w => w.keyValue?.map (·.1) := by
  unfold keys
  rw [List.filterMap_map]
  congr 1
  funext w
  rw [Function.comp_apply, Written.keyValue?_line]

/-- A line with a sign sets a key. -/
theorem isSome_keyValue?_of_mem {line : String} (h : '=' ∈ line.toList) : (keyValue? line).isSome = true := by
  obtain ⟨key, value, hline, hkey⟩ := List.eq_append_cons_of_mem h
  rw [keyValue?, hline, Text.cutFirst?_append hkey]
  rfl

end ConfigFile

namespace StunnelOptions

variable {o : StunnelOptions}

/-- Options that were checked have a password for every user. -/
theorem isSome_proxyPassword (h : o.validate = .ok ()) {user : String} (huser : o.proxyUsername = some user) :
    ∃ password, o.proxyPassword = some password := by
  cases hpassword : o.proxyPassword with
  | some password => exact ⟨password, rfl⟩
  | none =>
    have hfault : Fault.halfCredentials ∈ o.faults := by simp [faults, huser, hpassword]
    rw [faults_eq_nil_of_validate h] at hfault
    cases hfault

end StunnelOptions

namespace Stunnel

variable {o : StunnelOptions} {proxy : Option ProxyUrl} {address : Address}

/-! ## Lines -/

/-- The lines with the user that a proxy is asked as, unless there is none or it has no name. -/
def loginLines (o : StunnelOptions) : List String :=
  match o.proxyUsername with
  | none => []
  | some user =>
    if user = "" then []
    else ["protocolAuthentication = basic", "protocolUsername = " ++ user,
      "protocolPassword = " ++ o.proxyPassword.getD ""]

/-- The lines that lead to an address, maybe through a proxy. -/
def connectLines (o : StunnelOptions) (proxy : Option ProxyUrl) (address : Address) : List String :=
  match proxy with
  | none => ["connect = " ++ (address.hostname ++ ":" ++ Nat.repr address.port)]
  | some u =>
    ["protocol = connect", "connect = " ++ (u.host ++ ":" ++ u.port),
      "protocolHost = " ++ (address.hostname ++ ":" ++ Nat.repr address.port)] ++ loginLines o

/-- The lines that have the other side checked. -/
def verifyLines (o : StunnelOptions) : List String :=
  if o.noVerifyCa then [] else ["CAfile = /etc/stunnel/certs/ca.crt", "verify = " ++ o.caVerifyLevel]

/-- The lines of the client's service. -/
def serviceLines (o : StunnelOptions) (proxy : Option ProxyUrl) (address : Address) : List String :=
  ["accept = 6443"] ++ connectLines o proxy address ++
  ["sni = " ++ address.hostname, "cert = /etc/stunnel/certs/tls.crt", "key = /etc/stunnel/certs/tls.key"] ++
  verifyLines o ++ ["TIMEOUTclose = 0"]

theorem line_routeLines (hvalid : o.validate = .ok ()) (proxy : Option ProxyUrl) (address : Address) :
    (routeLines o (proxy.map ProxyUrl.address) address).map Written.line = connectLines o proxy address := by
  cases proxy with
  | none => rfl
  | some u =>
    have hlogin : (if o.proxyUsername.any (· ≠ "") then
        [.text "protocolAuthentication = basic", .entry "protocolUsername" (o.proxyUsername.getD "") rfl,
          .entry "protocolPassword" (ConfigFile.display (Json.ofOption .str o.proxyPassword)) rfl]
        else ([] : List Written)).map Written.line = loginLines o := by
      unfold loginLines
      cases huser : o.proxyUsername with
      | none => rfl
      | some user =>
        obtain ⟨password, hpassword⟩ := StunnelOptions.isSome_proxyPassword hvalid huser
        rw [hpassword]
        by_cases hempty : user = ""
        · simp [hempty]
        · simp only [Option.any_some, hempty, ne_eq, not_false_eq_true, decide_true, if_true, if_false]
          rfl
    rw [Option.map_some, routeLines, List.map_append, hlogin]
    rfl

/-- The lines that the client's configuration is made of. -/
theorem line_clientLines (hvalid : o.validate = .ok ()) (proxy : Option ProxyUrl) (address : Address) :
    (clientLines o (proxy.map ProxyUrl.address) address).map Written.line =
      clientOptionLines ++ serviceLines o proxy address := by
  have hmaterial : (materialLines o).map Written.line = ["cert = /etc/stunnel/certs/tls.crt",
      "key = /etc/stunnel/certs/tls.key"] ++ verifyLines o ++ ["TIMEOUTclose = 0"] := by
    unfold materialLines verifyLines
    cases o.noVerifyCa <;> rfl
  rw [clientLines, List.map_append, List.map_append, List.map_append, line_routeLines hvalid, hmaterial, serviceLines]
  simp only [List.append_assoc]
  rfl

/-! ## Keys -/

/-- Every line of the service sets a key. -/
theorem isSome_keyValue?_serviceLines (o : StunnelOptions) (proxy : Option ProxyUrl) (address : Address) :
    ∀ line ∈ serviceLines o proxy address, (keyValue? line).isSome = true := by
  suffices hsign : ∀ line ∈ serviceLines o proxy address, '=' ∈ line.toList from
    fun line hline => ConfigFile.isSome_keyValue?_of_mem (hsign line hline)
  have hlogin : ∀ line ∈ loginLines o, '=' ∈ line.toList := by
    unfold loginLines
    cases o.proxyUsername with
    | none => exact nofun
    | some user => by_cases hempty : user = "" <;> simp [hempty]
  have hconnect : ∀ line ∈ connectLines o proxy address, '=' ∈ line.toList := by
    unfold connectLines
    cases proxy with
    | none => simp
    | some u => simpa using hlogin
  have hverify : ∀ line ∈ verifyLines o, '=' ∈ line.toList := by
    unfold verifyLines
    cases o.noVerifyCa <;> simp
  simp only [serviceLines, List.forall_mem_append]
  exact ⟨⟨⟨⟨by simp, hconnect⟩, by simp⟩, hverify⟩, by simp⟩

/-- The keys of the client's configuration, by what there is. -/
def clientKeys (proxy user verify : Bool) : List String :=
  ["foreground", "pid", "syslog", "client", "socket", "socket", "accept"] ++
  (if proxy then
    ["protocol", "connect", "protocolHost"] ++
    (if user then ["protocolAuthentication", "protocolUsername", "protocolPassword"] else [])
  else ["connect"]) ++
  ["sni", "cert", "key"] ++ (if verify then ["CAfile", "verify"] else []) ++ ["TIMEOUTclose"]

theorem keys_clientLines (o : StunnelOptions) (proxy : Option String) (address : Address) :
    ConfigFile.keys ((clientLines o proxy address).map Written.line) =
      clientKeys proxy.isSome (o.proxyUsername.any (· ≠ "")) (!o.noVerifyCa) := by
  rw [ConfigFile.keys_lines]
  unfold clientLines routeLines materialLines
  cases proxy with
  | none => cases o.noVerifyCa <;> rfl
  | some host => cases o.proxyUsername.any (· ≠ "") <;> cases o.noVerifyCa <;> rfl

theorem nodup_clientKeys : ∀ proxy user verify, ((clientKeys proxy user verify).filter (· ≠ "socket")).Nodup := by
  decide

/-! ## The file -/

/-- A URL without line breaks has none in its address. -/
theorem not_hasBreak_address {u : ProxyUrl} (h : ¬HasBreak u.text) : ¬HasBreak u.address := by
  simp only [ProxyUrl.text, ConfigFile.hasBreak_append, not_or] at h
  exact h.1.2

/-- Whatever is put into it, the configuration of the client's side is made of the fixed options and of the lines of
its service, and it has just these lines unless a text that was put in has a line break. Every line of the service is a
setting, and no key is set twice but the one for the options of sockets. -/
theorem clientConfig_lines {e : Endpoint} {hostname : String} {port : Nat} (hvalid : o.validate = .ok ())
    (hhost : e.hostname? = some hostname) (hport : e.port? = some port) :
    ∃ (file : String) (proxy : Option ProxyUrl), clientConfig o e = .ok file ∧ o.proxyUrl = proxy.map ProxyUrl.text ∧
      file = ConfigFile.ofLines (clientOptionLines ++ serviceLines o proxy ⟨hostname, port⟩) ∧
      ((∀ s ∈ [hostname, o.proxyUrl.getD "", o.proxyUsername.getD "", o.proxyPassword.getD ""], ¬HasBreak s) →
        ConfigFile.linesOf file = clientOptionLines ++ serviceLines o proxy ⟨hostname, port⟩) ∧
      (∀ line ∈ serviceLines o proxy ⟨hostname, port⟩, (keyValue? line).isSome = true) ∧
      ((ConfigFile.keys (clientOptionLines ++ serviceLines o proxy ⟨hostname, port⟩)).filter (· ≠ "socket")).Nodup := by
  obtain ⟨proxy, hurl, hproxy⟩ := StunnelOptions.exists_proxyUrl hvalid
  have haddress : Address.ofEndpoint e = .ok ⟨hostname, port⟩ := by
    rw [Address.ofEndpoint, hhost, hport]
  have hlines := line_clientLines hvalid proxy ⟨hostname, port⟩
  refine ⟨_, proxy, clientConfig_ok haddress hproxy, hurl, congrArg ConfigFile.ofLines hlines, fun hwhole => ?_,
    isSome_keyValue?_serviceLines o proxy _, ?_⟩
  · simp only [List.forall_mem_cons, List.not_mem_nil, false_implies, implies_true, and_true] at hwhole
    obtain ⟨hwhole_host, hwhole_url, hwhole_user, hwhole_password⟩ := hwhole
    have hwhole_proxy : ¬HasBreak ((proxy.map ProxyUrl.address).getD "") := by
      cases proxy with
      | none => decide
      | some u =>
        rw [hurl] at hwhole_url
        exact not_hasBreak_address hwhole_url
    have htexts : ∀ s ∈ clientTexts o (proxy.map ProxyUrl.address) ⟨hostname, port⟩, ¬HasBreak s := by
      simp only [clientTexts, List.forall_mem_cons, List.not_mem_nil, false_implies, implies_true, and_true]
      exact ⟨hwhole_host, hwhole_proxy, hwhole_user, hwhole_password, StunnelOptions.not_hasBreak_caVerifyLevel hvalid⟩
    rw [← hlines]
    refine ConfigFile.linesOf_ofLines fun line hline => ?_
    obtain ⟨w, hw, rfl⟩ := List.mem_map.1 hline
    exact (clientLines_whole o _ _ htexts w hw).line
  · rw [← hlines, keys_clientLines]
    exact nodup_clientKeys ..

/-- A tunnel that leads through a proxy which asks for a user. -/
def proxied : StunnelOptions where
  noVerifyCa := false
  proxyUrl := some "http://proxy.corp:3128/"
  proxyUsername := some "sail"
  proxyPassword := some "secret"

theorem clientConfig_lines_proxied : ∃ file, clientConfig proxied Transfer.disks.endpoint = .ok file ∧
    ConfigFile.linesOf file = clientOptionLines ++ ["accept = 6443", "protocol = connect", "connect = proxy.corp:3128",
      "protocolHost = inbox.depot.svc.cluster.local:6443", "protocolAuthentication = basic", "protocolUsername = sail",
      "protocolPassword = secret", "sni = inbox.depot.svc.cluster.local", "cert = /etc/stunnel/certs/tls.crt",
      "key = /etc/stunnel/certs/tls.key", "CAfile = /etc/stunnel/certs/ca.crt", "verify = 2", "TIMEOUTclose = 0"] := by
  have hvalid : proxied.validate = .ok () := by rfl
  obtain ⟨file, proxy, hfile, hurl, -, hlines, -, -⟩ := clientConfig_lines hvalid
    (show Transfer.disks.endpoint.hostname? = some "inbox.depot.svc.cluster.local" from rfl)
    (show Transfer.disks.endpoint.port? = some 6443 from rfl)
  refine ⟨file, hfile, (hlines (by decide)).trans ?_⟩
  obtain ⟨u, rfl, hu⟩ := Option.map_eq_some_iff.1 hurl.symm
  obtain rfl : u = ⟨1, 0, "proxy.corp", "3128", 1, by decide, by decide, by decide, by decide⟩ :=
    ProxyUrl.text_injective (hu.trans (by decide))
  rfl

end Stunnel

end VolumeMigration
