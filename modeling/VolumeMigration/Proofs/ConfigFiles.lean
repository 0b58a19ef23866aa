import VolumeMigration.Proofs.Names
import VolumeMigration.Proofs.Sides
import VolumeMigration.Proofs.Texts
/-!
# How configuration files are read

A file is a list of lines, a header begins a section, and a line of a section
gives its key a value (`ConfigFile.Says`). Values are written as they are, so
the lines that a file was made of are its lines unless one of the texts that
were put in has a line break.
-/

namespace VolumeMigration

namespace ConfigFile

/-! ## Reading lines -/

def isHeader (line : String) : Bool := line.toList.head? == some '['

/-- A value as it is written after the sign, with one blank before it or none. -/
def valueOf : List Char → String
  | ' ' :: value => String.ofList value
  | value => String.ofList value

/-- The key of a line, without blanks around it, and its value. -/
def keyValue? (line : String) : Option (String × String) :=
  (Text.cutFirst? '=' line.toList).map fun p => (String.ofList (Text.trimChars p.1), valueOf p.2)

/-- The lines of a section, from its header to the next one. -/
def section? (name : String) (lines : List String) : List String :=
  ((lines.dropWhile fun l => !(isHeader l && l == "[" ++ name ++ "]")).drop 1).takeWhile fun l => !isHeader l

/-- Every value that the lines of a section give to a key. -/
def values (name key : String) (lines : List String) : List String :=
  (section? name lines).filterMap fun l => (keyValue? l).bind fun e => if e.1 = key then some e.2 else none

/-- Every value that the lines before the first section give to a key. -/
def globalValues (key : String) (lines : List String) : List String :=
  (lines.takeWhile fun l => !isHeader l).filterMap fun l =>
    (keyValue? l).bind fun e => if e.1 = key then some e.2 else none

/-- The lines of a file, each of which ends with a line break. -/
def linesOf (file : String) : List String := (Text.pieces '\n' file).dropLast

def HasBreak (s : String) : Prop := '\n' ∈ s.toList

instance (s : String) : Decidable (HasBreak s) := inferInstanceAs (Decidable (_ ∈ _))

@[simp] theorem hasBreak_append (a b : String) : HasBreak (a ++ b) ↔ HasBreak a ∨ HasBreak b := by
  rw [HasBreak, String.toList_append, List.mem_append]
  rfl

@[simp] theorem not_hasBreak_repr (n : Nat) : ¬HasBreak (Nat.repr n) := fun h =>
  absurd (Text.isDigit_of_mem_repr h) (by decide)

theorem not_hasBreak_int : ∀ n : Int, ¬HasBreak (Int.repr n)
  | .ofNat n => not_hasBreak_repr n
  | .negSucc n => by
    show ¬HasBreak ("-" ++ Nat.repr (n + 1))
    rw [hasBreak_append, not_or]
    exact ⟨by decide, not_hasBreak_repr (n + 1)⟩

/-- In a section of the file each of the keys has exactly the given values. The lines of the file
are what they were written as, unless a text that was put in has a line break. -/
def Says (file name : String) (texts : List String) (settings : List (String × List String)) : Prop :=
  ∃ lines, file = ofLines lines ∧ ((∀ s ∈ texts, ¬HasBreak s) → linesOf file = lines) ∧
    ∀ s ∈ settings, values name s.1 lines = s.2

theorem Says.subset {file name : String} {texts : List String} {settings settings' : List (String × List String)}
    (h : Says file name texts settings) (hsubset : ∀ s ∈ settings', s ∈ settings) : Says file name texts settings' := by
  obtain ⟨lines, hfile, hlines, hvalues⟩ := h
  exact ⟨lines, hfile, hlines, fun s hs => hvalues s (hsubset s hs)⟩

/-- Only texts matter that can have a line break. -/
theorem Says.of_texts {file name : String} {texts texts' : List String} {settings : List (String × List String)}
    (h : Says file name texts settings) (hsubset : ∀ s ∈ texts, s ∈ texts' ∨ ¬HasBreak s) :
    Says file name texts' settings := by
  obtain ⟨lines, hfile, hlines, hvalues⟩ := h
  refine ⟨lines, hfile, fun htexts => hlines fun s hs => ?_, hvalues⟩
  exact (hsubset s hs).elim (htexts s) id

theorem ofLines_append (a b : List String) : ofLines (a ++ b) = ofLines a ++ ofLines b := by
  rw [ofLines, List.map_append, String.join_append]
  rfl

/-- What follows the lines of a file is read for itself, whatever they are. -/
theorem linesOf_ofLines_append (lines : List String) (rest : String) :
    linesOf (ofLines lines ++ rest) = linesOf (ofLines lines) ++ linesOf rest := by
  rcases List.eq_nil_or_concat lines with rfl | ⟨start, last, rfl⟩
  · rw [show ofLines [] = "" from rfl, String.empty_append, show linesOf "" = [] from rfl, List.nil_append]
  · have hcut (rest : String) : linesOf (ofLines (start ++ [last]) ++ rest) =
        (Text.cutAll '\n' ((ofLines start).toList ++ last.toList)).map String.ofList ++ linesOf rest := by
      have hbreak : (ofLines (start ++ [last]) ++ rest).toList =
          ((ofLines start).toList ++ last.toList) ++ '\n' :: rest.toList := by
        simp [ofLines, String.join_append, String.join_cons]
      have hne : (Text.cutAll '\n' rest.toList).map String.ofList ≠ [] := by
        simpa using Text.cutAll_ne_nil '\n' rest.toList
      rw [linesOf, Text.pieces, hbreak, Text.cutAll_append_cons, List.map_append, List.dropLast_append_of_ne_nil hne]
      rfl
    have hwhole := hcut ""
    rw [String.append_empty, show linesOf "" = [] from rfl, List.append_nil] at hwhole
    rw [List.concat_eq_append, hcut rest, hwhole]

/-- Lines without line breaks are read back. -/
theorem linesOf_ofLines {lines : List String} (h : ∀ l ∈ lines, ¬HasBreak l) : linesOf (ofLines lines) = lines := by
  induction lines with
  | nil => rfl
  | cons l lines ih =>
    have hone : linesOf (ofLines [l]) = [l] := by
      have hl : (ofLines [l]).toList = l.toList ++ '\n' :: [] := by simp [ofLines, String.join_cons]
      rw [linesOf, Text.pieces, hl, Text.cutAll_append (h l List.mem_cons_self)]
      simp [Text.cutAll]
    rw [← List.singleton_append, ofLines_append, linesOf_ofLines_append, hone,
      ih fun m hm => h m (List.mem_cons_of_mem l hm)]

theorem linesOf_append {lines : List String} (h : ∀ l ∈ lines, ¬HasBreak l) (rest : String) :
    linesOf (ofLines lines ++ rest) = lines ++ linesOf rest := by
  rw [linesOf_ofLines_append, linesOf_ofLines h]

/-! ## Lines by how they were written -/

/-- A key that is read back as it is written: it is not empty, has no sign and begins no header. -/
def isKey (key : String) : Bool := !key.isEmpty && !key.toList.contains '=' && !isHeader key

/-- A line that is known, or a key with a value that need not be. -/
inductive Written where
  | text (s : String)
  | entry (key value : String) (sound : isKey key = true)

namespace Written

def line : Written → String
  | text s => s
  | entry key value _ => key ++ " = " ++ value

def isHeader : Written → Bool
  | text s => ConfigFile.isHeader s
  | entry .. => false

def keyValue? : Written → Option (String × String)
  | text s => ConfigFile.keyValue? s
  | entry key value _ => some (String.ofList (Text.trimChars (key.toList ++ [' '])), value)

/-- Whether the line is the header of a section. -/
def begins (name : String) : Written → Bool
  | text s => ConfigFile.isHeader s && s == "[" ++ name ++ "]"
  | entry .. => false

theorem isHeader_line (w : Written) : ConfigFile.isHeader w.line = w.isHeader := by
  cases w with
  | text s => rfl
  | entry key value sound =>
    simp only [isKey, Bool.and_eq_true, Bool.not_eq_true'] at sound
    obtain ⟨⟨hne, -⟩, hheader⟩ := sound
    have hnil : key.toList ≠ [] := by
      intro he
      simp [String.toList_eq_nil_iff.1 he] at hne
    obtain ⟨c, cs, hc⟩ := List.exists_cons_of_ne_nil hnil
    rw [ConfigFile.isHeader, hc] at hheader
    rw [ConfigFile.isHeader, line, String.toList_append, String.toList_append, hc]
    exact hheader

theorem keyValue?_line (w : Written) : ConfigFile.keyValue? w.line = w.keyValue? := by
  cases w with
  | text s => rfl
  | entry key value sound =>
    simp only [isKey, Bool.and_eq_true, Bool.not_eq_true'] at sound
    have hsign : '=' ∉ key.toList ++ [' '] := by
      simpa using sound.1.2
    have hline : (key ++ " = " ++ value).toList = (key.toList ++ [' ']) ++ '=' :: ' ' :: value.toList := by
      rw [String.toList_append, String.toList_append]
      simp
    rw [ConfigFile.keyValue?, line, hline, Text.cutFirst?_append hsign, Option.map_some, valueOf, String.ofList_toList]
    rfl

theorem begins_line (name : String) (w : Written) :
    (ConfigFile.isHeader w.line && w.line == "[" ++ name ++ "]") = w.begins name := by
  rw [isHeader_line]
  cases w <;> rfl

/-- Every value that written lines give to a key of a section. -/
def values (name key : String) (ws : List Written) : List String :=
  (((ws.dropWhile fun w => !w.begins name).drop 1).takeWhile fun w => !w.isHeader).filterMap fun w =>
    w.keyValue?.bind fun e => if e.1 = key then some e.2 else none

theorem values_lines (name key : String) (ws : List Written) :
    ConfigFile.values name key (ws.map line) = values name key ws := by
  rw [ConfigFile.values, section?, List.dropWhile_map, ← List.map_drop, List.takeWhile_map, List.filterMap_map]
  have hbegins : (fun l => !(ConfigFile.isHeader l && l == "[" ++ name ++ "]")) ∘ line = fun w => !w.begins name := by
    funext w
    exact congrArg not (begins_line name w)
  have hheader : (fun l => !ConfigFile.isHeader l) ∘ line = fun w => !w.isHeader := by
    funext w
    exact congrArg not (isHeader_line w)
  rw [hbegins, hheader, values]
  congr 1
  funext w
  rw [Function.comp_apply, keyValue?_line]

/-- A line without a line break. -/
def Whole : Written → Prop
  | text s => ¬HasBreak s
  | entry key value _ => ¬HasBreak key ∧ ¬HasBreak value

theorem Whole.line {w : Written} (h : w.Whole) : ¬HasBreak w.line := by
  cases w with
  | text s => exact h
  | entry key value sound =>
    rw [Written.line, hasBreak_append, hasBreak_append, not_or, not_or]
    exact ⟨⟨h.1, by decide⟩, h.2⟩

/-- What a file of written lines says is read off as they were written. -/
theorem says_of_lines {file name : String} {texts : List String} {settings : List (String × List String)}
    (ws : List Written) (hfile : file = ofLines (ws.map line)) (hwhole : (∀ s ∈ texts, ¬HasBreak s) → ∀ w ∈ ws, w.Whole)
    (h : (settings.map fun s => values name s.1 ws) = settings.map (·.2)) : Says file name texts settings := by
  refine ⟨_, hfile, fun htexts => ?_, fun s hs => ?_⟩
  · rw [hfile]
    refine linesOf_ofLines fun l hl => ?_
    obtain ⟨w, hw, rfl⟩ := List.mem_map.1 hl
    exact (hwhole htexts w hw).line
  · rw [values_lines]
    exact List.map_inj_left.1 h s hs

end Written

end ConfigFile

/-! ## Files that a cluster keeps -/

/-- The text under a key of a ConfigMap. -/
def Object.configText? (o : Object) (key : String) : Option String :=
  match o.content with
  | .configMap data => data.bind (·.get? key)
  | _ => none

/-- The bytes under a key of a Secret. -/
def Object.secretBytes? (o : Object) (key : String) : Option (List UInt8) :=
  match o.content with
  | .secret data _ => data.bind (·.get? key)
  | _ => none

namespace Cluster

variable {c : Cluster} {n : ObjectName} {labels : StringMap}

def configText? (c : Cluster) (n : ObjectName) (key : String) : Option String :=
  (c.objects.get? ⟨.configMap, n.ns, n.name⟩).bind (·.configText? key)

def secretBytes? (c : Cluster) (n : ObjectName) (key : String) : Option (List UInt8) :=
  (c.objects.get? ⟨.secret, n.ns, n.name⟩).bind (·.secretBytes? key)

theorem Holds.configText? {data : StringMap} (h : c.Holds (Manifest.configMap n labels data)) (key : String) :
    c.configText? n key = data.get? key := by
  obtain ⟨o, hget, halike⟩ := h
  rw [Cluster.configText?, show c.objects.get? ⟨.configMap, n.ns, n.name⟩ = some o from hget, Option.bind_some,
    Object.configText?, halike.content_eq]
  rfl

theorem Holds.secretBytes? {data : SecretData} (h : c.Holds (Manifest.secret n labels data)) (key : String) :
    c.secretBytes? n key = data.get? key := by
  obtain ⟨o, hget, halike⟩ := h
  rw [Cluster.secretBytes?, show c.objects.get? ⟨.secret, n.ns, n.name⟩ = some o from hget, Option.bind_some,
    Object.secretBytes?, halike.content_eq]
  rfl

end Cluster

open ConfigFile (Written Says)

theorem Address.not_hasBreak_display {a : Address} (h : ¬ConfigFile.HasBreak a.hostname) :
    ¬ConfigFile.HasBreak a.display := by
  rw [show a.display = a.hostname ++ ":" ++ Nat.repr a.port from rfl, ConfigFile.hasBreak_append,
    ConfigFile.hasBreak_append, not_or, not_or]
  exact ⟨⟨h, by decide⟩, ConfigFile.not_hasBreak_repr a.port⟩

/-! ## The daemon of rsync -/

attribute [local simp] ConfigFile.renderLines ConfigFile.Line.render ConfigFile.Part.render ConfigFile.setting
  ConfigFile.fixed ConfigFile.addressSetting ConfigFile.fileSetting ConfigFile.tunnelMaterial Fields.get? Json.ofOption
  ConfigFile.Bindings.gives ConfigFile.isGiven ConfigFile.display ConfigFile.nested String.join_cons Written.line

namespace Transfer.Rsync

/-- The lines of the daemon's configuration. -/
def configLines (t : Transfer) : List Written :=
  [.text "syslog facility = local7", .text "read only = false", .text "list = false", .text "use chroot = no",
    .text "munge symlinks = false", .text "numeric ids = yes",
    .entry "max connections" (Int.repr (max 10 t.pairs.length)) rfl] ++
  (if t.transport.isDirect then [] else [.text "hosts allow = ::1, 127.0.0.1, localhost"]) ++
  [.text "", .text ("[" ++ moduleName ++ "]"), .text "    comment = ferry transfer target",
    .entry "    path" mountRoot rfl, .entry "    auth users" t.credentials.username rfl,
    .entry "    secrets file" (secretDir ++ "/" ++ secretsFile) rfl, .text "    read only = false"]

theorem config_eq (t : Transfer) : config t = ConfigFile.ofLines ((configLines t).map Written.line) := by
  unfold config configLines ConfigFile.render
  refine congrArg ConfigFile.ofLines ?_
  cases t.transport.isDirect <;>
    simp [ConfigFile.rsyncDaemon, moduleName, secretDir, secretsFile] <;>
    rfl

/-- The texts that are put into the daemon's configuration. -/
def configTexts (t : Transfer) : List String := [t.credentials.username]

/-- The daemon has a module for the directory of all claims, for the one user. -/
theorem config_says (t : Transfer) : Says (config t) moduleName (configTexts t)
    [("path", [mountRoot]), ("auth users", [t.credentials.username]),
      ("secrets file", [secretDir ++ "/" ++ secretsFile])] := by
  refine Written.says_of_lines (configLines t) (config_eq t) (fun htexts => ?_) ?_
  · have huser := htexts _ List.mem_cons_self
    unfold configLines
    cases t.transport.isDirect <;>
      simp +decide [Written.Whole, ConfigFile.not_hasBreak_int, huser]
  · unfold configLines
    cases t.transport.isDirect <;> rfl

end Transfer.Rsync

/-! ## The remote of rclone -/

namespace Transfer.Rclone

/-- The URL of the server, with the user that it is to be asked as. -/
def url (t : Transfer) (target : Address) : String :=
  (if t.transport.isDirect && t.endpoint.terminatesTls then "https" else "http") ++ "://" ++ t.credentials.username ++
    ":" ++ t.credentials.password ++ "@" ++ target.display ++ "/"

/-- The lines of the client's configuration. -/
def configLines (t : Transfer) (target : Address) : List Written :=
  [.text ("[" ++ remote ++ "]"), .text "type = webdav", .entry "url" (url t target) rfl, .text "vendor = other",
    .entry "headers" ("Host," ++ t.endpoint.hostname?.getD target.hostname) rfl]

theorem config_eq (t : Transfer) (target : Address) :
    config t target = ConfigFile.ofLines ((configLines t target).map Written.line) := by
  unfold config configLines ConfigFile.render url Address.display
  refine congrArg ConfigFile.ofLines ?_
  simp [ConfigFile.rcloneRemote, remote]
  constructor
  · simp only [String.append_assoc]
    rfl
  · rw [← String.append_assoc]
    rfl

/-- The texts that are put into the client's configuration. -/
def configTexts (t : Transfer) (target : Address) : List String :=
  [t.credentials.username, t.credentials.password, target.hostname, t.endpoint.hostname?.getD target.hostname]

/-- The remote is the server, under the name of the endpoint's host. -/
theorem config_says (t : Transfer) (target : Address) : Says (config t target) remote (configTexts t target)
    [("type", ["webdav"]), ("url", [url t target]),
      ("headers", ["Host," ++ t.endpoint.hostname?.getD target.hostname])] := by
  refine Written.says_of_lines (configLines t target) (config_eq t target) (fun htexts => ?_) rfl
  simp only [configTexts, List.forall_mem_cons, List.not_mem_nil, false_implies, implies_true, and_true] at htexts
  obtain ⟨huser, hpassword, hhost, hheader⟩ := htexts
  cases hscheme : t.transport.isDirect && t.endpoint.terminatesTls <;>
    simp +decide [configLines, Written.Whole, url, hscheme, Address.not_hasBreak_display, huser, hpassword, hhost,
      hheader]

end Transfer.Rclone

/-! ## Tunnels -/

namespace Stunnel

/-- The name of the one service of a tunnel. -/
def service : String := "transfer"

/-- The lines for the TLS material and how far it is checked. -/
def materialLines (o : StunnelOptions) : List Written :=
  [.entry "cert" (certsDir ++ "/tls.crt") rfl, .entry "key" (certsDir ++ "/tls.key") rfl] ++
  (if o.noVerifyCa then []
    else [.entry "CAfile" (certsDir ++ "/ca.crt") rfl, .entry "verify" o.caVerifyLevel rfl]) ++
  [.text "TIMEOUTclose = 0"]

theorem materialLines_whole {o : StunnelOptions} (hlevel : ¬ConfigFile.HasBreak o.caVerifyLevel) :
    ∀ w ∈ materialLines o, w.Whole := by
  unfold materialLines
  cases o.noVerifyCa <;> simp +decide [Written.Whole, hlevel]

def serverLines (o : StunnelOptions) (port : Nat) : List Written :=
  [.text "foreground = yes", .text "pid =", .text "syslog = no", .text "socket = l:SO_REUSEADDR=1",
    .text "socket = r:SO_KEEPALIVE=1", .text "", .text ("[" ++ service ++ "]"),
    .entry "accept" (Nat.repr Endpoint.exposedPort) rfl, .entry "connect" ("localhost:" ++ Nat.repr port) rfl] ++
  materialLines o

theorem serverConfig_eq (o : StunnelOptions) (port : Nat) :
    serverConfig o port = ConfigFile.ofLines ((serverLines o port).map Written.line) := by
  unfold serverConfig serverLines ConfigFile.render
  refine congrArg ConfigFile.ofLines ?_
  cases hverify : o.noVerifyCa <;>
    simp [ConfigFile.stunnelServer, verification, materialLines, certsDir, hverify, service]
  all_goals
    rw [← String.append_assoc]
    exact ⟨rfl, rfl⟩

/-- What the settings say of the file that the other side is checked against. -/
def authoritySettings (o : StunnelOptions) : List String := if o.noVerifyCa then [] else [certsDir ++ "/ca.crt"]

theorem serverConfig_saysAll (o : StunnelOptions) (port : Nat) : Says (serverConfig o port) service [o.caVerifyLevel]
    [("accept", [Nat.repr Endpoint.exposedPort]), ("connect", ["localhost:" ++ Nat.repr port]),
      ("cert", [certsDir ++ "/tls.crt"]), ("key", [certsDir ++ "/tls.key"]), ("CAfile", authoritySettings o)] := by
  refine Written.says_of_lines (serverLines o port) (serverConfig_eq o port) (fun htexts => ?_) ?_
  · have hmaterial := materialLines_whole (htexts _ List.mem_cons_self)
    simp +decide only [serverLines, List.forall_mem_append]
    refine ⟨?_, hmaterial⟩
    simp +decide [Written.Whole]
  · unfold serverLines materialLines authoritySettings
    cases o.noVerifyCa <;> rfl

theorem serverConfig_says (o : StunnelOptions) (port : Nat) : Says (serverConfig o port) service [o.caVerifyLevel]
    [("accept", [Nat.repr Endpoint.exposedPort]), ("connect", ["localhost:" ++ Nat.repr port]),
      ("cert", [certsDir ++ "/tls.crt"]), ("key", [certsDir ++ "/tls.key"])] :=
  (serverConfig_saysAll o port).subset (by simp)

/-- The lines that lead to an address, maybe through a proxy. -/
def routeLines (o : StunnelOptions) (proxy : Option String) (address : Address) : List Written :=
  match proxy with
  | none => [.entry "connect" address.display rfl]
  | some host =>
    [.text "protocol = connect", .entry "connect" host rfl, .entry "protocolHost" address.display rfl] ++
    (if o.proxyUsername.any (· ≠ "") then
      [.text "protocolAuthentication = basic", .entry "protocolUsername" (o.proxyUsername.getD "") rfl,
        .entry "protocolPassword" (ConfigFile.display (Json.ofOption .str o.proxyPassword)) rfl]
    else [])

def clientLines (o : StunnelOptions) (proxy : Option String) (address : Address) : List Written :=
  [.text "foreground = yes", .text "pid =", .text "syslog = no", .text "client = yes",
    .text "socket = l:SO_REUSEADDR=1", .text "socket = r:SO_KEEPALIVE=1", .text "", .text ("[" ++ service ++ "]"),
    .entry "accept" (Nat.repr clientPort) rfl] ++
  routeLines o proxy address ++ [.entry "sni" address.hostname rfl] ++ materialLines o

/-- The address of a proxy is not empty. -/
theorem proxyHost_ne_empty {o : StunnelOptions} {host : String} (h : o.proxyHost = .ok (some host)) : host ≠ "" := by
  rintro rfl
  unfold StunnelOptions.proxyHost at h
  cases hurl : o.proxyUrl with
  | none => simp [hurl] at h
  | some url =>
    cases hhost : StunnelOptions.proxyHost? url with
    | none => simp [hurl, hhost] at h
    | some host =>
      simp only [hurl, hhost, Except.ok.injEq, Option.some.injEq] at h
      subst h
      unfold StunnelOptions.proxyHost? at hhost
      split at hhost
      · cases hhost
      · rename_i hcut
        split at hhost
        · cases hhost
        · obtain ⟨n, -, hbare⟩ := Option.map_eq_some_iff.1 hhost
          rw [show StunnelOptions.bareUrl url = [] by simpa using congrArg String.toList hbare] at hcut
          cases hcut

theorem clientLines_eq (o : StunnelOptions) {proxy : Option String} (hproxy : proxy ≠ some "") (address : Address) :
    ConfigFile.renderLines
      ([("accept_port", .int clientPort), ("hostname", .str address.hostname), ("port", .int address.port),
        ("proxy_host", Json.ofOption .str proxy), ("proxy_username", Json.ofOption .str o.proxyUsername),
        ("proxy_password", Json.ofOption .str o.proxyPassword)] ++ verification o) ConfigFile.stunnelClient =
    (clientLines o proxy address).map Written.line := by
  have hdisplay : address.display = address.hostname ++ (":" ++ Int.repr address.port) := by
    rw [← String.append_assoc]
    rfl
  cases proxy with
  | none =>
    cases hverify : o.noVerifyCa <;>
      simp [ConfigFile.stunnelClient, verification, materialLines, certsDir, hverify, service, clientLines, routeLines,
        hdisplay] <;>
      rfl
  | some host =>
    have hne : host ≠ "" := fun he => hproxy (congrArg some he)
    rcases huser : o.proxyUsername with _ | user
    · cases hverify : o.noVerifyCa <;>
        simp [ConfigFile.stunnelClient, verification, materialLines, certsDir, hverify, service, clientLines,
          routeLines, hdisplay, hne, huser] <;>
        rfl
    · by_cases hempty : user = "" <;> cases hverify : o.noVerifyCa <;>
        simp [ConfigFile.stunnelClient, verification, materialLines, certsDir, hverify, service, clientLines,
          routeLines, hdisplay, hne, huser, hempty] <;>
        rfl

theorem clientConfig_eq {o : StunnelOptions} {e : Endpoint} {config : String} (h : clientConfig o e = .ok config) :
    ∃ address proxy, Address.ofEndpoint e = .ok address ∧ o.proxyHost = .ok proxy ∧
      config = ConfigFile.ofLines ((clientLines o proxy address).map Written.line) := by
  unfold clientConfig at h
  cases haddress : Address.ofEndpoint e with
  | error f =>
    rw [haddress] at h
    cases h
  | ok address =>
    cases hproxy : o.proxyHost with
    | error f =>
      rw [haddress, hproxy] at h
      cases h
    | ok proxy =>
      have hne : proxy ≠ some "" := fun he => proxyHost_ne_empty (he ▸ hproxy) rfl
      rw [haddress, hproxy] at h
      refine ⟨address, proxy, rfl, rfl, (Except.ok.inj h).symm.trans ?_⟩
      exact congrArg ConfigFile.ofLines (clientLines_eq o hne address)

/-- An endpoint whose address is known and a proxy that can be read have a configuration. -/
theorem clientConfig_ok {o : StunnelOptions} {e : Endpoint} {address : Address} {proxy : Option String}
    (haddress : Address.ofEndpoint e = .ok address) (hproxy : o.proxyHost = .ok proxy) :
    clientConfig o e = .ok (ConfigFile.ofLines ((clientLines o proxy address).map Written.line)) := by
  obtain ⟨config, hconfig⟩ : ∃ config, clientConfig o e = .ok config := by
    simp only [clientConfig, haddress, hproxy]
    exact ⟨_, rfl⟩
  obtain ⟨address', proxy', haddress', hproxy', rfl⟩ := clientConfig_eq hconfig
  rw [haddress] at haddress'
  rw [hproxy] at hproxy'
  cases haddress'
  cases hproxy'
  exact hconfig

/-- The settings that lead to an address: it is connected to, or a proxy is asked for it. -/
def routeSettings (proxy : Option String) (address : Address) : List (String × List String) :=
  match proxy with
  | none => [("connect", [address.display]), ("protocolHost", [])]
  | some host => [("protocol", ["connect"]), ("connect", [host]), ("protocolHost", [address.display])]

/-- The texts that are put into the client's configuration. -/
def clientTexts (o : StunnelOptions) (proxy : Option String) (address : Address) : List String :=
  [address.hostname, proxy.getD "", o.proxyUsername.getD "", o.proxyPassword.getD "", o.caVerifyLevel]

theorem clientLines_whole (o : StunnelOptions) (proxy : Option String) (address : Address)
    (h : ∀ s ∈ clientTexts o proxy address, ¬ConfigFile.HasBreak s) : ∀ w ∈ clientLines o proxy address, w.Whole := by
  simp only [clientTexts, List.forall_mem_cons, List.not_mem_nil, false_implies, implies_true, and_true] at h
  obtain ⟨hhost, hproxy, huser, hpassword, hlevel⟩ := h
  have hdisplay := Address.not_hasBreak_display hhost
  have hsecret : ¬ConfigFile.HasBreak (ConfigFile.display (Json.ofOption .str o.proxyPassword)) := by
    cases hp : o.proxyPassword with
    | none => decide
    | some password =>
      rw [hp] at hpassword
      exact hpassword
  have hroute : ∀ w ∈ routeLines o proxy address, w.Whole := by
    unfold routeLines
    cases proxy with
    | none => simpa [Written.Whole, hdisplay] using by decide
    | some host =>
      replace hproxy : ¬ConfigFile.HasBreak host := hproxy
      generalize ConfigFile.display (Json.ofOption .str o.proxyPassword) = secret at hsecret ⊢
      cases o.proxyUsername.any (· ≠ "") <;> simp +decide [Written.Whole, hdisplay, hproxy, huser, hsecret]
  simp +decide only [clientLines, List.forall_mem_append]
  refine ⟨⟨⟨?_, hroute⟩, ?_⟩, materialLines_whole hlevel⟩
  · simp +decide [Written.Whole]
  · simp +decide [Written.Whole, hhost]

/-- Everything that the client's configuration says of its service. -/
def clientSettings (o : StunnelOptions) (proxy : Option String) (address : Address) : List (String × List String) :=
  ("accept", [Nat.repr clientPort]) :: ("client", []) :: ("cert", [certsDir ++ "/tls.crt"]) ::
    ("key", [certsDir ++ "/tls.key"]) :: ("CAfile", authoritySettings o) :: ("sni", [address.hostname]) ::
    routeSettings proxy address

theorem clientConfig_saysAll {o : StunnelOptions} {e : Endpoint} {config : String} (h : clientConfig o e = .ok config) :
    ∃ address proxy, Address.ofEndpoint e = .ok address ∧ o.proxyHost = .ok proxy ∧
      Says config service (clientTexts o proxy address) (clientSettings o proxy address) := by
  obtain ⟨address, proxy, haddress, hproxy, hconfig⟩ := clientConfig_eq h
  refine ⟨address, proxy, haddress, hproxy,
    Written.says_of_lines (clientLines o proxy address) hconfig (clientLines_whole o proxy address) ?_⟩
  unfold clientSettings authoritySettings clientLines routeLines routeSettings materialLines
  cases proxy with
  | none => cases o.noVerifyCa <;> rfl
  | some host => cases o.proxyUsername.any (· ≠ "") <;> cases o.noVerifyCa <;> rfl

/-- The client's side takes connections on its own port and leads to the endpoint, in the role that the file
has it take for all services. -/
theorem clientConfig_says {o : StunnelOptions} {e : Endpoint} {config : String} (h : clientConfig o e = .ok config) :
    ∃ address proxy, Address.ofEndpoint e = .ok address ∧ o.proxyHost = .ok proxy ∧
      Says config service (clientTexts o proxy address)
        (("accept", [Nat.repr clientPort]) :: ("client", []) :: ("cert", [certsDir ++ "/tls.crt"]) ::
          ("key", [certsDir ++ "/tls.key"]) :: routeSettings proxy address) := by
  obtain ⟨address, proxy, haddress, hproxy, hsays⟩ := clientConfig_saysAll h
  refine ⟨address, proxy, haddress, hproxy, hsays.subset fun s hs => ?_⟩
  simp only [List.mem_cons] at hs
  rcases hs with h | h | h | h | h <;> simp [clientSettings, h]

/-- The lines of the client's configuration up to the section of its service. No text is put into them. -/
def clientOptionLines : List String :=
  ["foreground = yes", "pid =", "syslog = no", "client = yes", "socket = l:SO_REUSEADDR=1", "socket = r:SO_KEEPALIVE=1",
    "", "[" ++ service ++ "]"]

/-- Whatever is put into its configuration, the client's side of a tunnel is the one that speaks TLS to the
address that it connects to. -/
theorem clientConfig_globalValues {o : StunnelOptions} {e : Endpoint} {config : String}
    (h : clientConfig o e = .ok config) :
    ConfigFile.globalValues "client" (ConfigFile.linesOf config) = ["yes"] := by
  obtain ⟨address, proxy, -, -, rfl⟩ := clientConfig_eq h
  have hsplit : (clientLines o proxy address).map Written.line =
      clientOptionLines ++ ((clientLines o proxy address).drop 8).map Written.line := rfl
  rw [hsplit, ConfigFile.ofLines_append, ConfigFile.linesOf_append (by decide)]
  rfl

end Stunnel

/-! ## The files of a transfer -/

namespace Transfer

variable {t : Transfer} {issued : TlsMaterial} {target : Address} {c d : Cluster}

theorem ServerHeld.files_rsync {options : RsyncOptions} (h : t.ServerHeld issued d) (hm : t.method = .rsync options) :
    ∀ o ∈ Rsync.serverFiles t, d.Holds o := by
  have hfiles := h.files
  unfold serverFiles at hfiles
  rwa [hm] at hfiles

theorem ServerHeld.files_rclone (h : t.ServerHeld issued d) (hm : t.method = .rclone) :
    ∀ o ∈ Rclone.serverFiles t, d.Holds o := by
  have hfiles := h.files
  unfold serverFiles at hfiles
  rwa [hm] at hfiles

theorem ClientHeld.files_rsync {options : RsyncOptions} (h : t.ClientHeld target c) (hm : t.method = .rsync options) :
    ∀ o ∈ Rsync.clientFiles t, c.Holds o := by
  have hfiles := h.files
  unfold clientFiles at hfiles
  rwa [hm] at hfiles

theorem ClientHeld.files_rclone (h : t.ClientHeld target c) (hm : t.method = .rclone) :
    ∀ o ∈ Rclone.clientFiles t target, c.Holds o := by
  have hfiles := h.files
  unfold clientFiles at hfiles
  rwa [hm] at hfiles

theorem ServerHeld.configText?_rsync {options : RsyncOptions} (h : t.ServerHeld issued d)
    (hm : t.method = .rsync options) :
    d.configText? (Rsync.configName t) Rsync.configKey = some (Rsync.config t) := by
  rw [(h.files_rsync hm _ List.mem_cons_self).configText?, SortedMap.get?_ofList_singleton]

theorem ServerHeld.secretBytes?_rsync {options : RsyncOptions} (h : t.ServerHeld issued d)
    (hm : t.method = .rsync options) : d.secretBytes? (Rsync.secretName t) Rsync.credentialsKey =
      some (Text.utf8Bytes (t.credentials.username ++ ":" ++ t.credentials.password)) := by
  rw [(h.files_rsync hm _ (List.mem_cons_of_mem _ List.mem_cons_self)).secretBytes?]
  exact SortedMap.get?_ofList_singleton _ _

theorem ServerHeld.secretBytes?_rclone (h : t.ServerHeld issued d) (hm : t.method = .rclone) :
    d.secretBytes? (Rclone.secretName t) Rclone.userVariable = some (Text.utf8Bytes t.credentials.username) ∧
      d.secretBytes? (Rclone.secretName t) Rclone.passwordVariable = some (Text.utf8Bytes t.credentials.password) := by
  rw [(h.files_rclone hm _ List.mem_cons_self).secretBytes?, (h.files_rclone hm _ List.mem_cons_self).secretBytes?]
  simp [Manifest.secretTexts, SortedMap.ofList, SortedMap.get?_insert, Rclone.userVariable, Rclone.passwordVariable]

theorem ClientHeld.secretBytes?_rsync {options : RsyncOptions} (h : t.ClientHeld target c)
    (hm : t.method = .rsync options) : c.secretBytes? (Rsync.clientSecretName t) Rsync.passwordVariable =
      some (Text.utf8Bytes t.credentials.password) := by
  rw [(h.files_rsync hm _ List.mem_cons_self).secretBytes?]
  exact SortedMap.get?_ofList_singleton _ _

theorem ClientHeld.secretBytes?_rclone (h : t.ClientHeld target c) (hm : t.method = .rclone) :
    c.secretBytes? (Rclone.clientConfigName t) Rclone.configKey = some (Text.utf8Bytes (Rclone.config t target)) := by
  rw [(h.files_rclone hm _ List.mem_cons_self).secretBytes?]
  exact SortedMap.get?_ofList_singleton _ _

end Transfer

end VolumeMigration
