import VolumeMigration.Failure
import VolumeMigration.Json.Writer
/-!
# Templates of configuration files

A template is a list of lines. A line puts the values of variables between fixed
texts, and a group of lines is written only if a variable is given. A skipped
group leaves no line behind, and values are written as they are.
-/

namespace VolumeMigration

namespace ConfigFile

/-- A part of a line. -/
inductive Part where
  | text (s : String)
  /-- The value of a variable. -/
  | value (name : String)
deriving DecidableEq, Repr

inductive Line where
  | line (parts : List Part)
  /-- Lines for a variable that is given, and lines for one that is not. -/
  | given (name : String) (present absent : List Line)
deriving Repr

/-- The variables of a template and their values. -/
abbrev Bindings := Fields

/-- Whether a number as written differs from zero. -/
def nonzero (literal : String) : Bool :=
  (literal.toList.takeWhile fun c => c != 'e' && c != 'E').any fun c => c.isDigit && c != '0'

/-- Whether a value counts as given: zero and everything empty do not. -/
def isGiven : Json → Bool
  | .null => false
  | .bool b => b
  | .int n => n != 0
  | .decimal literal => nonzero literal
  | .str s => !s.isEmpty
  | .arr l => !l.isEmpty
  | .obj fs => !fs.isEmpty

mutual

/-- A value within a list or a record, where texts stand in quotes. -/
def nested : Json → List Char
  | .null => "None".toList
  | .bool b => (if b then "True" else "False").toList
  | .int n => (Int.repr n).toList
  | .decimal literal => literal.toList
  | .str s => Json.writeString s
  | .arr [] => ['[', ']']
  | .arr (j :: js) => '[' :: nested j ++ nestedItems js ++ [']']
  | .obj [] => ['{', '}']
  | .obj ((k, v) :: fs) => '{' :: Json.writeString k ++ ':' :: ' ' :: nested v ++ nestedMembers fs ++ ['}']

def nestedItems : List Json → List Char
  | [] => []
  | j :: js => ',' :: ' ' :: nested j ++ nestedItems js

def nestedMembers : List (String × Json) → List Char
  | [] => []
  | (k, v) :: fs => ',' :: ' ' :: Json.writeString k ++ ':' :: ' ' :: nested v ++ nestedMembers fs

end

/-- A value on a line of its own, where a text stands for itself. -/
def display : Json → String
  | .str s => s
  | j => String.ofList (nested j)

def Part.render (bindings : Bindings) : Part → String
  | text s => s
  | value name => ((bindings.get? name).map display).getD ""

/-- Whether a variable is bound to a value that counts. -/
def Bindings.gives (bindings : Bindings) (name : String) : Bool :=
  (bindings.get? name).any isGiven

mutual

/-- The lines that a template's line stands for. -/
def Line.render (bindings : Bindings) : Line → List String
  | .line parts => [String.join (parts.map (Part.render bindings))]
  | .given name present absent =>
    if Bindings.gives bindings name then renderLines bindings present else renderLines bindings absent

/-- The lines of a file. -/
def renderLines (bindings : Bindings) : List Line → List String
  | [] => []
  | l :: ls => l.render bindings ++ renderLines bindings ls

end

/-- A file, every line of which ends with a line break. -/
def ofLines (lines : List String) : String := String.join (lines.map (· ++ "\n"))

/-! ## The files of a transfer -/

/-- A line without variables. -/
def fixed (s : String) : Line := .line [.text s]

/-- A setting with the value of a variable. -/
def setting (name value : String) : Line := .line [.text (name ++ " = "), .value value]

/-- A setting with the address that two variables make up. -/
def addressSetting (name host port : String) : Line :=
  .line [.text (name ++ " = "), .value host, .text ":", .value port]

/-- A setting with a file in the directory that a variable names. -/
def fileSetting (name directory file : String) : Line :=
  .line [.text (name ++ " = "), .value directory, .text ("/" ++ file)]

/-- The material of a tunnel, and how far the other side is checked against it. -/
def tunnelMaterial : List Line :=
  [fileSetting "cert" "certs_dir" "tls.crt",
    fileSetting "key" "certs_dir" "tls.key",
    .given "verify" [fileSetting "CAfile" "certs_dir" "ca.crt", setting "verify" "verify_level"] [],
    fixed "TIMEOUTclose = 0"]

/-- The server side of a tunnel. -/
def stunnelServer : List Line :=
  [fixed "foreground = yes", fixed "pid =", fixed "syslog = no", fixed "socket = l:SO_REUSEADDR=1",
    fixed "socket = r:SO_KEEPALIVE=1", fixed "", fixed "[transfer]", setting "accept" "accept_port",
    addressSetting "connect" "connect_host" "connect_port"] ++ tunnelMaterial

/-- The client side of a tunnel, which may lead through a proxy. -/
def stunnelClient : List Line :=
  [fixed "foreground = yes", fixed "pid =", fixed "syslog = no", fixed "client = yes",
    fixed "socket = l:SO_REUSEADDR=1", fixed "socket = r:SO_KEEPALIVE=1", fixed "", fixed "[transfer]",
    setting "accept" "accept_port",
    .given "proxy_host"
      [fixed "protocol = connect", setting "connect" "proxy_host",
        addressSetting "protocolHost" "hostname" "port",
        .given "proxy_username"
          [fixed "protocolAuthentication = basic", setting "protocolUsername" "proxy_username",
            setting "protocolPassword" "proxy_password"] []]
      [addressSetting "connect" "hostname" "port"],
    setting "sni" "hostname"] ++ tunnelMaterial

/-- The rsync daemon. Behind a tunnel it serves its own host only. -/
def rsyncDaemon : List Line :=
  [fixed "syslog facility = local7", fixed "read only = false", fixed "list = false", fixed "use chroot = no",
    fixed "munge symlinks = false", fixed "numeric ids = yes", setting "max connections" "max_connections",
    .given "direct" [] [fixed "hosts allow = ::1, 127.0.0.1, localhost"],
    fixed "", .line [.text "[", .value "module", .text "]"],
    fixed "    comment = ferry transfer target", setting "    path" "path", setting "    auth users" "username",
    setting "    secrets file" "secrets_file", fixed "    read only = false"]

/-- The remote that rclone copies to. -/
def rcloneRemote : List Line :=
  [.line [.text "[", .value "remote", .text "]"], fixed "type = webdav",
    .line [.text "url = ", .value "scheme", .text "://", .value "username", .text ":", .value "password",
      .text "@", .value "hostname", .text ":", .value "port", .text "/"],
    fixed "vendor = other", .line [.text "headers = Host,", .value "host_header"]]

/-- Every template by its name. -/
def templates : List (String × List Line) :=
  [("stunnel-server.conf", stunnelServer), ("stunnel-client.conf", stunnelClient), ("rsyncd.conf", rsyncDaemon),
    ("rclone.conf", rcloneRemote)]

/-- The file that a template makes of the given values. -/
def render (template : List Line) (bindings : Bindings) : String := ofLines (renderLines bindings template)

/-- The file that a template, given by its name, makes of the given values. -/
def renderNamed (name : String) (bindings : Bindings) : Result String :=
  match templates.find? (·.1 == name) with
  | some t => .ok (render t.2 bindings)
  | none => .error (.template s!"unknown template {name}: there is no template of this name")

end ConfigFile

end VolumeMigration
