import Mathlib.Data.List.DropRight
import VolumeMigration.Proofs.ConfigFiles
import VolumeMigration.Proofs.InvalidInput
/-!
# The URLs of proxies

The options of a tunnel may name a proxy by its URL. What is accepted is a host
and a port behind any number of schemes, `http://` before `https://`, and in
front of any number of slashes; a URL is read in one way only, and the client is
told to connect to this host and port (`StunnelOptions.validate_proxyUrl_iff`).
The well-formed ones are among them, with one scheme at most, a plain host and a
port that is a number, but others are accepted as well
(`StunnelOptions.validate_proxyUrl_malformed`).
-/

namespace VolumeMigration

namespace Text

variable {start : List Char}

/-! ## Cutting off both ends -/

/-- A text several times in a row. -/
def repeated (s : String) (n : Nat) : String := String.join (List.replicate n s)

theorem toList_repeated (s : String) (n : Nat) : (repeated s n).toList = (List.replicate n s.toList).flatten := by
  induction n with
  | zero => rfl
  | succ n ih =>
    rw [repeated, List.replicate_succ, String.join_cons, String.toList_append, ← repeated, ih]
    rfl

theorem toList_repeated_slash (n : Nat) : (repeated "/" n).toList = List.replicate n '/' := by
  rw [toList_repeated]
  exact List.flatten_replicate_singleton

/-- Occurrences at the front are told from what follows them. -/
theorem flatten_replicate_append_inj {n m : Nat} {rest rest' : List Char} (hrest : ¬start <+: rest)
    (hrest' : ¬start <+: rest')
    (h : (List.replicate n start).flatten ++ rest = (List.replicate m start).flatten ++ rest') :
    n = m ∧ rest = rest' := by
  induction n generalizing m with
  | zero =>
    cases m with
    | zero => exact ⟨rfl, h⟩
    | succ m =>
      refine absurd ⟨(List.replicate m start).flatten ++ rest', ?_⟩ hrest
      simpa [List.replicate_succ] using h.symm
  | succ n ih =>
    cases m with
    | zero =>
      refine absurd ⟨(List.replicate n start).flatten ++ rest, ?_⟩ hrest'
      simpa [List.replicate_succ] using h
    | succ m =>
      have hlater : (List.replicate n start).flatten ++ rest = (List.replicate m start).flatten ++ rest' := by
        simpa [List.replicate_succ] using h
      obtain ⟨rfl, rfl⟩ := ih hlater
      exact ⟨rfl, rfl⟩

/-- What is dropped are whole occurrences, up to the last one. -/
theorem dropRepeated_spec (hne : start ≠ []) (cs : List Char) :
    ∃ n, cs = (List.replicate n start).flatten ++ dropRepeated start cs ∧ ¬start <+: dropRepeated start cs := by
  have hempty : start.isEmpty = false := by simpa using hne
  suffices hgo : ∀ limit cs, cs.length ≤ limit → ∃ n, cs = (List.replicate n start).flatten ++
      dropRepeated.go start limit cs ∧ ¬start <+: dropRepeated.go start limit cs from hgo _ cs (Nat.le_refl _)
  intro limit
  induction limit with
  | zero =>
    intro cs hlength
    obtain rfl := List.length_eq_zero_iff.1 (Nat.le_zero.1 hlength)
    exact ⟨0, rfl, fun h => hne (List.prefix_nil.1 h)⟩
  | succ limit ih =>
    intro cs hlength
    simp only [dropRepeated.go, hempty, Bool.false_eq_true, if_false]
    by_cases hstart : start <+: cs
    · obtain ⟨rest, rfl⟩ := hstart
      have hshorter : rest.length ≤ limit := by
        have := List.length_pos_iff.2 hne
        rw [List.length_append] at hlength
        omega
      obtain ⟨n, hrest, hdone⟩ := ih rest hshorter
      rw [if_pos (List.isPrefixOf_iff_prefix.2 (List.prefix_append ..)), List.drop_left]
      refine ⟨n + 1, ?_, hdone⟩
      rw [List.replicate_succ, List.flatten_cons, List.append_assoc, ← hrest]
    · rw [if_neg (mt List.isPrefixOf_iff_prefix.1 hstart)]
      exact ⟨0, rfl, hstart⟩

theorem dropRepeated_append (hne : start ≠ []) (n : Nat) {rest : List Char} (hrest : ¬start <+: rest) :
    dropRepeated start ((List.replicate n start).flatten ++ rest) = rest := by
  obtain ⟨m, hsplit, hdone⟩ := dropRepeated_spec hne ((List.replicate n start).flatten ++ rest)
  exact (flatten_replicate_append_inj hrest hdone hsplit).2.symm

/-- What is dropped at the end are occurrences of the one character. -/
theorem rdropWhile_spec (c : Char) (cs : List Char) : ∃ n, cs = cs.rdropWhile (· == c) ++ List.replicate n c := by
  have htaken : cs.reverse.takeWhile (· == c) = List.replicate (cs.reverse.takeWhile (· == c)).length c :=
    List.eq_replicate_of_mem fun d hd => by simpa using List.mem_takeWhile_imp hd
  refine ⟨(cs.reverse.takeWhile (· == c)).length, ?_⟩
  rw [← List.reverse_inj, List.reverse_append, List.reverse_replicate, ← htaken, List.rdropWhile, List.reverse_reverse,
    List.takeWhile_append_dropWhile]

theorem rdropWhile_append_replicate {c : Char} {cs : List Char} (h : cs.getLast? ≠ some c) (n : Nat) :
    (cs ++ List.replicate n c).rdropWhile (· == c) = cs := by
  induction n with
  | zero =>
    rw [List.replicate_zero, List.append_nil, List.rdropWhile_eq_self_iff]
    intro hne hlast
    exact h ((List.getLast?_eq_some_getLast hne).trans (congrArg some (by simpa using hlast)))
  | succ n ih => rw [List.replicate_succ', ← List.append_assoc, List.rdropWhile_concat_pos _ _ c (by simp), ih]

end Text

/-! ## URLs by their parts -/

/-- The URL of a proxy by its parts: schemes, of which those without TLS come first, a host, a port, and slashes. What
stands in front of the port is the host, with all that it may contain, up to the schemes. -/
@[ext] structure ProxyUrl where
  /-- How often `http://` stands in front. -/
  plain : Nat
  /-- How often `https://` follows. -/
  secure : Nat
  host : String
  port : String
  /-- How many slashes stand at the end. -/
  slashes : Nat
  host_ne : host ≠ ""
  no_secure : ¬"https://".toList <+: host.toList
  no_plain : secure = 0 → ¬"http://".toList <+: host.toList
  port_read : (Text.readUInt16? port).isSome = true

namespace ProxyUrl

/-- The address of the proxy. -/
def address (u : ProxyUrl) : String := u.host ++ ":" ++ u.port

def text (u : ProxyUrl) : String :=
  Text.repeated "http://" u.plain ++ Text.repeated "https://" u.secure ++ u.address ++ Text.repeated "/" u.slashes

/-- A host that is not empty and has no blank, no slash and no user in it. -/
def IsHost (s : String) : Prop := s ≠ "" ∧ ∀ c ∈ s.toList, Text.isBlank c = false ∧ c ≠ '/' ∧ c ≠ '@'

instance (s : String) : Decidable (IsHost s) :=
  decidable_of_iff (s ≠ "" ∧ s.toList.all fun c => !Text.isBlank c && c ≠ '/' && c ≠ '@') (by simp [IsHost, and_assoc])

/-- A port that is not zero, in decimal digits without a sign. -/
def IsPort (s : String) : Prop := ∃ n, Text.digits? 10 s.toList = some n ∧ 1 ≤ n ∧ n ≤ 65535

instance (s : String) : Decidable (IsPort s) :=
  decidable_of_iff ((Text.digits? 10 s.toList).any fun n => 1 ≤ n ∧ n ≤ 65535) (by simp [IsPort, Option.any_eq_true])

/-- A URL with one scheme or none, a host and a port, by its parts. -/
def IsWellFormed (u : ProxyUrl) : Prop := u.plain + u.secure ≤ 1 ∧ IsHost u.host ∧ IsPort u.port

instance (u : ProxyUrl) : Decidable u.IsWellFormed := inferInstanceAs (Decidable (_ ∧ _))

variable {u v : ProxyUrl}

/-! ## Reading a URL -/

theorem toList_address (u : ProxyUrl) : u.address.toList = u.host.toList ++ ':' :: u.port.toList := by
  rw [address, String.toList_append, String.toList_append]
  simp

theorem toList_text (u : ProxyUrl) : u.text.toList = (List.replicate u.plain "http://".toList).flatten ++
    ((List.replicate u.secure "https://".toList).flatten ++ (u.address.toList ++ List.replicate u.slashes '/')) := by
  rw [text, String.toList_append, String.toList_append, String.toList_append, Text.toList_repeated_slash]
  simp only [Text.toList_repeated, List.append_assoc]

/-- A port has no colon and no slash. -/
theorem not_mem_port (u : ProxyUrl) {c : Char} (hdigit : c.isDigit = false) (hsign : c ≠ '+') : c ∉ u.port.toList := by
  intro hmem
  rcases (Text.isDigit_of_readUInt16? u.port_read).2 c hmem with h | h
  · rw [hdigit] at h
    cases h
  · exact hsign h

theorem cutLast?_address (u : ProxyUrl) : Text.cutLast? ':' u.address.toList = some (u.host.toList, u.port.toList) :=
  Text.cutLast?_eq_some.2 ⟨u.toList_address, u.not_mem_port rfl (by decide)⟩

/-- A scheme that stands in front of a host, a colon and anything but slashes stands in front of the host. -/
theorem prefix_host (name : List Char) {host rest : List Char} (hname : ':' ∉ name) (hrest : rest.head? ≠ some '/')
    (h : name ++ [':', '/', '/'] <+: host ++ ':' :: rest) : name ++ [':', '/', '/'] <+: host := by
  rcases List.prefix_or_prefix_of_prefix h (List.prefix_append host _) with hfirst | ⟨last, hlast⟩
  · exact hfirst
  · obtain ⟨later, hlater⟩ := h
    rw [← hlast, List.append_assoc, List.append_cancel_left_eq] at hlater
    cases last with
    | nil => exact ⟨[], by rw [List.append_nil, ← hlast, List.append_nil]⟩
    | cons c last =>
      obtain ⟨rfl, rfl⟩ := List.cons.inj hlater
      have hslashes : last = ['/', '/'] := by
        rcases List.append_eq_append_iff.1 hlast with ⟨between, rfl, hbetween⟩ | ⟨between, rfl, hbetween⟩
        · cases between with
          | nil => exact (List.cons.inj hbetween).2
          | cons d between =>
            obtain ⟨rfl, -⟩ := List.cons.inj hbetween
            exact absurd (List.mem_append_right _ List.mem_cons_self) hname
        · cases between with
          | nil => exact (List.cons.inj hbetween).2.symm
          | cons d between =>
            obtain ⟨rfl, hsplit⟩ := List.cons.inj hbetween
            have hcolon : ':' ∈ ['/', '/'] := hsplit ▸ List.mem_append_right _ List.mem_cons_self
            exact absurd hcolon (by decide)
      rw [hslashes] at hrest
      exact absurd rfl hrest

theorem head_port_append (u : ProxyUrl) (rest : List Char) : (u.port.toList ++ rest).head? ≠ some '/' := by
  obtain ⟨hne, -⟩ := Text.isDigit_of_readUInt16? u.port_read
  rw [List.head?_append_of_ne_nil _ hne]
  exact fun h => u.not_mem_port rfl (by decide) (List.mem_of_head? h)

theorem getLast?_address (u : ProxyUrl) : u.address.toList.getLast? ≠ some '/' := by
  obtain ⟨hne, -⟩ := Text.isDigit_of_readUInt16? u.port_read
  rw [toList_address, List.getLast?_append_of_ne_nil _ (List.cons_ne_nil _ _), List.getLast?_cons_of_ne_nil hne]
  exact fun h => u.not_mem_port rfl (by decide) (List.mem_of_getLast? h)

theorem no_secure_address (u : ProxyUrl) (rest : List Char) : ¬"https://".toList <+: u.address.toList ++ rest := by
  rw [toList_address, List.append_assoc, List.cons_append]
  exact fun h => u.no_secure (prefix_host "https".toList (by decide) (u.head_port_append rest) h)

theorem no_plain_address (u : ProxyUrl) (rest : List Char) :
    ¬"http://".toList <+: (List.replicate u.secure "https://".toList).flatten ++ (u.address.toList ++ rest) := by
  cases hsecure : u.secure with
  | zero =>
    rw [List.replicate_zero, List.flatten_nil, List.nil_append, toList_address, List.append_assoc, List.cons_append]
    exact fun h => u.no_plain hsecure (prefix_host "http".toList (by decide) (u.head_port_append rest) h)
  | succ n =>
    rintro ⟨later, h⟩
    rw [List.replicate_succ, List.flatten_cons] at h
    exact absurd (congrArg (·[4]?) h) (by simp)

theorem bareUrl_text (u : ProxyUrl) : StunnelOptions.bareUrl u.text = u.address.toList := by
  show (Text.dropRepeated "https://".toList
    (Text.dropRepeated "http://".toList u.text.toList)).rdropWhile (· == '/') = _
  rw [toList_text, Text.dropRepeated_append (by decide) _ (u.no_plain_address _),
    Text.dropRepeated_append (by decide) _ (u.no_secure_address _), Text.rdropWhile_append_replicate u.getLast?_address]

/-- The address is what is read from a URL. -/
theorem proxyHost?_text (u : ProxyUrl) : StunnelOptions.proxyHost? u.text = some u.address := by
  have hhost : u.host.toList.isEmpty = false := by simpa using u.host_ne
  obtain ⟨n, hn⟩ := Option.isSome_iff_exists.1 u.port_read
  unfold StunnelOptions.proxyHost?
  simp [bareUrl_text, cutLast?_address, hhost, hn]

/-- What is dropped are schemes and slashes, until none are left. -/
theorem bareUrl_spec (url : String) : ∃ plain secure slashes, url.toList =
      (List.replicate plain "http://".toList).flatten ++ ((List.replicate secure "https://".toList).flatten ++
        (StunnelOptions.bareUrl url ++ List.replicate slashes '/')) ∧
      ¬"https://".toList <+: StunnelOptions.bareUrl url ∧
      (secure = 0 → ¬"http://".toList <+: StunnelOptions.bareUrl url) := by
  have hplain_ne : "http://".toList ≠ [] := by decide
  have hsecure_ne : "https://".toList ≠ [] := by decide
  obtain ⟨plain, hplain, hplain_end⟩ := Text.dropRepeated_spec hplain_ne url.toList
  obtain ⟨secure, hsecure, hsecure_end⟩ := Text.dropRepeated_spec hsecure_ne
    (Text.dropRepeated "http://".toList url.toList)
  obtain ⟨slashes, hslashes⟩ := Text.rdropWhile_spec '/'
    (Text.dropRepeated "https://".toList (Text.dropRepeated "http://".toList url.toList))
  have hbegins : StunnelOptions.bareUrl url <+:
      Text.dropRepeated "https://".toList (Text.dropRepeated "http://".toList url.toList) := List.rdropWhile_prefix ..
  refine ⟨plain, secure, slashes, ?_, fun h => hsecure_end (h.trans hbegins), ?_⟩
  · calc url.toList
      _ = (List.replicate plain "http://".toList).flatten ++ Text.dropRepeated "http://".toList url.toList := hplain
      _ = _ ++ ((List.replicate secure "https://".toList).flatten ++ _) := congrArg (fun rest => _ ++ rest) hsecure
      _ = _ := congrArg (fun rest => _ ++ (_ ++ rest)) hslashes
  · rintro rfl h
    rw [List.replicate_zero, List.flatten_nil, List.nil_append] at hsecure
    rw [← hsecure] at hbegins
    exact hplain_end (h.trans hbegins)

/-- What is read has these parts. -/
theorem exists_text_eq {url : String} (h : (StunnelOptions.proxyHost? url).isSome = true) :
    ∃ u : ProxyUrl, u.text = url := by
  obtain ⟨plain, secure, slashes, hurl, hsecure, hplain⟩ := bareUrl_spec url
  unfold StunnelOptions.proxyHost? at h
  cases hcut : Text.cutLast? ':' (StunnelOptions.bareUrl url) with
  | none => simp [hcut] at h
  | some parts =>
    obtain ⟨host, port⟩ := parts
    simp only [hcut] at h
    split at h
    · cases h
    · rename_i hhost
      rw [Option.isSome_map] at h
      obtain ⟨hbare, -⟩ := Text.cutLast?_eq_some.1 hcut
      rw [hbare] at hurl hsecure hplain
      have hbegins : (String.ofList host).toList <+: host ++ ':' :: port := by
        rw [String.toList_ofList]
        exact List.prefix_append ..
      refine ⟨⟨plain, secure, .ofList host, .ofList port, slashes, by simpa using hhost,
        fun hstart => hsecure (hstart.trans hbegins), fun hzero hstart => hplain hzero (hstart.trans hbegins), h⟩, ?_⟩
      rw [← String.toList_inj, hurl, toList_text]
      simp only [toList_address, String.toList_ofList]

theorem text_injective (h : u.text = v.text) : u = v := by
  have hlists := congrArg String.toList h
  rw [toList_text, toList_text] at hlists
  obtain ⟨hplain, hlists⟩ := Text.flatten_replicate_append_inj (u.no_plain_address _) (v.no_plain_address _) hlists
  obtain ⟨hsecure, hlists⟩ := Text.flatten_replicate_append_inj (u.no_secure_address _) (v.no_secure_address _) hlists
  have haddress : u.address = v.address := Option.some.inj (by rw [← proxyHost?_text, h, proxyHost?_text])
  have hparts : some (u.host.toList, u.port.toList) = some (v.host.toList, v.port.toList) := by
    rw [← cutLast?_address, haddress, cutLast?_address]
  rw [haddress, List.append_cancel_left_eq] at hlists
  obtain ⟨hhost, hport⟩ := Prod.mk.inj (Option.some.inj hparts)
  have hslashes : u.slashes = v.slashes := by simpa using congrArg List.length hlists
  exact ProxyUrl.ext hplain hsecure (String.toList_inj.1 hhost) (String.toList_inj.1 hport) hslashes

/-! ## Well-formed URLs -/

/-- A text that is one of the schemes or none, a host, a colon, a port, and slashes. -/
def IsWellFormedText (url : String) : Prop :=
  ∃ scheme ∈ ["", "http://", "https://"], ∃ host port slashes, url = scheme ++ host ++ ":" ++ port ++ slashes ∧
    IsHost host ∧ IsPort port ∧ ∀ c ∈ slashes.toList, c = '/'

/-- No scheme stands in front of a host without slashes. -/
theorem IsHost.no_scheme {s : String} (h : IsHost s) (name : List Char) : ¬name ++ [':', '/', '/'] <+: s.toList := by
  intro hstart
  have hslash : '/' ∈ s.toList := hstart.subset (List.mem_append_right _ (by decide))
  exact (h.2 _ hslash).2.1 rfl

theorem IsPort.isSome {s : String} (h : IsPort s) : (Text.readUInt16? s).isSome = true := by
  obtain ⟨n, hn, -, hmax⟩ := h
  exact Text.isSome_readUInt16?_of_digits? hn hmax

/-- A well-formed URL has well-formed parts. -/
theorem exists_isWellFormed {url : String} (h : IsWellFormedText url) :
    ∃ u : ProxyUrl, u.text = url ∧ u.IsWellFormed := by
  obtain ⟨scheme, hscheme, host, port, slashes, rfl, hhost, hport, hslashes⟩ := h
  have hend : slashes = Text.repeated "/" slashes.toList.length := by
    rw [← String.toList_inj, Text.toList_repeated_slash]
    exact List.eq_replicate_of_mem hslashes
  obtain ⟨plain, secure, hcount, rfl⟩ : ∃ plain secure, plain + secure ≤ 1 ∧
      scheme = Text.repeated "http://" plain ++ Text.repeated "https://" secure := by
    simp only [List.mem_cons, List.not_mem_nil, or_false] at hscheme
    rcases hscheme with rfl | rfl | rfl
    · exact ⟨0, 0, by decide, rfl⟩
    · exact ⟨1, 0, by decide, rfl⟩
    · exact ⟨0, 1, by decide, rfl⟩
  refine ⟨⟨plain, secure, host, port, slashes.toList.length, hhost.1, hhost.no_scheme "https".toList,
    fun _ => hhost.no_scheme "http".toList, hport.isSome⟩, ?_, hcount, hhost, hport⟩
  rw [text, ← hend]
  simp only [address, String.append_assoc]

theorem isWellFormedText_text (h : u.IsWellFormed) : IsWellFormedText u.text := by
  obtain ⟨hschemes, hhost, hport⟩ := h
  refine ⟨Text.repeated "http://" u.plain ++ Text.repeated "https://" u.secure, ?_, u.host, u.port,
    Text.repeated "/" u.slashes, by simp only [text, address, String.append_assoc], hhost, hport, fun c hc => ?_⟩
  · have hcounts : u.plain = 0 ∧ u.secure = 0 ∨ u.plain = 1 ∧ u.secure = 0 ∨ u.plain = 0 ∧ u.secure = 1 := by omega
    rcases hcounts with ⟨hplain, hsecure⟩ | ⟨hplain, hsecure⟩ | ⟨hplain, hsecure⟩ <;> rw [hplain, hsecure] <;> decide
  · rw [Text.toList_repeated_slash] at hc
    exact List.eq_of_mem_replicate hc

theorem isWellFormedText_iff (u : ProxyUrl) : IsWellFormedText u.text ↔ u.IsWellFormed := by
  refine ⟨fun h => ?_, isWellFormedText_text⟩
  obtain ⟨v, hv, hwell⟩ := exists_isWellFormed h
  exact text_injective hv ▸ hwell

end ProxyUrl

/-! ## What is accepted -/

namespace StunnelOptions

theorem validate_url (url : String) :
    ({ proxyUrl := some url } : StunnelOptions).validate = .ok () ↔ (proxyHost? url).isSome = true := by
  rw [validate, Failure.checkValidation_eq_ok, List.map_eq_nil_iff]
  cases h : proxyHost? url <;> simp [faults, h]

/-- Options that were checked name a proxy by a URL with parts, if they name one. -/
theorem exists_proxyUrl {o : StunnelOptions} (h : o.validate = .ok ()) : ∃ proxy : Option ProxyUrl,
    o.proxyUrl = proxy.map ProxyUrl.text ∧ o.proxyHost = .ok (proxy.map ProxyUrl.address) := by
  cases hurl : o.proxyUrl with
  | none => exact ⟨none, rfl, by simp only [proxyHost, hurl, Option.map_none]⟩
  | some url =>
    obtain ⟨proxy, hproxy⟩ := proxyHost_ok h
    have hread : (proxyHost? url).isSome = true := by
      cases hhost : proxyHost? url with
      | some host => rfl
      | none => simp [proxyHost, hurl, hhost] at hproxy
    obtain ⟨u, rfl⟩ := ProxyUrl.exists_text_eq hread
    exact ⟨some u, rfl, by simp only [proxyHost, hurl, u.proxyHost?_text, Option.map_some]⟩

/-- The URLs that are accepted are the texts of all `ProxyUrl`s, whose parts can be told from the text, and the
well-formed ones are those of well-formed parts. Whatever the other options are, the client is told to connect to the
host and the port, and to ask there for the address of the endpoint. -/
theorem validate_proxyUrl_iff (url : String) :
    (({ proxyUrl := some url } : StunnelOptions).validate = .ok () ↔ ∃ u : ProxyUrl, u.text = url) ∧
    (ProxyUrl.IsWellFormedText url ↔ ∃ u : ProxyUrl, u.text = url ∧ u.IsWellFormed) ∧
    ∀ u : ProxyUrl, u.text = url → (∀ v : ProxyUrl, v.text = url → v = u) ∧
      ∀ (o : StunnelOptions) (e : Endpoint) (address : Address), o.proxyUrl = some url →
        Address.ofEndpoint e = .ok address → ∃ file, Stunnel.clientConfig o e = .ok file ∧
          ConfigFile.Says file Stunnel.service (Stunnel.clientTexts o (some u.address) address)
            [("protocol", ["connect"]), ("connect", [u.host ++ ":" ++ u.port]),
              ("protocolHost", [address.display])] := by
  refine ⟨?_, ⟨ProxyUrl.exists_isWellFormed, ?_⟩, ?_⟩
  · rw [validate_url]
    refine ⟨ProxyUrl.exists_text_eq, ?_⟩
    rintro ⟨u, rfl⟩
    rw [u.proxyHost?_text, Option.isSome_some]
  · rintro ⟨u, rfl, hu⟩
    exact u.isWellFormedText_text hu
  · rintro u rfl
    refine ⟨fun v hv => ProxyUrl.text_injective hv, fun o e address hurl haddress => ?_⟩
    have hproxy : o.proxyHost = .ok (some u.address) := by
      simp only [proxyHost, hurl, u.proxyHost?_text]
    have hconfig := Stunnel.clientConfig_ok haddress hproxy
    obtain ⟨address', proxy', haddress', hproxy', hsays⟩ := Stunnel.clientConfig_saysAll hconfig
    obtain rfl : address' = address := Except.ok.inj (haddress'.symm.trans haddress)
    obtain rfl : proxy' = some u.address := Except.ok.inj (hproxy'.symm.trans hproxy)
    refine ⟨_, hconfig, hsays.subset fun s hs => ?_⟩
    simp only [Stunnel.clientSettings, List.mem_cons]
    exact .inr (.inr (.inr (.inr (.inr (.inr hs)))))

theorem validate_proxyUrl_iff_corp :
    ({ proxyUrl := some "http://proxy.corp:3128/" } : StunnelOptions).validate = .ok () ∧
    ProxyUrl.IsWellFormedText "http://proxy.corp:3128/" ∧
    ∃ file, Stunnel.clientConfig { proxyUrl := some "http://proxy.corp:3128/" }
        (.ofClusterIP ⟨"depot", "inbox"⟩ .empty) = .ok file ∧
      ConfigFile.Says file Stunnel.service ["inbox.depot.svc.cluster.local", "proxy.corp:3128", "", "", "2"]
        [("protocol", ["connect"]), ("connect", ["proxy.corp:3128"]),
          ("protocolHost", ["inbox.depot.svc.cluster.local:6443"])] := by
  obtain ⟨haccepts, hwell, hparts⟩ := validate_proxyUrl_iff "http://proxy.corp:3128/"
  have htext : (⟨1, 0, "proxy.corp", "3128", 1, by decide, by decide, by decide, by decide⟩ : ProxyUrl).text =
      "http://proxy.corp:3128/" := by decide
  obtain ⟨-, hconfigs⟩ := hparts _ htext
  exact ⟨haccepts.2 ⟨_, htext⟩, hwell.2 ⟨_, htext, by decide⟩,
    hconfigs _ _ ⟨"inbox.depot.svc.cluster.local", 6443⟩ rfl rfl⟩

/-- The URL is accepted though it is not well-formed. -/
def AcceptsMalformed (url : String) : Prop :=
  ({ proxyUrl := some url } : StunnelOptions).validate = .ok () ∧ ¬ProxyUrl.IsWellFormedText url

theorem acceptsMalformed_text (u : ProxyUrl) (hu : ¬u.IsWellFormed) : AcceptsMalformed u.text :=
  ⟨(validate_url _).2 (by rw [u.proxyHost?_text, Option.isSome_some]), mt u.isWellFormedText_iff.1 hu⟩

/-- A second scheme, a path, a user, a blank, a sign, and a port that nothing can connect to. -/
theorem validate_proxyUrl_malformed :
    AcceptsMalformed "https://http://proxy:3128" ∧ AcceptsMalformed "http://web/proxy:3128" ∧
    AcceptsMalformed "sail:secret@proxy:3128" ∧ AcceptsMalformed "the proxy:3128" ∧ AcceptsMalformed "proxy:+3128" ∧
    AcceptsMalformed "proxy:0" := by
  exact ⟨
    acceptsMalformed_text ⟨0, 1, "http://proxy", "3128", 0, by decide, by decide, nofun, by decide⟩ (by decide),
    acceptsMalformed_text ⟨1, 0, "web/proxy", "3128", 0, by decide, by decide, by decide, by decide⟩ (by decide),
    acceptsMalformed_text ⟨0, 0, "sail:secret@proxy", "3128", 0, by decide, by decide, by decide, by decide⟩
      (by decide),
    acceptsMalformed_text ⟨0, 0, "the proxy", "3128", 0, by decide, by decide, by decide, by decide⟩ (by decide),
    acceptsMalformed_text ⟨0, 0, "proxy", "+3128", 0, by decide, by decide, by decide, by decide⟩ (by decide),
    acceptsMalformed_text ⟨0, 0, "proxy", "0", 0, by decide, by decide, by decide, by decide⟩ (by decide)⟩

end StunnelOptions

end VolumeMigration
