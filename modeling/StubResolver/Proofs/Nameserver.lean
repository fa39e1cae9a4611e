import StubResolver.Proofs.IpAddress
import StubResolver.Transport.Classic
import StubResolver.Transport.Encrypted

set_option autoImplicit false

namespace StubResolver

namespace Nameserver

def IsLiteral (cs : List Char) : Prop := ∃ ip, Ipv6.ofText? cs = some ip

theorem IsLiteral.isPart {cs : List Char} (h : IsLiteral cs) : ∀ c ∈ cs, IpAddress.IsPart c := by
  obtain ⟨ip, hip⟩ := h
  exact Ipv6.isPart_of_ofText? hip

theorem IsLiteral.not_mem {cs : List Char} (h : IsLiteral cs) : '[' ∉ cs ∧ ']' ∉ cs := by
  have hpart : ¬ IpAddress.IsPart '[' ∧ ¬ IpAddress.IsPart ']' := by
    unfold IpAddress.IsPart
    decide
  exact ⟨fun hmem => hpart.1 (h.isPart _ hmem), fun hmem => hpart.2 (h.isPart _ hmem)⟩

def IsName (cs : List Char) : Prop := cs ≠ [] ∧ ':' ∉ cs ∧ cs.head? ≠ some '['

inductive PortOr (default : UInt16) : List Char → UInt16 → Prop where
  | absent : PortOr default [] default
  | given {port : List Char} {n : UInt16} : Text.IsNumeral 65536 port n.toNat →
    PortOr default (':' :: port) n

/--
A text, and the host and the port in it: a name, or what is let through as the address
of a host, alone or in brackets.
-/
inductive Shape (bare bracketed : List Char → Prop) (default : UInt16) :
    List Char → List Char → UInt16 → Prop where
  | name {host rest : List Char} {port : UInt16} : IsName host → PortOr default rest port →
    Shape bare bracketed default (host ++ rest) host port
  | bare {host : List Char} : bare host → Shape bare bracketed default host host default
  | bracketed {host rest : List Char} {port : UInt16} : bracketed host → PortOr default rest port →
    Shape bare bracketed default ('[' :: (host ++ ']' :: rest)) host port

/-- The forms that an address should have. -/
abbrev Documented : UInt16 → List Char → List Char → UInt16 → Prop := Shape IsLiteral IsLiteral

def HasColons (cs : List Char) : Prop := 1 < cs.count ':' ∧ cs.head? ≠ some '['

def Closed (cs : List Char) : Prop := cs ≠ [] ∧ ']' ∉ cs

abbrev Accepted : UInt16 → List Char → List Char → UInt16 → Prop := Shape HasColons Closed

variable {default port : UInt16} {text host : List Char}

theorem HasColons.ne_nil {cs : List Char} (h : HasColons cs) : cs ≠ [] := by
  rintro rfl
  exact absurd h.1 (by decide)

theorem IsLiteral.hasColons {cs : List Char} (h : IsLiteral cs) : HasColons cs := by
  refine ⟨?_, fun hhead => h.not_mem.1 (List.mem_of_head? hhead)⟩
  obtain ⟨ip, hip⟩ := h
  exact Ipv6.two_colons hip

theorem IsLiteral.closed {cs : List Char} (h : IsLiteral cs) : Closed cs :=
  ⟨h.hasColons.ne_nil, h.not_mem.2⟩

theorem Documented.accepted (h : Documented default text host port) :
    Accepted default text host port := by
  cases h with
  | name hname hport => exact .name hname hport
  | bare hbare => exact .bare hbare.hasColons
  | bracketed hbracketed hport => exact .bracketed hbracketed.closed hport

def portPart : Option (List Char) → List Char
  | none => []
  | some port => ':' :: port

theorem hostAndPort?_of_head {cs : List Char} (h : cs.head? ≠ some '[') :
    hostAndPort? cs =
      if 1 < cs.count ':' then some (cs, none)
      else match Text.splitOnce? ':' cs with
        | some (host, port) => some (host, some port)
        | none => some (cs, none) := by
  unfold hostAndPort?
  split
  · exact absurd rfl h
  · rfl

theorem hostAndPort?_name {host : List Char} {port : Option (List Char)} (h : IsName host)
    (hport : ∀ p ∈ port, ':' ∉ p) : hostAndPort? (host ++ portPart port) = some (host, port) := by
  obtain ⟨hne, hcolon, hhead⟩ := h
  have hfirst : (host ++ portPart port).head? = host.head? := List.head?_append_of_ne_nil _ hne
  have hnone := List.count_eq_zero_of_not_mem hcolon
  rw [hostAndPort?_of_head (hfirst ▸ hhead), List.count_append, hnone]
  cases port with
  | none => simp [portPart, Text.splitOnce?_of_not_mem hcolon]
  | some p =>
    have hp := List.count_eq_zero_of_not_mem (hport p rfl)
    simp [portPart, Text.splitOnce?_append hcolon, hp]

theorem hostAndPort?_bare {cs : List Char} (h : HasColons cs) :
    hostAndPort? cs = some (cs, none) := by
  rw [hostAndPort?_of_head h.2, if_pos h.1]

theorem hostAndPort?_bracketed {host : List Char} (h : ']' ∉ host) (port : Option (List Char)) :
    hostAndPort? ('[' :: (host ++ ']' :: portPart port)) = some (host, port) := by
  rw [hostAndPort?, Text.splitOnce?_append h]
  cases port <;> rfl

theorem cut_cases {cs host : List Char} {port : Option (List Char)}
    (h : hostAndPort? cs = some (host, port)) :
    (':' ∉ host ∧ cs.head? ≠ some '[' ∧ cs = host ++ portPart port) ∨
      (HasColons cs ∧ host = cs ∧ port = none) ∨
      ']' ∉ host ∧ cs = '[' :: (host ++ ']' :: portPart port) := by
  by_cases hhead : cs.head? = some '['
  · obtain ⟨r, rfl⟩ := List.head?_eq_some_iff.1 hhead
    rw [hostAndPort?] at h
    split at h
    · next hsplit =>
      cases h
      obtain ⟨hr, hhost⟩ := Text.splitOnce?_eq_some_iff.1 hsplit
      exact .inr (.inr ⟨hhost, hr ▸ rfl⟩)
    · next hsplit =>
      cases h
      obtain ⟨hr, hhost⟩ := Text.splitOnce?_eq_some_iff.1 hsplit
      exact .inr (.inr ⟨hhost, hr ▸ rfl⟩)
    · cases h
  · rw [hostAndPort?_of_head hhead] at h
    split at h
    · next hcount =>
      cases h
      exact .inr (.inl ⟨⟨hcount, hhead⟩, rfl, rfl⟩)
    · split at h
      · next hsplit =>
        cases h
        obtain ⟨hcs, hhost⟩ := Text.splitOnce?_eq_some_iff.1 hsplit
        exact .inl ⟨hhost, hhead, hcs⟩
      · next hsplit =>
        cases h
        exact .inl ⟨Text.splitOnce?_eq_none_iff.1 hsplit, hhead, (List.append_nil _).symm⟩

theorem port?_eq_some_iff {cs : List Char} :
    port? cs = some port ↔ Text.IsNumeral 65536 cs port.toNat := by
  rw [port?, Option.map_eq_some_iff, ← Text.numeral?_eq_some_iff]
  constructor
  · rintro ⟨n, hn, rfl⟩
    obtain ⟨-, -, -, -, -, hlt⟩ := Text.numeral?_eq_some_iff.1 hn
    have hsame : (UInt16.ofNat n).toNat = n := UInt16.toNat_ofNat_of_lt hlt
    rw [hsame, hn]
  · intro h
    exact ⟨_, h, UInt16.ofNat_toNat⟩

theorem portOr_nil_iff : PortOr default [] port ↔ port = default := by
  constructor
  · intro h
    cases h
    rfl
  · rintro rfl
    exact .absent

theorem portOr_colon_iff {cs : List Char} :
    PortOr default (':' :: cs) port ↔ port? cs = some port := by
  rw [port?_eq_some_iff]
  constructor
  · intro h
    cases h with
    | given h => exact h
  · exact .given

theorem ofText?_eq_some_iff_cut {s : String} {ns : Nameserver} :
    ofText? s default = some ns ↔
      ∃ port, hostAndPort? s.toList = some (ns.host.toList, port) ∧ ns.host.toList ≠ [] ∧
        PortOr default (portPart port) ns.port ∧ ns.ip = IpAddress.ofText? ns.host := by
  unfold ofText?
  constructor
  · intro h
    obtain ⟨⟨host, port⟩, hcut, h⟩ := Option.bind_eq_some_iff.1 h
    dsimp only at h
    split at h
    · cases h
    · next hne =>
      obtain ⟨hhost, hip, hport⟩ : ns.host = String.ofList host ∧ ns.ip = IpAddress.ofChars? host ∧
          PortOr default (portPart port) ns.port := by
        cases port with
        | none =>
          cases h
          exact ⟨rfl, rfl, .absent⟩
        | some p =>
          obtain ⟨n, hn, h⟩ := Option.bind_eq_some_iff.1 h
          cases h
          exact ⟨rfl, rfl, portOr_colon_iff.2 hn⟩
      refine ⟨port, ?_, ?_, hport, ?_⟩
      · rw [hcut, hhost, String.toList_ofList]
      · rw [hhost, String.toList_ofList]
        simpa using hne
      · rw [hip, hhost, IpAddress.ofText?, String.toList_ofList]
  · rintro ⟨port, hcut, hne, hport, hip⟩
    have hempty : ns.host.toList.isEmpty = false := by simpa using hne
    rw [hcut, Option.bind_eq_bind, Option.bind_some]
    simp only [hempty, Bool.false_eq_true, if_false, String.ofList_toList]
    rw [← IpAddress.ofText?, ← hip]
    cases port with
    | none =>
      obtain rfl := portOr_nil_iff.1 hport
      rfl
    | some p =>
      have hread : port? p = some ns.port := portOr_colon_iff.1 hport
      dsimp only
      rw [hread]
      rfl

theorem exists_portPart_of_portOr {cs : List Char} (h : PortOr default cs port) :
    ∃ port' : Option (List Char), cs = portPart port' ∧ ∀ p ∈ port', ':' ∉ p := by
  cases h with
  | absent => exact ⟨none, rfl, fun _ hp => nomatch hp⟩
  | given h =>
    refine ⟨some _, rfl, fun p hp => ?_⟩
    cases hp
    exact h.not_mem (by decide) (by decide)

theorem ofText?_eq_some_iff {s : String} {ns : Nameserver} :
    ofText? s default = some ns ↔
      Accepted default s.toList ns.host.toList ns.port ∧ ns.ip = IpAddress.ofText? ns.host := by
  rw [ofText?_eq_some_iff_cut]
  constructor
  · rintro ⟨port, hcut, hne, hport, hip⟩
    refine ⟨?_, hip⟩
    obtain ⟨hcolon, hhead, hs⟩ | ⟨hcolons, hhost, rfl⟩ | ⟨hbracket, hs⟩ := cut_cases hcut
    · have hfirst : s.toList.head? = ns.host.toList.head? := by
        rw [hs, List.head?_append_of_ne_nil _ hne]
      rw [hs]
      exact .name ⟨hne, hcolon, hfirst ▸ hhead⟩ hport
    · rw [portOr_nil_iff.1 hport, hhost]
      exact .bare hcolons
    · rw [hs]
      exact .bracketed ⟨hne, hbracket⟩ hport
  · rintro ⟨hshape, hip⟩
    generalize hs : s.toList = cs at hshape ⊢
    generalize hhost : ns.host.toList = host at hshape ⊢
    generalize hp : ns.port = port at hshape ⊢
    cases hshape with
    | name hname hport =>
      obtain ⟨port', rfl, hcolon⟩ := exists_portPart_of_portOr hport
      exact ⟨port', hostAndPort?_name hname hcolon, hname.1, hport, hip⟩
    | bare hbare => exact ⟨none, hostAndPort?_bare hbare, hbare.ne_nil, .absent, hip⟩
    | bracketed hbracketed hport =>
      obtain ⟨port', rfl, -⟩ := exists_portPart_of_portOr hport
      exact ⟨port', hostAndPort?_bracketed hbracketed.2 port', hbracketed.1, hport, hip⟩

def AsAddress (text : List Char) : Prop := text.head? = some '[' ∨ 1 < text.count ':'

theorem not_asAddress_of_name {cs : List Char} (hname : IsName host)
    (hport : PortOr default cs port) :
    ¬ AsAddress (host ++ cs) := by
  obtain ⟨hne, hcolon, hhead⟩ := hname
  obtain ⟨port', rfl, hport'⟩ := exists_portPart_of_portOr hport
  rintro (hbracket | hcount)
  · rw [List.head?_append_of_ne_nil _ hne] at hbracket
    exact hhead hbracket
  · rw [List.count_append, List.count_eq_zero_of_not_mem hcolon] at hcount
    cases port' with
    | none => simp [portPart] at hcount
    | some p => simp [portPart, List.count_eq_zero_of_not_mem (hport' p rfl)] at hcount

theorem Documented.literal (h : Documented default text host port)
    (haddress : AsAddress text) : IsLiteral host := by
  cases h with
  | name hname hport => exact absurd haddress (not_asAddress_of_name hname hport)
  | bare hbare => exact hbare
  | bracketed hbracketed => exact hbracketed

/-- What is read has a form that it should have, unless it is taken for
an address without being one. -/
theorem documented_iff (h : Accepted default text host port) :
    Documented default text host port ↔ (AsAddress text → IsLiteral host) := by
  refine ⟨fun hdocumented => hdocumented.literal, fun hliteral => ?_⟩
  cases h with
  | name hname hport => exact .name hname hport
  | bare hbare => exact .bare (hliteral (.inr hbare.1))
  | bracketed _ hport => exact .bracketed (hliteral (.inl rfl)) hport

theorem asAddress_of_colon (h : Accepted default text host port)
    (hcolon : ':' ∈ host) : AsAddress text := by
  cases h with
  | name hname => exact absurd hcolon hname.2.1
  | bare hbare => exact .inr hbare.1
  | bracketed => exact .inl rfl

theorem isLiteral_iff_ip {ns : Nameserver} (h : ns.ip = IpAddress.ofText? ns.host) :
    IsLiteral ns.host.toList ↔ ∃ ip, ns.ip = some (.v6 ip) := by
  rw [h]
  exact exists_congr fun _ => IpAddress.ofChars?_eq_v6_iff.symm

theorem ofText?_eq_none_iff {s : String} :
    ofText? s default = none ↔ ∀ host port, ¬ Accepted default s.toList host port := by
  rw [Option.eq_none_iff_forall_ne_some]
  constructor
  · intro h host port hshape
    have hread : ofText? s default =
        some ⟨String.ofList host, IpAddress.ofText? (String.ofList host), port⟩ :=
      ofText?_eq_some_iff.2 ⟨by rwa [String.toList_ofList], rfl⟩
    exact h _ hread
  · intro h ns hread
    exact h _ _ (ofText?_eq_some_iff.1 hread).1

/-- A text that is not read is a configuration error of the transport whose address it is. -/
structure Refusals (s : String) : Prop where
  classic : (∀ host port, ¬ Accepted 53 s.toList host port) →
    ∀ address tcp tls o, Classic.withoutScheme address = s →
    Classic.ofAddress address tcp tls o = .error (.config (invalid s))
  encrypted : (∀ host port, ¬ Accepted 443 s.toList host port) →
    ∀ text stamp, DnsCrypt.Stamp.ofText text = .ok stamp →
    stamp.address = s → Encrypted.ofStamp text = .error (.config (invalid s))

theorem refusals (s : String) : Refusals s where
  classic := by
    rintro h address tcp tls o rfl
    have hnone : ofText? (Classic.withoutScheme address) Classic.defaultPort = none :=
      ofText?_eq_none_iff.2 h
    unfold Classic.ofAddress
    dsimp only
    rw [hnone]
    rfl
  encrypted := by
    rintro h text stamp hstamp rfl
    have hnone : ofText? stamp.address Encrypted.defaultPort = none := ofText?_eq_none_iff.2 h
    rw [Encrypted.ofStamp, hstamp]
    dsimp only
    rw [hnone]

/--
Which texts are read, and as what; the others are configuration errors. The texts of every
documented form are read. Of the rest those are read that have several colons or begin with a
bracket, and hold no IPv6 address: their hosts, which may have colons, are no addresses.
-/
theorem accepted_forms (s : String) (default : UInt16) :
    (∀ ns, ofText? s default = some ns ↔
      Accepted default s.toList ns.host.toList ns.port ∧ ns.ip = IpAddress.ofText? ns.host) ∧
    (ofText? s default = none ↔ ∀ host port, ¬ Accepted default s.toList host port) ∧ Refusals s ∧
    (∀ host port, Documented default s.toList host port → Accepted default s.toList host port) ∧
    ∀ ns, ofText? s default = some ns →
      (Documented default s.toList ns.host.toList ns.port ↔
        (AsAddress s.toList → ∃ ip, ns.ip = some (.v6 ip))) ∧
      (':' ∈ ns.host.toList →
        (Documented default s.toList ns.host.toList ns.port ↔ ∃ ip, ns.ip = some (.v6 ip))) := by
  refine ⟨fun _ => ofText?_eq_some_iff, ofText?_eq_none_iff, refusals s,
    fun _ _ h => h.accepted, fun ns h => ?_⟩
  obtain ⟨hshape, hip⟩ := ofText?_eq_some_iff.1 h
  rw [documented_iff hshape, isLiteral_iff_ip hip]
  refine ⟨Iff.rfl, fun hcolon => ?_⟩
  have haddress := asAddress_of_colon hshape hcolon
  exact ⟨fun h => h haddress, fun h _ => h⟩

/-- An address in brackets with a port, and a host whose port is none. -/
theorem accepted_forms_bracketed :
    let ns : Nameserver := ⟨"2001:db8::1", some (.v6 ⟨0x2001, 0xdb8, 0, 0, 0, 0, 0, 1⟩), 853⟩
    ofText? "[2001:db8::1]:+0853" 53 = some ns ∧ ':' ∈ ns.host.toList ∧
      Documented 53 "[2001:db8::1]:+0853".toList ns.host.toList 853 ∧
      (∀ host port, ¬ Accepted 53 "host:port".toList host port) ∧
        Classic.withoutScheme "udp://host:port" = "host:port" ∧
      ∀ o, Classic.ofAddress "udp://host:port" false false o =
        .error (.config (invalid "host:port")) := by
  intro ns
  have hread : ofText? "[2001:db8::1]:+0853" 53 = some ns := by decide
  have hcolon : ':' ∈ ns.host.toList := by decide
  have hscheme : Classic.withoutScheme "udp://host:port" = "host:port" := by decide
  obtain ⟨-, -, -, -, hforms⟩ := accepted_forms "[2001:db8::1]:+0853" 53
  obtain ⟨-, hnone, hrefusals, -⟩ := accepted_forms "host:port" 53
  have hrefused := hnone.1 (by decide)
  exact ⟨hread, hcolon, ((hforms ns hread).2 hcolon).2 ⟨_, rfl⟩, hrefused, hscheme,
    fun o => hrefusals.classic hrefused "udp://host:port" false false o hscheme⟩

theorem not_documented_of_ip {s : String} {ns : Nameserver} (h : ofText? s default = some ns)
    (haddress : AsAddress s.toList) (hip : ns.ip = none) (host : List Char) (port : UInt16) :
    ¬ Documented default s.toList host port := by
  intro hdocumented
  have hread : ofText? s default =
      some ⟨String.ofList host, IpAddress.ofText? (String.ofList host), port⟩ :=
    ofText?_eq_some_iff.2 ⟨by simpa using hdocumented.accepted, rfl⟩
  obtain ⟨ip, hliteral⟩ := hdocumented.literal haddress
  have hv6 : IpAddress.ofText? (String.ofList host) = some (.v6 ip) := by
    rw [IpAddress.ofText?, String.toList_ofList]
    exact IpAddress.ofChars?_eq_v6_iff.2 hliteral
  rw [h, hv6] at hread
  cases hread
  cases hip

/-- A name with two ports is read as a host with colons, and a name in brackets as that name. -/
theorem not_documented :
    (ofText? "dns.example:53:53" 53 = some ⟨"dns.example:53:53", none, 53⟩ ∧
      ∀ host port, ¬ Documented 53 "dns.example:53:53".toList host port) ∧
    ofText? "[dns.example]:853" 53 = some ⟨"dns.example", none, 853⟩ ∧
      ∀ host port, ¬ Documented 53 "[dns.example]:853".toList host port := by
  have hports : ofText? "dns.example:53:53" 53 = some ⟨"dns.example:53:53", none, 53⟩ := by decide
  have hbrackets : ofText? "[dns.example]:853" 53 = some ⟨"dns.example", none, 853⟩ := by decide
  exact ⟨⟨hports, not_documented_of_ip hports (.inr (by decide)) rfl⟩, hbrackets,
    not_documented_of_ip hbrackets (.inl rfl) rfl⟩

end Nameserver

end StubResolver
