import StubResolver.Proofs.Nameserver

set_option autoImplicit false

namespace StubResolver

def Ipv4.toMapped (ip : Ipv4) : Ipv6 :=
  ⟨0, 0, 0, 0, 0, 0xffff, Bytes.toUInt16 [ip.a, ip.b], Bytes.toUInt16 [ip.c, ip.d]⟩

theorem Ipv6.mapped?_toMapped (v4 : Ipv4) : v4.toMapped.mapped? = some v4 := by
  have hhigh : Bytes.ofUInt16 (Bytes.toUInt16 [v4.a, v4.b]) = [v4.a, v4.b] :=
    Bytes.ofUInt16_toUInt16 rfl
  have hlow : Bytes.ofUInt16 (Bytes.toUInt16 [v4.c, v4.d]) = [v4.c, v4.d] :=
    Bytes.ofUInt16_toUInt16 rfl
  rw [mapped?, Ipv4.toMapped, if_pos ⟨rfl, rfl⟩, hhigh, hlow]
  rfl

theorem Ipv6.mapped?_eq_some_iff {ip : Ipv6} {v4 : Ipv4} :
    ip.mapped? = some v4 ↔ ip = v4.toMapped := by
  constructor
  · intro h
    have hgroups : v4.toMapped.groups = ip.groups := groups_of_mapped h
    cases ip
    simp only [groups, Ipv4.toMapped, List.cons.injEq, and_true] at hgroups
    obtain ⟨rfl, rfl, rfl, rfl, rfl, rfl, rfl, rfl⟩ := hgroups
    rfl
  · rintro rfl
    exact mapped?_toMapped v4

namespace IpAddress

def unmapped : IpAddress → IpAddress
  | .v4 ip => .v4 ip
  | .v6 ip =>
    match ip.mapped? with
    | some plain => .v4 plain
    | none => .v6 ip

theorem unmapped_toMapped (v4 : Ipv4) : unmapped (.v6 v4.toMapped) = .v4 v4 := by
  rw [unmapped, Ipv6.mapped?_toMapped]

theorem unmapped_of_ne {ip : IpAddress}
    (h : ∀ v4 : Ipv4, ip ≠ .v6 v4.toMapped) : ip.unmapped = ip := by
  cases ip with
  | v4 => rfl
  | v6 ip =>
    have hnone : ip.mapped? = none := by
      rw [Option.eq_none_iff_forall_ne_some]
      intro v4 hv4
      exact h v4 (congrArg v6 (Ipv6.mapped?_eq_some_iff.1 hv4))
    rw [unmapped, hnone]

theorem unmapped_unmapped (ip : IpAddress) : ip.unmapped.unmapped = ip.unmapped := by
  by_cases h : ∃ v4 : Ipv4, ip = .v6 v4.toMapped
  · obtain ⟨v4, rfl⟩ := h
    rw [unmapped_toMapped, unmapped]
  · have hsame := unmapped_of_ne (not_exists.1 h)
    rw [hsame, hsame]

end IpAddress

namespace Nameserver

theorem portOr_toString (default port : UInt16) :
    PortOr default (':' :: (toString port.toNat).toList) port :=
  .given (Text.isNumeral_toString port.toNat_lt)

theorem ofText?_name {host : String} (h : IsName host.toList) (port default : UInt16) :
    ofText? s!"{host}:{port.toNat}" default = some ⟨host, IpAddress.ofText? host, port⟩ := by
  have htext : (s!"{host}:{port.toNat}").toList =
      host.toList ++ ':' :: (toString port.toNat).toList := by
    change (host ++ ":" ++ toString port.toNat).toList = _
    rw [String.toList_append, String.toList_append, List.append_assoc]
    rfl
  refine ofText?_eq_some_iff.2 ⟨?_, rfl⟩
  rw [htext]
  exact .name h (portOr_toString default port)

theorem ofText?_bracketed {host : String} (h : Closed host.toList) (port default : UInt16) :
    ofText? s!"[{host}]:{port.toNat}" default = some ⟨host, IpAddress.ofText? host, port⟩ := by
  have htext : (s!"[{host}]:{port.toNat}").toList =
      '[' :: (host.toList ++ ']' :: ':' :: (toString port.toNat).toList) := by
    change ("[" ++ host ++ "]:" ++ toString port.toNat).toList = _
    rw [String.toList_append, String.toList_append, String.toList_append, List.append_assoc,
      List.append_assoc]
    rfl
  refine ofText?_eq_some_iff.2 ⟨?_, rfl⟩
  rw [htext]
  exact .bracketed h (portOr_toString default port)

theorem isName_ipv4 (ip : Ipv4) : IsName ip.text.toList := by
  have hread := Ipv4.ofText?_text ip
  refine ⟨?_, Ipv4.colon_not_mem hread, fun hhead => ?_⟩
  · intro hnil
    have hlength := ip.length_text
    rw [hnil] at hlength
    exact absurd hlength (by decide)
  · cases Ipv4.digit_of_ofText? hread '[' (List.mem_of_head? hhead) with
    | inl hdot => exact absurd hdot (by decide)
    | inr hdigit => exact absurd hdigit (by decide)

theorem ofText?_socketAddress (a : SocketAddress) (default : UInt16) :
    ofText? a.text default = some ⟨a.ip.text, some a.ip, a.port⟩ := by
  obtain ⟨ip, port⟩ := a
  cases ip with
  | v4 ip =>
    have hread := ofText?_name (isName_ipv4 ip) port default
    rwa [← IpAddress.text, IpAddress.ofText?_text] at hread
  | v6 ip =>
    have hliteral : IsLiteral ip.text.toList := ⟨ip, Ipv6.ofText?_text ip⟩
    have hread := ofText?_bracketed hliteral.closed port default
    rwa [← IpAddress.text, IpAddress.ofText?_text] at hread

theorem text_of_ip {ns : Nameserver} {ip : IpAddress} (h : ns.ip = some ip) :
    ns.text = (SocketAddress.mk ip.unmapped ns.port).text := by
  rw [text, h]
  cases ip with
  | v4 => rfl
  | v6 ip =>
    dsimp only [IpAddress.unmapped]
    cases ip.mapped? <;> rfl

theorem text_of_no_ip {ns : Nameserver} (h : ns.ip = none) :
    ns.text = s!"{ns.host}:{ns.port.toNat}" := by
  rw [text, h]

/-- The same nameserver, with the text of its address for a host and no mapped address. -/
structure Normalizes (ns ns' : Nameserver) : Prop where
  port : ns'.port = ns.port
  mapped : ∀ v4 : Ipv4, ns.ip = some (.v6 v4.toMapped) → ns'.ip = some (.v4 v4)
  kept : (∀ v4 : Ipv4, ns.ip ≠ some (.v6 v4.toMapped)) → ns'.ip = ns.ip
  address : ∀ ip, ns'.ip = some ip → ns'.host = ip.text
  name : ns'.ip = none → ns'.host = ns.host

theorem normalizes_unmapped {ns : Nameserver} {ip : IpAddress} (h : ns.ip = some ip) :
    Normalizes ns ⟨ip.unmapped.text, some ip.unmapped, ns.port⟩ where
  port := rfl
  mapped := by
    intro v4 hv4
    rw [h, Option.some.injEq] at hv4
    rw [hv4, IpAddress.unmapped_toMapped]
  kept := by
    intro hne
    rw [h, IpAddress.unmapped_of_ne fun v4 hv4 => hne v4 (by rw [h, hv4])]
  address := by
    rintro _ ⟨⟩
    rfl
  name := fun hnone => nomatch hnone

theorem normalizes_self {ns : Nameserver} (h : ns.ip = none) : Normalizes ns ns where
  port := rfl
  mapped := by
    intro v4 hv4
    rw [h] at hv4
    cases hv4
  kept := fun _ => rfl
  address := by
    intro ip hip
    rw [h] at hip
    cases hip
  name := fun _ => rfl

theorem Accepted.host_ne {default port : UInt16} {text host : List Char}
    (h : Accepted default text host port) :
    host ≠ [] := by
  cases h with
  | name hname => exact hname.1
  | bare hbare => exact hbare.ne_nil
  | bracketed hbracketed => exact hbracketed.1

/--
A nameserver that was read, with an address or a name without colons and brackets, is read back from
its text under any default port, in its normal form. That is what its own text is read as.
-/
theorem text_read_back {s : String} {default : UInt16} {ns : Nameserver}
    (h : ofText? s default = some ns)
    (hhost : (∃ ip, IpAddress.ofText? ns.host = some ip) ∨ ':' ∉ ns.host.toList ∧
      '[' ∉ ns.host.toList) (default' : UInt16) :
    ∃ ns', ofText? ns.text default' = some ns' ∧ Normalizes ns ns' ∧
      ∀ default'', ofText? ns'.text default'' = some ns' := by
  obtain ⟨hshape, hip⟩ := ofText?_eq_some_iff.1 h
  cases haddress : ns.ip with
  | some ip =>
    refine ⟨⟨ip.unmapped.text, some ip.unmapped, ns.port⟩, ?_, normalizes_unmapped haddress,
      fun default'' => ?_⟩
    · rw [text_of_ip haddress, ofText?_socketAddress]
    · rw [text_of_ip rfl, IpAddress.unmapped_unmapped, ofText?_socketAddress]
  | none =>
    obtain ⟨ip, hsome⟩ | ⟨hcolon, hbracket⟩ := hhost
    · rw [← hip, haddress] at hsome
      cases hsome
    · have hname : IsName ns.host.toList :=
        ⟨hshape.host_ne, hcolon, fun hhead => hbracket (List.mem_of_head? hhead)⟩
      have hread : ∀ d, ofText? ns.text d = some ns := by
        intro d
        rw [text_of_no_ip haddress, ofText?_name hname, ← hip]
      exact ⟨ns, hread default', normalizes_self haddress, hread⟩

/-- A mapped address in groups becomes the IPv4 address, and the port that was the default stays. -/
theorem text_read_back_mapped :
    let ns : Nameserver := ⟨"0:0:0:0:0:FFFF:c000:201", some (.v6 (Ipv4.mk 192 0 2 1).toMapped), 443⟩
    let ns' : Nameserver := ⟨"192.0.2.1", some (.v4 ⟨192, 0, 2, 1⟩), 443⟩
    ofText? "0:0:0:0:0:FFFF:c000:201" 443 = some ns ∧ (∃ ip, IpAddress.ofText? ns.host = some ip) ∧
      ofText? ns.text 53 = some ns' ∧ Normalizes ns ns' ∧ ofText? ns'.text 853 = some ns' := by
  intro ns ns'
  have hread : ofText? "0:0:0:0:0:FFFF:c000:201" 443 = some ns := by decide
  have hhost : ∃ ip, IpAddress.ofText? ns.host = some ip :=
    ⟨.v6 (Ipv4.mk 192 0 2 1).toMapped, by decide⟩
  obtain ⟨m, hm, hnormal, hagain⟩ := text_read_back hread (.inl hhost) 53
  have hip : m.ip = some (.v4 ⟨192, 0, 2, 1⟩) := hnormal.mapped _ rfl
  have hsame : m = ns' := by
    obtain ⟨host, ip, port⟩ := m
    obtain rfl : host = _ := hnormal.address _ hip
    obtain rfl : ip = _ := hip
    obtain rfl : port = _ := hnormal.port
    rfl
  rw [hsame] at hm hnormal hagain
  exact ⟨hread, hhost, hm, hnormal, hagain 853⟩

end Nameserver

end StubResolver
