import StubResolver.Proofs.NameserverText
import StubResolver.Proofs.StampGrammar
import StubResolver.Proofs.Task

/-!
The address in a stamp. Whether it has a port is looked at twice, first when the stamp is read and
then when the address is. The two agree wherever no bracket is part of the host, so that the
resolver is the one that the stamp states.
-/

set_option autoImplicit false

namespace StubResolver

open DnsCrypt (Stamp)
open DnsCrypt.Stamp (PortGiven Carries withPort)

namespace Nameserver

variable {address : String} {host rest : List Char} {port : UInt16}

theorem PortOr.bracket_not_mem (h : PortOr 443 rest port) : ']' ∉ rest := by
  cases h with
  | absent => exact List.not_mem_nil
  | given hnumeral =>
    rw [List.mem_cons, not_or]
    exact ⟨by decide, hnumeral.not_mem (by decide) (by decide)⟩

theorem portOr_default : PortOr 443 DnsCrypt.Stamp.defaultPort.toList 443 := portOr_toString 443 443

/-- The default port is only put behind an address that has none, and is
the one that is taken then. -/
theorem accepted_withPort (h : Accepted 443 address.toList host port) (hbracket : ']' ∉ host) :
    Accepted 443 (withPort address).toList host port := by
  obtain ⟨hported, hportless⟩ :=
    DnsCrypt.Stamp.eq_withPort_iff.1 (rfl : withPort address = withPort address)
  by_cases hport : PortGiven address.toList
  · rw [hported hport]
    exact h
  · rw [hportless hport, String.toList_append]
    clear hported hportless
    generalize address.toList = cs at h hport
    cases h with
    | name hname hrest =>
      cases hrest with
      | absent =>
        rw [List.append_nil]
        exact .name hname portOr_default
      | given hnumeral =>
        refine absurd (.inr ⟨?_, by simp⟩) hport
        rw [List.mem_append, not_or]
        exact ⟨hbracket, PortOr.bracket_not_mem (.given hnumeral)⟩
    | bare hcolons =>
      have hcolon : ':' ∈ host := List.count_pos_iff.1 (Nat.lt_trans Nat.zero_lt_one hcolons.1)
      exact absurd (.inr ⟨hbracket, hcolon⟩) hport
    | bracketed hclosed hrest =>
      cases hrest with
      | absent =>
        rw [List.cons_append, List.append_assoc]
        exact .bracketed hclosed portOr_default
      | given hnumeral =>
        exact absurd (.inl ⟨'[' :: host, _, rfl, hnumeral.not_mem (by decide) (by decide)⟩) hport

theorem ofText?_withPort {ns : Nameserver} (h : ofText? address 443 = some ns)
    (hbracket : ']' ∉ ns.host.toList) :
    ofText? (withPort address) 443 = some ns := by
  obtain ⟨hshape, hip⟩ := ofText?_eq_some_iff.1 h
  exact ofText?_eq_some_iff.2 ⟨accepted_withPort hshape hbracket, hip⟩

theorem Documented.bracket_not_mem {default : UInt16} {text : List Char}
    (h : Documented default text host port) (hname : IsName host → ']' ∉ host) : ']' ∉ host := by
  cases h with
  | name h _ => exact hname h
  | bare hliteral => exact hliteral.not_mem.2
  | bracketed hliteral _ => exact hliteral.not_mem.2

end Nameserver

theorem DnsCrypt.Stamp.address_of_carries {s address : String} {st : Stamp}
    (h : Stamp.ofText s = .ok st) (haddress : Carries s address) :
    st.address = withPort address := by
  obtain ⟨payload, b, props, key, name, hpayload, hdecode, hfields⟩ := haddress
  obtain ⟨payload', b', address', hpayload', hdecode', hparts⟩ := parts_of_ofText h
  rw [hpayload] at hpayload'
  cases hpayload'
  rw [hdecode] at hdecode'
  cases hdecode'
  have hsame := Except.ok.inj (hfields.symm.trans hparts.fields)
  simp only [Prod.mk.injEq, Bytes.ofString_inj] at hsame
  rw [hparts.address_eq, hsame.2.1]

namespace Encrypted

def Reaches (s : String) (st : Stamp) (ns : Nameserver) : Prop :=
  ∀ {σ : Type} (env : Environment σ) (tcp : Bool) (o : Options) (w : σ),
    ∃ e w', ofText env s tcp o w = (.ok e, w') ∧ e.stamp = st ∧ e.nameserver = ns

theorem reaches_of_ofText? {s : String} {st : Stamp} {ns : Nameserver} (h : Stamp.ofText s = .ok st)
    (hns : Nameserver.ofText? st.address 443 = some ns) : Reaches s st ns := by
  intro σ env tcp o w
  have hread : ofStamp s = .ok (st, ns) := by
    have hdefault : Nameserver.ofText? st.address defaultPort = some ns := hns
    rw [ofStamp, h]
    dsimp only
    rw [hdefault]
  rw [ofText, Task.bind_apply, Task.ofExcept_apply, hread]
  exact ⟨_, _, rfl, rfl, rfl⟩

/--
A stamp sets up a transport to the very nameserver that its address is read as, though the address
is read with a port put behind it, unless a bracket is part of the host. No IPv6 literal has one, so
that each address of a documented form is reached, but for names with a bracket.
-/
theorem stated_address_reached {s address : String} {st : Stamp} (h : Stamp.ofText s = .ok st)
    (haddress : Carries s address) :
    (∀ ns, Nameserver.ofText? address 443 = some ns → ']' ∉ ns.host.toList → Reaches s st ns) ∧
    ∀ host port, Nameserver.Documented 443 address.toList host port →
      (Nameserver.IsName host → ']' ∉ host) →
      Reaches s st ⟨String.ofList host, IpAddress.ofText? (String.ofList host), port⟩ := by
  have hstated : ∀ ns, Nameserver.ofText? address 443 = some ns → ']' ∉ ns.host.toList →
      Reaches s st ns := by
    intro ns hns hbracket
    refine reaches_of_ofText? h ?_
    rw [DnsCrypt.Stamp.address_of_carries h haddress]
    exact Nameserver.ofText?_withPort hns hbracket
  refine ⟨hstated, fun host port hdocumented hname => hstated _ ?_ ?_⟩
  · exact Nameserver.ofText?_eq_some_iff.2 ⟨by simpa using hdocumented.accepted, rfl⟩
  · rw [String.toList_ofList]
    exact hdocumented.bracket_not_mem hname

/-- The port that the address in brackets lacks is put behind it, and is the
one that it has by default. -/
theorem stated_address_reached_in_brackets :
    let s := (Stamp.pointingAt "[2001:db8::1]").text
    let st := Stamp.pointingAt "[2001:db8::1]:443"
    let ns : Nameserver := ⟨"2001:db8::1", some (.v6 ⟨0x2001, 0xdb8, 0, 0, 0, 0, 0, 1⟩), 443⟩
    Stamp.ofText s = .ok st ∧ Carries s "[2001:db8::1]" ∧
      Nameserver.ofText? "[2001:db8::1]" 443 = some ns ∧
      ']' ∉ ns.host.toList ∧ Nameserver.Documented 443 "[2001:db8::1]".toList ns.host.toList 443 ∧
      ¬ Nameserver.IsName ns.host.toList ∧ Reaches s st ns := by
  intro s st ns
  have hfits : (Stamp.pointingAt "[2001:db8::1]").Fits :=
    DnsCrypt.Stamp.fits_pointingAt "[2001:db8::1]".toList (by decide) (by simp) (by decide)
  have hread : Stamp.ofText s = .ok st := hfits.ofText_text
  have hns : Nameserver.ofText? "[2001:db8::1]" 443 = some ns := by decide
  have hbracket : ']' ∉ ns.host.toList := by decide
  have hliteral : Nameserver.IsLiteral ns.host.toList :=
    ⟨⟨0x2001, 0xdb8, 0, 0, 0, 0, 0, 1⟩, by decide⟩
  have hform : Nameserver.Documented 443 "[2001:db8::1]".toList ns.host.toList 443 := by
    have htext : "[2001:db8::1]".toList = '[' :: (ns.host.toList ++ [']']) := by decide
    rw [htext]
    exact .bracketed hliteral .absent
  have hname : ¬ Nameserver.IsName ns.host.toList := fun hname => absurd (by decide) hname.2.1
  obtain ⟨hstated, -⟩ := stated_address_reached hread hfits.carries
  exact ⟨hread, hfits.carries, hns, hbracket, hform, hname, hstated ns hns hbracket⟩

end Encrypted

end StubResolver
