import StubResolver.CommandLine
import StubResolver.Proofs.Scheme
import StubResolver.Proofs.Trail
import StubResolver.Rehearsal

set_option autoImplicit false

namespace StubResolver

open Text (Behind)

namespace Resolver

inductive Serves {σ : Type} (o : Options) (address : String) : ServerKind → Transport σ → Prop where
  | udp {rest : String} {ns : Nameserver} : Behind "udp://" address rest →
    Nameserver.ofText? rest 53 = some ns →
    Serves o address .udp (.classic ⟨ns, ⟨.udp, Family.ofOptions o, false⟩, o, none⟩)
  | tcp {rest : String} {ns : Nameserver} : Behind "tcp://" address rest →
    Nameserver.ofText? rest 53 = some ns →
    Serves o address .tcp (.classic ⟨ns, ⟨.tcp, Family.ofOptions o, false⟩, o, none⟩)
  | tls {rest : String} {ns : Nameserver} : Behind "tls://" address rest →
    Nameserver.ofText? rest 53 = some ns →
    ServerName.valid (o.tlsHostname.getD ns.host) = true →
    Serves o address .tls
      (.classic ⟨ns, ⟨.tcp, Family.ofOptions o, true⟩, o, some (o.tlsHostname.getD ns.host)⟩)
  | https {rest : String} : Behind "https://" address rest → Https.Hosted rest →
    Serves o address .https (.https ⟨address, o⟩)
  | dnsCrypt {rest : String} {stamp : DnsCrypt.Stamp} {ns : Nameserver}
    {keys : DnsCrypt.ClientKeys} :
    Behind "sdns://" address rest → DnsCrypt.Stamp.ofText address = .ok stamp →
    Nameserver.ofText? stamp.address 443 = some ns →
    Serves o address .dnsCrypt
      (.encrypted ⟨stamp, ns, ⟨.tcp, Family.ofOptions o, false⟩, keys, o⟩ none)
  | system : ¬ "://".toList <:+: address.toList →
    Serves o address .system (.operatingSystem ⟨o.prefer⟩)

/-- Why an address with a known scheme cannot be used. It is never that the scheme is missing. -/
inductive Refused (o : Options) (address : String) : ServerKind → String → Prop where
  | nameserver {scheme rest : String} {kind : ServerKind} : scheme ∈ Classic.schemes →
    (scheme, kind) ∈ ServerKind.schemes → Behind scheme address rest →
      Nameserver.ofText? rest 53 = none →
    Refused o address kind (Nameserver.invalid rest)
  | serverName {rest : String} {ns : Nameserver} : Behind "tls://" address rest →
    Nameserver.ofText? rest 53 = some ns → ServerName.valid (o.tlsHostname.getD ns.host) = false →
    Refused o address .tls
      s!"{o.tlsHostname.getD ns.host} is not a valid TLS server name, please set a TLS hostname"
  | url {rest : String} : Behind "https://" address rest → ¬ Https.Hosted rest →
    Refused o address .https s!"{address} is not a valid HTTPS nameserver"
  | stamp {rest : String} {e : DnsCrypt.Error} : Behind "sdns://" address rest →
    DnsCrypt.Stamp.ofText address = .error e → e ≠ DnsCrypt.Stamp.missingScheme →
    Refused o address .dnsCrypt s!"invalid DNSCrypt stamp: {e.message}"
  | stampAddress {rest : String} {stamp : DnsCrypt.Stamp} : Behind "sdns://" address rest →
    DnsCrypt.Stamp.ofText address = .ok stamp → Nameserver.ofText? stamp.address 443 = none →
    Refused o address .dnsCrypt (Nameserver.invalid stamp.address)

inductive Selected {σ : Type} (address : String) (r : Resolver σ) (s : σ) :
    ServerKind → Except Error Unit × Resolver σ × σ → Prop where
  | installed {kind : ServerKind} {t : Transport σ} {u : σ} : Serves r.options address kind t →
    Selected address r s kind (.ok (), r.withTransport t, u)
  | fallback : "://".toList <:+: address.toList →
    (∀ p ∈ ServerKind.schemes, ∀ rest, ¬ Behind p.1 address rest) →
    Selected address r s .unknown
      (.error (.unknownScheme address), r.withTransport (.operatingSystem ⟨r.options.prefer⟩), s)
  | refused {kind : ServerKind} {reason : String} : Refused r.options address kind reason →
    Selected address r s kind (.error (.config reason), r, s)

section Transports

variable {σ : Type} {env : Environment σ} {address rest : String} {o : Options} {s : σ}

end Transports

variable {σ : Type} (env : Environment σ) (address : String) (r : Resolver σ) (s : σ)

variable {address r s} {kind : ServerKind} {next : Except Error Unit × Resolver σ × σ}

theorem Selected.kept (h : Selected address r s kind next) {e : Error} (he : next.1 = .error e)
    (hne : ∀ a, e ≠ .unknownScheme a) : next.2 = (r, s) := by
  cases h with
  | installed => cases he
  | fallback => exact absurd (Except.error.inj he).symm (hne address)
  | refused => rfl

end Resolver

namespace CommandLine

variable {σ : Type} {env : Environment σ} {a : Arguments}

section Install

variable {address : String} {s t : Resolver σ × σ}

end Install

end CommandLine

namespace Resolver

end Resolver

end StubResolver
