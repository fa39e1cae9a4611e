import StubResolver.Proofs.Dialing
import StubResolver.Proofs.TransportAgreement

set_option autoImplicit false

namespace StubResolver

open Dialing (For)

variable {σ : Type} {env : Environment σ}
  {connect : Protocol → Duration → SocketAddress → Action σ IoError Unit}

namespace Exchange

variable {P : Dialing → Prop}

theorem framed_dials (frame : Bytes) : (framed (env.dialing connect) frame).Dials Prod.fst P :=
  .bind (.ofAction fun _ => rfl) fun _ => .bind (.ofExcept _ _) fun _ => .pure _

theorem udp_dials (ns : Nameserver) (family : Family) (timeout : Duration) (message : Bytes) :
    (udp (env.dialing connect) ns family timeout message).DialsOnce (For ns family) :=
  Task.dialsOnce_bind env connect _ (.ofAction fun _ => rfl)

theorem tcp_dials (ns : Nameserver) (family : Family) (timeout : Duration) (message : Bytes) :
    (tcp (env.dialing connect) ns family timeout message).DialsOnce (For ns family) :=
  Task.dialsOnce_bind env connect _ (.bind (.ofExcept _ _) fun frame => framed_dials frame)

theorem tls_dials (ns : Nameserver) (family : Family) (timeout : Duration)
    (name : String) (verify : Bool) (message : Bytes) :
    (tls (env.dialing connect) ns family timeout name verify message).DialsOnce (For ns family) :=
  Task.dialsOnce_bind env connect _ (.bind (.ofExcept _ _) fun frame =>
    .bind (.ofAction fun _ => rfl) fun _ => framed_dials frame)

end Exchange

/-- An inquiry connects only in its exchanges, the last of which may fail. -/
theorem Inquiry.run_dials {τ : Type} {log : τ → List Dialing} {P : Dialing → Prop}
    {exchange : Network → Bytes → Task τ Bytes} (network : Network)
    (h : ∀ n m, n = network ∨ n = network.toTcp → (exchange n m).Dials log P)
    (elapsed : τ → Duration) (o : Options) (server : String) (question : Question)
    (ids : Nat → UInt16) :
    (run elapsed exchange o network server question ids).Dials log P := by
  intro s
  let made (t : τ) : Prop := ∃ xs, log t = log s ++ xs ∧ ∀ x ∈ xs, P x ∧ x.Connected
  let stopped (e : Error) (t : τ) : Prop :=
    ∃ xs, log t = log s ++ xs ∧ Dialing.Ended P xs (.error e : Except Error Response)
  have hexchange : ∀ n m, n = network ∨ n = network.toTcp →
      Task.Keeps made stopped (exchange n m) := by
    intro n m hn t ht
    obtain ⟨xs, hxs, hmade⟩ := ht
    obtain ⟨ys, hys, hended⟩ := h n m hn t
    rw [hxs, List.append_assoc] at hys
    rcases hr : exchange n m t with ⟨e | reply, u⟩
    · rw [hr] at hys hended
      exact ⟨xs ++ ys, hys, (hended.append hmade).of_error⟩
    · rw [hr] at hys hended
      exact ⟨xs ++ ys, hys, List.forall_mem_append.2 ⟨hmade, hended.of_ok⟩⟩
  have hrun := run_keeps network hexchange elapsed o server question ids s
    ⟨[], (List.append_nil _).symm, List.forall_mem_nil _⟩
  rcases hr : run elapsed exchange o network server question ids s with ⟨e | r, t⟩
  · rw [hr] at hrun
    cases hrun with
    | inl hmade =>
      obtain ⟨xs, hxs, hmade⟩ := hmade
      exact ⟨xs, hxs, .connected hmade⟩
    | inr hstopped => exact hstopped
  · rw [hr] at hrun
    obtain ⟨xs, hxs, hmade⟩ := hrun
    exact ⟨xs, hxs, .connected hmade⟩

namespace Classic

variable (c : Classic)

theorem exchange_dials (network : Network) (message : Bytes) :
    (c.exchange (env.dialing connect) network message).DialsOnce
      (For c.nameserver network.family) := by
  unfold exchange
  dsimp only
  split
  · exact Exchange.tls_dials _ _ _ _ _ _
  · split
    · exact Exchange.tcp_dials _ _ _ _
    · exact Exchange.udp_dials _ _ _ _

theorem lookup_dials (question : Question) :
    (c.lookup (env.dialing connect) question).Dials Prod.fst
      (For c.nameserver c.network.family) := by
  refine .bind (.run fun _ => rfl) fun ids =>
    Inquiry.run_dials c.network (fun n m hn => ?_) _ _ _ _ _
  obtain rfl | rfl := hn
  · exact (c.exchange_dials c.network m).dials
  · exact (c.exchange_dials c.network.toTcp m).dials

end Classic

namespace Encrypted

variable (e : Encrypted)

def dialings (s : State (List Dialing × σ)) : List Dialing := s.2.1

theorem lift_dials {α : Type} {P : Dialing → Prop} {task : Task (List Dialing × σ) α}
    (h : task.Dials Prod.fst P) :
    (lift task).Dials dialings P := fun s => h s.2

theorem send_dials (network : Network) (packet : Bytes) :
    (e.send (env.dialing connect) network packet).DialsOnce (For e.nameserver network.family) := by
  unfold send
  split
  · exact Exchange.tcp_dials _ _ _ _
  · exact Exchange.udp_dials _ _ _ _

theorem askCertificates_dials (query : Query) (network : Network) :
    (e.askCertificates (env.dialing connect) query network).Dials Prod.fst
      (For e.nameserver network.family) := by
  refine .bind (e.send_dials network query.encode).dials fun _ => .bind (.ofExcept _ _) fun r => ?_
  dsimp only
  split
  · exact .bind (.throw _) fun _ => .pure _
  · exact .pure _

theorem published_dials :
    (e.published (env.dialing connect)).Dials Prod.fst
      (For e.nameserver (Family.ofOptions e.options)) := by
  refine .bind (.ofExcept _ _) fun name => .bind (.run fun _ => rfl) fun ids =>
    .bind (e.askCertificates_dials _ e.plainNetwork) fun (truncated, texts) => .ite (.pure _) ?_
  exact .bind (e.askCertificates_dials _ e.plainNetwork.toTcp) fun (truncated, texts) =>
    .ite (.bind (.throw _) fun _ => .pure _) (.pure _)

variable (env connect) in
theorem fetchCertificate_dials :
    (e.fetchCertificate (env.dialing connect)).Dials Prod.fst
      (For e.nameserver (Family.ofOptions e.options)) := by
  refine .bind e.published_dials fun texts => .bind (.get _) fun now => ?_
  dsimp only
  split
  · exact .pure _
  · exact .throw _

theorem certificate_dials :
    (e.certificate (env.dialing connect)).Dials dialings
      (For e.nameserver (Family.ofOptions e.options)) := by
  intro s
  unfold certificate
  split
  · exact ⟨[], (List.append_nil _).symm, .connected (List.forall_mem_nil _)⟩
  · obtain ⟨xs, hxs, hended⟩ := e.fetchCertificate_dials env connect s.2
    rcases hr : e.fetchCertificate (env.dialing connect) s.2 with ⟨err | c, outside⟩
    · rw [hr] at hxs hended
      exact ⟨xs, hxs, hended.of_error⟩
    · rw [hr] at hxs hended
      exact ⟨xs, hxs, .connected hended.of_ok⟩

theorem encryptQuery_unchanged (c : DnsCrypt.Certificate) (keys : DnsCrypt.ClientKeys)
    (message : Bytes) (s : List Dialing × σ) :
    (DnsCrypt.encryptQuery (env.dialing connect).random c keys message s).2.1 = s.1 := by
  unfold DnsCrypt.encryptQuery
  dsimp only
  split
  · rfl
  · split
    · rfl
    · split <;> rfl

theorem exchange_dials (c : DnsCrypt.Certificate) (network : Network) (message : Bytes) :
    (e.exchange (env.dialing connect) c network message).Dials dialings
      (For e.nameserver network.family) := by
  refine .bind (lift_dials (.ofAction fun s => encryptQuery_unchanged c e.keys message s)) fun r =>
    .bind (lift_dials (e.send_dials network r.1).dials) fun reply => ?_
  split
  · exact .pure _
  · exact .bind (.of_unchanged fun _ => rfl) fun _ => .throw _

theorem lookup_dials (hfamily : e.network.family = Family.ofOptions e.options)
    (question : Question) :
    (e.lookup (env.dialing connect) question).Dials dialings
      (For e.nameserver e.network.family) := by
  refine .bind (hfamily ▸ e.certificate_dials) fun c => ?_
  refine .bind (lift_dials (.run fun _ => rfl)) fun ids => ?_
  refine Inquiry.run_dials e.network (fun n m hn => ?_) _ _ _ _ _
  obtain rfl | rfl := hn
  · exact e.exchange_dials c e.network m
  · exact e.exchange_dials c e.network.toTcp m

end Encrypted

namespace SystemDial

variable {d : Dial} {as : List SocketAddress} {efforts : List Effort}
  {r : Except IoError SocketAddress}

theorem Attempted.tried (h : Attempted d as efforts r) :
    ∀ effort ∈ efforts, ∃ a ∈ as, ∃ outcome, effort = .tried d.protocol d.timeout a outcome := by
  cases h with
  | unusable => exact List.forall_mem_nil _
  | connected failures a rest =>
    refine List.forall_mem_append.2
      ⟨fun effort heffort => ?_, List.forall_mem_singleton.2 ⟨a, by simp, _, rfl⟩⟩
    obtain ⟨p, hp, rfl⟩ := List.mem_map.1 heffort
    exact ⟨p.1, List.mem_append_left _ (List.mem_map_of_mem hp), _, rfl⟩
  | failed failures last =>
    intro effort heffort
    obtain ⟨p, hp, rfl⟩ := List.mem_map.1 heffort
    exact ⟨p.1, List.mem_map_of_mem hp, _, rfl⟩

theorem Attempted.of_nil (h : Attempted d [] efforts r) :
    efforts = [] ∧ r = .error (noUsableAddress d.nameserver d.family) := by
  generalize has : ([] : List SocketAddress) = as at h
  cases h with
  | unusable => exact ⟨rfl, rfl⟩
  | connected failures a rest => simp at has
  | failed failures last => simp at has

theorem Dialed.holds (h : Dialed d efforts r) {protocol : Protocol} {timeout : Duration}
    {a : SocketAddress} {outcome : Except IoError Unit}
    (ha : .tried protocol timeout a outcome ∈ efforts) :
    d.family.holds a.ip = true := by
  have hattempted : ∀ {ips efforts}, Attempted d (usable d ips) efforts r →
      .tried protocol timeout a outcome ∈ efforts → d.family.holds a.ip = true := by
    intro ips efforts h ha
    obtain ⟨b, hb, _, heffort⟩ := h.tried _ ha
    cases heffort
    exact (List.mem_filter.1 hb).2
  cases h with
  | literal _ h => exact hattempted h ha
  | unspeakable => cases ha
  | unreported => simp at ha
  | reported _ _ h =>
    cases ha with
    | tail _ ha => exact hattempted h ha

end SystemDial

def Options.Requests (o : Options) (ip : IpAddress) : Prop := ip.isV4 = o.ipv4 ∧ ip.isV6 = o.ipv6

theorem Family.holds_ofOptions_iff {o : Options} (hone : o.ipv4 ≠ o.ipv6) (ip : IpAddress) :
    (Family.ofOptions o).holds ip = true ↔ o.Requests ip := by
  unfold Options.Requests Family.ofOptions
  cases h4 : o.ipv4 <;> cases h6 : o.ipv6 <;> cases ip <;>
    simp_all [Family.holds, IpAddress.isV4, IpAddress.isV6]

namespace Dialing

/-- The addresses that a connection can choose from: a literal, or what is reported for a name. -/
def Offers (x : Dialing) (ips : List IpAddress) : Prop :=
  (∃ ip, x.dial.nameserver.ip = some ip ∧ ips = [ip]) ∨
    x.dial.nameserver.ip = none ∧ x.efforts.head? = some (.asked x.dial.nameserver.host (.ok ips))

theorem Offers.attempted {x : Dialing} {ips : List IpAddress} (h : x.Offers ips)
    (hdialed : SystemDial.Dialed x.dial x.efforts x.outcome) :
    ∃ attempts, SystemDial.Attempted x.dial (SystemDial.usable x.dial ips) attempts x.outcome ∧
      (x.efforts = attempts ∨ x.efforts = .asked x.dial.nameserver.host (.ok ips) :: attempts) := by
  obtain ⟨d, efforts, outcome⟩ := x
  dsimp only [Offers] at h hdialed ⊢
  obtain ⟨ip, hip, rfl⟩ | ⟨hip, hhead⟩ := h
  · cases hdialed with
    | literal hip' hattempted =>
      cases hip.symm.trans hip'
      exact ⟨efforts, hattempted, .inl rfl⟩
    | unspeakable hip' _ | unreported hip' _ | reported hip' _ _ => cases hip.symm.trans hip'
  · cases hdialed with
    | literal hip' _ => cases hip.symm.trans hip'
    | unspeakable => cases hhead
    | unreported => cases hhead
    | reported _ _ hattempted =>
      cases hhead
      exact ⟨_, hattempted, .inr rfl⟩

/--
A connection to the nameserver that tries addresses of the requested family only. If there are none
it ends before the first attempt.
-/
structure Confined (o : Options) (ns : Nameserver) (x : Dialing) : Prop where
  nameserver_eq : x.dial.nameserver = ns
  dialed : SystemDial.Dialed x.dial x.efforts x.outcome
  requested : ∀ protocol timeout a outcome,
    .tried protocol timeout a outcome ∈ x.efforts → o.Requests a.ip
  unusable : ∀ ips, x.Offers ips → (∀ ip ∈ ips, ¬ o.Requests ip) →
    (∃ e, x.outcome = .error e ∧ e.kind = .notFound) ∧
    ∀ protocol timeout a outcome, .tried protocol timeout a outcome ∉ x.efforts

theorem For.confined {o : Options} (hone : o.ipv4 ≠ o.ipv6) {ns : Nameserver} {x : Dialing}
    (h : For ns (Family.ofOptions o) x) : x.Confined o ns := by
  have hholds : ∀ ip, x.dial.family.holds ip = true ↔ o.Requests ip := fun ip => by
    rw [h.family_eq, Family.holds_ofOptions_iff hone]
  refine ⟨h.nameserver_eq, h.dialed, fun _ _ _ _ ha => (hholds _).1 (h.dialed.holds ha),
    fun ips hoffers hnone => ?_⟩
  obtain ⟨attempts, hattempted, hefforts⟩ := hoffers.attempted h.dialed
  have hempty : SystemDial.usable x.dial ips = [] := by
    refine List.filter_eq_nil_iff.2 fun a ha => ?_
    obtain ⟨ip, hip, rfl⟩ := List.mem_map.1 ha
    exact fun hip' => hnone ip hip ((hholds ip).1 hip')
  rw [hempty] at hattempted
  obtain ⟨rfl, houtcome⟩ := hattempted.of_nil
  refine ⟨⟨_, houtcome, rfl⟩, fun _ _ _ _ ha => ?_⟩
  cases hefforts with
  | inl hefforts => simp [hefforts] at ha
  | inr hefforts => simp [hefforts] at ha

end Dialing

inductive Client where
  | classic (c : Classic)
  | encrypted (e : Encrypted)

namespace Client

def nameserver : Client → Nameserver
  | classic c => c.nameserver
  | encrypted e => e.nameserver

def send (env : Environment σ) : Client → Network → Bytes → Task σ Bytes
  | classic c => c.exchange env
  | encrypted e => e.send env

def lookup (env : Environment σ) : Client → Question → Task (Encrypted.State σ) Response
  | classic c, question => Encrypted.lift (c.lookup env question)
  | encrypted e, question => e.lookup env question

def transport : Client → Option DnsCrypt.Certificate → Transport σ
  | classic c, _ => .classic c
  | encrypted e, certificate => .encrypted e certificate

theorem lookup_transport (client : Client) (question : Question)
    (certificate : Option DnsCrypt.Certificate) (s : σ) :
    Transport.lookup env question (client.transport certificate, s) =
      let r := client.lookup env question (certificate, s)
      (r.1, client.transport r.2.1, r.2.2) := by
  cases client <;> rfl

inductive SetUp (o : Options) : Client → Prop where
  | classic {address : String} {tcp tls : Bool} {c : Classic} :
    Classic.ofAddress address tcp tls o = .ok c →
    SetUp o (.classic c)
  | encrypted {τ : Type} {env : Environment τ} {stamp : String} {tcp : Bool} {s t : τ}
    {e : Encrypted} :
    Encrypted.ofText env stamp tcp o s = (.ok e, t) → SetUp o (.encrypted e)

theorem family_of_ofAddress {address : String} {tcp tls : Bool} {o : Options} {c : Classic}
    (h : Classic.ofAddress address tcp tls o = .ok c) : c.network.family = Family.ofOptions o := by
  unfold Classic.ofAddress at h
  cases hns : Nameserver.ofText? (Classic.withoutScheme address) Classic.defaultPort with
  | none =>
    simp only [hns] at h
    cases h
  | some ns =>
    simp only [hns] at h
    split at h
    · split at h <;> cases h
      rfl
    · cases h
      rfl

theorem family_of_ofText {τ : Type} {env : Environment τ} {stamp : String} {tcp : Bool}
    {o : Options} {s t : τ} {e : Encrypted} (h : Encrypted.ofText env stamp tcp o s = (.ok e, t)) :
    e.network.family = Family.ofOptions o ∧ e.options = o := by
  obtain ⟨_, _, -, h⟩ := Task.exists_of_bind (congrArg Prod.fst h)
  obtain ⟨_, _, -, h⟩ := Task.exists_of_bind h
  cases h
  exact ⟨rfl, rfl⟩

variable (env connect) in
theorem send_dials {o : Options} (hone : o.ipv4 ≠ o.ipv6) (client : Client) {network : Network}
    (hfamily : network.family = Family.ofOptions o) (message : Bytes) :
    (client.send (env.dialing connect) network message).DialsOnce
      (Dialing.Confined o client.nameserver) := by
  have hfor : (client.send (env.dialing connect) network message).DialsOnce
      (For client.nameserver (Family.ofOptions o)) := by
    rw [← hfamily]
    cases client with
    | classic c => exact c.exchange_dials network message
    | encrypted e => exact e.send_dials network message
  intro s
  obtain ⟨x, hlog, hx, hfails⟩ := hfor s
  exact ⟨x, hlog, hx.confined hone, hfails⟩

variable (env connect) in
theorem SetUp.lookup_dials {o : Options} (hone : o.ipv4 ≠ o.ipv6) {client : Client}
    (h : client.SetUp o) (question : Question) :
    (client.lookup (env.dialing connect) question).Dials Encrypted.dialings
      (Dialing.Confined o client.nameserver) := by
  cases h with
  | @classic address tcp tls c h =>
    have hdials : (c.lookup (env.dialing connect) question).Dials Prod.fst
        (For c.nameserver c.network.family) :=
      c.lookup_dials question
    rw [family_of_ofAddress h] at hdials
    exact Encrypted.lift_dials (hdials.imp fun x hx => hx.confined hone)
  | @encrypted _ _ stamp tcp _ _ e h =>
    obtain ⟨hfamily, hoptions⟩ := family_of_ofText h
    have hdials : (e.lookup (env.dialing connect) question).Dials Encrypted.dialings
        (For e.nameserver e.network.family) := e.lookup_dials (by rw [hfamily, hoptions]) question
    rw [hfamily] at hdials
    exact hdials.imp fun x hx => hx.confined hone

theorem lookup_views {τ : Type} {view : τ → σ} {fine : Environment τ} (h : fine.Views view env)
    (client : Client) (question : Question) :
    Task.Views (Encrypted.seen view) (client.lookup fine question)
    (client.lookup env question) := by
  cases client with
  | classic c => exact Encrypted.lift_views (c.lookup_views h question)
  | encrypted e => exact e.lookup_views h question

/-- A lookup, or a change of the outside world that the client has no part in. -/
inductive Event (σ : Type) where
  | lookup (question : Question)
  | move (outside : σ → σ)

def Event.beside {ω : Type} : Event σ → Event (ω × σ)
  | lookup question => .lookup question
  | move outside => .move (Prod.map id outside)

def step (env : Environment σ) (client : Client) (s : Encrypted.State σ) :
    Event σ → Encrypted.State σ
  | .lookup question => (client.lookup env question s).2
  | .move outside => (s.1, outside s.2)

def after (env : Environment σ) (client : Client) (history : List (Event σ))
    (s : Encrypted.State σ) :
    Encrypted.State σ :=
  history.foldl (step env client) s

def recordedAfter (env : Environment σ)
    (connect : Protocol → Duration → SocketAddress → Action σ IoError Unit) (client : Client)
    (history : List (Event σ)) (certificate : Option DnsCrypt.Certificate) (s : σ) :
    Encrypted.State (List Dialing × σ) :=
  after (env.dialing connect) client (history.map Event.beside) (certificate, [], s)

theorem after_views (client : Client) (history : List (Event σ))
    (s : Encrypted.State (List Dialing × σ)) :
    after (env.overSockets connect) client history (Encrypted.seen Prod.snd s) =
      Encrypted.seen Prod.snd
        (after (env.dialing connect) client (history.map Event.beside) s) := by
  induction history generalizing s with
  | nil => rfl
  | cons event history ih =>
    rw [after, List.foldl_cons, List.map_cons, after, List.foldl_cons]
    have hstep : step (env.overSockets connect) client (Encrypted.seen Prod.snd s) event =
        Encrypted.seen Prod.snd (step (env.dialing connect) client s event.beside) := by
      cases event with
      | lookup question =>
        exact congrArg Prod.snd (lookup_views (env.views_dialing connect) client question s)
      | move outside => rfl
    rw [hstep]
    exact ih _

variable {o : Options} {client : Client}

theorem confined_step (hone : o.ipv4 ≠ o.ipv6) (hclient : client.SetUp o)
    {s : Encrypted.State (List Dialing × σ)}
    (hs : ∀ x ∈ Encrypted.dialings s, x.Confined o client.nameserver) (event : Event σ) :
    ∀ x ∈ Encrypted.dialings (step (env.dialing connect) client s event.beside),
      x.Confined o client.nameserver := by
  cases event with
  | lookup question =>
    obtain ⟨xs, hxs, hended⟩ := hclient.lookup_dials env connect hone question s
    rw [Event.beside, step, hxs]
    exact List.forall_mem_append.2 ⟨hs, hended.forall⟩
  | move outside => exact hs

theorem confined_after (hone : o.ipv4 ≠ o.ipv6) (hclient : client.SetUp o)
    (history : List (Event σ)) {s : Encrypted.State (List Dialing × σ)}
    (hs : ∀ x ∈ Encrypted.dialings s, x.Confined o client.nameserver) :
    ∀ x ∈ Encrypted.dialings (after (env.dialing connect) client (history.map Event.beside) s),
      x.Confined o client.nameserver := by
  induction history generalizing s with
  | nil => exact hs
  | cons event history ih =>
    rw [List.map_cons, after, List.foldl_cons]
    exact ih (confined_step hone hclient hs event)

/--
Whatever a client looks up, in whatever order, and however the outside world changes meanwhile: the
addresses that it tries are of the one family that it was set up for. Each message takes one
connection; if that fails, it is the last one of its lookup, and both fail as it did.
-/
theorem lookups_confined (env : Environment σ)
    (connect : Protocol → Duration → SocketAddress → Action σ IoError Unit) (hone : o.ipv4 ≠ o.ipv6)
    (hclient : client.SetUp o) (history : List (Event σ))
    (certificate : Option DnsCrypt.Certificate) (s : σ) (question : Question) :
    let now := recordedAfter env connect client history certificate s
    let next := client.lookup (env.dialing connect) question now
    Encrypted.seen Prod.snd now = after (env.overSockets connect) client history (certificate, s) ∧
      next.map id (Encrypted.seen Prod.snd) =
        client.lookup (env.overSockets connect) question (Encrypted.seen Prod.snd now) ∧
      (∀ x ∈ Encrypted.dialings now, x.Confined o client.nameserver) ∧
      (∃ xs, Encrypted.dialings next.2 = Encrypted.dialings now ++ xs ∧
        Dialing.Ended (Dialing.Confined o client.nameserver) xs next.1) ∧
      ∀ network message, network.family = Family.ofOptions o →
        let sent := client.send (env.dialing connect) network message now.2
        ∃ x, sent.2.1 = Encrypted.dialings now ++ [x] ∧ x.Confined o client.nameserver ∧
          ∀ e, x.outcome = .error e → sent.1 = .error (.io e) := by
  intro now next
  refine ⟨(after_views client history (certificate, [], s)).symm, ?_, ?_, ?_,
    fun network message hfamily => ?_⟩
  · exact (lookup_views (env.views_dialing connect) client question now).symm
  · exact confined_after hone hclient history (List.forall_mem_nil _)
  · exact hclient.lookup_dials env connect hone question now
  · exact send_dials env connect hone client hfamily message now.2

def cutReply (query : Bytes) : Bytes := query.take 2 ++ [0x83, 0x80, 0, 0, 0, 0, 0, 0, 0, 0]

/--
The host has an IPv4 address, an IPv6 address that refuses connections and one that accepts them.
The datagram is answered by a truncated reply, and so is the stream after it.
-/
theorem lookups_confined_escalated :
    let o : Options := { Options.default with ipv6 := true }
    let refusing : IpAddress := .v6 ⟨0x2001, 0xdb8, 0, 0, 0, 0, 0, 1⟩
    let accepting : IpAddress := .v6 ⟨0x2001, 0xdb8, 0, 0, 0, 0, 0, 2⟩
    let reported : List IpAddress := [.v4 ⟨192, 0, 2, 1⟩, refusing, accepting]
    let env : Environment Entropy :=
      { Environment.serving cutReply none true with hostAddresses := fun _ s => (.ok reported, s) }
    let connect : Protocol → Duration → SocketAddress → Action Entropy IoError Unit :=
      fun _ _ a s => (if a.ip = refusing then .error .connectionRefused else .ok (), s)
    let c : Classic := ⟨⟨"ns.example", none, 53⟩, ⟨.udp, .v6, false⟩, o, none⟩
    let s : Entropy := ⟨fun _ => 7, 0⟩
    let now := recordedAfter env connect (.classic c) [.move id] none s
    let next := (classic c).lookup (env.dialing connect) (.internet "a." .a) now
    let dialing (protocol : Protocol) : Dialing := ⟨⟨protocol, c.nameserver, .v6, o.timeout⟩,
      [.asked "ns.example" (.ok reported),
        .tried protocol o.timeout ⟨refusing, 53⟩ (.error .connectionRefused),
        .tried protocol o.timeout ⟨accepting, 53⟩ (.ok ())], .ok ⟨accepting, 53⟩⟩
    o.ipv4 ≠ o.ipv6 ∧ (classic c).SetUp o ∧
        (∃ xs, Encrypted.dialings next.2 = Encrypted.dialings now ++ xs ∧
        Dialing.Ended (Dialing.Confined o c.nameserver) xs next.1) ∧
      Encrypted.dialings next.2 = [dialing .udp, dialing .tcp] ∧ next.1 = .error .truncated := by
  intro o refusing accepting reported env connect c s now next dialing
  have hone : o.ipv4 ≠ o.ipv6 := by decide
  have haddress : Classic.ofAddress "ns.example" false false o = .ok c := by decide +kernel
  have hclient : (classic c).SetUp o := .classic haddress
  refine ⟨hone, hclient, ?_, ?_, ?_⟩
  · exact (lookups_confined env connect hone hclient [.move id] none s (.internet "a." .a)).2.2.2.1
  · decide +kernel
  · decide +kernel

end Client

end StubResolver
