import StubResolver.Proofs.Base64Url
import StubResolver.Proofs.Frame
import StubResolver.Proofs.Recording
import StubResolver.Proofs.Session

set_option autoImplicit false

namespace StubResolver

open DnsCrypt (Certificate ClientKeys Session)
open StubResolver.Task (Gives)

variable {σ : Type} (env : Environment σ) (f : Bytes → Bytes)

def Connects : Prop := ∀ d s, (env.dial d s).1 = .ok ()

def AnswersStream : Prop :=
  ∀ query frame s, Frame.write query = .ok frame →
    ∃ reply tail, Frame.write (f query) = .ok reply ∧ (env.stream frame s).1 = .ok (reply ++ tail)

def AnswersDatagrams : Prop := ∀ query s, (env.datagram query s).1 = .ok (f query)

def AnswersPost (url : Url) : Prop :=
  ∀ request s, request.method = .post → request.url = url →
    ∃ reason, (env.http request s).1 = .ok ⟨200, reason, .ok (f request.body)⟩

/-- The server does not allow POST, and takes the query from a parameter of the URL. -/
structure AnswersGet (url : Url) : Prop where
  post : ∀ request s, request.method = .post → request.url = url →
    ∃ reason body, (env.http request s).1 = .ok ⟨405, reason, body⟩
  get : ∀ request s parameter query, request.method = .get →
    request.url = url.withParameter "dns" parameter →
    Text.Base64Url.decode (Bytes.ofString parameter) = .ok query →
    ∃ reason, (env.http request s).1 = .ok ⟨200, reason, .ok (f query)⟩

/-- The peer operates the resolver with the certificate `k`: it decrypts what it
can, and encrypts its replies. -/
def AnswersEncrypted (k : Certificate) : Prop :=
  ∀ packet frame query session s, Frame.write packet = .ok frame →
    DnsCrypt.decryptQuery k packet = .ok (query, session) →
    ∃ (entropy : Entropy) (reply tail : Bytes),
      Frame.write (session.encryptResponse Entropy.draw (f query) entropy).1 = .ok reply ∧
      (env.stream frame s).1 = .ok (reply ++ tail)

variable {env f}

theorem gives_dial (h : Connects env) (d : Dial) : Gives (fun _ => True) (Task.io (env.dial d)) :=
  .ofAction fun s => ⟨(), h d s, trivial⟩

def Brings (env : Environment σ) (frame : Bytes) (P : Bytes → Prop) : Prop :=
  ∀ s, ∃ m reply tail, P m ∧ Frame.write m = .ok reply ∧
    (env.stream frame s).1 = .ok (reply ++ tail)

theorem gives_framed {frame : Bytes} {P : Bytes → Prop} (h : Brings env frame P) :
    Gives P (Exchange.framed env frame) := by
  intro s
  obtain ⟨m, reply, tail, hm, hreply, hstream⟩ := h s
  refine ⟨m, ?_, hm⟩
  rw [Exchange.framed_apply, Exchange.unframed, hstream]
  simp [bind, Except.bind, Frame.read_append_of_write hreply, Except.map, Except.mapError]

theorem gives_tcp (hc : Connects env) {query frame : Bytes} (hq : Frame.write query = .ok frame)
    {P : Bytes → Prop} (h : Brings env frame P) (ns : Nameserver) (family : Family)
    (timeout : Duration) :
    Gives P (Exchange.tcp env ns family timeout query) :=
  .bind (gives_dial hc _) fun _ _ => .bind (.ofExcept hq rfl) fun _ hf => by
    subst hf
    exact gives_framed h

theorem gives_tls (hc : Connects env) {name : String}
    (hh : ∀ verify s, (env.handshake name verify s).1 = .ok ()) {query frame : Bytes}
    (hq : Frame.write query = .ok frame) {P : Bytes → Prop} (h : Brings env frame P)
    (ns : Nameserver) (family : Family) (timeout : Duration) (verify : Bool) :
    Gives P (Exchange.tls env ns family timeout name verify query) :=
  .bind (gives_dial hc _) fun _ _ => .bind (.ofExcept hq rfl) fun _ hf => by
    subst hf
    have hhandshake : Gives (fun _ => True) (Task.io (env.handshake name verify)) :=
      .ofAction fun s => ⟨(), hh verify s, trivial⟩
    exact .bind hhandshake fun _ _ => gives_framed h

theorem gives_udp (hc : Connects env) (h : AnswersDatagrams env f) (ns : Nameserver)
    (family : Family) (timeout : Duration) (query : Bytes) :
    Gives (· = f query) (Exchange.udp env ns family timeout query) :=
  .bind (gives_dial hc _) fun _ _ => .ofAction fun s => ⟨_, h query s, rfl⟩

theorem brings_of_answersStream (h : AnswersStream env f) {query frame : Bytes}
    (hq : Frame.write query = .ok frame) : Brings env frame (· = f query) := by
  intro s
  obtain ⟨reply, tail, hreply, hstream⟩ := h query frame s hq
  exact ⟨_, reply, tail, rfl, hreply, hstream⟩

theorem gives_post {text : String} {url : Url} (hurl : Url.ofText text = .ok url)
    (h : AnswersPost env f url) (query : Bytes) :
    Gives (· = f query) (Exchange.https env text query) := by
  intro s
  obtain ⟨reason, hpost⟩ : ∃ reason, (env.http (Exchange.posted url query) s).1 =
      .ok ⟨200, reason, .ok (f query)⟩ :=
    h (Exchange.posted url query) s rfl rfl
  refine ⟨f query, ?_, rfl⟩
  rw [Exchange.https_of_url hurl]
  simp [hpost, Exchange.ofHttp, Except.mapError]

theorem gives_get {text : String} {url : Url} (hurl : Url.ofText text = .ok url)
    (h : AnswersGet env f url) (query : Bytes) :
    Gives (· = f query) (Exchange.https env text query) := by
  intro s
  obtain ⟨reason, body, hpost⟩ := h.post (Exchange.posted url query) s rfl rfl
  obtain ⟨reason', hget⟩ :=
    h.get (Exchange.asParameter url query) (env.http (Exchange.posted url query) s).2 _ query
    rfl rfl (Text.Base64Url.decode_encode query)
  refine ⟨f query, ?_, rfl⟩
  rw [Exchange.https_of_url hurl]
  simp [hpost, hget, Exchange.ofHttp, Except.mapError]

theorem gives_lift {α : Type} {P : α → Prop} {task : Task σ α} (h : Gives P task) :
    Gives P (Encrypted.lift task) := fun s => h s.2

/-- A packet for the operator of `k` brings a reply that opens in the session of the packet. -/
theorem brings_of_answersEncrypted {k : Certificate} (hk : k.Operable)
    (h : AnswersEncrypted env f k) {secret : Octets 32} {query packet frame : Bytes}
    {session : Session}
    (hp : DnsCrypt.Encrypts k.withoutSecret (.ofSecret secret) query packet session)
    (hframe : Frame.write packet = .ok frame) :
    Brings env frame fun reply => session.decryptResponse reply = .ok (f query) := by
  intro s
  obtain ⟨entropy, reply, tail, hreply, hstream⟩ :=
    h packet frame query session s hframe (DnsCrypt.decryptQuery_of_encrypts hk hp)
  exact ⟨_, reply, tail, DnsCrypt.decryptResponse_encryptResponse _ session _ entropy,
    hreply, hstream⟩

theorem gives_encrypted {e : Encrypted} {k : Certificate} {secret : Octets 32} (hc : Connects env)
    (hk : k.Operable) (h : AnswersEncrypted env f k) (hkeys : e.keys = .ofSecret secret)
    {network : Network} (hn : network.isStream = true) {query : Bytes} (hmin : 17 ≤ query.length)
    (hmax : query.length ≤ 65407) :
    Gives (· = f query) (e.exchange env k.withoutSecret network query) := by
  have hpacket : Gives (fun p => DnsCrypt.Encrypts k.withoutSecret (.ofSecret secret) query p.1 p.2)
      (Task.ofAction .dnsCrypt (DnsCrypt.encryptQuery env.random k.withoutSecret e.keys query)) :=
    .ofAction fun s => by
      obtain ⟨packet, session, t, hencrypt⟩ := DnsCrypt.encryptQuery_of_length env.random
        k.withoutSecret e.keys hk.construction hmin hmax s
      rw [hkeys] at hencrypt ⊢
      rw [hencrypt]
      exact ⟨_, rfl, DnsCrypt.encrypts_of_encryptQuery (congrArg Prod.fst hencrypt)⟩
  refine .bind (gives_lift hpacket) ?_
  rintro ⟨packet, session⟩ hencrypts
  have hframe := Frame.write_of_length_lt (Nat.lt_succ_of_le hencrypts.fits)
  have hsend : Gives (fun reply => session.decryptResponse reply = .ok (f query))
      (e.send env network packet) := by
    rw [Encrypted.send, if_pos hn]
    exact gives_tcp hc hframe (brings_of_answersEncrypted hk h hencrypts hframe) _ _ _
  refine .bind (gives_lift hsend) ?_
  intro reply hreply
  rw [hreply]
  exact .pure rfl

end StubResolver
