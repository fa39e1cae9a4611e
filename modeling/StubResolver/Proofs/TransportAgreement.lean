import StubResolver.Proofs.Peer
import StubResolver.Proofs.Reader
import StubResolver.Proofs.Responder

set_option autoImplicit false

namespace StubResolver

open DnsCrypt (Certificate ClientKeys)
open StubResolver.Task (Gives)

variable {σ : Type} (env : Environment σ) (f : Bytes → Bytes)

inductive Reaches (o : Options) (s : σ) : Transport σ → Prop where
  | datagrams {c : Classic} : c.options = o → c.network.protocol = .udp → c.network.tls = false →
    Connects env → AnswersDatagrams env f → Inquiry.NeverTruncates f → Reaches o s (.classic c)
  | stream {c : Classic} : c.options = o → c.network.protocol = .tcp → c.network.tls = false →
    Connects env → AnswersStream env f → Reaches o s (.classic c)
  | tls {c : Classic} {name : String} : c.options = o → c.network.protocol = .tcp →
    c.network.tls = true → c.serverName = some name → Connects env →
    (∀ verify s, (env.handshake name verify s).1 = .ok ()) → AnswersStream env f →
    Reaches o s (.classic c)
  | post {h : Https} {url : Url} : h.options = o → Url.ofText h.url = .ok url →
    AnswersPost env f url → Reaches o s (.https h)
  | get {h : Https} {url : Url} : h.options = o → Url.ofText h.url = .ok url →
    AnswersGet env f url → Reaches o s (.https h)
  | encrypted {e : Encrypted} {k : Certificate} {secret : Octets 32} : e.options = o →
    e.network.protocol = .tcp → e.keys = .ofSecret secret → Connects env → k.Operable →
    k.validAt (env.now s) = true → AnswersEncrypted env f k →
    Reaches o s (.encrypted e (some k.withoutSecret))

variable {env f}

def outcome (f : Bytes → Bytes) (o : Options) (question : Question) (ids : Nat → UInt16) :
    Except Error Response :=
  (Inquiry.run (fun _ => .zero) (fun _ query => pure (f query)) o
    ⟨.tcp, .any, false⟩ "" question ids
    ()).1.map Response.unplaced

theorem run_outcome {elapsed : σ → Duration}
    {exchange : Network → Bytes → Task σ Bytes} {o : Options} {network : Network}
    {question : Question} {ids : Nat → UInt16}
    (h : ∀ query : Bytes, 17 ≤ query.length → query.length ≤ 273 →
      Gives (· = f query) (exchange network query))
    (hn : network.isStream = true ∨ Inquiry.NeverTruncates f) (server : String) (s : σ) :
    (Inquiry.run elapsed exchange o network server question ids s).1.map Response.unplaced =
      outcome f o question ids := by
  refine Inquiry.run_unplaced _ _ _ _ (fun qs hqs q hq => ?_) (fun _ _ _ _ _ => ⟨_, rfl, rfl⟩) hn
    (.inl rfl) _ _
  obtain ⟨hmin, hmax⟩ := Candidate.length_encode_of_mem hqs hq
  exact h _ hmin hmax

theorem classic_outcome {c : Classic} {o : Options} (ho : c.options = o)
    (h : ∀ query : Bytes, query.length < 65536 →
      Gives (· = f query) (c.exchange env c.network query))
    (hn : c.network.isStream = true ∨ Inquiry.NeverTruncates f) (question : Question) (s : σ) :
    (c.lookup env question s).1.map Response.unplaced =
      outcome f o question (env.queryIds s).1 := by
  rw [Classic.lookup, Task.bind_apply, ho]
  exact run_outcome (fun query _ hmax => h query (by omega)) hn _ _

theorem https_outcome {h : Https} {o : Options} (ho : h.options = o)
    (hx : ∀ query, Gives (· = f query) (Exchange.https env h.url query))
    (question : Question) (s : σ) :
    (h.lookup env question s).1.map Response.unplaced =
      outcome f o question (env.queryIds s).1 := by
  have hstream : Https.network.isStream = true := rfl
  rw [Https.lookup, Task.bind_apply, ho]
  refine run_outcome ?_ (.inl hstream) _ _
  exact fun query _ _ => hx query

theorem lookup_outcome {o : Options} {s : σ} {t : Transport σ} (h : Reaches env f o s t)
    (question : Question) :
    (Transport.lookup env question (t, s)).1.map Response.unplaced =
      outcome f o question (env.queryIds s).1 := by
  cases h with
  | @datagrams c ho hudp htls hc ha hf =>
    refine classic_outcome ho (fun query _ => ?_) (.inr hf) question s
    have hstream : ¬ c.network.isStream = true := by simp [Network.isStream, hudp]
    simp only [Classic.exchange, htls, if_neg hstream]
    exact gives_udp hc ha _ _ _ query
  | @stream c ho htcp htls hc ha =>
    have hstream : c.network.isStream = true := by simp [Network.isStream, htcp]
    refine classic_outcome ho (fun query hlen => ?_) (.inl hstream) question s
    have hq := Frame.write_of_length_lt hlen
    simp only [Classic.exchange, htls, if_pos hstream]
    exact gives_tcp hc hq (brings_of_answersStream ha hq) _ _ _
  | @tls c name ho htcp htls hname hc hh ha =>
    have hstream : c.network.isStream = true := by simp [Network.isStream, htcp]
    refine classic_outcome ho (fun query hlen => ?_) (.inl hstream) question s
    have hq := Frame.write_of_length_lt hlen
    simp only [Classic.exchange, htls, hname]
    exact gives_tls hc hh hq (brings_of_answersStream ha hq) _ _ _ _
  | post ho hurl ha => exact https_outcome ho (gives_post hurl ha) question s
  | get ho hurl ha => exact https_outcome ho (gives_get hurl ha) question s
  | @encrypted e k secret ho htcp hkeys hc hk hvalid ha =>
    have hstream : e.network.isStream = true := by simp [Network.isStream, htcp]
    have hheld : k.withoutSecret.validAt (env.now s) = true := hvalid
    have hcertificate : e.certificate env (some k.withoutSecret, s) =
        (.ok k.withoutSecret, (some k.withoutSecret, s)) := by
      simp [Encrypted.certificate, Option.filter, hheld]
    have hlookup : (e.lookup env question (some k.withoutSecret, s)).1.map Response.unplaced =
        outcome f o question (env.queryIds s).1 := by
      rw [Encrypted.lookup, Task.bind_of_ok hcertificate, Task.bind_apply, ho]
      refine run_outcome ?_ (.inl hstream) _ _
      exact fun query hmin hmax => gives_encrypted hc hk ha hkeys hstream hmin (by omega)
    exact hlookup

variable {τ : Type} {env' : Environment τ}

/-- Any two transports agree on a question if their peers answer by the same function: the result is
the one that its replies come to. -/
theorem Transport.lookup_agree {o : Options} {s : σ} {s' : τ} {t : Transport σ} {t' : Transport τ}
    (h : Reaches env f o s t) (h' : Reaches env' f o s' t')
    (hids : (env.queryIds s).1 = (env'.queryIds s').1) (question : Question) :
    let result := (lookup env question (t, s)).1.map Response.unplaced
    result = outcome f o question (env.queryIds s).1 ∧
      result = (lookup env' question (t', s')).1.map Response.unplaced := by
  intro result
  have hresult : result = outcome f o question (env.queryIds s).1 := lookup_outcome h question
  refine ⟨hresult, ?_⟩
  rw [hresult, lookup_outcome h' question, hids]

namespace Environment

def conversation (reply : Bytes → Except IoError (Bytes × Entropy)) (written : Bytes) :
    Except IoError (Bytes × Entropy) := do
  let (message, _) ← Frame.read written
  let (answer, entropy) ← reply message
  return (← Frame.write answer, entropy)

/-- A peer that answers by `f`. With a certificate, it takes what comes on a stream for packets. -/
def serving (f : Bytes → Bytes) (operator : Option Certificate) (allowsPost : Bool) :
    Environment Entropy where
  dial := fun _ s => (.ok (), s)
  handshake := fun _ _ s => (.ok (), s)
  datagram := fun query s => (.ok (f query), s)
  stream := fun written s =>
    let reply (message : Bytes) : Except IoError (Bytes × Entropy) :=
      match operator with
      | none => .ok (f message, s)
      | some k =>
        match DnsCrypt.decryptQuery k message with
        | .ok (query, session) => .ok (session.encryptResponse Entropy.draw (f query) s)
        | .error _ => .error .endOfStream
    match conversation reply written with
    | .ok (received, s) => (.ok received, s)
    | .error e => (.error e, s)
  http := fun r s =>
    match r.method, allowsPost with
    | .post, true => (.ok ⟨200, "OK", .ok (f r.body)⟩, s)
    | .post, false => (.ok ⟨405, "Method Not Allowed", .ok []⟩, s)
    | .get, _ =>
      -- Behind the name of the parameter and its equals sign.
      let parameter := String.ofList ((r.url.query.getD "").toList.drop 4)
      match Text.Base64Url.decode (Bytes.ofString parameter) with
      | .ok query => (.ok ⟨200, "OK", .ok (f query)⟩, s)
      | .error _ => (.ok ⟨400, "Bad Request", .ok []⟩, s)
  hostAddresses := fun _ s => (.error .unknownHost, s)
  elapsed := fun _ => .zero
  wallClock := fun _ => 5
  queryIds := fun s => (fun i => UInt16.ofNat i, s)
  random := Entropy.draw

variable (operator : Option Certificate) (allowsPost : Bool)

theorem answersStream_serving {f : Bytes → Bytes} (hf : ∀ query, (f query).length < 65536) :
    AnswersStream (serving f none allowsPost) f := by
  intro query frame s hframe
  have hread : Frame.read frame = .ok (query, []) := by
    simpa using Frame.read_append_of_write hframe []
  have hreply := Frame.write_of_length_lt (hf query)
  refine ⟨_, [], hreply, ?_⟩
  simp [serving, conversation, hread, hreply, bind, Except.bind, pure, Except.pure]

theorem answersPost_serving (f : Bytes → Bytes) (url : Url) :
    AnswersPost (serving f operator true) f url := by
  intro request s hmethod _
  exact ⟨"OK", by simp [serving, hmethod]⟩

theorem answersGet_serving (f : Bytes → Bytes) {url : Url} (hurl : url.query = none) :
    AnswersGet (serving f operator false) f url := by
  constructor
  · intro request s hmethod _
    exact ⟨"Method Not Allowed", .ok [], by simp [serving, hmethod]⟩
  · intro request s parameter query hmethod hrequest hquery
    refine ⟨"OK", ?_⟩
    simp [serving, hmethod, hrequest, Url.withParameter, hurl, hquery]

theorem answersEncrypted_serving {f : Bytes → Bytes} (hf : ∀ query, (f query).length ≤ 65407)
    (k : Certificate) : AnswersEncrypted (serving f (some k) allowsPost) f k := by
  intro packet frame query session s hframe hquery
  have hread : Frame.read frame = .ok (packet, []) := by
    simpa using Frame.read_append_of_write hframe []
  have hlen : (session.encryptResponse Entropy.draw (f query) s).1.length < 65536 := by
    have hf := hf query
    rw [DnsCrypt.length_encryptResponse]
    simp only [DnsCrypt.Padding.paddedSize, DnsCrypt.Padding.blockSize]
    omega
  have hreply := Frame.write_of_length_lt hlen
  refine ⟨s, _, [], hreply, ?_⟩
  simp [serving, conversation, hread, hquery, hreply, bind, Except.bind, pure, Except.pure]

end Environment

namespace Transport

/-- The identifier of the query and one address of the root, `192.0.2.1`. -/
def addressReply (query : Bytes) : Bytes :=
  query.take 2 ++ [0x81, 0x80, 0, 0, 0, 1, 0, 0, 0, 0] ++
    [0, 0, 1, 0, 1, 0, 0, 0, 60, 0, 4, 192, 0, 2, 1]

theorem length_addressReply (query : Bytes) : (addressReply query).length ≤ 27 := by
  simp [addressReply]

theorem neverTruncates_addressReply : Inquiry.NeverTruncates addressReply := by
  intro query h rest hread
  -- A query shorter than an identifier shifts the flags, but not onto the bit.
  have hflags : ((addressReply query).drop 2).take 2 ∈
      ([[0x81, 0x80], [0x80, 0], [0, 0]] : List Bytes) := by
    match query with
    | [] => simp [addressReply]
    | [a] => simp [addressReply]
    | a :: b :: query => simp [addressReply]
  have hclear : ∀ flags ∈ ([[0x81, 0x80], [0x80, 0], [0, 0]] : List Bytes),
      (Bytes.toUInt16 flags &&& 0x0200 != 0) = false := by decide
  rw [Header.truncated_of_read hread]
  exact hclear _ hflags

theorem lookup_agree_served :
    let o := Options.default
    let s : Entropy := ⟨fun _ => 7, 0⟩
    let k := (Certificate.generate Entropy.draw 1 .xChaCha20Poly1305 0 10 s).1
    let server : Nameserver := ⟨"192.0.2.1", some (.v4 ⟨192, 0, 2, 1⟩), 53⟩
    let plain := Environment.serving addressReply none true
    let strict := Environment.serving addressReply none false
    let operated := Environment.serving addressReply (some k) true
    let datagrams : Transport Entropy := .classic ⟨server, ⟨.udp, .any, false⟩, o, none⟩
    let stream : Transport Entropy := .classic ⟨server, ⟨.tcp, .any, false⟩, o, none⟩
    let tls : Transport Entropy := .classic ⟨server, ⟨.tcp, .any, true⟩, o, some "a.example"⟩
    let https : Transport Entropy := .https ⟨"https://[::1]/dns-query", o⟩
    let encrypted : Transport Entropy := .encrypted
      ⟨⟨0, "192.0.2.1", .zero 32, "2.dnscrypt-cert.example"⟩, server, ⟨.tcp, .any, false⟩,
        (ClientKeys.generate Entropy.draw s).1, o⟩ (some k.withoutSecret)
    let question := Question.internet "a." .a
    let result (env : Environment Entropy) (t : Transport Entropy) :=
      (lookup env question (t, s)).1.map Response.unplaced
    let address : Except Error Response :=
      .ok ⟨[question], [⟨".", "A", "IN", "60s", "192.0.2.1", "NOERROR", "", ""⟩], []⟩
    Reaches plain addressReply o s stream ∧ result plain stream = address ∧
      Reaches plain addressReply o s datagrams ∧ result plain datagrams = address ∧
      Reaches plain addressReply o s tls ∧ result plain tls = address ∧
      Reaches plain addressReply o s https ∧ result plain https = address ∧
      Reaches strict addressReply o s https ∧ result strict https = address ∧
      Reaches operated addressReply o s encrypted ∧ result operated encrypted = address := by
  intro o s k server plain strict operated datagrams stream tls https encrypted
    question result address
  have hlen : ∀ query, (addressReply query).length ≤ 65407 := fun query =>
    (length_addressReply query).trans (by decide)
  have hframe : ∀ query, (addressReply query).length < 65536 := fun query =>
    Nat.lt_of_le_of_lt (hlen query) (by decide)
  have hstream : Reaches plain addressReply o s stream :=
    .stream rfl rfl rfl (fun _ _ => rfl) (Environment.answersStream_serving true hframe)
  have hdatagrams : Reaches plain addressReply o s datagrams :=
    .datagrams rfl rfl rfl (fun _ _ => rfl) (fun _ _ => rfl) neverTruncates_addressReply
  have htls : Reaches plain addressReply o s tls :=
    .tls rfl rfl rfl rfl (fun _ _ => rfl) (fun _ _ => rfl)
      (Environment.answersStream_serving true hframe)
  have hurl : Url.ofText "https://[::1]/dns-query" =
      .ok ⟨"", "[::1]", 443, "/dns-query", none, none⟩ := by
    rfl
  have hpost : Reaches plain addressReply o s https :=
    .post rfl hurl (Environment.answersPost_serving none addressReply _)
  have hget : Reaches strict addressReply o s https :=
    .get rfl hurl (Environment.answersGet_serving none addressReply rfl)
  have hencrypted : Reaches operated addressReply o s encrypted :=
    .encrypted rfl rfl rfl (fun _ _ => rfl) ⟨by simp [k, Certificate.generate], rfl⟩ rfl
      (Environment.answersEncrypted_serving true hlen k)
  have houtcome : outcome addressReply .default (.internet "a." .a) (fun i => UInt16.ofNat i) =
      .ok ⟨[.internet "a." .a], [⟨".", "A", "IN", "60s", "192.0.2.1", "NOERROR", "", ""⟩], []⟩ := by
    rfl
  have haddress : result plain stream = address :=
    (lookup_agree hstream hstream rfl question).1.trans houtcome
  refine ⟨hstream, haddress, hdatagrams, ?_, htls, ?_, hpost, ?_, hget, ?_, hencrypted, ?_⟩
  · exact (lookup_agree hdatagrams hstream rfl question).2.trans haddress
  · exact (lookup_agree htls hstream rfl question).2.trans haddress
  · exact (lookup_agree hpost hstream rfl question).2.trans haddress
  · exact (lookup_agree hget hstream rfl question).2.trans haddress
  · exact (lookup_agree hencrypted hstream rfl question).2.trans haddress

end Transport

end StubResolver
