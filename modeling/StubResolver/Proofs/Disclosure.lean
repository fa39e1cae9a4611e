import StubResolver.Proofs.CertificateUse
import StubResolver.Proofs.Concurrence
import StubResolver.Proofs.TransportAgreement

/-!
What lookups let out. Through TLS nothing is written before a handshake. An encrypted lookup asks
for certificates in plain text, and the question has no part in that; all else it seals for a
certificate that the provider signed.
-/

set_option autoImplicit false

namespace StubResolver

namespace Classic

open Exchange (SentSecurely)

variable {σ : Type}

theorem ofAddress_tls {address : String} {tcp : Bool} {o : Options} {c : Classic}
    (h : ofAddress address tcp true o = .ok c) :
    c.network.tls = true ∧ ∃ name, c.serverName = some name := by
  unfold ofAddress at h
  cases hns : Nameserver.ofText? (withoutScheme address) defaultPort with
  | none =>
    simp only [hns] at h
    cases h
  | some ns =>
    simp only [hns, ↓reduceIte] at h
    split at h
    · cases h
      exact ⟨rfl, _, rfl⟩
    · cases h

/-- Nothing was done but exchanges through TLS with the nameserver,
under the name it has to prove. -/
def Secured (c : Classic) (acts : List Act) : Prop :=
  ∃ parts : List (List Act), acts = parts.flatten ∧ ∀ part ∈ parts, ∃ name message reply,
    c.serverName = some name ∧
      SentSecurely ⟨.tcp, c.nameserver, c.network.family, c.options.timeout⟩ name
        (!c.options.insecure) message part reply

theorem secured_concat {c : Classic} {acts part : List Act} {name : String} {message : Bytes}
    {reply : Except Error Bytes} (h : c.Secured acts) (hname : c.serverName = some name)
    (hp : SentSecurely ⟨.tcp, c.nameserver, c.network.family, c.options.timeout⟩ name
      (!c.options.insecure) message part reply) : c.Secured (acts ++ part) := by
  obtain ⟨parts, rfl, hparts⟩ := h
  refine ⟨parts ++ [part], by simp, fun p hmem => ?_⟩
  rcases List.mem_append.1 hmem with hmem | hmem
  · exact hparts p hmem
  · obtain rfl : p = part := by simpa using hmem
    exact ⟨name, message, reply, hname, hp⟩

theorem exchange_secured {c : Classic} {name : String} (hname : c.serverName = some name)
    (env : Environment σ) (network : Network) (htls : network.tls = true)
    (hfamily : network.family = c.network.family) (message : Bytes) (s : List Act × σ)
    (hlog : c.Secured s.1) :
    c.Secured (c.exchange env.recorded network message s).2.1 := by
  obtain ⟨log, s⟩ := s
  obtain ⟨part, reply, t, hr, hp⟩ :=
    Exchange.tls_logs env c.nameserver c.network.family c.options.timeout name
    (!c.options.insecure) message log s
  have hsecured := secured_concat hlog hname hp
  unfold exchange
  simp only [htls, hname, hfamily, hr]
  exact hsecured

theorem lookup_secured {c : Classic} (htls : c.network.tls = true) {name : String}
    (hname : c.serverName = some name) (env : Environment σ) (question : Question) (s : σ) :
    c.Secured (c.lookup env.recorded question ([], s)).2.1 := by
  have hstart : c.Secured [] := ⟨[], rfl, by simp⟩
  have hx : ∀ n m, n = c.network ∨ n = c.network.toTcp →
      ∀ s, c.Secured s.1 → c.Secured (c.exchange env.recorded n m s).2.1 := by
    rintro n m (rfl | rfl)
    · exact exchange_secured hname env c.network htls rfl m
    · exact exchange_secured hname env c.network.toTcp htls rfl m
  exact Inquiry.run_preserves c.network hx env.recorded.elapsed c.options c.nameserver.text question
    (env.queryIds s).1 hstart

end Classic

inductive Act.Carries (packet : Bytes) : Act → Prop where
  | datagram (outcome : Except IoError Bytes) : Carries packet (.datagram packet outcome)
  | stream {frame : Bytes} (outcome : Except IoError Bytes) : Frame.write packet = .ok frame →
    Carries packet (.stream frame outcome)

theorem Exchange.Sent.carries {d : Dial} {packet : Bytes} {acts : List Act}
    {reply : Except Error Bytes} (h : Exchange.Sent d packet acts reply) :
    ∀ act ∈ acts, (∃ outcome, act = .dial d outcome) ∨ act.Carries packet := by
  cases h with
  | unreachable e => simp
  | tooLong _ _ => simp
  | datagram received _ => simp [Act.Carries.datagram]
  | stream received _ hframe => simp [Act.Carries.stream received hframe]

namespace Encrypted

open DnsCrypt (Certificate encryptQuery)

variable {σ τ : Type} (e : Encrypted)

def plainActs (env : Environment σ) (stored : Option Certificate) (s : σ) : List Act :=
  (e.certificate env.recorded (stored, [], s)).2.2.1

/-- A connection to the nameserver, or a request for the certificates of the provider. -/
def Plain (act : Act) : Prop :=
  (∃ network outcome, act = .dial (e.dialed network) outcome) ∨
    ∃ name id, Name.ofText e.stamp.providerName = .ok name ∧
      act.Carries (certificateQuery name id).encode

/-- A connection to the nameserver, or a packet encrypted for a
certificate that the provider signed. -/
def Sealed (random : RandomSource σ) (act : Act) : Prop :=
  (∃ network outcome, act = .dial (e.dialed network) outcome) ∨
    ∃ c message s packet session, c.Trusted e.stamp.providerKey.bytes ∧
      (encryptQuery random c e.keys message s).1 = .ok (packet, session) ∧ act.Carries packet

theorem plain_of_published {acts : List Act} {texts : Except Error (List Bytes)}
    (h : e.Published acts texts) :
    ∀ act ∈ acts, e.Plain act := by
  have hsent : ∀ {network name id acts reply}, Name.ofText e.stamp.providerName = .ok name →
      Exchange.Sent (e.dialed network) (certificateQuery name id).encode acts reply →
      ∀ act ∈ acts, e.Plain act := by
    intro network name id acts reply hname hs act hact
    rcases hs.carries act hact with ⟨outcome, hd⟩ | hcarries
    · exact .inl ⟨network, outcome, hd⟩
    · exact .inr ⟨name, id, hname, hcarries⟩
  intro act hact
  cases h with
  | badName _ => simp at hact
  | overDatagrams hname hs _ => exact hsent hname hs act hact
  | overBoth hname hs _ hs' =>
    rcases List.mem_append.1 hact with hact | hact
    · exact hsent hname hs act hact
    · exact hsent hname hs' act hact

theorem plainActs_of_valid {c : Certificate} (env : Environment σ) {s : σ}
    (h : c.validAt (env.now s) = true) :
    e.plainActs env (some c) s = [] := by
  have hnow : c.validAt (env.recorded.now ([], s)) = true := h
  rw [plainActs, e.certificate_of_valid env.recorded hnow]

theorem plainActs_of_invalid {stored : Option Certificate} (env : Environment σ) {s : σ}
    (h : ∀ c, stored = some c → c.validAt (env.now s) = false) :
    e.plainActs env stored s = (e.published env.recorded ([], s)).2.1 := by
  have hnow : ∀ c, stored = some c → c.validAt (env.recorded.now ([], s)) = false := h
  rw [plainActs, e.certificate_of_invalid env.recorded hnow, fetchCertificate_apply]
  generalize (e.published env.recorded ([], s)).1 >>= _ = result
  cases result <;> rfl

theorem Certified.plain {start later : UInt32} {stored : Option Certificate} {acts : List Act}
    {result : Except Error Certificate} (h : e.Certified start later stored acts result) :
    ∀ act ∈ acts, e.Plain act := by
  cases h with
  | inUse _ _ => simp
  | fetched _ hfetched =>
    obtain ⟨texts, hp, -⟩ := hfetched
    exact e.plain_of_published hp

theorem plain_of_mem_plainActs (env : Environment σ) (stored : Option Certificate) (s : σ) :
    ∀ act ∈ e.plainActs env stored s, e.Plain act := by
  obtain ⟨acts, result, next, t, hr, hcertified⟩ := e.certificate_certified env stored [] s
  have hacts : e.plainActs env stored s = acts := by
    rw [plainActs, hr, List.nil_append]
  rw [hacts]
  exact hcertified.plain

/-- The same certificate is in use, asked for in the same way, if both clocks
show the same at the start. -/
theorem plainActs_eq (env : Environment σ) (env' : Environment τ)
    (stored : Option Certificate) {s : σ} {t : τ} (hnow : env.now s = env'.now t)
    (hids : (env.queryIds s).1 0 = (env'.queryIds t).1 0)
    (halike : AnsweredAlike (e.plainActs env stored s) (e.plainActs env' stored t)) :
    e.plainActs env stored s = e.plainActs env' stored t := by
  rcases stored_cases env stored s with ⟨c, rfl, hvalid⟩ | hinvalid
  · rw [plainActs_of_valid e env hvalid, plainActs_of_valid e env' (hnow ▸ hvalid)]
  · have hinvalid' : ∀ c, stored = some c → c.validAt (env'.now t) = false := hnow ▸ hinvalid
    rw [plainActs_of_invalid e env hinvalid, plainActs_of_invalid e env' hinvalid'] at halike ⊢
    cases hname : Name.ofText e.stamp.providerName with
    | error err => simp [published, Task.bind_apply, Task.ofExcept_apply, hname, Except.mapError]
    | ok name =>
      rw [e.published_of_name hname, e.published_of_name hname] at halike ⊢
      have hq : (env.recorded.queryIds ([], s)).1 0 = (env'.recorded.queryIds ([], t)).1 0 := hids
      obtain ⟨acts, acts', r, r', u, u', hr, hr', hsame⟩ := e.answersTo_concur env env'
        (certificateQuery name ((env'.recorded.queryIds ([], t)).1 0)) [] [] (env.queryIds s).2
          (env'.queryIds t).2
      have hs : (env.recorded.queryIds ([], s)).2 = ([], (env.queryIds s).2) := rfl
      have ht : (env'.recorded.queryIds ([], t)).2 = ([], (env'.queryIds t).2) := rfl
      rw [hq, hs, ht, hr, hr'] at halike ⊢
      exact (hsame halike).1

theorem certificate_spec (env : Environment σ) {stored stored' : Option Certificate} {s t : σ}
    {result : Except Error Certificate}
    (ht : ∀ c, stored = some c → c.Trusted e.stamp.providerKey.bytes)
    (h : e.certificate env (stored, s) = (result, stored', t)) :
    (∀ c, result = .ok c → stored' = some c) ∧ ∀ c, stored' = some c →
      c.Trusted e.stamp.providerKey.bytes := by
  rcases stored_cases env stored s with ⟨c, rfl, hvalid⟩ | hinvalid
  · rw [e.certificate_of_valid env hvalid] at h
    cases h
    exact ⟨by simp, ht⟩
  · rw [e.certificate_of_invalid env hinvalid, fetchCertificate_apply] at h
    generalize hchosen :
      (e.published env s).1 >>= e.chosen (env.now (e.published env s).2) = fetched at h
    cases fetched with
    | error err =>
      cases h
      exact ⟨by simp, ht⟩
    | ok c =>
      cases h
      refine ⟨by simp, fun c' hc => ?_⟩
      cases hc
      exact (e.trusted_of_chosen hchosen).1

theorem sealed_of_conversation {random : RandomSource σ} {c : Certificate} {ts : List Transaction}
    {result : Except Error Response} {stored : Option Certificate}
    (hc : c.Trusted e.stamp.providerKey.bytes) (h : Conversation e random c ts result stored) :
    ∀ act ∈ ts.flatMap Transaction.acts, e.Sealed random act := by
  intro act hact
  obtain ⟨t, ht, hact⟩ := List.mem_flatMap.1 hact
  obtain ⟨⟨message, s, hmade⟩, hsent⟩ := h.sealed t ht
  rcases hsent.carries act hact with ⟨outcome, hd⟩ | hcarries
  · exact .inl ⟨t.network, outcome, hd⟩
  · exact .inr ⟨c, message, s, t.packet, t.session, hc, hmade, hcarries⟩

theorem lookup_acts (env : Environment σ) (question : Question)
    {stored : Option Certificate} (s : σ)
    (ht : ∀ c, stored = some c → c.Trusted e.stamp.providerKey.bytes) :
    let run := e.lookup env.recorded question (stored, [], s)
    (∀ c, run.2.1 = some c → c.Trusted e.stamp.providerKey.bytes) ∧
      ∃ sealed, run.2.2.1 = e.plainActs env stored s ++ sealed ∧ ∀ act ∈ sealed,
        e.Sealed env.random act := by
  intro run
  rcases hcert : e.certificate env.recorded (stored, [], s) with ⟨result, stored', log, t⟩
  have hlog : e.plainActs env stored s = log := by rw [plainActs, hcert]
  obtain ⟨hstored, htrusted⟩ := e.certificate_spec env.recorded ht hcert
  cases result with
  | error err =>
    have hrun : run = (.error err, stored', log, t) := by
      simp only [run, lookup, Task.bind_apply, hcert]
    rw [hrun, hlog]
    exact ⟨htrusted, [], by simp, by simp⟩
  | ok c =>
    obtain rfl := hstored c rfl
    obtain ⟨ts, answer, stored', u, hr, hconv⟩ := conversation_of_run e c env e.network question
      (env.queryIds t).1 log (env.queryIds t).2
    have hrun : run = (answer, stored', log ++ ts.flatMap Transaction.acts, u) := by
      simp only [run, lookup, Task.bind_apply, hcert]
      exact hr
    have hc : c.Trusted e.stamp.providerKey.bytes := htrusted c rfl
    rw [hrun, hlog]
    refine ⟨?_, ts.flatMap Transaction.acts, rfl, e.sealed_of_conversation hc hconv⟩
    rcases hconv.stored_eq with rfl | rfl
    · simp
    · exact htrusted

/-- What can be stored after any calls, each in an outside world of its own. -/
inductive Reached (e : Encrypted) : Option Certificate → Prop where
  | new : Reached e none
  | certificate {σ : Type} (env : Environment σ) {stored : Option Certificate} (s : σ) :
    Reached e stored → Reached e (e.certificate env (stored, s)).2.1
  | lookup {σ : Type} (env : Environment σ) (question : Question)
    {stored : Option Certificate} (s : σ) :
    Reached e stored → Reached e (e.lookup env question (stored, s)).2.1

theorem lookup_recorded (env : Environment σ) (question : Question)
    (stored : Option Certificate) (s : σ) :
    let run := e.lookup env.recorded question (stored, [], s)
    e.lookup env question (stored, s) = (run.1, run.2.1, run.2.2.2) :=
  e.lookup_views (Environment.views_recorded env) question (stored, [], s)

theorem trusted_of_reached {stored : Option Certificate} (h : e.Reached stored) :
    ∀ c, stored = some c → c.Trusted e.stamp.providerKey.bytes := by
  induction h with
  | new => simp
  | certificate env s _ ih => exact (e.certificate_spec env ih rfl).2
  | lookup env question s _ ih =>
    rw [e.lookup_recorded]
    exact (e.lookup_acts env question s ih).1

end Encrypted

namespace Transport

open Encrypted (certificateQuery heard heard_of_read)

/-- Nothing leaves a lookup through TLS outside of it, and nothing an encrypted one in plain text
but requests for certificates, which do not tell the question. -/
theorem nothing_in_plain_text :
    (∀ (address : String) (tcp : Bool) (o : Options) (c : Classic),
      Classic.ofAddress address tcp true o = .ok c →
        ∀ {σ : Type} (env : Environment σ) (question : Question) (s : σ),
        let run := c.lookup env.recorded question ([], s)
        c.lookup env question s = (run.1, run.2.2) ∧ c.Secured run.2.1) ∧
    (∀ (e : Encrypted) (stored : Option DnsCrypt.Certificate), e.Reached stored →
      ∀ {σ : Type} (env : Environment σ) (question : Question) (s : σ),
        let run := e.lookup env.recorded question (stored, [], s)
        e.lookup env question (stored, s) = (run.1, run.2.1, run.2.2.2) ∧
          ∃ sealed, run.2.2.1 = e.plainActs env stored s ++ sealed ∧
            (∀ act ∈ e.plainActs env stored s, e.Plain act) ∧ ∀ act ∈ sealed,
            e.Sealed env.random act) ∧
    ∀ (e : Encrypted) (stored : Option DnsCrypt.Certificate), e.Reached stored →
      ∀ {σ τ : Type} (env : Environment σ) (env' : Environment τ)
        (question question' : Question) (s : σ)
        (t : τ), env.now s = env'.now t → (env.queryIds s).1 0 = (env'.queryIds t).1 0 →
        AnsweredAlike (e.plainActs env stored s) (e.plainActs env' stored t) →
        ∃ sealed sealed',
          (e.lookup env.recorded question (stored, [], s)).2.2.1 =
            e.plainActs env stored s ++ sealed ∧
          (e.lookup env'.recorded question' (stored, [], t)).2.2.1 =
            e.plainActs env stored s ++ sealed' ∧
          (∀ act ∈ sealed, e.Sealed env.random act) ∧ ∀ act ∈ sealed',
            e.Sealed env'.random act := by
  refine ⟨fun address tcp o c hc σ env question s => ?_,
    fun e stored hstored σ env question s => ?_,
    fun e stored hstored σ τ env env' question question' s t hnow hids halike => ?_⟩
  · obtain ⟨htls, name, hname⟩ := Classic.ofAddress_tls hc
    exact ⟨c.lookup_views (Environment.views_recorded env) question ([], s),
      Classic.lookup_secured htls hname env question s⟩
  · obtain ⟨-, sealed, hacts, hsealed⟩ :=
      e.lookup_acts env question s (e.trusted_of_reached hstored)
    exact ⟨e.lookup_recorded env question stored s, sealed, hacts,
      e.plain_of_mem_plainActs env stored s, hsealed⟩
  · have htrusted := e.trusted_of_reached hstored
    obtain ⟨-, sealed, hacts, hsealed⟩ := e.lookup_acts env question s htrusted
    obtain ⟨-, sealed', hacts', hsealed'⟩ := e.lookup_acts env' question' t htrusted
    rw [← e.plainActs_eq env env' stored hnow hids halike] at hacts'
    exact ⟨sealed, sealed', hacts, hacts', hsealed, hsealed'⟩

/-- Two worlds that differ in all but their datagrams, and a request for
certificates that both answer alike. -/
theorem nothing_in_plain_text_served :
    let s : Entropy := ⟨fun _ => 7, 0⟩
    let t : Entropy := ⟨fun i => UInt8.ofNat i, 3⟩
    let env := Environment.serving addressReply none true
    let env' : Environment Entropy :=
      { env with stream := fun _ s => (.error .endOfStream, s), random := fun n s => (.zero n, s) }
    let e : Encrypted :=
      ⟨⟨0, "192.0.2.1:443", .zero 32, "example"⟩,
        ⟨"192.0.2.1", some (.v4 ⟨192, 0, 2, 1⟩), 443⟩, ⟨.udp, .any, false⟩,
        .ofSecret (.zero 32), .default⟩
    let c : Classic := ⟨⟨"a.example", none, 53⟩, ⟨.tcp, .any, true⟩, .default, some "a.example"⟩
    let question := Question.internet "a." .a
    let question' := Question.internet "b.example." .mx
    Classic.ofAddress "tls://a.example" false true .default = .ok c ∧
      c.Secured (c.lookup env.recorded question ([], s)).2.1 ∧
      e.Reached none ∧
      AnsweredAlike (e.plainActs env none s) (e.plainActs env' none t) ∧
      (e.plainActs env none s).length = 2 ∧
      (∃ sealed, (e.lookup env.recorded question (none, [], s)).2.2.1 =
        e.plainActs env none s ++ sealed) ∧
      ∃ sealed', (e.lookup env'.recorded question' (none, [], t)).2.2.1 =
        e.plainActs env none s ++ sealed' := by
  -- Closed terms evaluate here, before the worlds get names.
  have hc : Classic.ofAddress "tls://a.example" false true .default =
    .ok ⟨⟨"a.example", none, 53⟩, ⟨.tcp, .any, true⟩, .default, some "a.example"⟩ := rfl
  have hname : Name.ofText "example" = .ok ⟨[[101, 120, 97, 109, 112, 108, 101]]⟩ := rfl
  have hread : Publication.read (addressReply (certificateQuery
    ⟨[[101, 120, 97, 109, 112, 108, 101]]⟩ 0).encode) = .ok ⟨0, false, []⟩ := rfl
  generalize (⟨[[101, 120, 97, 109, 112, 108, 101]]⟩ : Name) = name at hname hread
  intro s t env env' e c question question'
  obtain ⟨hsecure, -, hsame⟩ := nothing_in_plain_text
  let q := certificateQuery name 0
  have hheard : heard q (.ok (addressReply q.encode)) = .ok (false, []) :=
    heard_of_read hread rfl
  let asked : List Act :=
    [.dial (e.dialed e.plainNetwork) (.ok ()), .datagram q.encode (.ok (addressReply q.encode))]
  have hplain : e.plainActs env none s = asked := by
    have hr : e.answersTo env.recorded q ([], s) = (.ok [], asked, s) :=
      e.answersTo_of_heard rfl hheard
    rw [e.plainActs_of_invalid env (by simp), e.published_of_name hname]
    exact congrArg (fun r => r.2.1) hr
  have hplain' : e.plainActs env' none t = asked := by
    have hr : e.answersTo env'.recorded q ([], t) = (.ok [], asked, t) :=
      e.answersTo_of_heard rfl hheard
    rw [e.plainActs_of_invalid env' (by simp), e.published_of_name hname]
    exact congrArg (fun r => r.2.1) hr
  have halike : AnsweredAlike (e.plainActs env none s) (e.plainActs env' none t) := by
    rw [hplain, hplain']
    exact answeredAlike_self _
  obtain ⟨sealed, sealed', hacts, hacts', -, -⟩ :=
    hsame e none .new env env' question question' s t rfl rfl halike
  exact ⟨hc, (hsecure _ _ _ c hc env question s).2, .new, halike, by rw [hplain]; rfl,
    ⟨sealed, hacts⟩, sealed', hacts'⟩

end Transport

end StubResolver
