import StubResolver.Proofs.Disclosure
import StubResolver.Proofs.Passage
import StubResolver.Proofs.QuerySize

/-!
Nonces. Clients and operators who draw from one source of entropy take one segment of it
for each packet, in the order of their calls, and nothing for a call that fails. So two
packets never have the same nonce as long as the source does not repeat itself, also when a
lookup asks its question once more.
-/

set_option autoImplicit false

namespace StubResolver

namespace Entropy

variable {e : Entropy} {n : Nat}

def segment (e : Entropy) (i : Nat) : Bytes :=
  (List.range 12).map fun j => e.byteAt (e.drawn + 12 * i + j)

def segments (e : Entropy) (n : Nat) : List Bytes := (List.range n).map e.segment

def skip (e : Entropy) (n : Nat) : Entropy := { e with drawn := e.drawn + 12 * n }

theorem skip_skip (e : Entropy) (m n : Nat) : (e.skip m).skip n = e.skip (m + n) := by
  simp only [skip]
  congr 1
  omega

theorem segment_skip (e : Entropy) (m i : Nat) : (e.skip m).segment i = e.segment (m + i) := by
  simp only [segment, skip, Nat.mul_add, Nat.add_assoc]

theorem segments_succ (e : Entropy) (n : Nat) :
    e.segments (n + 1) = e.segment 0 :: (e.skip 1).segments n := by
  simp only [segments, List.range_succ_eq_map, List.map_cons, List.map_map]
  congr 2
  funext i
  rw [segment_skip, Function.comp_apply, Nat.add_comm]

theorem bytes_draw (e : Entropy) : (draw 12 e).1.bytes = e.segment 0 := rfl

/-- No two of the first segments are the same, and none is zero. -/
structure Fresh (e : Entropy) (n : Nat) : Prop where
  distinct : (e.segments n).Nodup
  nonzero : Bytes.zeros 12 ∉ e.segments n

end Entropy

namespace DnsCrypt

variable {e : Entropy}

inductive Call where
  | query (c : Certificate) (keys : ClientKeys) (message : Bytes)
  | response (session : Session) (message : Bytes)

structure Packet where
  call : Call
  session : Session
  bytes : Bytes

def Call.perform (call : Call) : Action Entropy Error Packet := fun e =>
  match call with
  | .query c keys message =>
    let r := encryptQuery Entropy.draw c keys message e
    (r.1.map fun p => ⟨call, p.2, p.1⟩, r.2)
  | .response session message =>
    let r := session.encryptResponse Entropy.draw message e
    (.ok ⟨call, session, r.1⟩, r.2)

def run : List Call → Entropy → List Packet × Entropy
  | [], e => ([], e)
  | call :: calls, e =>
    let (result, e) := call.perform e
    let (packets, e) := run calls e
    (result.toOption.toList ++ packets, e)

namespace Packet

/-- The half of the nonce that was drawn: it opens the session of a
query, and stands in a response. -/
def half (p : Packet) : Bytes :=
  match p.call with
  | .query .. => p.session.clientNonce.bytes
  | .response .. => (p.bytes.drop 20).take 12

def nonce (p : Packet) : Bytes :=
  match p.call with
  | .query .. => p.half ++ Bytes.zeros 12
  | .response .. => p.session.clientNonce.bytes ++ p.half

/-- What the packet is made of. The box is encrypted under the nonce that the packet shows. -/
def Sealed (p : Packet) : Prop :=
  match p.call with
  | .query c keys message =>
    SharedKey.agree c.construction c.resolverKey keys.secret = .ok p.session.shared ∧
      p.bytes = c.clientMagic.bytes ++ (keys.key.bytes ++ (p.half ++
        p.session.shared.encrypt p.nonce (Padding.pad message)))
  | .response session message =>
    p.session = session ∧
      p.bytes = resolverMagic ++
        (p.nonce ++ p.session.shared.encrypt p.nonce (Padding.padTo 0 message))

end Packet

theorem Call.perform_query (c : Certificate) (keys : ClientKeys) (message : Bytes) (e : Entropy) :
    (∃ err, (query c keys message).perform e = (.error err, e)) ∨
    ∃ p, (query c keys message).perform e = (.ok p, e.skip 1) ∧ p.call = query c keys message ∧
      p.half = e.segment 0 ∧ p.Sealed := by
  rcases c.accepts_or_refuses message with haccepts | ⟨err, hrefuses⟩
  · obtain ⟨bytes, session, h⟩ := (encryptQuery_ok_iff Entropy.draw c keys message e).2 haccepts
    obtain ⟨⟨hagreed, hlayout, -⟩, hnonce, hleft⟩ := encrypts_and_draws h
    refine .inr ⟨⟨query c keys message, session, bytes⟩, ?_, rfl, ?_, hagreed, hlayout⟩
    · simp only [perform, h, hleft]
      rfl
    · simp only [Packet.half, hnonce, Entropy.bytes_draw]
  · refine .inl ⟨err, ?_⟩
    simp only [perform, hrefuses.encryptQuery]
    rfl

theorem Call.perform_response (session : Session) (message : Bytes) (e : Entropy) :
    ∃ p, (response session message).perform e = (.ok p, e.skip 1) ∧
      p.call = response session message ∧
      p.half = e.segment 0 ∧ p.Sealed := by
  let bytes := (session.encryptResponse Entropy.draw message e).1
  let half := (Entropy.draw 12 e).1
  have hlayout : bytes = resolverMagic ++ (session.nonce half ++
      session.shared.encrypt (session.nonce half) (Padding.padTo 0 message)) := by
    simp [bytes, half, Session.encryptResponse, Session.nonce]
  have hhalf : (bytes.drop 20).take 12 = half.bytes := by
    have hfront : (resolverMagic ++ session.clientNonce.bytes).length = 20 := by
      rw [List.length_append, length_resolverMagic, Octets.length_bytes]
    rw [hlayout, Session.nonce, List.append_assoc, ← List.append_assoc, List.drop_left' hfront,
      List.take_left' half.length_bytes]
  refine ⟨⟨response session message, session, bytes⟩, rfl, rfl, hhalf, rfl, ?_⟩
  simp only [Packet.nonce, Packet.half, hhalf]
  exact hlayout

theorem Call.perform_cases (call : Call) (e : Entropy) :
    (∃ err, call.perform e = (.error err, e)) ∨
    ∃ p, call.perform e = (.ok p, e.skip 1) ∧ p.call = call ∧ p.half = e.segment 0 ∧ p.Sealed := by
  cases call with
  | query c keys message => exact perform_query c keys message e
  | response session message => exact .inr (perform_response session message e)

theorem run_append (calls calls' : List Call) (e : Entropy) :
    run (calls ++ calls') e =
      ((run calls e).1 ++ (run calls' (run calls e).2).1, (run calls' (run calls e).2).2) := by
  induction calls generalizing e with
  | nil => rfl
  | cons call calls ih => simp only [List.cons_append, run, ih, List.append_assoc]

theorem run_cases (call : Call) (calls : List Call) (e : Entropy) :
    run (call :: calls) e = run calls e ∨
    ∃ p, p.call = call ∧ p.half = e.segment 0 ∧ p.Sealed ∧
      run (call :: calls) e = (p :: (run calls (e.skip 1)).1, (run calls (e.skip 1)).2) := by
  rcases call.perform_cases e with ⟨err, h⟩ | ⟨p, h, hcall, hhalf, hsealed⟩
  · refine .inl ?_
    simp only [run, h]
    rfl
  · refine .inr ⟨p, hcall, hhalf, hsealed, ?_⟩
    simp only [run, h]
    rfl

/-- The packets take the segments one after the other. -/
theorem run_takes (calls : List Call) (e : Entropy) :
    let packets := (run calls e).1
    (run calls e).2 = e.skip packets.length ∧ packets.map Packet.half = e.segments packets.length ∧
      (packets.map Packet.call).Sublist calls ∧ ∀ p ∈ packets, p.Sealed := by
  induction calls generalizing e with
  | nil => exact ⟨rfl, rfl, .slnil, by simp [run]⟩
  | cons call calls ih =>
    rcases run_cases call calls e with h | ⟨p, rfl, hhalf, hsealed, h⟩
    · obtain ⟨hleft, hhalves, hsub, hall⟩ := ih e
      simp only [h]
      exact ⟨hleft, hhalves, hsub.cons call, hall⟩
    · obtain ⟨hleft, hhalves, hsub, hall⟩ := ih (e.skip 1)
      simp only [h]
      refine ⟨?_, ?_, hsub.cons_cons p.call, List.forall_mem_cons.2 ⟨hsealed, hall⟩⟩
      · rw [hleft, Entropy.skip_skip, List.length_cons, Nat.add_comm]
      · rw [List.map_cons, hhalf, hhalves, List.length_cons, Entropy.segments_succ]

theorem half_eq_of_nonce_eq {p q : Packet} (hp : p.half ≠ Bytes.zeros 12)
    (hq : q.half ≠ Bytes.zeros 12) (h : p.nonce = q.nonce) : p.half = q.half := by
  have hsplit : ∀ {a b : Octets 12} {x y : Bytes}, a.bytes ++ x = b.bytes ++ y →
      a.bytes = b.bytes ∧ x = y :=
    fun {a b x y} h => List.append_inj h (a.length_bytes.trans b.length_bytes.symm)
  obtain ⟨call, session, bytes⟩ := p
  obtain ⟨call', session', bytes'⟩ := q
  cases call with
  | query _ _ _ =>
    cases call' with
    | query _ _ _ => exact (hsplit h).1
    | response _ _ => exact absurd (hsplit h).2.symm hq
  | response _ _ =>
    cases call' with
    | query _ _ _ => exact absurd (hsplit h).2 hp
    | response _ _ => exact (hsplit h).2

theorem nodup_nonces {packets : List Packet} (hdistinct : (packets.map Packet.half).Nodup)
    (hnonzero : Bytes.zeros 12 ∉ packets.map Packet.half) : (packets.map Packet.nonce).Nodup := by
  have hhalf : ∀ p ∈ packets, p.half ≠ Bytes.zeros 12 := fun p hp hzero =>
    hnonzero (List.mem_map.2 ⟨p, hp, hzero⟩)
  refine List.Nodup.map_on (fun p hp q hq hsame => ?_) hdistinct.of_map
  exact List.inj_on_of_nodup_map hdistinct hp hq
    (half_eq_of_nonce_eq (hhalf p hp) (hhalf q hq) hsame)

theorem run_nodup {calls : List Call} (h : e.Fresh (run calls e).1.length) :
    ((run calls e).1.map Packet.nonce).Nodup := by
  obtain ⟨-, hhalves, -⟩ := run_takes calls e
  exact nodup_nonces (hhalves ▸ h.distinct) (hhalves ▸ h.nonzero)

def Spent (e e' : Entropy) : Prop := ∃ calls, e' = (run calls e).2

instance : IsPreorder Entropy Spent where
  refl _ := ⟨[], rfl⟩
  trans := by
    rintro e _ _ ⟨calls, rfl⟩ ⟨calls', rfl⟩
    exact ⟨calls ++ calls', by rw [run_append]⟩

end DnsCrypt

/-- Random bytes come from one source, from which others may draw for calls of their own. -/
structure Environment.SharesEntropy {σ : Type} (env : Environment σ)
    (entropy : σ → Entropy) : Prop where
  random : ∀ n s, Entropy.draw n (entropy s) = (env.random n s).map id entropy
  services : env.Moves (InvImage DnsCrypt.Spent entropy)

namespace Encrypted

open DnsCrypt (Certificate Packet Spent encryptQuery run run_append)

variable {σ : Type} (t : Encrypted)

structure Transaction.Uses (u : Transaction) (p : Packet) : Prop where
  bytes : p.bytes = u.packet
  session : p.session = u.session
  call : ∃ c message, p.call = .query c t.keys message
  sent : Exchange.Sent (t.dialed u.network) u.packet u.acts u.reply

/-- Each transaction has a packet of its own, of all that are made as the entropy is used up. -/
def Accounted (e : Entropy) (ts : List Transaction) (e' : Entropy) : Prop :=
  ∃ calls own, e' = (run calls e).2 ∧ own.Sublist (run calls e).1 ∧
    List.Forall₂ (Transaction.Uses t) ts own

variable {t} {e e' e'' : Entropy} {ts : List Transaction}

theorem accounted_nil (h : Spent e e') : t.Accounted e [] e' := by
  obtain ⟨calls, rfl⟩ := h
  exact ⟨calls, [], rfl, List.nil_sublist _, .nil⟩

theorem Accounted.spend (h : t.Accounted e ts e') (hspent : Spent e' e'') :
    t.Accounted e ts e'' := by
  obtain ⟨calls, own, rfl, hsub, huses⟩ := h
  obtain ⟨calls', rfl⟩ := hspent
  refine ⟨calls ++ calls', own, by rw [run_append], ?_, huses⟩
  rw [run_append]
  exact hsub.trans (List.sublist_append_left _ _)

theorem Accounted.seal (h : t.Accounted e ts e') {c : Certificate} {message : Bytes}
    {u : Transaction}
    (hseal : encryptQuery Entropy.draw c t.keys message e' = (.ok (u.packet, u.session), e''))
    (hsent : Exchange.Sent (t.dialed u.network) u.packet u.acts u.reply) :
    t.Accounted e (ts ++ [u]) e'' := by
  obtain ⟨calls, own, rfl, hsub, huses⟩ := h
  let call : DnsCrypt.Call := .query c t.keys message
  let p : Packet := ⟨call, u.session, u.packet⟩
  have hrun : run [call] (run calls e).2 = ([p], e'') := by
    simp only [run, DnsCrypt.Call.perform, call, hseal]
    rfl
  refine ⟨calls ++ [call], own ++ [p], by rw [run_append, hrun], ?_, ?_⟩
  · rw [run_append, hrun]
    exact hsub.append (List.Sublist.refl [p])
  · exact List.rel_append huses (.cons ⟨rfl, rfl, ⟨c, message, rfl⟩, hsent⟩ .nil)

variable {env : Environment σ} {entropy : σ → Entropy}

def Draws (t : Encrypted) (entropy : σ → Entropy) (log : List Act) (e : Entropy)
    (s : State (List Act × σ)) :
    Prop :=
  ∃ ts, s.2.1 = log ++ ts.flatMap Transaction.acts ∧ t.Accounted e ts (entropy s.2.2)

theorem send_spends (h : env.SharesEntropy entropy) (network : Network) (packet : Bytes)
    (log : List Act) (s : σ) :
    Spent (entropy s) (entropy (t.send env.recorded network packet (log, s)).2.2) := by
  have hmoves := send_moves (e := t) h.services network packet s
  rwa [t.send_views (Environment.views_recorded env) network packet (log, s)] at hmoves

theorem exchange_draws (h : env.SharesEntropy entropy) (c : Certificate)
    (log : List Act) (e : Entropy) (network : Network) (message : Bytes) (s : State (List Act × σ))
    (hs : t.Draws entropy log e s) :
    t.Draws entropy log e (t.exchange env.recorded c network message s).2 := by
  obtain ⟨stored, _, s⟩ := s
  obtain ⟨ts, rfl, haccounted⟩ := hs
  dsimp only at haccounted
  have hview := DnsCrypt.encryptQuery_views (h.random 12) c t.keys message s
  rw [exchange_apply, encryptQuery_recorded]
  rcases hq : encryptQuery env.random c t.keys message s with ⟨err | ⟨packet, session⟩, s'⟩
  · have hspent := encryptQuery_moves h.services c t.keys message s
    rw [hq] at hspent
    exact ⟨ts, rfl, haccounted.spend hspent⟩
  · rw [hq] at hview
    obtain ⟨acts, reply, v, hr, hsent⟩ :=
      t.send_logs env network packet (log ++ ts.flatMap Transaction.acts) s'
    let u : Transaction := ⟨network, packet, session, acts, reply⟩
    have hspent := send_spends (t := t) h network packet (log ++ ts.flatMap Transaction.acts) s'
    rw [hr] at hspent
    have hdraws : ∀ stored',
        t.Draws entropy log e (stored', log ++ ts.flatMap Transaction.acts ++ acts, v) :=
      fun _ => ⟨ts ++ [u], by simp [u], (haccounted.seal (u := u) hview hsent).spend hspent⟩
    dsimp only
    rw [hr]
    cases reply with
    | error err => exact hdraws stored
    | ok b =>
      dsimp only
      cases session.decryptResponse b with
      | error err => exact hdraws none
      | ok m => exact hdraws stored

theorem certificate_spends (h : env.SharesEntropy entropy) (s : State (List Act × σ)) :
    Spent (entropy s.2.2) (entropy (t.certificate env.recorded s).2.2.2) := by
  have hmoves := certificate_moves (e := t) h.services (seen Prod.snd s)
  rwa [t.certificate_views (Environment.views_recorded env) s] at hmoves

/-- Whatever a lookup sends once it has a certificate is packets that it made for it. -/
theorem lookup_draws (h : env.SharesEntropy entropy) (t : Encrypted) (question : Question)
    (stored : Option Certificate) (s : σ) :
    t.Draws entropy (t.plainActs env stored s) (entropy s)
    (t.lookup env.recorded question (stored, [], s)).2 := by
  have hspent := certificate_spends (t := t) h (stored, [], s)
  rw [plainActs, lookup, Task.bind_apply]
  rcases hr : t.certificate env.recorded (stored, [], s) with ⟨err | c, stored', log, s'⟩ <;>
    rw [hr] at hspent
  · exact ⟨[], by simp, accounted_nil hspent⟩
  · have hids : Spent (entropy s') (entropy (env.queryIds s').2) := h.services.queryIds s'
    have hstart : t.Draws entropy log (entropy s) (stored', log, (env.queryIds s').2) :=
      ⟨[], by simp, (accounted_nil hspent).spend hids⟩
    exact Inquiry.run_preserves t.network
      (fun n m _ => exchange_draws h c log (entropy s) n m) _ t.options
      t.nameserver.text question (env.queryIds s').1 hstart

end Encrypted

namespace DnsCrypt

def cutShort (query : Bytes) : Bytes := query.take 2 ++ [0x83, 0x80, 0, 0, 0, 0, 0, 0, 0, 0]

def hangingUp (k : Certificate) : Environment Entropy where
  dial := fun _ e => (.ok (), e)
  handshake := fun _ _ e => (.ok (), e)
  datagram := fun packet e =>
    match decryptQuery k packet with
    | .ok (query, session) =>
      let r := session.encryptResponse Entropy.draw (cutShort query) e
      (.ok r.1, r.2)
    | .error _ => (.error .receiveTimeout, e)
  stream := fun _ e => (.error .endOfStream, e)
  http := fun _ e => (.error (.connect ""), e)
  hostAddresses := fun _ e => (.error .unknownHost, e)
  elapsed := fun _ => .zero
  wallClock := fun _ => 5
  queryIds := fun e => (fun i => UInt16.ofNat i, e)
  random := Entropy.draw

theorem sharesEntropy_hangingUp (k : Certificate) : (hangingUp k).SharesEntropy id := by
  have hrefl : ∀ e : Entropy, Spent e e := refl_of Spent
  have hresponse : ∀ (session : Session) message e,
      Spent e (session.encryptResponse Entropy.draw message e).2 :=
    fun session message _ => ⟨[.response session message], rfl⟩
  refine ⟨fun _ _ => rfl, fun _ => hrefl, fun _ _ => hrefl, fun packet e => ?_,
    fun _ => hrefl, fun _ => hrefl, fun _ => hrefl, hrefl, hresponse ⟨.zero 12, ⟨true, []⟩⟩ []⟩
  simp only [hangingUp, InvImage, id]
  cases decryptQuery k packet with
  | error _ => exact hrefl e
  | ok p => exact hresponse p.2 (cutShort p.1) e

variable {k : Certificate} {secret : Octets 32} {network : Network} {query : Bytes}

theorem encrypts_hangingUp (hk : k.construction ≠ .undefined) (hmin : minMessageSize ≤ query.length)
    (hmax : query.length ≤ 65407) (keys : ClientKeys) (e : Entropy) :
    ∃ packet session, encryptQuery (hangingUp k).random k.withoutSecret keys query e =
        (.ok (packet, session), e.skip 1) ∧
      Encrypts k.withoutSecret keys query packet session := by
  obtain ⟨packet, session, e', h⟩ :=
    encryptQuery_of_length (hangingUp k).random k.withoutSecret keys hk hmin hmax e
  obtain ⟨hencrypts, -, hleft⟩ := encrypts_and_draws (congrArg Prod.fst h)
  obtain rfl : e' = e.skip 1 := by
    rw [h] at hleft
    exact hleft
  exact ⟨packet, session, h, hencrypts⟩

theorem exchange_cutShort (hk : k.Operable) (t : Encrypted) (hkeys : t.keys = .ofSecret secret)
    (hnetwork : network.isStream = false) (hmin : minMessageSize ≤ query.length)
    (hmax : query.length ≤ 65407) (stored : Option Certificate) (log : List Act) (e : Entropy) :
    ∃ acts : List Act, acts.length = 2 ∧
      t.exchange (hangingUp k).recorded k.withoutSecret network query (stored, log, e) =
        (.ok (cutShort query), stored, log ++ acts, e.skip 2) := by
  obtain ⟨packet, session, h, hencrypts⟩ := encrypts_hangingUp hk.construction hmin hmax t.keys e
  have hopen := decryptQuery_of_encrypts hk (hkeys ▸ hencrypts)
  let reply := (session.encryptResponse Entropy.draw (cutShort query) (e.skip 1)).1
  have hread : session.decryptResponse reply = .ok (cutShort query) :=
    decryptResponse_encryptResponse _ _ _ _
  have hdial : ∀ d, (hangingUp k).dial d (e.skip 1) = (.ok (), e.skip 1) := fun _ => rfl
  have hdatagram : (hangingUp k).datagram packet (e.skip 1) = (.ok reply, e.skip 2) := by
    simp only [hangingUp, hopen, reply]
    rfl
  let acts : List Act :=
    [.dial ⟨.udp, t.nameserver, network.family, t.options.timeout⟩ (.ok ()),
      .datagram packet (.ok reply)]
  have hsend : t.send (hangingUp k).recorded network packet (log, e.skip 1) =
      (.ok reply, log ++ acts, e.skip 2) := by
    rw [Encrypted.send, hnetwork, if_neg Bool.false_ne_true, Exchange.udp]
    simp only [Task.bind_apply, Task.io_apply, Environment.recorded, Environment.recording]
    simp [hdial, hdatagram, Except.mapError, acts]
  refine ⟨acts, rfl, ?_⟩
  rw [Encrypted.exchange_apply, Encrypted.encryptQuery_recorded, h]
  simp only [hsend, hread]

theorem exchange_hangingUp (hk : k.construction ≠ .undefined) (t : Encrypted)
    (hnetwork : network.isStream = true) (hmin : minMessageSize ≤ query.length)
    (hmax : query.length ≤ 65407) (stored : Option Certificate) (log : List Act) (e : Entropy) :
    ∃ acts : List Act, acts.length = 2 ∧
      t.exchange (hangingUp k).recorded k.withoutSecret network query (stored, log, e) =
        (.error (.io .endOfStream), stored, log ++ acts, e.skip 1) := by
  obtain ⟨packet, session, h, hencrypts⟩ := encrypts_hangingUp hk hmin hmax t.keys e
  have hframe := Frame.write_of_length_lt (Nat.lt_succ_of_le hencrypts.fits)
  have hdial : ∀ d, (hangingUp k).dial d (e.skip 1) = (.ok (), e.skip 1) := fun _ => rfl
  have hstream : ∀ m, (hangingUp k).stream m (e.skip 1) = (.error .endOfStream, e.skip 1) :=
    fun _ => rfl
  let acts : List Act :=
    [.dial ⟨.tcp, t.nameserver, network.family, t.options.timeout⟩ (.ok ()),
      .stream (Bytes.ofNatBE 2 packet.length ++ packet) (.error .endOfStream)]
  have hsend : t.send (hangingUp k).recorded network packet (log, e.skip 1) =
      (.error (.io .endOfStream), log ++ acts, e.skip 1) := by
    rw [Encrypted.send, hnetwork, if_pos rfl, Exchange.tcp]
    simp only [Task.bind_apply, Task.io_apply, Task.ofExcept_apply, hframe, Exchange.framed_apply,
      Environment.recorded, Environment.recording]
    simp [hdial, hstream, Except.mapError, acts, Exchange.unframed, bind, Except.bind]
  refine ⟨acts, rfl, ?_⟩
  rw [Encrypted.exchange_apply, Encrypted.encryptQuery_recorded, h]
  simp only [hsend]

/-- The question is asked in a datagram, and once more over the stream that comes to nothing. -/
theorem lookup_hangingUp (hk : k.Operable)
    (hvalid : k.withoutSecret.validAt 5 = true) (t : Encrypted) (hkeys : t.keys = .ofSecret secret)
    (hudp : t.network.protocol = .udp) {question : Question} {q : Query}
    (hqueries : Candidate.queries question t.options.ndots t.options.search
      (fun i => UInt16.ofNat i) = .ok [q])
        (hcut : ∀ roundTrip server,
          Inquiry.readReply q.id roundTrip server (cutShort q.encode) = .ok none)
    (e : Entropy) :
    ∃ acts : List Act, acts.length = 4 ∧
      t.lookup (hangingUp k).recorded question (some k.withoutSecret, [], e) =
        (.error (.io .endOfStream), some k.withoutSecret, acts, e.skip 3) := by
  obtain ⟨hmin, hmax⟩ := Candidate.length_encode_of_mem hqueries (List.mem_singleton_self q)
  have hmax : q.encode.length ≤ 65407 := hmax.trans (by decide)
  have hdatagrams : t.network.isStream = false := by simp [Network.isStream, hudp]
  obtain ⟨first, hfirst, hasked⟩ :=
    exchange_cutShort hk t hkeys hdatagrams hmin hmax (some k.withoutSecret) [] e
  obtain ⟨second, hsecond, hasked'⟩ :=
    exchange_hangingUp hk.construction t (rfl : t.network.toTcp.isStream = true) hmin hmax
      (some k.withoutSecret)
      first (e.skip 2)
  have hids : Encrypted.lift (Task.run (hangingUp k).recorded.queryIds)
    (some k.withoutSecret, [], e) =
    (.ok (fun i => UInt16.ofNat i), some k.withoutSecret, [], e) := rfl
  refine ⟨first ++ second, by rw [List.length_append, hfirst, hsecond], ?_⟩
  rw [Encrypted.lookup, Task.bind_of_ok (t.certificate_of_valid (hangingUp k).recorded hvalid),
    Task.bind_of_ok hids, Inquiry.run_of_queries hqueries, Inquiry.pass_cons, hasked]
  simp only [hcut, hdatagrams, List.nil_append]
  rw [if_neg Bool.false_ne_true, Inquiry.pass_cons, hasked', Entropy.skip_skip]
  rfl

/-- The nonces of all packets are made of segments of the entropy, each of which is used
once. So are those of a lookup, which makes a packet for whatever it sends, and makes a
new one to send it once more. -/
theorem nonces_never_reused :
    (∀ (call : Call) (e : Entropy) (err : Error), (call.perform e).1 = .error err →
      (call.perform e).2 = e) ∧
    (∀ (calls : List Call) (e : Entropy),
      let packets := (run calls e).1
      (run calls e).2 = e.skip packets.length ∧
        packets.map Packet.half = e.segments packets.length ∧
        (packets.map Packet.call).Sublist calls ∧ (∀ p ∈ packets, p.Sealed) ∧
        (e.Fresh packets.length → (packets.map Packet.nonce).Nodup)) ∧
    ∀ {σ : Type} (env : Environment σ) (entropy : σ → Entropy), env.SharesEntropy entropy →
      ∀ (t : Encrypted) (question : Question) (stored : Option Certificate) (s : σ),
        let after := (t.lookup env.recorded question (stored, [], s)).2.2
        ∃ calls ts own, after.1 = t.plainActs env stored s ++
          ts.flatMap Encrypted.Transaction.acts ∧
          entropy after.2 = (run calls (entropy s)).2 ∧ own.Sublist (run calls (entropy s)).1 ∧
          List.Forall₂ (Encrypted.Transaction.Uses t) ts own ∧
          ((entropy s).Fresh (run calls (entropy s)).1.length → (own.map Packet.nonce).Nodup) := by
  refine ⟨fun call e err h => ?_, fun calls e => ?_, fun env entropy h t question stored s => ?_⟩
  · rcases call.perform_cases e with ⟨err', hfails⟩ | ⟨p, hmade, -⟩
    · rw [hfails]
    · rw [hmade] at h
      cases h
  · obtain ⟨hleft, hhalves, hsub, hsealed⟩ := run_takes calls e
    exact ⟨hleft, hhalves, hsub, hsealed, run_nodup⟩
  · obtain ⟨ts, hlog, calls, own, hleft, hsub, huses⟩ :=
      Encrypted.lookup_draws h t question stored s
    exact ⟨calls, ts, own, hlog, hleft, hsub, huses, fun hfresh =>
      (run_nodup hfresh).sublist (hsub.map Packet.nonce)⟩

/-- A question that is sent twice. With the answer in between, three
packets take up three segments. -/
theorem nonces_never_reused_after_truncation :
    let e : Entropy := ⟨fun i => UInt8.ofNat (i + 1), 0⟩
    let k : Certificate := (Certificate.generate Entropy.draw 1 .xChaCha20Poly1305 0 10 e).1
    let t : Encrypted :=
      ⟨⟨0, "192.0.2.1:443", .zero 32, "2.dnscrypt-cert.example"⟩,
        ⟨"192.0.2.1", some (.v4 ⟨192, 0, 2, 1⟩), 443⟩, ⟨.udp, .any, false⟩,
        .ofSecret (.zero 32), .default⟩
    let after :=
      (t.lookup (hangingUp k).recorded (.internet "a." .a) (some k.withoutSecret, [], e)).2.2
    (hangingUp k).SharesEntropy id ∧ e.Fresh 3 ∧ after.2 = e.skip 3 ∧
      ∃ ts own, after.1 = ts.flatMap Encrypted.Transaction.acts ∧ 2 ≤ ts.length ∧
        List.Forall₂ (Encrypted.Transaction.Uses t) ts own ∧ (own.map Packet.nonce).Nodup := by
  -- Closed terms evaluate here, before the world gets a name.
  have hqueries : Candidate.queries (.internet "a." .a) 1 [] (fun i => UInt16.ofNat i) =
    .ok [⟨0, ⟨⟨[[97]]⟩, .a, .internet⟩⟩] := rfl
  have hcut : ∀ roundTrip server, Inquiry.readReply 0 roundTrip server
    (cutShort (Query.encode ⟨0, ⟨⟨[[97]]⟩, .a, .internet⟩⟩)) = .ok none := fun _ _ => rfl
  generalize (⟨⟨[[97]]⟩, .a, .internet⟩ : WireQuestion) = question at hqueries hcut
  intro e k t after
  have hfresh : e.Fresh 3 := ⟨by decide, by decide⟩
  have hk : k.Operable := ⟨by simp [k, Certificate.generate], rfl⟩
  have hvalid : k.withoutSecret.validAt 5 = true := rfl
  clear_value k e
  obtain ⟨acts, hfour, hlookup⟩ := lookup_hangingUp hk hvalid t rfl rfl hqueries hcut e
  obtain ⟨-, hruns, hlookups⟩ := nonces_never_reused
  obtain ⟨calls, ts, own, hlog, hleft, hsub, huses, hnodup⟩ :=
    hlookups (hangingUp k) id (sharesEntropy_hangingUp k) t (.internet "a." .a)
      (some k.withoutSecret) e
  rw [hlookup, t.plainActs_of_valid (hangingUp k) hvalid, List.nil_append] at hlog
  rw [hlookup] at hleft
  dsimp only [id] at hlog hleft
  have hlength : (run calls e).1.length = 3 := by
    obtain ⟨hskip, -⟩ := hruns calls e
    have hdrawn := congrArg Entropy.drawn (hleft.trans hskip)
    simp only [Entropy.skip] at hdrawn
    omega
  have htwo : 2 ≤ ts.length := by
    cases huses with
    | nil => simp [hlog] at hfour
    | @cons u p us ps hu hrest =>
      cases hrest with
      | nil =>
        have hle := hu.sent.length_le
        rw [hlog, List.flatMap_singleton] at hfour
        omega
      | cons _ _ => simp
  have hafter : after = (acts, e.skip 3) := congrArg (fun r => r.2.2) hlookup
  rw [hafter]
  exact ⟨sharesEntropy_hangingUp k, hfresh, rfl, ts, own, hlog, htwo, huses,
    hnodup (hlength ▸ hfresh)⟩

end DnsCrypt

end StubResolver
