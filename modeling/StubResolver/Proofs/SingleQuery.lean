import StubResolver.Proofs.Disclosure
import StubResolver.Proofs.QuerySize

set_option autoImplicit false

namespace StubResolver

namespace Inquiry

/-- One query is exchanged once, or once more over the stream after a truncated reply to it. -/
inductive ExchangedOnce (D : Network → Bytes → List Act → Except Error Bytes → Prop)
    (network : Network) (q : Query) : List Act → Prop where
  | once {acts : List Act} {reply : Except Error Bytes} : D network q.encode acts reply →
    (network.isStream = false → ∀ b, reply = .ok b → ¬ Truncated q b) →
      ExchangedOnce D network q acts
  | again {acts acts' : List Act} {b : Bytes} {reply : Except Error Bytes} :
    network.isStream = false →
    D network q.encode acts (.ok b) → Truncated q b → D network.toTcp q.encode acts' reply →
    ExchangedOnce D network q (acts ++ acts')

/-- The name of the question is its only candidate, and not asked for if it is none. -/
inductive AskedOnce (D : Network → Bytes → List Act → Except Error Bytes → Prop) (network : Network)
    (question : Question) : List Act → Prop where
  | noName {e : CodecError} : Name.ofText question.name = .error e → AskedOnce D network question []
  | query {n : Name} {id : UInt16} {acts : List Act} : Name.ofText question.name = .ok n →
    ExchangedOnce D network ⟨id, ⟨n, question.type, question.recordClass⟩⟩ acts →
    AskedOnce D network question acts

variable {σ : Type} {log : σ → List Act}
  {D : Network → Bytes → List Act → Except Error Bytes → Prop}
  {exchange : Network → Bytes → Task σ Bytes}

theorem pass_singleton (elapsed : σ → Duration) (exchange : Bytes → Task σ Bytes)
    (server : String) (q : Query) (sent : List Question) (last : Response) (s : σ) :
    ∃ ending, pass elapsed exchange server [q] sent last s = (ending, (exchange q.encode s).2) ∧
      (ending = .ok .truncated ↔ ∃ b, (exchange q.encode s).1 = .ok b ∧ Truncated q b) := by
  rw [pass_cons]
  rcases exchange q.encode s with ⟨e | reply, t⟩
  · exact ⟨.error e, rfl, by simp⟩
  · dsimp only
    rcases readReply_cases q ⟨(elapsed t).nanos - (elapsed s).nanos⟩ server reply with
      ⟨e, hr, he⟩ | ⟨hr, ht⟩ | ⟨m, hr, hm⟩ <;> rw [hr] <;> dsimp only
    · exact ⟨_, rfl, by simpa using not_truncated_of_refused he⟩
    · exact ⟨_, rfl, by simpa using ht⟩
    · have hwhole := not_truncated_of_delivered hm
      split
      · exact ⟨_, rfl, by simpa using hwhole⟩
      · exact ⟨_, rfl, by simpa using hwhole⟩

theorem run_adds (h : ∀ n m, (exchange n m).Adds log (D n m)) (elapsed : σ → Duration) (o : Options)
    (network : Network) (server : String) {question : Question}
    (hq : isQualified question.name = true) (ids : Nat → UInt16) :
    (run elapsed exchange o network server question ids).Adds log fun acts _ =>
      AskedOnce D network question acts := by
  intro s
  have hqueries := Candidate.queries_of_isQualified hq o.ndots o.search ids
  cases hname : Name.ofText question.name with
  | error e =>
    rw [hname] at hqueries
    rw [run_of_error hqueries]
    exact ⟨[], by simp, .noName hname⟩
  | ok n =>
    rw [hname] at hqueries
    rw [run_of_queries hqueries]
    let q : Query := ⟨ids 0, ⟨n, question.type, question.recordClass⟩⟩
    obtain ⟨acts, hlog, hacts⟩ := h network q.encode s
    obtain ⟨ending, hpass, hcut⟩ :=
      pass_singleton elapsed (exchange network) server q [] noRecords s
    have hwhole : ending ≠ .ok .truncated → ExchangedOnce D network q acts := fun hne =>
      .once hacts fun _ b hb ht => hne (hcut.2 ⟨b, hb, ht⟩)
    rw [hpass]
    rcases ending with e | r | _
    · exact ⟨acts, hlog, .query hname (hwhole (by simp))⟩
    · exact ⟨acts, hlog, .query hname (hwhole (by simp))⟩
    · obtain ⟨b, hb, ht⟩ := hcut.1 rfl
      cases hs : network.isStream with
      | true => exact ⟨acts, hlog, .query hname (.once hacts (by simp [hs]))⟩
      | false =>
        obtain ⟨acts', hlog', hacts'⟩ := h network.toTcp q.encode (exchange network q.encode s).2
        obtain ⟨ending', hpass', -⟩ :=
          pass_singleton elapsed (exchange network.toTcp) server q [] noRecords
            (exchange network q.encode s).2
        rw [hb] at hacts
        dsimp only
        rw [if_neg Bool.false_ne_true, hpass']
        refine ⟨acts ++ acts', ?_, .query hname (.again hs hacts ht hacts')⟩
        rw [← List.append_assoc, ← hlog]
        exact hlog'

end Inquiry

inductive Classic.Exchanged (c : Classic) (network : Network) (message : Bytes) :
    List Act → Except Error Bytes → Prop where
  | secured {name : String} {acts : List Act} {reply : Except Error Bytes} : network.tls = true →
    c.serverName = some name →
    Exchange.SentSecurely ⟨.tcp, c.nameserver, network.family, c.options.timeout⟩ name
      (!c.options.insecure) message acts reply →
    Exchanged c network message acts reply
  | plain {acts : List Act} {reply : Except Error Bytes} :
    (network.tls = true → c.serverName = none) →
    Exchange.Sent ⟨network.protocol, c.nameserver, network.family, c.options.timeout⟩
      message acts reply →
    Exchanged c network message acts reply

variable {σ : Type}

theorem Classic.exchange_adds (env : Environment σ) (c : Classic) (network : Network)
    (message : Bytes) :
    (c.exchange env.recorded network message).Adds Prod.fst (c.Exchanged network message) := by
  unfold exchange
  dsimp only
  split
  · next name htls hname =>
    exact (Exchange.tls_logs env _ _ _ _ _ message).adds fun _ _ => .secured htls hname
  · next hneither =>
    have hplain : network.tls = true → c.serverName = none := fun htls =>
      Option.eq_none_iff_forall_ne_some.2 fun name hname => hneither name htls hname
    obtain ⟨protocol, family, tls⟩ := network
    cases protocol with
    | udp => exact (Exchange.udp_logs env _ _ _ message).adds fun _ _ => .plain hplain
    | tcp => exact (Exchange.tcp_logs env _ _ _ message).adds fun _ _ => .plain hplain

namespace Encrypted

open DnsCrypt (Certificate Encrypts encryptQuery)

variable (e : Encrypted)

inductive Exchanged (c : Certificate) (network : Network) (message : Bytes) :
    List Act → Except Error Bytes → Prop where
  | refused {err : DnsCrypt.Error} : c.Refuses message err →
    Exchanged c network message [] (.error (.dnsCrypt err))
  | sent {packet : Bytes} {session : DnsCrypt.Session} {acts : List Act}
    {reply : Except Error Bytes} :
    Encrypts c e.keys message packet session → Exchange.Sent (e.dialed network) packet acts reply →
    Exchanged c network message acts
      (reply >>= fun b => (session.decryptResponse b).mapError .dnsCrypt)

def record (s : State (List Act × σ)) : List Act := s.2.1

theorem exchange_adds (env : Environment σ) (c : Certificate) (network : Network)
    (message : Bytes) :
    (e.exchange env.recorded c network message).Adds record (e.Exchanged c network message) := by
  rintro ⟨stored, log, s⟩
  rw [exchange_apply, encryptQuery_recorded]
  rcases hq : encryptQuery env.random c e.keys message s with ⟨err | ⟨packet, session⟩, t⟩
  · have hrefuses := DnsCrypt.encryptQuery_error_iff.1 (congrArg Prod.fst hq)
    exact ⟨[], by simp [record], .refused hrefuses⟩
  · have hencrypts := DnsCrypt.encrypts_of_encryptQuery (congrArg Prod.fst hq)
    obtain ⟨acts, reply, u, hr, hsent⟩ := e.send_logs env network packet log t
    have hexchanged := Exchanged.sent hencrypts hsent
    dsimp only
    rw [hr]
    refine ⟨acts, ?_⟩
    cases reply with
    | error err => exact ⟨rfl, hexchanged⟩
    | ok b =>
      simp only [bind, Except.bind] at hexchanged
      dsimp only
      cases hd : session.decryptResponse b with
      | error err =>
        rw [hd] at hexchanged
        exact ⟨rfl, hexchanged⟩
      | ok m =>
        rw [hd] at hexchanged
        exact ⟨rfl, hexchanged⟩

/-- A lookup between two moments. It ends without a question if it comes by no certificate. -/
inductive Asked (start finish : UInt32) (stored : Option Certificate) (question : Question) :
    Except Error Response → List Act → Prop where
  | uncertified {plain : List Act} {err : Error} :
    e.Certified start finish stored plain (.error err) →
    Asked start finish stored question (.error err) plain
  | asked {later : UInt32} {c : Certificate} {plain acts : List Act}
    {result : Except Error Response} :
    e.Certified start later stored plain (.ok c) →
    Inquiry.AskedOnce (e.Exchanged c) e.network question acts →
    Asked start finish stored question result (plain ++ acts)

end Encrypted

section Lookups

variable {question : Question} (hq : isQualified question.name = true) (env : Environment σ)
include hq

theorem Classic.lookup_adds (c : Classic) :
    (c.lookup env.recorded question).Adds Prod.fst fun acts _ =>
      Inquiry.AskedOnce c.Exchanged c.network question acts := by
  intro s
  rw [lookup, Task.bind_apply, Task.run_apply]
  exact Inquiry.run_adds (c.exchange_adds env) _ _ _ _ hq _ (env.recorded.queryIds s).2

theorem Https.lookup_adds (h : Https) :
    (h.lookup env.recorded question).Adds Prod.fst fun acts _ =>
      Inquiry.AskedOnce (fun _ => Exchange.Posted h.url) network question acts := by
  intro s
  rw [lookup, Task.bind_apply, Task.run_apply]
  have hexchange : ∀ (_ : Network) m,
      (Exchange.https env.recorded h.url m).Adds Prod.fst (Exchange.Posted h.url m) :=
    fun _ m => (Exchange.https_logs env h.url m).adds fun _ _ => id
  exact Inquiry.run_adds hexchange _ _ _ _ hq _ (env.recorded.queryIds s).2

theorem Encrypted.lookup_adds (e : Encrypted) (stored : Option DnsCrypt.Certificate)
    (log : List Act) (s : σ) :
    let next := e.lookup env.recorded question (stored, log, s)
    ∃ acts, next.2.2.1 = log ++ acts ∧
      e.Asked (env.now s) (env.now next.2.2.2) stored question next.1 acts := by
  obtain ⟨plain, result, held, t, hr, hcertified⟩ := e.certificate_certified env stored log s
  dsimp only
  rw [lookup, Task.bind_apply, hr]
  cases result with
  | error err => exact ⟨plain, rfl, .uncertified hcertified⟩
  | ok c =>
    have hids : lift (Task.run env.recorded.queryIds) (held, log ++ plain, t) =
        (.ok (env.queryIds t).1, held, log ++ plain, (env.queryIds t).2) := rfl
    obtain ⟨acts, hadds, hasked⟩ :=
      Inquiry.run_adds (e.exchange_adds env c) (fun s => env.recorded.elapsed s.2)
      e.options e.network e.nameserver.text hq (env.queryIds t).1
        (held, log ++ plain, (env.queryIds t).2)
    refine ⟨plain ++ acts, ?_, .asked hcertified hasked⟩
    dsimp only
    rw [Task.bind_of_ok hids, ← List.append_assoc]
    exact hadds

end Lookups

namespace Transport

def Wire : Transport σ → Prop
  | classic _ | https _ | encrypted _ _ => True
  | operatingSystem _ | custom _ => False

/-- What such a transport does for a question that is one query, in a lookup between two moments.
Over HTTP, a request that is not allowed and the one that takes its place are one exchange. -/
def Asks (start finish : UInt32) (question : Question) (result : Except Error Response)
    (acts : List Act) : Transport σ → Prop
  | classic c => Inquiry.AskedOnce c.Exchanged c.network question acts
  | https h => Inquiry.AskedOnce (fun _ => Exchange.Posted h.url) Https.network question acts
  | encrypted e k => e.Asked start finish k question result acts
  | operatingSystem _ | custom _ => False

theorem wire_lookup {env : Environment σ} {question : Question} {s : Transport σ × σ}
    (hs : s.1.Wire) :
    (lookup env question s).2.1.Wire := by
  obtain ⟨t, s⟩ := s
  cases t <;> exact hs

theorem lookup_adds (env : Environment σ) {question : Question}
    (hq : isQualified question.name = true) {s : Transport (List Act × σ) × List Act × σ}
    (hs : s.1.Wire) :
    let next := lookup env.recorded question s
    ∃ acts, next.2.2.1 = s.2.1 ++ acts ∧
      s.1.Asks (env.now s.2.2) (env.now next.2.2.2) question next.1 acts := by
  obtain ⟨t, log, s⟩ := s
  cases t with
  | classic c => exact c.lookup_adds hq env (log, s)
  | https h => exact h.lookup_adds hq env (log, s)
  | encrypted e k => exact e.lookup_adds hq env k log s
  | operatingSystem | custom => exact hs.elim

end Transport

end StubResolver
