import StubResolver.Proofs.Inquiry
import StubResolver.Transport

/-!
Environments that keep a record. Every service that reaches a peer is listed with what it was asked
for and what came of it. The record changes nothing: a lookup does the same with and without it.
-/

set_option autoImplicit false

namespace StubResolver

inductive Act where
  | dial (d : Dial) (outcome : Except IoError Unit)
  | handshake (serverName : String) (verify : Bool) (outcome : Except IoError Unit)
  | datagram (message : Bytes) (outcome : Except IoError Bytes)
  | stream (written : Bytes) (outcome : Except IoError Bytes)
  | http (request : HttpRequest) (outcome : Except HttpFailure HttpReply)

namespace Environment

variable {σ τ : Type}

def recording {ε α : Type} (act : Except ε α → Act) (service : Action σ ε α) :
    Action (List Act × σ) ε α := fun s =>
  let r := service s.2
  (r.1, (s.1 ++ [act r.1], r.2))

def beside {α : Type} (service : σ → α × σ) : List Act × σ → α × (List Act × σ) := fun s =>
  let r := service s.2
  (r.1, (s.1, r.2))

def recorded (env : Environment σ) : Environment (List Act × σ) where
  dial := fun d => recording (.dial d) (env.dial d)
  handshake := fun name verify => recording (.handshake name verify) (env.handshake name verify)
  datagram := fun message => recording (.datagram message) (env.datagram message)
  stream := fun written => recording (.stream written) (env.stream written)
  http := fun request => recording (.http request) (env.http request)
  hostAddresses := fun name => beside (env.hostAddresses name)
  elapsed := fun s => env.elapsed s.2
  wallClock := fun s => env.wallClock s.2
  queryIds := beside env.queryIds
  random := fun n => beside (env.random n)

def atTime (env : Environment σ) (clock : Int) : Environment σ :=
  { env with wallClock := fun _ => clock }

structure Views (view : τ → σ) (fine : Environment τ) (coarse : Environment σ) : Prop where
  dial : ∀ d s, coarse.dial d (view s) = (fine.dial d s).map id view
  handshake : ∀ n v s, coarse.handshake n v (view s) = (fine.handshake n v s).map id view
  datagram : ∀ m s, coarse.datagram m (view s) = (fine.datagram m s).map id view
  stream : ∀ m s, coarse.stream m (view s) = (fine.stream m s).map id view
  http : ∀ r s, coarse.http r (view s) = (fine.http r s).map id view
  hostAddresses : ∀ n s, coarse.hostAddresses n (view s) = (fine.hostAddresses n s).map id view
  elapsed : ∀ s, coarse.elapsed (view s) = fine.elapsed s
  wallClock : ∀ s, coarse.wallClock (view s) = fine.wallClock s
  queryIds : ∀ s, coarse.queryIds (view s) = (fine.queryIds s).map id view
  random : ∀ n s, coarse.random n (view s) = (fine.random n s).map id view

theorem views_recorded (env : Environment σ) : Views Prod.snd env.recorded env := by
  constructor <;> intros <;> rfl

end Environment

/-- What a task adds to the record goes with what comes of it as `P` says. -/
def Task.Logs {σ α : Type} (task : Task (List Act × σ) α)
    (P : List Act → Except Error α → Prop) : Prop :=
  ∀ log s, ∃ acts result t, task (log, s) = (result, log ++ acts, t) ∧ P acts result

def Task.Adds {σ α β : Type} (log : σ → List β) (task : Task σ α)
    (P : List β → Except Error α → Prop) : Prop :=
  ∀ s, ∃ xs, log (task s).2 = log s ++ xs ∧ P xs (task s).1

theorem Task.Logs.adds {σ α : Type} {task : Task (List Act × σ) α}
    {P Q : List Act → Except Error α → Prop} (h : task.Logs P)
    (hpq : ∀ acts result, P acts result → Q acts result) : task.Adds Prod.fst Q := by
  rintro ⟨log, s⟩
  obtain ⟨acts, result, t, hr, hp⟩ := h log s
  exact ⟨acts, by rw [hr], by rw [hr]; exact hpq acts result hp⟩

namespace Exchange

variable {σ : Type}

def unframed (received : Except IoError Bytes) : Except Error Bytes :=
  (received >>= fun b => (Frame.read b).map Prod.fst).mapError .io

/-- A message is sent once, over one connection, and a reply comes back or an error. -/
inductive Sent (d : Dial) (message : Bytes) : List Act → Except Error Bytes → Prop where
  | unreachable (e : IoError) : Sent d message [.dial d (.error e)] (.error (.io e))
  | tooLong {e : IoError} : d.protocol = .tcp → Frame.write message = .error e →
    Sent d message [.dial d (.ok ())] (.error (.io e))
  | datagram (received : Except IoError Bytes) : d.protocol = .udp →
    Sent d message [.dial d (.ok ()), .datagram message received] (received.mapError .io)
  | stream {frame : Bytes} (received : Except IoError Bytes) : d.protocol = .tcp →
    Frame.write message = .ok frame →
    Sent d message [.dial d (.ok ()), .stream frame received] (unframed received)

theorem Sent.length_le {d : Dial} {message : Bytes} {acts : List Act} {reply : Except Error Bytes}
    (h : Sent d message acts reply) : acts.length ≤ 2 := by
  cases h <;> simp

theorem udp_logs (env : Environment σ) (ns : Nameserver) (family : Family) (timeout : Duration)
    (message : Bytes) :
    Task.Logs (udp env.recorded ns family timeout message)
    (Sent ⟨.udp, ns, family, timeout⟩ message) := by
  intro log s
  simp only [udp, Task.bind_apply, Task.io_apply, Environment.recorded, Environment.recording]
  rcases env.dial ⟨.udp, ns, family, timeout⟩ s with ⟨e | _, t⟩
  · exact ⟨_, _, t, rfl, .unreachable e⟩
  · exact ⟨_, _, (env.datagram message t).2, by simp [Except.mapError],
      .datagram (env.datagram message t).1 rfl⟩

theorem framed_apply (env : Environment σ) (frame : Bytes) (s : σ) :
    framed env frame s = (unframed (env.stream frame s).1, (env.stream frame s).2) := by
  simp only [framed, Task.bind_apply, Task.io_apply, Task.ofExcept_apply]
  rcases env.stream frame s with ⟨e | received, t⟩
  · rfl
  · cases h : Frame.read received <;>
      simp [unframed, h, bind, Except.bind, Except.mapError, Except.map]

theorem tcp_logs (env : Environment σ) (ns : Nameserver) (family : Family) (timeout : Duration)
    (message : Bytes) :
    Task.Logs (tcp env.recorded ns family timeout message)
    (Sent ⟨.tcp, ns, family, timeout⟩ message) := by
  intro log s
  simp only [tcp, Task.bind_apply, Task.io_apply, Task.ofExcept_apply, framed_apply,
    Environment.recorded, Environment.recording]
  rcases env.dial ⟨.tcp, ns, family, timeout⟩ s with ⟨e | _, t⟩
  · exact ⟨_, _, t, rfl, .unreachable e⟩
  · cases hf : Frame.write message with
    | error e => exact ⟨_, _, t, rfl, .tooLong rfl hf⟩
    | ok frame =>
      exact ⟨_, _, (env.stream frame t).2, by simp [Except.mapError],
        .stream (env.stream frame t).1 rfl hf⟩

inductive SentSecurely (d : Dial) (name : String) (verify : Bool) (message : Bytes) :
    List Act → Except Error Bytes → Prop where
  | unreachable (e : IoError) :
    SentSecurely d name verify message [.dial d (.error e)] (.error (.io e))
  | tooLong {e : IoError} : Frame.write message = .error e →
    SentSecurely d name verify message [.dial d (.ok ())] (.error (.io e))
  | refused (e : IoError) : SentSecurely d name verify message
    [.dial d (.ok ()), .handshake name verify (.error e)] (.error (.io e))
  | stream {frame : Bytes} (received : Except IoError Bytes) : Frame.write message = .ok frame →
    SentSecurely d name verify message
      [.dial d (.ok ()), .handshake name verify (.ok ()), .stream frame received]
        (unframed received)

theorem tls_logs (env : Environment σ) (ns : Nameserver) (family : Family) (timeout : Duration)
    (name : String) (verify : Bool) (message : Bytes) :
    Task.Logs (tls env.recorded ns family timeout name verify message)
      (SentSecurely ⟨.tcp, ns, family, timeout⟩ name verify message) := by
  intro log s
  simp only [tls, Task.bind_apply, Task.io_apply, Task.ofExcept_apply, framed_apply,
    Environment.recorded, Environment.recording]
  rcases env.dial ⟨.tcp, ns, family, timeout⟩ s with ⟨e | _, t⟩
  · exact ⟨_, _, t, rfl, .unreachable e⟩
  · cases hf : Frame.write message with
    | error e => exact ⟨_, _, t, rfl, .tooLong hf⟩
    | ok frame =>
      simp only [Except.mapError]
      rcases env.handshake name verify t with ⟨e | _, u⟩
      · exact ⟨_, _, u, by simp, .refused e⟩
      · exact ⟨_, _, (env.stream frame u).2, by simp, .stream (env.stream frame u).1 hf⟩

def posted (url : Url) (message : Bytes) : HttpRequest :=
  ⟨.post, url, [("Content-Type", mediaType), ("Accept", mediaType)], message⟩

def asParameter (url : Url) (message : Bytes) : HttpRequest :=
  ⟨.get, url.withParameter "dns" (Text.Base64Url.encode message), [("Accept", mediaType)], []⟩

def ofHttp (url : Url) : Except HttpFailure HttpReply → Except Error Bytes
  | .error f => .error (.http (f.text url))
  | .ok r => if r.status = 200 then r.body.mapError .io
    else .error (.http s!"{r.status} {r.reason}")

inductive Posted (text : String) (message : Bytes) : List Act → Except Error Bytes → Prop where
  | noUrl {e : Url.Error} : Url.ofText text = .error e → Posted text message [] (.error (badUrl e))
  | posted {url : Url} {outcome : Except HttpFailure HttpReply} : Url.ofText text = .ok url →
    (∀ r, outcome = .ok r → r.status ≠ 405) →
    Posted text message [.http (posted url message) outcome] (ofHttp url outcome)
  | refused {url : Url} {r : HttpReply} {outcome : Except HttpFailure HttpReply} :
    Url.ofText text = .ok url →
    r.status = 405 →
    Posted text message [.http (posted url message) (.ok r),
      .http (asParameter url message) outcome]
      (ofHttp (asParameter url message).url outcome)

theorem body_apply (url : Url) (r : HttpReply) (s : σ) :
    (do
      if r.status != 200 then throw (.http s!"{r.status} {r.reason}")
      Task.ofExcept .io r.body : Task σ Bytes) s = (ofHttp url (.ok r), s) := by
  by_cases hok : r.status = 200 <;> simp [ofHttp, hok, Task.ofExcept_apply]

theorem https_of_url {text : String} {url : Url} (h : Url.ofText text = .ok url)
    (env : Environment σ) (message : Bytes) (s : σ) :
    https env text message s =
      let first := env.http (posted url message) s
      match first.1 with
      | .error f => (ofHttp url (.error f), first.2)
      | .ok r =>
        if r.status = 405 then
          let second := env.http (asParameter url message) first.2
          (ofHttp (asParameter url message).url second.1, second.2)
        else (ofHttp url (.ok r), first.2) := by
  rw [https, Task.bind_apply, Task.ofExcept_apply, h]
  simp only [Except.mapError, Task.bind_apply, request, Task.ofAction_apply, posted, asParameter]
  rcases env.http _ s with ⟨f | r, t⟩
  · rfl
  · dsimp only
    by_cases h405 : r.status = 405
    · rw [if_pos h405, if_pos h405, Task.bind_apply, Task.ofAction_apply]
      rcases env.http _ t with ⟨f | r', u⟩
      · rfl
      · exact body_apply _ r' u
    · rw [if_neg h405, if_neg h405, Task.bind_of_ok (Task.pure_apply r t)]
      exact body_apply url r t

theorem https_logs (env : Environment σ) (text : String) (message : Bytes) :
    Task.Logs (https env.recorded text message) (Posted text message) := by
  intro log s
  cases hurl : Url.ofText text with
  | error e =>
    refine ⟨[], _, s, ?_, .noUrl hurl⟩
    rw [https, Task.bind_apply, Task.ofExcept_apply, hurl, List.append_nil]
    rfl
  | ok url =>
    rw [https_of_url hurl]
    simp only [Environment.recorded, Environment.recording]
    rcases env.http (posted url message) s with ⟨f | r, t⟩
    · exact ⟨_, _, t, rfl, .posted hurl (by simp)⟩
    · dsimp only
      by_cases h405 : r.status = 405
      · rw [if_pos h405]
        exact ⟨_, _, _, by rw [List.append_assoc]; rfl, .refused hurl h405⟩
      · rw [if_neg h405]
        exact ⟨_, _, t, rfl, .posted hurl (by simpa using h405)⟩

end Exchange

namespace Exchange

variable {σ τ : Type} {view : τ → σ} {fine : Environment τ} {coarse : Environment σ}

theorem udp_views (h : fine.Views view coarse) (ns : Nameserver) (family : Family)
    (timeout : Duration) (message : Bytes) :
    Task.Views view (udp fine ns family timeout message) (udp coarse ns family timeout message) :=
  .bind (.ofAction (h.dial _)) fun _ => .ofAction (h.datagram _)

theorem framed_views (h : fine.Views view coarse) (frame : Bytes) :
    Task.Views view (framed fine frame) (framed coarse frame) :=
  .bind (.ofAction (h.stream _)) fun _ => .bind (.ofExcept _ _) fun _ => .pure _

theorem tls_views (h : fine.Views view coarse) (ns : Nameserver) (family : Family)
    (timeout : Duration) (name : String) (verify : Bool) (message : Bytes) :
    Task.Views view (tls fine ns family timeout name verify message)
      (tls coarse ns family timeout name verify message) :=
  .bind (.ofAction (h.dial _)) fun _ => .bind (.ofExcept _ _) fun _ =>
    .bind (.ofAction (h.handshake _ _)) fun _ => framed_views h _

theorem tcp_views (h : fine.Views view coarse) (ns : Nameserver) (family : Family)
    (timeout : Duration) (message : Bytes) :
    Task.Views view (tcp fine ns family timeout message) (tcp coarse ns family timeout message) :=
  .bind (.ofAction (h.dial _)) fun _ => .bind (.ofExcept _ _) fun _ => framed_views h _

end Exchange

namespace Classic

variable {σ τ : Type} {view : τ → σ} {fine : Environment τ} {coarse : Environment σ} (c : Classic)

theorem exchange_views (h : fine.Views view coarse) (network : Network) (message : Bytes) :
    Task.Views view (c.exchange fine network message) (c.exchange coarse network message) := by
  unfold exchange
  dsimp only
  split
  · exact Exchange.tls_views h _ _ _ _ _ _
  · exact .ite (Exchange.tcp_views h _ _ _ _) (Exchange.udp_views h _ _ _ _)

theorem lookup_views (h : fine.Views view coarse) (question : Question) :
    Task.Views view (c.lookup fine question) (c.lookup coarse question) := by
  refine .bind (.run h.queryIds) fun ids => ?_
  intro s
  rw [Inquiry.run_map view _ (c.exchange_views h)]
  simp only [h.elapsed]

end Classic

namespace DnsCrypt

variable {σ τ : Type} {view : τ → σ}

theorem encryptQuery_views {fine : RandomSource τ} {coarse : RandomSource σ}
    (h : ∀ s, coarse 12 (view s) = (fine 12 s).map id view) (c : Certificate)
    (keys : ClientKeys) (query : Bytes) (s : τ) :
    encryptQuery coarse c keys query (view s) = (encryptQuery fine c keys query s).map id view := by
  unfold encryptQuery
  rw [h s]
  dsimp only
  split
  · rfl
  · split
    · rfl
    · cases SharedKey.agree c.construction c.resolverKey keys.secret <;> rfl

end DnsCrypt

namespace Encrypted

variable {σ τ : Type} {view : τ → σ} {fine : Environment τ} {coarse : Environment σ} (e : Encrypted)

theorem send_views (h : fine.Views view coarse) (network : Network) (packet : Bytes) :
    Task.Views view (e.send fine network packet) (e.send coarse network packet) :=
  .ite (Exchange.tcp_views h _ _ _ _) (Exchange.udp_views h _ _ _ _)

theorem askCertificates_views (h : fine.Views view coarse) (query : Query) (network : Network) :
    Task.Views view (e.askCertificates fine query network)
    (e.askCertificates coarse query network) :=
  .bind (e.send_views h network query.encode) fun _ => .bind (.ofExcept _ _) fun r => by
    dsimp only
    split
    · exact .bind (.throw _) fun _ => .pure _
    · exact .pure _

theorem published_views (h : fine.Views view coarse) :
    Task.Views view (e.published fine) (e.published coarse) := by
  refine .bind (.ofExcept _ _) fun name => .bind (.run h.queryIds) fun ids =>
    .bind (e.askCertificates_views h _ _) fun (truncated, texts) => .ite (.pure _) ?_
  exact .bind (e.askCertificates_views h _ _) fun (truncated, texts) =>
    .ite (.bind (.throw _) fun _ => .pure _) (.pure _)

theorem fetchCertificate_views (h : fine.Views view coarse) :
    Task.Views view (e.fetchCertificate fine) (e.fetchCertificate coarse) := by
  refine .bind (e.published_views h) fun texts => .bind (.get fun s => ?_) fun now => ?_
  · rw [Environment.now, Environment.now, h.wallClock]
  · dsimp only
    split
    · exact .pure _
    · exact .throw _

def seen (view : τ → σ) : State τ → State σ := fun s => (s.1, view s.2)

theorem lift_views {α : Type} {t : Task τ α} {u : Task σ α} (h : Task.Views view t u) :
    Task.Views (seen view) (lift t) (lift u) := by
  intro s
  simp only [lift, seen, h s.2]
  rfl

theorem certificate_views (h : fine.Views view coarse) :
    Task.Views (seen view) (e.certificate fine) (e.certificate coarse) := by
  intro s
  simp only [certificate, seen, Environment.now, h.wallClock]
  split
  · rfl
  · rw [e.fetchCertificate_views h s.2]
    rcases e.fetchCertificate fine s.2 with ⟨_ | _, _⟩ <;> rfl

theorem exchange_views (h : fine.Views view coarse) (c : DnsCrypt.Certificate) (network : Network)
    (message : Bytes) :
    Task.Views (seen view) (e.exchange fine c network message)
    (e.exchange coarse c network message) := by
  have hpacket := DnsCrypt.encryptQuery_views (h.random 12) c e.keys message
  refine .bind (lift_views (.ofAction hpacket)) fun r => ?_
  refine .bind (lift_views (e.send_views h network r.1)) fun reply => ?_
  split
  · exact .pure _
  · exact .bind (fun _ => rfl) fun _ => .throw _

theorem lookup_views (h : fine.Views view coarse) (question : Question) :
    Task.Views (seen view) (e.lookup fine question) (e.lookup coarse question) := by
  refine .bind (e.certificate_views h) fun c => .bind (lift_views (.run h.queryIds)) fun ids => ?_
  intro s
  rw [Inquiry.run_map (seen view) _ (e.exchange_views h c)]
  simp only [seen, h.elapsed]

end Encrypted

end StubResolver
