import Mathlib.Order.Defs.Unbundled
import StubResolver.Proofs.Inquiry
import StubResolver.Transport

set_option autoImplicit false

namespace StubResolver

variable {σ : Type} {R : σ → σ → Prop}

namespace Task

variable {α β ε : Type}

def Moves (R : σ → σ → Prop) (task : Task σ α) : Prop := ∀ s, R s (task s).2

theorem Moves.bind [IsTrans σ R] {x : Task σ α} {f : α → Task σ β} (hx : x.Moves R)
    (hf : ∀ a, (f a).Moves R) : (x >>= f).Moves R := by
  intro s
  have hfirst := hx s
  rw [bind_apply]
  cases hr : x s with
  | mk r t =>
    rw [hr] at hfirst
    cases r with
    | error e => exact hfirst
    | ok a => exact trans_of R hfirst (hf a t)

theorem Moves.run {f : σ → α × σ} (h : ∀ s, R s (f s).2) : (run f).Moves R := h

theorem Moves.ofAction {wrap : ε → Error} {act : Action σ ε α} (h : ∀ s, R s (act s).2) :
    (ofAction wrap act).Moves R := by
  intro s
  rw [ofAction_apply]
  exact h s

theorem Moves.ite {p : Prop} [Decidable p] {task task' : Task σ α} (h : task.Moves R)
    (h' : task'.Moves R) :
    (if p then task else task').Moves R := by
  split <;> assumption

variable [Std.Refl R]

theorem Moves.pure (a : α) : (Pure.pure a : Task σ α).Moves R := refl_of R

theorem Moves.throw (e : Error) : (throw e : Task σ α).Moves R := refl_of R

theorem Moves.get (f : σ → α) : (get f).Moves R := refl_of R

theorem Moves.ofExcept (wrap : ε → Error) (r : Except ε α) : (ofExcept wrap r).Moves R := by
  intro s
  rw [ofExcept_apply]
  exact refl_of R s

end Task

/-- Every service keeps to the relation; of the random numbers, a
lookup draws nothing but nonces. -/
structure Environment.Moves (env : Environment σ) (R : σ → σ → Prop) : Prop where
  dial : ∀ d s, R s (env.dial d s).2
  handshake : ∀ n v s, R s (env.handshake n v s).2
  datagram : ∀ m s, R s (env.datagram m s).2
  stream : ∀ m s, R s (env.stream m s).2
  http : ∀ r s, R s (env.http r s).2
  hostAddresses : ∀ n s, R s (env.hostAddresses n s).2
  queryIds : ∀ s, R s (env.queryIds s).2
  nonce : ∀ s, R s (env.random 12 s).2

abbrev Encrypted.Beside (R : σ → σ → Prop) : State σ → State σ → Prop := InvImage R Prod.snd

theorem Encrypted.lift_moves {α : Type} {task : Task σ α} (h : task.Moves R) :
    (lift task).Moves (Beside R) :=
  fun s => h s.2

variable {env : Environment σ} [IsPreorder σ R]

instance isPreorder_invImage {τ : Type} (view : τ → σ) : IsPreorder τ (InvImage R view) where
  refl s := refl_of R (view s)
  trans _ _ _ h h' := trans_of R h h'

namespace Exchange

theorem framed_moves (h : env.Moves R) (frame : Bytes) : (framed env frame).Moves R :=
  .bind (.ofAction (h.stream frame)) fun _ => .bind (.ofExcept _ _) fun _ => .pure _

theorem udp_moves (h : env.Moves R) (ns : Nameserver) (family : Family) (timeout : Duration)
    (message : Bytes) :
    (udp env ns family timeout message).Moves R :=
  .bind (.ofAction (h.dial _)) fun _ => .ofAction (h.datagram message)

theorem tcp_moves (h : env.Moves R) (ns : Nameserver) (family : Family) (timeout : Duration)
    (message : Bytes) :
    (tcp env ns family timeout message).Moves R :=
  .bind (.ofAction (h.dial _)) fun _ => .bind (.ofExcept _ _) fun frame => framed_moves h frame

theorem tls_moves (h : env.Moves R) (ns : Nameserver) (family : Family)
    (timeout : Duration) (name : String) (verify : Bool) (message : Bytes) :
    (tls env ns family timeout name verify message).Moves R :=
  .bind (.ofAction (h.dial _)) fun _ => .bind (.ofExcept _ _) fun frame =>
    .bind (.ofAction (h.handshake name verify)) fun _ => framed_moves h frame

theorem https_moves (h : env.Moves R) (url : String) (message : Bytes) :
    (https env url message).Moves R := by
  refine .bind (.ofExcept _ _) fun url => .bind (.ofAction (h.http _)) fun reply => .ite ?_ ?_
  · exact .bind (.ofAction (h.http _)) fun _ =>
      .ite (.bind (.throw _) fun _ => .ofExcept _ _) (.ofExcept _ _)
  · exact .bind (.pure _) fun _ => .ite (.bind (.throw _) fun _ => .ofExcept _ _) (.ofExcept _ _)

end Exchange

theorem Inquiry.run_moves {exchange : Network → Bytes → Task σ Bytes}
    (h : ∀ n m, (exchange n m).Moves R) (elapsed : σ → Duration) (o : Options) (network : Network)
    (server : String) (question : Question) (ids : Nat → UInt16) :
    (run elapsed exchange o network server question ids).Moves R := by
  intro s
  exact run_preserves network (fun n m _ t ht => trans_of R ht (h n m t)) elapsed o server question
    ids (refl_of R s)

namespace Classic

theorem exchange_moves (h : env.Moves R) (c : Classic) (network : Network) (message : Bytes) :
    (c.exchange env network message).Moves R := by
  unfold exchange
  dsimp only
  split
  · exact Exchange.tls_moves h _ _ _ _ _ _
  · exact .ite (Exchange.tcp_moves h _ _ _ _) (Exchange.udp_moves h _ _ _ _)

theorem lookup_moves (h : env.Moves R) (c : Classic) (question : Question) :
    (c.lookup env question).Moves R :=
  .bind (.run h.queryIds) fun _ => Inquiry.run_moves (exchange_moves h c) _ _ _ _ _ _

end Classic

theorem Https.lookup_moves (h : env.Moves R) (t : Https) (question : Question) :
    (t.lookup env question).Moves R :=
  .bind (.run h.queryIds) fun _ => Inquiry.run_moves
    (fun _ message => Exchange.https_moves h t.url message) _ _ _ _ _ _

theorem OperatingSystem.lookup_moves (h : env.Moves R) (sys : OperatingSystem)
    (question : Question) :
    (sys.lookup env question).Moves R := by
  have hdial : ∀ ns s, R s (SystemDial.socketAddresses env.hostAddresses ns s).2 := by
    intro ns s
    have hhost := h.hostAddresses ns.host s
    unfold SystemDial.socketAddresses
    split
    · exact refl_of R s
    · split
      · exact refl_of R s
      · split <;> next hr => rwa [hr] at hhost
  exact .bind (.get _) fun _ => .bind (.ofAction (hdial _)) fun _ => .bind (.get _) fun _ => .pure _

namespace Encrypted

variable {e : Encrypted}

theorem send_moves (h : env.Moves R) (network : Network) (packet : Bytes) :
    (e.send env network packet).Moves R :=
  .ite (Exchange.tcp_moves h _ _ _ _) (Exchange.udp_moves h _ _ _ _)

theorem askCertificates_moves (h : env.Moves R) (query : Query) (network : Network) :
    (e.askCertificates env query network).Moves R :=
  .bind (send_moves h network query.encode) fun _ => .bind (.ofExcept _ _) fun _ =>
    .ite (.bind (.throw _) fun _ => .pure _) (.pure _)

theorem published_moves (h : env.Moves R) : (e.published env).Moves R := by
  refine .bind (.ofExcept _ _) fun name => .bind (.run h.queryIds) fun ids =>
    .bind (askCertificates_moves h _ _) fun first => .ite (.pure _) ?_
  exact .bind (askCertificates_moves h _ _) fun second =>
    .ite (.bind (.throw _) fun _ => .pure _) (.pure _)

theorem fetchCertificate_moves (h : env.Moves R) : (e.fetchCertificate env).Moves R := by
  refine .bind (published_moves h) fun texts => .bind (.get _) fun now => ?_
  dsimp only
  split
  · exact .pure _
  · exact .throw _

theorem certificate_moves (h : env.Moves R) : (e.certificate env).Moves (Beside R) := by
  intro s
  unfold certificate
  split
  · exact refl_of R s.2
  · have hfetch := fetchCertificate_moves (e := e) h s.2
    split <;> next hr => rwa [hr] at hfetch

theorem encryptQuery_moves (h : env.Moves R) (c : DnsCrypt.Certificate)
    (keys : DnsCrypt.ClientKeys) (query : Bytes) (s : σ) :
    R s (DnsCrypt.encryptQuery env.random c keys query s).2 := by
  unfold DnsCrypt.encryptQuery
  dsimp only
  split
  · exact refl_of R s
  · split
    · exact refl_of R s
    · split
      · exact refl_of R s
      · exact h.nonce s

theorem exchange_moves (h : env.Moves R) (c : DnsCrypt.Certificate) (network : Network)
    (message : Bytes) :
    (e.exchange env c network message).Moves (Beside R) := by
  refine .bind (lift_moves (.ofAction (encryptQuery_moves h c e.keys message))) fun packet =>
    .bind (lift_moves (send_moves h network _)) fun reply => ?_
  split
  · exact .pure _
  · exact .bind (fun s => refl_of R s.2) fun _ => .throw _

theorem lookup_moves (h : env.Moves R) (question : Question) :
    (e.lookup env question).Moves (Beside R) :=
  .bind (certificate_moves h) fun c => .bind (lift_moves (.run h.queryIds)) fun _ =>
    Inquiry.run_moves (exchange_moves h c) _ _ _ _ _ _

end Encrypted

end StubResolver
