import StubResolver.Proofs.CertificateFetch

/-!
Two outside worlds side by side. Tasks that do the same as long as they are answered alike
leave equal records if they are: their requests tell nothing but what the answers so far do.
Fetching certificates is such a task.
-/

set_option autoImplicit false

namespace StubResolver

inductive Request where
  | dial (d : Dial)
  | handshake (serverName : String) (verify : Bool)
  | datagram (message : Bytes)
  | stream (written : Bytes)
  | http (request : HttpRequest)
  deriving DecidableEq, Repr

def Act.request : Act → Request
  | dial d _ => .dial d
  | handshake name verify _ => .handshake name verify
  | datagram message _ => .datagram message
  | stream written _ => .stream written
  | http request _ => .http request

/-- After equal beginnings of the two records, equal requests have equal outcomes. -/
def AnsweredAlike (acts acts' : List Act) : Prop :=
  ∀ before a b, before ++ [a] <+: acts → before ++ [b] <+: acts' → a.request = b.request → a = b

theorem answeredAlike_self (acts : List Act) : AnsweredAlike acts acts := by
  intro before a b ha hb _
  have hlen : (before ++ [a]).length = (before ++ [b]).length := by simp
  have heq := (List.prefix_iff_eq_take.1 ha).trans (hlen ▸ (List.prefix_iff_eq_take.1 hb).symm)
  simpa using heq

theorem AnsweredAlike.left {x y x' y' : List Act} (h : AnsweredAlike (x ++ y) (x' ++ y')) :
    AnsweredAlike x x' := fun before a b ha hb =>
  h before a b (ha.trans (List.prefix_append x y)) (hb.trans (List.prefix_append x' y'))

theorem AnsweredAlike.right {x y y' : List Act} (h : AnsweredAlike (x ++ y) (x ++ y')) :
    AnsweredAlike y y' := by
  intro before a b ha hb
  refine h (x ++ before) a b ?_ ?_
  · simpa using ha
  · simpa using hb

def Task.Concur {σ τ α : Type} (x : Task (List Act × σ) α) (y : Task (List Act × τ) α) : Prop :=
  ∀ log log' s t, ∃ acts acts' r r' s' t', x (log, s) = (r, log ++ acts, s') ∧
    y (log', t) = (r', log' ++ acts', t') ∧ (AnsweredAlike acts acts' → acts = acts' ∧ r = r')

namespace Task

variable {σ τ α β ε : Type}

theorem Concur.pure (a : α) :
    Concur (Pure.pure a : Task (List Act × σ) α) (Pure.pure a : Task (List Act × τ) α) :=
  fun log log' s t => ⟨[], [], .ok a, .ok a, s, t, by simp, by simp, fun _ => ⟨rfl, rfl⟩⟩

theorem Concur.throw (e : Error) :
    Concur (throw e : Task (List Act × σ) α) (throw e : Task (List Act × τ) α) :=
  fun log log' s t => ⟨[], [], .error e, .error e, s, t, by simp, by simp, fun _ => ⟨rfl, rfl⟩⟩

theorem Concur.ofExcept (wrap : ε → Error) (r : Except ε α) :
    Concur (Task.ofExcept wrap r : Task (List Act × σ) α)
    (Task.ofExcept wrap r : Task (List Act × τ) α) :=
  fun log log' s t => ⟨[], [], r.mapError wrap, r.mapError wrap, s, t, by simp [ofExcept_apply],
    by simp [ofExcept_apply], fun _ => ⟨rfl, rfl⟩⟩

theorem Concur.io (act : Except IoError α → Act) (hinj : ∀ r r', act r = act r' → r = r')
    (hrequest : ∀ r r', (act r).request = (act r').request) (service : Action σ IoError α)
    (service' : Action τ IoError α) :
    Concur (Task.io (Environment.recording act service))
    (Task.io (Environment.recording act service')) := by
  intro log log' s t
  refine ⟨[act (service s).1], [act (service' t).1], (service s).1.mapError .io,
    (service' t).1.mapError .io, (service s).2, (service' t).2, by rw [io_apply]; rfl,
    by rw [io_apply]; rfl, fun h => ?_⟩
  have hact := h [] _ _ (List.prefix_refl _) (List.prefix_refl _) (hrequest _ _)
  rw [hact, hinj _ _ hact]
  exact ⟨rfl, rfl⟩

theorem Concur.logs {x : Task (List Act × σ) α} {y : Task (List Act × τ) α}
    (h : Concur x y) (t : τ) :
    Logs x fun _ _ => True := fun log s => by
  obtain ⟨acts, -, r, -, s', -, hx, -, -⟩ := h log [] s t
  exact ⟨acts, r, s', hx, trivial⟩

theorem Concur.symm {x : Task (List Act × σ) α} {y : Task (List Act × τ) α}
    (h : Concur x y) : Concur y x := by
  intro log log' s t
  obtain ⟨acts, acts', r, r', s', t', hx, hy, hsame⟩ := h log' log t s
  refine ⟨acts', acts, r', r, t', s', hy, hx, fun halike => ?_⟩
  obtain ⟨rfl, rfl⟩ := hsame fun before a b ha hb hab => (halike before b a hb ha hab.symm).symm
  exact ⟨rfl, rfl⟩

theorem logs_bind {x : Task (List Act × σ) α} {f : α → Task (List Act × σ) β}
    {log acts : List Act} {s t : σ} {r : Except Error α} (hx : x (log, s) = (r, log ++ acts, t))
    (hf : ∀ a, Logs (f a) fun _ _ => True) :
    ∃ more q u, (x >>= f) (log, s) = (q, log ++ (acts ++ more), u) := by
  rw [bind_apply, hx]
  cases r with
  | error e => exact ⟨[], .error e, t, by simp⟩
  | ok a =>
    obtain ⟨more, q, u, hq, -⟩ := hf a (log ++ acts) t
    exact ⟨more, q, u, by simp [hq]⟩

theorem Concur.bind {x : Task (List Act × σ) α} {y : Task (List Act × τ) α}
    {f : α → Task (List Act × σ) β} {g : α → Task (List Act × τ) β} (h : Concur x y)
    (hf : ∀ a, Concur (f a) (g a)) :
    Concur (x >>= f) (y >>= g) := by
  intro log log' s t
  obtain ⟨acts, acts', r, r', s', t', hx, hy, hsame⟩ := h log log' s t
  by_cases halike : AnsweredAlike acts acts'
  · obtain ⟨rfl, rfl⟩ := hsame halike
    rw [bind_apply, bind_apply, hx, hy]
    cases r with
    | error e => exact ⟨acts, acts, .error e, .error e, s', t', rfl, rfl, fun _ => ⟨rfl, rfl⟩⟩
    | ok a =>
      obtain ⟨more, more', q, q', u, u', hq, hq', hmore⟩ := hf a (log ++ acts) (log' ++ acts) s' t'
      refine ⟨acts ++ more, acts ++ more', q, q', u, u', by simp [hq], by simp [hq'],
        fun halike => ?_⟩
      obtain ⟨rfl, rfl⟩ := hmore halike.right
      exact ⟨rfl, rfl⟩
  · -- Once the answers differ nothing is compared any more, but both records still only grow.
    obtain ⟨more, q, u, hq⟩ := logs_bind hx fun a => (hf a).logs t
    obtain ⟨more', q', u', hq'⟩ := logs_bind hy fun a => (hf a).symm.logs s
    exact ⟨acts ++ more, acts' ++ more', q, q', u, u', hq, hq', fun h => absurd h.left halike⟩

theorem Concur.ite {p : Prop} [Decidable p] {x x' : Task (List Act × σ) α}
    {y y' : Task (List Act × τ) α} (h : Concur x y) (h' : Concur x' y') :
    Concur (if p then x else x') (if p then y else y') := by
  split <;> assumption

end Task

namespace Exchange

variable {σ τ : Type} (env : Environment σ) (env' : Environment τ)

theorem dial_concur (d : Dial) :
    Task.Concur (Task.io (env.recorded.dial d)) (Task.io (env'.recorded.dial d)) :=
  .io (.dial d) (fun _ _ h => by cases h; rfl) (fun _ _ => rfl) _ _

theorem udp_concur (ns : Nameserver) (family : Family) (timeout : Duration) (message : Bytes) :
    Task.Concur (udp env.recorded ns family timeout message)
    (udp env'.recorded ns family timeout message) :=
  .bind (dial_concur env env' _) fun _ =>
    .io (.datagram message) (fun _ _ h => by cases h; rfl) (fun _ _ => rfl) _ _

theorem tcp_concur (ns : Nameserver) (family : Family) (timeout : Duration) (message : Bytes) :
    Task.Concur (tcp env.recorded ns family timeout message)
    (tcp env'.recorded ns family timeout message) := by
  refine .bind (dial_concur env env' _) fun _ => .bind (.ofExcept _ _) fun frame => ?_
  refine .bind (.io (.stream frame) (fun _ _ h => by cases h; rfl) (fun _ _ => rfl) _ _)
    fun received => ?_
  exact .bind (.ofExcept _ _) fun _ => .pure _

end Exchange

namespace Encrypted

variable {σ τ : Type} (e : Encrypted)

theorem send_concur (env : Environment σ) (env' : Environment τ) (network : Network)
    (packet : Bytes) :
    Task.Concur (e.send env.recorded network packet) (e.send env'.recorded network packet) :=
  .ite (Exchange.tcp_concur env env' _ _ _ _) (Exchange.udp_concur env env' _ _ _ _)

theorem askCertificates_concur (env : Environment σ) (env' : Environment τ) (q : Query)
    (network : Network) :
    Task.Concur (e.askCertificates env.recorded q network)
    (e.askCertificates env'.recorded q network) :=
  .bind (e.send_concur env env' network q.encode) fun _ => .bind (.ofExcept _ _) fun r => by
    dsimp only
    split
    · exact .bind (.throw _) fun _ => .pure _
    · exact .pure _

theorem answersTo_concur (env : Environment σ) (env' : Environment τ) (q : Query) :
    Task.Concur (e.answersTo env.recorded q) (e.answersTo env'.recorded q) := by
  refine .bind (e.askCertificates_concur env env' _ _) fun (truncated, texts) => .ite (.pure _) ?_
  exact .bind (e.askCertificates_concur env env' _ _) fun (truncated, texts) =>
    .ite (.bind (.throw _) fun _ => .pure _) (.pure _)

end Encrypted

end StubResolver
