import StubResolver.Proofs.Recording
import StubResolver.SystemDial

set_option autoImplicit false

namespace StubResolver

namespace SystemDial

inductive Effort where
  | asked (host : String) (reported : Except IoError (List IpAddress))
  | tried (protocol : Protocol) (timeout : Duration) (address : SocketAddress)
    (outcome : Except IoError Unit)
  deriving DecidableEq

variable {σ : Type}

def noted {ω ε α : Type} (note : Except ε α → ω) (service : Action σ ε α) :
    Action (List ω × σ) ε α := fun s =>
  let r := service s.2
  (r.1, (s.1 ++ [note r.1], r.2))

def notedHosts (hostAddresses : String → Action σ IoError (List IpAddress)) (host : String) :
    Action (List Effort × σ) IoError (List IpAddress) :=
  noted (.asked host) (hostAddresses host)

def notedConnect (connect : Protocol → Duration → SocketAddress → Action σ IoError Unit)
    (protocol : Protocol) (timeout : Duration) (address : SocketAddress) :
    Action (List Effort × σ) IoError Unit :=
  noted (.tried protocol timeout address) (connect protocol timeout address)

def usable (d : Dial) (ips : List IpAddress) : List SocketAddress :=
  (ips.map fun ip => ⟨ip, d.nameserver.port⟩).filter fun a => d.family.holds a.ip

def failedTry (d : Dial) (p : SocketAddress × IoError) : Effort :=
  .tried d.protocol d.timeout p.1 (.error p.2)

/--
The attempts to connect to one of some addresses: one after the other up to the first that succeeds.
Without an address there is no attempt; if none succeeds, the error is that of the last.
-/
inductive Attempted (d : Dial) :
    List SocketAddress → List Effort → Except IoError SocketAddress → Prop where
  | unusable : Attempted d [] [] (.error (noUsableAddress d.nameserver d.family))
  | connected (failures : List (SocketAddress × IoError)) (a : SocketAddress)
    (rest : List SocketAddress) :
    Attempted d (failures.map Prod.fst ++ a :: rest)
      (failures.map (failedTry d) ++ [.tried d.protocol d.timeout a (.ok ())]) (.ok a)
  | failed (failures : List (SocketAddress × IoError)) (last : SocketAddress × IoError) :
    Attempted d ((failures ++ [last]).map Prod.fst)
      ((failures ++ [last]).map (failedTry d)) (.error last.2)

inductive Dialed (d : Dial) : List Effort → Except IoError SocketAddress → Prop where
  | literal {ip : IpAddress} {efforts : List Effort} {r : Except IoError SocketAddress} :
    d.nameserver.ip = some ip → Attempted d (usable d [ip]) efforts r → Dialed d efforts r
  | unspeakable : d.nameserver.ip = none → '\x00' ∈ d.nameserver.host.toList →
    Dialed d [] (.error ⟨.invalidInput, "file name contained an unexpected NUL byte"⟩)
  | unreported {e : IoError} : d.nameserver.ip = none → '\x00' ∉ d.nameserver.host.toList →
    Dialed d [.asked d.nameserver.host (.error e)] (.error e)
  | reported {ips : List IpAddress} {efforts : List Effort} {r : Except IoError SocketAddress} :
    d.nameserver.ip = none → '\x00' ∉ d.nameserver.host.toList →
      Attempted d (usable d ips) efforts r →
    Dialed d (.asked d.nameserver.host (.ok ips) :: efforts) r

def connectAny (connect : SocketAddress → Action σ IoError Unit) (d : Dial) :
    List SocketAddress → Action σ IoError SocketAddress
  | [] => fun s => (.error (noUsableAddress d.nameserver d.family), s)
  | a :: as => firstConnected connect notConnected (a :: as)

variable {hostAddresses : String → Action σ IoError (List IpAddress)}
  {connect : Protocol → Duration → SocketAddress → Action σ IoError Unit}

theorem firstConnected_cons (d : Dial) (a : SocketAddress) (as : List SocketAddress) (e : IoError)
    (log : List Effort) (s : σ) :
    firstConnected (notedConnect connect d.protocol d.timeout) e (a :: as) (log, s) =
      match connect d.protocol d.timeout a s with
      | (.ok (), t) => (.ok a, log ++ [.tried d.protocol d.timeout a (.ok ())], t)
      | (.error e, t) =>
        firstConnected (notedConnect connect d.protocol d.timeout) e as
          (log ++ [failedTry d (a, e)], t) := by
  rw [firstConnected, notedConnect, noted]
  dsimp only
  rcases connect d.protocol d.timeout a s with ⟨e' | _, t⟩ <;> rfl

variable (connect) in
theorem firstConnected_noted (d : Dial) (as : List SocketAddress) (e : IoError)
    (log : List Effort) (s : σ) :
    ∃ (efforts : List Effort) (r : Except IoError SocketAddress) (t : σ),
      firstConnected (notedConnect connect d.protocol d.timeout) e as (log, s) =
        (r, log ++ efforts, t) ∧
      ((∃ (l : List (SocketAddress × IoError)) (a : SocketAddress) (rest : List SocketAddress),
          as = l.map Prod.fst ++ a :: rest ∧ r = .ok a ∧
          efforts = l.map (failedTry d) ++ [.tried d.protocol d.timeout a (.ok ())]) ∨
        ∃ l : List (SocketAddress × IoError), as = l.map Prod.fst ∧ efforts = l.map (failedTry d) ∧
          r = .error ((l.getLast?.map Prod.snd).getD e)) := by
  induction as generalizing e log s with
  | nil =>
    rw [firstConnected]
    refine ⟨[], .error e, s, ?_, .inr ⟨[], rfl, rfl, rfl⟩⟩
    rw [List.append_nil]
  | cons a as ih =>
    rw [firstConnected_cons]
    rcases connect d.protocol d.timeout a s with ⟨e' | _, t⟩
    · obtain ⟨efforts, r, u, hrest, hcases⟩ := ih e' (log ++ [failedTry d (a, e')]) t
      refine ⟨failedTry d (a, e') :: efforts, r, u, ?_, ?_⟩
      · exact hrest.trans (by rw [List.append_assoc]; rfl)
      · cases hcases with
        | inl hconnected =>
          obtain ⟨l, b, rest, rfl, rfl, rfl⟩ := hconnected
          exact .inl ⟨(a, e') :: l, b, rest, rfl, rfl, rfl⟩
        | inr hfailed =>
          obtain ⟨l, rfl, rfl, rfl⟩ := hfailed
          refine .inr ⟨(a, e') :: l, rfl, rfl, ?_⟩
          rw [List.getLast?_cons]
          cases l.getLast? <;> rfl
    · exact ⟨_, _, t, rfl, .inl ⟨[], a, as, rfl, rfl, rfl⟩⟩

variable (connect) in
theorem connectAny_noted (d : Dial) (as : List SocketAddress) (log : List Effort) (s : σ) :
    ∃ efforts r t, connectAny (notedConnect connect d.protocol d.timeout) d as (log, s) =
      (r, log ++ efforts, t) ∧
      Attempted d as efforts r := by
  cases as with
  | nil => exact ⟨[], _, s, by rw [connectAny, List.append_nil], .unusable⟩
  | cons a as =>
    obtain ⟨efforts, r, t, hrun, hcases⟩ :=
      firstConnected_noted connect d (a :: as) notConnected log s
    refine ⟨efforts, r, t, hrun, ?_⟩
    cases hcases with
    | inl hconnected =>
      obtain ⟨l, b, rest, has, rfl, rfl⟩ := hconnected
      rw [has]
      exact .connected l b rest
    | inr hfailed =>
      obtain ⟨l, has, rfl, rfl⟩ := hfailed
      rcases List.eq_nil_or_concat l with rfl | ⟨front, last, rfl⟩
      · cases has
      · rw [List.concat_eq_append] at has ⊢
        rw [has, List.getLast?_concat]
        exact .failed front last

theorem dial_of_ip {d : Dial} {ip : IpAddress} (h : d.nameserver.ip = some ip) (s : σ) :
    dial hostAddresses connect d s = connectAny (connect d.protocol d.timeout) d
      (usable d [ip]) s := by
  simp only [dial, socketAddresses, h]
  rw [usable, List.map_singleton]
  split <;> simp [*, connectAny]

theorem dial_of_nul {d : Dial} (h : d.nameserver.ip = none)
    (hnul : '\x00' ∈ d.nameserver.host.toList) (s : σ) :
    dial hostAddresses connect d s =
      (.error ⟨.invalidInput, "file name contained an unexpected NUL byte"⟩, s) := by
  simp only [dial, socketAddresses, h, if_pos (List.contains_iff_mem.2 hnul)]

theorem dial_of_host {d : Dial} (h : d.nameserver.ip = none)
    (hnul : '\x00' ∉ d.nameserver.host.toList) (s : σ) :
    dial hostAddresses connect d s =
      match hostAddresses d.nameserver.host s with
      | (.error e, t) => (.error e, t)
      | (.ok ips, t) => connectAny (connect d.protocol d.timeout) d (usable d ips) t := by
  have hcontains : ¬ d.nameserver.host.toList.contains '\x00' = true := by simpa using hnul
  simp only [dial, socketAddresses, h, if_neg hcontains]
  rcases hostAddresses d.nameserver.host s with ⟨e | ips, t⟩
  · rfl
  · dsimp only
    rw [usable]
    split <;> simp [*, connectAny]

theorem dial_noted (d : Dial) (log : List Effort) (s : σ) :
    ∃ efforts r t, dial (notedHosts hostAddresses) (notedConnect connect) d (log, s) =
      (r, log ++ efforts, t) ∧
      Dialed d efforts r := by
  cases hip : d.nameserver.ip with
  | some ip =>
    obtain ⟨efforts, r, t, hrun, hattempted⟩ := connectAny_noted connect d (usable d [ip]) log s
    exact ⟨efforts, r, t, (dial_of_ip hip _).trans hrun, .literal hip hattempted⟩
  | none =>
    by_cases hnul : '\x00' ∈ d.nameserver.host.toList
    · rw [dial_of_nul hip hnul]
      exact ⟨[], _, s, by rw [List.append_nil], .unspeakable hip hnul⟩
    · rw [dial_of_host hip hnul, notedHosts, noted]
      dsimp only
      rcases hostAddresses d.nameserver.host s with ⟨e | ips, t⟩
      · exact ⟨_, _, t, rfl, .unreported hip hnul⟩
      · obtain ⟨efforts, r, u, hrun, hattempted⟩ := connectAny_noted connect d (usable d ips)
          (log ++ [.asked d.nameserver.host (.ok ips)]) t
        refine ⟨.asked d.nameserver.host (.ok ips) :: efforts, r, u, ?_,
          .reported hip hnul hattempted⟩
        exact hrun.trans (by rw [List.append_assoc]; rfl)

theorem firstConnected_views (d : Dial) (as : List SocketAddress) (e : IoError)
    (log : List Effort) (s : σ) :
    firstConnected (connect d.protocol d.timeout) e as s =
      (firstConnected (notedConnect connect d.protocol d.timeout) e as (log, s)).map
        id Prod.snd := by
  induction as generalizing e log s with
  | nil => rfl
  | cons a as ih =>
    rw [firstConnected_cons, firstConnected]
    rcases connect d.protocol d.timeout a s with ⟨e' | _, t⟩
    · exact ih e' _ t
    · rfl

theorem connectAny_views (d : Dial) (as : List SocketAddress) (log : List Effort) (s : σ) :
    connectAny (connect d.protocol d.timeout) d as s =
      (connectAny (notedConnect connect d.protocol d.timeout) d as (log, s)).map id Prod.snd := by
  cases as with
  | nil => rfl
  | cons a as => exact firstConnected_views d (a :: as) notConnected log s

theorem dial_views (d : Dial) (log : List Effort) (s : σ) :
    dial hostAddresses connect d s =
      (dial (notedHosts hostAddresses) (notedConnect connect) d (log, s)).map id Prod.snd := by
  cases hip : d.nameserver.ip with
  | some ip =>
    rw [dial_of_ip hip, dial_of_ip hip]
    exact connectAny_views d (usable d [ip]) log s
  | none =>
    by_cases hnul : '\x00' ∈ d.nameserver.host.toList
    · rw [dial_of_nul hip hnul, dial_of_nul hip hnul]
      rfl
    · rw [dial_of_host hip hnul, dial_of_host hip hnul, notedHosts, noted]
      dsimp only
      rcases hostAddresses d.nameserver.host s with ⟨e | ips, t⟩
      · rfl
      · exact connectAny_views d (usable d ips) _ t

end SystemDial

structure Dialing where
  dial : Dial
  efforts : List SystemDial.Effort
  outcome : Except IoError SocketAddress
  deriving DecidableEq

structure Dialing.For (ns : Nameserver) (family : Family) (x : Dialing) : Prop where
  nameserver_eq : x.dial.nameserver = ns
  family_eq : x.dial.family = family
  dialed : SystemDial.Dialed x.dial x.efforts x.outcome

def Dialing.Connected (x : Dialing) : Prop := ∃ a, x.outcome = .ok a

/-- All connections were made, but perhaps for the last one; then its failure is the result. -/
inductive Dialing.Ended {α : Type} (P : Dialing → Prop) : List Dialing → Except Error α → Prop where
  | connected {xs : List Dialing} {result : Except Error α} : (∀ x ∈ xs, P x ∧ x.Connected) →
    Ended P xs result
  | failed {xs : List Dialing} {x : Dialing} {e : IoError} : (∀ x ∈ xs, P x ∧ x.Connected) → P x →
    x.outcome = .error e → Ended P (xs ++ [x]) (.error (.io e))

namespace Dialing

variable {α β : Type} {P : Dialing → Prop} {xs ys : List Dialing}

theorem Ended.of_ok {a : α} (h : Ended P xs (.ok a)) : ∀ x ∈ xs, P x ∧ x.Connected := by
  cases h with
  | connected h => exact h

theorem Ended.of_error {e : Error} (h : Ended P xs (.error e : Except Error α)) :
    Ended P xs (.error e : Except Error β) := by
  cases h with
  | connected h => exact .connected h
  | failed h hx he => exact .failed h hx he

theorem Ended.eq_nil {result : Except Error α}
    (h : Ended (fun _ => False) xs result) : xs = [] := by
  cases h with
  | connected h => exact List.eq_nil_iff_forall_not_mem.2 fun x hx => (h x hx).1
  | failed _ hx _ => exact hx.elim

theorem Ended.append {result : Except Error α} (hxs : ∀ x ∈ xs, P x ∧ x.Connected)
    (h : Ended P ys result) :
    Ended P (xs ++ ys) result := by
  cases h with
  | connected h => exact .connected (List.forall_mem_append.2 ⟨hxs, h⟩)
  | failed h hx he =>
    rw [← List.append_assoc]
    exact .failed (List.forall_mem_append.2 ⟨hxs, h⟩) hx he

theorem Ended.imp {Q : Dialing → Prop} {result : Except Error α} (h : Ended P xs result)
    (himp : ∀ x, P x → Q x) :
    Ended Q xs result := by
  cases h with
  | connected h => exact .connected fun x hx => ⟨himp x (h x hx).1, (h x hx).2⟩
  | failed h hx he => exact .failed (fun y hy => ⟨himp y (h y hy).1, (h y hy).2⟩) (himp _ hx) he

theorem Ended.forall {result : Except Error α} (h : Ended P xs result) : ∀ x ∈ xs, P x := by
  cases h with
  | connected h => exact fun x hx => (h x hx).1
  | failed h hx _ =>
    exact List.forall_mem_append.2 ⟨fun x hx => (h x hx).1, List.forall_mem_singleton.2 hx⟩

end Dialing

namespace Environment

variable {σ : Type} (env : Environment σ)
  (connect : Protocol → Duration → SocketAddress → Action σ IoError Unit)

def overSockets : Environment σ :=
  { env with dial := fun d s =>
      let r := SystemDial.dial env.hostAddresses connect d s
      (r.1.map fun _ => (), r.2) }

def unheeded {ω α : Type} (service : σ → α × σ) : List ω × σ → α × (List ω × σ) := fun s =>
  let r := service s.2
  (r.1, (s.1, r.2))

def dialing : Environment (List Dialing × σ) where
  dial := fun d s =>
    let r :=
      SystemDial.dial (SystemDial.notedHosts env.hostAddresses)
        (SystemDial.notedConnect connect) d ([], s.2)
    (r.1.map fun _ => (), (s.1 ++ [⟨d, r.2.1, r.1⟩], r.2.2))
  handshake := fun name verify => unheeded (env.handshake name verify)
  datagram := fun message => unheeded (env.datagram message)
  stream := fun written => unheeded (env.stream written)
  http := fun request => unheeded (env.http request)
  hostAddresses := fun name => unheeded (env.hostAddresses name)
  elapsed := fun s => env.elapsed s.2
  wallClock := fun s => env.wallClock s.2
  queryIds := unheeded env.queryIds
  random := fun n => unheeded (env.random n)

theorem views_dialing : Views Prod.snd (env.dialing connect) (env.overSockets connect) := by
  constructor
  case dial =>
    intro d s
    simp only [overSockets, dialing]
    rw [SystemDial.dial_views d [] s.2]
    rfl
  all_goals
    intros
    rfl

end Environment

namespace Task

variable {τ α β ε : Type} {log : τ → List Dialing} {P : Dialing → Prop}

def Dials (log : τ → List Dialing) (P : Dialing → Prop) (task : Task τ α) : Prop :=
  ∀ s, ∃ xs, log (task s).2 = log s ++ xs ∧ Dialing.Ended P xs (task s).1

theorem Dials.imp {Q : Dialing → Prop} {task : Task τ α} (h : task.Dials log P)
    (himp : ∀ x, P x → Q x) :
    task.Dials log Q := by
  intro s
  obtain ⟨xs, hxs, hended⟩ := h s
  exact ⟨xs, hxs, hended.imp himp⟩

theorem Dials.of_unchanged {task : Task τ α}
    (h : ∀ s, log (task s).2 = log s) : task.Dials log P := by
  intro s
  refine ⟨[], ?_, .connected fun x hx => nomatch hx⟩
  rw [h s, List.append_nil]

theorem Dials.bind {x : Task τ α} {f : α → Task τ β} (hx : x.Dials log P)
    (hf : ∀ a, (f a).Dials log P) :
    (x >>= f).Dials log P := by
  intro s
  obtain ⟨xs, hxs, hended⟩ := hx s
  rw [bind_apply]
  rcases hr : x s with ⟨e | a, t⟩
  · rw [hr] at hxs hended
    exact ⟨xs, hxs, hended.of_error⟩
  · rw [hr] at hxs hended
    dsimp only at hxs
    obtain ⟨ys, hys, hrest⟩ := hf a t
    refine ⟨xs ++ ys, ?_, hrest.append hended.of_ok⟩
    rw [hys, hxs, List.append_assoc]

theorem Dials.pure (a : α) : (Pure.pure a : Task τ α).Dials log P := .of_unchanged fun _ => rfl

theorem Dials.throw (e : Error) : (throw e : Task τ α).Dials log P := .of_unchanged fun _ => rfl

theorem Dials.get (f : τ → α) : (get f).Dials log P := .of_unchanged fun _ => rfl

theorem Dials.run {f : τ → α × τ} (h : ∀ s, log (f s).2 = log s) :
    (run f).Dials log P := .of_unchanged h

theorem Dials.ofExcept (wrap : ε → Error) (r : Except ε α) :
    (ofExcept wrap r : Task τ α).Dials log P :=
  .of_unchanged fun s => by rw [ofExcept_apply]

theorem Dials.ofAction {wrap : ε → Error} {act : Action τ ε α} (h : ∀ s, log (act s).2 = log s) :
    (ofAction wrap act).Dials log P :=
  .of_unchanged fun s => by rw [ofAction_apply, h]

theorem Dials.ite {p : Prop} [Decidable p] {task task' : Task τ α} (h : task.Dials log P)
    (h' : task'.Dials log P) :
    (if p then task else task').Dials log P := by
  split <;> assumption

variable {σ : Type}

/-- One connection is made first of all. If that fails, so does the task. -/
def DialsOnce (P : Dialing → Prop) (task : Task (List Dialing × σ) α) : Prop :=
  ∀ s, ∃ x, (task s).2.1 = s.1 ++ [x] ∧ P x ∧ ∀ e, x.outcome = .error e →
    (task s).1 = .error (.io e)

theorem DialsOnce.dials {task : Task (List Dialing × σ) α} (h : task.DialsOnce P) :
    task.Dials Prod.fst P := by
  intro s
  obtain ⟨x, hlog, hx, hfails⟩ := h s
  refine ⟨[x], hlog, ?_⟩
  cases hr : x.outcome with
  | ok a => exact .connected (List.forall_mem_singleton.2 ⟨hx, a, hr⟩)
  | error e =>
    rw [hfails e hr]
    exact .failed (List.forall_mem_nil _) hx hr

theorem dialsOnce_bind (env : Environment σ)
    (connect : Protocol → Duration → SocketAddress → Action σ IoError Unit) (d : Dial)
    {rest : Unit → Task (List Dialing × σ) α} (hrest : (rest ()).Dials Prod.fst fun _ => False) :
    (Task.io ((env.dialing connect).dial d) >>= rest).DialsOnce
      (Dialing.For d.nameserver d.family) := by
  rintro ⟨log, s⟩
  obtain ⟨efforts, r, t, hrun, hdialed⟩ := SystemDial.dial_noted d [] s
  have hdial : (env.dialing connect).dial d (log, s) =
      (r.map fun _ => (), log ++ [⟨d, efforts, r⟩], t) := by
    simp only [Environment.dialing]
    rw [hrun]
    rfl
  rw [bind_apply, io_apply, hdial]
  refine ⟨⟨d, efforts, r⟩, ?_, ⟨rfl, rfl, hdialed⟩, ?_⟩
  · cases r with
    | error e => rfl
    | ok a =>
      obtain ⟨xs, hxs, hended⟩ := hrest (log ++ [⟨d, efforts, .ok a⟩], t)
      rw [hended.eq_nil, List.append_nil] at hxs
      exact hxs
  · rintro e rfl
    rfl

end Task

end StubResolver
