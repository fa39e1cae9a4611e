import StubResolver.Proofs.Certificate
import StubResolver.Proofs.Publication
import StubResolver.Proofs.Recording

set_option autoImplicit false

namespace StubResolver

namespace Encrypted

open DnsCrypt (Certificate)
open Exchange (Sent)

variable {σ : Type} (e : Encrypted)

def dialed (network : Network) : Dial :=
  ⟨network.protocol, e.nameserver, network.family, e.options.timeout⟩

theorem send_logs (env : Environment σ) (network : Network) (packet : Bytes) :
    Task.Logs (e.send env.recorded network packet) (Sent (e.dialed network) packet) := by
  obtain ⟨protocol, family, tls⟩ := network
  cases protocol with
  | udp => exact Exchange.udp_logs env e.nameserver family e.options.timeout packet
  | tcp => exact Exchange.tcp_logs env e.nameserver family e.options.timeout packet

def certificateQuery (name : Name) (id : UInt16) : Query := ⟨id, ⟨name, .txt, .internet⟩⟩

/-- What a reply to the query for certificates tells: whether it is
truncated, and the texts in it. -/
def heard (q : Query) (reply : Except Error Bytes) : Except Error (Bool × List Bytes) := do
  let r ← Publication.read (← reply)
  if r.id != q.id then throw .idMismatch
  return (r.truncated, r.texts)

theorem heard_of_read {q : Query} {b : Bytes} {r : Publication.Reply}
    (hr : Publication.read b = .ok r) (hid : r.id = q.id) :
    heard q (.ok b) = .ok (r.truncated, r.texts) := by
  simp [heard, bind, Except.bind, hr, hid, pure, Except.pure]

theorem askCertificates_apply (env : Environment σ) (q : Query) (network : Network) (s : σ) :
    e.askCertificates env q network s =
      (heard q (e.send env network q.encode s).1, (e.send env network q.encode s).2) := by
  rw [askCertificates, Task.bind_apply]
  rcases e.send env network q.encode s with ⟨err | b, t⟩
  · rfl
  · simp only [Task.bind_apply, Task.ofExcept_apply, heard]
    cases hp : Publication.read b with
    | error err => simp [Except.mapError, bind, Except.bind, hp]
    | ok r =>
      by_cases hid : r.id = q.id
      · simp [Except.mapError, bind, Except.bind, hp, hid]
        rfl
      · simp [Except.mapError, bind, Except.bind, hp, hid]
        rfl

def complete : Bool × List Bytes → Except Error (List Bytes)
  | (true, _) => .error .truncated
  | (false, texts) => .ok texts

def answersTo (env : Environment σ) (q : Query) : Task σ (List Bytes) := do
  let (truncated, texts) ← e.askCertificates env q e.plainNetwork
  if !truncated then return texts
  let (truncated, texts) ← e.askCertificates env q e.plainNetwork.toTcp
  if truncated then throw .truncated
  return texts

theorem published_of_name {name : Name} (h : Name.ofText e.stamp.providerName = .ok name)
    (env : Environment σ) (s : σ) : e.published env s =
      e.answersTo env (certificateQuery name ((env.queryIds s).1 0)) (env.queryIds s).2 := by
  rw [published, Task.bind_apply, Task.ofExcept_apply, h]
  rfl

/-- A truncated reply is not looked at; what comes over the stream in its
place may not be truncated. -/
theorem answersTo_apply (env : Environment σ) (q : Query) (s : σ) :
    e.answersTo env q s =
      let plain := e.send env e.plainNetwork q.encode s
      let again := e.send env e.plainNetwork.toTcp q.encode plain.2
      match heard q plain.1 with
      | .ok (true, _) => (heard q again.1 >>= complete, again.2)
      | other => (other >>= complete, plain.2) := by
  rw [answersTo, Task.bind_apply, askCertificates_apply]
  rcases e.send env e.plainNetwork q.encode s with ⟨reply, t⟩
  dsimp only
  rcases heard q reply with err | ⟨_ | _, texts⟩
  · rfl
  · rfl
  · simp only [Bool.not_true, Bool.false_eq_true, ↓reduceIte, Task.bind_apply,
      askCertificates_apply]
    rcases heard q _ with err | ⟨_ | _, texts⟩ <;> rfl

theorem answersTo_of_heard {env : Environment σ} {q : Query} {s t : σ} {reply : Except Error Bytes}
    {texts : List Bytes} (hsend : e.send env e.plainNetwork q.encode s = (reply, t))
    (h : heard q reply = .ok (false, texts)) : e.answersTo env q s = (.ok texts, t) := by
  rw [answersTo_apply]
  simp only [hsend, h]
  rfl

theorem answersTo_of_truncated {env : Environment σ} {q : Query} {s t u : σ}
    {reply reply' : Except Error Bytes} {cut texts : List Bytes}
    (hsend : e.send env e.plainNetwork q.encode s = (reply, t))
    (hcut : heard q reply = .ok (true, cut))
    (hagain : e.send env e.plainNetwork.toTcp q.encode t = (reply', u))
    (h : heard q reply' = .ok (false, texts)) : e.answersTo env q s = (.ok texts, u) := by
  rw [answersTo_apply]
  simp only [hsend, hcut, hagain, h]
  rfl

inductive Published : List Act → Except Error (List Bytes) → Prop where
  | badName {err : CodecError} :
    Name.ofText e.stamp.providerName = .error err → Published [] (.error (.codec err))
  | overDatagrams {name : Name} {id : UInt16} {acts : List Act} {reply : Except Error Bytes} :
    Name.ofText e.stamp.providerName = .ok name →
    Sent (e.dialed e.plainNetwork) (certificateQuery name id).encode acts reply →
    (¬ ∃ b, reply = .ok b ∧ Inquiry.Truncated (certificateQuery name id) b) →
    Published acts (heard (certificateQuery name id) reply >>= complete)
  | overBoth {name : Name} {id : UInt16} {acts acts' : List Act} {b : Bytes}
      {reply : Except Error Bytes} :
    Name.ofText e.stamp.providerName = .ok name →
    Sent (e.dialed e.plainNetwork) (certificateQuery name id).encode acts (.ok b) →
    Inquiry.Truncated (certificateQuery name id) b →
    Sent (e.dialed e.plainNetwork.toTcp) (certificateQuery name id).encode acts' reply →
    Published (acts ++ acts') (heard (certificateQuery name id) reply >>= complete)

theorem heard_truncated {q : Query} {reply : Except Error Bytes} :
    (∃ texts, heard q reply = .ok (true, texts)) ↔ ∃ b, reply = .ok b ∧ Inquiry.Truncated q b := by
  constructor
  · rintro ⟨texts, h⟩
    obtain ⟨b, hb, h⟩ := exists_of_bind h
    obtain ⟨r, hr, h⟩ := exists_of_bind h
    obtain ⟨hd, rest, hh, hid', ht⟩ := Publication.header_of_read hr
    by_cases hid : r.id = q.id
    · simp [hid, pure, Except.pure] at h
      exact ⟨b, hb, hd, rest, hh, hid' ▸ hid, ht ▸ h.1⟩
    · simp [hid, throw, throwThe, MonadExceptOf.throw] at h
  · rintro ⟨b, rfl, hd, rest, hh, hid, ht⟩
    refine ⟨[], ?_⟩
    exact heard_of_read (Publication.read_of_truncated hh ht) hid

theorem published_logs (env : Environment σ) :
    Task.Logs (e.published env.recorded) (Published e) := by
  intro log s
  cases hname : Name.ofText e.stamp.providerName with
  | error err =>
    rw [published, Task.bind_apply, Task.ofExcept_apply, hname]
    exact ⟨[], _, s, by rw [List.append_nil]; rfl, .badName hname⟩
  | ok name =>
    have hids : env.recorded.queryIds (log, s) = ((env.queryIds s).1, (log, (env.queryIds s).2)) :=
      rfl
    rw [e.published_of_name hname, hids, answersTo_apply]
    generalize env.queryIds s = drawn
    obtain ⟨ids, s⟩ := drawn
    obtain ⟨acts, reply, t, hr, hs⟩ :=
      e.send_logs env e.plainNetwork (certificateQuery name (ids 0)).encode log s
    obtain ⟨acts', reply', u, hr', hs'⟩ :=
      e.send_logs env e.plainNetwork.toTcp (certificateQuery name (ids 0)).encode (log ++ acts) t
    simp only [hr, hr']
    by_cases hcut : ∃ b, reply = .ok b ∧ Inquiry.Truncated (certificateQuery name (ids 0)) b
    · obtain ⟨texts, ht⟩ := heard_truncated.2 hcut
      obtain ⟨b, rfl, hb⟩ := hcut
      exact ⟨acts ++ acts', _, u, by rw [ht, List.append_assoc], .overBoth hname hs hb hs'⟩
    · refine ⟨acts, _, t, ?_, .overDatagrams hname hs hcut⟩
      rcases hh : heard (certificateQuery name (ids 0)) reply with err | ⟨_ | _, texts⟩
      · rfl
      · rfl
      · exact absurd (heard_truncated.1 ⟨texts, hh⟩) hcut

def chosen (now : UInt32) (texts : List Bytes) : Except Error Certificate :=
  match Certificate.selectBest (texts.filterMap fun t => (Certificate.decode t).toOption)
      e.stamp.providerKey.bytes now with
  | some c => .ok c
  | none => .error (.dnsCrypt .noValidCertificate)

def Fetched (now : UInt32) (acts : List Act) (result : Except Error Certificate) : Prop :=
  ∃ texts, Published e acts texts ∧ result = texts >>= e.chosen now

theorem trusted_of_chosen {now : UInt32} {texts : Except Error (List Bytes)} {c : Certificate}
    (h : texts >>= e.chosen now = .ok c) :
    c.Trusted e.stamp.providerKey.bytes ∧ c.validAt now = true := by
  cases texts with
  | error err => cases h
  | ok texts =>
    simp only [chosen, bind, Except.bind] at h
    split at h
    · next c' hbest =>
      cases h
      exact Certificate.trusted_of_selectBest hbest
    · cases h

theorem trusted_of_fetched {now : UInt32} {acts : List Act} {c : Certificate}
    (h : e.Fetched now acts (.ok c)) :
    c.Trusted e.stamp.providerKey.bytes ∧ c.validAt now = true := by
  obtain ⟨texts, -, hc⟩ := h
  exact e.trusted_of_chosen hc.symm

/-- The clock is read when the last reply is there. -/
theorem fetchCertificate_apply (env : Environment σ) (s : σ) :
    e.fetchCertificate env s =
      ((e.published env s).1 >>= e.chosen (env.now (e.published env s).2),
        (e.published env s).2) := by
  rw [fetchCertificate, Task.bind_apply]
  rcases e.published env s with ⟨err | texts, t⟩
  · rfl
  · simp only [Task.bind_apply, Task.get_apply]
    simp only [chosen, bind, Except.bind]
    cases Certificate.selectBest _ e.stamp.providerKey.bytes (env.now t) with
    | none => rfl
    | some c => rfl

theorem stored_cases (env : Environment σ) (stored : Option Certificate) (s : σ) :
    (∃ c, stored = some c ∧ c.validAt (env.now s) = true) ∨
      ∀ c, stored = some c → c.validAt (env.now s) = false := by
  cases stored with
  | none => exact .inr (by simp)
  | some c => cases hvalid : c.validAt (env.now s) <;> simp [hvalid]

theorem certificate_of_valid {c : Certificate} (env : Environment σ) {s : σ}
    (h : c.validAt (env.now s) = true) :
    e.certificate env (some c, s) = (.ok c, some c, s) := by
  simp [certificate, Option.filter, h]

theorem certificate_of_invalid {stored : Option Certificate} (env : Environment σ) {s : σ}
    (h : ∀ c, stored = some c → c.validAt (env.now s) = false) :
    e.certificate env (stored, s) =
      match e.fetchCertificate env s with
      | (.ok c, t) => (.ok c, some c, t)
      | (.error err, t) => (.error err, stored, t) := by
  have hnone : stored.filter (fun c => c.validAt (env.now s)) = none := by
    simpa [Option.filter_eq_none_iff] using h
  rcases hfetch : e.fetchCertificate env s with ⟨err | c, t⟩
  · simp only [certificate, hnone, hfetch]
  · simp only [certificate, hnone, hfetch]

/-- The wall clock tells which of the published certificates are valid
once the last reply is there. -/
theorem fetchCertificate_fetched (env : Environment σ) (log : List Act) (s : σ) :
    ∃ acts result t, e.fetchCertificate env.recorded (log, s) = (result, log ++ acts, t) ∧
      e.Fetched (env.now t) acts result := by
  obtain ⟨acts, texts, t, hr, hp⟩ := e.published_logs env log s
  refine ⟨acts, _, t, ?_, texts, hp, rfl⟩
  rw [fetchCertificate_apply, hr]
  rfl

theorem fetchCertificate_logs (env : Environment σ) (clock : Int) :
    Task.Logs (e.fetchCertificate (env.atTime clock).recorded)
      (e.Fetched (Timestamp.ofClock clock)) :=
  fun log s => e.fetchCertificate_fetched (env.atTime clock) log s

/-- How a lookup comes by a certificate: the stored one is valid as it starts, or
one is fetched until later. -/
inductive Certified (start later : UInt32) (stored : Option Certificate) :
    List Act → Except Error Certificate → Prop where
  | inUse {c : Certificate} : stored = some c → c.validAt start = true →
    Certified start later stored [] (.ok c)
  | fetched {acts : List Act} {result : Except Error Certificate} :
    (∀ c, stored = some c → c.validAt start = false) → e.Fetched later acts result →
    Certified start later stored acts result

theorem certificate_certified (env : Environment σ) (stored : Option Certificate)
    (log : List Act) (s : σ) :
    ∃ acts result next t, e.certificate env.recorded (stored, log, s) =
      (result, next, log ++ acts, t) ∧
      e.Certified (env.now s) (env.now t) stored acts result := by
  rcases stored_cases env stored s with ⟨c, rfl, hvalid⟩ | hinvalid
  · have hheld : c.validAt (env.recorded.now (log, s)) = true := hvalid
    refine ⟨[], .ok c, some c, s, ?_, .inUse rfl hvalid⟩
    rw [e.certificate_of_valid env.recorded hheld, List.append_nil]
  · have hnone : ∀ c, stored = some c → c.validAt (env.recorded.now (log, s)) = false := hinvalid
    obtain ⟨acts, result, t, hr, hfetched⟩ := e.fetchCertificate_fetched env log s
    have hcertificate := e.certificate_of_invalid env.recorded hnone
    rw [hr] at hcertificate
    cases result with
    | error err => exact ⟨acts, .error err, stored, t, hcertificate, .fetched hinvalid hfetched⟩
    | ok c => exact ⟨acts, .ok c, some c, t, hcertificate, .fetched hinvalid hfetched⟩

end Encrypted

end StubResolver
