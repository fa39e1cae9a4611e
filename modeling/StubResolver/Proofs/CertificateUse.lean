import Mathlib.Data.List.Induction
import StubResolver.Proofs.CertificateFetch

set_option autoImplicit false

namespace StubResolver.Encrypted

open DnsCrypt (Certificate Session encryptQuery)
open Exchange (Sent)

variable {σ : Type}

structure Transaction where
  network : Network
  packet : Bytes
  session : Session
  acts : List Act
  reply : Except Error Bytes

variable (e : Encrypted) (random : RandomSource σ) (c : Certificate)

structure Transaction.Sealed (t : Transaction) : Prop where
  made : ∃ message s, (encryptQuery random c e.keys message s).1 = .ok (t.packet, t.session)
  sent : Sent (e.dialed t.network) t.packet t.acts t.reply

def Transaction.Opened (t : Transaction) : Prop :=
  ∃ b m, t.reply = .ok b ∧ t.session.decryptResponse b = .ok m

def Transaction.Spoilt (t : Transaction) : Prop :=
  ∃ b err, t.reply = .ok b ∧ t.session.decryptResponse b = .error err

theorem not_spoilt_of_opened {t : Transaction} (h : t.Opened) : ¬ t.Spoilt := by
  obtain ⟨b, m, hb, hm⟩ := h
  rintro ⟨b', err, hb', herr⟩
  obtain rfl : b = b' := by simpa [hb] using hb'
  simp [hm] at herr

/-- The encrypted part of a lookup under one certificate, with its result
and what is stored after it. -/
structure Conversation (ts : List Transaction) (result : Except Error Response)
    (stored : Option Certificate) : Prop where
  sealed : ∀ t ∈ ts, t.Sealed e random c
  opened : ∀ t ∈ ts.dropLast, t.Opened
  forgotten : (∃ t ∈ ts, t.Spoilt) → stored = none ∧ ∃ err, result = .error (.dnsCrypt err)
  kept : (¬ ∃ t ∈ ts, t.Spoilt) → stored = some c

/-- A lookup at a time, with what it did: it uses the stored certificate, fails to fetch one,
or uses one that it fetched. -/
inductive LookupAccount (now : UInt32) (stored : Option Certificate) :
    List Act → Except Error Response → Option Certificate → Prop where
  | stored {c : Certificate} {ts : List Transaction} {result : Except Error Response}
      {stored' : Option Certificate} :
    stored = some c → c.validAt now = true → Conversation e random c ts result stored' →
    LookupAccount now stored (ts.flatMap Transaction.acts) result stored'
  | failed {acts : List Act} {err : Error} :
    (∀ c, stored = some c → c.validAt now = false) → e.Fetched now acts (.error err) →
    LookupAccount now stored acts (.error err) stored
  | fetched {c : Certificate} {acts : List Act} {ts : List Transaction}
      {result : Except Error Response}
      {stored' : Option Certificate} :
    (∀ c, stored = some c → c.validAt now = false) → e.Fetched now acts (.ok c) →
    c.validAt now = true → Conversation e random c ts result stored' →
    LookupAccount now stored (acts ++ ts.flatMap Transaction.acts) result stored'

theorem conversation_of_opened {ts : List Transaction}
    (h : ∀ t ∈ ts, t.Sealed e random c ∧ t.Opened) (result : Except Error Response) :
    Conversation e random c ts result (some c) := by
  refine ⟨fun t ht => (h t ht).1, fun t ht => (h t (List.dropLast_subset ts ht)).2,
    ?_, fun _ => rfl⟩
  rintro ⟨t, ht, hs⟩
  exact absurd hs (not_spoilt_of_opened (h t ht).2)

theorem conversation_of_last {ts : List Transaction} {t : Transaction}
    (h : ∀ t ∈ ts, t.Sealed e random c ∧ t.Opened) (hs : t.Sealed e random c) {err : Error}
    {stored : Option Certificate}
    (hforgotten : t.Spoilt → stored = none ∧ ∃ err', err = .dnsCrypt err')
    (hkept : ¬ t.Spoilt → stored = some c) :
    Conversation e random c (ts ++ [t]) (.error err) stored := by
  have hspoilt : (∃ u ∈ ts ++ [t], u.Spoilt) → t.Spoilt := by
    rintro ⟨u, hu, hus⟩
    rcases List.mem_append.1 hu with hu | hu
    · exact absurd hus (not_spoilt_of_opened (h u hu).2)
    · rwa [List.mem_singleton.1 hu] at hus
  refine ⟨?_, by simpa using fun u hu => (h u hu).2, fun hu => ?_, fun hu => ?_⟩
  · intro u hu
    rcases List.mem_append.1 hu with hu | hu
    · exact (h u hu).1
    · rwa [List.mem_singleton.1 hu]
  · obtain ⟨hn, err', rfl⟩ := hforgotten (hspoilt hu)
    exact ⟨hn, err', rfl⟩
  · exact hkept fun ht => hu ⟨t, by simp, ht⟩

/-- Drawing a nonce leaves no trace in the record. -/
theorem encryptQuery_recorded (env : Environment σ) (keys : DnsCrypt.ClientKeys) (message : Bytes)
    (log : List Act) (s : σ) :
    encryptQuery env.recorded.random c keys message (log, s) =
      ((encryptQuery env.random c keys message s).1,
        (log, (encryptQuery env.random c keys message s).2)) := by
  unfold encryptQuery
  dsimp only
  split
  · rfl
  · split
    · rfl
    · cases DnsCrypt.SharedKey.agree c.construction c.resolverKey keys.secret <;> rfl

theorem exchange_apply (env : Environment σ) (network : Network) (message : Bytes)
    (stored : Option Certificate) (s : σ) : e.exchange env c network message (stored, s) =
      match encryptQuery env.random c e.keys message s with
      | (.error err, t) => (.error (.dnsCrypt err), stored, t)
      | (.ok (packet, session), t) =>
        match e.send env network packet t with
        | (.error err, u) => (.error err, stored, u)
        | (.ok reply, u) =>
          match session.decryptResponse reply with
          | .error err => (.error (.dnsCrypt err), none, u)
          | .ok message => (.ok message, stored, u) := by
  simp only [exchange, Task.bind_apply, lift, Task.ofAction_apply]
  rcases encryptQuery env.random c e.keys message s with ⟨err | ⟨packet, session⟩, t⟩
  · rfl
  · simp only [Except.mapError]
    rcases e.send env network packet t with ⟨err | reply, u⟩
    · rfl
    · dsimp only
      cases session.decryptResponse reply <;> rfl

def Talking (log : List Act) (s : State (List Act × σ)) : Prop :=
  s.1 = some c ∧ ∃ ts : List Transaction, s.2.1 = log ++ ts.flatMap Transaction.acts ∧
    ∀ t ∈ ts, t.Sealed e random c ∧ t.Opened

def Broken (log : List Act) (err : Error) (s : State (List Act × σ)) : Prop :=
  ∃ ts, s.2.1 = log ++ ts.flatMap Transaction.acts ∧ Conversation e random c ts (.error err) s.1

theorem exchange_keeps (env : Environment σ) (log : List Act) (network : Network)
    (message : Bytes) :
    Task.Keeps (Talking e env.random c log) (Broken e env.random c log)
      (e.exchange env.recorded c network message) := by
  rintro ⟨_, log', s⟩ ⟨rfl, ts, hlog, hts⟩
  dsimp only at hlog
  subst hlog
  rw [exchange_apply, encryptQuery_recorded]
  rcases hq : encryptQuery env.random c e.keys message s with ⟨err | ⟨packet, session⟩, s'⟩
  · exact ⟨ts, rfl, conversation_of_opened e env.random c hts _⟩
  · obtain ⟨acts, reply, t, hr, hs⟩ :=
      e.send_logs env network packet (log ++ ts.flatMap Transaction.acts) s'
    let u : Transaction := ⟨network, packet, session, acts, reply⟩
    have hsealed : u.Sealed e env.random c := ⟨⟨message, s, by rw [hq]⟩, hs⟩
    have hlog : log ++ ts.flatMap Transaction.acts ++ acts =
        log ++ (ts ++ [u]).flatMap Transaction.acts := by
      simp [u]
    simp only [hr]
    -- Only a response that is there and does not decrypt puts the certificate out of use.
    cases reply with
    | error err =>
      refine ⟨ts ++ [u], hlog, conversation_of_last e env.random c hts hsealed ?_ fun _ => rfl⟩
      rintro ⟨b, err', hb, -⟩
      cases hb
    | ok b =>
      dsimp only
      cases hd : session.decryptResponse b with
      | error err =>
        refine ⟨ts ++ [u], hlog,
          conversation_of_last e env.random c hts hsealed (fun _ => ⟨rfl, err, rfl⟩) ?_⟩
        exact fun hn => absurd ⟨b, err, rfl, hd⟩ hn
      | ok m =>
        refine ⟨rfl, ts ++ [u], hlog, fun w hw => ?_⟩
        rcases List.mem_append.1 hw with hw | hw
        · exact hts w hw
        · obtain rfl := List.mem_singleton.1 hw
          exact ⟨hsealed, b, m, rfl, hd⟩

theorem conversation_of_run (env : Environment σ) (network : Network) (question : Question)
    (ids : Nat → UInt16) (log : List Act) (s : σ) :
    ∃ ts result stored t,
      Inquiry.run (fun s => env.recorded.elapsed s.2) (e.exchange env.recorded c) e.options network
        e.nameserver.text question ids (some c, log, s) =
          (result, stored, log ++ ts.flatMap Transaction.acts, t) ∧
      Conversation e env.random c ts result stored := by
  have hrun := Inquiry.run_keeps network (fun n m _ => exchange_keeps e c env log n m)
    (fun s => env.recorded.elapsed s.2) e.options e.nameserver.text question ids (some c, log, s)
    ⟨rfl, [], by simp, by simp⟩
  generalize Inquiry.run _ _ _ _ _ _ _ _ = out at hrun ⊢
  rcases out with ⟨err | r, stored, log', t⟩
  · rcases hrun with ⟨rfl, ts, hlog, hts⟩ | ⟨ts, hlog, hconv⟩
    · exact ⟨ts, _, _, t, by rw [← hlog], conversation_of_opened e env.random c hts _⟩
    · exact ⟨ts, _, _, t, by rw [← hlog], hconv⟩
  · obtain ⟨rfl, ts, hlog, hts⟩ := hrun
    exact ⟨ts, _, _, t, by rw [← hlog], conversation_of_opened e env.random c hts _⟩

theorem account_of_lookup (env : Environment σ) (clock : Int) (question : Question)
    (stored : Option Certificate) (s : σ) :
    ∃ acts result stored' t,
      e.lookup (env.atTime clock).recorded question (stored, [], s) = (result, stored', acts, t) ∧
      LookupAccount e env.random (Timestamp.ofClock clock) stored acts result stored' := by
  rcases stored_cases (env.atTime clock) stored s with ⟨c, rfl, hvalid⟩ | hinvalid
  · obtain ⟨ts, result, stored', t, hr, hconv⟩ :=
      conversation_of_run e c (env.atTime clock) e.network
      question (env.queryIds s).1 [] (env.queryIds s).2
    refine ⟨_, result, stored', t, ?_, .stored rfl hvalid hconv⟩
    rw [lookup, Task.bind_of_ok (e.certificate_of_valid (env.atTime clock).recorded hvalid)]
    exact hr
  · obtain ⟨acts, fetched, t, hfetch, hfetched⟩ := e.fetchCertificate_logs env clock [] s
    rw [List.nil_append] at hfetch
    have hcertificate :=
      e.certificate_of_invalid (env.atTime clock).recorded (s := ([], s)) hinvalid
    rw [hfetch] at hcertificate
    cases fetched with
    | error err =>
      refine ⟨acts, .error err, stored, t, ?_, .failed hinvalid hfetched⟩
      rw [lookup, Task.bind_apply, hcertificate]
    | ok c =>
      obtain ⟨ts, result, stored', u, hr, hconv⟩ :=
        conversation_of_run e c (env.atTime clock) e.network
        question (env.queryIds t).1 acts (env.queryIds t).2
      refine ⟨_, result, stored', u, ?_,
        .fetched hinvalid hfetched (e.trusted_of_fetched hfetched).2 hconv⟩
      rw [lookup, Task.bind_of_ok hcertificate]
      exact hr

/-- A lookup in a history: the wall clock during it, the state of the outside world before it. -/
structure Occasion (σ : Type) where
  clock : Int
  outside : σ
  question : Question

def Occasion.now (o : Occasion σ) : UInt32 := Timestamp.ofClock o.clock

def Occasion.run (env : Environment σ) (stored : Option Certificate) (o : Occasion σ) :
    Except Error Response × State σ :=
  e.lookup (env.atTime o.clock) o.question (stored, o.outside)

def Occasion.acts (env : Environment σ) (stored : Option Certificate) (o : Occasion σ) : List Act :=
  (e.lookup (env.atTime o.clock).recorded o.question (stored, [], o.outside)).2.2.1

theorem occasion_account (env : Environment σ) (stored : Option Certificate) (o : Occasion σ) :
    LookupAccount e env.random o.now stored (o.acts e env stored) (o.run e env stored).1
      (o.run e env stored).2.1 := by
  obtain ⟨acts, result, stored', t, hr, haccount⟩ :=
    account_of_lookup e env o.clock o.question stored o.outside
  have hview := e.lookup_views (Environment.views_recorded (env.atTime o.clock)) o.question
    (stored, [], o.outside)
  simp only [seen] at hview
  rw [Occasion.run, Occasion.acts, hview, hr]
  exact haccount

def storedAfter (env : Environment σ) (history : List (Occasion σ)) : Option Certificate :=
  history.foldl (fun stored o => (o.run e env stored).2.1) none

theorem storedAfter_concat (env : Environment σ) (history : List (Occasion σ)) (o : Occasion σ) :
    e.storedAfter env (history ++ [o]) = (o.run e env (e.storedAfter env history)).2.1 := by
  rw [storedAfter, List.foldl_append]
  rfl

theorem Conversation.stored_eq {ts : List Transaction} {result : Except Error Response}
    {stored : Option Certificate} (h : Conversation e random c ts result stored) :
    stored = none ∨ stored = some c := by
  by_cases hs : ∃ t ∈ ts, t.Spoilt
  · exact .inl (h.forgotten hs).1
  · exact .inr (h.kept hs)

theorem LookupAccount.trusted {now : UInt32} {stored stored' : Option Certificate} {acts : List Act}
    {result : Except Error Response} (h : LookupAccount e random now stored acts result stored')
    (ht : ∀ c, stored = some c → c.Trusted e.stamp.providerKey.bytes) :
    ∀ c, stored' = some c → c.Trusted e.stamp.providerKey.bytes := by
  cases h with
  | stored hs _ hconv =>
    rcases hconv.stored_eq with rfl | rfl
    · simp
    · rw [← hs]
      exact ht
  | failed _ _ => exact ht
  | fetched _ hfetched _ hconv =>
    rcases hconv.stored_eq with rfl | rfl
    · simp
    · intro c hc
      cases hc
      exact (e.trusted_of_fetched hfetched).1

theorem trusted_storedAfter (env : Environment σ) (history : List (Occasion σ)) :
    ∀ c, e.storedAfter env history = some c → c.Trusted e.stamp.providerKey.bytes := by
  induction history using List.reverseRecOn with
  | nil => simp [storedAfter]
  | append_singleton history o ih =>
    rw [storedAfter_concat]
    exact (occasion_account e env (e.storedAfter env history) o).trusted e env.random ih

/-- Whatever the resolver sends and wherever the clock moves between lookups: what is stored can
always be trusted, and the next lookup treats it in one of the three ways. -/
theorem account_after (env : Environment σ) (history : List (Occasion σ)) (next : Occasion σ) :
    let stored := e.storedAfter env history
    (∀ c, stored = some c → c.Trusted e.stamp.providerKey.bytes) ∧
      LookupAccount e env.random next.now stored (next.acts e env stored) (next.run e env stored).1
        (e.storedAfter env (history ++ [next])) := by
  refine ⟨trusted_storedAfter e env history, ?_⟩
  rw [storedAfter_concat]
  exact occasion_account e env (e.storedAfter env history) next

end StubResolver.Encrypted
