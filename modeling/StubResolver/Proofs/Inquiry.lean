import Mathlib.Data.List.Forall2
import StubResolver.Inquiry
import StubResolver.Proofs.Candidate
import StubResolver.Proofs.Task

/-!
What an inquiry does to the nameserver. Replies fall into three kinds: those that are refused, those
that are truncated, and those that deliver a message. A pass over the candidates goes on exactly as
long as the messages delivered hold no answer, and its last call alone decides how it ends.
-/

set_option autoImplicit false

namespace StubResolver.Inquiry

def answerRecords (m : Message) : List ResourceRecord := m.answers.filterMap Record.resource?

inductive Refused (q : Query) (reply : Bytes) : Error → Prop where
  | noHeader {e : CodecError} : Header.read reply = .error e → Refused q reply (.codec e)
  | foreign {h : Header} {rest : Bytes} :
    Header.read reply = .ok (h, rest) → h.id ≠ q.id → Refused q reply .idMismatch
  | malformed {h : Header} {rest : Bytes} {e : CodecError} :
    Header.read reply = .ok (h, rest) → h.id = q.id → h.truncated = false →
    Message.decode reply = .error e → Refused q reply (.codec e)

/-- A reply to the query that says that it is cut short. -/
def Truncated (q : Query) (reply : Bytes) : Prop :=
  ∃ h rest, Header.read reply = .ok (h, rest) ∧ h.id = q.id ∧ h.truncated = true

def Delivered (q : Query) (reply : Bytes) (m : Message) : Prop :=
  ∃ h rest, Header.read reply = .ok (h, rest) ∧ h.id = q.id ∧ h.truncated = false ∧
    Message.decode reply = .ok m

theorem readReply_cases (q : Query) (roundTrip : Duration) (server : String) (reply : Bytes) :
    (∃ e, readReply q.id roundTrip server reply = .error e ∧ Refused q reply e) ∨
    (readReply q.id roundTrip server reply = .ok none ∧ Truncated q reply) ∨
    (∃ m, readReply q.id roundTrip server reply =
      .ok (some (Response.ofMessage m roundTrip server)) ∧
      Delivered q reply m) := by
  cases hh : Header.read reply with
  | error e =>
    refine .inl ⟨.codec e, ?_, .noHeader hh⟩
    simp [readReply, hh]
    rfl
  | ok p =>
    obtain ⟨h, rest⟩ := p
    by_cases hid : h.id = q.id
    · cases ht : h.truncated with
      | true =>
        refine .inr (.inl ⟨?_, h, rest, hh, hid, ht⟩)
        simp [readReply, hh, hid, ht]
        rfl
      | false =>
        cases hm : Message.decode reply with
        | error e =>
          refine .inl ⟨.codec e, ?_, .malformed hh hid ht hm⟩
          simp [readReply, hh, hid, ht, hm]
          rfl
        | ok m =>
          refine .inr (.inr ⟨m, ?_, h, rest, hh, hid, ht, hm⟩)
          simp [readReply, hh, hid, ht, hm]
          rfl
    · refine .inl ⟨.idMismatch, ?_, .foreign hh hid⟩
      simp [readReply, hh, hid]
      rfl

theorem ofMessage_isEmpty (m : Message) (roundTrip : Duration) (server : String) :
    (Response.ofMessage m roundTrip server).answers.isEmpty = true ↔ answerRecords m = [] := by
  simp [Response.ofMessage, answerRecords]

variable {σ : Type}

theorem pass_cons (elapsed : σ → Duration) (exchange : Bytes → Task σ Bytes)
    (server : String) (q : Query) (qs : List Query) (sent : List Question)
    (last : Response) (s : σ) :
    pass elapsed exchange server (q :: qs) sent last s =
      match exchange q.encode s with
      | (.error e, t) => (.error e, t)
      | (.ok reply, t) =>
        match readReply q.id ⟨(elapsed t).nanos - (elapsed s).nanos⟩ server reply with
        | .error e => (.error e, t)
        | .ok none => (.ok .truncated, t)
        | .ok (some r) =>
          let sent := sent ++ [q.question.toQuestion]
          if r.answers.isEmpty then pass elapsed exchange server qs sent r t
          else (.ok (.response { r with questions := sent }), t) := by
  rw [pass]
  dsimp only
  rw [Task.bind_of_ok (Task.get_apply elapsed s), Task.bind_apply]
  rcases exchange q.encode s with ⟨_ | reply, t⟩
  · rfl
  · dsimp only
    rw [Task.bind_of_ok (Task.get_apply elapsed t), Task.bind_apply, Task.ofExcept_apply]
    rcases readReply q.id _ server reply with e | _ | r
    · rfl
    · rfl
    · dsimp only [Except.mapError]
      split <;> rfl

structure Call where
  network : Network
  query : Bytes
  reply : Except Error Bytes

def recorded (exchange : Network → Bytes → Task σ Bytes) (network : Network) (query : Bytes) :
    Task (List Call × σ) Bytes := fun s =>
  let r := exchange network query s.2
  (r.1, (s.1 ++ [⟨network, query, r.1⟩], r.2))

def Unanswered (network : Network) (q : Query) (c : Call) : Prop :=
  ∃ reply m, c = ⟨network, q.encode, .ok reply⟩ ∧ Delivered q reply m ∧ answerRecords m = []

/-- How the last call of a pass decides its end. `rest` are the queries never
sent, `questions` those sent. -/
inductive Decides (server : String) (q : Query) (rest : List Query) (questions : List Question) :
    Except Error Bytes → Except Error PassEnd → Prop where
  | failed (e : Error) : Decides server q rest questions (.error e) (.error e)
  | refused {reply : Bytes} {e : Error} :
    Refused q reply e → Decides server q rest questions (.ok reply) (.error e)
  | truncated {reply : Bytes} :
    Truncated q reply → Decides server q rest questions (.ok reply) (.ok .truncated)
  | answered {reply : Bytes} {m : Message} (roundTrip : Duration) :
    Delivered q reply m → (answerRecords m = [] → rest = []) →
    Decides server q rest questions (.ok reply)
      (.ok (.response { Response.ofMessage m roundTrip server with questions := questions }))

/-- The calls of a pass over a list of queries, with its end. `sent` are questions sent before. -/
inductive Passed (network : Network) (server : String) (sent : List Question) :
    List Query → List Call → Except Error PassEnd → Prop where
  | mk {asked rest : List Query} {q : Query} {before : List Call} {reply : Except Error Bytes}
      {ending : Except Error PassEnd} :
    List.Forall₂ (Unanswered network) asked before →
    Decides server q rest (sent ++ (asked ++ [q]).map fun q => q.question.toQuestion) reply ending →
    Passed network server sent (asked ++ q :: rest) (before ++ [⟨network, q.encode, reply⟩]) ending

theorem Passed.of_decides {network : Network} {server : String} {sent : List Question} {q : Query}
    {qs : List Query} {reply : Except Error Bytes} {ending : Except Error PassEnd}
    (h : Decides server q qs (sent ++ [q.question.toQuestion]) reply ending) :
    Passed network server sent (q :: qs) [⟨network, q.encode, reply⟩] ending :=
  .mk (.nil : List.Forall₂ (Unanswered network) [] []) h

theorem Passed.cons {network : Network} {server : String} {sent : List Question} {q : Query}
    {qs : List Query} {c : Call} {calls : List Call} {ending : Except Error PassEnd}
    (hc : Unanswered network q c)
    (h : Passed network server (sent ++ [q.question.toQuestion]) qs calls ending) :
    Passed network server sent (q :: qs) (c :: calls) ending := by
  obtain ⟨hb, hd⟩ := h
  exact .mk (.cons hc hb) (by simpa using hd)

def Call.sent (c : Call) : Network × Bytes := (c.network, c.query)

def Query.over (network : Network) (q : Query) : Network × Bytes := (network, q.encode)

theorem sent_of_unanswered {network : Network} {asked : List Query} {calls : List Call}
    (h : List.Forall₂ (Unanswered network) asked calls) :
    calls.map Call.sent = asked.map (Query.over network) := by
  induction h with
  | nil => rfl
  | cons hc _ ih =>
    obtain ⟨reply, m, rfl, -⟩ := hc
    simp [ih, Call.sent, Query.over]

theorem Passed.sent_prefix {network : Network} {server : String} {sent : List Question}
    {queries : List Query} {calls : List Call} {ending : Except Error PassEnd}
    (h : Passed network server sent queries calls ending) :
    calls.map Call.sent <+: queries.map (Query.over network) := by
  obtain ⟨hb, -⟩ := h
  rename_i asked rest q before reply
  refine ⟨rest.map (Query.over network), ?_⟩
  simp [sent_of_unanswered hb, Call.sent, Query.over]

theorem Passed.ne_nil {network : Network} {server : String} {sent : List Question}
    {queries : List Query} {calls : List Call} {ending : Except Error PassEnd}
    (h : Passed network server sent queries calls ending) : calls ≠ [] := by
  obtain ⟨-, -⟩ := h
  simp

theorem Passed.length_le {network : Network} {server : String} {sent : List Question}
    {queries : List Query} {calls : List Call} {ending : Except Error PassEnd}
    (h : Passed network server sent queries calls ending) : calls.length ≤ queries.length := by
  simpa using h.sent_prefix.length_le

def CutShort (queries : List Query) (calls : List Call) : Prop :=
  ∃ before c q reply, calls = before ++ [c] ∧ queries[before.length]? = some q ∧
    c.reply = .ok reply ∧ Truncated q reply

theorem not_truncated_of_refused {q : Query} {reply : Bytes} {e : Error} (h : Refused q reply e) :
    ¬ Truncated q reply := by
  rintro ⟨h', rest', hh, hid, ht⟩
  cases h with
  | noHeader he => simp [he] at hh
  | foreign he hne =>
    rw [he] at hh
    cases hh
    exact hne hid
  | malformed he _ hf _ =>
    rw [he] at hh
    cases hh
    simp [hf] at ht

theorem not_truncated_of_delivered {q : Query} {reply : Bytes} {m : Message}
    (h : Delivered q reply m) :
    ¬ Truncated q reply := by
  rintro ⟨h', rest', hh, hid, ht⟩
  obtain ⟨h, rest, he, -, hf, -⟩ := h
  rw [he] at hh
  cases hh
  simp [hf] at ht

theorem Passed.cutShort_iff {network : Network} {server : String} {sent : List Question}
    {queries : List Query} {calls : List Call} {ending : Except Error PassEnd}
    (h : Passed network server sent queries calls ending) :
    CutShort queries calls ↔ ending = .ok .truncated := by
  obtain ⟨hb, hd⟩ := h
  rename_i asked rest q before reply
  have hlen : before.length = asked.length := hb.length_eq.symm
  constructor
  · rintro ⟨before', c, q', reply', hcalls, hq, hreply, ht⟩
    obtain ⟨rfl, hc⟩ := List.append_inj' hcalls rfl
    obtain rfl : _ = c := by simpa using hc
    obtain rfl : q = q' := by simpa [hlen] using hq
    cases hd with
    | failed e => simp at hreply
    | refused hr =>
      cases hreply
      exact absurd ht (not_truncated_of_refused hr)
    | truncated _ => rfl
    | answered roundTrip hm _ =>
      cases hreply
      exact absurd ht (not_truncated_of_delivered hm)
  · rintro rfl
    cases hd with
    | truncated ht => exact ⟨before, _, q, _, rfl, by simp [hlen], rfl, ht⟩

theorem pass_recorded (elapsed : σ → Duration) (exchange : Network → Bytes → Task σ Bytes)
    (network : Network) (server : String) (queries : List Query) (hq : queries ≠ [])
    (sent : List Question) (last : Response) (log : List Call) (s : σ) :
    ∃ calls ending t,
      pass (fun s => elapsed s.2) (recorded exchange network) server queries sent last (log, s) =
        (ending, log ++ calls, t) ∧
      Passed network server sent queries calls ending := by
  induction queries generalizing sent last log s with
  | nil => exact absurd rfl hq
  | cons q qs ih =>
    rw [pass_cons]
    simp only [recorded]
    rcases hx : exchange network q.encode s with ⟨e | reply, t⟩
    · exact ⟨_, _, _, rfl, .of_decides (.failed e)⟩
    · dsimp only
      rcases readReply_cases q ⟨(elapsed t).nanos - (elapsed s).nanos⟩ server reply with
        ⟨e, hr, he⟩ | ⟨hr, ht⟩ | ⟨m, hr, hm⟩ <;> rw [hr] <;> dsimp only
      · exact ⟨_, _, _, rfl, .of_decides (.refused he)⟩
      · exact ⟨_, _, _, rfl, .of_decides (.truncated ht)⟩
      · by_cases ha : answerRecords m = []
        · rw [if_pos ((ofMessage_isEmpty m _ server).2 ha)]
          -- Without answers the pass goes on, unless this was the last query.
          cases qs with
          | nil => exact ⟨_, _, _, rfl, .of_decides (.answered _ hm fun _ => rfl)⟩
          | cons q' qs =>
            obtain ⟨calls, ending, u, hp, hd⟩ := ih (by simp) (sent ++ [q.question.toQuestion])
              (Response.ofMessage m _ server) (log ++ [⟨network, q.encode, .ok reply⟩]) t
            refine ⟨⟨network, q.encode, .ok reply⟩ :: calls, ending, u, ?_,
              hd.cons ⟨reply, m, rfl, hm, ha⟩⟩
            simpa using hp
        · rw [if_neg (fun h => ha ((ofMessage_isEmpty m _ server).1 h))]
          exact ⟨_, _, _, rfl, .of_decides (.answered _ hm (absurd · ha))⟩

def conclude : Except Error PassEnd → Except Error Response
  | .error e => .error e
  | .ok .truncated => .error .truncated
  | .ok (.response r) => .ok r

theorem run_of_error {elapsed : σ → Duration}
    {exchange : Network → Bytes → Task σ Bytes} {o : Options} {network : Network} {server : String}
    {question : Question} {ids : Nat → UInt16} {e : CodecError}
    (h : Candidate.queries question o.ndots o.search ids = .error e) (s : σ) :
    run elapsed exchange o network server question ids s = (.error (.codec e), s) := by
  rw [run, Task.bind_apply, Task.ofExcept_apply, h]
  rfl

theorem run_of_queries {elapsed : σ → Duration}
    {exchange : Network → Bytes → Task σ Bytes} {o : Options} {network : Network} {server : String}
    {question : Question} {ids : Nat → UInt16} {qs : List Query}
    (h : Candidate.queries question o.ndots o.search ids = .ok qs) (s : σ) :
    run elapsed exchange o network server question ids s =
      match pass elapsed (exchange network) server qs [] noRecords s with
      | (.ok .truncated, t) =>
        if network.isStream then (.error .truncated, t)
        else (pass elapsed (exchange network.toTcp) server qs [] noRecords t).map conclude id
      | (ending, t) => (conclude ending, t) := by
  rw [run, Task.bind_apply, Task.ofExcept_apply, h]
  simp only [Except.mapError, Task.bind_apply]
  rcases pass elapsed (exchange network) server qs [] noRecords s with ⟨_ | _ | _, t⟩
  · rfl
  · rfl
  · dsimp only
    split
    · rfl
    · rw [Task.bind_apply]
      rcases pass elapsed (exchange network.toTcp) server qs [] noRecords t
        with ⟨_ | _ | _, u⟩ <;> rfl

/-- What every call of the exchange keeps, a pass keeps; it stops at a call that fails. -/
theorem pass_keeps {inv : σ → Prop} {fail : Error → σ → Prop} {exchange : Bytes → Task σ Bytes}
    (h : ∀ m, Task.Keeps inv fail (exchange m)) (elapsed : σ → Duration) (server : String)
    (qs : List Query) (sent : List Question) (last : Response) :
    Task.Keeps inv (fun e t => inv t ∨ fail e t) (pass elapsed exchange server qs sent last) := by
  induction qs generalizing sent last with
  | nil => exact fun s hs => hs
  | cons q qs ih =>
    intro s hs
    have hx := h q.encode s hs
    rw [pass_cons]
    rcases hr : exchange q.encode s with ⟨e | reply, t⟩ <;> rw [hr] at hx
    · exact .inr hx
    · dsimp only at hx ⊢
      rcases readReply q.id ⟨(elapsed t).nanos - (elapsed s).nanos⟩ server reply with e | _ | r
      · exact .inl hx
      · exact hx
      · dsimp only
        split
        · exact ih _ _ t hx
        · exact hx

theorem run_keeps {inv : σ → Prop} {fail : Error → σ → Prop}
    {exchange : Network → Bytes → Task σ Bytes} (network : Network)
    (hx : ∀ n m, n = network ∨ n = network.toTcp → Task.Keeps inv fail (exchange n m))
    (elapsed : σ → Duration) (o : Options) (server : String) (question : Question)
    (ids : Nat → UInt16) :
    Task.Keeps inv (fun e t => inv t ∨ fail e t)
      (run elapsed exchange o network server question ids) := by
  have h : ∀ m, Task.Keeps inv fail (exchange network m) := fun m => hx network m (.inl rfl)
  have htcp : ∀ m, Task.Keeps inv fail (exchange network.toTcp m) :=
    fun m => hx network.toTcp m (.inr rfl)
  intro s hs
  cases hq : Candidate.queries question o.ndots o.search ids with
  | error e =>
    rw [run_of_error hq]
    exact .inl hs
  | ok qs =>
    rw [run_of_queries hq]
    have h₁ := pass_keeps h elapsed server qs [] noRecords s hs
    rcases hp : pass elapsed (exchange network) server qs [] noRecords s with ⟨e | r | _, t⟩ <;>
      rw [hp] at h₁
    · exact h₁
    · exact h₁
    · dsimp only at h₁ ⊢
      split
      · exact .inl h₁
      · have h₂ := pass_keeps htcp elapsed server qs [] noRecords t h₁
        rcases hp : pass elapsed (exchange network.toTcp) server qs [] noRecords t
          with ⟨e | r | _, u⟩ <;>
          rw [hp] at h₂
        · exact h₂
        · exact h₂
        · exact .inl h₂

theorem run_preserves {inv : σ → Prop} {exchange : Network → Bytes → Task σ Bytes}
    (network : Network)
    (hx : ∀ n m, n = network ∨ n = network.toTcp → ∀ s, inv s → inv (exchange n m s).2)
    (elapsed : σ → Duration) (o : Options) (server : String) (question : Question)
    (ids : Nat → UInt16) {s : σ} (hs : inv s) :
    inv (run elapsed exchange o network server question ids s).2 := by
  have hkeeps : ∀ n m, n = network ∨ n = network.toTcp →
      Task.Keeps inv (fun _ => inv) (exchange n m) := by
    intro n m hn t ht
    have hend := hx n m hn t ht
    rcases hr : exchange n m t with ⟨e | reply, u⟩ <;> rwa [hr] at hend
  have hrun := run_keeps network hkeeps elapsed o server question ids s hs
  rcases hr : run elapsed exchange o network server question ids s
    with ⟨e | r, t⟩ <;> rw [hr] at hrun
  · exact hrun.elim id id
  · exact hrun

theorem pass_map {τ : Type} (view : τ → σ) (elapsed : σ → Duration) {fine : Bytes → Task τ Bytes}
    {coarse : Bytes → Task σ Bytes} (h : ∀ m s, coarse m (view s) = (fine m s).map id view)
    (server : String) (qs : List Query) (sent : List Question) (last : Response) (s : τ) :
    pass elapsed coarse server qs sent last (view s) =
      (pass (fun s => elapsed (view s)) fine server qs sent last s).map id view := by
  induction qs generalizing sent last s with
  | nil => rfl
  | cons q qs ih =>
    rw [pass_cons, pass_cons, h]
    rcases fine q.encode s with ⟨_ | reply, t⟩
    · rfl
    · simp only [Prod.map_apply, id_eq]
      rcases readReply q.id _ server reply with e | _ | r
      · rfl
      · rfl
      · dsimp only
        split
        · exact ih _ _ _
        · rfl

theorem run_map {τ : Type} (view : τ → σ) (elapsed : σ → Duration)
    {fine : Network → Bytes → Task τ Bytes} {coarse : Network → Bytes → Task σ Bytes}
    (h : ∀ n m s, coarse n m (view s) = (fine n m s).map id view) (o : Options) (network : Network)
    (server : String) (question : Question) (ids : Nat → UInt16) (s : τ) :
    run elapsed coarse o network server question ids (view s) =
      (run (fun s => elapsed (view s)) fine o network server question ids s).map id view := by
  cases hq : Candidate.queries question o.ndots o.search ids with
  | error e =>
    rw [run_of_error hq, run_of_error hq]
    rfl
  | ok qs =>
    rw [run_of_queries hq, run_of_queries hq, pass_map view elapsed (h network)]
    rcases pass _ (fine network) server qs [] noRecords s with ⟨_ | _ | _, t⟩
    · rfl
    · rfl
    · simp only [Prod.map_apply, id_eq]
      split
      · rfl
      · rw [pass_map view elapsed (h network.toTcp)]
        rfl

def calls (elapsed : σ → Duration) (exchange : Network → Bytes → Task σ Bytes) (o : Options)
    (network : Network) (server : String) (question : Question) (ids : Nat → UInt16)
    (s : σ) : List Call :=
  (run (fun s => elapsed s.2) (recorded exchange) o network server question ids ([], s)).2.1

/-- What the calls of an inquiry are: those of a first pass, and those of a second one over a
stream. The last pass alone decides the result. -/
structure Account (network : Network) (server : String) (queries : List Query)
    (first second : List Call) (result : Except Error Response) : Prop where
  first_sent : first.map Call.sent <+: queries.map (Query.over network)
  second_sent : second.map Call.sent <+: queries.map (Query.over network.toTcp)
  second_iff : second ≠ [] ↔ network.protocol = .udp ∧ CutShort queries first
  length_le : (first ++ second).length ≤ 2 * queries.length
  length_le_of_stream : network.isStream → (first ++ second).length ≤ queries.length
  last_pass : ∃ ending, result = conclude ending ∧
    if second = [] then Passed network server [] queries first ending
    else Passed network.toTcp server [] queries second ending

theorem account_of_one {network : Network} {server : String} {queries : List Query}
    {calls : List Call} {ending : Except Error PassEnd}
    (h : Passed network server [] queries calls ending)
    (hs : network.isStream = true ∨ ending ≠ .ok .truncated) :
    Account network server queries calls [] (conclude ending) := by
  have hle := h.length_le
  refine ⟨h.sent_prefix, List.nil_prefix, ?_, by simp; omega, by simpa using fun _ => hle,
    ending, rfl, ?_⟩
  · simp only [ne_eq, not_true_eq_false, false_iff, not_and]
    intro hudp hcut
    rcases hs with hs | hs
    · simp [Network.isStream, hudp] at hs
    · exact hs (h.cutShort_iff.1 hcut)
  · simpa using h

theorem account_of_two {network : Network} {server : String} {queries : List Query}
    {first second : List Call} {ending : Except Error PassEnd}
    (h₁ : Passed network server [] queries first (.ok .truncated)) (hs : network.isStream = false)
    (h₂ : Passed network.toTcp server [] queries second ending) :
    Account network server queries first second (conclude ending) := by
  have hle₁ := h₁.length_le
  have hle₂ := h₂.length_le
  have hudp : network.protocol = .udp := by
    cases hp : network.protocol with
    | udp => rfl
    | tcp => simp [Network.isStream, hp] at hs
  refine ⟨h₁.sent_prefix, h₂.sent_prefix, ?_, by simp; omega, by simp [hs], ending, rfl, ?_⟩
  · simp [h₂.ne_nil, hudp, h₁.cutShort_iff]
  · simpa [h₂.ne_nil] using h₂

/-- Whatever the exchange replies, an inquiry sends its queries in order, at most once over each of
two networks, and reports what the last pass over them brought. -/
theorem run_account (elapsed : σ → Duration)
    (exchange : Network → Bytes → Task σ Bytes) (o : Options) (network : Network) (server : String)
    (question : Question) (ids : Nat → UInt16) (s : σ) :
    let calls := calls elapsed exchange o network server question ids s
    let result := (run elapsed exchange o network server question ids s).1
    match Candidate.queries question o.ndots o.search ids with
    | .error e => calls = [] ∧ result = .error (.codec e)
    | .ok queries => ∃ first second, calls = first ++ second ∧
        Account network server queries first second result := by
  have hview : ∀ n m (s : List Call × σ),
      exchange n m s.2 = (recorded exchange n m s).map id Prod.snd :=
    fun _ _ _ => rfl
  have hrun := run_map Prod.snd elapsed hview o network server question ids ([], s)
  rw [calls, hrun]
  cases hq : Candidate.queries question o.ndots o.search ids with
  | error e =>
    rw [run_of_error hq]
    exact ⟨rfl, rfl⟩
  | ok queries =>
    have hne := Candidate.queries_ne_nil hq
    obtain ⟨first, ending, t, hp, h₁⟩ :=
      pass_recorded elapsed exchange network server queries hne [] noRecords [] s
    rw [List.nil_append] at hp
    rw [run_of_queries hq, hp]
    rcases ending with e | r | _
    · exact ⟨first, [], by simp, account_of_one h₁ (.inr (by simp))⟩
    · exact ⟨first, [], by simp, account_of_one h₁ (.inr (by simp))⟩
    · cases hs : network.isStream with
      | true => exact ⟨first, [], by simp, account_of_one h₁ (.inl hs)⟩
      | false =>
        obtain ⟨second, ending, u, hp₂, h₂⟩ :=
          pass_recorded elapsed exchange network.toTcp server queries hne [] noRecords first t
        simp only [hp₂]
        exact ⟨first, second, rfl, account_of_two h₁ hs h₂⟩

end StubResolver.Inquiry
