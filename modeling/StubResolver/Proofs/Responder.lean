import StubResolver.Proofs.Inquiry

set_option autoImplicit false

namespace StubResolver

def Answer.unplaced (a : Answer) : Answer := { a with roundTrip := "", nameserver := "" }

def Authority.unplaced (a : Authority) : Authority := { a with roundTrip := "", nameserver := "" }

/-- A response without what depends on the way it came. -/
def Response.unplaced (r : Response) : Response :=
  ⟨r.questions, r.answers.map Answer.unplaced, r.authorities.map Authority.unplaced⟩

theorem unplaced_ofMessage (m : Message) (roundTrip roundTrip' : Duration)
    (server server' : String) :
    (Response.ofMessage m roundTrip server).unplaced =
      (Response.ofMessage m roundTrip' server').unplaced := by
  have hauthority : ∀ (w : Arrival) (r : ResourceRecord),
      (Authority.ofRecord? w r).map Authority.unplaced =
      Authority.ofRecord? ⟨w.status, "", ""⟩ r := by
    intro w r
    cases h : r.data <;> simp [Authority.ofRecord?, h, Authority.unplaced]
  simp only [Response.ofMessage, Response.unplaced, List.map_filterMap, Option.map_map, hauthority]
  rfl

theorem isEmpty_unplaced (r : Response) : r.unplaced.answers.isEmpty = r.answers.isEmpty := by
  simp [Response.unplaced]

theorem unplaced_withQuestions {r r' : Response} (h : r.unplaced = r'.unplaced)
    (qs : List Question) :
    ({ r with questions := qs } : Response).unplaced =
      ({ r' with questions := qs } : Response).unplaced := by
  simp only [Response.unplaced, Response.mk.injEq] at h ⊢
  exact ⟨trivial, h.2⟩

namespace Inquiry

def PassEnd.unplaced : PassEnd → PassEnd
  | .response r => .response r.unplaced
  | .truncated => .truncated

variable {σ τ : Type}

def Replies (f : Bytes → Bytes) (exchange : Bytes → Task σ Bytes) (qs : List Query) : Prop :=
  ∀ q ∈ qs, Task.Gives (· = f q.encode) (exchange q.encode)

theorem readReply_unplaced (id : UInt16) (roundTrip roundTrip' : Duration) (server server' : String)
    (reply : Bytes) :
    (readReply id roundTrip server reply).map (Option.map Response.unplaced) =
      (readReply id roundTrip' server' reply).map (Option.map Response.unplaced) := by
  rw [readReply, readReply]
  cases Header.read reply with
  | error e => rfl
  | ok p =>
    obtain ⟨h, rest⟩ := p
    by_cases hid : h.id = id
    · cases ht : h.truncated with
      | true => simp [hid, ht]
      | false =>
        cases Message.decode reply with
        | error e => simp [hid, ht]
        | ok m =>
          have hm := unplaced_ofMessage m roundTrip roundTrip' server server'
          simp only [pure_bind, hid, ht, bne_self_eq_false, Bool.false_eq_true, ↓reduceIte]
          exact congrArg (fun r => Except.ok (some r)) hm
    · simp [hid]
      rfl

theorem pass_unplaced {f : Bytes → Bytes} (elapsed : σ → Duration) (elapsed' : τ → Duration)
    {exchange : Bytes → Task σ Bytes} {exchange' : Bytes → Task τ Bytes} (server server' : String)
    {qs : List Query} (h : Replies f exchange qs) (h' : Replies f exchange' qs)
    (sent : List Question) {last last' : Response} (hlast : last.unplaced = last'.unplaced)
    (s : σ) (t : τ) :
    (pass elapsed exchange server qs sent last s).1.map PassEnd.unplaced =
      (pass elapsed' exchange' server' qs sent last' t).1.map PassEnd.unplaced := by
  induction qs generalizing sent last last' s t with
  | nil =>
    exact congrArg (fun r => Except.ok (PassEnd.response r)) (unplaced_withQuestions hlast sent)
  | cons q qs ih =>
    obtain ⟨reply, hreply, rfl⟩ := h q List.mem_cons_self s
    obtain ⟨reply', hreply', rfl⟩ := h' q List.mem_cons_self t
    rw [pass_cons, pass_cons]
    rcases hx : exchange q.encode s with ⟨r, s'⟩
    rcases hx' : exchange' q.encode t with ⟨r', t'⟩
    obtain rfl : r = .ok (f q.encode) := by simpa [hx] using hreply
    obtain rfl : r' = .ok (f q.encode) := by simpa [hx'] using hreply'
    dsimp only
    -- Both passes read the reply alike, so they take the same exit or go on together.
    have hread := readReply_unplaced q.id ⟨(elapsed s').nanos - (elapsed s).nanos⟩
      ⟨(elapsed' t').nanos - (elapsed' t).nanos⟩ server server' (f q.encode)
    generalize readReply q.id _ server (f q.encode) = read at hread ⊢
    generalize readReply q.id _ server' (f q.encode) = read' at hread ⊢
    rcases read with e | _ | r <;> rcases read' with e' | _ | r'
    case error.error =>
      cases hread
      rfl
    case ok.none.ok.none => rfl
    case ok.some.ok.some =>
      have hr : r.unplaced = r'.unplaced := by simpa [Except.map] using hread
      have hempty : r.answers.isEmpty = r'.answers.isEmpty := by
        rw [← isEmpty_unplaced, hr, isEmpty_unplaced]
      dsimp only
      rw [hempty]
      split
      · exact ih (fun q hq => h q (List.mem_cons_of_mem _ hq))
          (fun q hq => h' q (List.mem_cons_of_mem _ hq)) _ hr s' t'
      · exact congrArg (fun r => Except.ok (PassEnd.response r)) (unplaced_withQuestions hr _)
    all_goals cases hread

def NeverTruncates (f : Bytes → Bytes) : Prop :=
  ∀ m h rest, Header.read (f m) = .ok (h, rest) → h.truncated = false

theorem pass_ne_truncated {f : Bytes → Bytes} (hf : NeverTruncates f) (elapsed : σ → Duration)
    {exchange : Bytes → Task σ Bytes} (server : String) {qs : List Query}
    (h : Replies f exchange qs) (sent : List Question) (last : Response) (s : σ) :
    (pass elapsed exchange server qs sent last s).1 ≠ .ok .truncated := by
  induction qs generalizing sent last s with
  | nil => simp [pass]
  | cons q qs ih =>
    obtain ⟨reply, hreply, rfl⟩ := h q List.mem_cons_self s
    rw [pass_cons]
    rcases hx : exchange q.encode s with ⟨r, t⟩
    obtain rfl : r = .ok (f q.encode) := by simpa [hx] using hreply
    dsimp only
    rcases readReply_cases q ⟨(elapsed t).nanos - (elapsed s).nanos⟩ server (f q.encode) with
      ⟨e, hr, -⟩ | ⟨-, hd, rest, hh, -, ht⟩ | ⟨m, hr, -⟩
    · simp [hr]
    · simp [hf q.encode hd rest hh] at ht
    · rw [hr]
      dsimp only
      split
      · exact ih (fun q hq => h q (List.mem_cons_of_mem _ hq)) _ _ t
      · simp

/-- An inquiry over a stream, or with replies that are never truncated, makes one pass. -/
theorem run_of_settled {elapsed : σ → Duration}
    {exchange : Network → Bytes → Task σ Bytes} {o : Options} {network : Network} {server : String}
    {question : Question} {ids : Nat → UInt16} {qs : List Query} {f : Bytes → Bytes}
    (hq : Candidate.queries question o.ndots o.search ids = .ok qs)
    (h : Replies f (exchange network) qs)
    (hn : network.isStream = true ∨ NeverTruncates f) (s : σ) :
    (run elapsed exchange o network server question ids s).1 =
      conclude (pass elapsed (exchange network) server qs [] noRecords s).1 := by
  rw [run_of_queries hq]
  have hp : network.isStream = true ∨
      (pass elapsed (exchange network) server qs [] noRecords s).1 ≠ .ok .truncated :=
    hn.imp_right fun hf => pass_ne_truncated hf elapsed server h [] noRecords s
  generalize pass elapsed (exchange network) server qs [] noRecords s = out at hp ⊢
  rcases out with ⟨e | r | _, t⟩
  · rfl
  · rfl
  · rcases hp with hs | hne
    · simp [hs, conclude]
    · exact absurd rfl hne

theorem conclude_unplaced {a b : Except Error PassEnd}
    (h : a.map PassEnd.unplaced = b.map PassEnd.unplaced) :
    (conclude a).map Response.unplaced = (conclude b).map Response.unplaced := by
  rcases a with e | r | _ <;> rcases b with e' | r' | _
  case error.error => simpa [Except.map, conclude] using h
  case ok.response.ok.response => simpa [Except.map, PassEnd.unplaced, conclude] using h
  case ok.truncated.ok.truncated => rfl
  all_goals simp [Except.map, PassEnd.unplaced] at h

theorem run_unplaced {f : Bytes → Bytes} (elapsed : σ → Duration) (elapsed' : τ → Duration)
    {exchange : Network → Bytes → Task σ Bytes}
    {exchange' : Network → Bytes → Task τ Bytes} {o : Options} {network network' : Network}
    (server server' : String) {question : Question} {ids : Nat → UInt16}
    (h : ∀ qs, Candidate.queries question o.ndots o.search ids = .ok qs →
      Replies f (exchange network) qs)
        (h' : ∀ qs, Candidate.queries question o.ndots o.search ids = .ok qs →
      Replies f (exchange' network') qs)
    (hn : network.isStream = true ∨ NeverTruncates f)
    (hn' : network'.isStream = true ∨ NeverTruncates f) (s : σ) (t : τ) :
    (run elapsed exchange o network server question ids s).1.map Response.unplaced =
      (run elapsed' exchange' o network' server' question ids t).1.map Response.unplaced := by
  cases hq : Candidate.queries question o.ndots o.search ids with
  | error e =>
    rw [run_of_error hq, run_of_error hq]
  | ok qs =>
    rw [run_of_settled hq (h qs hq) hn, run_of_settled hq (h' qs hq) hn']
    exact conclude_unplaced
      (pass_unplaced elapsed elapsed' server server' (h qs hq) (h' qs hq) [] rfl s t)

end Inquiry

end StubResolver
