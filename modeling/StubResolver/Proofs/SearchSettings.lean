import StubResolver.Proofs.Footprint
import StubResolver.Proofs.SingleQuery

set_option autoImplicit false

namespace StubResolver

def Options.withoutSearch (o : Options) : Options := { o with search := [], ndots := 0 }

theorem Inquiry.run_withoutSearch {σ : Type} {question : Question}
    (hq : isQualified question.name = true) (elapsed : σ → Duration)
    (exchange : Network → Bytes → Task σ Bytes) (o : Options) (network : Network) (server : String)
    (ids : Nat → UInt16) :
    run elapsed exchange o.withoutSearch network server question ids =
      run elapsed exchange o network server question ids := by
  unfold run
  rw [Candidate.queries_of_isQualified hq, Candidate.queries_of_isQualified hq]

def Classic.withoutSearch (c : Classic) : Classic := { c with options := c.options.withoutSearch }

def Https.withoutSearch (h : Https) : Https := { h with options := h.options.withoutSearch }

def Encrypted.withoutSearch (e : Encrypted) : Encrypted :=
  { e with options := e.options.withoutSearch }

section Lookups

variable {σ : Type} {question : Question} (hq : isQualified question.name = true)
  (env : Environment σ)
include hq

theorem Classic.lookup_withoutSearch (c : Classic) :
    c.withoutSearch.lookup env question = c.lookup env question := by
  have hexchange : c.withoutSearch.exchange env = c.exchange env := rfl
  unfold lookup
  rw [hexchange]
  refine bind_congr fun ids => ?_
  exact Inquiry.run_withoutSearch hq env.elapsed (c.exchange env) c.options c.network _ ids

theorem Https.lookup_withoutSearch (h : Https) :
    h.withoutSearch.lookup env question = h.lookup env question := by
  unfold lookup
  refine bind_congr fun ids => ?_
  exact Inquiry.run_withoutSearch hq env.elapsed (fun _ => Exchange.https env h.url) h.options
    network h.url ids

theorem Encrypted.lookup_withoutSearch (e : Encrypted) :
    e.withoutSearch.lookup env question = e.lookup env question := by
  have hcertificate : e.withoutSearch.certificate env = e.certificate env := rfl
  have hexchange : e.withoutSearch.exchange env = e.exchange env := rfl
  unfold lookup
  rw [hcertificate, hexchange]
  refine bind_congr fun c => bind_congr fun ids => ?_
  exact Inquiry.run_withoutSearch hq (fun s : State σ => env.elapsed s.2) (e.exchange env c)
    e.options e.network _ ids

end Lookups

namespace Transport

variable {σ : Type}

def withoutSearch : Transport σ → Transport σ
  | classic c => classic c.withoutSearch
  | https h => https h.withoutSearch
  | encrypted e k => encrypted e.withoutSearch k
  | t => t

theorem lookup_withoutSearch {question : Question} (hq : isQualified question.name = true)
    (env : Environment σ) :
    Task.Views (Prod.map withoutSearch id) (lookup env question) (lookup env question) := by
  rintro ⟨t, s⟩
  cases t with
  | classic c =>
    have hlookup := c.lookup_withoutSearch hq env
    simp only [lookup, Prod.map_apply, withoutSearch, still, hlookup, id]
  | https h =>
    have hlookup := h.lookup_withoutSearch hq env
    simp only [lookup, Prod.map_apply, withoutSearch, still, hlookup, id]
  | encrypted e k =>
    have hlookup := e.lookup_withoutSearch hq env
    simp only [lookup, Prod.map_apply, withoutSearch, hlookup, id]
  | operatingSystem | custom => rfl

end Transport

namespace Chase

variable {τ : Type} {hosts : List (String × List String)} {name : String}

theorem knownAt_qualify (h : hosts.lookup name = none)
    (h' : hosts.lookup (qualify name) = none) (now : Instant) (c : Cache (List String)) :
    knownAt hosts (qualify name) now c = knownAt hosts name now c := by
  unfold knownAt
  rw [h, h', qualify_qualify]

theorem follow_qualify (lookup : Question → Task τ Response) (clock : τ → Instant)
    (hosts : List (String × List String)) (n : Nat) (name : String) (s : State τ) :
    follow lookup clock hosts n (qualify name) s = follow lookup clock hosts n name s := by
  rw [follow_eq, follow_eq, qualify_qualify]

theorem stored_qualify (name : String) (now : Instant) (c : Cache (List String))
    (result : Except Error (List String)) :
    stored (qualify name) now c result = stored name now c result := by
  cases result with
  | error e => rfl
  | ok l => rw [stored, stored, qualify_qualify]

theorem resolve_qualify (h : hosts.lookup name = none) (h' : hosts.lookup (qualify name) = none)
    (lookup : Question → Task τ Response) (clock : τ → Instant) (s : State τ) :
    resolve lookup clock hosts (qualify name) s = resolve lookup clock hosts name s := by
  rw [resolve_eq, resolve_eq, knownAt_qualify h h']
  simp only [follow_qualify, stored_qualify]

end Chase

structure Transport.Looks {σ : Type} (env : Environment σ)
    (before : Transport (List Act × σ) × List Act × σ) (x : Chase.Consultation) (acts : List Act)
    (after : Transport (List Act × σ) × List Act × σ) : Prop where
  looked : Transport.lookup env.recorded x.question before = (x.result, after)
  recorded : after.2.1 = before.2.1 ++ acts
  asks : before.1.Asks (env.now before.2.2) (env.now after.2.2) x.question x.result acts

namespace Resolver

variable {σ : Type}

/-- What is left of a resolver without its search settings, and without those of its transport. -/
def withoutSearch (r : Resolver σ) : Resolver σ :=
  { r with options := r.options.withoutSearch, transport := r.transport.withoutSearch }

theorem resolve_withoutSearch (env : Environment σ) (name : String) :
    Task.Views (Prod.map withoutSearch id) (resolve env name) (resolve env name) := by
  rintro ⟨r, s⟩
  let view : Transport σ × σ → Transport σ × σ := Prod.map Transport.withoutSearch id
  let clock (t : Transport σ × σ) : Instant := env.elapsed t.2
  have hlookup : ∀ name, Task.Views view (Transport.lookup env (.internet (qualify name) .a))
      (Transport.lookup env (.internet (qualify name) .a)) := by
    intro name
    have hq : isQualified (Question.internet (qualify name) .a).name = true :=
      isQualified_qualify name
    exact Transport.lookup_withoutSearch hq env
  have hchase : Task.Views (Prod.map id view)
      (Chase.resolve (Transport.lookup env) clock r.hosts name)
      (Chase.resolve (Transport.lookup env) clock r.hosts name) := Chase.resolve_views hlookup name
  have hresolve := hchase (r.cache, r.transport, s)
  rw [resolve_eq]
  exact congrArg
    (fun n => (n.1, ({ r.withoutSearch with cache := n.2.1, transport := n.2.2.1 }, n.2.2.2)))
    hresolve

theorem isQualified_of_asked (env : Environment σ) (name : String) (s : Resolver σ × σ) :
    ∀ x ∈ asked env name s, isQualified x.question.name = true := by
  let consultation := Chase.consultation (Transport.lookup env) fun t => env.elapsed t.2
  have hlookup : ∀ name t, True →
      True ∧ isQualified (consultation name t).question.name = true :=
    fun name _ _ => ⟨trivial, isQualified_qualify name⟩
  exact (Chase.forall_asked hlookup name trivial).2

theorem asked_path (env : Environment σ) {r : Resolver (List Act × σ)}
    (hr : r.transport.Wire) (name : String) (log : List Act) (s : σ) :
    let next := resolve env.recorded name (r, log, s)
    ∃ parts, Chase.Path (Transport.Looks env) (r.transport, log, s)
      (asked env.recorded name (r, log, s)) parts
      (next.2.1.transport, next.2.2) := by
  let inv (t : Transport (List Act × σ) × List Act × σ) : Prop := t.1.Wire
  have hlookup : ∀ name t, inv t →
      inv (Transport.lookup env.recorded (.internet (qualify name) .a) t).2 ∧
      ∃ part, Transport.Looks env t
        (Chase.consultation (Transport.lookup env.recorded)
          (fun t => env.recorded.elapsed t.2) name t) part
        (Transport.lookup env.recorded (.internet (qualify name) .a) t).2 := by
    intro name t ht
    have hq : isQualified (Question.internet (qualify name) .a).name = true :=
      isQualified_qualify name
    obtain ⟨part, hlog, hpart⟩ := Transport.lookup_adds env hq ht
    exact ⟨Transport.wire_lookup ht, part, rfl, hlog, hpart⟩
  exact Chase.asked_path hlookup name (s := (r.cache, r.transport, log, s)) hr

theorem log_of_path {env : Environment σ} {t u : Transport (List Act × σ) × List Act × σ}
    {xs : List Chase.Consultation} {parts : List (List Act)}
    (h : Chase.Path (Transport.Looks env) t xs parts u) :
    u.2.1 = t.2.1 ++ parts.flatten := by
  induction h with
  | nil _ => simp
  | cons hstep _ ih => rw [ih, hstep.recorded, List.flatten_cons, List.append_assoc]

/--
Resolvers that differ in nothing but search settings come to the same in every
environment, one that keeps a record included, and so does one resolver with the last dot
or without it. Each lookup is for the only candidate of a name, and is one exchange, or
two if the reply over datagrams is truncated.
-/
theorem resolve_ignores_search {σ : Type} (env : Environment σ) :
    (∀ (r r' : Resolver σ) name s, r.withoutSearch = r'.withoutSearch →
      let next := resolve env name (r, s)
      let next' := resolve env name (r', s)
      next.1 = next'.1 ∧ next.2.1.cache = next'.2.1.cache ∧
        next.2.1.withoutSearch = next'.2.1.withoutSearch ∧
        next.2.2 = next'.2.2) ∧
    (∀ (r : Resolver (List Act × σ)) name log s, r.transport.Wire →
      let xs := asked env.recorded name (r, log, s)
      let next := resolve env.recorded name (r, log, s)
      Chase.Course r.hosts name (env.elapsed s) (env.elapsed next.2.2.2) r.cache xs next.1
        next.2.1.cache ∧
        (∀ x ∈ xs, ∀ ndots search, Candidate.expand x.question.name ndots search =
          [x.question.name]) ∧
        ∃ parts, next.2.2.1 = log ++ parts.flatten ∧
          Chase.Path (Transport.Looks env) (r.transport, log, s) xs parts
            (next.2.1.transport, next.2.2)) ∧
    ∀ (r : Resolver σ) name s, isQualified name = false → r.hosts.lookup name = none →
      r.hosts.lookup (name ++ ".") = none →
        resolve env (name ++ ".") (r, s) = resolve env name (r, s) := by
  refine ⟨fun r r' name s hsame => ?_, fun r name log s hr => ?_,
    fun r name s hrelative hhost hhost' => ?_⟩
  · have hview := resolve_withoutSearch env name (r, s)
    have hview' := resolve_withoutSearch env name (r', s)
    rw [Prod.map_apply, hsame] at hview
    have hnext := hview.symm.trans hview'
    rw [Prod.ext_iff, Prod.ext_iff] at hnext
    obtain ⟨hresult, hresolver, houtside⟩ := hnext
    have hcache := congrArg cache hresolver
    exact ⟨hresult, hcache, hresolver, houtside⟩
  · obtain ⟨parts, hpath⟩ := asked_path env hr name log s
    have hcandidate : ∀ x ∈ asked env.recorded name (r, log, s), ∀ ndots search,
        Candidate.expand x.question.name ndots search = [x.question.name] := by
      intro x hx ndots search
      have hq := isQualified_of_asked env.recorded name _ x hx
      exact Candidate.expand_of_isQualified hq ndots search
    exact ⟨course env.recorded name r (log, s), hcandidate, parts, log_of_path hpath, hpath⟩
  · have hqualify : qualify name = name ++ "." := by
      rw [qualify, if_neg (by simp [hrelative])]
    rw [← hqualify] at hhost' ⊢
    rw [resolve_eq, resolve_eq, Chase.resolve_qualify hhost hhost']

/-- With a search list, that would make three candidates of the name, and without one. -/
theorem resolve_ignores_search_served :
    let env := Environment.serving Transport.addressReply none true
    let s : Entropy := ⟨fun _ => 0, 0⟩
    let resolver (ndots : Nat) (search : List String) : Resolver (List Act × Entropy) :=
      let o : Options := { Options.default with ndots, search }
      ⟨o, .classic ⟨⟨"[::1]", some (.v6 ⟨0, 0, 0, 0, 0, 0, 0, 1⟩), 53⟩, ⟨.udp, .any, false⟩, o,
        none⟩, .empty .zero, []⟩
    let r := resolver 0 []
    let r' := resolver 2 ["b", "c.d"]
    let next := resolve env.recorded "a" (r, [], s)
    let next' := resolve env.recorded "a" (r', [], s)
    r.withoutSearch = r'.withoutSearch ∧
      Candidate.expand "a" 2 ["b", "c.d"] = ["a.b.", "a.c.d.", "a."] ∧
      r'.transport.Wire ∧ isQualified "a" = false ∧ r'.hosts.lookup "a" = none ∧
        r'.hosts.lookup "a." = none ∧
      next.1 = .ok ["192.0.2.1"] ∧ next.1 = next'.1 ∧ next.2.2 = next'.2.2 ∧
      (∃ parts, next'.2.2.1 = [] ++ parts.flatten ∧
        Chase.Path (Transport.Looks env) (r'.transport, [], s)
          (asked env.recorded "a" (r', [], s)) parts
          (next'.2.1.transport, next'.2.2)) ∧
      resolve env.recorded ("a" ++ ".") (r', [], s) = next' := by
  intro env s resolver r r' next next'
  have hsame : r.withoutSearch = r'.withoutSearch := rfl
  have hwire : r'.transport.Wire := trivial
  have hrelative : isQualified "a" = false := by decide
  obtain ⟨hsettings, -, hspelling⟩ := resolve_ignores_search env.recorded
  obtain ⟨hresult, -, -, hrecord⟩ := hsettings r r' "a" ([], s) hsame
  obtain ⟨-, -, hparts⟩ := (resolve_ignores_search env).2.1 r' "a" [] s hwire
  have hdot := hspelling r' "a" ([], s) hrelative rfl rfl
  refine ⟨hsame, by decide, hwire, hrelative, rfl, rfl, ?_, hresult, hrecord, hparts, hdot⟩
  decide +kernel

end Resolver

end StubResolver
