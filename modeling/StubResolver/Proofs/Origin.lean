import StubResolver.Proofs.Answers
import StubResolver.Proofs.Footprint
import StubResolver.Proofs.Resolver
import StubResolver.Proofs.TransportAgreement

set_option autoImplicit false

namespace StubResolver

namespace Chase

variable {hosts : List (String × List String)}

def Given (hosts : List (String × List String)) (xs : List Consultation) (l : List String) : Prop :=
  (∃ name, hosts.lookup name = some l) ∨ ∃ x ∈ xs, x.found = .ok (.addresses l)

theorem Given.mono {xs ys : List Consultation} {l : List String} (h : Given hosts xs l)
    (hsub : xs ⊆ ys) :
    Given hosts ys l :=
  h.imp id fun hfound => hfound.imp fun _ hx => ⟨hsub hx.1, hx.2⟩

def Holds (P : List String → Prop) (c : Cache (List String)) : Prop :=
  ∀ key i l, c.item? key = some i → i.value = some l → P l

section Holds

variable {P : List String → Prop}

theorem holds_empty (d : Duration) : Holds P (.empty d) := by
  intro key i l hi
  simp [Cache.item?, Cache.items_empty] at hi

theorem Holds.read {c c' : Cache (List String)} (h : Holds P c) {name : String} {now : Instant}
    {found : Option (List String)}
    (hknown : knownAt hosts name now c = (found, c')) : Holds P c' := by
  have hevicts := evicts_knownAt hosts name now c
  rw [hknown] at hevicts
  exact fun key i l hi hl => h key i l (hevicts.item?_of_some hi) hl

theorem Holds.of_known {c c' : Cache (List String)} (h : Holds P c)
    (hhosts : ∀ name l, hosts.lookup name = some l → P l) {name : String} {now : Instant}
    {l : List String} (hknown : knownAt hosts name now c = (some l, c')) : P l := by
  cases (knownAt_of_some hknown).2 with
  | inl hhost => exact hhosts name l hhost
  | inr hget =>
    obtain ⟨i, hi, -, hl⟩ := Cache.get_eq_some_iff.1 hget.2
    exact h _ i l hi hl

theorem Holds.set {c : Cache (List String)} (h : Holds P c) (key : String)
    {l : List String} (hl : P l) (now : Instant) : Holds P (c.set key (some l) now) := by
  intro other i l' hi hl'
  rw [Cache.item?_set] at hi
  split at hi
  · cases hi
    cases hl'
    exact hl
  · exact h other i l' hi hl'

/-- What is true of all that is entered, kept and told is true of what a chase comes to. -/
theorem Trail.holds {n : Nat} {name : String} {c c' : Cache (List String)} {xs : List Consultation}
    {result : Except Error (List String)} (h : Trail hosts n name c xs result c')
    (hhosts : ∀ name l, hosts.lookup name = some l → P l) (hc : Holds P c)
    (hxs : ∀ x ∈ xs, ∀ l, x.found = .ok (.addresses l) → P l) :
    Holds P c' ∧ ∀ l, result = .ok l → P l := by
  induction h with
  | failed => exact ⟨hc, fun l hl => nomatch hl⟩
  | tooLong => exact ⟨hc, fun l hl => nomatch hl⟩
  | addresses _ hfound =>
    refine ⟨hc, fun l hl => ?_⟩
    cases hl
    exact hxs _ List.mem_cons_self _ hfound
  | known _ _ hknown =>
    refine ⟨hc.read hknown, fun l hl => ?_⟩
    cases hl
    exact hc.of_known hhosts hknown
  | onward _ _ hknown _ ih =>
    exact ih (hc.read hknown) fun y hy => hxs y (List.mem_cons_of_mem _ hy)

theorem Course.holds {name : String} {start finish : Instant} {c c' : Cache (List String)}
    {xs : List Consultation} {result : Except Error (List String)}
    (h : Course hosts name start finish c xs result c')
    (hhosts : ∀ name l, hosts.lookup name = some l → P l) (hc : Holds P c)
    (hxs : ∀ x ∈ xs, ∀ l, x.found = .ok (.addresses l) → P l) :
    Holds P c' ∧ ∀ l, result = .ok l → P l := by
  cases h with
  | known hknown =>
    refine ⟨hc.read hknown, fun l hl => ?_⟩
    cases hl
    exact hc.of_known hhosts hknown
  | @chased c' c'' xs result hknown htrail =>
    obtain ⟨hend, hresult⟩ := htrail.holds hhosts (hc.read hknown) hxs
    cases result with
    | error e => exact ⟨hend, hresult⟩
    | ok l => exact ⟨hend.set (qualify name) (hresult l rfl) finish, hresult⟩

end Holds

/-- A chase that comes to a response without an alias in front tells all of it. -/
theorem Trail.last {n : Nat} {name : String} {c c' : Cache (List String)} {xs : List Consultation}
    {result : Except Error (List String)} (h : Trail hosts n name c xs result c') {x : Consultation}
    (hx : xs.getLast? = some x) {l : List String}
    (hfound : x.found = .ok (.addresses l)) : result = .ok l := by
  induction h with
  | failed _ hend =>
    cases hx
    cases hend.symm.trans hfound
  | addresses _ hend =>
    cases hx
    cases hend.symm.trans hfound
    rfl
  | tooLong _ hend =>
    cases hx
    cases hend.symm.trans hfound
  | known _ hend _ =>
    cases hx
    cases hend.symm.trans hfound
  | @onward n name target c c' c'' y xs result _ _ _ htrail ih =>
    rw [List.getLast?_cons] at hx
    cases hlast : xs.getLast? with
    | none => exact absurd (List.getLast?_eq_none_iff.1 hlast) htrail.ne_nil
    | some z =>
      rw [hlast] at hx
      exact ih (hlast.trans hx)

theorem Course.last {name : String} {start finish : Instant} {c c' : Cache (List String)}
    {xs : List Consultation} {result : Except Error (List String)}
    (h : Course hosts name start finish c xs result c') {x : Consultation}
    (hx : xs.getLast? = some x) {l : List String}
    (hfound : x.found = .ok (.addresses l)) : result = .ok l := by
  cases h with
  | known => cases hx
  | chased _ htrail => exact htrail.last hx hfound

/-- The text of an answer with no type of address, in a response that
does not begin with an alias. -/
def Stray (xs : List Consultation) (a : String) : Prop :=
  ∃ x ∈ xs, ∃ r first rest, x.result = .ok r ∧ r.answers = first :: rest ∧
    first.type ≠ RecordType.cname.text ∧
    ∃ answer ∈ r.answers, answer.type ≠ RecordType.a.text ∧ answer.type ≠ RecordType.aaaa.text ∧
      answer.address = a

theorem Given.isAddress_or_stray {xs : List Consultation} {l : List String} (h : Given hosts xs l)
    (hhosts : ∀ p ∈ hosts, ∀ a ∈ p.2, IsAddress a)
    (hxs : ∀ x ∈ xs, ∀ r, x.result = .ok r → r.Truthful) :
    ∀ a ∈ l, IsAddress a ∨ Stray xs a := by
  intro a ha
  cases h with
  | inl hhost =>
    obtain ⟨name, hhost⟩ := hhost
    obtain ⟨before, after, hsplit, -⟩ := List.lookup_eq_some_iff.1 hhost
    exact .inl (hhosts (name, l) (hsplit ▸ List.mem_append_right before List.mem_cons_self) a ha)
  | inr hfound =>
    obtain ⟨x, hx, hfound⟩ := hfound
    obtain ⟨r, first, rest, hr, hanswers, hfirst, rfl⟩ := found_addresses hfound
    obtain ⟨answer, hanswer, rfl⟩ := List.mem_map.1 ha
    by_cases hv4 : answer.type = RecordType.a.text
    · exact .inl (hxs x hx r hr answer hanswer (.inl hv4))
    · by_cases hv6 : answer.type = RecordType.aaaa.text
      · exact .inl (hxs x hx r hr answer hanswer (.inr hv6))
      · exact .inr ⟨x, hx, r, first, rest, hr, hanswers, hfirst, answer, hanswer, hv4, hv6, rfl⟩

end Chase

namespace Resolver

open Chase (Consultation Given Holds Stray)

variable {σ : Type} {env : Environment σ}

theorem holds_resolve {r : Resolver σ} {xs : List Consultation}
    (hr : Holds (Given r.hosts xs) r.cache) (name : String) (s : σ) :
    let next := resolve env name (r, s)
    Holds (Given r.hosts (xs ++ asked env name (r, s))) next.2.1.cache ∧
      ∀ l, next.1 = .ok l → Given r.hosts (xs ++ asked env name (r, s)) l := by
  refine (course env name r s).holds (fun name l hhost => .inl ⟨name, hhost⟩) ?_
    fun x hx l hfound => ?_
  · exact fun key i l hi hl => (hr key i l hi hl).mono (List.subset_append_left _ _)
  · exact .inr ⟨x, List.mem_append_right _ hx, hfound⟩

theorem truthful_of_asked {r : Resolver σ} (hr : r.transport.BuiltIn) (name : String) (s : σ) :
    (resolve env name (r, s)).2.1.transport.BuiltIn ∧
      ∀ x ∈ asked env name (r, s), ∀ response, x.result = .ok response → response.Truthful := by
  have hlookup : ∀ question (t : Transport σ × σ), t.1.BuiltIn →
      (Transport.lookup env question t).2.1.BuiltIn ∧
      ∀ response, (Transport.lookup env question t).1 = .ok response → response.Truthful := by
    intro question t ht
    exact ⟨Transport.lookup_builtIn ht, fun _ hresponse =>
      (Transport.obtained_of_lookup ht hresponse).truthful⟩
  exact Chase.forall_asked (P := fun x => ∀ response, x.result = .ok response → response.Truthful)
    (fun _ => hlookup _) name hr

def askedIn (env : Environment σ) (s : Resolver σ × σ) : Event σ → List Consultation
  | .resolve name => asked env name s
  | .move _ => []

def consulted (env : Environment σ) : Resolver σ × σ → List (Event σ) → List Consultation
  | _, [] => []
  | s, e :: history => askedIn env s e ++ consulted env (step env s e) history

/-- The static entries stay, and the cache keeps what was entered or told by the lookups so far. -/
structure Sourced (hosts : List (String × List String)) (xs : List Consultation)
    (r : Resolver σ) : Prop where
  hosts_eq : r.hosts = hosts
  holds : Holds (Given hosts xs) r.cache
  builtIn : r.transport.BuiltIn
  truthful : ∀ x ∈ xs, ∀ response, x.result = .ok response → response.Truthful

theorem sourced_step {hosts : List (String × List String)} {xs : List Consultation}
    {s : Resolver σ × σ} (h : Sourced hosts xs s.1) (e : Event σ) :
    Sourced hosts (xs ++ askedIn env s e) (step env s e).1 := by
  obtain ⟨r, s⟩ := s
  obtain ⟨rfl, hholds, hbuiltIn, htruthful⟩ := h
  cases e with
  | move outside =>
    rw [askedIn, List.append_nil]
    exact ⟨rfl, hholds, hbuiltIn, htruthful⟩
  | resolve name =>
    obtain ⟨hnext, hasked⟩ := truthful_of_asked hbuiltIn name s
    refine ⟨rfl, (holds_resolve hholds name s).1, hnext, fun x hx => ?_⟩
    cases List.mem_append.1 hx with
    | inl hbefore => exact htruthful x hbefore
    | inr hnew => exact hasked x hnew

theorem sourced_after {hosts : List (String × List String)} {xs : List Consultation}
    {s : Resolver σ × σ} (h : Sourced hosts xs s.1) (history : List (Event σ)) :
    Sourced hosts (xs ++ consulted env s history) (after env history s).1 := by
  induction history generalizing s xs with
  | nil =>
    rw [consulted, List.append_nil]
    exact h
  | cons e history ih =>
    rw [consulted, ← List.append_assoc]
    exact ih (sourced_step h e)

theorem sourced_withExpiration {r : Resolver σ} (hr : r.transport.BuiltIn) (d : Duration) :
    Sourced r.hosts [] (r.withExpiration d) :=
  ⟨rfl, Chase.holds_empty d, hr, fun _ hx => nomatch hx⟩

/--
What is told and what is kept are addresses, but for the texts that stand beside them, or instead of
them, in a response that does not begin with an alias. Such a response is told and kept as a whole.
-/
theorem addresses_after (env : Environment σ) (r : Resolver σ) (hr : r.transport.BuiltIn)
    (hhosts : ∀ p ∈ r.hosts, ∀ a ∈ p.2, IsAddress a) (d : Duration) (s : σ)
    (history : List (Event σ)) (name : String) :
    let start := (r.withExpiration d, s)
    let now := after env history start
    let xs := consulted env start history ++ asked env name now
    let next := resolve env name now
    (∀ l, next.1 = .ok l → ∀ a ∈ l, IsAddress a ∨ Stray xs a) ∧
      (∀ key i l, next.2.1.cache.item? key = some i → i.value = some l →
        ∀ a ∈ l, IsAddress a ∨ Stray xs a) ∧
      ∀ x response first rest, (asked env name now).getLast? = some x → x.result = .ok response →
        response.answers = first :: rest → first.type ≠ RecordType.cname.text →
        next.1 = .ok (response.answers.map Answer.address) := by
  intro start now xs next
  have hnow : Sourced r.hosts (consulted env start history) now.1 := by
    have h : Sourced r.hosts ([] ++ consulted env start history) now.1 :=
      sourced_after (sourced_withExpiration hr d) history
    rwa [List.nil_append] at h
  have hnext : Sourced r.hosts xs next.2.1 := sourced_step hnow (.resolve name)
  refine ⟨fun l hl => ?_, fun key i l hi hl => ?_,
    fun x response first rest hx hresponse hanswers hfirst => ?_⟩
  · have hgiven : Given r.hosts xs l := by
      have hholds := hnow.holds
      rw [← hnow.hosts_eq] at hholds ⊢
      exact (holds_resolve hholds name now.2).2 l hl
    exact hgiven.isAddress_or_stray hhosts hnext.truthful
  · exact (hnext.holds key i l hi hl).isAddress_or_stray hhosts hnext.truthful
  · have hfound : Chase.found (fun _ => x.result) x.question.name = _ :=
      Chase.found_of_answer hresponse hanswers
    rw [if_neg hfirst] at hfound
    exact (course env name now.1 now.2).last hx hfound

def redirection (query : Bytes) : Bytes :=
  query.take 2 ++ [0x81, 0x80, 0, 0, 0, 3, 0, 0, 0, 0] ++
    [1, 0x64, 0, 0, 39, 0, 1, 0, 0, 0, 60, 0, 3, 1, 0x65, 0] ++
    [1, 0x61, 1, 0x64, 0, 0, 5, 0, 1, 0, 0, 0, 60, 0, 5, 1, 0x61, 1, 0x65, 0] ++
    [1, 0x61, 1, 0x65, 0, 0, 1, 0, 1, 0, 0, 0, 60, 0, 4, 192, 0, 2, 1]

def redirected : Resolver Entropy :=
  ⟨.default,
    .classic ⟨⟨"[::1]", some (.v6 ⟨0, 0, 0, 0, 0, 0, 0, 1⟩), 53⟩, ⟨.udp, .any, false⟩, .default,
      none⟩, .empty .zero, [("host", ["192.0.2.2"])]⟩

theorem addresses_after_redirection :
    let env := Environment.serving redirection none true
    let s : Entropy := ⟨fun _ => 0, 0⟩
    redirected.transport.BuiltIn ∧ (∀ p ∈ redirected.hosts, ∀ a ∈ p.2, IsAddress a) ∧
      ∀ l, (resolve env "a.d" (redirected.withExpiration .zero, s)).1 = .ok l →
        ∀ a ∈ l, IsAddress a ∨ Stray (asked env "a.d" (redirected.withExpiration .zero, s)) a := by
  intro env s
  have hbuiltIn : redirected.transport.BuiltIn := fun _ h => nomatch h
  have hhosts : ∀ p ∈ redirected.hosts, ∀ a ∈ p.2, IsAddress a := by
    intro p hp a ha
    rw [List.mem_singleton.1 hp] at ha
    rw [List.mem_singleton.1 ha]
    exact isAddress_text (.v4 ⟨192, 0, 2, 2⟩)
  exact ⟨hbuiltIn, hhosts, (addresses_after env redirected hbuiltIn hhosts .zero s [] "a.d").1⟩

theorem not_only_addresses :
    let env := Environment.serving redirection none true
    let s : Entropy := ⟨fun _ => 0, 0⟩
    (resolve env "a.d" (redirected.withExpiration .zero, s)).1 = .ok ["e.", "a.e.", "192.0.2.1"] ∧
      ¬ IsAddress "e." ∧ ¬ IsAddress "a.e." := by
  intro env s
  refine ⟨?_, ?_, ?_⟩
  · decide +kernel
  · intro h
    obtain ⟨ip, hip⟩ := h
    cases hip
  · intro h
    obtain ⟨ip, hip⟩ := h
    cases hip

end Resolver

end StubResolver
