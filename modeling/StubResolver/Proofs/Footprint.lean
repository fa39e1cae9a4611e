import StubResolver.Proofs.CacheHistory
import StubResolver.Proofs.Clock
import StubResolver.Proofs.Trail

/-!
What a resolution leaves behind. On its way it reads the cache, and by that removes items that have
expired; at its end it stores one item, if it has asked and come to addresses. Whoever reads the
cache from then on sees nothing else of it.
-/

set_option autoImplicit false

namespace StubResolver

namespace Cache

variable {α : Type} {c c' c'' : Cache α} {now now' : Instant}

/-- The second cache is the first one, less some items that have expired. -/
structure Evicts (now : Instant) (c c' : Cache α) : Prop where
  expiration_eq : c'.expiration = c.expiration
  items : ∀ key, c'.item? key = c.item? key ∨
    c'.item? key = none ∧ ∀ i, c.item? key = some i → i.expiredAt now = true

theorem Evicts.refl (now : Instant) (c : Cache α) : Evicts now c c := ⟨rfl, fun _ => .inl rfl⟩

theorem Evicts.trans (h : Evicts now c c') (h' : Evicts now c' c'') : Evicts now c c'' := by
  refine ⟨h'.expiration_eq.trans h.expiration_eq, fun key => ?_⟩
  cases h'.items key with
  | inl hsame' =>
    rw [hsame']
    exact h.items key
  | inr hgone' =>
    refine .inr ⟨hgone'.1, fun i hi => ?_⟩
    cases h.items key with
    | inl hsame => exact hgone'.2 i (hsame.trans hi)
    | inr hgone => exact hgone.2 i hi

theorem Evicts.mono (h : Evicts now c c') (hle : now.nanos ≤ now'.nanos) : Evicts now' c c' :=
  ⟨h.expiration_eq, fun key => (h.items key).imp id fun hgone =>
    ⟨hgone.1, fun i hi => expiredAt_of_le (hgone.2 i hi) hle⟩⟩

theorem evicts_get (c : Cache α) (key : String) (now : Instant) : Evicts now c (c.get key now).2 :=
  ⟨expiration_get c key now, fun other => item?_get c key other now⟩

theorem Evicts.item?_of_some (h : Evicts now c c') {key : String} {i : CacheItem α}
    (hi : c'.item? key = some i) :
    c.item? key = some i := by
  cases h.items key with
  | inl hsame => rw [← hsame, hi]
  | inr hgone =>
    rw [hgone.1] at hi
    cases hi

/-- What has expired is not reported, so that nobody misses it. -/
theorem Evicts.get_eq (h : Evicts now c c') (hle : now.nanos ≤ now'.nanos) (key : String) :
    (c'.get key now').1 = (c.get key now').1 := by
  ext v
  rw [get_eq_some_iff, get_eq_some_iff]
  cases h.items key with
  | inl hsame => rw [hsame]
  | inr hgone =>
    rw [hgone.1]
    constructor
    · intro hv
      obtain ⟨i, hi, -⟩ := hv
      cases hi
    · intro hv
      obtain ⟨i, hi, hlive, -⟩ := hv
      rw [expiredAt_of_le (hgone.2 i hi) hle] at hlive
      cases hlive

theorem get_set_of_ne (c : Cache α) {key other : String} (h : other ≠ key) (value : Option α)
    (now now' : Instant) :
    ((c.set key value now).get other now').1 = (c.get other now').1 := by
  ext v
  rw [get_eq_some_iff, get_eq_some_iff, item?_set, if_neg h]

end Cache

namespace Chase

variable {hosts : List (String × List String)}

theorem evicts_knownAt (hosts : List (String × List String)) (name : String) (now : Instant)
    (c : Cache (List String)) : c.Evicts now (knownAt hosts name now c).2 := by
  unfold knownAt
  cases hosts.lookup name with
  | some l => exact .refl now c
  | none => exact Cache.evicts_get c (qualify name) now

theorem knownAt_of_some {name : String} {now : Instant} {c c' : Cache (List String)}
    {l : List String} (h : knownAt hosts name now c = (some l, c')) :
    c' = c ∧
      (hosts.lookup name = some l ∨ hosts.lookup name = none ∧
        (c.get (qualify name) now).1 = some l) := by
  unfold knownAt at h
  cases hhost : hosts.lookup name with
  | some l' =>
    rw [hhost] at h
    cases h
    exact ⟨rfl, .inl rfl⟩
  | none =>
    rw [hhost] at h
    dsimp only at h
    have hget : (c.get (qualify name) now).1 = some l := by rw [h]
    have hsame := Cache.get_of_some hget
    rw [h] at hsame
    exact ⟨hsame, .inr ⟨rfl, hget⟩⟩

theorem Trail.evicts {n : Nat} {name : String} {c c' : Cache (List String)} {xs : List Consultation}
    {result : Except Error (List String)} (h : Trail hosts n name c xs result c') {finish : Instant}
    (hle : ∀ x ∈ xs, x.time.nanos ≤ finish.nanos) : c.Evicts finish c' := by
  induction h with
  | failed | addresses | tooLong => exact .refl finish _
  | @known n name target c c' x l hquestion hfound hknown =>
    have hread := evicts_knownAt hosts target x.time c
    rw [hknown] at hread
    exact hread.mono (hle x List.mem_cons_self)
  | @onward n name target c c' c'' x xs result hquestion hfound hknown htrail ih =>
    have hread := evicts_knownAt hosts target x.time c
    rw [hknown] at hread
    exact (hread.mono (hle x List.mem_cons_self)).trans
      (ih fun y hy => hle y (List.mem_cons_of_mem x hy))

/-- A resolution between caches: what readers from the moment `finish` on see of it. -/
structure Footprint (name : String) (finish : Instant) (asked : List Consultation)
    (result : Except Error (List String)) (c c' : Cache (List String)) : Prop where
  failed : ∀ e, result = .error e → ∀ key t, finish.nanos ≤ t.nanos →
    (c'.get key t).1 = (c.get key t).1
  others : ∀ key, key ≠ qualify name → ∀ t, finish.nanos ≤ t.nanos →
    (c'.get key t).1 = (c.get key t).1
  fresh : ∀ l, result = .ok l → asked ≠ [] →
    c'.item? (qualify name) = some ⟨some l, c.expiration.bind fun d => finish.after? d⟩
  stored : ∀ key i, c'.item? key = some i → c.item? key = some i ∨
    key = qualify name ∧ asked ≠ [] ∧ ∃ l, result = .ok l
  expiration_eq : c'.expiration = c.expiration

theorem Course.footprint {name : String} {start finish : Instant} {c c' : Cache (List String)}
    {xs : List Consultation} {result : Except Error (List String)}
    (h : Course hosts name start finish c xs result c') (hstart : start.nanos ≤ finish.nanos)
    (hle : ∀ x ∈ xs, x.time.nanos ≤ finish.nanos) :
    Footprint name finish xs result c c' := by
  cases h with
  | @known l c' hknown =>
    obtain ⟨rfl, -⟩ := knownAt_of_some hknown
    exact ⟨fun _ _ _ _ _ => rfl, fun _ _ _ _ => rfl, fun _ _ hne => absurd rfl hne,
      fun _ _ hi => .inl hi, rfl⟩
  | @chased c' c'' xs result hknown htrail =>
    have hread := evicts_knownAt hosts name start c
    rw [hknown] at hread
    have hevicts : c.Evicts finish c'' := (hread.mono hstart).trans (htrail.evicts hle)
    cases result with
    | error e =>
      exact ⟨fun _ _ key t ht => hevicts.get_eq ht key, fun key _ t ht => hevicts.get_eq ht key,
        fun _ hl => (nomatch hl), fun _ _ hi => .inl (hevicts.item?_of_some hi),
        hevicts.expiration_eq⟩
    | ok l =>
      refine ⟨fun _ hl => (nomatch hl), fun key hkey t ht => ?_, fun l' hl' _ => ?_,
        fun key i hi => ?_, hevicts.expiration_eq⟩
      · rw [stored, Cache.get_set_of_ne _ hkey, hevicts.get_eq ht key]
      · cases hl'
        rw [stored, Cache.item?_set, if_pos rfl, hevicts.expiration_eq]
      · rw [stored, Cache.item?_set] at hi
        by_cases hkey : key = qualify name
        · exact .inr ⟨hkey, htrail.ne_nil, l, rfl⟩
        · rw [if_neg hkey] at hi
          exact .inl (hevicts.item?_of_some hi)

variable {τ : Type} {lookup : Question → Task τ Response} {clock : τ → Instant}

/-- No lookup in a state of `ok` sets the clock back, or leaves these states. -/
def Punctual (lookup : Question → Task τ Response) (clock : τ → Instant) (ok : τ → Prop) : Prop :=
  ∀ question t, ok t → (clock t).nanos ≤ (clock (lookup question t).2).nanos ∧
    ok (lookup question t).2

theorem Punctual.times {ok : τ → Prop} (h : Punctual lookup clock ok)
    (hosts : List (String × List String)) (name : String) {s : State τ} (hs : ok s.2) :
    let finish := clock (resolve lookup clock hosts name s).2.2
    (clock s.2).nanos ≤ finish.nanos ∧ ∀ x ∈ asked lookup clock hosts name s,
      x.time.nanos ≤ finish.nanos := by
  let past (xs : List Consultation) (t : τ) : Prop :=
    ok t ∧ (clock s.2).nanos ≤ (clock t).nanos ∧ ∀ x ∈ xs, x.time.nanos ≤ (clock t).nanos
  have hlookup : ∀ name xs t, past xs t →
      past (xs ++ [consultation lookup clock name t])
        (lookup (.internet (qualify name) .a) t).2 := by
    intro name xs t ht
    obtain ⟨hok, hstart, htimes⟩ := ht
    obtain ⟨hle, hok'⟩ := h (.internet (qualify name) .a) t hok
    refine ⟨hok', Nat.le_trans hstart hle, List.forall_mem_append.2 ⟨fun x hx => ?_, ?_⟩⟩
    · exact Nat.le_trans (htimes x hx) hle
    · exact List.forall_mem_singleton.2 (Nat.le_refl _)
  have hbegin : past [] s.2 := ⟨hs, Nat.le_refl _, fun x hx => nomatch hx⟩
  exact (asked_keeps hlookup name hbegin).2

theorem resolve_of_known (lookup : Question → Task τ Response) (clock : τ → Instant)
    {name : String} {s : State τ} {l : List String}
    (h : (knownAt hosts name (clock s.2) s.1).1 = some l) :
    resolve lookup clock hosts name s = (.ok l, s) ∧ asked lookup clock hosts name s = [] := by
  rcases hknown : knownAt hosts name (clock s.2) s.1 with ⟨found, c⟩
  rw [hknown] at h
  dsimp only at h
  subst h
  obtain ⟨rfl, -⟩ := knownAt_of_some hknown
  rw [asked, resolve_eq, resolve_eq]
  dsimp only
  rw [hknown]
  exact ⟨rfl, rfl⟩

theorem Course.known_of_nil {name : String} {start finish : Instant} {c c' : Cache (List String)}
    {xs : List Consultation} {result : Except Error (List String)}
    (h : Course hosts name start finish c xs result c') (hx : xs = []) :
    ∃ l, (knownAt hosts name start c).1 = some l := by
  cases h with
  | @known l c' hknown => exact ⟨l, by rw [hknown]⟩
  | chased _ htrail => exact absurd hx htrail.ne_nil

end Chase

namespace Resolver

variable {σ : Type}

def asked (env : Environment σ) (name : String) (s : Resolver σ × σ) : List Chase.Consultation :=
  Chase.asked (Transport.lookup env) (fun t => env.elapsed t.2) s.1.hosts name
    (s.1.cache, s.1.transport, s.2)

theorem resolve_eq (env : Environment σ) (name : String) (r : Resolver σ) (s : σ) :
    resolve env name (r, s) =
      let n :=
        Chase.resolve (Transport.lookup env) (fun t => env.elapsed t.2) r.hosts name
          (r.cache, r.transport, s)
      (n.1, { r with cache := n.2.1, transport := n.2.2.1 }, n.2.2.2) :=
  rfl

theorem course (env : Environment σ) (name : String) (r : Resolver σ) (s : σ) :
    let next := resolve env name (r, s)
    Chase.Course r.hosts name (env.elapsed s) (env.elapsed next.2.2) r.cache
      (asked env name (r, s)) next.1
      next.2.1.cache :=
  Chase.resolve_course (Transport.lookup env) (fun t => env.elapsed t.2) r.hosts name
    (r.cache, r.transport, s)

theorem resolve_of_known {env : Environment σ} {name : String} {r : Resolver σ} {s : σ}
    {l : List String} (h : (Chase.knownAt r.hosts name (env.elapsed s) r.cache).1 = some l) :
    asked env name (r, s) = [] ∧ resolve env name (r, s) = (.ok l, r, s) := by
  obtain ⟨hresolve, hasked⟩ :=
    Chase.resolve_of_known (s := (r.cache, r.transport, s)) (Transport.lookup env)
    (fun t => env.elapsed t.2) h
  refine ⟨hasked, ?_⟩
  rw [resolve_eq, hresolve]

/--
A resolution changes the cache under the name asked for, if it has asked and come to addresses, and
no reader sees a change otherwise. What is known without asking is told without any change.
-/
theorem resolve_footprint {env : Environment σ} (henv : env.Forward) {r : Resolver σ}
    (hr : r.transport.Forward env.elapsed) (name : String) (s : σ) :
    let asked := asked env name (r, s)
    let next := resolve env name (r, s)
    Chase.Footprint name (env.elapsed next.2.2) asked next.1 r.cache next.2.1.cache ∧
      next.2.1.options = r.options ∧ next.2.1.hosts = r.hosts ∧
      (asked = [] → ∃ l, next = (.ok l, r, s)) ∧
      (∀ l, r.hosts.lookup name = some l → asked = [] ∧ next = (.ok l, r, s)) ∧
      ∀ l, r.hosts.lookup name = none → (r.cache.get (qualify name) (env.elapsed s)).1 = some l →
        asked = [] ∧ next = (.ok l, r, s) := by
  intro asked next
  have hpunctual : Chase.Punctual (Transport.lookup env) (fun t => env.elapsed t.2)
      fun t => t.1.Forward env.elapsed :=
        fun question _ ht => Transport.lookup_forward henv question ht
  have hcourse :=
    Chase.resolve_course (Transport.lookup env) (fun t => env.elapsed t.2) r.hosts name
    (r.cache, r.transport, s)
  obtain ⟨hstart, htimes⟩ := hpunctual.times r.hosts name (s := (r.cache, r.transport, s)) hr
  refine ⟨hcourse.footprint hstart htimes, rfl, rfl, fun hnil => ?_, fun l hhost => ?_,
    fun l hhost hget => ?_⟩
  · obtain ⟨l, hknown⟩ := hcourse.known_of_nil hnil
    exact ⟨l, (resolve_of_known hknown).2⟩
  · exact resolve_of_known (by rw [Chase.knownAt, hhost])
  · exact resolve_of_known (by rw [Chase.knownAt, hhost]; exact hget)

/-- The alias leads to a name of which the cache has a value that has expired. -/
theorem resolve_footprint_past_expired :
    let records := [("a.", [("CNAME", "b.")]), ("b.", [("A", "192.0.2.1")])]
    let r : Resolver Rehearsal.World :=
      ⟨.default, .custom (Rehearsal.table records),
        ⟨[("b.", ⟨some ["192.0.2.9"], some ⟨1⟩⟩)], some ⟨5⟩, true⟩, []⟩
    let s := (Rehearsal.World.start .up [] []).advance ⟨2⟩
    let next := resolve Rehearsal.environment "a" (r, s)
    Rehearsal.environment.Forward ∧ r.transport.Forward Rehearsal.environment.elapsed ∧
      (asked Rehearsal.environment "a" (r, s)).length = 2 ∧ next.1 = .ok ["192.0.2.1"] ∧
      Chase.Footprint "a" (Rehearsal.environment.elapsed next.2.2)
        (asked Rehearsal.environment "a" (r, s)) next.1
        r.cache next.2.1.cache := by
  intro records r s next
  have hforward : r.transport.Forward Rehearsal.environment.elapsed := fun _ _ => Nat.le_refl _
  refine ⟨Rehearsal.environment_forward, hforward, ?_, ?_, ?_⟩
  · decide +kernel
  · decide +kernel
  · exact (resolve_footprint Rehearsal.environment_forward hforward "a" s).1

end Resolver

end StubResolver
