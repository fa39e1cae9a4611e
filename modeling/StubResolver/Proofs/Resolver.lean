import StubResolver.Proofs.Chase
import StubResolver.Rehearsal

set_option autoImplicit false

namespace StubResolver.Resolver

open Chase (Static Sound Walk Ends fresh)

variable {σ : Type}

inductive Event (σ : Type) where
  | resolve (name : String)
  /-- The outside world comes into another state. -/
  | move (outside : σ)

def step (env : Environment σ) : Resolver σ × σ → Event σ → Resolver σ × σ
  | s, .resolve name => (resolve env name s).2
  | (r, _), .move outside => (r, outside)

def after (env : Environment σ) (history : List (Event σ)) (s : Resolver σ × σ) : Resolver σ × σ :=
  history.foldl (step env) s

/-- What holds of a resolver throughout a history: the static entries stay, the transport goes on
answering alike, and the cache is sound. -/
structure Steady (hosts : List (String × List String)) (answer : String → Except Error Response)
    (ok : Transport σ → Prop) (r : Resolver σ) : Prop where
  hosts_eq : r.hosts = hosts
  transport_ok : ok r.transport
  sound : Sound hosts answer r.cache

variable {env : Environment σ} {hosts : List (String × List String)}
  {answer : String → Except Error Response} {ok : Transport σ → Prop}

theorem steady_withExpiration {r : Resolver σ} (hr : ok r.transport) (d : Duration) :
    Steady r.hosts answer ok (r.withExpiration d) :=
  ⟨rfl, hr, Chase.sound_empty d⟩

theorem resolve_spec (h : Static (Transport.lookup env) answer fun t => ok t.1) (name : String)
    {r : Resolver σ} (hr : Steady hosts answer ok r) (s : σ) :
    let next := resolve env name (r, s)
    Steady hosts answer ok next.2.1 ∧
      (next.1 = fresh hosts answer name ∨
        r.cache.items ≠ [] ∧ ∃ l, next.1 = .ok l ∧ Walk hosts answer name l) := by
  obtain ⟨rfl, htransport, hcache⟩ := hr
  obtain ⟨hsound, hok, hcase⟩ := Chase.resolve_spec h (fun t => env.elapsed t.2) name
    (s := (r.cache, r.transport, s)) hcache htransport
  exact ⟨⟨rfl, hok, hsound⟩, hcase⟩

theorem steady_step (h : Static (Transport.lookup env) answer fun t => ok t.1) {s : Resolver σ × σ}
    (hs : Steady hosts answer ok s.1) (e : Event σ) : Steady hosts answer ok (step env s e).1 := by
  cases e with
  | resolve name => exact (resolve_spec h name hs s.2).1
  | move outside => exact hs

theorem steady_after (h : Static (Transport.lookup env) answer fun t => ok t.1) {s : Resolver σ × σ}
    (hs : Steady hosts answer ok s.1) (history : List (Event σ)) :
    Steady hosts answer ok (after env history s).1 := by
  induction history generalizing s with
  | nil => exact hs
  | cons e history ih => exact ih (steady_step h hs e)

/-- How the result for a name, with a cache, goes with the walks, and with the result without it. -/
structure Agrees (hosts : List (String × List String)) (answer : String → Except Error Response)
    (cache : Cache (List String)) (now : Instant) (name : String)
    (result uncached : Except Error (List String)) : Prop where
  walks : ∀ l, result = .ok l → ∀ l', Walk hosts answer name l' ↔ l' = l
  cached : ∀ key item l, cache.item? key = some item → item.expiredAt now = false →
    item.value = some l →
    ∀ l', Ends hosts answer key l' ↔ l' = l
  same : (∀ n, uncached ≠ .error (.cnameChainTooLong n)) → result = uncached
  changed : result ≠ uncached →
    (∃ n, uncached = .error (.cnameChainTooLong n)) ∧ ∃ l, result = .ok l

/-- After any history that began with an empty cache, a name resolves as it would without the cache,
except that a chain of aliases that is too long may have become its end. -/
theorem resolve_after (h : Static (Transport.lookup env) answer fun t => ok t.1) (r : Resolver σ)
    (hr : ok r.transport) (d d' : Duration) (s s' : σ) (history : List (Event σ)) (name : String) :
    let now := after env history (r.withExpiration d, s)
    Agrees r.hosts answer now.1.cache (env.elapsed now.2) name (resolve env name now).1
      (resolve env name (r.withExpiration d', s')).1 := by
  intro now
  have hnow : Steady r.hosts answer ok now.1 := steady_after h (steady_withExpiration hr d) history
  have hcase := (resolve_spec h name hnow now.2).2
  have huncached : (resolve env name (r.withExpiration d', s')).1 = fresh r.hosts answer name :=
    ((resolve_spec h name (steady_withExpiration hr d') s').2).resolve_right
      fun hc => hc.1 (Cache.items_empty d')
  have hwalk : ∀ l, (resolve env name now).1 = .ok l → Walk r.hosts answer name l := by
    intro l hl
    rcases hcase with hf | ⟨-, l', hl', hw⟩
    · exact Chase.fresh_ok (hf.symm.trans hl)
    · cases hl.symm.trans hl'
      exact hw
  have hchanged : (resolve env name now).1 ≠ fresh r.hosts answer name →
      (∃ n, fresh r.hosts answer name = .error (.cnameChainTooLong n)) ∧
        ∃ l, (resolve env name now).1 = .ok l := by
    intro hne
    obtain ⟨-, l, hl, hw⟩ := hcase.resolve_left hne
    refine ⟨(Chase.fresh_of_walk hw).resolve_left ?_, l, hl⟩
    exact fun hf => hne (hl.trans hf.symm)
  rw [huncached]
  refine ⟨fun l hl l' => ⟨Chase.walk_unique (hwalk l hl), fun he => he ▸ hwalk l hl⟩,
    ?_, ?_, hchanged⟩
  · intro key item l hi _ hv l'
    have hends := hnow.sound key item l hi hv
    exact ⟨Chase.ends_unique hends, fun he => he ▸ hends⟩
  · intro hshort
    rcases hcase with hf | ⟨-, l, hl, hw⟩
    · exact hf
    · rcases Chase.fresh_of_walk hw with hf | ⟨n, hn⟩
      · exact hl.trans hf.symm
      · exact absurd hn (hshort n)

def tableAnswer (records : List (String × List (String × String))) (key : String) :
    Except Error Response :=
  (Rehearsal.table records (.internet key .a) (.start .up [] [])).1

theorem static_table (records : List (String × List (String × String))) :
    Static (Transport.lookup Rehearsal.environment) (tableAnswer records)
      fun t => t.1 = .custom (Rehearsal.table records) := by
  constructor
  · rintro key ⟨t, s⟩ rfl -
    rfl
  · rintro key ⟨t, s⟩ rfl
    rfl

/-- Nine aliases in a row are one too many, unless the middle of the chain was resolved before. -/
theorem resolve_after_long_chain :
    let records := (List.range 9).map (fun i => (s!"{i}.", [("CNAME", s!"{i + 1}.")])) ++
      [("9.", [("A", "192.0.2.1")])]
    let r : Resolver Rehearsal.World :=
      ⟨.default, .custom (Rehearsal.table records), .empty .zero, [("host", ["192.0.2.2"])]⟩
    let start := Rehearsal.World.start .up [] []
    let now := after Rehearsal.environment [.resolve "5", .move (start.advance (.ofSeconds 1))]
      (r.withExpiration (.ofSeconds 2), start)
    Static (Transport.lookup Rehearsal.environment) (tableAnswer records)
        (fun t => t.1 = .custom (Rehearsal.table records)) ∧
      r.transport = .custom (Rehearsal.table records) ∧
      (resolve Rehearsal.environment "0" now).1 = .ok ["192.0.2.1"] ∧
      (resolve Rehearsal.environment "0" (r.withExpiration .zero, start)).1 =
        .error (.cnameChainTooLong "8.") ∧
      Agrees r.hosts (tableAnswer records) now.1.cache (Rehearsal.environment.elapsed now.2) "0"
        (resolve Rehearsal.environment "0" now).1
        (resolve Rehearsal.environment "0" (r.withExpiration .zero, start)).1 := by
  intro records r start now
  have h := static_table records
  refine ⟨h, rfl, ?_, ?_,
    @resolve_after _ _ _ (· = .custom (Rehearsal.table records)) h r rfl _ _ _ _ _ _⟩
  · decide +kernel
  · decide +kernel

end StubResolver.Resolver
