import StubResolver.CommandLine
import StubResolver.Proofs.Cache

set_option autoImplicit false

namespace StubResolver

abbrev Entries := List (String × List String)

namespace Chase

variable {σ : Type} {hosts hosts' : Entries}

theorem known_congr (h : ∀ n, hosts.lookup n = hosts'.lookup n)
    (clock : σ → Instant) (name : String) (s : State σ) :
    known clock hosts name s = known clock hosts' name s := by
  rw [known, known, h]

theorem follow_congr (h : ∀ n, hosts.lookup n = hosts'.lookup n)
    (lookup : Question → Task σ Response) (clock : σ → Instant) (aliases : Nat)
    (name : String) (s : State σ) :
    follow lookup clock hosts aliases name s = follow lookup clock hosts' aliases name s := by
  induction aliases generalizing name s with
  | zero => rw [follow, follow]
  | succ n ih =>
    rw [follow, follow]
    simp only [known_congr h, ih]

theorem resolve_congr (h : ∀ n, hosts.lookup n = hosts'.lookup n)
    (lookup : Question → Task σ Response) (clock : σ → Instant) (name : String) (s : State σ) :
    resolve lookup clock hosts name s = resolve lookup clock hosts' name s := by
  simp only [resolve, known_congr h, follow_congr h]

end Chase

namespace Resolver

variable {σ : Type} {hosts : Entries}

def withEntries (hosts : Entries) (r : Resolver σ) : Resolver σ := { r with hosts }

def Alike (r r' : Resolver σ) : Prop :=
  ∃ hosts, (∀ n, r.hosts.lookup n = hosts.lookup n) ∧ r' = r.withEntries hosts

theorem resolve_withEntries (env : Environment σ) (name : String) {s : Resolver σ × σ}
    (h : ∀ n, s.1.hosts.lookup n = hosts.lookup n) :
    resolve env name (s.map (withEntries hosts) id) =
      (resolve env name s).map id (Prod.map (withEntries hosts) id) := by
  obtain ⟨r, s⟩ := s
  have hchase :=
    Chase.resolve_congr h (Transport.lookup env) (fun t => env.elapsed t.2) name
      (r.cache, r.transport, s)
  simp only [resolve, withEntries, Prod.map_apply, hchase, id]
  rfl

theorem setServer_withEntries (env : Environment σ) (address : String) (s : Resolver σ × σ) :
    setServer env address (s.map (withEntries hosts) id) =
      (setServer env address s).map id (Prod.map (withEntries hosts) id) := by
  obtain ⟨r, s⟩ := s
  simp only [setServer, withEntries, Prod.map_apply, id]
  rcases transportFor env r.options address (ServerKind.classify address) s with ⟨e | t, u⟩ <;> rfl

theorem setServer_hosts (env : Environment σ) (address : String) (s : Resolver σ × σ) :
    (setServer env address s).2.1.hosts = s.1.hosts := by
  obtain ⟨r, s⟩ := s
  simp only [setServer]
  rcases transportFor env r.options address (ServerKind.classify address) s with ⟨e | t, u⟩ <;> rfl

theorem lookup_withHost (r : Resolver σ) (name other : String) (addresses : List String) :
    (r.withHost name addresses).hosts.lookup other = if other = name then some addresses
      else r.hosts.lookup other := by
  rw [withHost, List.lookup_cons, Cache.lookup_filter_ne]
  by_cases h : other = name
  · simp [h]
  · simp [h, beq_eq_false_iff_ne.2 h]

/-- Of the entries for a name the last one counts. -/
theorem foldl_withHost (r : Resolver σ) (entries : Entries) :
    ∃ hosts, entries.foldl (fun r p => r.withHost p.1 p.2) r = r.withEntries hosts ∧
      ∀ n, hosts.lookup n = (entries.reverse.lookup n).or (r.hosts.lookup n) := by
  induction entries generalizing r with
  | nil => exact ⟨r.hosts, rfl, fun n => rfl⟩
  | cons p entries ih =>
    obtain ⟨name, addresses⟩ := p
    obtain ⟨hosts, heq, hlookup⟩ := ih (r.withHost name addresses)
    refine ⟨hosts, heq, fun n => ?_⟩
    rw [hlookup, lookup_withHost, List.reverse_cons, List.lookup_append, Option.or_assoc,
      List.lookup_cons]
    by_cases h : n = name
    · simp [h]
    · simp [h, beq_eq_false_iff_ne.2 h]

/-- Where no name has two entries, their order is of no account. -/
theorem lookup_perm {entries entries' : Entries} (hperm : entries.Perm entries')
    (hd : (entries.map Prod.fst).Nodup) (n : String) : entries.lookup n = entries'.lookup n := by
  have hd' : (entries'.map Prod.fst).Nodup := (hperm.map Prod.fst).nodup_iff.1 hd
  ext addresses
  rw [Cache.lookup_eq_some_iff hd, Cache.lookup_eq_some_iff hd', hperm.mem_iff]

end Resolver

namespace CommandLine

variable {σ : Type} {hosts : Entries}

theorem install_withEntries (env : Environment σ) (a : Arguments) (s : Resolver σ × σ) :
    install env a (s.map (Resolver.withEntries hosts) id) =
      (install env a s).map id (Prod.map (Resolver.withEntries hosts) id) := by
  rw [install, install]
  cases a.nameserver with
  | none => rfl
  | some address =>
    dsimp only
    rw [Resolver.setServer_withEntries]
    rcases Resolver.setServer env address s with ⟨e | _, t⟩
    · cases e <;> rfl
    · rfl

theorem install_hosts (env : Environment σ) (a : Arguments) (s : Resolver σ × σ) :
    (install env a s).2.1.hosts = s.1.hosts := by
  rw [install]
  cases a.nameserver with
  | none => rfl
  | some address =>
    have hhosts := Resolver.setServer_hosts env address s
    dsimp only
    generalize Resolver.setServer env address s = next at hhosts ⊢
    rcases next with ⟨e | _, t⟩
    · cases e <;> exact hhosts
    · exact hhosts

theorem ask_withEntries (env : Environment σ) (a : Arguments) {s : Resolver σ × σ}
    (h : ∀ n, s.1.hosts.lookup n = hosts.lookup n) :
    ask env a (s.map (Resolver.withEntries hosts) id) =
      (ask env a s).map id (Prod.map (Resolver.withEntries hosts) id) := by
  unfold ask
  dsimp only
  split
  · rw [Resolver.resolve_withEntries env a.name h]
    rfl
  · rfl

end CommandLine

end StubResolver
