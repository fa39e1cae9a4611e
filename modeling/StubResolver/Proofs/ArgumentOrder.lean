import Mathlib.Data.List.Perm.Basic
import StubResolver.Proofs.Candidate
import StubResolver.Proofs.StaticEntries
import StubResolver.Rehearsal

set_option autoImplicit false

namespace StubResolver

inductive Setting.Choice where
  | server | scheme | name | type | ndots | search | timeout | prefer | tlsHostname
  | host (name : String)
  deriving DecidableEq, Repr

/-- A switch has no choice to make: all of a kind say the same. -/
def Setting.choice? : Setting → Option Choice
  | server _ => some .server
  | scheme _ => some .scheme
  | name _ => some .name
  | type _ => some .type
  | ndots _ => some .ndots
  | search _ => some .search
  | timeout _ => some .timeout
  | prefer _ => some .prefer
  | tlsHostname _ => some .tlsHostname
  | host n _ => some (.host n)
  | resolve | verbose | json | noSummary | debug | ipv4 | ipv6 | insecure => none

def Setting.Choice.host? : Choice → Option String
  | host n => some n
  | _ => none

namespace Arguments

/-- The same arguments, but for the order of the static entries. -/
def Alike (a b : Arguments) : Prop := ∃ hosts, a.hosts.Perm hosts ∧ b = { a with hosts }

variable {a b c : Arguments} {x y : Setting} {l l' : List Setting}

theorem Alike.refl (a : Arguments) : Alike a a := ⟨a.hosts, .refl _, rfl⟩

theorem Alike.trans (h : Alike a b) (h' : Alike b c) : Alike a c := by
  obtain ⟨hosts, hperm, rfl⟩ := h
  obtain ⟨hosts', hperm', rfl⟩ := h'
  exact ⟨hosts', hperm.trans hperm', rfl⟩

theorem Alike.set (h : Alike a b) (x : Setting) : Alike (a.set x) (b.set x) := by
  obtain ⟨hosts, hperm, rfl⟩ := h
  cases x with
  | host n ips => exact ⟨_, hperm.append_right _, rfl⟩
  | _ => exact ⟨hosts, hperm, rfl⟩

theorem Alike.setAll (h : Alike a b) (l : List Setting) : Alike (a.setAll l) (b.setAll l) := by
  induction l generalizing a b with
  | nil => exact h
  | cons x l ih => exact ih (h.set x)

/-- Two settings write different fields, or they are switches of a kind, or both add an entry. -/
theorem set_comm (h : ∀ k, x.choice? = some k → y.choice? ≠ some k) (a : Arguments) :
    Alike ((a.set x).set y) ((a.set y).set x) := by
  cases x <;> cases y
  case host.host n ips m jps =>
    refine ⟨_, ?_, rfl⟩
    simp only [set, List.append_assoc]
    exact (List.Perm.swap _ _ []).append_left a.hosts
  all_goals first
    | exact absurd rfl (h _ rfl)
    | exact .refl _

theorem choices_differ (h : ((x :: y :: l).filterMap Setting.choice?).Nodup) (k : Setting.Choice)
    (hx : x.choice? = some k) : y.choice? ≠ some k := by
  intro hy
  rw [List.filterMap_cons_some hx, List.filterMap_cons_some hy] at h
  exact (List.nodup_cons.1 h).1 List.mem_cons_self

theorem setAll_perm (hperm : l.Perm l') (hd : (l.filterMap Setting.choice?).Nodup) (a : Arguments) :
    Alike (a.setAll l) (a.setAll l') := by
  induction hperm generalizing a with
  | nil => exact .refl a
  | cons x _ ih => exact ih (hd.sublist ((List.sublist_cons_self x _).filterMap _)) (a.set x)
  | swap x y l => exact (set_comm (choices_differ hd) a).setAll l
  | trans hperm _ ih ih' => exact (ih hd a).trans (ih' ((hperm.filterMap _).nodup_iff.1 hd) a)

def choices (texts : List String) : List Setting.Choice :=
  texts.filterMap fun t => (Setting.ofText t).toOption.bind Setting.choice?

theorem choices_of_forall₂ {texts : List String}
    (h : List.Forall₂ (fun t x => Setting.ofText t = .ok x) texts l) :
    choices texts = l.filterMap Setting.choice? := by
  induction h with
  | nil => rfl
  | cons hx _ ih =>
    rw [choices, List.filterMap_cons, List.filterMap_cons, hx, ← ih]
    rfl

theorem ofTexts_eq_ok_iff {texts : List String} : ofTexts texts = .ok a ↔
    ∃ l, List.Forall₂ (fun t x => Setting.ofText t = .ok x) texts l ∧
      check (default.setAll l) = .ok a := by
  constructor
  · intro h
    obtain ⟨l, hl, hcheck⟩ := exists_of_bind h
    exact ⟨l, Candidate.mapM_eq_ok_iff.1 hl, hcheck⟩
  · rintro ⟨l, hl, hcheck⟩
    rw [ofTexts, Candidate.mapM_eq_ok_iff.2 hl]
    exact hcheck

theorem eq_of_check (h : check b = .ok a) : a = b := by
  unfold check at h
  split at h
  · cases h
  · exact (Except.ok.inj h).symm

theorem Alike.check (h : Alike a b) (ha : check a = .ok a) : check b = .ok b := by
  obtain ⟨hosts, -, rfl⟩ := h
  unfold Arguments.check at ha ⊢
  split at ha
  · cases ha
  · next hboth => rw [if_neg hboth]

theorem ofTexts_perm {texts texts' : List String} (ha : ofTexts texts = .ok a)
    (hd : (choices texts).Nodup) (hperm : texts.Perm texts') :
    ∃ b, ofTexts texts' = .ok b ∧ Alike a b := by
  obtain ⟨l, hl, hcheck⟩ := ofTexts_eq_ok_iff.1 ha
  obtain rfl := eq_of_check hcheck
  obtain ⟨l', hl', hperm'⟩ := List.perm_comp_forall₂ hperm.symm hl
  have halike : Alike (default.setAll l) (default.setAll l') :=
    setAll_perm hperm'.symm (choices_of_forall₂ hl ▸ hd) default
  exact ⟨_, ofTexts_eq_ok_iff.2 ⟨l', hl', halike.check hcheck⟩, halike⟩

theorem hosts_set (a : Arguments) (x : Setting) :
    (a.set x).hosts.map Prod.fst = a.hosts.map Prod.fst ++
      (x.choice?.bind Setting.Choice.host?).toList := by
  cases x with
  | host n ips => simp [set, Setting.choice?, Setting.Choice.host?]
  | _ => exact (List.append_nil _).symm

theorem hosts_setAll (a : Arguments) (l : List Setting) : (a.setAll l).hosts.map Prod.fst =
    a.hosts.map Prod.fst ++ (l.filterMap Setting.choice?).filterMap Setting.Choice.host? := by
  induction l generalizing a with
  | nil => exact (List.append_nil _).symm
  | cons x l ih =>
    have hrest : (a.setAll (x :: l)).hosts.map Prod.fst = ((a.set x).setAll l).hosts.map Prod.fst :=
      rfl
    rw [hrest, ih, hosts_set, List.append_assoc]
    cases hx : x.choice? with
    | none => simp [hx]
    | some k => cases hk : k.host? <;> simp [hx, hk]

theorem nodup_hosts (hd : (l.filterMap Setting.choice?).Nodup) :
    ((default.setAll l).hosts.map Prod.fst).Nodup := by
  rw [hosts_setAll]
  refine hd.filterMap fun k k' n hk hk' => ?_
  cases k <;> cases hk
  cases k' <;> cases hk'
  rfl

theorem nodup_hosts_of_ofTexts {texts : List String} (ha : ofTexts texts = .ok a)
    (hd : (choices texts).Nodup) :
    (a.hosts.map Prod.fst).Nodup := by
  obtain ⟨l, hl, hcheck⟩ := ofTexts_eq_ok_iff.1 ha
  obtain rfl := eq_of_check hcheck
  exact nodup_hosts (choices_of_forall₂ hl ▸ hd)

end Arguments

structure Arguments.Agrees (a b : Arguments) : Prop where
  nameserver : b.nameserver = a.nameserver
  name : b.name = a.name
  type : b.type = a.type
  options : b.options = a.options
  flags : (b.resolve, b.verbose, b.json, b.summary, b.debug) =
    (a.resolve, a.verbose, a.json, a.summary, a.debug)
  entries : b.hosts.Perm a.hosts
  hosts : ∀ n, b.hosts.lookup n = a.hosts.lookup n

theorem Arguments.Alike.agrees {a b : Arguments} (h : Alike a b)
    (hd : (a.hosts.map Prod.fst).Nodup) : Agrees a b := by
  obtain ⟨hosts, hperm, rfl⟩ := h
  exact ⟨rfl, rfl, rfl, rfl, rfl, hperm.symm, fun n => (Resolver.lookup_perm hperm hd n).symm⟩

namespace CommandLine

variable {σ : Type} {a b : Arguments}

theorem resolver_alike (h : a.Alike b) (hd : (a.hosts.map Prod.fst).Nodup) :
    (resolver a : Resolver σ).Alike (resolver b) := by
  obtain ⟨hosts, hperm, rfl⟩ := h
  obtain ⟨found, hresolver, hlookup⟩ :=
    Resolver.foldl_withHost (σ := σ) (.ofOptions a.options) a.hosts
  obtain ⟨found', hresolver', hlookup'⟩ :=
    Resolver.foldl_withHost (σ := σ) (.ofOptions a.options) hosts
  have hreverse : (a.hosts.reverse.map Prod.fst).Nodup := by
    rw [List.map_reverse]
    exact List.nodup_reverse.2 hd
  have hperm' : a.hosts.reverse.Perm hosts.reverse :=
    (List.reverse_perm _).trans (hperm.trans (List.reverse_perm _).symm)
  refine ⟨found', fun n => ?_, ?_⟩
  · rw [resolver, hresolver, hlookup', ← Resolver.lookup_perm hperm' hreverse, ← hlookup]
    rfl
  · rw [resolver, resolver, hresolver, hresolver']
    rfl

theorem install_alike (env : Environment σ) (h : a.Alike b)
    (hd : (a.hosts.map Prod.fst).Nodup) (s : σ) :
    ∃ found, (∀ n, (install env a (resolver a, s)).2.1.hosts.lookup n = found.lookup n) ∧
      install env b (resolver b, s) =
        (install env a (resolver a, s)).map id (Prod.map (Resolver.withEntries found) id) := by
  obtain ⟨found, hfound, hresolver⟩ : (resolver a : Resolver σ).Alike (resolver b) :=
    resolver_alike h hd
  obtain ⟨hosts, -, rfl⟩ := h
  refine ⟨found, fun n => ?_, ?_⟩
  · rw [install_hosts, hfound]
  · rw [hresolver]
    exact install_withEntries env a (resolver a, s)

theorem perform_alike (env : Environment σ) (h : a.Alike b)
    (hd : (a.hosts.map Prod.fst).Nodup) (s : σ) :
    perform env b s = perform env a s := by
  obtain ⟨found, hfound, hinstall⟩ := install_alike env h hd s
  obtain ⟨hosts, -, rfl⟩ := h
  rw [perform, perform, hinstall]
  generalize install env a (resolver a, s) = next at hfound
  obtain ⟨_ | said, t⟩ := next
  · rfl
  · have hask : ask env { a with hosts } (t.map (Resolver.withEntries found) id) =
        (ask env a t).map id (Prod.map (Resolver.withEntries found) id) :=
          ask_withEntries env a hfound
    dsimp only [Prod.map_apply, id]
    rw [hask]
    rcases ask env a t with ⟨_ | output, u⟩ <;> rfl

/-- Arguments of which no two make the same choice can be given in any order: they set the same
things, the resolver is set up alike, and the run says and does the same. -/
theorem same_run_of_perm {texts texts' : List String} (env : Environment σ)
    (ha : Arguments.ofTexts texts = .ok a) (hd : (Arguments.choices texts).Nodup)
    (hperm : texts.Perm texts') :
    ∃ b, Arguments.ofTexts texts' = .ok b ∧ a.Agrees b ∧
      (∀ s, (install env b (resolver b, s)).1 = (install env a (resolver a, s)).1 ∧
        (install env a (resolver a, s)).2.1.Alike (install env b (resolver b, s)).2.1 ∧
        (install env b (resolver b, s)).2.2 = (install env a (resolver a, s)).2.2) ∧
      ∀ s, run env texts' s = run env texts s := by
  obtain ⟨b, hb, halike⟩ := Arguments.ofTexts_perm ha hd hperm
  have hhosts := Arguments.nodup_hosts_of_ofTexts ha hd
  refine ⟨b, hb, halike.agrees hhosts, fun s => ?_, fun s => ?_⟩
  · obtain ⟨found, hfound, hinstall⟩ := install_alike env halike hhosts s
    rw [hinstall]
    exact ⟨rfl, ⟨found, hfound, rfl⟩, rfl⟩
  · rw [run, run, ha, hb]
    exact perform_alike env halike hhosts s

/-- The flag stands behind the server, a switch is repeated, and the entries change places. -/
theorem same_run_of_perm_reversed :
    let texts :=
      ["+host=a=192.0.2.1", "+tls", "@[::1]:853", "+ipv6", "b", "+host=b=::1,2001:db8::2",
        "+resolve", "+ipv6"]
    let s := Rehearsal.World.start .up [] []
    (Arguments.choices texts).Nodup ∧ texts.Perm texts.reverse ∧
      (∃ a b, Arguments.ofTexts texts = .ok a ∧
        Arguments.ofTexts texts.reverse = .ok b ∧ a.Agrees b ∧
        a.hosts ≠ b.hosts ∧ b.nameserver = some "tls://[::1]:853") ∧
      run Rehearsal.environment texts.reverse s = run Rehearsal.environment texts s := by
  intro texts s
  let a : Arguments :=
    ⟨some "[::1]:853", .tls, "b", .a, { Options.default with ipv6 := true },
      [("a", ["192.0.2.1"]), ("b", ["::1", "2001:db8::2"])], true, false, false, true, false⟩
  have ha : Arguments.ofTexts texts = .ok a := by decide +kernel
  have hd : (Arguments.choices texts).Nodup := by decide +kernel
  have hperm : texts.Perm texts.reverse := texts.reverse_perm.symm
  obtain ⟨b, hb, hagrees, -, hrun⟩ := same_run_of_perm Rehearsal.environment ha hd hperm
  have hreversed : Arguments.ofTexts texts.reverse =
    .ok { a with hosts := a.hosts.reverse } := by decide +kernel
  refine ⟨hd, hperm, ⟨a, b, ha, hb, hagrees, ?_, hagrees.nameserver.trans (by decide +kernel)⟩,
    hrun s⟩
  rw [Except.ok.inj (hb.symm.trans hreversed)]
  decide

end CommandLine

end StubResolver
