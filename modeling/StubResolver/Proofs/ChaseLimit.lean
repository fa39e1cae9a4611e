import StubResolver.Proofs.Footprint

set_option autoImplicit false

namespace StubResolver.Chase

section Pursuit

variable {τ : Type} (lookup : Question → Task τ Response) (clock : τ → Instant)
  (hosts : List (String × List String))

def pursue (n : Nat) (name : String) : Task (State τ) (List String) := fun s =>
  match known clock hosts name s with
  | (some l, s) => (.ok l, s)
  | (none, s) => follow lookup clock hosts n name s

theorem pursue_eq (n : Nat) (name : String) (s : State τ) :
    pursue lookup clock hosts n name s =
      match known clock hosts name s with
      | (some l, t) => (.ok l, t)
      | (none, t) =>
        match ask lookup (qualify name) t, n with
        | (.error e, u), _ => (.error e, u)
        | (.ok (.addresses l), u), _ => (.ok l, u)
        | (.ok (.alias _), u), 0 => (.error (.cnameChainTooLong (qualify name)), u)
        | (.ok (.alias target), u), n + 1 => pursue lookup clock hosts n target u := by
  rw [pursue]
  rcases known clock hosts name s with ⟨_ | l, t⟩
  · dsimp only
    rw [follow]
    rcases hask : ask lookup (qualify name) t with ⟨e | l | target, u⟩
    · simp only [hask]
    · simp only [hask]
    · cases n with
      | zero => simp only [hask]
      | succ n =>
        simp only [hask]
        rfl
  · rfl

theorem resolve_pursue (name : String) (s : State τ) :
    (resolve lookup clock hosts name s).1 = (pursue lookup clock hosts maxAliases name s).1 ∧
      (resolve lookup clock hosts name s).2.2 =
        (pursue lookup clock hosts maxAliases name s).2.2 := by
  rw [resolve, pursue]
  rcases known clock hosts name s with ⟨_ | l, t⟩
  · dsimp only
    rcases follow lookup clock hosts maxAliases name t with ⟨e | l, u⟩ <;> exact ⟨rfl, rfl⟩
  · exact ⟨rfl, rfl⟩

/--
So many lookups in a row, each for a name that is not known and each answered by a response that
begins with an alias, lead from a name to another one.
-/
inductive Leads : Nat → String → State τ → String → State τ → Prop where
  | here (name : String) (s : State τ) : Leads 0 name s name s
  | onward {n : Nat} {name last : String} {s t v : State τ} {u : τ} {r : Response} {first : Answer}
      {rest : List Answer} :
    known clock hosts name s = (none, t) → lookup (.internet (qualify name) .a) t.2 = (.ok r, u) →
    r.answers = first :: rest → first.type = RecordType.cname.text →
      Leads n first.address (t.1, u) last v →
    Leads (n + 1) name s last v

variable {lookup clock hosts}

theorem ask_of_ok {name : String} {t : State τ} {u : τ} {r : Response} {first : Answer}
    {rest : List Answer} (h : lookup (.internet (qualify name) .a) t.2 = (.ok r, u))
    (ha : r.answers = first :: rest) :
    ask lookup (qualify name) t =
      (.ok (if first.type = RecordType.cname.text then .alias first.address
        else .addresses (r.answers.map Answer.address)), t.1, u) := by
  rw [ask_eq, h, ha]
  simp only [Except.bind, ofResponse, ha]
  split <;> rfl

theorem Leads.of_ask {n : Nat} {name target last : String} {s t u v : State τ}
    (hknown : known clock hosts name s = (none, t))
    (hask : ask lookup (qualify name) t = (.ok (.alias target), u))
    (h : Leads lookup clock hosts n target u last v) :
    Leads lookup clock hosts (n + 1) name s last v := by
  rw [ask_eq] at hask
  obtain ⟨r, first, rest, hr, hanswers, htype, rfl⟩ := found_alias (congrArg Prod.fst hask)
  cases congrArg Prod.snd hask
  exact .onward hknown (Prod.ext hr rfl) hanswers htype h

/-- Every alias on the way is one less to be followed. -/
theorem pursue_of_leads {k : Nat} {name last : String} {s t : State τ}
    (h : Leads lookup clock hosts k name s last t) (n : Nat) :
    pursue lookup clock hosts (n + k) name s = pursue lookup clock hosts n last t := by
  induction h with
  | here name s => rfl
  | onward hknown hlookup hanswers htype _ ih =>
    rw [← Nat.add_assoc, pursue_eq, hknown]
    dsimp only
    rw [ask_of_ok hlookup hanswers, if_pos htype]
    exact ih

theorem pursue_of_known {n : Nat} {name : String} {s : State τ} {l : List String}
    (h : (known clock hosts name s).1 = some l) :
    (pursue lookup clock hosts n name s).1 = .ok l := by
  rw [pursue]
  rcases hknown : known clock hosts name s with ⟨found, t⟩
  rw [hknown] at h
  dsimp only at h
  rw [h]

theorem pursue_of_ask {n : Nat} {name : String} {s t : State τ}
    (h : known clock hosts name s = (none, t)) :
    (∀ l, (ask lookup (qualify name) t).1 = .ok (.addresses l) →
      (pursue lookup clock hosts n name s).1 = .ok l) ∧
      ∀ e, (ask lookup (qualify name) t).1 = .error e →
      (pursue lookup clock hosts n name s).1 = .error e := by
  rw [pursue_eq, h]
  dsimp only
  rcases ask lookup (qualify name) t with ⟨e | l | target, u⟩
  · exact ⟨fun _ hl => (nomatch hl), fun _ he => by rw [Except.error.inj he]⟩
  · refine ⟨fun l' hl => ?_, fun _ he => (nomatch he)⟩
    cases hl
    rfl
  · exact ⟨fun _ hl => (nomatch hl), fun _ he => (nomatch he)⟩

theorem pursue_zero_of_leads {name last : String} {s t : State τ}
    (h : Leads lookup clock hosts 1 name s last t) :
    (pursue lookup clock hosts 0 name s).1 = .error (.cnameChainTooLong (qualify name)) := by
  cases h with
  | onward hknown hlookup hanswers htype _ =>
    rw [pursue_eq, hknown]
    dsimp only
    rw [ask_of_ok hlookup hanswers, if_pos htype]

variable (lookup clock) in
theorem ask_consultation (name : String) (t : State τ) :
    ask lookup (qualify name) t =
      ((consultation lookup clock name t.2).found, t.1,
        (lookup (.internet (qualify name) .a) t.2).2) :=
  ask_eq lookup (qualify name) t

theorem pursue_recorded (n : Nat) (name : String) (c : Cache (List String))
    (log : List Consultation) (t : τ) :
    pursue (recorded lookup clock) (fun s => clock s.2) hosts n name (c, log, t) =
      match known clock hosts name (c, t) with
      | (some l, u) => (.ok l, u.1, log, u.2)
      | (none, u) =>
        let x := consultation lookup clock name u.2
        let next := (u.1, log ++ [x], (lookup (.internet (qualify name) .a) u.2).2)
        match x.found, n with
        | .error e, _ => (.error e, next)
        | .ok (.addresses l), _ => (.ok l, next)
        | .ok (.alias _), 0 => (.error (.cnameChainTooLong (qualify name)), next)
        | .ok (.alias target), n + 1 =>
          pursue (recorded lookup clock) (fun s => clock s.2) hosts n target next := by
  have hknown : known (fun s : List Consultation × τ => clock s.2) hosts name (c, log, t) =
      ((known clock hosts name (c, t)).1, (known clock hosts name (c, t)).2.1, log,
        (known clock hosts name (c, t)).2.2) := by
    rw [known_eq, known_eq]
  rw [pursue_eq, hknown]
  rcases known clock hosts name (c, t) with ⟨_ | l, u⟩
  · dsimp only
    have hask : ask (recorded lookup clock) (qualify name) (u.1, log, u.2) =
        ((consultation lookup clock name u.2).found, u.1,
          log ++ [consultation lookup clock name u.2],
          (lookup (.internet (qualify name) .a) u.2).2) := ask_eq _ _ _
    rw [hask]
    rcases (consultation lookup clock name u.2).found with e | l | target
    · rfl
    · rfl
    · cases n <;> rfl
  · rfl

variable (lookup clock hosts) in
def Successive (name : String) (s : State τ) (xs : List Consultation) : Prop :=
  ∀ i x, xs[i]? = some x → ∃ current t u, Leads lookup clock hosts i name s current t ∧
    known clock hosts current t = (none, u) ∧ x = consultation lookup clock current u.2

theorem successive_nil (name : String) (s : State τ) : Successive lookup clock hosts name s [] :=
  fun _ _ hx => nomatch hx

theorem Successive.cons {name target : String} {s t u : State τ} {xs : List Consultation}
    (hknown : known clock hosts name s = (none, t))
    (hask : ask lookup (qualify name) t = (.ok (.alias target), u))
    (h : Successive lookup clock hosts target u xs) :
    Successive lookup clock hosts name s (consultation lookup clock name t.2 :: xs) := by
  intro i x hx
  cases i with
  | zero =>
    cases hx
    exact ⟨name, s, t, .here name s, hknown, rfl⟩
  | succ i =>
    obtain ⟨current, v, w, hleads, hcurrent, hx⟩ := h i x hx
    exact ⟨current, v, w, .of_ask hknown hask hleads, hcurrent, hx⟩

theorem successive_singleton {name : String} {s t : State τ}
    (hknown : known clock hosts name s = (none, t)) :
    Successive lookup clock hosts name s [consultation lookup clock name t.2] := by
  intro i x hx
  cases i with
  | zero =>
    cases hx
    exact ⟨name, s, t, .here name s, hknown, rfl⟩
  | succ i => cases hx

variable (lookup clock hosts) in
theorem successive_of_pursue (n : Nat) (name : String) (c : Cache (List String))
    (log : List Consultation) (t : τ) :
    ∃ xs, (pursue (recorded lookup clock) (fun s => clock s.2) hosts n name (c, log, t)).2.2.1 =
      log ++ xs ∧
      Successive lookup clock hosts name (c, t) xs := by
  -- On the aliases still allowed; each of them takes one lookup.
  induction n generalizing name c log t with
  | zero =>
    rw [pursue_recorded]
    rcases hknown : known clock hosts name (c, t) with ⟨_ | l, u⟩
    · refine ⟨[consultation lookup clock name u.2], ?_, successive_singleton hknown⟩
      dsimp only
      rcases (consultation lookup clock name u.2).found with e | l | target <;> rfl
    · exact ⟨[], (List.append_nil log).symm, successive_nil name (c, t)⟩
  | succ n ih =>
    rw [pursue_recorded]
    rcases hknown : known clock hosts name (c, t) with ⟨_ | l, u⟩
    · dsimp only
      rcases hfound : (consultation lookup clock name u.2).found with e | l | target
      · exact ⟨_, rfl, successive_singleton hknown⟩
      · exact ⟨_, rfl, successive_singleton hknown⟩
      · have hask := ask_consultation lookup clock name u
        rw [hfound] at hask
        obtain ⟨xs, hlog, hxs⟩ := ih target u.1 (log ++ [consultation lookup clock name u.2])
          (lookup (.internet (qualify name) .a) u.2).2
        refine ⟨consultation lookup clock name u.2 :: xs, ?_, hxs.cons hknown hask⟩
        simpa using hlog
    · exact ⟨[], (List.append_nil log).symm, successive_nil name (c, t)⟩

variable (lookup clock hosts) in
theorem successive_asked (name : String) (s : State τ) :
    Successive lookup clock hosts name s (asked lookup clock hosts name s) := by
  obtain ⟨xs, hlog, hxs⟩ := successive_of_pursue lookup clock hosts maxAliases name s.1 [] s.2
  rw [asked, (resolve_pursue _ _ _ _ _).2, hlog]
  exact hxs

end Pursuit

section Limit

variable {hosts : List (String × List String)} {n : Nat} {name : String}
  {c c' : Cache (List String)}
  {xs : List Consultation} {result : Except Error (List String)}

theorem Trail.length_le (h : Trail hosts n name c xs result c') : xs.length ≤ n + 1 := by
  induction h with
  | failed | addresses | tooLong | known => simp
  | onward _ _ _ _ ih =>
    rw [List.length_cons]
    omega

theorem Course.length_le {start finish : Instant}
    (h : Course hosts name start finish c xs result c') :
    xs.length ≤ maxAliases + 1 := by
  cases h with
  | known => simp
  | chased _ htrail => exact htrail.length_le

theorem found_ne_tooLong {x : Consultation}
    (h : ∀ m, x.result ≠ .error (.cnameChainTooLong m)) (m : String) :
    x.found ≠ .error (.cnameChainTooLong m) := by
  intro hfound
  rw [Consultation.found] at hfound
  cases hr : x.result with
  | error e =>
    rw [hr] at hfound
    have he : e = .cnameChainTooLong m := Except.error.inj hfound
    exact h m (by rw [hr, he])
  | ok r =>
    rw [hr] at hfound
    simp only [Except.bind, ofResponse] at hfound
    split at hfound
    · cases hfound
    · split at hfound <;> cases hfound

/-- What exceeds the limit is the alias that the last of all lookups found. -/
theorem Trail.last_of_tooLong {m : String} (h : Trail hosts n name c xs result c')
    (hresult : result = .error (.cnameChainTooLong m))
    (hquiet : ∀ x ∈ xs, ∀ m, x.result ≠ .error (.cnameChainTooLong m)) :
    ∃ x target, xs[n]? = some x ∧ x.found = .ok (.alias target) ∧ x.question.name = m := by
  induction h with
  | @failed _ _ _ x _ _ hfound =>
    rw [Except.error.inj hresult] at hfound
    exact absurd hfound (found_ne_tooLong (hquiet x List.mem_cons_self) m)
  | addresses => cases hresult
  | @tooLong name target _ x hquestion hfound =>
    cases hresult
    exact ⟨x, target, rfl, hfound, by rw [hquestion]; rfl⟩
  | known => cases hresult
  | onward _ _ _ _ ih => exact ih hresult fun y hy => hquiet y (List.mem_cons_of_mem _ hy)

theorem Course.last_of_tooLong {start finish : Instant} {m : String}
    (h : Course hosts name start finish c xs (.error (.cnameChainTooLong m)) c')
    (hquiet : ∀ x ∈ xs, ∀ m, x.result ≠ .error (.cnameChainTooLong m)) :
    ∃ x target, xs[maxAliases]? = some x ∧ x.found = .ok (.alias target) ∧ x.question.name = m := by
  cases h with
  | chased _ htrail => exact htrail.last_of_tooLong rfl hquiet

/--
The lookups of a chase from a name, with so many aliases allowed, and what the chase comes to.
Wherever the aliases lead within the limit, what is known there or is answered there is the result.
-/
structure Limited {τ : Type} (lookup : Question → Task τ Response) (clock : τ → Instant)
    (hosts : List (String × List String)) (limit : Nat) (name : String) (s : State τ)
    (xs : List Consultation) (result : Except Error (List String)) : Prop where
  length_le : xs.length ≤ limit + 1
  questions : ∀ i x, xs[i]? = some x → ∃ current t, Leads lookup clock hosts i name s current t ∧
    (Chase.known clock hosts current t).1 = none ∧ x.question = .internet (qualify current) .a
  known : ∀ k ≤ limit, ∀ last t l, Leads lookup clock hosts k name s last t →
    (Chase.known clock hosts last t).1 = some l → result = .ok l
  answered : ∀ k ≤ limit, ∀ last t u v r first rest, Leads lookup clock hosts k name s last t →
    Chase.known clock hosts last t = (none, u) →
      lookup (.internet (qualify last) .a) u.2 = (.ok r, v) →
    r.answers = first :: rest → first.type ≠ RecordType.cname.text →
      result = .ok (r.answers.map Answer.address)
  empty : ∀ k ≤ limit, ∀ last t u v r, Leads lookup clock hosts k name s last t →
    Chase.known clock hosts last t = (none, u) →
      lookup (.internet (qualify last) .a) u.2 = (.ok r, v) →
    r.answers = [] → result = .error (.noAnswers (qualify last))
  failed : ∀ k ≤ limit, ∀ last t u v e, Leads lookup clock hosts k name s last t →
    Chase.known clock hosts last t = (none, u) →
      lookup (.internet (qualify last) .a) u.2 = (.error e, v) →
    result = .error e
  tooLong_iff : ∀ m, result = .error (.cnameChainTooLong m) ↔ ∃ last t beyond u,
    Leads lookup clock hosts limit name s last t ∧ Leads lookup clock hosts 1 last t beyond u ∧
      m = qualify last

theorem resolve_limited {τ : Type} (lookup : Question → Task τ Response) (clock : τ → Instant)
    (hosts : List (String × List String)) (name : String) (s : State τ)
    (hquiet : ∀ x ∈ asked lookup clock hosts name s, ∀ m,
      x.result ≠ .error (.cnameChainTooLong m)) :
    Limited lookup clock hosts maxAliases name s (asked lookup clock hosts name s)
      (resolve lookup clock hosts name s).1 := by
  have hcourse := resolve_course lookup clock hosts name s
  dsimp only at hcourse
  have hasked : Successive lookup clock hosts name s (asked lookup clock hosts name s) :=
    successive_asked lookup clock hosts name s
  have hpursue := (resolve_pursue lookup clock hosts name s).1
  have hahead : ∀ k ≤ maxAliases, ∀ last t, Leads lookup clock hosts k name s last t →
      (resolve lookup clock hosts name s).1 =
        (pursue lookup clock hosts (maxAliases - k) last t).1 := by
    intro k hk last t hleads
    rw [hpursue, ← pursue_of_leads hleads, Nat.sub_add_cancel hk]
  constructor
  case length_le => exact hcourse.length_le
  case questions =>
    intro i x hx
    obtain ⟨current, t, u, hleads, hknown, rfl⟩ := hasked i x hx
    exact ⟨current, t, hleads, by rw [hknown], rfl⟩
  case known =>
    intro k hk last t l hleads hknown
    rw [hahead k hk last t hleads, pursue_of_known hknown]
  case answered =>
    intro k hk last t u v r first rest hleads hknown hlookup hanswers htype
    rw [hahead k hk last t hleads]
    exact (pursue_of_ask hknown).1 _ (by rw [ask_of_ok hlookup hanswers, if_neg htype])
  case empty =>
    intro k hk last t u v r hleads hknown hlookup hanswers
    rw [hahead k hk last t hleads]
    refine (pursue_of_ask hknown).2 _ ?_
    rw [ask_eq, hlookup]
    simp only [Except.bind, ofResponse, hanswers]
  case failed =>
    intro k hk last t u v e hleads hknown hlookup
    rw [hahead k hk last t hleads]
    exact (pursue_of_ask hknown).2 e (by rw [ask_eq, hlookup]; rfl)
  case tooLong_iff =>
    intro m
    constructor
    · intro hresult
      rw [hresult] at hcourse
      obtain ⟨x, target, hx, hfound, hname⟩ := hcourse.last_of_tooLong hquiet
      obtain ⟨last, t, u, hleads, hknown, rfl⟩ := hasked maxAliases x hx
      have hask := ask_consultation lookup clock last u
      rw [hfound] at hask
      exact ⟨last, t, target, _, hleads, .of_ask hknown hask (.here _ _), hname.symm⟩
    · intro hlong
      obtain ⟨last, t, beyond, u, hleads, hbeyond, rfl⟩ := hlong
      rw [hahead maxAliases (Nat.le_refl _) last t hleads, Nat.sub_self,
        pursue_zero_of_leads hbeyond]

end Limit

end StubResolver.Chase

namespace StubResolver.Resolver

variable {σ : Type}

/--
A resolution asks at most nine times, each time for the qualified name that it has come to. It
comes to the end of every chain of up to eight aliases; it is too long a chain if, and only if, a
ninth alias follows in a response.
-/
theorem resolve_within_limit (env : Environment σ) (r : Resolver σ) (name : String) (s : σ)
    (hquiet : ∀ x ∈ asked env name (r, s), ∀ m, x.result ≠ .error (.cnameChainTooLong m)) :
    Chase.Limited (Transport.lookup env) (fun t => env.elapsed t.2) r.hosts 8 name
      (r.cache, r.transport, s)
      (asked env name (r, s)) (resolve env name (r, s)).1 :=
  Chase.resolve_limited (Transport.lookup env) (fun t => env.elapsed t.2) r.hosts name
    (r.cache, r.transport, s) hquiet

def endless (question : Question) : Task Rehearsal.World Response := fun s =>
  (.ok ⟨[question], [⟨question.name, "CNAME", "", "", "a" ++ question.name, "", "", ""⟩], []⟩, s)

/-- Eight aliases lead to a static entry; then the entry is gone, and a ninth follows. -/
theorem resolve_within_limit_endless :
    let r : Resolver Rehearsal.World :=
      ⟨.default, .custom endless, .empty .zero, [("aaaaaaaab.", ["192.0.2.1"])]⟩
    let env := Rehearsal.environment
    let s := Rehearsal.World.start .up [] []
    (∀ x ∈ asked env "b" (r, s), ∀ m, x.result ≠ .error (.cnameChainTooLong m)) ∧
      Chase.Limited (Transport.lookup env) (fun t => env.elapsed t.2) r.hosts 8 "b"
        (r.cache, r.transport, s)
        (asked env "b" (r, s)) (resolve env "b" (r, s)).1 ∧
      (asked env "b" (r, s)).length = 8 ∧ (resolve env "b" (r, s)).1 = .ok ["192.0.2.1"] ∧
      (asked env "b" ({ r with hosts := [] }, s)).length = 9 ∧
      (resolve env "b" ({ r with hosts := [] }, s)).1 =
        .error (.cnameChainTooLong "aaaaaaaab.") := by
  intro r env s
  have hquiet : ∀ x ∈ asked env "b" (r, s), ∀ m, x.result ≠ .error (.cnameChainTooLong m) := by
    have hok : (asked env "b" (r, s)).all (fun x => x.result.toOption.isSome) =
      true := by decide +kernel
    intro x hx m he
    have hx := List.all_eq_true.1 hok x hx
    rw [he] at hx
    cases hx
  refine ⟨hquiet, resolve_within_limit env r "b" s hquiet, ?_, ?_, ?_, ?_⟩ <;> decide +kernel

end StubResolver.Resolver
