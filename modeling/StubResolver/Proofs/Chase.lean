import StubResolver.Proofs.Cache
import StubResolver.Resolver

/-!
Following aliases with a cache. Beside the chase stands the unbounded walk along aliases, a relation
that knows neither cache nor depth. A cache is sound if each of its values ends a walk; every
resolution keeps it so, whatever was resolved before and however the clock moved.
-/

set_option autoImplicit false

namespace StubResolver.Chase

section Walks

variable (hosts : List (String × List String)) (answer : String → Except Error Response)

/-- `Ends key l`: the walk that starts by asking for `key` comes to the addresses `l`. -/
inductive Ends : String → List String → Prop where
  | addresses {key : String} {r : Response} {first : Answer} {rest : List Answer} :
    answer key = .ok r → r.answers = first :: rest → first.type ≠ RecordType.cname.text →
    Ends key (r.answers.map Answer.address)
  | host {key : String} {r : Response} {first : Answer} {rest : List Answer} {l : List String} :
    answer key = .ok r → r.answers = first :: rest → first.type = RecordType.cname.text →
    hosts.lookup first.address = some l → Ends key l
  | onward {key : String} {r : Response} {first : Answer} {rest : List Answer} {l : List String} :
    answer key = .ok r → r.answers = first :: rest → first.type = RecordType.cname.text →
    hosts.lookup first.address = none → Ends (qualify first.address) l → Ends key l

/-- The walk from a name: a static entry matches as it is spelled, anything
else is asked for qualified. -/
def Walk (name : String) (l : List String) : Prop :=
  hosts.lookup name = some l ∨ hosts.lookup name = none ∧ Ends hosts answer (qualify name) l

def found (key : String) : Except Error Found := (answer key).bind (ofResponse key)

def bounded : Nat → String → Except Error (List String)
  | aliases, key =>
    match found answer key with
    | .error e => .error e
    | .ok (.addresses l) => .ok l
    | .ok (.alias target) =>
      match aliases with
      | 0 => .error (.cnameChainTooLong key)
      | n + 1 =>
        match hosts.lookup target with
        | some l => .ok l
        | none => bounded n (qualify target)

end Walks

variable {hosts : List (String × List String)} {answer : String → Except Error Response}

section Response

variable {result : Except Error Response} {key : String}

theorem found_ok {f : Found} (h : result.bind (ofResponse key) = .ok f) :
    ∃ r first rest, result = .ok r ∧ r.answers = first :: rest ∧
      f = if first.type = RecordType.cname.text then .alias first.address
        else .addresses (r.answers.map Answer.address) := by
  cases hr : result with
  | error e =>
    rw [hr] at h
    cases h
  | ok r =>
    rw [hr] at h
    simp only [Except.bind, ofResponse] at h
    cases ha : r.answers with
    | nil =>
      rw [ha] at h
      cases h
    | cons first rest =>
      rw [ha] at h
      refine ⟨r, first, rest, rfl, ha, ?_⟩
      dsimp only at h
      split at h <;> cases h <;> simp [*]

theorem found_addresses {l : List String} (h : result.bind (ofResponse key) = .ok (.addresses l)) :
    ∃ r first rest, result = .ok r ∧ r.answers = first :: rest ∧
      first.type ≠ RecordType.cname.text ∧
      l = r.answers.map Answer.address := by
  obtain ⟨r, first, rest, hr, ha, hf⟩ := found_ok h
  refine ⟨r, first, rest, hr, ha, ?_⟩
  split at hf
  · cases hf
  · next ht =>
    cases hf
    exact ⟨ht, rfl⟩

theorem found_alias {target : String} (h : result.bind (ofResponse key) = .ok (.alias target)) :
    ∃ r first rest, result = .ok r ∧ r.answers = first :: rest ∧
      first.type = RecordType.cname.text ∧
      target = first.address := by
  obtain ⟨r, first, rest, hr, ha, hf⟩ := found_ok h
  refine ⟨r, first, rest, hr, ha, ?_⟩
  split at hf
  · next ht =>
    cases hf
    exact ⟨ht, rfl⟩
  · cases hf

end Response

theorem found_of_answer {key : String} {r : Response} {first : Answer} {rest : List Answer}
    (h : answer key = .ok r) (ha : r.answers = first :: rest) :
    found answer key = .ok (if first.type = RecordType.cname.text then .alias first.address
      else .addresses (r.answers.map Answer.address)) := by
  simp only [found, h, Except.bind, ofResponse, ha]
  split <;> rfl

theorem ends_of_addresses {key : String} {l : List String}
    (h : found answer key = .ok (.addresses l)) :
    Ends hosts answer key l := by
  obtain ⟨r, first, rest, hr, ha, ht, rfl⟩ := found_addresses h
  exact .addresses hr ha ht

theorem ends_of_alias {key target : String} {l : List String}
    (h : found answer key = .ok (.alias target)) (hw : Walk hosts answer target l) :
    Ends hosts answer key l := by
  obtain ⟨r, first, rest, hr, ha, ht, rfl⟩ := found_alias h
  rcases hw with hh | ⟨hh, he⟩
  · exact .host hr ha ht hh
  · exact .onward hr ha ht hh he

theorem ends_cases {key : String} {l : List String} (h : Ends hosts answer key l) :
    found answer key = .ok (.addresses l) ∨
      ∃ target, found answer key = .ok (.alias target) ∧ Walk hosts answer target l := by
  cases h with
  | addresses hr ha ht => exact .inl (by rw [found_of_answer hr ha, if_neg ht])
  | host hr ha ht hh => exact .inr ⟨_, by rw [found_of_answer hr ha, if_pos ht], .inl hh⟩
  | onward hr ha ht hh he => exact .inr ⟨_, by rw [found_of_answer hr ha, if_pos ht], .inr ⟨hh, he⟩⟩

theorem ends_unique {key : String} {l l' : List String} (h : Ends hosts answer key l)
    (h' : Ends hosts answer key l') : l' = l := by
  induction h with
  | addresses hr ha ht =>
    rcases ends_cases h' with hf | ⟨_, hf, -⟩ <;>
      simp [found_of_answer hr ha, ht] at hf
    exact hf.symm
  | host hr ha ht hh =>
    rcases ends_cases h' with hf | ⟨_, hf, hw⟩ <;> simp [found_of_answer hr ha, ht] at hf
    subst hf
    rcases hw with hh' | ⟨hh', -⟩
    · exact Option.some.inj (hh'.symm.trans hh)
    · rw [hh] at hh'
      cases hh'
  | onward hr ha ht hh _ ih =>
    rcases ends_cases h' with hf | ⟨_, hf, hw⟩ <;> simp [found_of_answer hr ha, ht] at hf
    subst hf
    rcases hw with hh' | ⟨-, he⟩
    · rw [hh] at hh'
      cases hh'
    · exact ih he

theorem walk_unique {name : String} {l l' : List String} (h : Walk hosts answer name l)
    (h' : Walk hosts answer name l') : l' = l := by
  rcases h with hh | ⟨hh, he⟩ <;> rcases h' with hh' | ⟨hh', he'⟩
  · exact Option.some.inj (hh'.symm.trans hh)
  · rw [hh] at hh'
    cases hh'
  · rw [hh] at hh'
    cases hh'
  · exact ends_unique he he'

theorem bounded_ok {n : Nat} {key : String} {l : List String}
    (h : bounded hosts answer n key = .ok l) :
    Ends hosts answer key l := by
  induction n generalizing key with
  | zero =>
    rw [bounded] at h
    split at h
    · cases h
    · next hf =>
      cases h
      exact ends_of_addresses hf
    · cases h
  | succ n ih =>
    rw [bounded] at h
    split at h
    · cases h
    · next hf =>
      cases h
      exact ends_of_addresses hf
    · next target hf =>
      refine ends_of_alias hf ?_
      dsimp only at h
      split at h
      · next hh =>
        cases h
        exact .inl hh
      · next hh => exact .inr ⟨hh, ih h⟩

/-- A walk that fails within the bound fails without it, and a walk that ends has one end. -/
theorem bounded_of_ends {n : Nat} {key : String} {l : List String} (h : Ends hosts answer key l) :
    bounded hosts answer n key = .ok l ∨
      ∃ name, bounded hosts answer n key = .error (.cnameChainTooLong name) := by
  induction n generalizing key with
  | zero =>
    rcases ends_cases h with hf | ⟨target, hf, -⟩
    · exact .inl (by rw [bounded, hf])
    · exact .inr ⟨key, by rw [bounded, hf]⟩
  | succ n ih =>
    rcases ends_cases h with hf | ⟨target, hf, hh | ⟨hh, he⟩⟩
    · exact .inl (by rw [bounded, hf])
    · exact .inl (by rw [bounded, hf]; simp [hh])
    · rw [bounded, hf]
      simpa [hh] using ih he

/-- Each value in the cache is the end of the walk that starts by asking for its key. -/
def Sound (hosts : List (String × List String)) (answer : String → Except Error Response)
    (c : Cache (List String)) : Prop :=
  ∀ key item l, c.item? key = some item → item.value = some l → Ends hosts answer key l

theorem sound_empty (d : Duration) : Sound hosts answer (.empty d) := by
  intro key item l h
  unfold Cache.empty Cache.item? at h
  split at h <;> cases h

theorem sound_set {c : Cache (List String)} (h : Sound hosts answer c) {key : String}
    {l : List String} (hl : Ends hosts answer key l) (now : Instant) :
    Sound hosts answer (c.set key (some l) now) := by
  intro other item l' hi hv
  rw [Cache.item?_set] at hi
  split at hi
  · next ho =>
    cases hi
    cases hv
    exact ho ▸ hl
  · exact h other item l' hi hv

/-- Reading gives the end of a walk, and removes at most the item that has expired. -/
theorem sound_get {c : Cache (List String)} (h : Sound hosts answer c) (key : String)
    (now : Instant) :
    Sound hosts answer (c.get key now).2 ∧
      ∀ l, (c.get key now).1 = some l → Ends hosts answer key l := by
  unfold Cache.get
  cases hi : c.item? key with
  | none => exact ⟨h, by simp⟩
  | some i =>
    dsimp only
    split
    · refine ⟨?_, by simp⟩
      intro other item l hi' hv
      rw [Cache.item?_delete] at hi'
      split at hi'
      · cases hi'
      · exact h other item l hi' hv
    · exact ⟨h, fun l hl => h key i l hi hl⟩

/-- A lookup that, in the states of `ok`, always has the same answer for a qualified name. -/
structure Static {τ : Type} (lookup : Question → Task τ Response)
    (answer : String → Except Error Response) (ok : τ → Prop) : Prop where
  answers : ∀ key s, ok s → isQualified key = true → (lookup (.internet key .a) s).1 = answer key
  keeps : ∀ key s, ok s → ok (lookup (.internet key .a) s).2

variable {τ : Type} {lookup : Question → Task τ Response} {ok : τ → Prop} {clock : τ → Instant}

theorem ask_of_static (h : Static lookup answer ok) (name : String) {s : State τ} (hs : ok s.2) :
    ask lookup (qualify name) s =
      (found answer (qualify name), (s.1, (lookup (.internet (qualify name) .a) s.2).2)) := by
  have ha := h.answers (qualify name) s.2 hs (isQualified_qualify name)
  unfold ask found
  rcases hl : lookup (.internet (qualify name) .a) s.2 with ⟨_ | _, t⟩ <;> rw [hl] at ha <;>
    rw [← ha] <;> rfl

/-- What is known of a name is the end of its walk. An empty cache knows the static entries only. -/
theorem known_spec (clock : τ → Instant) {s : State τ} (hs : Sound hosts answer s.1)
    (name : String) :
    let r := known clock hosts name s
    Sound hosts answer r.2.1 ∧ r.2.2 = s.2 ∧ (∀ l, r.1 = some l → Walk hosts answer name l) ∧
      (r.1 = none → hosts.lookup name = none) ∧
      (s.1.items = [] → r = (hosts.lookup name, s)) := by
  unfold known
  cases hh : hosts.lookup name with
  | some l =>
    refine ⟨hs, rfl, ?_, by simp, fun _ => rfl⟩
    rintro l' ⟨⟩
    exact .inl hh
  | none =>
    obtain ⟨hsound, hends⟩ := sound_get hs (qualify name) (clock s.2)
    refine ⟨hsound, rfl, fun l hl => .inr ⟨hh, hends l hl⟩, fun _ => rfl, fun he => ?_⟩
    dsimp only
    rw [Cache.get_of_items_eq_nil he]

theorem follow_of_static (h : Static lookup answer ok) (n : Nat) (name : String) {s : State τ}
    (hs : ok s.2) :
    follow lookup clock hosts n name s =
      let t : State τ := (s.1, (lookup (.internet (qualify name) .a) s.2).2)
      match found answer (qualify name), n with
      | .error e, _ => (.error e, t)
      | .ok (.addresses l), _ => (.ok l, t)
      | .ok (.alias _), 0 => (.error (.cnameChainTooLong (qualify name)), t)
      | .ok (.alias target), n + 1 =>
        match known clock hosts target t with
        | (some l, s) => (.ok l, s)
        | (none, s) => follow lookup clock hosts n target s := by
  rw [follow]
  dsimp only
  rw [ask_of_static h name hs]
  rcases found answer (qualify name) with e | l | target
  · rfl
  · rfl
  · cases n <;> rfl

/-- A chase comes to what the bounded walk comes to, unless the cache cut it
short at the end of the walk. -/
theorem follow_spec (h : Static lookup answer ok) (clock : τ → Instant) (n : Nat)
    (name : String) {s : State τ} (hs : Sound hosts answer s.1) (hok : ok s.2) :
    let r := follow lookup clock hosts n name s
    Sound hosts answer r.2.1 ∧ ok r.2.2 ∧
      (r.1 = bounded hosts answer n (qualify name) ∨
        s.1.items ≠ [] ∧ ∃ l, r.1 = .ok l ∧ Ends hosts answer (qualify name) l) := by
  -- On the aliases still allowed. A hit for the target ends the chase where the walk would have
  -- ended.
  induction n generalizing name s with
  | zero =>
    have hok' := h.keeps (qualify name) s.2 hok
    rw [follow_of_static h 0 name hok, bounded]
    rcases found answer (qualify name) with e | l | target <;> exact ⟨hs, hok', .inl rfl⟩
  | succ n ih =>
    have hok' := h.keeps (qualify name) s.2 hok
    rw [follow_of_static h (n + 1) name hok, bounded]
    generalize (lookup (.internet (qualify name) .a) s.2).2 = t at hok'
    rcases hf : found answer (qualify name) with e | l | target
    · exact ⟨hs, hok', .inl rfl⟩
    · exact ⟨hs, hok', .inl rfl⟩
    · have hk := known_spec clock (s := (s.1, t)) hs target
      dsimp only at hk ⊢
      obtain ⟨hsound, hstate, hwalk, hnone, hempty⟩ := hk
      rcases hr : known clock hosts target (s.1, t) with ⟨_ | l, c, u⟩ <;>
        rw [hr] at hsound hstate hwalk hnone hempty <;> dsimp only at *
      · subst hstate
        rw [hnone rfl]
        obtain ⟨hsound', hok'', hcase⟩ := ih target (s := (c, u)) hsound hok'
        refine ⟨hsound', hok'', hcase.imp id ?_⟩
        rintro ⟨hc, l, hl, he⟩
        refine ⟨fun hs' => ?_, l, hl, ends_of_alias hf (.inr ⟨hnone rfl, he⟩)⟩
        rw [(Prod.mk.inj (Prod.mk.inj (hempty hs')).2).1] at hc
        exact hc hs'
      · subst hstate
        refine ⟨hsound, hok', ?_⟩
        by_cases hitems : s.1.items = []
        · rw [← (Prod.mk.inj (hempty hitems)).1]
          exact .inl rfl
        · exact .inr ⟨hitems, l, rfl, ends_of_alias hf (hwalk l rfl)⟩

def fresh (hosts : List (String × List String)) (answer : String → Except Error Response)
    (name : String) :
    Except Error (List String) :=
  match hosts.lookup name with
  | some l => .ok l
  | none => bounded hosts answer maxAliases (qualify name)

theorem fresh_ok {name : String} {l : List String} (h : fresh hosts answer name = .ok l) :
    Walk hosts answer name l := by
  unfold fresh at h
  cases hh : hosts.lookup name with
  | some l' =>
    rw [hh] at h
    cases h
    exact .inl hh
  | none =>
    rw [hh] at h
    exact .inr ⟨hh, bounded_ok h⟩

theorem fresh_of_walk {name : String} {l : List String} (h : Walk hosts answer name l) :
    fresh hosts answer name = .ok l ∨ ∃ n,
      fresh hosts answer name = .error (.cnameChainTooLong n) := by
  unfold fresh
  rcases h with hh | ⟨hh, he⟩ <;> rw [hh]
  · exact .inl rfl
  · exact bounded_of_ends he

theorem resolve_spec (h : Static lookup answer ok) (clock : τ → Instant)
    (name : String) {s : State τ} (hs : Sound hosts answer s.1) (hok : ok s.2) :
    let r := resolve lookup clock hosts name s
    Sound hosts answer r.2.1 ∧ ok r.2.2 ∧
      (r.1 = fresh hosts answer name ∨ s.1.items ≠ [] ∧ ∃ l, r.1 = .ok l ∧
        Walk hosts answer name l) := by
  have hk := known_spec clock hs name
  dsimp only at hk ⊢
  obtain ⟨hsound, hstate, hwalk, hnone, hempty⟩ := hk
  unfold resolve fresh
  rcases hr : known clock hosts name s with ⟨_ | l, c, t⟩ <;>
    rw [hr] at hsound hstate hwalk hnone hempty <;> dsimp only at *
  · subst hstate
    have hh := hnone rfl
    have hf := follow_spec h clock maxAliases name (s := (c, s.2)) hsound hok
    dsimp only at hf
    obtain ⟨hsound', hok', hcase⟩ := hf
    rw [hh]
    rcases hfollow : follow lookup clock hosts maxAliases name (c, s.2) with ⟨e | l, u⟩ <;>
      rw [hfollow] at hsound' hok' hcase <;> dsimp only at *
    · refine ⟨hsound', hok', hcase.imp id ?_⟩
      rintro ⟨-, l, hl, -⟩
      cases hl
    · have hends : Ends hosts answer (qualify name) l := by
        rcases hcase with hb | ⟨-, l', hl', he⟩
        · exact bounded_ok hb.symm
        · cases hl'
          exact he
      refine ⟨sound_set hsound' hends _, hok', hcase.imp id ?_⟩
      rintro ⟨hc, -⟩
      refine ⟨fun hitems => ?_, l, rfl, .inr ⟨hh, hends⟩⟩
      rw [(Prod.mk.inj (Prod.mk.inj (hempty hitems)).2).1] at hc
      exact hc hitems
  · subst hstate
    refine ⟨hsound, hok, ?_⟩
    by_cases hitems : s.1.items = []
    · rw [← (Prod.mk.inj (hempty hitems)).1]
      exact .inl rfl
    · exact .inr ⟨hitems, l, rfl, hwalk l rfl⟩

end StubResolver.Chase
