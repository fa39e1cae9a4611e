import StubResolver.Proofs.Chase
import StubResolver.Proofs.Task

/-!
What a chase asks. Every lookup is listed with what it was asked for, what came of it and when;
the list tells what the chase comes to and what becomes of the cache, however the answers
change from one lookup to the next.
-/

set_option autoImplicit false

namespace StubResolver.Chase

structure Consultation where
  question : Question
  result : Except Error Response
  /-- When the result was there. -/
  time : Instant

def Consultation.found (x : Consultation) : Except Error Found :=
  x.result.bind (ofResponse x.question.name)

variable {τ υ : Type}

def recorded (lookup : Question → Task τ Response) (clock : τ → Instant) (question : Question) :
    Task (List Consultation × τ) Response := fun s =>
  let r := lookup question s.2
  (r.1, (s.1 ++ [⟨question, r.1, clock r.2⟩], r.2))

def knownAt (hosts : List (String × List String)) (name : String) (now : Instant)
    (c : Cache (List String)) :
    Option (List String) × Cache (List String) :=
  match hosts.lookup name with
  | some l => (some l, c)
  | none => c.get (qualify name) now

theorem known_eq (clock : τ → Instant) (hosts : List (String × List String))
    (name : String) (s : State τ) :
    known clock hosts name s =
      ((knownAt hosts name (clock s.2) s.1).1, (knownAt hosts name (clock s.2) s.1).2, s.2) := by
  unfold known knownAt
  cases hosts.lookup name <;> rfl

theorem ask_eq (lookup : Question → Task τ Response) (name : String) (s : State τ) :
    ask lookup name s =
      ((lookup (.internet name .a) s.2).1.bind (ofResponse name), s.1,
        (lookup (.internet name .a) s.2).2) := by
  unfold ask
  cases hl : lookup (.internet name .a) s.2 with
  | mk r t => cases r <;> rfl

theorem follow_eq (lookup : Question → Task τ Response) (clock : τ → Instant)
    (hosts : List (String × List String)) (n : Nat) (name : String) (s : State τ) :
    follow lookup clock hosts n name s =
      let r := lookup (.internet (qualify name) .a) s.2
      match r.1.bind (ofResponse (qualify name)), n with
      | .error e, _ => (.error e, s.1, r.2)
      | .ok (.addresses l), _ => (.ok l, s.1, r.2)
      | .ok (.alias _), 0 => (.error (.cnameChainTooLong (qualify name)), s.1, r.2)
      | .ok (.alias target), n + 1 =>
        let k := knownAt hosts target (clock r.2) s.1
        match k.1 with
        | some l => (.ok l, k.2, r.2)
        | none => follow lookup clock hosts n target (k.2, r.2) := by
  rw [follow]
  dsimp only
  rw [ask_eq]
  rcases (lookup (.internet (qualify name) .a) s.2).1.bind (ofResponse (qualify name))
    with e | l | target
  · rfl
  · rfl
  · cases n with
    | zero => rfl
    | succ n =>
      dsimp only
      rw [known_eq]
      dsimp only
      cases (knownAt hosts target _ _).1 <;> rfl

def stored (name : String) (now : Instant) (c : Cache (List String)) :
    Except Error (List String) → Cache (List String)
  | .ok l => c.set (qualify name) (some l) now
  | .error _ => c

theorem resolve_eq (lookup : Question → Task τ Response) (clock : τ → Instant)
    (hosts : List (String × List String)) (name : String) (s : State τ) :
    resolve lookup clock hosts name s =
      let k := knownAt hosts name (clock s.2) s.1
      match k.1 with
      | some l => (.ok l, k.2, s.2)
      | none =>
        let r := follow lookup clock hosts maxAliases name (k.2, s.2)
        (r.1, stored name (clock r.2.2) r.2.1 r.1, r.2.2) := by
  unfold resolve
  rw [known_eq]
  dsimp only
  cases (knownAt hosts name (clock s.2) s.1).1 with
  | some l => rfl
  | none =>
    dsimp only
    cases follow lookup clock hosts maxAliases name ((knownAt hosts name (clock s.2) s.1).2, s.2)
      with
    | mk r t => cases r <;> rfl

section Keeps

variable {lookup : Question → Task τ Response} {clock : τ → Instant}
  {hosts : List (String × List String)}

theorem follow_keeps {inv : τ → Prop}
    (h : ∀ name t, inv t → inv (lookup (.internet (qualify name) .a) t).2) (n : Nat) (name : String)
    {s : State τ} (hs : inv s.2) : inv (follow lookup clock hosts n name s).2.2 := by
  induction n generalizing name s with
  | zero =>
    have hnext := h name s.2 hs
    rw [follow_eq]
    dsimp only
    rcases (lookup (.internet (qualify name) .a) s.2).1.bind (ofResponse (qualify name))
      with e | l | target <;>
      exact hnext
  | succ n ih =>
    have hnext := h name s.2 hs
    rw [follow_eq]
    dsimp only
    rcases (lookup (.internet (qualify name) .a) s.2).1.bind (ofResponse (qualify name))
      with e | l | target
    · exact hnext
    · exact hnext
    · dsimp only
      split
      · exact hnext
      · exact ih target hnext

theorem resolve_keeps {inv : τ → Prop}
    (h : ∀ name t, inv t → inv (lookup (.internet (qualify name) .a) t).2) (name : String)
    {s : State τ} (hs : inv s.2) : inv (resolve lookup clock hosts name s).2.2 := by
  rw [resolve_eq]
  dsimp only
  split
  · exact hs
  · exact follow_keeps h maxAliases name hs

theorem follow_views {view : υ → τ} {fine : Question → Task υ Response}
    (h : ∀ name, Task.Views view (fine (.internet (qualify name) .a))
      (lookup (.internet (qualify name) .a)))
    (n : Nat) (name : String) :
    Task.Views (Prod.map id view) (follow fine (fun s => clock (view s)) hosts n name)
      (follow lookup clock hosts n name) := by
  induction n generalizing name with
  | zero =>
    intro s
    rw [follow_eq, follow_eq]
    simp only [Prod.map_fst, Prod.map_snd, h name s.2, id]
    rcases (fine (.internet (qualify name) .a) s.2).1.bind (ofResponse (qualify name))
      with e | l | target <;> rfl
  | succ n ih =>
    intro s
    rw [follow_eq, follow_eq]
    simp only [Prod.map_fst, Prod.map_snd, h name s.2, id]
    rcases (fine (.internet (qualify name) .a) s.2).1.bind (ofResponse (qualify name))
      with e | l | target
    · rfl
    · rfl
    · have hrest := fun c => ih target (c, (fine (.internet (qualify name) .a) s.2).2)
      dsimp only
      cases (knownAt hosts target (clock (view (fine (.internet (qualify name) .a) s.2).2)) s.1).1
        with
      | none => exact hrest _
      | some l => rfl

theorem resolve_views {view : υ → τ} {fine : Question → Task υ Response}
    (h : ∀ name, Task.Views view (fine (.internet (qualify name) .a))
      (lookup (.internet (qualify name) .a)))
    (name : String) :
    Task.Views (Prod.map id view) (resolve fine (fun s => clock (view s)) hosts name)
      (resolve lookup clock hosts name) := by
  intro s
  rw [resolve_eq, resolve_eq]
  simp only [Prod.map_fst, Prod.map_snd, id]
  cases (knownAt hosts name (clock (view s.2)) s.1).1 with
  | some l => rfl
  | none =>
    have hfollow : ∀ c, follow lookup clock hosts maxAliases name (c, view s.2) =
        (follow fine (fun s => clock (view s)) hosts maxAliases name (c, s.2)).map id
          (Prod.map id view) :=
      fun c => follow_views h maxAliases name (c, s.2)
    dsimp only
    rw [hfollow]
    rfl

end Keeps

/--
A chase from a name, with so many aliases still allowed: the lookups that it makes, what it comes
to, and the cache before and after.
-/
inductive Trail (hosts : List (String × List String)) :
    Nat → String → Cache (List String) → List Consultation →
    Except Error (List String) → Cache (List String) → Prop where
  | failed {n : Nat} {name : String} {c : Cache (List String)} {x : Consultation} {e : Error} :
    x.question = .internet (qualify name) .a → x.found = .error e →
      Trail hosts n name c [x] (.error e) c
  | addresses {n : Nat} {name : String} {c : Cache (List String)} {x : Consultation}
    {l : List String} :
    x.question = .internet (qualify name) .a → x.found = .ok (.addresses l) →
      Trail hosts n name c [x] (.ok l) c
  | tooLong {name target : String} {c : Cache (List String)} {x : Consultation} :
    x.question = .internet (qualify name) .a → x.found = .ok (.alias target) →
    Trail hosts 0 name c [x] (.error (.cnameChainTooLong (qualify name))) c
  | known {n : Nat} {name target : String} {c c' : Cache (List String)} {x : Consultation}
    {l : List String} :
    x.question = .internet (qualify name) .a → x.found = .ok (.alias target) →
    knownAt hosts target x.time c = (some l, c') → Trail hosts (n + 1) name c [x] (.ok l) c'
  | onward {n : Nat} {name target : String} {c c' c'' : Cache (List String)} {x : Consultation}
      {xs : List Consultation} {result : Except Error (List String)} :
    x.question = .internet (qualify name) .a → x.found = .ok (.alias target) →
    knownAt hosts target x.time c = (none, c') → Trail hosts n target c' xs result c'' →
    Trail hosts (n + 1) name c (x :: xs) result c''

theorem Trail.ne_nil {hosts : List (String × List String)} {n : Nat} {name : String}
    {c c' : Cache (List String)} {xs : List Consultation} {result : Except Error (List String)}
    (h : Trail hosts n name c xs result c') :
    xs ≠ [] := by
  cases h <;> simp

def consultation (lookup : Question → Task τ Response) (clock : τ → Instant) (name : String)
    (t : τ) : Consultation :=
  let r := lookup (.internet (qualify name) .a) t
  ⟨.internet (qualify name) .a, r.1, clock r.2⟩

theorem follow_recorded (lookup : Question → Task τ Response) (clock : τ → Instant)
    (hosts : List (String × List String)) (n : Nat) (name : String) (c : Cache (List String))
    (log : List Consultation) (t : τ) :
    follow (recorded lookup clock) (fun s => clock s.2) hosts n name (c, log, t) =
      let x := consultation lookup clock name t
      let next := (log ++ [x], (lookup (.internet (qualify name) .a) t).2)
      match x.found, n with
      | .error e, _ => (.error e, c, next)
      | .ok (.addresses l), _ => (.ok l, c, next)
      | .ok (.alias _), 0 => (.error (.cnameChainTooLong (qualify name)), c, next)
      | .ok (.alias target), n + 1 =>
        let k := knownAt hosts target x.time c
        match k.1 with
        | some l => (.ok l, k.2, next)
        | none => follow (recorded lookup clock) (fun s => clock s.2) hosts n target (k.2, next) :=
  follow_eq _ _ _ _ _ _

theorem follow_trail (lookup : Question → Task τ Response) (clock : τ → Instant)
    (hosts : List (String × List String)) (n : Nat) (name : String) (c : Cache (List String))
    (log : List Consultation) (t : τ) :
    let r := follow (recorded lookup clock) (fun s => clock s.2) hosts n name (c, log, t)
    ∃ xs, r.2.2.1 = log ++ xs ∧ Trail hosts n name c xs r.1 r.2.1 := by
  -- On the aliases still allowed; each of them takes one lookup.
  induction n generalizing name c log t with
  | zero =>
    rw [follow_recorded]
    dsimp only
    rcases hfound : (consultation lookup clock name t).found with e | l | target
    · exact ⟨_, rfl, .failed rfl hfound⟩
    · exact ⟨_, rfl, .addresses rfl hfound⟩
    · exact ⟨_, rfl, .tooLong rfl hfound⟩
  | succ n ih =>
    rw [follow_recorded]
    dsimp only
    rcases hfound : (consultation lookup clock name t).found with e | l | target
    · exact ⟨_, rfl, .failed rfl hfound⟩
    · exact ⟨_, rfl, .addresses rfl hfound⟩
    · dsimp only
      rcases hknown : knownAt hosts target (consultation lookup clock name t).time c
        with ⟨_ | l, c'⟩
      · obtain ⟨xs, hlog, htrail⟩ := ih target c' (log ++ [consultation lookup clock name t])
          (lookup (.internet (qualify name) .a) t).2
        refine ⟨consultation lookup clock name t :: xs, ?_, .onward rfl hfound hknown htrail⟩
        simpa using hlog
      · exact ⟨_, rfl, .known rfl hfound hknown⟩

/-- Lookups one after the other, each from the state that the one before it
left, with its part of a log. -/
inductive Path {α : Type} (Step : τ → Consultation → List α → τ → Prop) :
    τ → List Consultation → List (List α) → τ → Prop where
  | nil (t : τ) : Path Step t [] [] t
  | cons {t u v : τ} {x : Consultation} {xs : List Consultation} {part : List α}
    {parts : List (List α)} :
    Step t x part u → Path Step u xs parts v → Path Step t (x :: xs) (part :: parts) v

theorem Path.append {α : Type} {Step : τ → Consultation → List α → τ → Prop} {t u v : τ}
    {xs ys : List Consultation} {parts parts' : List (List α)} (h : Path Step t xs parts u)
    (h' : Path Step u ys parts' v) : Path Step t (xs ++ ys) (parts ++ parts') v := by
  induction h with
  | nil _ => exact h'
  | cons hstep _ ih => exact .cons hstep (ih h')

def asked (lookup : Question → Task τ Response) (clock : τ → Instant)
    (hosts : List (String × List String)) (name : String) (s : State τ) : List Consultation :=
  (resolve (recorded lookup clock) (fun s => clock s.2) hosts name (s.1, [], s.2)).2.2.1

/-- A resolution between two moments: its lookups, what it comes to, and
the cache before and after. -/
inductive Course (hosts : List (String × List String)) (name : String) (start finish : Instant)
    (c : Cache (List String)) :
    List Consultation → Except Error (List String) → Cache (List String) → Prop where
  | known {l : List String} {c' : Cache (List String)} :
    knownAt hosts name start c = (some l, c') → Course hosts name start finish c [] (.ok l) c'
  | chased {c' c'' : Cache (List String)} {xs : List Consultation}
    {result : Except Error (List String)} :
    knownAt hosts name start c = (none, c') → Trail hosts maxAliases name c' xs result c'' →
    Course hosts name start finish c xs result (stored name finish c'' result)

theorem resolve_recorded (lookup : Question → Task τ Response) (clock : τ → Instant)
    (hosts : List (String × List String)) (name : String) (s : State τ) :
    resolve lookup clock hosts name s =
      (resolve (recorded lookup clock) (fun s => clock s.2) hosts name (s.1, [], s.2)).map id
        (Prod.map id Prod.snd) := by
  have hview : ∀ name, Task.Views Prod.snd (recorded lookup clock (.internet (qualify name) .a))
    (lookup (.internet (qualify name) .a)) := fun _ _ => rfl
  exact resolve_views hview name (s.1, [], s.2)

section Asked

variable {lookup : Question → Task τ Response} {clock : τ → Instant}
  {hosts : List (String × List String)}

/-- What every lookup keeps, of the list of lookups and of the state beside it. -/
theorem asked_keeps {inv : List Consultation → τ → Prop}
    (h : ∀ name xs t, inv xs t →
      inv (xs ++ [consultation lookup clock name t]) (lookup (.internet (qualify name) .a) t).2)
    (name : String) {s : State τ} (hs : inv [] s.2) :
    inv (asked lookup clock hosts name s) (resolve lookup clock hosts name s).2.2 := by
  let fine (t : List Consultation × τ) : Prop := inv t.1 t.2
  have hlookup : ∀ name t, fine t →
      fine (recorded lookup clock (.internet (qualify name) .a) t).2 :=
    fun name t => h name t.1 t.2
  have hbegin : fine ([], s.2) := hs
  have hend :
      fine (resolve (recorded lookup clock) (fun t => clock t.2) hosts name (s.1, [], s.2)).2.2 :=
    resolve_keeps hlookup name hbegin
  rw [resolve_recorded lookup clock hosts name s]
  exact hend

/-- What every lookup keeps, and what is true of each one, is so for all lookups of a resolution. -/
theorem forall_asked {inv : τ → Prop} {P : Consultation → Prop}
    (h : ∀ name t, inv t → inv (lookup (.internet (qualify name) .a) t).2 ∧
      P (consultation lookup clock name t))
    (name : String) {s : State τ} (hs : inv s.2) :
    inv (resolve lookup clock hosts name s).2.2 ∧ ∀ x ∈ asked lookup clock hosts name s, P x := by
  let told (xs : List Consultation) (t : τ) : Prop := inv t ∧ ∀ x ∈ xs, P x
  have hlookup : ∀ name xs t, told xs t →
      told (xs ++ [consultation lookup clock name t])
        (lookup (.internet (qualify name) .a) t).2 := by
    intro name xs t ht
    obtain ⟨hinv, hxs⟩ := ht
    obtain ⟨hnext, hx⟩ := h name t hinv
    exact ⟨hnext, List.forall_mem_append.2 ⟨hxs, List.forall_mem_singleton.2 hx⟩⟩
  have hbegin : told [] s.2 := ⟨hs, by simp⟩
  exact asked_keeps hlookup name hbegin

/-- Lookups that take a state to the next one, as `Step` says of each, lead
through the whole resolution. -/
theorem asked_path {α : Type} {Step : τ → Consultation → List α → τ → Prop} {inv : τ → Prop}
    (h : ∀ name t, inv t → inv (lookup (.internet (qualify name) .a) t).2 ∧
      ∃ part, Step t (consultation lookup clock name t) part
        (lookup (.internet (qualify name) .a) t).2)
    (name : String) {s : State τ} (hs : inv s.2) :
    ∃ parts, Path Step s.2 (asked lookup clock hosts name s) parts
      (resolve lookup clock hosts name s).2.2 := by
  let led (xs : List Consultation) (t : τ) : Prop := inv t ∧ ∃ parts, Path Step s.2 xs parts t
  have hlookup : ∀ name xs t, led xs t →
      led (xs ++ [consultation lookup clock name t])
        (lookup (.internet (qualify name) .a) t).2 := by
    intro name xs t ht
    obtain ⟨hinv, parts, hpath⟩ := ht
    obtain ⟨hnext, part, hstep⟩ := h name t hinv
    exact ⟨hnext, parts ++ [part], hpath.append (.cons hstep (.nil _))⟩
  have hbegin : led [] s.2 := ⟨hs, [], .nil _⟩
  exact (asked_keeps hlookup name hbegin).2

end Asked

theorem resolve_course (lookup : Question → Task τ Response) (clock : τ → Instant)
    (hosts : List (String × List String)) (name : String) (s : State τ) :
    let r := resolve lookup clock hosts name s
    Course hosts name (clock s.2) (clock r.2.2) s.1
      (asked lookup clock hosts name s) r.1 r.2.1 := by
  intro r
  have hr : r = _ := resolve_recorded lookup clock hosts name s
  rw [hr, asked, resolve_eq]
  dsimp only
  rcases hknown : knownAt hosts name (clock s.2) s.1 with ⟨_ | l, c⟩
  · obtain ⟨xs, hlog, htrail⟩ := follow_trail lookup clock hosts maxAliases name c [] s.2
    rw [List.nil_append] at hlog
    dsimp only
    rw [hlog]
    exact .chased hknown htrail
  · exact .known hknown

end StubResolver.Chase
