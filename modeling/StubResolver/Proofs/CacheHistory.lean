import Mathlib.Data.Finset.Card
import StubResolver.Proofs.Cache

/-!
Histories of a cache. What a cache reports is told by the calls so far: the last item stored under a
key counts until it is deleted or outlives its time, whether or not anybody has read it in between.
A cache without its expired items reports the same as with them, now and ever after.
-/

set_option autoImplicit false

namespace StubResolver.Cache

variable {α : Type}

/-- A call of a cache, or time that goes by. -/
inductive Op (α : Type) where
  | set (key : String) (value : Option α)
  | get (key : String)
  | replace (key : String) (value : Option α)
  | delete (key : String)
  | deleteExpired
  | flush
  | getAll
  | wait (d : Duration)
  deriving DecidableEq, Repr

inductive Outcome (α : Type) where
  | done
  | found (value : Option α)
  | replaced (result : Except CacheError Unit)
  | listed (values : List (String × α))

def step (s : Cache α × Instant) : Op α → Outcome α × (Cache α × Instant)
  | .set key value => (.done, (s.1.set key value s.2, s.2))
  | .get key => (.found (s.1.get key s.2).1, ((s.1.get key s.2).2, s.2))
  | .replace key value =>
    (.replaced (s.1.replace key value s.2).1, ((s.1.replace key value s.2).2, s.2))
  | .delete key => (.done, (s.1.delete key, s.2))
  | .deleteExpired => (.done, (s.1.deleteExpired s.2, s.2))
  | .flush => (.done, (s.1.flush, s.2))
  | .getAll => (.listed (s.1.getAll s.2), s)
  | .wait d => (.done, (s.1, ⟨s.2.nanos + d.nanos⟩))

def after (s : Cache α × Instant) (ops : List (Op α)) : Cache α × Instant :=
  ops.foldl (fun s op => (step s op).2) s

def outcomes : Cache α × Instant → List (Op α) → List (Outcome α)
  | _, [] => []
  | s, op :: ops => (step s op).1 :: outcomes (step s op).2 ops

structure Entry (α : Type) where
  time : Instant
  op : Op α
  outcome : Outcome α

def entries : Cache α × Instant → List (Op α) → List (Entry α)
  | _, [] => []
  | s, op :: ops => ⟨s.2, op, (step s op).1⟩ :: entries (step s op).2 ops

theorem after_concat (s : Cache α × Instant) (ops : List (Op α)) (op : Op α) :
    after s (ops ++ [op]) = (step (after s ops) op).2 := by
  simp [after]

theorem entries_concat (s : Cache α × Instant) (ops : List (Op α)) (op : Op α) :
    entries s (ops ++ [op]) = entries s ops ++
      [⟨(after s ops).2, op, (step (after s ops) op).1⟩] := by
  induction ops generalizing s with
  | nil => rfl
  | cons x ops ih =>
    simp only [List.cons_append, entries, ih]
    rfl

/-- The call puts an item under the key: it sets it, or it replaces it with success. -/
def Entry.Stores (key : String) (value : Option α) (e : Entry α) : Prop :=
  e.op = .set key value ∨ e.op = .replace key value ∧ e.outcome = .replaced (.ok ())

def Entry.Ends (key : String) (e : Entry α) : Prop :=
  (∃ value, e.Stores key value) ∨ e.op = .delete key ∨ e.op = .flush

/-- The item stored last under the key, and when, unless it was deleted since. -/
def Latest (es : List (Entry α)) (key : String) (value : Option α) (t : Instant) : Prop :=
  ∃ before e later, es = before ++ e :: later ∧ e.Stores key value ∧ e.time = t ∧
    ∀ x ∈ later, ¬ x.Ends key

def Lives (d : Duration) (t now : Instant) : Prop :=
  d.nanos = 0 ∨ t.after? d = none ∨ now.nanos ≤ t.nanos + d.nanos

theorem latest_concat (es : List (Entry α)) (e : Entry α) (key : String)
    (value : Option α) (t : Instant) :
    Latest (es ++ [e]) key value t ↔
      e.Stores key value ∧ e.time = t ∨ ¬ e.Ends key ∧ Latest es key value t := by
  constructor
  · rintro ⟨before, x, later, h, hx, ht, hlater⟩
    cases later using List.reverseRecOn with
    | nil =>
      obtain ⟨rfl, hxe⟩ := List.append_inj' h rfl
      obtain rfl : e = x := by simpa using hxe
      exact .inl ⟨hx, ht⟩
    | append_singleton later y =>
      have hsplit : es ++ [e] = (before ++ x :: later) ++ [y] := by simpa using h
      obtain ⟨rfl, hye⟩ := List.append_inj' hsplit rfl
      obtain rfl : e = y := by simpa using hye
      exact .inr ⟨hlater e (by simp), before, x, later, rfl, hx, ht,
        fun z hz => hlater z (by simp [hz])⟩
  · rintro (⟨he, ht⟩ | ⟨he, before, x, later, rfl, hx, ht, hlater⟩)
    · exact ⟨es, e, [], rfl, he, ht, by simp⟩
    · refine ⟨before, x, later ++ [e], by simp, hx, ht, fun z hz => ?_⟩
      rcases List.mem_append.1 hz with hz | hz
      · exact hlater z hz
      · obtain rfl : z = e := by simpa using hz
        exact he

theorem Entry.Stores.unique {key : String} {value value' : Option α} {e : Entry α}
    (h : e.Stores key value) (h' : e.Stores key value') : value = value' := by
  rcases h with hop | ⟨hop, -⟩ <;> rcases h' with hop' | ⟨hop', -⟩ <;> simp [hop] at hop'
  · exact hop'
  · exact hop'

theorem latest_unique {es : List (Entry α)} {key : String} {value value' : Option α}
    {t t' : Instant} (h : Latest es key value t) (h' : Latest es key value' t') :
    value = value' ∧ t = t' := by
  induction es using List.reverseRecOn with
  | nil =>
    obtain ⟨before, e, later, hes, -⟩ := h
    simp at hes
  | append_singleton es e ih =>
    rw [latest_concat] at h h'
    rcases h with ⟨he, ht⟩ | ⟨he, h⟩
    · rcases h' with ⟨he', ht'⟩ | ⟨he', -⟩
      · exact ⟨he.unique he', ht.symm.trans ht'⟩
      · exact absurd (.inl ⟨value, he⟩) he'
    · rcases h' with ⟨he', -⟩ | ⟨-, h'⟩
      · exact absurd (.inl ⟨value', he'⟩) he
      · exact ih h h'

theorem lives_of_le {d : Duration} {t now now' : Instant} (h : Lives d t now')
    (hle : now.nanos ≤ now'.nanos) :
    Lives d t now := by
  rcases h with hd | ht | hn
  · exact .inl hd
  · exact .inr (.inl ht)
  · exact .inr (.inr (by omega))

/-- The cache has for each key the item stored last, or none if that has expired. -/
structure Reflects (d : Duration) (es : List (Entry α)) (s : Cache α × Instant) : Prop where
  expiration : s.1.expiration = if d.nanos = 0 then none else some d
  distinct : s.1.Distinct
  present : ∀ key i, s.1.item? key = some i →
    ∃ t, Latest es key i.value t ∧ i.expiration = s.1.expiration.bind fun d => t.after? d
  absent : ∀ key, s.1.item? key = none → ∀ value t, Latest es key value t → ¬ Lives d t s.2

theorem expiredAt_eq_false_iff {d : Duration} {c : Cache α} {i : CacheItem α} {t now : Instant}
    (hc : c.expiration = if d.nanos = 0 then none else some d)
    (hi : i.expiration = c.expiration.bind fun d => t.after? d) :
    i.expiredAt now = false ↔ Lives d t now := by
  rw [hc] at hi
  unfold CacheItem.expiredAt Lives
  by_cases hd : d.nanos = 0
  · simp [hi, hd]
  · simp only [hd, ↓reduceIte, Option.bind_some, false_or] at hi ⊢
    rw [hi]
    unfold Instant.after?
    by_cases hfits : t.nanos + d.nanos < 0x8000000000000000 * 1000000000
    · simp [hfits]
    · simp [hfits]

theorem reflects_empty (d : Duration) (start : Instant) :
    Reflects d ([] : List (Entry α)) (empty d, start) := by
  refine ⟨?_, distinct_empty d, ?_, ?_⟩
  · unfold empty
    split <;> rfl
  · intro key i hi
    simp [Cache.item?, items_empty] at hi
  · rintro key - value t ⟨before, e, later, h, -⟩
    simp at h

/-- A call that stores nothing, and removes no more than what it ends or what has expired. -/
theorem Reflects.remove {d : Duration} {es : List (Entry α)} {c c' : Cache α} {now now' : Instant}
    (h : Reflects d es (c, now)) {e : Entry α} (he : ∀ key value, ¬ e.Stores key value)
    (hexp : c'.expiration = c.expiration) (hdistinct : c'.Distinct) (hle : now.nanos ≤ now'.nanos)
    (hitems : ∀ key, ¬ e.Ends key ∧ c'.item? key = c.item? key ∨
      c'.item? key = none ∧ (e.Ends key ∨ ∀ i, c.item? key = some i → i.expiredAt now = true)) :
    Reflects d (es ++ [e]) (c', now') := by
  have hlatest : ∀ key value t, Latest (es ++ [e]) key value t ↔
      ¬ e.Ends key ∧ Latest es key value t := by
    intro key value t
    rw [latest_concat]
    simp [he key value]
  refine ⟨hexp.trans h.expiration, hdistinct, ?_, ?_⟩
  · intro key i hi
    rcases hitems key with ⟨hends, hsame⟩ | ⟨hnone, -⟩
    · obtain ⟨t, ht, hexpiration⟩ := h.present key i (hsame ▸ hi)
      exact ⟨t, (hlatest _ _ _).2 ⟨hends, ht⟩, by rw [hexp, hexpiration]⟩
    · rw [hnone] at hi
      cases hi
  · intro key hnone value t ht hlives
    obtain ⟨hends, ht⟩ := (hlatest _ _ _).1 ht
    have hlives := lives_of_le hlives hle
    cases hi : c.item? key with
    | none => exact h.absent key hi value t ht hlives
    | some i =>
      rcases hitems key with ⟨-, hsame⟩ | ⟨-, hends' | hexpired⟩
      · rw [hsame, hi] at hnone
        cases hnone
      · exact hends hends'
      · -- What was removed had expired, so the last item stored does not live.
        obtain ⟨t', ht', hexpiration⟩ := h.present key i hi
        obtain ⟨-, rfl⟩ := latest_unique ht' ht
        have hlive := (expiredAt_eq_false_iff h.expiration hexpiration).2 hlives
        rw [hexpired i hi] at hlive
        cases hlive

theorem Reflects.store {d : Duration} {es : List (Entry α)} {c : Cache α} {now : Instant}
    (h : Reflects d es (c, now)) {e : Entry α} {key : String} {value : Option α}
    (he : e.Stores key value) (hother : ∀ other, other ≠ key → ¬ e.Ends other)
    (htime : e.time = now) :
    Reflects d (es ++ [e]) (c.set key value now, now) := by
  refine ⟨h.expiration, distinct_set h.distinct key value now, ?_, ?_⟩
  · intro other i hi
    rw [item?_set] at hi
    by_cases ho : other = key
    · subst ho
      rw [if_pos rfl, Option.some.injEq] at hi
      subst hi
      exact ⟨now, (latest_concat _ _ _ _ _).2 (.inl ⟨he, htime⟩), rfl⟩
    · rw [if_neg ho] at hi
      obtain ⟨t, ht, hexpiration⟩ := h.present other i hi
      exact ⟨t, (latest_concat _ _ _ _ _).2 (.inr ⟨hother other ho, ht⟩), hexpiration⟩
  · intro other hnone value' t ht
    rw [item?_set] at hnone
    by_cases ho : other = key
    · simp [ho] at hnone
    · rw [if_neg ho] at hnone
      rcases (latest_concat _ _ _ _ _).1 ht with ⟨hs, -⟩ | ⟨-, ht⟩
      · exact absurd (.inl ⟨value', hs⟩) (hother other ho)
      · exact h.absent other hnone value' t ht

/-- Reading a key removes its item if that has expired, and nothing else. -/
theorem item?_get (c : Cache α) (key other : String) (now : Instant) :
    (c.get key now).2.item? other = c.item? other ∨
      (c.get key now).2.item? other = none ∧ ∀ i, c.item? other = some i →
        i.expiredAt now = true := by
  unfold Cache.get
  cases hi : c.item? key with
  | none => exact .inl rfl
  | some i =>
    dsimp only
    split
    · next hexpired =>
      rw [item?_delete]
      by_cases ho : other = key
      · subst ho
        refine .inr ⟨if_pos rfl, fun i' hi' => ?_⟩
        rw [hi] at hi'
        cases hi'
        exact hexpired
      · exact .inl (if_neg ho)
    · exact .inl rfl

theorem expiration_get (c : Cache α) (key : String) (now : Instant) :
    (c.get key now).2.expiration = c.expiration := by
  unfold Cache.get
  split
  · rfl
  · split <;> rfl

theorem Reflects.read {d : Duration} {es : List (Entry α)} {c : Cache α} {now : Instant}
    (h : Reflects d es (c, now)) {e : Entry α} (he : ∀ key, ¬ e.Ends key) (key : String) :
    Reflects d (es ++ [e]) ((c.get key now).2, now) := by
  refine h.remove (fun key value hs => he key (.inl ⟨value, hs⟩)) (expiration_get c key now)
    (distinct_get h.distinct key now) (Nat.le_refl _) fun other => ?_
  rcases item?_get c key other now with hsame | ⟨hnone, hexpired⟩
  · exact .inl ⟨he other, hsame⟩
  · exact .inr ⟨hnone, .inr hexpired⟩

theorem replace_of_get_none {c : Cache α} {key : String} {now : Instant}
    (h : (c.get key now).1 = none) (value : Option α) :
    c.replace key value now = (.error (.keyNotFound key), (c.get key now).2) := by
  unfold Cache.replace
  rcases hget : c.get key now with ⟨_ | v, c'⟩
  · rfl
  · rw [hget] at h
    cases h

theorem get_of_some {c : Cache α} {key : String} {now : Instant} {v : α}
    (h : (c.get key now).1 = some v) :
    (c.get key now).2 = c := by
  unfold Cache.get at h ⊢
  cases hi : c.item? key with
  | none => rfl
  | some i =>
    simp only [hi] at h ⊢
    split
    · next hexpired => simp [hexpired] at h
    · rfl

theorem replace_of_get_some {c : Cache α} {key : String} {now : Instant} {v : α}
    (h : (c.get key now).1 = some v) (value : Option α) :
    c.replace key value now = (.ok (), c.set key value now) := by
  have hsame := get_of_some h
  unfold Cache.replace
  rcases hget : c.get key now with ⟨_ | w, c'⟩
  · rw [hget] at h
    cases h
  · rw [hget] at hsame
    dsimp only at hsame ⊢
    rw [hsame]

theorem reflects_step {d : Duration} {es : List (Entry α)} {s : Cache α × Instant}
    (h : Reflects d es s) (op : Op α) :
    Reflects d (es ++ [⟨s.2, op, (step s op).1⟩]) (step s op).2 := by
  obtain ⟨c, now⟩ := s
  cases op with
  | set key value =>
    refine h.store (.inl rfl) (fun other ho => ?_) rfl
    simp [Entry.Ends, Entry.Stores, Ne.symm ho]
  | get key => exact h.read (by simp [Entry.Ends, Entry.Stores]) key
  | replace key value =>
    simp only [step]
    cases hget : (c.get key now).1 with
    | none =>
      rw [replace_of_get_none hget]
      exact h.read (by simp [Entry.Ends, Entry.Stores]) key
    | some v =>
      rw [replace_of_get_some hget]
      refine h.store (.inr ⟨rfl, rfl⟩) (fun other ho => ?_) rfl
      simp [Entry.Ends, Entry.Stores, Ne.symm ho]
  | delete key =>
    refine h.remove (by simp [Entry.Stores]) rfl (distinct_filter h.distinct _)
      (Nat.le_refl _) fun other => ?_
    rw [item?_delete]
    by_cases ho : other = key
    · simp [ho, Entry.Ends]
    · simp [ho, Ne.symm ho, Entry.Ends, Entry.Stores]
  | deleteExpired =>
    refine h.remove (by simp [Entry.Stores]) rfl (distinct_filter h.distinct _)
      (Nat.le_refl _) fun other => ?_
    rw [item?_deleteExpired h.distinct]
    cases hi : c.item? other with
    | none => simp
    | some i => cases hexpired : i.expiredAt now <;> simp [hexpired, Entry.Ends, Entry.Stores]
  | flush =>
    have hdistinct : (c.flush).Distinct := by simp [Distinct, Cache.flush]
    refine h.remove (by simp [Entry.Stores]) rfl hdistinct (Nat.le_refl _) fun other => ?_
    exact .inr ⟨rfl, .inl (.inr (.inr rfl))⟩
  | getAll =>
    refine h.remove (by simp [Entry.Stores]) rfl h.distinct (Nat.le_refl _) fun other => ?_
    simp [Entry.Ends, Entry.Stores]
  | wait d' =>
    refine h.remove (by simp [Entry.Stores]) rfl h.distinct (Nat.le_add_right _ _) fun other => ?_
    simp [Entry.Ends, Entry.Stores]

theorem reflects_after (d : Duration) (start : Instant) (ops : List (Op α)) :
    Reflects d (entries (empty d, start) ops) (after (empty d, start) ops) := by
  induction ops using List.reverseRecOn with
  | nil => exact reflects_empty d start
  | append_singleton ops op ih =>
    rw [entries_concat, after_concat]
    exact reflects_step ih op

theorem get_eq_some_iff {c : Cache α} {key : String} {now : Instant} {v : α} :
    (c.get key now).1 = some v ↔ ∃ i, c.item? key = some i ∧ i.expiredAt now = false ∧
      i.value = some v := by
  unfold Cache.get
  cases c.item? key with
  | none => simp
  | some i => cases hexpired : i.expiredAt now <;> simp [hexpired]

theorem mem_getAll_iff {c : Cache α} (h : c.Distinct) {key : String} {now : Instant} {v : α} :
    (key, v) ∈ c.getAll now ↔ (c.get key now).1 = some v := by
  rw [get_eq_some_iff]
  simp only [item?_eq_some_iff h, Cache.getAll, List.mem_filterMap]
  constructor
  · rintro ⟨⟨k, i⟩, hmem, hi⟩
    cases hexpired : i.expiredAt now with
    | true => simp [hexpired] at hi
    | false =>
      cases hvalue : i.value with
      | none => simp [hexpired, hvalue] at hi
      | some w =>
        simp only [hexpired, hvalue, Bool.false_eq_true, ↓reduceIte, Option.map_some,
          Option.some.injEq, Prod.mk.injEq] at hi
        obtain ⟨rfl, rfl⟩ := hi
        exact ⟨i, hmem, hexpired, hvalue⟩
  · rintro ⟨i, hmem, hexpired, hvalue⟩
    exact ⟨(key, i), hmem, by simp [hexpired, hvalue]⟩

theorem replace_eq_ok_iff {c : Cache α} {key : String} {value : Option α} {now : Instant} :
    (c.replace key value now).1 = .ok () ↔ ∃ v, (c.get key now).1 = some v := by
  cases hget : (c.get key now).1 with
  | none => simp [replace_of_get_none hget]
  | some v => simp [replace_of_get_some hget]

theorem Reflects.item_iff {d : Duration} {es : List (Entry α)} {c : Cache α} {now : Instant}
    (h : Reflects d es (c, now)) {key : String} {value : Option α} :
    (∃ i, c.item? key = some i ∧ i.expiredAt now = false ∧ i.value = value) ↔
      ∃ t, Latest es key value t ∧ Lives d t now := by
  constructor
  · rintro ⟨i, hi, hexpired, rfl⟩
    obtain ⟨t, ht, hexpiration⟩ := h.present key i hi
    exact ⟨t, ht, (expiredAt_eq_false_iff h.expiration hexpiration).1 hexpired⟩
  · rintro ⟨t, ht, hlives⟩
    cases hi : c.item? key with
    | none => exact absurd hlives (h.absent key hi value t ht)
    | some i =>
      obtain ⟨t', ht', hexpiration⟩ := h.present key i hi
      obtain ⟨rfl, rfl⟩ := latest_unique ht' ht
      exact ⟨i, rfl, (expiredAt_eq_false_iff h.expiration hexpiration).2 hlives, rfl⟩

/-- After expired items are deleted, the size is the number of keys whose last item lives. -/
theorem Reflects.size_deleteExpired {d : Duration} {es : List (Entry α)}
    {c : Cache α} {now : Instant} (h : Reflects d es (c, now)) :
    ∃ keys : Finset String, keys.card = (c.deleteExpired now).size ∧
      ∀ key, key ∈ keys ↔ ∃ value t, Latest es key value t ∧ Lives d t now := by
  have hrest : (c.deleteExpired now).Distinct := distinct_filter h.distinct _
  refine ⟨((c.deleteExpired now).items.map Prod.fst).toFinset, ?_, fun key => ?_⟩
  · rw [List.toFinset_card_of_nodup hrest, List.length_map]
    rfl
  · simp only [List.mem_toFinset, List.mem_map, Prod.exists, exists_and_right, exists_eq_right,
      ← item?_eq_some_iff hrest, item?_deleteExpired h.distinct, Option.filter_eq_some_iff]
    constructor
    · rintro ⟨i, hi, hexpired⟩
      exact ⟨i.value, h.item_iff.1 ⟨i, hi, by simpa using hexpired, rfl⟩⟩
    · rintro ⟨value, hlatest⟩
      obtain ⟨i, hi, hexpired, -⟩ := h.item_iff.2 hlatest
      exact ⟨i, hi, by simpa using hexpired⟩

def settled (s : Cache α × Instant) : Cache α × Instant := (s.1.deleteExpired s.2, s.2)

theorem expiredAt_of_le {i : CacheItem α} {now now' : Instant} (hi : i.expiredAt now = true)
    (h : now.nanos ≤ now'.nanos) : i.expiredAt now' = true := by
  unfold CacheItem.expiredAt at hi ⊢
  cases he : i.expiration with
  | none => simp [he] at hi
  | some e =>
    simp only [he, decide_eq_true_eq] at hi ⊢
    omega

theorem deleteExpired_deleteExpired (c : Cache α) {now now' : Instant}
    (h : now.nanos ≤ now'.nanos) :
    (c.deleteExpired now).deleteExpired now' = c.deleteExpired now' := by
  simp only [Cache.deleteExpired, List.filter_filter, Cache.mk.injEq, and_true]
  refine List.filter_congr fun p _ => ?_
  cases hp : p.2.expiredAt now with
  | false => simp
  | true => simp [expiredAt_of_le hp h]

theorem deleteExpired_delete (c : Cache α) (key : String) (now : Instant) :
    (c.delete key).deleteExpired now = (c.deleteExpired now).delete key := by
  simp [Cache.delete, Cache.deleteExpired, List.filter_filter, Bool.and_comm]

theorem deleteExpired_set (c : Cache α) (key : String) (value : Option α) (now : Instant) :
    (c.set key value now).deleteExpired now = (c.deleteExpired now).set key value now := by
  have hnew : CacheItem.expiredAt ⟨value, c.expiration.bind fun d => now.after? d⟩ now = false := by
    unfold CacheItem.expiredAt
    cases c.expiration with
    | none => rfl
    | some d =>
      by_cases hfits : now.nanos + d.nanos < 0x8000000000000000 * 1000000000
      · simp [Instant.after?, hfits]
      · simp [Instant.after?, hfits]
  simp [Cache.set, Cache.deleteExpired, hnew, List.filter_filter, Bool.and_comm]

theorem delete_of_item?_eq_none {c : Cache α} {key : String}
    (h : c.item? key = none) : c.delete key = c := by
  have hitems : c.items.filter (·.1 != key) = c.items := by
    refine List.filter_eq_self.2 fun p hp => ?_
    have hkey := List.lookup_eq_none_iff.1 h p hp
    simpa [bne, Bool.beq_comm] using hkey
  simp [Cache.delete, hitems]

theorem get_deleteExpired {c : Cache α} (h : c.Distinct) (key : String) (now : Instant) :
    (c.deleteExpired now).get key now = ((c.get key now).1, c.deleteExpired now) := by
  unfold Cache.get
  rw [item?_deleteExpired h]
  cases c.item? key with
  | none => rfl
  | some i => cases hexpired : i.expiredAt now <;> simp [Option.filter, hexpired]

theorem deleteExpired_get {c : Cache α} (h : c.Distinct) (key : String) (now : Instant) :
    (c.get key now).2.deleteExpired now = c.deleteExpired now := by
  unfold Cache.get
  cases hi : c.item? key with
  | none => rfl
  | some i =>
    cases hexpired : i.expiredAt now with
    | false => simp [hexpired]
    | true =>
      have hnone : (c.deleteExpired now).item? key = none := by
        simp [item?_deleteExpired h, hi, Option.filter, hexpired]
      simp [hexpired, deleteExpired_delete, delete_of_item?_eq_none hnone]

theorem getAll_deleteExpired (c : Cache α) (now : Instant) :
    (c.deleteExpired now).getAll now = c.getAll now := by
  simp only [Cache.getAll, Cache.deleteExpired, List.filterMap_filter]
  refine List.filterMap_congr fun p _ => ?_
  cases p.2.expiredAt now <;> simp

theorem distinct_step {s : Cache α × Instant} (h : s.1.Distinct) (op : Op α) :
    (step s op).2.1.Distinct := by
  obtain ⟨c, now⟩ := s
  cases op with
  | set key value => exact distinct_set h key value now
  | get key => exact distinct_get h key now
  | replace key value =>
    simp only [step]
    cases hget : (c.get key now).1 with
    | none =>
      rw [replace_of_get_none hget]
      exact distinct_get h key now
    | some v =>
      rw [replace_of_get_some hget]
      exact distinct_set h key value now
  | delete key => exact distinct_filter h _
  | deleteExpired => exact distinct_filter h _
  | flush => simp [Distinct, step, Cache.flush]
  | getAll => exact h
  | wait d => exact h

/-- Without its expired items a cache answers a call alike, and is left alike by it. -/
theorem step_settled {s : Cache α × Instant} (h : s.1.Distinct) (op : Op α) :
    (step (settled s) op).1 = (step s op).1 ∧
      settled (step (settled s) op).2 = settled (step s op).2 := by
  obtain ⟨c, now⟩ := s
  have hidem := deleteExpired_deleteExpired c (Nat.le_refl now.nanos)
  cases op with
  | set key value => simp [step, settled, deleteExpired_set, hidem]
  | get key => simp [step, settled, get_deleteExpired h, deleteExpired_get h, hidem]
  | replace key value =>
    have hget := get_deleteExpired h key now
    cases hv : (c.get key now).1 with
    | none =>
      have hv' : ((c.deleteExpired now).get key now).1 = none := by rw [hget, hv]
      simp [step, settled, replace_of_get_none hv, replace_of_get_none hv', hget,
        deleteExpired_get h, hidem]
    | some v =>
      have hv' : ((c.deleteExpired now).get key now).1 = some v := by rw [hget, hv]
      simp [step, settled, replace_of_get_some hv, replace_of_get_some hv',
        deleteExpired_set, hidem]
  | delete key => simp [step, settled, deleteExpired_delete, hidem]
  | deleteExpired => simp [step, settled, hidem]
  | flush => exact ⟨rfl, rfl⟩
  | getAll => simp [step, settled, getAll_deleteExpired, hidem]
  | wait d =>
    simp [step, settled, deleteExpired_deleteExpired c (Nat.le_add_right now.nanos d.nanos)]

theorem outcomes_settled {s : Cache α × Instant} (h : s.1.Distinct) (ops : List (Op α)) :
    outcomes (settled s) ops = outcomes s ops := by
  induction ops generalizing s with
  | nil => rfl
  | cons op ops ih =>
    have hsettled : (settled s).1.Distinct := distinct_filter h _
    obtain ⟨houtcome, hstate⟩ := step_settled h op
    -- Both sides settle to the same cache after the call, and each gives the outcomes of what it
    -- settles to.
    rw [outcomes, outcomes, houtcome, ← ih (distinct_step hsettled op), hstate,
      ih (distinct_step h op)]

theorem outcomes_congr {s s' : Cache α × Instant} (h : s.1.Distinct) (h' : s'.1.Distinct)
    (hs : settled s = settled s') (ops : List (Op α)) : outcomes s ops = outcomes s' ops := by
  rw [← outcomes_settled h, hs, outcomes_settled h']

def Op.Idle (op : Op α) : Prop := op = .deleteExpired ∨ ∃ key, op = .get key

theorem settled_idle {s : Cache α × Instant} (h : s.1.Distinct) {op : Op α} (hop : op.Idle) :
    settled (step s op).2 = settled s := by
  rcases hop with rfl | ⟨key, rfl⟩
  · simp [step, settled, deleteExpired_deleteExpired s.1 (Nat.le_refl s.2.nanos)]
  · simp [step, settled, deleteExpired_get h]

def unmarked : Cache α × Instant → List (Op α × Bool) → List (Outcome α)
  | _, [] => []
  | s, (op, marked) :: ops =>
    if marked then unmarked (step s op).2 ops else (step s op).1 :: unmarked (step s op).2 ops

theorem unmarked_eq {s : Cache α × Instant} (h : s.1.Distinct) {ops : List (Op α × Bool)}
    (hidle : ∀ p ∈ ops, p.2 = true → p.1.Idle) :
    unmarked s ops = outcomes s ((ops.filter (!·.2)).map Prod.fst) := by
  induction ops generalizing s with
  | nil => rfl
  | cons p ops ih =>
    obtain ⟨op, marked⟩ := p
    have hrest := ih (distinct_step h op) fun p hp => hidle p (List.mem_cons_of_mem _ hp)
    cases marked with
    | false => simp [unmarked, outcomes, hrest]
    | true =>
      have hop : op.Idle := hidle (op, true) List.mem_cons_self rfl
      have hsame := outcomes_congr (distinct_step h op) h (settled_idle h hop)
      simp [unmarked, hrest, hsame]

/-- A cache reports what the calls so far tell, for any calls and any times between them. -/
theorem reports_after (d : Duration) (start : Instant) (ops : List (Op α)) :
    let es := entries (empty d, start) ops
    let c := (after (empty d, start) ops).1
    let now := (after (empty d, start) ops).2
    (∀ key v, (c.get key now).1 = some v ↔ ∃ t, Latest es key (some v) t ∧ Lives d t now) ∧
      (∀ key value, (c.replace key value now).1 = .ok () ↔ ∃ v, (c.get key now).1 = some v) ∧
      (∀ key value later, (c.replace key value now).1 ≠ .ok () →
        outcomes ((c.replace key value now).2, now) later = outcomes (c, now) later) ∧
      (∀ key v, (key, v) ∈ c.getAll now ↔ (c.get key now).1 = some v) ∧
      (∀ later : List (Op α × Bool), (∀ p ∈ later, p.2 = true → p.1.Idle) →
        unmarked (c, now) later = outcomes (c, now) ((later.filter (!·.2)).map Prod.fst)) ∧
      ∃ keys : Finset String, keys.card = (c.deleteExpired now).size ∧
        ∀ key, key ∈ keys ↔ ∃ value t, Latest es key value t ∧ Lives d t now := by
  intro es c now
  have h : Reflects d es (c, now) := reflects_after d start ops
  refine ⟨fun key v => get_eq_some_iff.trans h.item_iff, fun _ _ => replace_eq_ok_iff, ?_,
    fun _ _ => mem_getAll_iff h.distinct, fun later hidle => unmarked_eq h.distinct hidle,
    h.size_deleteExpired⟩
  intro key value later hfailed
  have hget : (c.get key now).1 = none := by
    cases hget : (c.get key now).1 with
    | none => rfl
    | some v => exact absurd (replace_eq_ok_iff.2 ⟨v, hget⟩) hfailed
  rw [replace_of_get_none hget]
  refine outcomes_congr (distinct_get h.distinct key now) h.distinct ?_ later
  exact settled_idle (s := (c, now)) h.distinct (.inr ⟨key, rfl⟩)

/-- One value has expired by a nanosecond, one lives for the last one, and
one key has a mark of absence. -/
theorem reports_after_expiry :
    let ops : List (Op Nat) :=
      [.set "a" (some 1), .wait ⟨1⟩, .set "b" (some 2), .set "c" none, .wait ⟨6⟩]
    let c := (after (empty ⟨6⟩, ⟨0⟩) ops).1
    let now := (after (empty ⟨6⟩, ⟨0⟩) ops).2
    let later : List (Op Nat × Bool) :=
      [(.get "a", true), (.getAll, false), (.deleteExpired, true), (.get "b", false)]
    (∃ t, Latest (entries (empty ⟨6⟩, ⟨0⟩) ops) "b" (some 2) t ∧ Lives ⟨6⟩ t now) ∧
      (c.replace "a" (some 3) now).1 ≠ .ok () ∧
      outcomes ((c.replace "a" (some 3) now).2, now) [.getAll] = outcomes (c, now) [.getAll] ∧
      (∀ p ∈ later, p.2 = true → p.1.Idle) ∧
      unmarked (c, now) later = outcomes (c, now) [.getAll, .get "b"] := by
  intro ops c now later
  obtain ⟨hget, -, hfailed, -, hidle, -⟩ := reports_after (⟨6⟩ : Duration) (⟨0⟩ : Instant) ops
  have hreplace : (c.replace "a" (some 3) now).1 ≠ .ok () := by decide
  have hmarked : ∀ p ∈ later, p.2 = true → p.1.Idle := by simp [later, Op.Idle]
  exact ⟨(hget "b" 2).1 (by decide), hreplace, hfailed "a" (some 3) [.getAll] hreplace, hmarked,
    hidle later hmarked⟩

end StubResolver.Cache
