import Mathlib.Data.List.Nodup
import StubResolver.Cache

set_option autoImplicit false

namespace StubResolver.Cache

variable {α : Type}

theorem lookup_filter_ne {β : Type} (items : List (String × β)) (key other : String) :
    (items.filter (·.1 != key)).lookup other = if other = key then none
      else items.lookup other := by
  induction items with
  | nil => simp
  | cons p items ih =>
    obtain ⟨k, b⟩ := p
    by_cases hk : k = key
    · subst hk
      rw [List.filter_cons_of_neg (by simp), ih]
      by_cases ho : other = k
      · simp [ho]
      · rw [List.lookup_cons, beq_eq_false_iff_ne.2 ho]
    · rw [List.filter_cons_of_pos (by simpa using hk), List.lookup_cons, List.lookup_cons, ih]
      by_cases ho : other = k
      · simp [ho, hk]
      · rw [beq_eq_false_iff_ne.2 ho]

theorem item?_delete (c : Cache α) (key other : String) :
    (c.delete key).item? other = if other = key then none else c.item? other :=
  lookup_filter_ne c.items key other

theorem item?_set (c : Cache α) (key other : String) (value : Option α) (now : Instant) :
    (c.set key value now).item? other =
      if other = key then some ⟨value, c.expiration.bind fun d => now.after? d⟩
        else c.item? other := by
  simp only [Cache.set, Cache.item?, List.lookup_cons]
  by_cases ho : other = key
  · simp [ho]
  · simp [beq_eq_false_iff_ne.2 ho, ho, lookup_filter_ne]

theorem items_empty (d : Duration) : (empty d : Cache α).items = [] := by
  unfold empty
  split <;> rfl

theorem get_of_items_eq_nil {c : Cache α} (h : c.items = []) (key : String) (now : Instant) :
    c.get key now = (none, c) := by
  simp [Cache.get, Cache.item?, h]

def Distinct (c : Cache α) : Prop := (c.items.map Prod.fst).Nodup

theorem distinct_empty (d : Duration) : (empty d : Cache α).Distinct := by
  simp [Distinct, items_empty]

theorem distinct_filter {c : Cache α} (h : c.Distinct) (p : String × CacheItem α → Bool) :
    Distinct { c with items := c.items.filter p } :=
  h.sublist (List.filter_sublist.map Prod.fst)

theorem distinct_set {c : Cache α} (h : c.Distinct) (key : String) (value : Option α)
    (now : Instant) :
    (c.set key value now).Distinct := by
  have hrest : (c.delete key).Distinct := distinct_filter h _
  simp only [Distinct, Cache.set, List.map_cons, List.nodup_cons]
  refine ⟨?_, hrest⟩
  simp

theorem distinct_get {c : Cache α} (h : c.Distinct) (key : String) (now : Instant) :
    (c.get key now).2.Distinct := by
  unfold Cache.get
  split
  · exact h
  · split
    · exact distinct_filter h _
    · exact h

theorem lookup_eq_some_iff {β : Type} {items : List (String × β)} (h : (items.map Prod.fst).Nodup)
    {key : String} {b : β} : items.lookup key = some b ↔ (key, b) ∈ items := by
  induction items with
  | nil => simp
  | cons p items ih =>
    obtain ⟨k, b'⟩ := p
    simp only [List.map_cons, List.nodup_cons] at h
    rw [List.lookup_cons, List.mem_cons]
    by_cases hk : key = k
    · subst hk
      have hb : (key, b) ∉ items := fun hmem => h.1 (List.mem_map_of_mem hmem)
      simp [hb, eq_comm]
    · simp [beq_eq_false_iff_ne.2 hk, hk, ih h.2]

theorem item?_eq_some_iff {c : Cache α} (h : c.Distinct) {key : String} {i : CacheItem α} :
    c.item? key = some i ↔ (key, i) ∈ c.items :=
  lookup_eq_some_iff h

theorem item?_deleteExpired {c : Cache α} (h : c.Distinct) (key : String) (now : Instant) :
    (c.deleteExpired now).item? key = (c.item? key).filter fun i => !i.expiredAt now := by
  have hrest : (c.deleteExpired now).Distinct := distinct_filter h _
  ext i
  rw [item?_eq_some_iff hrest, Option.filter_eq_some_iff, item?_eq_some_iff h]
  simp [Cache.deleteExpired]

end StubResolver.Cache
