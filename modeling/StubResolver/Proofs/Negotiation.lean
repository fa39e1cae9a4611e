import StubResolver.Proofs.CertificateForm
import StubResolver.Proofs.CertificatePublication

set_option autoImplicit false

namespace StubResolver.DnsCrypt.Certificate

variable {key : Bytes} {t : UInt32} {cs cs' : List Certificate} {c : Certificate}

structure Usable (key : Bytes) (t : UInt32) (c : Certificate) : Prop where
  signed : c.signatureHolds key = true
  current : c.Current t

theorem acceptable_iff_usable : acceptable key t c = true ↔ c.Usable key t := by
  rw [acceptable_iff, validAt_iff]
  exact ⟨fun h => ⟨h.1, h.2⟩, fun h => ⟨h.signed, h.current⟩⟩

/-- No usable certificate in the list stands higher, and none behind this one as high. -/
def Chosen (key : Bytes) (t : UInt32) (cs : List Certificate) (c : Certificate) : Prop :=
  ∃ before after, cs = before ++ c :: after ∧ c.Usable key t ∧
    (∀ b ∈ before, b.Usable key t → b.standing ≤ c.standing) ∧
    ∀ a ∈ after, a.Usable key t → a.standing < c.standing

theorem Chosen.standing_le (h : Chosen key t cs c) {d : Certificate} (hmem : d ∈ cs)
    (hd : d.Usable key t) :
    d.standing ≤ c.standing := by
  obtain ⟨before, after, rfl, -, hbefore, hafter⟩ := h
  rcases List.mem_append.1 hmem with hmem | hmem
  · exact hbefore d hmem hd
  · rcases List.mem_cons.1 hmem with rfl | hmem
    · exact le_rfl
    · exact (hafter d hmem hd).le

/-- The usable certificates by themselves have the same best one. -/
theorem chosen_iff_best : Chosen key t cs c ↔ Best (cs.filter (acceptable key t)) c := by
  constructor
  · intro h
    obtain ⟨before, after, rfl, hc, hbefore, hafter⟩ := h
    refine ⟨before.filter (acceptable key t), after.filter (acceptable key t), ?_, ?_, ?_⟩
    · rw [List.filter_append, List.filter_cons_of_pos (acceptable_iff_usable.2 hc)]
    · intro b hb
      obtain ⟨hmem, hb⟩ := List.mem_filter.1 hb
      exact hbefore b hmem (acceptable_iff_usable.1 hb)
    · intro a ha
      obtain ⟨hmem, ha⟩ := List.mem_filter.1 ha
      exact hafter a hmem (acceptable_iff_usable.1 ha)
  · intro h
    obtain ⟨_, _, hfilter, hbefore, hafter⟩ := h
    obtain ⟨front, back, rfl, rfl, hback⟩ := List.filter_eq_append_iff.1 hfilter
    obtain ⟨skipped, after, rfl, hskipped, hc, rfl⟩ := List.filter_eq_cons_iff.1 hback
    refine ⟨front ++ skipped, after, by simp, acceptable_iff_usable.1 hc, fun b hb husable => ?_,
      fun a ha husable => ?_⟩
    · have haccept := acceptable_iff_usable.2 husable
      rcases List.mem_append.1 hb with hb | hb
      · exact hbefore b (List.mem_filter.2 ⟨hb, haccept⟩)
      · exact absurd haccept (hskipped b hb)
    · exact hafter a (List.mem_filter.2 ⟨ha, acceptable_iff_usable.2 husable⟩)

theorem selectBest_eq_some_iff : selectBest cs key t = some c ↔ Chosen key t cs c := by
  rw [chosen_iff_best]
  constructor
  · intro h
    have hne : cs.filter (acceptable key t) ≠ [] := by
      intro hnil
      rw [selectBest, hnil] at h
      cases h
    obtain ⟨b, hb⟩ := exists_best hne
    have hsame : some b = some c := (foldl_better_of_best hb).symm.trans h
    cases hsame
    exact hb
  · exact foldl_better_of_best

theorem selectBest_eq_none_iff : selectBest cs key t = none ↔ ∀ c ∈ cs, ¬ c.Usable key t := by
  constructor
  · intro h c hmem hc
    have hne : cs.filter (acceptable key t) ≠ [] :=
      List.ne_nil_of_mem (List.mem_filter.2 ⟨hmem, acceptable_iff_usable.2 hc⟩)
    obtain ⟨b, hb⟩ := exists_best hne
    rw [selectBest, foldl_better_of_best hb] at h
    cases h
  · intro h
    have hnil : cs.filter (acceptable key t) = [] :=
      List.filter_eq_nil_iff.2 fun c hmem hc => h c hmem (acceptable_iff_usable.1 hc)
    rw [selectBest, hnil]
    rfl

theorem selectBest_le_of_subset (h : cs ⊆ cs') (hc : selectBest cs key t = some c) :
    ∃ c', selectBest cs' key t = some c' ∧ c.standing ≤ c'.standing := by
  obtain ⟨before, after, rfl, husable, -, -⟩ := selectBest_eq_some_iff.1 hc
  have hmem : c ∈ cs' := h (List.mem_append.2 (.inr List.mem_cons_self))
  cases hc' : selectBest cs' key t with
  | none => exact absurd husable (selectBest_eq_none_iff.1 hc' c hmem)
  | some c' => exact ⟨c', rfl, (selectBest_eq_some_iff.1 hc').standing_le hmem husable⟩

/-- Only the members of the list count for how high the certificate stands that is taken. -/
theorem standing_selectBest_of_perm (h : cs.Perm cs') :
    (selectBest cs' key t).map standing = (selectBest cs key t).map standing := by
  cases hc : selectBest cs key t with
  | none =>
    have hnone := selectBest_eq_none_iff.1 hc
    rw [selectBest_eq_none_iff.2 fun d hd => hnone d (h.mem_iff.2 hd)]
  | some c =>
    obtain ⟨c', hc', hle⟩ := selectBest_le_of_subset h.subset hc
    obtain ⟨c'', hc'', hge⟩ := selectBest_le_of_subset h.symm.subset hc'
    cases hc.symm.trans hc''
    rw [hc', Option.map_some, Option.map_some, le_antisymm hge hle]

/-- The second list is the first one with certificates put in that a client cannot use. -/
inductive Diluted (key : Bytes) (t : UInt32) : List Certificate → List Certificate → Prop where
  | nil : Diluted key t [] []
  | keep (c : Certificate) {cs cs' : List Certificate} : Diluted key t cs cs' →
    Diluted key t (c :: cs) (c :: cs')
  | add {c : Certificate} {cs cs' : List Certificate} : ¬ c.Usable key t → Diluted key t cs cs' →
    Diluted key t cs (c :: cs')

theorem Diluted.filter_eq (h : Diluted key t cs cs') :
    cs'.filter (acceptable key t) = cs.filter (acceptable key t) := by
  induction h with
  | nil => rfl
  | keep c _ ih => rw [List.filter_cons, List.filter_cons, ih]
  | add hc _ ih =>
    rw [List.filter_cons_of_neg fun haccept => hc (acceptable_iff_usable.1 haccept), ih]

/-- A client takes the best of the certificates that it can use, whatever else is in the list. -/
theorem best_is_selected (key : Bytes) (t : UInt32) (cs : List Certificate) :
    (selectBest cs key t = none ↔ ∀ c ∈ cs, ¬ c.Usable key t) ∧
    (∀ c, selectBest cs key t = some c ↔ Chosen key t cs c) ∧
    (∀ cs', cs.Perm cs' → (selectBest cs' key t).map standing =
      (selectBest cs key t).map standing) ∧
    (∀ cs', Diluted key t cs cs' → selectBest cs' key t = selectBest cs key t) ∧
    ∀ cs', cs ⊆ cs' → ∀ c, selectBest cs key t = some c →
      ∃ c', selectBest cs' key t = some c' ∧ c.standing ≤ c'.standing := by
  refine ⟨selectBest_eq_none_iff, fun _ => selectBest_eq_some_iff,
    fun _ => standing_selectBest_of_perm, ?_, fun _ hsub _ => selectBest_le_of_subset hsub⟩
  intro cs' h
  rw [selectBest, selectBest, h.filter_eq]

/-- Two certificates that stand equally high, and a better one that has expired. -/
theorem best_is_selected_tied :
    let seed : Octets 32 := .zero 32
    let key := Ed25519.publicKey seed.bytes
    let offer (construction : Construction) (serial notAfter : UInt32)
        (magic : UInt8) : Certificate :=
      sign ⟨serial, construction, .zero 64, .zero 32, .zero 32, ⟨List.replicate 8 magic, rfl⟩,
        0, notAfter⟩ seed
    let a := offer .xChaCha20Poly1305 1 10 1
    let b := offer .xChaCha20Poly1305 1 10 2
    let salsa := offer .xSalsa20Poly1305 9 20 3
    let expired := offer .xChaCha20Poly1305 2 4 4
    selectBest [a, salsa, b] key 5 = some b ∧ [a, salsa, b].Perm [b, a, salsa] ∧
      (selectBest [b, a, salsa] key 5).map standing = some b.standing ∧
      Diluted key 5 [a, salsa, b] [a, expired, salsa, b, expired] ∧
      selectBest [a, expired, salsa, b, expired] key 5 = some b ∧
        selectBest [salsa] key 5 = some salsa ∧
      ∃ c', selectBest [a, salsa, b] key 5 = some c' ∧ salsa.standing ≤ c'.standing := by
  intro seed key offer a b salsa expired
  have husable : ∀ construction serial magic, ∀ notAfter ≥ 5,
      (offer construction serial notAfter magic).Usable key 5 := by
    intro construction serial magic notAfter hafter
    have hbefore : (0 : UInt32) < 5 := by decide
    exact ⟨signatureHolds_sign _ seed, UInt32.lt_of_lt_of_le hbefore hafter, UInt32.zero_le, hafter⟩
  have hb : b.Usable key 5 := husable _ _ _ _ (by decide)
  have hsalsa : salsa.Usable key 5 := husable _ _ _ _ (by decide)
  have hexpired : ¬ expired.Usable key 5 := fun h => absurd h.current.2.2 (by decide)
  have htied : a.standing ≤ b.standing := by decide
  have hlow : salsa.standing ≤ b.standing := by decide
  -- Nothing else matters, least of all the signatures.
  clear_value a b salsa expired
  have hchosen : Chosen key 5 [a, salsa, b] b :=
    ⟨[a, salsa], [], rfl, hb, by simp [htied, hlow], by simp⟩
  have happend : ([a, salsa] ++ [b]).Perm ([b] ++ [a, salsa]) := List.perm_append_comm
  have hperm : [a, salsa, b].Perm [b, a, salsa] := happend
  have hdiluted : Diluted key 5 [a, salsa, b] [a, expired, salsa, b, expired] :=
    .keep a (.add hexpired (.keep salsa (.keep b (.add hexpired .nil))))
  obtain ⟨-, hsome, hstanding, hsame, -⟩ := best_is_selected key 5 [a, salsa, b]
  obtain ⟨-, hone, -, -, hmore⟩ := best_is_selected key 5 [salsa]
  have hselect := (hsome b).2 hchosen
  have halone := (hone salsa).2 ⟨[], [], rfl, hsalsa, by simp, by simp⟩
  refine ⟨hselect, hperm, ?_, hdiluted, ?_, halone, hmore _ (by simp) salsa halone⟩
  · rw [hstanding _ hperm, hselect]
    rfl
  · rw [hsame _ hdiluted, hselect]

end StubResolver.DnsCrypt.Certificate
