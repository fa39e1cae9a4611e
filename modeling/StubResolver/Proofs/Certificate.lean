import Mathlib.Data.List.Induction
import Mathlib.Data.Prod.Lex
import StubResolver.DnsCrypt.Certificate
import StubResolver.Proofs.Bytes
import StubResolver.Proofs.Utf8

set_option autoImplicit false

namespace StubResolver.DnsCrypt

theorem Construction.ofCode_code {c : Construction} (h : c ≠ .undefined) :
    ofCode c.code = .ok c := by
  cases c with
  | undefined => exact absurd rfl h
  | xSalsa20Poly1305 => rfl
  | xChaCha20Poly1305 => rfl

namespace Certificate

def withoutSecret (c : Certificate) : Certificate := { c with resolverSecret := .zero 32 }

theorem magic_eq : magic = [0x44, 0x4e, 0x53, 0x43] := by
  have h : "DNSC" = String.ofList ['D', 'N', 'S', 'C'] := rfl
  rw [magic, h, Bytes.ofString_of_ascii (by simp)]
  rfl

theorem length_magic : magic.length = 4 := by
  rw [magic_eq]
  rfl

theorem encode_layout {c : Certificate} {now : UInt32} {b : Bytes} (h : c.encode now = .ok b) :
    c.construction ≠ .undefined ∧ b = magic ++ (Bytes.ofUInt16 c.construction.code ++ ([0, 0] ++
      (c.signature.bytes ++
        (c.resolverKey.bytes ++ (c.clientMagic.bytes ++ (Bytes.ofUInt32 c.serial ++
        (Bytes.ofUInt32 c.notBefore ++ Bytes.ofUInt32 c.notAfter))))))) := by
  unfold encode at h
  split at h
  · cases h
  · next hc =>
    split at h
    · cases h
    · cases h
      exact ⟨hc, by simp [signed]⟩

theorem length_encode {c : Certificate} {now : UInt32} {b : Bytes} (h : c.encode now = .ok b) :
    b.length = 124 := by
  obtain ⟨-, rfl⟩ := encode_layout h
  simp [length_magic, Octets.length_bytes]

/-- A client reads a certificate off the front of what the operator
wrote, without the secret key. -/
theorem decode_encode {c : Certificate} {now : UInt32} {b : Bytes} (h : c.encode now = .ok b)
    (rest : Bytes) :
    decode (b ++ rest) = .ok c.withoutSecret := by
  have hsize : ¬ (b ++ rest).length < size := by
    rw [List.length_append, length_encode h, size]
    omega
  obtain ⟨hc, hb⟩ := encode_layout h
  generalize hm : b ++ rest = m at hsize ⊢
  have h0 : m.drop 0 = magic ++ (Bytes.ofUInt16 c.construction.code ++ ([0, 0] ++
      (c.signature.bytes ++
        (c.resolverKey.bytes ++ (c.clientMagic.bytes ++ (Bytes.ofUInt32 c.serial ++
        (Bytes.ofUInt32 c.notBefore ++ (Bytes.ofUInt32 c.notAfter ++ rest)))))))) := by
    rw [← hm, hb, List.drop_zero]
    simp only [List.append_assoc]
  have h4 := Bytes.drop_field h0 length_magic
  have h6 := Bytes.drop_field h4 (Bytes.length_ofUInt16 _)
  have h8 : m.drop 8 = _ := Bytes.drop_field h6 rfl
  have h72 := Bytes.drop_field h8 c.signature.length_bytes
  have h104 := Bytes.drop_field h72 c.resolverKey.length_bytes
  have h112 := Bytes.drop_field h104 c.clientMagic.length_bytes
  have h116 := Bytes.drop_field h112 (Bytes.length_ofUInt32 _)
  have h120 := Bytes.drop_field h116 (Bytes.length_ofUInt32 _)
  have hmagic : m.take 4 = magic := Bytes.take_field h0 length_magic
  have hcode : (m.drop 4).take 2 = Bytes.ofUInt16 c.construction.code :=
    Bytes.take_field h4 (Bytes.length_ofUInt16 _)
  have hsignature : ∀ hle, Octets.slice m 8 64 hle = c.signature := fun _ =>
    Octets.ext (Bytes.take_field h8 c.signature.length_bytes)
  have hkey : ∀ hle, Octets.slice m 72 32 hle = c.resolverKey := fun _ =>
    Octets.ext (Bytes.take_field h72 c.resolverKey.length_bytes)
  have hclient : ∀ hle, Octets.slice m 104 8 hle = c.clientMagic := fun _ =>
    Octets.ext (Bytes.take_field h104 c.clientMagic.length_bytes)
  have hserial : (m.drop 112).take 4 = Bytes.ofUInt32 c.serial :=
    Bytes.take_field h112 (Bytes.length_ofUInt32 _)
  have hbefore : (m.drop 116).take 4 = Bytes.ofUInt32 c.notBefore :=
    Bytes.take_field h116 (Bytes.length_ofUInt32 _)
  have hafter : (m.drop 120).take 4 = Bytes.ofUInt32 c.notAfter :=
    Bytes.take_field h120 (Bytes.length_ofUInt32 _)
  rw [decode, dif_neg hsize, if_neg (not_not.2 hmagic)]
  simp only [hcode, hsignature, hkey, hclient, hserial, hbefore, hafter, Bytes.toUInt16_ofUInt16,
    Bytes.toUInt32_ofUInt32, Construction.ofCode_code hc]
  rfl

/-- A certificate that the provider signed, in the form in which a client keeps it. -/
structure Trusted (key : Bytes) (c : Certificate) : Prop where
  signatureHolds : c.signatureHolds key = true
  construction : c.construction ≠ .undefined
  resolverSecret : c.resolverSecret = .zero 32

theorem ofCode_ne_undefined {n : UInt16} {c : Construction} (h : Construction.ofCode n = .ok c) :
    c ≠ .undefined := by
  unfold Construction.ofCode at h
  split at h
  · cases h
    simp
  · split at h
    · cases h
      simp
    · cases h

theorem decode_spec {b : Bytes} {c : Certificate} (h : decode b = .ok c) :
    c.construction ≠ .undefined ∧ c.resolverSecret = .zero 32 := by
  unfold decode at h
  split at h
  · cases h
  · split at h
    · cases h
    · cases hc : Construction.ofCode (Bytes.toUInt16 ((b.drop 4).take 2)) with
      | error e =>
        rw [hc] at h
        cases h
      | ok construction =>
        rw [hc] at h
        cases h
        exact ⟨ofCode_ne_undefined hc, rfl⟩

theorem acceptable_iff {key : Bytes} {t : UInt32} {c : Certificate} :
    acceptable key t c = true ↔ c.signatureHolds key = true ∧ c.validAt t = true := by
  unfold acceptable verify
  cases c.signatureHolds key <;> cases c.validAt t <;> simp

theorem better_cases (best : Option Certificate) (c : Certificate) :
    better best c = some c ∨ better best c = best := by
  cases best with
  | none => exact .inl rfl
  | some b =>
    unfold better
    dsimp only
    split
    · exact .inl rfl
    · exact .inr rfl

theorem foldl_better_mem {cs : List Certificate} {best : Option Certificate} {c : Certificate}
    (h : cs.foldl better best = some c) : c ∈ cs ∨ best = some c := by
  induction cs generalizing best with
  | nil => exact .inr h
  | cons x cs ih =>
    rcases ih h with hmem | hx
    · exact .inl (List.mem_cons_of_mem x hmem)
    · rcases better_cases best x with hb | hb
      · rw [hb] at hx
        cases hx
        exact .inl List.mem_cons_self
      · exact .inr (hb.symm.trans hx)

def standing (c : Certificate) : ℕ ×ₗ ℕ ×ₗ ℕ :=
  toLex (c.construction.preference, toLex (c.serial.toNat, c.notAfter.toNat))

theorem rankLe_iff (a b : Certificate) : rankLe a.rank b.rank = true ↔ a.standing ≤ b.standing := by
  simp only [rankLe, Bool.or_eq_true, Bool.and_eq_true, decide_eq_true_eq, standing,
    Prod.Lex.toLex_le_toLex]
  exact Iff.rfl

/-- Of all the certificates none stands higher, and none behind this one as high. -/
def Best (cs : List Certificate) (c : Certificate) : Prop :=
  ∃ before after, cs = before ++ c :: after ∧ (∀ b ∈ before, b.standing ≤ c.standing) ∧
    ∀ a ∈ after, a.standing < c.standing

theorem better_of_le {best : Option Certificate} {c : Certificate}
    (h : ∀ b, best = some b → b.standing ≤ c.standing) : better best c = some c := by
  cases best with
  | none => rfl
  | some b => simp [better, (rankLe_iff b c).2 (h b rfl)]

theorem better_of_lt {b c : Certificate} (h : c.standing < b.standing) :
    better (some b) c = some b := by
  have hle : rankLe b.rank c.rank ≠ true := fun hle => absurd ((rankLe_iff b c).1 hle) (not_le.2 h)
  simp [better, hle]

theorem exists_best {cs : List Certificate} (h : cs ≠ []) : ∃ c, Best cs c := by
  induction cs using List.reverseRecOn with
  | nil => exact absurd rfl h
  | append_singleton cs x ih =>
    by_cases hnil : cs = []
    · exact ⟨x, [], [], by simp [hnil], by simp, by simp⟩
    · obtain ⟨b, before, after, rfl, hbefore, hafter⟩ := ih hnil
      rcases le_or_gt b.standing x.standing with hle | hlt
      · refine ⟨x, before ++ b :: after, [], rfl, fun d hd => ?_, by simp⟩
        rcases List.mem_append.1 hd with hd | hd
        · exact (hbefore d hd).trans hle
        · rcases List.mem_cons.1 hd with rfl | hd
          · exact hle
          · exact (hafter d hd).le.trans hle
      · refine ⟨b, before, after ++ [x], by simp, hbefore, fun d hd => ?_⟩
        rcases List.mem_append.1 hd with hd | hd
        · exact hafter d hd
        · rwa [List.mem_singleton.1 hd]

/-- A walk over the certificates ends with the best of them. -/
theorem foldl_better_of_best {cs : List Certificate} {c : Certificate} (h : Best cs c) :
    cs.foldl better none = some c := by
  obtain ⟨before, after, rfl, hbefore, hafter⟩ := h
  have hc : better (before.foldl better none) c = some c := better_of_le fun b hb =>
    hbefore b ((foldl_better_mem hb).resolve_right (by simp))
  rw [List.foldl_append, List.foldl_cons, hc]
  induction after with
  | nil => rfl
  | cons a after ih =>
    rw [List.foldl_cons, better_of_lt (hafter a List.mem_cons_self)]
    exact ih fun d hd => hafter d (List.mem_cons_of_mem a hd)

theorem Best.unique {cs : List Certificate} {c d : Certificate} (hc : Best cs c)
    (hd : Best cs d) : c = d :=
  Option.some.inj ((foldl_better_of_best hc).symm.trans (foldl_better_of_best hd))

theorem foldl_better_withoutSecret (cs : List Certificate) (best : Option Certificate) :
    (cs.map withoutSecret).foldl better (best.map withoutSecret) =
      (cs.foldl better best).map withoutSecret := by
  induction cs generalizing best with
  | nil => rfl
  | cons c cs ih =>
    have hstep : better (best.map withoutSecret) c.withoutSecret =
        (better best c).map withoutSecret := by
      cases best with
      | none => rfl
      | some b =>
        have hrank : ∀ c : Certificate, c.withoutSecret.rank = c.rank := fun _ => rfl
        simp only [better, Option.map_some, hrank]
        split <;> rfl
    rw [List.map_cons, List.foldl_cons, List.foldl_cons, hstep, ih]

theorem selectBest_spec {cs : List Certificate} {key : Bytes} {t : UInt32} {c : Certificate}
    (h : selectBest cs key t = some c) :
    c ∈ cs ∧ c.signatureHolds key = true ∧ c.validAt t = true := by
  rcases foldl_better_mem h with hmem | hnone
  · rw [List.mem_filter, acceptable_iff] at hmem
    exact hmem
  · cases hnone

theorem trusted_of_selectBest {texts : List Bytes} {key : Bytes} {t : UInt32} {c : Certificate}
    (h : selectBest (texts.filterMap fun b => (decode b).toOption) key t = some c) :
    Trusted key c ∧ c.validAt t = true := by
  obtain ⟨hmem, hsig, hvalid⟩ := selectBest_spec h
  obtain ⟨b, -, hb⟩ := List.mem_filterMap.1 hmem
  cases hd : decode b with
  | error e => simp [hd, Except.toOption] at hb
  | ok c' =>
    obtain rfl : c' = c := by simpa [hd, Except.toOption] using hb
    obtain ⟨hcons, hsecret⟩ := decode_spec hd
    exact ⟨⟨hsig, hcons, hsecret⟩, hvalid⟩

end Certificate

end StubResolver.DnsCrypt
