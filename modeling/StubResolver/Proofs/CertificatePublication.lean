import Mathlib.Data.List.ReduceOption
import StubResolver.Proofs.CertificateFetch
import StubResolver.Proofs.CertificateSignature
import StubResolver.Proofs.TransportAgreement

set_option autoImplicit false

namespace StubResolver

open DnsCrypt (Certificate)

namespace Publication

/-- What a record offers to the clients of a provider at some time: a certificate that the provider
signed, cut into strings anywhere; or nothing, if its type is another one, or if what its strings
make up is not a certificate that verifies. -/
inductive Offers (seed : Octets 32) (now : UInt32) :
    RecordType × Bytes → Option Certificate → Prop where
  | certificate {c : Certificate} {written : UInt32} {pieces : List Bytes} : c.validAt now = true →
    (c.sign seed).encode written = .ok pieces.flatten → (∀ piece ∈ pieces, piece.length < 256) →
    Offers seed now (.txt, strings pieces) (some (c.sign seed))
  | otherType {type : RecordType} (data : Bytes) : type ≠ .txt → Offers seed now (type, data) none
  | otherText {pieces : List Bytes} : (∀ piece ∈ pieces, piece.length < 256) →
    (∀ c, Certificate.decode pieces.flatten = .ok c →
      c.signatureHolds (Ed25519.publicKey seed.bytes) = false ∨ c.validAt now = false) →
    Offers seed now (.txt, strings pieces) none

variable {seed : Octets 32} {now : UInt32}

theorem joinStrings?_of_offers {data : Bytes} {offer : Option Certificate}
    (h : Offers seed now (.txt, data) offer) : joinStrings? data ≠ none := by
  cases h with
  | certificate _ _ hpieces => simp [joinStrings?_strings hpieces]
  | otherType _ htype => exact absurd rfl htype
  | otherText hpieces _ => simp [joinStrings?_strings hpieces]

/-- What is left of a record after all that a client does with it. -/
theorem accepted_of_offers {record : RecordType × Bytes} {offer : Option Certificate}
    (h : Offers seed now record offer) :
    ((text? record).bind fun t => (Certificate.decode t).toOption).filter
      (Certificate.acceptable (Ed25519.publicKey seed.bytes) now) =
        offer.map Certificate.withoutSecret := by
  cases h with
  | @certificate c written pieces hvalid hwritten hpieces =>
    have hdecode := Certificate.decode_encode hwritten []
    rw [List.append_nil] at hdecode
    have haccept : Certificate.acceptable (Ed25519.publicKey seed.bytes) now
        (c.sign seed).withoutSecret =
        true := Certificate.acceptable_iff.2 ⟨c.signatureHolds_sign seed, hvalid⟩
    simp [text?, joinStrings?_strings hpieces, hdecode, Except.toOption, haccept]
  | otherType _ htype => simp [text?, htype]
  | @otherText pieces hpieces hother =>
    have htext : text? (.txt, strings pieces) = some pieces.flatten := by
      simp [text?, joinStrings?_strings hpieces]
    rw [htext, Option.bind_some, Option.map_none, Option.filter_eq_none_iff]
    intro c hc haccept
    obtain ⟨hsignature, hvalid⟩ := Certificate.acceptable_iff.1 haccept
    cases hdecode : Certificate.decode pieces.flatten with
    | error err => simp [hdecode, Except.toOption] at hc
    | ok c' =>
      obtain rfl : c' = c := by simpa [hdecode, Except.toOption] using hc
      rcases hother c' hdecode with h | h
      · simp [h] at hsignature
      · simp [h] at hvalid

theorem accepted_of_forall₂ {records : List (RecordType × Bytes)}
    {offers : List (Option Certificate)} (h : List.Forall₂ (Offers seed now) records offers) :
    ((records.filterMap text?).filterMap fun t => (Certificate.decode t).toOption).filter
      (Certificate.acceptable (Ed25519.publicKey seed.bytes) now) =
      offers.reduceOption.map Certificate.withoutSecret := by
  rw [List.filterMap_filterMap, List.filter_filterMap]
  induction h with
  | nil => rfl
  | @cons record offer records offers hoffer _ ih =>
    rw [List.filterMap_cons, accepted_of_offers hoffer, ih]
    cases offer with
    | none => rw [List.reduceOption_cons_of_none]; rfl
    | some c => rw [List.reduceOption_cons_of_some]; rfl

/-- What a client hears of a reply with offers leads to the best of them. -/
theorem chosen_of_answers {e : Encrypted}
    (hkey : e.stamp.providerKey.bytes = Ed25519.publicKey seed.bytes) {message : Bytes}
    {id : UInt16} {records : List (RecordType × Bytes)} {offers : List (Option Certificate)}
    (ha : Answers message id records) (ho : List.Forall₂ (Offers seed now) records offers) :
    ∃ texts, read message = .ok ⟨id, false, texts⟩ ∧ e.chosen now texts =
      ((offers.reduceOption.foldl Certificate.better none).map Certificate.withoutSecret).elim
        (.error (.dnsCrypt .noValidCertificate)) .ok := by
  have hjoin : ∀ data, (.txt, data) ∈ records → joinStrings? data ≠ none := fun data hmem => by
    obtain ⟨offer, hoffer⟩ := Candidate.exists_of_mem_right ho.flip hmem
    exact joinStrings?_of_offers hoffer
  refine ⟨records.filterMap text?, read_of_answers ha hjoin, ?_⟩
  have hfold := Certificate.foldl_better_withoutSecret offers.reduceOption none
  rw [Option.map_none] at hfold
  rw [Encrypted.chosen, Certificate.selectBest, hkey, accepted_of_forall₂ ho, hfold]
  cases (offers.reduceOption.foldl Certificate.better none).map Certificate.withoutSecret <;> rfl

end Publication

namespace Encrypted

open Publication (Answers Offers)

variable {σ τ : Type} (e : Encrypted)

inductive Delivers (env : Environment σ) (q : Query) (s : σ) (message : Bytes) (t : σ) : Prop where
  | datagram : e.send env e.plainNetwork q.encode s = (.ok message, t) → Delivers env q s message t
  | stream {cut : Bytes} {u : σ} : e.send env e.plainNetwork q.encode s = (.ok cut, u) →
    Inquiry.Truncated q cut → e.send env e.plainNetwork.toTcp q.encode u = (.ok message, t) →
    Delivers env q s message t

theorem answersTo_of_delivers {env : Environment σ} {q : Query} {s t : σ} {message : Bytes}
    {texts : List Bytes} (h : e.Delivers env q s message t)
    (hr : Publication.read message = .ok ⟨q.id, false, texts⟩) :
    e.answersTo env q s = (.ok texts, t) := by
  have hheard : heard q (.ok message) = .ok (false, texts) := heard_of_read hr rfl
  cases h with
  | datagram hsend => exact e.answersTo_of_heard hsend hheard
  | stream hsend htruncated hagain =>
    obtain ⟨cut, hcut⟩ := heard_truncated.2 ⟨_, rfl, htruncated⟩
    exact e.answersTo_of_truncated hsend hcut hagain hheard

/-- Asked in state `s`, the provider offers these certificates, between any other records, by a
reply that is there in state `t`. -/
inductive Publishes (seed : Octets 32) (env : Environment σ) (s : σ) :
    List Certificate → σ → Prop where
  | intro {name : Name} {message : Bytes} {records : List (RecordType × Bytes)}
      {offers : List (Option Certificate)} {t : σ} : Name.ofText e.stamp.providerName = .ok name →
    e.Delivers env (certificateQuery name ((env.queryIds s).1 0)) (env.queryIds s).2 message t →
    Answers message ((env.queryIds s).1 0) records →
      List.Forall₂ (Offers seed (env.now t)) records offers →
    Publishes seed env s offers.reduceOption t

theorem certificate_of_publishes {seed : Octets 32}
    (hkey : e.stamp.providerKey.bytes = Ed25519.publicKey seed.bytes) {env : Environment σ}
    {s t : σ} {cs : List Certificate} (h : e.Publishes seed env s cs t) :
    e.certificate env (none, s) =
      ((cs.foldl Certificate.better none).map Certificate.withoutSecret).elim
        (.error (.dnsCrypt .noValidCertificate), none, t) fun c => (.ok c, some c, t) := by
  obtain ⟨hname, hdelivers, hanswers, hoffers⟩ := h
  obtain ⟨texts, hread, hchosen⟩ := Publication.chosen_of_answers hkey hanswers hoffers
  have hpublished : e.published env s = (.ok texts, t) := by
    rw [e.published_of_name hname]
    exact e.answersTo_of_delivers hdelivers hread
  have hfetch : e.fetchCertificate env s = (e.chosen (env.now t) texts, t) := by
    rw [fetchCertificate_apply, hpublished]
    rfl
  rw [e.certificate_of_invalid env (by simp), hfetch, hchosen]
  cases (List.foldl Certificate.better none _).map Certificate.withoutSecret <;> rfl

/-- Without a stored certificate, the best of those that are offered is taken, without its secret
key; and none if none is offered. What else the provider publishes makes no difference. -/
theorem certificate_published {seed : Octets 32}
    (hkey : e.stamp.providerKey.bytes = Ed25519.publicKey seed.bytes) {env : Environment σ}
    {s t : σ} {cs : List Certificate} (h : e.Publishes seed env s cs t) :
    (cs = [] → e.certificate env (none, s) = (.error (.dnsCrypt .noValidCertificate), none, t)) ∧
      (cs ≠ [] → ∃ c, Certificate.Best cs c ∧
        e.certificate env (none, s) = (.ok c.withoutSecret, some c.withoutSecret, t)) ∧
      ∀ {τ : Type} {env' : Environment τ} {s' t' : τ}, e.Publishes seed env' s' cs t' →
        (e.certificate env' (none, s')).1 = (e.certificate env (none, s)).1 := by
  have hr := e.certificate_of_publishes hkey h
  refine ⟨?_, ?_, ?_⟩
  · rintro rfl
    exact hr
  · intro hne
    obtain ⟨c, hc⟩ := Certificate.exists_best hne
    rw [Certificate.foldl_better_of_best hc] at hr
    exact ⟨c, hc, hr⟩
  · intro τ env' s' t' h'
    rw [hr, e.certificate_of_publishes hkey h']
    cases (cs.foldl Certificate.better none).map Certificate.withoutSecret <;> rfl

/-- Between an address and a text that is no certificate, the preferred construction wins
over a higher serial number. -/
theorem certificate_published_between :
    let seed : Octets 32 := .zero 32
    let chaCha : Certificate :=
      Certificate.sign ⟨1, .xChaCha20Poly1305, .zero 64, .zero 32, .zero 32, .zero 8, 0, 10⟩ seed
    let salsa : Certificate :=
      Certificate.sign ⟨2, .xSalsa20Poly1305, .zero 64, .zero 32, .zero 32, .zero 8, 0, 10⟩ seed
    let e : Encrypted :=
      ⟨⟨0, "192.0.2.1:443", ⟨Ed25519.publicKey seed.bytes, Ed25519.Point.length_encode _⟩,
        "example"⟩,
        ⟨"192.0.2.1", some (.v4 ⟨192, 0, 2, 1⟩), 443⟩, ⟨.udp, .any, false⟩,
        .ofSecret (.zero 32), .default⟩
    let s : Entropy := ⟨fun _ => 7, 0⟩
    ∃ b b', chaCha.encode 5 = .ok b ∧ salsa.encode 6 = .ok b' ∧
      let records : List (RecordType × Bytes) :=
        [(.a, [192, 0, 2, 1]), (.txt, Publication.strings [b.take 100, b.drop 100]),
          (.txt, Publication.strings [[1, 2, 3]]), (.txt, Publication.strings [b'])]
      let env := Environment.serving (fun _ => Publication.reply 0 records) none true
      e.Publishes seed env s [chaCha, salsa] s ∧
        e.certificate env (none, s) = (.ok chaCha.withoutSecret, some chaCha.withoutSecret, s) := by
  have hname : Name.ofText "example" = .ok ⟨[[101, 120, 97, 109, 112, 108, 101]]⟩ := rfl
  intro seed chaCha salsa e s
  obtain ⟨b, hb⟩ : ∃ b, chaCha.encode 5 = .ok b := ⟨_, rfl⟩
  obtain ⟨b', hb'⟩ : ∃ b', salsa.encode 6 = .ok b' := ⟨_, rfl⟩
  refine ⟨b, b', hb, hb', ?_⟩
  intro records env
  have hlen := Certificate.length_encode hb
  have hlen' := Certificate.length_encode hb'
  have hbest : Certificate.Best [chaCha, salsa] chaCha := by
    refine ⟨[], [salsa], rfl, by simp, fun c hc => ?_⟩
    obtain rfl := List.mem_singleton.1 hc
    decide
  have haddress : Offers seed 5 (.a, [192, 0, 2, 1]) none := .otherType _ (by decide)
  have hchaCha : Offers seed 5 (.txt, Publication.strings [b.take 100, b.drop 100]) (some chaCha) :=
    .certificate rfl (by simpa using hb) (by simp [hlen])
  have hsalsa : Offers seed 5 (.txt, Publication.strings [b']) (some salsa) :=
    .certificate rfl (by simpa using hb') (by simp [hlen'])
  have hjunk : Offers seed 5 (.txt, Publication.strings [[1, 2, 3]]) none :=
    .otherText (by simp) (by simp [Certificate.decode, Certificate.size])
  have hdata : ∀ r ∈ records, r.2.length < 65536 := by
    simp [records, Publication.strings, hlen, hlen']
  have hoffers : List.Forall₂ (Offers seed (env.now s)) records
      [none, some chaCha, none, some salsa] :=
    .cons haddress (.cons hchaCha (.cons hjunk (.cons hsalsa .nil)))
  have hpublishes : e.Publishes seed env s [chaCha, salsa] s :=
    .intro hname (.datagram rfl) (Publication.answers_reply 0 (by simp [records]) hdata) hoffers
  obtain ⟨-, hsome, -⟩ := e.certificate_published rfl hpublishes
  obtain ⟨c, hc, hr⟩ := hsome (by simp)
  rw [hc.unique hbest] at hr
  exact ⟨hpublishes, hr⟩

end Encrypted

end StubResolver
