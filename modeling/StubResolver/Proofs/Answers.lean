import StubResolver.Proofs.Inquiry
import StubResolver.Proofs.IpAddress
import StubResolver.Proofs.Reader
import StubResolver.Transport

set_option autoImplicit false

namespace StubResolver

/-- The form of the data, for the types of which an answer shows less than all of it. -/
structure Rdata.Fits (t : RecordType) (d : Rdata) : Prop where
  a : t = .a → ∃ ip, d = .a ip
  aaaa : t = .aaaa → ∃ ip, d = .aaaa ip
  name : t = .ns ∨ t = .cname ∨ t = .ptr ∨ t = .dname → ∃ n, d = .name n

theorem Rdata.exists_of_address {α : Type} (ofBytes? : Bytes → Option α) {make : α → Rdata}
    {n : Nat} {b : Bytes} {f : Bytes → Reader Rdata} {r : Rdata × Bytes}
    (hsome : ∀ x ip, ofBytes? x = some ip → f x = pure (make ip))
    (hnone : ∀ x, ofBytes? x = none → f x = throw .outOfBytes)
    (h : (Reader.bytes n >>= f) b = .ok r) :
    ∃ ip, r.1 = make ip := by
  obtain ⟨front, rest, -, h⟩ := Reader.exists_of_bind h
  cases hip : ofBytes? front with
  | none =>
    rw [hnone front hip] at h
    cases h
  | some ip =>
    rw [hsome front ip hip] at h
    cases h
    exact ⟨ip, rfl⟩

theorem Rdata.fits_of_read {message : Bytes} {t : RecordType} {length : Nat} {b : Bytes}
    {r : Rdata × Bytes} (h : read message t length b = .ok r) : r.1.Fits t := by
  unfold read at h
  constructor
  · intro ht
    rw [if_pos ht] at h
    exact exists_of_address Ipv4.ofBytes? (fun _ _ hip => by rw [hip]) (fun _ hip => by rw [hip]) h
  · intro ht
    rw [if_neg (by rw [ht]; decide), if_pos ht] at h
    exact exists_of_address Ipv6.ofBytes? (fun _ _ hip => by rw [hip]) (fun _ hip => by rw [hip]) h
  · intro ht
    rw [if_neg (by obtain rfl | rfl | rfl | rfl := ht <;> decide),
      if_neg (by obtain rfl | rfl | rfl | rfl := ht <;> decide), if_pos ht] at h
    obtain ⟨n, rest, -, h⟩ := Reader.exists_of_bind h
    cases h
    exact ⟨n, rfl⟩

theorem Reader.forall_of_replicate {α : Type} {P : α → Prop} {r : Reader α}
    (h : ∀ b a rest, r b = .ok (a, rest) → P a) {n : Nat} {b : Bytes} {p : List α × Bytes}
    (hr : replicate r n b = .ok p) : ∀ a ∈ p.1, P a := by
  induction n generalizing b p with
  | zero =>
    cases hr
    simp
  | succ n ih =>
    obtain ⟨a, rest, ha, hr⟩ := exists_of_bind hr
    obtain ⟨l, rest', hl, hr⟩ := exists_of_bind hr
    cases hr
    simp only [List.forall_mem_cons]
    exact ⟨h b a rest ha, ih hl⟩

def ResourceRecord.Fits (r : ResourceRecord) : Prop := r.data.Fits r.type

theorem Record.fits_of_read {message b : Bytes} {rcode : Option Rcode} {p : Record × Bytes}
    (h : read message rcode b = .ok p) : ∀ r, p.1.resource? = some r → r.Fits := by
  obtain ⟨owner, rest, -, h⟩ := Reader.exists_of_bind h
  obtain ⟨code, rest', -, h⟩ := Reader.exists_of_bind h
  dsimp only at h
  split at h
  · obtain ⟨o, rest'', -, h⟩ := Reader.exists_of_bind h
    cases h
    exact fun r hr => nomatch hr
  · obtain ⟨record, rest'', hrecord, h⟩ := Reader.exists_of_bind h
    cases h
    obtain ⟨recordClass, _, -, hrecord⟩ := Reader.exists_of_bind hrecord
    obtain ⟨ttl, _, -, hrecord⟩ := Reader.exists_of_bind hrecord
    obtain ⟨length, _, -, hrecord⟩ := Reader.exists_of_bind hrecord
    obtain ⟨_, _, -, hrecord⟩ := Reader.exists_of_bind hrecord
    obtain ⟨data, _, hdata, hrecord⟩ := Reader.exists_of_bind hrecord
    cases hrecord
    intro r hr
    cases hr
    exact Rdata.fits_of_read hdata

theorem Message.fits_of_decode {b : Bytes} {m : Message} (h : decode b = .ok m) :
    ∀ r ∈ m.answers.filterMap Record.resource?, r.Fits := by
  obtain ⟨⟨header, rest⟩, -, h⟩ := exists_of_bind h
  dsimp only at h
  split at h
  · cases h
  · obtain ⟨⟨m', rest'⟩, hbody, h⟩ := exists_of_bind h
    cases h
    obtain ⟨questions, _, -, hbody⟩ := Reader.exists_of_bind hbody
    obtain ⟨answers, _, hanswers, hbody⟩ := Reader.exists_of_bind hbody
    obtain ⟨authorities, _, -, hbody⟩ := Reader.exists_of_bind hbody
    obtain ⟨additionals, _, -, hbody⟩ := Reader.exists_of_bind hbody
    cases hbody
    have hfits :=
      Reader.forall_of_replicate (P := fun record => ∀ r, record.resource? = some r → r.Fits)
      (fun _ _ _ hrecord => Record.fits_of_read hrecord) hanswers
    intro r hr
    obtain ⟨record, hmem, hr⟩ := List.mem_filterMap.1 hr
    exact hfits record hmem r hr

def IsAddress (a : String) : Prop := ∃ ip, IpAddress.ofText? a = some ip

theorem isAddress_text (ip : IpAddress) : IsAddress ip.text := ⟨ip, IpAddress.ofText?_text ip⟩

theorem Text.lastWord_of_not_isBlank {cs : List Char}
    (h : ∀ c ∈ cs, isBlank c = false) : lastWord cs = cs := by
  have hhead : cs.reverse.dropWhile isBlank = cs.reverse := by
    cases hcs : cs.reverse with
    | nil => rfl
    | cons c r =>
      have hc : c ∈ cs := List.mem_reverse.1 (hcs ▸ List.mem_cons_self)
      rw [List.dropWhile_cons_of_neg (by simp [h c hc])]
  have hall : cs.reverse.takeWhile (fun c => !isBlank c) = cs.reverse := by
    refine List.takeWhile_eq_self_iff.2 fun c hc => ?_
    rw [h c (List.mem_reverse.1 hc), Bool.not_false]
  rw [lastWord, hhead, hall, List.reverse_reverse]

theorem lastWord_address (ip : IpAddress) :
    String.ofList (Text.lastWord ip.text.toList) = ip.text := by
  have hparts := IpAddress.isPart_of_ofText? (IpAddress.ofText?_text ip)
  rw [Text.lastWord_of_not_isBlank fun c hc => IpAddress.not_isBlank_of_isPart (hparts c hc),
    String.ofList_toList]

theorem ResourceRecord.isAddress_shown {r : ResourceRecord} (h : r.Fits)
    (ht : r.type = .a ∨ r.type = .aaaa) :
    IsAddress r.shown := by
  rw [shown, if_pos ht]
  cases ht with
  | inl ht =>
    obtain ⟨ip, hip⟩ := h.a ht
    rw [hip]
    exact lastWord_address (.v4 ip) ▸ isAddress_text (.v4 ip)
  | inr ht =>
    obtain ⟨ip, hip⟩ := h.aaaa ht
    rw [hip]
    exact lastWord_address (.v6 ip) ▸ isAddress_text (.v6 ip)

theorem RecordType.eq_of_text {t u : RecordType} (hu : u.text.toList.head? ≠ some 'T')
    (h : t.text = u.text) :
    t = u := by
  have hlist : ∀ p ∈ mnemonics, ∀ q ∈ mnemonics, p.2 = q.2 → p.1 = q.1 := by decide
  have hmem : ∀ {v : RecordType}, v.text = u.text → (v, u.text) ∈ mnemonics := by
    intro v hv
    cases hmnemonic : v.mnemonic? with
    | some s =>
      obtain ⟨before, after, hsplit, -⟩ := List.lookup_eq_some_iff.1 hmnemonic
      rw [text, hmnemonic, Option.getD_some] at hv
      rw [← hv, hsplit]
      exact List.mem_append_right before List.mem_cons_self
    | none =>
      refine absurd ?_ hu
      rw [← hv, text, hmnemonic]
      simp only [Option.getD_none, String.toList_append]
      rfl
  exact hlist (t, u.text) (hmem h) (u, u.text) (hmem rfl) rfl

/-- The answers with a type of address show addresses. -/
def Response.Truthful (r : Response) : Prop :=
  ∀ a ∈ r.answers, a.type = RecordType.a.text ∨ a.type = RecordType.aaaa.text → IsAddress a.address

theorem truthful_ofMessage {b : Bytes} {m : Message} (h : Message.decode b = .ok m)
    (roundTrip : Duration) (server : String) :
    (Response.ofMessage m roundTrip server).Truthful := by
  intro a ha ht
  obtain ⟨r, hr, rfl⟩ := List.mem_map.1 ha
  exact ResourceRecord.isAddress_shown (Message.fits_of_decode h r hr)
    (ht.imp (RecordType.eq_of_text (by decide)) (RecordType.eq_of_text (by decide)))

theorem Inquiry.Passed.answers {network : Network} {server : String} {sent : List Question}
    {queries : List Query} {calls : List Call} {r : Response}
    (h : Passed network server sent queries calls (.ok (.response r))) :
    ∃ reply m roundTrip, Message.decode reply = .ok m ∧
      r.answers = (Response.ofMessage m roundTrip server).answers := by
  generalize hending : (Except.ok (PassEnd.response r) : Except Error PassEnd) = ending at h
  obtain ⟨-, hdecides⟩ := h
  cases hdecides with
  | failed => cases hending
  | refused => cases hending
  | truncated => cases hending
  | @answered reply m roundTrip hdelivered _ =>
    cases hending
    obtain ⟨_, _, -, -, -, hdecode⟩ := hdelivered
    exact ⟨reply, m, roundTrip, hdecode, rfl⟩

/-- The response of an inquiry has the records of one reply. -/
theorem Inquiry.answers_of_run {σ : Type} {elapsed : σ → Duration}
    {exchange : Network → Bytes → Task σ Bytes} {o : Options} {network : Network} {server : String}
    {question : Question} {ids : Nat → UInt16} {s : σ} {r : Response}
    (h : (run elapsed exchange o network server question ids s).1 = .ok r) :
    ∃ reply m roundTrip, Message.decode reply = .ok m ∧
      r.answers = (Response.ofMessage m roundTrip server).answers := by
  have haccount := run_account elapsed exchange o network server question ids s
  dsimp only at haccount
  rw [h] at haccount
  split at haccount
  · cases haccount.2
  · obtain ⟨first, second, -, haccount⟩ := haccount
    obtain ⟨ending, hconclude, hpassed⟩ := haccount.last_pass
    have hending : ending = .ok (.response r) := by
      rcases ending with e | r' | _
      · cases hconclude
      · cases hconclude
        rfl
      · cases hconclude
    rw [hending] at hpassed
    split at hpassed
    · exact hpassed.answers
    · exact hpassed.answers

variable {σ : Type} {env : Environment σ}

inductive Response.Obtained (r : Response) : Prop where
  | decoded {wire : Bytes} {m : Message} {roundTrip : Duration} {server : String} :
    Message.decode wire = .ok m →
    r.answers = (ofMessage m roundTrip server).answers → r.Obtained
  | found {name roundTrip : String} {ips : List IpAddress} :
    r.answers = ips.map (OperatingSystem.answer name roundTrip) →
    r.Obtained

theorem Response.Obtained.truthful {r : Response} (h : r.Obtained) : r.Truthful := by
  cases h with
  | decoded hdecode hanswers =>
    rw [Truthful, hanswers]
    exact truthful_ofMessage hdecode _ _
  | found hanswers =>
    intro a ha _
    rw [hanswers] at ha
    obtain ⟨ip, -, rfl⟩ := List.mem_map.1 ha
    exact isAddress_text ip

theorem Inquiry.obtained_of_run {elapsed : σ → Duration}
    {exchange : Network → Bytes → Task σ Bytes} {o : Options} {network : Network} {server : String}
    {question : Question} {ids : Nat → UInt16} {s : σ} {r : Response}
    (h : (run elapsed exchange o network server question ids s).1 = .ok r) : r.Obtained := by
  obtain ⟨reply, m, roundTrip, hdecode, hanswers⟩ := answers_of_run h
  exact .decoded hdecode hanswers

theorem OperatingSystem.obtained_of_lookup {sys : OperatingSystem} {question : Question}
    {s : σ} {r : Response} (h : (sys.lookup env question s).1 = .ok r) : r.Obtained := by
  obtain ⟨start, _, -, h⟩ := Task.exists_of_bind h
  obtain ⟨found, _, -, h⟩ := Task.exists_of_bind h
  obtain ⟨finish, _, -, h⟩ := Task.exists_of_bind h
  cases h
  exact .found rfl

namespace Transport

def BuiltIn (t : Transport σ) : Prop := ∀ answer, t ≠ .custom answer

theorem obtained_of_lookup {question : Question} {s : Transport σ × σ}
    (hs : s.1.BuiltIn) {r : Response} (h : (lookup env question s).1 = .ok r) : r.Obtained := by
  obtain ⟨t, s⟩ := s
  unfold lookup at h
  simp only [still] at h
  cases t with
  | classic c =>
    have hlookup : (c.lookup env question s).1 = .ok r := h
    obtain ⟨ids, _, -, hrun⟩ := Task.exists_of_bind hlookup
    exact Inquiry.obtained_of_run hrun
  | https t =>
    have hlookup : (t.lookup env question s).1 = .ok r := h
    obtain ⟨ids, _, -, hrun⟩ := Task.exists_of_bind hlookup
    exact Inquiry.obtained_of_run hrun
  | encrypted e certificate =>
    have hlookup : (e.lookup env question (certificate, s)).1 = .ok r := h
    obtain ⟨c, _, -, hlookup⟩ := Task.exists_of_bind hlookup
    obtain ⟨ids, _, -, hrun⟩ := Task.exists_of_bind hlookup
    exact Inquiry.obtained_of_run hrun
  | operatingSystem sys =>
    dsimp only at h
    exact OperatingSystem.obtained_of_lookup h
  | custom answer => exact absurd rfl (hs answer)

theorem lookup_builtIn {question : Question} {s : Transport σ × σ} (hs : s.1.BuiltIn) :
    (lookup env question s).2.1.BuiltIn := by
  obtain ⟨t, s⟩ := s
  unfold lookup
  simp only [still]
  cases t with
  | encrypted e certificate => exact fun _ h => nomatch h
  | classic | https | operatingSystem | custom => exact hs

end Transport

end StubResolver
