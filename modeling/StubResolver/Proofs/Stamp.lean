import StubResolver.DnsCrypt.Stamp
import StubResolver.Proofs.Base64Url
import StubResolver.Proofs.Reader

set_option autoImplicit false

namespace StubResolver

theorem Text.stripIgnoringCase?_append (p cs : List Char) :
    Text.stripIgnoringCase? p (p ++ cs) = some cs := by
  induction p with
  | nil => cases cs <;> rfl
  | cons c p ih => rw [List.cons_append, Text.stripIgnoringCase?, if_pos rfl, ih]

namespace DnsCrypt.Stamp

theorem field_eq_ok_iff {b x r : Bytes} :
    field b = .ok (x, r) ↔ x.length < 256 ∧ b = encodeField x ++ r := by
  constructor
  · intro h
    cases b with
    | nil => cases h
    | cons n b =>
      cases hsplit : Bytes.split? n.toNat b with
      | none => simp [field, field?, hsplit] at h
      | some p =>
        simp only [field, field?, hsplit, Except.ok.injEq] at h
        subst h
        obtain ⟨hb, hlen⟩ := Bytes.append_of_split? hsplit
        have hn := n.toNat_lt
        have hbyte : UInt8.ofNat x.length = n := by rw [hlen, UInt8.ofNat_toNat]
        exact ⟨by omega, by rw [encodeField, hbyte, hb, List.cons_append]⟩
  · intro h
    obtain ⟨hlen, hb⟩ := h
    have hbyte : (UInt8.ofNat x.length).toNat = x.length := UInt8.toNat_ofNat_of_lt hlen
    subst hb
    rw [encodeField, List.cons_append, field, field?, hbyte, Bytes.split?_append]

theorem fields_of_front {b : Bytes} (hsize : 9 ≤ b.length) (hversion : b.headD 0 = protocol) :
    fields b = (do
      let (address, r) ← field (b.drop 9)
      let (key, r) ← field r
      let (name, r) ← field r
      if !r.isEmpty then throw (.invalidStamp "trailing garbage after stamp")
      return (UInt64.ofNat (Bytes.toNatLE ((b.drop 1).take 8)), address, key, name)) := by
  have hlong : ¬ b.length < 9 := Nat.not_lt.2 hsize
  unfold fields
  rw [if_neg hlong, hversion]
  rfl

theorem front_of_fields {b : Bytes} {p : UInt64 × Bytes × Bytes × Bytes} (h : fields b = .ok p) :
    9 ≤ b.length ∧ b.headD 0 = protocol := by
  unfold fields at h
  split at h
  · cases h
  · next hsize =>
    dsimp only at h
    split at h
    · cases h
    · next hversion => exact ⟨Nat.le_of_not_lt hsize, by simpa using hversion⟩

theorem ofNatLE_ofNat {b : Bytes} (h : b.length = 8) :
    Bytes.ofNatLE 8 (UInt64.ofNat (Bytes.toNatLE b)).toNat = b := by
  have hlt := Bytes.toNatLE_lt b
  rw [h] at hlt
  have hnumber : (UInt64.ofNat (Bytes.toNatLE b)).toNat = Bytes.toNatLE b :=
    UInt64.toNat_ofNat_of_lt hlt
  rw [hnumber, ← h, Bytes.ofNatLE_toNatLE]

theorem ofNat_toNatLE (n : UInt64) :
    UInt64.ofNat (Bytes.toNatLE (Bytes.ofNatLE 8 n.toNat)) = n := by
  have hlt : n.toNat < 256 ^ 8 := n.toNat_lt
  rw [Bytes.toNatLE_ofNatLE, Nat.mod_eq_of_lt hlt, UInt64.ofNat_toNat]

def layout (address key name : Bytes) : Bytes :=
  encodeField address ++ (encodeField key ++ encodeField name)

theorem length_mod_of_layout {address address' key key' name name' : Bytes}
    (h : layout address key name = layout address' key' name') :
    address.length % 256 = address'.length % 256 := by
  have hbyte : UInt8.ofNat address.length = UInt8.ofNat address'.length := (List.cons.inj h).1
  have hlength := congrArg UInt8.toNat hbyte
  rw [UInt8.toNat_ofNat', UInt8.toNat_ofNat'] at hlength
  exact hlength

theorem layout_of_fields {b : Bytes} {props : UInt64} {address key name : Bytes}
    (h : fields b = .ok (props, address, key, name)) :
    b = protocol :: (Bytes.ofNatLE 8 props.toNat ++ layout address key name) ∧
      address.length < 256 ∧ key.length < 256 ∧ name.length < 256 := by
  obtain ⟨hsize, hversion⟩ := front_of_fields h
  rw [fields_of_front hsize hversion] at h
  obtain ⟨⟨address', r⟩, hfield, h⟩ := exists_of_bind h
  obtain ⟨⟨key', r'⟩, hfield', h⟩ := exists_of_bind h
  obtain ⟨⟨name', r''⟩, hfield'', h⟩ := exists_of_bind h
  dsimp only at h hfield' hfield''
  split at h
  · cases h
  · next hend =>
    cases h
    obtain ⟨haddress, hb⟩ := field_eq_ok_iff.1 hfield
    obtain ⟨hkey, hr⟩ := field_eq_ok_iff.1 hfield'
    obtain ⟨hname, hr'⟩ := field_eq_ok_iff.1 hfield''
    have hr'' : r'' = [] := by simpa using hend
    have hbody : b.drop 9 = layout address key name := by
      rw [hb, hr, hr', hr'', List.append_nil, layout]
    have hprops : ((b.drop 1).take 8).length = 8 := by
      rw [List.length_take, List.length_drop]
      omega
    refine ⟨?_, haddress, hkey, hname⟩
    rw [ofNatLE_ofNat hprops, ← hbody]
    cases b with
    | nil => simp at hsize
    | cons v b =>
      have hv : v = protocol := hversion
      rw [hv, List.drop_one, List.tail_cons, List.drop_succ_cons, List.take_append_drop]

theorem fields_layout (props : UInt64) {address key name : Bytes} (haddress : address.length < 256)
    (hkey : key.length < 256) (hname : name.length < 256) :
    fields (protocol :: (Bytes.ofNatLE 8 props.toNat ++ layout address key name)) =
      .ok (props, address, key, name) := by
  have hlength : (Bytes.ofNatLE 8 props.toNat).length = 8 := Bytes.length_ofNatLE 8 _
  have hsize :
      9 ≤ (protocol :: (Bytes.ofNatLE 8 props.toNat ++ layout address key name)).length := by
    rw [List.length_cons, List.length_append, hlength]
    omega
  have hfield : field (layout address key name) =
      .ok (address, encodeField key ++ encodeField name) :=
    field_eq_ok_iff.2 ⟨haddress, rfl⟩
  have hfield' : field (encodeField key ++ encodeField name) = .ok (key, encodeField name) :=
    field_eq_ok_iff.2 ⟨hkey, rfl⟩
  have hfield'' : field (encodeField name) = .ok (name, []) :=
    field_eq_ok_iff.2 ⟨hname, (List.append_nil _).symm⟩
  rw [fields_of_front hsize rfl, List.drop_succ_cons, List.drop_left' hlength,
    List.drop_one, List.tail_cons, List.take_left' hlength, ofNat_toNatLE]
  simp only [hfield, hfield', hfield'', bind, Except.bind]
  rfl

structure Parts (b : Bytes) (st : Stamp) (address : String) : Prop where
  fields :
    fields b = .ok (st.props, Bytes.ofString address, st.providerKey.bytes,
      Bytes.ofString st.providerName)
  address_eq : st.address = withPort address
  address_ne : address ≠ ""
  name_ne : st.providerName ≠ ""

theorem parts_of_ofBytes {b : Bytes} {st : Stamp} (h : ofBytes b = .ok st) :
    ∃ address, Parts b st address := by
  unfold ofBytes at h
  obtain ⟨⟨props, x, y, z⟩, hfields, h⟩ := exists_of_bind h
  dsimp only at h
  cases hx : Bytes.toString? x with
  | none =>
    rw [hx] at h
    cases h
  | some address =>
    cases hy : Octets.ofBytes? 32 y with
    | none =>
      rw [hx, hy] at h
      dsimp only at h
      split at h <;> cases h
    | some key =>
      cases hz : Bytes.toString? z with
      | none =>
        rw [hx, hy, hz] at h
        dsimp only at h
        split at h <;> cases h
      | some name =>
        rw [hx, hy, hz] at h
        dsimp only at h
        split at h
        · cases h
        · next haddress =>
          split at h
          · cases h
          · next hname =>
            cases h
            rw [← Bytes.toString?_eq_some_iff.1 hx, ← Octets.bytes_of_ofBytes? hy,
              ← Bytes.toString?_eq_some_iff.1 hz] at hfields
            exact ⟨address, hfields, rfl, by simpa using haddress, by simpa using hname⟩

theorem ofBytes_of_parts {b : Bytes} {st : Stamp} {address : String} (h : Parts b st address) :
    ofBytes b = .ok st := by
  have haddress : address.isEmpty = false := by simpa using h.address_ne
  have hname : st.providerName.isEmpty = false := by simpa using h.name_ne
  unfold ofBytes
  rw [h.fields]
  simp only [bind, Except.bind, Bytes.toString?_ofString, haddress, hname,
    Octets.ofBytes?_bytes, ← h.address_eq]
  rfl

theorem withPort_of_hasPort {address : String} (h : hasPort address.toList = true) :
    withPort address = address :=
  if_pos h

theorem withPort_of_not_hasPort {address : String} (h : hasPort address.toList = false) :
    withPort address = address ++ defaultPort := by
  simp [withPort, h]

/-- A port behind the address is seen as one: no bracket hides it, or one
stands right in front of it. -/
def Open (address : List Char) : Prop := ']' ∉ address ∨ address.getLast? = some ']'

theorem hasPort_of_bracket {front rest : List Char} (h : ']' ∉ rest) :
    hasPort (front ++ ']' :: rest) = decide (rest.head? = some ':') := by
  have hcontains : (front ++ ']' :: rest).contains ']' = true := by simp
  have hback : (front ++ ']' :: rest).reverse.takeWhile (· != ']') = rest.reverse := by
    have hrest : ∀ c ∈ rest.reverse, (c != ']') = true := by
      intro c hc
      have hne : c ≠ ']' := fun heq => h (heq ▸ List.mem_reverse.1 hc)
      simpa using hne
    rw [List.reverse_append, List.reverse_cons, List.append_assoc,
      List.takeWhile_append_of_pos hrest]
    simp
  rw [hasPort, if_pos hcontains, hback, List.getLast?_reverse]

theorem exists_last_bracket {cs : List Char} (h : ']' ∈ cs) :
    ∃ front rest, cs = front ++ ']' :: rest ∧ ']' ∉ rest := by
  obtain ⟨back, front, hreverse, hback⟩ := List.eq_append_cons_of_mem (List.mem_reverse.2 h)
  refine ⟨front.reverse, back.reverse, ?_, fun hmem => hback (List.mem_reverse.1 hmem)⟩
  rw [← List.reverse_reverse cs, hreverse]
  simp

theorem hasPort_append_iff {address : List Char} (h : hasPort address = false) :
    hasPort (address ++ defaultPort.toList) = true ↔ Open address := by
  by_cases hbracket : ']' ∈ address
  · obtain ⟨front, rest, rfl, hrest⟩ := exists_last_bracket hbracket
    have hrest' : ']' ∉ rest ++ defaultPort.toList := by
      rw [List.mem_append, not_or]
      exact ⟨hrest, by decide⟩
    rw [hasPort_of_bracket hrest, decide_eq_false_iff_not] at h
    rw [List.append_assoc, List.cons_append, hasPort_of_bracket hrest', decide_eq_true_eq, Open]
    cases rest with
    | nil => simp [defaultPort]
    | cons c rest =>
      have hcolon : c ≠ ':' := by simpa using h
      have hback : (front ++ ']' :: c :: rest).getLast? = (c :: rest).getLast? := by
        rw [List.getLast?_append, List.getLast?_cons_cons,
          List.getLast?_eq_some_getLast (List.cons_ne_nil c rest)]
        rfl
      have hlast : (c :: rest).getLast? ≠ some ']' :=
        fun hlast => hrest (List.mem_of_getLast? hlast)
      simp [hcolon, hback, hlast]
  · have hcolon : ':' ∈ defaultPort.toList := by decide
    have hnone : ']' ∉ defaultPort.toList := by decide
    simp [hasPort, Open, hbracket, hcolon, hnone]

theorem hasPort_withPort_iff {address : String} (h : hasPort address.toList = false) :
    withPort (withPort address) = withPort address ↔ Open address.toList := by
  have hlist : (withPort address).toList = address.toList ++ defaultPort.toList := by
    rw [withPort_of_not_hasPort h, String.toList_append]
  rw [← hasPort_append_iff h, ← hlist]
  constructor
  · intro hfix
    cases hport : hasPort (withPort address).toList with
    | true => rfl
    | false =>
      rw [withPort_of_not_hasPort hport] at hfix
      have hlength := congrArg String.length hfix
      rw [String.length_append] at hlength
      have hdefault : defaultPort.length = 4 := rfl
      omega
  · exact withPort_of_hasPort

theorem length_defaultPort : (Bytes.ofString defaultPort).length = 4 := by
  rw [Bytes.ofString_eq]
  rfl

theorem length_withPort_le (address : String) :
    (Bytes.ofString (withPort address)).length ≤ (Bytes.ofString address).length + 4 := by
  unfold withPort
  split
  · omega
  · rw [Bytes.ofString_append, List.length_append, length_defaultPort]

theorem length_withPort {address : String} (h : hasPort address.toList = false) :
    (Bytes.ofString (withPort address)).length = (Bytes.ofString address).length + 4 := by
  rw [withPort_of_not_hasPort h, Bytes.ofString_append, List.length_append, length_defaultPort]

theorem payload?_text (st : Stamp) : payload? st.text = some (Text.Base64Url.encode st.bytes) := by
  rw [payload?, text, String.toList_append, Text.stripIgnoringCase?_append, Option.map_some,
    String.ofList_toList]

theorem ofText_text (st : Stamp) : ofText st.text = ofBytes st.bytes := by
  unfold ofText
  rw [payload?_text]
  simp only [Text.Base64Url.decode_encode]

theorem bytes_eq (st : Stamp) :
    st.bytes = protocol :: (Bytes.ofNatLE 8 st.props.toNat ++
      layout (Bytes.ofString st.address) st.providerKey.bytes
        (Bytes.ofString st.providerName)) := by
  simp only [bytes, layout, List.cons_append, List.append_assoc]

/-- Both texts of a stamp are there, and a length byte can tell how long they are. -/
structure Fits (st : Stamp) : Prop where
  address_ne : st.address ≠ ""
  address_lt : (Bytes.ofString st.address).length < 256
  name_ne : st.providerName ≠ ""
  name_lt : (Bytes.ofString st.providerName).length < 256

theorem Fits.fields_bytes {st : Stamp} (h : st.Fits) :
    fields st.bytes =
      .ok (st.props, Bytes.ofString st.address, st.providerKey.bytes,
        Bytes.ofString st.providerName) := by
  have hkey : st.providerKey.bytes.length < 256 := by
    rw [st.providerKey.length_bytes]
    omega
  rw [bytes_eq, fields_layout st.props h.address_lt hkey h.name_lt]

theorem Fits.ofText_text {st : Stamp} (h : st.Fits) :
    ofText st.text = .ok { st with address := withPort st.address } := by
  rw [Stamp.ofText_text]
  exact ofBytes_of_parts ⟨h.fields_bytes, rfl, h.address_ne, h.name_ne⟩

theorem ofText_text_ne {st : Stamp} (h : 256 ≤ (Bytes.ofString st.address).length)
    (hlt : (Bytes.ofString st.address).length < 260) : ofText st.text ≠ .ok st := by
  intro hread
  rw [ofText_text] at hread
  obtain ⟨address, hparts⟩ := parts_of_ofBytes hread
  obtain ⟨hbytes, haddress, -, -⟩ := layout_of_fields hparts.fields
  rw [bytes_eq, List.cons_inj_right, List.append_cancel_left_eq] at hbytes
  have hlength := length_mod_of_layout hbytes
  have hgrown := length_withPort_le address
  rw [← hparts.address_eq] at hgrown
  omega

def Carries (s address : String) : Prop :=
  ∃ payload b props key name, payload? s = some payload ∧
    Text.Base64Url.decode (Bytes.ofString payload) = .ok b ∧
    fields b = .ok (props, Bytes.ofString address, key, name)

theorem Fits.carries {st : Stamp} (h : st.Fits) : Carries st.text st.address := by
  have hdecode : Text.Base64Url.decode (Bytes.ofString (Text.Base64Url.encode st.bytes)) =
      .ok st.bytes := by
    simp only [Text.Base64Url.decode_encode]
  exact ⟨_, _, _, _, _, payload?_text st, hdecode, h.fields_bytes⟩

theorem parts_of_ofText {s : String} {st : Stamp} (h : ofText s = .ok st) :
    ∃ payload b address, payload? s = some payload ∧
      Text.Base64Url.decode (Bytes.ofString payload) = .ok b ∧
      Parts b st address := by
  unfold ofText at h
  split at h
  · next payload hpayload =>
    split at h
    · next b hdecode =>
      obtain ⟨address, hparts⟩ := parts_of_ofBytes h
      exact ⟨payload, b, address, hpayload, hdecode, hparts⟩
    · cases h
  · cases h

/--
A stamp is read back from its text just if its address came with a port, or if there is room for one
behind it and the port is found there again.
-/
theorem ofText_text_iff {s : String} {st : Stamp} (h : ofText s = .ok st) :
    ∃ address, Carries s address ∧ st.address = withPort address ∧
      (ofText st.text = .ok st ↔
        hasPort address.toList = true ∨ (Bytes.ofString address).length ≤ 251 ∧
          Open address.toList) := by
  obtain ⟨payload, b, address, hpayload, hdecode, hparts⟩ := parts_of_ofText h
  obtain ⟨-, haddress, -, hname⟩ := layout_of_fields hparts.fields
  refine ⟨address, ⟨payload, b, _, _, _, hpayload, hdecode, hparts.fields⟩, hparts.address_eq, ?_⟩
  cases hport : hasPort address.toList with
  | true =>
    have hsame : st.address = address := by rw [hparts.address_eq, withPort_of_hasPort hport]
    have hfits : st.Fits := ⟨hsame ▸ hparts.address_ne, hsame ▸ haddress, hparts.name_ne, hname⟩
    have hread := hfits.ofText_text
    rw [hsame, withPort_of_hasPort hport, ← hsame] at hread
    simp [hread]
  | false =>
    have hlength : (Bytes.ofString st.address).length = (Bytes.ofString address).length + 4 := by
      rw [hparts.address_eq, length_withPort hport]
    by_cases hroom : (Bytes.ofString address).length ≤ 251
    · have hne : st.address ≠ "" := by
        intro hempty
        rw [hempty, Bytes.ofString_eq] at hlength
        exact Nat.succ_ne_zero _ hlength.symm
      have hfits : st.Fits := ⟨hne, by omega, hparts.name_ne, hname⟩
      have hsame : ofText st.text = .ok st ↔ withPort st.address = st.address := by
        rw [hfits.ofText_text, Except.ok.injEq]
        cases st
        simp
      rw [hsame, hparts.address_eq, hasPort_withPort_iff hport]
      simp [hroom]
    · have hread : ofText st.text ≠ .ok st := ofText_text_ne (by omega) (by omega)
      simp [hread, hroom]

def pointingAt (address : String) : Stamp := ⟨0, address, .zero 32, "2.dnscrypt-cert.example"⟩

theorem fits_pointingAt (cs : List Char) (hne : cs ≠ []) (hascii : ∀ c ∈ cs, c.toNat < 128)
    (hlt : cs.length < 256) : (pointingAt (String.ofList cs)).Fits where
  address_ne := by simpa [pointingAt] using hne
  address_lt := by
    rw [pointingAt, Bytes.ofString_of_ascii hascii, List.length_map]
    exact hlt
  name_ne := of_decide_eq_true rfl
  name_lt := by
    have hlength : (Bytes.ofString "2.dnscrypt-cert.example").length = 23 := by
      rw [Bytes.ofString_eq]
      rfl
    simp [pointingAt, hlength]

theorem ofText_text_iff_bracketed :
    ∃ address, Carries (pointingAt "[2001:db8::1]").text address ∧
      withPort "[2001:db8::1]" = withPort address ∧
      (ofText (pointingAt (withPort "[2001:db8::1]")).text =
        .ok (pointingAt (withPort "[2001:db8::1]")) ↔
        hasPort address.toList = true ∨ (Bytes.ofString address).length ≤ 251 ∧
        Open address.toList) :=
  ofText_text_iff
    (fits_pointingAt "[2001:db8::1]".toList (by decide) (by simp) (by decide)).ofText_text

theorem not_read_back_of_long {cs : List Char} (hascii : ∀ c ∈ cs, c.toNat < 128)
    (hport : hasPort cs = false) (hlong : 252 ≤ cs.length) (hlt : cs.length < 256) :
    ∃ st, ofText (pointingAt (String.ofList cs)).text = .ok st ∧ ofText st.text ≠ .ok st := by
  have hne : cs ≠ [] := by
    intro hnil
    simp [hnil] at hlong
  have hlist : hasPort (String.ofList cs).toList = false := by rw [String.toList_ofList, hport]
  have hlength := length_withPort hlist
  rw [Bytes.ofString_of_ascii hascii, List.length_map] at hlength
  refine ⟨_, (fits_pointingAt cs hne hascii hlt).ofText_text, ofText_text_ne ?_ ?_⟩
  · simp only [pointingAt]
    omega
  · simp only [pointingAt]
    omega

/-- No room for the port behind the first address; behind the second, it is not found again. -/
theorem not_read_back :
    (∃ st, ofText (pointingAt (String.ofList (List.replicate 252 'a'))).text = .ok st ∧
      ofText st.text ≠ .ok st) ∧
      ∃ st, ofText (pointingAt "[::1]x").text = .ok st ∧ ofText st.text ≠ .ok st := by
  constructor
  · have hascii : ∀ c ∈ List.replicate 252 'a', c.toNat < 128 := by
      intro c hc
      rw [List.eq_of_mem_replicate hc]
      decide
    exact not_read_back_of_long hascii (by decide +kernel) (by decide +kernel) (by decide +kernel)
  · have hread := (fits_pointingAt "[::1]x".toList (by decide) (by simp) (by decide)).ofText_text
    have hagain :=
      (fits_pointingAt "[::1]x:443".toList (by decide) (by simp) (by decide)).ofText_text
    refine ⟨_, hread, fun hsame => ?_⟩
    have hstamp := hagain.symm.trans hsame
    revert hstamp
    decide

end DnsCrypt.Stamp

end StubResolver
