import StubResolver.Proofs.Scheme

set_option autoImplicit false

namespace StubResolver.DnsCrypt.Stamp

open Text (Behind)

def PortGiven (address : List Char) : Prop :=
  (∃ front port, address = front ++ ']' :: ':' :: port ∧ ']' ∉ port) ∨ ']' ∉ address ∧ ':' ∈ address

theorem hasPort_iff {address : List Char} : hasPort address = true ↔ PortGiven address := by
  by_cases hbracket : ']' ∈ address
  · obtain ⟨front, rest, rfl, hrest⟩ := exists_last_bracket hbracket
    rw [hasPort_of_bracket hrest, decide_eq_true_eq]
    constructor
    · intro hcolon
      obtain ⟨port, rfl⟩ := List.head?_eq_some_iff.1 hcolon
      exact .inl ⟨front, port, rfl, fun hmem => hrest (List.mem_cons_of_mem _ hmem)⟩
    · rintro (⟨front', port, heq, hport⟩ | ⟨hnone, -⟩)
      · -- The two ways to cut the address are told apart by what is found behind the last bracket.
        have hport' : ']' ∉ ':' :: port := by simp [hport]
        have hsame : hasPort (front ++ ']' :: rest) = decide (rest.head? = some ':') :=
          hasPort_of_bracket hrest
        rw [heq, hasPort_of_bracket hport'] at hsame
        simpa using hsame.symm
      · exact absurd hbracket hnone
  · rw [hasPort, if_neg (by simpa using hbracket), List.contains_iff_mem]
    constructor
    · intro hcolon
      exact .inr ⟨hbracket, hcolon⟩
    · rintro (⟨front, port, rfl, -⟩ | ⟨-, hcolon⟩)
      · simp at hbracket
      · exact hcolon

def Prefixed (field b : Bytes) : Prop := ∃ n : UInt8, n.toNat = field.length ∧ b = n :: field

theorem prefixed_iff {field b : Bytes} :
    Prefixed field b ↔ field.length < 256 ∧ b = encodeField field := by
  constructor
  · rintro ⟨n, hn, rfl⟩
    refine ⟨hn ▸ n.toNat_lt, ?_⟩
    rw [encodeField, ← hn, UInt8.ofNat_toNat]
  · rintro ⟨hlength, rfl⟩
    exact ⟨UInt8.ofNat field.length, UInt8.toNat_ofNat_of_lt hlength, rfl⟩

def LaidOut (st : Stamp) (address : String) (b : Bytes) : Prop :=
  ∃ props a k p, b = 0x01 :: (props ++ (a ++ (k ++ p))) ∧ props.length = 8 ∧
    st.props.toNat = Bytes.toNatLE props ∧
    Prefixed (Bytes.ofString address) a ∧ Prefixed st.providerKey.bytes k ∧
      Prefixed (Bytes.ofString st.providerName) p

theorem laidOut_iff {st : Stamp} {address : String} {b : Bytes} :
    LaidOut st address b ↔ (Bytes.ofString address).length < 256 ∧
      (Bytes.ofString st.providerName).length < 256 ∧
      b = protocol :: (Bytes.ofNatLE 8 st.props.toNat ++
        layout (Bytes.ofString address) st.providerKey.bytes (Bytes.ofString st.providerName)) := by
  constructor
  · rintro ⟨props, a, k, p, rfl, hsize, hprops, ha, hk, hp⟩
    obtain ⟨haddress, rfl⟩ := prefixed_iff.1 ha
    obtain ⟨-, rfl⟩ := prefixed_iff.1 hk
    obtain ⟨hname, rfl⟩ := prefixed_iff.1 hp
    refine ⟨haddress, hname, ?_⟩
    rw [hprops, ← hsize, Bytes.ofNatLE_toNatLE]
    rfl
  · rintro ⟨haddress, hname, rfl⟩
    have hkey : st.providerKey.bytes.length < 256 := by
      rw [st.providerKey.length_bytes]
      decide
    have hprops : st.props.toNat < 256 ^ 8 := st.props.toNat_lt
    refine ⟨_, _, _, _, rfl, Bytes.length_ofNatLE 8 _, ?_, prefixed_iff.2 ⟨haddress, rfl⟩,
      prefixed_iff.2 ⟨hkey, rfl⟩, prefixed_iff.2 ⟨hname, rfl⟩⟩
    rw [Bytes.toNatLE_ofNatLE, Nat.mod_eq_of_lt hprops]

theorem fields_eq_ok_iff {st : Stamp} {address : String} {b : Bytes} :
    fields b = .ok (st.props, Bytes.ofString address, st.providerKey.bytes,
      Bytes.ofString st.providerName) ↔
      LaidOut st address b := by
  rw [laidOut_iff]
  constructor
  · intro h
    obtain ⟨hb, haddress, -, hname⟩ := layout_of_fields h
    exact ⟨haddress, hname, hb⟩
  · rintro ⟨haddress, hname, rfl⟩
    have hkey : st.providerKey.bytes.length < 256 := by
      rw [st.providerKey.length_bytes]
      decide
    exact fields_layout st.props haddress hkey hname

/-- The text is that of a stamp, with this scheme in front and with this address in it. -/
structure Spells (s scheme address : String) (st : Stamp) : Prop where
  scheme_eq : scheme.toList.map Char.toLower = "sdns://".toList
  payload : ∃ b, s = scheme ++ Text.Base64Url.encode b ∧ LaidOut st address b
  address_ne : address ≠ ""
  name_ne : st.providerName ≠ ""
  with_port : PortGiven address.toList → st.address = address
  without_port : ¬ PortGiven address.toList → st.address = address ++ ":443"

theorem eq_withPort_iff {address address' : String} :
    address' = withPort address ↔
      (PortGiven address.toList → address' = address) ∧
        (¬ PortGiven address.toList → address' = address ++ ":443") := by
  rw [← hasPort_iff]
  cases hport : hasPort address.toList with
  | true => simp [withPort_of_hasPort hport]
  | false => simp [withPort_of_not_hasPort hport, defaultPort]

theorem payload?_eq_some_iff {s rest : String} :
    payload? s = some rest ↔ Behind "sdns://" s rest := by
  rw [← Text.stripIgnoringCase?_iff_behind (by decide), payload?, scheme, Option.map_eq_some_iff]
  constructor
  · rintro ⟨cs, hcs, rfl⟩
    rw [hcs, String.toList_ofList]
  · intro h
    exact ⟨_, h, String.ofList_toList⟩

theorem ofText_eq_ok_iff {s : String} {st : Stamp} :
    ofText s = .ok st ↔ ∃ scheme address, Spells s scheme address st := by
  constructor
  · intro h
    obtain ⟨payload, b, address, hpayload, hdecode, hparts⟩ := parts_of_ofText h
    obtain ⟨scheme, hs, hscheme⟩ := payload?_eq_some_iff.1 hpayload
    rw [Text.Base64Url.decode_eq_ok_iff.1 hdecode] at hs
    obtain ⟨hported, hportless⟩ := eq_withPort_iff.1 hparts.address_eq
    exact ⟨scheme, address, hscheme, ⟨b, hs, fields_eq_ok_iff.1 hparts.fields⟩,
      hparts.address_ne, hparts.name_ne, hported, hportless⟩
  · rintro ⟨scheme, address, h⟩
    obtain ⟨b, hs, hlaid⟩ := h.payload
    have hbehind : Behind "sdns://" s (Text.Base64Url.encode b) := ⟨scheme, hs, h.scheme_eq⟩
    have hparts : Parts b st address :=
      ⟨fields_eq_ok_iff.2 hlaid, eq_withPort_iff.2 ⟨h.with_port, h.without_port⟩,
        h.address_ne, h.name_ne⟩
    rw [ofText_of_behind hbehind, Text.Base64Url.decode_encode]
    exact ofBytes_of_parts hparts

theorem Fits.ofText_text_of_port {st : Stamp} (h : st.Fits) (hport : PortGiven st.address.toList) :
    ofText st.text = .ok st := by
  rw [h.ofText_text, withPort_of_hasPort (hasPort_iff.2 hport)]

theorem Spells.text_eq {s scheme address : String} {st : Stamp} (h : Spells s scheme address st)
    (hport : PortGiven address.toList) :
    ∃ payload, s = scheme ++ payload ∧ st.text = "sdns://" ++ payload := by
  obtain ⟨b, hs, hlaid⟩ := h.payload
  obtain ⟨-, -, hb⟩ := laidOut_iff.1 hlaid
  have hbytes : st.bytes = b := by rw [bytes_eq, h.with_port hport, hb]
  exact ⟨Text.Base64Url.encode b, hs, by rw [text, hbytes, Stamp.scheme]⟩

/--
Exactly the texts of the grammar are read, as the stamps that they spell. A stamp that fits, with a
port in its address, is read back from its text, and what is read with a port is written again as it
was, but for the case of the scheme.
-/
theorem reads_grammar :
    (∀ s st, ofText s = .ok st ↔ ∃ scheme address, Spells s scheme address st) ∧
    (∀ st : Stamp, st.Fits → PortGiven st.address.toList → ofText st.text = .ok st) ∧
    ∀ s scheme address st, Spells s scheme address st → PortGiven address.toList →
      ∃ payload, s = scheme ++ payload ∧ st.text = "sdns://" ++ payload :=
  ⟨fun _ _ => ofText_eq_ok_iff, fun _ h hport => h.ofText_text_of_port hport,
    fun _ _ _ _ h hport => h.text_eq hport⟩

/-- A stamp with an address in brackets, written with a scheme in mixed case. -/
theorem reads_grammar_mixed_case :
    let st := pointingAt "[2001:db8::1]:8443"
    let s := "sDnS://" ++ Text.Base64Url.encode st.bytes
    st.Fits ∧ PortGiven st.address.toList ∧ ofText st.text = .ok st ∧
      Spells s "sDnS://" st.address st ∧
      ofText s = .ok st ∧ ∃ payload, s = "sDnS://" ++ payload ∧ st.text = "sdns://" ++ payload := by
  intro st s
  obtain ⟨hreads, hback, hagain⟩ := reads_grammar
  have hfits : st.Fits :=
    fits_pointingAt "[2001:db8::1]:8443".toList (by decide) (by simp) (by decide)
  have hport : PortGiven st.address.toList :=
    .inl ⟨"[2001:db8::1".toList, "8443".toList, by decide, by decide⟩
  have hlaid : LaidOut st st.address st.bytes :=
    laidOut_iff.2 ⟨hfits.address_lt, hfits.name_lt, bytes_eq st⟩
  have hspells : Spells s "sDnS://" st.address st :=
    ⟨by decide, ⟨_, rfl, hlaid⟩, hfits.address_ne, hfits.name_ne, fun _ => rfl,
      fun hnone => absurd hport hnone⟩
  exact ⟨hfits, hport, hback st hfits hport, hspells, (hreads s st).2 ⟨_, _, hspells⟩,
    hagain _ _ _ _ hspells hport⟩

end StubResolver.DnsCrypt.Stamp
