import Mathlib.Data.List.Basic
import Mathlib.Data.List.TakeWhile
import StubResolver.IpAddress
import StubResolver.Proofs.Bytes
import StubResolver.Proofs.Text

set_option autoImplicit false

namespace StubResolver

def IpAddress.IsPart (c : Char) : Prop := c = '.' ∨ c = ':' ∨ (Text.hexDigit? c).isSome = true

namespace Ipv4

def octetText (x : UInt8) : List Char := (toString x.toNat).toList

theorem octet_spec (n : Nat) (h : n < 256) :
    octet? (toString n).toList = some (UInt8.ofNat n) ∧ '.' ∉ (toString n).toList ∧
      1 ≤ (toString n).toList.length := by
  decide +kernel +revert

theorem octet?_octetText (x : UInt8) : octet? (octetText x) = some x := by
  rw [octetText, (octet_spec x.toNat x.toNat_lt).1, UInt8.ofNat_toNat]

theorem toList_text (ip : Ipv4) :
    ip.text.toList = ['.'].intercalate
      [octetText ip.a, octetText ip.b, octetText ip.c, octetText ip.d] := by
  rw [text, String.toList_intercalate]
  rfl

theorem ofText?_text (ip : Ipv4) : ofText? ip.text.toList = some ip := by
  have hdot : ∀ f ∈ [octetText ip.a, octetText ip.b, octetText ip.c, octetText ip.d], '.' ∉ f := by
    simp only [List.forall_mem_cons]
    exact ⟨(octet_spec _ ip.a.toNat_lt).2.1, (octet_spec _ ip.b.toNat_lt).2.1,
      (octet_spec _ ip.c.toNat_lt).2.1, (octet_spec _ ip.d.toNat_lt).2.1, fun _ h => nomatch h⟩
  rw [ofText?, toList_text, List.splitOn_intercalate '.' hdot (List.cons_ne_nil _ _)]
  simp [List.mapM_cons, octet?_octetText, ofBytes?]

theorem digit_of_octet? {cs : List Char} (h : (octet? cs).isSome = true) :
    ∀ c ∈ cs, (Text.decimalDigit? c).isSome = true := by
  unfold octet? at h
  split at h
  · cases h
  · cases hdigits : Text.digits? Text.decimalDigit? 10 0 cs with
    | none =>
      rw [hdigits] at h
      cases h
    | some n => exact Text.digit_of_digits? hdigits

theorem octets_of_mapM {fs : List (List Char)} {b : Bytes} (h : fs.mapM octet? = some b) :
    ∀ f ∈ fs, (octet? f).isSome = true := by
  induction fs generalizing b with
  | nil => simp
  | cons f fs ih =>
    rw [List.mapM_cons] at h
    obtain ⟨x, hx, h⟩ := Option.bind_eq_some_iff.1 h
    obtain ⟨r, hr, -⟩ := Option.bind_eq_some_iff.1 h
    simp only [List.forall_mem_cons, hx, Option.isSome_some, true_and]
    exact ih hr

theorem digit_of_ofText? {cs : List Char} {ip : Ipv4} (h : ofText? cs = some ip) :
    ∀ c ∈ cs, c = '.' ∨ (Text.decimalDigit? c).isSome = true := by
  intro c hc
  obtain ⟨b, hb, -⟩ := Option.bind_eq_some_iff.1 h
  refine (Text.mem_splitOn hc).imp id fun hfield => ?_
  obtain ⟨f, hf, hcf⟩ := hfield
  exact digit_of_octet? (octets_of_mapM hb f hf) c hcf

theorem colon_not_mem {cs : List Char} {ip : Ipv4} (h : ofText? cs = some ip) : ':' ∉ cs := by
  intro hcolon
  cases digit_of_ofText? h ':' hcolon with
  | inl hdot => exact absurd hdot (by decide)
  | inr hdigit => exact absurd hdigit (by decide)

theorem length_text (ip : Ipv4) : 4 < ip.text.toList.length := by
  have ha := (octet_spec _ ip.a.toNat_lt).2.2
  have hb := (octet_spec _ ip.b.toNat_lt).2.2
  have hc := (octet_spec _ ip.c.toNat_lt).2.2
  have hd := (octet_spec _ ip.d.toNat_lt).2.2
  rw [toList_text]
  simp only [List.intercalate_cons_cons, List.intercalate_singleton, List.length_append, octetText,
    List.length_singleton]
  omega

end Ipv4

namespace Ipv6

theorem group?_hex (g : UInt16) : group? (Nat.toDigits 16 g.toNat) = some g := by
  have hlength : (Nat.toDigits 16 g.toNat).length ≤ 4 :=
    (Nat.length_toDigits_le_iff (by decide) (by decide)).2 g.toNat_lt
  have hempty : (Nat.toDigits 16 g.toNat).isEmpty = false := by simp [Nat.toDigits_ne_nil]
  rw [group?, if_neg (by simp [hempty, hlength]), Text.digits?_toDigits, Option.map_some,
    UInt16.ofNat_toNat]

theorem digit_of_hex (n : Nat) : ∀ c ∈ Nat.toDigits 16 n, (Text.hexDigit? c).isSome = true :=
  Text.digit_of_digits? (Text.digits?_toDigits n)

def hexFields (gs : List UInt16) : List (List Char) := gs.map fun g => Nat.toDigits 16 g.toNat

theorem toList_hexGroups (gs : List UInt16) :
    (hexGroups gs).toList = [':'].intercalate (hexFields gs) := by
  rw [hexGroups, String.toList_intercalate, List.map_map, hexFields]
  simp [Text.lowerHex, Function.comp_def]

/-- Fields that can be told apart when colons stand between them. -/
def Separable (fs : List (List Char)) : Prop := ∀ f ∈ fs, f ≠ [] ∧ ':' ∉ f

theorem separable_hexFields (gs : List UInt16) : Separable (hexFields gs) := by
  intro f hf
  obtain ⟨g, -, hg⟩ := List.mem_map.1 hf
  refine ⟨hg ▸ Nat.toDigits_ne_nil, fun hcolon => ?_⟩
  have hdigit := digit_of_hex g.toNat ':' (hg ▸ hcolon)
  revert hdigit
  decide

theorem splitDoubleColon?_append {f : List Char} (h : ':' ∉ f) (r : List Char) :
    splitDoubleColon? (f ++ r) = (splitDoubleColon? r).map fun p => (f ++ p.1, p.2) := by
  induction f with
  | nil => simp
  | cons c f ih =>
    rw [List.mem_cons, not_or] at h
    rw [List.cons_append, splitDoubleColon?, ih h.2, Option.map_map]
    · rfl
    · exact fun r' hc _ => h.1 hc.symm

theorem splitDoubleColon?_colon {c : Char} (h : c ≠ ':') (r : List Char) :
    splitDoubleColon? (':' :: c :: r) = (splitDoubleColon? (c :: r)).map fun p =>
      (':' :: p.1, p.2) := by
  rw [splitDoubleColon?]
  exact fun r' _ hc => h (List.cons.inj hc).1

theorem intercalate_eq_cons {f : List Char} {fs : List (List Char)} (h : Separable (f :: fs)) :
    ∃ c r, c ≠ ':' ∧ [':'].intercalate (f :: fs) = c :: r := by
  obtain ⟨hne, hcolon⟩ := h f List.mem_cons_self
  cases f with
  | nil => exact absurd rfl hne
  | cons c f =>
    rw [List.mem_cons, not_or] at hcolon
    have hc : c ≠ ':' := Ne.symm hcolon.1
    cases fs with
    | nil => exact ⟨c, f, hc, List.intercalate_singleton⟩
    | cons g fs =>
      refine ⟨c, f ++ [':'] ++ [':'].intercalate (g :: fs), hc, ?_⟩
      rw [List.intercalate_cons_cons]
      rfl

/-- Two colons in a row are found behind the fields only. -/
theorem splitDoubleColon?_intercalate {fs : List (List Char)} (h : Separable fs) (r : List Char) :
    splitDoubleColon? ([':'].intercalate fs ++ r) =
      (splitDoubleColon? r).map fun p => ([':'].intercalate fs ++ p.1, p.2) := by
  induction fs with
  | nil => simp [List.intercalate]
  | cons f fs ih =>
    have hf := h f List.mem_cons_self
    cases fs with
    | nil => rw [List.intercalate_singleton, splitDoubleColon?_append hf.2]
    | cons g fs =>
      have hrest : Separable (g :: fs) := fun x hx => h x (List.mem_cons_of_mem f hx)
      have hsplit := ih hrest
      obtain ⟨c, t, hc, ht⟩ := intercalate_eq_cons hrest
      rw [ht] at hsplit
      rw [List.intercalate_cons_cons, ht, List.append_assoc, List.append_assoc,
        splitDoubleColon?_append hf.2, List.singleton_append, List.cons_append,
        splitDoubleColon?_colon hc, ← List.cons_append, hsplit]
      cases splitDoubleColon? r <;> simp

theorem colonFields_intercalate {fs : List (List Char)} (h : Separable fs) :
    colonFields ([':'].intercalate fs) = fs := by
  cases fs with
  | nil => rfl
  | cons f fs =>
    obtain ⟨c, r, -, hr⟩ := intercalate_eq_cons h
    have hfields := List.splitOn_intercalate ':' (fun g hg => (h g hg).2) (List.cons_ne_nil f fs)
    rw [hr] at hfields
    rw [colonFields, hr, if_neg (by simp), hfields]

theorem groups?_hexFields (tail : Bool) (gs : List UInt16) :
    groups? tail (hexFields gs) = some gs := by
  induction gs with
  | nil => rfl
  | cons g gs ih =>
    have hg := group?_hex g
    cases gs with
    | nil =>
      rw [hexFields, List.map_singleton, groups?, hg]
    | cons g' gs =>
      simp only [hexFields, List.map_cons] at ih ⊢
      rw [groups?, hg, ih]
      exact List.cons_ne_nil _ _

theorem ofText?_of_split {cs f b : List Char} {front back : List UInt16} {n : Nat} {ip : Ipv6}
    (hsplit : splitDoubleColon? cs = some (f, b))
    (hfront : groups? false (colonFields f) = some front)
    (hback : groups? true (colonFields b) = some back) (hn : 0 < n)
    (h : front ++ List.replicate n 0 ++ back = ip.groups) : ofText? cs = some ip := by
  have hlength := congrArg List.length h
  rw [List.length_append, List.length_append, List.length_replicate] at hlength
  have height : ip.groups.length = 8 := rfl
  have hzeros : 8 - front.length - back.length = n := by omega
  have hroom : front.length + back.length ≤ 7 := by omega
  rw [ofText?, hsplit]
  simp only [hfront, hback, Option.bind_eq_bind, Option.bind_some]
  rw [if_pos hroom, hzeros, h]
  rfl

theorem ofText?_groups (ip : Ipv6) :
    ofText? ([':'].intercalate (hexFields ip.groups)) = some ip := by
  have hsplit := splitDoubleColon?_intercalate (separable_hexFields ip.groups) []
  rw [List.append_nil] at hsplit
  rw [ofText?, hsplit, splitDoubleColon?]
  simp only [Option.map_none, colonFields_intercalate (separable_hexFields _), groups?_hexFields,
    Option.bind_eq_bind, Option.bind_some]
  rfl

theorem longestZeros_spec (start : Nat) (gs : List UInt16) :
    ∃ front back, gs = front ++ List.replicate (longestZeros start gs).2 0 ++ back ∧
      (longestZeros start gs).1 = start + front.length := by
  induction gs generalizing start with
  | nil => exact ⟨[], [], rfl, rfl⟩
  | cons g gs ih =>
    rw [longestZeros]
    split
    · obtain ⟨front, back, hgs, hstart⟩ := ih (start + 1)
      refine ⟨g :: front, back, ?_, ?_⟩
      · rw [List.cons_append, List.cons_append, ← hgs]
      · rw [hstart, List.length_cons]
        omega
    · refine ⟨[], (g :: gs).dropWhile (· = 0), ?_, rfl⟩
      have hzeros : (g :: gs).takeWhile (· = 0) =
          List.replicate ((g :: gs).takeWhile (· = 0)).length 0 := by
        refine List.eq_replicate_of_mem fun x hx => ?_
        simpa using List.mem_takeWhile_imp hx
      rw [List.nil_append, ← hzeros, List.takeWhile_append_dropWhile]

theorem ofText?_groupText (ip : Ipv6) : ofText? ip.groupText.toList = some ip := by
  obtain ⟨front, back, hgroups, hstart⟩ := longestZeros_spec 0 ip.groups
  rw [groupText]
  generalize longestZeros 0 ip.groups = run at hgroups hstart ⊢
  obtain ⟨i, n⟩ := run
  dsimp only at hgroups hstart ⊢
  rw [Nat.zero_add] at hstart
  split
  · rw [toList_hexGroups, ofText?_groups]
  · next hrun =>
    have hlength : (front ++ List.replicate n 0).length = i + n := by
      rw [List.length_append, List.length_replicate, hstart]
    have hfront : ip.groups.take i = front := by
      rw [hgroups, hstart, List.append_assoc, List.take_left]
    have hback : ip.groups.drop (i + n) = back := by rw [hgroups, List.drop_left' hlength]
    have hcolons : "::".toList = [':', ':'] := rfl
    have hsplit := splitDoubleColon?_intercalate (separable_hexFields front)
      (':' :: ':' :: [':'].intercalate (hexFields back))
    rw [splitDoubleColon?, Option.map_some, List.append_nil] at hsplit
    rw [hfront, hback, String.toList_append, String.toList_append, toList_hexGroups,
      toList_hexGroups, hcolons, List.append_assoc]
    refine ofText?_of_split hsplit ?_ ?_ (by omega) hgroups.symm
    · rw [colonFields_intercalate (separable_hexFields front), groups?_hexFields]
    · rw [colonFields_intercalate (separable_hexFields back), groups?_hexFields]

theorem groups_of_mapped {ip : Ipv6} {v4 : Ipv4} (h : ip.mapped? = some v4) :
    [] ++ List.replicate 5 0 ++ (0xffff :: v4.groups) = ip.groups := by
  obtain ⟨a, b, hab⟩ := List.length_eq_two.1 (Bytes.length_ofUInt16 ip.g6)
  obtain ⟨c, d, hcd⟩ := List.length_eq_two.1 (Bytes.length_ofUInt16 ip.g7)
  rw [mapped?, hab, hcd] at h
  split at h
  · next hfront =>
    obtain ⟨hzeros, hmark⟩ := hfront
    cases h
    rw [Ipv4.groups, ← hab, ← hcd, Bytes.toUInt16_ofUInt16, Bytes.toUInt16_ofUInt16, ← hmark]
    simp only [List.cons.injEq, and_true] at hzeros
    obtain ⟨h0, h1, h2, h3, h4⟩ := hzeros
    simp [groups, h0, h1, h2, h3, h4]
  · cases h

theorem toList_mapped (v4 : Ipv4) :
    ("::ffff:" ++ v4.text).toList = ':' :: ':' :: ("ffff".toList ++ ':' :: v4.text.toList) := by
  rw [String.toList_append]
  rfl

theorem groups?_mapped (v4 : Ipv4) :
    groups? true ["ffff".toList, v4.text.toList] = some (0xffff :: v4.groups) := by
  have hgroup : group? v4.text.toList = none := by
    have hlength := Ipv4.length_text v4
    rw [group?, if_pos]
    simp [hlength]
  have hmark : group? "ffff".toList = some 0xffff := by decide
  rw [groups?, groups?, hmark, hgroup, Ipv4.ofText?_text]
  · rfl
  · exact List.cons_ne_nil _ _

theorem ofText?_mapped {ip : Ipv6} {v4 : Ipv4} (h : ip.mapped? = some v4) :
    ofText? ("::ffff:" ++ v4.text).toList = some ip := by
  have hcolon : ':' ∉ "ffff".toList := by decide
  have hback := Ipv4.colon_not_mem (Ipv4.ofText?_text v4)
  have hfields : colonFields ("ffff".toList ++ ':' :: v4.text.toList) =
      ["ffff".toList, v4.text.toList] := by
    rw [colonFields, if_neg (by simp), List.splitOn_append_cons_self_of_not_mem hcolon,
      List.splitOn_eq_singleton hback]
  rw [toList_mapped]
  refine ofText?_of_split (by rw [splitDoubleColon?]) rfl ?_ (by decide) (groups_of_mapped h)
  rw [hfields, groups?_mapped]

theorem ofText?_text (ip : Ipv6) : ofText? ip.text.toList = some ip := by
  rw [text]
  cases hmapped : ip.mapped? with
  | none => exact ofText?_groupText ip
  | some v4 => exact ofText?_mapped hmapped

theorem ofText?_of_not_mem {cs : List Char} (h : ':' ∉ cs) : ofText? cs = none := by
  have hsplit := splitDoubleColon?_append h []
  rw [List.append_nil, splitDoubleColon?, Option.map_none] at hsplit
  rw [ofText?, hsplit, colonFields, List.splitOn_eq_singleton h]
  cases cs with
  | nil => rfl
  | cons c cs =>
    simp only [List.isEmpty_cons, Bool.false_eq_true, if_false, groups?]
    cases group? (c :: cs) with
    | some g => rfl
    | none => cases Ipv4.ofText? (c :: cs) <;> rfl

theorem append_of_splitDoubleColon? {cs f b : List Char} (h : splitDoubleColon? cs = some (f, b)) :
    cs = f ++ ':' :: ':' :: b := by
  fun_induction splitDoubleColon? cs generalizing f with
  | case1 r =>
    cases h
    rfl
  | case2 c r _ ih =>
    obtain ⟨p, hp, hf⟩ := Option.map_eq_some_iff.1 h
    cases hf
    rw [ih hp, List.cons_append]
  | case3 => cases h

theorem digit_of_group? {cs : List Char} {g : UInt16} (h : group? cs = some g) :
    ∀ c ∈ cs, (Text.hexDigit? c).isSome = true := by
  unfold group? at h
  split at h
  · cases h
  · obtain ⟨n, hn, -⟩ := Option.map_eq_some_iff.1 h
    exact Text.digit_of_digits? hn

theorem isPart_of_groups? {tail : Bool} {fs : List (List Char)} {gs : List UInt16}
    (h : groups? tail fs = some gs) :
    ∀ f ∈ fs, ∀ c ∈ f, IpAddress.IsPart c := by
  fun_induction groups? tail fs generalizing gs with
  | case1 => simp
  | case2 f g hg =>
    intro f' hf' c hc
    rw [List.mem_singleton.1 hf'] at hc
    exact .inr (.inr (digit_of_group? hg c hc))
  | case3 f hg htail =>
    intro f' hf' c hc
    rw [List.mem_singleton.1 hf'] at hc
    obtain ⟨ip, hip, -⟩ := Option.map_eq_some_iff.1 h
    exact (Ipv4.digit_of_ofText? hip c hc).imp id fun hdigit =>
      .inr (Text.hexDigit?_of_decimalDigit? hdigit)
  | case4 => cases h
  | case5 f fs _ g gs hgs hg ih =>
    intro f' hf' c hc
    cases List.mem_cons.1 hf' with
    | inl hf' => exact .inr (.inr (digit_of_group? hg c (hf' ▸ hc)))
    | inr hf' => exact ih hgs f' hf' c hc
  | case6 => cases h

theorem isPart_of_colonFields {tail : Bool} {cs : List Char} {gs : List UInt16}
    (h : groups? tail (colonFields cs) = some gs) : ∀ c ∈ cs, IpAddress.IsPart c := by
  intro c hc
  have hne : cs.isEmpty = false := by
    cases cs with
    | nil => cases hc
    | cons => rfl
  rw [colonFields, hne] at h
  cases Text.mem_splitOn hc with
  | inl hcolon => exact .inr (.inl hcolon)
  | inr hfield =>
    obtain ⟨f, hf, hcf⟩ := hfield
    exact isPart_of_groups? h f hf c hcf

theorem isPart_of_ofText? {cs : List Char} {ip : Ipv6} (h : ofText? cs = some ip) :
    ∀ c ∈ cs, IpAddress.IsPart c := by
  unfold ofText? at h
  split at h
  · obtain ⟨gs, hgs, -⟩ := Option.bind_eq_some_iff.1 h
    exact isPart_of_colonFields hgs
  · next f b hsplit =>
    obtain ⟨front, hfront, h⟩ := Option.bind_eq_some_iff.1 h
    obtain ⟨back, hback, -⟩ := Option.bind_eq_some_iff.1 h
    have hf := isPart_of_colonFields hfront
    have hb := isPart_of_colonFields hback
    rw [append_of_splitDoubleColon? hsplit]
    simp only [List.forall_mem_append, List.forall_mem_cons]
    exact ⟨hf, .inr (.inl rfl), .inr (.inl rfl), hb⟩

theorem length_of_groups? {tail : Bool} {fs : List (List Char)} {gs : List UInt16}
    (h : groups? tail fs = some gs) :
    gs.length ≤ fs.length + 1 := by
  fun_induction groups? tail fs generalizing gs with
  | case1 =>
    cases h
    decide
  | case2 =>
    cases h
    simp
  | case3 =>
    obtain ⟨ip, -, rfl⟩ := Option.map_eq_some_iff.1 h
    simp [Ipv4.groups]
  | case4 => cases h
  | case5 f fs _ g gs hgs hg ih =>
    cases h
    have hrest := ih hgs
    simp only [List.length_cons]
    omega
  | case6 => cases h

theorem two_colons {cs : List Char} {ip : Ipv6} (h : ofText? cs = some ip) : 1 < cs.count ':' := by
  unfold ofText? at h
  split at h
  · obtain ⟨gs, hgs, h⟩ := Option.bind_eq_some_iff.1 h
    have hgroups : gs.length = 8 := by
      unfold ofGroups? at h
      split at h
      · rfl
      · cases h
    have hle := length_of_groups? hgs
    have hfields : (colonFields cs).length ≤ cs.count ':' + 1 := by
      rw [colonFields, ← Text.length_splitOn]
      split
      · exact Nat.zero_le _
      · exact Nat.le_refl _
    omega
  · next front back hsplit =>
    rw [append_of_splitDoubleColon? hsplit]
    simp
    omega

end Ipv6

namespace IpAddress

theorem ofText?_text (ip : IpAddress) : ofText? ip.text = some ip := by
  cases ip with
  | v4 ip => rw [ofText?, ofChars?, text, Ipv4.ofText?_text]
  | v6 ip =>
    have hread := Ipv6.ofText?_text ip
    have hv4 : Ipv4.ofText? ip.text.toList = none := by
      cases hsome : Ipv4.ofText? ip.text.toList with
      | none => rfl
      | some v4 =>
        rw [Ipv6.ofText?_of_not_mem (Ipv4.colon_not_mem hsome)] at hread
        cases hread
    rw [ofText?, ofChars?, text, hv4, hread]
    rfl

theorem text_injective : Function.Injective text := by
  intro ip other h
  have hread := ofText?_text ip
  rw [h, ofText?_text] at hread
  exact (Option.some.inj hread).symm

theorem ofChars?_eq_v6_iff {cs : List Char} {ip : Ipv6} :
    ofChars? cs = some (.v6 ip) ↔ Ipv6.ofText? cs = some ip := by
  unfold ofChars?
  cases hv4 : Ipv4.ofText? cs with
  | none => simp
  | some v4 =>
    rw [Ipv6.ofText?_of_not_mem (Ipv4.colon_not_mem hv4)]
    simp

theorem isPart_of_ofText? {s : String} {ip : IpAddress} (h : ofText? s = some ip) :
    ∀ c ∈ s.toList, IsPart c := by
  unfold ofText? ofChars? at h
  cases hv4 : Ipv4.ofText? s.toList with
  | some ip =>
    intro c hc
    exact (Ipv4.digit_of_ofText? hv4 c hc).imp id fun hdigit =>
      .inr (Text.hexDigit?_of_decimalDigit? hdigit)
  | none =>
    rw [hv4] at h
    obtain ⟨ip, hv6, -⟩ := Option.map_eq_some_iff.1 h
    exact Ipv6.isPart_of_ofText? hv6

theorem not_isBlank_of_isPart {c : Char} (h : IsPart c) : Text.isBlank c = false := by
  have hcode : 46 ≤ c.toNat ∧ c.toNat ≤ 102 := by
    obtain rfl | rfl | hdigit := h
    · decide
    · decide
    · have hle := Text.toNat_of_hexDigit? hdigit
      omega
  simp [Text.isBlank]
  omega

end IpAddress

end StubResolver
