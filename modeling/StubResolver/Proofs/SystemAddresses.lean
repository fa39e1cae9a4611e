import Mathlib.Data.List.Nodup
import StubResolver.Proofs.IpAddress
import StubResolver.Proofs.Task
import StubResolver.Rehearsal

set_option autoImplicit false

namespace StubResolver.OperatingSystem

theorem distinct_concat (ips : List IpAddress) (ip : IpAddress) :
    distinct (ips ++ [ip]) = if ip ∈ distinct ips then distinct ips else distinct ips ++ [ip] := by
  simp [distinct]

theorem mem_distinct {ips : List IpAddress} {ip : IpAddress} : ip ∈ distinct ips ↔ ip ∈ ips := by
  induction ips using List.reverseRecOn generalizing ip with
  | nil => rfl
  | append_singleton ips last ih =>
    rw [distinct_concat]
    split
    · next hlast =>
      rw [ih, List.mem_append, List.mem_singleton]
      exact (or_iff_left_of_imp fun heq => heq ▸ ih.1 hlast).symm
    · rw [List.mem_append, List.mem_append, ih]

theorem pairwise_distinct (ips : List IpAddress) :
    (distinct ips).Pairwise fun x y => ips.idxOf x < ips.idxOf y := by
  induction ips using List.reverseRecOn with
  | nil => exact .nil
  | append_singleton ips last ih =>
    have hfront : (distinct ips).Pairwise fun x y =>
        (ips ++ [last]).idxOf x < (ips ++ [last]).idxOf y := by
      refine ih.imp_of_mem fun hx hy h => ?_
      rwa [List.idxOf_append_of_mem (mem_distinct.1 hx),
        List.idxOf_append_of_mem (mem_distinct.1 hy)]
    rw [distinct_concat]
    split
    · exact hfront
    · next hlast =>
      refine List.pairwise_append.2 ⟨hfront, List.pairwise_singleton _ _, fun x hx y hy => ?_⟩
      rw [List.mem_singleton.1 hy, List.idxOf_append_of_mem (mem_distinct.1 hx),
        List.idxOf_append_of_notMem (mem_distinct.not.1 hlast)]
      have hlt := List.idxOf_lt_length_iff.2 (mem_distinct.1 hx)
      omega

/-- A question of one of the two types of addresses asks for its own family,
any other question for both. -/
inductive Suits : RecordType → IpAddress → Prop where
  | v4 (ip : Ipv4) : Suits .a (.v4 ip)
  | v6 (ip : Ipv6) : Suits .aaaa (.v6 ip)
  | other {t : RecordType} (ip : IpAddress) : t ≠ .a → t ≠ .aaaa → Suits t ip

inductive Prefers : Preference → IpAddress → Prop where
  | v4 (ip : Ipv4) : Prefers .ipv4 (.v4 ip)
  | v6 (ip : Ipv6) : Prefers .ipv6 (.v6 ip)

theorem fits_iff {t : RecordType} {ip : IpAddress} : fits t ip = true ↔ Suits t ip := by
  constructor
  · intro h
    unfold fits at h
    split at h
    · next ht =>
      subst ht
      cases ip with
      | v4 ip => exact .v4 ip
      | v6 ip => cases h
    · next ha =>
      split at h
      · next ht =>
        subst ht
        cases ip with
        | v4 ip => cases h
        | v6 ip => exact .v6 ip
      · next haaaa => exact .other ip ha haaaa
  · intro h
    cases h with
    | v4 ip => rfl
    | v6 ip => rfl
    | other _ ha haaaa => rw [fits, if_neg ha, if_neg haaaa]

theorem wanted_iff {prefer : Preference} {ip : IpAddress} :
    wanted prefer ip = true ↔ prefer = .none ∨ Prefers prefer ip := by
  constructor
  · intro h
    cases prefer with
    | none => exact .inl rfl
    | ipv4 =>
      cases ip with
      | v4 ip => exact .inr (.v4 ip)
      | v6 ip => cases h
    | ipv6 =>
      cases ip with
      | v4 ip => cases h
      | v6 ip => exact .inr (.v6 ip)
  · rintro (rfl | h)
    · rfl
    · cases h <;> rfl

theorem preferred_sublist (prefer : Preference) (ips : List IpAddress) :
    (preferred prefer ips).Sublist ips := by
  unfold preferred
  split
  · exact List.filter_sublist
  · exact .refl ips

theorem mem_preferred {prefer : Preference} {ips : List IpAddress} {ip : IpAddress} :
    ip ∈ preferred prefer ips ↔
      ip ∈ ips ∧ (prefer = .none ∨ Prefers prefer ip ∨ ∀ other ∈ ips, ¬ Prefers prefer other) := by
  unfold preferred
  split
  · next hany =>
    obtain ⟨other, hother, hwanted⟩ := List.any_eq_true.1 hany
    rw [List.mem_filter, wanted_iff]
    refine and_congr_right fun _ => ⟨fun h => h.imp_right .inl, ?_⟩
    rintro (h | h | h)
    · exact .inl h
    · exact .inr h
    · exact .inl ((wanted_iff.1 hwanted).resolve_right (h other hother))
  · next hany =>
    refine (and_iff_left_of_imp fun _ => .inr (.inr fun other hother h => hany ?_)).symm
    exact List.any_eq_true.2 ⟨other, hother, wanted_iff.2 (.inr h)⟩

variable {t : RecordType} {prefer : Preference} {ips : List IpAddress}

theorem mem_select {ip : IpAddress} : ip ∈ select t prefer ips ↔ ip ∈ ips ∧ Suits t ip ∧
    (prefer = .none ∨ Prefers prefer ip ∨ ∀ other ∈ ips, Suits t other →
      ¬ Prefers prefer other) := by
  simp only [select, mem_preferred, List.mem_filter, mem_distinct, fits_iff, and_assoc, and_imp]

theorem pairwise_select : (select t prefer ips).Pairwise fun x y => ips.idxOf x < ips.idxOf y :=
  ((pairwise_distinct ips).filter _).sublist (preferred_sublist prefer _)

theorem nodup_select : (select t prefer ips).Nodup :=
  pairwise_select.imp fun h heq => absurd (heq ▸ h) (Nat.lt_irrefl _)

theorem select_ne_nil {ip : IpAddress} (hip : ip ∈ ips) (hsuits : Suits t ip) :
    select t prefer ips ≠ [] := by
  by_cases h : ∃ other ∈ ips, Suits t other ∧ Prefers prefer other
  · obtain ⟨other, hother, hsuits, hprefers⟩ := h
    exact List.ne_nil_of_mem (mem_select.2 ⟨hother, hsuits, .inr (.inl hprefers)⟩)
  · have hnone : ∀ other ∈ ips, Suits t other → ¬ Prefers prefer other :=
      fun other hother hsuits hprefers => h ⟨other, hother, hsuits, hprefers⟩
    exact List.ne_nil_of_mem (mem_select.2 ⟨hip, hsuits, .inr (.inr hnone)⟩)

variable {σ : Type} {env : Environment σ} {question : Question} {s u : σ}

def Reports (env : Environment σ) (question : Question) (s : σ) (ips : List IpAddress)
    (u : σ) : Prop :=
  let host := hostOf (qualify question.name)
  ∃ found, SystemDial.socketAddresses env.hostAddresses ⟨host, IpAddress.ofText? host, 0⟩ s =
    (.ok found, u) ∧
    found.map SocketAddress.ip = ips

theorem reports_of_name (hname : IpAddress.ofText? (hostOf (qualify question.name)) = none)
    (hnul : '\x00' ∉ (hostOf (qualify question.name)).toList)
    (h : env.hostAddresses (hostOf (qualify question.name)) s = (.ok ips, u)) :
    Reports env question s ips u := by
  refine ⟨ips.map fun ip => ⟨ip, 0⟩, ?_, by rw [List.map_map]; exact List.map_id ips⟩
  simp only [SystemDial.socketAddresses, hname, h, List.contains_iff_mem, if_neg hnul]

theorem lookup_of_reports (sys : OperatingSystem) (h : Reports env question s ips u) :
    ∃ roundTrip, sys.lookup env question s =
      (.ok ⟨[{ question with name := qualify question.name }],
        (select question.type sys.prefer ips).map (answer (qualify question.name) roundTrip), []⟩,
          u) := by
  obtain ⟨found, hfound, rfl⟩ := h
  refine ⟨Duration.wholeMillis ⟨(env.elapsed u).nanos - (env.elapsed s).nanos⟩, ?_⟩
  rw [lookup]
  dsimp only
  rw [Task.bind_apply, Task.get_apply]
  dsimp only
  rw [Task.bind_apply, Task.io_apply, hfound]
  rfl

/-- What the answers to a question show of the addresses that were reported. -/
structure Lists (reported : List IpAddress) (t : RecordType) (prefer : Preference)
    (answers : List Answer) (listed : List IpAddress) : Prop where
  addresses : answers.map Answer.address = listed.map IpAddress.text
  types : answers.map Answer.type = listed.map fun | .v4 _ => "A" | .v6 _ => "AAAA"
  different : (answers.map Answer.address).Nodup
  ordered : listed.Pairwise fun x y => reported.idxOf x < reported.idxOf y
  mem_iff : ∀ ip, ip ∈ listed ↔ ip ∈ reported ∧ Suits t ip ∧
    (prefer = .none ∨ Prefers prefer ip ∨ ∀ other ∈ reported, Suits t other →
      ¬ Prefers prefer other)
  ne_nil : (∃ ip ∈ reported, Suits t ip) → answers ≠ []

theorem lists_select (reported : List IpAddress) (t : RecordType) (prefer : Preference)
    (name roundTrip : String) :
    Lists reported t prefer ((select t prefer reported).map (answer name roundTrip))
    (select t prefer reported) := by
  have haddresses : ((select t prefer reported).map (answer name roundTrip)).map Answer.address =
      (select t prefer reported).map IpAddress.text := by
    rw [List.map_map]
    rfl
  constructor
  case addresses => exact haddresses
  case types =>
    rw [List.map_map]
    exact List.map_congr_left fun ip _ => by cases ip <;> rfl
  case different =>
    rw [haddresses]
    exact List.Nodup.map IpAddress.text_injective nodup_select
  case ordered => exact pairwise_select
  case mem_iff => exact fun ip => mem_select
  case ne_nil =>
    rintro ⟨ip, hip, hsuits⟩ hnil
    exact select_ne_nil hip hsuits (List.map_eq_nil_iff.1 hnil)

/--
Whatever addresses are reported, the answers to a question show each of them once, in the order in
which they come up first, and with its own family as the type. An address is shown if it suits the
type of the question and belongs to the preferred family, or there is no preference, or none that
suits is of that family. So something is shown if anything suits.
-/
theorem lists_reported_addresses (sys : OperatingSystem) (h : Reports env question s ips u) :
    ∃ r listed, sys.lookup env question s = (.ok r, u) ∧
      Lists ips question.type sys.prefer r.answers listed := by
  obtain ⟨roundTrip, hlookup⟩ := lookup_of_reports sys h
  exact ⟨_, _, hlookup, lists_select ips question.type sys.prefer (qualify question.name) roundTrip⟩

/-- Repeated addresses of both families, of which the preferred one does not suit the question. -/
theorem lists_reported_addresses_of_other_family :
    let first : IpAddress := .v4 ⟨192, 0, 2, 2⟩
    let second : IpAddress := .v4 ⟨192, 0, 2, 1⟩
    let preferred : IpAddress := .v6 ⟨0x2001, 0xdb8, 0, 0, 0, 0, 0, 1⟩
    let ips := [preferred, first, second, first, preferred]
    let s := Rehearsal.World.start .up [] [("host", ips)]
    Reports Rehearsal.environment (.internet "host" .a) s ips s ∧ ∃ r listed,
      lookup Rehearsal.environment ⟨.ipv6⟩ (.internet "host" .a) s = (.ok r, s) ∧
        Lists ips .a .ipv6 r.answers listed ∧
      first ∈ listed ∧ second ∈ listed ∧ preferred ∉ listed := by
  intro first second preferred ips s
  have hreports : Reports Rehearsal.environment (.internet "host" .a) s ips s :=
    reports_of_name (by decide) (by decide) rfl
  have hnone : ∀ other ∈ ips, Suits .a other → ¬ Prefers .ipv6 other := by
    intro other _ hsuits hprefers
    cases hprefers
    cases hsuits with
    | other _ ha => exact ha rfl
  obtain ⟨r, listed, hlookup, hlists⟩ := lists_reported_addresses ⟨.ipv6⟩ hreports
  refine ⟨hreports, r, listed, hlookup, hlists, ?_, ?_, ?_⟩
  · exact (hlists.mem_iff first).2 ⟨by decide, .v4 _, .inr (.inr hnone)⟩
  · exact (hlists.mem_iff second).2 ⟨by decide, .v4 _, .inr (.inr hnone)⟩
  · intro hmem
    obtain ⟨hreported, hsuits, -⟩ := (hlists.mem_iff preferred).1 hmem
    exact hnone preferred hreported hsuits (.v6 _)

end StubResolver.OperatingSystem
