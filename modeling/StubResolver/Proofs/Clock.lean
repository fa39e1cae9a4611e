import StubResolver.Proofs.Passage
import StubResolver.Rehearsal

set_option autoImplicit false

namespace StubResolver

def Task.Forward {σ α : Type} (clock : σ → Duration) (task : Task σ α) : Prop :=
  ∀ s, (clock s).nanos ≤ (clock (task s).2).nanos

structure Environment.Forward {σ : Type} (env : Environment σ) : Prop where
  dial : ∀ d s, (env.elapsed s).nanos ≤ (env.elapsed (env.dial d s).2).nanos
  handshake : ∀ n v s, (env.elapsed s).nanos ≤ (env.elapsed (env.handshake n v s).2).nanos
  datagram : ∀ m s, (env.elapsed s).nanos ≤ (env.elapsed (env.datagram m s).2).nanos
  stream : ∀ m s, (env.elapsed s).nanos ≤ (env.elapsed (env.stream m s).2).nanos
  http : ∀ r s, (env.elapsed s).nanos ≤ (env.elapsed (env.http r s).2).nanos
  hostAddresses : ∀ n s, (env.elapsed s).nanos ≤ (env.elapsed (env.hostAddresses n s).2).nanos
  queryIds : ∀ s, (env.elapsed s).nanos ≤ (env.elapsed (env.queryIds s).2).nanos
  random : ∀ n s, (env.elapsed s).nanos ≤ (env.elapsed (env.random n s).2).nanos

variable {σ : Type} {env : Environment σ}

def Later (env : Environment σ) (s t : σ) : Prop := (env.elapsed s).nanos ≤ (env.elapsed t).nanos

instance : IsPreorder σ (Later env) where
  refl _ := Nat.le_refl _
  trans _ _ _ := Nat.le_trans

theorem Environment.Forward.moves (h : env.Forward) : env.Moves (Later env) where
  dial := h.dial
  handshake := h.handshake
  datagram := h.datagram
  stream := h.stream
  http := h.http
  hostAddresses := h.hostAddresses
  queryIds := h.queryIds
  nonce := h.random 12

namespace Transport

def Forward (clock : σ → Duration) : Transport σ → Prop
  | custom answer => ∀ question, (answer question).Forward clock
  | _ => True

theorem lookup_forward (h : env.Forward) (question : Question) {s : Transport σ × σ}
    (hs : s.1.Forward env.elapsed) :
    (env.elapsed s.2).nanos ≤ (env.elapsed (lookup env question s).2.2).nanos ∧
      (lookup env question s).2.1.Forward env.elapsed := by
  obtain ⟨t, s⟩ := s
  unfold lookup
  simp only [still]
  cases t with
  | classic c =>
    have hlookup := c.lookup_moves h.moves question s
    exact ⟨hlookup, trivial⟩
  | https t =>
    have hlookup := t.lookup_moves h.moves question s
    exact ⟨hlookup, trivial⟩
  | encrypted e certificate =>
    have hlookup := e.lookup_moves h.moves question (certificate, s)
    exact ⟨hlookup, trivial⟩
  | operatingSystem sys =>
    have hlookup := sys.lookup_moves h.moves question s
    dsimp only
    exact ⟨hlookup, trivial⟩
  | custom answer => exact ⟨hs question s, hs⟩

end Transport

namespace Rehearsal

theorem takeCue_elapsed (contact : Contact) (w : World) :
    (takeCue contact w).2.elapsed = w.elapsed := by
  unfold takeCue
  dsimp only
  split
  · rfl
  · split <;> rfl

theorem dial_elapsed (d : Dial) (w : World) : (dial d w).2.elapsed = w.elapsed := by
  have hcue := takeCue_elapsed (.dial d) w
  unfold dial
  split <;> next hr => rwa [hr] at hcue

theorem deliver_elapsed (packet : Bytes) (w : World) :
    w.elapsed.nanos ≤ (deliver packet w).2.elapsed.nanos := by
  unfold deliver
  split
  · exact Nat.le_refl _
  · dsimp only
    split
    · exact Nat.le_add_right _ _
    · dsimp only
      split <;> exact Nat.le_add_right _ _

theorem environment_forward : environment.Forward where
  dial d w := le_of_eq (congrArg Duration.nanos (dial_elapsed d w).symm)
  handshake _ _ _ := Nat.le_refl _
  datagram m w := by
    have hreply := deliver_elapsed m w
    simp only [environment, datagram]
    split <;> next hr => rwa [hr] at hreply
  stream m w := by
    have hreply := deliver_elapsed (m.drop 2) w
    simp only [environment, stream]
    split <;> next hr => rwa [hr] at hreply
  http r w := by
    have hcue := takeCue_elapsed (.http r.url.authority) w
    simp only [environment, http]
    split
    · next hr =>
      rw [hr] at hcue
      exact le_of_eq (congrArg Duration.nanos hcue.symm)
    · next hr =>
      rw [hr] at hcue
      rw [← hcue]
      split
      · exact Nat.le_refl _
      · refine Nat.le_trans ?_ (deliver_elapsed _ _)
        exact Nat.le_refl _
  hostAddresses n w := by
    simp only [environment, hostAddresses]
    split <;> exact Nat.le_refl _
  queryIds _ := Nat.le_refl _
  random _ _ := Nat.le_refl _

end Rehearsal

end StubResolver
