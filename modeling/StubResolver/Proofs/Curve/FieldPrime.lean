import Mathlib.Data.List.Prime
import Mathlib.Data.ZMod.Basic
import Mathlib.NumberTheory.LucasPrimality
import Mathlib.Tactic.NormNum.Prime
import Mathlib.Tactic.ReduceModChar
import StubResolver.Crypto.Curve25519

set_option autoImplicit false

namespace StubResolver.Curve25519

theorem prime_of_witness {n : ℕ} (a : ZMod n) (factors : List ℕ) (k : ℕ)
    (hdvd : n - 1 ∣ factors.prod ^ k) (hprime : ∀ q ∈ factors, q.Prime) (hone : a ^ (n - 1) = 1)
    (hne : ∀ q ∈ factors, a ^ ((n - 1) / q) ≠ 1) : n.Prime := by
  refine lucas_primality n a hone fun q hq hqn => ?_
  have hq' : q ∣ factors.prod := hq.dvd_of_dvd_pow (hqn.trans hdvd)
  obtain ⟨r, hr, hqr⟩ := (Prime.dvd_prod_iff hq.prime).1 hq'
  obtain rfl : q = r := (Nat.prime_dvd_prime_iff_eq hq (hprime r hr)).1 hqr
  exact hne q hr

theorem prime_2773320623 : Nat.Prime 2773320623 := by
  refine prime_of_witness (5 : ZMod 2773320623) [2, 2437, 569003] 1 (by norm_num) ?_ ?_ ?_
  · simp only [List.forall_mem_cons]
    refine ⟨?_, ?_, ?_, by simp⟩ <;> norm_num
  · norm_num
    reduce_mod_char
  · simp only [List.forall_mem_cons]
    refine ⟨?_, ?_, ?_, by simp⟩ <;> norm_num <;> reduce_mod_char <;> decide

theorem prime_72106336199 : Nat.Prime 72106336199 := by
  refine prime_of_witness (7 : ZMod 72106336199) [2, 13, 2773320623] 1 (by norm_num) ?_ ?_ ?_
  · simp only [List.forall_mem_cons]
    refine ⟨?_, ?_, prime_2773320623, by simp⟩ <;> norm_num
  · norm_num
    reduce_mod_char
  · simp only [List.forall_mem_cons]
    refine ⟨?_, ?_, ?_, by simp⟩ <;> norm_num <;> reduce_mod_char <;> decide

theorem prime_1919519569386763 : Nat.Prime 1919519569386763 := by
  refine prime_of_witness (2 : ZMod 1919519569386763) [2, 3, 7, 19, 47, 127, 8574133] 2
    (by norm_num) ?_ ?_ ?_
  · simp only [List.forall_mem_cons]
    refine ⟨?_, ?_, ?_, ?_, ?_, ?_, ?_, by simp⟩ <;> norm_num
  · norm_num
    reduce_mod_char
  · simp only [List.forall_mem_cons]
    refine ⟨?_, ?_, ?_, ?_, ?_, ?_, ?_, by simp⟩ <;> norm_num <;> reduce_mod_char <;> decide

theorem prime_75445702479781427272750846543864801 :
    Nat.Prime 75445702479781427272750846543864801 := by
  refine prime_of_witness (7 : ZMod 75445702479781427272750846543864801)
    [2, 3, 5, 75707, 72106336199, 1919519569386763] 5 (by norm_num) ?_ ?_ ?_
  · simp only [List.forall_mem_cons]
    refine ⟨?_, ?_, ?_, ?_, prime_72106336199, prime_1919519569386763, by simp⟩ <;> norm_num
  · norm_num
    reduce_mod_char
  · simp only [List.forall_mem_cons]
    refine ⟨?_, ?_, ?_, ?_, ?_, ?_, by simp⟩ <;> norm_num <;> reduce_mod_char <;> decide

theorem prime_31757755568855353 : Nat.Prime 31757755568855353 := by
  refine prime_of_witness (10 : ZMod 31757755568855353) [2, 3, 31, 107, 223, 4153, 430751] 3
    (by norm_num) ?_ ?_ ?_
  · simp only [List.forall_mem_cons]
    refine ⟨?_, ?_, ?_, ?_, ?_, ?_, ?_, by simp⟩ <;> norm_num
  · norm_num
    reduce_mod_char
  · simp only [List.forall_mem_cons]
    refine ⟨?_, ?_, ?_, ?_, ?_, ?_, ?_, by simp⟩ <;> norm_num <;> reduce_mod_char <;> decide

theorem prime_cofactor :
    Nat.Prime 74058212732561358302231226437062788676166966415465897661863160754340907 := by
  refine prime_of_witness
    (2 : ZMod 74058212732561358302231226437062788676166966415465897661863160754340907)
    [2, 3, 353, 57467, 132049, 1923133, 31757755568855353, 75445702479781427272750846543864801]
    1 (by norm_num) ?_ ?_ ?_
  · simp only [List.forall_mem_cons]
    refine ⟨?_, ?_, ?_, ?_, ?_, ?_, prime_31757755568855353,
      prime_75445702479781427272750846543864801, by simp⟩ <;> norm_num
  · norm_num
    reduce_mod_char
  · simp only [List.forall_mem_cons]
    refine ⟨?_, ?_, ?_, ?_, ?_, ?_, ?_, ?_, by simp⟩ <;> norm_num <;> reduce_mod_char <;> decide

theorem prime_p : p.Prime := by
  have hp : p = 57896044618658097711785492504343953926634992332820282019728792003956564819949 := by
    norm_num [p]
  rw [hp]
  refine prime_of_witness
    (2 : ZMod 57896044618658097711785492504343953926634992332820282019728792003956564819949)
    [2, 3, 65147, 74058212732561358302231226437062788676166966415465897661863160754340907]
    2 (by norm_num) ?_ ?_ ?_
  · simp only [List.forall_mem_cons]
    refine ⟨?_, ?_, ?_, prime_cofactor, by simp⟩ <;> norm_num
  · norm_num
    reduce_mod_char
  · simp only [List.forall_mem_cons]
    refine ⟨?_, ?_, ?_, ?_, by simp⟩ <;> norm_num <;> reduce_mod_char <;> decide

instance : Fact p.Prime := ⟨prime_p⟩

end StubResolver.Curve25519
