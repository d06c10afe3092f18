import Mathlib

namespace Packed

def leBytes : ℕ → ℕ → List UInt8
  | 0, _ => []
  | w + 1, n => UInt8.ofNat n :: leBytes w (n / 256)

def leNat : List UInt8 → ℕ
  | [] => 0
  | b :: bs => b.toNat + 256 * leNat bs

@[simp] theorem length_leBytes (w n : ℕ) : (leBytes w n).length = w := by
  induction w generalizing n with
  | zero => rfl
  | succ w ih => simp [leBytes, ih]

theorem leNat_leBytes {w n : ℕ} (h : n < 256 ^ w) : leNat (leBytes w n) = n := by
  induction w generalizing n with
  | zero =>
    rw [Nat.pow_zero, Nat.lt_one_iff] at h
    rw [h]
    rfl
  | succ w ih =>
    have hdiv : n / 256 < 256 ^ w := by
      rw [Nat.pow_succ] at h
      omega
    rw [leBytes, leNat, ih hdiv, UInt8.toNat_ofNat']
    omega

section Walk

variable {β ρ : Type} (size : List β → ℕ) (decode : List β → ρ)

def walk : ℕ → List β → List ρ
  | 0, _ => []
  | _ + 1, [] => []
  | fuel + 1, b :: bs => decode (b :: bs) :: walk fuel ((b :: bs).drop (size (b :: bs)))

variable {size decode}

theorem walk_flatMap {encode : ρ → List β} {rs : List ρ}
    (h : ∀ r ∈ rs, ∀ rest, encode r ≠ [] ∧ size (encode r ++ rest) = (encode r).length ∧
      decode (encode r ++ rest) = r) {fuel : ℕ} (hfuel : (rs.flatMap encode).length ≤ fuel) :
    walk size decode fuel (rs.flatMap encode) = rs := by
  induction rs generalizing fuel with
  | nil => cases fuel <;> rfl
  | cons r rs ih =>
    have ⟨hne, hsize, hdecode⟩ := h r List.mem_cons_self (rs.flatMap encode)
    have ⟨b, bs, hcons⟩ := List.exists_cons_of_ne_nil hne
    rw [List.flatMap_cons, List.length_append] at hfuel
    have hpos : 0 < (encode r).length := List.length_pos_iff.mpr hne
    have ⟨n, hn⟩ : ∃ n, fuel = n + 1 := ⟨fuel - 1, by omega⟩
    have hrest := ih (fun r' hr' => h r' (List.mem_cons_of_mem r hr')) (by omega : _ ≤ n)
    have hstep : walk size decode (n + 1) (encode r ++ rs.flatMap encode) =
        decode (encode r ++ rs.flatMap encode) ::
          walk size decode n ((encode r ++ rs.flatMap encode).drop
            (size (encode r ++ rs.flatMap encode))) := by
      rw [hcons]
      rfl
    rw [List.flatMap_cons, hn, hstep, hdecode, hsize, List.drop_left, hrest]

end Walk

end Packed
