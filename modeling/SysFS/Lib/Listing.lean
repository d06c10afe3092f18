import Mathlib

namespace Listing

variable {ρ : Type}

section Reads

variable {κ : Type}

/-- One read after the other, each from where the last one ended. A read can fail. -/
def reads (call : κ → ℤ → Option (List ρ)) : List κ → ℤ → Option (List (List ρ))
  | [], _ => some []
  | x :: xs, offset => do
    let part ← call x offset
    let rest ← reads call xs (offset + part.length)
    return part :: rest

/-- The parts are the records in order, and a part is empty exactly after all of them. -/
structure ReadOnce (records : List ρ) (sizes : List ℕ) (parts : List (List ρ)) : Prop where
  flatten : parts.flatten = records.take sizes.sum
  ends : ∀ i part, parts[i]? = some part → (part = [] ↔ (parts.take i).flatten = records)

theorem ReadOnce.cons {records : List ρ} {sizes : List ℕ} {parts : List (List ρ)} {n : ℕ}
    (hn : 0 < n) (h : ReadOnce (records.drop n) sizes parts) :
    ReadOnce records (n :: sizes) (records.take n :: parts) := by
  constructor
  · rw [List.flatten_cons, h.flatten, List.sum_cons, List.take_add]
  · intro i part hi
    cases i with
    | zero =>
      cases hi
      rw [List.take_eq_nil_iff, or_iff_right (Nat.ne_of_gt hn)]
      exact eq_comm
    | succ i =>
      rw [h.ends i part hi, List.take_succ_cons, List.flatten_cons]
      have hsplit : (records.take n ++ (parts.take i).flatten = records.take n ++ records.drop n) ↔
          (parts.take i).flatten = records.drop n := List.append_right_inj _
      rw [← hsplit, List.take_append_drop]

/-- Calls that give all there is room for read the records once. -/
theorem reads_once {call : κ → ℤ → Option (List ρ)} {size : κ → ℕ} {records : List ρ}
    {xs : List κ} (hpos : ∀ x ∈ xs, 0 < size x)
    (hcall : ∀ x ∈ xs, ∀ k ≤ records.length, call x k = some ((records.drop k).take (size x)))
    {k : ℕ} (hk : k ≤ records.length) :
    ∃ parts, reads call xs k = some parts ∧ parts.length = xs.length ∧
      ReadOnce (records.drop k) (xs.map size) parts := by
  induction xs generalizing k with
  | nil => exact ⟨[], rfl, rfl, by simp, nofun⟩
  | cons x xs ih =>
    have hnext : k + ((records.drop k).take (size x)).length ≤ records.length := by
      rw [List.length_take, List.length_drop]
      omega
    have ⟨parts, hreads, hlen, honce⟩ := ih (fun y hy => hpos y (List.mem_cons_of_mem x hy))
      (fun y hy => hcall y (List.mem_cons_of_mem x hy)) hnext
    have hdrop : records.drop (k + ((records.drop k).take (size x)).length) =
        (records.drop k).drop (size x) := by
      rw [← List.drop_drop, List.length_take, ← List.drop_eq_drop_min]
    rw [hdrop] at honce
    refine ⟨_ :: parts, ?_, by rw [List.length_cons, hlen, List.length_cons],
      honce.cons (hpos x List.mem_cons_self)⟩
    rw [reads, hcall x List.mem_cons_self k hk]
    show (reads call xs (k + _)).bind _ = _
    rw [← Int.natCast_add, hreads]
    rfl

end Reads

end Listing
