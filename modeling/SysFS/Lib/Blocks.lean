import Mathlib
import SysFS.Lib.StateProg

/-- The blocks in use, as addresses with lengths. -/
structure BlockHeap where
  next : ℕ
  live : Multiset (ℕ × ℕ)
  below : ∀ b ∈ live, b.1 < next
  nodup : (live.map Prod.fst).Nodup

namespace BlockHeap

def empty : BlockHeap := ⟨0, 0, nofun, Multiset.nodup_zero⟩

def total (h : BlockHeap) : ℕ := (h.live.map Prod.snd).sum

def alloc (h : BlockHeap) (len : ℕ) : BlockHeap where
  next := h.next + 1
  live := (h.next, len) ::ₘ h.live
  below b hb := by
    rcases Multiset.mem_cons.mp hb with rfl | hb
    · exact Nat.lt_succ_self _
    · exact (h.below b hb).trans (Nat.lt_succ_self _)
  nodup := by
    rw [Multiset.map_cons, Multiset.nodup_cons]
    refine ⟨?_, h.nodup⟩
    intro hmem
    have ⟨b, hb, heq⟩ := Multiset.mem_map.mp hmem
    exact absurd heq (h.below b hb).ne

def free (h : BlockHeap) (b : ℕ × ℕ) : Option BlockHeap :=
  if b ∈ h.live then
    some
      { next := h.next
        live := h.live.erase b
        below := fun c hc => h.below c (Multiset.mem_of_mem_erase hc)
        nodup := Multiset.nodup_of_le (Multiset.map_le_map (Multiset.erase_le b h.live)) h.nodup }
  else none

theorem not_mem_of_live {h : BlockHeap} {bs rest : Multiset (ℕ × ℕ)} (hlive : h.live = bs + rest)
    {b : ℕ × ℕ} (hb : b ∈ bs) : b ∉ rest := by
  have hnodup : h.live.Nodup := Multiset.Nodup.of_map _ h.nodup
  rw [hlive, Multiset.nodup_add] at hnodup
  exact Multiset.disjoint_left.mp hnodup.2.2 hb

/-- The block at a pointer; a null pointer or the length 0 has none. -/
def blockAt (addr : Option ℕ) (len : ℕ) : Multiset (ℕ × ℕ) :=
  match addr with
  | none => 0
  | some a => if 0 < len then {(a, len)} else 0

theorem blockAt_pos {a len : ℕ} (h : 0 < len) : blockAt (some a) len = {(a, len)} := if_pos h

theorem sum_blockAt (addr : Option ℕ) (len : ℕ) :
    ((blockAt addr len).map Prod.snd).sum = if addr.isSome then len else 0 := by
  cases addr with
  | none => rfl
  | some a =>
    rw [blockAt]
    split
    · rw [Multiset.map_singleton, Multiset.sum_singleton]
      rfl
    · next h =>
      rw [Multiset.map_zero, Multiset.sum_zero]
      exact (Nat.eq_zero_of_not_pos h).symm

theorem free_live {h : BlockHeap} {b : ℕ × ℕ} {rest : Multiset (ℕ × ℕ)}
    (hlive : h.live = {b} + rest) : ∃ h', h.free b = some h' ∧ h'.live = rest := by
  have hmem : b ∈ h.live := by
    rw [hlive]
    exact Multiset.mem_add.mpr (Or.inl (Multiset.mem_singleton_self b))
  refine ⟨_, if_pos hmem, ?_⟩
  show h.live.erase b = rest
  rw [hlive, Multiset.singleton_add, Multiset.erase_cons_head]

end BlockHeap
