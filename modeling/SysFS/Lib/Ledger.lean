import Mathlib

/-- `blocks` has the size of each block in the order of allocation, or `none` once it is
released; `owned` is the number of the block an owner has. -/
structure Ledger (ω : Type) where
  total : ℤ
  blocks : List (Option ℕ)
  owned : ω → Option ℕ

namespace Ledger

variable {ω : Type}

def empty : Ledger ω := ⟨0, [], fun _ => none⟩

def sizeAt (l : Ledger ω) (i : ℕ) : ℕ := (l.blocks.getD i none).getD 0

def inUse (l : Ledger ω) : ℤ := (l.blocks.map fun b => (b.getD 0 : ℤ)).sum

structure Balanced (l : Ledger ω) : Prop where
  total : l.total = l.inUse
  owner : ∀ i size, l.blocks[i]? = some (some size) → ∃ o, l.owned o = some i
  block : ∀ o i, l.owned o = some i → ∃ size, l.blocks[i]? = some (some size)
  unique : ∀ o p i, l.owned o = some i → l.owned p = some i → o = p

theorem balanced_empty : Balanced (empty : Ledger ω) :=
  ⟨rfl, nofun, nofun, nofun⟩

theorem Balanced.all_released {l : Ledger ω} (h : Balanced l) (hnone : ∀ o, l.owned o = none) :
    (∀ b ∈ l.blocks, b = none) ∧ l.total = 0 := by
  have hall : ∀ b ∈ l.blocks, b = none := by
    intro b hb
    have ⟨i, hi⟩ := List.mem_iff_getElem?.mp hb
    cases b with
    | none => rfl
    | some n =>
      have ⟨o, ho⟩ := h.owner i n hi
      cases (hnone o).symm.trans ho
  refine ⟨hall, ?_⟩
  rw [h.total, inUse]
  apply List.sum_eq_zero
  intro x hx
  have ⟨b, hb, hbx⟩ := List.mem_map.mp hx
  rw [← hbx, hall b hb]
  rfl

variable [DecidableEq ω]

def alloc (l : Ledger ω) (o : ω) (size : ℕ) : Ledger ω where
  total := l.total + size
  blocks := l.blocks ++ [some size]
  owned := Function.update l.owned o (some l.blocks.length)

def release (l : Ledger ω) (o : ω) : Ledger ω :=
  match l.owned o with
  | none => l
  | some i =>
    { total := l.total - l.sizeAt i
      blocks := l.blocks.set i none
      owned := Function.update l.owned o none }

def exchange (l : Ledger ω) (o p : ω) : Ledger ω :=
  { l with owned := l.owned ∘ Equiv.swap o p }

theorem alloc_owned (l : Ledger ω) (o : ω) (size : ℕ) :
    (l.alloc o size).owned = Function.update l.owned o (some l.blocks.length) := rfl

theorem alloc_blocks (l : Ledger ω) (o : ω) (size : ℕ) :
    (l.alloc o size).blocks = l.blocks ++ [some size] := rfl

theorem release_owned (l : Ledger ω) (o : ω) :
    (l.release o).owned = Function.update l.owned o none := by
  rw [release]
  split
  · next h => rw [← h, Function.update_eq_self]
  · rfl

namespace Balanced

variable {l : Ledger ω}

theorem alloc (h : Balanced l) {o : ω} (ho : l.owned o = none) (size : ℕ) :
    Balanced (l.alloc o size) where
  total := by
    simp only [Ledger.alloc, inUse, List.map_append, List.sum_append, List.map_cons, List.map_nil,
      List.sum_singleton, Option.getD_some]
    rw [h.total, inUse]
  owner i n hi := by
    by_cases hlt : i < l.blocks.length
    · rw [alloc_blocks, List.getElem?_append_left hlt] at hi
      have ⟨p, hp⟩ := h.owner i n hi
      refine ⟨p, ?_⟩
      rw [alloc_owned, Function.update_of_ne, hp]
      rintro rfl
      cases ho.symm.trans hp
    · have hlast : i = l.blocks.length := by
        have := (List.getElem?_eq_some_iff.mp hi).1
        rw [alloc_blocks, List.length_append, List.length_singleton] at this
        omega
      exact ⟨o, by rw [alloc_owned, Function.update_self, hlast]⟩
  block p i hp := by
    rw [alloc_owned] at hp
    rw [alloc_blocks]
    by_cases hpo : p = o
    · rw [hpo, Function.update_self] at hp
      cases hp
      exact ⟨size, List.getElem?_concat_length⟩
    · rw [Function.update_of_ne hpo] at hp
      have ⟨n, hn⟩ := h.block p i hp
      exact ⟨n, (List.getElem?_append_left (List.getElem?_eq_some_iff.mp hn).1).trans hn⟩
  unique p q i hp hq := by
    have hnew : ∀ r, l.owned r ≠ some l.blocks.length := by
      intro r hr
      have ⟨n, hn⟩ := h.block r _ hr
      exact absurd (List.getElem?_eq_some_iff.mp hn).1 (Nat.lt_irrefl _)
    rw [alloc_owned, Function.update_apply] at hp hq
    split at hp <;> split at hq
    · next hpo hqo => rw [hpo, hqo]
    · exact absurd (hq.trans hp.symm) (hnew q)
    · exact absurd (hp.trans hq.symm) (hnew p)
    · exact h.unique p q i hp hq

theorem release (h : Balanced l) (o : ω) : Balanced (l.release o) := by
  cases ho : l.owned o with
  | none =>
    rw [Ledger.release, ho]
    exact h
  | some i =>
    have ⟨size, hsize⟩ := h.block o i ho
    have ⟨hi, hget⟩ := List.getElem?_eq_some_iff.mp hsize
    have hother : ∀ p j, Function.update l.owned o none p = some j →
        l.owned p = some j ∧ j ≠ i := by
      intro p j hp
      by_cases hpo : p = o
      · rw [hpo, Function.update_self] at hp
        cases hp
      · rw [Function.update_of_ne hpo] at hp
        exact ⟨hp, fun hji => hpo (h.unique p o i (hji ▸ hp) ho)⟩
    rw [Ledger.release, ho]
    refine ⟨?_, ?_, ?_, ?_⟩
    · show l.total - (l.sizeAt i : ℤ) = ((l.blocks.set i none).map _).sum
      rw [List.map_set, List.sum_set', dif_pos (by rwa [List.length_map]), h.total, inUse,
        sizeAt, List.getD_eq_getElem?_getD, hsize, List.getElem_map, hget]
      simp [sub_eq_add_neg]
    · intro j n hj
      have hne : j ≠ i := by
        rintro rfl
        rw [List.getElem?_set_self hi] at hj
        cases hj
      rw [List.getElem?_set_ne hne.symm] at hj
      have ⟨p, hp⟩ := h.owner j n hj
      refine ⟨p, ?_⟩
      show Function.update l.owned o none p = some j
      rw [Function.update_of_ne, hp]
      rintro rfl
      exact hne (Option.some_inj.mp (hp.symm.trans ho))
    · intro p j hp
      have ⟨hpj, hne⟩ := hother p j hp
      have ⟨n, hn⟩ := h.block p j hpj
      exact ⟨n, (List.getElem?_set_ne hne.symm).trans hn⟩
    · intro p q j hp hq
      exact h.unique p q j (hother p j hp).1 (hother q j hq).1

theorem exchange (h : Balanced l) (o p : ω) : Balanced (l.exchange o p) where
  total := h.total
  owner i n hi := by
    have ⟨q, hq⟩ := h.owner i n hi
    refine ⟨Equiv.swap o p q, ?_⟩
    show l.owned (Equiv.swap o p (Equiv.swap o p q)) = some i
    rw [Equiv.swap_apply_self, hq]
  block q i hq := h.block _ i hq
  unique q r i hq hr := (Equiv.swap o p).injective (h.unique _ _ i hq hr)

end Balanced

end Ledger
