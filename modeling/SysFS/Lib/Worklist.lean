import Mathlib
import SysFS.Lib.Forest

namespace Worklist

variable {α : Type}

/-- The stack with its top first, the nodes done with in their order, and the largest number
of nodes that waited at a time. -/
structure State (α : Type) where
  waiting : List α
  done : List α
  peak : ℕ

def start (root : α) : State α := ⟨[root], [], 1⟩

variable (limit : ℕ) (children : α → List α)

/-- Takes the top of the stack. The child that finds the stack full has waited too: it counts
for the peak, and so do none of those after it. -/
def next (s : State α) : State α :=
  match s.waiting with
  | [] => s
  | a :: rest =>
    let room := limit - rest.length
    { waiting := ((children a).take room).reverse ++ rest
      done := s.done ++ [a]
      peak := max s.peak (rest.length + min (children a).length (room + 1)) }

def run : ℕ → State α → State α
  | 0, s => s
  | fuel + 1, s => run fuel (next limit children s)

def Below (root : α) : α → Prop := Relation.ReflTransGen (fun p c => c ∈ children p) root

structure Inv (root : α) (s : State α) : Prop where
  nodup : (s.waiting ++ s.done).Nodup
  source : ∀ a ∈ s.waiting ++ s.done, a = root ∨ ∃ p ∈ s.done, a ∈ children p
  below : ∀ a ∈ s.waiting ++ s.done, Below children root a
  bounded : s.waiting.length ≤ limit
  complete : s.peak ≤ limit → root ∈ s.waiting ++ s.done ∧
    ∀ p ∈ s.done, ∀ a ∈ children p, a ∈ s.waiting ++ s.done

variable {limit children} {root : α} {s : State α}

theorem next_nil (h : s.waiting = []) : next limit children s = s := by
  simp [next, h]

theorem next_cons {a : α} {rest : List α} (h : s.waiting = a :: rest) :
    next limit children s =
      { waiting := ((children a).take (limit - rest.length)).reverse ++ rest
        done := s.done ++ [a]
        peak := max s.peak
          (rest.length + min (children a).length (limit - rest.length + 1)) } := by
  simp [next, h]

theorem run_nil (h : s.waiting = []) (fuel : ℕ) : run limit children fuel s = s := by
  induction fuel with
  | zero => rfl
  | succ fuel ih => rw [run, next_nil h, ih]

theorem Inv.start (hlimit : 0 < limit) : Inv limit children root (start root) where
  nodup := by simp [Worklist.start]
  source := by simp [Worklist.start]
  below := by simp [Worklist.start, Below, Relation.ReflTransGen.refl]
  bounded := hlimit
  complete := by simp [Worklist.start]

section Tree

variable (htree : Forest.IsForest (fun p c => c ∈ children p) root)
include htree

theorem Inv.fresh (h : Inv limit children root s) {a c : α} (ha : a ∈ s.waiting)
    (hc : c ∈ children a) : c ∉ s.waiting ++ s.done := by
  -- the children of a waiting node have not been seen: they have no other parent
  intro hmem
  rcases h.source c hmem with rfl | ⟨p, hp, hcp⟩
  · exact htree.root_parent hc
  · have heq : p = a := htree.parent_unique hcp hc
    exact (List.nodup_append.mp h.nodup).2.2 a ha a (heq ▸ hp) rfl

theorem Inv.next (hnodup : ∀ a, (children a).Nodup) (h : Inv limit children root s) :
    Inv limit children root (next limit children s) := by
  cases hw : s.waiting with
  | nil => rwa [next_nil hw]
  | cons a rest =>
    rw [next_cons hw]
    have hfresh : ∀ c ∈ children a, c ∉ a :: (rest ++ s.done) := by
      intro c hc
      have := h.fresh htree (hw ▸ List.mem_cons_self) hc
      rwa [hw] at this
    have hold : (a :: (rest ++ s.done)).Nodup := by
      have := h.nodup
      rwa [hw] at this
    -- what is seen after the step: the queued children and all that was seen before it
    have hperm : (((children a).take (limit - rest.length)).reverse ++ rest ++
        (s.done ++ [a])).Perm
          ((children a).take (limit - rest.length) ++ (a :: (rest ++ s.done))) := by
      rw [List.append_assoc]
      apply List.Perm.append (List.reverse_perm _)
      rw [← List.append_assoc]
      exact List.perm_append_singleton a _
    have hseen : ∀ b, b ∈ ((children a).take (limit - rest.length)).reverse ++ rest ++
        (s.done ++ [a]) ↔
          b ∈ (children a).take (limit - rest.length) ∨ b ∈ s.waiting ++ s.done := by
      intro b
      rw [hperm.mem_iff, List.mem_append, hw]
      rfl
    constructor
    case nodup =>
      rw [hperm.nodup_iff, List.nodup_append]
      refine ⟨(hnodup a).sublist (List.take_sublist _ _), hold, ?_⟩
      rintro b hb _ hb' rfl
      exact hfresh b (List.mem_of_mem_take hb) hb'
    case source =>
      intro b hb
      rcases (hseen b).mp hb with hb | hb
      · exact .inr ⟨a, by simp, List.mem_of_mem_take hb⟩
      · rcases h.source b hb with hroot | ⟨p, hp, hbp⟩
        · exact .inl hroot
        · exact .inr ⟨p, by simp [hp], hbp⟩
    case below =>
      intro b hb
      rcases (hseen b).mp hb with hb | hb
      · have ha : Below children root a := h.below a (by simp [hw])
        exact ha.tail (List.mem_of_mem_take hb)
      · exact h.below b hb
    case bounded =>
      have := h.bounded
      simp only [hw, List.length_cons] at this
      simp only [List.length_append, List.length_reverse, List.length_take]
      omega
    case complete =>
      intro hpeak
      -- no more than the limit waited, so all the children were queued
      have hall : (children a).take (limit - rest.length) = children a := by
        apply List.take_of_length_le
        have hlen := h.bounded
        simp only [hw, List.length_cons] at hlen
        simp only [Nat.max_le] at hpeak
        omega
      have ⟨hroot, hchildren⟩ := h.complete (le_trans (Nat.le_max_left _ _) hpeak)
      refine ⟨(hseen root).mpr (.inr hroot), ?_⟩
      intro p hp b hb
      rcases List.mem_append.mp hp with hp | hp
      · exact (hseen b).mpr (.inr (hchildren p hp b hb))
      · rw [List.mem_singleton.mp hp] at hb
        exact (hseen b).mpr (.inl (hall.symm ▸ hb))

theorem Inv.run (hnodup : ∀ a, (children a).Nodup) (h : Inv limit children root s) (fuel : ℕ) :
    Inv limit children root (run limit children fuel s) := by
  induction fuel generalizing s with
  | zero => exact h
  | succ fuel ih => exact ih (h.next htree hnodup)

theorem Inv.run_waiting (hnodup : ∀ a, (children a).Nodup) (h : Inv limit children root s)
    {nodes : List α} (hall : ∀ a, Below children root a → a ∈ nodes) {fuel : ℕ}
    (hfuel : nodes.length ≤ fuel + s.done.length) :
    (Worklist.run limit children fuel s).waiting = [] := by
  induction fuel generalizing s with
  | zero =>
    have hle : (s.waiting ++ s.done).length ≤ nodes.length :=
      (List.subperm_of_subset h.nodup fun a ha => hall a (h.below a ha)).length_le
    apply List.eq_nil_of_length_eq_zero
    rw [List.length_append] at hle
    show s.waiting.length = 0
    omega
  | succ fuel ih =>
    cases hw : s.waiting with
    | nil => rw [run_nil hw, hw]
    | cons a rest =>
      apply ih (h.next htree hnodup)
      rw [next_cons hw, List.length_append, List.length_singleton]
      omega

omit htree in
/-- When the stack is empty and it was never asked to hold too much, everything is done. -/
theorem Inv.done_iff (h : Inv limit children root s) (hend : s.waiting = [])
    (hpeak : s.peak ≤ limit) {a : α} : a ∈ s.done ↔ Below children root a := by
  have hseen : ∀ b, b ∈ s.waiting ++ s.done ↔ b ∈ s.done := by
    intro b
    simp [hend]
  constructor
  · intro ha
    exact h.below a ((hseen a).mpr ha)
  · intro ha
    have ⟨hroot, hchildren⟩ := h.complete hpeak
    induction ha with
    | refl => exact (hseen root).mp hroot
    | tail _ hc ih => exact (hseen _).mp (hchildren _ ih _ hc)

end Tree

/-- The child number `k` of a node ranks at least `k` lower than the node. -/
structure IsRank (children : α → List α) (rank : α → ℕ) : Prop where
  pos : ∀ a, 0 < rank a
  child : ∀ a k c, (children a)[k]? = some c → k + rank c ≤ rank a

/-- Each waiting node leaves room above it for what its own rank says. -/
def Ranked (rank : α → ℕ) (bound : ℕ) (s : State α) : Prop :=
  s.peak ≤ bound ∧ ∀ i a, s.waiting.reverse[i]? = some a → i + rank a ≤ bound

theorem Ranked.next {rank : α → ℕ} {bound : ℕ} (hrank : IsRank children rank)
    (h : Ranked rank bound s) : Ranked rank bound (Worklist.next limit children s) := by
  cases hw : s.waiting with
  | nil => rwa [next_nil hw]
  | cons a rest =>
    rw [next_cons hw]
    have hpos : ∀ i b, (rest.reverse ++ [a])[i]? = some b → i + rank b ≤ bound := by
      intro i b hb
      apply h.2 i b
      rw [hw, List.reverse_cons]
      exact hb
    have htop : rest.length + rank a ≤ bound := by
      apply hpos
      rw [← List.length_reverse, List.getElem?_concat_length]
    constructor
    · apply Nat.max_le.mpr ⟨h.1, _⟩
      -- the last child that waits ranks at least one
      cases hlen : (children a).length with
      | zero => omega
      | succ m =>
        have ⟨c, hc⟩ : ∃ c, (children a)[m]? = some c :=
          ⟨_, List.getElem?_eq_getElem (by omega)⟩
        have hlast := hrank.child a m c hc
        have hpos := hrank.pos c
        omega
    · intro i b hb
      simp only [List.reverse_append, List.reverse_reverse] at hb
      rcases Nat.lt_or_ge i rest.reverse.length with hi | hi
      · rw [List.getElem?_append_left hi] at hb
        exact hpos i b (by rw [List.getElem?_append_left hi, hb])
      · rw [List.getElem?_append_right hi, List.getElem?_take] at hb
        split at hb
        · have hchild := hrank.child a _ b hb
          rw [List.length_reverse] at hi hchild
          omega
        · cases hb

theorem Ranked.run {rank : α → ℕ} {bound : ℕ} (hrank : IsRank children rank)
    (h : Ranked rank bound s) (fuel : ℕ) :
    Ranked rank bound (Worklist.run limit children fuel s) := by
  induction fuel generalizing s with
  | zero => exact h
  | succ fuel ih => exact ih (h.next hrank)

theorem Ranked.start {rank : α → ℕ} (hrank : IsRank children rank) (root : α) :
    Ranked rank (rank root) (Worklist.start root) := by
  constructor
  · exact hrank.pos root
  · intro i a h
    have hi : i = 0 ∧ root = a := by
      simpa [Worklist.start, List.getElem?_singleton] using h
    rw [hi.1, hi.2, Nat.zero_add]

end Worklist
