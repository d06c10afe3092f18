import Mathlib

namespace Forest

variable {α : Type} (child : α → α → Prop) (root : α)

/-- The nodes on a way from the root to a node, the last one first. -/
inductive PathTo : List α → α → Prop
  | root : PathTo [root] root
  | step {l : List α} {p c : α} (hp : PathTo l p) (hc : child p c) : PathTo (c :: l) c

/-- No node has two parents, and the root has none. -/
structure IsForest : Prop where
  parent_unique : ∀ {p q c}, child p c → child q c → p = q
  root_parent : ∀ {p}, ¬child p root

variable {child root}

theorem PathTo.unique (h : IsForest child root) {l l' : List α} {a : α}
    (hl : PathTo child root l a) (hl' : PathTo child root l' a) : l = l' := by
  induction hl generalizing l' with
  | root =>
    cases hl' with
    | root => rfl
    | step _ hc => exact absurd hc h.root_parent
  | step _ hc ih =>
    cases hl' with
    | root => exact absurd hc h.root_parent
    | step hp' hc' =>
      cases h.parent_unique hc hc'
      rw [ih hp']

theorem PathTo.of_mem {l : List α} {a b : α} (hl : PathTo child root l a) (hb : b ∈ l) :
    ∃ l', PathTo child root l' b ∧ l' <:+ l := by
  induction hl with
  | root =>
    rw [List.mem_singleton.mp hb]
    exact ⟨_, .root, List.suffix_refl _⟩
  | step hp hc ih =>
    obtain rfl | hb := List.mem_cons.mp hb
    · exact ⟨_, .step hp hc, List.suffix_refl _⟩
    · obtain ⟨l', hl', hsuffix⟩ := ih hb
      exact ⟨l', hl', hsuffix.trans (List.suffix_cons _ _)⟩

theorem PathTo.nodup (h : IsForest child root) {l : List α} {a : α}
    (hl : PathTo child root l a) : l.Nodup := by
  induction hl with
  | root => exact List.nodup_singleton _
  | @step l p c hp hc ih =>
    apply List.nodup_cons.mpr ⟨?_, ih⟩
    intro hmem
    obtain ⟨l', hl', hsuffix⟩ := hp.of_mem hmem
    have hlen := hsuffix.length_le
    rw [hl'.unique h (.step hp hc), List.length_cons] at hlen
    omega

theorem exists_path (hwf : WellFounded child) {P : α → Prop}
    (hparent : ∀ a, P a → a = root ∨ ∃ p, P p ∧ child p a) (a : α) (ha : P a) :
    ∃ l, PathTo child root l a := by
  induction a using hwf.induction with
  | _ a ih =>
    rcases hparent a ha with heq | ⟨p, hp, hc⟩
    · exact ⟨[root], heq ▸ .root⟩
    · have ⟨l, hl⟩ := ih p hc hp
      exact ⟨a :: l, .step hl hc⟩

end Forest
