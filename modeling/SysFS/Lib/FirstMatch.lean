import Mathlib

namespace FirstMatch

variable {α κ ν : Type} [DecidableEq κ] {key : α → κ} {rows : List α}

def find (key : α → κ) (rows : List α) (k : κ) : Option α := rows.find? fun x => key x = k

theorem find_key {k : κ} {x : α} (h : find key rows k = some x) : x ∈ rows ∧ key x = k :=
  ⟨List.mem_of_find?_eq_some h, of_decide_eq_true (List.find?_some h :)⟩

theorem find_eq_some {x : α} (hx : x ∈ rows) (honly : ∀ y ∈ rows, key y = key x → y = x) :
    find key rows (key x) = some x := by
  have hsome : (find key rows (key x)).isSome := by
    rw [find, List.find?_isSome]
    exact ⟨x, hx, decide_eq_true rfl⟩
  have ⟨y, hy⟩ := Option.isSome_iff_exists.mp hsome
  have ⟨hmem, hkey⟩ := find_key hy
  rw [hy, honly y hmem hkey]

theorem find_of_mem {x : α} (hnodup : (rows.map key).Nodup) (hx : x ∈ rows) :
    find key rows (key x) = some x :=
  find_eq_some hx fun _ hy hkey => List.inj_on_of_nodup_map hnodup hy hx hkey

theorem nodup_keys_iff {val : α → ν} (hval : (rows.map val).Nodup) :
    (rows.map key).Nodup ↔ ∀ x ∈ rows, (find key rows (key x)).map val = some (val x) := by
  constructor
  · intro hnodup x hx
    rw [find_of_mem hnodup hx, Option.map_some]
  · intro hfound
    apply List.Nodup.map_on _ hval.of_map
    intro x hx y hy hkey
    have hxy := (hfound x hx).symm.trans (hkey ▸ hfound y hy)
    exact List.inj_on_of_nodup_map hval hx hy (Option.some_inj.mp hxy)

end FirstMatch
