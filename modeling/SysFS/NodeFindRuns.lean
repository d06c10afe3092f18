import SysFS.NodeFindSteps

namespace SysFS
open Buckets Transition

section Step
variable {s s' : FindState} {op : FindOp}

/-- What a step does to the invariant and to the nodes with a vnode. -/
theorem findStep_evolves (h : FindInv s) (hstep : findStep s op = some s') :
    FindInv s' ∧ ∀ v, op ≠ .reclaim v → Kept v s.toNodeTable s'.toNodeTable := by
  have hev : Evolves s s' →
      FindInv s' ∧ ∀ v, op ≠ .reclaim v → Kept v s.toNodeTable s'.toNodeTable :=
    fun hev => ⟨hev.inv, fun v _ => hev.kept v⟩
  have hnot : ∀ {c pc}, (s.calls c).pc = pc → (∀ b vnode, pc ≠ .creating b vnode) →
      ∀ b vnode, (s.calls c).pc ≠ .creating b vnode := by
    intro c pc hpc hne
    rw [hpc]
    exact hne
  cases findStep_inv hstep with
  | call hpc =>
    exact hev (evolves_setCall h (hnot hpc nofun) ⟨nofun, fun _ => rfl, nofun, nofun, nofun,
      nofun, nofun, nofun, nofun⟩)
  | round hpc => exact hev (evolves_loopSection h (by rw [hpc]; rfl))
  | @again c hpc =>
    have hdrop := evolves_dropNew h c
    refine hev (hdrop.trans (evolves_loopSection hdrop.inv ?_))
    rw [(dropNew_call s c).1, hpc]
    rfl
  | done hpc => exact hev (evolves_createDone h hpc)
  | allocated hpc => exact hev (evolves_malloc h hpc)
  | @noMemory c hpc =>
    refine hev (evolves_setCall h (hnot hpc nofun) ⟨(h.calls c).fresh, nofun, nofun, nofun,
      nofun, nofun, ?_, nofun, nofun⟩)
    intro target vnode heq
    cases heq
  | @changed c b v hpc =>
    have hins := (h.calls c).searching (by rw [hpc]; rfl)
    exact hev (evolves_setCall h (hnot hpc nofun) ⟨(h.calls c).fresh, fun _ => hins, nofun, nofun,
      nofun, nofun, nofun, nofun, nofun⟩)
  | got hpc hlive => exact hev (evolves_getwithvid h hpc hlive)
  | made hpc => exact hev (evolves_vnodeCreate h hpc)
  | failed hpc herror => exact hev (evolves_createFailed h hpc herror)
  | left hpc => exact hev (evolves_leave h hpc)
  | put hpc => exact hev (evolves_vnodePut h hpc)
  | terminated hlive hio => exact hev (evolves_terminate h hio hlive)
  | reclaimed hv hphase =>
    have ⟨hinv, hkept⟩ := findInv_reclaim h hv hphase
    exact ⟨hinv, fun v' hne => hkept v' fun heq => hne (heq ▸ rfl)⟩

end Step

/-- What holds of the table while the lock is free. -/
structure NodeTableOk (s : FindState) : Prop where
  unique : ∀ b ∈ s.nodes, ∀ b' ∈ s.nodes, (s.mem b).key = (s.mem b').key → b = b'
  once : s.nodes.Nodup
  placed : ∀ i, ∀ b ∈ bucket s.buckets i, bucketOf s.hashMask (s.mem b).key = i
  live : s.liveNodes = s.nodes.length
  attached : ∀ b ∈ s.nodes, (s.mem b).nodeVnode.isSome = true ∨
    (s.mem b).nodeAttachingVnode = true ∧ ∃! c, ∃ vnode, (s.calls c).pc = .creating b vnode

/-- What the call `c` gives its caller. -/
structure FindReturnOk (s : FindState) (c : ℕ) : Prop where
  found : ∀ snp vnp, (s.calls c).pc = .returned 0 snp vnp true →
    ∃ b v, snp = some b ∧ vnp = some v ∧
    b ∈ s.nodes ∧ (s.mem b).key = (s.calls c).args.key ∧ (s.mem b).nodeVnode = some v
  failed : ∀ error snp vnp iocount, (s.calls c).pc = .returned error snp vnp iocount → error ≠ 0 →
    snp = none ∧ vnp = none ∧ ∀ b ∈ s.nodes, s.owner b = c → (s.mem b).nodeVnode.isSome = true

section Runs
variable {s s' : FindState}

theorem nodeTableOk_of_inv (h : FindInv s) : NodeTableOk s := by
  refine ⟨h.table.unique, h.table.nodup, h.table.placed, h.table.live, fun b hb => ?_⟩
  cases hvnode : (s.mem b).nodeVnode with
  | some v => exact .inl rfl
  | none =>
    have ⟨hattach, hcreating⟩ := h.blocks.attaching b hb hvnode
    refine .inr ⟨hattach, s.owner b, hcreating, fun c hc => ?_⟩
    have ⟨vnode, hpc⟩ := hc
    have ⟨_, _, howner, _⟩ := (h.calls c).creating b vnode hpc
    exact howner.symm

theorem findReturnOk_of_inv (h : FindInv s) (c : ℕ) : FindReturnOk s c := by
  refine ⟨fun snp vnp hpc => ?_, fun error snp vnp iocount hpc herror => ?_⟩
  · have ⟨b, v, hsnp, hvnp, hheld⟩ := (h.calls c).returned snp vnp hpc
    exact ⟨b, v, hsnp, hvnp, hheld.node, hheld.key, hheld.vnode⟩
  · have ⟨hsnp, hvnp⟩ := (h.calls c).failed error snp vnp iocount hpc herror
    refine ⟨hsnp, hvnp, fun b hb howner => Option.isSome_iff_ne_none.mpr fun hnone => ?_⟩
    -- the call that added the node would still be in its callback
    have ⟨_, vnode, hcreating⟩ := h.blocks.attaching b hb hnone
    rw [howner, hpc] at hcreating
    cases hcreating

theorem findInv_run {ops : List FindOp} (h : FindInv s) (hrun : run findStep s ops = some s') :
    FindInv s' := by
  induction ops generalizing s with
  | nil => exact Option.some.inj hrun ▸ h
  | cons op ops ih =>
    have ⟨s₁, hstep, hrest⟩ := Option.bind_eq_some_iff.mp hrun
    exact ih (findStep_evolves h hstep).1 hrest

/-- A node with a vnode stays in the table until the vnode is reclaimed. -/
theorem kept_run {ops : List FindOp} {b v : ℕ} (h : FindInv s)
    (hrun : run findStep s ops = some s') (hno : FindOp.reclaim v ∉ ops) (hb : b ∈ s.nodes)
    (hv : (s.mem b).nodeVnode = some v) :
    b ∈ s'.nodes ∧ (s'.mem b).nodeVnode = some v ∧ (s'.mem b).key = (s.mem b).key := by
  induction ops generalizing s with
  | nil => exact Option.some.inj hrun ▸ ⟨hb, hv, rfl⟩
  | cons op ops ih =>
    have ⟨s₁, hstep, hrest⟩ := Option.bind_eq_some_iff.mp hrun
    have hev := findStep_evolves h hstep
    have hop : op ≠ .reclaim v := fun heq => hno (heq ▸ List.mem_cons_self)
    have ⟨hb₁, hv₁, hkey₁⟩ := hev.2 v hop b hb hv
    have ⟨hb', hv', hkey'⟩ := ih hev.1 hrest (fun hmem => hno (List.mem_cons_of_mem _ hmem)) hb₁ hv₁
    exact ⟨hb', hv', hkey'.trans hkey₁⟩

/-- In every run of finds and reclaims the table is in order whenever the lock is free, a find
returns the node it was asked for or nothing, and two finds of one node return the same node
and vnode if the vnode is not reclaimed in between. -/
theorem find_interleavings_ok (mask : UInt64) :
    (∀ ops s, run findStep (.init mask) ops = some s → NodeTableOk s ∧ ∀ c, FindReturnOk s c) ∧
    ∀ ops s c₁ b₁ v₁, run findStep (.init mask) ops = some s →
      (s.calls c₁).pc = .returned 0 (some b₁) (some v₁) true →
      ∀ ops' s' c₂ b₂ v₂, run findStep s ops' = some s' → FindOp.reclaim v₁ ∉ ops' →
        (s'.calls c₂).pc = .returned 0 (some b₂) (some v₂) true →
        (s'.calls c₂).args.key = (s.calls c₁).args.key → b₂ = b₁ ∧ v₂ = v₁ := by
  refine ⟨fun ops s hrun => ?_, ?_⟩
  · have hinv := findInv_run (findInv_init mask) hrun
    exact ⟨nodeTableOk_of_inv hinv, findReturnOk_of_inv hinv⟩
  · intro ops s c₁ b₁ v₁ hrun hpc₁ ops' s' c₂ b₂ v₂ hrun' hno hpc₂ hkey
    have hinv := findInv_run (findInv_init mask) hrun
    have hinv' := findInv_run hinv hrun'
    have ⟨b, v, hb, hv, hheld₁⟩ := (hinv.calls c₁).returned _ _ hpc₁
    cases hb
    cases hv
    have ⟨b, v, hb, hv, hheld₂⟩ := (hinv'.calls c₂).returned _ _ hpc₂
    cases hb
    cases hv
    have ⟨hnode, hvnode, hkey₁⟩ := kept_run hinv hrun' hno hheld₁.node hheld₁.vnode
    have heq : b₂ = b₁ := by
      apply hinv'.table.unique b₂ hheld₂.node b₁ hnode
      rw [hheld₂.key, hkey, hkey₁, hheld₁.key]
    refine ⟨heq, ?_⟩
    have hvnode₂ := hheld₂.vnode
    rw [heq, hvnode] at hvnode₂
    exact (Option.some.inj hvnode₂).symm

end Runs

-- two calls race for one node: the second sleeps while the first is in its callback
example : (run findStep (.init 3) [.call 0 noNode, .call 1 noNode, .lock 0, .lock 1, .malloc 0 true,
    .malloc 1 true, .lock 0, .lock 1, .vnodeCreate 0, .lock 0, .lock 1, .leave 0,
    .getwithvid 1 true,
    .leave 1]).any (fun s => (s.calls 0).pc = .returned 0 (some 0) (some 0) true ∧
      (s.calls 1).pc = .returned 0 (some 0) (some 0) true ∧ s.nodes = [0] ∧
        s.freed = [1]) = true := by
  decide +kernel

end SysFS
