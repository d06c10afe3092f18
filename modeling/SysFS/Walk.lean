import SysFS.HashedLookup
import SysFS.NodeFindAsked

namespace SysFS
open Buckets CString Transition

/-- Where a walk is. In `holding` it has the vnode that the call returned, in `looking` it
holds the directory by the first call and waits for the second. -/
inductive WalkPc where
  | idle
  | rooting (c : ℕ)
  | holding (c : ℕ)
  | looking (c next : ℕ) (cn : CStr) (g : GSnapshot)

/-- A walk on a mount: the components that were looked up, each with the snapshot it was
looked up in. -/
structure Walk where
  mnt : Int32
  steps : List (CStr × GSnapshot)
  pc : WalkPc

structure WalkState extends FindState where
  walks : ℕ → Walk

def WalkState.init (mask : UInt64) : WalkState := ⟨.init mask, fun _ => ⟨0, [], .idle⟩⟩

namespace WalkState
variable (s : WalkState)

def setFind (f : FindState) : WalkState := { s with toFindState := f }

def setWalk (w : ℕ) (walk : Walk) : WalkState :=
  { s with walks := Function.update s.walks w walk }

/-- `VTOSFS(vp)`. -/
def vtosfs (v : ℕ) : Sfsnode := (s.mem (s.vnodes v).fsnode).toSfsnode

def vnode (w : ℕ) : Option ℕ :=
  match (s.walks w).pc with
  | .holding c =>
    match (s.calls c).pc with
    | .returned _ _ vnp true => vnp
    | _ => none
  | _ => none

end WalkState

inductive WalkOp where
  | find (op : FindOp)
  | root (w : ℕ) (mnt : Int32) (c : ℕ)
  | lookup (w : ℕ) (cn : CStr) (g : GSnapshot) (c : ℕ)
  | arrive (w : ℕ)
  | put (w : ℕ)

/-- A step inside a call or of VFS. Calls are made, and their vnodes put, by walks. -/
def FindOp.inner : FindOp → Bool
  | .call _ _ | .vnodePut _ => false
  | _ => true

/-- One step. A lookup of `.` takes another iocount on the directory, for which the old one
is dropped; every other lookup that matches is a call of `sysfsnode_find`. -/
def walkStep (t : Tree) (s : WalkState) : WalkOp → Option WalkState
  | .find op => if op.inner then (findStep s.toFindState op).map s.setFind else none
  | .root w mnt c =>
    match (s.walks w).pc with
    | .idle =>
      (findStep s.toFindState (.call c (sysfsRoot mnt))).map fun f =>
        (s.setFind f).setWalk w ⟨mnt, [], .rooting c⟩
    | _ => none
  | .lookup w cn g next =>
    match (s.walks w).pc with
    | .holding c =>
      match (s.calls c).pc with
      | .returned _ _ (some dvp) true =>
        match sysfsVnopLookup t g (s.vtosfs dvp) cn with
        | .error _ => some s
        | .ok target =>
          if cn = cstr "." then
            some (s.setWalk w { s.walks w with steps := (s.walks w).steps ++ [(cn, g)] })
          else
            (findStep s.toFindState (.call next target)).map fun f =>
              (s.setFind f).setWalk w { s.walks w with pc := .looking c next cn g }
      | _ => none
    | _ => none
  | .arrive w =>
    match (s.walks w).pc with
    | .rooting c =>
      match (s.calls c).pc with
      | .returned error _ _ true =>
        some (s.setWalk w { s.walks w with pc := if error = 0 then .holding c else .idle })
      | _ => none
    | .looking c next cn g =>
      match (s.calls next).pc with
      | .returned error _ _ true =>
        if error = 0 then
          (findStep s.toFindState (.vnodePut c)).map fun f =>
            (s.setFind f).setWalk w
              ⟨(s.walks w).mnt, (s.walks w).steps ++ [(cn, g)], .holding next⟩
        else some (s.setWalk w { s.walks w with pc := .holding c })
      | _ => none
    | _ => none
  | .put w =>
    match (s.walks w).pc with
    | .holding c =>
      (findStep s.toFindState (.vnodePut c)).map fun f =>
        (s.setFind f).setWalk w { s.walks w with pc := .idle }
    | _ => none

def FindState.hash {t : Tree} (s : FindState) (h : Asked (NodeOk t) s) : NodeHash t where
  nodes := s.nodes.map fun b => (s.mem b).toSfsnode
  ok := by
    intro n hn
    obtain ⟨b, hb, rfl⟩ := List.mem_map.mp hn
    exact h.nodes b hb

theorem FindState.hash_find {t : Tree} {s : FindState} (hinv : FindInv s)
    (h : Asked (NodeOk t) s) {b : ℕ} (hb : b ∈ s.nodes) {n : Sfsnode}
    (hkey : (s.mem b).key = n.key) : (s.hash h).find n = (s.mem b).toSfsnode := by
  have hmem : (s.mem b).toSfsnode ∈ (s.hash h).nodes := List.mem_map.mpr ⟨b, hb, rfl⟩
  rw [NodeHash.find]
  cases hfind : (s.hash h).nodes.find? fun m => m.key = n.key with
  | none => exact absurd (decide_eq_true hkey) (List.find?_eq_none.mp hfind _ hmem)
  | some m =>
    -- the hash has one node for a key
    obtain ⟨b', hb', rfl⟩ := List.mem_map.mp (List.mem_of_find?_eq_some hfind)
    have hkey' := List.find?_some hfind
    have heq : b' = b :=
      hinv.table.unique b' hb' b hb ((of_decide_eq_true hkey').trans hkey.symm)
    rw [heq]
    rfl

/-- The call has returned a vnode of the node `n` and has its iocount. -/
def FindState.Returned (s : FindState) (c : ℕ) (n : Sfsnode) : Prop :=
  ∃ b v, (s.calls c).pc = .returned 0 (some b) (some v) true ∧ (s.mem b).toSfsnode = n

structure Holding (t : Tree) (s : FindState) (mnt : Int32) (steps : List (CStr × GSnapshot))
    (c : ℕ) (n : Sfsnode) : Prop where
  returned : s.Returned c n
  resolved : ∃ hash, walkFromRoot t hash mnt steps = .ok n

def WalkOk (t : Tree) (s : FindState) (walk : Walk) : Prop :=
  match walk.pc with
  | .idle => True
  | .rooting c => (s.calls c).pc ≠ .idle ∧ walk.steps = [] ∧ (s.calls c).args = sysfsRoot walk.mnt
  | .holding c => ∃ n, Holding t s walk.mnt walk.steps c n
  | .looking c next cn g => ∃ n, Holding t s walk.mnt walk.steps c n ∧ next ≠ c ∧
      (s.calls next).pc ≠ .idle ∧ cn ≠ cstr "." ∧
      sysfsVnopLookup t g n cn = .ok (s.calls next).args

def Walk.calls (walk : Walk) : List ℕ :=
  match walk.pc with
  | .idle => []
  | .rooting c | .holding c => [c]
  | .looking c next _ _ => [c, next]

structure WalkInv (t : Tree) (s : WalkState) : Prop where
  find : FindInv s.toFindState
  asked : Asked (NodeOk t) s.toFindState
  walks : ∀ w, WalkOk t s.toFindState (s.walks w)
  made : ∀ w, ∀ c ∈ (s.walks w).calls, (s.calls c).pc ≠ .idle
  own : ∀ w w' c, c ∈ (s.walks w).calls → c ∈ (s.walks w').calls → w = w'

section Inv
variable {t : Tree} {s : WalkState} {f f' : FindState}

theorem walkInv_init (t : Tree) (mask : UInt64) : WalkInv t (.init mask) := by
  refine ⟨findInv_init mask, asked_init mask, fun _ => trivial, ?_, ?_⟩
  · intro w c hc
    cases hc
  · intro w w' c hc
    cases hc

/-- The vnode that a call returned belongs to a node in the hash with the key that the call was
made for. -/
theorem returned_node (hfind : FindInv f) {c b v : ℕ}
    (hpc : (f.calls c).pc = .returned 0 (some b) (some v) true) :
    Holds f.toNodeTable c (f.calls c).args.key b v ∧ (f.vnodes v).fsnode = b := by
  obtain ⟨b', v', hb, hv, hheld⟩ := (hfind.calls c).returned _ _ hpc
  cases hb
  cases hv
  exact ⟨hheld, (hfind.blocks.attached b hheld.node v hheld.vnode).2.2.1⟩

theorem FindState.Returned.ages {c : ℕ} {n : Sfsnode} (h : f.Returned c n) (hfind : FindInv f)
    (hnames : NamesKept f f') (hages : CallAges (f.calls c) (f'.calls c)) : f'.Returned c n := by
  obtain ⟨b, v, hpc, hnode⟩ := h
  refine ⟨b, v, ?_, ?_⟩
  · rw [hages.returned _ _ _ hpc, hpc]
  · rw [hnames b (returned_node hfind hpc).1.node, hnode]

theorem WalkOk.ages {walk : Walk} (h : WalkOk t f walk) (hfind : FindInv f)
    (hnames : NamesKept f f')
    (hages : ∀ c ∈ walk.calls, CallAges (f.calls c) (f'.calls c)) : WalkOk t f' walk := by
  obtain ⟨mnt, steps, pc⟩ := walk
  cases pc with
  | idle => trivial
  | rooting c =>
    obtain ⟨hpc, hsteps, hargs⟩ := h
    obtain ⟨hpc', hargs'⟩ := (hages c (by simp [Walk.calls])).made hpc
    exact ⟨hpc', hsteps, hargs'.trans hargs⟩
  | holding c =>
    obtain ⟨n, hret, hres⟩ := h
    exact ⟨n, hret.ages hfind hnames (hages c (by simp [Walk.calls])), hres⟩
  | looking c next cn g =>
    obtain ⟨n, ⟨hret, hres⟩, hne, hpc, hdot, hlook⟩ := h
    obtain ⟨hpc', hargs'⟩ := (hages next (by simp [Walk.calls])).made hpc
    refine ⟨n, ⟨hret.ages hfind hnames (hages c (by simp [Walk.calls])), hres⟩, hne, hpc', hdot, ?_⟩
    rw [hargs', hlook]

theorem WalkInv.next (h : WalkInv t s) {w : ℕ} {walk : Walk} (hfind : FindInv f)
    (hasked : Asked (NodeOk t) f) (hnames : NamesKept s.toFindState f)
    (hages : ∀ c, (∀ w', w' ≠ w → c ∉ (s.walks w').calls) ∨ CallAges (s.calls c) (f.calls c))
    (hok : WalkOk t f walk) (hmade : ∀ c ∈ walk.calls, (f.calls c).pc ≠ .idle)
    (hown : ∀ c ∈ walk.calls, c ∈ (s.walks w).calls ∨ (s.calls c).pc = .idle) :
    WalkInv t ((s.setFind f).setWalk w walk) := by
  have hother : ∀ w' ≠ w, ∀ c ∈ (s.walks w').calls, CallAges (s.calls c) (f.calls c) :=
    fun w' hw' c hc => (hages c).resolve_left fun hno => hno w' hw' hc
  have hwalks : ∀ w', ((s.setFind f).setWalk w walk).walks w' =
      if w' = w then walk else s.walks w' := by
    intro w'
    simp [WalkState.setWalk, WalkState.setFind, Function.update_apply]
  -- a call of another walk was made before, so it is not a new call of this one
  have hnew : ∀ w' ≠ w, ∀ c ∈ walk.calls, c ∉ (s.walks w').calls := by
    intro w' hw' c hc hc'
    rcases hown c hc with hmine | hidle
    · exact hw' (h.own w' w c hc' hmine)
    · exact h.made w' c hc' hidle
  refine ⟨hfind, hasked, ?_, ?_, ?_⟩
  · intro w'
    rw [hwalks]
    split
    · exact hok
    · next hw' => exact (h.walks w').ages h.find hnames (hother w' hw')
  · intro w' c hc
    rw [hwalks] at hc
    split at hc
    · exact hmade c hc
    · next hw' => exact ((hother w' hw' c hc).made (h.made w' c hc)).1
  · intro w₁ w₂ c hc₁ hc₂
    rw [hwalks] at hc₁ hc₂
    split at hc₁ <;> split at hc₂
    · next hw₁ hw₂ => rw [hw₁, hw₂]
    · next hw₁ hw₂ => exact absurd hc₂ (hnew w₂ hw₂ c hc₁)
    · next hw₁ hw₂ => exact absurd hc₁ (hnew w₁ hw₁ c hc₂)
    · exact h.own w₁ w₂ c hc₁ hc₂

theorem vnodePut_calls {c c' : ℕ} (hstep : findStep f (.vnodePut c) = some f')
    (hc : c' ≠ c) : f'.calls c' = f.calls c' := by
  -- dropping an iocount moves no other call
  cases findStep_inv hstep with
  | put hpc => exact after_of_ne hc _ _

theorem call_calls {c : ℕ} {args : Sfsnode} (hstep : findStep f (.call c args) = some f') :
    (f.calls c).pc = .idle ∧ (f'.calls c).pc ≠ .idle ∧ (f'.calls c).args = args := by
  cases findStep_inv hstep with
  | call hpc =>
    have hself := after_self (s := f) (c := c) f.toNodeTable ⟨args, none, false, .top⟩
    refine ⟨hpc, ?_, ?_⟩
    · rw [show (f.setCall c ⟨args, none, false, .top⟩).calls c = _ from hself]
      exact nofun
    · rw [show (f.setCall c ⟨args, none, false, .top⟩).calls c = _ from hself]

theorem walkInv_find (h : WalkInv t s) {op : FindOp} (hinner : op.inner = true)
    (hstep : findStep s.toFindState op = some f) : WalkInv t (s.setFind f) := by
  have hages : Ages s.toFindState f := by
    apply findStep_ages h.find hstep
    rintro c rfl
    cases hinner
  have hasked : Asked (NodeOk t) f := by
    apply asked_step h.asked h.find hstep
    rintro c args rfl
    cases hinner
  refine ⟨(findStep_evolves h.find hstep).1, hasked, ?_, ?_, h.own⟩
  · exact fun w => (h.walks w).ages h.find (findStep_names h.find hstep) fun c _ => hages c
  · exact fun w c hc => ((hages c).made (h.made w c hc)).1

theorem walkInv_call (h : WalkInv t s) {w c : ℕ} {args : Sfsnode} {walk : Walk}
    (hargs : NodeOk t args) (hstep : findStep s.toFindState (.call c args) = some f)
    (hok : Ages s.toFindState f → (f.calls c).pc ≠ .idle → (f.calls c).args = args →
      WalkOk t f walk)
    (hcalls : ∀ c' ∈ walk.calls, c' = c ∨ c' ∈ (s.walks w).calls) :
    WalkInv t ((s.setFind f).setWalk w walk) := by
  have hages : Ages s.toFindState f := findStep_ages h.find hstep nofun
  have hasked : Asked (NodeOk t) f := by
    apply asked_step h.asked h.find hstep
    rintro c' args' heq
    cases heq
    exact hargs
  obtain ⟨hidle, hmade, heq⟩ := call_calls hstep
  refine h.next (findStep_evolves h.find hstep).1 hasked (findStep_names h.find hstep)
    (fun c' => .inr (hages c')) (hok hages hmade heq) ?_ ?_
  · intro c' hc'
    rcases hcalls c' hc' with hnew | hold
    · rw [hnew]
      exact hmade
    · exact ((hages c').made (h.made w c' hold)).1
  · intro c' hc'
    rcases hcalls c' hc' with hnew | hold
    · rw [hnew]
      exact .inr hidle
    · exact .inl hold

theorem walkInv_put (h : WalkInv t s) {w c : ℕ} {walk : Walk} (hmine : c ∈ (s.walks w).calls)
    (hstep : findStep s.toFindState (.vnodePut c) = some f)
    (hok : (∀ c' ≠ c, f.calls c' = s.calls c') → WalkOk t f walk)
    (hcalls : ∀ c' ∈ walk.calls, c' ≠ c ∧ c' ∈ (s.walks w).calls) :
    WalkInv t ((s.setFind f).setWalk w walk) := by
  have hasked : Asked (NodeOk t) f := asked_step h.asked h.find hstep nofun
  refine h.next (findStep_evolves h.find hstep).1 hasked (findStep_names h.find hstep) ?_
    (hok fun c' hc' => vnodePut_calls hstep hc') ?_ ?_
  · intro c'
    by_cases hc' : c' = c
    · -- the call is this walk's own
      refine .inl fun w' hw' hmem => hw' (h.own w' w c' hmem ?_)
      rw [hc']
      exact hmine
    · rw [vnodePut_calls hstep hc']
      exact .inr (.refl _)
  · intro c' hc'
    obtain ⟨hne, hold⟩ := hcalls c' hc'
    rw [vnodePut_calls hstep hne]
    exact h.made w c' hold
  · exact fun c' hc' => .inl (hcalls c' hc').2

theorem walkInv_walk (h : WalkInv t s) {w : ℕ} {walk : Walk} (hok : WalkOk t s.toFindState walk)
    (hcalls : ∀ c ∈ walk.calls, c ∈ (s.walks w).calls) : WalkInv t (s.setWalk w walk) :=
  h.next h.find h.asked (fun _ _ => rfl) (fun _ => .inr (.refl _)) hok
    (fun c hc => h.made w c (hcalls c hc)) fun c hc => .inl (hcalls c hc)

section Steps
variable {w c : ℕ} {s' : WalkState}

theorem walkInv_lookup (ht : TreeOk t) (h : WalkInv t s) {cn : CStr}
    {g : GSnapshot} {next : ℕ} (hpc : (s.walks w).pc = .holding c)
    (hstep : walkStep t s (.lookup w cn g next) = some s') : WalkInv t s' := by
  have hok := h.walks w
  simp only [WalkOk, hpc] at hok
  obtain ⟨n, ⟨hreturned, hash, hresolved⟩⟩ := hok
  obtain ⟨b, dvp, hret, hnode⟩ := hreturned
  obtain ⟨hheld, hfs⟩ := returned_node h.find hret
  have hdirOk : NodeOk t n := hnode ▸ h.asked.nodes b hheld.node
  -- the directory is the node that the walk has come to
  have hdir : s.vtosfs dvp = n := by
    rw [WalkState.vtosfs, hfs, hnode]
  simp only [walkStep, hpc, hret, hdir] at hstep
  split at hstep
  · cases hstep
    exact h
  next target hlook =>
  split at hstep
  · next hdot =>
    cases hstep
    have heq : target = n := by
      cases (lookup_spec hlook).2 with
      | dotdot hcn =>
        rw [hdot] at hcn
        exact absurd hcn (by decide)
      | dot => rfl
      | found _ hne => exact absurd hdot hne
    -- the vnode is taken as it is
    have hlast : lookupIn t g (s.toFindState.hash h.asked) n cn = .ok n := by
      rw [lookupIn, hlook, heq]
      exact congrArg Except.ok (if_pos hdot)
    apply walkInv_walk h
    · exact ⟨n, ⟨b, dvp, hret, hnode⟩, walkFromRoot_concat hresolved hlast⟩
    · simp [Walk.calls, hpc]
  · next hdot =>
    obtain ⟨f, hf, rfl⟩ := Option.map_eq_some_iff.mp hstep
    have hne : next ≠ c := by
      rintro rfl
      cases hret.symm.trans (call_calls hf).1
    apply walkInv_call h (lookup_nodeOk ht hdirOk hlook) hf
    · intro hages hmade hargs
      have hreturned : s.toFindState.Returned c n := ⟨b, dvp, hret, hnode⟩
      refine ⟨n, ⟨hreturned.ages h.find (findStep_names h.find hf) (hages c), hash, hresolved⟩,
        hne, hmade, hdot, ?_⟩
      rw [hargs, hlook]
    · simp [Walk.calls, hpc, or_comm]

theorem walkInv_arriveRoot (h : WalkInv t s) (hpc : (s.walks w).pc = .rooting c)
    (hstep : walkStep t s (.arrive w) = some s') : WalkInv t s' := by
  have hok := h.walks w
  simp only [WalkOk, hpc] at hok
  obtain ⟨-, hsteps, hargs⟩ := hok
  simp only [walkStep, hpc] at hstep
  split at hstep
  · next error snp vnp hret =>
    cases hstep
    by_cases herror : error = 0
    · rw [herror] at hret ⊢
      obtain ⟨b, v, rfl, rfl, -⟩ := (h.find.calls c).returned _ _ hret
      obtain ⟨hheld, -⟩ := returned_node h.find hret
      have hroot := FindState.hash_find h.find h.asked hheld.node hheld.key
      rw [hargs] at hroot
      apply walkInv_walk h
      · refine ⟨_, ⟨b, v, hret, rfl⟩, fun _ => s.toFindState.hash h.asked, ?_⟩
        rw [hsteps]
        exact congrArg Except.ok hroot
      · simp [Walk.calls, hpc]
    · rw [if_neg herror]
      apply walkInv_walk h
      · trivial
      · simp [Walk.calls]
  · cases hstep

theorem walkInv_arriveNext (h : WalkInv t s) {next : ℕ} {cn : CStr} {g : GSnapshot}
    (hpc : (s.walks w).pc = .looking c next cn g)
    (hstep : walkStep t s (.arrive w) = some s') : WalkInv t s' := by
  have hok := h.walks w
  simp only [WalkOk, hpc] at hok
  obtain ⟨n, hhold, hne, hmade, hdot, hlook⟩ := hok
  simp only [walkStep, hpc] at hstep
  split at hstep
  · next error snp vnp hret =>
    split at hstep
    · next herror =>
      rw [herror] at hret
      obtain ⟨f, hf, rfl⟩ := Option.map_eq_some_iff.mp hstep
      obtain ⟨b, v, rfl, rfl, -⟩ := (h.find.calls next).returned _ _ hret
      obtain ⟨hheld, -⟩ := returned_node h.find hret
      -- what the call returned is what is in the hash for the node that was looked up
      have hlast : lookupIn t g (s.toFindState.hash h.asked) n cn = .ok (s.mem b).toSfsnode := by
        rw [lookupIn, hlook]
        refine congrArg Except.ok ((if_neg hdot).trans ?_)
        exact FindState.hash_find h.find h.asked hheld.node hheld.key
      obtain ⟨hash, hresolved⟩ := hhold.resolved
      apply walkInv_put h _ hf
      · intro hsame
        refine ⟨_, ⟨b, v, ?_, findStep_names h.find hf b hheld.node⟩,
          walkFromRoot_concat hresolved hlast⟩
        rw [hsame next hne, hret]
      · simp [Walk.calls, hpc, hne]
      · simp [Walk.calls, hpc]
    · cases hstep
      apply walkInv_walk h
      · exact ⟨n, hhold⟩
      · simp [Walk.calls, hpc]
  · cases hstep

theorem walkInv_step (ht : TreeOk t) (hroot : ∀ mnt, NodeOk t (sysfsRoot mnt)) (h : WalkInv t s)
    {op : WalkOp} (hstep : walkStep t s op = some s') : WalkInv t s' := by
  cases op with
  | find op =>
    obtain ⟨hinner, hs⟩ := Option.ite_none_right_eq_some.mp hstep
    obtain ⟨f, hf, rfl⟩ := Option.map_eq_some_iff.mp hs
    exact walkInv_find h hinner hf
  | root w mnt c =>
    simp only [walkStep] at hstep
    split at hstep
    · obtain ⟨f, hf, rfl⟩ := Option.map_eq_some_iff.mp hstep
      apply walkInv_call h (hroot mnt) hf
      · exact fun _ hmade hargs => ⟨hmade, rfl, hargs⟩
      · simp [Walk.calls]
    · cases hstep
  | lookup w cn g next =>
    cases hpc : (s.walks w).pc with
    | holding c => exact walkInv_lookup ht h hpc hstep
    | idle | rooting | looking =>
      simp only [walkStep, hpc] at hstep
      cases hstep
  | arrive w =>
    cases hpc : (s.walks w).pc with
    | rooting c => exact walkInv_arriveRoot h hpc hstep
    | looking c next cn g => exact walkInv_arriveNext h hpc hstep
    | idle | holding =>
      simp only [walkStep, hpc] at hstep
      cases hstep
  | put w =>
    simp only [walkStep] at hstep
    split at hstep
    · next c hpc =>
      obtain ⟨f, hf, rfl⟩ := Option.map_eq_some_iff.mp hstep
      apply walkInv_put h _ hf
      · exact fun _ => trivial
      · simp [Walk.calls]
      · simp [Walk.calls, hpc]
    · cases hstep

end Steps

end Inv

section Runs
variable {t : Tree} {s s' : WalkState}

theorem walkInv_run (ht : TreeOk t) (hroot : ∀ mnt, NodeOk t (sysfsRoot mnt)) {ops : List WalkOp}
    (h : WalkInv t s) (hrun : run (walkStep t) s ops = some s') : WalkInv t s' := by
  induction ops generalizing s with
  | nil => exact Option.some.inj hrun ▸ h
  | cons op ops ih =>
    obtain ⟨s₁, hstep, hrest⟩ := Option.bind_eq_some_iff.mp hrun
    exact ih (walkInv_step ht hroot h hstep) hrest

theorem WalkInv.vnode_spec (h : WalkInv t s) {w v : ℕ} (hv : s.vnode w = some v) :
    (s.vnodes v).phase = .live ∧ (s.vnodes v).fsnode ∈ s.nodes ∧
      (s.mem (s.vnodes v).fsnode).nodeVnode = some v ∧
      ∃ hash, walkFromRoot t hash (s.walks w).mnt (s.walks w).steps = .ok (s.vtosfs v) := by
  unfold WalkState.vnode at hv
  split at hv
  swap
  · cases hv
  next c hpc =>
  have hok := h.walks w
  simp only [WalkOk, hpc] at hok
  obtain ⟨n, ⟨b, v', hret, hnode⟩, hresolved⟩ := hok
  rw [hret] at hv
  cases hv
  obtain ⟨hheld, hfs⟩ := returned_node h.find hret
  rw [WalkState.vtosfs, hfs, hnode]
  exact ⟨hheld.phase, hheld.node, hheld.vnode, hresolved⟩

theorem walkInv_reached {start : UInt16} {ncpu : UInt32} {mask : UInt64} {ops : List WalkOp}
    (hrun : run (walkStep (builtTree start ncpu)) (.init mask) ops = some s) :
    WalkInv (builtTree start ncpu) s :=
  walkInv_run (builtTree_treeOk start ncpu) (nodeOk_root start ncpu) (walkInv_init _ mask) hrun

end Runs

section Mounts
variable {history : List UInt32} {ncpu : UInt32} {t : Tree}

/-- The tree of a mount, whose ids are distinct under the condition on the mounts before it. -/
theorem mounted_tree (hids : 2 ≤ firstId history ∧ firstId history + idCount ncpu ≤ 2 ^ 16 + 1)
    (ht : (sysfsStructureInit ncpu (afterCycles history)).rootNode = some t) :
    t = builtTree (UInt16.ofNat (firstId history)) ncpu ∧
      BaseIdsDistinct (builtTree (UInt16.ofNat (firstId history)) ncpu) := by
  rw [latestTree_eq, Option.some_inj] at ht
  exact ⟨ht.symm, (builtTree_ids_nodup_iff (firstId_lt history) ncpu).mpr hids⟩

/-- In every run of walks, finds and reclaims: the vnode a walk has come to is live, its node
is in the hash, and that node is what the lookups of the walk give when they are made one
after the other without vnodes. -/
theorem walks_refine_lookups
    (hids : 2 ≤ firstId history ∧ firstId history + idCount ncpu ≤ 2 ^ 16 + 1)
    (ht : (sysfsStructureInit ncpu (afterCycles history)).rootNode = some t) (mask : UInt64)
    {ops : List WalkOp} {s : WalkState} (hrun : run (walkStep t) (.init mask) ops = some s)
    {w v : ℕ} (hv : s.vnode w = some v) :
    (s.vnodes v).phase = .live ∧ (s.vnodes v).fsnode ∈ s.nodes ∧
      resolveSteps t (sysfsRoot (s.walks w).mnt) (s.walks w).steps = .ok (s.vtosfs v) := by
  obtain ⟨rfl, hdistinct⟩ := mounted_tree hids ht
  obtain ⟨hphase, hnode, -, hash, hresolved⟩ := (walkInv_reached hrun).vnode_spec hv
  rw [walkFromRoot_eq hdistinct] at hresolved
  exact ⟨hphase, hnode, hresolved⟩

/-- In every run of walks, finds and reclaims: two walks have the same vnode exactly when
their lookups lead to the same node. -/
theorem walks_share_vnode_iff
    (hids : 2 ≤ firstId history ∧ firstId history + idCount ncpu ≤ 2 ^ 16 + 1)
    (ht : (sysfsStructureInit ncpu (afterCycles history)).rootNode = some t) (mask : UInt64)
    {ops : List WalkOp} {s : WalkState} (hrun : run (walkStep t) (.init mask) ops = some s)
    {w w' v v' : ℕ} (hv : s.vnode w = some v) (hv' : s.vnode w' = some v') :
    v = v' ↔ resolveSteps t (sysfsRoot (s.walks w).mnt) (s.walks w).steps =
      resolveSteps t (sysfsRoot (s.walks w').mnt) (s.walks w').steps := by
  obtain ⟨rfl, hdistinct⟩ := mounted_tree hids ht
  have hinv := walkInv_reached hrun
  obtain ⟨-, hnode, hvnode, hash, hresolved⟩ := hinv.vnode_spec hv
  obtain ⟨-, hnode', hvnode', hash', hresolved'⟩ := hinv.vnode_spec hv'
  rw [walkFromRoot_eq hdistinct] at hresolved hresolved'
  rw [hresolved, hresolved']
  constructor
  · rintro rfl
    rfl
  · intro heq
    have hsame : s.vtosfs v = s.vtosfs v' := Except.ok.inj heq
    -- one node for a key, and one vnode for a node
    have hblock : (s.vnodes v).fsnode = (s.vnodes v').fsnode :=
      hinv.find.table.unique _ hnode _ hnode' (congrArg Sfsnode.key hsame)
    rw [hblock, hvnode'] at hvnode
    exact (Option.some.inj hvnode).symm

/-- Two walks on one mount. The first makes the root and goes to `devices` and back, the
second finds the root. -/
def thereAndBack : List WalkOp :=
  [.root 0 1 0, .root 1 1 1] ++
    ([.lock 0, .lock 1, .malloc 0 true, .malloc 1 true, .lock 0, .lock 1, .vnodeCreate 0, .lock 0,
      .leave 0, .lock 1, .getwithvid 1 true, .leave 1].map WalkOp.find) ++
    [.arrive 0, .arrive 1, .lookup 0 (cstr "devices") none 2] ++
    ([.lock 2, .malloc 2 true, .lock 2, .vnodeCreate 2, .lock 2, .leave 2].map WalkOp.find) ++
    [.arrive 0, .lookup 0 (cstr "..") none 3] ++
    ([.lock 3, .getwithvid 3 true, .leave 3].map WalkOp.find) ++ [.arrive 0]

theorem thereAndBack_run : ∃ s, run (walkStep (builtTree 2 1)) (.init 3) thereAndBack = some s ∧
    s.vnode 0 = some 0 ∧ s.vnode 1 = some 0 := by
  have hrun : (run (walkStep (builtTree 2 1)) (.init 3) thereAndBack).any (fun s =>
      s.vnode 0 = some 0 ∧ s.vnode 1 = some 0) = true := by decide +kernel
  obtain ⟨s, hs, hfinal⟩ := (Option.any_eq_true _ _).mp hrun
  exact ⟨s, hs, of_decide_eq_true hfinal⟩

/-- The walk that went to `devices` and back has the root. -/
theorem walk_back_at_root :
    ∃ s, run (walkStep (builtTree 2 1)) (.init 3) thereAndBack = some s ∧
      resolveSteps (builtTree 2 1) (sysfsRoot (s.walks 0).mnt) (s.walks 0).steps =
        .ok (s.vtosfs 0) := by
  obtain ⟨s, hs, hv, -⟩ := thereAndBack_run
  obtain ⟨ht, hids⟩ := first_mount 1
  exact ⟨s, hs, (walks_refine_lookups hids ht 3 hs hv).2.2⟩

/-- Both walks have the same vnode, and their lookups lead to the same node. -/
theorem walks_share_root :
    ∃ s, run (walkStep (builtTree 2 1)) (.init 3) thereAndBack = some s ∧
      resolveSteps (builtTree 2 1) (sysfsRoot (s.walks 0).mnt) (s.walks 0).steps =
        resolveSteps (builtTree 2 1) (sysfsRoot (s.walks 1).mnt) (s.walks 1).steps := by
  obtain ⟨s, hs, hv, hv'⟩ := thereAndBack_run
  obtain ⟨ht, hids⟩ := first_mount 1
  exact ⟨s, hs, (walks_share_vnode_iff hids ht 3 hs hv hv').mp rfl⟩

end Mounts

end SysFS
