import SysFS.Lib.Transition
import SysFS.Reach
import SysFS.Targets

namespace SysFS
open CString Transition

/-- `sysfs_devices_readdir` up to its loop over the children. -/
def devicesHead (t : Tree) (dir : Sfsnode) (uio : Uio) : LoopEnd × EmitState :=
  let regid := dir.nodeId.nodeidRegid
  let base := (t.node dir.nodeStructureNode).ssnBaseNodeId
  let startpos := uio.offset
  LoopEnd.andThen (emitLoop false startpos (dotEntries t dir) (emitStart uio)) fun st =>
  LoopEnd.andThen
    (if regid ≠ sysfsNoRegid then
      emitLoop true startpos (attrEntries sysfsDevAttrs regid base) st
    else (.exhausted, st)) fun st =>
  if regid = sysfsNoRegid then emitLoop true startpos (deviceStaticEntries t dir) st
  else (.exhausted, st)

structure ChildLoop where
  startpos : ℤ
  index : ℕ
  st : EmitState

/-- The published snapshot, the call in progress, the result of the last call, and the
children copied out, with their names and ids. -/
structure ListState where
  snapshot : GSnapshot
  call : Option ChildLoop
  last : Option ReaddirResult
  emitted : List (CStr × UInt64)

namespace ListState

def init (g : GSnapshot) : ListState := ⟨g, none, none, []⟩

def offset (s : ListState) : ℤ := s.last.elim 0 fun res => res.uio.offset

def eof (s : ListState) : Bool := s.last.any ReaddirResult.eofflag

def finish (s : ListState) (r : LoopEnd × EmitState) : ListState :=
  { s with call := none, last := some (finishListing r) }

end ListState

inductive ListOp where
  | publish (snap : Snapshot)
  | call (resid : ℕ) (faultAfter : Option ℕ)
  | childAt

def childEntry (base : UInt16) (child : CStr × UInt64) : DirEntry :=
  ⟨.DT_DIR, sysfsGetFileid child.2 sysfsDevDirObjid base, child.1⟩

/-- One step: a snapshot is published, a call goes up to its loop, or the loop asks for one
child. After the last page there are no more calls. -/
def listStep (t : Tree) (dir : Sfsnode) (s : ListState) : ListOp → Option ListState
  | .publish snap => some { s with snapshot := some snap }
  | .call resid faultAfter =>
    if s.call.isSome ∨ s.eof then none
    else
      match devicesHead t dir ⟨s.offset, resid, [], faultAfter⟩ with
      | (.stopped, st) => some (s.finish (.stopped, st))
      | (_, st) => some { s with call := some ⟨s.offset, 0, st⟩ }
  | .childAt =>
    match s.call with
    | none => none
    | some ⟨startpos, i, st⟩ =>
      if st.uio.resid = 0 then some (s.finish (.noRoom, st))
      else
        match sysfsIokitChildAt s.snapshot dir.nodeId.nodeidRegid i (nameMax + 1) with
        | none => some (s.finish (.exhausted, st))
        | some child =>
          let base := (t.node dir.nodeStructureNode).ssnBaseNodeId
          match emitEntry startpos (childEntry base child) st with
          | (true, st') =>
            some { s with
              call := some ⟨startpos, i + 1, st'⟩
              emitted := if st'.numentries = st.numentries then s.emitted
                else s.emitted ++ [child] }
          | (false, st') => some (s.finish (.stopped, st'))

theorem andThen_assoc (r : LoopEnd × EmitState) (f g : EmitState → LoopEnd × EmitState) :
    LoopEnd.andThen (LoopEnd.andThen r f) g =
      LoopEnd.andThen r fun st => LoopEnd.andThen (f st) g := by
  have ⟨fin, st⟩ := r
  cases fin <;> rfl

theorem devicesReaddir_eq (t : Tree) (g : GSnapshot) (dir : Sfsnode) (uio : Uio) :
    sysfsDevicesReaddir t g dir uio =
      finishListing (LoopEnd.andThen (devicesHead t dir uio) fun st =>
        emitIndexed (childEntryAt g dir.nodeId.nodeidRegid
          (t.node dir.nodeStructureNode).ssnBaseNodeId) uio.offset
          (childCount g dir.nodeId.nodeidRegid + 1) 0 st) := by
  rw [devicesHead, andThen_assoc]
  simp only [andThen_assoc]
  rfl

theorem run_childAt (t : Tree) (dir : Sfsnode) (s : ListState) (startpos : ℤ) {fuel i : ℕ}
    (st : EmitState) (hi : i ≤ childCount s.snapshot dir.nodeId.nodeidRegid)
    (hfuel : childCount s.snapshot dir.nodeId.nodeidRegid < i + fuel) :
    ∃ n s', run (listStep t dir) { s with call := some ⟨startpos, i, st⟩ }
        (List.replicate n .childAt) = some s' ∧ s'.call = none ∧
      s'.last = some (finishListing
        (emitIndexed (childEntryAt s.snapshot dir.nodeId.nodeidRegid
          (t.node dir.nodeStructureNode).ssnBaseNodeId) startpos fuel i st)) := by
  induction fuel generalizing s i st with
  | zero => omega
  | succ fuel ih =>
    by_cases hroom : st.uio.resid = 0
    · refine ⟨1, s.finish (.noRoom, st), ?_, rfl, ?_⟩
      · simp [run, listStep, hroom, ListState.finish]
      · simp [emitIndexed, hroom, ListState.finish]
    · cases hat : sysfsIokitChildAt s.snapshot dir.nodeId.nodeidRegid i (nameMax + 1) with
      | none =>
        refine ⟨1, s.finish (.exhausted, st), ?_, rfl, ?_⟩
        · simp [run, listStep, hroom, hat, ListState.finish]
        · simp [emitIndexed, hroom, childEntryAt, hat, ListState.finish]
      | some child =>
        have hentry : childEntryAt s.snapshot dir.nodeId.nodeidRegid
            (t.node dir.nodeStructureNode).ssnBaseNodeId i =
              some (childEntry (t.node dir.nodeStructureNode).ssnBaseNodeId child) := by
          rw [childEntryAt, hat]
          rfl
        have hlt : i < childCount s.snapshot dir.nodeId.nodeidRegid :=
          (childEntryAt_isSome _ _ (t.node dir.nodeStructureNode).ssnBaseNodeId i).mp
            (by rw [hentry]; rfl)
        rcases hemit : emitEntry startpos
          (childEntry (t.node dir.nodeStructureNode).ssnBaseNodeId child) st with ⟨_ | _, st'⟩
        · refine ⟨1, s.finish (.stopped, st'), ?_, rfl, ?_⟩
          · simp [run, listStep, hroom, hat, hemit, ListState.finish]
          · simp [emitIndexed, hroom, hentry, hemit, ListState.finish]
        · have hrest : childCount s.snapshot dir.nodeId.nodeidRegid < i + 1 + fuel := by omega
          obtain ⟨n, s', hrun, hcall, hlast⟩ := ih
            { s with emitted := if st'.numentries = st.numentries then s.emitted
                else s.emitted ++ [child] } st' hlt hrest
          refine ⟨n + 1, s', ?_, hcall, ?_⟩
          · rw [List.replicate_succ, run, listStep]
            simp only [hroom, if_false, hat, hemit]
            exact hrun
          · rw [hlast, emitIndexed, if_neg hroom, hentry]
            simp only [hemit]

/-- Without publications a call gives what `sysfsDevicesReaddir` does. -/
theorem run_call (t : Tree) (dir : Sfsnode) (s : ListState) (hcall : s.call = none)
    (heof : s.eof = false) (resid : ℕ) (faultAfter : Option ℕ) :
    ∃ n s', run (listStep t dir) s (.call resid faultAfter :: List.replicate n .childAt) =
        some s' ∧ s'.call = none ∧
      s'.last = some (sysfsDevicesReaddir t s.snapshot dir ⟨s.offset, resid, [], faultAfter⟩) := by
  have hidle : ¬(s.call.isSome ∨ s.eof) := by
    rw [hcall, heof]
    simp
  rw [devicesReaddir_eq]
  rcases hhead : devicesHead t dir ⟨s.offset, resid, [], faultAfter⟩ with ⟨fin, st⟩
  have hfuel : childCount s.snapshot dir.nodeId.nodeidRegid <
      0 + (childCount s.snapshot dir.nodeId.nodeidRegid + 1) := by omega
  cases fin with
  | stopped =>
    refine ⟨0, s.finish (.stopped, st), ?_, rfl, rfl⟩
    simp [run, listStep, hidle, hhead]
  | exhausted | noRoom =>
    obtain ⟨n, s', hrun, hcall', hlast⟩ := run_childAt t dir s s.offset st (Nat.zero_le _) hfuel
    refine ⟨n, s', ?_, hcall', hlast⟩
    rw [run, listStep, if_neg hidle, hhead]
    exact hrun

inductive EmitResult (startpos : ℤ) (e : DirEntry) (st : EmitState) : Bool × EmitState → Prop where
  | skipped (h : st.nextpos < startpos) :
    EmitResult startpos e st (true, { st with nextpos := st.nextpos + e.size })
  | copied {st' : EmitState} (h : startpos ≤ st.nextpos)
      (hnext : st'.nextpos = st.nextpos + e.size) (hnum : st'.numentries = st.numentries + 1)
      (hresid : st'.uio.resid ≤ st.uio.resid) : EmitResult startpos e st (true, st')
  | refused {st' : EmitState} (h : startpos ≤ st.nextpos) (hnext : st'.nextpos = st.nextpos)
      (hresid : st'.uio.resid ≤ st.uio.resid) : EmitResult startpos e st (false, st')

theorem emitEntry_result (startpos : ℤ) (e : DirEntry) (st : EmitState) :
    EmitResult startpos e st (emitEntry startpos e st) := by
  by_cases hstart : startpos ≤ st.nextpos
  · by_cases hroom : e.size ≤ st.uio.resid
    · by_cases hfault : st.uio.faultAfter = some st.uio.out.length
      · have heq : emitEntry startpos e st = (false, { st with error := some .EFAULT }) := by
          unfold DirEntry.size at hroom
          simp [emitEntry, hstart, sysfsCopyoutDirent, hroom, uiomove, hfault]
        rw [heq]
        exact .refused hstart rfl le_rfl
      · rw [emitEntry_fits hstart hfault hroom]
        exact .copied hstart rfl rfl (Nat.sub_le _ _)
    · have heq : emitEntry startpos e st = (false, { st with error := none }) := by
        unfold DirEntry.size at hroom
        simp [emitEntry, hstart, sysfsCopyoutDirent, hroom]
      rw [heq]
      exact .refused hstart rfl le_rfl
  · rw [emitEntry_skip hstart]
    exact .skipped (Int.not_le.mp hstart)

def entriesSize (items : List (Option DirEntry)) : ℕ := (items.reduceOption.map DirEntry.size).sum

/-- How far a loop over entries of size `n` gets from `st` on: to their end, or until there is
no room, or until it stops. It goes through what lies before `startpos` without using room. -/
structure Advances (startpos : ℤ) (n : ℕ) (st : EmitState) (r : LoopEnd × EmitState) : Prop where
  le : r.2.nextpos ≤ st.nextpos + n
  resid : r.2.uio.resid ≤ st.uio.resid
  full : r.1 ≠ .stopped → r.2.nextpos = st.nextpos + n ∨ r.2.uio.resid = 0
  skipped : st.nextpos + n ≤ startpos → st.uio.resid ≠ 0 →
    r.1 ≠ .stopped ∧ r.2.nextpos = st.nextpos + n ∧ r.2.uio.resid = st.uio.resid

theorem advances_nil (startpos : ℤ) (st : EmitState) (fin : LoopEnd) (h : fin ≠ .stopped) :
    Advances startpos 0 st (fin, st) :=
  ⟨le_rfl, le_rfl, fun _ => Or.inl rfl, fun _ _ => ⟨h, rfl, rfl⟩⟩

theorem Advances.after {startpos : ℤ} {m n : ℕ} {st st' : EmitState} {r : LoopEnd × EmitState}
    (h : Advances startpos n st' r) (hnext : st'.nextpos = st.nextpos + m)
    (hresid : st'.uio.resid ≤ st.uio.resid)
    (hskip : st.nextpos + (m + n) ≤ startpos → st'.uio.resid = st.uio.resid) :
    Advances startpos (m + n) st r where
  le := by
    have := h.le
    omega
  resid := h.resid.trans hresid
  full hs := by
    rcases h.full hs with hfull | hdry
    · exact Or.inl (by omega)
    · exact Or.inr hdry
  skipped hle hroom := by
    have heq := hskip (by push_cast at hle ⊢; omega)
    have ⟨hs, hn, hr⟩ := h.skipped (by push_cast [hnext] at hle ⊢; omega) (heq ▸ hroom)
    exact ⟨hs, by omega, hr.trans heq⟩

theorem emitLoop_advances (checkResid : Bool) (startpos : ℤ) (items : List (Option DirEntry))
    (st : EmitState) :
    Advances startpos (entriesSize items) st (emitLoop checkResid startpos items st) := by
  induction items generalizing st with
  | nil => exact advances_nil startpos st .exhausted nofun
  | cons item items ih =>
    unfold emitLoop
    split
    · next hroom =>
      exact ⟨Nat.le_add_right _ _, le_rfl, fun _ => Or.inr hroom.2,
        fun _ hne => absurd hroom.2 hne⟩
    · cases item with
      | none => exact ih st
      | some e =>
        have hsize : entriesSize (some e :: items) = e.size + entriesSize items := by
          simp [entriesSize]
        rw [hsize]
        have hresult := emitEntry_result startpos e st
        dsimp only
        generalize emitEntry startpos e st = res at hresult
        cases hresult with
        | skipped h => exact (ih _).after rfl le_rfl (fun _ => rfl)
        | copied h hnext hnum hresid =>
          refine (ih _).after hnext hresid fun hle => ?_
          have := e.size_pos
          omega
        | refused h hnext hresid =>
          refine ⟨hnext.le.trans (Nat.le_add_right _ _), hresid, fun hs => absurd rfl hs,
            fun hle => ?_⟩
          have := e.size_pos
          push_cast at hle
          omega

theorem Advances.andThen {startpos : ℤ} {m n : ℕ} {st : EmitState} {r : LoopEnd × EmitState}
    {next : EmitState → LoopEnd × EmitState} (h : Advances startpos m st r)
    (hnext : ∀ st', Advances startpos n st' (next st')) :
    Advances startpos (m + n) st (LoopEnd.andThen r next) := by
  have hle := h.le
  by_cases hs : r.1 = .stopped
  · have heq : LoopEnd.andThen r next = r := by
      obtain ⟨fin, st'⟩ := r
      cases hs
      rfl
    rw [heq]
    refine ⟨by omega, h.resid, fun hne => absurd hs hne, fun hskip hroom => ?_⟩
    exact absurd hs (h.skipped (by push_cast at hskip ⊢; omega) hroom).1
  · have heq : LoopEnd.andThen r next = next r.2 := by
      obtain ⟨fin, st'⟩ := r
      cases fin with
      | stopped => exact absurd rfl hs
      | exhausted | noRoom => rfl
    have hn := hnext r.2
    have hnle := hn.le
    rw [heq]
    refine ⟨by omega, hn.resid.trans h.resid, fun hne => ?_, fun hskip hroom => ?_⟩
    · rcases h.full hs with hfull | hdry
      · exact (hn.full hne).imp_left fun hn' => by omega
      · have := hn.resid
        exact Or.inr (by omega)
    · have ⟨_, hpos, hres⟩ := h.skipped (by push_cast at hskip ⊢; omega) hroom
      have ⟨hne, hpos', hres'⟩ := hn.skipped (by rw [hpos]; push_cast at hskip ⊢; omega)
        (hres ▸ hroom)
      exact ⟨hne, by omega, hres'.trans hres⟩

section Listing

variable (t : Tree) (dir : Sfsnode)

def headSize : ℕ :=
  entriesSize (dotEntries t dir) +
    (entriesSize (if dir.nodeId.nodeidRegid ≠ sysfsNoRegid then
        attrEntries sysfsDevAttrs dir.nodeId.nodeidRegid
          (t.node dir.nodeStructureNode).ssnBaseNodeId else []) +
      entriesSize (if dir.nodeId.nodeidRegid = sysfsNoRegid then deviceStaticEntries t dir else []))

theorem devicesHead_advances (uio : Uio) :
    Advances uio.offset (headSize t dir) (emitStart uio) (devicesHead t dir uio) := by
  apply (emitLoop_advances false uio.offset (dotEntries t dir) (emitStart uio)).andThen
  intro st
  refine Advances.andThen (m := entriesSize _) ?_ fun st' => ?_
  · split
    · exact emitLoop_advances ..
    · exact advances_nil _ _ _ nofun
  · split
    · exact emitLoop_advances ..
    · exact advances_nil _ _ _ nofun

end Listing

def listedChild (dir : Sfsnode) (g : GSnapshot) (i : ℕ) : Option (CStr × UInt64) :=
  sysfsIokitChildAt g dir.nodeId.nodeidRegid i (nameMax + 1)

/-- The child `p` is the same one in both snapshots, and the records before it have the same
sizes. -/
def KeepsPlace (dir : Sfsnode) (p : ℕ) (g g' : GSnapshot) : Prop :=
  listedChild dir g' p = listedChild dir g p ∧
    ∀ j < p, (listedChild dir g' j).map (fun child => sysfsCalcDirentSize child.1) =
      (listedChild dir g j).map fun child => sysfsCalcDirentSize child.1

instance (dir : Sfsnode) (p : ℕ) (g g' : GSnapshot) : Decidable (KeepsPlace dir p g g') :=
  inferInstanceAs (Decidable (_ ∧ ∀ j < p, _ = _))

theorem KeepsPlace.trans {dir : Sfsnode} {p : ℕ} {g g' g'' : GSnapshot}
    (h : KeepsPlace dir p g g') (h' : KeepsPlace dir p g' g'') : KeepsPlace dir p g g'' :=
  ⟨h'.1.trans h.1, fun j hj => (h'.2 j hj).trans (h.2 j hj)⟩

theorem listedChild_inj {dir : Sfsnode} {g : GSnapshot} (hg : ∀ snap ∈ g, Produced snap)
    {i j : ℕ} {a b : CStr × UInt64} (hi : listedChild dir g i = some a)
    (hj : listedChild dir g j = some b) (hab : a.2 = b.2) : i = j := by
  cases g with
  | none => cases hi
  | some snap =>
    have ⟨es, hb⟩ := (hg snap rfl).built
    have hbuf : 134 ≤ nameMax + 1 := by decide
    have ⟨p, hp, hik, _, hic⟩ := (hb.sysfsIokitChildAt_iff hbuf).mp hi
    have ⟨q, hq, hjk, _, hjc⟩ := (hb.sysfsIokitChildAt_iff hbuf).mp hj
    cases hp.symm.trans hq
    exact hb.childRegid_inj hik hjk (hic.symm.trans (hab.trans hjc))

section Place

variable (t : Tree) (dir : Sfsnode) (g₀ : GSnapshot)

def childPos (i : ℕ) : ℕ :=
  headSize t dir + position (childEntries g₀ dir.nodeId.nodeidRegid
    (t.node dir.nodeStructureNode).ssnBaseNodeId) i

theorem childPos_mono {i j : ℕ} (h : i ≤ j) : childPos t dir g₀ i ≤ childPos t dir g₀ j :=
  Nat.add_le_add_left (position_mono _ h) _

theorem childPos_succ {i : ℕ} {child : CStr × UInt64} (h : listedChild dir g₀ i = some child) :
    childPos t dir g₀ (i + 1) = childPos t dir g₀ i + sysfsCalcDirentSize child.1 := by
  have hentry : (childEntries g₀ dir.nodeId.nodeidRegid
      (t.node dir.nodeStructureNode).ssnBaseNodeId)[i]? =
        some (childEntry (t.node dir.nodeStructureNode).ssnBaseNodeId child) := by
    rw [← childEntryAt_eq, childEntryAt]
    show (listedChild dir g₀ i).map _ = _
    rw [h]
    rfl
  rw [childPos, position_succ hentry, ← Nat.add_assoc]
  rfl

theorem listedChild_isSome {g : GSnapshot} {i j : ℕ} {child : CStr × UInt64} (hij : i ≤ j)
    (h : listedChild dir g j = some child) : ∃ child', listedChild dir g i = some child' := by
  have hsome : ∀ k, (listedChild dir g k).isSome ↔ k < childCount g dir.nodeId.nodeidRegid := by
    intro k
    rw [← childEntryAt_isSome g dir.nodeId.nodeidRegid 0 k, childEntryAt, Option.isSome_map]
    rfl
  have hj := (hsome j).mp (by rw [h]; rfl)
  exact Option.isSome_iff_exists.mp ((hsome i).mpr (by omega))

theorem KeepsPlace.childAt {p : ℕ} {g : GSnapshot} {x : CStr × UInt64}
    (h : KeepsPlace dir p g₀ g) (hx : listedChild dir g₀ p = some x) {i : ℕ} (hi : i ≤ p) :
    ∃ child, listedChild dir g i = some child ∧
      childPos t dir g₀ (i + 1) = childPos t dir g₀ i + sysfsCalcDirentSize child.1 := by
  -- up to the child `p`, every child asked for is there and has its old size
  rcases Nat.lt_or_eq_of_le hi with hlt | rfl
  · have ⟨child, hchild⟩ := listedChild_isSome dir hi (h.1.trans hx)
    have ⟨old, hold⟩ := listedChild_isSome dir hi hx
    have hsize := h.2 i hlt
    rw [hchild, hold, Option.map_some, Option.map_some, Option.some_inj] at hsize
    refine ⟨child, hchild, ?_⟩
    rw [childPos_succ t dir g₀ hold, hsize]
  · exact ⟨x, h.1.trans hx, childPos_succ t dir g₀ hx⟩

end Place

def ListState.copies (s : ListState) (c : UInt64) : List (CStr × UInt64) :=
  s.emitted.filter fun child => child.2 = c

section Runs

variable (t : Tree) (dir : Sfsnode) (g₀ : GSnapshot) (p : ℕ) (x : CStr × UInt64)

/-- A call in its loop. It has not come to the child and will copy it out; it skips the child,
which is copied out already; or it has gone past the child. -/
inductive LoopInv (loop : ChildLoop) (copies : List (CStr × UInt64)) : Prop where
  | pending (hindex : loop.index ≤ p) (hstart : loop.startpos ≤ childPos t dir g₀ p)
      (hnext : loop.st.nextpos = childPos t dir g₀ loop.index ∨
        loop.st.uio.resid = 0 ∧ loop.st.nextpos ≤ childPos t dir g₀ p)
      (hcopies : copies = [])
  | skipping (hindex : loop.index ≤ p) (hstart : childPos t dir g₀ p < loop.startpos)
      (hnext : loop.st.nextpos = childPos t dir g₀ loop.index) (hroom : loop.st.uio.resid ≠ 0)
      (hcopies : copies = [x])
  | passed (hindex : p < loop.index) (hnext : childPos t dir g₀ p < loop.st.nextpos)
      (hcopies : copies = [x])

structure ListInv (s : ListState) : Prop where
  produced : ∀ snap ∈ s.snapshot, Produced snap
  keeps : KeepsPlace dir p g₀ s.snapshot
  between : s.call = none →
    s.offset ≤ childPos t dir g₀ p ∧ s.eof = false ∧ s.copies x.2 = [] ∨
      childPos t dir g₀ p < s.offset ∧ s.copies x.2 = [x]
  during : ∀ loop, s.call = some loop → s.eof = false ∧ LoopInv t dir g₀ p x loop (s.copies x.2)

variable {t dir g₀ p x} {s s' : ListState}

theorem ListInv.finish_before (h : ListInv t dir g₀ p x s) {r : LoopEnd × EmitState}
    (hend : r.1 ≠ .exhausted) (hnext : r.2.nextpos ≤ childPos t dir g₀ p)
    (hcopies : s.copies x.2 = []) : ListInv t dir g₀ p x (s.finish r) := by
  refine ⟨h.produced, h.keeps, fun _ => Or.inl ⟨?_, ?_, hcopies⟩, nofun⟩
  · exact Int.ofNat_le.mpr hnext
  · exact decide_eq_false fun heof => hend heof.2

theorem ListInv.finish_after (h : ListInv t dir g₀ p x s) {r : LoopEnd × EmitState}
    (hnext : childPos t dir g₀ p < r.2.nextpos) (hcopies : s.copies x.2 = [x]) :
    ListInv t dir g₀ p x (s.finish r) :=
  ⟨h.produced, h.keeps, fun _ => Or.inr ⟨Int.ofNat_lt.mpr hnext, hcopies⟩, nofun⟩

theorem ListInv.publish (h : ListInv t dir g₀ p x s) {snap : Snapshot} (hsnap : Produced snap)
    (hkeeps : KeepsPlace dir p s.snapshot (some snap)) :
    ListInv t dir g₀ p x { s with snapshot := some snap } :=
  ⟨fun _ hmem => Option.some_inj.mp hmem ▸ hsnap, h.keeps.trans hkeeps, h.between, h.during⟩

theorem ListInv.begin (h : ListInv t dir g₀ p x s) (hcall : s.call = none) (heof : s.eof = false)
    {uio : Uio} (hoffset : uio.offset = s.offset) (hresid : 0 < uio.resid)
    {r : LoopEnd × EmitState} (hhead : Advances uio.offset (headSize t dir) (emitStart uio) r) :
    (r.1 = .stopped → ListInv t dir g₀ p x (s.finish r)) ∧
      (r.1 ≠ .stopped → ListInv t dir g₀ p x { s with call := some ⟨s.offset, 0, r.2⟩ }) := by
  have hzero : childPos t dir g₀ 0 = headSize t dir := by simp [childPos, position]
  have hmono := childPos_mono t dir g₀ (Nat.zero_le p)
  have hle : r.2.nextpos ≤ childPos t dir g₀ p := by
    have : r.2.nextpos ≤ 0 + headSize t dir := hhead.le
    omega
  have hgo : r.1 ≠ .stopped → LoopInv t dir g₀ p x ⟨s.offset, 0, r.2⟩ (s.copies x.2) →
      ListInv t dir g₀ p x { s with call := some ⟨s.offset, 0, r.2⟩ } := fun _ hloop =>
    ⟨h.produced, h.keeps, by simp, fun _ heq => Option.some_inj.mp heq ▸ ⟨heof, hloop⟩⟩
  rcases h.between hcall with ⟨hbefore, _, hcopies⟩ | ⟨hafter, hcopies⟩
  · constructor
    · intro hs
      exact h.finish_before (by rw [hs]; simp) hle hcopies
    · intro hs
      refine hgo hs (.pending (Nat.zero_le p) hbefore ?_ hcopies)
      rcases hhead.full hs with hfull | hdry
      · exact Or.inl (hfull.trans ((Nat.zero_add _).trans hzero.symm))
      · exact Or.inr ⟨hdry, hle⟩
  · have hskip : ((emitStart uio).nextpos : ℤ) + headSize t dir ≤ uio.offset := by
      rw [hoffset]
      show ((0 : ℕ) : ℤ) + headSize t dir ≤ s.offset
      omega
    obtain ⟨hne, hnext, hroom⟩ := hhead.skipped hskip (Nat.pos_iff_ne_zero.mp hresid)
    refine ⟨fun hs => absurd hs hne,
      fun hs => hgo hs (.skipping (Nat.zero_le p) hafter ?_ ?_ hcopies)⟩
    · exact hnext.trans ((Nat.zero_add _).trans hzero.symm)
    · rw [hroom]
      exact Nat.pos_iff_ne_zero.mp hresid

theorem ListInv.call (h : ListInv t dir g₀ p x s) {resid : ℕ} {faultAfter : Option ℕ}
    (hresid : 0 < resid) (hs : listStep t dir s (.call resid faultAfter) = some s') :
    ListInv t dir g₀ p x s' := by
  rw [listStep] at hs
  have ⟨hidle, hs⟩ := Option.ite_none_left_eq_some.mp hs
  rw [not_or, Bool.not_eq_true, Bool.not_eq_true, Option.isSome_eq_false_iff,
    Option.isNone_iff_eq_none] at hidle
  have ⟨hstop, hgo⟩ := h.begin hidle.1 hidle.2 rfl hresid
    (devicesHead_advances t dir ⟨s.offset, resid, [], faultAfter⟩)
  generalize devicesHead t dir ⟨s.offset, resid, [], faultAfter⟩ = r at hs hstop hgo
  obtain ⟨fin, st⟩ := r
  cases fin with
  | stopped =>
    cases hs
    exact hstop rfl
  | exhausted | noRoom =>
    cases hs
    exact hgo nofun

def ListState.advance (s : ListState) (loop : ChildLoop) (child : CStr × UInt64)
    (st' : EmitState) : ListState :=
  { s with
    call := some ⟨loop.startpos, loop.index + 1, st'⟩
    emitted := if st'.numentries = loop.st.numentries then s.emitted else s.emitted ++ [child] }

theorem copies_advance (loop : ChildLoop) (child : CStr × UInt64) (c : UInt64) (st' : EmitState) :
    (s.advance loop child st').copies c =
      if st'.numentries ≠ loop.st.numentries ∧ child.2 = c then s.copies c ++ [child]
      else s.copies c := by
  simp only [ListState.copies, ListState.advance]
  by_cases hnum : st'.numentries = loop.st.numentries
  · rw [if_pos hnum, if_neg fun h => h.1 hnum]
  · by_cases hc : child.2 = c
    · rw [if_neg hnum, if_pos ⟨hnum, hc⟩, List.filter_append]
      simp [hc]
    · rw [if_neg hnum, if_neg fun h => hc h.2, List.filter_append]
      simp [hc]

theorem ListInv.advance (h : ListInv t dir g₀ p x s) {loop : ChildLoop} (hcall : s.call = some loop)
    {child : CStr × UInt64} {st' : EmitState}
    (hloop : LoopInv t dir g₀ p x ⟨loop.startpos, loop.index + 1, st'⟩
      ((s.advance loop child st').copies x.2)) :
    ListInv t dir g₀ p x (s.advance loop child st') :=
  ⟨h.produced, h.keeps, nofun,
    fun _ heq => Option.some_inj.mp heq ▸ ⟨(h.during loop hcall).1, hloop⟩⟩

section Child

variable {loop : ChildLoop} {child : CStr × UInt64} {base : UInt16} {st' : EmitState}

/-- Before the child `p`: the position goes on as it did before, and `p` is not copied out. -/
theorem ListInv.child_before (h : ListInv t dir g₀ p x s) (hx : listedChild dir g₀ p = some x)
    (hcall : s.call = some loop) (hroom : loop.st.uio.resid ≠ 0) (hlt : loop.index < p)
    (hchild : listedChild dir s.snapshot loop.index = some child)
    (hemit : EmitResult loop.startpos (childEntry base child) loop.st (true, st')) :
    ListInv t dir g₀ p x (s.advance loop child st') := by
  have ⟨_, hchild', hpos⟩ := h.keeps.childAt t dir g₀ hx hlt.le
  cases hchild.symm.trans hchild'
  have hmono := childPos_mono t dir g₀ hlt.le
  have hne : child.2 ≠ x.2 := fun heq =>
    hlt.ne (listedChild_inj h.produced hchild (h.keeps.1.trans hx) heq)
  have hcopies : (s.advance loop child st').copies x.2 = s.copies x.2 := by
    rw [copies_advance, if_neg fun hc => hne hc.2]
  have hnext : st'.nextpos = loop.st.nextpos + sysfsCalcDirentSize child.1 := by
    cases hemit with
    | skipped => rfl
    | copied _ hnext => exact hnext
  apply h.advance hcall
  rw [hcopies]
  cases (h.during loop hcall).2 with
  | pending _ hstart hat hnone =>
    have hat' := hat.resolve_right fun hdry => hroom hdry.1
    exact .pending hlt hstart (Or.inl (by rw [hnext, hat', ← hpos])) hnone
  | skipping _ hstart hat _ hone =>
    cases hemit with
    | skipped => exact .skipping hlt hstart (by rw [hnext, hat, ← hpos]) hroom hone
    | copied hle => omega
  | passed hindex => omega

theorem ListInv.child_at (h : ListInv t dir g₀ p x s) (hcall : s.call = some loop)
    (hroom : loop.st.uio.resid ≠ 0) (hp : loop.index = p)
    (hemit : EmitResult loop.startpos (childEntry base x) loop.st (true, st')) :
    ListInv t dir g₀ p x (s.advance loop x st') := by
  -- at the child `p`: it is copied out unless an earlier call did so
  have hsize : 0 < (childEntry base x).size := DirEntry.size_pos _
  apply h.advance hcall
  rw [copies_advance]
  cases (h.during loop hcall).2 with
  | pending _ hstart hat hnone =>
    have hat' := hat.resolve_right fun hdry => hroom hdry.1
    rw [hp] at hat'
    cases hemit with
    | skipped hlt => omega
    | copied _ hnext hnum =>
      refine .passed (hp ▸ Nat.lt_succ_self p) ?_ ?_
      · show _ < st'.nextpos
        omega
      · rw [if_pos ⟨by omega, rfl⟩, hnone]
        rfl
  | skipping _ hstart hat _ hone =>
    rw [hp] at hat
    cases hemit with
    | skipped =>
      refine .passed (hp ▸ Nat.lt_succ_self p) ?_ ?_
      · show _ < loop.st.nextpos + (childEntry base x).size
        omega
      · rw [if_neg fun hc => hc.1 rfl]
        exact hone
    | copied hle => omega
  | passed hindex => omega

theorem ListInv.child_after (h : ListInv t dir g₀ p x s) (hx : listedChild dir g₀ p = some x)
    (hcall : s.call = some loop) (hlt : p < loop.index)
    (hchild : listedChild dir s.snapshot loop.index = some child)
    (hemit : EmitResult loop.startpos (childEntry base child) loop.st (true, st')) :
    ListInv t dir g₀ p x (s.advance loop child st') := by
  have hne : child.2 ≠ x.2 := fun heq =>
    hlt.ne' (listedChild_inj h.produced hchild (h.keeps.1.trans hx) heq)
  have hnext : loop.st.nextpos ≤ st'.nextpos := by
    cases hemit with
    | skipped => exact Nat.le_add_right _ _
    | copied _ hnext => exact hnext ▸ Nat.le_add_right _ _
  apply h.advance hcall
  rw [copies_advance, if_neg fun hc => hne hc.2]
  cases (h.during loop hcall).2 with
  | pending hindex | skipping hindex => omega
  | passed _ hpos hone => exact .passed (Nat.lt_succ_of_lt hlt) (hpos.trans_le hnext) hone

theorem ListInv.stop (h : ListInv t dir g₀ p x s) (hcall : s.call = some loop) {fin : LoopEnd}
    (hend : fin ≠ .exhausted) (hnext : st'.nextpos = loop.st.nextpos)
    (hwhy : loop.st.uio.resid = 0 ∨ loop.startpos ≤ loop.st.nextpos) :
    ListInv t dir g₀ p x (s.finish (fin, st')) := by
  cases (h.during loop hcall).2 with
  | pending hindex _ hat hnone =>
    have hmono := childPos_mono t dir g₀ hindex
    refine h.finish_before hend ?_ hnone
    show st'.nextpos ≤ _
    rcases hat with hat | ⟨_, hle⟩ <;> omega
  | skipping hindex hstart hat hroom =>
    have hmono := childPos_mono t dir g₀ hindex
    have := hwhy.resolve_left hroom
    omega
  | passed _ hpos hone => exact h.finish_after (by show _ < st'.nextpos; omega) hone

theorem ListInv.exhaust (h : ListInv t dir g₀ p x s) (hx : listedChild dir g₀ p = some x)
    (hcall : s.call = some loop) (hnone : listedChild dir s.snapshot loop.index = none) :
    ListInv t dir g₀ p x (s.finish (.exhausted, loop.st)) := by
  -- the children end only after the child `p`
  have hgt : p < loop.index := by
    by_contra hle
    have ⟨_, hsome, _⟩ := h.keeps.childAt t dir g₀ hx (Nat.not_lt.mp hle)
    cases hnone.symm.trans hsome
  cases (h.during loop hcall).2 with
  | pending hindex | skipping hindex => omega
  | passed _ hpos hone => exact h.finish_after hpos hone

end Child

theorem ListInv.childAt (h : ListInv t dir g₀ p x s) (hx : listedChild dir g₀ p = some x)
    (hs : listStep t dir s .childAt = some s') : ListInv t dir g₀ p x s' := by
  rw [listStep] at hs
  split at hs
  · cases hs
  · next startpos i st hcall =>
    split at hs
    · next hdry =>
      cases hs
      exact h.stop hcall nofun rfl (Or.inl hdry)
    · next hroom =>
      split at hs
      · next hnone =>
        cases hs
        exact h.exhaust hx hcall hnone
      · next child hchild =>
        dsimp only at hs
        have hemit := emitEntry_result startpos
          (childEntry (t.node dir.nodeStructureNode).ssnBaseNodeId child) st
        generalize emitEntry startpos
          (childEntry (t.node dir.nodeStructureNode).ssnBaseNodeId child) st = r at hs hemit
        obtain ⟨_ | _, st'⟩ := r
        · cases hs
          cases hemit with
          | refused hle hnext => exact h.stop hcall nofun hnext (Or.inr hle)
        · cases hs
          rcases Nat.lt_trichotomy i p with hlt | heq | hgt
          · exact h.child_before hx hcall hroom hlt hchild hemit
          · have hsame : child = x :=
              Option.some_inj.mp (hchild.symm.trans (heq ▸ h.keeps.1.trans hx))
            cases hsame
            exact h.child_at hcall hroom heq hemit
          · exact h.child_after hx hcall hgt hchild hemit

/-- A child is copied out at most once, and it has been when the listing is complete. -/
structure ListedOnce (s : ListState) (x : CStr × UInt64) : Prop where
  atMost : s.copies x.2 = [] ∨ s.copies x.2 = [x]
  complete : s.eof → s.copies x.2 = [x]

theorem ListInv.listedOnce (h : ListInv t dir g₀ p x s) : ListedOnce s x := by
  cases hcall : s.call with
  | none =>
    rcases h.between hcall with ⟨_, heof, hnone⟩ | ⟨_, hone⟩
    · refine ⟨Or.inl hnone, fun h' => ?_⟩
      cases heof.symm.trans h'
    · exact ⟨Or.inr hone, fun _ => hone⟩
  | some loop =>
    have ⟨heof, hloop⟩ := h.during loop hcall
    refine ⟨?_, fun h' => ?_⟩
    · cases hloop with
      | pending _ _ _ hnone => exact Or.inl hnone
      | skipping _ _ _ _ hone => exact Or.inr hone
      | passed _ _ hone => exact Or.inr hone
    · cases heof.symm.trans h'

/-- In a listing with snapshots of the build, in which every publication leaves the child `p` at
its index and the records before it with their sizes, the child is copied out once. -/
theorem steady_child_listed_once {ops : List ListOp} (hg : ∀ snap ∈ g₀, Produced snap)
    (hx : listedChild dir g₀ p = some x)
    (hbuilt : ∀ s snap s', StepTaken (listStep t dir) (.init g₀) ops s (.publish snap) s' →
      Produced snap)
    (hroom : ∀ s resid faultAfter s',
      StepTaken (listStep t dir) (.init g₀) ops s (.call resid faultAfter) s' → 0 < resid)
    (hkeeps : ∀ s snap s', StepTaken (listStep t dir) (.init g₀) ops s (.publish snap) s' →
      KeepsPlace dir p s.snapshot (some snap))
    (h : Reached (listStep t dir) (.init g₀) ops s) : ListedOnce s x := by
  have hinv : ListInv t dir g₀ p x s := by
    refine invariant_along ?_ ?_ h
    · refine ⟨hg, ⟨rfl, fun _ _ => rfl⟩, fun _ => Or.inl ⟨?_, rfl, rfl⟩, nofun⟩
      exact Int.natCast_nonneg _
    · intro s op s' hstep hinv
      cases op with
      | publish snap =>
        cases hstep.step_eq
        exact hinv.publish (hbuilt _ _ _ hstep) (hkeeps _ _ _ hstep)
      | call resid faultAfter => exact hinv.call (hroom _ _ _ _ hstep) hstep.step_eq
      | childAt => exact hinv.childAt hx hstep.step_eq
  exact hinv.listedOnce

end Runs

def snapOf (es : List RegEntry) : Option Snapshot :=
  (sysfsSnapBuild 0 (some es) { yields := some es, kexts := none, uptime := 0 }).1

def hubWith (children : List (UInt64 × CStr)) : List RegEntry :=
  { regid := 1, name := some (cstr "hub") } :: children.map fun child =>
    { regid := child.1, parent := .entry 1, name := some child.2 }

def hubDir (snap : Snapshot) : Option Sfsnode :=
  (resolve (builtTree 2 1) (some snap) (sysfsRoot 1) [cstr "devices", cstr "hub"]).toOption

/-- The first child goes away while a call is between the two: the second one takes its index
and is not listed. -/
theorem removed_sibling_hides_child :
    ((snapOf (hubWith [(2, cstr "a"), (3, cstr "b")])).any fun before =>
      (snapOf (hubWith [(3, cstr "b")])).any fun after =>
      (hubDir before).any fun dir =>
      (run (listStep (builtTree 2 1) dir) (.init (some before))
        [.call 1024 none, .childAt, .publish after, .childAt]).any fun s =>
          listedChild dir (some before) 1 = some (cstr "b", 3) ∧
            listedChild dir (some after) 0 = some (cstr "b", 3) ∧ s.eof ∧
            s.emitted = [(cstr "a", 2)]) = true := by
  decide +kernel

/-- A child that comes before it makes the same child be listed twice. -/
example :
    ((snapOf (hubWith [(3, cstr "b")])).any fun before =>
      (snapOf (hubWith [(2, cstr "a"), (3, cstr "b")])).any fun after =>
      (hubDir before).any fun dir =>
      (run (listStep (builtTree 2 1) dir) (.init (some before))
        [.call 1024 none, .childAt, .publish after, .childAt, .childAt]).any fun s =>
          s.eof ∧ s.emitted = [(cstr "b", 3), (cstr "b", 3)]) = true := by
  decide +kernel

def steadyStep (dir : Sfsnode) (p : ℕ) (s : ListState) : ListOp → Bool
  | .publish snap => KeepsPlace dir p s.snapshot (some snap)
  | .call resid _ => 0 < resid
  | .childAt => true

def twoPages (after : Snapshot) : List ListOp :=
  [.call 128 none, .childAt, .childAt, .publish after, .call 1024 none, .childAt, .childAt,
    .childAt, .childAt]

/-- The name before it changes but not its length, and another child is added at the end. -/
theorem renamed_sibling_keeps_child :
    ∃ before after dir s, snapOf (hubWith [(2, cstr "a"), (3, cstr "b")]) = some before ∧
      snapOf (hubWith [(2, cstr "c"), (3, cstr "b"), (4, cstr "d")]) = some after ∧
      hubDir before = some dir ∧
      run (listStep (builtTree 2 1) dir) (.init (some before)) (twoPages after) = some s ∧
      s.eof ∧ s.copies 3 = [(cstr "b", 3)] := by
  have hrun : ((snapOf (hubWith [(2, cstr "a"), (3, cstr "b")])).any fun before =>
      (snapOf (hubWith [(2, cstr "c"), (3, cstr "b"), (4, cstr "d")])).any fun after =>
      (hubDir before).any fun dir =>
      (run (listStep (builtTree 2 1) dir) (.init (some before)) (twoPages after)).any fun s =>
        s.eof && decide (listedChild dir (some before) 1 = some (cstr "b", 3)) &&
          checkRun (listStep (builtTree 2 1) dir) (steadyStep dir 1) (.init (some before))
            (twoPages after)) = true := by
    decide +kernel
  have ⟨before, hbefore, hrun⟩ := (Option.any_eq_true _ _).mp hrun
  have ⟨after, hafter, hrun⟩ := (Option.any_eq_true _ _).mp hrun
  have ⟨dir, hdir, hrun⟩ := (Option.any_eq_true _ _).mp hrun
  have ⟨s, hs, hrun⟩ := (Option.any_eq_true _ _).mp hrun
  rw [Bool.and_eq_true, Bool.and_eq_true] at hrun
  have ⟨⟨heof, hx⟩, hcheck⟩ := hrun
  refine ⟨before, after, dir, s, hbefore, hafter, hdir, hs, heof, ?_⟩
  have hreached : Reached (listStep (builtTree 2 1) dir) (.init (some before)) (twoPages after) s :=
    ⟨9, hs⟩
  apply (steady_child_listed_once ?_ (of_decide_eq_true hx) ?_ ?_ ?_ hreached).complete heof
  · intro snap hsnap
    cases hsnap
    exact ⟨_, _, _, hbefore⟩
  · intro s₁ snap s₂ ⟨k, _, hk, _⟩
    have hmem := List.mem_of_getElem? hk
    simp only [twoPages, List.mem_cons, reduceCtorEq, ListOp.publish.injEq, List.not_mem_nil,
      false_or, or_false] at hmem
    rw [hmem]
    exact ⟨_, _, _, hafter⟩
  · intro s₁ resid faultAfter s₂ hstep
    have hok := ok_of_checkRun hcheck hstep
    exact of_decide_eq_true hok
  · intro s₁ snap s₂ hstep
    have hok := ok_of_checkRun hcheck hstep
    exact of_decide_eq_true hok

end SysFS
