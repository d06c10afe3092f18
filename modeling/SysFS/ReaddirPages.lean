import Mathlib
import SysFS.Lib.Listing
import SysFS.Readdir

namespace SysFS
open CString Listing

def childEntries (g : GSnapshot) (regid : UInt64) (base : UInt16) : List DirEntry :=
  (List.range (childCount g regid)).filterMap (childEntryAt g regid base)

def classEntries (g : GSnapshot) (classId matchFlags : UInt32) (base : UInt16) : List DirEntry :=
  match g with
  | none => []
  | some snap => (snap.nodes.tail.filter (isClassMember classId matchFlags)).map fun nd =>
      ⟨.DT_LNK, sysfsGetFileid nd.regid sysfsNoObjectid base, strlcpy nd.bsdname (nameMax + 1)⟩

def moduleEntries (g : GSnapshot) (base : UInt16) : List DirEntry :=
  match g with
  | none => []
  | some snap => snap.modules.map fun m =>
      ⟨.DT_DIR, sysfsGetFileid m.loadTag sysfsModDirObjid base, (sysfsModuleCopyOut m).name⟩

def dirEntries (t : Tree) (g : GSnapshot) (dir : Sfsnode) : List DirEntry :=
  let regid := dir.nodeId.nodeidRegid
  let dirSnode := t.node dir.nodeStructureNode
  let base := dirSnode.ssnBaseNodeId
  if dirSnode.ssnNodeType = .SFSdevice then
    (dotEntries t dir).reduceOption ++
      ((if regid ≠ sysfsNoRegid then attrEntries sysfsDevAttrs regid base
        else deviceStaticEntries t dir).reduceOption ++ childEntries g regid base)
  else if sysfsIsModuleDir dirSnode ∨ dirSnode.ssnNodeType = .SFSmodule then
    (dotEntries t dir).reduceOption ++
      if sysfsIsModuleDir dirSnode then
        match t.childOfType dir.nodeStructureNode .SFSmodule with
        | none => []
        | some mod => moduleEntries g (t.node mod).ssnBaseNodeId
      else (attrEntries sysfsModAttrs regid base).reduceOption
  else if sysfsIsClassDir dirSnode then
    (dotEntries t dir).reduceOption ++
      classEntries g dirSnode.ssnInstance (sysfsClassMatchFlags dirSnode) base
  else ((t.ssnChildren dir.nodeStructureNode).map (staticEntry t dir)).reduceOption

theorem filterMap_range_getElem? {α : Type} {f : ℕ → Option α} {n : ℕ}
    (hsome : ∀ i < n, (f i).isSome = true) :
    ((List.range n).filterMap f).length = n ∧
      ∀ i < n, ((List.range n).filterMap f)[i]? = f i := by
  induction n with
  | zero => exact ⟨rfl, nofun⟩
  | succ n ih =>
    have ⟨hlen, hget⟩ := ih fun i hi => hsome i (Nat.lt_succ_of_lt hi)
    have ⟨a, ha⟩ := Option.isSome_iff_exists.mp (hsome n (Nat.lt_succ_self n))
    rw [List.range_succ, List.filterMap_append, List.filterMap_cons_some ha, List.filterMap_nil]
    refine ⟨by simp [hlen], fun i hi => ?_⟩
    rcases Nat.lt_succ_iff_lt_or_eq.mp hi with hlt | heq
    · rw [List.getElem?_append_left (hlen.symm ▸ hlt), hget i hlt]
    · rw [heq, List.getElem?_append_right hlen.le, hlen, Nat.sub_self, ha]
      rfl

theorem childEntryAt_isSome (g : GSnapshot) (regid : UInt64) (base : UInt16) (i : ℕ) :
    (childEntryAt g regid base i).isSome = true ↔ i < childCount g regid := by
  simp only [childEntryAt, Option.isSome_map, sysfsIokitChildAt, childCount]
  cases g with
  | none => exact ⟨by simp, fun hi => absurd hi (Nat.not_lt_zero i)⟩
  | some snap =>
    cases sysfsHashFind (some snap) regid with
    | none => exact ⟨by simp, fun hi => absurd hi (Nat.not_lt_zero i)⟩
    | some pidx =>
      dsimp only [sysfsChildDisplay]
      split
      · next hout =>
        refine ⟨by simp, fun hi => ?_⟩
        rcases hout with hpidx | hindex
        · have hdefault : snap.node pidx = default := List.getD_eq_default _ _ hpidx
          rw [hdefault] at hi
          exact absurd hi (Nat.not_lt_zero i)
        · exact absurd hi (Nat.not_lt.mpr hindex)
      · next hin =>
        rw [not_or, not_le, not_le] at hin
        exact ⟨fun _ => hin.2, fun _ => rfl⟩

theorem childEntryAt_eq (g : GSnapshot) (regid : UInt64) (base : UInt16) (i : ℕ) :
    childEntryAt g regid base i = (childEntries g regid base)[i]? := by
  have ⟨hlen, hget⟩ := filterMap_range_getElem?
    fun i hi => (childEntryAt_isSome g regid base i).mpr hi
  by_cases hi : i < childCount g regid
  · exact (hget i hi).symm
  · rw [childEntries, List.getElem?_eq_none (hlen.le.trans (Nat.not_lt.mp hi))]
    exact Option.not_isSome_iff_eq_none.mp fun h => hi ((childEntryAt_isSome g regid base i).mp h)

theorem classChildAtFrom_eq (classId matchFlags : UInt32) (nodes : List SnapNode) (index seen : ℕ)
    (hseen : seen ≤ index) : classChildAtFrom classId matchFlags index nodes seen =
      (nodes.filter (isClassMember classId matchFlags))[index - seen]? := by
  induction nodes generalizing seen with
  | nil => rfl
  | cons nd nodes ih =>
    unfold classChildAtFrom
    cases hnd : isClassMember classId matchFlags nd with
    | false => simp [hnd, ih seen hseen]
    | true =>
      by_cases heq : seen = index
      · simp [hnd, heq]
      · have hlt : seen < index := by omega
        have hsub : index - seen = index - (seen + 1) + 1 := by omega
        simp [hnd, heq, ih (seen + 1) hlt, hsub]

def DirEntry.size (e : DirEntry) : ℕ := sysfsCalcDirentSize e.name

theorem DirEntry.size_pos (e : DirEntry) : 0 < e.size := by
  unfold size sysfsCalcDirentSize
  omega

def position (es : List DirEntry) (k : ℕ) : ℕ := ((es.take k).map DirEntry.size).sum

def DirEntry.record (e : DirEntry) (pos : ℕ) : Dirent :=
  ⟨e.fileId, pos + e.size, e.size, e.name.length, e.type, e.name⟩

def recordsFrom : ℕ → List DirEntry → List Dirent
  | _, [] => []
  | pos, e :: es => e.record pos :: recordsFrom (pos + e.size) es

theorem recordsFrom_length (pos : ℕ) (es : List DirEntry) :
    (recordsFrom pos es).length = es.length := by
  induction es generalizing pos with
  | nil => rfl
  | cons e es ih => simp [recordsFrom, ih]

theorem position_cons (e : DirEntry) (es : List DirEntry) (k : ℕ) :
    position (e :: es) (k + 1) = e.size + position es k := by
  simp [position]

theorem position_succ {es : List DirEntry} {k : ℕ} {e : DirEntry} (h : es[k]? = some e) :
    position es (k + 1) = position es k + e.size := by
  simp [position, List.take_add_one, h]

theorem position_mono (es : List DirEntry) {j k : ℕ} (h : j ≤ k) :
    position es j ≤ position es k := by
  induction h with
  | refl => exact le_rfl
  | @step k _ ih =>
    cases hk : es[k]? with
    | some e =>
      rw [position_succ hk]
      omega
    | none =>
      have hlen := List.getElem?_eq_none_iff.mp hk
      have heq : position es (k + 1) = position es k := by
        simp [position, List.take_of_length_le hlen,
          List.take_of_length_le (Nat.le_succ_of_le hlen)]
      rw [heq]
      exact ih

theorem position_lt {es : List DirEntry} {j k : ℕ} (hjk : j < k) (hk : k ≤ es.length) :
    position es j < position es k := by
  -- entries before the end take room, so their positions tell them apart
  have hj := List.getElem?_eq_getElem (hjk.trans_le hk)
  have hpos := es[j].size_pos
  have hmono := position_mono es hjk
  rw [position_succ hj] at hmono
  omega

theorem recordsFrom_getElem? (pos : ℕ) (es : List DirEntry) (k : ℕ) :
    (recordsFrom pos es)[k]? = es[k]?.map fun e => e.record (pos + position es k) := by
  induction es generalizing pos k with
  | nil => simp [recordsFrom]
  | cons e es ih =>
    cases k with
    | zero => simp [recordsFrom, position]
    | succ k => simp [recordsFrom, ih, position_cons, Nat.add_assoc]

/-- The loops have gone through the first `j` entries, in a call that starts at entry `k`
with room `r`. -/
structure Progress (es : List DirEntry) (k r j : ℕ) (st : EmitState) : Prop where
  le : j ≤ es.length
  nextpos : st.nextpos = position es j
  error : st.error = none
  fault : st.uio.faultAfter = none
  out : st.uio.out = ((recordsFrom 0 es).take j).drop k
  num : st.numentries = j - k
  resid : st.uio.resid + (position es j - position es k) = r

section Call
variable {es : List DirEntry} {k r j : ℕ} {st : EmitState}

theorem emitEntry_skip {startpos : ℤ} {e : DirEntry} (h : ¬ startpos ≤ st.nextpos) :
    emitEntry startpos e st = (true, { st with nextpos := st.nextpos + e.size }) := if_neg h

theorem emitEntry_fits {startpos : ℤ} {e : DirEntry} (h : startpos ≤ st.nextpos)
    (hfault : st.uio.faultAfter ≠ some st.uio.out.length) (hroom : e.size ≤ st.uio.resid) :
    emitEntry startpos e st = (true, { st with
      nextpos := st.nextpos + e.size
      numentries := st.numentries + 1
      uio := { st.uio with
        resid := st.uio.resid - e.size
        out := st.uio.out ++ [e.record st.nextpos] } }) := by
  have hne := e.size_pos.ne'
  unfold DirEntry.size at hroom hne
  simp [emitEntry, h, sysfsCopyoutDirent, hroom, uiomove, hfault, hne,
    DirEntry.size, DirEntry.record]

theorem emitEntry_noRoom {startpos : ℤ} {e : DirEntry} (h : startpos ≤ st.nextpos)
    (herror : st.error = none) (hroom : st.uio.resid < e.size) :
    emitEntry startpos e st = (false, st) := by
  unfold DirEntry.size at hroom
  simp [emitEntry, h, sysfsCopyoutDirent, Nat.not_le.mpr hroom, ← herror]

theorem Progress.emitEntry (h : Progress es k r j st) (hk : k ≤ es.length) {e : DirEntry}
    (he : es[j]? = some e) :
    (∃ st', emitEntry (position es k) e st = (true, st') ∧ Progress es k r (j + 1) st') ∨
      (emitEntry (position es k) e st = (false, st) ∧ k ≤ j ∧ st.uio.resid < e.size) := by
  have hj : j < es.length := (List.getElem?_eq_some_iff.mp he).1
  have hpos := position_succ he
  have hsize := e.size_pos
  have hrec : (recordsFrom 0 es)[j]? = some (e.record (position es j)) := by
    rw [recordsFrom_getElem?, he, Nat.zero_add]
    rfl
  have hstart : ((position es k : ℕ) : ℤ) ≤ st.nextpos ↔ k ≤ j := by
    rw [h.nextpos, Int.ofNat_le]
    refine ⟨fun hle => ?_, position_mono es⟩
    by_contra hlt
    have := position_lt (Nat.not_le.mp hlt) hk
    omega
  by_cases hkj : k ≤ j
  · have hle := position_mono es hkj
    have hresid := h.resid
    by_cases hroom : e.size ≤ st.uio.resid
    · refine .inl ⟨_, emitEntry_fits (hstart.mpr hkj) (by simp [h.fault]) hroom,
        hj, ?_, h.error, h.fault, ?_, ?_, ?_⟩
      · rw [h.nextpos, hpos]
      · have hlen : k ≤ ((recordsFrom 0 es).take j).length := by
          rw [List.length_take, recordsFrom_length]
          omega
        rw [List.take_add_one, hrec, Option.toList_some,
          List.drop_append_of_le_length hlen, ← h.out,
          h.nextpos]
      · rw [h.num, Nat.succ_sub hkj]
      · dsimp only
        omega
    · exact .inr ⟨emitEntry_noRoom (hstart.mpr hkj) h.error (Nat.not_le.mp hroom), hkj,
        Nat.not_le.mp hroom⟩
  · refine .inl ⟨_, emitEntry_skip fun hle => hkj (hstart.mp hle),
      hj, ?_, h.error, h.fault, ?_, ?_, ?_⟩
    · rw [h.nextpos, hpos]
    · have hnil : ∀ j' ≤ k, ((recordsFrom 0 es).take j').drop k = [] := fun j' hj' =>
        List.drop_eq_nil_of_le ((List.length_take_le _ _).trans hj')
      rw [hnil (j + 1) (Nat.not_le.mp hkj), h.out, hnil j (Nat.not_le.mp hkj).le]
    · rw [h.num]
      omega
    · have hmono : position es (j + 1) ≤ position es k := position_mono es (Nat.not_le.mp hkj)
      have hresid := h.resid
      dsimp only
      omega

/-- How a loop over the entries `j`, …, `last - 1` may leave a call. -/
structure LoopOk (es : List DirEntry) (k r last : ℕ) (fin : LoopEnd) (j : ℕ) (st : EmitState) :
    Prop where
  progress : Progress es k r j st
  le : j ≤ last
  exhausted : fin = .exhausted → j = last
  noRoom : fin = .noRoom → st.uio.resid = 0
  stopped : fin = .stopped → k ≤ j ∧ ∃ e, es[j]? = some e ∧ st.uio.resid < e.size

def Enough (es : List DirEntry) (r : ℕ) : Prop := 0 < r ∧ ∀ e ∈ es, e.size ≤ r

theorem LoopOk.ends {fin : LoopEnd} (h : LoopOk es k r es.length fin j st) (hk : k ≤ es.length)
    (hr : Enough es r) :
    k ≤ j ∧ (k < es.length → k < j) ∧ (fin = .exhausted → j = es.length) ∧
      (k = es.length → fin = .exhausted) := by
  have hresid := h.progress.resid
  have hle : k ≤ j := by
    by_contra hlt
    have hmono := position_mono es (Nat.not_le.mp hlt).le
    cases fin with
    | exhausted => exact hlt (hk.trans (h.exhausted rfl).ge)
    | noRoom =>
      have := h.noRoom rfl
      have := hr.1
      omega
    | stopped => exact hlt (h.stopped rfl).1
  have hsame : j = k → st.uio.resid = r := by
    intro heq
    rw [heq] at hresid
    omega
  refine ⟨hle, fun hlt => Nat.lt_of_le_of_ne hle fun heq => ?_, h.exhausted, fun heq => ?_⟩
  · have hroom := hsame heq.symm
    cases fin with
    | exhausted => exact absurd (h.exhausted rfl) (heq ▸ hlt.ne)
    | noRoom =>
      have := h.noRoom rfl
      have := hr.1
      omega
    | stopped =>
      have ⟨_, e, he, hsize⟩ := h.stopped rfl
      have := hr.2 e (List.mem_of_getElem? he)
      omega
  · have hj : j = k := le_antisymm (h.progress.le.trans heq.ge) hle
    have hroom := hsame hj
    cases fin with
    | exhausted => rfl
    | noRoom =>
      have := h.noRoom rfl
      have := hr.1
      omega
    | stopped =>
      have ⟨_, e, he, _⟩ := h.stopped rfl
      have hlt := (List.getElem?_eq_some_iff.mp he).1
      omega

end Call

section Variants
variable (t : Tree) (g : GSnapshot) (dir : Sfsnode)

end Variants

section Counted
variable {n : ℕ} {st : EmitState} {startpos : ℤ}

end Counted

section Listing
variable (t : Tree) (g : GSnapshot) (dir : Sfsnode)

end Listing

end SysFS
