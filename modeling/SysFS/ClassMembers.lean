import SysFS.Lib.FirstMatch
import SysFS.ReaddirPages
import SysFS.SnapNames

namespace SysFS
open CString

/-- The class an entry is listed in: the others need a BSD name, power sources do not. -/
def RegEntry.memberClass (e : RegEntry) : UInt32 :=
  if e.bsdName.isSome ∨ e.classId = sysfsClassPower then e.classId else sysfsClassNone

def RegEntry.memberFlags (e : RegEntry) : UInt32 :=
  if e.bsdName.isSome ∧ e.classId = sysfsClassBlock ∧ e.whole then sysfsClassfWhole else 0

/-- The first 31 bytes of the BSD name, or of a power source's IOKit name. -/
def RegEntry.className (e : RegEntry) : CStr :=
  if e.memberClass = sysfsClassNone then []
  else (e.bsdName.getD (e.name.getD (cstr "unknown"))).take 31

def RegEntry.inClass (classId matchFlags : UInt32) (e : RegEntry) : Bool :=
  e.memberClass = classId ∧ e.memberFlags &&& matchFlags = matchFlags

theorem snapNode_class (e : RegEntry) :
    (snapNode e).classId = e.memberClass ∧ (snapNode e).classFlags = e.memberFlags ∧
      (snapNode e).bsdname = e.className := by
  unfold snapNode RegEntry.className RegEntry.memberClass RegEntry.memberFlags
  cases e.bsdName with
  | some bsd =>
    by_cases hcls : e.classId = sysfsClassNone
    · have hblock : sysfsClassNone ≠ sysfsClassBlock := by decide
      simp [hcls, hblock]
    · simp [hcls, strlcpy, sysfsIokitBsdnamemax]
  | none =>
    by_cases hcls : e.classId = sysfsClassNone
    · simp [hcls]
    · by_cases hpower : e.classId = sysfsClassPower
      · have hnone : sysfsClassPower ≠ sysfsClassNone := by decide
        simp [hpower, hnone, strlcpy, sysfsIokitBsdnamemax, sysfsIokitNamemax, List.take_take]
      · simp [hcls, hpower]

theorem isClassMember_snapNode (classId matchFlags : UInt32) (e : RegEntry) :
    isClassMember classId matchFlags (snapNode e) = e.inClass classId matchFlags := by
  have ⟨hclass, hflags, _⟩ := snapNode_class e
  rw [isClassMember, RegEntry.inClass, hclass, hflags]
  simp

theorem RegEntry.className_length (e : RegEntry) : e.className.length < sysfsIokitBsdnamemax := by
  rw [className]
  split
  · decide
  · rw [List.length_take, sysfsIokitBsdnamemax]
    omega

/-- The captured entries of a class, in the order of the snapshot. -/
def classMembers (classId matchFlags : UInt32) (es : List RegEntry) : List RegEntry :=
  es.filter (RegEntry.inClass classId matchFlags)

section Scans

variable {es : List RegEntry} {snap : Snapshot} (h : Built es snap) (classId matchFlags : UInt32)
include h

theorem classMembers_core :
    (snap.nodes.tail.filter (isClassMember classId matchFlags)).map SnapNode.core =
      (classMembers classId matchFlags es).map snapNode := by
  have htail : snap.nodes.tail.map SnapNode.core = es.map snapNode := by
    rw [List.map_tail, h.entries, List.tail_cons]
  have hcore : isClassMember classId matchFlags ∘ SnapNode.core =
      isClassMember classId matchFlags := rfl
  have hmember : isClassMember classId matchFlags ∘ snapNode =
      RegEntry.inClass classId matchFlags := by
    funext e
    exact isClassMember_snapNode classId matchFlags e
  rw [← hcore, ← List.filter_map, htail, List.filter_map, hmember, classMembers]

theorem classMembers_read {β : Type} (f : CStr → UInt64 → β) :
    (snap.nodes.tail.filter (isClassMember classId matchFlags)).map
        (fun nd => f nd.bsdname nd.regid) =
      (classMembers classId matchFlags es).map fun e => f e.className e.regid := by
  have hread := congrArg (List.map fun nd : SnapNode => f nd.bsdname nd.regid)
    (classMembers_core h classId matchFlags)
  rw [List.map_map, List.map_map] at hread
  refine Eq.trans hread (List.map_congr_left fun e _ => ?_)
  rw [Function.comp_apply, (snapNode_class e).2.2, snapNode_regid]

theorem sysfsIokitClassChildAt_eq {buflen : ℕ} (hbuf : sysfsIokitBsdnamemax ≤ buflen) (i : ℕ) :
    sysfsIokitClassChildAt (some snap) classId matchFlags i buflen =
      (classMembers classId matchFlags es)[i]?.map fun e => (e.className, e.regid) := by
  have hread := classMembers_read h classId matchFlags
    fun nm r => (strlcpy nm buflen, r)
  rw [sysfsIokitClassChildAt, classChildAtFrom_eq _ _ _ _ _ (Nat.zero_le i), Nat.sub_zero,
    ← List.getElem?_map, hread, List.getElem?_map]
  congr 1
  funext e
  rw [strlcpy_of_fits (e.className_length.trans_le hbuf)]

theorem sysfsIokitClassChildNamed_eq (nm : CStr) :
    sysfsIokitClassChildNamed (some snap) classId matchFlags nm nm.length =
      (FirstMatch.find RegEntry.className (classMembers classId matchFlags es) nm).map
        RegEntry.regid := by
  have hread := classMembers_read h classId matchFlags Prod.mk
  have hfind := congrArg (fun l => (l.find? fun x : CStr × UInt64 => x.1 = nm).map Prod.snd) hread
  simp only [List.find?_map, Option.map_map, List.find?_filter, Bool.decide_and,
    Bool.decide_eq_true] at hfind
  simp only [sysfsIokitClassChildNamed, sameName_eq, FirstMatch.find]
  exact hfind

theorem classMembers_regids_nodup :
    ((classMembers classId matchFlags es).map RegEntry.regid).Nodup := by
  have hnodup := h.regids_nodup
  rw [h.regids, List.nodup_cons] at hnodup
  exact hnodup.2.sublist (List.filter_sublist.map _)

end Scans

/-- Each captured entry of the class is met at one index, and nothing is after the last one. -/
structure EnumeratesClass (es : List RegEntry) (snap : Snapshot) (classId matchFlags : UInt32)
    (buflen : ℕ) : Prop where
  entry : ∀ i nm r, sysfsIokitClassChildAt (some snap) classId matchFlags i buflen = some (nm, r) →
    ∃ e ∈ es, e.inClass classId matchFlags ∧ e.className = nm ∧ e.regid = r
  once : ∀ e ∈ es, e.inClass classId matchFlags → ∃! i, ∃ nm,
    sysfsIokitClassChildAt (some snap) classId matchFlags i buflen = some (nm, e.regid)
  stops : ∃ n, ∀ i,
    (sysfsIokitClassChildAt (some snap) classId matchFlags i buflen).isSome ↔ i < n

/-- The names met are distinct, and each is found with the id it was met with. -/
structure ClassNamesAgree (snap : Snapshot) (classId matchFlags : UInt32) (buflen : ℕ) : Prop where
  distinct : ∀ i j nm r r',
    sysfsIokitClassChildAt (some snap) classId matchFlags i buflen = some (nm, r) →
    sysfsIokitClassChildAt (some snap) classId matchFlags j buflen = some (nm, r') → i = j
  named : ∀ i nm r,
    sysfsIokitClassChildAt (some snap) classId matchFlags i buflen = some (nm, r) →
    sysfsIokitClassChildNamed (some snap) classId matchFlags nm nm.length = some r

section Enumeration

variable {es : List RegEntry} {snap : Snapshot} (h : Built es snap) {classId matchFlags : UInt32}
  {buflen : ℕ} (hbuf : sysfsIokitBsdnamemax ≤ buflen)
include h hbuf

theorem classChildAt_iff {i : ℕ} {nm : CStr} {r : UInt64} :
    sysfsIokitClassChildAt (some snap) classId matchFlags i buflen = some (nm, r) ↔
      ∃ e, (classMembers classId matchFlags es)[i]? = some e ∧ e.className = nm ∧ e.regid = r := by
  rw [sysfsIokitClassChildAt_eq h classId matchFlags hbuf, Option.map_eq_some_iff]
  simp only [Prod.mk.injEq]

theorem enumeratesClass : EnumeratesClass es snap classId matchFlags buflen where
  entry i nm r hi := by
    have ⟨e, he, hname, hr⟩ := (classChildAt_iff h hbuf).mp hi
    have ⟨hmem, hin⟩ := List.mem_filter.mp (List.mem_of_getElem? he)
    exact ⟨e, hmem, hin, hname, hr⟩
  once e hmem hin := by
    have ⟨i, hi⟩ := List.mem_iff_getElem?.mp (List.mem_filter.mpr ⟨hmem, hin⟩)
    refine ⟨i, ⟨e.className, (classChildAt_iff h hbuf).mpr ⟨e, hi, rfl, rfl⟩⟩, ?_⟩
    rintro j ⟨nm, hj⟩
    have ⟨e', hj', _, hr⟩ := (classChildAt_iff h hbuf).mp hj
    -- the ids of the members are distinct, so the two indices are the same
    have hnodup := classMembers_regids_nodup h classId matchFlags
    have hlt := (List.getElem?_eq_some_iff.mp hj').1
    apply (List.getElem?_inj (by rwa [List.length_map]) hnodup).mp
    rw [List.getElem?_map, List.getElem?_map, hj', Option.map_some, hr]
    exact (congrArg (Option.map RegEntry.regid) hi).symm
  stops := by
    refine ⟨(classMembers classId matchFlags es).length, fun i => ?_⟩
    rw [sysfsIokitClassChildAt_eq h classId matchFlags hbuf, Option.isSome_map]
    simp

theorem classNamesAgree_iff :
    ClassNamesAgree snap classId matchFlags buflen ↔
      ((classMembers classId matchFlags es).map RegEntry.className).Nodup := by
  have hkeys : ((classMembers classId matchFlags es).map RegEntry.className).Nodup ↔ _ :=
    FirstMatch.nodup_keys_iff (classMembers_regids_nodup h classId matchFlags)
  constructor
  · intro hagree
    rw [hkeys]
    intro e he
    have ⟨i, hi⟩ := List.mem_iff_getElem?.mp he
    rw [← sysfsIokitClassChildNamed_eq h]
    exact hagree.named i _ _ ((classChildAt_iff h hbuf).mpr ⟨e, hi, rfl, rfl⟩)
  · intro hnodup
    refine ⟨?_, ?_⟩
    · intro i j nm r r' hi hj
      have ⟨e, he, hname, _⟩ := (classChildAt_iff h hbuf).mp hi
      have ⟨e', he', hname', _⟩ := (classChildAt_iff h hbuf).mp hj
      have hlt := (List.getElem?_eq_some_iff.mp he).1
      apply (List.getElem?_inj (by rwa [List.length_map]) hnodup).mp
      rw [List.getElem?_map, List.getElem?_map, he, he', Option.map_some, Option.map_some, hname,
        hname']
    · intro i nm r hi
      have ⟨e, he, hname, hr⟩ := (classChildAt_iff h hbuf).mp hi
      rw [sysfsIokitClassChildNamed_eq h, ← hname, ← hr]
      exact hkeys.mp hnodup e (List.mem_of_getElem? he)

end Enumeration

/-- The enumeration of a class is complete for every snapshot. Its names are distinct and lead
back to the entries exactly when no two of them are the same after they are cut. -/
theorem class_names_agree_iff {lastNodeCount : ℕ} {counted : Option (List RegEntry)}
    {inp : BuildInput} {snap : Snapshot}
    (hsnap : (sysfsSnapBuild lastNodeCount counted inp).1 = some snap)
    (classId matchFlags : UInt32) {buflen : ℕ} (hbuf : sysfsIokitBsdnamemax ≤ buflen) :
    ∃ es, Built es snap ∧ es.Sublist (inp.yields.getD []) ∧
      EnumeratesClass es snap classId matchFlags buflen ∧
      (ClassNamesAgree snap classId matchFlags buflen ↔
        ((classMembers classId matchFlags es).map RegEntry.className).Nodup) := by
  have ⟨es, hb, hsub⟩ := sysfsSnapBuild_built hsnap
  exact ⟨es, hb, hsub, enumeratesClass hb hbuf, classNamesAgree_iff hb hbuf⟩

def twoBatteries : List RegEntry :=
  [{ regid := 1, name := some (cstr "AppleSmartBattery"), isPowerSource := true },
    { regid := 2, name := some (cstr "AppleSmartBattery"), isPowerSource := true }]

/-- The second battery is listed under a name that leads to the first one. -/
theorem batteries_share_name :
    (sysfsSnapBuild 0 none { yields := some twoBatteries, kexts := none, uptime := 0 }).1.any
      (fun snap =>
        (List.range 3).map (sysfsIokitClassChildAt (some snap) sysfsClassPower 0 · 256) =
          [some (cstr "AppleSmartBattery", 1), some (cstr "AppleSmartBattery", 2), none] ∧
        sysfsIokitClassChildNamed (some snap) sysfsClassPower 0 (cstr "AppleSmartBattery") 17 =
          some 1) = true := by
  decide +kernel

def twoInterfaces : List RegEntry :=
  [{ regid := 1, name := none, isNetworkInterface := true, bsdName := some (cstr "en0") },
    { regid := 2, name := none, isMedia := true, bsdName := some (cstr "disk0") },
    { regid := 3, name := none, isNetworkInterface := true, bsdName := some (cstr "en1") }]

theorem interfaces_agree :
    ∃ snap, (sysfsSnapBuild 0 none { yields := some twoInterfaces, kexts := none, uptime := 0 }).1 =
        some snap ∧ ClassNamesAgree snap sysfsClassNet 0 256 := by
  have hsome : (sysfsSnapBuild 0 none
      { yields := some twoInterfaces, kexts := none, uptime := 0 }).1.isSome := by decide +kernel
  have ⟨snap, hsnap⟩ := Option.isSome_iff_exists.mp hsome
  have ⟨es, _, hsub, _, hiff⟩ := class_names_agree_iff hsnap sysfsClassNet 0 (by decide : 32 ≤ 256)
  refine ⟨snap, hsnap, hiff.mpr ?_⟩
  -- whatever was captured, the cut names of the entries met are distinct
  have hall : ((classMembers sysfsClassNet 0 twoInterfaces).map RegEntry.className).Nodup := by
    decide
  exact hall.sublist ((hsub.filter _).map _)

end SysFS
