import SysFS.Lib.SetText
import SysFS.Read

namespace SysFS
open ByteMemory CString

def sysfsSystemBufmax : UInt64 := 512

/-- What `sysctlbyname` reports for the three names that are asked for, if it succeeds. -/
structure Sysctls where
  logicalcpuMax : Option Int32
  physicalcpuMax : Option Int32
  memsize : Option UInt64

/-- `sysfs_ncpu`, which `sysfs_cpu_count` returns too. -/
def sysfsNcpu (ctl : Sysctls) : UInt32 :=
  match ctl.logicalcpuMax with
  | none => 1
  | some ncpu => if ncpu ≤ 0 then 1 else ncpu.toUInt32

def sysfsMemsize (ctl : Sysctls) : UInt64 := ctl.memsize.getD 0

def sysfsThreadsPerCore (ctl : Sysctls) : UInt32 :=
  match ctl.physicalcpuMax with
  | none => 1
  | some phys =>
    if phys ≤ 0 then 1
    else if phys.toUInt32 ≥ sysfsNcpu ctl then 1
    else sysfsNcpu ctl / phys.toUInt32

def sysfsNodeCpu (t : Tree) (snp : Sfsnode) : UInt32 := (t.node snp.nodeStructureNode).ssnInstance

/-- A copy from an array with the text and a NUL, wherever in the memory it is. -/
def copyConstant (text : CStr) (mem : Memory) (uio : ByteUio) : Option ReadResult :=
  sysfsCopyData (some (store mem 0 (text ++ [0]))) (.ofNat text.length) uio

def sysfsDoZeroCount := copyConstant (cstr "0\n")
def sysfsDoNodeDistance := copyConstant (cstr "10\n")
def numastatText : CStr :=
  cstr ("numa_hit 0\nnuma_miss 0\nnuma_foreign 0\ninterleave_hit 0\nlocal_node 0\n" ++
    "other_node 0\n")
def sysfsDoNodeNumastat := copyConstant numastatText
def sysfsDoNodeList := copyConstant (cstr "0\n")
def sysfsDoCpuOnline := copyConstant (cstr "1\n")
def sysfsDoCpuPackageId := copyConstant (cstr "0\n")

/-- One text is printed into the buffer, and as much is copied out as `snprintf` says that the
text would take. -/
def printLine (text : CStr) (stack : Memory) (uio : ByteUio) : Option ReadResult :=
  let (buf, len) := snprintf stack 0 sysfsSystemBufmax.toNat text
  sysfsCopyData (some buf) (.ofNat len) uio

def cpulistText (ctl : Sysctls) : CStr :=
  if sysfsNcpu ctl ≤ 1 then cstr "0\n"
  else cstr "0-" ++ decimal (sysfsNcpu ctl - 1).toNat ++ cstr "\n"

def coreIdText (ctl : Sysctls) (cpu : UInt32) : CStr :=
  decimal (cpu / sysfsThreadsPerCore ctl).toNat ++ cstr "\n"

def threadSiblingsText (ctl : Sysctls) (cpu : UInt32) : CStr :=
  let tpc := sysfsThreadsPerCore ctl
  if tpc ≤ 1 then decimal cpu.toNat ++ cstr "\n"
  else
    let first := cpu / tpc * tpc
    decimal first.toNat ++ cstr "-" ++ decimal (first + tpc - 1).toNat ++ cstr "\n"

def kernelMaxText (ctl : Sysctls) : CStr := decimal (sysfsNcpu ctl - 1).toNat ++ cstr "\n"

def sysfsDoCpulist (ctl : Sysctls) := printLine (cpulistText ctl)

def sysfsDoCpuCoreId (ctl : Sysctls) (t : Tree) (snp : Sfsnode) :=
  printLine (coreIdText ctl (sysfsNodeCpu t snp))

def sysfsDoCpuThreadSiblings (ctl : Sysctls) (t : Tree) (snp : Sfsnode) :=
  printLine (threadSiblingsText ctl (sysfsNodeCpu t snp))

def sysfsDoCpuCoreSiblings (ctl : Sysctls) := sysfsDoCpulist ctl

def sysfsDoCpuKernelMax (ctl : Sysctls) := printLine (kernelMaxText ctl)

def groupMask (ncpu groups g : UInt32) : UInt32 :=
  let bitsInGroup := if g = groups then ncpu - (groups - 1) * 32 else 32
  if bitsInGroup ≥ 32 then 0xffffffff else (1 <<< bitsInGroup) - 1

/-- The loop of `sysfs_do_cpumap`, over the buffer and the offset in it. -/
def cpumapLoop (ncpu groups : UInt32) : ℕ → Memory × ℕ → Memory × ℕ
  | 0, p => p
  | g + 1, p =>
    if p.2 < sysfsSystemBufmax.toNat then
      let mask := groupMask ncpu groups (.ofNat (g + 1))
      let text :=
        if UInt32.ofNat (g + 1) = groups then hexPadded 8 mask.toNat
        else cstr "," ++ hexPadded 8 mask.toNat
      cpumapLoop ncpu groups g (printAt sysfsSystemBufmax p text)
    else p

/-- The buffer of `sysfs_do_cpumap` and the length that is copied from it. -/
def cpumapBuf (ncpu : UInt32) (stack : Memory) : Memory × ℕ :=
  let groups := (ncpu + 31) / 32
  printAt sysfsSystemBufmax (cpumapLoop ncpu groups groups.toNat (stack, 0)) (cstr "\n")

def sysfsDoCpumap (ctl : Sysctls) (stack : Memory) (uio : ByteUio) : Option ReadResult :=
  let p := cpumapBuf (sysfsNcpu ctl) stack
  sysfsCopyData (some p.1) (.ofNat p.2) uio

def meminfoTexts (ctl : Sysctls) : List CStr :=
  let totalKb := sysfsMemsize ctl / 1024
  [cstr "Node 0 MemTotal:       " ++ decimalPadded 8 totalKb.toNat ++ cstr " kB\n",
    cstr "Node 0 MemUsed:        " ++ decimalPadded 8 0 ++ cstr " kB\n",
    cstr "Node 0 MemFree:        " ++ decimalPadded 8 0 ++ cstr " kB\n",
    cstr "Node 0 HugePages_Total: " ++ decimalPadded 7 0 ++ cstr "\n",
    cstr "Node 0 HugePages_Free:  " ++ decimalPadded 7 0 ++ cstr "\n"]

def sysfsDoNodeMeminfo (ctl : Sysctls) (stack : Memory) (uio : ByteUio) : Option ReadResult :=
  let p := (meminfoTexts ctl).foldl (printAt sysfsSystemBufmax) (stack, 0)
  sysfsCopyData (some p.1) (.ofNat p.2) uio

/-- The function that a structure node names as its reader. -/
def systemReadData (ctl : Sysctls) (t : Tree) :
    ReadDataFn → Sfsnode → Memory → ByteUio → Option ReadResult
  | .sysfsDoZeroCount, _ => sysfsDoZeroCount
  | .sysfsDoCpulist, _ => sysfsDoCpulist ctl
  | .sysfsDoCpumap, _ => sysfsDoCpumap ctl
  | .sysfsDoNodeMeminfo, _ => sysfsDoNodeMeminfo ctl
  | .sysfsDoNodeDistance, _ => sysfsDoNodeDistance
  | .sysfsDoNodeNumastat, _ => sysfsDoNodeNumastat
  | .sysfsDoNodeList, _ => sysfsDoNodeList
  | .sysfsDoCpuKernelMax, _ => sysfsDoCpuKernelMax ctl
  | .sysfsDoCpuOnline, _ => sysfsDoCpuOnline
  | .sysfsDoCpuPackageId, _ => sysfsDoCpuPackageId
  | .sysfsDoCpuCoreId, snp => sysfsDoCpuCoreId ctl t snp
  | .sysfsDoCpuThreadSiblings, snp => sysfsDoCpuThreadSiblings ctl t snp
  | .sysfsDoCpuCoreSiblings, _ => sysfsDoCpuCoreSiblings ctl

theorem toUInt32_bounds {x : Int32} (h : ¬ x ≤ 0) :
    1 ≤ x.toUInt32.toNat ∧ x.toUInt32.toNat < 2 ^ 31 := by
  have hpos : 0 < x.toInt := by rwa [Int32.le_iff_toInt_le, Int32.toInt_zero, Int.not_le] at h
  have hlt := x.toInt_lt
  have hnonneg : 0 ≤ x := Int32.le_iff_toInt_le.mpr hpos.le
  have hval : x.toUInt32.toNat = x.toInt.toNat := Int32.toNat_toUInt32_of_le hnonneg
  omega

theorem ncpu_bounds (ctl : Sysctls) :
    1 ≤ (sysfsNcpu ctl).toNat ∧ (sysfsNcpu ctl).toNat < 2 ^ 31 := by
  unfold sysfsNcpu
  split
  · decide
  · split
    · decide
    · next h => exact toUInt32_bounds h

theorem threadsPerCore_bounds (ctl : Sysctls) :
    1 ≤ (sysfsThreadsPerCore ctl).toNat ∧
      (sysfsThreadsPerCore ctl).toNat ≤ (sysfsNcpu ctl).toNat := by
  have hone : 1 ≤ (1 : UInt32).toNat ∧ (1 : UInt32).toNat ≤ (sysfsNcpu ctl).toNat :=
    ⟨le_rfl, (ncpu_bounds ctl).1⟩
  unfold sysfsThreadsPerCore
  split
  · exact hone
  · split
    · exact hone
    · next hphys =>
      split
      · exact hone
      · next hlt =>
        rw [ge_iff_le, UInt32.le_iff_toNat_le, Nat.not_le] at hlt
        rw [UInt32.toNat_div]
        exact ⟨Nat.div_pos hlt.le (toUInt32_bounds hphys).1, Nat.div_le_self _ _⟩

theorem bufmax_toNat : sysfsSystemBufmax.toNat = 512 := rfl

theorem renders_of_printed {read : Memory → ByteUio → Option ReadResult} {content : CStr}
    {p : Memory → Memory × ℕ} (hshort : content.length < 2 ^ 31)
    (hprinted : ∀ stack, Printed content (p stack))
    (hread : ∀ stack uio,
      read stack uio = sysfsCopyData (some (p stack).1) (.ofNat (p stack).2) uio) :
    Renders read content := by
  intro stack uio _
  have hoff := (hprinted stack).offset
  refine ⟨(p stack).1, .ofNat (p stack).2, ?_, (hprinted stack).loaded, hread stack uio⟩
  rw [hoff, Int32.toInt_ofNat_of_lt hshort]

theorem copyConstant_renders {text : CStr} (h : text.length < 2 ^ 31) :
    Renders (copyConstant text) text := by
  apply renders_of_printed h (p := fun mem => (store mem 0 (text ++ [0]), text.length))
  · intro mem
    refine ⟨rfl, ?_⟩
    dsimp only
    rw [load_store (by simp), List.take_left]
  · intro mem uio
    rfl

theorem printLine_renders {text : CStr} (h : text.length < 512) :
    Renders (printLine text) text := by
  apply renders_of_printed (by omega) (p := fun stack => snprintf stack 0 512 text)
  · intro stack
    exact ⟨rfl, load_snprintf h⟩
  · intro stack uio
    rfl

theorem decimal_toNat_length (n : UInt32) : (decimal n.toNat).length ≤ 10 :=
  decimal_length_le (by decide) (n.toNat_lt.trans (by decide))

theorem decimalLine_length (n : UInt32) : (decimal n.toNat ++ cstr "\n").length < 512 := by
  have hlen := decimal_toNat_length n
  have hfixed : (cstr "\n").length = 1 := by decide
  rw [List.length_append]
  omega

theorem cpulist_renders (ctl : Sysctls) : Renders (sysfsDoCpulist ctl) (cpulistText ctl) := by
  apply printLine_renders
  unfold cpulistText
  split
  · decide
  · have hlen := decimal_toNat_length (sysfsNcpu ctl - 1)
    have hfixed : (cstr "0-").length = 2 ∧ (cstr "\n").length = 1 := by decide
    rw [List.length_append, List.length_append]
    omega

theorem coreId_renders (ctl : Sysctls) (t : Tree) (snp : Sfsnode) :
    Renders (sysfsDoCpuCoreId ctl t snp) (coreIdText ctl (sysfsNodeCpu t snp)) := by
  apply printLine_renders
  exact decimalLine_length _

theorem kernelMax_renders (ctl : Sysctls) :
    Renders (sysfsDoCpuKernelMax ctl) (kernelMaxText ctl) := by
  apply printLine_renders
  exact decimalLine_length _

theorem threadSiblings_renders (ctl : Sysctls) (t : Tree) (snp : Sfsnode) :
    Renders (sysfsDoCpuThreadSiblings ctl t snp)
      (threadSiblingsText ctl (sysfsNodeCpu t snp)) := by
  apply printLine_renders
  unfold threadSiblingsText
  generalize sysfsNodeCpu t snp = cpu
  generalize sysfsThreadsPerCore ctl = tpc
  dsimp only
  split
  · exact decimalLine_length cpu
  · have hfirst := decimal_toNat_length (cpu / tpc * tpc)
    have hlast := decimal_toNat_length (cpu / tpc * tpc + tpc - 1)
    have hfixed : (cstr "-").length = 1 ∧ (cstr "\n").length = 1 := by decide
    rw [List.length_append, List.length_append, List.length_append]
    omega

theorem decimalPadded_length {width n k : ℕ} (hk : 0 < k) (h : n < 10 ^ k) :
    (decimalPadded width n).length ≤ max width k := by
  have hlen := decimal_length_le hk h
  rw [decimalPadded, List.length_leftpad]
  omega

theorem meminfo_length (ctl : Sysctls) : (meminfoTexts ctl).flatten.length < 512 := by
  have htotal : (decimalPadded 8 (sysfsMemsize ctl / 1024).toNat).length ≤ max 8 20 :=
    decimalPadded_length (by decide) ((sysfsMemsize ctl / 1024).toNat_lt.trans (by decide))
  have hfixed : (cstr "Node 0 MemTotal:       ").length = 23 ∧ (cstr " kB\n").length = 4 := by
    decide
  -- the lines after the first do not depend on the machine
  have hrest : (meminfoTexts ctl).tail.flatten.length = 134 := by
    rw [meminfoTexts, List.tail_cons]
    decide +kernel
  rw [meminfoTexts] at hrest ⊢
  rw [List.tail_cons] at hrest
  rw [List.flatten_cons, List.length_append, hrest, List.length_append, List.length_append]
  omega

theorem meminfo_renders (ctl : Sysctls) :
    Renders (sysfsDoNodeMeminfo ctl) (meminfoTexts ctl).flatten := by
  have hlen := meminfo_length ctl
  apply renders_of_printed
    (p := fun stack => (meminfoTexts ctl).foldl (printAt sysfsSystemBufmax) (stack, 0))
  · omega
  · intro stack
    have hprinted : Printed ([] ++ (meminfoTexts ctl).flatten)
        ((meminfoTexts ctl).foldl (printAt sysfsSystemBufmax) (stack, 0)) := by
      apply (Printed.nil stack).foldl
      rwa [bufmax_toNat, List.length_nil, Nat.zero_add]
    rwa [List.nil_append] at hprinted
  · intro stack uio
    rfl

section Cpumap

variable {ncpu groups : UInt32} {g : ℕ} {p : Memory × ℕ}

def fullGroup : CStr := cstr "," ++ hexPadded 8 (2 ^ 32 - 1)

theorem printAt_fullGroup : (printAt sysfsSystemBufmax p fullGroup).2 = p.2 + 9 := by
  rw [printAt_offset]
  rfl

theorem ofNat_ne_of_lt (h : g < groups.toNat) : UInt32.ofNat g ≠ groups := by
  intro heq
  have hval : (UInt32.ofNat g).toNat = g := UInt32.toNat_ofNat_of_lt' (h.trans groups.toNat_lt)
  rw [heq] at hval
  omega

theorem cpumapLoop_succ (hg : g + 1 < groups.toNat) :
    cpumapLoop ncpu groups (g + 1) p =
      if p.2 < 512 then cpumapLoop ncpu groups g (printAt sysfsSystemBufmax p fullGroup)
      else p := by
  -- below the first group the text is the same in every round
  have hne := ofNat_ne_of_lt hg
  have hmask : groupMask ncpu groups (.ofNat (g + 1)) = 0xffffffff := by
    unfold groupMask
    rw [if_neg hne]
    rfl
  rw [cpumapLoop, hmask, bufmax_toNat]
  dsimp only
  rw [if_neg hne]
  rfl

theorem cpumapLoop_eq_foldl (hg : g < groups.toNat) (hfits : p.2 + 9 * g < 512) :
    cpumapLoop ncpu groups g p =
      (List.replicate g fullGroup).foldl (printAt sysfsSystemBufmax) p := by
  induction g generalizing p with
  | zero => rfl
  | succ g ih =>
    have hnext := ih (p := printAt sysfsSystemBufmax p fullGroup) (by omega)
      (by rw [printAt_fullGroup]; omega)
    rw [cpumapLoop_succ hg, if_pos (by omega), hnext, List.replicate_succ, List.foldl_cons]

/-- From an offset that is a number of groups before the end of the buffer, the loop stops at
the end of it. -/
theorem cpumapLoop_offset (hg : g < groups.toNat) {k : ℕ} (hp : p.2 + 9 * k = 512) :
    (cpumapLoop ncpu groups g p).2 = p.2 + 9 * min g k := by
  -- `g` groups are left to print and there is room for `k`
  induction g generalizing p k with
  | zero => simp [cpumapLoop]
  | succ g ih =>
    rw [cpumapLoop_succ hg]
    cases k with
    | zero => rw [if_neg (by omega), Nat.min_zero, Nat.mul_zero, Nat.add_zero]
    | succ k =>
      have hnext := ih (p := printAt sysfsSystemBufmax p fullGroup) (k := k) (by omega)
        (by rw [printAt_fullGroup]; omega)
      rw [if_pos (by omega), hnext, printAt_fullGroup]
      omega

theorem cpumapLoop_outside (hg : g < groups.toNat) {k : ℕ} (hp : p.2 + 9 * k = 512) {x : ℤ}
    (hx : x < 0 ∨ 512 ≤ x) : (cpumapLoop ncpu groups g p).1 x = p.1 x := by
  induction g generalizing p k with
  | zero => rfl
  | succ g ih =>
    rw [cpumapLoop_succ hg]
    cases k with
    | zero => rw [if_neg (by omega)]
    | succ k =>
      have hnext := ih (p := printAt sysfsSystemBufmax p fullGroup) (k := k) (by omega)
        (by rw [printAt_fullGroup]; omega)
      rw [if_pos (by omega), hnext]
      apply printAt_outside
      · rw [bufmax_toNat]
        omega
      · exact hx

theorem cpumapLoop_first (hpos : 0 < groups.toNat) (hp : p.2 = 0) :
    cpumapLoop ncpu groups groups.toNat p =
      cpumapLoop ncpu groups (groups.toNat - 1)
        (printAt sysfsSystemBufmax p (hexPadded 8 (groupMask ncpu groups groups).toNat)) := by
  -- the first round prints the first group, whatever the mask
  have hsucc : groups.toNat = groups.toNat - 1 + 1 := by omega
  have hval : UInt32.ofNat (groups.toNat - 1 + 1) = groups := by rw [← hsucc, UInt32.ofNat_toNat]
  conv_lhs => rw [hsucc]
  rw [cpumapLoop, hval, if_pos (by rw [hp]; decide)]
  dsimp only
  rw [if_pos rfl]

variable (hpos : 1 ≤ ncpu.toNat) (hlt : ncpu.toNat < 2 ^ 31)
include hlt

theorem groups_toNat : ((ncpu + 31) / 32).toNat = (ncpu.toNat + 31) / 32 := by
  have hsum : (ncpu + 31).toNat = (ncpu.toNat + 31) % 2 ^ 32 := UInt32.toNat_add _ _
  rw [UInt32.toNat_div, hsum, Nat.mod_eq_of_lt (by omega)]
  rfl

include hpos

theorem groupMask_first :
    (groupMask ncpu ((ncpu + 31) / 32) ((ncpu + 31) / 32)).toNat =
      2 ^ (ncpu.toNat - 32 * ((ncpu.toNat + 31) / 32 - 1)) - 1 := by
  -- the first group has the CPUs that the others leave
  have hgroups := groups_toNat hlt
  generalize (ncpu + 31) / 32 = groups at hgroups ⊢
  -- nothing wraps around in the number of bits
  have hone : (groups - 1).toNat = groups.toNat - 1 := by
    apply UInt32.toNat_sub_of_le
    rw [UInt32.le_iff_toNat_le]
    change 1 ≤ _
    omega
  have hmul : ((groups - 1) * 32).toNat = 32 * (groups.toNat - 1) := by
    rw [UInt32.toNat_mul, hone]
    change (groups.toNat - 1) * 32 % 2 ^ 32 = _
    omega
  have hbits : (ncpu - (groups - 1) * 32).toNat = ncpu.toNat - 32 * (groups.toNat - 1) := by
    rw [UInt32.toNat_sub_of_le, hmul]
    rw [UInt32.le_iff_toNat_le, hmul]
    omega
  unfold groupMask
  rw [if_pos rfl, ← hgroups, ← hbits]
  have hle : (ncpu - (groups - 1) * 32).toNat ≤ 32 := by omega
  generalize ncpu - (groups - 1) * 32 = bits at hle ⊢
  dsimp only
  split
  · next hfull =>
    -- a shift by 32 would be undefined: a full group has a branch of its own
    rw [ge_iff_le, UInt32.le_iff_toNat_le] at hfull
    have hval : bits.toNat = 32 := Nat.le_antisymm hle hfull
    rw [hval]
    rfl
  · next hpart =>
    rw [ge_iff_le, UInt32.le_iff_toNat_le, Nat.not_le] at hpart
    change bits.toNat < 32 at hpart
    have hpow : 2 ^ bits.toNat < 2 ^ 32 := Nat.pow_lt_pow_right (by decide) hpart
    have hshift : ((1 : UInt32) <<< bits).toNat = 2 ^ bits.toNat := by
      rw [UInt32.toNat_shiftLeft, Nat.mod_eq_of_lt hpart]
      change 1 <<< bits.toNat % 2 ^ 32 = _
      rw [Nat.shiftLeft_eq, Nat.one_mul, Nat.mod_eq_of_lt hpow]
    rw [UInt32.toNat_sub_of_le, hshift]
    · rfl
    · rw [UInt32.le_iff_toNat_le, hshift]
      exact Nat.two_pow_pos _

omit hpos hlt

/-- The groups of the map for `n` CPUs, the most significant first. -/
def cpumapText (n : ℕ) : CStr :=
  SetText.maskText ((2 ^ (n - 32 * ((n + 31) / 32 - 1)) - 1) ::
    List.replicate ((n + 31) / 32 - 1) (2 ^ 32 - 1))

def firstGroup (ncpu : UInt32) : CStr :=
  hexPadded 8 (groupMask ncpu ((ncpu + 31) / 32) ((ncpu + 31) / 32)).toNat

theorem firstGroup_length (ncpu : UInt32) : (firstGroup ncpu).length = 8 :=
  SetText.hexPadded_length (by decide) (UInt32.toNat_lt _)

def firstPrinted (ncpu : UInt32) (stack : Memory) : Memory × ℕ :=
  printAt sysfsSystemBufmax (stack, 0) (firstGroup ncpu)

theorem firstPrinted_offset (ncpu : UInt32) (stack : Memory) :
    (firstPrinted ncpu stack).2 + 9 * 56 = 512 := by
  rw [firstPrinted, printAt_offset, firstGroup_length]

include hpos hlt

theorem cpumapBuf_eq (stack : Memory) :
    cpumapBuf ncpu stack = printAt sysfsSystemBufmax
      (cpumapLoop ncpu ((ncpu + 31) / 32) ((ncpu.toNat + 31) / 32 - 1) (firstPrinted ncpu stack))
      (cstr "\n") := by
  have hgroups := groups_toNat hlt
  have hfirst : 0 < ((ncpu + 31) / 32).toNat := by omega
  rw [cpumapBuf, cpumapLoop_first hfirst rfl, hgroups]
  rfl

theorem cpumapGroups_offset (stack : Memory) :
    (cpumapLoop ncpu ((ncpu + 31) / 32) ((ncpu.toNat + 31) / 32 - 1) (firstPrinted ncpu stack)).2 =
      8 + 9 * min ((ncpu.toNat + 31) / 32 - 1) 56 := by
  have hgroups := groups_toNat hlt
  have hfirst := firstPrinted_offset ncpu stack
  rw [cpumapLoop_offset (by omega) hfirst]
  omega

theorem cpumapBuf_offset (stack : Memory) :
    (cpumapBuf ncpu stack).2 = 9 + 9 * min ((ncpu.toNat + 31) / 32 - 1) 56 := by
  have hline : (cstr "\n").length = 1 := by decide
  rw [cpumapBuf_eq hpos hlt, printAt_offset, cpumapGroups_offset hpos hlt, hline]
  omega

theorem cpumapBuf_outside (stack : Memory) {x : ℤ} (hx : x < 0 ∨ 512 ≤ x) :
    (cpumapBuf ncpu stack).1 x = stack x := by
  have hgroups := groups_toNat hlt
  have hfirst := firstPrinted_offset ncpu stack
  have hoff := cpumapGroups_offset hpos hlt stack
  rw [cpumapBuf_eq hpos hlt, printAt_outside _ hx, cpumapLoop_outside (by omega) hfirst hx,
    firstPrinted, printAt_outside _ hx]
  · exact Nat.zero_le _
  · rw [hoff, bufmax_toNat]
    omega

theorem cpumapBuf_printed (hfits : ncpu.toNat ≤ 1792) (stack : Memory) :
    Printed (cpumapText ncpu.toNat) (cpumapBuf ncpu stack) := by
  have hgroups := groups_toNat hlt
  have hlen := firstGroup_length ncpu
  have htext : cpumapText ncpu.toNat = firstGroup ncpu ++
      (List.replicate ((ncpu.toNat + 31) / 32 - 1) fullGroup).flatten ++ cstr "\n" := by
    rw [cpumapText, SetText.maskText_cons, List.map_replicate, firstGroup,
      groupMask_first hpos hlt]
    rfl
  have hfull : (List.replicate ((ncpu.toNat + 31) / 32 - 1) fullGroup).flatten.length =
      ((ncpu.toNat + 31) / 32 - 1) * 9 := by
    rw [List.length_flatten, List.map_replicate, List.sum_replicate_nat]
    rfl
  have hfirst : Printed ([] ++ firstGroup ncpu) (firstPrinted ncpu stack) :=
    (Printed.nil stack).printAt (by rw [hlen]; decide)
  rw [List.nil_append] at hfirst
  have hoff := hfirst.offset
  rw [htext, cpumapBuf_eq hpos hlt, cpumapLoop_eq_foldl (by omega) (by omega)]
  have hline : (cstr "\n").length = 1 := by decide
  apply Printed.printAt
  · apply hfirst.foldl
    rw [hlen, hfull, bufmax_toNat]
    omega
  · rw [List.length_append, hlen, hfull, hline, bufmax_toNat]
    omega

end Cpumap

theorem cpumap_renders {ctl : Sysctls} (hfits : (sysfsNcpu ctl).toNat ≤ 1792) :
    Renders (sysfsDoCpumap ctl) (cpumapText (sysfsNcpu ctl).toNat) := by
  have ⟨hpos, hlt⟩ := ncpu_bounds ctl
  have hprinted := cpumapBuf_printed hpos hlt hfits
  apply renders_of_printed (p := cpumapBuf (sysfsNcpu ctl))
  · rw [← (hprinted fun _ => 0).offset, cpumapBuf_offset hpos hlt]
    omega
  · exact hprinted
  · intro stack uio
    rfl

example : cpumapText 40 = cstr "000000ff,ffffffff\n" := by decide

def systemText (ctl : Sysctls) (t : Tree) : ReadDataFn → Sfsnode → CStr
  | .sysfsDoZeroCount, _ => cstr "0\n"
  | .sysfsDoCpulist, _ => cpulistText ctl
  | .sysfsDoCpumap, _ => cpumapText (sysfsNcpu ctl).toNat
  | .sysfsDoNodeMeminfo, _ => (meminfoTexts ctl).flatten
  | .sysfsDoNodeDistance, _ => cstr "10\n"
  | .sysfsDoNodeNumastat, _ => numastatText
  | .sysfsDoNodeList, _ => cstr "0\n"
  | .sysfsDoCpuKernelMax, _ => kernelMaxText ctl
  | .sysfsDoCpuOnline, _ => cstr "1\n"
  | .sysfsDoCpuPackageId, _ => cstr "0\n"
  | .sysfsDoCpuCoreId, snp => coreIdText ctl (sysfsNodeCpu t snp)
  | .sysfsDoCpuThreadSiblings, snp => threadSiblingsText ctl (sysfsNodeCpu t snp)
  | .sysfsDoCpuCoreSiblings, _ => cpulistText ctl

theorem systemReadData_renders {ctl : Sysctls} (hfits : (sysfsNcpu ctl).toNat ≤ 1792) (t : Tree)
    (fn : ReadDataFn) (snp : Sfsnode) :
    Renders (systemReadData ctl t fn snp) (systemText ctl t fn snp) := by
  have hconst : ∀ text ∈ [cstr "0\n", cstr "1\n", cstr "10\n", numastatText],
      Renders (copyConstant text) text := by
    intro text htext
    have hlen : ∀ text ∈ [cstr "0\n", cstr "1\n", cstr "10\n", numastatText],
        text.length < 2 ^ 31 := by decide
    exact copyConstant_renders (hlen text htext)
  cases fn with
  | sysfsDoCpulist | sysfsDoCpuCoreSiblings => exact cpulist_renders ctl
  | sysfsDoCpumap => exact cpumap_renders hfits
  | sysfsDoNodeMeminfo => exact meminfo_renders ctl
  | sysfsDoCpuKernelMax => exact kernelMax_renders ctl
  | sysfsDoCpuCoreId => exact coreId_renders ctl t snp
  | sysfsDoCpuThreadSiblings => exact threadSiblings_renders ctl t snp
  | _ => exact hconst _ (by simp)

theorem system_file_renders {ctl : Sysctls} (hfits : (sysfsNcpu ctl).toNat ≤ 1792) {t : Tree}
    (g : GSnapshot) {snp : Sfsnode} {fn : ReadDataFn}
    (htype : (t.node snp.nodeStructureNode).ssnNodeType = .SFSfile)
    (hfn : (t.node snp.nodeStructureNode).ssnReadDataFn = some fn) :
    Renders (sysfsVnopRead (systemReadData ctl t) t g snp) (systemText ctl t fn snp) := by
  have hcontent : FileContent (systemReadData ctl t) t g snp (systemText ctl t fn snp) :=
    .file htype hfn (systemReadData_renders hfits t fn snp)
  exact hcontent.renders

end SysFS
