import SysFS.System

namespace SysFS
open ByteMemory CString SetText

variable {ctl : Sysctls}

theorem cpulist_listSet (ctl : Sysctls) :
    listSet (cpulistText ctl) = some (Set.Iio (sysfsNcpu ctl).toNat) := by
  have ⟨hpos, _⟩ := ncpu_bounds ctl
  unfold cpulistText
  generalize sysfsNcpu ctl = ncpu at hpos ⊢
  split
  · next hone =>
    rw [UInt32.le_iff_toNat_le] at hone
    have hval : ncpu.toNat = 1 := Nat.le_antisymm hone hpos
    have hset : Set.Iio 1 = ({0} : Set ℕ) := by
      ext i
      simp
    rw [hval, hset]
    exact listSet_decimal 0
  · have hlast : (ncpu - 1).toNat = ncpu.toNat - 1 :=
      UInt32.toNat_sub_of_le _ _ (UInt32.le_iff_toNat_le.mpr hpos)
    have hset : Set.Iio ncpu.toNat = Set.Icc 0 (ncpu.toNat - 1) := by
      ext i
      simp only [Set.mem_Iio, Set.mem_Icc]
      omega
    rw [hset, hlast]
    exact listSet_interval 0 _

theorem cpumap_maskSet {n : ℕ} (hpos : 1 ≤ n) : maskSet (cpumapText n) = some (Set.Iio n) := by
  have hcount : n - 32 * ((n + 31) / 32 - 1) + 32 * ((n + 31) / 32 - 1) = n := by omega
  rw [cpumapText, maskSet_full (by omega), hcount]

/-- The map and the list name the CPUs that there are, printing the map changes nothing outside
of the buffer, and a request from the offset copies no byte from there. -/
structure CpumapOk (ctl : Sysctls) (offset : Int64) : Prop where
  denotes : ∃ map list, Renders (sysfsDoCpumap ctl) map ∧ Renders (sysfsDoCpulist ctl) list ∧
    maskSet map = some (Set.Iio (sysfsNcpu ctl).toNat) ∧
    listSet list = some (Set.Iio (sysfsNcpu ctl).toNat)
  written : ∀ (stack : Memory) (x : ℤ), x < 0 ∨ sysfsSystemBufmax.toNat ≤ x →
    (cpumapBuf (sysfsNcpu ctl) stack).1 x = stack x
  copied : ∀ (stack : Memory) (uio : ByteUio), uio.offset = offset →
    ∃ res, sysfsDoCpumap ctl stack uio = some res ∧
      ∀ start len, res.moved = some (start, len) →
        ∀ x, start.toInt ≤ x → x < start.toInt + min len.toInt uio.resid →
          0 ≤ x ∧ x < sysfsSystemBufmax.toNat

/-- `off` after the newline. -/
def cpumapLen (ctl : Sysctls) : ℕ := 9 + 9 * min (((sysfsNcpu ctl).toNat + 31) / 32 - 1) 56

theorem sysfsDoCpumap_eq (ctl : Sysctls) (stack : Memory) :
    ∃ dataLen : Int32, dataLen.toInt = cpumapLen ctl ∧
      ∀ uio, sysfsDoCpumap ctl stack uio =
        sysfsCopyData (some (cpumapBuf (sysfsNcpu ctl) stack).1) dataLen uio := by
  have ⟨hpos, hlt⟩ := ncpu_bounds ctl
  have hoff : (cpumapBuf (sysfsNcpu ctl) stack).2 = cpumapLen ctl :=
    cpumapBuf_offset hpos hlt stack
  have hshort : cpumapLen ctl ≤ 513 := by
    rw [cpumapLen]
    omega
  refine ⟨.ofNat (cpumapBuf (sysfsNcpu ctl) stack).2, ?_, fun _ => rfl⟩
  rw [hoff, Int32.toInt_ofNat_of_lt (by omega)]

theorem cpumap_copies (ctl : Sysctls) (stack : Memory) (resid : ℕ) :
    ∃ len : Int32, len.toInt = cpumapLen ctl ∧
      sysfsDoCpumap ctl stack ⟨0, resid, []⟩ =
        some ⟨none, uiomoveBytes (cpumapBuf (sysfsNcpu ctl) stack).1 0 len.toInt.toNat
          ⟨0, resid, []⟩, some (0, len)⟩ := by
  have hzero : (ByteUio.mk 0 resid []).offset.toInt = 0 := Int64.toInt_zero
  have ⟨dataLen, hdata, heq⟩ := sysfsDoCpumap_eq ctl stack
  have hlen : 9 ≤ cpumapLen ctl := Nat.le_add_right _ _
  have hbefore : (ByteUio.mk 0 resid []).offset.toInt < dataLen.toInt := by omega
  have ⟨len, hval, hcopy⟩ :=
    sysfsCopyData_inside (cpumapBuf (sysfsNcpu ctl) stack).1 (Int.le_of_eq hzero.symm) hbefore
  refine ⟨len, ?_, (heq _).trans hcopy⟩
  rw [hval, hzero, hdata, Int.sub_zero]

/-- With more than 56 groups the buffer is full before the newline is printed. The newline is
counted all the same, and the byte after the buffer is copied. -/
theorem cpumap_beyond {ctl : Sysctls} (hmany : 1792 < (sysfsNcpu ctl).toNat) (stack : Memory) :
    ∃ bytes, (ReadCall.mk 513 stack).bytes (sysfsDoCpumap ctl) (0 : ℕ) = some bytes ∧
      bytes.length = 513 ∧ bytes[512]? = some (stack 512) := by
  have ⟨hpos, hlt⟩ := ncpu_bounds ctl
  have ⟨len, hlen, hcopy⟩ := cpumap_copies ctl stack 513
  have hval : len.toInt.toNat = 513 := by
    rw [hlen, cpumapLen]
    omega
  have hout : (uiomoveBytes (cpumapBuf (sysfsNcpu ctl) stack).1 0 len.toInt.toNat
      ⟨0, 513, []⟩).out = load (cpumapBuf (sysfsNcpu ctl) stack).1 0 513 := by
    rw [hval, uiomoveBytes]
    dsimp only
    rw [Nat.min_self, List.nil_append]
  refine ⟨load (cpumapBuf (sysfsNcpu ctl) stack).1 0 513, ?_, length_load 513, ?_⟩
  · have hstart : Int64.ofInt ((0 : ℕ) : ℤ) = 0 := rfl
    rw [ReadCall.bytes, hstart, hcopy, Option.bind_some, if_pos rfl, hout]
  · rw [getElem?_load, if_pos (by decide)]
    exact congrArg some (cpumapBuf_outside hpos hlt stack (.inr le_rfl))

theorem not_renders_cpumap {ctl : Sysctls} (hmany : 1792 < (sysfsNcpu ctl).toNat)
    (content : List UInt8) : ¬ Renders (sysfsDoCpumap ctl) content := by
  -- the last byte depends on what is on the stack
  intro hrenders
  have hbyte : ∀ b : UInt8, (content.take 513)[512]? = some b := by
    intro b
    have ⟨bytes, hbytes, _, hlast⟩ := cpumap_beyond hmany fun _ => b
    have heq := hrenders.bytes_eq ⟨513, fun _ => b⟩ (Nat.zero_le content.length)
    rw [hbytes, List.drop_zero, Option.some_inj] at heq
    rw [← heq, hlast]
  cases (hbyte 0).symm.trans (hbyte 1)

/-- The map is right for up to 1792 CPUs, which are 56 groups, and for the offsets from which
`sysfs_copy_data` takes no byte before the buffer. -/
theorem cpumapOk_iff (ctl : Sysctls) (offset : Int64) :
    CpumapOk ctl offset ↔
      (sysfsNcpu ctl).toNat ≤ 1792 ∧
        (0 ≤ offset.toInt ∨ cpumapLen ctl ≤ offset.toInt32.toInt) := by
  have ⟨hpos, hlt⟩ := ncpu_bounds ctl
  have hbytes : (sysfsNcpu ctl).toNat ≤ 1792 → ∀ stack,
      ((∀ uio : ByteUio, uio.offset = offset →
        ∃ res, sysfsDoCpumap ctl stack uio = some res ∧
          ∀ start len, res.moved = some (start, len) →
            ∀ x, start.toInt ≤ x → x < start.toInt + min len.toInt uio.resid →
              0 ≤ x ∧ x < sysfsSystemBufmax.toNat) ↔
        0 ≤ offset.toInt ∨ cpumapLen ctl ≤ offset.toInt32.toInt) := by
    intro hfits stack
    have ⟨dataLen, hdata, heq⟩ := sysfsDoCpumap_eq ctl stack
    have hsize : dataLen.toInt ≤ sysfsSystemBufmax.toNat := by
      rw [hdata, cpumapLen, bufmax_toNat]
      omega
    simp only [heq, ← hdata]
    exact bytes_within_iff _ (hdata ▸ Int.natCast_nonneg _) hsize offset
  constructor
  · intro hok
    have hfits : (sysfsNcpu ctl).toNat ≤ 1792 := by
      by_contra hmany
      have ⟨map, _, hmap, _⟩ := hok.denotes
      exact not_renders_cpumap (Nat.lt_of_not_le hmany) map hmap
    exact ⟨hfits, (hbytes hfits fun _ => 0).mp (hok.copied fun _ => 0)⟩
  · intro ⟨hfits, hoffset⟩
    refine ⟨⟨_, _, cpumap_renders hfits, cpulist_renders ctl, cpumap_maskSet hpos,
      cpulist_listSet ctl⟩, ?_, ?_⟩
    · intro stack x hx
      exact cpumapBuf_outside hpos hlt stack hx
    · intro stack
      exact (hbytes hfits stack).mpr hoffset

/-- With 1793 CPUs the byte after the buffer is copied out. -/
theorem cpumap_copies_beyond :
    let ctl : Sysctls := ⟨some 1793, none, none⟩
    sysfsNcpu ctl = 1793 ∧ ¬ CpumapOk ctl 0 ∧
      ∃ bytes, (ReadCall.mk 513 fun _ => 0xaa).bytes (sysfsDoCpumap ctl) 0 = some bytes ∧
        bytes.length = 513 ∧ bytes[512]? = some 0xaa := by
  intro ctl
  have hncpu : sysfsNcpu ctl = 1793 := by decide
  have hmany : 1792 < (sysfsNcpu ctl).toNat := by
    rw [hncpu]
    decide
  refine ⟨hncpu, ?_, cpumap_beyond hmany fun _ => 0xaa⟩
  intro hok
  have ⟨map, _, hmap, _⟩ := hok.denotes
  exact not_renders_cpumap hmany map hmap

def threadSiblings (ctl : Sysctls) (c : ℕ) : Option (Set ℕ) :=
  listSet (threadSiblingsText ctl (.ofNat c))

/-- The sets of the files are a partition of the CPUs on the list, one set for each core. -/
structure SiblingsPartition (ctl : Sysctls) : Prop where
  list : listSet (cpulistText ctl) = some (Set.Iio (sysfsNcpu ctl).toNat)
  own : ∀ c < (sysfsNcpu ctl).toNat, ∃ S, threadSiblings ctl c = some S ∧ c ∈ S
  online : ∀ c < (sysfsNcpu ctl).toNat, ∀ S, threadSiblings ctl c = some S →
    S ⊆ Set.Iio (sysfsNcpu ctl).toNat
  disjoint : ∀ c < (sysfsNcpu ctl).toNat, ∀ d < (sysfsNcpu ctl).toNat, ∀ S T,
    threadSiblings ctl c = some S → threadSiblings ctl d = some T → S = T ∨ Disjoint S T
  cores : ∀ c < (sysfsNcpu ctl).toNat, ∀ d < (sysfsNcpu ctl).toNat,
    (threadSiblings ctl c = threadSiblings ctl d ↔
      coreIdText ctl (.ofNat c) = coreIdText ctl (.ofNat d))

theorem Icc_run {k : ℕ} (hk : 1 ≤ k) (c : ℕ) :
    Set.Icc (c / k * k) (c / k * k + k - 1) = { x | x / k = c / k } := by
  ext x
  rw [Set.mem_Icc, Set.mem_ofPred_eq, Nat.div_eq_iff hk]

theorem runs_below_iff {k n : ℕ} (hk : 1 ≤ k) (hn : 1 ≤ n) :
    (∀ c < n, { x | x / k = c / k } ⊆ Set.Iio n) ↔ k ∣ n := by
  -- all runs that start below `n` end below `n` exactly if the last one is whole
  constructor
  · intro h
    -- only the run of the last number can go on after it
    have hlast : (n - 1) / k * k + (k - 1) < n := by
      apply h (n - 1) (by omega)
      have hrest : (k - 1) / k = 0 := Nat.div_eq_of_lt (by omega)
      rw [Set.mem_ofPred_eq, Nat.mul_comm, Nat.mul_add_div hk, hrest, Nat.add_zero]
    have hlt := Nat.lt_mul_div_succ (n - 1) hk
    rw [Nat.mul_succ, Nat.mul_comm] at hlt
    refine ⟨(n - 1) / k + 1, ?_⟩
    rw [Nat.mul_succ, Nat.mul_comm]
    omega
  · rintro ⟨m, rfl⟩ c hc x hx
    rw [Set.mem_ofPred_eq] at hx
    rw [Set.mem_Iio, Nat.mul_comm, ← Nat.div_lt_iff_lt_mul hk, hx, Nat.div_lt_iff_lt_mul hk,
      Nat.mul_comm]
    exact hc

theorem cpu_toNat {c : ℕ} (hc : c < (sysfsNcpu ctl).toNat) : (UInt32.ofNat c).toNat = c :=
  UInt32.toNat_ofNat_of_lt' (hc.trans (sysfsNcpu ctl).toNat_lt)

theorem threadSiblings_eq {c : ℕ} (hc : c < (sysfsNcpu ctl).toNat) :
    threadSiblings ctl c = some { x | x / (sysfsThreadsPerCore ctl).toNat =
      c / (sysfsThreadsPerCore ctl).toNat } := by
  have ⟨_, hlt⟩ := ncpu_bounds ctl
  have ⟨hpos, hle⟩ := threadsPerCore_bounds ctl
  have hval := cpu_toNat hc
  rw [threadSiblings, threadSiblingsText, ← Icc_run hpos]
  generalize sysfsThreadsPerCore ctl = tpc at hpos hle ⊢
  dsimp only
  split
  · next hone =>
    rw [UInt32.le_iff_toNat_le] at hone
    have htpc : tpc.toNat = 1 := Nat.le_antisymm hone hpos
    rw [htpc, hval, Nat.div_one, Nat.mul_one, Nat.add_sub_cancel, Set.Icc_self]
    exact listSet_decimal c
  · -- the run ends below twice the number of CPUs, so nothing wraps around
    have hmul : c / tpc.toNat * tpc.toNat ≤ c := Nat.div_mul_le_self c tpc.toNat
    have hfirst : (UInt32.ofNat c / tpc * tpc).toNat = c / tpc.toNat * tpc.toNat := by
      rw [UInt32.toNat_mul, UInt32.toNat_div, hval, Nat.mod_eq_of_lt (by omega)]
    have hsum : (UInt32.ofNat c / tpc * tpc + tpc).toNat =
        c / tpc.toNat * tpc.toNat + tpc.toNat := by
      rw [UInt32.toNat_add, hfirst, Nat.mod_eq_of_lt (by omega)]
    have hlast : (UInt32.ofNat c / tpc * tpc + tpc - 1).toNat =
        c / tpc.toNat * tpc.toNat + tpc.toNat - 1 := by
      rw [UInt32.toNat_sub_of_le, hsum]
      · rfl
      · rw [UInt32.le_iff_toNat_le, hsum]
        change 1 ≤ _
        omega
    rw [hfirst, hlast]
    exact (congrArg listSet (by simp [cstr])).trans (listSet_interval _ _)

theorem coreIdText_eq_iff {c d : ℕ} (hc : c < (sysfsNcpu ctl).toNat)
    (hd : d < (sysfsNcpu ctl).toNat) :
    coreIdText ctl (.ofNat c) = coreIdText ctl (.ofNat d) ↔
      c / (sysfsThreadsPerCore ctl).toNat = d / (sysfsThreadsPerCore ctl).toNat := by
  rw [coreIdText, coreIdText, List.append_left_inj, decimal_injective.eq_iff, UInt32.toNat_div,
    UInt32.toNat_div, cpu_toNat hc, cpu_toNat hd]

/-- The files give a partition of the CPUs exactly if the threads per core divide their number:
the division in `sysfs_threads_per_core` drops the remainder, and the last run goes on after
the last CPU otherwise. -/
theorem thread_siblings_partition_iff (ctl : Sysctls) :
    (Renders (sysfsDoCpulist ctl) (cpulistText ctl) ∧
      ∀ t snp, Renders (sysfsDoCpuThreadSiblings ctl t snp)
          (threadSiblingsText ctl (sysfsNodeCpu t snp)) ∧
        Renders (sysfsDoCpuCoreId ctl t snp) (coreIdText ctl (sysfsNodeCpu t snp))) ∧
    (SiblingsPartition ctl ↔ (sysfsThreadsPerCore ctl).toNat ∣ (sysfsNcpu ctl).toNat) := by
  refine ⟨⟨cpulist_renders ctl, fun t snp =>
    ⟨threadSiblings_renders ctl t snp, coreId_renders ctl t snp⟩⟩, ?_⟩
  have hpos := (threadsPerCore_bounds ctl).1
  rw [← runs_below_iff hpos (ncpu_bounds ctl).1]
  constructor
  · intro hpart c hc
    exact hpart.online c hc _ (threadSiblings_eq hc)
  · intro hbelow
    refine ⟨cpulist_listSet ctl, ?_, ?_, ?_, ?_⟩
    · intro c hc
      exact ⟨_, threadSiblings_eq hc, rfl⟩
    · intro c hc S hS
      rw [threadSiblings_eq hc] at hS
      cases hS
      exact hbelow c hc
    · intro c hc d hd S T hS hT
      rw [threadSiblings_eq hc] at hS
      rw [threadSiblings_eq hd] at hT
      cases hS
      cases hT
      by_cases heq : c / (sysfsThreadsPerCore ctl).toNat = d / (sysfsThreadsPerCore ctl).toNat
      · left
        rw [heq]
      · right
        apply Set.disjoint_left.mpr
        intro x hxc hxd
        exact heq (hxc.symm.trans hxd)
    · intro c hc d hd
      rw [coreIdText_eq_iff hc hd, threadSiblings_eq hc, threadSiblings_eq hd]
      constructor
      · intro hsets
        have hmem : c ∈ { x | x / (sysfsThreadsPerCore ctl).toNat =
            d / (sysfsThreadsPerCore ctl).toNat } := Option.some.inj hsets ▸ rfl
        exact hmem
      · intro heq
        rw [heq]

/-- With 5 logical and 2 physical CPUs, CPU 4 is listed with a CPU 5 that is not online. -/
theorem siblings_beyond_online :
    let ctl : Sysctls := ⟨some 5, some 2, none⟩
    (sysfsNcpu ctl).toNat = 5 ∧ cpulistText ctl = cstr "0-4\n" ∧
      threadSiblingsText ctl 4 = cstr "4-5\n" ∧
      (∃ S, threadSiblings ctl 4 = some S ∧ 5 ∈ S) ∧ ¬ SiblingsPartition ctl := by
  intro ctl
  have hncpu : (sysfsNcpu ctl).toNat = 5 := by decide
  have htext : threadSiblingsText ctl (.ofNat 4) = decimal 4 ++ 45 :: decimal 5 ++ [10] := by
    decide
  have hset : threadSiblings ctl 4 = some (Set.Icc 4 5) := by
    rw [threadSiblings, htext, listSet_interval]
  have hmem : 5 ∈ Set.Icc 4 5 := by simp
  refine ⟨hncpu, by decide, by decide, ⟨_, hset, hmem⟩, ?_⟩
  intro hpart
  have honline := hpart.online 4 (by omega) _ hset hmem
  rw [Set.mem_Iio] at honline
  omega

end SysFS
