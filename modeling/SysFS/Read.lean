import SysFS.Lib.Listing
import SysFS.Lib.Memory
import SysFS.Lookup

namespace SysFS
open ByteMemory CString

/-- The `uio` of a read: the offset in the file, the room that is left and the bytes moved. -/
structure ByteUio where
  offset : Int64
  resid : ℕ
  out : List UInt8
  deriving DecidableEq, Repr

/-- `uiomove` of `len` bytes from the address `a`: no more than there is room for are moved. -/
def uiomoveBytes (mem : Memory) (a : ℤ) (len : ℕ) (uio : ByteUio) : ByteUio :=
  let n := min len uio.resid
  { offset := uio.offset + .ofNat n
    resid := uio.resid - n
    out := uio.out ++ load mem a n }

/-- How a read ends: the error, the `uio`, and the offset and the length that were handed to
`uiomove`, if it was called. -/
structure ReadResult where
  error : Option Errno
  uio : ByteUio
  moved : Option (Int64 × Int32)
  deriving DecidableEq, Repr

/-- A read that ends without a call of `uiomove`. -/
def ReadResult.done (error : Option Errno) (uio : ByteUio) : ReadResult := ⟨error, uio, none⟩

/-- The subtraction of two `int`s, where it is defined. -/
def subInt (a b : Int32) : Option Int32 :=
  if -2 ^ 31 ≤ a.toInt - b.toInt ∧ a.toInt - b.toInt < 2 ^ 31 then some (a - b) else none

/-- `sysfs_copy_data`. There is no result if the subtraction overflows, which C leaves
undefined. -/
def sysfsCopyData (data : Option Memory) (dataLen : Int32) (uio : ByteUio) : Option ReadResult :=
  match data with
  | none => some (.done (some .EFAULT) uio)
  | some mem =>
    if dataLen.toInt64 ≤ uio.offset then some (.done none uio)
    else
      (subInt dataLen uio.offset.toInt32).map fun len =>
        if len < 0 then .done (some .EINVAL) uio
        else ⟨none, uiomoveBytes mem uio.offset.toInt len.toInt.toNat uio, some (uio.offset, len)⟩

def sysfsAttrValueMax : ℕ := 256
def sysfsDevAttrName : UInt64 := 1
def sysfsModAttrRefcnt : UInt64 := 1
def sysfsModAttrCoresize : UInt64 := 2
def sysfsModAttrInitstate : UInt64 := 3
def sysfsModAttrVersion : UInt64 := 4

/-- `sysfs_iokit_name`: the buffer and the length of the name in it. -/
def sysfsIokitName (g : GSnapshot) (regid : UInt64) (buf : Memory) (buflen : ℕ) : Memory × ℕ :=
  match g, sysfsHashFind g regid with
  | some snap, some idx =>
    let name := strlcpy (snap.node idx).name buflen
    (store buf 0 (name ++ [0]), name.length)
  | _, _ => (buf, 0)

/-- `sysfs_device_read_attr`. The buffer is on the stack. -/
def sysfsDeviceReadAttr (g : GSnapshot) (snp : Sfsnode) (objid : UInt64) (stack : Memory)
    (uio : ByteUio) : Option ReadResult :=
  if objid = sysfsDevAttrName then
    let (buf, n) := sysfsIokitName g snp.nodeId.nodeidRegid stack (sysfsAttrValueMax - 1)
    sysfsCopyData (some (store buf n [10, 0])) (.ofNat (n + 1)) uio
  else some (.done (some .EINVAL) uio)

/-- The texts that the cases of `sysfs_module_format_attr` print. -/
def moduleAttrCase (mi : SnapModule) (objid : UInt64) : Option CStr :=
  if objid = sysfsModAttrRefcnt then some (decimal mi.refcnt.toNat ++ cstr "\n")
  else if objid = sysfsModAttrCoresize then some (decimal mi.loadSize.toNat ++ cstr "\n")
  else if objid = sysfsModAttrInitstate then some (cstr "live\n")
  else if objid = sysfsModAttrVersion then some (mi.version ++ cstr "\n")
  else none

/-- `sysfs_module_format_attr`: the buffer and what `snprintf` returns. -/
def sysfsModuleFormatAttr (g : GSnapshot) (snp : Sfsnode) (objid : UInt64) (buf : Memory)
    (buflen : ℕ) : Memory × Int32 :=
  match sysfsIokitModuleByTag g snp.nodeId.nodeidRegid with
  -- the kext unloaded since the vnode was created
  | none => (store buf 0 [0], 0)
  | some mi =>
    match moduleAttrCase mi objid with
    | some text =>
      let (buf', n) := snprintf buf 0 buflen text
      (buf', .ofNat n)
    | none => (store buf 0 [0], 0)

def sysfsModuleReadAttr (g : GSnapshot) (snp : Sfsnode) (objid : UInt64) (stack : Memory)
    (uio : ByteUio) : Option ReadResult :=
  let (buf, n) := sysfsModuleFormatAttr g snp objid stack sysfsAttrValueMax
  if n ≤ 0 then
    some (.done (if objid > sysfsModAttrVersion then some .EINVAL else none) uio)
  else
    let n := if n > .ofNat (sysfsAttrValueMax - 1) then .ofNat (sysfsAttrValueMax - 1) else n
    sysfsCopyData (some buf) n uio

/-- `sysfs_vnop_read`. The read functions of the structure nodes are given. -/
def sysfsVnopRead (readDataFn : ReadDataFn → Sfsnode → Memory → ByteUio → Option ReadResult)
    (t : Tree) (g : GSnapshot) (snp : Sfsnode) (stack : Memory) (uio : ByteUio) :
    Option ReadResult :=
  let snode := t.node snp.nodeStructureNode
  let objid := snp.nodeId.nodeidObjectid
  if snode.ssnNodeType = .SFSdevice then
    if sysfsDevIsDir objid then some (.done (some .EISDIR) uio)
    else sysfsDeviceReadAttr g snp objid stack uio
  else if snode.ssnNodeType = .SFSmodule then
    if sysfsModIsDir objid then some (.done (some .EISDIR) uio)
    else sysfsModuleReadAttr g snp objid stack uio
  else if sysfsIsDirectoryType snode.ssnNodeType then some (.done (some .EISDIR) uio)
  else
    match snode.ssnReadDataFn with
    | some fn => readDataFn fn snp stack uio
    | none => some (.done (some .EINVAL) uio)

/-- Nothing is copied, with an error or at the end, or exactly the bytes from the offset on
that the buffer and the `uio` have. No range that is moved leaves the buffer. -/
structure CopiesWithin (mem : Memory) (dataLen : Int32) (uio : ByteUio) (res : ReadResult) :
    Prop where
  range : ∀ a len, res.moved = some (a, len) →
    0 ≤ a.toInt ∧ 0 ≤ len.toInt ∧ a.toInt + len.toInt ≤ dataLen.toInt
  copied : (res.uio = uio ∧ (res.error ≠ none ∨ dataLen.toInt ≤ uio.offset.toInt)) ∨
    (res.error = none ∧ 0 ≤ uio.offset.toInt ∧ uio.offset.toInt < dataLen.toInt ∧
      res.uio = uiomoveBytes mem uio.offset.toInt (dataLen.toInt - uio.offset.toInt).toNat uio)

theorem toInt32_of_fits {x : Int64} (h : -2 ^ 31 ≤ x.toInt) (h' : x.toInt < 2 ^ 31) :
    x.toInt32.toInt = x.toInt := by
  rw [Int64.toInt_toInt32]
  exact Int.bmod_eq_of_le (by omega) (by omega)

theorem subInt_eq_some {a b c : Int32} (h : subInt a b = some c) :
    c.toInt = a.toInt - b.toInt := by
  rw [subInt] at h
  split at h
  · next hfits =>
    cases h
    rw [Int32.toInt_sub]
    exact Int.bmod_eq_of_le (by omega) (by omega)
  · cases h

theorem subInt_of_nonneg {a b : Int32} (ha : 0 ≤ a.toInt) (hb : 0 ≤ b.toInt) :
    ∃ c, subInt a b = some c := by
  have := a.toInt_lt
  have := b.toInt_lt
  exact ⟨_, if_pos (by omega)⟩

section Copies

variable (mem : Memory) {dataLen : Int32} {uio : ByteUio}

theorem sysfsCopyData_end (h : dataLen.toInt ≤ uio.offset.toInt) :
    sysfsCopyData (some mem) dataLen uio = some (.done none uio) := by
  apply if_pos
  rwa [Int64.le_iff_toInt_le, Int32.toInt_toInt64]

theorem sysfsCopyData_before (h : uio.offset.toInt < dataLen.toInt) :
    sysfsCopyData (some mem) dataLen uio =
      (subInt dataLen uio.offset.toInt32).map fun len =>
        if len < 0 then .done (some .EINVAL) uio
        else ⟨none, uiomoveBytes mem uio.offset.toInt len.toInt.toNat uio,
          some (uio.offset, len)⟩ := by
  apply if_neg
  rw [Int64.le_iff_toInt_le, Int32.toInt_toInt64]
  omega

theorem sysfsCopyData_inside (hpos : 0 ≤ uio.offset.toInt) (h : uio.offset.toInt < dataLen.toInt) :
    ∃ len : Int32, len.toInt = dataLen.toInt - uio.offset.toInt ∧
      sysfsCopyData (some mem) dataLen uio =
        some ⟨none, uiomoveBytes mem uio.offset.toInt len.toInt.toNat uio,
          some (uio.offset, len)⟩ := by
  have hlt := dataLen.toInt_lt
  have hnarrow := toInt32_of_fits (x := uio.offset) (by omega) (by omega)
  have ⟨len, hlen⟩ := subInt_of_nonneg (a := dataLen) (b := uio.offset.toInt32) (by omega)
    (by omega)
  have hval := subInt_eq_some hlen
  rw [hnarrow] at hval
  refine ⟨len, hval, ?_⟩
  rw [sysfsCopyData_before mem h, hlen, Option.map_some, if_neg]
  rw [Int32.lt_iff_toInt_lt, hval, Int32.toInt_zero]
  omega

theorem copiesWithin_of_nonneg (hpos : 0 ≤ uio.offset.toInt) :
    ∃ res, sysfsCopyData (some mem) dataLen uio = some res ∧ CopiesWithin mem dataLen uio res := by
  by_cases h : dataLen.toInt ≤ uio.offset.toInt
  · exact ⟨_, sysfsCopyData_end mem h, nofun, .inl ⟨rfl, .inr h⟩⟩
  · have hlt : uio.offset.toInt < dataLen.toInt := Int.not_le.mp h
    have ⟨len, hlen, hcopy⟩ := sysfsCopyData_inside mem hpos hlt
    refine ⟨_, hcopy, ?_, .inr ⟨rfl, hpos, hlt, by rw [hlen]⟩⟩
    rintro a len' ⟨⟩
    omega

/-- Exactly if the offset is not negative, or the low half of a negative one lies after the
end, nothing outside the buffer is copied. -/
theorem copiesWithin_iff (hlen : 0 ≤ dataLen.toInt) :
    (∃ res, sysfsCopyData (some mem) dataLen uio = some res ∧
      CopiesWithin mem dataLen uio res) ↔
      0 ≤ uio.offset.toInt ∨ dataLen.toInt < uio.offset.toInt32.toInt := by
  by_cases hpos : 0 ≤ uio.offset.toInt
  · simp only [hpos, true_or, iff_true]
    exact copiesWithin_of_nonneg mem hpos
  · have hbefore : sysfsCopyData (some mem) dataLen uio = _ :=
      sysfsCopyData_before mem (by omega)
    rw [or_iff_right hpos]
    constructor
    · intro ⟨res, hres, hwithin⟩
      by_contra hnot
      rw [hbefore] at hres
      have ⟨len, hsub, heq⟩ := Option.map_eq_some_iff.mp hres
      have hval := subInt_eq_some hsub
      -- the difference is not negative, so the range is moved
      rw [if_neg (by rw [Int32.lt_iff_toInt_lt, hval, Int32.toInt_zero]; omega)] at heq
      rw [← heq] at hwithin
      exact hpos (hwithin.range _ _ rfl).1
    · intro hnarrow
      have ⟨len, hsub⟩ := subInt_of_nonneg hlen (by omega : 0 ≤ uio.offset.toInt32.toInt)
      have hval := subInt_eq_some hsub
      refine ⟨.done (some .EINVAL) uio, ?_, nofun, .inl ⟨rfl, .inl nofun⟩⟩
      rw [hbefore, hsub, Option.map_some, if_pos]
      rw [Int32.lt_iff_toInt_lt, hval, Int32.toInt_zero]
      omega

/-- Counted in bytes, where a range without any is harmless: exactly if the offset is not
negative, or its low half is not before the end, no byte outside of the object is copied. -/
theorem bytes_within_iff (hlen : 0 ≤ dataLen.toInt) {size : ℕ} (hsize : dataLen.toInt ≤ size)
    (offset : Int64) :
    (∀ uio : ByteUio, uio.offset = offset →
      ∃ res, sysfsCopyData (some mem) dataLen uio = some res ∧
        ∀ start len, res.moved = some (start, len) →
          ∀ x, start.toInt ≤ x → x < start.toInt + min len.toInt uio.resid →
            0 ≤ x ∧ x < size) ↔
      0 ≤ offset.toInt ∨ dataLen.toInt ≤ offset.toInt32.toInt := by
  by_cases hpos : 0 ≤ offset.toInt
  · simp only [hpos, true_or, iff_true]
    rintro uio rfl
    have hcopy : ∃ res, sysfsCopyData (some mem) dataLen uio = some res ∧
        CopiesWithin mem dataLen uio res := copiesWithin_of_nonneg mem hpos
    obtain ⟨res, hres, hwithin⟩ := hcopy
    refine ⟨res, hres, ?_⟩
    intro start len hmoved x hle hlt
    have hrange := hwithin.range start len hmoved
    omega
  · rw [or_iff_right hpos]
    constructor
    · intro h
      by_contra hnot
      -- a request for one byte moves the byte at the offset itself
      obtain ⟨res, hres, hbytes⟩ := h ⟨offset, 1, []⟩ rfl
      have hlt : (ByteUio.mk offset 1 []).offset.toInt < dataLen.toInt := by
        dsimp only
        omega
      rw [sysfsCopyData_before mem hlt] at hres
      obtain ⟨len, hsub, heq⟩ := Option.map_eq_some_iff.mp hres
      have hval : len.toInt = dataLen.toInt - offset.toInt32.toInt := subInt_eq_some hsub
      rw [if_neg (by rw [Int32.lt_iff_toInt_lt, hval, Int32.toInt_zero]; omega)] at heq
      rw [← heq] at hbytes
      have hone : offset.toInt < offset.toInt + min len.toInt (1 : ℕ) := by omega
      exact hpos (hbytes offset len rfl offset.toInt le_rfl hone).1
    · rintro hnarrow uio rfl
      obtain ⟨len, hsub⟩ := subInt_of_nonneg hlen (hlen.trans hnarrow)
      have hval := subInt_eq_some hsub
      have hbefore : uio.offset.toInt < dataLen.toInt := by omega
      rw [sysfsCopyData_before mem hbefore, hsub, Option.map_some]
      refine ⟨_, rfl, ?_⟩
      intro start len' hmoved x hle hlt
      split at hmoved
      · cases hmoved
      · cases hmoved
        omega

end Copies

/-- A read function renders the content: whatever is on its stack, a read from an offset that
is not negative copies from a buffer that starts with the content. -/
def Renders (read : Memory → ByteUio → Option ReadResult) (content : List UInt8) : Prop :=
  ∀ stack uio, 0 ≤ uio.offset.toInt → ∃ (mem : Memory) (len : Int32),
    len.toInt = content.length ∧ load mem 0 content.length = content ∧
      read stack uio = sysfsCopyData (some mem) len uio

structure ReadCall where
  room : ℕ
  stack : Memory

/-- The bytes that a read returns, if it succeeds. -/
def ReadCall.bytes (read : Memory → ByteUio → Option ReadResult) (call : ReadCall) (offset : ℤ) :
    Option (List UInt8) :=
  (read call.stack ⟨.ofInt offset, call.room, []⟩).bind fun res =>
    if res.error = none then some res.uio.out else none

theorem sysfsCopyData_content {mem : Memory} {len : Int32} {content : List UInt8}
    (hlen : len.toInt = content.length) (hload : load mem 0 content.length = content)
    (uio : ByteUio) (hpos : 0 ≤ uio.offset.toInt) :
    ∃ res, sysfsCopyData (some mem) len uio = some res ∧ res.error = none ∧
      res.uio.out = uio.out ++ (content.drop uio.offset.toInt.toNat).take uio.resid := by
  by_cases h : len.toInt ≤ uio.offset.toInt
  · refine ⟨_, sysfsCopyData_end mem h, rfl, ?_⟩
    rw [List.drop_eq_nil_of_le (by omega), List.take_nil, List.append_nil]
    rfl
  · have hlt : uio.offset.toInt < len.toInt := Int.not_le.mp h
    have ⟨n, hn, hcopy⟩ := sysfsCopyData_inside mem hpos hlt
    have hcount : n.toInt.toNat = content.length - uio.offset.toInt.toNat := by omega
    have hstart : (0 : ℤ) + uio.offset.toInt.toNat = uio.offset.toInt := by omega
    refine ⟨_, hcopy, rfl, ?_⟩
    have hpart : ((load mem 0 content.length).drop uio.offset.toInt.toNat).take uio.resid = _ :=
      take_drop_load _ _ _
    rw [hload, hstart, ← hcount, Nat.min_comm] at hpart
    rw [hpart]
    rfl

theorem Renders.bytes_eq {read : Memory → ByteUio → Option ReadResult} {content : List UInt8}
    (h : Renders read content) (call : ReadCall) {k : ℕ} (hk : k ≤ content.length) :
    call.bytes read k = some ((content.drop k).take call.room) := by
  have hshort : (content.length : ℤ) < 2 ^ 31 := by
    have hzero : 0 ≤ (0 : Int64).toInt := Int.le_of_eq Int64.toInt_zero.symm
    have ⟨_, len, hlen, _⟩ := h call.stack ⟨0, 0, []⟩ hzero
    rw [← hlen]
    exact len.toInt_lt
  have hoff : (Int64.ofInt k).toInt = k := Int64.toInt_ofInt_of_le (by omega) (by omega)
  have hpos : 0 ≤ (Int64.ofInt k).toInt := by omega
  have ⟨mem, len, hlen, hload, hread⟩ := h call.stack ⟨.ofInt k, call.room, []⟩ hpos
  have ⟨res, hcopy, herror, hout⟩ := sysfsCopyData_content hlen hload ⟨.ofInt k, call.room, []⟩ hpos
  rw [hoff, Int.toNat_natCast, List.nil_append] at hout
  rw [ReadCall.bytes, hread, hcopy, Option.bind_some, if_pos herror, hout]

theorem Renders.reads_once {read : Memory → ByteUio → Option ReadResult} {content : List UInt8}
    (h : Renders read content) {calls : List ReadCall} (hpos : ∀ call ∈ calls, 0 < call.room) :
    ∃ parts, Listing.reads (ReadCall.bytes read) calls 0 = some parts ∧
      parts.length = calls.length ∧
      Listing.ReadOnce content (calls.map ReadCall.room) parts :=
  Listing.reads_once hpos (fun call _ _ hk => h.bytes_eq call hk) (Nat.zero_le _)

/-- The text of the attribute `name`: an empty line if the entry is gone. -/
def deviceNameText (g : GSnapshot) (regid : UInt64) : List UInt8 :=
  match g, sysfsHashFind g regid with
  | some snap, some idx => strlcpy (snap.node idx).name (sysfsAttrValueMax - 1) ++ cstr "\n"
  | _, _ => cstr "\n"

/-- The text of an attribute of a kext: empty if it is not loaded any more. -/
def moduleAttrText (g : GSnapshot) (loadTag objid : UInt64) : List UInt8 :=
  ((sysfsIokitModuleByTag g loadTag).bind fun mi => moduleAttrCase mi objid).getD []

theorem deviceReadAttr_renders (g : GSnapshot) (snp : Sfsnode) :
    Renders (sysfsDeviceReadAttr g snp sysfsDevAttrName)
      (deviceNameText g snp.nodeId.nodeidRegid) := by
  have hline : ∀ (buf : Memory) (name : CStr), name.length < sysfsAttrValueMax →
      load buf 0 name.length = name → ∀ uio, ∃ (mem : Memory) (len : Int32),
        len.toInt = (name ++ cstr "\n").length ∧
        load mem 0 (name ++ cstr "\n").length = name ++ cstr "\n" ∧
        sysfsCopyData (some (store buf name.length [10, 0])) (.ofNat (name.length + 1)) uio =
          sysfsCopyData (some mem) len uio := by
    intro buf name hshort hload uio
    refine ⟨_, _, ?_, ?_, rfl⟩
    · rw [sysfsAttrValueMax] at hshort
      rw [Int32.toInt_ofNat_of_lt (by omega), List.length_append]
      rfl
    · rw [List.length_append, load_add, load_store_beside (by omega), hload, Int.zero_add]
      exact congrArg (name ++ ·) (load_store (by decide : 1 ≤ ([10, 0] : List UInt8).length))
  intro stack uio _
  simp only [sysfsDeviceReadAttr, if_true, sysfsIokitName, deviceNameText]
  split
  · next snap idx _ =>
    have hshort := strlcpy_length_lt (s := (snap.node idx).name)
      (by decide : 0 < sysfsAttrValueMax - 1)
    exact hline _ _ (hshort.trans (by decide)) (by rw [load_store (by simp), List.take_left]) uio
  · exact hline stack [] (by decide) rfl uio

theorem moduleAttrCase_length {mi : SnapModule} (hversion : mi.version.length < 32)
    {objid : UInt64} {text : CStr} (h : moduleAttrCase mi objid = some text) :
    text.length < sysfsAttrValueMax := by
  have hdec : ∀ n : UInt64, (decimal n.toNat ++ cstr "\n").length < sysfsAttrValueMax := by
    intro n
    have hlen : (decimal n.toNat).length ≤ 20 :=
      decimal_length_le (by decide) (n.toNat_lt.trans (by decide))
    rw [List.length_append]
    exact (Nat.add_le_add_right hlen _).trans_lt (by decide)
  unfold moduleAttrCase at h
  split at h
  · cases h
    exact hdec _
  split at h
  · cases h
    exact hdec _
  split at h
  · cases h
    decide
  split at h
  · cases h
    rw [List.length_append]
    exact (Nat.add_lt_add_right hversion _).trans (by decide)
  · cases h

theorem moduleFormatAttr_eq (g : GSnapshot) (snp : Sfsnode) (objid : UInt64) (buf : Memory) :
    (moduleAttrText g snp.nodeId.nodeidRegid objid).length < sysfsAttrValueMax ∧
    ∃ mem, sysfsModuleFormatAttr g snp objid buf sysfsAttrValueMax =
        (mem, .ofNat (moduleAttrText g snp.nodeId.nodeidRegid objid).length) ∧
      load mem 0 (moduleAttrText g snp.nodeId.nodeidRegid objid).length =
        moduleAttrText g snp.nodeId.nodeidRegid objid := by
  rw [sysfsModuleFormatAttr, moduleAttrText]
  cases hmi : sysfsIokitModuleByTag g snp.nodeId.nodeidRegid with
  | none => exact ⟨Nat.zero_lt_succ _, _, rfl, rfl⟩
  | some mi =>
    have hversion : mi.version.length < 32 := by
      unfold sysfsIokitModuleByTag at hmi
      split at hmi
      · cases hmi
      · have ⟨m, _, hm⟩ := Option.map_eq_some_iff.mp hmi
        rw [← hm]
        exact strlcpy_length_lt (by decide)
    rw [Option.bind_some]
    dsimp only
    cases htext : moduleAttrCase mi objid with
    | none => exact ⟨by decide, _, rfl, rfl⟩
    | some text =>
      have hshort := moduleAttrCase_length hversion htext
      exact ⟨hshort, _, rfl, load_snprintf hshort⟩

theorem moduleReadAttr_renders (g : GSnapshot) (snp : Sfsnode) {objid : UInt64}
    (hobj : objid ≤ sysfsModAttrVersion) :
    Renders (sysfsModuleReadAttr g snp objid)
      (moduleAttrText g snp.nodeId.nodeidRegid objid) := by
  intro stack uio hpos
  have ⟨hshort, mem, hformat, hload⟩ := moduleFormatAttr_eq g snp objid stack
  rw [sysfsModuleReadAttr, hformat]
  generalize moduleAttrText g snp.nodeId.nodeidRegid objid = text at hshort hload ⊢
  rw [sysfsAttrValueMax] at hshort
  have hlen : (Int32.ofNat text.length).toInt = text.length :=
    Int32.toInt_ofNat_of_lt (by omega)
  have hmax : (Int32.ofNat (sysfsAttrValueMax - 1)).toInt = 255 :=
    Int32.toInt_ofNat_of_lt (by decide)
  refine ⟨mem, .ofNat text.length, hlen, hload, ?_⟩
  dsimp only
  by_cases hempty : text.length = 0
  · -- nothing is copied where `sysfs_copy_data` would find the end
    rw [if_pos (by rw [hempty]; decide), if_neg (by simpa using hobj),
      sysfsCopyData_end mem (by omega)]
  · have hnonpos : ¬Int32.ofNat text.length ≤ 0 := by
      rw [Int32.le_iff_toInt_le, hlen, Int32.toInt_zero]
      omega
    have hclamp : ¬Int32.ofNat text.length > .ofNat (sysfsAttrValueMax - 1) := by
      rw [gt_iff_lt, Int32.lt_iff_toInt_lt, hlen, hmax]
      omega
    rw [if_neg hnonpos, if_neg hclamp]

section Files

variable (readDataFn : ReadDataFn → Sfsnode → Memory → ByteUio → Option ReadResult) (t : Tree)
  (g : GSnapshot)

/-- The content of a file: an attribute of a device or of a kext, or what the read function of
the structure node renders. -/
inductive FileContent (snp : Sfsnode) : List UInt8 → Prop where
  | device (htype : (t.node snp.nodeStructureNode).ssnNodeType = .SFSdevice)
      (hobj : snp.nodeId.nodeidObjectid = sysfsDevAttrName) :
      FileContent snp (deviceNameText g snp.nodeId.nodeidRegid)
  | module (htype : (t.node snp.nodeStructureNode).ssnNodeType = .SFSmodule)
      (hobj : snp.nodeId.nodeidObjectid ∈ sysfsModAttrs.map Prod.snd) :
      FileContent snp
        (moduleAttrText g snp.nodeId.nodeidRegid snp.nodeId.nodeidObjectid)
  | file {fn : ReadDataFn} {content : List UInt8}
      (htype : (t.node snp.nodeStructureNode).ssnNodeType = .SFSfile)
      (hfn : (t.node snp.nodeStructureNode).ssnReadDataFn = some fn)
      (hrenders : Renders (readDataFn fn snp) content) : FileContent snp content

variable {readDataFn t g}

theorem FileContent.renders {snp : Sfsnode} {content : List UInt8}
    (h : FileContent readDataFn t g snp content) :
    Renders (sysfsVnopRead readDataFn t g snp) content := by
  intro stack uio hpos
  unfold sysfsVnopRead
  dsimp only
  cases h with
  | device htype hobj =>
    rw [if_pos htype, hobj, if_neg (by decide)]
    exact deviceReadAttr_renders g snp stack uio hpos
  | module htype hobj =>
    have hattrs : ∀ a ∈ sysfsModAttrs,
        sysfsModIsDir a.2 = false ∧ a.2 ≤ sysfsModAttrVersion := by decide
    have ⟨a, ha, heq⟩ := List.mem_map.mp hobj
    have ⟨hdir, hle⟩ := heq ▸ hattrs a ha
    rw [if_neg (by rw [htype]; nofun), if_pos htype, if_neg (by rw [hdir]; nofun)]
    exact moduleReadAttr_renders g snp hle stack uio hpos
  | file htype hfn hrenders =>
    rw [htype, if_neg nofun, if_neg nofun, if_neg nofun, hfn]
    exact hrenders stack uio hpos

end Files

/-- A read hands `uiomove` no bytes outside the buffer exactly if its offset is not negative,
or the low half of a negative offset is taken for one after the end. Reads of a file one after
the other, from offset 0 on, give its content once and then nothing. -/
theorem reads_within_iff (mem : Memory) {dataLen : Int32} (hlen : 0 ≤ dataLen.toInt)
    (uio : ByteUio) :
    ((∃ res, sysfsCopyData (some mem) dataLen uio = some res ∧
      CopiesWithin mem dataLen uio res) ↔
      0 ≤ uio.offset.toInt ∨ dataLen.toInt < uio.offset.toInt32.toInt) ∧
    ∀ readDataFn t g snp content, FileContent readDataFn t g snp content →
      ∀ calls : List ReadCall, (∀ call ∈ calls, 0 < call.room) →
        ∃ parts,
          Listing.reads (ReadCall.bytes (sysfsVnopRead readDataFn t g snp)) calls 0 = some parts ∧
          parts.length = calls.length ∧
          Listing.ReadOnce content (calls.map ReadCall.room) parts := by
  refine ⟨copiesWithin_iff mem hlen, ?_⟩
  intro readDataFn t g snp content h calls hpos
  exact h.renders.reads_once hpos

def loadedKext : GSnapshot :=
  some ⟨[⟨7, 4096, 2, cstr "com.example.driver", cstr "1.2.0"⟩], [], [], [], 0⟩

/-- The structure node of modules alone, and the file `initstate` of the kext. -/
def moduleTree : Tree := ⟨[{ (default : Sfssnode) with ssnNodeType := .SFSmodule }]⟩

def initstateFile : Sfsnode := ⟨1, ⟨7, sysfsModAttrInitstate, 0⟩, 0⟩

def noReadFn : ReadDataFn → Sfsnode → Memory → ByteUio → Option ReadResult :=
  fun _ _ _ uio => some (.done (some .EINVAL) uio)

/-- A read from offset -1 returns the byte before the buffer. -/
theorem negative_offset_discloses :
    sysfsVnopRead noReadFn moduleTree loadedKext initstateFile (fun _ => 0xAA) ⟨-1, 16, []⟩ =
      some ⟨none, ⟨5, 10, 0xAA :: cstr "live\n"⟩, some (-1, 6)⟩ ∧
    ∃ (mem : Memory) (dataLen : Int32) (uio : ByteUio) (res : ReadResult), 0 ≤ dataLen.toInt ∧
      sysfsCopyData (some mem) dataLen uio = some res ∧ ¬CopiesWithin mem dataLen uio res := by
  refine ⟨by decide +kernel, fun _ => 0xAA, 5, ⟨-1, 16, []⟩,
    ⟨none, ⟨5, 10, List.replicate 6 0xAA⟩, some (-1, 6)⟩, by decide, by decide +kernel, ?_⟩
  intro h
  exact absurd (h.range (-1) 6 rfl).1 (by decide)

/-- A copy of 5 bytes from offset 2 on stays within them, and the file is read in parts of at
most 3 bytes. -/
theorem initstate_in_parts :
    (∃ res, sysfsCopyData (some fun _ => 0xAA) 5 ⟨2, 16, []⟩ = some res ∧
      CopiesWithin (fun _ => 0xAA) 5 ⟨2, 16, []⟩ res) ∧
    ∃ parts, Listing.reads (ReadCall.bytes (sysfsVnopRead noReadFn moduleTree loadedKext
      initstateFile)) (List.replicate 3 ⟨3, fun _ => 0xAA⟩) 0 = some parts ∧
      parts.flatten = cstr "live\n" := by
  have hcontent : FileContent noReadFn moduleTree loadedKext initstateFile (cstr "live\n") := by
    have h : FileContent noReadFn moduleTree loadedKext initstateFile _ :=
      .module rfl (by decide)
    exact h
  have ⟨hcopy, hfiles⟩ := reads_within_iff (fun _ => 0xAA) (by decide : 0 ≤ (5 : Int32).toInt)
    ⟨2, 16, []⟩
  have ⟨parts, hreads, _, honce⟩ := hfiles _ _ _ _ _ hcontent
    (List.replicate 3 ⟨3, fun _ => 0xAA⟩) (by simp)
  exact ⟨hcopy.mpr (.inl (by decide)), parts, hreads, honce.flatten⟩

end SysFS
