import SysFS.EntryLookup
import SysFS.Lib.Packed
import SysFS.Read

namespace SysFS
open ByteMemory CString Packed

def sizeofDirentry : ℕ := 1048
def offsetDIno : ℕ := 0
def offsetDSeekoff : ℕ := 8
def offsetDReclen : ℕ := 16
def offsetDNamlen : ℕ := 18
def offsetDType : ℕ := 20
def offsetDName : ℕ := 21

@[ext]
structure Direntry where
  dIno : UInt64
  dSeekoff : UInt64
  dReclen : UInt16
  dNamlen : UInt16
  dType : UInt8
  dName : CStr
  deriving DecidableEq, Repr

/-- The arguments of a call of `sysfs_copyout_dirent`, apart from the size. -/
structure DirentArgs where
  type : Int32
  fileId : UInt64
  name : CStr
  seekoff : Int64
  deriving DecidableEq, Repr

namespace DirentArgs

variable (a : DirentArgs)

def size : ℕ := sysfsCalcDirentSize a.name

/-- The local variable `entry`, as `sysfs_copyout_dirent` fills it in. -/
def entry (stack : Memory) : Memory :=
  let namlen := UInt16.ofNat a.name.length
  let entry := store stack 0 (List.replicate sizeofDirentry 0)
  let entry := store entry offsetDType [a.type.toUInt32.toUInt8]
  let entry := store entry offsetDIno (leBytes 8 a.fileId.toNat)
  let entry := store entry offsetDSeekoff (leBytes 8 a.seekoff.toUInt64.toNat)
  let entry := store entry offsetDNamlen (leBytes 2 namlen.toNat)
  let entry := store entry offsetDName (strlcpy a.name (namlen.toNat + 1) ++ [0])
  store entry offsetDReclen (leBytes 2 (UInt16.ofNat a.size).toNat)

def record : Direntry where
  dIno := a.fileId
  dSeekoff := a.seekoff.toUInt64
  dReclen := .ofNat a.size
  dNamlen := .ofNat a.name.length
  dType := a.type.toUInt32.toUInt8
  dName := a.name

structure Named : Prop where
  pos : 0 < a.name.length
  le : a.name.length ≤ nameMax
  noNul : 0 ∉ a.name

theorem named_iff : a.Named ↔ 0 < a.name.length ∧ a.name.length ≤ nameMax ∧ 0 ∉ a.name :=
  ⟨fun h => ⟨h.pos, h.le, h.noNul⟩, fun h => ⟨h.1, h.2.1, h.2.2⟩⟩

instance : Decidable a.Named := decidable_of_iff' _ a.named_iff

end DirentArgs

/-- `sysfs_copyout_dirent` on bytes: the new value of `*sizep`, and the `uio`. -/
def sysfsCopyoutDirentBytes (a : DirentArgs) (stack : Memory) (uio : ByteUio) : ℕ × ByteUio :=
  if a.size ≤ uio.resid then (a.size, uiomoveBytes (a.entry stack) 0 a.size uio)
  else (0, uio)

namespace Direntry

def encode (d : Direntry) : List UInt8 :=
  leBytes 8 d.dIno.toNat ++ (leBytes 8 d.dSeekoff.toNat ++ (leBytes 2 d.dReclen.toNat ++
    (leBytes 2 d.dNamlen.toNat ++ (d.dType :: (d.dName ++
      List.replicate (d.dReclen.toNat - offsetDName - d.dName.length) 0)))))

def field (bytes : List UInt8) (offset width : ℕ) : ℕ := leNat ((bytes.drop offset).take width)

/-- How a reader takes the record in front; the name ends at its NUL. -/
def decode (bytes : List UInt8) : Direntry where
  dIno := .ofNat (field bytes offsetDIno 8)
  dSeekoff := .ofNat (field bytes offsetDSeekoff 8)
  dReclen := .ofNat (field bytes offsetDReclen 2)
  dNamlen := .ofNat (field bytes offsetDNamlen 2)
  dType := bytes.getD offsetDType 0
  dName := (bytes.drop offsetDName).takeWhile fun b => b ≠ 0

/-- The records of a buffer, from one to the next by `d_reclen`. -/
def decodeAll (bytes : List UInt8) : List Direntry :=
  walk (fun bs => (decode bs).dReclen.toNat) decode bytes.length bytes

/-- The record holds its fixed fields and its name with the NUL, in a multiple of 8 bytes. -/
structure Wf (d : Direntry) : Prop where
  aligned : d.dReclen.toNat % 8 = 0
  covers : offsetDName + d.dName.length + 1 ≤ d.dReclen.toNat
  namlen : d.dNamlen.toNat = d.dName.length
  noNul : 0 ∉ d.dName

theorem encode_length {d : Direntry} (h : d.Wf) : d.encode.length = d.dReclen.toNat := by
  have hcovers := h.covers
  rw [offsetDName] at hcovers
  simp only [encode, List.length_append, length_leBytes, List.length_cons, List.length_replicate,
    offsetDName]
  omega

theorem takeWhile_name {name : CStr} (h : 0 ∉ name) (rest : List UInt8) :
    (name ++ 0 :: rest).takeWhile (fun b => b ≠ 0) = name := by
  rw [List.takeWhile_append_of_pos, List.takeWhile_cons_of_neg (by simp), List.append_nil]
  intro b hb
  exact decide_eq_true fun hzero => h (hzero ▸ hb)

/-- The record in front can be read whatever follows. -/
theorem decode_encode {d : Direntry} (h : d.Wf) (rest : List UInt8) :
    decode (d.encode ++ rest) = d := by
  have hcovers := h.covers
  rw [offsetDName] at hcovers
  have hdrop : ∀ (w n : ℕ) (xs : List UInt8), (leBytes w n ++ xs).drop w = xs := fun w n xs =>
    List.drop_left' (length_leBytes w n)
  have htake : ∀ {w n : ℕ} (xs : List UInt8), n < 256 ^ w →
      leNat ((leBytes w n ++ xs).take w) = n := by
    intro w n xs hn
    rw [List.take_left' (length_leBytes w n), leNat_leBytes hn]
  -- the bytes from each field on
  have ⟨pad, hpad⟩ : ∃ pad, d.dReclen.toNat - offsetDName - d.dName.length = pad + 1 :=
    ⟨d.dReclen.toNat - 22 - d.dName.length, by rw [offsetDName]; omega⟩
  have h0 : d.encode ++ rest = leBytes 8 d.dIno.toNat ++ (leBytes 8 d.dSeekoff.toNat ++
      (leBytes 2 d.dReclen.toNat ++ (leBytes 2 d.dNamlen.toNat ++ (d.dType ::
        (d.dName ++ 0 :: (List.replicate pad 0 ++ rest)))))) := by
    simp [encode, hpad, List.replicate_succ]
  generalize d.encode ++ rest = bytes at h0
  have h8 := congrArg (List.drop 8) h0
  rw [hdrop] at h8
  have h16 := congrArg (List.drop 8) h8
  rw [hdrop, List.drop_drop] at h16
  have h18 := congrArg (List.drop 2) h16
  rw [hdrop, List.drop_drop] at h18
  have h20 := congrArg (List.drop 2) h18
  rw [hdrop, List.drop_drop] at h20
  have h21 := congrArg (List.drop 1) h20
  rw [List.drop_drop, List.drop_one, List.tail_cons] at h21
  apply Direntry.ext
  · show UInt64.ofNat (leNat ((bytes.drop 0).take 8)) = d.dIno
    rw [List.drop_zero, h0, htake _ d.dIno.toNat_lt, UInt64.ofNat_toNat]
  · show UInt64.ofNat (leNat ((bytes.drop 8).take 8)) = d.dSeekoff
    rw [h8, htake _ d.dSeekoff.toNat_lt, UInt64.ofNat_toNat]
  · show UInt16.ofNat (leNat ((bytes.drop 16).take 2)) = d.dReclen
    rw [h16, htake _ d.dReclen.toNat_lt, UInt16.ofNat_toNat]
  · show UInt16.ofNat (leNat ((bytes.drop 18).take 2)) = d.dNamlen
    rw [h18, htake _ d.dNamlen.toNat_lt, UInt16.ofNat_toNat]
  · show bytes.getD 20 0 = d.dType
    have hhead := congrArg (fun l : List UInt8 => l[0]?) h20
    rw [List.getElem?_drop] at hhead
    rw [List.getD_eq_getElem?_getD, hhead]
    rfl
  · show (bytes.drop 21).takeWhile _ = d.dName
    rw [h21, takeWhile_name h.noNul]

/-- A buffer of records is read back. -/
theorem decodeAll_flatMap {ds : List Direntry} (h : ∀ d ∈ ds, d.Wf) :
    decodeAll (ds.flatMap encode) = ds := by
  apply walk_flatMap _ (Nat.le_refl _)
  intro d hd rest
  have hlen := encode_length (h d hd)
  refine ⟨?_, by rw [decode_encode (h d hd), hlen], decode_encode (h d hd) rest⟩
  have hcovers := (h d hd).covers
  apply List.ne_nil_of_length_pos
  omega

end Direntry

namespace DirentArgs

variable {a : DirentArgs}

theorem Named.size_bounds (h : a.Named) :
    a.size % 8 = 0 ∧ offsetDName + a.name.length + 1 ≤ a.size ∧ a.size ≤ 280 := by
  have hle := h.le
  rw [nameMax] at hle
  rw [size, sysfsCalcDirentSize, offsetDName]
  omega

theorem Named.widths (h : a.Named) : (UInt16.ofNat a.name.length).toNat = a.name.length ∧
    (UInt16.ofNat a.size).toNat = a.size := by
  have ⟨_, hcovers, hle⟩ := h.size_bounds
  rw [UInt16.toNat_ofNat', UInt16.toNat_ofNat']
  omega

theorem Named.record_wf (h : a.Named) : a.record.Wf := by
  have ⟨haligned, hcovers, _⟩ := h.size_bounds
  have ⟨hlen, hsize⟩ := h.widths
  exact ⟨hsize.symm ▸ haligned, hsize.symm ▸ hcovers, hlen, h.noNul⟩

theorem Named.load_entry (h : a.Named) (stack : Memory) :
    load (a.entry stack) 0 a.size = a.record.encode := by
  have ⟨_, hcovers, hle⟩ := h.size_bounds
  have ⟨hlen, hsize⟩ := h.widths
  have hname : strlcpy a.name (a.name.length + 1) = a.name := strlcpy_of_fits (Nat.lt_succ_self _)
  rw [offsetDName] at hcovers
  have ⟨pad, hpad⟩ : ∃ pad, a.size = 8 + (8 + (2 + (2 + (1 + (a.name.length + 1 + pad))))) :=
    ⟨a.size - 22 - a.name.length, by omega⟩
  have hentry : a.entry stack = store (store (store (store (store (store
      (store stack 0 (List.replicate sizeofDirentry 0)) 20 [a.type.toUInt32.toUInt8])
      0 (leBytes 8 a.fileId.toNat)) 8 (leBytes 8 a.seekoff.toUInt64.toNat))
      18 (leBytes 2 (UInt16.ofNat a.name.length).toNat)) 21 (a.name ++ [0]))
      16 (leBytes 2 (UInt16.ofNat a.size).toNat) := by
    rw [entry, hlen, hname]
    rfl
  -- the fields in the order of their addresses; the last stores come first
  have hino : load (a.entry stack) 0 8 = leBytes 8 a.fileId.toNat := by
    rw [hentry, load_store_beside (by simp), load_store_beside (by simp),
      load_store_beside (by simp), load_store_beside (by simp), load_store_eq (by simp)]
  have hseekoff : load (a.entry stack) 8 8 = leBytes 8 a.seekoff.toUInt64.toNat := by
    rw [hentry, load_store_beside (by simp), load_store_beside (by simp),
      load_store_beside (by simp), load_store_eq (by simp)]
  have hreclen : load (a.entry stack) 16 2 = leBytes 2 (UInt16.ofNat a.size).toNat := by
    rw [hentry, load_store_eq (by simp)]
  have hnamlen : load (a.entry stack) 18 2 = leBytes 2 (UInt16.ofNat a.name.length).toNat := by
    rw [hentry, load_store_beside (by simp), load_store_beside (by simp), load_store_eq (by simp)]
  have htype : load (a.entry stack) 20 1 = [a.type.toUInt32.toUInt8] := by
    rw [hentry, load_store_beside (by simp), load_store_beside (by simp),
      load_store_beside (by simp), load_store_beside (by simp), load_store_beside (by simp),
      load_store_eq (by simp)]
  have hdname : load (a.entry stack) 21 (a.name.length + 1) = a.name ++ [0] := by
    rw [hentry, load_store_beside (by simp), load_store_eq (by simp)]
  have hzeros : load (a.entry stack) (21 + (a.name.length + 1 : ℕ)) pad =
      List.replicate pad 0 := by
    have hplace : (21 : ℤ) + (a.name.length + 1 : ℕ) = 0 + (22 + a.name.length : ℕ) := by omega
    have hin : 22 + a.name.length + pad ≤ (List.replicate sizeofDirentry (0 : UInt8)).length := by
      rw [List.length_replicate, sizeofDirentry]
      omega
    rw [hentry, load_store_beside (by simp; omega), load_store_beside (by simp),
      load_store_beside (by simp; omega), load_store_beside (by simp; omega),
      load_store_beside (by simp; omega), load_store_beside (by simp; omega), hplace,
      load_store_within hin, List.drop_replicate, List.take_replicate, Nat.min_eq_left]
    rw [sizeofDirentry]
    omega
  have hrest : a.record.dReclen.toNat - offsetDName - a.record.dName.length = 1 + pad := by
    show (UInt16.ofNat a.size).toNat - 21 - a.name.length = 1 + pad
    omega
  rw [Direntry.encode, hrest, hpad, load_add, load_add, load_add, load_add, load_add, load_add]
  show load (a.entry stack) 0 8 ++ (load (a.entry stack) 8 8 ++ (load (a.entry stack) 16 2 ++
    (load (a.entry stack) 18 2 ++ (load (a.entry stack) 20 1 ++ (load (a.entry stack) 21 _ ++
      load (a.entry stack) (21 + (a.name.length + 1 : ℕ)) pad))))) = _
  rw [hino, hseekoff, hreclen, hnamlen, htype, hdname, hzeros, Nat.add_comm 1 pad,
    List.replicate_succ, List.append_assoc]
  rfl

end DirentArgs

/-- Calls one after the other: the `uio` at the end, and which calls copied their entry. -/
def copyoutAll : List (DirentArgs × Memory) → ByteUio → List DirentArgs × ByteUio
  | [], uio => ([], uio)
  | (a, stack) :: calls, uio =>
    let (size, uio') := sysfsCopyoutDirentBytes a stack uio
    let (copied, uio'') := copyoutAll calls uio'
    (if size = 0 then copied else a :: copied, uio'')

theorem sysfsCopyoutDirentBytes_fits {a : DirentArgs} (h : a.Named) (stack : Memory)
    {uio : ByteUio} (hfits : a.size ≤ uio.resid) :
    (sysfsCopyoutDirentBytes a stack uio).1 = a.size ∧
      (sysfsCopyoutDirentBytes a stack uio).2.resid = uio.resid - a.size ∧
      (sysfsCopyoutDirentBytes a stack uio).2.out = uio.out ++ a.record.encode := by
  rw [sysfsCopyoutDirentBytes, if_pos hfits, uiomoveBytes, Nat.min_eq_left hfits,
    h.load_entry stack]
  exact ⟨rfl, rfl, rfl⟩

theorem copyoutAll_out {calls : List (DirentArgs × Memory)} (h : ∀ c ∈ calls, c.1.Named)
    (uio : ByteUio) :
    (copyoutAll calls uio).2.out =
      uio.out ++ ((copyoutAll calls uio).1.map DirentArgs.record).flatMap Direntry.encode ∧
    ∀ a ∈ (copyoutAll calls uio).1, a.Named := by
  induction calls generalizing uio with
  | nil => exact ⟨by simp [copyoutAll], nofun⟩
  | cons c calls ih =>
    have ⟨hc, hcalls⟩ := List.forall_mem_cons.mp h
    have ⟨hout, hnamed⟩ := ih hcalls (sysfsCopyoutDirentBytes c.1 c.2 uio).2
    rw [copyoutAll]
    dsimp only
    by_cases hfits : c.1.size ≤ uio.resid
    · have ⟨hsize, _, hbytes⟩ := sysfsCopyoutDirentBytes_fits hc c.2 hfits
      have hpos : c.1.size ≠ 0 := by
        have := hc.size_bounds.2.1
        omega
      rw [hsize, if_neg hpos, hout, hbytes, List.map_cons, List.flatMap_cons, List.append_assoc]
      exact ⟨rfl, List.forall_mem_cons.mpr ⟨hc, hnamed⟩⟩
    · have hskip : sysfsCopyoutDirentBytes c.1 c.2 uio = (0, uio) := if_neg hfits
      rw [hskip] at hout hnamed ⊢
      exact ⟨hout, hnamed⟩

theorem copyoutAll_fits {calls : List (DirentArgs × Memory)} (h : ∀ c ∈ calls, c.1.Named)
    {uio : ByteUio} (hroom : (calls.map fun c => c.1.size).sum ≤ uio.resid) :
    (copyoutAll calls uio).1 = calls.map Prod.fst := by
  induction calls generalizing uio with
  | nil => rfl
  | cons c calls ih =>
    have ⟨hc, hcalls⟩ := List.forall_mem_cons.mp h
    rw [List.map_cons, List.sum_cons] at hroom
    have ⟨hsize, hresid, _⟩ := sysfsCopyoutDirentBytes_fits hc c.2 (by omega : _ ≤ uio.resid)
    have hpos : c.1.size ≠ 0 := by
      have := hc.size_bounds.2.1
      omega
    rw [copyoutAll]
    dsimp only
    rw [hsize, if_neg hpos, ih hcalls (by omega), List.map_cons]

/-- Walking the buffer recovers the entries that were copied, their records are aligned and
hold fields and name, all entries are copied if there is room for them, and an entry that does
not fit changes nothing. -/
theorem dirents_decode {calls : List (DirentArgs × Memory)} (h : ∀ c ∈ calls, c.1.Named)
    {uio : ByteUio} (hempty : uio.out = []) :
    Direntry.decodeAll (copyoutAll calls uio).2.out =
        (copyoutAll calls uio).1.map DirentArgs.record ∧
      (∀ d ∈ Direntry.decodeAll (copyoutAll calls uio).2.out, d.Wf) ∧
      ((calls.map fun c => c.1.size).sum ≤ uio.resid →
        (copyoutAll calls uio).1 = calls.map Prod.fst) ∧
      ∀ a stack uio', uio'.resid < a.size → sysfsCopyoutDirentBytes a stack uio' = (0, uio') := by
  have ⟨hout, hnamed⟩ := copyoutAll_out h uio
  have hwf : ∀ d ∈ (copyoutAll calls uio).1.map DirentArgs.record, d.Wf :=
    List.forall_mem_map.mpr fun a ha => (hnamed a ha).record_wf
  rw [hempty, List.nil_append] at hout
  have hdecode := Direntry.decodeAll_flatMap hwf
  rw [← hout] at hdecode
  refine ⟨hdecode, hdecode.symm ▸ hwf, copyoutAll_fits h, ?_⟩
  intro a stack uio' hlt
  exact if_neg (Nat.not_le.mpr hlt)

def threeCalls : List (DirentArgs × Memory) :=
  [⟨4, 2, cstr "a", 32⟩, ⟨4, 39, cstr "devices", 64⟩, ⟨4, 101, cstr "module", 96⟩].map fun a =>
    (a, fun _ => 0xAA)

/-- The third one does not fit. -/
theorem two_of_three_decode :
    (copyoutAll threeCalls ⟨0, 70, []⟩).1.map DirentArgs.name = [cstr "a", cstr "devices"] ∧
    Direntry.decodeAll (copyoutAll threeCalls ⟨0, 70, []⟩).2.out =
      (copyoutAll threeCalls ⟨0, 70, []⟩).1.map DirentArgs.record :=
  ⟨by decide +kernel, (dirents_decode (by decide) rfl).1⟩

/-- The values of the `DT_*` constants. -/
def DType.value : DType → UInt8
  | .DT_DIR => 4
  | .DT_REG => 8
  | .DT_LNK => 10

def Dirent.bytes (d : Dirent) : Direntry :=
  ⟨d.dIno, .ofNat d.dSeekoff, .ofNat d.dReclen, .ofNat d.dNamlen, d.dType.value, d.dName⟩

def DirEntry.args (e : DirEntry) (seekoff : ℕ) : DirentArgs :=
  ⟨e.type.value.toUInt32.toInt32, e.fileId, e.name, .ofNat seekoff⟩

structure SameBuffer (uio : Uio) (b : ByteUio) : Prop where
  resid : b.resid = uio.resid
  out : b.out = (uio.out.map Dirent.bytes).flatMap Direntry.encode

theorem DirEntry.args_record (e : DirEntry) (seekoff : ℕ) :
    (e.args seekoff).record =
      Dirent.bytes ⟨e.fileId, seekoff, (e.args seekoff).size, e.name.length, e.type, e.name⟩ := by
  have htype : ∀ type : DType, type.value.toUInt32.toInt32.toUInt32.toUInt8 = type.value := by
    intro type
    cases type <;> decide
  apply Direntry.ext
  case dType => exact htype e.type
  all_goals rfl

theorem copyout_sameBuffer {uio : Uio} {b : ByteUio} (h : SameBuffer uio b)
    (hfault : uio.faultAfter = none) {e : DirEntry} {seekoff : ℕ} (he : (e.args seekoff).Named)
    (stack : Memory) {error : Option Errno} {size : ℕ} {uio' : Uio}
    (hcall : sysfsCopyoutDirent e uio (sysfsCalcDirentSize e.name) seekoff = (error, size, uio')) :
    error = none ∧ (sysfsCopyoutDirentBytes (e.args seekoff) stack b).1 = size ∧
      SameBuffer uio' (sysfsCopyoutDirentBytes (e.args seekoff) stack b).2 := by
  rw [sysfsCopyoutDirent] at hcall
  dsimp only at hcall
  split at hcall
  · next hfits =>
    rw [uiomove, if_neg (by rw [hfault]; simp)] at hcall
    cases hcall
    have hroom : (e.args seekoff).size ≤ b.resid := h.resid ▸ hfits
    obtain ⟨hsize, hresid, hout⟩ := sysfsCopyoutDirentBytes_fits he stack hroom
    refine ⟨rfl, hsize, by rw [hresid, h.resid]; rfl, ?_⟩
    rw [hout, h.out, e.args_record]
    simp only [List.map_append, List.flatMap_append, List.map_cons, List.map_nil,
      List.flatMap_cons, List.flatMap_nil, List.append_nil]
    rfl
  · next hfits =>
    cases hcall
    have hskip : sysfsCopyoutDirentBytes (e.args seekoff) stack b = (0, b) :=
      if_neg (h.resid ▸ hfits)
    rw [hskip]
    exact ⟨rfl, rfl, h⟩

end SysFS
