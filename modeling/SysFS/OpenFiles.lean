import SysFS.Getattr
import SysFS.Lib.Transition

namespace SysFS
open ByteMemory CString Transition

/-- The published snapshot, and what was read of the file so far. The next read starts after
it. -/
structure OpenFile where
  snapshot : GSnapshot
  data : List UInt8

inductive FileOp where
  | publish (snap : Snapshot)
  | read (call : ReadCall)

/-- One step: a snapshot is published, or a part is read. There is no step where the read
fails. -/
def fileStep (ctl : Sysctls) (t : Tree) (n : Sfsnode) (s : OpenFile) : FileOp → Option OpenFile
  | .publish snap => some { s with snapshot := some snap }
  | .read call =>
    (call.bytes (sysfsVnopRead (systemReadData ctl t) t s.snapshot n) s.data.length).map fun part =>
      { s with data := s.data ++ part }

theorem Renders.length_lt {read : Memory → ByteUio → Option ReadResult} {content : List UInt8}
    (h : Renders read content) : content.length < 2 ^ 31 := by
  have hzero : 0 ≤ (0 : Int64).toInt := Int.le_of_eq Int64.toInt_zero.symm
  obtain ⟨_, len, hlen, -⟩ := h (fun _ => 0) ⟨0, 0, []⟩ hzero
  have hlt := len.toInt_lt
  omega

theorem Renders.bytes_at {read : Memory → ByteUio → Option ReadResult} {content : List UInt8}
    (h : Renders read content) (call : ReadCall) {k : ℕ} (hk : k < 2 ^ 31) :
    call.bytes read k = some ((content.drop k).take call.room) := by
  have hoff : (Int64.ofInt k).toInt = k := Int64.toInt_ofInt_of_le (by omega) (by omega)
  have hpos : 0 ≤ (Int64.ofInt k).toInt := by omega
  obtain ⟨mem, len, hlen, hload, hread⟩ := h call.stack ⟨.ofInt k, call.room, []⟩ hpos
  obtain ⟨res, hcopy, herror, hout⟩ :=
    sysfsCopyData_content hlen hload ⟨.ofInt k, call.room, []⟩ hpos
  rw [hoff, Int.toNat_natCast, List.nil_append] at hout
  rw [ReadCall.bytes, hread, hcopy, Option.bind_some, if_pos herror, hout]

theorem drop_eq_of_getElem? {α : Type} {l m : List α} {d : ℕ}
    (h : ∀ j b, d ≤ j → l[j]? = some b → m[j]? = some b) :
    l.drop d = (m.take l.length).drop d := by
  apply List.ext_getElem?
  intro i
  rw [List.getElem?_drop, List.getElem?_drop, List.getElem?_take]
  split
  · next hlt =>
    rw [h (d + i) _ (Nat.le_add_right d i) (List.getElem?_eq_getElem hlt)]
    exact List.getElem?_eq_getElem hlt
  · next hge => exact List.getElem?_eq_none (Nat.le_of_not_lt hge)

section Runs

variable (ctl : Sysctls) (t : Tree) (n : Sfsnode)

def OpenFile.text (s : OpenFile) : List UInt8 := fileText ctl t s.snapshot n

/-- What is read along a run: every byte stands at its place in the text of some time. With one
text all the time, it is the beginning of this text. If the entry goes away or comes back, all
but the first byte are. The next read gives the next part of the text of now. -/
structure ReadAlong (s₀ : OpenFile) (ops : List FileOp) (s : OpenFile) : Prop where
  bytes : ∀ (j : ℕ) (b : UInt8), s.data[j]? = some b →
    ∃ s', Reached (fileStep ctl t n) s₀ ops s' ∧ (s'.text ctl t n)[j]? = some b
  steady : ∀ text, (∀ s', Reached (fileStep ctl t n) s₀ ops s' → s'.text ctl t n = text) →
    s.data = text.take s.data.length
  gone : (t.node n.nodeStructureNode).ssnNodeType ≠ .SFSfile → ∀ text,
    (∀ s', Reached (fileStep ctl t n) s₀ ops s' →
      s'.text ctl t n = text ∨ s'.text ctl t n = fileText ctl t none n) →
    s.data.tail = (text.take s.data.length).tail
  next : ∀ call, fileStep ctl t n s (.read call) =
    some { s with data := s.data ++ ((s.text ctl t n).drop s.data.length).take call.room }

variable {ctl t n}

theorem fileText_none_length (hreg : vnodeVtype t n = .VREG)
    (hknown : KnownNode t n) (hfile : (t.node n.nodeStructureNode).ssnNodeType ≠ .SFSfile) :
    (fileText ctl t none n).length ≤ 1 := by
  rw [vnodeVtype] at hreg
  rw [fileText]
  cases htype : (t.node n.nodeStructureNode).ssnNodeType with rw [htype] at hreg
  | SFSdevice => exact Nat.le_refl 1
  | SFSmodule => exact Nat.zero_le 1
  | SFSfile => exact absurd htype hfile
  | SFSattr =>
    have htypes := hknown.type
    rw [htype] at htypes
    simp at htypes
  | _ => cases hreg

variable (hrenders : ∀ g, Renders (sysfsVnopRead (systemReadData ctl t) t g n) (fileText ctl t g n))
include hrenders

theorem fileStep_read (s : OpenFile) (hshort : s.data.length < 2 ^ 31) (call : ReadCall) :
    fileStep ctl t n s (.read call) =
      some { s with data := s.data ++ ((s.text ctl t n).drop s.data.length).take call.room } := by
  rw [fileStep, (hrenders s.snapshot).bytes_at call hshort]
  rfl

theorem data_length_lt {g : GSnapshot} {ops : List FileOp} {s : OpenFile}
    (h : Reached (fileStep ctl t n) ⟨g, []⟩ ops s) : s.data.length < 2 ^ 31 := by
  refine invariant_along (P := fun s => s.data.length < 2 ^ 31) (Nat.two_pow_pos 31) ?_ h
  intro s op s' hstep hshort
  have hs := hstep.step_eq
  cases op with
  | publish snap =>
    cases hs
    exact hshort
  | read call =>
    have hlen := (hrenders s.snapshot).length_lt
    rw [fileStep_read hrenders s hshort] at hs
    cases hs
    simp only [OpenFile.text, List.length_append, List.length_take, List.length_drop]
    omega

theorem read_bytes {g : GSnapshot} {ops : List FileOp} {s : OpenFile}
    (h : Reached (fileStep ctl t n) ⟨g, []⟩ ops s) :
    ∀ (j : ℕ) (b : UInt8), s.data[j]? = some b →
      ∃ s', Reached (fileStep ctl t n) ⟨g, []⟩ ops s' ∧ (s'.text ctl t n)[j]? = some b := by
  refine invariant_along (P := fun s => ∀ (j : ℕ) (b : UInt8), s.data[j]? = some b →
    ∃ s', Reached (fileStep ctl t n) ⟨g, []⟩ ops s' ∧ (s'.text ctl t n)[j]? = some b) ?_ ?_ h
  · intro j b hb
    cases hb
  · intro s op s' hstep hbytes
    have hs := hstep.step_eq
    cases op with
    | publish snap =>
      cases hs
      exact hbytes
    | read call =>
      have hshort := data_length_lt hrenders hstep.reached
      rw [fileStep_read hrenders s hshort] at hs
      cases hs
      intro j b hb
      by_cases hold : j < s.data.length
      · rw [List.getElem?_append_left hold] at hb
        exact hbytes j b hb
      · -- a new byte stands where the text has it
        rw [List.getElem?_append_right (Nat.le_of_not_lt hold), List.getElem?_take] at hb
        split at hb
        · rw [List.getElem?_drop, Nat.add_sub_cancel' (Nat.le_of_not_lt hold)] at hb
          exact ⟨s, hstep.reached, hb⟩
        · cases hb

theorem readAlong (hknown : KnownNode t n) (hreg : vnodeVtype t n = .VREG) {g : GSnapshot}
    {ops : List FileOp} {s : OpenFile} (h : Reached (fileStep ctl t n) ⟨g, []⟩ ops s) :
    ReadAlong ctl t n ⟨g, []⟩ ops s where
  bytes := read_bytes hrenders h
  steady := by
    intro text htext
    have hdrop : s.data.drop 0 = (text.take s.data.length).drop 0 := by
      apply drop_eq_of_getElem?
      intro j b _ hb
      obtain ⟨s', hs', hbyte⟩ := read_bytes hrenders h j b hb
      rwa [htext s' hs'] at hbyte
    exact hdrop
  gone := by
    intro hfile text htext
    rw [← List.drop_one, ← List.drop_one]
    apply drop_eq_of_getElem?
    intro j b hj hb
    obtain ⟨s', hs', hbyte⟩ := read_bytes hrenders h j b hb
    obtain heq | heq := htext s' hs'
    · rwa [heq] at hbyte
    · -- a line that is empty has no second byte
      rw [heq] at hbyte
      have hlen : (fileText ctl t none n).length ≤ 1 := fileText_none_length hreg hknown hfile
      have hlt := (List.getElem?_eq_some_iff.mp hbyte).1
      omega
  next := fileStep_read hrenders s (data_length_lt hrenders h)

end Runs

/-- A file that was found with one snapshot is read while others are published. -/
theorem open_file_reads {ctl : Sysctls} (hfits : (sysfsNcpu ctl).toNat ≤ 1792) {start : UInt16}
    {ncpu : UInt32} {g : GSnapshot} {mnt : Int32} {n : Sfsnode}
    (hn : Reachable (builtTree start ncpu) g mnt n)
    (hreg : vnodeVtype (builtTree start ncpu) n = .VREG) {ops : List FileOp} {s : OpenFile}
    (h : Reached (fileStep ctl (builtTree start ncpu) n) ⟨g, []⟩ ops s) :
    ReadAlong ctl (builtTree start ncpu) n ⟨g, []⟩ ops s :=
  readAlong (file_renders hfits hn.nodeOk hn.known hreg) hn.known hreg h

/-- A reader with room for two bytes, and one with room for all. -/
def goneBetween (after : Snapshot) : List FileOp :=
  [.read ⟨2, fun _ => 0⟩, .publish after, .read ⟨64, fun _ => 0⟩]

/-- The hub goes away after two bytes of its name were read, and the reader comes to the end. -/
theorem hub_gone_reads :
    ∃ before after n s, (sysfsSnapBuild 0 none
        { yields := some hubAndDisk, kexts := none, uptime := 0 }).1 = some before ∧
      (sysfsSnapBuild 0 none { yields := some [], kexts := none, uptime := 0 }).1 = some after ∧
      resolve (builtTree 2 1) (some before) (sysfsRoot 1)
        [cstr "devices", cstr "hub", cstr "name"] = .ok n ∧
      run (fileStep ⟨some 1, none, none⟩ (builtTree 2 1) n) ⟨some before, []⟩ (goneBetween after) =
        some s ∧ s.data = cstr "hu" ∧
      ReadAlong ⟨some 1, none, none⟩ (builtTree 2 1) n ⟨some before, []⟩ (goneBetween after) s := by
  have hrun : ((sysfsSnapBuild 0 none
      { yields := some hubAndDisk, kexts := none, uptime := 0 }).1.any fun before =>
    (sysfsSnapBuild 0 none { yields := some [], kexts := none, uptime := 0 }).1.any fun after =>
    (resolve (builtTree 2 1) (some before) (sysfsRoot 1)
      [cstr "devices", cstr "hub", cstr "name"]).toOption.any fun n =>
    decide (vnodeVtype (builtTree 2 1) n = .VREG) &&
      (run (fileStep ⟨some 1, none, none⟩ (builtTree 2 1) n) ⟨some before, []⟩
        (goneBetween after)).any fun s => decide (s.data = cstr "hu")) = true := by
    decide +kernel
  obtain ⟨before, hbefore, hrun⟩ := (Option.any_eq_true _ _).mp hrun
  obtain ⟨after, hafter, hrun⟩ := (Option.any_eq_true _ _).mp hrun
  obtain ⟨n, hn, hrun⟩ := exists_ok_of_any hrun
  obtain ⟨hreg, hrun⟩ := Bool.and_eq_true_iff.mp hrun
  obtain ⟨s, hs, hdata⟩ := (Option.any_eq_true _ _).mp hrun
  refine ⟨before, after, n, s, hbefore, hafter, hn, hs, of_decide_eq_true hdata, ?_⟩
  exact open_file_reads (by decide) ⟨_, hn⟩ (of_decide_eq_true hreg) (reached_of_run hs)

end SysFS
