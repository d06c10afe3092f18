import SysFS.FileIds

namespace SysFS
open CString

/-- A valid single path component. -/
def IsComponent (nm : CStr) : Prop := nm ≠ [] ∧ 47 ∉ nm ∧ nm ≠ cstr "." ∧ nm ≠ cstr ".."

instance : DecidablePred IsComponent := fun _ => inferInstanceAs (Decidable (_ ∧ _))

section Listed

variable (start : UInt16) (ncpu : UInt32) {g : GSnapshot} (hg : ∀ snap ∈ g, Produced snap)
  (mnt : Int32) (regid : UInt64)

end Listed

section Children

variable (start : UInt16) (ncpu : UInt32) {snap : Snapshot} (hsnap : Produced snap)
include hsnap

end Children

end SysFS
