import SysFS.Lib.CString
import SysFS.Lib.Transition

namespace SysFS
open CString Transition

def consolePolls : ℕ := 300

/-- Where the script stands: at the command it runs next, with the `i` of the loop around it. -/
inductive BootPc where
  | armFlag
  | loadPoll (i : ℕ)
  | kmutilLoad (i : ℕ)
  | loadRecheck (i : ℕ)
  | loadCheck
  | console (i : ℕ)
  | mountPoll (i : ℕ)
  | mountPoint (i : ℕ)
  | mountSysfs (i : ℕ)
  | exit (code : ℕ)
  deriving DecidableEq, Repr

/-- The answers: whether the arm flag exists and `kext_loaded` succeeds, that `kmutil` has
ended, the owner of the console, whether `/sys` is mounted, whether it and the mount command
are there, and whether this succeeds. -/
inductive BootAnswer where
  | armFlag (exist : Bool)
  | kextLoaded (loaded : Bool)
  | kmutilLoad
  | consoleOwner (user : CStr)
  | mounted (listed : Bool)
  | mountPoint (ready : Bool)
  | mountSysfs (ok : Bool)
  deriving DecidableEq, Repr

structure BootState where
  pc : BootPc
  slept : ℕ
  deriving DecidableEq, Repr

def BootState.init : BootState := ⟨.armFlag, 0⟩

/-- The patterns of the `case` do not match the owner of the console. -/
def loggedIn (user : CStr) : Bool :=
  user ≠ [] ∧ user ≠ cstr "root" ∧ user.head? ≠ some 95 ∧ user ≠ cstr "loginwindow"

namespace BootAnswer

def isLoaded : BootAnswer → Bool
  | kextLoaded _ => true
  | _ => false

def isOwner : BootAnswer → Bool
  | consoleOwner _ => true
  | _ => false

end BootAnswer

/-- The script was armed, the kext was loaded when it last looked, and somebody is logged in at
the console or it has looked for this as often as it does. -/
structure Prepared (past : List BootAnswer) : Prop where
  armed : past.head? = some (.armFlag true)
  loaded : (past.filter BootAnswer.isLoaded).getLast? = some (.kextLoaded true)
  console : (∃ user, .consoleOwner user ∈ past ∧ loggedIn user) ∨
    past.countP BootAnswer.isOwner = consolePolls

section History
variable {past : List BootAnswer} {a : BootAnswer}

theorem head?_concat (h : past.head? = some (.armFlag true)) (a : BootAnswer) :
    (past ++ [a]).head? = some (.armFlag true) := by
  rw [List.head?_append, h]
  rfl

theorem owners_concat (h : a.isOwner = false) :
    (past ++ [a]).countP BootAnswer.isOwner = past.countP BootAnswer.isOwner := by
  simp [h]

theorem loads_concat (h : a.isLoaded = false) :
    (past ++ [a]).filter BootAnswer.isLoaded = past.filter BootAnswer.isLoaded := by
  simp [h]

theorem Prepared.concat (h : Prepared past) (hloaded : a.isLoaded = false)
    (howner : a.isOwner = false) : Prepared (past ++ [a]) where
  armed := head?_concat h.armed a
  loaded := by rw [loads_concat hloaded, h.loaded]
  console := by
    obtain ⟨user, hmem, hlogin⟩ | hcount := h.console
    · exact Or.inl ⟨user, List.mem_append_left _ hmem, hlogin⟩
    · exact Or.inr ((owners_concat howner).trans hcount)

end History

namespace BootPc

end BootPc

end SysFS
