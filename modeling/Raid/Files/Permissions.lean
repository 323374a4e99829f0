/-!
The permission bits of an entry: read, write and execute for its owner, its group and all others,
and the three bits above them.
-/

namespace Raid

structure Permissions where
  mode : BitVec 12
  deriving Repr, DecidableEq

namespace Permissions

def newFile : Permissions := ⟨0o644⟩

def newDirectory : Permissions := ⟨0o755⟩

def writeBits : BitVec 12 := 0o222

def readonly (permissions : Permissions) : Bool := permissions.mode &&& writeBits = 0

def withoutWrite (permissions : Permissions) : Permissions := ⟨permissions.mode &&& ~~~writeBits⟩

example : (withoutWrite ⟨0o1775⟩).mode = 0o1555 := by decide

end Permissions

end Raid
