import Raphael.Fingerprint.Construction
import Raphael.Fingerprint.Status

namespace Raphael.Fingerprint

/-! # Host requests

Each request of the host other than `setNotify`, `isUdfps` and the finger events makes
one call on the driver through `mDevice`, and all but `preEnroll` and `getAuthenticatorId`
pass its return through `ErrorFilter`. The driver's return is an argument. Without a device
the call dereferences null, which is `none`. Only `setActiveGroup` checks its argument
before it reaches the driver.
-/

def HwAuthToken := { bytes : List UInt8 // bytes.length = 69 }

def pathMax : Nat := 4096

/-- `setNotify` stores the callback and returns `mDevice` as an integer, 0 for nullptr. -/
def BiometricsFingerprint.setNotify (self : BiometricsFingerprint) (clientCallback : Option Nat) :
    BiometricsFingerprint × Nat :=
  ({ self with mClientCallback := clientCallback }, (self.mDevice.map HwDevice.handle).getD 0)

/-- The shape the filtered requests share: one call on the driver through `mDevice`, whose
return `ret` goes through `ErrorFilter`. -/
def BiometricsFingerprint.forward (self : BiometricsFingerprint) (call : Nat → DriverCall)
    (ret : Int) : Option (RequestStatus × DriverCall) :=
  self.mDevice.map fun device => (errorFilter ret, call device.handle)

def BiometricsFingerprint.preEnroll (self : BiometricsFingerprint) (ret : Nat) :
    Option (Nat × DriverCall) :=
  self.mDevice.map fun device => (ret, .preEnroll device.handle)

def BiometricsFingerprint.enroll (self : BiometricsFingerprint) (hat : HwAuthToken)
    (gid timeoutSec : Nat) (ret : Int) : Option (RequestStatus × DriverCall) :=
  self.forward (fun handle => .enroll handle hat.val gid timeoutSec) ret

def BiometricsFingerprint.postEnroll (self : BiometricsFingerprint) (ret : Int) :
    Option (RequestStatus × DriverCall) :=
  self.forward .postEnroll ret

def BiometricsFingerprint.getAuthenticatorId (self : BiometricsFingerprint) (ret : Nat) :
    Option (Nat × DriverCall) :=
  self.mDevice.map fun device => (ret, .getAuthenticatorId device.handle)

def BiometricsFingerprint.cancel (self : BiometricsFingerprint) (ret : Int) :
    Option (RequestStatus × DriverCall) :=
  self.forward .cancel ret

def BiometricsFingerprint.enumerate (self : BiometricsFingerprint) (ret : Int) :
    Option (RequestStatus × DriverCall) :=
  self.forward .enumerate ret

def BiometricsFingerprint.remove (self : BiometricsFingerprint) (gid fid : Nat) (ret : Int) :
    Option (RequestStatus × DriverCall) :=
  self.forward (fun handle => .remove handle gid fid) ret

def BiometricsFingerprint.authenticate (self : BiometricsFingerprint) (operationId gid : Nat)
    (ret : Int) : Option (RequestStatus × DriverCall) :=
  self.forward (fun handle => .authenticate handle operationId gid) ret

/-- `setActiveGroup` rejects a path of bad length, then one `access(W_OK)` refuses
(`writable` is the file system's answer), before it forwards. -/
def BiometricsFingerprint.setActiveGroup (self : BiometricsFingerprint) (gid : Nat)
    (storePath : String) (writable : Bool) (ret : Int) :
    Option (RequestStatus × Option DriverCall) :=
  if storePath.utf8ByteSize ≥ pathMax ∨ storePath.utf8ByteSize ≤ 0 then some (.sysEinval, none)
  else if !writable then some (.sysEinval, none)
  else (self.forward (fun handle => .setActiveGroup handle gid storePath) ret).map
    fun (status, call) => (status, some call)

def ValidStorePath (storePath : String) (writable : Bool) : Prop :=
  0 < storePath.utf8ByteSize ∧ storePath.utf8ByteSize < pathMax ∧ writable = true

instance (storePath : String) (writable : Bool) : Decidable (ValidStorePath storePath writable) :=
  inferInstanceAs (Decidable (_ ∧ _ ∧ _))

section Forward

variable {self : BiometricsFingerprint} {ret : Int}

theorem BiometricsFingerprint.setActiveGroup_forwards {gid : Nat} {storePath : String}
    {writable : Bool} (valid : ValidStorePath storePath writable) :
    self.setActiveGroup gid storePath writable ret =
      (self.forward (fun handle => .setActiveGroup handle gid storePath) ret).map
        fun (status, call) => (status, some call) := by
  obtain ⟨nonempty, short, rfl⟩ := valid
  rw [setActiveGroup, if_neg (by omega)]
  rfl

theorem BiometricsFingerprint.setActiveGroup_rejects {gid : Nat} {storePath : String}
    {writable : Bool} (invalid : ¬ValidStorePath storePath writable) :
    self.setActiveGroup gid storePath writable ret = some (.sysEinval, none) := by
  unfold ValidStorePath at invalid
  unfold setActiveGroup
  by_cases length : storePath.utf8ByteSize ≥ pathMax ∨ storePath.utf8ByteSize ≤ 0
  · rw [if_pos length]
  · cases writable <;> simp_all [Nat.pos_iff_ne_zero]

end Forward

end Raphael.Fingerprint
