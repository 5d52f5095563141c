import Mathlib.Data.List.Basic

namespace Raphael.Fingerprint

/-! # Status translation

`ErrorFilter` maps the return code of a legacy driver call to the HIDL `RequestStatus`.
`VendorErrorFilter` and `VendorAcquiredFilter` map the codes carried by driver messages to
the HIDL enumerations, passing a vendor code through as its offset from the vendor base.
The legacy codes are the values `hardware/fingerprint.h` gives them.
-/

inductive RequestStatus where
  | sysUnknown | sysOk | sysEnoent | sysEintr | sysEio | sysEagain | sysEnomem
  | sysEacces | sysEfault | sysEbusy | sysEinval | sysEnospc | sysEtimedout
deriving DecidableEq, Repr

def errorFilter (error : Int) : RequestStatus :=
  if error = 0 then .sysOk
  else if error = -2 then .sysEnoent
  else if error = -4 then .sysEintr
  else if error = -5 then .sysEio
  else if error = -11 then .sysEagain
  else if error = -12 then .sysEnomem
  else if error = -13 then .sysEacces
  else if error = -14 then .sysEfault
  else if error = -16 then .sysEbusy
  else if error = -22 then .sysEinval
  else if error = -28 then .sysEnospc
  else if error = -110 then .sysEtimedout
  else .sysUnknown

def fingerprintErrorHwUnavailable : Int := 1
def fingerprintErrorUnableToProcess : Int := 2
def fingerprintErrorTimeout : Int := 3
def fingerprintErrorNoSpace : Int := 4
def fingerprintErrorCanceled : Int := 5
def fingerprintErrorUnableToRemove : Int := 6
def fingerprintErrorLockout : Int := 7
def fingerprintErrorVendorBase : Int := 1000

def fingerprintAcquiredGood : Int := 0
def fingerprintAcquiredPartial : Int := 1
def fingerprintAcquiredInsufficient : Int := 2
def fingerprintAcquiredImagerDirty : Int := 3
def fingerprintAcquiredTooSlow : Int := 4
def fingerprintAcquiredTooFast : Int := 5
def fingerprintAcquiredVendorBase : Int := 1000

inductive FingerprintError where
  | errorHwUnavailable | errorUnableToProcess | errorTimeout | errorNoSpace
  | errorCanceled | errorUnableToRemove | errorLockout | errorVendor
deriving DecidableEq, Repr

inductive FingerprintAcquiredInfo where
  | acquiredGood | acquiredPartial | acquiredInsufficient | acquiredImagerDirty
  | acquiredTooSlow | acquiredTooFast | acquiredVendor
deriving DecidableEq, Repr

/-- The translated error together with the value stored through `vendorCode`. -/
def vendorErrorFilter (error : Int) : FingerprintError × Int :=
  if error = fingerprintErrorHwUnavailable then (.errorHwUnavailable, 0)
  else if error = fingerprintErrorUnableToProcess then (.errorUnableToProcess, 0)
  else if error = fingerprintErrorTimeout then (.errorTimeout, 0)
  else if error = fingerprintErrorNoSpace then (.errorNoSpace, 0)
  else if error = fingerprintErrorCanceled then (.errorCanceled, 0)
  else if error = fingerprintErrorUnableToRemove then (.errorUnableToRemove, 0)
  else if error = fingerprintErrorLockout then (.errorLockout, 0)
  else if error ≥ fingerprintErrorVendorBase then
    (.errorVendor, error - fingerprintErrorVendorBase)
  else (.errorUnableToProcess, 0)

/-- The translated acquisition info together with the value stored through `vendorCode`. -/
def vendorAcquiredFilter (info : Int) : FingerprintAcquiredInfo × Int :=
  if info = fingerprintAcquiredGood then (.acquiredGood, 0)
  else if info = fingerprintAcquiredPartial then (.acquiredPartial, 0)
  else if info = fingerprintAcquiredInsufficient then (.acquiredInsufficient, 0)
  else if info = fingerprintAcquiredImagerDirty then (.acquiredImagerDirty, 0)
  else if info = fingerprintAcquiredTooSlow then (.acquiredTooSlow, 0)
  else if info = fingerprintAcquiredTooFast then (.acquiredTooFast, 0)
  else if info ≥ fingerprintAcquiredVendorBase then
    (.acquiredVendor, info - fingerprintAcquiredVendorBase)
  else (.acquiredInsufficient, 0)

end Raphael.Fingerprint
