import Mathlib.Data.List.Basic

namespace Raphael.Fingerprint

/-! # Opening a vendor module

`openHal` asks the hardware-module registry for the fingerprint module of one class, opens
a device with the module's `open` method, checks the device's version and registers
`BiometricsFingerprint::notify` with `set_notify`. The registry, the module and the device are
vendor code: what each answers is data, and the calls made on them form a trace.
-/

def kVersion : Nat := 2 * 256 + 1

/-- A device handed out by a module's `open`: its handle, the `version` it reports and what
its `set_notify` returns. -/
structure HwDevice where
  handle : Nat
  version : Nat
  setNotify : Int
deriving DecidableEq, Repr

structure HwModule where
  methodsOpen : Option (Int × HwDevice)
deriving DecidableEq, Repr

/-- What `hw_get_module_by_class` answers for one class: its error code and the module it
stores, `none` for nullptr. -/
structure ModuleLookup where
  err : Int
  module : Option HwModule
deriving DecidableEq, Repr

/-- The calls the bridge makes on the registry and on the vendor driver. `openDevice` records
the handle the module's `open` handed out, if it succeeded. -/
inductive DriverCall where
  | getModuleByClass (className : String)
  | openDevice (className : String) (handle : Option Nat)
  | setNotify (handle : Nat)
  | close (handle : Nat)
  | preEnroll (handle : Nat)
  | enroll (handle : Nat) (hat : List UInt8) (gid timeoutSec : Nat)
  | postEnroll (handle : Nat)
  | getAuthenticatorId (handle : Nat)
  | cancel (handle : Nat)
  | enumerate (handle : Nat)
  | remove (handle : Nat) (gid fid : Nat)
  | setActiveGroup (handle : Nat) (gid : Nat) (storePath : String)
  | authenticate (handle : Nat) (operationId : Nat) (gid : Nat)
  | extCmd (handle : Nat) (cmd param : Int)
deriving DecidableEq

def openHal (registry : String → ModuleLookup) (className : String) :
    Option HwDevice × List DriverCall :=
  let found := registry className
  let asked := [DriverCall.getModuleByClass className]
  if found.err ≠ 0 then (none, asked)
  else
    match found.module with
    | none => (none, asked)
    | some module =>
        match module.methodsOpen with
        | none => (none, asked)
        | some (err, device) =>
            if err ≠ 0 then (none, asked ++ [.openDevice className none])
            else
              let opened := asked ++ [.openDevice className (some device.handle)]
              if kVersion ≠ device.version then (none, opened)
              else
                let registered := opened ++ [.setNotify device.handle]
                if device.setNotify ≠ 0 then (none, registered) else (some device, registered)

def ModuleLookup.opened (found : ModuleLookup) : Option HwDevice :=
  if found.err ≠ 0 then none
  else
    match found.module with
    | some ⟨some (err, device)⟩ => if err = 0 then some device else none
    | _ => none

def HwDevice.accepted (device : HwDevice) : Bool :=
  kVersion == device.version && device.setNotify == 0

def attemptedClasses (calls : List DriverCall) : List String :=
  calls.filterMap fun | .getModuleByClass className => some className | _ => none

def openedDevices (calls : List DriverCall) : List Nat :=
  calls.filterMap fun | .openDevice _ (some handle) => some handle | _ => none

def closedDevices (calls : List DriverCall) : List Nat :=
  calls.filterMap fun | .close handle => some handle | _ => none

@[simp] theorem attemptedClasses_append (first second : List DriverCall) :
    attemptedClasses (first ++ second) = attemptedClasses first ++ attemptedClasses second :=
  List.filterMap_append _ _ _

@[simp] theorem openedDevices_append (first second : List DriverCall) :
    openedDevices (first ++ second) = openedDevices first ++ openedDevices second :=
  List.filterMap_append _ _ _

@[simp] theorem closedDevices_append (first second : List DriverCall) :
    closedDevices (first ++ second) = closedDevices first ++ closedDevices second :=
  List.filterMap_append _ _ _

theorem openHal_spec (registry : String → ModuleLookup) (className : String) :
    (openHal registry className).1 = (registry className).opened.filter HwDevice.accepted ∧
      attemptedClasses (openHal registry className).2 = [className] ∧
      openedDevices (openHal registry className).2 =
        ((registry className).opened.map HwDevice.handle).toList ∧
      closedDevices (openHal registry className).2 = [] ∧
      ∀ device, (openHal registry className).1 = some device →
        .setNotify device.handle ∈ (openHal registry className).2 := by
  rcases found : registry className with ⟨err, module⟩
  by_cases failed : err ≠ 0
  · simp [openHal, ModuleLookup.opened, found, failed, attemptedClasses, openedDevices, closedDevices]
  rcases module with _ | ⟨_ | ⟨openErr, device⟩⟩
  · simp [openHal, ModuleLookup.opened, found, failed, attemptedClasses, openedDevices, closedDevices]
  · simp [openHal, ModuleLookup.opened, found, failed, attemptedClasses, openedDevices, closedDevices]
  by_cases opened : openErr = 0
  · by_cases version : kVersion = device.version <;> by_cases registered : device.setNotify = 0 <;>
      simp [openHal, ModuleLookup.opened, found, failed, opened, version, registered,
        HwDevice.accepted, Option.filter, attemptedClasses, openedDevices, closedDevices]
  · simp [openHal, ModuleLookup.opened, found, failed, opened, attemptedClasses, openedDevices,
      closedDevices]

end Raphael.Fingerprint
