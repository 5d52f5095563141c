import Raphael.Fingerprint.Driver
import Raphael.Fingerprint.PowerHint
import Raphael.Fingerprint.FodWatcher

namespace Raphael.Fingerprint

/-! # Construction

The constructor walks `kModules` in table order and keeps the first module that opens; the
entry's FOD flag decides whether the watcher thread starts. `mFod` is missing from the
initializer list, so the constructor takes the field's initial content as an argument.
-/

structure FingerprintHal where
  className : String
  fod : Bool
deriving DecidableEq, Repr

def kModules : List FingerprintHal :=
  [⟨"fpc", false⟩, ⟨"fpc_fod", true⟩, ⟨"goodix", false⟩, ⟨"goodix_fod", true⟩,
   ⟨"goodix_fod6", true⟩, ⟨"silead", false⟩, ⟨"syna", true⟩]

/-- The fields of `BiometricsFingerprint`; `mClientCallback` is the identity of the
registered client callback. -/
structure BiometricsFingerprint extends BoostCache where
  mClientCallback : Option Nat
  mDevice : Option HwDevice
  mFod : Bool

/-- The module loop of the constructor: the entries in order until one opens, with the
device and entry it stopped at. -/
def openModules (registry : String → ModuleLookup) :
    List FingerprintHal → Option (HwDevice × FingerprintHal) × List DriverCall
  | [] => (none, [])
  | hal :: rest =>
      match openHal registry hal.className with
      | (some device, calls) => (some (device, hal), calls)
      | (none, calls) =>
          let later := openModules registry rest
          (later.1, calls ++ later.2)

/-- The devices handed out to the entries the constructor tries before the first whose device
`openHal` accepts. -/
def leakedDevices (registry : String → ModuleLookup) (hals : List FingerprintHal) :
    List HwDevice :=
  (hals.takeWhile fun hal => ((registry hal.className).opened.filter HwDevice.accepted).isNone).filterMap
    fun hal => (registry hal.className).opened

structure Construction where
  self : BiometricsFingerprint
  driverCalls : List DriverCall
  properties : List (String × String)
  fodWatcherStarted : Bool

def BiometricsFingerprint.construct (registry : String → ModuleLookup) (mFod : Bool) :
    Construction :=
  let opened := openModules registry kModules
  let mFod := match opened.1 with
    | some (_, hal) => hal.fod
    | none => mFod
  { self :=
      { toBoostCache := BoostCache.init, mClientCallback := none,
        mDevice := opened.1.map Prod.fst, mFod }
    driverCalls := opened.2
    properties :=
      (opened.1.map fun (_, hal) => ("persist.vendor.sys.fp.vendor", hal.className)).toList ++
        if mFod then [("ro.hardware.fp.fod", "true")] else []
    fodWatcherStarted := mFod }

def BiometricsFingerprint.isUdfps (self : BiometricsFingerprint) (_sensorId : Nat) : Bool :=
  self.mFod

/-- `extCmd` calls the driver through `mDevice`; without a device it dereferences null,
which is `none`. -/
def BiometricsFingerprint.extCmd (self : BiometricsFingerprint) (cmd param : Int) :
    Option DriverCall :=
  self.mDevice.map fun device => .extCmd device.handle cmd param

def BiometricsFingerprint.destroy (self : BiometricsFingerprint) (err : Int) :
    BiometricsFingerprint × List DriverCall :=
  match self.mDevice with
  | none => (self, [])
  | some device =>
      if err ≠ 0 then (self, [.close device.handle])
      else ({ self with mDevice := none }, [.close device.handle])

section Loop

variable (registry : String → ModuleLookup)

theorem openModules_first (hals : List FingerprintHal) :
    (∃ pre hal post device, hals = pre ++ hal :: post ∧
      (∀ tried ∈ pre, (openHal registry tried.className).1 = none) ∧
      (openHal registry hal.className).1 = some device ∧
      (openModules registry hals).1 = some (device, hal) ∧
      attemptedClasses (openModules registry hals).2 = (pre ++ [hal]).map FingerprintHal.className) ∨
    ((∀ tried ∈ hals, (openHal registry tried.className).1 = none) ∧
      (openModules registry hals).1 = none ∧
      attemptedClasses (openModules registry hals).2 = hals.map FingerprintHal.className) := by
  induction hals with
  | nil => exact .inr ⟨by simp, rfl, rfl⟩
  | cons hal rest ih =>
      have asked := (openHal_spec registry hal.className).2.1
      rcases opened : openHal registry hal.className with ⟨_ | device, calls⟩ <;>
        rw [opened] at asked
      · rcases ih with ⟨pre, found, post, device, split, closed, open_, kept, tried⟩ |
          ⟨closed, none_, tried⟩
        · refine .inl ⟨hal :: pre, found, post, device, by simp [split], ?_, open_, ?_, ?_⟩
          · simpa [opened] using closed
          · simpa [openModules, opened] using kept
          · simpa [openModules, opened, asked] using tried
        · exact .inr ⟨by simpa [opened] using closed, by simpa [openModules, opened] using none_,
            by simpa [openModules, opened, asked] using tried⟩
      · exact .inl ⟨[], hal, rest, device, rfl, by simp, by simp [opened],
          by simp [openModules, opened], by simpa [openModules, opened] using asked⟩

theorem leakedDevices_refused (hals : List FingerprintHal) :
    ∀ device ∈ leakedDevices registry hals, device.accepted = false := by
  intro device member
  obtain ⟨hal, tried, handedOut⟩ := List.mem_filterMap.mp member
  have refused := List.mem_takeWhile_imp tried
  rw [handedOut] at refused
  cases accepted : device.accepted
  · rfl
  · simp [Option.filter, accepted] at refused

theorem openModules_spec (hals : List FingerprintHal) :
    (openModules registry hals).1.map Prod.fst =
        hals.findSome? (fun hal => (registry hal.className).opened.filter HwDevice.accepted) ∧
      closedDevices (openModules registry hals).2 = [] ∧
      openedDevices (openModules registry hals).2 =
        (leakedDevices registry hals ++ ((openModules registry hals).1.map Prod.fst).toList).map
          HwDevice.handle := by
  induction hals with
  | nil => exact ⟨rfl, rfl, rfl⟩
  | cons hal rest ih =>
      obtain ⟨laterKept, laterClosed, laterOpened⟩ := ih
      obtain ⟨kept, -, opened, closed, -⟩ := openHal_spec registry hal.className
      rcases result : openHal registry hal.className with ⟨outcome, calls⟩
      rw [result] at kept opened closed
      dsimp only at kept opened closed
      rcases handedOut : (registry hal.className).opened with _ | device
      · rw [handedOut, Option.filter_none] at kept
        subst kept
        simp [openModules, result, List.findSome?_cons, handedOut, laterKept, closed, laterClosed,
          opened, laterOpened, leakedDevices]
      cases accepted : device.accepted
      · rw [handedOut, Option.filter_some, accepted] at kept
        subst kept
        simp [openModules, result, List.findSome?_cons, handedOut, accepted, laterKept, closed,
          laterClosed, opened, laterOpened, leakedDevices]
      · rw [handedOut, Option.filter_some, accepted, if_pos rfl] at kept
        subst kept
        simp [openModules, result, List.findSome?_cons, handedOut, Option.filter_some, accepted,
          closed, opened, leakedDevices]

end Loop

theorem BiometricsFingerprint.construct_devices (registry : String → ModuleLookup) (mFod : Bool) :
    (BiometricsFingerprint.construct registry mFod).self.mDevice =
        kModules.findSome? (fun hal => (registry hal.className).opened.filter HwDevice.accepted) ∧
      closedDevices (BiometricsFingerprint.construct registry mFod).driverCalls = [] ∧
      openedDevices (BiometricsFingerprint.construct registry mFod).driverCalls =
        (leakedDevices registry kModules ++
          (BiometricsFingerprint.construct registry mFod).self.mDevice.toList).map HwDevice.handle :=
  openModules_spec registry kModules

theorem BiometricsFingerprint.destroy_closes (self : BiometricsFingerprint) (err : Int) :
    closedDevices (self.destroy err).2 = (self.mDevice.map HwDevice.handle).toList := by
  rcases device : self.mDevice with _ | device <;>
    by_cases failed : err = 0 <;> simp [destroy, device, failed, closedDevices]

/-- The constructor opens the entries of `kModules` in table order up to and including the
first that opens, keeps that entry's device and FOD flag, writes its class name once to
`persist.vendor.sys.fp.vendor`, and starts the watcher exactly for a FOD entry. When none
opens it tries them all and keeps no device, and `mFod` keeps whatever it held. -/
theorem construct_opens_first_module (registry : String → ModuleLookup) (mFod : Bool) :
    (∃ pre hal post device, kModules = pre ++ hal :: post ∧
      (∀ tried ∈ pre, (openHal registry tried.className).1 = none) ∧
      (openHal registry hal.className).1 = some device ∧
      attemptedClasses (BiometricsFingerprint.construct registry mFod).driverCalls =
        (pre ++ [hal]).map FingerprintHal.className ∧
      (BiometricsFingerprint.construct registry mFod).self.mDevice = some device ∧
      (∀ sensorId, (BiometricsFingerprint.construct registry mFod).self.isUdfps sensorId =
        hal.fod) ∧
      (BiometricsFingerprint.construct registry mFod).properties.filter
          (·.1 == "persist.vendor.sys.fp.vendor") =
        [("persist.vendor.sys.fp.vendor", hal.className)] ∧
      (BiometricsFingerprint.construct registry mFod).fodWatcherStarted = hal.fod) ∨
    ((∀ tried ∈ kModules, (openHal registry tried.className).1 = none) ∧
      attemptedClasses (BiometricsFingerprint.construct registry mFod).driverCalls =
        kModules.map FingerprintHal.className ∧
      (BiometricsFingerprint.construct registry mFod).self.mDevice = none ∧
      (∀ sensorId, (BiometricsFingerprint.construct registry mFod).self.isUdfps sensorId =
        mFod) ∧
      (BiometricsFingerprint.construct registry mFod).properties =
        (if mFod then [("ro.hardware.fp.fod", "true")] else []) ∧
      (BiometricsFingerprint.construct registry mFod).fodWatcherStarted = mFod) := by
  rcases openModules_first registry kModules with
    ⟨pre, hal, post, device, split, closed, opened, kept, tried⟩ | ⟨closed, none_, tried⟩
  · refine .inl ⟨pre, hal, post, device, split, closed, opened, ?_⟩
    cases fod : hal.fod <;>
      simp [BiometricsFingerprint.construct, BiometricsFingerprint.isUdfps, kept, tried, fod]
  · refine .inr ⟨closed, ?_⟩
    simp [BiometricsFingerprint.construct, BiometricsFingerprint.isUdfps, none_, tried]

/-- With no module that opens and a nonzero byte left in `mFod`, the constructor reports an
under-display sensor, sets `ro.hardware.fp.fod` and starts the watcher, whose commands go
through the null `mDevice`. -/
theorem construct_without_module_starts_watcher :
    (BiometricsFingerprint.construct (fun _ => ⟨-2, none⟩) true).self.mDevice = none ∧
      (BiometricsFingerprint.construct (fun _ => ⟨-2, none⟩) true).self.isUdfps 0 = true ∧
      (BiometricsFingerprint.construct (fun _ => ⟨-2, none⟩) true).fodWatcherStarted = true ∧
      ("ro.hardware.fp.fod", "true") ∈
        (BiometricsFingerprint.construct (fun _ => ⟨-2, none⟩) true).properties ∧
      (BiometricsFingerprint.construct (fun _ => ⟨-2, none⟩) true).self.extCmd commandNit
        paramNitNone = none := by
  decide

/-- `openHal` returns the device the module hands out exactly when it is accepted, with
`notify` registered on it; it records every device it opens and closes none, so a device
rejected by the version check or by `set_notify` stays open. The constructor keeps the first
accepted device of the table, and the devices it leaves open besides are those handed out to
the entries before it, each rejected. The destructor closes `mDevice` only. -/
theorem construct_leaves_rejected_devices_open :
    (∀ registry className,
      (openHal registry className).1 = (registry className).opened.filter HwDevice.accepted ∧
        openedDevices (openHal registry className).2 =
          ((registry className).opened.map HwDevice.handle).toList ∧
        closedDevices (openHal registry className).2 = [] ∧
        ∀ device, (openHal registry className).1 = some device →
          .setNotify device.handle ∈ (openHal registry className).2) ∧
    (∀ registry mFod,
      (BiometricsFingerprint.construct registry mFod).self.mDevice =
          kModules.findSome? (fun hal => (registry hal.className).opened.filter HwDevice.accepted) ∧
        closedDevices (BiometricsFingerprint.construct registry mFod).driverCalls = [] ∧
        openedDevices (BiometricsFingerprint.construct registry mFod).driverCalls =
          (leakedDevices registry kModules ++
            (BiometricsFingerprint.construct registry mFod).self.mDevice.toList).map HwDevice.handle ∧
        ∀ device ∈ leakedDevices registry kModules, device.accepted = false) ∧
    (∀ registry mFod err,
      closedDevices ((BiometricsFingerprint.construct registry mFod).self.destroy err).2 =
        ((BiometricsFingerprint.construct registry mFod).self.mDevice.map HwDevice.handle).toList) := by
  refine ⟨fun registry className => ?_, fun registry mFod => ?_,
    fun _ _ err => BiometricsFingerprint.destroy_closes _ err⟩
  · obtain ⟨kept, -, opened, closed, registered⟩ := openHal_spec registry className
    exact ⟨kept, opened, closed, registered⟩
  · obtain ⟨device, closed, opened⟩ := BiometricsFingerprint.construct_devices registry mFod
    exact ⟨device, closed, opened, leakedDevices_refused registry kModules⟩

/-- A module that hands out a device of the wrong version: `openHal` returns nullptr and
the device stays open. -/
theorem openHal_rejected_device_stays_open :
    ¬ ∀ (registry : String → ModuleLookup) (className : String),
      (openHal registry className).1 = none →
        ∀ handle ∈ openedDevices (openHal registry className).2,
          handle ∈ closedDevices (openHal registry className).2 := fun law =>
  absurd (law (fun _ => ⟨0, some ⟨some (0, ⟨7, kVersion + 1, 0⟩)⟩⟩) "fpc" (by decide) 7
    (by decide)) (by decide)

end Raphael.Fingerprint
