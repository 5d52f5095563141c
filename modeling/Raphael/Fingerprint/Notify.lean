import Raphael.Fingerprint.Requests
import Raphael.Fingerprint.PowerHintRuns
import Mathlib.Data.List.Forall2

namespace Raphael.Fingerprint

/-! # Driver callbacks and runs of the bridge

`notify` runs on the driver's thread. It drops a message while no client callback is
registered, and otherwise turns it into one call of the client callback. A delivered match,
a non-zero finger id whose `onAuthenticated` returned ok, then triggers one
`sendAuthenticatedBoostHint`. A run of the bridge interleaves `setNotify` with driver
messages. Along every run the boost cache follows a run of `sendBoostHints`, so the laws of
`PowerHintRuns` hold for the whole bridge.
-/

/-- A `fingerprint_msg_t`, by its `type`: the types the switch lists, and any other. -/
inductive FingerprintMsg where
  | error (error : Int)
  | acquired (acquiredInfo : Int)
  | templateEnrolling (fid gid samplesRemaining : Nat)
  | templateRemoved (fid gid remainingTemplates : Nat)
  | authenticated (fid gid : Nat) (hat : HwAuthToken)
  | templateEnumerating (fid gid remainingTemplates : Nat)
  | other (type : Int)

inductive ClientCall where
  | onError (devId : Nat) (error : FingerprintError) (vendorCode : Int)
  | onAcquired (devId : Nat) (acquiredInfo : FingerprintAcquiredInfo) (vendorCode : Int)
  | onEnrollResult (devId fid gid remaining : Nat)
  | onRemoved (devId fid gid remaining : Nat)
  | onAuthenticated (devId fid gid : Nat) (token : List UInt8)
  | onEnumerate (devId fid gid remaining : Nat)

def ClientCall.devId : ClientCall → Nat
  | .onError devId _ _ => devId
  | .onAcquired devId _ _ => devId
  | .onEnrollResult devId _ _ _ => devId
  | .onRemoved devId _ _ _ => devId
  | .onAuthenticated devId _ _ _ => devId
  | .onEnumerate devId _ _ _ => devId

structure Notified where
  self : BiometricsFingerprint
  clientCalls : List ClientCall
  powerCalls : List PowerCall

/-- `delivered` is whether `onAuthenticated` returned ok, and `hal` answers the boost it
may trigger. -/
def BiometricsFingerprint.notify (self : BiometricsFingerprint) (msg : FingerprintMsg)
    (delivered : Bool) (hal : PowerHal) : Notified :=
  match self.mClientCallback with
  | none => ⟨self, [], []⟩
  | some _ =>
      let devId := (self.mDevice.map HwDevice.handle).getD 0
      match msg with
      | .error error =>
          ⟨self, [.onError devId (vendorErrorFilter error).1 (vendorErrorFilter error).2], []⟩
      | .acquired acquiredInfo =>
          ⟨self, [.onAcquired devId (vendorAcquiredFilter acquiredInfo).1
            (vendorAcquiredFilter acquiredInfo).2], []⟩
      | .templateEnrolling fid gid samplesRemaining =>
          ⟨self, [.onEnrollResult devId fid gid samplesRemaining], []⟩
      | .templateRemoved fid gid remainingTemplates =>
          ⟨self, [.onRemoved devId fid gid remainingTemplates], []⟩
      | .authenticated fid gid hat =>
          if fid ≠ 0 then
            if delivered then
              let boosted := sendAuthenticatedBoostHint hal self.toBoostCache
              ⟨{ self with toBoostCache := boosted.after },
                [.onAuthenticated devId fid gid hat.val], boosted.calls⟩
            else ⟨self, [.onAuthenticated devId fid gid hat.val], []⟩
          else ⟨self, [.onAuthenticated devId fid gid []], []⟩
      | .templateEnumerating fid gid remainingTemplates =>
          ⟨self, [.onEnumerate devId fid gid remainingTemplates], []⟩
      | .other _ => ⟨self, [], []⟩

/-- Whether a message triggers a boost: a callback is registered, the message is a match
with a non-zero finger id, and its `onAuthenticated` returned ok. -/
def FingerprintMsg.boosts (registered : Option Nat) (delivered : Bool) : FingerprintMsg → Bool
  | .authenticated fid _ _ => registered.isSome && fid != 0 && delivered
  | .error _ | .acquired _ | .templateEnrolling _ _ _ | .templateRemoved _ _ _
  | .templateEnumerating _ _ _ | .other _ => false

theorem BiometricsFingerprint.notify_boost (self : BiometricsFingerprint) (msg : FingerprintMsg)
    (delivered : Bool) (hal : PowerHal) :
    (self.notify msg delivered hal).self =
        { self with toBoostCache := (self.notify msg delivered hal).self.toBoostCache } ∧
      (if msg.boosts self.mClientCallback delivered then
        (self.notify msg delivered hal).self.toBoostCache =
            (sendAuthenticatedBoostHint hal self.toBoostCache).after ∧
          (self.notify msg delivered hal).powerCalls =
            (sendAuthenticatedBoostHint hal self.toBoostCache).calls
      else
        (self.notify msg delivered hal).self.toBoostCache = self.toBoostCache ∧
          (self.notify msg delivered hal).powerCalls = []) := by
  obtain ⟨cache, registered, device, fod⟩ := self
  cases registered with
  | none => cases msg <;> simp [notify, FingerprintMsg.boosts]
  | some callback =>
      cases msg with
      | authenticated fid gid hat =>
          by_cases matched : fid = 0
          · simp [notify, FingerprintMsg.boosts, matched]
          · cases delivered <;> simp [notify, FingerprintMsg.boosts, matched]
      | _ => simp [notify, FingerprintMsg.boosts]

theorem BiometricsFingerprint.notify_power_calls (self : BiometricsFingerprint)
    (msg : FingerprintMsg) (delivered : Bool) (hal : PowerHal) :
    List.Sublist (self.notify msg delivered hal).powerCalls
      (if msg.boosts self.mClientCallback delivered then
        [.getService, .isBoostSupported kBoostHint, .setBoost kBoostHint kBoostDurationMs]
      else []) := by
  have boosted := (self.notify_boost msg delivered hal).2
  by_cases boosting : msg.boosts self.mClientCallback delivered = true
  · simp only [boosting, if_true] at boosted ⊢
    rw [boosted.2]
    exact sendAuthenticatedBoostHint_sublist
  · simp only [boosting, if_false, Bool.false_eq_true] at boosted ⊢
    rw [boosted.2]

theorem BiometricsFingerprint.notify_devIds (self : BiometricsFingerprint)
    (msg : FingerprintMsg) (delivered : Bool) (hal : PowerHal) :
    ∀ call ∈ (self.notify msg delivered hal).clientCalls,
      call.devId = (self.mDevice.map HwDevice.handle).getD 0 := by
  rcases registered : self.mClientCallback with _ | callback
  · simp [notify, registered]
  cases msg with
  | authenticated fid gid hat =>
      by_cases matched : fid = 0
      · simp [notify, registered, matched, ClientCall.devId]
      · cases delivered <;> simp [notify, registered, matched, ClientCall.devId]
  | _ => simp [notify, registered, ClientCall.devId]

inductive BridgeEvent where
  | setNotify (clientCallback : Option Nat)
  | notify (msg : FingerprintMsg) (delivered : Bool) (hal : PowerHal)

def BiometricsFingerprint.step (self : BiometricsFingerprint) :
    BridgeEvent → BiometricsFingerprint × List PowerCall
  | .setNotify clientCallback => ((self.setNotify clientCallback).1, [])
  | .notify msg delivered hal =>
      ((self.notify msg delivered hal).self, (self.notify msg delivered hal).powerCalls)

def BiometricsFingerprint.run : BiometricsFingerprint → List BridgeEvent →
    BiometricsFingerprint × List PowerCall
  | self, [] => (self, [])
  | self, event :: rest =>
      let later := (self.step event).1.run rest
      (later.1, (self.step event).2 ++ later.2)

/-- The power HAL's answers to the boosting messages of a run, in order; whether a message
boosts depends on the callback registered when it arrives. -/
def boostedHals : Option Nat → List BridgeEvent → List PowerHal
  | _, [] => []
  | _, .setNotify clientCallback :: rest => boostedHals clientCallback rest
  | registered, .notify msg delivered hal :: rest =>
      (if msg.boosts registered delivered then [hal] else []) ++ boostedHals registered rest

theorem BiometricsFingerprint.run_refines_sendBoostHints (self : BiometricsFingerprint)
    (events : List BridgeEvent) :
    (self.run events).1.mDevice = self.mDevice ∧ (self.run events).1.mFod = self.mFod ∧
      (self.run events).1.toBoostCache =
        (sendBoostHints (boostedHals self.mClientCallback events) self.toBoostCache).1 ∧
      (self.run events).2 =
        (sendBoostHints (boostedHals self.mClientCallback events) self.toBoostCache).2 := by
  induction events generalizing self with
  | nil => exact ⟨rfl, rfl, rfl, rfl⟩
  | cons event rest ih =>
      cases event with
      | setNotify clientCallback =>
          obtain ⟨device, fod, boost, calls⟩ := ih (self.setNotify clientCallback).1
          exact ⟨device, fod, boost, by simpa [run, step] using calls⟩
      | notify msg delivered hal =>
          obtain ⟨device, fod, boost, calls⟩ := ih (self.notify msg delivered hal).self
          obtain ⟨frame, boosted⟩ := self.notify_boost msg delivered hal
          have registered : (self.notify msg delivered hal).self.mClientCallback =
              self.mClientCallback := by rw [frame]
          rw [registered] at boost calls
          refine ⟨device.trans (by rw [frame]), fod.trans (by rw [frame]), ?_⟩
          by_cases boosting : msg.boosts self.mClientCallback delivered = true
          · simp only [boosting, if_true] at boosted
            refine ⟨?_, ?_⟩ <;> simp only [run, step, boostedHals, boosting, if_true,
              List.singleton_append, sendBoostHints, ← boosted.1, ← boosted.2, boost, calls]
          · simp only [boosting, if_false, Bool.false_eq_true] at boosted
            refine ⟨?_, ?_⟩ <;> simp only [run, step, boostedHals, boosting, if_false,
              Bool.false_eq_true, List.nil_append, boosted.1, boosted.2, boost, calls]

theorem BiometricsFingerprint.run_append (self : BiometricsFingerprint)
    (before after : List BridgeEvent) :
    self.run (before ++ after) =
      (((self.run before).1.run after).1, (self.run before).2 ++ ((self.run before).1.run after).2) := by
  induction before generalizing self with
  | nil => simp [run]
  | cons event rest ih => simp [run, ih]

/-- From the constructed object, every run of the bridge keeps the device and FOD flag the
constructor chose; its boost cache and power HAL calls are those of one
`sendAuthenticatedBoostHint` for each boosting message, in order, on that message's answers;
the cache stays consistent, and once a prefix of the run has checked the boost, the rest of
the run makes no `isBoostSupported` call. -/
theorem BiometricsFingerprint.construct_run_boost_cache (registry : String → ModuleLookup)
    (mFod : Bool) (events : List BridgeEvent) :
    let built := (BiometricsFingerprint.construct registry mFod).self
    (built.run events).1.mDevice = built.mDevice ∧ (built.run events).1.mFod = built.mFod ∧
      (built.run events).1.toBoostCache =
        (sendBoostHints (boostedHals none events) BoostCache.init).1 ∧
      (built.run events).2 = (sendBoostHints (boostedHals none events) BoostCache.init).2 ∧
      (built.run events).1.toBoostCache.Consistent ∧
      ∀ before after, (built.run before).1.mBoostHintSupportIsChecked = true →
        ∃ later, (built.run (before ++ after)).2 = (built.run before).2 ++ later ∧
          ∀ boost, .isBoostSupported boost ∉ later := by
  intro built
  obtain ⟨device, fod, boost, calls⟩ := built.run_refines_sendBoostHints events
  refine ⟨device, fod, boost, calls, ?_, fun before after cached => ?_⟩
  · rw [boost]
    exact sendBoostHints_consistent BoostCache.init_consistent
  · obtain ⟨-, -, -, laterCalls⟩ := (built.run before).1.run_refines_sendBoostHints after
    refine ⟨_, by rw [built.run_append], ?_⟩
    rw [laterCalls]
    exact (sendBoostHints_of_checked cached).2

end Raphael.Fingerprint
