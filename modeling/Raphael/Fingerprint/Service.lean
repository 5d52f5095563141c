import Raphael.Fingerprint.Notify

namespace Raphael.Fingerprint

/-! # The service

Three threads reach the `BiometricsFingerprint` the service built: the host's binder thread
with its requests, the driver's thread with `notify`, and the FOD watcher with its wake-ups.
A run of the service is any interleaving of their events, each carrying what the driver, the
power HAL, the client or the kernel answers. A request or a pass of the watcher that
dereferences the null `mDevice` kills the process and ends the run. Apart from the callback
the host registers for the client, what one thread sees does not depend on the events of the
others.
-/

/-- A request of the host, with the driver's answer to the call it makes. -/
inductive HostRequest where
  | setNotify (clientCallback : Option Nat)
  | preEnroll (ret : Nat)
  | enroll (hat : HwAuthToken) (gid timeoutSec : Nat) (ret : Int)
  | postEnroll (ret : Int)
  | getAuthenticatorId (ret : Nat)
  | cancel (ret : Int)
  | enumerate (ret : Int)
  | remove (gid fid : Nat) (ret : Int)
  | setActiveGroup (gid : Nat) (storePath : String) (writable : Bool) (ret : Int)
  | authenticate (operationId gid : Nat) (ret : Int)
  | isUdfps (sensorId : Nat)
  | onFingerDown
  | onFingerUp
  | extCmd (cmd param ret : Int)

inductive Reply where
  | deviceId (devId : Nat)
  | value (value : Nat)
  | status (status : RequestStatus)
  | udfps (udfps : Bool)
  | ret (ret : Int)
  | void

inductive ServiceEvent where
  | host (request : HostRequest)
  | driver (msg : FingerprintMsg) (delivered : Bool) (hal : PowerHal)
  | watcher (wake : FodWake)

def DriverCall.requestHandle : DriverCall → Option Nat
  | .getModuleByClass _ | .openDevice _ _ | .setNotify _ | .close _ => none
  | .preEnroll handle | .postEnroll handle | .getAuthenticatorId handle | .cancel handle
  | .enumerate handle | .enroll handle _ _ _ | .remove handle _ _ | .setActiveGroup handle _ _
  | .authenticate handle _ _ | .extCmd handle _ _ => some handle

structure Trace where
  replies : List Reply
  hostCalls : List DriverCall
  clientCalls : List ClientCall
  powerCalls : List PowerCall
  watcherCalls : List DriverCall

def Trace.empty : Trace := ⟨[], [], [], [], []⟩

def Trace.append (first second : Trace) : Trace :=
  ⟨first.replies ++ second.replies, first.hostCalls ++ second.hostCalls,
    first.clientCalls ++ second.clientCalls, first.powerCalls ++ second.powerCalls,
    first.watcherCalls ++ second.watcherCalls⟩

def BiometricsFingerprint.statusReply (self : BiometricsFingerprint)
    (result : Option (RequestStatus × DriverCall)) :
    Option (BiometricsFingerprint × Reply × List DriverCall) :=
  result.map fun (status, call) => (self, .status status, [call])

/-- A request: the fields after it, its reply and the driver calls it made, or `none` when
it dereferences the null `mDevice`. -/
def BiometricsFingerprint.request (self : BiometricsFingerprint) :
    HostRequest → Option (BiometricsFingerprint × Reply × List DriverCall)
  | .setNotify clientCallback =>
      some ((self.setNotify clientCallback).1, .deviceId (self.setNotify clientCallback).2, [])
  | .preEnroll ret => (self.preEnroll ret).map fun (value, call) => (self, .value value, [call])
  | .enroll hat gid timeoutSec ret => self.statusReply (self.enroll hat gid timeoutSec ret)
  | .postEnroll ret => self.statusReply (self.postEnroll ret)
  | .getAuthenticatorId ret =>
      (self.getAuthenticatorId ret).map fun (value, call) => (self, .value value, [call])
  | .cancel ret => self.statusReply (self.cancel ret)
  | .enumerate ret => self.statusReply (self.enumerate ret)
  | .remove gid fid ret => self.statusReply (self.remove gid fid ret)
  | .setActiveGroup gid storePath writable ret =>
      (self.setActiveGroup gid storePath writable ret).map fun (status, call) =>
        (self, .status status, call.toList)
  | .authenticate operationId gid ret => self.statusReply (self.authenticate operationId gid ret)
  | .isUdfps sensorId => some (self, .udfps (self.isUdfps sensorId), [])
  | .onFingerDown => some (self, .void, [])
  | .onFingerUp => some (self, .void, [])
  | .extCmd cmd param ret => (self.extCmd cmd param).map fun call => (self, .ret ret, [call])

/-- One pass of the FOD watcher, which the constructor started exactly when `mFod` was set:
its `extCmd` calls go through `mDevice`. -/
def BiometricsFingerprint.watch (self : BiometricsFingerprint) (wake : FodWake) :
    Option (List DriverCall) :=
  if self.mFod then (fodWatcherPass wake).mapM fun command => self.extCmd command.cmd command.param
  else some []

def BiometricsFingerprint.serve (self : BiometricsFingerprint) :
    ServiceEvent → Option (BiometricsFingerprint × Trace)
  | .host request =>
      (self.request request).map fun (next, reply, calls) => (next, ⟨[reply], calls, [], [], []⟩)
  | .driver msg delivered hal =>
      some ((self.notify msg delivered hal).self, ⟨[], [], (self.notify msg delivered hal).clientCalls,
        (self.notify msg delivered hal).powerCalls, []⟩)
  | .watcher wake => (self.watch wake).map fun calls => (self, ⟨[], [], [], [], calls⟩)

structure ServiceRun where
  self : BiometricsFingerprint
  trace : Trace
  crashed : Bool

def BiometricsFingerprint.serveAll : BiometricsFingerprint → List ServiceEvent → ServiceRun
  | self, [] => ⟨self, .empty, false⟩
  | self, event :: rest =>
      match self.serve event with
      | none => ⟨self, .empty, true⟩
      | some (next, trace) =>
          ⟨(next.serveAll rest).self, trace.append (next.serveAll rest).trace,
            (next.serveAll rest).crashed⟩

/-- Whether an event makes a call on the driver: every request but `setNotify`, `isUdfps` and
the finger events, `setActiveGroup` only on a path it accepts, and a pass of a running watcher
that `poll` woke. -/
def ServiceEvent.callsDriver (mFod : Bool) : ServiceEvent → Bool
  | .host (.setNotify _) | .host (.isUdfps _) | .host .onFingerDown | .host .onFingerUp => false
  | .host (.setActiveGroup _ storePath writable _) => decide (ValidStorePath storePath writable)
  | .host _ => true
  | .driver _ _ _ => false
  | .watcher wake => mFod && decide (0 ≤ wake.poll)

def ServiceEvent.fromHost : ServiceEvent → Bool
  | .host _ => true
  | .driver _ _ _ | .watcher _ => false

def watcherWakes (events : List ServiceEvent) : List FodWake :=
  events.filterMap fun | .watcher wake => some wake | _ => none

def ServiceEvent.bridgeEvent : ServiceEvent → Option BridgeEvent
  | .host (.setNotify clientCallback) => some (.setNotify clientCallback)
  | .driver msg delivered hal => some (.notify msg delivered hal)
  | _ => none

/-- What every trace of the service satisfies for the `mDevice` it runs with: each call of a
request or of the watcher is made on that device, and none opens, registers or closes one; the
driver gets only store paths `setActiveGroup` accepts; and every device id the host or the
client sees is the one `setNotify` returns. -/
structure Trace.Sound (mDevice : Option HwDevice) (trace : Trace) : Prop where
  onDevice : ∀ call ∈ trace.hostCalls ++ trace.watcherCalls,
    ∃ device, mDevice = some device ∧ call.requestHandle = some device.handle
  validPaths : ∀ handle gid storePath, .setActiveGroup handle gid storePath ∈ trace.hostCalls →
    0 < storePath.utf8ByteSize ∧ storePath.utf8ByteSize < pathMax
  deviceIds : ∀ devId, .deviceId devId ∈ trace.replies →
    devId = (mDevice.map HwDevice.handle).getD 0
  clientIds : ∀ call ∈ trace.clientCalls, call.devId = (mDevice.map HwDevice.handle).getD 0

theorem Trace.sound_empty (mDevice : Option HwDevice) : Trace.empty.Sound mDevice :=
  ⟨List.forall_mem_nil _, fun _ _ _ member => (List.not_mem_nil _ member).elim,
    fun _ member => (List.not_mem_nil _ member).elim, List.forall_mem_nil _⟩

section Step

variable {self next : BiometricsFingerprint} {trace : Trace}

theorem BiometricsFingerprint.watch_eq (self : BiometricsFingerprint) (wake : FodWake) :
    self.watch wake =
      if (ServiceEvent.watcher wake).callsDriver self.mFod then
        self.mDevice.map fun device => (fodWatcherPass wake).map fun command =>
          .extCmd device.handle command.cmd command.param
      else some [] := by
  obtain ⟨cache, callback, device, fod⟩ := self
  by_cases woken : 0 ≤ wake.poll
  · cases fod <;> cases device <;>
      simp only [watch, ServiceEvent.callsDriver, fodWatcherPass, if_neg (Int.not_lt.mpr woken),
        List.mapM_cons, List.mapM_nil, extCmd] <;> simp [woken]
  · cases fod <;> simp only [watch, ServiceEvent.callsDriver, fodWatcherPass,
      if_pos (Int.not_le.mp woken), List.mapM_nil] <;> simp [woken]

theorem BiometricsFingerprint.request_eq_none (self : BiometricsFingerprint)
    (request : HostRequest) :
    self.request request = none ↔
      self.mDevice = none ∧ (ServiceEvent.host request).callsDriver self.mFod = true := by
  obtain ⟨cache, callback, device, fod⟩ := self
  cases request with
  | setActiveGroup gid storePath writable ret =>
      by_cases valid : ValidStorePath storePath writable
      · cases device <;>
          simp [request, setActiveGroup_forwards valid, forward, ServiceEvent.callsDriver, valid]
      · simp [request, setActiveGroup_rejects valid, ServiceEvent.callsDriver, valid]
  | _ => cases device <;> simp [request, statusReply, preEnroll, getAuthenticatorId, enroll,
      postEnroll, cancel, enumerate, remove, authenticate, forward, extCmd, ServiceEvent.callsDriver]

theorem BiometricsFingerprint.request_eq_some {request : HostRequest} {reply : Reply}
    {calls : List DriverCall} (served : self.request request = some (next, reply, calls)) :
    next = (match request with
      | .setNotify clientCallback => (self.setNotify clientCallback).1
      | _ => self) ∧
    (∀ devId, reply = .deviceId devId → devId = (self.mDevice.map HwDevice.handle).getD 0) ∧
    (∀ call ∈ calls, ∃ device, self.mDevice = some device ∧
      call.requestHandle = some device.handle) ∧
    (∀ handle gid storePath, .setActiveGroup handle gid storePath ∈ calls →
      0 < storePath.utf8ByteSize ∧ storePath.utf8ByteSize < pathMax) := by
  have noPath : ∀ handle gid storePath, .setActiveGroup handle gid storePath ∉ ([] : List DriverCall) :=
    fun _ _ _ => List.not_mem_nil _
  obtain ⟨cache, callback, device, fod⟩ := self
  cases request with
  | setActiveGroup gid storePath writable ret =>
      by_cases valid : ValidStorePath storePath writable
      · rw [request, setActiveGroup_forwards valid] at served
        cases device <;> cases served
        refine ⟨rfl, fun _ same => Reply.noConfusion same,
          fun _ member => ⟨_, rfl, by rw [List.mem_singleton.mp member]; rfl⟩,
          fun _ _ _ member => ?_⟩
        cases List.mem_singleton.mp member
        exact ⟨valid.1, valid.2.1⟩
      · rw [request, setActiveGroup_rejects valid] at served
        cases served
        exact ⟨rfl, fun _ same => Reply.noConfusion same, List.forall_mem_nil _,
          fun _ _ _ member => (noPath _ _ _ member).elim⟩
  | setNotify clientCallback =>
      cases served
      exact ⟨rfl, fun _ same => (Reply.deviceId.inj same).symm, List.forall_mem_nil _,
        fun _ _ _ member => (noPath _ _ _ member).elim⟩
  | isUdfps _ | onFingerDown | onFingerUp =>
      cases served
      exact ⟨rfl, fun _ same => Reply.noConfusion same, List.forall_mem_nil _,
        fun _ _ _ member => (noPath _ _ _ member).elim⟩
  | _ =>
      cases device <;> cases served
      exact ⟨rfl, fun _ same => Reply.noConfusion same,
        fun _ member => ⟨_, rfl, by rw [List.mem_singleton.mp member]; rfl⟩,
        fun _ _ _ member => DriverCall.noConfusion (List.mem_singleton.mp member)⟩

theorem BiometricsFingerprint.serve_eq_none (self : BiometricsFingerprint) (event : ServiceEvent) :
    self.serve event = none ↔
      self.mDevice = none ∧ event.callsDriver self.mFod = true := by
  cases event with
  | host request => simp only [serve, Option.map_eq_none', request_eq_none]
  | driver msg delivered hal => simp [serve, ServiceEvent.callsDriver]
  | watcher wake =>
      rw [serve, Option.map_eq_none', watch_eq]
      by_cases woken : (ServiceEvent.watcher wake).callsDriver self.mFod = true <;>
        simp [woken, Option.map_eq_none']

theorem BiometricsFingerprint.serve_refines {event : ServiceEvent}
    (served : self.serve event = some (next, trace)) :
    next = (match event.bridgeEvent with
      | some bridgeEvent => (self.step bridgeEvent).1
      | none => self) ∧
    trace.powerCalls = (match event.bridgeEvent with
      | some bridgeEvent => (self.step bridgeEvent).2
      | none => []) := by
  cases event with
  | host request =>
      obtain ⟨⟨next', reply, calls⟩, answered, rfl, rfl⟩ := Option.map_eq_some'.mp served
      obtain ⟨after, -⟩ := request_eq_some answered
      cases request <;> exact ⟨after, rfl⟩
  | driver msg delivered hal =>
      cases served
      exact ⟨rfl, rfl⟩
  | watcher wake =>
      obtain ⟨calls, -, rfl, rfl⟩ := Option.map_eq_some'.mp served
      exact ⟨rfl, rfl⟩

theorem BiometricsFingerprint.serve_sound {event : ServiceEvent}
    (served : self.serve event = some (next, trace)) : trace.Sound self.mDevice := by
  cases event with
  | host request =>
      obtain ⟨⟨next', reply, calls⟩, answered, rfl, rfl⟩ := Option.map_eq_some'.mp served
      obtain ⟨-, deviceIds, onDevice, validPaths⟩ := request_eq_some answered
      exact ⟨by rw [List.append_nil]; exact onDevice, validPaths,
        fun devId member => deviceIds devId (List.mem_singleton.mp member).symm,
        List.forall_mem_nil _⟩
  | driver msg delivered hal =>
      cases served
      exact ⟨List.forall_mem_nil _, fun _ _ _ member => (List.not_mem_nil _ member).elim,
        fun _ member => (List.not_mem_nil _ member).elim, self.notify_devIds msg delivered hal⟩
  | watcher wake =>
      obtain ⟨calls, watched, rfl, rfl⟩ := Option.map_eq_some'.mp served
      rw [watch_eq] at watched
      refine ⟨fun call member => ?_, fun _ _ _ member => (List.not_mem_nil _ member).elim,
        fun _ member => (List.not_mem_nil _ member).elim, List.forall_mem_nil _⟩
      split at watched
      · obtain ⟨device, found, rfl⟩ := Option.map_eq_some'.mp watched
        obtain ⟨command, -, rfl⟩ := List.mem_map.mp (by simpa using member)
        exact ⟨device, found, rfl⟩
      · cases watched
        simp at member

theorem BiometricsFingerprint.serve_keeps {event : ServiceEvent}
    (served : self.serve event = some (next, trace)) :
    next.mDevice = self.mDevice ∧ next.mFod = self.mFod := by
  cases event with
  | host request =>
      obtain ⟨_, answered, rfl, -⟩ := Option.map_eq_some'.mp served
      rw [(request_eq_some answered).1]
      cases request <;> exact ⟨rfl, rfl⟩
  | driver msg delivered hal =>
      cases served
      rw [(self.notify_boost msg delivered hal).1]
      exact ⟨rfl, rfl⟩
  | watcher wake =>
      obtain ⟨_, -, rfl, -⟩ := Option.map_eq_some'.mp served
      exact ⟨rfl, rfl⟩

theorem BiometricsFingerprint.serve_watcherCalls {event : ServiceEvent} {device : HwDevice}
    (found : self.mDevice = some device) (served : self.serve event = some (next, trace)) :
    trace.watcherCalls = if self.mFod then (fodWatcherLoop (watcherWakes [event])).map
      fun command => .extCmd device.handle command.cmd command.param else [] := by
  cases event with
  | host request =>
      obtain ⟨_, -, rfl, rfl⟩ := Option.map_eq_some'.mp served
      simp [watcherWakes, fodWatcherLoop]
  | driver msg delivered hal =>
      cases served
      simp [watcherWakes, fodWatcherLoop]
  | watcher wake =>
      obtain ⟨calls, watched, rfl, rfl⟩ := Option.map_eq_some'.mp served
      rw [watch_eq, found] at watched
      by_cases woken : 0 ≤ wake.poll
      · cases fod : self.mFod <;>
          simp_all [ServiceEvent.callsDriver, watcherWakes, fodWatcherLoop]
      · have silent : fodWatcherPass wake = [] := by simp [fodWatcherPass, Int.not_le.mp woken]
        cases fod : self.mFod <;>
          simp_all [ServiceEvent.callsDriver, watcherWakes, fodWatcherLoop]

theorem BiometricsFingerprint.request_agrees {other : BiometricsFingerprint}
    (device : self.mDevice = other.mDevice) (fod : self.mFod = other.mFod)
    (request : HostRequest) :
    (self.request request).map Prod.snd = (other.request request).map Prod.snd := by
  obtain ⟨cache, callback, device', fod'⟩ := self
  obtain ⟨cache', callback', _, _⟩ := other
  cases device
  cases fod
  cases request with
  | setActiveGroup gid storePath writable ret =>
      by_cases valid : ValidStorePath storePath writable
      · simp only [request, setActiveGroup_forwards valid]
        cases device' <;> rfl
      · simp only [request, setActiveGroup_rejects valid]
        rfl
  | _ => cases device' <;> rfl

theorem BiometricsFingerprint.serve_agrees {other : BiometricsFingerprint} {request : HostRequest}
    (device : self.mDevice = other.mDevice) (fod : self.mFod = other.mFod)
    (served : self.serve (.host request) = some (next, trace)) :
    ∃ otherNext, other.serve (.host request) = some (otherNext, trace) ∧
      next.mDevice = otherNext.mDevice ∧ next.mFod = otherNext.mFod := by
  obtain ⟨⟨_, reply, calls⟩, answered, rfl, rfl⟩ := Option.map_eq_some'.mp served
  obtain ⟨⟨otherNext, _, _⟩, otherAnswered, ⟨⟩⟩ := Option.map_eq_some'.mp
    ((self.request_agrees device fod request).symm.trans (by rw [answered]; rfl))
  have otherServed : other.serve (.host request) = some (otherNext, ⟨[reply], calls, [], [], []⟩) := by
    rw [serve, otherAnswered]; rfl
  obtain ⟨nextDevice, nextFod⟩ := serve_keeps served
  obtain ⟨otherDevice, otherFod⟩ := serve_keeps otherServed
  exact ⟨otherNext, otherServed, nextDevice.trans (device.trans otherDevice.symm),
    nextFod.trans (fod.trans otherFod.symm)⟩

theorem BiometricsFingerprint.serve_threads {event : ServiceEvent}
    (served : self.serve event = some (next, trace)) :
    (event.fromHost = false → trace.replies = [] ∧ trace.hostCalls = []) ∧
      (event.bridgeEvent = none → next = self ∧ trace.clientCalls = [] ∧ trace.powerCalls = []) := by
  cases event with
  | host request =>
      obtain ⟨⟨_, reply, calls⟩, answered, rfl, rfl⟩ := Option.map_eq_some'.mp served
      refine ⟨fun fromHost => Bool.noConfusion fromHost, fun bridged => ⟨?_, rfl, rfl⟩⟩
      rw [(request_eq_some answered).1]
      cases request <;> first | rfl | exact Option.noConfusion bridged
  | driver msg delivered hal =>
      cases served
      exact ⟨fun _ => ⟨rfl, rfl⟩, fun bridged => Option.noConfusion bridged⟩
  | watcher wake =>
      obtain ⟨calls, -, rfl, rfl⟩ := Option.map_eq_some'.mp served
      exact ⟨fun _ => ⟨rfl, rfl⟩, fun _ => ⟨rfl, rfl, rfl⟩⟩

end Step

theorem Trace.Sound.append {mDevice : Option HwDevice} {first second : Trace}
    (early : first.Sound mDevice) (late : second.Sound mDevice) :
    (first.append second).Sound mDevice := by
  refine ⟨fun call member => ?_, fun handle gid storePath member => ?_,
    fun devId member => ?_, fun call member => ?_⟩
  · simp only [Trace.append, List.mem_append] at member
    rcases member with (member | member) | (member | member)
    · exact early.onDevice call (List.mem_append_left _ member)
    · exact late.onDevice call (List.mem_append_left _ member)
    · exact early.onDevice call (List.mem_append_right _ member)
    · exact late.onDevice call (List.mem_append_right _ member)
  · rcases List.mem_append.mp member with member | member
    · exact early.validPaths handle gid storePath member
    · exact late.validPaths handle gid storePath member
  · exact (List.mem_append.mp member).elim (early.deviceIds devId) (late.deviceIds devId)
  · exact (List.mem_append.mp member).elim (early.clientIds call) (late.clientIds call)

theorem fodWatcherLoop_append (first second : List FodWake) :
    fodWatcherLoop (first ++ second) = fodWatcherLoop first ++ fodWatcherLoop second := by
  induction first with
  | nil => rfl
  | cons wake rest ih => simp [fodWatcherLoop, ih]

section Run

variable (self : BiometricsFingerprint) (events : List ServiceEvent)

theorem BiometricsFingerprint.serveAll_keeps :
    (self.serveAll events).self.mDevice = self.mDevice ∧
      (self.serveAll events).self.mFod = self.mFod := by
  induction events generalizing self with
  | nil => exact ⟨rfl, rfl⟩
  | cons event rest ih =>
      rcases served : self.serve event with _ | ⟨next, trace⟩
      · simp [serveAll, served]
      · obtain ⟨device, fod⟩ := serve_keeps served
        simpa [serveAll, served, device, fod] using ih next

theorem BiometricsFingerprint.serveAll_sound : (self.serveAll events).trace.Sound self.mDevice := by
  induction events generalizing self with
  | nil => exact Trace.sound_empty _
  | cons event rest ih =>
      rcases served : self.serve event with _ | ⟨next, trace⟩
      · rw [serveAll, served]
        exact Trace.sound_empty _
      · have later := ih next
        rw [(serve_keeps served).1] at later
        rw [serveAll, served]
        exact (serve_sound served).append later

theorem BiometricsFingerprint.serveAll_crashed :
    (self.serveAll events).crashed =
      (self.mDevice.isNone && events.any fun event => event.callsDriver self.mFod) := by
  induction events generalizing self with
  | nil => simp [serveAll]
  | cons event rest ih =>
      rcases served : self.serve event with _ | ⟨next, trace⟩
      · obtain ⟨inert, reaches⟩ := (serve_eq_none self event).mp served
        simp [serveAll, served, inert, reaches]
      · have alive := (serve_eq_none self event).not.mp (by simp [served])
        obtain ⟨device, fod⟩ := serve_keeps served
        rw [serveAll, served]
        simp only [ih next, device, fod, List.any_cons]
        cases inert : self.mDevice <;> simp_all

/-- With a device, the watcher's calls in any interleaving are its own loop over its own
wake-ups, sent through the device. -/
theorem BiometricsFingerprint.serveAll_watcherCalls {device : HwDevice}
    (found : self.mDevice = some device) :
    (self.serveAll events).trace.watcherCalls = if self.mFod then
      (fodWatcherLoop (watcherWakes events)).map
        fun command => .extCmd device.handle command.cmd command.param else [] := by
  induction events generalizing self with
  | nil => simp [serveAll, Trace.empty, watcherWakes, fodWatcherLoop]
  | cons event rest ih =>
      rcases served : self.serve event with _ | ⟨next, trace⟩
      · simp [(serve_eq_none self event).mp served |>.1] at found
      · obtain ⟨kept, fod⟩ := serve_keeps served
        have now := serve_watcherCalls found served
        have later := ih next (kept.trans found)
        rw [fod] at later
        have split : watcherWakes (event :: rest) = watcherWakes [event] ++ watcherWakes rest := by
          cases event <;> rfl
        rw [serveAll, served]
        simp only [Trace.append, now, later, split, fodWatcherLoop_append]
        split <;> simp

theorem watcher_wake_between_requests :
    let self : BiometricsFingerprint := ⟨BoostCache.init, none, some ⟨7, kVersion, 0⟩, true⟩
    self.mDevice = some ⟨7, kVersion, 0⟩ ∧
      (self.serveAll [.host (.cancel 0), .watcher ⟨1, 0, 1, 49⟩, .host (.isUdfps 0)]).trace.watcherCalls =
        [.extCmd 7 commandNit paramNitFod] :=
  have found : (some ⟨7, kVersion, 0⟩ : Option HwDevice) = some ⟨7, kVersion, 0⟩ := rfl
  ⟨found, (BiometricsFingerprint.serveAll_watcherCalls _ _ found).trans (by decide)⟩

/-- A run that did not die moves the fields and calls the power HAL exactly as `run` of
`Notify` does on the registrations and driver messages among its events. -/
theorem BiometricsFingerprint.serveAll_refines (survived : (self.serveAll events).crashed = false) :
    (self.serveAll events).self = (self.run (events.filterMap ServiceEvent.bridgeEvent)).1 ∧
      (self.serveAll events).trace.powerCalls =
        (self.run (events.filterMap ServiceEvent.bridgeEvent)).2 := by
  induction events generalizing self with
  | nil => exact ⟨rfl, rfl⟩
  | cons event rest ih =>
      rcases served : self.serve event with _ | ⟨next, trace⟩
      · simp [serveAll, served] at survived
      · simp only [serveAll, served] at survived ⊢
        obtain ⟨after, power⟩ := serve_refines served
        obtain ⟨final, calls⟩ := ih next survived
        rcases bridged : event.bridgeEvent with _ | bridgeEvent <;>
          simp only [bridged] at after power <;> subst after <;>
          simp [List.filterMap_cons, bridged, run, Trace.append, power, final, calls]


theorem inert_service_registers :
    let self := (BiometricsFingerprint.construct (fun _ => ⟨-2, none⟩) false).self
    let events : List ServiceEvent := [.host (.setNotify (some 1)), .host (.isUdfps 0)]
    (self.serveAll events).crashed = false ∧
      (self.serveAll events).self = (self.run (events.filterMap ServiceEvent.bridgeEvent)).1 ∧
      (self.serveAll events).trace.powerCalls =
        (self.run (events.filterMap ServiceEvent.bridgeEvent)).2 :=
  have survived : ((BiometricsFingerprint.construct (fun _ => ⟨-2, none⟩) false).self.serveAll
      [.host (.setNotify (some 1)), .host (.isUdfps 0)]).crashed = false := by decide
  ⟨survived, BiometricsFingerprint.serveAll_refines _ _ survived⟩

theorem BiometricsFingerprint.serveAll_hostOnly {other : BiometricsFingerprint}
    (device : self.mDevice = other.mDevice) (fod : self.mFod = other.mFod)
    (survived : (self.serveAll events).crashed = false) :
    (other.serveAll (events.filter ServiceEvent.fromHost)).crashed = false ∧
      (self.serveAll events).trace.replies =
        (other.serveAll (events.filter ServiceEvent.fromHost)).trace.replies ∧
      (self.serveAll events).trace.hostCalls =
        (other.serveAll (events.filter ServiceEvent.fromHost)).trace.hostCalls := by
  induction events generalizing self other with
  | nil => exact ⟨rfl, rfl, rfl⟩
  | cons event rest ih =>
      rcases served : self.serve event with _ | ⟨next, trace⟩
      · simp [serveAll, served] at survived
      rw [serveAll, served] at survived ⊢
      cases host : event.fromHost
      · obtain ⟨replies, hostCalls⟩ := (serve_threads served).1 host
        obtain ⟨nextDevice, nextFod⟩ := serve_keeps served
        rw [List.filter_cons_of_neg (by simp [host])]
        obtain ⟨alive, sameReplies, sameCalls⟩ :=
          @ih next other (nextDevice.trans device) (nextFod.trans fod) survived
        exact ⟨alive, by simp [Trace.append, replies, sameReplies],
          by simp [Trace.append, hostCalls, sameCalls]⟩
      · cases event with
        | driver | watcher => cases host
        | host request =>
            obtain ⟨otherNext, otherServed, nextDevice, nextFod⟩ := serve_agrees device fod served
            rw [List.filter_cons_of_pos rfl, serveAll, otherServed]
            obtain ⟨alive, sameReplies, sameCalls⟩ := @ih next otherNext nextDevice nextFod survived
            exact ⟨alive, by simp [Trace.append, sameReplies], by simp [Trace.append, sameCalls]⟩

theorem BiometricsFingerprint.serveAll_bridgeOnly
    (survived : (self.serveAll events).crashed = false) :
    (self.serveAll (events.filter fun event => event.bridgeEvent.isSome)).crashed = false ∧
      (self.serveAll (events.filter fun event => event.bridgeEvent.isSome)).self =
        (self.serveAll events).self ∧
      (self.serveAll (events.filter fun event => event.bridgeEvent.isSome)).trace.clientCalls =
        (self.serveAll events).trace.clientCalls ∧
      (self.serveAll (events.filter fun event => event.bridgeEvent.isSome)).trace.powerCalls =
        (self.serveAll events).trace.powerCalls := by
  induction events generalizing self with
  | nil => exact ⟨rfl, rfl, rfl, rfl⟩
  | cons event rest ih =>
      rcases served : self.serve event with _ | ⟨next, trace⟩
      · simp [serveAll, served] at survived
      rw [serveAll, served] at survived ⊢
      obtain ⟨alive, final, clients, power⟩ := ih next survived
      rcases bridged : event.bridgeEvent with _ | bridgeEvent
      · obtain ⟨rfl, noClients, noPower⟩ := (serve_threads served).2 bridged
        rw [List.filter_cons_of_neg (by simp [bridged])]
        exact ⟨alive, final, by simp [Trace.append, noClients, clients],
          by simp [Trace.append, noPower, power]⟩
      · rw [List.filter_cons_of_pos (by simp [bridged]), serveAll, served]
        exact ⟨alive, final, by simp [Trace.append, clients], by simp [Trace.append, power]⟩

end Run

theorem openedDevices_of_requests {calls : List DriverCall} {mDevice : Option HwDevice}
    (onDevice : ∀ call ∈ calls,
      ∃ device, mDevice = some device ∧ call.requestHandle = some device.handle) :
    openedDevices calls = [] ∧ closedDevices calls = [] := by
  constructor <;> refine List.filterMap_eq_nil_iff.mpr fun call member => ?_ <;>
    obtain ⟨_, -, handled⟩ := onDevice call member <;> cases call <;> first | rfl | cases handled

theorem BiometricsFingerprint.destroy_opens_nothing (self : BiometricsFingerprint) (err : Int) :
    openedDevices (self.destroy err).2 = [] := by
  rcases device : self.mDevice with _ | device <;>
    by_cases failed : err = 0 <;> simp [destroy, device, failed, openedDevices]

/-- In every interleaving of host requests, driver messages and watcher wake-ups, the service
keeps `mDevice` and `mFod`; every driver call of a request or of the watcher is made on
`mDevice`, and none opens, registers or closes a device; the driver receives only store paths
of 1 to `PATH_MAX - 1` bytes; and every device id that `setNotify` returns or the client
receives is the handle of `mDevice`, 0 for null. -/
theorem BiometricsFingerprint.serve_single_device (self : BiometricsFingerprint)
    (events : List ServiceEvent) :
    let served := self.serveAll events
    served.self.mDevice = self.mDevice ∧ served.self.mFod = self.mFod ∧
      (∀ call ∈ served.trace.hostCalls ++ served.trace.watcherCalls,
        ∃ device, self.mDevice = some device ∧ call.requestHandle = some device.handle) ∧
      (∀ handle gid storePath, .setActiveGroup handle gid storePath ∈ served.trace.hostCalls →
        0 < storePath.utf8ByteSize ∧ storePath.utf8ByteSize < pathMax) ∧
      (∀ devId, .deviceId devId ∈ served.trace.replies →
        devId = (self.mDevice.map HwDevice.handle).getD 0) ∧
      (∀ call ∈ served.trace.clientCalls, call.devId = (self.mDevice.map HwDevice.handle).getD 0) :=
  have sound := self.serveAll_sound events
  ⟨(self.serveAll_keeps events).1, (self.serveAll_keeps events).2, sound.onDevice,
    sound.validPaths, sound.deviceIds, sound.clientIds⟩

/-- A service without a device dies at the first event that reaches the driver: a request that
calls it, `setActiveGroup` on a path it accepts, or a pass of a running watcher that `poll`
woke; before that it makes no driver call. A service with a device never dies. -/
theorem BiometricsFingerprint.serve_crashes_on_null (self : BiometricsFingerprint)
    (events : List ServiceEvent) :
    (self.serveAll events).crashed =
        (self.mDevice.isNone && events.any fun event => event.callsDriver self.mFod) ∧
      (self.mDevice = none → (self.serveAll events).trace.hostCalls = [] ∧
        (self.serveAll events).trace.watcherCalls = []) := by
  refine ⟨self.serveAll_crashed events, fun inert => ?_⟩
  have onDevice := (self.serveAll_sound events).onDevice
  simp only [inert, reduceCtorEq, false_and, exists_false, List.mem_append] at onDevice
  exact ⟨List.eq_nil_iff_forall_not_mem.mpr fun call member => onDevice call (.inl member),
    List.eq_nil_iff_forall_not_mem.mpr fun call member => onDevice call (.inr member)⟩

/-- The threads do not interfere. In a run that did not die, the host gets the replies, and the
driver the request calls, of the host's requests run alone, which do not die either; and the
fields at the end, the callbacks of the client and the calls on the power HAL are those of the
registrations and driver messages run alone. Driver messages and watcher passes are invisible to
the host; requests other than `setNotify` and watcher passes are invisible to the client and to
the power HAL. -/
theorem BiometricsFingerprint.serve_threads_independent (self : BiometricsFingerprint)
    (events : List ServiceEvent) (survived : (self.serveAll events).crashed = false) :
    let served := self.serveAll events
    let hostOnly := self.serveAll (events.filter ServiceEvent.fromHost)
    let bridgeOnly := self.serveAll (events.filter fun event => event.bridgeEvent.isSome)
    hostOnly.crashed = false ∧ served.trace.replies = hostOnly.trace.replies ∧
      served.trace.hostCalls = hostOnly.trace.hostCalls ∧
      bridgeOnly.crashed = false ∧ served.self = bridgeOnly.self ∧
      served.trace.clientCalls = bridgeOnly.trace.clientCalls ∧
      served.trace.powerCalls = bridgeOnly.trace.powerCalls :=
  have host := self.serveAll_hostOnly events rfl rfl survived
  have bridge := self.serveAll_bridgeOnly events survived
  ⟨host.1, host.2.1, host.2.2, bridge.1, bridge.2.1.symm, bridge.2.2.1.symm, bridge.2.2.2.symm⟩

theorem registered_client_ignores_watcher :
    let self : BiometricsFingerprint := ⟨BoostCache.init, none, some ⟨7, kVersion, 0⟩, true⟩
    let events : List ServiceEvent := [.host (.setNotify (some 1)), .watcher ⟨1, 0, 1, 49⟩,
      .driver (.acquired 0) true ⟨none, ⟨0⟩, false, ⟨0⟩⟩, .host (.cancel 0)]
    (self.serveAll events).crashed = false ∧
      let served := self.serveAll events
      let hostOnly := self.serveAll (events.filter ServiceEvent.fromHost)
      let bridgeOnly := self.serveAll (events.filter fun event => event.bridgeEvent.isSome)
      hostOnly.crashed = false ∧ served.trace.replies = hostOnly.trace.replies ∧
        served.trace.hostCalls = hostOnly.trace.hostCalls ∧
        bridgeOnly.crashed = false ∧ served.self = bridgeOnly.self ∧
        served.trace.clientCalls = bridgeOnly.trace.clientCalls ∧
        served.trace.powerCalls = bridgeOnly.trace.powerCalls :=
  have survived : (BiometricsFingerprint.serveAll ⟨BoostCache.init, none, some ⟨7, kVersion, 0⟩, true⟩
      [.host (.setNotify (some 1)), .watcher ⟨1, 0, 1, 49⟩,
        .driver (.acquired 0) true ⟨none, ⟨0⟩, false, ⟨0⟩⟩, .host (.cancel 0)]).crashed = false := by
    decide
  ⟨survived, BiometricsFingerprint.serve_threads_independent _ _ survived⟩

/-- The bridge never floods the power HAL: in any interleaving of the three threads, it gets at
most one lookup, one query and one `setBoost`, in that order, for each message that boosts, and
no call for any other event. -/
theorem BiometricsFingerprint.serveAll_power_calls (self : BiometricsFingerprint)
    (events : List ServiceEvent) :
    List.Sublist (self.serveAll events).trace.powerCalls
      ((boostedHals self.mClientCallback (events.filterMap ServiceEvent.bridgeEvent)).flatMap
        fun _ => [.getService, .isBoostSupported kBoostHint, .setBoost kBoostHint kBoostDurationMs]) := by
  induction events generalizing self with
  | nil => exact List.nil_sublist _
  | cons event rest ih =>
      rcases served : self.serve event with _ | ⟨next, trace⟩
      · rw [serveAll, served]
        exact List.nil_sublist _
      rw [serveAll, served]
      have later := ih next
      rcases bridged : event.bridgeEvent with _ | bridgeEvent
      · obtain ⟨rfl, -, noPower⟩ := (serve_threads served).2 bridged
        rw [List.filterMap_cons_none bridged]
        simpa [Trace.append, noPower] using later
      · rw [List.filterMap_cons_some bridged]
        cases event with
        | host request =>
            cases request <;> cases bridged
            cases served
            exact later
        | driver msg delivered hal =>
            cases bridged
            cases served
            have kept : (self.notify msg delivered hal).self.mClientCallback =
                self.mClientCallback := by
              rw [(self.notify_boost msg delivered hal).1]
            rw [kept] at later
            have budget : ((if msg.boosts self.mClientCallback delivered then [hal] else []).flatMap
                fun _ => [PowerCall.getService, .isBoostSupported kBoostHint,
                  .setBoost kBoostHint kBoostDurationMs]) =
                if msg.boosts self.mClientCallback delivered then
                  [.getService, .isBoostSupported kBoostHint, .setBoost kBoostHint kBoostDurationMs]
                else [] := by
              split <;> rfl
            rw [boostedHals, List.flatMap_append, budget]
            exact (self.notify_power_calls msg delivered hal).append later
        | watcher wake => cases bridged

/-- Over the life of the bridge, from the constructor through any run of the service to the
destructor, which a run that died never reaches, the devices opened and never closed are
exactly those handed out to the entries of `kModules` before the one the constructor kept,
each rejected by `openHal`; `mDevice` is closed once, by the destructor. -/
theorem BiometricsFingerprint.lifecycle_leaks_rejected (registry : String → ModuleLookup)
    (mFod : Bool) (events : List ServiceEvent) (err : Int) :
    let built := BiometricsFingerprint.construct registry mFod
    let served := built.self.serveAll events
    let life := built.driverCalls ++ served.trace.hostCalls ++ served.trace.watcherCalls ++
      (if served.crashed then [] else (served.self.destroy err).2)
    closedDevices life = (built.self.mDevice.map HwDevice.handle).toList ∧
      openedDevices life =
        (leakedDevices registry kModules ++ built.self.mDevice.toList).map HwDevice.handle ∧
      ∀ device ∈ leakedDevices registry kModules, device.accepted = false := by
  intro built served life
  obtain ⟨-, constructed, opened⟩ := BiometricsFingerprint.construct_devices registry mFod
  have onDevice := (built.self.serveAll_sound events).onDevice
  obtain ⟨hostOpened, hostClosed⟩ := openedDevices_of_requests fun call member =>
    onDevice call (List.mem_append_left _ member)
  obtain ⟨watcherOpened, watcherClosed⟩ := openedDevices_of_requests fun call member =>
    onDevice call (List.mem_append_right _ member)
  have kept := (built.self.serveAll_keeps events).1
  have ending : closedDevices (if served.crashed then [] else (served.self.destroy err).2) =
      (built.self.mDevice.map HwDevice.handle).toList ∧
      openedDevices (if served.crashed then [] else (served.self.destroy err).2) = [] := by
    cases died : served.crashed
    · simp only [if_false, Bool.false_eq_true]
      rw [destroy_closes, destroy_opens_nothing, kept]
      exact ⟨rfl, rfl⟩
    · obtain ⟨inert, -⟩ : built.self.mDevice = none ∧ _ := by
        simpa using died.symm.trans (built.self.serveAll_crashed events)
      simp [inert, closedDevices, openedDevices]
  refine ⟨?_, ?_, leakedDevices_refused registry kModules⟩
  · simp only [life, closedDevices_append, constructed, hostClosed, watcherClosed, ending.1,
      List.nil_append]
  · simp only [life, openedDevices_append, hostOpened, watcherOpened, ending.2, List.append_nil]
    exact opened

end Raphael.Fingerprint
