import Mathlib.Data.List.Basic

namespace Raphael.Fingerprint

/-! # Authentication boost hint

After a successful match the bridge asks the power HAL extension for the `LAUNCH` boost.
It connects lazily, asks once whether the boost is supported and caches the answer in two
flags. The power HAL is outside the process: everything it answers during one call of
`sendAuthenticatedBoostHint` is an argument (`PowerHal`), and every function returns the
calls it made on the HAL next to its return value and the fields after it.
-/

def noError : Int := 0
def einval : Int := 22
def eopnotsupp : Int := 95
def enotconn : Int := 107

def exNone : Int := 0
def exTransactionFailed : Int := -129

structure ScopedAStatus where
  exceptionCode : Int
deriving DecidableEq, Repr

def ScopedAStatus.isOk (status : ScopedAStatus) : Bool :=
  status.exceptionCode == exNone

def kBoostHint : String := "LAUNCH"
def kBoostDurationMs : Int := 2000

/-- What the power HAL answers during one `sendAuthenticatedBoostHint`: the extension a
fresh lookup yields (`none` for nullptr), the status of `isBoostSupported` and the value it
stores in `isSupported`, and the status of `setBoost`. One call asks each at most once. -/
structure PowerHal where
  getExtension : Option Nat
  isBoostSupported : ScopedAStatus
  isSupported : Bool
  setBoost : ScopedAStatus
deriving DecidableEq, Repr

inductive PowerCall where
  | getService
  | isBoostSupported (boost : String)
  | setBoost (boost : String) (durationMs : Int)
deriving DecidableEq, Repr

structure BoostCache where
  mBoostHintIsSupported : Bool
  mBoostHintSupportIsChecked : Bool
  mPowerHalExtAidl : Option Nat
deriving DecidableEq, Repr

/-- The values the constructor's initializer list gives them. -/
def BoostCache.init : BoostCache :=
  { mBoostHintIsSupported := false, mBoostHintSupportIsChecked := false, mPowerHalExtAidl := none }

def BoostCache.capability (self : BoostCache) : Bool × Bool :=
  (self.mBoostHintIsSupported, self.mBoostHintSupportIsChecked)

structure Call (α : Type) where
  ret : α
  after : BoostCache
  calls : List PowerCall

structure ExtCall where
  ret : Int
  ext : Option Nat
  calls : List PowerCall

/-- The cache never reports a supported boost it has not checked. -/
def BoostCache.Consistent (self : BoostCache) : Prop :=
  self.mBoostHintIsSupported = true → self.mBoostHintSupportIsChecked = true

instance (self : BoostCache) : Decidable self.Consistent :=
  inferInstanceAs (Decidable (_ → _))

def connectPowerHalExt (hal : PowerHal) (mPowerHalExtAidl : Option Nat) : ExtCall :=
  match mPowerHalExtAidl with
  | some ext => ⟨noError, some ext, []⟩
  | none =>
      match hal.getExtension with
      | none => ⟨-einval, none, [.getService]⟩
      | some ext => ⟨noError, some ext, [.getService]⟩

/-- The body `checkPowerHalExtBoostSupport` and `sendPowerHalExtBoost` share: connect, make
one call on the extension, and after a binder transaction failure drop the extension so that
the next call connects again. -/
def callPowerHalExt (hal : PowerHal) (boost : String) (call : PowerCall)
    (status : ScopedAStatus) (mPowerHalExtAidl : Option Nat) : ExtCall :=
  if boost.isEmpty then ⟨-einval, mPowerHalExtAidl, []⟩
  else
    let connected := connectPowerHalExt hal mPowerHalExtAidl
    if connected.ret ≠ noError then ⟨-einval, connected.ext, connected.calls⟩
    else if !status.isOk then
      if status.exceptionCode = exTransactionFailed then
        ⟨-enotconn, none, connected.calls ++ [call]⟩
      else ⟨-einval, connected.ext, connected.calls ++ [call]⟩
    else ⟨noError, connected.ext, connected.calls ++ [call]⟩

/-- `checkPowerHalExtBoostSupport` has the one branch `sendPowerHalExtBoost` lacks: a
successful answer of `false` is `-EOPNOTSUPP`. -/
def checkPowerHalExtBoostSupport (hal : PowerHal) (boost : String)
    (mPowerHalExtAidl : Option Nat) : ExtCall :=
  let checked := callPowerHalExt hal boost (.isBoostSupported boost) hal.isBoostSupported
    mPowerHalExtAidl
  if checked.ret = noError ∧ !hal.isSupported then ⟨-eopnotsupp, checked.ext, checked.calls⟩
  else checked

def sendPowerHalExtBoost (hal : PowerHal) (boost : String) (durationMs : Int)
    (mPowerHalExtAidl : Option Nat) : ExtCall :=
  callPowerHalExt hal boost (.setBoost boost durationMs) hal.setBoost mPowerHalExtAidl

def isBoostHintSupported (hal : PowerHal) (self : BoostCache) : Call Int :=
  if self.mBoostHintSupportIsChecked then
    ⟨if self.mBoostHintIsSupported then noError else -eopnotsupp, self, []⟩
  else
    let checked := checkPowerHalExtBoostSupport hal kBoostHint self.mPowerHalExtAidl
    let self := { self with mPowerHalExtAidl := checked.ext }
    if checked.ret = noError then
      ⟨checked.ret,
        { self with mBoostHintIsSupported := true, mBoostHintSupportIsChecked := true },
        checked.calls⟩
    else if checked.ret = -eopnotsupp then
      ⟨checked.ret, { self with mBoostHintSupportIsChecked := true }, checked.calls⟩
    else ⟨checked.ret, self, checked.calls⟩

def sendAuthenticatedBoostHint (hal : PowerHal) (self : BoostCache) : Call Int :=
  let supported := isBoostHintSupported hal self
  if supported.ret ≠ noError then supported
  else
    let sent := sendPowerHalExtBoost hal kBoostHint kBoostDurationMs
      supported.after.mPowerHalExtAidl
    ⟨sent.ret, { supported.after with mPowerHalExtAidl := sent.ext },
      supported.calls ++ sent.calls⟩

section Lemmas

variable {hal : PowerHal} {ext : Option Nat} {boost : String} {call : PowerCall}
  {status : ScopedAStatus} {self : BoostCache}

theorem kBoostHint_isEmpty : kBoostHint.isEmpty = false := by decide

@[simp] theorem einval_ne_noError : -einval ≠ noError := by decide
@[simp] theorem enotconn_ne_noError : -enotconn ≠ noError := by decide
@[simp] theorem eopnotsupp_ne_noError : -eopnotsupp ≠ noError := by decide
@[simp] theorem neg_einval_ne_neg_eopnotsupp : -einval ≠ -eopnotsupp := by decide
@[simp] theorem neg_enotconn_ne_neg_eopnotsupp : -enotconn ≠ -eopnotsupp := by decide
@[simp] theorem einval_ne_eopnotsupp : einval ≠ eopnotsupp := by decide
@[simp] theorem enotconn_ne_eopnotsupp : enotconn ≠ eopnotsupp := by decide

theorem connectPowerHalExt_calls :
    (connectPowerHalExt hal ext).calls = if ext.isSome then [] else [.getService] := by
  rcases ext with _ | ext <;> rcases found : hal.getExtension with _ | ext' <;>
    simp [connectPowerHalExt, found]

theorem callPowerHalExt_cases (hal : PowerHal) (boost : String) (call : PowerCall)
    (status : ScopedAStatus) (ext : Option Nat) :
    (boost.isEmpty = true ∧ callPowerHalExt hal boost call status ext = ⟨-einval, ext, []⟩) ∨
    (callPowerHalExt hal boost call status ext =
      ⟨-einval, (connectPowerHalExt hal ext).ext, (connectPowerHalExt hal ext).calls⟩) ∨
    (status.isOk = true ∧ callPowerHalExt hal boost call status ext =
      ⟨noError, (connectPowerHalExt hal ext).ext, (connectPowerHalExt hal ext).calls ++ [call]⟩) ∨
    (status.exceptionCode = exTransactionFailed ∧ callPowerHalExt hal boost call status ext =
      ⟨-enotconn, none, (connectPowerHalExt hal ext).calls ++ [call]⟩) ∨
    (status.isOk = false ∧ status.exceptionCode ≠ exTransactionFailed ∧
      callPowerHalExt hal boost call status ext =
        ⟨-einval, (connectPowerHalExt hal ext).ext, (connectPowerHalExt hal ext).calls ++ [call]⟩) := by
  unfold callPowerHalExt
  by_cases empty : boost.isEmpty = true
  · simp [empty]
  by_cases connected : (connectPowerHalExt hal ext).ret = noError
  · by_cases ok : status.isOk = true
    · simp [empty, connected, ok]
    · by_cases failed : status.exceptionCode = exTransactionFailed <;>
        simp [empty, connected, ok, failed]
  · simp [empty, connected]

theorem callPowerHalExt_calls :
    ∀ made ∈ (callPowerHalExt hal boost call status ext).calls,
      made = .getService ∨ made = call := by
  rcases callPowerHalExt_cases hal boost call status ext
    with ⟨-, ended⟩ | ended | ⟨-, ended⟩ | ⟨-, ended⟩ | ⟨-, -, ended⟩ <;>
    cases ext <;> simp [ended, connectPowerHalExt_calls]

theorem callPowerHalExt_ret :
    (callPowerHalExt hal boost call status ext).ret = noError ∨
      (callPowerHalExt hal boost call status ext).ret = -einval ∨
      (callPowerHalExt hal boost call status ext).ret = -enotconn := by
  rcases callPowerHalExt_cases hal boost call status ext
    with ⟨-, ended⟩ | ended | ⟨-, ended⟩ | ⟨-, ended⟩ | ⟨-, -, ended⟩ <;> simp [ended]

theorem callPowerHalExt_noError
    (succeeded : (callPowerHalExt hal boost call status ext).ret = noError) :
    call ∈ (callPowerHalExt hal boost call status ext).calls ∧ status.isOk = true := by
  rcases callPowerHalExt_cases hal boost call status ext
    with ⟨-, ended⟩ | ended | ⟨ok, ended⟩ | ⟨-, ended⟩ | ⟨-, -, ended⟩ <;>
    simp_all [noError, einval, enotconn]

theorem callPowerHalExt_transactionFailed (real : call ≠ .getService)
    (made : call ∈ (callPowerHalExt hal boost call status ext).calls)
    (failed : status.exceptionCode = exTransactionFailed) :
    (callPowerHalExt hal boost call status ext).ret = -enotconn ∧
      (callPowerHalExt hal boost call status ext).ext = none := by
  rcases callPowerHalExt_cases hal boost call status ext
    with ⟨-, ended⟩ | ended | ⟨ok, ended⟩ | ⟨-, ended⟩ | ⟨-, other, ended⟩ <;>
    rw [ended] at made ⊢
  · simp at made
  · cases ext <;> simp_all [connectPowerHalExt_calls]
  · simp [ScopedAStatus.isOk, failed, exNone, exTransactionFailed] at ok
  · exact ⟨rfl, rfl⟩
  · exact absurd failed other

theorem callPowerHalExt_reconnects (nonempty : boost.isEmpty = false)
    (disconnected : ext = none) :
    (callPowerHalExt hal boost call status ext).calls.head? = some .getService := by
  subst disconnected
  rcases callPowerHalExt_cases hal boost call status none
    with ⟨empty, -⟩ | ended | ⟨-, ended⟩ | ⟨-, ended⟩ | ⟨-, -, ended⟩
  · simp [nonempty] at empty
  all_goals simp [ended, connectPowerHalExt_calls]

theorem callPowerHalExt_sublist :
    List.Sublist (callPowerHalExt hal boost call status ext).calls
      ((if ext.isSome then [] else [.getService]) ++ [call]) := by
  rcases callPowerHalExt_cases hal boost call status ext
    with ⟨-, ended⟩ | ended | ⟨-, ended⟩ | ⟨-, ended⟩ | ⟨-, -, ended⟩ <;>
    rw [ended] <;> simp only [connectPowerHalExt_calls]
  · exact List.nil_sublist _
  · exact List.sublist_append_left _ _
  all_goals exact List.Sublist.refl _

theorem connectPowerHalExt_connected
    (connected : (connectPowerHalExt hal ext).ret = noError) :
    (connectPowerHalExt hal ext).ext.isSome := by
  rcases ext with _ | ext
  · rcases found : hal.getExtension with _ | ext <;> simp_all [connectPowerHalExt]
  · rfl

theorem callPowerHalExt_connected
    (succeeded : (callPowerHalExt hal boost call status ext).ret = noError) :
    (callPowerHalExt hal boost call status ext).ext.isSome := by
  unfold callPowerHalExt at succeeded ⊢
  by_cases empty : boost.isEmpty = true
  · simp [empty] at succeeded
  by_cases connected : (connectPowerHalExt hal ext).ret = noError
  · by_cases ok : status.isOk = true
    · simpa [empty, connected, ok] using connectPowerHalExt_connected connected
    · by_cases failed : status.exceptionCode = exTransactionFailed <;>
        simp [empty, connected, ok, failed] at succeeded
  · simp [empty, connected] at succeeded

theorem checkPowerHalExtBoostSupport_cases (hal : PowerHal) (boost : String)
    (ext : Option Nat) :
    checkPowerHalExtBoostSupport hal boost ext =
        callPowerHalExt hal boost (.isBoostSupported boost) hal.isBoostSupported ext ∨
      ((callPowerHalExt hal boost (.isBoostSupported boost) hal.isBoostSupported ext).ret =
          noError ∧
        checkPowerHalExtBoostSupport hal boost ext =
          ⟨-eopnotsupp,
            (callPowerHalExt hal boost (.isBoostSupported boost) hal.isBoostSupported ext).ext,
            (callPowerHalExt hal boost (.isBoostSupported boost) hal.isBoostSupported ext).calls⟩) := by
  by_cases unsupported :
      (callPowerHalExt hal boost (.isBoostSupported boost) hal.isBoostSupported ext).ret =
        noError ∧ (!hal.isSupported) = true
  · exact .inr ⟨unsupported.1, by simp only [checkPowerHalExtBoostSupport, if_pos unsupported]⟩
  · exact .inl (by simp only [checkPowerHalExtBoostSupport, if_neg unsupported])

theorem checkPowerHalExtBoostSupport_calls :
    ∀ made ∈ (checkPowerHalExtBoostSupport hal boost ext).calls,
      made = .getService ∨ made = .isBoostSupported boost := by
  rcases checkPowerHalExtBoostSupport_cases hal boost ext with ended | ⟨-, ended⟩ <;>
    rw [ended] <;> exact callPowerHalExt_calls

theorem checkPowerHalExtBoostSupport_answered
    (answered : (checkPowerHalExtBoostSupport hal boost ext).ret = noError ∨
      (checkPowerHalExtBoostSupport hal boost ext).ret = -eopnotsupp) :
    .isBoostSupported boost ∈ (checkPowerHalExtBoostSupport hal boost ext).calls ∧
      hal.isBoostSupported.isOk = true := by
  rcases checkPowerHalExtBoostSupport_cases hal boost ext with ended | ⟨succeeded, ended⟩ <;>
    rw [ended] at answered ⊢
  · apply callPowerHalExt_noError
    rcases @callPowerHalExt_ret hal ext boost (.isBoostSupported boost) hal.isBoostSupported
      with ret | ret | ret <;>
      simp_all [noError, einval, enotconn, eopnotsupp]
  · exact callPowerHalExt_noError succeeded

theorem checkPowerHalExtBoostSupport_transactionFailed
    (made : .isBoostSupported boost ∈ (checkPowerHalExtBoostSupport hal boost ext).calls)
    (failed : hal.isBoostSupported.exceptionCode = exTransactionFailed) :
    (checkPowerHalExtBoostSupport hal boost ext).ret = -enotconn ∧
      (checkPowerHalExtBoostSupport hal boost ext).ext = none := by
  rcases checkPowerHalExtBoostSupport_cases hal boost ext with ended | ⟨succeeded, ended⟩ <;>
    rw [ended] at made ⊢ <;>
    have dropped := callPowerHalExt_transactionFailed (by simp) made failed
  · exact dropped
  · simp [dropped.1, noError, enotconn] at succeeded

theorem checkPowerHalExtBoostSupport_reconnects (nonempty : boost.isEmpty = false)
    (disconnected : ext = none) :
    (checkPowerHalExtBoostSupport hal boost ext).calls.head? = some .getService := by
  rcases checkPowerHalExtBoostSupport_cases hal boost ext with ended | ⟨-, ended⟩ <;>
    rw [ended] <;> exact callPowerHalExt_reconnects nonempty disconnected

theorem isBoostHintSupported_cases (hal : PowerHal) (self : BoostCache) :
    (self.mBoostHintSupportIsChecked = true ∧ isBoostHintSupported hal self =
      ⟨if self.mBoostHintIsSupported then noError else -eopnotsupp, self, []⟩) ∨
    (self.mBoostHintSupportIsChecked = false ∧ ∃ checked,
      checked = checkPowerHalExtBoostSupport hal kBoostHint self.mPowerHalExtAidl ∧
      ((checked.ret = noError ∧
          isBoostHintSupported hal self = ⟨noError, ⟨true, true, checked.ext⟩, checked.calls⟩) ∨
        (checked.ret = -eopnotsupp ∧ isBoostHintSupported hal self =
          ⟨-eopnotsupp, ⟨self.mBoostHintIsSupported, true, checked.ext⟩, checked.calls⟩) ∨
        (checked.ret ≠ noError ∧ checked.ret ≠ -eopnotsupp ∧ isBoostHintSupported hal self =
          ⟨checked.ret, { self with mPowerHalExtAidl := checked.ext }, checked.calls⟩))) := by
  by_cases cached : self.mBoostHintSupportIsChecked = true
  · simp [isBoostHintSupported, cached]
  refine .inr ⟨by simpa using cached, _, rfl, ?_⟩
  by_cases supported : (checkPowerHalExtBoostSupport hal kBoostHint self.mPowerHalExtAidl).ret =
      noError
  · simp [isBoostHintSupported, cached, supported]
  by_cases unsupported :
      (checkPowerHalExtBoostSupport hal kBoostHint self.mPowerHalExtAidl).ret = -eopnotsupp
  · simp [isBoostHintSupported, cached, supported, unsupported]
  · simp [isBoostHintSupported, cached, supported, unsupported]

theorem isBoostHintSupported_of_checked (cached : self.mBoostHintSupportIsChecked = true) :
    isBoostHintSupported hal self =
      ⟨if self.mBoostHintIsSupported then noError else -eopnotsupp, self, []⟩ := by
  simp [isBoostHintSupported, cached]

theorem isBoostHintSupported_noError (succeeded : (isBoostHintSupported hal self).ret = noError) :
    (isBoostHintSupported hal self).after.mBoostHintIsSupported = true ∧
      (isBoostHintSupported hal self).after.mBoostHintSupportIsChecked = true := by
  rcases isBoostHintSupported_cases hal self with ⟨cached, ended⟩ |
    ⟨-, checked, -, ⟨-, ended⟩ | ⟨-, ended⟩ | ⟨unsupported, -, ended⟩⟩ <;>
    simp only [ended] at succeeded ⊢
  · cases supported : self.mBoostHintIsSupported <;> simp_all
  · simp
  · simp at succeeded
  · exact absurd succeeded unsupported

theorem isBoostHintSupported_consistent (consistent : self.Consistent) :
    (isBoostHintSupported hal self).after.Consistent := by
  rcases isBoostHintSupported_cases hal self with ⟨-, ended⟩ |
    ⟨-, checked, -, ⟨-, ended⟩ | ⟨-, ended⟩ | ⟨-, -, ended⟩⟩ <;>
    rw [ended] <;> first | exact consistent | simp [BoostCache.Consistent]

theorem isBoostHintSupported_calls :
    ∀ made ∈ (isBoostHintSupported hal self).calls,
      made = .getService ∨ made = .isBoostSupported kBoostHint := by
  rcases isBoostHintSupported_cases hal self with ⟨-, ended⟩ |
    ⟨-, checked, defined, ⟨-, ended⟩ | ⟨-, ended⟩ | ⟨-, -, ended⟩⟩ <;>
    simp only [ended, List.not_mem_nil, false_implies, implies_true]
  all_goals rw [defined]; exact checkPowerHalExtBoostSupport_calls

theorem isBoostHintSupported_caches (unchecked : self.mBoostHintSupportIsChecked = false)
    (cached : (isBoostHintSupported hal self).after.mBoostHintSupportIsChecked = true) :
    .isBoostSupported kBoostHint ∈ (isBoostHintSupported hal self).calls ∧
      hal.isBoostSupported.isOk = true := by
  rcases isBoostHintSupported_cases hal self with ⟨checked, -⟩ |
    ⟨-, checked, defined, ⟨answer, ended⟩ | ⟨answer, ended⟩ | ⟨-, -, ended⟩⟩
  · simp [unchecked] at checked
  all_goals simp only [ended] at cached ⊢; subst defined
  · exact checkPowerHalExtBoostSupport_answered (.inl answer)
  · exact checkPowerHalExtBoostSupport_answered (.inr answer)
  · simp [unchecked] at cached

theorem isBoostHintSupported_failed (unsupported : (isBoostHintSupported hal self).ret ≠ noError)
    (unanswered : (isBoostHintSupported hal self).ret ≠ -eopnotsupp) :
    (isBoostHintSupported hal self).after.capability = self.capability := by
  rcases isBoostHintSupported_cases hal self with ⟨-, ended⟩ |
    ⟨-, checked, -, ⟨-, ended⟩ | ⟨-, ended⟩ | ⟨-, -, ended⟩⟩ <;>
    simp_all [BoostCache.capability]

theorem isBoostHintSupported_transactionFailed
    (made : .isBoostSupported kBoostHint ∈ (isBoostHintSupported hal self).calls)
    (failed : hal.isBoostSupported.exceptionCode = exTransactionFailed) :
    (isBoostHintSupported hal self).ret = -enotconn ∧
      (isBoostHintSupported hal self).after.mPowerHalExtAidl = none ∧
      (isBoostHintSupported hal self).after.capability = self.capability := by
  rcases isBoostHintSupported_cases hal self with ⟨-, ended⟩ |
    ⟨-, checked, defined, ⟨answer, ended⟩ | ⟨answer, ended⟩ | ⟨-, -, ended⟩⟩ <;>
    simp only [ended] at made ⊢
  · simp at made
  all_goals subst defined
  all_goals have dropped := checkPowerHalExtBoostSupport_transactionFailed made failed
  · simp [dropped.1] at answer
  · simp [dropped.1] at answer
  · exact ⟨dropped.1, dropped.2, rfl⟩

theorem isBoostHintSupported_reconnects (unchecked : self.mBoostHintSupportIsChecked = false)
    (disconnected : self.mPowerHalExtAidl = none) :
    (isBoostHintSupported hal self).calls.head? = some .getService := by
  rcases isBoostHintSupported_cases hal self with ⟨checked, -⟩ |
    ⟨-, checked, defined, ⟨-, ended⟩ | ⟨-, ended⟩ | ⟨-, -, ended⟩⟩
  · simp [unchecked] at checked
  all_goals
    rw [ended, defined]
    exact checkPowerHalExtBoostSupport_reconnects kBoostHint_isEmpty disconnected

theorem checkPowerHalExtBoostSupport_sublist :
    List.Sublist (checkPowerHalExtBoostSupport hal boost ext).calls
      [.getService, .isBoostSupported boost] := by
  have asked : List.Sublist
      (callPowerHalExt hal boost (.isBoostSupported boost) hal.isBoostSupported ext).calls
      [.getService, .isBoostSupported boost] := by
    refine callPowerHalExt_sublist.trans ?_
    split
    · exact (List.Sublist.refl _).cons _
    · exact List.Sublist.refl _
  rcases checkPowerHalExtBoostSupport_cases hal boost ext with ended | ⟨-, ended⟩ <;>
    rw [ended] <;> exact asked

theorem checkPowerHalExtBoostSupport_connected
    (succeeded : (checkPowerHalExtBoostSupport hal boost ext).ret = noError) :
    (checkPowerHalExtBoostSupport hal boost ext).ext.isSome := by
  rcases checkPowerHalExtBoostSupport_cases hal boost ext with ended | ⟨-, ended⟩ <;>
    rw [ended] at succeeded ⊢
  · exact callPowerHalExt_connected succeeded
  · simp at succeeded

theorem isBoostHintSupported_sublist :
    List.Sublist (isBoostHintSupported hal self).calls
        [.getService, .isBoostSupported kBoostHint] ∧
      ((isBoostHintSupported hal self).ret = noError →
        (isBoostHintSupported hal self).calls = [] ∨
          (isBoostHintSupported hal self).after.mPowerHalExtAidl.isSome) := by
  rcases isBoostHintSupported_cases hal self with ⟨-, ended⟩ |
    ⟨-, checked, defined, ⟨answer, ended⟩ | ⟨-, ended⟩ | ⟨unsupported, -, ended⟩⟩ <;> rw [ended] <;>
    [exact ⟨List.nil_sublist _, fun _ => .inl rfl⟩; skip; skip; skip] <;> subst defined
  · exact ⟨checkPowerHalExtBoostSupport_sublist,
      fun _ => .inr (checkPowerHalExtBoostSupport_connected answer)⟩
  · exact ⟨checkPowerHalExtBoostSupport_sublist, fun failed => by simp at failed⟩
  · exact ⟨checkPowerHalExtBoostSupport_sublist, fun failed => absurd failed unsupported⟩

theorem sendAuthenticatedBoostHint_cases (hal : PowerHal) (self : BoostCache) :
    ((isBoostHintSupported hal self).ret ≠ noError ∧
      sendAuthenticatedBoostHint hal self = isBoostHintSupported hal self) ∨
    ((isBoostHintSupported hal self).ret = noError ∧ ∃ sent,
      sent = sendPowerHalExtBoost hal kBoostHint kBoostDurationMs
        (isBoostHintSupported hal self).after.mPowerHalExtAidl ∧
      sendAuthenticatedBoostHint hal self =
        ⟨sent.ret, { (isBoostHintSupported hal self).after with mPowerHalExtAidl := sent.ext },
          (isBoostHintSupported hal self).calls ++ sent.calls⟩) := by
  by_cases supported : (isBoostHintSupported hal self).ret = noError
  · exact .inr ⟨supported, _, rfl, by simp [sendAuthenticatedBoostHint, supported]⟩
  · exact .inl ⟨supported, by simp [sendAuthenticatedBoostHint, supported]⟩

end Lemmas

end Raphael.Fingerprint
