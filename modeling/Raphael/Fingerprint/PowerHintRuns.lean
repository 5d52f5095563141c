import Raphael.Fingerprint.PowerHint

namespace Raphael.Fingerprint

/-! # The boost cache along every run

A run calls `sendAuthenticatedBoostHint` once for each set of answers of the power HAL, in
turn. Each law is proved for one call from the lemmas of `PowerHint` and carried along the
run by induction.
-/

/-- `sendAuthenticatedBoostHint` called once for each answer set in turn: the fields at the
end and every call made on the power HAL. -/
def sendBoostHints : List PowerHal → BoostCache → BoostCache × List PowerCall
  | [], self => (self, [])
  | hal :: rest, self =>
      let step := sendAuthenticatedBoostHint hal self
      let later := sendBoostHints rest step.after
      (later.1, step.calls ++ later.2)

section Step

variable {hal : PowerHal} {self : BoostCache}

theorem sendAuthenticatedBoostHint_calls {made : PowerCall}
    (member : made ∈ (sendAuthenticatedBoostHint hal self).calls) :
    made ∈ (isBoostHintSupported hal self).calls ∨
      made = .getService ∨ made = .setBoost kBoostHint kBoostDurationMs := by
  rcases sendAuthenticatedBoostHint_cases hal self with ⟨-, ended⟩ | ⟨-, sent, defined, ended⟩ <;>
    rw [ended] at member
  · exact .inl member
  · subst defined
    exact (List.mem_append.mp member).imp_right (callPowerHalExt_calls _)

theorem sendAuthenticatedBoostHint_sublist :
    List.Sublist (sendAuthenticatedBoostHint hal self).calls
      [.getService, .isBoostSupported kBoostHint, .setBoost kBoostHint kBoostDurationMs] := by
  obtain ⟨checked, succeeded⟩ := @isBoostHintSupported_sublist hal self
  rcases sendAuthenticatedBoostHint_cases hal self with ⟨-, ended⟩ |
    ⟨supported, sent, defined, ended⟩ <;> rw [ended]
  · exact checked.trans (List.sublist_append_left _ [_])
  · subst defined
    have boosted := @callPowerHalExt_sublist hal
      (isBoostHintSupported hal self).after.mPowerHalExtAidl kBoostHint
      (.setBoost kBoostHint kBoostDurationMs) hal.setBoost
    rcases succeeded supported with silent | connected
    · rw [silent, List.nil_append]
      refine boosted.trans ?_
      split
      · exact ((List.Sublist.refl _).cons _).cons _
      · exact ((List.Sublist.refl _).cons _).cons₂ _
    · simp only [connected, if_true, List.nil_append] at boosted
      exact checked.append boosted

theorem sendAuthenticatedBoostHint_of_checked (cached : self.mBoostHintSupportIsChecked = true) :
    (sendAuthenticatedBoostHint hal self).after.capability = self.capability ∧
      ∀ boost, .isBoostSupported boost ∉ (sendAuthenticatedBoostHint hal self).calls := by
  have asked := @isBoostHintSupported_of_checked hal self cached
  refine ⟨?_, fun boost made => ?_⟩
  · rcases sendAuthenticatedBoostHint_cases hal self with ⟨-, ended⟩ | ⟨-, sent, -, ended⟩ <;>
      simp [ended, asked, BoostCache.capability]
  · rcases sendAuthenticatedBoostHint_calls made with early | wrong | wrong
    · simp [asked] at early
    all_goals cases wrong

theorem sendAuthenticatedBoostHint_consistent (consistent : self.Consistent) :
    (sendAuthenticatedBoostHint hal self).after.Consistent := by
  rcases sendAuthenticatedBoostHint_cases hal self with ⟨-, ended⟩ | ⟨-, sent, -, ended⟩ <;>
    rw [ended] <;> exact isBoostHintSupported_consistent consistent

theorem sendAuthenticatedBoostHint_caches (unchecked : self.mBoostHintSupportIsChecked = false)
    (cached : (sendAuthenticatedBoostHint hal self).after.mBoostHintSupportIsChecked = true) :
    .isBoostSupported kBoostHint ∈ (sendAuthenticatedBoostHint hal self).calls ∧
      hal.isBoostSupported.isOk = true := by
  rcases sendAuthenticatedBoostHint_cases hal self with ⟨-, ended⟩ | ⟨-, sent, -, ended⟩ <;>
    rw [ended] at cached ⊢
  · exact isBoostHintSupported_caches unchecked cached
  · have asked := @isBoostHintSupported_caches hal self unchecked cached
    exact ⟨List.mem_append_left _ asked.1, asked.2⟩

theorem sendAuthenticatedBoostHint_asks {boost : String}
    (made : .isBoostSupported boost ∈ (sendAuthenticatedBoostHint hal self).calls) :
    boost = kBoostHint ∧ .isBoostSupported kBoostHint ∈ (isBoostHintSupported hal self).calls := by
  have inCheck : .isBoostSupported boost ∈ (isBoostHintSupported hal self).calls := by
    rcases sendAuthenticatedBoostHint_calls made with early | wrong | wrong
    · exact early
    all_goals cases wrong
  rcases isBoostHintSupported_calls _ inCheck with wrong | same
  · cases wrong
  · cases same
    exact ⟨rfl, inCheck⟩

theorem sendAuthenticatedBoostHint_queryFailed {boost : String}
    (made : .isBoostSupported boost ∈ (sendAuthenticatedBoostHint hal self).calls)
    (failed : hal.isBoostSupported.exceptionCode = exTransactionFailed) :
    (sendAuthenticatedBoostHint hal self).ret = -enotconn ∧
      (sendAuthenticatedBoostHint hal self).after.mPowerHalExtAidl = none ∧
      (sendAuthenticatedBoostHint hal self).after.capability = self.capability := by
  have dropped := isBoostHintSupported_transactionFailed (sendAuthenticatedBoostHint_asks made).2 failed
  rcases sendAuthenticatedBoostHint_cases hal self with ⟨-, ended⟩ | ⟨succeeded, -⟩
  · rw [ended]
    exact dropped
  · simp [dropped.1] at succeeded

theorem sendAuthenticatedBoostHint_boostFailed {boost : String} {durationMs : Int}
    (made : .setBoost boost durationMs ∈ (sendAuthenticatedBoostHint hal self).calls)
    (failed : hal.setBoost.exceptionCode = exTransactionFailed) :
    (sendAuthenticatedBoostHint hal self).ret = -enotconn ∧
      (sendAuthenticatedBoostHint hal self).after.mPowerHalExtAidl = none ∧
      (sendAuthenticatedBoostHint hal self).after.capability = (true, true) := by
  rcases sendAuthenticatedBoostHint_cases hal self with
    ⟨-, ended⟩ | ⟨succeeded, sent, defined, ended⟩ <;> rw [ended] at made ⊢
  · rcases isBoostHintSupported_calls _ made with wrong | wrong <;> cases wrong
  · subst defined
    rcases List.mem_append.mp made with early | late
    · rcases isBoostHintSupported_calls _ early with wrong | wrong <;> cases wrong
    rcases callPowerHalExt_calls _ late with wrong | same
    · cases wrong
    · cases same
      have dropped := callPowerHalExt_transactionFailed (by simp) late failed
      have cached := isBoostHintSupported_noError succeeded
      exact ⟨dropped.1, dropped.2, by simp [BoostCache.capability, cached]⟩

theorem sendAuthenticatedBoostHint_reconnects (disconnected : self.mPowerHalExtAidl = none) :
    ∀ first, (sendAuthenticatedBoostHint hal self).calls.head? = some first →
      first = .getService := by
  intro first starts
  cases checked : self.mBoostHintSupportIsChecked
  · have asked := @isBoostHintSupported_reconnects hal self checked disconnected
    rcases sendAuthenticatedBoostHint_cases hal self with ⟨-, ended⟩ | ⟨-, sent, -, ended⟩ <;>
      simp_all [List.head?_append]
  · have asked := @isBoostHintSupported_of_checked hal self checked
    rcases sendAuthenticatedBoostHint_cases hal self with ⟨-, ended⟩ | ⟨-, sent, defined, ended⟩
    · simp [ended, asked] at starts
    · subst defined
      have lookup := @callPowerHalExt_reconnects hal _ kBoostHint
        (.setBoost kBoostHint kBoostDurationMs) hal.setBoost kBoostHint_isEmpty disconnected
      simp_all [sendPowerHalExtBoost]

end Step

theorem BoostCache.init_consistent : BoostCache.init.Consistent := by decide

section Runs

variable {self : BoostCache} {hals : List PowerHal}

theorem sendBoostHints_consistent (consistent : self.Consistent) :
    (sendBoostHints hals self).1.Consistent := by
  induction hals generalizing self with
  | nil => exact consistent
  | cons hal rest ih => exact ih (sendAuthenticatedBoostHint_consistent consistent)

theorem sendBoostHints_of_checked (cached : self.mBoostHintSupportIsChecked = true) :
    (sendBoostHints hals self).1.capability = self.capability ∧
      ∀ boost, .isBoostSupported boost ∉ (sendBoostHints hals self).2 := by
  induction hals generalizing self with
  | nil => simp [sendBoostHints]
  | cons hal rest ih =>
      obtain ⟨kept, unasked⟩ := @sendAuthenticatedBoostHint_of_checked hal self cached
      have stillCached :
          (sendAuthenticatedBoostHint hal self).after.mBoostHintSupportIsChecked = true := by
        simpa [BoostCache.capability, cached] using congrArg Prod.snd kept
      obtain ⟨laterKept, laterUnasked⟩ := ih stillCached
      exact ⟨laterKept.trans kept, fun boost made =>
        (List.mem_append.mp made).elim (unasked boost) (laterUnasked boost)⟩

end Runs

/-- The laws of the capability cache, over every run from the constructed state and every
answer of the power HAL: supported implies checked; once checked, the flags never change and
`isBoostSupported` is never asked again; the cache becomes checked only in a call where
`isBoostSupported` answered without an exception, so a failed lookup or query caches
nothing; a transaction failure of either call drops the extension without caching
"unsupported", and the next call that reaches the HAL looks it up again. -/
theorem sendAuthenticatedBoostHint_cache_laws :
    (∀ hals, (sendBoostHints hals BoostCache.init).1.Consistent) ∧
    (∀ self hals, self.mBoostHintSupportIsChecked = true →
      (sendBoostHints hals self).1.capability = self.capability ∧
        ∀ boost, .isBoostSupported boost ∉ (sendBoostHints hals self).2) ∧
    (∀ hal self, self.mBoostHintSupportIsChecked = false →
      (sendAuthenticatedBoostHint hal self).after.mBoostHintSupportIsChecked = true →
      .isBoostSupported kBoostHint ∈ (sendAuthenticatedBoostHint hal self).calls ∧
        hal.isBoostSupported.isOk = true) ∧
    (∀ hal self, (isBoostHintSupported hal self).ret = -einval ∨
        (isBoostHintSupported hal self).ret = -enotconn →
      (isBoostHintSupported hal self).after.capability = self.capability) ∧
    (∀ hal self boost,
      .isBoostSupported boost ∈ (sendAuthenticatedBoostHint hal self).calls →
      hal.isBoostSupported.exceptionCode = exTransactionFailed →
      (sendAuthenticatedBoostHint hal self).ret = -enotconn ∧
        (sendAuthenticatedBoostHint hal self).after.mPowerHalExtAidl = none ∧
        (sendAuthenticatedBoostHint hal self).after.capability = self.capability) ∧
    (∀ hal self boost durationMs,
      .setBoost boost durationMs ∈ (sendAuthenticatedBoostHint hal self).calls →
      hal.setBoost.exceptionCode = exTransactionFailed →
      (sendAuthenticatedBoostHint hal self).ret = -enotconn ∧
        (sendAuthenticatedBoostHint hal self).after.mPowerHalExtAidl = none ∧
        (sendAuthenticatedBoostHint hal self).after.capability = (true, true)) ∧
    (∀ hal self, self.mPowerHalExtAidl = none → ∀ first,
      (sendAuthenticatedBoostHint hal self).calls.head? = some first → first = .getService) := by
  refine ⟨fun _ => sendBoostHints_consistent BoostCache.init_consistent,
    fun _ _ cached => sendBoostHints_of_checked cached,
    fun _ _ unchecked cached => sendAuthenticatedBoostHint_caches unchecked cached,
    fun _ _ failed => ?_,
    fun _ _ _ made failed => sendAuthenticatedBoostHint_queryFailed made failed,
    fun _ _ _ _ made failed => sendAuthenticatedBoostHint_boostFailed made failed,
    fun _ _ disconnected => sendAuthenticatedBoostHint_reconnects disconnected⟩
  rcases failed with failed | failed <;>
    exact isBoostHintSupported_failed (by simp [failed]) (by simp [failed])

theorem transaction_failures_drop_extension :
    let queryFails : PowerHal := ⟨some 5, ⟨exTransactionFailed⟩, false, ⟨exNone⟩⟩
    let boostFails : PowerHal := ⟨some 5, ⟨exNone⟩, true, ⟨exTransactionFailed⟩⟩
    let cached : BoostCache := ⟨true, true, some 5⟩
    (.isBoostSupported kBoostHint ∈ (sendAuthenticatedBoostHint queryFails BoostCache.init).calls ∧
      (sendAuthenticatedBoostHint queryFails BoostCache.init).ret = -enotconn ∧
      (sendAuthenticatedBoostHint queryFails BoostCache.init).after.mPowerHalExtAidl = none ∧
      (sendAuthenticatedBoostHint queryFails BoostCache.init).after.capability =
        BoostCache.init.capability) ∧
    (.setBoost kBoostHint kBoostDurationMs ∈ (sendAuthenticatedBoostHint boostFails cached).calls ∧
      (sendAuthenticatedBoostHint boostFails cached).ret = -enotconn ∧
      (sendAuthenticatedBoostHint boostFails cached).after.mPowerHalExtAidl = none ∧
      (sendAuthenticatedBoostHint boostFails cached).after.capability = (true, true)) :=
  have asked : PowerCall.isBoostSupported kBoostHint ∈ (sendAuthenticatedBoostHint
      ⟨some 5, ⟨exTransactionFailed⟩, false, ⟨exNone⟩⟩ BoostCache.init).calls := by decide
  have boosted : PowerCall.setBoost kBoostHint kBoostDurationMs ∈ (sendAuthenticatedBoostHint
      ⟨some 5, ⟨exNone⟩, true, ⟨exTransactionFailed⟩⟩ ⟨true, true, some 5⟩).calls := by decide
  ⟨⟨asked, sendAuthenticatedBoostHint_cache_laws.2.2.2.2.1 _ _ _ asked rfl⟩,
    ⟨boosted, sendAuthenticatedBoostHint_cache_laws.2.2.2.2.2.1 _ _ _ _ boosted rfl⟩⟩

end Raphael.Fingerprint
