import Mathlib.Data.List.Basic

namespace Raphael.Fingerprint

/-! # FOD watcher

The thread the constructor starts for an under-display sensor opens `fod_ui`, then loops
forever: wait in `poll`, read the one-byte attribute with `readBool`, and tell the driver
with `extCmd(COMMAND_NIT, ...)` whether the overlay is shown. A finite prefix of the loop is
a list of wake-ups, each holding what the kernel answers to that pass's system calls.
-/

def commandNit : Int := 10
def paramNitFod : Int := 1
def paramNitNone : Int := 0

/-- What the kernel answers during one pass of the loop: what `poll`, `lseek` and `read`
return, and the byte `read` stores. -/
structure FodWake where
  poll : Int
  lseek : Int
  read : Int
  byte : UInt8
deriving DecidableEq, Repr

structure ExtCmd where
  cmd : Int
  param : Int
deriving DecidableEq, Repr

/-- `readBool` on the attribute: `false` when `lseek` or `read` fails, otherwise whether
the byte read is not `'0'`. -/
def readBool (wake : FodWake) : Bool :=
  if wake.lseek ≠ 0 then false
  else if wake.read ≠ 1 then false
  else wake.byte ≠ '0'.toUInt8

def fodWatcherPass (wake : FodWake) : List ExtCmd :=
  if wake.poll < 0 then []
  else [⟨commandNit, if readBool wake then paramNitFod else paramNitNone⟩]

def fodWatcherLoop : List FodWake → List ExtCmd
  | [] => []
  | wake :: rest => fodWatcherPass wake ++ fodWatcherLoop rest

/-- The thread: it returns at once when `open` fails, and otherwise runs the loop. -/
def fodWatcher (fd : Int) (wakes : List FodWake) : List ExtCmd :=
  if fd < 0 then [] else fodWatcherLoop wakes

def nitParam (wake : FodWake) : Int :=
  if wake.lseek = 0 ∧ wake.read = 1 ∧ wake.byte ≠ '0'.toUInt8 then paramNitFod else paramNitNone

theorem readBool_eq_true_iff (wake : FodWake) :
    readBool wake = true ↔ wake.lseek = 0 ∧ wake.read = 1 ∧ wake.byte ≠ '0'.toUInt8 := by
  unfold readBool
  split_ifs <;> simp_all

theorem fodWatcherPass_params (wake : FodWake) :
    (fodWatcherPass wake).map ExtCmd.param = if 0 ≤ wake.poll then [nitParam wake] else [] := by
  by_cases woken : 0 ≤ wake.poll
  · have sent : ¬wake.poll < 0 := Int.not_lt.mpr woken
    by_cases fod : readBool wake = true <;>
      simp [fodWatcherPass, nitParam, sent, woken, fod, (readBool_eq_true_iff wake).symm]
  · simp [fodWatcherPass, woken, Int.not_le.mp woken]

theorem fodWatcherLoop_commands (wakes : List FodWake) :
    ∀ command ∈ fodWatcherLoop wakes, command.cmd = commandNit ∧
      (command.param = paramNitNone ∨ command.param = paramNitFod) := by
  induction wakes with
  | nil => simp [fodWatcherLoop]
  | cons wake rest ih =>
      intro command member
      rcases List.mem_append.mp member with now | later
      · unfold fodWatcherPass at now
        split_ifs at now <;> simp_all
      · exact ih command later

theorem fodWatcherLoop_params (wakes : List FodWake) :
    (fodWatcherLoop wakes).map ExtCmd.param =
      (wakes.filter fun wake => 0 ≤ wake.poll).map nitParam := by
  induction wakes with
  | nil => rfl
  | cons wake rest ih =>
      rw [fodWatcherLoop, List.map_append, fodWatcherPass_params, ih]
      by_cases woken : 0 ≤ wake.poll <;> simp [woken]

theorem nitParam_eq_paramNitFod_iff (wake : FodWake) :
    nitParam wake = paramNitFod ↔ wake.lseek = 0 ∧ wake.read = 1 ∧ wake.byte ≠ '0'.toUInt8 := by
  unfold nitParam
  split_ifs with read <;> simp [read, paramNitFod, paramNitNone]

/-- Every command of the loop is `extCmd(COMMAND_NIT, p)` with `p` one of the two modes;
one is sent for each pass that `poll` woke, in order, with `PARAM_NIT_FOD` exactly when that
pass's `lseek` and `read` succeeded and the byte was not `'0'`; so after every pass the last
mode sent is `PARAM_NIT_FOD` exactly when the last woken pass read such a byte. -/
theorem fodWatcherLoop_nit_history (wakes : List FodWake) :
    (∀ command ∈ fodWatcherLoop wakes, command.cmd = commandNit ∧
      (command.param = paramNitNone ∨ command.param = paramNitFod)) ∧
    (fodWatcherLoop wakes).map ExtCmd.param =
      (wakes.filter fun wake => 0 ≤ wake.poll).map nitParam ∧
    ((fodWatcherLoop wakes).getLast?.map ExtCmd.param = some paramNitFod ↔
      ∃ wake, (wakes.filter fun wake => 0 ≤ wake.poll).getLast? = some wake ∧
        wake.lseek = 0 ∧ wake.read = 1 ∧ wake.byte ≠ '0'.toUInt8) := by
  refine ⟨fodWatcherLoop_commands wakes, fodWatcherLoop_params wakes, ?_⟩
  rw [← List.getLast?_map, fodWatcherLoop_params, List.getLast?_map, Option.map_eq_some']
  simp only [nitParam_eq_paramNitFod_iff]

/-- The byte of the most recent pass whose `poll`, `lseek` and `read` all succeeded. -/
def lastSuccessfulRead (wakes : List FodWake) : Option UInt8 :=
  ((wakes.filter fun wake => 0 ≤ wake.poll ∧ wake.lseek = 0 ∧ wake.read = 1).getLast?).map
    FodWake.byte

/-- A pass whose `read` fails after one that read `'1'` sends `PARAM_NIT_NONE`: the last
mode sent is not tied to the last byte read successfully. -/
theorem fodWatcherLoop_read_failure_sends_none :
    ¬ ∀ wakes : List FodWake,
      ((fodWatcherLoop wakes).getLast?.map ExtCmd.param = some paramNitFod ↔
        ∃ byte, lastSuccessfulRead wakes = some byte ∧ byte ≠ '0'.toUInt8) := fun law =>
  absurd ((law [⟨1, 0, 1, 49⟩, ⟨1, 0, -1, 0⟩]).mpr ⟨49, by decide, by decide⟩) (by decide)

end Raphael.Fingerprint
