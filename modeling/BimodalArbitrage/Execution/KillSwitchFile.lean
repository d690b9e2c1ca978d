import BimodalArbitrage.Crash.File
import BimodalArbitrage.Execution.Decision
import BimodalArbitrage.Json.Text

/-!
# The kill switch on a state file (`backend/execution/kill_switch.py`)

`_persist` writes the switch as `_set` has just left it, so a write is told by the
switch: `⟨true⟩` for `engage()` and `⟨false⟩` for `disengage()`. The write is not
atomic, and what a crash leaves of it reads as a switch that is off.
-/

namespace BimodalArbitrage.Execution
open Crash

/-- `bool(v)`. -/
def pyTruth : Json.Value → Bool
  | .null => false
  | .bool b => b
  | .int n => n ≠ 0
  | .float q => q ≠ 0
  | .nan => true
  | .infinity _ => true
  | .string s => !s.isEmpty
  | .array vs => !vs.isEmpty
  | .object ms => !ms.isEmpty

/-- `type(v).__name__`. -/
def pyTypeName : Json.Value → String
  | .null => "NoneType"
  | .bool _ => "bool"
  | .int _ => "int"
  | .float _ => "float"
  | .nan => "float"
  | .infinity _ => "float"
  | .string _ => "str"
  | .array _ => "list"
  | .object _ => "dict"

namespace KillSwitch

/-- `json.dumps({"kill_switch_engaged": self._engaged})`. -/
def stateText (k : KillSwitch) : List Char :=
  ("\x7b\"kill_switch_engaged\": " ++ (if k.engaged then "true" else "false") ++ "\x7d").toList

/-- The file read back; a text that does not decode counts as one that is not there. -/
def readPersisted : Option (List Char) → Except PyError Bool
  | none => .ok false
  | some text => match Json.loads text with
    | none => .ok false
    | some (.object members) =>
      .ok (pyTruth ((Json.find ("kill_switch_engaged".toList.map Char.toNat) members).getD
        (.bool false)))
    | some v => .error ⟨.other, "'" ++ pyTypeName v ++ "' object has no attribute 'get'"⟩

/-- `KillSwitch(state_path)`, by what the file holds. -/
def construct (file : Option (List Char)) : Except PyError KillSwitch :=
  (readPersisted file).map KillSwitch.mk

theorem construct_stateText (k : KillSwitch) : construct (some k.stateText) = .ok k := by
  obtain ⟨engaged⟩ := k
  cases engaged <;> decide +kernel

theorem construct_torn (k : KillSwitch) (n : ℕ) (hn : n < k.stateText.length) :
    construct (some (k.stateText.take n)) = .ok ⟨false⟩ := by
  obtain ⟨engaged⟩ := k
  cases engaged
  · have htorn : ∀ n < (stateText ⟨false⟩).length,
        construct (some ((stateText ⟨false⟩).take n)) = .ok ⟨false⟩ := by decide +kernel
    exact htorn n hn
  · have htorn : ∀ n < (stateText ⟨true⟩).length,
        construct (some ((stateText ⟨true⟩).take n)) = .ok ⟨false⟩ := by decide +kernel
    exact htorn n hn

def stateStore : Store KillSwitch (Except PyError KillSwitch) where
  print := stateText
  read := construct
  ofValue := .ok
  blank := .ok ⟨false⟩
  read_print := construct_stateText
  read_torn := construct_torn

structure Survives (file : Option (List Char)) (h : List (Step KillSwitch)) : Prop where
  standing : Standing ⟨true⟩ h → construct (stateStore.content file h) = .ok ⟨true⟩
  last : Uninterrupted h → ∀ k, lastCompleted h = some k →
    construct (stateStore.content file h) = .ok k

end KillSwitch
open KillSwitch

theorem killSwitch_survives_iff (file : Option (List Char)) (h : List (Step KillSwitch)) :
    (∀ p, p <+: h → Survives file p) ↔
      ∀ p n, p ++ [.interrupted ⟨true⟩ (.written n)] <+: h → Standing ⟨true⟩ p →
        (stateText ⟨true⟩).length ≤ n := by
  have hoff : stateStore.blank ≠ stateStore.ofValue ⟨true⟩ := by decide
  refine Iff.trans ?_ (stateStore.read_standing_iff file hoff h)
  constructor
  · intro hall p hp
    exact (hall p hp).standing
  · intro hstanding p hp
    exact ⟨hstanding p hp, fun hcalm k hlast => stateStore.read_uninterrupted file hcalm hlast⟩

/-- An engaged switch is engaged once more, and the process dies as the file is truncated. -/
theorem killSwitch_survives_reengaged :
    ¬Survives none [.completed ⟨true⟩, .interrupted ⟨true⟩ (.written 0)] := by
  intro hsurvives
  have hengaged : Standing (⟨true⟩ : KillSwitch) ([] ++ [.completed ⟨true⟩]) :=
    standing_completed.mpr rfl
  have hread := hsurvives.standing (standing_interrupted.mpr ⟨rfl, hengaged⟩)
  exact absurd hread (by decide +kernel)

end BimodalArbitrage.Execution
