import SafetyIsland.Markers.Numbering
import SafetyIsland.Trace.Window

/-! The record policy that `window_policy` gives each marker, and the two markers
the trace window runs on. -/
namespace SafetyIsland.Markers
open Trace (Policy)

/-- What `window_policy` returns: the policy by number, the trigger's number and
the arm's. -/
structure Window where
  policy : Nat → Option Policy
  trigger : Nat
  arm : Nat

namespace SystemModel
variable (model : SystemModel)

/-- The members' subscribers, of what each hazard guards. -/
def guardedInputs : List String :=
  model.hazards.entries.flatMap fun hz =>
    (hz.2.monitors.getD hz.2.guards).flatMap fun g =>
      g.members.flatMap fun t => (model.topics.lookup t).elim [] Topic.sub

def servedEndpoints : List String :=
  model.services.entries.flatMap fun service => service.2.server

/-- `set(trig.get("value") or []) & guarded`, for an input trigger. -/
def triggerInputs (key : String) : List String :=
  ((model.nodePaths.lookup key).elim [] fun p => p.trigger.value).filter (· ∈ model.guardedInputs)

def policyOf (m : Marker) : Policy :=
  match m.kind with
  | .pathEntry => if m.extra.trigger = some "timer" then .spinEntry else .every
  | .pathExit => if m.extra.trigger = some "timer" then .spinExit else .every
  | .take =>
      if m.element ∈ model.guardedInputs ∨ m.element ∈ model.servedEndpoints then .every
      else .change
  | .publish => .change
  | _ => .every

def policies (markers : List Marker) : Nat → Option Policy :=
  markers.foldl (fun policy m => Function.update policy m.id (some (model.policyOf m))) fun _ => none

def followsEntry (markers : List Marker) (m : Marker) : Bool :=
  (markers.find? fun x => x.id + 1 = m.id).any fun prev =>
    prev.kind = .pathEntry ∧ prev.element = m.element

def detects (m : Marker) : Bool := m.kind = .pathEntry ∧ model.triggerInputs m.element ≠ []

/-- The takes that may arm the window for a detector. -/
def arms (det m : Marker) : Bool :=
  m.kind = .take ∧ m.element ∈ model.triggerInputs det.element

def windowPolicy (markers : List Marker) : Option Window :=
  if ∀ m ∈ markers, model.policies markers m.id = some .spinExit → followsEntry markers m then
    match markers.filter model.detects with
    | [det] =>
        match markers.filter (model.arms det) with
        | [arm] => some { policy := model.policies markers, trigger := det.id, arm := arm.id }
        | _ => none
    | _ => none
  else none

/-- The table and the window of one generation. -/
def generate : Option (List Marker × Window) := do
  let markers ← model.buildTable
  let window ← model.windowPolicy markers
  return (markers, window)

/-- A subscriber of a topic that some hazard guards. -/
def Guarded (ep : String) : Prop :=
  ∃ hazard ∈ model.hazards.entries, ∃ guard ∈ hazard.2.monitors.getD hazard.2.guards,
    ∃ t ∈ guard.members, ∃ topic, model.topics.lookup t = some topic ∧ ep ∈ topic.sub

/-- A guarded input that triggers the path. -/
def GuardedInput (key ep : String) : Prop :=
  ∃ p value, model.nodePaths.lookup key = some p ∧ p.trigger = .input value ∧ ep ∈ value ∧
    model.Guarded ep

variable {model} {key ep : String} {m : Marker}

theorem mem_elim_nil {α β : Type} {o : Option α} {f : α → List β} {b : β} :
    b ∈ o.elim [] f ↔ ∃ a, o = some a ∧ b ∈ f a := by
  cases o with
  | none => simp
  | some a => simp

/-- The guarded inputs are those of some hazard's topics. -/
theorem mem_guardedInputs : ep ∈ model.guardedInputs ↔ model.Guarded ep := by
  simp only [guardedInputs, Guarded, List.mem_flatMap, mem_elim_nil]

theorem Trigger.mem_value {trigger : Trigger} :
    ep ∈ trigger.value ↔ ∃ value, trigger = .input value ∧ ep ∈ value := by
  cases trigger with
  | timer rate => simp [Trigger.value]
  | input value => simp [Trigger.value]
  | other kind notRead => simp [Trigger.value]

/-- A path's trigger inputs are the guarded ones among them. -/
theorem mem_triggerInputs : ep ∈ model.triggerInputs key ↔ model.GuardedInput key ep := by
  simp only [triggerInputs, GuardedInput, List.mem_filter, mem_elim_nil, Trigger.mem_value,
    decide_eq_true_eq, mem_guardedInputs]
  constructor
  · rintro ⟨⟨p, hPath, value, hTrigger, hValue⟩, hGuarded⟩
    exact ⟨p, value, hPath, hTrigger, hValue, hGuarded⟩
  · rintro ⟨p, value, hPath, hTrigger, hValue, hGuarded⟩
    exact ⟨⟨p, hPath, value, hTrigger, hValue⟩, hGuarded⟩

/-- A detector is the ENTRY of a path that a guarded input triggers. -/
theorem detects_iff :
    model.detects m ↔ m.kind = .pathEntry ∧ ∃ ep, model.GuardedInput m.element ep := by
  simp only [detects, decide_eq_true_eq, ne_eq, List.eq_nil_iff_forall_not_mem, not_forall,
    not_not, mem_triggerInputs]

/-- A detector is armed by the take of such an input. -/
theorem arms_iff {det : Marker} :
    model.arms det m ↔ m.kind = .take ∧ model.GuardedInput det.element m.element := by
  simp only [arms, decide_eq_true_eq, mem_triggerInputs]

/-- A timer path's ENTRY opens a spin. -/
theorem policyOf_spinEntry :
    model.policyOf m = .spinEntry ↔ m.kind = .pathEntry ∧ m.extra.trigger = some "timer" := by
  rw [policyOf]
  cases hKind : m.kind with
  | pathEntry => simp
  | pathExit => by_cases hTimer : m.extra.trigger = some "timer" <;> simp [hTimer]
  | take =>
      by_cases hEvery : m.element ∈ model.guardedInputs ∨ m.element ∈ model.servedEndpoints <;>
        simp [hEvery]
  | _ => simp

/-- A timer path's EXIT closes one. -/
theorem policyOf_spinExit :
    model.policyOf m = .spinExit ↔ m.kind = .pathExit ∧ m.extra.trigger = some "timer" := by
  rw [policyOf]
  cases hKind : m.kind with
  | pathEntry => by_cases hTimer : m.extra.trigger = some "timer" <;> simp [hTimer]
  | pathExit => simp
  | take =>
      by_cases hEvery : m.element ∈ model.guardedInputs ∨ m.element ∈ model.servedEndpoints <;>
        simp [hEvery]
  | _ => simp

/-- Each marker of a table finds its own policy. -/
theorem policies_eq {g : Groups} (hm : m ∈ g.table) :
    model.policies g.table m.id = some (model.policyOf m) := by
  apply Numbered.foldl_update _ hm
  intro a ha hId
  rw [Groups.table_ext ha hm hId]

/-- Where there is a window, one detector and one take make it. -/
theorem windowPolicy_eq_some {markers : List Marker} {w : Window}
    (h : model.windowPolicy markers = some w) :
    w.policy = model.policies markers ∧
      ∃ det arm, markers.filter model.detects = [det] ∧ w.trigger = det.id ∧
        markers.filter (model.arms det) = [arm] ∧ w.arm = arm.id := by
  rw [windowPolicy] at h
  split_ifs at h
  split at h
  next det hDetectors =>
    split at h
    next arm hArms =>
      cases h
      exact ⟨rfl, det, arm, hDetectors, rfl, hArms, rfl⟩
    next => cases h
  next => cases h

end SystemModel
end SafetyIsland.Markers
