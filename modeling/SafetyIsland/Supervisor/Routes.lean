import SafetyIsland.Supervisor.State
import SafetyIsland.General.Earliest
import Mathlib.Tactic.Tauto

/-! Arming and clearing the supervised routes, under the lock. Each function
here is one locked region of the source. -/
namespace SafetyIsland.Supervisor

/-- The loop of `rearm_locked` over the routes still to look at. -/
def earliestOf (routes : Route → RouteState) : List Route → Option Int → Option Int
  | [], earliest => earliest
  | r :: rest, earliest =>
      earliestOf routes rest <|
        if (routes r).dueValid then Earliest.keep earliest (routes r).dueMs else earliest

/-- The earliest armed due, `none` when no route is armed. -/
def earliest (routes : Route → RouteState) : Option Int := earliestOf routes Route.all none

/-- `rearm_locked`: the timer runs to the earliest armed due, or is stopped. -/
def rearmLocked (s : Supervisor) : Supervisor :=
  s.setDueTimer { expiry := earliest s.routes, fired := false }

/-- `speed_fresh`: the latest kinematic_state sample is fresh at `now`. -/
def speedFresh (s : Supervisor) (now : Int) : Bool :=
  !Judge.stale (uptime32 now) s.speed.atMs Judge.standstillFreshMs

/-- `response_arm_locked`: route 4 for a settle that starts at `start`, only
against a reference that was fresh. -/
def responseArmLocked (cfg : Config) (start : Int) (refMmS : U32) (refOk : Bool)
    (s : Supervisor) : Supervisor :=
  if cfg.responseMs = 0 then s
  else if !refOk then
    (s.setRoute .emergencyResponse (s.routes .emergencyResponse).clear).setResponse
      { s.response with unref := s.response.unref + 1 }
  else
    (s.setRoute .emergencyResponse
      ((s.routes .emergencyResponse).arm (start + cfg.responseSpanMs))).setResponse
      { s.response with refMmS := refMmS }

/-- `response_clear_locked`: route 4 is cleared with route 3. -/
def responseClearLocked (s : Supervisor) : Supervisor :=
  if (s.routes .emergencyResponse).dueValid then
    s.setRoute .emergencyResponse (s.routes .emergencyResponse).clear.countDone
  else s

/-- `island_supervisor_arm` for a route there is. Route 3 is the handler's
emergency call: the operator's settle, and its response check from the call. -/
def armRoute (cfg : Config) (now : Int) (r : Route) (due : Int) (s : Supervisor) : Supervisor :=
  let s := s.setRoute r ((s.routes r).arm due)
  rearmLocked <|
    if r = .emergencyStandstill then
      responseArmLocked cfg now s.speed.mmS (s.speedFresh now)
        (s.setFloor { s.floor with stage := .operator })
    else s

def arm (cfg : Config) (now : Int) (route : Nat) (due : Int) (s : Supervisor) : Supervisor :=
  match Route.ofId route with
  | none => s
  | some r => armRoute cfg now r due s

/-- `island_supervisor_done` for a route there is. -/
def doneRoute (r : Route) (s : Supervisor) : Supervisor :=
  if (s.routes r).dueValid then
    let s := s.setRoute r (s.routes r).clear.countDone
    rearmLocked <|
      if r = .emergencyStandstill then
        responseClearLocked (s.setFloor { s.floor with stage := .idle })
      else s
  else s

def done (route : Nat) (s : Supervisor) : Supervisor :=
  match Route.ofId route with
  | none => s
  | some r => doneRoute r s

def noteSpeed (now : Int) (speedMmS : U32) (s : Supervisor) : Supervisor :=
  s.setSpeed { mmS := speedMmS, atMs := uptime32 now }

/-- `due_expiry`: the timer's expiry function, before its `k_sem_give`. -/
def dueExpiry (s : Supervisor) : Supervisor :=
  (s.setDueTimer { s.dueTimer with fired := true }).setCounts
    { s.counts with timerExpiries := s.counts.timerExpiries + 1 }

def swtFirstTimeout (s : Supervisor) : Supervisor :=
  (s.setPending { s.pending with swt := true }).setCounts
    { s.counts with swtFires := s.counts.swtFires + 1 }

def reactionHook (ruleCode : U32) (s : Supervisor) : Supervisor :=
  (s.setPending { s.pending with hook := true }).setCounts
    { s.counts with hookCalls := s.counts.hookCalls + 1, hookLastRule := ruleCode }

def armedDues (routes : Route → RouteState) : Set Int :=
  {due | ∃ r, (routes r).dueValid = true ∧ (routes r).dueMs = due}

/-- The loop keeps the least due of what it has passed and what is to come. -/
private theorem earliestOf_leastOf (routes : Route → RouteState) (rest : List Route)
    {S : Set Int} {sofar : Option Int} (h : Earliest.LeastOf S sofar) :
    Earliest.LeastOf (S ∪ {due | ∃ r ∈ rest, (routes r).dueValid = true ∧ (routes r).dueMs = due})
      (earliestOf routes rest sofar) := by
  induction rest generalizing S sofar with
  | nil => simpa [earliestOf] using h
  | cons r rest ih =>
      rw [earliestOf]
      split_ifs with hValid
      · convert ih (h.keep (routes r).dueMs) using 1
        ext due
        simp only [List.mem_cons, exists_eq_or_imp, hValid, true_and, Set.mem_union,
          Set.mem_ofPred_eq, Set.mem_insert_iff]
        tauto
      · convert ih h using 1
        ext due
        simp [hValid]

/-- The timer's next expiry is the least armed due. -/
theorem earliest_leastOf (routes : Route → RouteState) :
    Earliest.LeastOf (armedDues routes) (earliest routes) := by
  have h := earliestOf_leastOf routes Route.all Earliest.leastOf_empty
  simpa [armedDues, earliest, Route.mem_all] using h

end SafetyIsland.Supervisor
