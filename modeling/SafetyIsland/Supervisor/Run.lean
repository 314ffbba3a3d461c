import SafetyIsland.General.Reaches
import SafetyIsland.Supervisor.Levels
import SafetyIsland.Supervisor.Service

/-! The supervisor as a machine: the calls made to it, its interrupts and the
passes of its thread, in any order. An observer notes what the results about
runs are stated in: the clock, the last kinematic_state sample and the start
of the island's braking command, none of which the code reads back. -/
namespace SafetyIsland.Supervisor

/-- What the supervisor is called with, or runs for. -/
inductive Event where
  | arm (now : Int) (route : Nat) (due : Int)
  | done (route : Nat)
  | noteSpeed (now : Int) (speedMmS : U32)
  | handover (now : Int) (slot : Nat) (periodMs : U32)
  | setDirect (i : Slot)
  | spin (x : Spin)
  | spinAfter (now nowUs : Int) (report : SpinReport)
  | timerExpiry
  | swtTimeout
  | hook (ruleCode : U32)
  | pass (p : Pass)

def next (cfg : Config) (s : Supervisor) : Event → Supervisor
  | .arm now route due => arm cfg now route due s
  | .done route => done route s
  | .noteSpeed now speedMmS => noteSpeed now speedMmS s
  | .handover now slot periodMs => (handover now slot periodMs s).1
  | .setDirect i => setDirect i s
  | .spin x => spin x s
  | .spinAfter now nowUs report => spinAfter cfg now nowUs report s
  | .timerExpiry => dueExpiry s
  | .swtTimeout => swtFirstTimeout s
  | .hook ruleCode => reactionHook ruleCode s
  | .pass p => (pass cfg p s).1

/-- The readings of a pass, in the order they are taken, from `clock` on. -/
def Pass.Ordered (clock : Int) (p : Pass) : Prop :=
  clock ≤ p.now ∧ p.now ≤ p.latchNow ∧ p.latchNow ≤ p.serviceNow ∧ p.serviceNow ≤ p.publishNow

def Event.Ordered (clock : Int) : Event → Prop
  | .arm now _ _ | .noteSpeed now _ | .handover now _ _ | .spinAfter now _ _ => clock ≤ now
  | .pass p => p.Ordered clock
  | _ => True

instance (clock : Int) (p : Pass) : Decidable (p.Ordered clock) := by
  unfold Pass.Ordered
  infer_instance

instance (clock : Int) (e : Event) : Decidable (e.Ordered clock) :=
  match e with
  | .arm .. | .noteSpeed .. | .handover .. | .spinAfter .. | .pass .. =>
      by unfold Event.Ordered; infer_instance
  | .done .. | .setDirect .. | .spin .. | .timerExpiry | .swtTimeout | .hook .. => isTrue trivial

def Event.finish (clock : Int) : Event → Int
  | .arm now _ _ | .noteSpeed now _ | .handover now _ _ | .spinAfter now _ _ => now
  | .pass p => p.publishNow
  | _ => clock

/-- The clock does not go back through an event. -/
theorem Event.Ordered.le_finish {clock : Int} {e : Event} (h : e.Ordered clock) :
    clock ≤ e.finish clock := by
  cases e <;> simp only [Event.Ordered, Pass.Ordered] at h <;>
    simp only [Event.finish] <;> omega

/-- A pass that the semaphore woke, every reading taken in one millisecond. -/
def Pass.at (now : Int) : Pass where
  woken := true
  watch := none
  now := now
  nowUs := 1000 * now
  latchNow := now
  serviceNow := now
  publishNow := now

/-- What an observer has written down. -/
structure History where
  clock : Int := 0
  /-- The last kinematic_state sample: when it was noted, and |v|. -/
  sample : Option (Int × U32) := none
  /-- The latest of the latching pass and the operator slot's resume. -/
  brakeStart : Option Int := none
  deriving DecidableEq, Repr

/-- The start of the braking command after a pass from `s` to `t`. -/
def brakeStartAfter (p : Pass) (before : Option Int) (s t : Supervisor) : Option Int :=
  if !(s.slots .operator).resumed && (t.slots .operator).resumed then some p.serviceNow
  else if !s.latch.latched && t.latch.latched then some p.now
  else before

def note (h : History) (s : Supervisor) (e : Event) (t : Supervisor) : History where
  clock := e.finish h.clock
  sample := match e with
    | .noteSpeed now speedMmS => some (now, speedMmS)
    | _ => h.sample
  brakeStart := match e with
    | .pass p => brakeStartAfter p h.brakeStart s t
    | _ => h.brakeStart

abbrev World := Transition.Observed Supervisor History

/-- At boot nothing is armed, noted or latched. -/
def World.boot : World := { state := {}, history := {} }

def World.step (cfg : Config) : World → Event → World := Transition.observe (next cfg) note

section Step
variable (cfg : Config) (w : World) (e : Event)

@[simp] theorem World.step_state : (w.step cfg e).state = next cfg w.state e := rfl

@[simp] theorem World.step_history :
    (w.step cfg e).history = note w.history w.state e (next cfg w.state e) := rfl

end Step

/-- The words only a pass writes. -/
structure CallFrame (s t : Supervisor) : Prop where
  latch : t.latch = s.latch
  brake : t.brake = s.brake
  fault : t.fault = s.fault
  directNextMs : t.directNextMs = s.directNextMs
  resumed : ∀ i, (t.slots i).resumed = (s.slots i).resumed

theorem CallFrame.refl (s : Supervisor) : CallFrame s s := ⟨rfl, rfl, rfl, rfl, fun _ => rfl⟩

theorem CallFrame.trans {s t u : Supervisor} (first : CallFrame s t) (second : CallFrame t u) :
    CallFrame s u where
  latch := second.latch.trans first.latch
  brake := second.brake.trans first.brake
  fault := second.fault.trans first.fault
  directNextMs := second.directNextMs.trans first.directNextMs
  resumed i := (second.resumed i).trans (first.resumed i)

/-- What a sweep's frame and an unchanged fault leave of a call's. -/
theorem SweepFrame.call {s t : Supervisor} (h : SweepFrame s t) (hFault : t.fault = s.fault) :
    CallFrame s t :=
  ⟨h.latch, h.brake, hFault, h.directNextMs, fun i => by rw [h.slots]⟩

section Calls
variable (cfg : Config) (now : Int) (r : Route) (s : Supervisor)

/-- Arming a route leaves all other words alone. -/
theorem armRoute_frame (due : Int) : SweepFrame s (armRoute cfg now r due s) := by
  unfold armRoute
  dsimp only
  split_ifs
  · refine .trans (SweepFrame.trans ?_ (responseArmLocked_frame ..)) (rearmLocked_frame _)
    exact ⟨rfl, rfl, rfl, rfl, rfl, rfl, rfl⟩
  · exact ⟨rfl, rfl, rfl, rfl, rfl, rfl, rfl⟩

@[simp] theorem armRoute_fault (due : Int) : (armRoute cfg now r due s).fault = s.fault := by
  unfold armRoute
  dsimp only
  split_ifs <;> simp [rearmLocked]

/-- Route 3 is armed by its own call alone. -/
theorem armRoute_floorRoute (due : Int) :
    (armRoute cfg now r due s).routes .emergencyStandstill =
      if r = .emergencyStandstill then (s.routes r).arm due
      else s.routes .emergencyStandstill := by
  unfold armRoute
  dsimp only
  split_ifs with hFloor
  · subst hFloor
    simp [rearmLocked, responseArmLocked_routes_of_ne]
  · simp [rearmLocked, Ne.symm hFloor]

/-- Route 4 is armed by its own call and route 3's alone. -/
theorem armRoute_response_of_other (due : Int) (hFloor : r ≠ .emergencyStandstill)
    (hResponse : r ≠ .emergencyResponse) :
    (armRoute cfg now r due s).routes .emergencyResponse = s.routes .emergencyResponse := by
  simp [armRoute, hFloor, rearmLocked, hResponse.symm]

/-- The emergency call opens route 4 only against a fresh sample. -/
theorem armRoute_response (due : Int) :
    (armRoute cfg now .emergencyStandstill due s).routes .emergencyResponse =
      if cfg.responseMs = 0 then s.routes .emergencyResponse
      else if s.speedFresh now then (s.routes .emergencyResponse).arm (now + cfg.responseSpanMs)
      else (s.routes .emergencyResponse).clear := by
  simp [armRoute, rearmLocked, responseArmLocked_response, speedFresh]

theorem responseClearLocked_frame : SweepFrame s (responseClearLocked s) := by
  unfold responseClearLocked
  split_ifs <;> exact ⟨rfl, rfl, rfl, rfl, rfl, rfl, rfl⟩

@[simp] theorem responseClearLocked_fault : (responseClearLocked s).fault = s.fault := by
  unfold responseClearLocked
  split_ifs <;> rfl

/-- Route 4 is closed whatever it was. -/
@[simp] theorem responseClearLocked_closed :
    ((responseClearLocked s).routes .emergencyResponse).dueValid = false := by
  unfold responseClearLocked
  split_ifs with hOpen
  · simp
  · simpa using hOpen

theorem responseClearLocked_routes_of_ne {q : Route} (hOther : q ≠ .emergencyResponse) :
    (responseClearLocked s).routes q = s.routes q := by
  unfold responseClearLocked
  split_ifs <;> simp [hOther]

/-- Clearing a route leaves all other words alone. -/
theorem doneRoute_frame : SweepFrame s (doneRoute r s) := by
  unfold doneRoute
  dsimp only
  split_ifs
  · refine .trans (SweepFrame.trans ?_ (responseClearLocked_frame _)) (rearmLocked_frame _)
    exact ⟨rfl, rfl, rfl, rfl, rfl, rfl, rfl⟩
  · exact ⟨rfl, rfl, rfl, rfl, rfl, rfl, rfl⟩
  · exact .refl s

@[simp] theorem doneRoute_fault : (doneRoute r s).fault = s.fault := by
  unfold doneRoute
  dsimp only
  split_ifs <;> simp [rearmLocked]

/-- Route 3 is cleared by its own call alone. -/
theorem doneRoute_floorRoute (hOther : r ≠ .emergencyStandstill) :
    (doneRoute r s).routes .emergencyStandstill = s.routes .emergencyStandstill := by
  unfold doneRoute
  dsimp only
  split_ifs <;> simp [rearmLocked, hOther.symm]

/-- A route that is neither armed nor route 4. -/
theorem armRoute_routes_of_ne {q : Route} (hOther : r ≠ q) (hResponse : q ≠ .emergencyResponse)
    (due : Int) : (armRoute cfg now r due s).routes q = s.routes q := by
  unfold armRoute
  dsimp only
  split_ifs <;> simp [rearmLocked, responseArmLocked_routes_of_ne, hOther.symm, hResponse]

theorem doneRoute_routes_of_ne {q : Route} (hOther : r ≠ q) (hResponse : q ≠ .emergencyResponse) :
    (doneRoute r s).routes q = s.routes q := by
  unfold doneRoute
  dsimp only
  split_ifs <;> simp [rearmLocked, responseClearLocked_routes_of_ne, hOther.symm, hResponse]

/-- `done` opens no route. -/
theorem doneRoute_closed {q : Route} (hClosed : (s.routes q).dueValid = false) :
    ((doneRoute r s).routes q).dueValid = false := by
  have hClear : ∀ t : Supervisor, (t.routes q).dueValid = false →
      ((responseClearLocked t).routes q).dueValid = false := by
    intro t hT
    by_cases hResponse : q = .emergencyResponse
    · subst hResponse
      exact responseClearLocked_closed t
    · rwa [responseClearLocked_routes_of_ne t hResponse]
  have hRoute : (((s.setRoute r (s.routes r).clear.countDone)).routes q).dueValid = false := by
    by_cases hSame : q = r
    · subst hSame
      simp
    · simpa [hSame] using hClosed
  unfold doneRoute
  dsimp only
  split_ifs
  · exact hClear _ hRoute
  · exact hRoute
  · exact hClosed

/-- `done` closes its own route. -/
theorem doneRoute_self : ((doneRoute r s).routes r).dueValid = false := by
  unfold doneRoute
  dsimp only
  split_ifs with hArmed hFloor
  · subst hFloor
    simp [rearmLocked, responseClearLocked_routes_of_ne]
  · simp [rearmLocked]
  · simpa using hArmed

/-- Clearing a route leaves the response check inside the floor's. -/
theorem doneRoute_nested (hNested : s.Nested) : (doneRoute r s).Nested := by
  unfold doneRoute
  dsimp only
  split_ifs with hArmed hFloor
  · simp [Nested, rearmLocked]
  · by_cases hResponse : r = .emergencyResponse
    · simp [Nested, rearmLocked, hResponse]
    · simpa [Nested, rearmLocked, Ne.symm hFloor, Ne.symm hResponse] using hNested
  · exact hNested

/-- So does arming one but the response's. -/
theorem armRoute_nested (due : Int) (hNested : s.Nested) (hResponse : r ≠ .emergencyResponse) :
    (armRoute cfg now r due s).Nested := by
  by_cases hFloor : r = .emergencyStandstill
  · intro _
    simp [armRoute_floorRoute, hFloor]
  · simpa [Nested, armRoute_floorRoute, armRoute_response_of_other, hFloor, hResponse] using hNested

end Calls

/-- A report does not resume a slot. -/
theorem handoverSlot_resumed (now : Int) (i j : Slot) (periodMs : U32) (s : Supervisor) :
    ((handoverSlot now i periodMs s).1.slots j).resumed = (s.slots j).resumed := by
  by_cases hOther : j = i
  · subst hOther
    unfold handoverSlot
    dsimp only
    split_ifs <;> simp
  · unfold handoverSlot
    dsimp only
    split_ifs <;> simp [hOther]

/-- It leaves the latch and the routes alone. -/
theorem handoverSlot_frame (now : Int) (i : Slot) (periodMs : U32) (s : Supervisor) :
    CallFrame s (handoverSlot now i periodMs s).1 := by
  refine ⟨?_, ?_, ?_, ?_, fun j => handoverSlot_resumed ..⟩ <;>
    unfold handoverSlot <;> dsimp only <;> split_ifs <;> rfl

theorem handoverSlot_routes (now : Int) (i : Slot) (periodMs : U32) (s : Supervisor) :
    (handoverSlot now i periodMs s).1.routes = s.routes := by
  unfold handoverSlot
  dsimp only
  split_ifs <;> rfl

/-- A level's report arms route 1, clears it, or leaves every route alone. -/
theorem spinAfter_cases (cfg : Config) (now nowUs : Int) (report : SpinReport) (s : Supervisor) :
    ∃ levels, spinAfter cfg now nowUs report s = s.setLevels levels ∨
      (∃ due, spinAfter cfg now nowUs report s =
        armRoute cfg now .executor due (s.setLevels levels)) ∨
      spinAfter cfg now nowUs report s = doneRoute .executor (s.setLevels levels) := by
  unfold spinAfter
  dsimp only
  split
  · exact ⟨_, .inl rfl⟩
  · rename_i takeWatch hOwn
    have hTaken : ∃ levels, takeRouteWatch report takeWatch
        (s.setLevels (spinAfterLocked report s.levels).1) = s.setLevels levels := by
      unfold takeRouteWatch
      split_ifs
      · exact ⟨_, rfl⟩
      · exact ⟨_, rfl⟩
    obtain ⟨levels, hLevels⟩ := hTaken
    refine ⟨levels, .inr ?_⟩
    rw [hLevels]
    unfold spinAfterRoute
    split
    · exact .inr rfl
    · split_ifs
      · exact .inr rfl
      · exact .inl ⟨_, rfl⟩

section Call
variable {cfg : Config} {s : Supervisor} {e : Event}

variable (cfg s) in
/-- Every event but a pass is a call: the latch, the fault and the braking
command are the reaction thread's. -/
theorem next_call (hCall : ∀ p, e ≠ .pass p) : CallFrame s (next cfg s e) := by
  cases e with
  | arm now route due =>
      simp only [next, arm]
      split
      · exact .refl s
      · exact (armRoute_frame ..).call (by simp)
  | done route =>
      simp only [next, done]
      split
      · exact .refl s
      · exact (doneRoute_frame ..).call (by simp)
  | noteSpeed now speedMmS => exact ⟨rfl, rfl, rfl, rfl, fun _ => rfl⟩
  | handover now slot periodMs =>
      simp only [next, handover]
      split
      · exact .refl s
      · exact handoverSlot_frame ..
  | setDirect i =>
      refine ⟨rfl, rfl, rfl, rfl, fun j => ?_⟩
      by_cases hOther : j = i <;> simp_all [next, setDirect]
  | spin x => exact ⟨rfl, rfl, rfl, rfl, fun _ => rfl⟩
  | spinAfter now nowUs report =>
      obtain ⟨levels, h⟩ := spinAfter_cases cfg now nowUs report s
      have hLevels : CallFrame s (s.setLevels levels) := ⟨rfl, rfl, rfl, rfl, fun _ => rfl⟩
      rcases h with h | ⟨due, h⟩ | h <;> rw [next, h]
      · exact hLevels
      · exact hLevels.trans ((armRoute_frame ..).call (armRoute_fault ..))
      · exact hLevels.trans ((doneRoute_frame ..).call (doneRoute_fault ..))
  | timerExpiry => exact ⟨rfl, rfl, rfl, rfl, fun _ => rfl⟩
  | swtTimeout => exact ⟨rfl, rfl, rfl, rfl, fun _ => rfl⟩
  | hook ruleCode => exact ⟨rfl, rfl, rfl, rfl, fun _ => rfl⟩
  | pass p => exact absurd rfl (hCall p)

/-- Callers arm route 4 only through route 3. -/
def Event.LeavesResponse : Event → Prop
  | .arm _ route _ => route ≠ 4
  | _ => True

instance (e : Event) : Decidable e.LeavesResponse :=
  match e with
  | .arm .. => by unfold Event.LeavesResponse; infer_instance
  | .done .. | .noteSpeed .. | .handover .. | .setDirect .. | .spin .. | .spinAfter ..
  | .timerExpiry | .swtTimeout | .hook .. | .pass .. => isTrue trivial

/-- No call but `done(3)` disarms route 3. -/
theorem next_call_armed (hCall : ∀ p, e ≠ .pass p) (hDone : e ≠ .done 3)
    (hArmed : (s.routes .emergencyStandstill).dueValid = true) :
    ((next cfg s e).routes .emergencyStandstill).dueValid = true := by
  cases e with
  | arm now route due =>
      simp only [next, arm]
      split
      · exact hArmed
      · rw [armRoute_floorRoute]
        split_ifs
        · rfl
        · exact hArmed
  | done route =>
      simp only [next, done]
      split
      · exact hArmed
      · rename_i r hRoute
        rwa [doneRoute_floorRoute]
        rintro rfl
        exact hDone (by rw [Route.ofId_eq_some hRoute]; rfl)
  | handover now slot periodMs =>
      simp only [next, handover]
      split
      · exact hArmed
      · rwa [handoverSlot_routes]
  | spinAfter now nowUs report =>
      obtain ⟨levels, h | ⟨due, h⟩ | h⟩ := spinAfter_cases cfg now nowUs report s <;>
        rw [next, h]
      · exact hArmed
      · simpa [armRoute_floorRoute] using hArmed
      · simpa [doneRoute_floorRoute] using hArmed
  | pass p => exact absurd rfl (hCall p)
  | noteSpeed | setDirect | spin | timerExpiry | swtTimeout | hook => exact hArmed

/-- No call but `arm(2)` arms route 2. -/
theorem next_call_comfortable (hCall : ∀ p, e ≠ .pass p) (hArm : ∀ now due, e ≠ .arm now 2 due)
    (hArmed : ((next cfg s e).routes .comfortableStandstill).dueValid = true) :
    (s.routes .comfortableStandstill).dueValid = true := by
  have hDoneRoute {r : Route} {t : Supervisor}
      (h : ((doneRoute r t).routes .comfortableStandstill).dueValid = true) :
      (t.routes .comfortableStandstill).dueValid = true := by
    by_contra hClosed
    simp [doneRoute_closed r t (by simpa using hClosed)] at h
  cases e with
  | arm now route due =>
      simp only [next, arm] at hArmed
      split at hArmed
      · exact hArmed
      · rename_i r hRoute
        have hOther : r ≠ .comfortableStandstill := by
          rintro rfl
          exact hArm now due (by rw [Route.ofId_eq_some hRoute]; rfl)
        rwa [armRoute_routes_of_ne cfg now r s hOther (by decide)] at hArmed
  | done route =>
      simp only [next, done] at hArmed
      split at hArmed
      · exact hArmed
      · exact hDoneRoute hArmed
  | handover now slot periodMs =>
      simp only [next, handover] at hArmed
      split at hArmed
      · exact hArmed
      · rwa [handoverSlot_routes] at hArmed
  | spinAfter now nowUs report =>
      obtain ⟨levels, h | ⟨due, h⟩ | h⟩ := spinAfter_cases cfg now nowUs report s <;>
        rw [next, h] at hArmed
      · exact hArmed
      · rwa [armRoute_routes_of_ne cfg now _ _ (by decide) (by decide)] at hArmed
      · exact hDoneRoute (t := s.setLevels levels) hArmed
  | pass p => exact absurd rfl (hCall p)
  | noteSpeed | setDirect | spin | timerExpiry | swtTimeout | hook => exact hArmed

/-- Callers that leave routes 3 and 4 alone. -/
def Event.LeavesFloor : Event → Prop
  | .arm _ route _ => route ≠ 3 ∧ route ≠ 4
  | _ => True

def FloorClosed (s : Supervisor) : Prop :=
  (s.routes .emergencyStandstill).dueValid = false ∧
    (s.routes .emergencyResponse).dueValid = false

variable (cfg) in
/-- A call that arms neither leaves closed floor routes closed. -/
theorem next_call_floorClosed (hCall : ∀ p, e ≠ .pass p) (hLeaves : e.LeavesFloor)
    (hClosed : s.FloorClosed) : (next cfg s e).FloorClosed := by
  have hDone (r : Route) {t : Supervisor} (h : t.FloorClosed) : (doneRoute r t).FloorClosed :=
    ⟨doneRoute_closed r t h.1, doneRoute_closed r t h.2⟩
  have hArm {now : Int} {r : Route} {due : Int} {t : Supervisor} (h : t.FloorClosed)
      (hFloor : r ≠ .emergencyStandstill) (hResponse : r ≠ .emergencyResponse) :
      (armRoute cfg now r due t).FloorClosed := by
    refine ⟨?_, ?_⟩
    · rw [armRoute_floorRoute, if_neg hFloor, h.1]
    · rw [armRoute_response_of_other _ _ _ _ _ hFloor hResponse, h.2]
  cases e with
  | arm now route due =>
      simp only [next, arm]
      split
      · exact hClosed
      · rename_i r hRoute
        obtain rfl := Route.ofId_eq_some hRoute
        refine hArm hClosed ?_ ?_
        · rintro rfl
          exact hLeaves.1 rfl
        · rintro rfl
          exact hLeaves.2 rfl
  | done route =>
      simp only [next, done]
      split
      · exact hClosed
      · exact hDone _ hClosed
  | handover now slot periodMs =>
      simp only [next, handover]
      split
      · exact hClosed
      · simpa [FloorClosed, handoverSlot_routes] using hClosed
  | spinAfter now nowUs report =>
      obtain ⟨levels, h | ⟨due, h⟩ | h⟩ := spinAfter_cases cfg now nowUs report s <;>
        rw [next, h]
      · exact hClosed
      · exact hArm (t := s.setLevels levels) hClosed (by decide) (by decide)
      · exact hDone _ (t := s.setLevels levels) hClosed
  | pass p => exact absurd rfl (hCall p)
  | noteSpeed | setDirect | spin | timerExpiry | swtTimeout | hook => exact hClosed

/-- No call but a pass arms the response alone. -/
theorem next_call_nested (hCall : ∀ p, e ≠ .pass p) (hResponse : e.LeavesResponse)
    (hNested : s.Nested) : (next cfg s e).Nested := by
  cases e with
  | arm now route due =>
      simp only [next, arm]
      split
      · exact hNested
      · rename_i r hRoute
        refine armRoute_nested _ _ _ _ _ hNested ?_
        rintro rfl
        exact hResponse (Route.ofId_eq_some hRoute)
  | done route =>
      simp only [next, done]
      split
      · exact hNested
      · exact doneRoute_nested _ _ hNested
  | handover now slot periodMs =>
      simp only [next, handover]
      split
      · exact hNested
      · simpa [Nested, handoverSlot_routes] using hNested
  | spinAfter now nowUs report =>
      obtain ⟨levels, h | ⟨due, h⟩ | h⟩ := spinAfter_cases cfg now nowUs report s <;>
        rw [next, h]
      · exact hNested
      · exact armRoute_nested _ _ _ _ _ hNested (by decide)
      · exact doneRoute_nested _ _ hNested
  | pass p => exact absurd rfl (hCall p)
  | noteSpeed | setDirect | spin | timerExpiry | swtTimeout | hook => exact hNested

end Call

section APass
variable (cfg : Config) (p : Pass) (s : Supervisor)

def Pass.swept : Supervisor × List Route := Supervisor.sweep cfg (p.sweep s) (countWake s)

/-- What a woken pass takes, it acts on. -/
theorem taken_of_woken (hWoken : p.woken = true) :
    OutputFrame (p.swept cfg s).1 (taken cfg p s) := by
  rw [taken, if_pos hWoken]
  exact actOn_frame ..

theorem taken_of_timeout (hWoken : p.woken = false) : taken cfg p s = s := by
  simp [taken, hWoken]

theorem swept_frame : SweepFrame s (p.swept cfg s).1 :=
  .trans (t := countWake s) ⟨rfl, rfl, rfl, rfl, rfl, rfl, rfl⟩ (sweep_frame ..)

theorem taken_slots : (taken cfg p s).slots = s.slots := by
  cases hWoken : p.woken with
  | true => exact (taken_of_woken cfg p s hWoken).slots.trans (swept_frame cfg p s).slots
  | false => rw [taken_of_timeout cfg p s hWoken]

theorem taken_speed : (taken cfg p s).speed = s.speed := by
  cases hWoken : p.woken with
  | true => exact (taken_of_woken cfg p s hWoken).speed.trans (swept_frame cfg p s).speed
  | false => rw [taken_of_timeout cfg p s hWoken]

/-- A latched output is taken as it was. -/
theorem taken_latch (hLatched : s.latch.latched = true) : (taken cfg p s).latch = s.latch := by
  cases hWoken : p.woken with
  | true =>
      have hSwept := (swept_frame cfg p s).latch
      rw [taken, if_pos hWoken]
      exact (actOn_latch _ _ _ (by rwa [← Pass.swept, hSwept])).trans hSwept
  | false => rw [taken_of_timeout cfg p s hWoken]

/-- The braking command starts with the latch. -/
theorem taken_brake : (taken cfg p s).brake =
    if s.latch.latched = false ∧ (taken cfg p s).latch.latched = true then
      (startBrake p.now s).brake
    else s.brake := by
  cases hWoken : p.woken with
  | true =>
      have hSwept := swept_frame cfg p s
      rw [taken, if_pos hWoken, react, actOn_brake, ← Pass.swept, hSwept.latch, hSwept.brake]
      simp [startBrake, speedFresh, hSwept.speed]
  | false =>
      rw [taken_of_timeout cfg p s hWoken]
      cases s.latch.latched <;> simp

/-- And the direct path's first publish is due at once. -/
theorem taken_directNextMs : (taken cfg p s).directNextMs =
    if s.latch.latched = false ∧ (taken cfg p s).latch.latched = true then p.now
    else s.directNextMs := by
  cases hWoken : p.woken with
  | true =>
      have hSwept := swept_frame cfg p s
      rw [taken, if_pos hWoken, react, actOn_directNextMs, ← Pass.swept, hSwept.latch,
        hSwept.directNextMs]
  | false =>
      rw [taken_of_timeout cfg p s hWoken]
      cases s.latch.latched <;> simp

/-- The service leaves the latch and the fault alone. -/
theorem pass_frame : ServiceFrame (taken cfg p s) (pass cfg p s).1 := by
  unfold pass
  split_ifs
  · exact directWatch_frame.trans directService_frame.toServiceFrame
  · exact .refl _

@[simp] theorem pass_speed : (pass cfg p s).1.speed = s.speed :=
  (pass_frame cfg p s).speed.trans (taken_speed cfg p s)

@[simp] theorem pass_latch : (pass cfg p s).1.latch = (taken cfg p s).latch := by
  unfold pass
  split_ifs
  · exact directService_frame.latch.trans directWatch_latch
  · rfl

/-- Only a sweep finds the fault. -/
theorem pass_fault_of_woken (hWoken : p.woken = true) :
    (pass cfg p s).1.fault = (p.swept cfg s).1.fault :=
  (pass_frame cfg p s).fault.trans (taken_of_woken cfg p s hWoken).fault

theorem pass_fault_of_timeout (hWoken : p.woken = false) :
    (pass cfg p s).1.fault = s.fault := by
  rw [(pass_frame cfg p s).fault, taken_of_timeout cfg p s hWoken]

/-- The direct path's service leaves an armed floor as the pass left it. -/
theorem pass_of_armed (hArmed : ((taken cfg p s).routes .emergencyStandstill).dueValid = true) :
    (pass cfg p s).1.routes = (taken cfg p s).routes := by
  unfold pass
  split_ifs
  · exact directService_frame.routes.trans (directWatch_of_armed hArmed)
  · rfl

/-- The fault is final over a pass. -/
theorem pass_fault_eq (hFault : s.fault.vehicleFault = true) :
    (pass cfg p s).1.fault = s.fault := by
  cases hWoken : p.woken with
  | true =>
      rw [pass_fault_of_woken cfg p s hWoken]
      exact sweep_fault_eq (s := countWake s) hFault
  | false => exact pass_fault_of_timeout cfg p s hWoken

/-- The verdict MET is the one the supervisor counts. -/
theorem pass_met (hWoken : p.woken = true) (hMet : s.FloorMet p.now) :
    (pass cfg p s).1.floor.met = s.floor.met + 1 := by
  have hSwept : (p.swept cfg s).1.floor.met = s.floor.met + 1 :=
    sweep_met (s := countWake s) hMet
  rw [← (taken_of_woken cfg p s hWoken).floor] at hSwept
  unfold pass
  split_ifs
  · rw [directService_frame.floor, directWatch_met, hSwept]
  · exact hSwept

/-- A woken pass keeps route 3 armed past its own time, unless the floor was
met or the fault is declared. -/
theorem pass_kept (hWoken : p.woken = true)
    (hArmed : (s.routes .emergencyStandstill).dueValid = true) :
    (((pass cfg p s).1.routes .emergencyStandstill).dueValid = true ∧
      (s.BrakeAge p.now → p.now < ((pass cfg p s).1.routes .emergencyStandstill).dueMs)) ∨
    s.FloorMet p.now ∨ (pass cfg p s).1.fault.vehicleFault = true := by
  have hTaken := (taken_of_woken cfg p s hWoken).routes
  rcases sweep_kept cfg (p.sweep s) (s := countWake s) hArmed with ⟨hKept, hLater⟩ | hMet | hFault
  · have hRoutes := pass_of_armed cfg p s (by rw [hTaken]; exact hKept)
    rw [hRoutes, hTaken]
    exact .inl ⟨hKept, hLater⟩
  · exact .inr (.inl hMet)
  · exact .inr (.inr (by rw [pass_fault_of_woken cfg p s hWoken]; exact hFault))

/-- A pass on a timeout leaves an armed floor alone. -/
theorem pass_kept_of_timeout (hWoken : p.woken = false)
    (hArmed : (s.routes .emergencyStandstill).dueValid = true) :
    (pass cfg p s).1.routes = s.routes := by
  have hTaken := taken_of_timeout cfg p s hWoken
  rw [pass_of_armed cfg p s (by rwa [hTaken]), hTaken]

/-- A pass keeps the response check inside the floor's. -/
theorem pass_nested (hNested : s.Nested) : (pass cfg p s).1.Nested := by
  have hTaken : (taken cfg p s).Nested := by
    cases hWoken : p.woken with
    | true =>
        have hSwept : (p.swept cfg s).1.Nested := sweep_nested (s := countWake s) hNested
        simpa [Nested, (taken_of_woken cfg p s hWoken).routes] using hSwept
    | false => rwa [taken_of_timeout cfg p s hWoken]
  unfold pass
  split_ifs
  · simpa [Nested, directService_frame.routes] using directWatch_nested cfg hTaken
  · exact hTaken

theorem taken_resumable (now : Int) (i : Slot) :
    (taken cfg p s).resumable cfg now i = s.resumable cfg now i := by
  simp [resumable, taken_slots]

/-- A pass that finds the fault starts latched, at the due of the route that
finds it. -/
theorem pass_faultFound (hBefore : s.fault.vehicleFault = false)
    (hAfter : (pass cfg p s).1.fault.vehicleFault = true) :
    p.woken = true ∧ s.FaultFound cfg p.now := by
  cases hWoken : p.woken with
  | true =>
      rw [pass_fault_of_woken cfg p s hWoken] at hAfter
      exact ⟨rfl, faultFound_of_sweep (s := countWake s) hBefore hAfter⟩
  | false => simp [pass_fault_of_timeout cfg p s hWoken, hBefore] at hAfter

/-- The floor routes stay closed over a pass in which the operator's slot does
not resume, if they are or if the pass finds the fault. -/
theorem pass_floorClosed (hQuiet : s.resumable cfg p.serviceNow .operator = false)
    (hClosed : s.FloorClosed ∨
      s.fault.vehicleFault = false ∧ (pass cfg p s).1.fault.vehicleFault = true) :
    (pass cfg p s).1.FloorClosed := by
  have hTaken : (taken cfg p s).FloorClosed := by
    cases hWoken : p.woken with
    | true =>
        rw [pass_fault_of_woken cfg p s hWoken] at hClosed
        simp only [FloorClosed, (taken_of_woken cfg p s hWoken).routes]
        rcases hClosed with hClosed | ⟨hBefore, hAfter⟩
        · have hNested : (countWake s).Nested := fun h => absurd (hClosed.2.symm.trans h) (by decide)
          have hFloor : ((p.swept cfg s).1.routes .emergencyStandstill).dueValid = false :=
            sweep_closed hNested hClosed.1
          have hSwept : (p.swept cfg s).1.Nested := sweep_nested hNested
          refine ⟨hFloor, ?_⟩
          by_contra hOpen
          have hUnder := hSwept (by simpa using hOpen)
          simp [hFloor] at hUnder
        · exact sweep_closed_of_fault (s := countWake s) hBefore hAfter
    | false =>
        rw [taken_of_timeout cfg p s hWoken]
        refine hClosed.resolve_right fun ⟨hBefore, hAfter⟩ => ?_
        simp [pass_fault_of_timeout cfg p s hWoken, hBefore] at hAfter
  unfold pass
  split_ifs
  · rw [← taken_resumable cfg p] at hQuiet
    simpa [FloorClosed, directService_frame.routes, directWatch_of_not_resumable hQuiet] using hTaken
  · exact hTaken

/-- The direct path touches no route off the floor. -/
theorem pass_routes_of_ne {q : Route} (hFloor : q ≠ .emergencyStandstill)
    (hResponse : q ≠ .emergencyResponse) :
    (pass cfg p s).1.routes q = (taken cfg p s).routes q := by
  unfold pass
  split_ifs
  · rw [directService_frame.routes, directWatch_routes_of_ne hFloor hResponse]
  · rfl

/-- A pass does not arm route 2. -/
theorem pass_comfortable
    (hArmed : ((pass cfg p s).1.routes .comfortableStandstill).dueValid = true) :
    (s.routes .comfortableStandstill).dueValid = true := by
  rw [pass_routes_of_ne cfg p s (by decide) (by decide)] at hArmed
  cases hWoken : p.woken with
  | true =>
      rw [(taken_of_woken cfg p s hWoken).routes] at hArmed
      exact sweep_comfortable cfg _ (countWake s) hArmed
  | false => rwa [taken_of_timeout cfg p s hWoken] at hArmed

/-- Route 1 after a woken pass: its own verdict at its due. -/
theorem pass_executor (hWoken : p.woken = true) : (pass cfg p s).1.routes .executor =
    if s.dueBy .executor p.now then executorVerdict (p.sweep s) (s.routes .executor)
    else s.routes .executor := by
  rw [pass_routes_of_ne cfg p s (by decide) (by decide), (taken_of_woken cfg p s hWoken).routes]
  exact sweep_executor cfg (p.sweep s) (countWake s)

theorem pass_executor_of_timeout (hWoken : p.woken = false) :
    (pass cfg p s).1.routes .executor = s.routes .executor := by
  rw [pass_routes_of_ne cfg p s (by decide) (by decide), taken_of_timeout cfg p s hWoken]

/-- A pass resumes a slot of a latched output that it finds silent. -/
theorem pass_resumed (i : Slot) : ((pass cfg p s).1.slots i).resumed =
    ((s.slots i).resumed || (taken cfg p s).latch.latched &&
      (taken cfg p s).resumable cfg p.serviceNow i) := by
  unfold pass
  cases hLatched : (taken cfg p s).latch.latched with
  | true => simp [directService_resumed, taken_slots]
  | false => simp [taken_slots]

/-- The braking command runs from the operator slot's resume, or from the
pass that latched, or on. -/
theorem pass_brake : (pass cfg p s).1.brake =
    if (s.slots .operator).resumed = false ∧ ((pass cfg p s).1.slots .operator).resumed = true then
      (startBrake p.serviceNow s).brake
    else if s.latch.latched = false ∧ (pass cfg p s).1.latch.latched = true then
      (startBrake p.now s).brake
    else s.brake := by
  rw [pass_latch, pass_resumed, ← taken_brake]
  have hWatched : (taken cfg p s).resumable cfg p.serviceNow .operator = true →
      (s.slots .operator).resumed = false := by
    intro hResumable
    simp [resumable, DirectSlot.watched, taken_slots] at hResumable
    exact hResumable.1.2
  unfold pass
  cases hLatched : (taken cfg p s).latch.latched with
  | true =>
      simp only [if_true, Bool.true_and, directService_frame.brake, directWatch_brake]
      cases hResumable : (taken cfg p s).resumable cfg p.serviceNow .operator with
      | true => simp [hWatched hResumable, startBrake, speedFresh, taken_speed]
      | false =>
          cases (s.slots .operator).resumed <;> simp
  | false =>
      cases (s.slots .operator).resumed <;> simp

end APass
end SafetyIsland.Supervisor
