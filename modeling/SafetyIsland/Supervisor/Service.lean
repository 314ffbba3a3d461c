import SafetyIsland.Supervisor.Sweep

/-! What a pass does after its sweep: the outputs, and the direct path's
service. -/
namespace SafetyIsland.Supervisor

/-- The words the outputs and the direct path leave alone. -/
structure ServiceFrame (s t : Supervisor) : Prop where
  speed : t.speed = s.speed
  fault : t.fault = s.fault
  levels : t.levels = s.levels
  counts : t.counts = s.counts

namespace ServiceFrame
variable {s t u : Supervisor}

theorem refl (s : Supervisor) : ServiceFrame s s := ⟨rfl, rfl, rfl, rfl⟩

theorem trans (first : ServiceFrame s t) (second : ServiceFrame t u) : ServiceFrame s u where
  speed := second.speed.trans first.speed
  fault := second.fault.trans first.fault
  levels := second.levels.trans first.levels
  counts := second.counts.trans first.counts

end ServiceFrame

/-- The words the outputs leave alone: the routes and the slots, too. -/
structure OutputFrame (s t : Supervisor) : Prop extends ServiceFrame s t where
  routes : t.routes = s.routes
  dueTimer : t.dueTimer = s.dueTimer
  slots : t.slots = s.slots
  floor : t.floor = s.floor
  response : t.response = s.response

namespace OutputFrame
variable {s t u : Supervisor}

theorem refl (s : Supervisor) : OutputFrame s s := ⟨.refl s, rfl, rfl, rfl, rfl, rfl⟩

theorem trans (first : OutputFrame s t) (second : OutputFrame t u) : OutputFrame s u where
  toServiceFrame := first.toServiceFrame.trans second.toServiceFrame
  routes := second.routes.trans first.routes
  dueTimer := second.dueTimer.trans first.dueTimer
  slots := second.slots.trans first.slots
  floor := second.floor.trans first.floor
  response := second.response.trans first.response

end OutputFrame

section Outputs
variable (now : Int) (cause : U32) (s : Supervisor)

/-- The safe state writes the output's words alone. -/
theorem safeState_frame : OutputFrame s (safeState now cause s) := by
  unfold safeState
  split_ifs with hLatched
  · exact .refl s
  · exact ⟨⟨rfl, rfl, rfl, rfl⟩, rfl, rfl, rfl, rfl, rfl⟩

@[simp] theorem safeState_latched : (safeState now cause s).latch.latched = true := by
  unfold safeState
  split_ifs with hLatched
  · exact hLatched
  · rfl

/-- The output is driven once: a latch stands. -/
theorem safeState_of_latched (hLatched : s.latch.latched = true) :
    safeState now cause s = s := by
  simp [safeState, hLatched]

@[simp] theorem safeState_brake : (safeState now cause s).brake = s.brake := by
  unfold safeState
  split_ifs <;> rfl

@[simp] theorem safeState_pending : (safeState now cause s).pending = s.pending := by
  unfold safeState
  split_ifs <;> rfl

@[simp] theorem safeState_directNextMs :
    (safeState now cause s).directNextMs = s.directNextMs := by
  unfold safeState
  split_ifs <;> rfl

theorem actOnHook_frame : OutputFrame s (actOnHook now s) := by
  unfold actOnHook
  split_ifs with hPending
  · refine .trans ?_ (safeState_frame ..)
    exact ⟨⟨rfl, rfl, rfl, rfl⟩, rfl, rfl, rfl, rfl, rfl⟩
  · exact .refl s

theorem actOnSwt_frame : OutputFrame s (actOnSwt now s) := by
  unfold actOnSwt
  split_ifs with hPending
  · refine .trans ?_ (safeState_frame ..)
    exact ⟨⟨rfl, rfl, rfl, rfl⟩, rfl, rfl, rfl, rfl, rfl⟩
  · exact .refl s

@[simp] theorem actOnHook_brake : (actOnHook now s).brake = s.brake := by
  unfold actOnHook
  split_ifs <;> simp

@[simp] theorem actOnSwt_brake : (actOnSwt now s).brake = s.brake := by
  unfold actOnSwt
  split_ifs <;> simp

theorem actOnHook_of_latched (hLatched : s.latch.latched = true) :
    (actOnHook now s).latch = s.latch := by
  unfold actOnHook
  split_ifs
  · rw [safeState_of_latched _ _ _ (by exact hLatched)]
    rfl
  · rfl

theorem actOnSwt_of_latched (hLatched : s.latch.latched = true) :
    (actOnSwt now s).latch = s.latch := by
  unfold actOnSwt
  split_ifs
  · rw [safeState_of_latched _ _ _ (by exact hLatched)]
    rfl
  · rfl

theorem startDirect_frame (wasLatched : Bool) : OutputFrame s (startDirect now wasLatched s) := by
  unfold startDirect
  split_ifs <;> exact ⟨⟨rfl, rfl, rfl, rfl⟩, rfl, rfl, rfl, rfl, rfl⟩

@[simp] theorem startDirect_latch (wasLatched : Bool) :
    (startDirect now wasLatched s).latch = s.latch := by
  unfold startDirect
  split_ifs <;> rfl

end Outputs

section ActOn
variable (p : Pass) (fired : List Route) (s : Supervisor)

theorem actOnRoutes_frame (now : Int) : OutputFrame s (actOnRoutes now fired s) := by
  unfold actOnRoutes
  split_ifs
  · exact safeState_frame ..
  · exact .refl s

/-- What a pass acts on writes the output's words alone. -/
theorem actOn_frame : OutputFrame s (actOn p fired s) :=
  (actOnRoutes_frame fired s p.latchNow).trans <| (actOnHook_frame ..).trans <|
    (actOnSwt_frame ..).trans (startDirect_frame ..)

/-- The output, once driven, is not driven again. -/
theorem actOn_latch (hLatched : s.latch.latched = true) : (actOn p fired s).latch = s.latch := by
  have hRoutes : (actOnRoutes p.latchNow fired s).latch = s.latch := by
    unfold actOnRoutes
    split_ifs
    · rw [safeState_of_latched _ _ _ hLatched]
    · rfl
  have hHook : (actOnHook p.latchNow (actOnRoutes p.latchNow fired s)).latch = s.latch :=
    (actOnHook_of_latched _ _ (by rwa [hRoutes])).trans hRoutes
  exact (startDirect_latch ..).trans
    ((actOnSwt_of_latched _ _ (by rwa [hHook])).trans hHook)

/-- A miss latches the output. -/
theorem actOn_latched_of_fired (hFired : fired ≠ []) : (actOn p fired s).latch.latched = true := by
  have hRoutes : (actOnRoutes p.latchNow fired s).latch.latched = true := by simp [actOnRoutes, hFired]
  have hHook : (actOnHook p.latchNow (actOnRoutes p.latchNow fired s)).latch.latched = true := by
    rwa [actOnHook_of_latched _ _ hRoutes]
  refine (congrArg Latch.latched (startDirect_latch ..)).trans ?_
  exact (congrArg Latch.latched (actOnSwt_of_latched _ _ hHook)).trans hHook

/-- The braking command starts at a latching pass's own time, and otherwise
goes on. -/
theorem actOn_brake : (actOn p fired s).brake =
    if s.latch.latched = false ∧ (actOn p fired s).latch.latched = true then
      (startBrake p.now s).brake
    else s.brake := by
  have hRoutes : (actOnRoutes p.latchNow fired s).brake = s.brake := by
    unfold actOnRoutes
    split_ifs <;> simp
  let before := actOnSwt p.latchNow (actOnHook p.latchNow (actOnRoutes p.latchNow fired s))
  have hBefore : before.brake = s.brake := by simp [before, hRoutes]
  have hSpeed : before.speed = s.speed :=
    ((actOnRoutes_frame fired s p.latchNow).trans <| (actOnHook_frame ..).trans <|
      actOnSwt_frame ..).speed
  have hAct : actOn p fired s = startDirect p.now s.latch.latched before := rfl
  rw [hAct, startDirect_latch]
  unfold startDirect
  cases hWas : s.latch.latched <;> cases hIs : before.latch.latched <;>
    simp [hBefore, startBrake, speedFresh, hSpeed]

/-- A latching pass has the direct path publish at once. -/
theorem actOn_directNextMs : (actOn p fired s).directNextMs =
    if s.latch.latched = false ∧ (actOn p fired s).latch.latched = true then p.now
    else s.directNextMs := by
  have hRoutes : (actOnRoutes p.latchNow fired s).directNextMs = s.directNextMs := by
    unfold actOnRoutes
    split_ifs <;> simp
  have hHook (now : Int) (t : Supervisor) : (actOnHook now t).directNextMs = t.directNextMs := by
    unfold actOnHook
    split_ifs
    · exact safeState_directNextMs ..
    · rfl
  have hSwt (now : Int) (t : Supervisor) : (actOnSwt now t).directNextMs = t.directNextMs := by
    unfold actOnSwt
    split_ifs
    · exact safeState_directNextMs ..
    · rfl
  let before := actOnSwt p.latchNow (actOnHook p.latchNow (actOnRoutes p.latchNow fired s))
  have hBefore : before.directNextMs = s.directNextMs := by
    rw [hSwt, hHook, hRoutes]
  have hAct : actOn p fired s = startDirect p.now s.latch.latched before := rfl
  rw [hAct, startDirect_latch]
  unfold startDirect
  cases hWas : s.latch.latched <;> cases hIs : before.latch.latched <;> simp [hBefore]

end ActOn

section Watch
variable (cfg : Config) (now : Int) (s : Supervisor)

/-- Opening the floor writes routes and the braking command alone. -/
theorem reopenFloor_frame : ServiceFrame s (reopenFloor cfg now s) := by
  have hArm (start : Int) (ref : U32) (ok : Bool) (t : Supervisor) :
      ServiceFrame t (responseArmLocked cfg start ref ok t) := by
    unfold responseArmLocked
    split_ifs <;> exact ⟨rfl, rfl, rfl, rfl⟩
  unfold reopenFloor
  split_ifs with hArmed
  · exact .refl s
  · refine .trans (ServiceFrame.trans ?_ (hArm ..)) ⟨rfl, rfl, rfl, rfl⟩
    exact ⟨rfl, rfl, rfl, rfl⟩

@[simp] theorem reopenFloor_of_armed (hArmed : (s.routes .emergencyStandstill).dueValid = true) :
    reopenFloor cfg now s = s := by
  simp [reopenFloor, hArmed]

/-- Where route 3 was closed it is armed for the floor's spans. -/
theorem reopenFloor_floorRoute (hClosed : (s.routes .emergencyStandstill).dueValid = false) :
    (reopenFloor cfg now s).routes .emergencyStandstill =
      (s.routes .emergencyStandstill).arm (now + cfg.floorSpanMs) := by
  simp [reopenFloor, hClosed, rearmLocked, responseArmLocked_routes_of_ne]

theorem reopenFloor_routes_of_ne {r : Route} (hFloor : r ≠ .emergencyStandstill)
    (hResponse : r ≠ .emergencyResponse) : (reopenFloor cfg now s).routes r = s.routes r := by
  unfold reopenFloor
  split_ifs
  · rfl
  · simp [rearmLocked, responseArmLocked_routes_of_ne _ _ hResponse, hFloor]

/-- After a resume of the operator's slot, route 3 watches. -/
theorem reopenFloor_armed :
    ((reopenFloor cfg now s).routes .emergencyStandstill).dueValid = true := by
  cases hArmed : (s.routes .emergencyStandstill).dueValid with
  | true => rwa [reopenFloor_of_armed cfg now s hArmed]
  | false => simp [reopenFloor_floorRoute cfg now s hArmed]

@[simp] theorem reopenFloor_slots : (reopenFloor cfg now s).slots = s.slots := by
  unfold reopenFloor responseArmLocked
  split_ifs <;> rfl

@[simp] theorem reopenFloor_brake : (reopenFloor cfg now s).brake = s.brake := by
  unfold reopenFloor responseArmLocked
  split_ifs <;> rfl

@[simp] theorem reopenFloor_latch : (reopenFloor cfg now s).latch = s.latch := by
  unfold reopenFloor responseArmLocked
  split_ifs <;> rfl

@[simp] theorem reopenFloor_met : (reopenFloor cfg now s).floor.met = s.floor.met := by
  unfold reopenFloor
  split_ifs
  · rfl
  · simp [rearmLocked]

@[simp] theorem reopenFloor_pending : (reopenFloor cfg now s).pending = s.pending := by
  unfold reopenFloor responseArmLocked
  split_ifs <;> rfl

@[simp] theorem reopenFloor_directNextMs :
    (reopenFloor cfg now s).directNextMs = s.directNextMs := by
  unfold reopenFloor responseArmLocked
  split_ifs <;> rfl

variable {cfg now s}

/-- A resume writes its own slot. -/
theorem resumeSlot_slots (i j : Slot) : (resumeSlot cfg now i s).slots j =
    if j = i then (s.slots i).resume now else s.slots j := by
  unfold resumeSlot
  by_cases hOther : j = i
  · subst hOther
    by_cases hOperator : j = .operator <;> simp [hOperator, restartFloor, startBrake]
  · by_cases hOperator : i = .operator <;>
      simp_all [restartFloor, startBrake]

theorem resumeSlot_frame (i : Slot) : ServiceFrame s (resumeSlot cfg now i s) := by
  unfold resumeSlot
  split_ifs
  · refine .trans ?_ (reopenFloor_frame ..)
    exact ⟨rfl, rfl, rfl, rfl⟩
  · exact ⟨rfl, rfl, rfl, rfl⟩

@[simp] theorem resumeSlot_latch (i : Slot) : (resumeSlot cfg now i s).latch = s.latch := by
  unfold resumeSlot
  split_ifs <;> simp [restartFloor, startBrake]

@[simp] theorem resumeSlot_met (i : Slot) :
    (resumeSlot cfg now i s).floor.met = s.floor.met := by
  unfold resumeSlot
  split_ifs <;> simp [restartFloor, startBrake]

@[simp] theorem resumeSlot_pending (i : Slot) : (resumeSlot cfg now i s).pending = s.pending := by
  unfold resumeSlot
  split_ifs <;> simp [restartFloor, startBrake]

@[simp] theorem resumeSlot_directNextMs (i : Slot) :
    (resumeSlot cfg now i s).directNextMs = s.directNextMs := by
  unfold resumeSlot
  split_ifs <;> simp [restartFloor, startBrake]

/-- A resume opens routes 3 and 4 only. -/
theorem resumeSlot_routes_of_ne (i : Slot) {r : Route} (hFloor : r ≠ .emergencyStandstill)
    (hResponse : r ≠ .emergencyResponse) :
    (resumeSlot cfg now i s).routes r = s.routes r := by
  unfold resumeSlot
  split_ifs
  · exact reopenFloor_routes_of_ne cfg now _ hFloor hResponse
  · rfl

/-- A handler's slot resumes with nothing else. -/
theorem resumeSlot_handler :
    resumeSlot cfg now .handler s = s.setSlot .handler ((s.slots .handler).resume now) := by
  simp [resumeSlot]

/-- The operator's slot restarts the braking command at its resume. -/
theorem resumeSlot_operator_brake :
    (resumeSlot cfg now .operator s).brake = (startBrake now s).brake := by
  simp [resumeSlot, restartFloor, startBrake, speedFresh]

/-- The operator's resume leaves route 3 armed. -/
theorem resumeSlot_operator_armed :
    ((resumeSlot cfg now .operator s).routes .emergencyStandstill).dueValid = true := by
  simp [resumeSlot, restartFloor, reopenFloor_armed]

/-- An armed floor is not opened again. -/
theorem resumeSlot_of_armed (i : Slot)
    (hArmed : (s.routes .emergencyStandstill).dueValid = true) :
    (resumeSlot cfg now i s).routes = s.routes := by
  unfold resumeSlot
  split_ifs
  · simp [restartFloor, startBrake, hArmed]
  · rfl

/-- `direct_watch` on the two slots: each resumes by itself, since the
handler's turn leaves the operator's slot alone. -/
theorem directWatch_fst : (directWatch cfg now s).1 =
    (if s.resumable cfg now .operator then resumeSlot cfg now .operator else id)
      (if s.resumable cfg now .handler then resumeSlot cfg now .handler s else s) := by
  have hApart : (resumeSlot cfg now .handler s).resumable cfg now .operator =
      s.resumable cfg now .operator := by
    simp [resumable, resumeSlot_slots]
  unfold directWatch watchSlot
  cases hHandler : s.resumable cfg now .handler <;>
    cases hOperator : s.resumable cfg now .operator <;> simp [hOperator, hApart]

/-- The watch resumes each slot that is silent. -/
theorem directWatch_slots (i : Slot) : (directWatch cfg now s).1.slots i =
    if s.resumable cfg now i then (s.slots i).resume now else s.slots i := by
  rw [directWatch_fst]
  cases i <;> split_ifs <;> simp [resumeSlot_slots]

/-- And leaves the latch and the fault alone. -/
theorem directWatch_frame : ServiceFrame s (directWatch cfg now s).1 := by
  have hFirst : ServiceFrame s
      (if s.resumable cfg now .handler then resumeSlot cfg now .handler s else s) := by
    split_ifs
    · exact resumeSlot_frame _
    · exact .refl s
  rw [directWatch_fst]
  cases s.resumable cfg now .operator with
  | true =>
      rw [if_pos rfl]
      exact hFirst.trans (resumeSlot_frame _)
  | false => exact hFirst

theorem directWatch_routes_of_ne {r : Route} (hFloor : r ≠ .emergencyStandstill)
    (hResponse : r ≠ .emergencyResponse) :
    (directWatch cfg now s).1.routes r = s.routes r := by
  rw [directWatch_fst]
  split_ifs <;> simp [resumeSlot_routes_of_ne _ hFloor hResponse]

@[simp] theorem directWatch_latch : (directWatch cfg now s).1.latch = s.latch := by
  rw [directWatch_fst]
  split_ifs <;> simp

@[simp] theorem directWatch_met : (directWatch cfg now s).1.floor.met = s.floor.met := by
  rw [directWatch_fst]
  split_ifs <;> simp

@[simp] theorem directWatch_pending : (directWatch cfg now s).1.pending = s.pending := by
  rw [directWatch_fst]
  split_ifs <;> simp

@[simp] theorem directWatch_directNextMs :
    (directWatch cfg now s).1.directNextMs = s.directNextMs := by
  rw [directWatch_fst]
  split_ifs <;> simp

/-- The braking command starts again with the operator's resume. -/
theorem directWatch_brake : (directWatch cfg now s).1.brake =
    if s.resumable cfg now .operator then (startBrake now s).brake else s.brake := by
  rw [directWatch_fst]
  split_ifs <;> simp [resumeSlot_operator_brake, resumeSlot_handler, startBrake, speedFresh]

/-- An armed floor is not touched by a resume. -/
theorem directWatch_of_armed (hArmed : (s.routes .emergencyStandstill).dueValid = true) :
    (directWatch cfg now s).1.routes = s.routes := by
  rw [directWatch_fst]
  split_ifs <;> simp [resumeSlot_of_armed, resumeSlot_handler, hArmed]

/-- Only the operator's resume opens the floor. -/
theorem directWatch_of_not_resumable (hQuiet : s.resumable cfg now .operator = false) :
    (directWatch cfg now s).1.routes = s.routes := by
  rw [directWatch_fst]
  split_ifs <;> simp_all [resumeSlot_handler]

variable (cfg) in
/-- The watch keeps the response check inside the floor's. -/
theorem directWatch_nested (hNested : s.Nested) : (directWatch cfg now s).1.Nested := by
  cases hQuiet : s.resumable cfg now .operator with
  | false => simpa [Nested, directWatch_of_not_resumable hQuiet] using hNested
  | true =>
      intro _
      rw [directWatch_fst, hQuiet]
      exact resumeSlot_operator_armed

end Watch

/-- The words a publish leaves alone. -/
structure PublishFrame (s t : Supervisor) : Prop extends ServiceFrame s t where
  routes : t.routes = s.routes
  dueTimer : t.dueTimer = s.dueTimer
  latch : t.latch = s.latch
  brake : t.brake = s.brake
  floor : t.floor = s.floor
  response : t.response = s.response
  pending : t.pending = s.pending

section Publish
variable {cfg : Config} {now publishNow : Int} {s : Supervisor}

/-- The slot after a publish: called once if the direct path owns it. -/
def DirectSlot.published (d : DirectSlot) : DirectSlot :=
  if d.owned then { d with calls := d.calls + 1 } else d

/-- A publish counts a call and changes nothing else of a slot. -/
theorem DirectSlot.published_eq (d : DirectSlot) :
    d.published = { d with calls := d.published.calls } := by
  unfold DirectSlot.published
  split_ifs <;> rfl

@[simp] theorem DirectSlot.published_registered (d : DirectSlot) :
    d.published.registered = d.registered := by rw [published_eq]

@[simp] theorem DirectSlot.published_handover (d : DirectSlot) :
    d.published.handover = d.handover := by rw [published_eq]

@[simp] theorem DirectSlot.published_resumed (d : DirectSlot) :
    d.published.resumed = d.resumed := by rw [published_eq]

@[simp] theorem DirectSlot.published_aliveMs (d : DirectSlot) :
    d.published.aliveMs = d.aliveMs := by rw [published_eq]

@[simp] theorem DirectSlot.published_alivePeriodMs (d : DirectSlot) :
    d.published.alivePeriodMs = d.alivePeriodMs := by rw [published_eq]

/-- One call to each slot the direct path owns, in order. -/
def callsOf (now : Int) (s : Supervisor) : List DirectCall :=
  (Slot.all.filter fun i => (s.slots i).owned).map fun i =>
    { slot := i, seq := (s.slots i).calls, sinceLatchMs := uptime32 (now - s.latch.ms) }

theorem publishSlot_fst (i : Slot) :
    (publishSlot now s i).1 = s.setSlot i (s.slots i).published := by
  unfold publishSlot DirectSlot.published
  dsimp only
  split_ifs with hOwned
  · rfl
  · simp [setSlot]

/-- A publish counts a call to each slot it calls. -/
theorem directPublish_fst : (directPublish now s).1 =
    (s.setSlot .handler (s.slots .handler).published).setSlot .operator
      (s.slots .operator).published := by
  simp [directPublish, publishSlot_fst]

/-- It calls each slot the direct path owns. -/
theorem directPublish_snd : (directPublish now s).2 = callsOf now s := by
  unfold directPublish callsOf Slot.all
  dsimp only
  rw [publishSlot_fst]
  unfold publishSlot
  cases hHandler : (s.slots .handler).owned <;>
    cases hOperator : (s.slots .operator).owned <;> simp [hHandler, hOperator]

theorem directPublish_slots (i : Slot) :
    (directPublish now s).1.slots i = (s.slots i).published := by
  rw [directPublish_fst]
  cases i <;> simp

/-- The publish itself writes the slots' counts and its own due. -/
theorem directService_frame :
    PublishFrame (directWatch cfg now s).1 (directService cfg now publishNow s).1 := by
  unfold directService
  generalize directWatch cfg now s = x
  dsimp only
  rw [directPublish_fst]
  split_ifs <;> exact ⟨⟨rfl, rfl, rfl, rfl⟩, rfl, rfl, rfl, rfl, rfl, rfl, rfl⟩

variable (cfg now publishNow s) in
/-- The service resumes a slot or not; a publish only counts its calls. -/
theorem directService_slots (i : Slot) :
    (directService cfg now publishNow s).1.slots i = (directWatch cfg now s).1.slots i ∨
    (directService cfg now publishNow s).1.slots i =
      ((directWatch cfg now s).1.slots i).published := by
  unfold directService
  dsimp only
  split_ifs
  · exact .inr (directPublish_slots i)
  · exact .inl rfl
  · exact .inr (directPublish_slots i)
  · exact .inl rfl

/-- A slot stands resumed after the service if it was, or was found silent. -/
theorem directService_resumed (i : Slot) :
    ((directService cfg now publishNow s).1.slots i).resumed =
      ((s.slots i).resumed || s.resumable cfg now i) := by
  have hWatch : ((directWatch cfg now s).1.slots i).resumed =
      ((s.slots i).resumed || s.resumable cfg now i) := by
    rw [directWatch_slots]
    cases hResumable : s.resumable cfg now i <;> simp [DirectSlot.resume]
  rcases directService_slots cfg now publishNow s i with h | h <;> rw [h]
  · exact hWatch
  · rw [DirectSlot.published_resumed, hWatch]

/-- What is called belongs to the direct path when it is called. -/
theorem directService_calls {call : DirectCall}
    (hCall : call ∈ (directService cfg now publishNow s).2) :
    ((directWatch cfg now s).1.slots call.slot).owned = true := by
  unfold directService at hCall
  dsimp only at hCall
  split_ifs at hCall <;>
    simp [directPublish_snd, callsOf] at hCall
  all_goals
    obtain ⟨i, ⟨-, hOwned⟩, rfl⟩ := hCall
    exact hOwned

/-- While a slot is the direct path's, its next publish is not behind, and at
most a period away. -/
theorem directService_next :
    ((directService cfg now publishNow s).1.directPending = true →
      now ≤ (directService cfg now publishNow s).1.directNextMs) ∧
    (s.directNextMs ≤ now + cfg.directPeriodMs →
      (directService cfg now publishNow s).1.directNextMs ≤ now + cfg.directPeriodMs) := by
  unfold directService
  generalize hWatched : directWatch cfg now s = x
  have hNext : x.1.directNextMs = s.directNextMs := by rw [← hWatched, directWatch_directNextMs]
  dsimp only
  generalize hKept : (if x.2 then x.1.setDirectNext now else x.1) = kept
  have hBound : s.directNextMs ≤ now + cfg.directPeriodMs →
      kept.directNextMs ≤ now + cfg.directPeriodMs := by
    intro hBefore
    rw [← hKept]
    split
    · simp
    · rwa [hNext]
  split_ifs with hDue
  · constructor
    · intro _
      simp
    · intro _
      simp
  · constructor
    · intro hPending
      by_contra hBehind
      exact hDue (by simp [hPending, (not_le.mp hBehind).le])
    · exact hBound

/-- A slot that is the direct path's by then is called, if its publish is due. -/
theorem directService_called {i : Slot} (hDue : s.directNextMs ≤ now)
    (hOwned : ((directWatch cfg now s).1.slots i).owned = true) :
    ∃ call ∈ (directService cfg now publishNow s).2, call.slot = i := by
  have hPending : (directWatch cfg now s).1.directPending = true := by
    cases i <;> simp [directPending, hOwned]
  have hNext : (directWatch cfg now s).1.directNextMs = s.directNextMs := directWatch_directNextMs
  unfold directService
  generalize directWatch cfg now s = x at hOwned hPending hNext ⊢
  dsimp only
  have hKept : (if x.2 then x.1.setDirectNext now else x.1).directNextMs ≤ now := by
    split
    · simp
    · rwa [hNext]
  have hSlots : (if x.2 then x.1.setDirectNext now else x.1).slots = x.1.slots := by
    split <;> rfl
  have hStays : (if x.2 then x.1.setDirectNext now else x.1).directPending = true := by
    rwa [directPending, hSlots, ← directPending]
  rw [if_pos (by simp [hStays, hKept])]
  rw [← hSlots] at hOwned
  simp only [directPublish_snd, callsOf, List.mem_map, List.mem_filter]
  exact ⟨_, ⟨i, ⟨Slot.mem_all i, hOwned⟩, rfl⟩, rfl⟩

end Publish
end SafetyIsland.Supervisor
