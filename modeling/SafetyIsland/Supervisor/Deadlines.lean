import SafetyIsland.Supervisor.Run

/-! The due table. Whatever lets go of the lock leaves the table, the record
and the timer in agreement, and a sweep leaves no due behind. -/
namespace SafetyIsland.Supervisor

/-- The record says of every route what the table says. -/
def Recorded (s : Supervisor) : Prop := ∀ r, (s.routes r).Agrees

/-- The timer is set to the earliest armed due, or stopped. -/
structure DeadlinesSet (s : Supervisor) : Prop where
  recorded : s.Recorded
  timed : s.dueTimer.expiry = earliest s.routes

/-- A region under the lock keeps the deadlines, and no expiry is made up. -/
structure DeadlinesKept (s t : Supervisor) : Prop where
  set : s.DeadlinesSet → t.DeadlinesSet
  fired : t.dueTimer.fired = true → s.dueTimer.fired = true

namespace DeadlinesKept
variable {s t u : Supervisor}

theorem refl (s : Supervisor) : DeadlinesKept s s := ⟨id, id⟩

/-- What two steps keep, both together do. -/
theorem trans (first : DeadlinesKept s t) (second : DeadlinesKept t u) : DeadlinesKept s u where
  set h := second.set (first.set h)
  fired h := first.fired (second.fired h)

/-- Nothing of the table or the timer is touched. -/
theorem of_same (hRoutes : t.routes = s.routes) (hTimer : t.dueTimer = s.dueTimer) :
    DeadlinesKept s t where
  set h := ⟨by simpa [Recorded, hRoutes] using h.recorded, by rw [hRoutes, hTimer, h.timed]⟩
  fired h := by rwa [hTimer] at h

/-- The timer is re-armed before the lock is let go. -/
theorem of_rearm (h : s.Recorded → t.Recorded) : DeadlinesKept s (rearmLocked t) where
  set hSet := ⟨h hSet.recorded, rfl⟩
  fired hFired := nomatch hFired

end DeadlinesKept

section Record
variable {cfg : Config} {now : Int} {s : Supervisor}

theorem Recorded.congr {t : Supervisor} (h : s.Recorded) (hRoutes : t.routes = s.routes) :
    t.Recorded := by
  intro r
  rw [hRoutes]
  exact h r

/-- A route that agrees with its record may be put back. -/
theorem Recorded.setRoute (h : s.Recorded) {r : Route} {x : RouteState} (hx : x.Agrees) :
    (s.setRoute r x).Recorded := by
  intro q
  by_cases hSame : q = r
  · subst hSame
    simpa using hx
  · simpa [hSame] using h q

theorem Recorded.responseArmLocked (h : s.Recorded) (start : Int) (refMmS : U32) (refOk : Bool) :
    (responseArmLocked cfg start refMmS refOk s).Recorded := by
  unfold Supervisor.responseArmLocked
  split_ifs
  · exact h
  · exact h.setRoute (RouteState.agrees_clear _)
  · exact h.setRoute (RouteState.agrees_arm ..)

theorem Recorded.responseClearLocked (h : s.Recorded) : (responseClearLocked s).Recorded := by
  unfold Supervisor.responseClearLocked
  split_ifs
  · exact h.setRoute (RouteState.agrees_clear _)
  · exact h

theorem Recorded.countMiss (h : s.Recorded) (r : Route) : (countMiss r s).Recorded :=
  h.setRoute ((RouteState.agrees_countFired _).mpr (h r))

theorem Recorded.latchFloor (h : s.Recorded) : (latchFloor cfg now s).Recorded := by
  have hFloor : (s.setRoute .emergencyStandstill
      ((s.routes .emergencyStandstill).rearm (now + cfg.floorSpanMs))).Recorded :=
    h.setRoute (RouteState.agrees_rearm ..)
  apply Recorded.responseArmLocked
  exact hFloor.congr rfl

theorem Recorded.declareFault (h : s.Recorded) (r other : Route) :
    (declareFault now r other s).Recorded :=
  h.setRoute (RouteState.agrees_clear _)

/-- Route 1's verdict records what it decides. -/
theorem Recorded.expireExecutor (h : s.Recorded) (sw : Sweep) :
    (expireExecutor sw s).1.Recorded := by
  unfold Supervisor.expireExecutor
  dsimp only
  split
  · exact h.setRoute ((RouteState.agrees_countDone _).mpr (h _))
  · split
    · exact h.setRoute (RouteState.agrees_rearm ..)
    · exact h.countMiss _

/-- So does route 2's. -/
theorem Recorded.expireComfortable (h : s.Recorded) : (expireComfortable now s).1.Recorded := by
  unfold Supervisor.expireComfortable
  split_ifs
  · exact h.setRoute ((RouteState.agrees_countDone _).mpr (h _))
  · apply Recorded.countMiss
    exact h.congr rfl

/-- Route 3's, too. -/
theorem Recorded.expireFloor (h : s.Recorded) : (expireFloor cfg now s).1.Recorded := by
  have hStale : (noteStale now s).Recorded := h.congr rfl
  have hMiss := hStale.countMiss .emergencyStandstill
  rcases expireFloor_cases cfg now s with ⟨-, hTurn⟩ | ⟨-, hTurn⟩ | ⟨-, -, hTurn⟩ |
    ⟨-, -, -, hTurn⟩ | ⟨-, -, -, -, hTurn⟩ <;> rw [hTurn]
  · exact h.setRoute (RouteState.agrees_rearm ..)
  · have hDone : (s.setRoute .emergencyStandstill
        (s.routes .emergencyStandstill).countDone).Recorded :=
      h.setRoute ((RouteState.agrees_countDone _).mpr (h _))
    exact hDone.setRoute (RouteState.agrees_clear _)
  · exact h.setRoute (RouteState.agrees_rearm ..)
  · apply Recorded.latchFloor
    exact hMiss.congr rfl
  · exact hMiss.declareFault _ _

/-- And route 4's. -/
theorem Recorded.expireResponse (h : s.Recorded) : (expireResponse cfg now s).1.Recorded := by
  have hShed : (noteShed (noteStale now s)).Recorded := h.congr rfl
  have hMiss := hShed.countMiss .emergencyResponse
  rcases expireResponse_cases cfg now s with ⟨-, hTurn⟩ | ⟨-, -, hTurn⟩ | ⟨-, -, hTurn⟩ |
    ⟨-, -, -, hTurn⟩ <;> rw [hTurn]
  · exact h.setRoute ((RouteState.agrees_countDone _).mpr (h _))
  · apply Recorded.responseArmLocked
    exact hShed.congr rfl
  · apply Recorded.latchFloor
    exact hMiss.congr rfl
  · exact hMiss.declareFault _ _

theorem Recorded.expire (h : s.Recorded) (sw : Sweep) (r : Route) :
    (expire cfg sw r s).1.Recorded := by
  cases r with
  | callMrmHpcLoss => exact h.countMiss _
  | executor => exact h.expireExecutor sw
  | comfortableStandstill => exact h.expireComfortable
  | emergencyStandstill => exact h.expireFloor
  | emergencyResponse => exact h.expireResponse

theorem Recorded.sweepRoute {x : Supervisor × List Route} (h : x.1.Recorded) (sw : Sweep)
    (r : Route) : (sweepRoute cfg sw x r).1.Recorded := by
  unfold Supervisor.sweepRoute
  split_ifs
  · exact (h.setRoute (RouteState.agrees_clear _)).expire sw r
  · exact h

/-- A sweep records every verdict it gives. -/
theorem Recorded.sweepRoutes (rs : List Route) (sw : Sweep) {x : Supervisor × List Route}
    (h : x.1.Recorded) : (rs.foldl (Supervisor.sweepRoute cfg sw) x).1.Recorded := by
  induction rs generalizing x with
  | nil => exact h
  | cons r rs ih => exact ih (h.sweepRoute sw r)

end Record

section Regions
variable (cfg : Config) (now : Int) (s : Supervisor)

/-- A sweep loses no deadline. -/
theorem sweep_deadlines (sw : Sweep) : DeadlinesKept s (sweep cfg sw s).1 :=
  .of_rearm fun h => Recorded.sweepRoutes Route.all sw (x := (s, [])) h

/-- Arming a route loses none. -/
theorem armRoute_deadlines (r : Route) (due : Int) :
    DeadlinesKept s (armRoute cfg now r due s) := by
  apply DeadlinesKept.of_rearm
  intro h
  have hArm : (s.setRoute r ((s.routes r).arm due)).Recorded :=
    h.setRoute (RouteState.agrees_arm ..)
  split
  · apply Recorded.responseArmLocked
    exact hArm.congr rfl
  · exact hArm

/-- Clearing one loses none but its own. -/
theorem doneRoute_deadlines (r : Route) : DeadlinesKept s (doneRoute r s) := by
  unfold doneRoute
  split
  · apply DeadlinesKept.of_rearm
    intro h
    have hClear : (s.setRoute r (s.routes r).clear.countDone).Recorded :=
      h.setRoute (RouteState.agrees_clear _)
    split
    · apply Recorded.responseClearLocked
      exact hClear.congr rfl
    · exact hClear
  · exact .refl s

/-- Opening the floor loses none. -/
theorem reopenFloor_deadlines : DeadlinesKept s (reopenFloor cfg now s) := by
  unfold reopenFloor
  split
  · exact .refl s
  · apply DeadlinesKept.of_rearm
    intro h
    have hArm : (s.setRoute .emergencyStandstill
        ((s.routes .emergencyStandstill).arm (now + cfg.floorSpanMs))).Recorded :=
      h.setRoute (RouteState.agrees_arm ..)
    apply Recorded.responseArmLocked
    exact hArm.congr rfl

/-- Nor does a resume. -/
theorem resumeSlot_deadlines (i : Slot) : DeadlinesKept s (resumeSlot cfg now i s) := by
  unfold resumeSlot
  dsimp only
  split
  · refine DeadlinesKept.trans ?_ (reopenFloor_deadlines cfg now _)
    exact .of_same rfl rfl
  · exact .of_same rfl rfl

/-- Nor does the watch over the slots. -/
theorem directWatch_deadlines : DeadlinesKept s (directWatch cfg now s).1 := by
  have hHandler : DeadlinesKept s
      (if s.resumable cfg now .handler then resumeSlot cfg now .handler s else s) := by
    split
    · exact resumeSlot_deadlines ..
    · exact .refl s
  rw [directWatch_fst]
  split
  · exact hHandler.trans (resumeSlot_deadlines ..)
  · exact hHandler

/-- Nor does the direct path's whole service. -/
theorem directService_deadlines (publishNow : Int) :
    DeadlinesKept s (directService cfg now publishNow s).1 :=
  (directWatch_deadlines cfg now s).trans
    (.of_same directService_frame.routes directService_frame.dueTimer)

end Regions

/-- What is due afterwards was due before. -/
def Settles (now : Int) (s t : Supervisor) : Prop :=
  ∀ r, t.dueBy r now = true → s.dueBy r now = true

/-- Route 3, due, is to wait for the end of a settle that has gone by. -/
def FloorBehind (cfg : Config) (s : Supervisor) (now : Int) : Prop :=
  s.dueBy .emergencyStandstill now = true ∧ s.speed.atMs ≠ 0 ∧
    s.floorVerdict cfg now = .wait ∧ s.brake.since + cfg.floorSpanMs ≤ now

/-- Route 4, due, is to wait for the end of a response span that has gone by. -/
def ResponseBehind (cfg : Config) (s : Supervisor) (now : Int) : Prop :=
  s.dueBy .emergencyResponse now = true ∧ cfg.responseMs ≠ 0 ∧ s.brake.refOk = true ∧
    s.responseVerdict cfg now = .wait ∧ s.brake.since + cfg.responseSpanMs ≤ now

instance (cfg : Config) (s : Supervisor) (now : Int) : Decidable (s.FloorBehind cfg now) := by
  unfold FloorBehind
  infer_instance

instance (cfg : Config) (s : Supervisor) (now : Int) : Decidable (s.ResponseBehind cfg now) := by
  unfold ResponseBehind
  infer_instance

/-- What a sweep relies on: its clocks agree, route 1's answer is one nano-ros
gives, and no floor route is to wait for what has gone by. -/
structure SweepOk (cfg : Config) (sw : Sweep) (s : Supervisor) : Prop where
  clocks : 1000 * sw.now ≤ sw.nowUs
  route1Left : sw.route1Left = 0 ∨ sw.route1Left = answered ∨ 0 < sw.route1Left.toInt
  floor : ¬ s.FloorBehind cfg sw.now
  response : ¬ s.ResponseBehind cfg sw.now

section Settle
variable {cfg : Config} {now : Int} {s t u : Supervisor}

theorem Settles.refl (s : Supervisor) : Settles now s s := fun _ => id

/-- A step that settles after one that settles, settles. -/
theorem Settles.trans (first : Settles now s t) (second : Settles now t u) : Settles now s u :=
  fun r h => first r (second r h)

theorem Settles.congr (hRoutes : t.routes = s.routes) : Settles now s t := by
  intro r h
  simpa [dueBy, hRoutes] using h

theorem Settles.rearmLocked : Settles now s (rearmLocked s) := .congr rfl

/-- A route's new entry is due later, if it is due. -/
theorem Settles.setRoute {r : Route} {x : RouteState}
    (hLater : x.dueValid = true → x.dueMs ≤ now → s.dueBy r now = true) :
    Settles now s (s.setRoute r x) := by
  intro q h
  by_cases hSame : q = r
  · subst hSame
    simp only [dueBy, setRoute_routes, Function.update_self, Bool.and_eq_true,
      decide_eq_true_eq] at h
    exact hLater h.1 h.2
  · simpa [dueBy, hSame] using h

/-- A count leaves the due as it was. -/
theorem Settles.setRoute_same {r : Route} {x : RouteState}
    (hValid : x.dueValid = (s.routes r).dueValid) (hDue : x.dueMs = (s.routes r).dueMs) :
    Settles now s (s.setRoute r x) := by
  apply Settles.setRoute
  intro h hLe
  simp [dueBy, ← hValid, ← hDue, h, hLe]

/-- A due that is armed later than now is not reached. -/
theorem Settles.setRoute_rearm {r : Route} {x : RouteState} (hLater : now < x.dueMs) :
    Settles now s (s.setRoute r x) := by
  apply Settles.setRoute
  intro _ hLe
  omega

theorem Settles.setRoute_clear {r : Route} {x : RouteState} (hClear : x.dueValid = false) :
    Settles now s (s.setRoute r x) := by
  apply Settles.setRoute
  intro h
  simp [hClear] at h

/-- Route 4 is armed for what is still to come. -/
theorem Settles.responseArmLocked {start : Int} {refOk : Bool}
    (hLater : cfg.responseMs ≠ 0 → refOk = true → now < start + cfg.responseSpanMs)
    (refMmS : U32) : Settles now s (responseArmLocked cfg start refMmS refOk s) := by
  unfold Supervisor.responseArmLocked
  split_ifs with hNone hRef
  · exact .refl s
  · exact .setRoute_clear rfl
  · exact .setRoute_rearm (hLater hNone (by simpa using hRef))

theorem lt_add_floorSpan (cfg : Config) (now : Int) : now < now + cfg.floorSpanMs := by
  have := cfg.floorSpanMs_pos
  omega

theorem lt_add_responseSpan (cfg : Config) (now : Int) (hResponse : cfg.responseMs ≠ 0) :
    now < now + cfg.responseSpanMs := by
  have : 0 < cfg.responseSpanMs := by
    unfold Config.responseSpanMs
    omega
  omega

theorem Settles.countMiss (r : Route) : Settles now s (countMiss r s) :=
  .setRoute_same rfl rfl

theorem Settles.latchFloor : Settles now s (latchFloor cfg now s) := by
  have hFloor : Settles now s (s.setRoute .emergencyStandstill
      ((s.routes .emergencyStandstill).rearm (now + cfg.floorSpanMs))) :=
    .setRoute_rearm (lt_add_floorSpan cfg now)
  apply hFloor.trans
  refine Settles.trans ?_ (.responseArmLocked (fun hOn _ => lt_add_responseSpan cfg now hOn) _)
  exact .congr rfl

theorem Settles.declareFault (r other : Route) : Settles now s (declareFault now r other s) :=
  .setRoute_clear rfl

/-- Rounded up, a time still to come is a millisecond still to come. -/
theorem lt_executorDueMs {nowUs : Int} {us : BitVec 64} (hClocks : 1000 * now ≤ nowUs)
    (hLeft : 0 < us.toInt) : now < executorDueMs nowUs us := by
  have hSum : (now + 1) * 1000 ≤ nowUs + us.toInt + 999 := by omega
  have hDue : now + 1 ≤ executorDueMs nowUs us := Int.le_tdiv_of_mul_le (by decide) hSum
  omega

/-- Route 1's verdict arms nothing in its own past. -/
theorem Settles.expireExecutor {sw : Sweep} (hOk : SweepOk cfg sw t) :
    Settles sw.now s (expireExecutor sw s).1 := by
  unfold Supervisor.expireExecutor
  dsimp only
  split
  · exact .setRoute_same rfl rfl
  · rename_i hNotAnswered
    split
    · rename_i hNotMissed
      have hLeft : 0 < sw.route1Left.toInt :=
        (hOk.route1Left.resolve_left hNotMissed).resolve_left hNotAnswered
      exact .setRoute_rearm (lt_executorDueMs hOk.clocks hLeft)
    · exact .countMiss _

theorem Settles.expireComfortable : Settles now s (expireComfortable now s).1 := by
  unfold Supervisor.expireComfortable
  split
  · exact .setRoute_same rfl rfl
  · exact .trans (.congr rfl) (.countMiss _)

/-- Nor does route 3's, where its wait is still to come. -/
theorem Settles.expireFloor (hWait : s.speed.atMs ≠ 0 → s.floorVerdict cfg now = .wait →
    now < s.brake.since + cfg.floorSpanMs) : Settles now s (expireFloor cfg now s).1 := by
  have hStale : Settles now s (noteStale now s) := .congr rfl
  have hMiss := hStale.trans (Settles.countMiss .emergencyStandstill)
  unfold Supervisor.expireFloor
  split
  · exact .setRoute_rearm (lt_add_floorSpan cfg now)
  · rename_i hSeen
    cases hVerdict : s.floorVerdict cfg now with
    | met =>
        have hDone : Settles now s (s.setRoute .emergencyStandstill
          (s.routes .emergencyStandstill).countDone) := .setRoute_same rfl rfl
        exact hDone.trans (.setRoute_clear rfl)
    | wait => exact .setRoute_rearm (hWait (by simpa [Judge.unseen] using hSeen) hVerdict)
    | latch => exact hMiss.trans (.trans (.congr rfl) .latchFloor)
    | vehicleFault => exact hMiss.trans (.declareFault _ _)

/-- Nor does route 4's. -/
theorem Settles.expireResponse (hWait : s.responseVerdict cfg now = .wait → cfg.responseMs ≠ 0 →
    s.brake.refOk = true → now < s.brake.since + cfg.responseSpanMs) :
    Settles now s (expireResponse cfg now s).1 := by
  have hShed : Settles now s (noteShed (noteStale now s)) := .congr rfl
  have hMiss := hShed.trans (Settles.countMiss .emergencyResponse)
  unfold Supervisor.expireResponse
  cases hVerdict : s.responseVerdict cfg now with
  | met => exact .setRoute_same rfl rfl
  | wait => exact hShed.trans (.trans (.congr rfl) (.responseArmLocked (hWait hVerdict) _))
  | latch => exact hMiss.trans (.trans (.congr rfl) .latchFloor)
  | vehicleFault => exact hMiss.trans (.declareFault _ _)

/-- A verdict, from the words before its route was cleared. -/
theorem Settles.expire {sw : Sweep} (hOk : SweepOk cfg sw s) {r : Route}
    (hDue : s.dueBy r sw.now = true) :
    Settles sw.now (s.setRoute r (s.routes r).clear)
      (expire cfg sw r (s.setRoute r (s.routes r).clear)).1 := by
  cases r with
  | callMrmHpcLoss => exact .countMiss _
  | executor => exact .expireExecutor hOk
  | comfortableStandstill => exact .expireComfortable
  | emergencyStandstill =>
      apply Settles.expireFloor
      intro hSeen hWait
      by_contra hBehind
      exact hOk.floor ⟨hDue, hSeen, hWait, not_lt.mp hBehind⟩
  | emergencyResponse =>
      apply Settles.expireResponse
      intro hWait hOn hRef
      by_contra hBehind
      exact hOk.response ⟨hDue, hOn, hRef, hWait, not_lt.mp hBehind⟩

/-- A route's turn leaves its own due behind, and makes up no other. -/
theorem sweepRoute_settles {sw : Sweep} {x : Supervisor × List Route} (hOk : SweepOk cfg sw x.1)
    (r : Route) :
    Settles sw.now x.1 (sweepRoute cfg sw x r).1 ∧
      (sweepRoute cfg sw x r).1.dueBy r sw.now = false := by
  cases hDue : x.1.dueBy r sw.now with
  | false => simp [sweepRoute_of_not_due hDue, hDue, Settles.refl]
  | true =>
      let cleared := x.1.setRoute r (x.1.routes r).clear
      have hClear : Settles sw.now x.1 cleared := .setRoute_clear rfl
      have hExpire : Settles sw.now cleared (Supervisor.expire cfg sw r cleared).1 :=
        .expire hOk hDue
      rw [(sweepRoute_of_due hDue).1]
      refine ⟨hClear.trans hExpire, ?_⟩
      have hGone : cleared.dueBy r sw.now = false := by simp [cleared, dueBy]
      by_contra hStill
      have hBefore := hExpire r (by simpa using hStill)
      simp [hGone] at hBefore

/-- Once latched, what route 4 is judged against changes in its own turn only. -/
theorem sweepRoute_response {sw : Sweep} {x : Supervisor × List Route}
    (hLatched : x.1.latch.latched = true) {r : Route} (hOther : r ≠ .emergencyResponse) :
    (sweepRoute cfg sw x r).1.response = x.1.response := by
  by_cases hFloor : r = .emergencyStandstill
  · subst hFloor
    cases hDue : x.1.dueBy .emergencyStandstill sw.now with
    | false => rw [sweepRoute_of_not_due hDue]
    | true =>
        rw [(sweepRoute_of_due hDue).1, Supervisor.expire]
        rcases expireFloor_cases cfg sw.now (x.1.setRoute .emergencyStandstill
          (x.1.routes .emergencyStandstill).clear) with
          ⟨-, h⟩ | ⟨-, h⟩ | ⟨-, -, h⟩ | ⟨-, -, hUnlatched, -⟩ | ⟨-, -, -, -, h⟩
        · rw [h]
          rfl
        · rw [h]
          rfl
        · rw [h]
          rfl
        · exact absurd (hUnlatched.symm.trans hLatched) (by decide)
        · rw [h]
          rfl
  · exact (sweepRoute_floorSame cfg sw x hFloor hOther).response

/-- What the rest of the sweep relies on. -/
theorem SweepOk.turn {sw : Sweep} {x : Supervisor × List Route} (hOk : SweepOk cfg sw x.1)
    (r : Route) : SweepOk cfg sw (sweepRoute cfg sw x r).1 := by
  have hFrame := sweepRoute_frame cfg sw x r
  obtain ⟨hSettles, hGone⟩ := sweepRoute_settles hOk r
  refine ⟨hOk.clocks, hOk.route1Left, ?_, ?_⟩
  · rintro ⟨hDue, hSeen, hWait, hBehind⟩
    rw [hFrame.speed] at hSeen
    rw [hFrame.brake] at hBehind
    rw [floorVerdict, hFrame.standstillNow_eq, hFrame.brakedMs_eq, hFrame.latch] at hWait
    exact hOk.floor ⟨hSettles _ hDue, hSeen, hWait, hBehind⟩
  · rintro ⟨hDue, hOn, hRef, hWait, hBehind⟩
    rw [hFrame.brake] at hRef hBehind
    by_cases hOther : r = .emergencyResponse
    · subst hOther
      simp [hGone] at hDue
    · have hLatched : x.1.latch.latched = true := by
        rw [← hFrame.latch]
        exact (Judge.floor_eq_wait.mp hWait).2.1
      have hResponse : (sweepRoute cfg sw x r).1.response = x.1.response :=
        sweepRoute_response hLatched hOther
      rw [responseVerdict, hFrame.respondedNow_eq hResponse, hFrame.brakedMs_eq,
        hFrame.latch] at hWait
      exact hOk.response ⟨hSettles _ hDue, hOn, hRef, hWait, hBehind⟩

/-- A sweep leaves none of its routes due. -/
theorem sweepRoutes_settles {sw : Sweep} (rs : List Route) {x : Supervisor × List Route}
    (hOk : SweepOk cfg sw x.1) :
    Settles sw.now x.1 (rs.foldl (sweepRoute cfg sw) x).1 ∧
      ∀ r ∈ rs, (rs.foldl (sweepRoute cfg sw) x).1.dueBy r sw.now = false := by
  induction rs generalizing x with
  | nil => exact ⟨.refl _, by simp⟩
  | cons r rs ih =>
      obtain ⟨hTurn, hGone⟩ := sweepRoute_settles hOk r
      obtain ⟨hRest, hOthers⟩ := ih (hOk.turn r)
      refine ⟨hTurn.trans hRest, ?_⟩
      intro q hMem
      rcases List.mem_cons.mp hMem with rfl | hMem
      · by_contra hStill
        have hBefore := hRest q (by simpa using hStill)
        simp [hGone] at hBefore
      · exact hOthers q hMem

/-- After a sweep no armed due is reached. -/
theorem sweep_dueBy {sw : Sweep} (hOk : SweepOk cfg sw s) (r : Route) :
    (sweep cfg sw s).1.dueBy r sw.now = false :=
  (sweepRoutes_settles Route.all (x := (s, [])) hOk).2 r (Route.mem_all r)

end Settle

section Service
variable (cfg : Config) {now bound : Int} {s : Supervisor}

/-- A resume arms only what is later than itself. -/
theorem Settles.reopenFloor (hLe : bound ≤ now) : Settles bound s (reopenFloor cfg now s) := by
  have hFloor := lt_add_floorSpan cfg now
  have hResponse := lt_add_responseSpan cfg now
  unfold Supervisor.reopenFloor
  split
  · exact .refl s
  · have hArm : Settles bound s (s.setRoute .emergencyStandstill
        ((s.routes .emergencyStandstill).arm (now + cfg.floorSpanMs))) :=
      .setRoute_rearm (lt_of_le_of_lt hLe hFloor)
    refine hArm.trans (.trans (Settles.trans ?_ (.responseArmLocked ?_ _)) .rearmLocked)
    · exact .congr rfl
    · intro hOn _
      exact lt_of_le_of_lt hLe (hResponse hOn)

/-- A resume arms the floor for what is still to come. -/
theorem Settles.resumeSlot (hLe : bound ≤ now) (i : Slot) :
    Settles bound s (resumeSlot cfg now i s) := by
  unfold Supervisor.resumeSlot
  dsimp only
  split
  · exact .trans (.congr rfl) (.reopenFloor cfg hLe)
  · exact .congr rfl

/-- And so does the service. -/
theorem Settles.directService (hLe : bound ≤ now) (publishNow : Int) :
    Settles bound s (directService cfg now publishNow s).1 := by
  have hHandler : Settles bound s
      (if s.resumable cfg now .handler then Supervisor.resumeSlot cfg now .handler s else s) := by
    split
    · exact .resumeSlot cfg hLe _
    · exact .refl s
  have hWatch : Settles bound s (directWatch cfg now s).1 := by
    rw [directWatch_fst]
    split
    · exact hHandler.trans (.resumeSlot cfg hLe _)
    · exact hHandler
  exact hWatch.trans (.congr directService_frame.routes)

end Service

end SafetyIsland.Supervisor
