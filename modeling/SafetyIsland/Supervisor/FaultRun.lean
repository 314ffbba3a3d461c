import SafetyIsland.Supervisor.Track

/-! The vehicle fault over whole runs, in true time: it is declared only of a
vehicle that the island's own braking command has not stopped, or not slowed,
for a whole span. The verdicts read 0 for "no sample yet", which is also what
the 32-bit uptime reads in one millisecond of each of its turns. -/
namespace SafetyIsland.Supervisor

open Transition

/-- A fresh sample has shed the least drop from route 4's reference. -/
def World.FreshShed (cfg : Config) (w : World) (now : Int) : Prop :=
  ∃ at' speedMmS, w.history.sample = some (at', speedMmS) ∧ now - at' ≤ 300 ∧
    speedMmS.toNat + cfg.dropMmS ≤ w.state.response.refMmS.toNat

/-- Route 3 was due of a vehicle that still moves, a whole settle into the
braking command that began at `start`. -/
def FloorFault (cfg : Config) (w : World) (start now : Int) : Prop :=
  w.state.dueBy .emergencyStandstill now = true ∧ ¬ w.FreshStandstill now ∧
    start + cfg.floorSpanMs ≤ now

/-- Route 4 was due of a vehicle that does not respond, a response span into
the braking command that began at `start`. -/
def ResponseFault (cfg : Config) (w : World) (start now : Int) : Prop :=
  w.state.dueBy .emergencyResponse now = true ∧ ¬ w.FreshStandstill now ∧
    ¬ w.FreshShed cfg now ∧ start + cfg.responseSpanMs ≤ now

/-- A fault this event declares is the vehicle's: the pass started latched,
and the route that found it judged the braking command from the latest of the
latching pass and the operator slot's resume. -/
def FaultJustified (cfg : Config) (w : World) (e : Event) : Prop :=
  w.state.fault.vehicleFault = false → (w.step cfg e).state.fault.vehicleFault = true →
    ∃ p start, e = .pass p ∧ p.woken = true ∧ w.state.latch.latched = true ∧
      w.history.brakeStart = some start ∧ w.state.brake.since = start ∧
      (FloorFault cfg w start p.now ∨ ResponseFault cfg w start p.now)

/-- The clock goes forward, and the ages stay below one turn of it. -/
structure FaultAllowed (w : World) (e : Event) : Prop where
  ordered : e.Ordered w.history.clock
  aged : e.Aged w.history

instance (w : World) (e : Event) : Decidable (FaultAllowed w e) :=
  decidable_of_iff (e.Ordered w.history.clock ∧ e.Aged w.history)
    ⟨fun ⟨hOrder, hAged⟩ => ⟨hOrder, hAged⟩, fun h => ⟨h.ordered, h.aged⟩⟩

/-- `FaultAllowed`, with every sample stamped. -/
structure StampedAllowed (w : World) (e : Event) : Prop extends FaultAllowed w e where
  stamped : e.Stamped

instance (w : World) (e : Event) : Decidable (StampedAllowed w e) :=
  decidable_of_iff (FaultAllowed w e ∧ e.Stamped)
    ⟨fun ⟨hAllowed, hStamped⟩ => ⟨hAllowed, hStamped⟩, fun h => ⟨h.toFaultAllowed, h.stamped⟩⟩

/-- What the verdicts read of the samples. -/
structure FaultInv (w : World) : Prop where
  tracks : w.Tracks
  stamped : ∀ sample ∈ w.history.sample, uptime32 sample.1 ≠ 0

section Run
variable {cfg : Config} {w : World} {e : Event} {p : Pass}

theorem FaultInv.boot : FaultInv World.boot := ⟨.boot, nofun⟩

theorem FaultInv.step (h : FaultInv w) (hAllowed : StampedAllowed w e) :
    FaultInv (w.step cfg e) where
  tracks := h.tracks.step hAllowed.ordered
  stamped := stamped_step h.stamped hAllowed.stamped

/-- A stamped sample is never taken for a missing one. -/
theorem FaultInv.speedFresh (h : FaultInv w) (hOrder : p.Ordered w.history.clock)
    (hAged : ∀ sample ∈ w.history.sample, p.now - sample.1 < 2 ^ 32) {at' : Int} {speedMmS : U32}
    (hSample : w.history.sample = some (at', speedMmS)) (hFresh : p.now - at' ≤ 300) :
    w.state.speed = { mmS := speedMmS, atMs := uptime32 at' } ∧ uptime32 at' ≠ 0 ∧
      uptime32 p.now - uptime32 at' ≤ Judge.standstillFreshMs := by
  have hLe := h.tracks.sample_le _ hSample
  have hLt := hAged _ hSample
  obtain ⟨hClock, -⟩ := hOrder
  dsimp only at hLe hLt
  exact ⟨by rw [h.tracks.speed, hSample, speedOf], h.stamped _ hSample,
    (sample_age (by omega) hLt).mpr hFresh⟩

/-- A vehicle judged moving has no fresh sample of a standstill. -/
theorem FaultInv.not_freshStandstill (h : FaultInv w) (hOrder : p.Ordered w.history.clock)
    (hAged : ∀ sample ∈ w.history.sample, p.now - sample.1 < 2 ^ 32)
    (hMoving : w.state.standstillNow p.now = false) : ¬ w.FreshStandstill p.now := by
  rintro ⟨at', hSample, hFresh⟩
  obtain ⟨hSpeed, hSeen, hAge⟩ := h.speedFresh hOrder hAged hSample hFresh
  have hStopped : w.state.standstillNow p.now = true :=
    Judge.standstill_eq_true.mpr (by simpa [hSpeed] using ⟨hSeen, hAge⟩)
  simp [hStopped] at hMoving

/-- One judged not to respond has no fresh sample of the drop. -/
theorem FaultInv.not_freshShed (h : FaultInv w) (hOrder : p.Ordered w.history.clock)
    (hAged : ∀ sample ∈ w.history.sample, p.now - sample.1 < 2 ^ 32)
    (hSlow : w.state.respondedNow cfg p.now = false) : ¬ w.FreshShed cfg p.now := by
  rintro ⟨at', speedMmS, hSample, hFresh, hShed⟩
  obtain ⟨hSpeed, hSeen, hAge⟩ := h.speedFresh hOrder hAged hSample hFresh
  refine (Judge.responded_eq_false.mp hSlow).2 ⟨?_, ?_, ?_⟩
  · simpa [Supervisor.speedFresh, Judge.stale_eq_false, hSpeed, hAge] using hSeen
  · rw [hSpeed, BitVec.le_def]
    dsimp only
    omega
  · have hDrop := cfg.dropMmS_range
    have hSub : speedMmS ≤ w.state.response.refMmS := by
      rw [BitVec.le_def]
      omega
    rw [hSpeed, BitVec.le_def, BitVec.toNat_sub_of_le hSub, BitVec.toNat_ofNat]
    omega

/-- One event of an allowed run declares no false fault. -/
theorem FaultInv.justified (h : FaultInv w) (hAllowed : FaultAllowed w e) :
    FaultJustified cfg w e := by
  intro hBefore hAfter
  by_cases hPass : ∃ p, e = .pass p
  · obtain ⟨p, rfl⟩ := hPass
    have hOrder : p.Ordered w.history.clock := hAllowed.ordered
    cases hWoken : p.woken with
    | false =>
        rw [World.step_state, next, pass_fault_of_timeout cfg p w.state hWoken, hBefore] at hAfter
        exact absurd hAfter (by decide)
    | true =>
        obtain ⟨hBrake, hSample⟩ := hAllowed.aged hWoken
        have hAge : w.state.BrakeAge p.now := h.tracks.brakeAge hOrder hBrake
        rw [World.step_state, next, pass_fault_of_woken cfg p w.state hWoken] at hAfter
        obtain ⟨hLatched, hJudged⟩ := faultFound_of_sweep (s := countWake w.state) hBefore hAfter
        refine ⟨p, w.state.brake.since, rfl, hWoken, hLatched, h.tracks.brake hLatched, rfl, ?_⟩
        rcases hJudged with ⟨hDue, -, hMoving, hOld⟩ | ⟨hDue, hSlow, hOld⟩
        · refine .inl ⟨hDue, h.not_freshStandstill hOrder hSample hMoving, ?_⟩
          exact since_add_le (by have := cfg.floorSpanMs_lt; omega) hLatched hAge hOld
        · have hMoving := (Judge.responded_eq_false.mp hSlow).1
          refine .inr ⟨hDue, h.not_freshStandstill hOrder hSample hMoving,
            h.not_freshShed hOrder hSample hSlow, ?_⟩
          have hSpan : cfg.responseSpanMs < 2 ^ 32 := by
            have hLess := cfg.responseSpanMs_lt
            have hFits := cfg.floorSpanMs_lt
            omega
          exact since_add_le hSpan hLatched hAge hOld
  · push Not at hPass
    rw [World.step_state, (next_call cfg w.state hPass).fault, hBefore] at hAfter
    exact absurd hAfter (by decide)

/-- No false vehicle fault, in every run whose samples are stamped: the
braking command is timed from the latest of the latching pass and the operator
slot's resume, and a fault is declared only as `FaultJustified` says. -/
theorem vehicle_fault_justified (cfg : Config) {w : World}
    (run : Reaches (World.step cfg) StampedAllowed World.boot w) :
    (w.state.latch.latched = true → w.history.brakeStart = some w.state.brake.since) ∧
      ∀ e, StampedAllowed w e → FaultJustified cfg w e := by
  have hInv : FaultInv w := run.invariant .boot fun _ _ h hAllowed => h.step hAllowed
  exact ⟨hInv.tracks.brake, fun e hAllowed => hInv.justified hAllowed.toFaultAllowed⟩

end Run

/-- A hook latches, the handler calls the emergency stop of a moving vehicle,
and the vehicle reports its standstill as the 32-bit uptime turns to 0. -/
def stoppedAtTurn : List Event :=
  [.hook 0, .pass (.at 4294964296), .noteSpeed 4294965796 8000,
    .arm 4294965842 3 4294970463, .noteSpeed 4294967296 0]

/-- The same stop reported a millisecond later. -/
def stoppedAfterTurn : List Event :=
  [.hook 0, .pass (.at 4294964296), .noteSpeed 4294965796 8000,
    .arm 4294965842 3 4294970463, .noteSpeed 4294967297 0]

theorem vehicle_fault_justified_afterTurn :
    FaultJustified Config.image
      (follow (World.step Config.image) World.boot stoppedAfterTurn) (.pass (.at 4294967297)) :=
  (vehicle_fault_justified Config.image (reaches_follow stoppedAfterTurn (by decide))).2
    (.pass (.at 4294967297)) (by decide)

/-- Without the stamp condition a stopped vehicle is declared faulty: its
sample is taken for none. -/
theorem not_vehicle_fault_justified : ¬ ∀ w,
    Reaches (World.step Config.image) FaultAllowed World.boot w →
      ∀ e, FaultAllowed w e → FaultJustified Config.image w e := by
  intro hClaim
  let w := follow (World.step Config.image) World.boot stoppedAtTurn
  have hRun : Reaches (World.step Config.image) FaultAllowed World.boot w :=
    reaches_follow stoppedAtTurn (by decide)
  have hStopped : w.FreshStandstill 4294967297 := ⟨4294967296, by decide, by decide⟩
  obtain ⟨p, start, hEvent, -, -, -, -, hJudged⟩ :=
    hClaim w hRun (.pass (.at 4294967297)) (by decide) (by decide) (by decide)
  obtain rfl : Pass.at 4294967297 = p := by simpa using hEvent
  rcases hJudged with ⟨-, hMoving, -⟩ | ⟨-, hMoving, -⟩ <;> exact hMoving hStopped

end SafetyIsland.Supervisor
