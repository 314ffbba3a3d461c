import SafetyIsland.Braking.State

/-! What one pass of the reaction thread does to the operator's slot: at most
one call of `direct_brake`, of a slot the direct path owns by then. -/
namespace SafetyIsland

namespace Supervisor
variable (cfg : Config) (p : Pass) (s : Supervisor)

/-- The output as it was, or latched at `now`. -/
def LatchedBy (now : Int) (s t : Supervisor) : Prop :=
  t.latch = s.latch ∨ s.latch.latched = false ∧ t.latch.latched = true ∧ t.latch.ms = now

/-- What two steps latch in one millisecond, each of them may have latched. -/
theorem LatchedBy.trans {now : Int} {s t u : Supervisor} (first : LatchedBy now s t)
    (second : LatchedBy now t u) : LatchedBy now s u := by
  rcases first with hSame | ⟨hWas, hIs, hMs⟩
  · rwa [LatchedBy, ← hSame]
  · rcases second with hSame | ⟨hNot, -, -⟩
    · exact .inr ⟨hWas, by rw [hSame, hIs], by rw [hSame, hMs]⟩
    · exact absurd (hIs.symm.trans hNot) (by decide)

theorem safeState_latchedBy (now : Int) (cause : U32) : LatchedBy now s (safeState now cause s) := by
  rw [safeState]
  split_ifs with hLatched
  · exact .inl rfl
  · exact .inr ⟨by simpa using hLatched, rfl, rfl⟩

/-- Whatever a pass acts on, the output latches at its one reading. -/
theorem actOn_latchedBy (fired : List Route) : LatchedBy p.latchNow s (actOn p fired s) := by
  have hRoutes : LatchedBy p.latchNow s (actOnRoutes p.latchNow fired s) := by
    rw [actOnRoutes]
    split_ifs
    · exact safeState_latchedBy ..
    · exact .inl rfl
  have hHook (t : Supervisor) : LatchedBy p.latchNow t (actOnHook p.latchNow t) := by
    rw [actOnHook]
    split_ifs
    · exact safeState_latchedBy (t.setPending { t.pending with hook := false }) ..
    · exact .inl rfl
  have hSwt (t : Supervisor) : LatchedBy p.latchNow t (actOnSwt p.latchNow t) := by
    rw [actOnSwt]
    split_ifs
    · exact safeState_latchedBy (t.setPending { t.pending with swt := false }) ..
    · exact .inl rfl
  refine ((hRoutes.trans (hHook _)).trans (hSwt _)).trans (.inl ?_)
  exact startDirect_latch ..

/-- A pass latches at its own reading, or leaves the output. -/
theorem pass_latchedBy : LatchedBy p.latchNow s (pass cfg p s).1 := by
  rw [LatchedBy, pass_latch]
  cases hWoken : p.woken with
  | true =>
      have hActs := actOn_latchedBy p (p.swept cfg s).1 (p.swept cfg s).2
      rw [LatchedBy, (swept_frame cfg p s).latch] at hActs
      rwa [taken, if_pos hWoken]
  | false =>
      rw [taken_of_timeout cfg p s hWoken]
      exact .inl rfl

/-- The direct path calls the operator once a round, where it owns the slot. -/
theorem callsOf_operator (now : Int) :
    (callsOf now s).filter (fun call => call.slot = .operator) =
      if (s.slots .operator).owned then
        [{ slot := .operator, seq := (s.slots .operator).calls
           sinceLatchMs := uptime32 (now - s.latch.ms) }]
      else [] := by
  rw [callsOf, Slot.all]
  cases hHandler : (s.slots .handler).owned <;>
    cases hOperator : (s.slots .operator).owned <;> simp [hHandler, hOperator]

/-- What a pass does for the operator's slot: nothing, or one call while the
direct path owns it. -/
theorem pass_operator :
    let t := (pass cfg p s).1
    let calls := (pass cfg p s).2.filter fun call => call.slot = .operator
    (calls = [] ∧ (t.slots .operator).calls = (s.slots .operator).calls) ∨
    (t.latch.latched = true ∧ (t.slots .operator).owned = true ∧
      calls = [{ slot := .operator, seq := (s.slots .operator).calls
                 sinceLatchMs := uptime32 (p.publishNow - t.latch.ms) }]) := by
  intro t calls
  have hWatchCalls (u : Supervisor) :
      ((directWatch cfg p.serviceNow u).1.slots .operator).calls = (u.slots .operator).calls := by
    rw [directWatch_slots]
    split_ifs <;> rfl
  by_cases hLatched : (taken cfg p s).latch.latched = true
  · have hPass : pass cfg p s = directService cfg p.serviceNow p.publishNow (taken cfg p s) := by
      rw [pass, if_pos hLatched]
    let x := directWatch cfg p.serviceNow (taken cfg p s)
    let kept := if x.2 then x.1.setDirectNext p.serviceNow else x.1
    have hKept : kept.slots = x.1.slots ∧ kept.latch = x.1.latch := by
      simp only [kept]
      split_ifs <;> exact ⟨rfl, rfl⟩
    have hKeptCalls : (kept.slots .operator).calls = (s.slots .operator).calls := by
      rw [hKept.1, hWatchCalls, taken_slots]
    have hKeptLatch : kept.latch = (taken cfg p s).latch := hKept.2.trans directWatch_latch
    by_cases hDue : (kept.directPending && decide (kept.directNextMs ≤ p.serviceNow)) = true
    · have hService : pass cfg p s =
          ((directPublish p.publishNow kept).1.setDirectNext (p.serviceNow + cfg.directPeriodMs),
            (directPublish p.publishNow kept).2) := hPass.trans (if_pos hDue)
      have hSlot : t.slots .operator = (kept.slots .operator).published := by
        show (pass cfg p s).1.slots .operator = _
        rw [hService]
        exact directPublish_slots .operator
      have hLatch : t.latch = kept.latch := (pass_latch cfg p s).trans hKeptLatch.symm
      have hCalls : calls = if (kept.slots .operator).owned then
            [{ slot := .operator, seq := (kept.slots .operator).calls
               sinceLatchMs := uptime32 (p.publishNow - kept.latch.ms) }]
          else [] := by
        show (pass cfg p s).2.filter _ = _
        rw [hService]
        show (directPublish p.publishNow kept).2.filter _ = _
        rw [directPublish_snd, callsOf_operator]
      cases hOwned : (kept.slots .operator).owned with
      | true =>
          right
          refine ⟨by rw [hLatch, hKeptLatch, hLatched], ?_, ?_⟩
          · rw [hSlot, DirectSlot.published, if_pos hOwned]
            exact hOwned
          · rw [hCalls, hOwned, if_pos rfl, hKeptCalls, hLatch]
      | false =>
          left
          refine ⟨by rw [hCalls, hOwned]; rfl, ?_⟩
          rw [hSlot, DirectSlot.published, if_neg (by simp [hOwned]), hKeptCalls]
    · have hService : pass cfg p s = (kept, []) := hPass.trans (if_neg hDue)
      left
      constructor
      · show (pass cfg p s).2.filter _ = _
        rw [hService]
        rfl
      · show ((pass cfg p s).1.slots .operator).calls = _
        rw [hService, hKeptCalls]
  · have hPass : pass cfg p s = (taken cfg p s, []) := by rw [pass, if_neg hLatched]
    left
    constructor
    · show (pass cfg p s).2.filter _ = _
      rw [hPass]
      rfl
    · show ((pass cfg p s).1.slots .operator).calls = _
      rw [hPass, taken_slots]

end Supervisor

namespace Braking
variable (cfg : Config)

/-- Only the calls of the operator's slot serve. -/
theorem foldl_serveCall_filter (stampNs : Int) (calls : List Supervisor.DirectCall)
    (x : Operator × List Control) :
    calls.foldl (serveCall stampNs) x =
      (calls.filter fun call => call.slot = .operator).foldl (serveCall stampNs) x := by
  induction calls generalizing x with
  | nil => rfl
  | cons call rest ih =>
      rw [List.foldl_cons, ih]
      by_cases hOperator : call.slot = .operator
      · rw [List.filter_cons_of_pos (by simpa using hOperator), List.foldl_cons]
      · rw [List.filter_cons_of_neg (by simpa using hOperator), serveCall, if_neg hOperator]

/-- The one call a pass makes of `direct_brake`, if it makes one. -/
def operatorCall (k : Braking) (pass : Supervisor.Pass) : Supervisor.DirectCall where
  slot := .operator
  seq := (k.supervisor.slots .operator).calls
  sinceLatchMs :=
    uptime32 (pass.publishNow - (Supervisor.pass cfg pass k.supervisor).1.latch.ms)

def called (k : Braking) (pass : Supervisor.Pass) (stampNs : Int) :
    Operator.DirectBrake × Control :=
  let call := operatorCall cfg k pass
  Operator.directBrake call.seq call.sinceLatchMs stampNs k.operator.direct

/-- The operator's share of a pass: nothing, or one call of a slot that the
direct path owns. -/
theorem pass_cases (p : Operator.Parameters) (k : Braking) (pass : Supervisor.Pass)
    (stampNs : Int) :
    let t := (Supervisor.pass cfg pass k.supervisor).1
    ((next cfg p k (.pass pass stampNs)).operator = k.operator ∧
      (t.slots .operator).calls = (k.supervisor.slots .operator).calls ∧
      published cfg p k (.pass pass stampNs) = [] ∧
      ∀ last, passAligned cfg p k pass last = true) ∨
    (t.latch.latched = true ∧ (t.slots .operator).owned = true ∧
      (next cfg p k (.pass pass stampNs)).operator =
        { k.operator with direct := (called cfg k pass stampNs).1 } ∧
      published cfg p k (.pass pass stampNs) = [(called cfg k pass stampNs).2] ∧
      ∀ last, passAligned cfg p k pass last =
        ((operatorCall cfg k pass).seq != 0 ||
          last.all (startsNoHigher p k (operatorCall cfg k pass)))) := by
  intro t
  have hServed : serveCalls stampNs (Supervisor.pass cfg pass k.supervisor).2 k.operator =
      ((Supervisor.pass cfg pass k.supervisor).2.filter fun call => call.slot = .operator).foldl
        (serveCall stampNs) (k.operator, []) := foldl_serveCall_filter ..
  have hAligned (last : Option Control) : passAligned cfg p k pass last =
      ((Supervisor.pass cfg pass k.supervisor).2.filter fun call => call.slot = .operator).all
        fun call => call.seq != 0 || last.all (startsNoHigher p k call) := by
    rw [passAligned, List.all_filter]
    congr 1
    funext call
    cases call.slot <;> rfl
  rcases Supervisor.pass_operator cfg pass k.supervisor with ⟨hNone, hCalls⟩ | ⟨hLatched, hOwned, hOne⟩
  · left
    rw [hNone] at hServed
    refine ⟨?_, hCalls, ?_, ?_⟩
    · show (serveCalls _ _ _).1 = _
      rw [hServed]
      rfl
    · show (serveCalls _ _ _).2 = _
      rw [hServed]
      rfl
    · intro last
      rw [hAligned, hNone]
      rfl
  · right
    rw [hOne] at hServed
    refine ⟨hLatched, hOwned, ?_, ?_, ?_⟩
    · show (serveCalls _ _ _).1 = _
      rw [hServed]
      rfl
    · show (serveCalls _ _ _).2 = _
      rw [hServed]
      rfl
    · intro last
      rw [hAligned, hOne, List.all_cons, List.all_nil, Bool.and_true]
      rfl

end Braking
end SafetyIsland
