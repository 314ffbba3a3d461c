import SafetyIsland.Supervisor.Run

/-! The calls to the supervisor, statement by statement. The reaction thread
may preempt its caller between any two of the stages here; what the source
does under the lock is one stage. -/
namespace SafetyIsland.Supervisor

/-- Where `island_supervisor_handover` is. -/
inductive HandoverStage where
  /-- The latch was read as set. -/
  | latched
  /-- The slot was read as not resumed. -/
  | held
  /-- `k_uptime_get_32()` was read. -/
  | clocked (nowMs : U32)
  /-- `alive_ms` is written. -/
  | timed (nowMs : U32)
  /-- `alive_period_ms` is written, too. -/
  | reported (nowMs : U32)
  /-- The slot was read as not handed over, and `handover_uptime_ms` is written. -/
  | stamped
  /-- `handover` is set; the wake is still to be given. -/
  | handedOver
  deriving DecidableEq, Repr

/-- Where a thread's call to the supervisor is. -/
inductive Call where
  /-- It makes none. -/
  | idle
  | handover (i : Slot) (periodMs : U32) (stage : HandoverStage)
  /-- `island_supervisor_spin_after` has let go of the lock as route 1's owner. -/
  | spinWatch (report : SpinReport) (takeWatch : Bool)
  /-- And is about to arm or clear route 1. -/
  | spinRoute (report : SpinReport)
  /-- `nros_app_reaction_hook` has set its flag; the wake is still to be given. -/
  | hookSet
  deriving DecidableEq, Repr

/-- What a thread calls. -/
inductive Request where
  | arm (route : Nat) (due : Int)
  | done (route : Nat)
  | noteSpeed (speedMmS : U32)
  | handover (slot : Nat) (periodMs : U32)
  | spinAfter (report : SpinReport)
  | hook (ruleCode : U32)
  deriving DecidableEq, Repr

/-- What a stage of a call leaves: the supervisor, whether the wake was given,
where the call is next, and what `island_supervisor_handover` returns. -/
structure Stage where
  supervisor : Supervisor
  gives : Bool := false
  call : Call := .idle
  returns : Option Bool := none

def Request.enter (cfg : Config) (now : Int) (s : Supervisor) : Request → Stage
  | .arm route due => { supervisor := Supervisor.arm cfg now route due s }
  | .done route => { supervisor := Supervisor.done route s }
  | .noteSpeed speedMmS => { supervisor := Supervisor.noteSpeed now speedMmS s }
  | .handover slot periodMs =>
      match Slot.ofId slot with
      | none => { supervisor := s, returns := some false }
      | some i =>
          if !s.latch.latched then { supervisor := s, returns := some false }
          else { supervisor := s, call := .handover i periodMs .latched }
  | .spinAfter report =>
      let x := spinAfterLocked report s.levels
      match x.2 with
      | none => { supervisor := s.setLevels x.1 }
      | some takeWatch =>
          { supervisor := s.setLevels x.1, call := .spinWatch report takeWatch }
  | .hook ruleCode => { supervisor := reactionHook ruleCode s, call := .hookSet }

def HandoverStage.proceed (now : Int) (i : Slot) (periodMs : U32) (s : Supervisor) :
    HandoverStage → Stage
  | .latched =>
      if (s.slots i).resumed then
        { supervisor := s.setSlot i
            { s.slots i with aliveAfterResume := (s.slots i).aliveAfterResume + 1 }
          returns := some false }
      else { supervisor := s, call := .handover i periodMs .held }
  | .held => { supervisor := s, call := .handover i periodMs (.clocked (uptime32 now)) }
  | .clocked nowMs =>
      { supervisor := s.setSlot i { s.slots i with aliveMs := nowMs }
        call := .handover i periodMs (.timed nowMs) }
  | .timed nowMs =>
      { supervisor := s.setSlot i { s.slots i with alivePeriodMs := periodMs }
        call := .handover i periodMs (.reported nowMs) }
  | .reported nowMs =>
      if (s.slots i).handover then { supervisor := s, returns := some true }
      else
        { supervisor := s.setSlot i { s.slots i with handoverUptimeMs := nowMs }
          call := .handover i periodMs .stamped }
  | .stamped =>
      { supervisor := s.setSlot i { s.slots i with handover := true }
        call := .handover i periodMs .handedOver }
  | .handedOver => { supervisor := s, gives := true, returns := some true }

def Call.proceed (cfg : Config) (now nowUs : Int) (s : Supervisor) : Call → Stage
  | .idle => { supervisor := s }
  | .handover i periodMs stage => stage.proceed now i periodMs s
  | .spinWatch report takeWatch =>
      { supervisor := takeRouteWatch report takeWatch s, call := .spinRoute report }
  | .spinRoute report => { supervisor := spinAfterRoute cfg now nowUs report s }
  | .hookSet => { supervisor := s, gives := true }

/-- A call that nothing interrupts, every stage at one reading. -/
def Call.finish (cfg : Config) (now nowUs : Int) : Nat → Stage → Stage
  | 0, x => x
  | n + 1, x =>
      if x.call = .idle then x
      else Call.finish cfg now nowUs n (x.call.proceed cfg now nowUs x.supervisor)

section Undisturbed
variable (cfg : Config) (now nowUs : Int) (s : Supervisor)

/-- A handover that nothing interrupts is `island_supervisor_handover`. -/
theorem handover_finish (slot : Nat) (periodMs : U32) :
    (Call.finish cfg now nowUs 7 ((Request.handover slot periodMs).enter cfg now s)).supervisor =
        (handover now slot periodMs s).1 ∧
      (Call.finish cfg now nowUs 7 ((Request.handover slot periodMs).enter cfg now s)).returns =
        some (handover now slot periodMs s).2 := by
  unfold Request.enter handover handoverSlot
  dsimp only
  cases Slot.ofId slot with
  | none => simp [Call.finish]
  | some i =>
      cases hLatched : s.latch.latched with
      | false => simp [Call.finish]
      | true =>
          cases hResumed : (s.slots i).resumed with
          | true => simp [Call.finish, Call.proceed, HandoverStage.proceed, hResumed]
          | false =>
              cases hHandover : (s.slots i).handover <;>
                simp [Call.finish, Call.proceed, HandoverStage.proceed, hResumed, hHandover,
                  DirectSlot.handOver, DirectSlot.report, setSlot]

/-- A report that nothing interrupts is `island_supervisor_spin_after`. -/
theorem spinAfter_finish (report : SpinReport) :
    (Call.finish cfg now nowUs 2 ((Request.spinAfter report).enter cfg now s)).supervisor =
      spinAfter cfg now nowUs report s := by
  unfold Request.enter spinAfter
  dsimp only
  cases (spinAfterLocked report s.levels).2 <;> simp [Call.finish, Call.proceed]

end Undisturbed
end SafetyIsland.Supervisor
