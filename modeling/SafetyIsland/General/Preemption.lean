import Mathlib.Tactic.SplitIfs
import SafetyIsland.General.Reaches

/-! Threads of fixed urgencies on one core. A more urgent one may start
between any two statements of a less urgent one, and runs to its end before
the other goes on, so what is under way is a stack. Assertions about the
running thread are carried through a run by `Outline`: a thread that is
preempted only has to stand where every thread that ends leaves it right. -/
namespace Preemption

universe u v w
variable {Shared : Type u} {Frame : Type v} {Out : Type w}

/-- What the threads execute: `exec` is one statement of a thread, with what it
puts out and what is left of the thread. -/
structure Machine (Shared : Type u) (Frame : Type v) (Out : Type w) where
  /-- The urgency: the smaller, the more urgent. -/
  level : Frame → Nat
  exec : Shared → Frame → Shared × List Out × Option Frame
  exec_level : ∀ s f f', (exec s f).2.2 = some f' → level f' = level f

structure World (Shared : Type u) (Frame : Type v) (Out : Type w) where
  shared : Shared
  /-- The threads under way, the running one first. -/
  stack : List Frame := []
  output : List Out := []

inductive Event (Frame : Type v) where
  /-- A thread begins, if it may preempt the running one. -/
  | start (f : Frame)
  /-- The running thread executes one statement. -/
  | run

namespace Machine
variable (m : Machine Shared Frame Out)

def Preempts (f : Frame) (stack : List Frame) : Prop :=
  ∀ g ∈ stack.head?, m.level f < m.level g

instance (f : Frame) (stack : List Frame) : Decidable (m.Preempts f stack) := by
  unfold Preempts
  infer_instance

def next (w : World Shared Frame Out) : Event Frame → World Shared Frame Out
  | .start f => if m.Preempts f w.stack then { w with stack := f :: w.stack } else w
  | .run =>
      match w.stack with
      | [] => w
      | f :: rest =>
          { shared := (m.exec w.shared f).1
            stack := (m.exec w.shared f).2.2.toList ++ rest
            output := w.output ++ (m.exec w.shared f).2.1 }

/-- The urgencies rise to the top of the stack. -/
def Nested (stack : List Frame) : Prop :=
  stack.Pairwise fun f g => m.level f < m.level g

variable {m}

/-- A thread begins on top of the less urgent ones. -/
theorem Nested.start {f : Frame} {stack : List Frame} (h : m.Nested stack)
    (hStarts : m.Preempts f stack) : m.Nested (f :: stack) := by
  refine List.pairwise_cons.mpr ⟨?_, h⟩
  intro g hMem
  cases stack with
  | nil => exact absurd hMem List.not_mem_nil
  | cons top rest =>
      have hTop : m.level f < m.level top := hStarts top rfl
      rcases List.mem_cons.mp hMem with rfl | hRest
      · exact hTop
      · exact Nat.lt_trans hTop (List.rel_of_pairwise_cons h hRest)

/-- A statement leaves the stack nested. -/
theorem Nested.run {f : Frame} {rest : List Frame} (h : m.Nested (f :: rest)) (s : Shared) :
    m.Nested ((m.exec s f).2.2.toList ++ rest) := by
  cases hLeft : (m.exec s f).2.2 with
  | none => exact h.of_cons
  | some f' =>
      refine List.pairwise_cons.mpr ⟨?_, h.of_cons⟩
      intro g hMem
      rw [m.exec_level s f f' hLeft]
      exact List.rel_of_pairwise_cons h hMem

end Machine

variable {m : Machine Shared Frame Out} {Allowed : World Shared Frame Out → Event Frame → Prop}
  {mine : Frame → Bool}

/-- Assertions about the threads of a class: of the one that runs, of those it
has preempted, and of the world with none of them. -/
structure Outline (m : Machine Shared Frame Out)
    (Allowed : World Shared Frame Out → Event Frame → Prop) (mine : Frame → Bool) where
  running : Shared → List Out → Frame → Prop
  suspended : Shared → Frame → Prop
  idle : Shared → List Out → Prop
  /-- A thread begins in an idle world. -/
  first : ∀ {w f}, Allowed w (.start f) → mine f = true → w.stack.filter mine = [] →
    idle w.shared w.output → running w.shared w.output f
  /-- A thread begins over a running one of its class. -/
  preempt : ∀ {w f g rest}, Allowed w (.start f) → mine f = true →
    w.stack.filter mine = g :: rest → m.level f < m.level g → running w.shared w.output g →
    (∀ x ∈ rest, suspended w.shared x) →
    running w.shared w.output f ∧ suspended w.shared g
  /-- A statement of the class keeps the assertion about its own thread. -/
  next : ∀ {s out f f'}, mine f = true → running s out f → (m.exec s f).2.2 = some f' →
    mine f' = true ∧ running (m.exec s f).1 (out ++ (m.exec s f).2.1) f'
  /-- A thread ends in an idle world. -/
  last : ∀ {s out f}, mine f = true → running s out f → (m.exec s f).2.2 = none →
    idle (m.exec s f).1 (out ++ (m.exec s f).2.1)
  /-- A statement keeps the assertion about the threads it preempts. -/
  keeps : ∀ {s out f g}, mine f = true → mine g = true → running s out f → suspended s g →
    m.level f < m.level g → suspended (m.exec s f).1 g
  /-- A preempted thread goes on in an idle world. -/
  resume : ∀ {s out g}, mine g = true → idle s out → suspended s g → running s out g
  /-- The other threads do not join the class, and leave it its assertions. -/
  foreign : ∀ {s f f'}, mine f = false → (m.exec s f).2.2 = some f' → mine f' = false
  foreign_running : ∀ {s out f g}, mine f = false → running s out g →
    running (m.exec s f).1 (out ++ (m.exec s f).2.1) g
  foreign_suspended : ∀ {s f g}, mine f = false → suspended s g → suspended (m.exec s f).1 g
  foreign_idle : ∀ {s out f}, mine f = false → idle s out →
    idle (m.exec s f).1 (out ++ (m.exec s f).2.1)

namespace Outline
variable (o : Outline m Allowed mine)

/-- The assertions about the threads of the class in one state. -/
def Class (s : Shared) (out : List Out) : List Frame → Prop
  | [] => o.idle s out
  | f :: rest => o.running s out f ∧ ∀ g ∈ rest, o.suspended s g

structure Holds (w : World Shared Frame Out) : Prop where
  nested : m.Nested w.stack
  ofClass : o.Class w.shared w.output (w.stack.filter mine)

variable {o} {w : World Shared Frame Out} {f : Frame}

/-- A thread that begins keeps the assertions, its own at its first statement.
-/
theorem Holds.start (h : o.Holds w) (hAllowed : Allowed w (.start f)) :
    o.Holds (m.next w (.start f)) := by
  simp only [Machine.next]
  split_ifs with hStarts
  · have hNested := h.nested.start hStarts
    refine ⟨hNested, ?_⟩
    cases hMine : mine f with
    | false => simpa [List.filter_cons, hMine] using h.ofClass
    | true =>
        rw [List.filter_cons_of_pos (by simpa using hMine)]
        have hBefore := h.ofClass
        cases hStack : w.stack.filter mine with
        | nil =>
            rw [hStack] at hBefore
            have hNew : o.running w.shared w.output f := o.first hAllowed hMine hStack hBefore
            exact ⟨hNew, by simp⟩
        | cons g rest =>
            rw [hStack] at hBefore
            obtain ⟨hRunning, hSuspended⟩ := hBefore
            have hMem : g ∈ w.stack.filter mine := by rw [hStack]; exact List.mem_cons_self
            have hLevel : m.level f < m.level g :=
              List.rel_of_pairwise_cons hNested (List.mem_filter.mp hMem).1
            have hBoth : o.running w.shared w.output f ∧ o.suspended w.shared g :=
              o.preempt hAllowed hMine hStack hLevel hRunning hSuspended
            obtain ⟨hNew, hOld⟩ := hBoth
            refine ⟨hNew, ?_⟩
            intro x hx
            rcases List.mem_cons.mp hx with rfl | hx
            · exact hOld
            · exact hSuspended x hx
  · exact h

/-- So does a statement of the thread that runs. -/
theorem Holds.run (h : o.Holds w) : o.Holds (m.next w .run) := by
  obtain ⟨shared, stack, output⟩ := w
  cases stack with
  | nil => exact h
  | cons f rest =>
      have hNested := h.nested.run shared
      refine ⟨hNested, ?_⟩
      have hBefore := h.ofClass
      show o.Class _ _ (((m.exec shared f).2.2.toList ++ rest).filter mine)
      rw [List.filter_append]
      cases hMine : mine f with
      | false =>
          have hNone : (m.exec shared f).2.2.toList.filter mine = [] := by
            cases hExec : (m.exec shared f).2.2 with
            | none => rfl
            | some f' => simp [o.foreign hMine hExec]
          rw [hNone, List.nil_append]
          dsimp only at hBefore
          rw [List.filter_cons_of_neg (by simpa using hMine)] at hBefore
          cases hStack : rest.filter mine with
          | nil =>
              rw [hStack] at hBefore
              exact o.foreign_idle hMine hBefore
          | cons g others =>
              rw [hStack] at hBefore
              exact ⟨o.foreign_running hMine hBefore.1,
                fun x hx => o.foreign_suspended hMine (hBefore.2 x hx)⟩
      | true =>
          dsimp only at hBefore
          rw [List.filter_cons_of_pos (by simpa using hMine)] at hBefore
          obtain ⟨hRunning, hSuspended⟩ := hBefore
          have hKept : ∀ g ∈ rest.filter mine, o.suspended (m.exec shared f).1 g := by
            intro g hMem
            obtain ⟨hRest, hOf⟩ := List.mem_filter.mp hMem
            exact o.keeps hMine hOf hRunning (hSuspended g hMem)
              (List.rel_of_pairwise_cons h.nested hRest)
          cases hExec : (m.exec shared f).2.2 with
          | some f' =>
              obtain ⟨hOf, hNext⟩ := o.next hMine hRunning hExec
              simp only [Option.toList_some, List.filter_cons, hOf, if_true, List.filter_nil]
              exact ⟨hNext, hKept⟩
          | none =>
              have hIdle := o.last hMine hRunning hExec
              simp only [Option.toList_none, List.filter_nil, List.nil_append]
              cases hStack : rest.filter mine with
              | nil => exact hIdle
              | cons g others =>
                  rw [hStack] at hKept
                  have hOf : mine g = true := by
                    have hMem : g ∈ rest.filter mine := by rw [hStack]; exact List.mem_cons_self
                    exact (List.mem_filter.mp hMem).2
                  refine ⟨o.resume hOf hIdle (hKept g List.mem_cons_self), ?_⟩
                  exact fun x hx => hKept x (List.mem_cons_of_mem _ hx)

variable (o) in
/-- The assertions hold in every state of a run from an idle world. -/
theorem holds {s : Shared} {w : World Shared Frame Out}
    (run : Transition.Reaches m.next Allowed { shared := s } w) (hIdle : o.idle s []) :
    o.Holds w := by
  refine run.invariant ⟨List.Pairwise.nil, hIdle⟩ ?_
  intro w e h hAllowed
  cases e with
  | start f => exact h.start hAllowed
  | run => exact h.run

/-- A finished stack leaves an idle world. -/
theorem Holds.idle (h : o.Holds w) (hDone : w.stack = []) : o.idle w.shared w.output := by
  have hClass := h.ofClass
  rwa [hDone] at hClass

end Outline

section Suffixes
variable {State : Type u} {step : State → Out → State} {start : State} {P Q : State → Prop}
  {out : List Out}

/-- What a reader's state satisfies, wherever in the output it begins. -/
def OnSuffixes (step : State → Out → State) (start : State) (P : State → Prop)
    (out : List Out) : Prop :=
  ∀ l, l <:+ out → P (l.foldl step start)

theorem OnSuffixes.nil (hStart : P start) : OnSuffixes step start P [] := by
  intro l hSuffix
  rw [List.suffix_nil.mp hSuffix]
  exact hStart

/-- A weaker property holds wherever a stronger one does. -/
theorem OnSuffixes.mono (h : OnSuffixes step start P out) (hImp : ∀ d, P d → Q d) :
    OnSuffixes step start Q out := fun l hSuffix => hImp _ (h l hSuffix)

/-- One more record: a reader that begins after it has read nothing yet. -/
theorem OnSuffixes.put {r : Out} (h : OnSuffixes step start P out) (hStart : Q start)
    (hStep : ∀ d, P d → Q (step d r)) : OnSuffixes step start Q (out ++ [r]) := by
  intro l hSuffix
  rcases List.suffix_concat_iff.mp hSuffix with rfl | ⟨before, rfl, hBefore⟩
  · exact hStart
  · rw [List.foldl_append]
    exact hStep _ (h before hBefore)

end Suffixes
end Preemption
