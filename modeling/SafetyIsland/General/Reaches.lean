import Mathlib.Logic.Basic

/-! Finite runs of deterministic machines whose inputs carry every choice of
the environment. A run is a sequence of inputs, each allowed in the state it
is taken in. History variables are added by `observe`; they read the machine
and never influence it. -/
namespace Transition

universe u v w
variable {State : Type u} {Input : Type v} {History : Type w}

/-- Some finite sequence of allowed inputs leads from `start` to the state. -/
inductive Reaches (next : State → Input → State) (Allowed : State → Input → Prop)
    (start : State) : State → Prop where
  | refl : Reaches next Allowed start start
  | step {middle : State} {i : Input} (prior : Reaches next Allowed start middle)
      (last : Allowed middle i) : Reaches next Allowed start (next middle i)

namespace Reaches
variable {next : State → Input → State} {Allowed : State → Input → Prop}
  {start middle finish : State}

/-- What holds at the start and survives every allowed step holds throughout. -/
theorem invariant {P : State → Prop} (run : Reaches next Allowed start finish)
    (hStart : P start)
    (hStep : ∀ s i, P s → Allowed s i → P (next s i)) : P finish := by
  induction run with
  | refl => exact hStart
  | step prior last ih => exact hStep _ _ ih last

/-- As `invariant`, with a second invariant already proved of the same run. -/
theorem invariant_with {Known P : State → Prop} (run : Reaches next Allowed start finish)
    (hKnown : ∀ s, Reaches next Allowed start s → Known s) (hStart : P start)
    (hStep : ∀ s i, Known s → P s → Allowed s i → P (next s i)) : P finish := by
  induction run with
  | refl => exact hStart
  | step prior last ih => exact hStep _ _ (hKnown _ prior) ih last

/-- A run and its continuation are one run. -/
theorem trans (first : Reaches next Allowed start middle)
    (second : Reaches next Allowed middle finish) : Reaches next Allowed start finish := by
  induction second with
  | refl => exact first
  | step prior last ih => exact ih.step last

/-- A run under a stronger assumption on its steps is one under a weaker. -/
theorem mono {Allowed' : State → Input → Prop} (run : Reaches next Allowed start finish)
    (h : ∀ s i, Allowed s i → Allowed' s i) : Reaches next Allowed' start finish := by
  induction run with
  | refl => exact .refl
  | step prior last ih => exact ih.step (h _ _ last)

/-- Two runs with the same steps are one when the state map commutes with
them: the image of a run is a run of the image machine. -/
theorem map {State' : Type*} {Input' : Type*} {next' : State' → Input' → State'}
    {Allowed' : State' → Input' → Prop} (f : State → State') (g : Input → Input')
    (hNext : ∀ s i, f (next s i) = next' (f s) (g i))
    (hAllowed : ∀ s i, Allowed s i → Allowed' (f s) (g i))
    (run : Reaches next Allowed start finish) :
    Reaches next' Allowed' (f start) (f finish) := by
  induction run with
  | refl => exact .refl
  | step prior last ih =>
      rw [hNext]
      exact ih.step (hAllowed _ _ last)

/-- A step that another machine answers with a run of its own is simulated by
it: a run of such steps is answered by one run. -/
theorem simulate {State' : Type*} {Input' : Type*} {next' : State' → Input' → State'}
    {Allowed' : State' → Input' → Prop} (f : State → State')
    (hStep : ∀ s i, Allowed s i → Reaches next' Allowed' (f s) (f (next s i)))
    (run : Reaches next Allowed start finish) :
    Reaches next' Allowed' (f start) (f finish) := by
  induction run with
  | refl => exact .refl
  | step prior last ih => exact ih.trans (hStep _ _ last)

end Reaches

/-- The state after a fixed list of inputs. -/
def follow (next : State → Input → State) (start : State) (inputs : List Input) : State :=
  inputs.foldl next start

/-- Every input of the list is allowed in the state it is taken in. -/
def AllowedAlong (next : State → Input → State) (Allowed : State → Input → Prop) :
    State → List Input → Prop
  | _, [] => True
  | s, i :: rest => Allowed s i ∧ AllowedAlong next Allowed (next s i) rest

instance AllowedAlong.decidable (next : State → Input → State)
    (Allowed : State → Input → Prop) [∀ s i, Decidable (Allowed s i)] :
    ∀ (s : State) (inputs : List Input), Decidable (AllowedAlong next Allowed s inputs)
  | _, [] => isTrue trivial
  | s, i :: rest =>
      have := AllowedAlong.decidable next Allowed (next s i) rest
      inferInstanceAs (Decidable (Allowed s i ∧ AllowedAlong next Allowed (next s i) rest))

/-- A list of inputs allowed along the way is a run to the state it leads to. -/
theorem reaches_follow {next : State → Input → State} {Allowed : State → Input → Prop}
    {start : State} (inputs : List Input) (h : AllowedAlong next Allowed start inputs) :
    Reaches next Allowed start (follow next start inputs) := by
  induction inputs generalizing start with
  | nil => exact .refl
  | cons i rest ih =>
      obtain ⟨hHead, hRest⟩ := h
      exact Reaches.trans (Reaches.refl.step hHead) (ih hRest)

/-- One input more is one step more. -/
theorem follow_append (next : State → Input → State) (start : State) (inputs : List Input)
    (i : Input) : follow next start (inputs ++ [i]) = next (follow next start inputs) i :=
  List.foldl_append

/-- The steps of a list that are counted in the state they are taken in. -/
def countAlong (next : State → Input → State) (counts : State → Input → Bool) :
    State → List Input → Nat
  | _, [] => 0
  | s, i :: rest => (if counts s i then 1 else 0) + countAlong next counts (next s i) rest

/-- Some step of a list has the property in the state it is taken in. -/
def SomeAlong (next : State → Input → State) (P : State → Input → Prop) :
    State → List Input → Prop
  | _, [] => False
  | s, i :: rest => P s i ∨ SomeAlong next P (next s i) rest

instance SomeAlong.decidable (next : State → Input → State) (P : State → Input → Prop)
    [∀ s i, Decidable (P s i)] : ∀ (s : State) (inputs : List Input),
      Decidable (SomeAlong next P s inputs)
  | _, [] => isFalse id
  | s, i :: rest =>
      have := SomeAlong.decidable next P (next s i) rest
      inferInstanceAs (Decidable (P s i ∨ SomeAlong next P (next s i) rest))

/-- A list has such a step if it had one before its last input, or at it. -/
theorem someAlong_append {next : State → Input → State} {P : State → Input → Prop} {s : State}
    (inputs : List Input) (i : Input) : SomeAlong next P s (inputs ++ [i]) ↔
      SomeAlong next P s inputs ∨ P (follow next s inputs) i := by
  induction inputs generalizing s with
  | nil =>
      show P s i ∨ False ↔ False ∨ P s i
      exact Or.comm
  | cons first rest ih =>
      show P s first ∨ SomeAlong next P (next s first) (rest ++ [i]) ↔
        (P s first ∨ SomeAlong next P (next s first) rest) ∨ P (follow next s (first :: rest)) i
      rw [ih, or_assoc]
      rfl

/-- What the steps of a list emit, in order. -/
def emitAlong {Output : Type*} (next : State → Input → State) (emit : State → Input → List Output) :
    State → List Input → List Output
  | _, [] => []
  | s, i :: rest => emit s i ++ emitAlong next emit (next s i) rest

/-- What one input more emits comes last. -/
theorem emitAlong_append {Output : Type*} {next : State → Input → State}
    {emit : State → Input → List Output} {s : State} (inputs : List Input) (i : Input) :
    emitAlong next emit s (inputs ++ [i]) =
      emitAlong next emit s inputs ++ emit (follow next s inputs) i := by
  induction inputs generalizing s with
  | nil =>
      show emit s i ++ [] = [] ++ emit s i
      rw [List.append_nil, List.nil_append]
  | cons first rest ih =>
      show emit s first ++ emitAlong next emit (next s first) (rest ++ [i]) = _
      rw [ih, ← List.append_assoc]
      rfl

/-- A measure that no step raises and each counted step lowers bounds the
counted steps, until a step that ends the argument. -/
theorem countAlong_le {next : State → Input → State} {Allowed P : State → Input → Prop}
    {counts : State → Input → Bool} (Good : State → Prop) (measure : State → Nat)
    (hStep : ∀ s i, Good s → Allowed s i → P s i ∨
      Good (next s i) ∧ measure (next s i) + (if counts s i then 1 else 0) ≤ measure s) :
    ∀ {s : State} (inputs : List Input), Good s → AllowedAlong next Allowed s inputs →
      SomeAlong next P s inputs ∨ countAlong next counts s inputs ≤ measure s := by
  intro s inputs
  induction inputs generalizing s with
  | nil => exact fun _ _ => .inr (Nat.zero_le _)
  | cons i rest ih =>
      intro hGood hAllowed
      obtain ⟨hHead, hRest⟩ := hAllowed
      rcases hStep s i hGood hHead with hEnds | ⟨hNext, hLower⟩
      · exact .inl (.inl hEnds)
      · rcases ih hNext hRest with hLater | hCount
        · exact .inl (.inr hLater)
        · refine .inr ?_
          rw [countAlong]
          omega

/-- A machine state with what an observer has written down about the run. -/
structure Observed (State : Type u) (History : Type w) where
  state : State
  history : History

/-- One step of the machine, and the observer's note on it: the state before,
the input and the state after. -/
def observe (next : State → Input → State)
    (note : History → State → Input → State → History)
    (w : Observed State History) (i : Input) : Observed State History :=
  { state := next w.state i, history := note w.history w.state i (next w.state i) }

/-- The observer does not influence the machine: erasing its notes from a
run leaves a run of the machine itself. -/
theorem Reaches.erase {next : State → Input → State}
    {note : History → State → Input → State → History} {Allowed : State → Input → Prop}
    {start finish : Observed State History}
    (run : Reaches (observe next note) (fun w i => Allowed w.state i) start finish) :
    Reaches next Allowed start.state finish.state :=
  run.map Observed.state id (fun _ _ => rfl) (fun _ _ h => h)

end Transition
