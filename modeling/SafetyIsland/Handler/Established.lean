import SafetyIsland.Handler.StartUp

/-! Which inputs are established, told from their samples alone. The handler
keeps a count and two times for each stream, and a reset leaves the old times
behind; over any history they say what the last two samples say. -/
namespace SafetyIsland.Handler

open Transition

/-- A sample of a required input: when it arrived, and whether the rule counts
it. `onOperationModeState` reads no clock. -/
structure Sample where
  sec : ℚ := 0
  counts : Bool := true
  deriving DecidableEq

/-- The sample that a take is, and of which required input. -/
def sampled : Input → Option (RequiredInput × Sample)
  | .operationModeAvailability _ stampSec .. => some (.operationModeAvailability, ⟨stampSec, true⟩)
  | .operationModeState _ => some (.operationModeState, {})
  | .comfortableStopStatus state sec =>
      some (.comfortableStopStatus, ⟨sec, state != statusNotAvailable⟩)
  | .emergencyStopStatus state sec =>
      some (.emergencyStopStatus, ⟨sec, state != statusNotAvailable⟩)
  | .odometry .. => none
  | .controlMode _ => none

/-- The sample of a required input that an event brings. -/
def sampleOf (i : RequiredInput) : Event → Option Sample
  | .take input => (sampled input).bind fun s => if s.1 = i then some s.2 else none
  | .tick _ => none

/-- The samples of a required input so far, the newest first. -/
def samples (i : RequiredInput) (es : List Event) : List Sample :=
  (es.filterMap (sampleOf i)).reverse

/-- The last two samples count, are at most a window apart, and the newest is
at most that old. -/
def Steady (window now : ℚ) : List Sample → Prop
  | newest :: older :: _ => newest.counts = true ∧ older.counts = true ∧
      Double.sub newest.sec older.sec ≤ window ∧ Double.sub now newest.sec ≤ window
  | _ => False

/-- What the rule asks of an input: of the operation mode one sample, of every
other input the last two. -/
def Established (p : Param) (now : ℚ) (i : RequiredInput) (es : List Event) : Prop :=
  match i with
  | .operationModeState => samples i es ≠ []
  | _ => Steady p.timeoutOperationModeAvailability now (samples i es)

/-- The comfortable stop's status is required only where it is used. -/
def InUse (p : Param) (i : RequiredInput) : Prop :=
  i = .comfortableStopStatus → p.useComfortableStop = true

/-- The newest sample comes first. -/
theorem samples_append (i : RequiredInput) (es : List Event) (e : Event) :
    samples i (es ++ [e]) = (sampleOf i e).toList ++ samples i es := by
  rw [samples, List.filterMap_append, List.reverse_append]
  cases h : sampleOf i e with
  | none =>
      rw [List.filterMap_cons_none h]
      rfl
  | some s =>
      rw [List.filterMap_cons_some h]
      rfl

/-- The count is of the newest samples that count, up to two, and the times it
vouches for are theirs. -/
inductive Tracks (a : Arrivals) : List Sample → Prop where
  | none {s : List Sample} (count : a.count = 0) (head : ∀ x ∈ s.head?, x.counts = false) : Tracks a s
  | one {x : Sample} {s : List Sample} (count : a.count = 1) (last : a.last = x.sec)
      (counts : x.counts = true) (head : ∀ y ∈ s.head?, y.counts = false) : Tracks a (x :: s)
  | two {x y : Sample} {s : List Sample} (count : a.count = 2) (last : a.last = x.sec)
      (prev : a.prev = y.sec) (first : x.counts = true) (second : y.counts = true) :
      Tracks a (x :: y :: s)

section Arrivals
variable {a : Arrivals} {s : List Sample} {x : Sample}

/-- A sample that counts is one more. -/
theorem Tracks.note (h : Tracks a s) (hCounts : x.counts = true) :
    Tracks (a.note x.sec) (x :: s) := by
  cases h with
  | none count head => exact .one (by simp [Arrivals.note, count]) rfl hCounts head
  | one count last counts head =>
      exact .two (by simp [Arrivals.note, count]) rfl last hCounts counts
  | two count last prev first second =>
      exact .two (by simp [Arrivals.note, count]) rfl last hCounts first

/-- One that does not starts the count again. -/
theorem Tracks.reset (hCounts : x.counts = false) : Tracks a.reset (x :: s) := by
  apply Tracks.none rfl
  intro y hy
  cases hy
  exact hCounts

/-- What a status callback does with its sample. -/
theorem Tracks.sample (h : Tracks a s) (x : Sample) :
    Tracks (if x.counts then a.note x.sec else a.reset) (x :: s) := by
  cases hCounts : x.counts with
  | true => exact h.note hCounts
  | false => exact Tracks.reset hCounts

/-- `isEstablished` is the rule on the last two samples. -/
theorem Tracks.isEstablished_iff (h : Tracks a s) (window now : ℚ) :
    isEstablished a window now = true ↔ Steady window now s := by
  cases h with
  | none count head =>
      apply iff_of_false
      · simp [isEstablished, count]
      · intro hSteady
        match s, head, hSteady with
        | x :: _ :: _, head, hSteady =>
            have hNot := head x rfl
            rw [hSteady.1] at hNot
            cases hNot
  | @one x s count last counts head =>
      apply iff_of_false
      · simp [isEstablished, count]
      · intro hSteady
        match s, head, hSteady with
        | y :: _, head, hSteady =>
            have hNot := head y rfl
            rw [hSteady.2.1] at hNot
            cases hNot
  | two count last prev first second =>
      simp only [isEstablished, count, last, prev, Steady, first, second, Nat.le_refl,
        decide_true, Bool.true_and, Bool.and_eq_true, decide_eq_true_eq, true_and]

end Arrivals

/-- Whether the handler has heard of an input. -/
def has (h : Handler) : RequiredInput → Bool
  | .operationModeAvailability => h.hasAvailability
  | .operationModeState => h.hasOperationMode
  | .comfortableStopStatus => h.hasComfortableStopStatus
  | .emergencyStopStatus => h.hasEmergencyStopStatus

/-- Its arrivals; none are kept of the operation mode. -/
def arrivals (h : Handler) : RequiredInput → Arrivals
  | .operationModeAvailability => h.arrivalsAvailability
  | .operationModeState => {}
  | .comfortableStopStatus => h.arrivalsComfortableStop
  | .emergencyStopStatus => h.arrivalsEmergencyStop

/-- What the handler keeps is what it has heard. -/
structure Heard (h : Handler) (es : List Event) : Prop where
  has : ∀ i, h.has i = true ↔ samples i es ≠ []
  tracks : ∀ i, i ≠ .operationModeState → Tracks (h.arrivals i) (samples i es)
  stamp : ∀ x ∈ (samples .operationModeAvailability es).head?, h.stampAvailability = x.sec

section Heard
variable {cfg : Config} {p : Param} {env : Env} {h h' : Handler} {es : List Event}

/-- The members the rule reads. -/
structure SameInputs (h h' : Handler) : Prop where
  has : h'.has = h.has
  arrivals : h'.arrivals = h.arrivals
  stamp : h'.stampAvailability = h.stampAvailability

theorem SameInputs.trans {h'' : Handler} (first : SameInputs h h') (second : SameInputs h' h'') :
    SameInputs h h'' :=
  ⟨second.has.trans first.has, second.arrivals.trans first.arrivals,
    second.stamp.trans first.stamp⟩

theorem sameInputs_judged : SameInputs h (judged p env h) := ⟨rfl, rfl, rfl⟩

theorem sameInputs_set (takeover : Takeover) (m : MrmState) :
    SameInputs h ((h.setTakeover takeover).setMrmState m) := ⟨rfl, rfl, rfl⟩

/-- A new handler has heard nothing. -/
theorem heard_construct (boot : ℚ) : Heard (construct boot) [] where
  has := by
    intro i
    cases i <;> exact ⟨fun hBad => Bool.noConfusion hBad, fun hBad => absurd rfl hBad⟩
  tracks := by
    intro i _
    apply Tracks.none
    · cases i <;> rfl
    · intro x hx
      cases hx
  stamp := by
    intro x hx
    cases hx

/-- An event without a sample leaves what was heard. -/
theorem Heard.congr (hHeard : Heard h es) (hSame : SameInputs h h')
    {es' : List Event} (hSamples : ∀ i, samples i es' = samples i es) : Heard h' es' where
  has := by
    intro i
    rw [hSame.has, hSamples]
    exact hHeard.has i
  tracks := by
    intro i hi
    rw [hSame.arrivals, hSamples]
    exact hHeard.tracks i hi
  stamp := by
    rw [hSame.stamp, hSamples]
    exact hHeard.stamp

/-- A sample moves the members of its own input on, and no others. -/
theorem Heard.sample {input : Input} {j : RequiredInput} {x : Sample} (hHeard : Heard h es)
    (hSampled : sampled input = some (j, x))
    (hHas : h'.has j = true)
    (hArrivals : j ≠ .operationModeState →
      h'.arrivals j = if x.counts then (h.arrivals j).note x.sec else (h.arrivals j).reset)
    (hOthers : ∀ i, i ≠ j → h'.has i = h.has i ∧ h'.arrivals i = h.arrivals i)
    (hStamp : h'.stampAvailability =
      if j = .operationModeAvailability then x.sec else h.stampAvailability) :
    Heard h' (es ++ [.take input]) := by
  have hSelf : samples j (es ++ [.take input]) = x :: samples j es := by
    rw [samples_append, sampleOf, hSampled, Option.bind_some, if_pos rfl]
    rfl
  have hOther : ∀ i, i ≠ j → samples i (es ++ [.take input]) = samples i es := by
    intro i hi
    rw [samples_append, sampleOf, hSampled, Option.bind_some, if_neg (Ne.symm hi)]
    rfl
  refine ⟨?_, ?_, ?_⟩
  · intro i
    by_cases hi : i = j
    · rw [hi, hSelf]
      exact iff_of_true hHas (List.cons_ne_nil _ _)
    · rw [hOther i hi, (hOthers i hi).1]
      exact hHeard.has i
  · intro i hMode
    by_cases hi : i = j
    · rw [hi] at hMode ⊢
      rw [hSelf, hArrivals hMode]
      exact (hHeard.tracks j hMode).sample x
    · rw [hOther i hi, (hOthers i hi).2]
      exact hHeard.tracks i hMode
  · intro y hy
    by_cases hj : j = .operationModeAvailability
    · rw [← hj, hSelf] at hy
      cases hy
      rw [hStamp, if_pos hj]
    · rw [hOther _ (Ne.symm hj)] at hy
      rw [hStamp, if_neg hj]
      exact hHeard.stamp y hy

/-- A take keeps what is kept and what was heard in step. -/
theorem Heard.take (hHeard : Heard h es) (input : Input) :
    Heard (take cfg p h input).1 (es ++ [.take input]) := by
  cases input with
  | operationModeAvailability msg stampSec unavailableSec durationSec callMs armMs =>
      have hStep : (Handler.take cfg p h
          (.operationModeAvailability msg stampSec unavailableSec durationSec callMs armMs)).1.has =
            ({ h with hasAvailability := true } : Handler).has ∧
          (Handler.take cfg p h
          (.operationModeAvailability msg stampSec unavailableSec durationSec callMs armMs)).1.arrivals =
            ({ h with
              arrivalsAvailability := h.arrivalsAvailability.note stampSec } : Handler).arrivals ∧
          (Handler.take cfg p h (.operationModeAvailability msg stampSec unavailableSec durationSec
            callMs armMs)).1.stampAvailability = stampSec := by
        simp only [Handler.take, onOperationModeAvailability]
        split_ifs <;> exact ⟨rfl, rfl, rfl⟩
      obtain ⟨hHas, hArrivals, hStamp⟩ := hStep
      apply hHeard.sample rfl
      · rw [hHas]
        rfl
      · rw [hArrivals]
        exact fun _ => rfl
      · intro i hi
        rw [hHas, hArrivals]
        cases i with
        | operationModeAvailability => exact absurd rfl hi
        | _ => exact ⟨rfl, rfl⟩
      · exact hStamp
  | operationModeState mode =>
      refine Heard.sample hHeard rfl ?_ ?_ ?_ ?_
      · rfl
      · exact fun hNot => absurd rfl hNot
      · intro i hi
        cases i with
        | operationModeState => exact absurd rfl hi
        | _ => exact ⟨rfl, rfl⟩
      · rfl
  | comfortableStopStatus state sec =>
      refine Heard.sample hHeard rfl ?_ ?_ ?_ ?_
      · rfl
      · exact fun _ => rfl
      · intro i hi
        cases i with
        | comfortableStopStatus => exact absurd rfl hi
        | _ => exact ⟨rfl, rfl⟩
      · rfl
  | emergencyStopStatus state sec =>
      refine Heard.sample hHeard rfl ?_ ?_ ?_ ?_
      · rfl
      · exact fun _ => rfl
      · intro i hi
        cases i with
        | emergencyStopStatus => exact absurd rfl hi
        | _ => exact ⟨rfl, rfl⟩
      · rfl
  | odometry linearX noteMs =>
      refine Heard.congr hHeard ⟨?_, ?_, ?_⟩ fun i => samples_append i es _
      · rfl
      · rfl
      · rfl
  | controlMode mode =>
      refine Heard.congr hHeard ⟨?_, ?_, ?_⟩ fun i => samples_append i es _
      · rfl
      · rfl
      · rfl

/-- The phase's update writes none of them. -/
theorem updatePhase_inputs : SameInputs h (updatePhase p env h).1 := by
  unfold updatePhase armContractMonitors
  dsimp only
  split <;> split_ifs <;> exact ⟨rfl, rfl, rfl⟩

/-- A tick takes no sample. -/
theorem onTimer_inputs : SameInputs h (onTimer cfg p env h).1 := by
  cases hRun : (updatePhase p env h).2 with
  | false =>
      rw [onTimer_of_init hRun]
      exact updatePhase_inputs
  | true =>
      obtain ⟨takeover, hRespond⟩ := respond_eq p env (entering p env h) cfg
      have hTick : (onTimer cfg p env h).1 = (respond cfg p env (entering p env h)).1 := by
        rw [onTimer_of_run hRun]
        rfl
      rw [hTick, hRespond]
      exact (updatePhase_inputs.trans sameInputs_judged).trans (sameInputs_set takeover _)

/-- What the handler keeps is what a run has brought. -/
theorem heard (cfg : Config) (p : Param) (boot : ℚ) (es : List Event) :
    Heard (ran cfg p boot es) es := by
  induction es using List.reverseRecOn with
  | nil => exact heard_construct boot
  | append_singleton es e ih =>
      rw [ran_append]
      cases e with
      | take input => exact ih.take input
      | tick env =>
          exact ih.congr onTimer_inputs fun i => samples_append i es _

end Heard

section Masks
variable {p : Param} {now : ℚ} {h : Handler} {i : RequiredInput}

/-- One stream is never heard, not steady or in neither list. -/
theorem mem_judge {j : RequiredInput} {heard steady : Bool} :
    (i ∈ (if !heard then ([j], []) else if !steady then ([], [j]) else ([], []) :
        List RequiredInput × List RequiredInput).1 ↔ i = j ∧ heard = false) ∧
      (i ∈ (if !heard then ([j], []) else if !steady then ([], [j]) else ([], []) :
        List RequiredInput × List RequiredInput).2 ↔ i = j ∧ heard = true ∧ steady = false) := by
  cases heard <;> cases steady <;> simp

theorem mem_judge_used {j : RequiredInput} {used heard steady : Bool} :
    (i ∈ (if used then if !heard then ([j], []) else if !steady then ([], [j]) else ([], [])
        else ([], []) : List RequiredInput × List RequiredInput).1 ↔
          used = true ∧ i = j ∧ heard = false) ∧
      (i ∈ (if used then if !heard then ([j], []) else if !steady then ([], [j]) else ([], [])
        else ([], []) : List RequiredInput × List RequiredInput).2 ↔
          used = true ∧ i = j ∧ heard = true ∧ steady = false) := by
  cases used with
  | false => simp
  | true => simpa using mem_judge

/-- An input in use that has not been heard is named as such. -/
theorem mem_neverHeard :
    i ∈ (getUnestablishedInputs p now h).1 ↔ InUse p i ∧ h.has i = false := by
  have hMode : i ∈ (if h.hasOperationMode then [] else [RequiredInput.operationModeState]) ↔
      i = .operationModeState ∧ h.hasOperationMode = false := by
    cases h.hasOperationMode <;> simp
  unfold getUnestablishedInputs
  dsimp only
  rw [List.mem_append, List.mem_append, List.mem_append, mem_judge.1, hMode, mem_judge_used.1,
    mem_judge.1]
  cases i <;> simp [InUse, has]

/-- One that was heard and is not established is named as not steady. -/
theorem mem_notSteady : i ∈ (getUnestablishedInputs p now h).2 ↔ InUse p i ∧ h.has i = true ∧
    i ≠ .operationModeState ∧
      isEstablished (h.arrivals i) p.timeoutOperationModeAvailability now = false := by
  unfold getUnestablishedInputs
  dsimp only
  rw [List.mem_append, List.mem_append, mem_judge.2, mem_judge_used.2, mem_judge.2]
  cases i <;> simp [InUse, has, arrivals]

/-- The bits of a mask are the inputs it was made of. -/
theorem inputMask_bit (inputs : List RequiredInput) :
    inputMask inputs &&& i.bit ≠ 0 ↔ i ∈ inputs := by
  have hBits : ∀ j : RequiredInput, j.bit &&& i.bit ≠ 0 ↔ i = j := by
    intro j
    cases i <;> cases j <;> decide
  have hOr : ∀ x y : U32, x ||| y ≠ 0 ↔ x ≠ 0 ∨ y ≠ 0 := by
    intro x y
    rw [← not_and_or]
    exact not_congr BitVec.or_eq_zero_iff
  have hFold : ∀ start : U32, (inputs.foldl (fun mask input => mask ||| input.bit) start) &&& i.bit ≠ 0 ↔
      start &&& i.bit ≠ 0 ∨ i ∈ inputs := by
    induction inputs with
    | nil => simp
    | cons j rest ih =>
        intro start
        rw [List.foldl_cons, ih, BitVec.and_or_distrib_right, hOr, hBits, List.mem_cons, or_assoc]
  rw [inputMask, hFold]
  exact or_iff_right fun hBad => hBad BitVec.zero_and

/-- Masks without a common bit of an input have no common bit. -/
theorem inputMask_disjoint {inputs others : List RequiredInput} (hApart : ∀ i ∈ inputs, i ∉ others) :
    inputMask inputs &&& inputMask others = 0 := by
  have hFold : ∀ start : U32, start &&& inputMask others = 0 →
      (inputs.foldl (fun mask input => mask ||| input.bit) start) &&& inputMask others = 0 := by
    induction inputs with
    | nil => exact fun _ hStart => hStart
    | cons j rest ih =>
        intro start hStart
        apply ih fun i hi => hApart i (List.mem_cons_of_mem j hi)
        have hBit : inputMask others &&& j.bit = 0 := by
          by_contra hBit
          exact hApart j List.mem_cons_self ((inputMask_bit others).mp hBit)
        rw [BitVec.and_or_distrib_right, hStart, BitVec.and_comm, hBit]
        rfl
  exact hFold 0 BitVec.zero_and

end Masks

def unestablishedMasks (p : Param) (now : ℚ) (h : Handler) : U32 × U32 :=
  let unestablished := getUnestablishedInputs p now h
  (inputMask unestablished.1, inputMask unestablished.2)

/-- On any tick after any history, the two masks say what the samples say: an
input in use is in the first exactly when no sample of it has arrived, in
neither exactly when it is established, and none is in both. -/
theorem masks_established (cfg : Config) (p : Param) (boot : ℚ) (es : List Event) (now : ℚ)
    (i : RequiredInput) :
    ((unestablishedMasks p now (ran cfg p boot es)).1 &&& i.bit ≠ 0 ↔
      InUse p i ∧ samples i es = []) ∧
    ((unestablishedMasks p now (ran cfg p boot es)).2 &&& i.bit ≠ 0 ↔
      InUse p i ∧ samples i es ≠ [] ∧ ¬ Established p now i es) ∧
    (InUse p i ∧ (unestablishedMasks p now (ran cfg p boot es)).1 &&& i.bit = 0 ∧
      (unestablishedMasks p now (ran cfg p boot es)).2 &&& i.bit = 0 ↔
        InUse p i ∧ Established p now i es) ∧
    (unestablishedMasks p now (ran cfg p boot es)).1 &&&
      (unestablishedMasks p now (ran cfg p boot es)).2 = 0 := by
  have hHeard := heard cfg p boot es
  have hHas : (ran cfg p boot es).has i = false ↔ samples i es = [] := by
    rw [← Bool.not_eq_true, hHeard.has i, not_not]
  have hSteady : i ≠ .operationModeState →
      (isEstablished ((ran cfg p boot es).arrivals i) p.timeoutOperationModeAvailability now = false ↔
        ¬ Established p now i es) := by
    intro hi
    rw [← Bool.not_eq_true, (hHeard.tracks i hi).isEstablished_iff]
    cases i with
    | operationModeState => exact absurd rfl hi
    | _ => exact Iff.rfl
  have hFirst : (unestablishedMasks p now (ran cfg p boot es)).1 &&& i.bit ≠ 0 ↔
      InUse p i ∧ samples i es = [] := by
    rw [unestablishedMasks, inputMask_bit, mem_neverHeard, hHas]
  have hSecond : (unestablishedMasks p now (ran cfg p boot es)).2 &&& i.bit ≠ 0 ↔
      InUse p i ∧ samples i es ≠ [] ∧ ¬ Established p now i es := by
    rw [unestablishedMasks, inputMask_bit, mem_notSteady, hHeard.has i]
    apply and_congr_right
    intro _
    apply and_congr_right
    intro hSome
    constructor
    · rintro ⟨hi, hNot⟩
      exact (hSteady hi).mp hNot
    · intro hNot
      have hi : i ≠ .operationModeState := by
        rintro rfl
        exact hNot hSome
      exact ⟨hi, (hSteady hi).mpr hNot⟩
  refine ⟨hFirst, hSecond, ?_, ?_⟩
  · apply and_congr_right
    intro hUse
    rw [← not_iff_not, not_and_or, ← Ne, ← Ne, hFirst, hSecond]
    constructor
    · rintro (⟨_, hNone⟩ | ⟨_, _, hNot⟩)
      · intro hEstablished
        cases i <;> simp [Established, Steady, hNone] at hEstablished
      · exact hNot
    · intro hNot
      by_cases hNone : samples i es = []
      · exact .inl ⟨hUse, hNone⟩
      · exact .inr ⟨hUse, hNone, hNot⟩
  · apply inputMask_disjoint
    intro j hj hOther
    rw [mem_neverHeard] at hj
    rw [mem_notSteady, hj.2] at hOther
    cases hOther.2.1

section FirstTick
variable {cfg : Config} {p : Param} {boot : ℚ} {es : List Event} {env : Env}

/-- The newest availability sample times out between two readings of a tick:
at the first it is within the timeout, at the second it is not. -/
def TimesOutBetween (p : Param) (first second : ℚ) (es : List Event) : Prop :=
  ∃ x ∈ (samples .operationModeAvailability es).head?,
    Double.sub first x.sec ≤ p.timeoutOperationModeAvailability ∧
      p.timeoutOperationModeAvailability < Double.sub second x.sec

/-- A tick that finds every input established has a fresh availability sample. -/
theorem availability_fresh (hAll : establishedAll p env (ran cfg p boot es) = true) :
    ∃ x ∈ (samples .operationModeAvailability es).head?,
      Double.sub env.establishedSec x.sec ≤ p.timeoutOperationModeAvailability := by
  obtain ⟨hNever, hNot⟩ := Bool.and_eq_true_iff.mp hAll
  have hHeard := heard cfg p boot es
  have hHas : (ran cfg p boot es).has .operationModeAvailability = true := by
    by_contra hBad
    have hMem : .operationModeAvailability ∈
        (getUnestablishedInputs p env.establishedSec (ran cfg p boot es)).1 := mem_neverHeard.mpr
      ⟨fun hComfort => RequiredInput.noConfusion hComfort, by simpa using hBad⟩
    rw [List.isEmpty_iff.mp hNever] at hMem
    cases hMem
  have hSteady : Steady p.timeoutOperationModeAvailability env.establishedSec
      (samples .operationModeAvailability es) := by
    rw [← (hHeard.tracks .operationModeAvailability (by decide)).isEstablished_iff]
    by_contra hBad
    have hMem : .operationModeAvailability ∈
        (getUnestablishedInputs p env.establishedSec (ran cfg p boot es)).2 := mem_notSteady.mpr
      ⟨fun hComfort => RequiredInput.noConfusion hComfort, hHas, by decide, by simpa using hBad⟩
    rw [List.isEmpty_iff.mp hNot] at hMem
    cases hMem
  match hSamples : samples .operationModeAvailability es, hSteady with
  | newest :: _ :: _, hSteady => exact ⟨newest, rfl, hSteady.2.2.2⟩

/-- On a tick that finds every required input established, so on the one that
ends INIT and on the one that clears an init failure, the availability is not
timed out, and without the latch no input is lost, exactly when the newest
sample does not time out between the tick's two readings of the clock. -/
theorem first_tick_timely_iff (hAll : establishedAll p env (ran cfg p boot es) = true) :
    ((entering p env (ran cfg p boot es)).isAvailabilityTimeout = false ∧
      (env.latched = false → (entering p env (ran cfg p boot es)).isInputLost = false)) ↔
    ¬ TimesOutBetween p env.establishedSec env.timeoutSec es := by
  obtain ⟨x, hx, hFresh⟩ := availability_fresh hAll
  have hStamp : (updatePhase p env (ran cfg p boot es)).1.stampAvailability = x.sec :=
    updatePhase_inputs.stamp.trans ((heard cfg p boot es).stamp x hx)
  have hTimeout : (entering p env (ran cfg p boot es)).isAvailabilityTimeout =
      decide (Double.sub env.timeoutSec x.sec > p.timeoutOperationModeAvailability) := by
    rw [← hStamp]
    rfl
  have hFailed : (entering p env (ran cfg p boot es)).isInitFailed = false := by
    rw [entering_isInitFailed]
    by_contra hFailed
    have hWas := (stands cfg p boot (es ++ [.tick env])).failed.mp (by simpa using hFailed)
    exact hWas.2 ((hasEstablished_append cfg p boot es _).mpr (.inr hAll))
  have hLatched : (entering p env (ran cfg p boot es)).isSupervisorLatched = env.latched := rfl
  have hBetween : TimesOutBetween p env.establishedSec env.timeoutSec es ↔
      Double.sub env.timeoutSec x.sec > p.timeoutOperationModeAvailability := by
    constructor
    · rintro ⟨y, hy, _, hLate⟩
      cases Option.mem_unique hx hy
      exact hLate
    · intro hLate
      exact ⟨x, hx, hFresh, hLate⟩
  rw [hBetween, hTimeout, decide_eq_false_iff_not]
  refine ⟨And.left, fun hTimely => ⟨hTimely, fun hNone => ?_⟩⟩
  rw [isInputLost, hTimeout, hFailed, hLatched, hNone, decide_eq_false hTimely]
  rfl

/-- A tick whose second reading of the clock is later by `us`. -/
def Env.slow (ms us : Int) : Env :=
  { Env.plain ms with timeoutSec := nowSec (ms * 1000000 + us * 1000) }

theorem first_tick_timely_prompt :
    (entering .declared (.slow 200 1000)
      (ran Config.image .declared 0 (establish { stop := true }))).isAvailabilityTimeout = false :=
  (first_tick_timely_iff (by decide +kernel)).mpr (by
    rintro ⟨x, hx, _, hLate⟩
    cases hx
    revert hLate
    decide +kernel) |>.1

/-- The newest sample is exactly as old as the timeout allows when the tick
finds it established, and a microsecond later it has timed out: INIT ends and
the same tick finds the input lost. -/
theorem not_first_tick_timely :
    (ran Config.image .declared 0 (establishAt 250 { stop := true })).phase = .init ∧
    establishedAll .declared (.slow 750 1)
      (ran Config.image .declared 0 (establishAt 250 { stop := true })) = true ∧
    (Env.slow 750 1).latched = false ∧
    (entering .declared (.slow 750 1)
      (ran Config.image .declared 0 (establishAt 250 { stop := true }))).isInputLost = true := by
  decide +kernel

end FirstTick

end SafetyIsland.Handler
