import SafetyIsland.Trace.Sink

/-! What `island_trace_take_bind` binds. The sink remembers the last take's slot
in one word for every level, and the callback reads it later: the binding is the
sample's own as long as no other take is emitted in between. -/
namespace SafetyIsland.Trace

open Preemption Transition

/-- A thread at work on a take. -/
def Frame.isTake : Frame → Bool
  | .take .. => true
  | _ => false

/-- What every take finds at its next statement, whatever preempted it. -/
def Placed (ex : Executor) (s : Sink) (t : Sample) : TakeAt → Prop
  | .count i | .due i | .restart i | .setCur i | .putTake i =>
      i < takeInputs ∧ s.takeSlot i = t.slot + 1
  | .bindSeen => ∃ i, ex.input t.slot = some i ∧ s.takeSlot i = 0
  | .bindKeep | .bindN | .bindSec | .setTake | .bindSlot =>
      ∃ i, ex.input t.slot = some i ∧ s.takeSlot i = 0 ∧ s.lastTake ≠ 0xFF
  | _ => True

/-- Every record of a take names an input that its slot was bound to. -/
def Named (ex : Executor) (out : List (Rec Writer)) : Prop :=
  ∀ t arg, .marker (.take t) nrosTake arg ∈ out →
    ex.input t.slot = some (inputOf arg)

section Place
variable {ex : Executor} {s : Sink} {t : Sample} {pos pos' : TakeAt}

/-- The sink puts the input's index where nano-ros had the slot. -/
theorem inputOf_takeArg (i : U8) (t : Sample) : inputOf (takeArg i t) = i := by
  have hMask : ∀ j < 8, (0x00FFFFFF : U32).getLsbD (24 + j) = false := by decide
  ext j hj
  have hFits : 24 + j < 32 := by omega
  have hHigh : ¬ 24 + j < 24 := by omega
  simp only [inputOf, takeArg, BitVec.getElem_setWidth, BitVec.getLsbD_ushiftRight,
    BitVec.getLsbD_or, BitVec.getLsbD_shiftLeft, BitVec.getLsbD_setWidth, BitVec.getLsbD_and,
    hMask j hj, Bool.and_false, Bool.or_false, Nat.add_sub_cancel_left, hFits, hHigh]
  have hLow : j < 32 := by omega
  simp [hLow, BitVec.getLsbD_eq_getElem hj]

/-- A registered slot is not the mark for none. -/
theorem slot_ne_of_lt (hSlot : t.slot.toNat < ex.slots) : t.slot ≠ 0xFF := by
  intro hNone
  have hLt := ex.slots_lt
  rw [hNone] at hSlot
  have hMark : (0xFF : U8).toNat = 255 := rfl
  omega

/-- A slot's mark is never that of an unbound input. -/
theorem succ_ne_zero {slot : U8} (hSlot : slot ≠ 0xFF) : slot + 1 ≠ 0 := by
  intro hZero
  apply hSlot
  have hBack : slot + 1 - 1 = 0 - 1 := by rw [hZero]
  rwa [BitVec.add_sub_cancel] at hBack

/-- A take's next statement finds what it needs. -/
theorem Placed.next (h : Placed ex s t pos)
    (hNext : (execTake ex s t pos).2.2 = some pos') :
    Placed ex (execTake ex s t pos).1 t pos' := by
  cases pos with
  | seek i =>
      simp only [execTake] at hNext ⊢
      split_ifs at hNext ⊢ with hInput hSlot
      · obtain rfl := Option.some.inj hNext
        trivial
      · obtain rfl := Option.some.inj hNext
        exact ⟨hInput, not_not.mp hSlot⟩
      · obtain rfl := Option.some.inj hNext
        trivial
  | count i | restart i | setCur i =>
      obtain rfl := Option.some.inj hNext
      exact h
  | due i =>
      obtain rfl := Option.some.inj hNext
      split_ifs
      · exact h
      · trivial
  | stamped | secCur | secDiffers | nsecCur =>
      obtain rfl := Option.some.inj hNext
      split_ifs <;> trivial
  | bind =>
      simp only [execTake] at hNext ⊢
      split at hNext
      · obtain rfl := Option.some.inj hNext
        trivial
      · rename_i i hInput
        obtain rfl := Option.some.inj hNext
        split_ifs with hBound
        · trivial
        · exact ⟨i, hInput, not_not.mp hBound⟩
  | bindSeen =>
      obtain ⟨i, hInput, hFree⟩ := h
      obtain rfl := Option.some.inj hNext
      split_ifs with hSeen
      · trivial
      · exact ⟨i, hInput, hFree, hSeen⟩
  | bindKeep | bindN | bindSec =>
      obtain ⟨i, hInput, hFree, hSeen⟩ := h
      simp only [execTake, hInput] at hNext ⊢
      obtain rfl := Option.some.inj hNext
      exact ⟨i, hInput, hFree, hSeen⟩
  | setTake =>
      obtain rfl := Option.some.inj hNext
      exact h
  | bindSlot =>
      obtain ⟨i, hInput, -⟩ := h
      simp only [execTake, hInput] at hNext ⊢
      obtain rfl := Option.some.inj hNext
      trivial
  | body => exact absurd hNext (by simp [execTake])
  | _ =>
      obtain rfl := Option.some.inj hNext
      trivial

/-- What a statement does to the bindings: nothing, or one for an input that
was free. -/
theorem execTake_binds (hPlaced : Placed ex s t pos) :
    (execTake ex s t pos).1.takeSlot = s.takeSlot ∨
      pos = .bindSlot ∧ ∃ i, ex.input t.slot = some i ∧ s.takeSlot i = 0 ∧ s.lastTake ≠ 0xFF ∧
        (execTake ex s t pos).1 =
          { s with takeSlot := Function.update s.takeSlot i (s.lastTake + 1) } := by
  by_cases hPos : pos = .bindSlot
  · subst hPos
    obtain ⟨i, hInput, hFree, hSeen⟩ := hPlaced
    exact .inr ⟨rfl, i, hInput, hFree, hSeen, execTake_bindSlot hInput⟩
  · exact .inl (execTake_takeSlot hPos)

/-- An input once bound stays bound as it is. -/
theorem takeSlot_kept {i : U8} (hPlaced : Placed ex s t pos) (hBound : s.takeSlot i ≠ 0) :
    (execTake ex s t pos).1.takeSlot i = s.takeSlot i := by
  rcases execTake_binds hPlaced with hSame | ⟨-, j, -, hFree, -, hExec⟩
  · rw [hSame]
  · have hOther : i ≠ j := by
      rintro rfl
      exact hBound hFree
    rw [hExec]
    exact Function.update_of_ne hOther ..

/-- Once a take was seen, one stays seen. -/
theorem lastTake_ne (hSlot : t.slot.toNat < ex.slots) (hSeen : s.lastTake ≠ 0xFF) :
    (execTake ex s t pos).1.lastTake ≠ 0xFF := by
  by_cases hPos : pos = .lastTake
  · subst hPos
    exact slot_ne_of_lt hSlot
  · rwa [execTake_lastTake hPos]

/-- Another take leaves a preempted one what it needs. -/
theorem Placed.other {u : Sample} {at' : TakeAt} (h : Placed ex s u at')
    (hPlaced : Placed ex s t pos) (hSlot : t.slot.toNat < ex.slots)
    (hReg : u.slot.toNat < ex.slots) (hApart : ex.level t.slot < ex.level u.slot) :
    Placed ex (execTake ex s t pos).1 u at' := by
  have hFree {i : U8} (hInput : ex.input u.slot = some i) (hZero : s.takeSlot i = 0) :
      (execTake ex s t pos).1.takeSlot i = 0 := by
    rcases execTake_binds hPlaced with hSame | ⟨-, j, hOwn, -, -, hExec⟩
    · rw [hSame, hZero]
    · have hOther : i ≠ j := by
        rintro rfl
        rw [ex.input_inj hOwn hInput] at hApart
        exact absurd hApart (Nat.lt_irrefl _)
      rw [hExec]
      exact (Function.update_of_ne hOther ..).trans hZero
  have hKeep {i : U8} (hBound : s.takeSlot i = u.slot + 1) :
      (execTake ex s t pos).1.takeSlot i = u.slot + 1 := by
    rw [takeSlot_kept hPlaced, hBound]
    rw [hBound]
    exact succ_ne_zero (slot_ne_of_lt hReg)
  cases at' with
  | count i | due i | restart i | setCur i | putTake i => exact ⟨h.1, hKeep h.2⟩
  | bindSeen =>
      obtain ⟨i, hInput, hZero⟩ := h
      exact ⟨i, hInput, hFree hInput hZero⟩
  | bindKeep | bindN | bindSec | setTake | bindSlot =>
      obtain ⟨i, hInput, hZero, hSeen⟩ := h
      exact ⟨i, hInput, hFree hInput hZero, lastTake_ne hSlot hSeen⟩
  | _ => trivial

end Place

def Runs (ex : Executor) : Event → Prop
  | .start f => f.Begins ex
  | .run => True

instance (ex : Executor) (e : Event) : Decidable (Runs ex e) :=
  match e with
  | .start _ => by unfold Runs; infer_instance
  | .run => isTrue trivial

def Rec.NoTake : Rec Writer → Prop
  | .marker (.take _) _ _ => False
  | .marker _ id _ => id < nrosTake ∨ nrosTakeStampNsec < id
  | .other _ => True

/-- Assertions about takes alone: what `Preemption.Outline` asks of them. -/
structure TakeOutline (ex : Executor) (Allowed : World → Event → Prop) where
  running : Sink → List (Rec Writer) → Sample → TakeAt → Prop
  suspended : Sink → Sample → TakeAt → Prop
  idle : Sink → List (Rec Writer) → Prop
  begins : ∀ {w f}, Allowed w (.start f) → f.Begins ex
  first : ∀ {w t}, Allowed w (.start (.take t .lastTake)) → idle w.shared w.output →
    running w.shared w.output t .lastTake
  preempt : ∀ {w t u pos}, Allowed w (.start (.take t .lastTake)) → .take u pos ∈ w.stack →
    running w.shared w.output u pos →
    running w.shared w.output t .lastTake ∧ suspended w.shared u pos
  next : ∀ {s out t pos pos'}, running s out t pos → (execTake ex s t pos).2.2 = some pos' →
    running (execTake ex s t pos).1 (out ++ (execTake ex s t pos).2.1) t pos'
  last : ∀ {s out t}, running s out t .body → idle s out
  keeps : ∀ {s out t pos u at'}, running s out t pos → suspended s u at' →
    ex.level t.slot < ex.level u.slot → suspended (execTake ex s t pos).1 u at'
  resume : ∀ {s out t pos}, idle s out → suspended s t pos → running s out t pos
  foreign_running : ∀ {s out t pos r}, Rec.NoTake r → running s out t pos →
    running s (out ++ [r]) t pos
  foreign_idle : ∀ {s out r}, Rec.NoTake r → idle s out → idle s (out ++ [r])

/-- Only the rest of the callback ends a take. -/
theorem body_of_last {ex : Executor} {s : Sink} {t : Sample} {pos : TakeAt}
    (hLast : (execTake ex s t pos).2.2 = none) : pos = .body := by
  cases pos with
  | body => rfl
  | seek i =>
      simp only [execTake] at hLast
      split_ifs at hLast
  | bind | bindKeep | bindN | bindSec | bindSlot =>
      simp only [execTake] at hLast
      split at hLast <;> cases hLast
  | _ => cases hLast

/-- The other threads put one record, no take's, and touch nothing. -/
theorem exec_foreign (ex : Executor) (s : Sink) {f : Frame} (hMine : f.isTake = false) :
    (exec ex s f).1 = s ∧ (∃ r, (exec ex s f).2.1 = [r] ∧ Rec.NoTake r) ∧
      ∀ f', (exec ex s f).2.2 = some f' → f'.isTake = false := by
  cases f with
  | take t pos => exact absurd hMine (by simp [Frame.isTake])
  | violation v pos =>
      refine ⟨rfl, ?_, fun f' hNext => ?_⟩
      · cases pos <;> exact ⟨_, rfl, .inl (by decide)⟩
      · obtain ⟨pos', -, rfl⟩ := Option.map_eq_some_iff.mp hNext
        rfl
  | other level m =>
      refine ⟨rfl, ⟨_, rfl, ?_⟩, fun f' hNext => by cases hNext⟩
      cases m with
      | none => trivial
      | some m =>
          rcases Bool.and_eq_false_iff.mp m.unread with hLow | hHigh
          · have hLess : m.id < nrosViolation := by simpa using hLow
            exact .inl (Nat.lt_trans hLess (by decide))
          · exact .inr (by simpa using hHigh)

namespace TakeOutline
variable {ex : Executor} {Allowed : World → Event → Prop} (o : TakeOutline ex Allowed)

def outline : Outline (levels ex) Allowed Frame.isTake where
  running s out f :=
    match f with
    | .take t pos => o.running s out t pos
    | _ => False
  suspended s f :=
    match f with
    | .take t pos => o.suspended s t pos
    | _ => False
  idle := o.idle
  first := by
    intro w f hAllowed hMine _ hIdle
    cases f with
    | take t pos =>
        obtain rfl : pos = .lastTake := (o.begins hAllowed).1
        exact o.first hAllowed hIdle
    | violation | other => exact absurd hMine (by simp [Frame.isTake])
  preempt := by
    intro w f g rest hAllowed hMine hStack _ hRunning _
    have hFiltered : g ∈ w.stack.filter Frame.isTake := by
      rw [hStack]
      exact List.mem_cons_self
    cases f with
    | take t pos =>
        obtain rfl : pos = .lastTake := (o.begins hAllowed).1
        cases g with
        | take u at' => exact o.preempt hAllowed (List.mem_filter.mp hFiltered).1 hRunning
        | violation | other => exact hRunning.elim
    | violation | other => exact absurd hMine (by simp [Frame.isTake])
  next := by
    intro s out f f' _ hRunning hNext
    cases f with
    | take t pos =>
        obtain ⟨pos', hPos, rfl⟩ := Option.map_eq_some_iff.mp hNext
        exact ⟨rfl, o.next hRunning hPos⟩
    | violation | other => exact hRunning.elim
  last := by
    intro s out f _ hRunning hLast
    cases f with
    | take t pos =>
        obtain rfl : pos = .body := body_of_last (Option.map_eq_none_iff.mp hLast)
        show o.idle s (out ++ [])
        rw [List.append_nil]
        exact o.last hRunning
    | violation | other => exact hRunning.elim
  keeps := by
    intro s out f g _ _ hRunning hSuspended hLevel
    cases f with
    | take t pos =>
        cases g with
        | take u at' => exact o.keeps hRunning hSuspended hLevel
        | violation | other => exact hSuspended.elim
    | violation | other => exact hRunning.elim
  resume := by
    intro s out g _ hIdle hSuspended
    cases g with
    | take t pos => exact o.resume hIdle hSuspended
    | violation | other => exact hSuspended.elim
  foreign hMine hNext := (exec_foreign ex _ hMine).2.2 _ hNext
  foreign_running := by
    intro s out f g hMine hRunning
    obtain ⟨hShared, ⟨r, hPut, hNoTake⟩, -⟩ := exec_foreign ex s hMine
    cases g with
    | take t pos =>
        show o.running (exec ex s f).1 (out ++ (exec ex s f).2.1) t pos
        rw [hShared, hPut]
        exact o.foreign_running hNoTake hRunning
    | violation | other => exact hRunning.elim
  foreign_suspended := by
    intro s f g hMine hSuspended
    cases g with
    | take t pos =>
        show o.suspended (exec ex s f).1 t pos
        rw [(exec_foreign ex _ hMine).1]
        exact hSuspended
    | violation | other => exact hSuspended.elim
  foreign_idle := by
    intro s out f hMine hIdle
    obtain ⟨hShared, ⟨r, hPut, hNoTake⟩, -⟩ := exec_foreign ex s hMine
    show o.idle (exec ex s f).1 (out ++ (exec ex s f).2.1)
    rw [hShared, hPut]
    exact o.foreign_idle hNoTake hIdle

/-- The assertion about the take that runs, or about the world without one. -/
theorem holds {w : World} (run : Reaches (World.step ex) Allowed World.boot w)
    (hIdle : o.idle {} []) : o.outline.Holds w :=
  o.outline.holds run hIdle

end TakeOutline

/-- The sample's callback has an unbound input still to bind. -/
def Frame.AwaitsBind (ex : Executor) (s : Sink) : Frame → Prop
  | .take t pos => pos ≠ .lastTake ∧ pos ≠ .body ∧
      (ex.input t.slot).any (fun i => s.takeSlot i == 0) = true
  | _ => False

instance (ex : Executor) (s : Sink) (f : Frame) : Decidable (f.AwaitsBind ex s) :=
  match f with
  | .take .. => by unfold Frame.AwaitsBind; infer_instance
  | .violation .. | .other .. => isFalse id

/-- No take begins while a sample's callback has an unbound input to bind. -/
def Undisturbed (ex : Executor) (w : World) : Event → Prop
  | .start f => f.Begins ex ∧ (f.isTake = true → ∀ g ∈ w.stack, ¬ g.AwaitsBind ex w.shared)
  | .run => True

instance (ex : Executor) (w : World) (e : Event) : Decidable (Undisturbed ex w e) :=
  match e with
  | .start _ => by unfold Undisturbed; infer_instance
  | .run => isTrue trivial

/-- Every binding is of a slot whose callback binds the input, and its stamp
is on. -/
def Bound (ex : Executor) (s : Sink) : Prop :=
  ∀ i, s.takeSlot i ≠ 0 →
    ex.input (s.takeSlot i - 1) = some i ∧ s.stampOn (s.takeSlot i - 1) = true

/-- A take, once emitted, is the last one for its own callback. -/
structure Binding (ex : Executor) (s : Sink) (out : List (Rec Writer)) (t : Sample)
    (pos : TakeAt) : Prop where
  registered : t.slot.toNat < ex.slots
  placed : Placed ex s t pos
  bound : Bound ex s
  named : Named ex out
  last : (Frame.take t pos).AwaitsBind ex s → s.lastTake = t.slot
  stamped : pos = .bindSlot → s.stampOn s.lastTake = true

section Bind
variable {ex : Executor} {s : Sink} {out : List (Rec Writer)} {t : Sample} {pos pos' : TakeAt}

/-- A callback on its way to the bind has its input to bind. -/
theorem Placed.awaits (h : Placed ex s t pos)
    (hPos : pos = .bindKeep ∨ pos = .bindN ∨ pos = .bindSec ∨ pos = .setTake ∨ pos = .bindSlot) :
    (Frame.take t pos).AwaitsBind ex s := by
  rcases hPos with rfl | rfl | rfl | rfl | rfl <;>
    (obtain ⟨i, hInput, hFree, -⟩ := h
     exact ⟨by simp, by simp, by simp [hInput, hFree]⟩)

/-- Only the take's record names an input. -/
theorem execTake_named (hBound : Bound ex s) (hPlaced : Placed ex s t pos)
    (hSlot : t.slot.toNat < ex.slots) : Named ex (execTake ex s t pos).2.1 := by
  intro u arg hMem
  cases hPuts : pos.puts with
  | false =>
      rw [execTake_silent hPuts] at hMem
      exact absurd hMem List.not_mem_nil
  | true =>
      cases pos with
      | putTake i =>
          obtain ⟨rfl, rfl⟩ : u = t ∧ arg = takeArg i t := by simpa [execTake, put] using hMem
          have hOn : s.takeSlot i ≠ 0 := by
            rw [hPlaced.2]
            exact succ_ne_zero (slot_ne_of_lt hSlot)
          have hOf := (hBound i hOn).1
          rw [hPlaced.2, BitVec.add_sub_cancel] at hOf
          rw [inputOf_takeArg, hOf]
      | putSec | putNsec =>
          have hOther : nrosTake ≠ nrosTakeStampSec ∧ nrosTake ≠ nrosTakeStampNsec := by decide
          simp [execTake, put, hOther] at hMem
      | _ => exact absurd hPuts (by simp [TakeAt.puts])

/-- A bind binds to the slot of its own sample. -/
theorem Binding.bound_next (h : Binding ex s out t pos) : Bound ex (execTake ex s t pos).1 := by
  intro i hOn
  rcases execTake_binds h.placed with hSame | ⟨rfl, j, hInput, -, -, hExec⟩
  · rw [hSame] at hOn ⊢
    obtain ⟨hOf, hStamp⟩ := h.bound i hOn
    exact ⟨hOf, execTake_stampOn_mono hStamp⟩
  · have hLast := h.last (h.placed.awaits (by simp))
    rw [hExec]
    by_cases hOwn : i = j
    · subst hOwn
      show ex.input (Function.update s.takeSlot i (s.lastTake + 1) i - 1) = some i ∧
        s.stampOn (Function.update s.takeSlot i (s.lastTake + 1) i - 1) = true
      rw [Function.update_self, BitVec.add_sub_cancel]
      exact ⟨by rw [hLast, hInput], h.stamped rfl⟩
    · show ex.input (Function.update s.takeSlot j (s.lastTake + 1) i - 1) = some i ∧
        s.stampOn (Function.update s.takeSlot j (s.lastTake + 1) i - 1) = true
      rw [hExec] at hOn
      have hKept : Function.update s.takeSlot j (s.lastTake + 1) i = s.takeSlot i :=
        Function.update_of_ne hOwn ..
      rw [hKept]
      exact h.bound i (by rwa [← hKept])

/-- The slot whose stamp was turned on is the one that is bound next. -/
theorem stampOn_of_next (hNext : (execTake ex s t pos).2.2 = some pos') (hAt : pos' = .bindSlot) :
    (execTake ex s t pos).1.stampOn (execTake ex s t pos).1.lastTake = true := by
  subst hAt
  cases execTake_follows hNext with
  | setTake => exact Function.update_self ..

/-- An input that awaits its binding after a statement did so before. -/
theorem awaits_of_next (hPlaced : Placed ex s t pos) (hPos : pos ≠ .lastTake)
    (hNext : (execTake ex s t pos).2.2 = some pos')
    (hAwaits : (Frame.take t pos').AwaitsBind ex (execTake ex s t pos).1) :
    (Frame.take t pos).AwaitsBind ex s := by
  obtain ⟨-, -, hFree⟩ := hAwaits
  refine ⟨hPos, ?_, ?_⟩
  · rintro rfl
    exact absurd hNext (by simp [execTake])
  · cases hInput : ex.input t.slot with
    | none => simp [hInput] at hFree
    | some i =>
        simp only [hInput, Option.any_some, beq_iff_eq] at hFree ⊢
        by_contra hOn
        rw [takeSlot_kept hPlaced hOn] at hFree
        exact hOn hFree

/-- A statement keeps the bindings and the records the samples' own. -/
theorem Binding.next (h : Binding ex s out t pos)
    (hNext : (execTake ex s t pos).2.2 = some pos') :
    Binding ex (execTake ex s t pos).1 (out ++ (execTake ex s t pos).2.1) t pos' where
  registered := h.registered
  placed := h.placed.next hNext
  bound := h.bound_next
  named u arg hMem := (List.mem_append.mp hMem).elim (h.named u arg)
    (execTake_named h.bound h.placed h.registered u arg)
  last hAwaits := by
    by_cases hPos : pos = .lastTake
    · subst hPos
      rfl
    · rw [execTake_lastTake hPos]
      exact h.last (awaits_of_next h.placed hPos hNext hAwaits)
  stamped := stampOn_of_next hNext

end Bind

/-- Another thread's record names no input. -/
theorem Named.foreign {ex : Executor} {out : List (Rec Writer)} {r : Rec Writer}
    (h : Named ex out) (hNoTake : Rec.NoTake r) : Named ex (out ++ [r]) := by
  intro u arg hMem
  rcases List.mem_append.mp hMem with hBefore | hNew
  · exact h u arg hBefore
  · rw [← List.mem_singleton.mp hNew] at hNoTake
    exact hNoTake.elim

def bindingOutline (ex : Executor) : TakeOutline ex (Undisturbed ex) where
  running := Binding ex
  suspended s t pos := t.slot.toNat < ex.slots ∧ Placed ex s t pos ∧
    ¬ (Frame.take t pos).AwaitsBind ex s
  idle s out := Bound ex s ∧ Named ex out
  begins hAllowed := hAllowed.1
  first hAllowed hIdle :=
    ⟨hAllowed.1.2, trivial, hIdle.1, hIdle.2, fun h => absurd rfl h.1, by simp⟩
  preempt hAllowed hMem hRunning :=
    ⟨⟨hAllowed.1.2, trivial, hRunning.bound, hRunning.named, fun h => absurd rfl h.1, by simp⟩,
      hRunning.registered, hRunning.placed, hAllowed.2 rfl _ hMem⟩
  next := Binding.next
  last hRunning := ⟨hRunning.bound, hRunning.named⟩
  keeps := by
    intro s out t pos u at' hRunning hSuspended hLevel
    obtain ⟨hReg, hPlaced, hQuiet⟩ := hSuspended
    refine ⟨hReg, hPlaced.other hRunning.placed hRunning.registered hReg hLevel, ?_⟩
    intro hAwaits
    apply hQuiet
    refine ⟨hAwaits.1, hAwaits.2.1, ?_⟩
    have hFree := hAwaits.2.2
    cases hInput : ex.input u.slot with
    | none => simp [hInput] at hFree
    | some i =>
        simp only [hInput, Option.any_some, beq_iff_eq] at hFree ⊢
        by_contra hOn
        exact hOn (by rw [← takeSlot_kept hRunning.placed hOn]; exact hFree)
  resume := by
    intro s out t pos hIdle hSuspended
    obtain ⟨hReg, hPlaced, hQuiet⟩ := hSuspended
    refine ⟨hReg, hPlaced, hIdle.1, hIdle.2, fun h => absurd h hQuiet, ?_⟩
    rintro rfl
    exact absurd (hPlaced.awaits (by simp)) hQuiet
  foreign_running hNoTake hRunning := { hRunning with named := hRunning.named.foreign hNoTake }
  foreign_idle hNoTake hIdle := ⟨hIdle.1, hIdle.2.foreign hNoTake⟩

/-- The bindings made and the records written are the samples' own. -/
structure TakeBound (ex : Executor) (w : World) : Prop where
  /-- A callback that binds its input binds it to the slot of its own sample,
  and the stamp of that slot is on. -/
  binds : ∀ t rest i, w.stack = .take t .bindSlot :: rest → ex.input t.slot = some i →
    (World.step ex w .run).shared.takeSlot i = t.slot + 1 ∧
      (World.step ex w .run).shared.stampOn t.slot = true
  /-- A take's record names the input whose slot was taken. -/
  names : Named ex w.output

/-- Where no take is emitted between a sample's own and the end of the bind in
its callback, every level's bindings are the samples' own. -/
theorem take_bind (ex : Executor) {w : World}
    (run : Reaches (World.step ex) (Undisturbed ex) World.boot w) : TakeBound ex w := by
  have hBoot : Bound ex {} ∧ Named ex [] :=
    ⟨fun i hOn => absurd rfl hOn, fun t arg hMem => absurd hMem List.not_mem_nil⟩
  have hHolds := (bindingOutline ex).holds run hBoot
  refine ⟨?_, ?_⟩
  · intro t rest i hStack hInput
    have hClass := hHolds.ofClass
    rw [hStack] at hClass
    have hRunning : Binding ex w.shared w.output t .bindSlot := hClass.1
    have hLast := hRunning.last (hRunning.placed.awaits (by simp))
    have hStep : (World.step ex w .run).shared = (execTake ex w.shared t .bindSlot).1 := by
      obtain ⟨shared, stack, output⟩ := w
      dsimp only at hStack
      subst hStack
      rfl
    rw [hStep, execTake_bindSlot hInput]
    refine ⟨?_, by rw [← hLast]; exact hRunning.stamped rfl⟩
    rw [← hLast]
    exact Function.update_self ..
  · have hClass := hHolds.ofClass
    cases hStack : w.stack.filter Frame.isTake with
    | nil =>
        rw [hStack] at hClass
        exact hClass.2
    | cons f rest =>
        rw [hStack] at hClass
        have hRunning := hClass.1
        cases f with
        | take t pos => exact Binding.named hRunning
        | violation | other => exact hRunning.elim

/-- Slot 0 is `control_cmd`, slot 1 `kinematic_state`. -/
def twoInputs (slot : U8) : Option U8 :=
  if slot = 0 then some 2 else if slot = 1 then some 0 else none

/-- The two slots bind the two inputs. -/
theorem twoInputs_eq {slot i : U8} (h : twoInputs slot = some i) :
    slot = 0 ∧ i = 2 ∨ slot = 1 ∧ i = 0 := by
  unfold twoInputs at h
  by_cases hFirst : slot = 0
  · rw [if_pos hFirst] at h
    exact .inl ⟨hFirst, (Option.some.inj h).symm⟩
  · rw [if_neg hFirst] at h
    by_cases hSecond : slot = 1
    · rw [if_pos hSecond] at h
      exact .inr ⟨hSecond, (Option.some.inj h).symm⟩
    · rw [if_neg hSecond] at h
      cases h

def twoLevels : Executor where
  slots := 2
  slots_lt := by decide
  level slot := if slot = 0 then 1 else 0
  input := twoInputs
  input_lt h := by
    rcases twoInputs_eq h with ⟨-, rfl⟩ | ⟨-, rfl⟩ <;> decide
  input_inj h h' := by
    rcases twoInputs_eq h with ⟨rfl, rfl⟩ | ⟨rfl, rfl⟩ <;>
      rcases twoInputs_eq h' with ⟨rfl, hSame⟩ | ⟨rfl, hSame⟩ <;>
      first | rfl | exact absurd hSame (by decide)
  keep i := if i = 2 then 12 else if i = 0 then 4 else 1

/-- The first samples of the two slots. -/
def controlCmd : Sample := { arg := 0x00000001, sec := 10, nsec := 500 }
def kinematicState : Sample := { arg := 0x01000001, sec := 10, nsec := 900 }

/-- `control_cmd` is bound by its first sample and recorded at its second, whose
callback `kinematic_state` preempts to bind its own input. -/
def boundUnder : List Event :=
  .start (.take controlCmd .lastTake) :: List.replicate 15 .run ++
    .start (.take { controlCmd with arg := 2 } .lastTake) :: List.replicate 19 .run ++
    .start (.take kinematicState .lastTake) :: List.replicate 13 .run

theorem take_bind_undisturbed :
    let w := follow (World.step twoLevels) World.boot boundUnder
    w.stack.head? = some (.take kinematicState .bindSlot) ∧
      Rec.marker (.take { controlCmd with arg := 2 }) nrosTake 0x02000002 ∈ w.output ∧
      TakeBound twoLevels w :=
  ⟨by decide +kernel, by decide +kernel,
    take_bind twoLevels (reaches_follow boundUnder (by decide +kernel))⟩

/-- The first `control_cmd` is taken and its callback begins; statements `n`
later the first `kinematic_state` is taken and served, and the callback goes
on. -/
def preemptedAfter (n : Nat) : List Event :=
  .start (.take controlCmd .lastTake) :: List.replicate n .run ++
    .start (.take kinematicState .lastTake) :: List.replicate 21 .run

/-- A take between the callback's start and its bind gives its slot to the
input of the preempted callback. -/
theorem not_take_bind : ¬ ∀ w,
    Reaches (World.step twoLevels) (fun _ e => Runs twoLevels e) World.boot w →
      TakeBound twoLevels w := by
  intro hClaim
  have hBound := hClaim
    (follow (World.step twoLevels) World.boot (preemptedAfter 7))
    (reaches_follow (preemptedAfter 7) (by decide +kernel))
  have hBinds := hBound.binds controlCmd [] 2 (by decide +kernel) (by decide +kernel)
  exact absurd hBinds.1 (by decide +kernel)

end SafetyIsland.Trace
