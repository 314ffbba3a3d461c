import SafetyIsland.Trace.Attached

/-! Every row of a loaded trace is a sample that a level took or a violation it
reported, with nothing attached that is not its own; and where no group of
records is interrupted by another of its kind, no violation since the last
re-arm is missing, nor any of its values. -/
namespace SafetyIsland.Trace

open Preemption Transition

/-- No take begins while another stands between a test of the sink's and the
record it guards, or has an input still to bind. -/
def Quiet (ex : Executor) (w : World) (e : Preemption.Event Frame) : Prop :=
  Guarded ex w e ∧ Undisturbed ex w e

instance Quiet.decidable (ex : Executor) (w : World) (e : Preemption.Event Frame) :
    Decidable (Quiet ex w e) :=
  inferInstanceAs (Decidable (Guarded ex w e ∧ Undisturbed ex w e))

instance Frame.decidableNumbered (f : Frame) : Decidable f.Numbered :=
  match f with
  | .take .. | .violation .. => isTrue trivial
  | .other _ none => isFalse fun h => by
      obtain ⟨own, hSome, -⟩ := h
      cases hSome
  | .other _ (some m) => decidable_of_iff (m.id < 2 ^ 16)
      ⟨fun h => ⟨m, rfl, h⟩, fun h => by
        obtain ⟨own, hSome, hFits⟩ := h
        cases hSome
        exact hFits⟩

instance Image.decidableAllowed (ex : Executor) (Starts : World → Preemption.Event Frame → Prop)
    [∀ w e, Decidable (Starts w e)] (w : Image) : (e : Image.Event) →
      Decidable (w.Allowed ex Starts e)
  | .start f => inferInstanceAs (Decidable (Starts w.levels (.start f) ∧ f.Numbered))
  | .run t up => inferInstanceAs
      (Decidable (∀ r ∈ w.puts ex, ∀ e ∈ r.call t up, Timely w.window.history e))
  | .heartbeat t up rearm =>
      inferInstanceAs (Decidable (Timely w.window.history (.heartbeat t up rearm)))

/-- The row is of a sample that was taken: it names the input of its slot, and
a stamp is its own. -/
structure TakeRow.OfSample (ex : Executor) (w : Image) (l : Loaded) (row : TakeRow Int)
    (t : Sample) (made : Nat) : Prop where
  put : .marker (.take t, made) nrosTake (takeArg row.input t) ∈ w.since
  input : ex.input t.slot = some row.input
  seq : row.seq = t.arg &&& 0xFFFFFF
  stamp : ∀ stamp, row.stampNs = some stamp → stamp = stampOf t.sec t.nsec
  time : l.heartbeats ≠ [] → row.tNs = made

/-- The row is of a violation that was reported: what it has is its own. -/
structure ViolationRow.OfReport (w : Image) (l : Loaded) (row : ViolationRow Int)
    (v : Violation) (made : Nat) : Prop where
  put : .marker (.violation v, made) nrosViolation v.head ∈ w.since
  seq : row.seq = v.head >>> 8
  ruleCode : row.ruleCode = v.head &&& 0xFF
  fqnHash : ∀ x, row.fqnHash = some x → x = v.fqn
  measured : ∀ x, row.measured = some x → x = v.measured
  declared : ∀ x, row.declared = some x → x = v.declared
  time : l.heartbeats ≠ [] → row.tNs = made

/-- A violation reported, and when its first marker was put. -/
def Rec.report : Rec (Writer × Nat) → Option (Violation × Nat)
  | .marker (.violation v, made) id _ => if id = nrosViolation then some (v, made) else none
  | _ => none

def openingOf (r : Violation × Nat) : (Writer × Nat) × U32 × U32 :=
  ((.violation r.1, r.2), r.1.head >>> 8, r.1.head &&& 0xFF)

section Rows
variable {ex : Executor} {b : Build} {Starts : World → Preemption.Event Frame → Prop} {t₀ : Nat}
  {w : Image} {l : Loaded} {shown : List (Rec (Writer × Nat))} {x : Writer × Nat} {id : Nat}
  {arg : U32} {t : Sample} {v : Violation} {made : Nat}

/-- The slot's own number is not the sequence's. -/
theorem takeArg_seq (i : U8) (t : Sample) : takeArg i t &&& 0xFFFFFF = t.arg &&& 0xFFFFFF := by
  have hMask : ∀ j < 32, (0x00FFFFFF : U32).getLsbD j = true → j < 24 := by decide
  ext j hj
  simp only [takeArg, BitVec.getElem_and, BitVec.getElem_or, BitVec.getElem_shiftLeft]
  cases hBit : (0xFFFFFF : U32)[j] with
  | false => simp
  | true =>
      have hLow : j < 24 := hMask j hj (by rw [BitVec.getLsbD_eq_getElem hj]; exact hBit)
      simp [hLow]

theorem forall₂_left {α β : Type*} {S : α → β → Prop} {xs : List α} {ys : List β}
    (h : List.Forall₂ S xs ys) {y : β} (hMem : y ∈ ys) : ∃ x ∈ xs, S x y := by
  induction h with
  | nil => cases hMem
  | @cons x y' xs ys hHead hTail ih =>
      rcases List.mem_cons.mp hMem with rfl | hRest
      · exact ⟨x, List.mem_cons_self, hHead⟩
      · obtain ⟨x', hx, hS⟩ := ih hRest
        exact ⟨x', List.mem_cons_of_mem x hx, hS⟩

theorem forall₂_right {α β : Type*} {S : α → β → Prop} {xs : List α} {ys : List β}
    (h : List.Forall₂ S xs ys) {x : α} (hMem : x ∈ xs) : ∃ y ∈ ys, S x y :=
  forall₂_left h.flip hMem

/-- A take's frame that begins is one the machine may run. -/
theorem Guarded.runs {w : World} {e : Preemption.Event Frame} (h : Guarded ex w e) : Runs ex e := by
  cases e with
  | start f => exact h.1
  | run => trivial

/-- The end of what was put since a re-arm is an end of all that was put. -/
theorem ImageInv.behind (h : ImageInv ex b Starts t₀ w) (hShown : shown <:+ w.since) :
    shown.map (Rec.map Prod.fst) <:+ w.levels.output :=
  (hShown.map _).trans h.suffix

/-- A record in the window was written by a level. -/
theorem ImageInv.written (h : ImageInv ex b Starts t₀ w) (hMem : .marker x id arg ∈ w.since) :
    .marker x.1 id arg ∈ w.levels.output :=
  h.suffix.subset (List.mem_map_of_mem (f := Rec.map Prod.fst) hMem)

/-- A take's marker is a take's. -/
theorem ImageInv.taken (h : ImageInv ex b Starts t₀ w)
    (hMem : .marker x nrosTake arg ∈ w.since) :
    ∃ t, x.1 = .take t ∧ arg = takeArg (inputOf arg) t := by
  have hSigned := h.signed _ (h.written hMem)
  obtain ⟨writer, made⟩ := x
  cases writer with
  | take t => exact ⟨t, rfl, hSigned.2.2 rfl⟩
  | violation v => exact absurd hSigned.1 (by decide)
  | other => exact absurd (show joined nrosTake = false from hSigned) (by decide)

/-- A violation's first marker is a violation's. -/
theorem ImageInv.reported (h : ImageInv ex b Starts t₀ w)
    (hMem : .marker x nrosViolation arg ∈ w.since) : ∃ v, x.1 = .violation v ∧ arg = v.head := by
  have hSigned := h.signed _ (h.written hMem)
  obtain ⟨writer, made⟩ := x
  cases writer with
  | take t => exact absurd hSigned.2.1 (by decide)
  | violation v => exact ⟨v, rfl, hSigned.2 rfl⟩
  | other => exact absurd (show joined nrosViolation = false from hSigned) (by decide)

/-- What was opened was reported. -/
theorem ImageInv.opened (h : ImageInv ex b Starts t₀ w) {tail : List (Rec (Writer × Nat))}
    (hTail : tail ⊆ w.since) :
    tail.filterMap Rec.opening = (tail.filterMap Rec.report).map openingOf := by
  rw [List.map_filterMap]
  refine List.filterMap_congr fun r hMem => ?_
  cases r with
  | other y => rfl
  | marker y id arg =>
      by_cases hHead : id = nrosViolation
      · subst hHead
        obtain ⟨writer, made⟩ := y
        obtain ⟨v, hWriter, rfl⟩ := h.reported (hTail hMem)
        dsimp only at hWriter
        subst hWriter
        rfl
      · have hOpening : (Rec.marker y id arg).opening = none := if_neg hHead
        rw [hOpening]
        obtain ⟨writer, made⟩ := y
        cases writer with
        | take t => rfl
        | other => rfl
        | violation v =>
            have hReport : (Rec.marker (Writer.violation v, made) id arg).report = none :=
              if_neg hHead
            rw [hReport]
            rfl

end Rows

section Runs
variable {ex : Executor} {b : Build} {Starts : World → Preemption.Event Frame → Prop} {t₀ : Nat}
  {w : Image} {l : Loaded} {shown : List (Rec (Writer × Nat))} {u : Setup} {zephyr : String}

/-- A take's row that is loaded is a sample's own. -/
theorem ImageInv.takes_own (h : ImageInv ex b (Quiet ex) t₀ w) (hShown : shown <:+ w.since)
    {row : TakeRow Int} {seen : TakeRow (Writer × Nat)} (hSeen : seen ∈ joinTakes shown)
    (hLike : TakeRow.Like l.Seen seen row) : ∃ t made, row.OfSample ex w l t made := by
  obtain ⟨arg, hPut, hInput, hSeq⟩ := joinTakes_record hSeen
  have hSince := hShown.subset hPut
  obtain ⟨t, hWriter, hArg⟩ := h.taken hSince
  have hNamed : ex.input t.slot = some (inputOf arg) := by
    refine (take_bind ex (h.levels.mono fun _ _ hQuiet => hQuiet.2)).names t arg ?_
    rw [← hWriter]
    exact h.written hSince
  obtain ⟨own, hOwn, hSame⟩ := forall₂_right (joinTakes_like (like_map Prod.fst shown)) hSeen
  have hStamps := stamps_own ex (h.levels.mono fun _ _ hQuiet => hQuiet.1) (h.behind hShown) own hOwn
  refine ⟨t, seen.tNs.2, ?_, ?_, ?_, ?_, hLike.tNs⟩
  · rw [← hLike.input, hInput, ← hArg, ← hWriter]
    exact hSince
  · rw [← hLike.input, hInput, hNamed]
  · rw [← hLike.seq, hSeq, hArg, takeArg_seq]
  · intro stamp hStamp
    rw [← hLike.stampNs, hSame.stampNs] at hStamp
    obtain ⟨t', hTaken, rfl⟩ := hStamps stamp hStamp
    rw [← hSame.tNs, hWriter] at hTaken
    cases hTaken
    rfl

/-- And a violation's is a violation's own. -/
theorem ImageInv.violations_own (h : ImageInv ex b (Quiet ex) t₀ w) (hShown : shown <:+ w.since)
    {row : ViolationRow Int} {seen : ViolationRow (Writer × Nat)}
    (hSeen : seen ∈ joinViolations shown) (hLike : ViolationRow.Like l.Seen seen row) :
    ∃ v made, row.OfReport w l v made := by
  have hOpening : seen.opening ∈ shown.filterMap Rec.opening := by
    rw [← joinViolations_opening]
    exact List.mem_map_of_mem hSeen
  obtain ⟨r, hPut, hOpens⟩ := List.mem_filterMap.mp hOpening
  obtain ⟨x, arg, rfl, hTime⟩ : ∃ x arg, r = .marker x nrosViolation arg ∧ x = seen.tNs := by
    cases r with
    | other x => cases hOpens
    | marker x id arg =>
        rw [Rec.opening] at hOpens
        split_ifs at hOpens with hHead
        rw [hHead]
        exact ⟨x, arg, rfl, (Prod.mk.inj (Option.some.inj hOpens)).1⟩
  obtain ⟨v, hWriter, rfl⟩ := h.reported (hShown.subset hPut)
  obtain ⟨own, hOwn, hSame⟩ :=
    forall₂_right (joinViolations_like (like_map Prod.fst shown)) hSeen
  obtain ⟨v', hOf, hSeq, hRule, hFqn, hMeasured, hDeclared⟩ :=
    values_own (h.levels.mono fun _ e hQuiet => hQuiet.1.runs) (h.behind hShown) own hOwn
  rw [← hSame.tNs, ← hTime, hWriter] at hOf
  cases hOf
  refine ⟨v, x.2, ?_, ?_, ?_, ?_, ?_, ?_, ?_⟩
  · rw [← hWriter]
    exact hShown.subset hPut
  · rw [← hLike.seq, hSame.seq, hSeq]
  · rw [← hLike.ruleCode, hSame.ruleCode, hRule]
  · rw [← hLike.fqnHash, hSame.fqnHash]
    exact hFqn
  · rw [← hLike.measured, hSame.measured]
    exact hMeasured
  · rw [← hLike.declared, hSame.declared]
    exact hDeclared
  · rw [hTime]
    exact hLike.tNs

/-- From the executor to the evaluation: in every run of an image, whatever
preempts what, every take that the loaded trace shows is a sample's that was
taken, and every violation one that was reported, with its own values. -/
theorem loaded_own {t₀ : Nat} {w : Image}
    (run : Reaches (Image.next ex b) (Image.Allowed ex (Quiet ex)) (Image.boot b t₀) w)
    (hZephyr : zephyr ≠ "") (hd : (u.tsdl (u.tsdlPath zephyr)).Fits b.evId)
    (hText : b.provenance.length < 2 ^ 16) (hWindow : windowedText (ascii b.provenance) = true)
    (n : Nat) :
    ∃ o l, w.window.state = some o ∧
      u.load (o.window.stream ++ List.replicate n 0) zephyr = .ok l ∧ l.error = none ∧
      (∀ row ∈ l.takes, ∃ t made, row.OfSample ex w l t made) ∧
      ∀ row ∈ l.violations, ∃ v made, row.OfReport w l v made := by
  have h : ImageInv ex b (Quiet ex) t₀ w := .holds (fun _ => ⟨trivial, trivial⟩) run
  obtain ⟨o, l, shown, hState, hLoad, hError, hShown, -, hTakes, hViolations⟩ :=
    h.shown (u := u) hZephyr hd hText hWindow n
  refine ⟨o, l, hState, hLoad, hError, fun row hMem => ?_, fun row hMem => ?_⟩
  · obtain ⟨seen, hSeen, hLike⟩ := forall₂_left hTakes hMem
    exact h.takes_own hShown hSeen hLike
  · obtain ⟨seen, hSeen, hLike⟩ := forall₂_left hViolations hMem
    exact h.violations_own hShown hSeen hLike

/-- The statements of a thread, all at one instant. -/
def Image.served (t : Nat) (up : U32) (f : Frame) (n : Nat) : List Image.Event :=
  .start f :: List.replicate n (.run t up)

/-- The operator's second sample is on its way through the sink when the
handler's level reports a violation. -/
def reportedOver : List Image.Event :=
  .heartbeat 100000000 100 none ::
    Image.served 150000000 150 (.take { arg := 1, sec := 10, nsec := 100 } .lastTake) 24 ++
    Image.served 160000000 160 (.take { arg := 2, sec := 10, nsec := 200 } .lastTake) 6 ++
    Image.served 160000100 160
      (.violation { level := 0, head := 0x503, fqn := 7, measured := 8, declared := 9 } .head) 4 ++
    List.replicate 24 (.run 160000200 160) ++ [.heartbeat 200000000 200 none]

def reported : Image :=
  follow (Image.next everyTake Build.windowed) (Image.boot Build.windowed 0) reportedOver

theorem loaded_own_reported : ∃ o l, reported.window.state = some o ∧
    sampleSetup.load (o.window.stream ++ List.replicate 50 0) "4.4" = .ok l ∧
    (∀ row ∈ l.takes, ∃ t made, row.OfSample everyTake reported l t made) ∧
    ∀ row ∈ l.violations, ∃ v made, row.OfReport reported l v made := by
  have run : Reaches (Image.next everyTake Build.windowed)
      (Image.Allowed everyTake (Quiet everyTake)) (Image.boot Build.windowed 0) reported :=
    reaches_follow reportedOver (by decide +kernel)
  obtain ⟨o, l, hState, hLoad, -, hTakes, hViolations⟩ := loaded_own (u := sampleSetup) run
    (by decide : "4.4" ≠ "") sampleTsdl_fits
    (by decide +kernel) (by decide +kernel) 50
  exact ⟨o, l, hState, hLoad, hTakes, hViolations⟩

end Runs

end SafetyIsland.Trace
