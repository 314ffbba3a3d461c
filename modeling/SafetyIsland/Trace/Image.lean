import SafetyIsland.Trace.Checked
import SafetyIsland.Trace.Completion

/-! The image: the executor's levels over the sink, the trace window that every
marker of theirs goes through, and the heartbeat timer's interrupt, which may
come between any two statements. -/
namespace SafetyIsland.Trace

open Preemption Transition

section Records
variable {τ σ : Type*}

def Rec.map (f : τ → σ) : Rec τ → Rec σ
  | .marker t id arg => .marker (f t) id arg
  | .other t => .other (f t)

def Rec.isJoined : Rec τ → Bool
  | .marker _ id _ => joined id
  | .other _ => false

@[simp] theorem Rec.isJoined_map (f : τ → σ) (r : Rec τ) : (r.map f).isJoined = r.isJoined := by
  cases r <;> rfl

theorem Rec.filter_map (f : τ → σ) (recs : List (Rec τ)) :
    (recs.map (Rec.map f)).filter Rec.isJoined = (recs.filter Rec.isJoined).map (Rec.map f) := by
  rw [List.filter_map]
  congr 1
  exact congrArg (List.filter · recs) (funext fun r => Rec.isJoined_map f r)

end Records

def Entry.toRec : Entry → Rec Nat
  | .marker t m arg => .marker t m.toNat arg
  | .heartbeat t _ _ => .other t

/-- The levels and the window, with what an observer has noted. -/
structure Image where
  levels : World
  window : Observed (Option Recording) Story
  /-- What the levels have put since the last re-arm, and when. -/
  since : List (Rec (Writer × Nat)) := []

inductive Image.Event where
  | start (f : Frame)
  /-- The running thread executes one statement; a record of it is stamped at
  the instant, and the uptime is read beside. -/
  | run (t : Nat) (up : U32)
  /-- `island_trace_heartbeat`, with the readings of a re-arm where a debugger
  has asked for one. -/
  | heartbeat (t : Nat) (up : U32) (rearm : Option (Nat × U32))

def Rec.call (t : Nat) (up : U32) : Rec Writer → Option Window.Event
  | .marker _ id arg => some (.marker t up (BitVec.ofNat 16 id) arg)
  | .other _ => none

variable (ex : Executor) (b : Build)

/-- What the running thread's next statement puts. -/
def Image.puts (w : Image) : List (Rec Writer) :=
  match w.levels.stack with
  | [] => []
  | f :: _ => (exec ex w.levels.shared f).2.1

def recorded : Observed (Option Recording) Story → Window.Event → Observed (Option Recording) Story :=
  observe (Recording.next b) (storyNote b)

def Image.next (w : Image) : Image.Event → Image
  | .start f => { w with levels := World.step ex w.levels (.start f) }
  | .run t up =>
      { levels := World.step ex w.levels .run
        window := ((w.puts ex).filterMap (Rec.call t up)).foldl (recorded b) w.window
        since := w.since ++ (w.puts ex).map (Rec.map fun writer => (writer, t)) }
  | .heartbeat t up rearm =>
      { w with
        window := recorded b w.window (.heartbeat t up rearm)
        since := if rearm.isSome then [] else w.since }

def Image.boot (boot : Nat) : Image where
  levels := World.boot
  window := Recorded.boot b boot

/-- The thread puts markers alone, of numbers that fit their sixteen bits: the
kernel's own events are off. -/
def Frame.Numbered : Frame → Prop
  | .take .. | .violation .. => True
  | .other _ m => ∃ own, m = some own ∧ own.id < 2 ^ 16

/-- The window's calls are timely, and its levels start as they are allowed. -/
def Image.Allowed (Starts : World → Preemption.Event Frame → Prop) (w : Image) :
    Image.Event → Prop
  | .start f => Starts w.levels (.start f) ∧ f.Numbered
  | .run t up => ∀ r ∈ w.puts ex, ∀ e ∈ r.call t up, Timely w.window.history e
  | .heartbeat t up rearm => Timely w.window.history (.heartbeat t up rearm)

/-- A record is what its writer puts. -/
def Rec.Signed : Rec Writer → Prop
  | .marker (.take t) id arg => id < 2 ^ 16 ∧ nrosTake ≤ id ∧
      (id = nrosTake → arg = takeArg (inputOf arg) t)
  | .marker (.violation v) id arg => id ≤ nrosViolationDeclared ∧ (id = nrosViolation → arg = v.head)
  | .marker .other id _ => joined id = false
  | .other _ => True

section Puts
variable {ex : Executor} {b : Build} {s : Sink} {f f' : Frame} {w : Image} {t : Nat} {up : U32}

/-- A statement writes one record at most, its marker's number in 16 bits. -/
theorem exec_puts (hNumbered : f.Numbered) : (exec ex s f).2.1 = [] ∨
    ∃ writer id arg, (exec ex s f).2.1 = [.marker writer id arg] ∧ id < 2 ^ 16 ∧
      Rec.Signed (.marker writer id arg) := by
  cases f with
  | take t pos =>
      show (execTake ex s t pos).2.1 = [] ∨
        ∃ writer id arg, (execTake ex s t pos).2.1 = [.marker writer id arg] ∧ _
      cases hPuts : pos.puts with
      | false => exact .inl (execTake_silent hPuts)
      | true =>
          cases pos with
          | putTake i =>
              refine .inr ⟨_, _, _, rfl, by decide, by decide, by decide, fun _ => ?_⟩
              rw [inputOf_takeArg]
          | putSec | putNsec =>
              exact .inr ⟨_, _, _, rfl, by decide, by decide, by decide, fun h => absurd h (by decide)⟩
          | _ => exact absurd hPuts (by simp [TakeAt.puts])
  | violation v pos =>
      cases pos with
      | head => exact .inr ⟨_, _, _, rfl, by decide, by decide, fun _ => rfl⟩
      | fqn | measured | declared =>
          exact .inr ⟨_, _, _, rfl, by decide, by decide, fun h => absurd h (by decide)⟩
  | other level m =>
      obtain ⟨own, rfl, hFits⟩ := hNumbered
      exact .inr ⟨_, _, _, rfl, hFits, own.unread⟩

/-- The next statement's is, too. -/
theorem exec_numbered (hNumbered : f.Numbered) (hNext : (exec ex s f).2.2 = some f') :
    f'.Numbered := by
  cases f with
  | take t pos =>
      obtain ⟨pos', -, rfl⟩ := Option.map_eq_some_iff.mp hNext
      trivial
  | violation v pos =>
      obtain ⟨pos', -, rfl⟩ := Option.map_eq_some_iff.mp hNext
      trivial
  | other level m => cases hNext

/-- The levels have put what they have executed. -/
theorem Image.levels_run : (World.step ex w.levels .run).output = w.levels.output ++ w.puts ex := by
  obtain ⟨⟨shared, stack, output⟩, window, since⟩ := w
  cases stack with
  | nil => exact (List.append_nil output).symm
  | cons f rest => rfl

/-- The two ends of a statement: it puts one marker, or nothing. -/
theorem Image.run_cases (hNumbered : ∀ f ∈ w.levels.stack, f.Numbered) :
    (w.puts ex = [] ∧ w.next ex b (.run t up) = { w with levels := World.step ex w.levels .run }) ∨
      ∃ writer id arg, w.puts ex = [.marker writer id arg] ∧ id < 2 ^ 16 ∧
        Rec.Signed (.marker writer id arg) ∧ w.next ex b (.run t up) =
          { levels := World.step ex w.levels .run
            window := recorded b w.window (.marker t up (BitVec.ofNat 16 id) arg)
            since := w.since ++ [.marker (writer, t) id arg] } := by
  have hPuts : w.puts ex = [] ∨ ∃ writer id arg, w.puts ex = [.marker writer id arg] ∧
      id < 2 ^ 16 ∧ Rec.Signed (.marker writer id arg) := by
    rw [Image.puts]
    cases hStack : w.levels.stack with
    | nil => exact .inl rfl
    | cons f rest => exact exec_puts (hNumbered f (by simp [hStack]))
  rcases hPuts with hNone | ⟨writer, id, arg, hOne, hFits, hSigned⟩
  · refine .inl ⟨hNone, ?_⟩
    simp [Image.next, hNone]
  · refine .inr ⟨writer, id, arg, hOne, hFits, hSigned, ?_⟩
    simp [Image.next, hOne, Rec.call, Rec.map]

end Puts

def Entry.IsHead : Entry → Prop
  | .marker _ m _ => m = BitVec.ofNat 16 nrosViolation
  | .heartbeat .. => False

section Window
variable {b : Build} {o o' : Recording} {h : Story} {held : HalvedLog Entry} {kept : List Entry}
  {f : Trigger} {t : Nat} {up : U32} {m : U16} {arg : U32}

/-- The record policy keeps every marker of the joins. -/
theorem Window.keep_joined {w : Window} (hJoined : joined m.toNat = true) :
    (w.keep b m arg).1 = true := by
  have hAbove : markerCount < m.toNat := by
    have hLow : nrosViolation ≤ m.toNat := of_decide_eq_true (Bool.and_eq_true_iff.mp hJoined).1
    exact Nat.lt_of_lt_of_le (by decide) hLow
  rw [Window.keep_every (policy_out (.inr hAbove))]

/-- What a marker adds to the records made: itself, unless the policy drops it;
and before the trigger no violation is among them. -/
theorem Streams.grows (h' : Streams b o h kept f) (hHolds : o.Holds b held)
    (hNext : Recording.next b (some o) (.marker t up m arg) = some o') :
    ((joined m.toNat = false ∧ o'.puts ++ (storyNote b h (some o) (.marker t up m arg)
        (some o')).streamed = o.puts ++ h.streamed) ∨
      o'.puts ++ (storyNote b h (some o) (.marker t up m arg) (some o')).streamed =
        o.puts ++ h.streamed ++ [.marker t m arg]) ∧
    (o'.puts = o.puts ∨ o'.puts = o.puts ++ [.marker t m arg] ∧
      m ≠ BitVec.ofNat 16 nrosViolation) := by
  obtain ⟨-, hEnd⟩ := Recording.marker_end hHolds hNext
  cases hEnd with
  | fired hFires hKeep hJudged hTriggered hRing hPuts hStream =>
      have hClosed : h.fired = none := by
        have hNot : o.window.triggered = false := by
          have hFirst := (Bool.and_eq_true_iff.mp hFires).1
          simpa using hFirst
        rw [h'.triggered] at hNot
        simpa using hNot
      refine ⟨.inr ?_, .inl hPuts⟩
      simp [storyNote, hFires, hKeep, hJudged, Story.made, h'.unfired hClosed, hPuts]
  | dropped hFires hKeep hTriggered hRing hPuts hStream =>
      refine ⟨.inl ⟨?_, ?_⟩, .inl hPuts⟩
      · cases hJoined : joined m.toNat with
        | false => rfl
        | true =>
            rw [Window.keep_joined hJoined] at hKeep
            cases hKeep
      · simp [storyNote, hFires, hKeep, hPuts]
  | streamed hFires hKeep hJudged hOpen hTriggered hRing hPuts hStream =>
      refine ⟨.inr ?_, .inl hPuts⟩
      simp [storyNote, hFires, hKeep, hJudged, Story.made, hPuts]
  | put hFires hKeep hJudged hOpen hTriggered hPuts hStream =>
      have hClosed : h.fired = none := by
        rw [h'.triggered] at hOpen
        simpa using hOpen
      refine ⟨.inr ?_, .inr ⟨hPuts, ?_⟩⟩
      · simp [storyNote, hFires, hKeep, hJudged, Story.made, h'.unfired hClosed, hPuts]
      · rintro rfl
        rw [Window.fires, hOpen, Window.opens] at hFires
        simp at hFires

end Window

/-- What the window holds of what the levels have put since the last re-arm:
every marker of the joins, and no violation that it has not opened for. -/
structure Held (o : Recording) (h : Story) (since : List (Rec (Writer × Nat))) : Prop where
  joined : ((o.puts ++ h.streamed).map Entry.toRec).filter Rec.isJoined =
    (since.map (Rec.map Prod.snd)).filter Rec.isJoined
  heads : ∀ p ∈ o.puts, ¬ p.IsHead

section Held
variable {b : Build} {o o' : Recording} {h : Story} {held : HalvedLog Entry} {kept : List Entry}
  {f : Trigger} {t : Nat} {up : U32} {arg : U32} {since : List (Rec (Writer × Nat))} {id : Nat}

/-- A marker goes to the window, or is filtered out, as the levels put it. -/
theorem Held.marker (hHeld : Held o h since) (hStreams : Streams b o h kept f)
    (hHolds : o.Holds b held) (hFits : id < 2 ^ 16) (writer : Writer)
    (hNext : Recording.next b (some o) (.marker t up (BitVec.ofNat 16 id) arg) = some o') :
    Held o' (storyNote b h (some o) (.marker t up (BitVec.ofNat 16 id) arg) (some o'))
      (since ++ [.marker (writer, t) id arg]) := by
  obtain ⟨hMade, hPuts⟩ := hStreams.grows hHolds hNext
  have hId : (BitVec.ofNat 16 id).toNat = id := by
    rw [BitVec.toNat_ofNat]
    exact Nat.mod_eq_of_lt hFits
  constructor
  · have hAfter : ((since ++ [Rec.marker (writer, t) id arg]).map (Rec.map Prod.snd)).filter
        Rec.isJoined = ((o.puts ++ h.streamed).map Entry.toRec).filter Rec.isJoined ++
          [Rec.marker t id arg].filter Rec.isJoined := by
      rw [hHeld.joined, List.map_append, List.filter_append]
      rfl
    rw [hAfter]
    rcases hMade with ⟨hUnread, hSame⟩ | hGrown
    · rw [hId] at hUnread
      rw [hSame]
      simp [Rec.isJoined, hUnread]
    · rw [hGrown, List.map_append, List.filter_append, List.map_singleton, Entry.toRec, hId]
  · intro p hMem
    rcases hPuts with hSame | ⟨hGrown, hOther⟩
    · rw [hSame] at hMem
      exact hHeld.heads p hMem
    · rw [hGrown] at hMem
      rcases List.mem_append.mp hMem with hBefore | hNew
      · exact hHeld.heads p hBefore
      · rw [List.mem_singleton.mp hNew]
        exact hOther

/-- A heartbeat goes to the window, and is none of the levels'. -/
theorem Held.heartbeat (hHeld : Held o h since) (hStreams : Streams b o h kept f)
    (hNext : Recording.next b (some o) (.heartbeat t up none) = some o') :
    Held o' (storyNote b h (some o) (.heartbeat t up none) (some o')) since := by
  obtain ⟨-, -, hOpen, hClosed⟩ := Recording.heartbeat_end hNext
  have hOther : Rec.isJoined (Entry.heartbeat t o.window.hbSeq up).toRec = false := rfl
  cases hTriggered : o.window.triggered with
  | true =>
      obtain ⟨-, hPuts, -⟩ := hOpen hTriggered
      have hMade : (storyNote b h (some o) (.heartbeat t up none) (some o')).streamed =
          h.streamed ++ [.heartbeat t o.window.hbSeq up] := by
        simp [storyNote, Story.made, hTriggered]
      constructor
      · rw [hMade, hPuts, ← List.append_assoc, List.map_append, List.filter_append, hHeld.joined]
        simp [hOther]
      · rw [hPuts]
        exact hHeld.heads
  | false =>
      obtain ⟨hPuts, -⟩ := hClosed hTriggered
      have hMade : (storyNote b h (some o) (.heartbeat t up none) (some o')).streamed = [] := by
        have hUnfired : h.fired = none := by
          rw [hStreams.triggered] at hTriggered
          simpa using hTriggered
        simp [storyNote, Story.made, hTriggered, hStreams.unfired hUnfired]
      have hNone : h.streamed = [] := by
        simpa [storyNote, Story.made, hTriggered] using hMade
      constructor
      · rw [hMade, List.append_nil, hPuts, List.map_append, List.filter_append, ← hHeld.joined,
          hNone, List.append_nil]
        simp [hOther]
      · intro p hMem
        rw [hPuts] at hMem
        rcases List.mem_append.mp hMem with hBefore | hNew
        · exact hHeld.heads p hBefore
        · rw [List.mem_singleton.mp hNew]
          exact id

/-- A window that is re-armed begins anew. -/
theorem Held.rearm {t' : Nat} {up' : U32}
    (hNext : Recording.next b (some o) (.heartbeat t up (some (t', up'))) = some o') :
    Held o' (storyNote b h (some o) (.heartbeat t up (some (t', up'))) (some o')) [] := by
  obtain ⟨-, -, hPuts, -⟩ := Recording.rearm_end hNext
  constructor
  · rw [hPuts]
    rfl
  · intro p hMem
    rw [hPuts] at hMem
    rw [List.mem_singleton.mp hMem]
    exact id

end Held

/-- What holds in every state of an image's run. -/
structure ImageInv (ex : Executor) (b : Build) (Starts : World → Preemption.Event Frame → Prop)
    (t₀ : Nat) (w : Image) : Prop where
  levels : Reaches (World.step ex) Starts World.boot w.levels
  window : Reaches (recorded b) (fun w e => Timely w.history e) (Recorded.boot b t₀) w.window
  numbered : ∀ f ∈ w.levels.stack, f.Numbered
  signed : ∀ r ∈ w.levels.output, r.Signed
  suffix : w.since.map (Rec.map Prod.fst) <:+ w.levels.output
  held : ∀ o, w.window.state = some o → Held o w.window.history w.since

section Run
variable {ex : Executor} {b : Build} {Starts : World → Preemption.Event Frame → Prop} {t₀ : Nat}
  {w : Image} {f : Frame} {t : Nat} {up : U32}

/-- At boot nothing is written. -/
theorem ImageInv.boot : ImageInv ex b Starts t₀ (Image.boot b t₀) where
  levels := .refl
  window := .refl
  numbered f hMem := absurd hMem List.not_mem_nil
  signed r hMem := absurd hMem List.not_mem_nil
  suffix := List.suffix_rfl
  held o hState := by
    cases hState
    exact ⟨rfl, fun p hMem => absurd hMem List.not_mem_nil⟩

/-- A window at work, and what it has written. -/
theorem ImageInv.streams (h : ImageInv ex b Starts t₀ w) :
    ∃ o held kept f, w.window.state = some o ∧ o.Holds b held ∧
      Streams b o w.window.history kept f :=
  streams_run h.window

/-- A thread that begins writes nothing yet. -/
theorem ImageInv.start (h : ImageInv ex b Starts t₀ w) (hAllowed : w.Allowed ex Starts (.start f)) :
    ImageInv ex b Starts t₀ (w.next ex b (.start f)) where
  levels := h.levels.step hAllowed.1
  window := h.window
  numbered g hMem := by
    change g ∈ ((Trace.levels ex).next w.levels (.start f)).stack at hMem
    rw [Machine.next] at hMem
    split_ifs at hMem with hStarts
    · rcases List.mem_cons.mp hMem with rfl | hBelow
      · exact hAllowed.2
      · exact h.numbered g hBelow
    · exact h.numbered g hMem
  signed r hMem := by
    change r ∈ ((Trace.levels ex).next w.levels (.start f)).output at hMem
    rw [Machine.next] at hMem
    split_ifs at hMem <;> exact h.signed r hMem
  suffix := by
    show w.since.map (Rec.map Prod.fst) <:+ ((Trace.levels ex).next w.levels (.start f)).output
    rw [Machine.next]
    split_ifs <;> exact h.suffix
  held := h.held

/-- A statement leaves numbered threads. -/
theorem ImageInv.numbered_run (h : ImageInv ex b Starts t₀ w) :
    ∀ g ∈ (World.step ex w.levels .run).stack, g.Numbered := by
  obtain ⟨⟨shared, stack, output⟩, window, since⟩ := w
  cases stack with
  | nil => exact h.numbered
  | cons f rest =>
      intro g hMem
      rcases List.mem_append.mp hMem with hLeft | hRest
      · exact exec_numbered (h.numbered f List.mem_cons_self) (Option.mem_toList.mp hLeft)
      · exact h.numbered g (List.mem_cons_of_mem f hRest)

/-- A statement's record is in the window, where the window keeps it. -/
theorem ImageInv.run (h : ImageInv ex b Starts t₀ w) (hRun : Starts w.levels .run)
    (hAllowed : w.Allowed ex Starts (.run t up)) :
    ImageInv ex b Starts t₀ (w.next ex b (.run t up)) := by
  have hOutput : (World.step ex w.levels .run).output = w.levels.output ++ w.puts ex :=
    Image.levels_run
  rcases @Image.run_cases ex b w t up h.numbered with
    ⟨hNone, hNext⟩ | ⟨writer, id, arg, hOne, hFits, hSigned, hNext⟩
  · rw [hNone, List.append_nil] at hOutput
    rw [hNext]
    refine ⟨h.levels.step hRun, h.window, h.numbered_run, ?_, ?_, h.held⟩
    · rw [hOutput]
      exact h.signed
    · rw [hOutput]
      exact h.suffix
  · have hTimely : Timely w.window.history (.marker t up (BitVec.ofNat 16 id) arg) :=
      hAllowed (.marker writer id arg) (by rw [hOne]; exact List.mem_singleton_self _) _ rfl
    obtain ⟨o, held, kept, f, hState, hHolds, hStreams⟩ := h.streams
    obtain ⟨o', -, hStep, -⟩ := hHolds.marker t up (BitVec.ofNat 16 id) arg
    have hWindow : recorded b w.window (.marker t up (BitVec.ofNat 16 id) arg) =
        { state := some o'
          history := storyNote b w.window.history (some o)
            (.marker t up (BitVec.ofNat 16 id) arg) (some o') } := by
      rw [recorded, observe, hState, hStep]
    rw [hOne] at hOutput
    rw [hNext]
    refine ⟨h.levels.step hRun, h.window.step hTimely, h.numbered_run, ?_, ?_, ?_⟩
    · rw [hOutput]
      intro r hMem
      rcases List.mem_append.mp hMem with hBefore | hNew
      · exact h.signed r hBefore
      · rw [List.mem_singleton.mp hNew]
        exact hSigned
    · obtain ⟨before, hBefore⟩ := h.suffix
      rw [hOutput, ← hBefore]
      exact ⟨before, by rw [List.map_append, List.append_assoc]; rfl⟩
    · intro o₂ hAfter
      rw [hWindow] at hAfter ⊢
      cases hAfter
      exact (h.held o hState).marker hStreams hHolds hFits writer hStep

/-- A heartbeat leaves the levels' records as they are. -/
theorem ImageInv.heartbeat {rearm : Option (Nat × U32)} (h : ImageInv ex b Starts t₀ w)
    (hTimely : Timely w.window.history (.heartbeat t up rearm)) :
    ImageInv ex b Starts t₀ (w.next ex b (.heartbeat t up rearm)) := by
  obtain ⟨o, held, kept, f, hState, hHolds, hStreams⟩ := h.streams
  obtain ⟨o', -, hStep, -⟩ := hHolds.heartbeat t up rearm
  have hWindow : recorded b w.window (.heartbeat t up rearm) =
      { state := some o'
        history := storyNote b w.window.history (some o) (.heartbeat t up rearm) (some o') } := by
    rw [recorded, observe, hState, hStep]
  refine ⟨h.levels, h.window.step hTimely, h.numbered, h.signed, ?_, ?_⟩
  · cases rearm with
    | none => exact h.suffix
    | some again => exact List.nil_suffix
  · intro o₂ hAfter
    change (recorded b w.window (.heartbeat t up rearm)).state = some o₂ at hAfter
    show Held o₂ (recorded b w.window (.heartbeat t up rearm)).history _
    rw [hWindow] at hAfter ⊢
    cases hAfter
    cases rearm with
    | none => exact (h.held o hState).heartbeat hStreams hStep
    | some again => exact Held.rearm hStep

/-- What holds of the image in every run. -/
theorem ImageInv.holds (hRun : ∀ w, Starts w .run)
    (run : Reaches (Image.next ex b) (Image.Allowed ex Starts) (Image.boot b t₀) w) :
    ImageInv ex b Starts t₀ w := by
  apply run.invariant (P := ImageInv ex b Starts t₀)
  · exact .boot
  · intro w e h hAllowed
    cases e with
    | start f => exact h.start hAllowed
    | run t up => exact h.run (hRun w.levels) hAllowed
    | heartbeat t up rearm => exact h.heartbeat hAllowed

end Run

end SafetyIsland.Trace
