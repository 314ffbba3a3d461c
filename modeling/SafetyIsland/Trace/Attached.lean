import Mathlib.Data.List.Forall2
import SafetyIsland.Trace.Image

/-! What the evaluation shows is what the executor took and reported: the joins
of the trace that `load` makes of an image's buffer, over every run of its
levels, its sink and its window. -/
namespace SafetyIsland.Trace

open Preemption Transition

/-- Two records that differ in their times alone. -/
inductive Rec.Like {τ σ : Type*} (R : τ → σ → Prop) : Rec τ → Rec σ → Prop where
  | marker {t : τ} {u : σ} (id : Nat) (arg : U32) (h : R t u) :
      Like R (.marker t id arg) (.marker u id arg)
  | other (t : τ) (u : σ) : Like R (.other t) (.other u)

structure TakeRow.Like {τ σ : Type*} (R : τ → σ → Prop) (row : TakeRow τ) (row' : TakeRow σ) :
    Prop where
  tNs : R row.tNs row'.tNs
  input : row.input = row'.input
  seq : row.seq = row'.seq
  stampNs : row.stampNs = row'.stampNs

structure ViolationRow.Like {τ σ : Type*} (R : τ → σ → Prop) (row : ViolationRow τ)
    (row' : ViolationRow σ) : Prop where
  tNs : R row.tNs row'.tNs
  seq : row.seq = row'.seq
  ruleCode : row.ruleCode = row'.ruleCode
  fqnHash : row.fqnHash = row'.fqnHash
  measured : row.measured = row'.measured
  declared : row.declared = row'.declared

section Like
variable {τ σ : Type*} {R : τ → σ → Prop}

theorem forall₂_toList {α β : Type*} {S : α → β → Prop} {x : Option α} {y : Option β}
    (h : Option.Rel S x y) : List.Forall₂ S x.toList y.toList := by
  cases h with
  | some h => exact .cons h .nil
  | none => exact .nil

/-- Two decoders that differ in their rows' times alone. -/
structure TakeJoin.Like (R : τ → σ → Prop) (d : TakeJoin τ) (d' : TakeJoin σ) : Prop where
  out : List.Forall₂ (TakeRow.Like R) d.out d'.out
  cur : Option.Rel (TakeRow.Like R) d.cur d'.cur
  sec : d.sec = d'.sec

/-- Alike records keep the two decoders alike. -/
theorem TakeJoin.Like.step {d : TakeJoin τ} {d' : TakeJoin σ} {r : Rec τ} {r' : Rec σ}
    (h : d.Like R d') (hRec : r.Like R r') : (d.step r).Like R (d'.step r') := by
  cases hRec with
  | other t u => exact h
  | @marker t u id arg hTime =>
      simp only [TakeJoin.step]
      split_ifs with hTake hSec hNsec
      · exact ⟨List.rel_append h.out (forall₂_toList h.cur), .some ⟨hTime, rfl, rfl, rfl⟩, h.sec⟩
      · obtain ⟨out, cur, sec⟩ := d
        obtain ⟨out', cur', sec'⟩ := d'
        obtain ⟨hOut, hCur, hSame⟩ := h
        obtain rfl : sec = sec' := hSame
        cases hCur with
        | none => exact ⟨hOut, .none, rfl⟩
        | @some row row' hRow =>
            refine ⟨hOut, .some hRow, ?_⟩
            show Function.update sec row.input _ = Function.update sec row'.input _
            rw [hRow.input]
      · obtain ⟨out, cur, sec⟩ := d
        obtain ⟨out', cur', sec'⟩ := d'
        obtain ⟨hOut, hCur, hSame⟩ := h
        obtain rfl : sec = sec' := hSame
        cases hCur with
        | none => exact ⟨hOut, .none, rfl⟩
        | @some row row' hRow =>
            refine ⟨List.rel_append hOut (.cons ⟨hRow.tNs, hRow.input, hRow.seq, ?_⟩ .nil), .none, rfl⟩
            show (sec row.input).map _ = (sec row'.input).map _
            rw [hRow.input]
      · exact h

/-- The rows of two streams that differ in their times differ in theirs. -/
theorem joinTakes_like {recs : List (Rec τ)} {recs' : List (Rec σ)}
    (h : List.Forall₂ (Rec.Like R) recs recs') :
    List.Forall₂ (TakeRow.Like R) (joinTakes recs) (joinTakes recs') := by
  have hJoin : (takeJoin recs).Like R (takeJoin recs') :=
    List.rel_foldl (fun _ _ hJoin _ _ hRec => hJoin.step hRec) ⟨.nil, .none, rfl⟩ h
  exact List.rel_append hJoin.out (forall₂_toList hJoin.cur)

structure ViolationJoin.Like (R : τ → σ → Prop) (d : ViolationJoin τ) (d' : ViolationJoin σ) :
    Prop where
  out : List.Forall₂ (ViolationRow.Like R) d.out d'.out
  cur : Option.Rel (ViolationRow.Like R) d.cur d'.cur

/-- So they do with violations. -/
theorem ViolationJoin.Like.step {d : ViolationJoin τ} {d' : ViolationJoin σ} {r : Rec τ}
    {r' : Rec σ} (h : d.Like R d') (hRec : r.Like R r') : (d.step r).Like R (d'.step r') := by
  obtain ⟨out, cur⟩ := d
  obtain ⟨out', cur'⟩ := d'
  cases hRec with
  | other t u => exact h
  | @marker t u id arg hTime =>
      obtain ⟨hOut, hCur⟩ := h
      simp only [ViolationJoin.step]
      by_cases hHead : id = nrosViolation
      · rw [if_pos hHead, if_pos hHead]
        exact ⟨List.rel_append hOut (forall₂_toList hCur), .some ⟨hTime, rfl, rfl, rfl, rfl, rfl⟩⟩
      · rw [if_neg hHead, if_neg hHead]
        cases hCur with
        | none => exact ⟨hOut, .none⟩
        | @some row row' hRow =>
            obtain ⟨t', seq, ruleCode, fqn, measured, declared⟩ := row
            obtain ⟨u', seq', ruleCode', fqn', measured', declared'⟩ := row'
            obtain ⟨hRowTime, rfl, rfl, rfl, rfl, rfl⟩ := hRow
            dsimp only
            split_ifs
            · exact ⟨hOut, .some ⟨hRowTime, rfl, rfl, rfl, rfl, rfl⟩⟩
            · exact ⟨hOut, .some ⟨hRowTime, rfl, rfl, rfl, rfl, rfl⟩⟩
            · exact ⟨List.rel_append hOut (.cons ⟨hRowTime, rfl, rfl, rfl, rfl, rfl⟩ .nil), .none⟩
            · exact ⟨hOut, .some ⟨hRowTime, rfl, rfl, rfl, rfl, rfl⟩⟩

/-- Alike streams give alike rows. -/
theorem joinViolations_like {recs : List (Rec τ)} {recs' : List (Rec σ)}
    (h : List.Forall₂ (Rec.Like R) recs recs') :
    List.Forall₂ (ViolationRow.Like R) (joinViolations recs) (joinViolations recs') := by
  have hJoin : (violationJoin recs).Like R (violationJoin recs') :=
    List.rel_foldl (fun _ _ hJoin _ _ hRec => hJoin.step hRec) ⟨.nil, .none⟩ h
  exact List.rel_append hJoin.out (forall₂_toList hJoin.cur)

/-- A stream and the same seen at other times. -/
theorem like_map (f : τ → σ) (recs : List (Rec τ)) :
    List.Forall₂ (Rec.Like fun t u => f t = u) recs (recs.map (Rec.map f)) := by
  rw [List.forall₂_map_right_iff, List.forall₂_same]
  intro r hMem
  cases r with
  | marker t id arg => exact .marker id arg rfl
  | other t => exact .other t _

/-- A record that is not joined changes nothing. -/
theorem TakeJoin.step_unread {r : Rec τ} (d : TakeJoin τ) (hUnread : r.isJoined = false) :
    d.step r = d := by
  cases r with
  | other t => rfl
  | marker t id arg =>
      have hIds : id ≠ nrosTake ∧ id ≠ nrosTakeStampSec ∧ id ≠ nrosTakeStampNsec := by
        refine ⟨?_, ?_, ?_⟩ <;>
          rintro rfl <;> exact absurd hUnread (by simp only [Rec.isJoined]; decide)
      simp only [TakeJoin.step, hIds, if_false]

/-- Nor does it of the violations. -/
theorem ViolationJoin.step_unread {r : Rec τ} (d : ViolationJoin τ)
    (hUnread : r.isJoined = false) : d.step r = d := by
  cases r with
  | other t => rfl
  | marker t id arg =>
      have hIds : id ≠ nrosViolation ∧ id ≠ nrosViolationFqn ∧ id ≠ nrosViolationMeasured ∧
          id ≠ nrosViolationDeclared := by
        refine ⟨?_, ?_, ?_, ?_⟩ <;>
          rintro rfl <;> exact absurd hUnread (by simp only [Rec.isJoined]; decide)
      simp only [ViolationJoin.step, hIds, if_false, false_and]
      cases d.cur <;> rfl

theorem foldl_joined {δ : Type*} {step : δ → Rec τ → δ}
    (hSkip : ∀ d r, r.isJoined = false → step d r = d) (recs : List (Rec τ)) (d : δ) :
    (recs.filter Rec.isJoined).foldl step d = recs.foldl step d := by
  induction recs generalizing d with
  | nil => rfl
  | cons r recs ih =>
      cases hRead : r.isJoined with
      | true => rw [List.filter_cons_of_pos hRead, List.foldl_cons, List.foldl_cons, ih]
      | false =>
          rw [List.filter_cons_of_neg (by simp [hRead]), List.foldl_cons, hSkip d r hRead, ih]

/-- The rows are those of the joined records. -/
theorem joinTakes_joined (recs : List (Rec τ)) :
    joinTakes (recs.filter Rec.isJoined) = joinTakes recs := by
  rw [joinTakes, joinTakes, takeJoin, foldl_joined fun d r => d.step_unread]
  rfl

theorem joinViolations_joined (recs : List (Rec τ)) :
    joinViolations (recs.filter Rec.isJoined) = joinViolations recs := by
  rw [joinViolations, joinViolations, violationJoin, foldl_joined fun d r => d.step_unread]
  rfl

end Like

def Written.toRec : Written → Rec Nat
  | .entry p => p.toRec
  | w => .other w.time

section Loaded
variable {u : Setup} {d : Tsdl} {e : EvId} {ws : List Written} {l : Loaded} {zephyr : String}
  {data : List LittleEndian.Byte}

/-- The rows of a loaded trace are those of its records. -/
theorem load_joins (hLoad : u.load data zephyr = .ok l) :
    l.takes = joinTakes (l.records.map Record.toRec) ∧
      l.violations = joinViolations (l.records.map Record.toRec) := by
  rw [Setup.load] at hLoad
  cases hSplit : splitFile data zephyr with
  | error failure =>
      rw [hSplit] at hLoad
      cases hLoad
  | ok split =>
      obtain ⟨header, version, buf⟩ := split
      simp only [hSplit, bind, Except.bind] at hLoad
      cases hApart : (u.tsdl (u.tsdlPath version)).collisions with
      | cons first rest =>
          rw [hApart] at hLoad
          cases hLoad
      | nil =>
          rw [hApart] at hLoad
          dsimp only at hLoad
          rw [loadBuffer] at hLoad
          generalize Framing.read _ _ _ = ended at hLoad
          obtain ⟨s, fault⟩ := ended
          cases fault with
          | none =>
              obtain rfl := Except.ok.inj hLoad
              exact ⟨rfl, rfl⟩
          | some fault =>
              cases fault with
              | short => cases hLoad
              | unknown text =>
                  obtain rfl := Except.ok.inj hLoad
                  exact ⟨rfl, rfl⟩

/-- A record read back is the one written, but for its time. -/
theorem Written.toRec_like {R : Nat → Int → Prop} {w : Written} {r : Record}
    (hBody : r.body = w.body u d) (hTime : R w.time r.tNs) : w.toRec.Like R r.toRec := by
  rw [Record.toRec, hBody]
  cases w with
  | entry p =>
      cases p with
      | marker t m arg => exact .marker m.toNat arg hTime
      | heartbeat t seq up => exact .other t r.tNs
  | provenance t text => exact .other t r.tNs
  | trigger t f => exact .other t r.tNs
  | event t i raws =>
      rw [Written.body]
      cases d.events i <;> exact .other t r.tNs

/-- What was read back is like what was written. -/
theorem like_of_bodies {R : Nat → Int → Prop} {recs : List Record}
    (hBodies : recs.map (fun r => r.body) = ws.map (Written.body u d))
    (hTimes : ∀ p ∈ ws.zip recs, R p.1.time p.2.tNs) :
    List.Forall₂ (Rec.Like R) (ws.map Written.toRec) (recs.map Record.toRec) := by
  induction ws generalizing recs with
  | nil =>
      rw [List.map_eq_nil_iff.mp hBodies]
      exact .nil
  | cons w ws ih =>
      obtain ⟨r, recs, rfl, hBody, hRest⟩ := List.map_eq_cons_iff.mp hBodies
      have hFirst := hTimes (w, r) List.mem_cons_self
      exact .cons (Written.toRec_like hBody hFirst)
        (ih hRest fun p hMem => hTimes p (List.mem_cons_of_mem _ hMem))

/-- What is read back behind the first record. -/
theorem ReadBack.like {R : Nat → Int → Prop} (h : ReadBack u d e ws l)
    (hTimes : ∀ p ∈ ws.tail.zip (l.records.drop 1), R p.1.time p.2.tNs) :
    List.Forall₂ (Rec.Like R) (ws.tail.map Written.toRec)
      ((l.records.drop 1).map Record.toRec) := by
  refine like_of_bodies (u := u) (d := d) ?_ hTimes
  rw [List.map_drop, h.bodies, List.drop_one, List.map_tail]

end Loaded

/-- A time of the loaded trace is that of the record, once the trace has a
heartbeat to tell it by. -/
def Loaded.Seen (l : Loaded) (x : Writer × Nat) (tNs : Int) : Prop :=
  l.heartbeats ≠ [] → tNs = x.2

/-- The records of a story that its window shows: none before the trigger. -/
def Story.entries (h : Story) (kept : List Entry) : List Entry :=
  match h.fired with
  | none => []
  | some _ => kept ++ h.streamed

section Shown
variable {ex : Executor} {b : Build} {Starts : World → Preemption.Event Frame → Prop} {t₀ : Nat}
  {w : Image} {o : Recording} {h : Story} {kept : List Entry} {f : Trigger} {u : Setup}
  {l : Loaded} {zephyr : String} {since : List (Rec (Writer × Nat))}

/-- What is not shown has been in the ring. -/
theorem Streams.entries (hStreams : Streams b o h kept f) :
    ∃ lost, lost <+: o.puts ∧ o.puts ++ h.streamed = lost ++ h.entries kept := by
  rw [Story.entries]
  cases hFired : h.fired with
  | none => exact ⟨o.puts, List.prefix_rfl, by rw [hStreams.unfired hFired]⟩
  | some t =>
      obtain ⟨lost, hLost⟩ := hStreams.kept_suffix hFired
      exact ⟨lost, ⟨kept, hLost⟩, by rw [← List.append_assoc, hLost]⟩

/-- The joins read the entries alone. -/
theorem Story.written_joined (h : Story) (kept : List Entry) (f : Trigger) :
    ((h.written b kept f).tail.map Written.toRec).filter Rec.isJoined =
      ((h.entries kept).map Entry.toRec).filter Rec.isJoined := by
  have hEntries (xs : List Entry) :
      (xs.map Written.entry).map Written.toRec = xs.map Entry.toRec := by
    rw [List.map_map]
    rfl
  rw [Story.written, Story.entries, List.tail_cons]
  cases h.fired with
  | none => rfl
  | some t =>
      simp only [List.map_append, List.map_cons, hEntries, List.filter_append]
      rw [List.filter_cons_of_neg (by simp [Written.toRec, Rec.isJoined])]

/-- The end of what the levels have put is what the window shows, and it has
every violation's first marker. -/
theorem Held.shown (hHeld : Held o h since) (hStreams : Streams b o h kept f) :
    ∃ shown, shown <:+ since ∧
      (shown.map (Rec.map Prod.snd)).filter Rec.isJoined =
        ((h.entries kept).map Entry.toRec).filter Rec.isJoined ∧
      shown.filterMap Rec.opening = since.filterMap Rec.opening := by
  obtain ⟨lost, hLost, hMade⟩ := hStreams.entries
  have hJoined := hHeld.joined
  rw [hMade, List.map_append, List.filter_append] at hJoined
  obtain ⟨first, last, hSplit, hFirst, hLast⟩ := List.filter_eq_append_iff.mp hJoined.symm
  obtain ⟨before, shown, rfl, rfl, rfl⟩ := List.map_eq_append_iff.mp hSplit
  refine ⟨shown, List.suffix_append before shown, hLast, ?_⟩
  rw [List.filterMap_append]
  have hNone : before.filterMap Rec.opening = [] := by
    rw [List.filterMap_eq_nil_iff]
    intro r hMem
    cases r with
    | other x => rfl
    | marker x id arg =>
        apply if_neg
        rintro rfl
        have hRead : Rec.marker x.2 nrosViolation arg ∈
            (before.map (Rec.map Prod.snd)).filter Rec.isJoined :=
          List.mem_filter.mpr ⟨List.mem_map_of_mem (f := Rec.map Prod.snd) hMem, rfl⟩
        rw [hFirst] at hRead
        obtain ⟨p, hPut, hSame⟩ := List.mem_map.mp (List.mem_filter.mp hRead).1
        refine hHeld.heads p (hLost.subset hPut) ?_
        cases p with
        | heartbeat t seq up => cases hSame
        | marker t m arg' =>
            have hId : m.toNat = nrosViolation := (Rec.marker.inj hSame).2.1
            show m = BitVec.ofNat 16 nrosViolation
            rw [← hId, BitVec.ofNat_toNat, BitVec.setWidth_eq]
  rw [hNone, List.nil_append]

theorem Rec.Like.isJoined {τ σ : Type*} {R : τ → σ → Prop} {r : Rec τ} {r' : Rec σ}
    (h : r.Like R r') : r.isJoined = r'.isJoined := by
  cases h <;> rfl

/-- A record seen at a time is like what the record itself is like. -/
theorem Rec.Like.of_map {τ σ ρ : Type*} {g : τ → σ} {R : σ → ρ → Prop} {r : Rec τ} {r' : Rec ρ}
    (h : (r.map g).Like R r') : r.Like (fun t u => R (g t) u) r' := by
  cases r with
  | marker t id arg =>
      cases h with
      | marker id arg h => exact .marker id arg h
  | other t =>
      cases h with
      | other t u => exact .other _ u

theorem forall₂_joined {τ σ : Type*} {R : τ → σ → Prop} {recs : List (Rec τ)} {recs' : List (Rec σ)}
    (h : List.Forall₂ (Rec.Like R) recs recs') :
    List.Forall₂ (Rec.Like R) (recs.filter Rec.isJoined) (recs'.filter Rec.isJoined) :=
  List.rel_filter (fun _ _ hRec => Bool.eq_iff_iff.mp hRec.isJoined) h

/-- What the joins of the loaded trace read is the end of what the levels have
put, but for the times; it has every violation's first marker. -/
theorem ImageInv.shown (h : ImageInv ex b Starts t₀ w) (hZephyr : zephyr ≠ "")
    (hd : (u.tsdl (u.tsdlPath zephyr)).Fits b.evId) (hText : b.provenance.length < 2 ^ 16)
    (hWindow : windowedText (ascii b.provenance) = true) (n : Nat) :
    ∃ o l shown, w.window.state = some o ∧
      u.load (o.window.stream ++ List.replicate n 0) zephyr = .ok l ∧ l.error = none ∧
      shown <:+ w.since ∧ shown.filterMap Rec.opening = w.since.filterMap Rec.opening ∧
      List.Forall₂ (TakeRow.Like l.Seen) (joinTakes shown) l.takes ∧
      List.Forall₂ (ViolationRow.Like l.Seen) (joinViolations shown) l.violations := by
  obtain ⟨o, held, kept, f, hState, -, hStreams⟩ := h.streams
  obtain ⟨l, hLoad, hError, hBack, hUptime⟩ := hStreams.load (u := u) hZephyr hd hText hWindow n
  obtain ⟨hTakes, hViolations⟩ := load_joins hLoad
  obtain ⟨shown, hSuffix, hJoined, hOpening⟩ := (h.held o hState).shown hStreams
  have hTimes : ∀ p ∈ (w.window.history.written b kept f).tail.zip (l.records.drop 1),
      l.heartbeats ≠ [] → p.2.tNs = p.1.time := by
    intro p hMem hBeat
    cases hFired : w.window.history.fired with
    | none =>
        have hNothing : (w.window.history.written b kept f).tail = [] := by
          rw [Story.written, hFired, List.tail_cons]
        rw [hNothing] at hMem
        cases hMem
    | some t =>
        refine hUptime t hFired ?_ p hMem
        rw [hBack.heartbeats, Ne, List.map_eq_nil_iff, List.filterMap_eq_nil_iff] at hBeat
        push Not at hBeat
        obtain ⟨v, hIn, hSeq⟩ := hBeat
        rw [Story.written, hFired] at hIn
        rcases List.mem_cons.mp hIn with rfl | hIn
        · exact absurd rfl hSeq
        · rcases List.mem_append.mp hIn with hKept | hIn
          · obtain ⟨p, hp, rfl⟩ := List.mem_map.mp hKept
            exact ⟨p, List.mem_append_left _ hp, Option.isSome_iff_ne_none.mpr hSeq⟩
          · rcases List.mem_cons.mp hIn with rfl | hIn
            · exact absurd rfl hSeq
            · obtain ⟨p, hp, rfl⟩ := List.mem_map.mp hIn
              exact ⟨p, List.mem_append_right _ hp, Option.isSome_iff_ne_none.mpr hSeq⟩
  have hLike : List.Forall₂ (Rec.Like l.Seen) (shown.filter Rec.isJoined)
      ((l.records.map Record.toRec).filter Rec.isJoined) := by
    have hBehind := forall₂_joined
      (hBack.like (R := fun t tNs => l.heartbeats ≠ [] → tNs = t) hTimes)
    rw [Story.written_joined, ← hJoined, Rec.filter_map, List.forall₂_map_left_iff] at hBehind
    have hFirst : (l.records.map Record.toRec).filter Rec.isJoined =
        ((l.records.drop 1).map Record.toRec).filter Rec.isJoined := by
      obtain ⟨rest, hWritten, -, -⟩ := hStreams.behind
      have hBodies := hBack.bodies
      rw [hWritten] at hBodies
      obtain ⟨r, recs, hRecords, hBody, -⟩ := List.map_eq_cons_iff.mp hBodies
      rw [hRecords, List.map_cons, List.drop_one, List.tail_cons, List.filter_cons_of_neg]
      rw [Record.toRec, hBody]
      exact Bool.false_ne_true
    rw [hFirst]
    exact hBehind.imp fun r r' hRec => hRec.of_map
  refine ⟨o, l, shown, hState, hLoad, hError, hSuffix, hOpening, ?_, ?_⟩
  · rw [hTakes, ← joinTakes_joined, ← joinTakes_joined (l.records.map Record.toRec)]
    exact joinTakes_like hLike
  · rw [hViolations, ← joinViolations_joined, ← joinViolations_joined (l.records.map Record.toRec)]
    exact joinViolations_like hLike

end Shown

end SafetyIsland.Trace
