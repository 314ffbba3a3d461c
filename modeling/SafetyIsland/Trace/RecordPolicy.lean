import SafetyIsland.Trace.Recording

/-! What the record policy lets through, told from the markers alone: an
observer keeps every ruling since the last re-arm, and the window's four
arrays per marker are read off that list. -/
namespace SafetyIsland.Trace

open Transition

/-- What the record policy decided on one marker. -/
structure Ruling where
  marker : U16
  arg : U32
  passed : Bool
  /-- The trigger has fired, with this marker or before it. -/
  after : Bool
  deriving DecidableEq, Repr

/-- The last ruling on a marker; the newest stands first. -/
def lastOf (m : U16) (rulings : List Ruling) : Option Ruling :=
  rulings.find? fun r => r.marker = m

/-- The last ruling that let a marker through. -/
def lastPassed (m : U16) (rulings : List Ruling) : Option Ruling :=
  rulings.find? fun r => r.marker = m ∧ r.passed

/-- How often in a row a marker was dropped until now. -/
def drops (m : U16) (rulings : List Ruling) : Nat :=
  ((rulings.filter fun r => r.marker = m).takeWhile fun r => !r.passed).length

/-- The laws of the record policy, at every point of a list of rulings. -/
structure Lawful (b : Build) (rulings : List Ruling) : Prop where
  /-- The value that a reader has of a CHANGE marker is its last. -/
  change : ∀ point, point <:+ rulings → ∀ m, policy m = .change →
    (lastPassed m point).map Ruling.arg = (lastOf m point).map Ruling.arg
  /-- So is the value that it has from the records after the trigger alone. -/
  changeAfter : ∀ point, point <:+ rulings → ∀ m, policy m = .change →
    (lastPassed m (point.filter Ruling.after)).map Ruling.arg =
      (lastOf m (point.filter Ruling.after)).map Ruling.arg
  /-- A timer path's EXIT goes as its last ENTRY went. -/
  exit : ∀ r before, r :: before <:+ rulings → policy r.marker = .spinExit →
    r.passed = ((lastOf (r.marker - 1) before).map Ruling.passed).getD true
  dropped : ∀ point, point <:+ rulings → ∀ m, policy m = .spinEntry →
    drops m point ≤ b.spinKeep.toNat - 1
  /-- An ENTRY that differs from the last one passes. -/
  differs : ∀ r before, r :: before <:+ rulings → policy r.marker = .spinEntry →
    ∀ p, lastOf r.marker before = some p → p.arg ≠ r.arg → r.passed = true
  /-- The first of every marker after the trigger passes, an EXIT apart. -/
  first : ∀ r before, r :: before <:+ rulings → policy r.marker ≠ .spinExit → r.after = true →
    (∀ p ∈ before, p.after = true → p.marker ≠ r.marker) → r.passed = true

/-- What one more ruling has to meet. -/
structure Law (b : Build) (r : Ruling) (before : List Ruling) : Prop where
  change : policy r.marker = .change →
    (lastPassed r.marker (r :: before)).map Ruling.arg = some r.arg
  changeAfter : policy r.marker = .change → r.after = true →
    (lastPassed r.marker ((r :: before).filter Ruling.after)).map Ruling.arg = some r.arg
  exit : policy r.marker = .spinExit →
    r.passed = ((lastOf (r.marker - 1) before).map Ruling.passed).getD true
  dropped : policy r.marker = .spinEntry → drops r.marker (r :: before) ≤ b.spinKeep.toNat - 1
  differs : policy r.marker = .spinEntry →
    ∀ p, lastOf r.marker before = some p → p.arg ≠ r.arg → r.passed = true
  first : policy r.marker ≠ .spinExit → r.after = true →
    (∀ p ∈ before, p.after = true → p.marker ≠ r.marker) → r.passed = true

section Lists
variable {b : Build} {m : U16} {r : Ruling} {before : List Ruling}

theorem lastOf_self : lastOf r.marker (r :: before) = some r :=
  List.find?_cons_of_pos (by simp)

theorem lastOf_other (h : r.marker ≠ m) : lastOf m (r :: before) = lastOf m before :=
  List.find?_cons_of_neg (by simp [h])

theorem lastPassed_self (h : r.passed = true) : lastPassed r.marker (r :: before) = some r :=
  List.find?_cons_of_pos (by simp [h])

theorem lastPassed_other (h : r.marker ≠ m) : lastPassed m (r :: before) = lastPassed m before :=
  List.find?_cons_of_neg (by simp [h])

theorem lastPassed_dropped (h : r.passed = false) : lastPassed m (r :: before) = lastPassed m before :=
  List.find?_cons_of_neg (by simp [h])

/-- A record that passes starts the count of drops again. -/
theorem drops_passed (h : r.passed = true) : drops r.marker (r :: before) = 0 := by
  rw [drops, List.filter_cons_of_pos (by simp), List.takeWhile_cons_of_neg (by simp [h])]
  rfl

/-- One that does not is one more. -/
theorem drops_dropped (h : r.passed = false) :
    drops r.marker (r :: before) = drops r.marker before + 1 := by
  rw [drops, List.filter_cons_of_pos (by simp), List.takeWhile_cons_of_pos (by simp [h]),
    List.length_cons]
  rfl

theorem drops_other (h : r.marker ≠ m) : drops m (r :: before) = drops m before := by
  rw [drops, List.filter_cons_of_neg (by simp [h])]
  rfl

/-- A marker without a last ruling has had none. -/
theorem lastOf_none (h : lastOf m before = none) : ∀ r ∈ before, r.marker ≠ m := by
  intro r hr
  have hNone := List.find?_eq_none.mp h r hr
  simpa using hNone

/-- The laws hold of a longer list when they do of its last ruling. -/
theorem Lawful.cons (h : Lawful b before) (hLaw : Law b r before) : Lawful b (r :: before) where
  change := by
    intro point hPoint m hm
    rcases List.suffix_cons_iff.mp hPoint with rfl | hOld
    · by_cases hMarker : r.marker = m
      · subst hMarker
        rw [hLaw.change hm, lastOf_self]
        rfl
      · rw [lastPassed_other hMarker, lastOf_other hMarker]
        exact h.change before (List.suffix_refl _) m hm
    · exact h.change point hOld m hm
  changeAfter := by
    intro point hPoint m hm
    rcases List.suffix_cons_iff.mp hPoint with rfl | hOld
    · have hBefore := h.changeAfter before (List.suffix_refl _) m hm
      cases hAfter : r.after with
      | false =>
          rw [List.filter_cons_of_neg (by simp [hAfter])]
          exact hBefore
      | true =>
          by_cases hMarker : r.marker = m
          · subst hMarker
            rw [hLaw.changeAfter hm hAfter, List.filter_cons_of_pos hAfter, lastOf_self]
            rfl
          · rw [List.filter_cons_of_pos hAfter, lastPassed_other hMarker, lastOf_other hMarker]
            exact hBefore
    · exact h.changeAfter point hOld m hm
  exit := by
    intro r' before' hSuffix
    rcases List.suffix_cons_iff.mp hSuffix with hSame | hOld
    · obtain ⟨rfl, rfl⟩ := List.cons.inj hSame
      exact hLaw.exit
    · exact h.exit r' before' hOld
  dropped := by
    intro point hPoint m hm
    rcases List.suffix_cons_iff.mp hPoint with rfl | hOld
    · by_cases hMarker : r.marker = m
      · subst hMarker
        exact hLaw.dropped hm
      · rw [drops_other hMarker]
        exact h.dropped before (List.suffix_refl _) m hm
    · exact h.dropped point hOld m hm
  differs := by
    intro r' before' hSuffix
    rcases List.suffix_cons_iff.mp hSuffix with hSame | hOld
    · obtain ⟨rfl, rfl⟩ := List.cons.inj hSame
      exact hLaw.differs
    · exact h.differs r' before' hOld
  first := by
    intro r' before' hSuffix
    rcases List.suffix_cons_iff.mp hSuffix with hSame | hOld
    · obtain ⟨rfl, rfl⟩ := List.cons.inj hSame
      exact hLaw.first
    · exact h.first r' before' hOld

/-- Nothing ruled breaks no law. -/
theorem Lawful.nil : Lawful b [] where
  change := by
    intro point hPoint m _
    rw [List.suffix_nil.mp hPoint]
    rfl
  changeAfter := by
    intro point hPoint m _
    rw [List.suffix_nil.mp hPoint]
    rfl
  exit := by
    intro r before hSuffix
    cases List.suffix_nil.mp hSuffix
  dropped := by
    intro point hPoint m _
    rw [List.suffix_nil.mp hPoint]
    exact Nat.zero_le _
  differs := by
    intro r before hSuffix
    cases List.suffix_nil.mp hSuffix
  first := by
    intro r before hSuffix
    cases List.suffix_nil.mp hSuffix

end Lists

/-- The markers whose values the policy remembers. -/
def Remembers (m : U16) : Prop := policy m = .change ∨ policy m = .spinEntry

/-- The window's arrays, read off the rulings. -/
structure Recalls (b : Build) (w : Window) (rulings : List Ruling) : Prop where
  lawful : Lawful b rulings
  count : w.filtered = BitVec.ofNat 32 (rulings.countP fun r => !r.passed)
  phase : w.triggered = false → ∀ r ∈ rulings, r.after = false
  seen : ∀ m, Remembers m → (w.seen m = true ↔ ∃ r ∈ rulings, r.marker = m ∧ r.after = w.triggered)
  lastArg : ∀ m, Remembers m → ∀ r, lastOf m rulings = some r → w.lastArg m = r.arg
  lastArgAfter : ∀ m, Remembers m → ∀ r, lastOf m (rulings.filter Ruling.after) = some r →
    w.lastArg m = r.arg
  skip : ∀ m, policy m = .spinEntry →
    w.skip m = !((lastOf m rulings).map Ruling.passed).getD true
  spins : ∀ m, policy m = .spinEntry → w.seen m = true → (w.spins m).toNat = drops m rulings

/-- What a ruling does to the arrays: nothing to those of other markers. -/
structure Ruled (w w' : Window) (r : Ruling) (before : List Ruling) : Prop where
  after : r.after = w.triggered
  triggered : w'.triggered = w.triggered
  filtered : w'.filtered = w.filtered + if r.passed then 0 else 1
  others : ∀ m, Remembers m → m ≠ r.marker → w'.seen m = w.seen m ∧
    w'.lastArg m = w.lastArg m ∧ w'.skip m = w.skip m ∧ w'.spins m = w.spins m
  seen : Remembers r.marker → w'.seen r.marker = true
  lastArg : Remembers r.marker → w'.lastArg r.marker = r.arg
  skip : policy r.marker = .spinEntry → w'.skip r.marker = !r.passed
  spins : policy r.marker = .spinEntry → (w'.spins r.marker).toNat = drops r.marker (r :: before)

section Step
variable {b : Build} {w w' : Window} {r : Ruling} {before : List Ruling}

/-- Before the trigger nothing has come after it. -/
theorem Recalls.filter_after (h : Recalls b w before) (hOpen : w.triggered = false) :
    before.filter Ruling.after = [] := by
  rw [List.filter_eq_nil_iff]
  intro r hr
  rw [h.phase hOpen r hr]
  exact Bool.false_ne_true

/-- The window's words recall one ruling more. -/
theorem Recalls.rule (h : Recalls b w before) (hRuled : Ruled w w' r before) (hLaw : Law b r before) :
    Recalls b w' (r :: before) where
  lawful := h.lawful.cons hLaw
  count := by
    rw [hRuled.filtered, h.count, List.countP_cons]
    cases r.passed with
    | true => simp
    | false => simp [BitVec.ofNat_add]
  phase := by
    intro hOpen p hp
    rw [hRuled.triggered] at hOpen
    rcases List.mem_cons.mp hp with rfl | hp
    · exact hRuled.after.trans hOpen
    · exact h.phase hOpen p hp
  seen := by
    intro m hm
    by_cases hMarker : m = r.marker
    · subst hMarker
      exact iff_of_true (hRuled.seen hm)
        ⟨r, List.mem_cons_self, rfl, hRuled.after.trans hRuled.triggered.symm⟩
    · obtain ⟨hSeen, _⟩ := hRuled.others m hm hMarker
      rw [hSeen, h.seen m hm, hRuled.triggered]
      constructor
      · rintro ⟨p, hp, hRest⟩
        exact ⟨p, List.mem_cons_of_mem r hp, hRest⟩
      · rintro ⟨p, hp, hEq, hRest⟩
        rcases List.mem_cons.mp hp with rfl | hp
        · exact absurd hEq.symm hMarker
        · exact ⟨p, hp, hEq, hRest⟩
  lastArg := by
    intro m hm p hp
    by_cases hMarker : m = r.marker
    · subst hMarker
      rw [lastOf_self] at hp
      cases hp
      exact hRuled.lastArg hm
    · rw [lastOf_other (Ne.symm hMarker)] at hp
      rw [(hRuled.others m hm hMarker).2.1]
      exact h.lastArg m hm p hp
  lastArgAfter := by
    intro m hm p hp
    cases hAfter : r.after with
    | false =>
        rw [List.filter_cons_of_neg (by simp [hAfter]),
          h.filter_after (hRuled.after.symm.trans hAfter)] at hp
        cases hp
    | true =>
        rw [List.filter_cons_of_pos hAfter] at hp
        by_cases hMarker : m = r.marker
        · subst hMarker
          rw [lastOf_self] at hp
          cases hp
          exact hRuled.lastArg hm
        · rw [lastOf_other (Ne.symm hMarker)] at hp
          rw [(hRuled.others m hm hMarker).2.1]
          exact h.lastArgAfter m hm p hp
  skip := by
    intro m hm
    by_cases hMarker : m = r.marker
    · subst hMarker
      rw [hRuled.skip hm, lastOf_self]
      rfl
    · rw [(hRuled.others m (.inr hm) hMarker).2.2.1, lastOf_other (Ne.symm hMarker)]
      exact h.skip m hm
  spins := by
    intro m hm hSeen
    by_cases hMarker : m = r.marker
    · subst hMarker
      exact hRuled.spins hm
    · obtain ⟨hSame, _, _, hSpins⟩ := hRuled.others m (.inr hm) hMarker
      rw [hSpins, drops_other (Ne.symm hMarker)]
      exact h.spins m hm (hSame.symm.trans hSeen)

/-- Only these six fields matter. -/
theorem Recalls.congr (h : Recalls b w before) (hSeen : w'.seen = w.seen)
    (hLastArg : w'.lastArg = w.lastArg) (hSkip : w'.skip = w.skip) (hSpins : w'.spins = w.spins)
    (hTriggered : w'.triggered = w.triggered) (hFiltered : w'.filtered = w.filtered) :
    Recalls b w' before where
  lawful := h.lawful
  count := hFiltered.trans h.count
  phase := by
    rw [hTriggered]
    exact h.phase
  seen := by
    rw [hSeen, hTriggered]
    exact h.seen
  lastArg := by
    rw [hLastArg]
    exact h.lastArg
  lastArgAfter := by
    rw [hLastArg]
    exact h.lastArgAfter
  skip := by
    rw [hSkip]
    exact h.skip
  spins := by
    rw [hSeen, hSpins]
    exact h.spins

/-- Arming changes none of them; the trigger forgets what was seen, so that
the first of every remembered marker passes. -/
theorem Recalls.judge (h : Recalls b w before) (now up : U32) (m : U16) (arg : U32) :
    Recalls b (w.judge b now up m arg) before := by
  have hArm : Recalls b (w.arm m arg) before := by
    rw [Window.arm]
    split
    · exact h.congr rfl rfl rfl rfl rfl rfl
    · exact h
  rw [Window.judge]
  split
  · next hOpen =>
      have hFalse : w.triggered = false := by simpa using hOpen
      split
      · exact {
          lawful := h.lawful
          count := hArm.count
          phase := by
            intro hTriggered
            cases hTriggered
          seen := by
            intro m' _
            constructor
            · intro hSeen
              cases hSeen
            · rintro ⟨p, hp, _, hAfter⟩
              rw [h.phase hFalse p hp] at hAfter
              cases hAfter
          lastArg := hArm.lastArg
          lastArgAfter := hArm.lastArgAfter
          skip := hArm.skip
          spins := by
            intro m' _ hSeen
            cases hSeen }
      · exact hArm
  · exact h

end Step

/-- A number outside the table is always kept. -/
theorem policy_out {m : U16} (h : m = 0 ∨ markerCount < m.toNat) : policy m = .every := by
  rcases h with rfl | hAbove
  · rfl
  · have hLength : policyTable.length ≤ m.toNat := hAbove
    rw [policy, List.getD_eq_getElem?_getD, List.getElem?_eq_none hLength]
    rfl

/-- The generator numbers a path's EXIT right after its ENTRY. -/
theorem policy_exit {m : U16} (h : policy m = .spinExit) : policy (m - 1) = .spinEntry := by
  have hIds : ∀ k, k ≤ markerCount → policyTable.getD k .every = .spinExit →
      k = 2 ∨ k = 6 ∨ k = 12 := by decide
  have hIn : m.toNat ≤ markerCount := by
    by_contra hAbove
    rw [policy_out (.inr (by omega))] at h
    cases h
  have hId : ∀ k : U16, m.toNat = k.toNat → m = k := fun k => BitVec.eq_of_toNat_eq
  rcases hIds m.toNat hIn h with hm | hm | hm
  · rw [hId 2 hm]
    rfl
  · rw [hId 6 hm]
    rfl
  · rw [hId 12 hm]
    rfl

/-- The window after a ruling: a dropped marker is counted. -/
def Window.ruled (k : Bool × Window) : Window :=
  if k.1 then k.2 else { k.2 with filtered := k.2.filtered + 1 }

def Window.ruling (b : Build) (w : Window) (m : U16) (arg : U32) : Ruling :=
  { marker := m, arg := arg, passed := (w.keep b m arg).1, after := w.triggered }

section Keep
variable {b : Build} {w : Window} {before : List Ruling} {m : U16} {arg : U32}

theorem Window.keep_every (h : policy m = .every) : w.keep b m arg = (true, w) := by
  rw [keep, h]
  exact ite_self _

theorem Window.keep_in (h : policy m ≠ .every) : ¬ (m = 0 ∨ markerCount < m.toNat) :=
  fun hOut => h (policy_out hOut)

/-- An EXIT is kept with its own spin's ENTRY. -/
theorem Window.keep_exit (h : policy m = .spinExit) : w.keep b m arg = (!w.skip (m - 1), w) := by
  rw [keep, if_neg (keep_in (by rw [h]; decide)), h]

/-- A marker kept on change is kept when its argument differs. -/
theorem Window.keep_change (h : policy m = .change) : w.keep b m arg =
    if w.seen m ∧ w.lastArg m = arg then (false, w)
    else (true, { w with
      seen := Function.update w.seen m true, lastArg := Function.update w.lastArg m arg }) := by
  rw [keep, if_neg (keep_in (by rw [h]; decide)), h]

def Window.entryPasses (b : Build) (w : Window) (m : U16) (arg : U32) : Bool :=
  !w.seen m || w.lastArg m != arg || b.spinKeep.toNat ≤ (w.spins m).toNat + 1

/-- An ENTRY is kept at its first spin, for a new argument, and once `spinKeep`
spins have gone by. -/
theorem Window.keep_entry (h : policy m = .spinEntry) : w.keep b m arg =
    (w.entryPasses b m arg, { w with
      seen := Function.update w.seen m true
      lastArg := Function.update w.lastArg m arg
      spins := Function.update w.spins m (if w.entryPasses b m arg then 0 else w.spins m + 1)
      skip := Function.update w.skip m !w.entryPasses b m arg }) := by
  rw [keep, if_neg (keep_in (by rw [h]; decide)), h]
  rfl

/-- A marker that the arrays do not remember leaves them alone. -/
theorem ruled_forgotten (passed : Bool) (hm : ¬ Remembers m) :
    Ruled w (Window.ruled (passed, w))
      { marker := m, arg := arg, passed := passed, after := w.triggered } before where
  after := rfl
  triggered := by cases passed <;> rfl
  filtered := by
    cases passed with
    | true => exact (BitVec.add_zero _).symm
    | false => rfl
  others := by
    intro m' _ _
    cases passed <;> exact ⟨rfl, rfl, rfl, rfl⟩
  seen := fun h => absurd h hm
  lastArg := fun h => absurd h hm
  skip := fun h => absurd (.inr h) hm
  spins := fun h => absurd (.inr h) hm

/-- The words recall a marker that is always kept. -/
theorem Recalls.keep_every (h : Recalls b w before) (hm : policy m = .every) :
    Recalls b (Window.ruled (w.keep b m arg)) (w.ruling b m arg :: before) := by
  rw [Window.ruling, Window.keep_every hm]
  apply h.rule
  · apply ruled_forgotten
    rintro (hBad | hBad)
    · exact Policy.noConfusion (hm.symm.trans hBad)
    · exact Policy.noConfusion (hm.symm.trans hBad)
  · exact {
      change := fun hBad => Policy.noConfusion (hm.symm.trans hBad)
      changeAfter := fun hBad => Policy.noConfusion (hm.symm.trans hBad)
      exit := fun hBad => Policy.noConfusion (hm.symm.trans hBad)
      dropped := fun hBad => Policy.noConfusion (hm.symm.trans hBad)
      differs := fun hBad => Policy.noConfusion (hm.symm.trans hBad)
      first := fun _ _ _ => rfl }

/-- An EXIT, too. -/
theorem Recalls.keep_exit (h : Recalls b w before) (hm : policy m = .spinExit) :
    Recalls b (Window.ruled (w.keep b m arg)) (w.ruling b m arg :: before) := by
  rw [Window.ruling, Window.keep_exit hm]
  apply h.rule
  · apply ruled_forgotten
    rintro (hBad | hBad)
    · exact Policy.noConfusion (hm.symm.trans hBad)
    · exact Policy.noConfusion (hm.symm.trans hBad)
  · exact {
      change := fun hBad => Policy.noConfusion (hm.symm.trans hBad)
      changeAfter := fun hBad => Policy.noConfusion (hm.symm.trans hBad)
      exit := by
        intro _
        show (!w.skip (m - 1)) = _
        rw [h.skip _ (policy_exit hm), Bool.not_not]
      dropped := fun hBad => Policy.noConfusion (hm.symm.trans hBad)
      differs := fun hBad => Policy.noConfusion (hm.symm.trans hBad)
      first := fun hNot => absurd hm hNot }

theorem lastOf_some {rulings : List Ruling} (h : ∃ r ∈ rulings, r.marker = m) :
    ∃ r, lastOf m rulings = some r := by
  cases hLast : lastOf m rulings with
  | none =>
      obtain ⟨r, hr, hMarker⟩ := h
      exact absurd hMarker (lastOf_none hLast r hr)
  | some r => exact ⟨r, rfl⟩

/-- A CHANGE marker that is dropped repeats the value that last passed. -/
theorem Recalls.keep_change (h : Recalls b w before) (hm : policy m = .change) :
    Recalls b (Window.ruled (w.keep b m arg)) (w.ruling b m arg :: before) := by
  have hOther : ∀ {q : Policy}, q ≠ .change → ∀ {P : Prop}, policy m = q → P :=
    fun hNe _ hBad => absurd (hBad.symm.trans hm) hNe
  rw [Window.ruling, Window.keep_change hm]
  split
  · next hSame =>
      obtain ⟨hSeen, hArg⟩ := hSame
      obtain ⟨p, hp, hMarker, hAfter⟩ := (h.seen m (.inl hm)).mp hSeen
      obtain ⟨q, hq⟩ := lastOf_some ⟨p, hp, hMarker⟩
      apply h.rule
      · exact {
          after := rfl
          triggered := rfl
          filtered := rfl
          others := fun _ _ _ => ⟨rfl, rfl, rfl, rfl⟩
          seen := fun _ => hSeen
          lastArg := fun _ => hArg
          skip := hOther (by decide)
          spins := hOther (by decide) }
      · exact {
          change := by
            intro _
            rw [lastPassed_dropped rfl, h.lawful.change before (List.suffix_refl _) m hm, hq,
              Option.map_some, ← h.lastArg m (.inl hm) q hq, hArg]
          changeAfter := by
            intro _ hNow
            have hMem : p ∈ before.filter Ruling.after :=
              List.mem_filter.mpr ⟨hp, hAfter.trans hNow⟩
            obtain ⟨last, hLast⟩ := lastOf_some ⟨p, hMem, hMarker⟩
            rw [List.filter_cons_of_pos hNow, lastPassed_dropped rfl,
              h.lawful.changeAfter before (List.suffix_refl _) m hm, hLast, Option.map_some,
              ← h.lastArgAfter m (.inl hm) last hLast, hArg]
          exit := hOther (by decide)
          dropped := hOther (by decide)
          differs := hOther (by decide)
          first := by
            intro _ hNow hFirst
            exact absurd hMarker (hFirst p hp (hAfter.trans hNow)) }
  · apply h.rule
    · exact {
        after := rfl
        triggered := rfl
        filtered := (BitVec.add_zero _).symm
        others := fun _ _ hNe =>
          ⟨Function.update_of_ne hNe _ _, Function.update_of_ne hNe _ _, rfl, rfl⟩
        seen := fun _ => Function.update_self _ _ _
        lastArg := fun _ => Function.update_self _ _ _
        skip := hOther (by decide)
        spins := hOther (by decide) }
    · exact {
        change := by
          intro _
          rw [lastPassed_self rfl]
          rfl
        changeAfter := by
          intro _ hNow
          rw [List.filter_cons_of_pos hNow, lastPassed_self rfl]
          rfl
        exit := hOther (by decide)
        dropped := hOther (by decide)
        differs := hOther (by decide)
        first := fun _ _ _ => rfl }

/-- A dropped ENTRY was seen, repeats the last argument, and is one of fewer
than `SPIN_KEEP` in a row. -/
theorem Window.entryPasses_false (h : w.entryPasses b m arg = false) : w.seen m = true ∧
    w.lastArg m = arg ∧ (w.spins m).toNat + 1 < b.spinKeep.toNat := by
  simpa [entryPasses, and_assoc] using h

/-- And an ENTRY, with what became of it. -/
theorem Recalls.keep_entry (h : Recalls b w before) (hm : policy m = .spinEntry) :
    Recalls b (Window.ruled (w.keep b m arg)) (w.ruling b m arg :: before) := by
  have hOther : ∀ {q : Policy}, q ≠ .spinEntry → ∀ {P : Prop}, policy m = q → P :=
    fun hNe _ hBad => absurd (hBad.symm.trans hm) hNe
  have hWidth := b.spinKeep.isLt
  rw [Window.ruling, Window.keep_entry hm]
  generalize hPasses : w.entryPasses b m arg = passes
  apply h.rule
  · exact {
      after := rfl
      triggered := by cases passes <;> rfl
      filtered := by
        cases passes with
        | true => exact (BitVec.add_zero _).symm
        | false => rfl
      others := by
        intro m' _ hNe
        cases passes <;> exact ⟨Function.update_of_ne hNe _ _, Function.update_of_ne hNe _ _,
          Function.update_of_ne hNe _ _, Function.update_of_ne hNe _ _⟩
      seen := by
        intro _
        cases passes <;> exact Function.update_self _ _ _
      lastArg := by
        intro _
        cases passes <;> exact Function.update_self _ _ _
      skip := by
        intro _
        cases passes <;> exact Function.update_self _ _ _
      spins := by
        intro _
        cases passes with
        | true =>
            rw [drops_passed rfl]
            show (Function.update w.spins m 0 m).toNat = 0
            rw [Function.update_self]
            rfl
        | false =>
            obtain ⟨hSeen, _, hFew⟩ := Window.entryPasses_false hPasses
            have hSpins := h.spins m hm hSeen
            have hNext : (w.spins m + 1).toNat = (w.spins m).toNat + 1 := by
              rw [BitVec.toNat_add]
              exact Nat.mod_eq_of_lt (by
                show (w.spins m).toNat + 1 < 2 ^ 16
                omega)
            rw [drops_dropped rfl]
            show (Function.update w.spins m (w.spins m + 1) m).toNat = drops m before + 1
            rw [Function.update_self, hNext, hSpins] }
  · exact {
      change := hOther (by decide)
      changeAfter := hOther (by decide)
      exit := hOther (by decide)
      dropped := by
        intro _
        cases passes with
        | true =>
            rw [drops_passed rfl]
            exact Nat.zero_le _
        | false =>
            obtain ⟨hSeen, _, hFew⟩ := Window.entryPasses_false hPasses
            have hSpins := h.spins m hm hSeen
            rw [drops_dropped rfl]
            show drops m before + 1 ≤ _
            omega
      differs := by
        intro _ p hp hDiffers
        cases passes with
        | true => rfl
        | false =>
            obtain ⟨_, hArg, _⟩ := Window.entryPasses_false hPasses
            exact absurd ((h.lastArg m (.inr hm) p hp).symm.trans hArg) hDiffers
      first := by
        intro _ hNow hFirst
        cases passes with
        | true => rfl
        | false =>
            obtain ⟨hSeen, _, _⟩ := Window.entryPasses_false hPasses
            obtain ⟨p, hp, hMarker, hAfter⟩ := (h.seen m (.inr hm)).mp hSeen
            exact absurd hMarker (hFirst p hp (hAfter.trans hNow)) }

/-- One ruling, whatever the marker's policy. -/
theorem Recalls.keep (h : Recalls b w before) (m : U16) (arg : U32) :
    Recalls b (Window.ruled (w.keep b m arg)) (w.ruling b m arg :: before) := by
  cases hm : policy m with
  | every => exact h.keep_every hm
  | change => exact h.keep_change hm
  | spinEntry => exact h.keep_entry hm
  | spinExit => exact h.keep_exit hm

end Keep

/-- The observer writes down every ruling; a re-arm starts a new list. -/
def rulingNote (b : Build) (rulings : List Ruling) (s : Option Recording) (e : Window.Event)
    (_ : Option Recording) : List Ruling :=
  match s, e with
  | some o, .marker t up m arg => (o.window.judge b (tsAt t) up m arg).ruling b m arg :: rulings
  | some _, .heartbeat _ _ rearm => if rearm.isSome then [] else rulings
  | none, _ => rulings

section Run
variable {b : Build} {o o' : Recording} {rulings : List Ruling} {boot : Nat}

/-- Apart from the ring and the stream, a marker does what its ruling says. -/
theorem Recording.next_marker {t : Nat} {up : U32} {m : U16} {arg : U32}
    (h : Recording.next b (some o) (.marker t up m arg) = some o') : ∃ ring stream, o'.window =
      { Window.ruled ((o.window.judge b (tsAt t) up m arg).keep b m arg) with
        ring := ring, stream := stream } := by
  have hStep : ((o.window.markerWindowed b t up m arg).map fun s =>
    ({ window := s.1, puts := o.puts ++ s.2 } : Recording)) = some o' := h
  generalize hKeep : (o.window.judge b (tsAt t) up m arg).keep b m arg = kept
  obtain ⟨keep, w⟩ := kept
  cases keep with
  | false =>
      rw [Window.markerWindowed_dropped hKeep] at hStep
      cases hStep
      exact ⟨_, _, rfl⟩
  | true =>
      cases hTriggered : w.triggered with
      | true =>
          rw [Window.markerWindowed_streamed hKeep hTriggered] at hStep
          cases hStep
          exact ⟨_, _, rfl⟩
      | false =>
          rw [Window.markerWindowed_ring hKeep hTriggered, Option.map_map] at hStep
          obtain ⟨ring, _, rfl⟩ := Option.map_eq_some_iff.mp hStep
          exact ⟨_, _, rfl⟩

/-- Nor does a heartbeat rule on anything. -/
theorem Recording.next_heartbeat {t : Nat} {up : U32}
    (h : Recording.next b (some o) (.heartbeat t up none) = some o') : ∃ ring stream, o'.window =
      { o.window with
        hbSeq := o.window.hbSeq + 1, hbLastUptimeMs := up, ring := ring, stream := stream } := by
  have hStep : ((o.window.heartbeat b t up none).map fun s =>
    ({ window := s.1, puts := o.puts ++ s.2 } : Recording)) = some o' := h
  unfold Window.heartbeat at hStep
  dsimp only at hStep
  split at hStep
  · rw [Option.map_map] at hStep
    obtain ⟨ring, _, rfl⟩ := Option.map_eq_some_iff.mp hStep
    exact ⟨_, _, rfl⟩
  · cases hStep
    exact ⟨_, _, rfl⟩

/-- A re-armed window begins with empty words. -/
theorem Recording.next_rearm {t t' : Nat} {up up' : U32}
    (h : Recording.next b (some o) (.heartbeat t up (some (t', up'))) = some o') :
    ∃ w ring, o'.window = { Window.rearmNow b w (tsAt t') up' with ring := ring } := by
  have hStep : ((o.window.heartbeat b t up (some (t', up'))).map fun s =>
    ({ window := s.1, puts := [] ++ s.2 } : Recording)) = some o' := h
  unfold Window.heartbeat at hStep
  dsimp only at hStep
  split at hStep
  · rw [Option.map_map] at hStep
    obtain ⟨ring, _, rfl⟩ := Option.map_eq_some_iff.mp hStep
    exact ⟨_, _, rfl⟩
  · next hTriggered => exact absurd rfl hTriggered

/-- Nothing is remembered after a re-arm. -/
theorem Recalls.rearm (w : Window) (ts up : U32) : Recalls b (w.rearmNow b ts up) [] where
  lawful := .nil
  count := rfl
  phase := by
    intro _ r hr
    cases hr
  seen := by
    intro m _
    constructor
    · intro hSeen
      cases hSeen
    · rintro ⟨r, hr, _⟩
      cases hr
  lastArg := by
    intro m _ r hr
    cases hr
  lastArgAfter := by
    intro m _ r hr
    cases hr
  skip := fun _ _ => rfl
  spins := by
    intro m _ hSeen
    cases hSeen

/-- At boot the words recall nothing. -/
theorem Recalls.start : Recalls b (Window.boot b boot) [] :=
  (Recalls.rearm (Window.boot b boot) 0 0).congr rfl rfl rfl rfl rfl rfl

/-- One event, whichever it is. -/
theorem Recalls.next {e : Window.Event} (h : Recalls b o.window rulings)
    (hNext : Recording.next b (some o) e = some o') :
    Recalls b o'.window (rulingNote b rulings (some o) e (some o')) := by
  cases e with
  | marker t up m arg =>
      obtain ⟨ring, stream, hWindow⟩ := Recording.next_marker hNext
      rw [hWindow]
      exact ((h.judge (tsAt t) up m arg).keep m arg).congr rfl rfl rfl rfl rfl rfl
  | heartbeat t up rearm =>
      cases rearm with
      | none =>
          obtain ⟨ring, stream, hWindow⟩ := Recording.next_heartbeat hNext
          rw [hWindow]
          exact h.congr rfl rfl rfl rfl rfl rfl
      | some again =>
          obtain ⟨w, ring, hWindow⟩ := Recording.next_rearm hNext
          rw [hWindow]
          exact (Recalls.rearm w (tsAt again.1) again.2).congr rfl rfl rfl rfl rfl rfl

/-- In every run the arrays can be read off the rulings. -/
theorem Recalls.run {w : Observed (Option Recording) (List Ruling)}
    (run : Reaches (observe (Recording.next b) (rulingNote b)) (fun _ _ => True)
      ⟨some (Recording.boot b boot), []⟩ w) :
    ∃ o, w.state = some o ∧ Recalls b o.window w.history := by
  have hHolds : ∀ w, Reaches (observe (Recording.next b) (rulingNote b)) (fun _ _ => True)
      ⟨some (Recording.boot b boot), []⟩ w → ∃ o held, w.state = some o ∧ o.Holds b held := by
    intro w prior
    have hErased : Reaches (Recording.next b) (fun _ _ => True)
        (Observed.mk (some (Recording.boot b boot)) ([] : List Ruling)).state w.state := prior.erase
    exact Recording.holds hErased
  apply run.invariant_with (P := fun w => ∃ o, w.state = some o ∧ Recalls b o.window w.history) hHolds
  · exact ⟨_, rfl, Recalls.start⟩
  · rintro ⟨s, history⟩ e ⟨o, held, hState, hHolds⟩ ⟨o₁, hSame, hRecalls⟩ _
    have hState : s = some o := hState
    have hSame : s = some o₁ := hSame
    subst hState
    cases hSame
    obtain ⟨o', held', hNext, _⟩ : ∃ o' held', Recording.next b (some o) e = some o' ∧
        o'.Holds b held' := by
      cases e with
      | marker t up m arg => exact hHolds.marker t up m arg
      | heartbeat t up rearm => exact hHolds.heartbeat t up rearm
    refine ⟨o', hNext, ?_⟩
    show Recalls b o'.window (rulingNote b history (some o) e (Recording.next b (some o) e))
    rw [hNext]
    exact hRecalls.next hNext

end Run

section Claim
variable {b : Build} {boot : Nat} {w : Observed (Option Recording) (List Ruling)}

/-- In every run, the rulings since the last re-arm are lawful, wherever the
trigger falls, and the dropped ones are counted modulo `2 ^ 32`. -/
theorem record_policy (run : Reaches (observe (Recording.next b) (rulingNote b)) (fun _ _ => True)
      ⟨some (Recording.boot b boot), []⟩ w) :
    ∃ o, w.state = some o ∧ Lawful b w.history ∧
      o.window.filtered.toNat = (w.history.countP fun r => !r.passed) % 2 ^ 32 := by
  obtain ⟨o, hState, hRecalls⟩ := Recalls.run run
  refine ⟨o, hState, hRecalls.lawful, ?_⟩
  rw [hRecalls.count, BitVec.toNat_ofNat]

/-- A repeated value is dropped, and recorded again after the trigger. -/
theorem record_policy_repeated : Lawful (Build.smallest .u16)
    [⟨22, 0, true, true⟩, ⟨277, 0, true, true⟩, ⟨22, 0, false, false⟩, ⟨22, 0, true, false⟩] := by
  have hRun : Reaches (observe (Recording.next (Build.smallest .u16)) (rulingNote (Build.smallest .u16)))
      (fun _ _ => True) ⟨some (Recording.boot (Build.smallest .u16) 0), []⟩
      (follow (observe (Recording.next (Build.smallest .u16)) (rulingNote (Build.smallest .u16)))
        ⟨some (Recording.boot (Build.smallest .u16) 0), []⟩
        [.marker 1 0 22 0, .marker 2 0 22 0, .marker 3 0 277 0, .marker 4 0 22 0]) :=
    reaches_follow _ ⟨trivial, trivial, trivial, trivial, trivial⟩
  obtain ⟨o, _, hLawful, _⟩ := record_policy hRun
  exact hLawful

/-- A publish marker has no part in the trigger. -/
theorem Window.judge_publish (w : Window) (ts up arg : U32) : w.judge b ts up 22 arg = w := by
  have hArm : w.arm 22 arg = w := if_neg fun h => absurd h.1 (by decide)
  have hOpens : w.opens 22 = false := by
    show (w.armed && false || (w.reopen && false) || false) = false
    rw [Bool.and_false, Bool.and_false]
    rfl
  rw [judge, hArm, hOpens]
  split <;> rfl

/-- As many dropped markers as one likes. -/
theorem Recording.drops (b : Build) (boot n : Nat) :
    ∃ (w : Observed (Option Recording) (List Ruling)) (o : Recording),
      Reaches (observe (Recording.next b) (rulingNote b)) (fun _ _ => True)
        ⟨some (Recording.boot b boot), []⟩ w ∧ w.state = some o ∧ o.window.seen 22 = true ∧
      o.window.lastArg 22 = 0 ∧ (w.history.countP fun r => !r.passed) = n := by
  induction n with
  | zero =>
      have hBoot : (Recording.boot b boot).Holds b {} := Recording.boot_holds
      obtain ⟨o, held, hNext, _⟩ := hBoot.marker 0 0 22 0
      obtain ⟨ring, stream, hWindow⟩ := Recording.next_marker hNext
      refine ⟨observe (Recording.next b) (rulingNote b) ⟨some (Recording.boot b boot), []⟩
        (.marker 0 0 22 0), o, Reaches.refl.step trivial, hNext, ?_, ?_, rfl⟩
      · rw [hWindow]
        rfl
      · rw [hWindow]
        rfl
  | succ n ih =>
      obtain ⟨w, o, run, hState, hSeen, hArg, hCount⟩ := ih
      have hKeep : (o.window.judge b (tsAt 0) 0 22 0).keep b 22 0 = (false, o.window) := by
        rw [Window.judge_publish, Window.keep_change rfl, if_pos ⟨hSeen, hArg⟩]
      have hNext : Recording.next b (some o) (.marker 0 0 22 0) = some {
          window := { o.window with filtered := o.window.filtered + 1 }, puts := o.puts ++ [] } := by
        show ((o.window.markerWindowed b 0 0 22 0).map _) = _
        rw [Window.markerWindowed_dropped hKeep]
        rfl
      refine ⟨observe (Recording.next b) (rulingNote b) w (.marker 0 0 22 0), {
        window := { o.window with filtered := o.window.filtered + 1 }, puts := o.puts ++ [] },
        run.step trivial, ?_, hSeen, hArg, ?_⟩
      · show Recording.next b w.state _ = _
        rw [hState]
        exact hNext
      · show List.countP _ (rulingNote b w.history w.state (.marker 0 0 22 0)
          (Recording.next b w.state (.marker 0 0 22 0))) = n + 1
        rw [hState]
        show List.countP _ (Window.ruling b (o.window.judge b (tsAt 0) 0 22 0) 22 0 :: w.history) = _
        rw [Window.ruling, hKeep, List.countP_cons, hCount]
        rfl

/-- Once `2 ^ 32` markers have been dropped, the counter is back at zero. -/
theorem not_record_policy : ∃ (w : Observed (Option Recording) (List Ruling)) (o : Recording),
    Reaches (observe (Recording.next (Build.smallest .u16)) (rulingNote (Build.smallest .u16)))
      (fun _ _ => True) ⟨some (Recording.boot (Build.smallest .u16) 0), []⟩ w ∧
    w.state = some o ∧ (w.history.countP fun r => !r.passed) = 2 ^ 32 ∧
    o.window.filtered.toNat = 0 := by
  obtain ⟨w, o, run, hState, _, _, hCount⟩ := Recording.drops (Build.smallest .u16) 0 (2 ^ 32)
  obtain ⟨o₁, hSame, hRecalls⟩ := Recalls.run run
  rw [hState] at hSame
  cases hSame
  refine ⟨w, o, run, hState, hCount, ?_⟩
  rw [hRecalls.count, hCount, BitVec.toNat_ofNat, Nat.mod_self]

end Claim

end SafetyIsland.Trace
