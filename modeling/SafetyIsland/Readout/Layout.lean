import SafetyIsland.Readout.Decoder

/-! The decoder against the struct: of every prefix of the record's image that
holds the header it returns the groups and rows that fit, each as the struct has
it. -/
namespace SafetyIsland.Readout
open LittleEndian StructImage

def Named.dict (ws : Named) : Dict := ws.map fun kv => (kv.1, Int.ofNat kv.2.toNat)

def Named.signedDict (ws : Named) : Dict := ws.map fun kv => (kv.1, kv.2.toInt)

def Level.dict (l : Level) : LevelDict where
  words := [("spins", Int.ofNat l.spins.toNat), ("gap_max_us", Int.ofNat l.gapMaxUs.toNat),
    ("gap_max_at_ms", Int.ofNat l.gapMaxAtMs.toNat), ("prio", l.prio.toInt),
    ("route_foreign", Int.ofNat l.routeForeign.toNat)]
  name := l.name.text
  nrosLevel := Int.ofNat l.nrosLevel.toNat

def Thread.entry (t : Thread) : String × Int := (t.name.text, t.prio.toInt)

namespace Record
variable (r : Record)

/-- The priority words, signed but for the first and the last. -/
def prioDict : Dict :=
  [("prio_taken", Int.ofNat r.prioTaken.toNat),
   ("prio_plan_transport_lo", r.prioPlanTransportLo.toInt),
   ("prio_plan_transport_hi", r.prioPlanTransportHi.toInt),
   ("prio_plan_app_lo", r.prioPlanAppLo.toInt), ("prio_plan_app_hi", r.prioPlanAppHi.toInt),
   ("prio_plan_sched_task", r.prioPlanSchedTask.toInt),
   ("prio_plan_reaction", r.prioPlanReaction.toInt), ("prio_spin", r.prioSpin.toInt),
   ("prio_reaction", r.prioReaction.toInt), ("prio_threads", Int.ofNat r.prioThreads.toNat)]

/-- Each group's words beside the word behind it. -/
def groups : List (Nat × Dict) :=
  [(18, r.header.dict), (52, r.tail.dict), (62, r.prioDict), (127, r.late.dict),
   (135, r.levelWords.dict), (189, r.floor.dict), (190, r.unseen.dict), (201, r.resume.dict),
   (217, r.response.dict)]

/-- The routes in order, route 3 and route 4 where they were appended. -/
def routeRows : List (Nat × Dict) :=
  (List.finRange 3).map (fun i => (18 + (i.val + 1) * 7, (r.route i).named.dict)) ++
    [(189, r.routeFloor.named.dict), (217, r.routeResponse.named.dict)]

def directRows : List (Nat × Dict) :=
  (List.finRange 2).map fun i => (39 + (i.val + 1) * 5, (r.direct i).named.dict)

def threadRows : List (Nat × (String × Int)) :=
  ((List.finRange 12).take r.prioThreads.toNat).map fun i =>
    (62 + (i.val + 1) * 5, (r.thread i).entry)

def levelRows : List (Nat × LevelDict) :=
  ((List.finRange 4).take r.levelCount.toNat).map fun i =>
    (135 + (i.val + 1) * 10, (r.level i).dict)

/-- What `n` words of the record show. -/
def shown (n : Nat) : Decoded where
  words := (fitting n r.groups).flatten
  route := fitting n r.routeRows
  direct := fitting n r.directRows
  threads := if 62 ≤ n then some (fitting n r.threadRows) else none
  level := if 135 ≤ n then some (fitting n r.levelRows) else none

end Record

section Prefix
variable {data : List Byte} {m o k : Nat} {ws : Named} (hm : m ≤ data.length)

/-- Routes and words behind those there are. -/
def Decoded.gain (d : Decoded) (route : List Dict) (words : Dict) : Decoded :=
  { d with route := d.route ++ route, words := d.words ++ words }

/-- What is gained in two parts is gained together. -/
theorem Decoded.gain_gain (d : Decoded) (route route' : List Dict) (words words' : Dict) :
    (d.gain route words).gain route' words' = d.gain (route ++ route') (words ++ words') := by
  simp only [Decoded.gain, List.append_assoc]

theorem Decoded.gain_nil (d : Decoded) : d.gain [] [] = d := by
  simp only [Decoded.gain, List.append_nil]

/-- A prefix of `m` bytes holds a quarter as many words. -/
theorem wordCount_take (hm : m ≤ data.length) : wordCount (data.take m) = m / 4 := by
  rw [wordCount, List.length_take, Nat.min_eq_left hm]

/-- Words that fit a prefix stand in it. -/
theorem Named.in_take (h : Placed data (4 * o) ws.image) (hFits : o + ws.length ≤ m / 4) :
    Placed (data.take m) (4 * o) ws.image := by
  apply h.take
  rw [ws.length_image]
  omega

/-- Words that fit a prefix are read from it by name. -/
theorem dictAt_take (h : Placed data (4 * o) ws.image) (hFits : o + ws.length ≤ m / 4) :
    dictAt (data.take m) (ws.map Prod.fst) o = ws.dict := by
  have hWords := wordsAt_eq (Named.in_take h hFits)
  rw [List.length_map] at hWords
  rw [dictAt, List.length_map, hWords, Named.dict]
  apply List.ext_getElem
  · simp
  · intro i _ _
    simp only [List.getElem_zip, List.getElem_map]

/-- And so are signed ones. -/
theorem signedDict_take (h : Placed data (4 * o) ws.image) (hFits : o + ws.length ≤ m / 4) :
    (ws.map Prod.fst).zip ((wordsAt (data.take m) o ws.length).map signed) = ws.signedDict := by
  have hWords := wordsAt_eq (Named.in_take h hFits)
  rw [List.length_map] at hWords
  rw [hWords, Named.signedDict]
  apply List.ext_getElem
  · simp
  · intro i _ _
    simp only [List.getElem_zip, List.getElem_map, signed, BitVec.ofNat_toNat, BitVec.setWidth_eq]

include hm

/-- A group of words is taken exactly where it fits. -/
theorem update_take (d : Decoded) (h : Placed data (4 * o) ws.image) :
    d.update (data.take m) (ws.map Prod.fst) o =
      d.gain [] (fitting (m / 4) [(o + ws.length, ws.dict)]).flatten := by
  rw [Decoded.update, wordCount_take hm, List.length_map, fitting_cons]
  split_ifs with hFits
  · rw [dictAt_take h hFits, fitting_nil, List.flatten_singleton, Decoded.gain, List.append_nil]
  · rw [List.flatten_nil, d.gain_nil]

/-- So is each row of a table of words. -/
theorem rowDicts_take {names : List String} {count : Nat} {rows : Fin count → Named}
    (h : Placed data (4 * o) ((List.finRange count).flatMap fun i => (rows i).image))
    (hNames : ∀ i, (rows i).map Prod.fst = names) :
    rowDicts (data.take m) names o count =
      fitting (m / 4)
        ((List.finRange count).map fun i => (o + (i.val + 1) * names.length, (rows i).dict)) := by
  have hLength (i : Fin count) : (rows i).length = names.length := by
    rw [← hNames i, List.length_map]
  have hAscend : (List.finRange count).Pairwise fun i j =>
      o + (i.val + 1) * names.length ≤ o + (j.val + 1) * names.length := by
    apply (List.pairwise_lt_finRange count).imp
    intro i j hij
    have hNumber : i.val + 1 ≤ j.val + 1 := Nat.succ_le_succ (Fin.lt_def.mp hij).le
    exact Nat.add_le_add_left (Nat.mul_le_mul_right _ hNumber) o
  have hRead (i : Fin count) (hFits : o + (i.val + 1) * names.length ≤ m / 4) :
      (rows i).dict = dictAt (data.take m) names (o + i.val * names.length) := by
    have hRow := h.row (fun j => by rw [Named.length_image, hLength]) (i := i.val) (by simp)
    rw [List.getElem_finRange] at hRow
    have hOff : 4 * o + i.val * (4 * names.length) = 4 * (o + i.val * names.length) := by ring
    rw [hOff] at hRow
    rw [Nat.succ_mul] at hFits
    rw [← hNames i]
    symm
    apply dictAt_take
    · simpa [hNames i] using hRow
    · simp only [hNames i, hLength]
      omega
  rw [fitting_congr fun i _ hFits => hRead i hFits, fitting_filter hAscend, rowDicts,
    wordCount_take hm, ← List.map_coe_finRange_eq_range, List.filter_map, List.map_map]
  have hStop (i : Fin count) : o + (i.val + 1) * names.length =
      o + i.val * names.length + names.length := by
    rw [Nat.succ_mul, Nat.add_assoc]
  simp only [hStop]
  rfl

/-- And each entry of a table of bytes, up to the first one cut short. -/
theorem entryRows_take {α : Type} {row : List Byte → α} {size count bound : Nat}
    {image : Fin bound → List Byte} {shown : Fin bound → α} (hSize : 0 < k)
    (hBytes : size = 4 * k) (h : Placed data (4 * o) ((List.finRange bound).flatMap image))
    (hImage : ∀ i, (image i).length = size) (hRow : ∀ i, row (image i) = shown i)
    (hCount : count ≤ bound) :
    entryRows (data.take m) row (o * 4) size count =
      fitting (m / 4)
        (((List.finRange bound).take count).map fun i => (o + (i.val + 1) * k, shown i)) := by
  have hFits (i : Fin bound) : (¬ (entry (data.take m) (o * 4) size i.val).length < size) ↔
      o + (i.val + 1) * k ≤ m / 4 := by
    have hSlot : i.val * size = 4 * (i.val * k) := by
      rw [hBytes]
      ring
    rw [entry, List.length_take, List.length_drop, List.length_take, Nat.min_eq_left hm, hSlot,
      Nat.succ_mul i.val k]
    generalize i.val * k = before
    omega
  have hRead (i : Fin bound) (hIn : o + (i.val + 1) * k ≤ m / 4) :
      shown i = row (entry (data.take m) (o * 4) size i.val) := by
    have hEntry := h.row hImage (i := i.val) (by simp)
    rw [List.getElem_finRange] at hEntry
    have hStop : 4 * o + i.val * size + (image i).length ≤ m := by
      rw [hImage, hBytes]
      rw [Nat.succ_mul] at hIn
      have hSlot : i.val * (4 * k) = 4 * (i.val * k) := by ring
      rw [hSlot]
      omega
    have hSlice := (hEntry.take hStop).slice
    rw [entry, ← hRow, ← hImage i, Nat.mul_comm o 4]
    simp only [hImage] at hSlice ⊢
    rw [hSlice]
    rfl
  rw [fitting_congr fun i _ hIn => hRead i hIn, fitting_takeWhile, entryRows,
    range_eq_finRange hCount, List.takeWhile_map, List.map_map]
  simp only [Function.comp_def, hFits]

end Prefix

/-- A name in ASCII is read as its text. -/
theorem asciiText_eq {name : Name} (h : ∀ k, name k < 128) : asciiText name.bytes = name.text := by
  rw [asciiText, Name.text]
  congr 1
  apply List.map_congr_left
  intro b hb
  have hMem : b ∈ List.ofFn name := List.takeWhile_subset _ hb
  obtain ⟨k, rfl⟩ := List.mem_ofFn.mp hMem
  rw [if_pos (h k)]

/-- A thread's row is read back. -/
theorem threadRow_image {t : Thread} (h : ∀ k, t.name k < 128) : threadRow t.image = t.entry := by
  have hWhole : Placed t.image 0 t.image := Placed.whole
  have hName : t.image.take 16 = t.name.bytes := by
    rw [← t.name.length_bytes]
    exact List.take_left
  have hBehind := hWhole.right
  have hPrio : word 4 16 t.image = t.prio.toNat := by
    rw [t.name.length_bytes] at hBehind
    exact Placed.word_eq (by simpa [words] using hBehind)
  rw [threadRow, hName, asciiText_eq h, hPrio, signed, BitVec.ofNat_toNat, BitVec.setWidth_eq]
  rfl

/-- A level's row is read back. -/
theorem levelRow_image {l : Level} (h : ∀ k, l.name k < 128) : levelRow l.image = l.dict := by
  have hWhole : Placed l.image 0 l.image := Placed.whole
  have hWords := hWhole.left.unpack_eq
  have hNamed := hWhole.right
  rw [Named.length_image] at hNamed
  have hName : (l.image.drop 20).take 16 = l.name.bytes := by
    have hSlice := hNamed.left.slice
    rw [Name.length_bytes] at hSlice
    exact hSlice
  have hLast := hNamed.right
  rw [Name.length_bytes] at hLast
  have hCount : l.named.length = 5 := rfl
  rw [hCount] at hLast
  have hNros : word 4 36 l.image = l.nrosLevel.toNat := Placed.word_eq (by simpa [words] using hLast)
  have hFirst : (List.range 5).map (fun i => word 4 (0 + 4 * i) l.image) =
      [l.spins.toNat, l.gapMaxUs.toNat, l.gapMaxAtMs.toNat, l.prio.toNat, l.routeForeign.toNat] := by
    have hIn : 0 + 4 * (l.named.map Prod.snd).length ≤ l.image.length := by
      rw [l.length_image, List.length_map, hCount]
      omega
    rw [unpack, if_pos hIn, Option.some_inj] at hWords
    exact hWords
  simp only [List.range_succ_eq_map, List.range_zero, List.map_cons, List.map_nil, List.cons.injEq,
    Nat.zero_add, Nat.mul_zero, Nat.reduceMul, Nat.reduceSucc] at hFirst
  obtain ⟨hSpins, hGap, hGapAt, hPrio, hForeign, -⟩ := hFirst
  rw [levelRow, hName, asciiText_eq h, hNros, hSpins, hGap, hGapAt, hPrio, hForeign, signed,
    BitVec.ofNat_toNat, BitVec.setWidth_eq]
  rfl

namespace Record
variable (r : Record) {m : Nat} (hm : m ≤ r.image.length) (d : Decoded)

/-- The priority words keep their values when read as signed. -/
theorem signedDict_prio (hSound : r.Sound) : r.prio.signedDict = r.prioDict := by
  have hTaken : r.prioTaken.toInt = Int.ofNat r.prioTaken.toNat := by
    rcases hSound.prioTaken with hZero | hOne
    · rw [hZero]; rfl
    · rw [hOne]; rfl
  have hFew : r.prioThreads.toNat ≤ 12 := BitVec.le_def.mp hSound.prioThreads
  have hThreads : r.prioThreads.toInt = Int.ofNat r.prioThreads.toNat := by
    rw [BitVec.toInt_eq_toNat_of_lt (by omega)]
    rfl
  rw [prioDict, ← hTaken, ← hThreads]
  rfl

include hm

/-- Of the response check a prefix gives what fits it. -/
theorem decodeResponse_take : d.decodeResponse (r.image.take m) 201 =
    d.gain (fitting (m / 4) [(217, r.routeResponse.named.dict)])
      (fitting (m / 4) [(217, r.response.dict)]).flatten := by
  have hRoute : Placed r.image (4 * 201) r.routeResponse.named.image :=
    r.placed (show r.parts[13]? = _ from rfl)
  have hWords : Placed r.image (4 * 208) r.response.image :=
    r.placed (show r.parts[14]? = _ from rfl)
  have hStop : 201 + supRoute.length + supResponse.length = 217 := rfl
  rw [Decoded.decodeResponse, wordCount_take hm, hStop, fitting_cons, fitting_cons]
  simp only
  split_ifs with hFits
  · have hRouteFits : 201 + r.routeResponse.named.length ≤ m / 4 := by
      show 208 ≤ m / 4
      omega
    have hRouteDict : dictAt (r.image.take m) supRoute 201 = r.routeResponse.named.dict :=
      dictAt_take hRoute hRouteFits
    have hWordsDict : dictAt (r.image.take m) supResponse (201 + supRoute.length) =
        r.response.dict := dictAt_take hWords hFits
    rw [hRouteDict, hWordsDict, fitting_nil, List.flatten_cons, List.flatten_nil, List.append_nil]
    rfl
  · exact d.gain_nil.symm

/-- Of the floor's words and what is behind them, too. -/
theorem decodeFloor_take : d.decodeFloor (r.image.take m) 175 =
    d.gain
      (fitting (m / 4) [(189, r.routeFloor.named.dict), (217, r.routeResponse.named.dict)])
      (fitting (m / 4)
        [(189, r.floor.dict), (190, r.unseen.dict), (201, r.resume.dict),
         (217, r.response.dict)]).flatten := by
  have hRoute : Placed r.image (4 * 175) r.routeFloor.named.image :=
    r.placed (show r.parts[9]? = _ from rfl)
  have hFloor : Placed r.image (4 * 182) r.floor.image := r.placed (show r.parts[10]? = _ from rfl)
  have hUnseen : Placed r.image (4 * 189) r.unseen.image :=
    r.placed (show r.parts[11]? = _ from rfl)
  have hResume : Placed r.image (4 * 190) r.resume.image :=
    r.placed (show r.parts[12]? = _ from rfl)
  have hStop : 175 + supRoute.length + supFloor.length = 189 := rfl
  rw [Decoded.decodeFloor, wordCount_take hm, hStop]
  split_ifs with hFits
  · have hRouteFits : 175 + r.routeFloor.named.length ≤ m / 4 := by
      show 182 ≤ m / 4
      omega
    have hRouteDict : dictAt (r.image.take m) supRoute 175 = r.routeFloor.named.dict :=
      dictAt_take hRoute hRouteFits
    have hFloorDict : dictAt (r.image.take m) supFloor 182 = r.floor.dict :=
      dictAt_take hFloor hFits
    have hUnseenWords (d : Decoded) : d.update (r.image.take m) supFloorUnseen 189 =
        d.gain [] (fitting (m / 4) [(190, r.unseen.dict)]).flatten := update_take hm d hUnseen
    have hResumeWords (d : Decoded) : d.update (r.image.take m) supResume 190 =
        d.gain [] (fitting (m / 4) [(201, r.resume.dict)]).flatten := update_take hm d hResume
    show (((d.gain [dictAt (r.image.take m) supRoute 175]
      (dictAt (r.image.take m) supFloor 182)).update (r.image.take m) supFloorUnseen 189).update
        (r.image.take m) supResume 190).decodeResponse (r.image.take m) 201 = _
    have hRoutes : fitting (m / 4) [(189, r.routeFloor.named.dict),
        (217, r.routeResponse.named.dict)] = r.routeFloor.named.dict ::
          fitting (m / 4) [(217, r.routeResponse.named.dict)] := fitting_pos hFits
    have hGroups : fitting (m / 4) [(189, r.floor.dict), (190, r.unseen.dict),
        (201, r.resume.dict), (217, r.response.dict)] = r.floor.dict ::
          [(190, r.unseen.dict), (201, r.resume.dict), (217, r.response.dict)].flatMap
            fun row => fitting (m / 4) [row] := by
      rw [fitting_pos hFits, fitting_singly (by simp)]
    rw [hRouteDict, hFloorDict, hUnseenWords, hResumeWords, r.decodeResponse_take hm,
      Decoded.gain_gain, Decoded.gain_gain, Decoded.gain_gain, hRoutes, hGroups]
    simp only [List.append_nil, List.nil_append, List.singleton_append, List.flatMap_cons,
      List.flatMap_nil, List.flatten_cons, List.flatten_append]
  · rw [fitting_none (by simp; omega), fitting_none (by simp; omega)]
    exact d.gain_nil.symm

def lastRoutes : List (Nat × Dict) :=
  [(189, r.routeFloor.named.dict), (217, r.routeResponse.named.dict)]

/-- The groups from the level words on. -/
def lastGroups : List (Nat × Dict) :=
  [(135, r.levelWords.dict), (189, r.floor.dict), (190, r.unseen.dict), (201, r.resume.dict),
   (217, r.response.dict)]

/-- And of the levels and what is behind them. -/
theorem decodeLevels_take (hSound : r.Sound) (hLevel : d.level = none) :
    d.decodeLevels (r.image.take m) 127 =
      some ({ d with
        level := if 135 ≤ m / 4 then some (fitting (m / 4) r.levelRows) else none }.gain
          (fitting (m / 4) r.lastRoutes) (fitting (m / 4) r.lastGroups).flatten) := by
  have hWords : Placed r.image (4 * 127) r.levelWords.image :=
    r.placed (show r.parts[7]? = _ from rfl)
  have hTable : Placed r.image (4 * 135) ((List.finRange 4).flatMap fun i => (r.level i).image) := by
    have hRows : Placed r.image (4 * 135) ((List.ofFn r.level).flatMap Level.image) :=
      r.placed (show r.parts[8]? = _ from rfl)
    rw [List.ofFn_eq_map, List.flatMap_map] at hRows
    exact hRows
  have hStop : 127 + supLevels.length = 135 := rfl
  rw [Decoded.decodeLevels, wordCount_take hm, hStop]
  split_ifs with hFits
  · have hDict : dictAt (r.image.take m) supLevels 127 = r.levelWords.dict :=
      dictAt_take hWords hFits
    have hCount : Dict.get (d.words ++ r.levelWords.dict) "level_count" =
        some (Int.ofNat r.levelCount.toNat) := by
      rw [Dict.get, List.reverse_append]
      rfl
    have hLevels : Dict.get (d.words ++ r.levelWords.dict) "levels" = some 4 := by
      have hFour : Int.ofNat r.levels.toNat = 4 := by rw [hSound.levels]; rfl
      rw [Dict.get, List.reverse_append, ← hFour]
      rfl
    have hFew : r.levelCount.toNat ≤ 4 := BitVec.le_def.mp hSound.levelCount
    have hMin : (min (Int.ofNat r.levelCount.toNat) 4).toNat = r.levelCount.toNat := by
      rw [Int.ofNat_eq_natCast]
      omega
    have hRows : entryRows (r.image.take m) levelRow (135 * 4) supLevelBytes
        r.levelCount.toNat = fitting (m / 4) r.levelRows :=
      entryRows_take hm (by decide) rfl hTable (fun i => (r.level i).length_image)
        (fun i => levelRow_image (hSound.levelNames i)) hFew
    have hFirst : fitting (m / 4) r.lastGroups = r.levelWords.dict ::
        fitting (m / 4) [(189, r.floor.dict), (190, r.unseen.dict), (201, r.resume.dict),
          (217, r.response.dict)] := fitting_pos hFits
    simp only [hDict, hCount, hLevels, Option.bind_eq_bind, Option.bind_some, hMin, hRows]
    have hOff : 135 + (4 : Int).toNat * supLevelBytes / 4 = 175 := rfl
    rw [hOff, r.decodeFloor_take hm, hFirst, List.flatten_cons]
    simp only [Decoded.gain, List.append_assoc]
    rfl
  · have hRoutes : fitting (m / 4) r.lastRoutes = [] := fitting_none (by simp [lastRoutes]; omega)
    have hGroups : fitting (m / 4) r.lastGroups = [] := fitting_none (by simp [lastGroups]; omega)
    rw [hRoutes, hGroups, List.flatten_nil, Decoded.gain_nil, ← hLevel]

/-- The groups from the late notice on. -/
def lateGroups : List (Nat × Dict) := (127, r.late.dict) :: r.lastGroups

/-- And of the threads and what is behind them. -/
theorem decodePrio_take (hSound : r.Sound) (hLevel : d.level = none) (hThreads : d.threads = none) :
    d.decodePrio (r.image.take m) 52 =
      some ({ d with
        threads := if 62 ≤ m / 4 then some (fitting (m / 4) r.threadRows) else none
        level := if 135 ≤ m / 4 then some (fitting (m / 4) r.levelRows) else none }.gain
          (fitting (m / 4) r.lastRoutes)
          (fitting (m / 4) ((62, r.prioDict) :: r.lateGroups)).flatten) := by
  have hWords : Placed r.image (4 * 52) r.prio.image := r.placed (show r.parts[4]? = _ from rfl)
  have hTable : Placed r.image (4 * 62)
      ((List.finRange 12).flatMap fun i => (r.thread i).image) := by
    have hRows : Placed r.image (4 * 62) ((List.ofFn r.thread).flatMap Thread.image) :=
      r.placed (show r.parts[5]? = _ from rfl)
    rw [List.ofFn_eq_map, List.flatMap_map] at hRows
    exact hRows
  have hLate : Placed r.image (4 * 122) r.late.image := r.placed (show r.parts[6]? = _ from rfl)
  have hStop : 52 + supPrio.length = 62 := rfl
  rw [Decoded.decodePrio, wordCount_take hm, hStop]
  by_cases hFits : 62 ≤ m / 4
  · rw [if_pos hFits, if_pos hFits]
    have hPrio : supPrio.zip ((wordsAt (r.image.take m) 52 supPrio.length).map signed) =
        r.prioDict := (signedDict_take hWords hFits).trans (r.signedDict_prio hSound)
    have hCount : Dict.get (d.words ++ r.prioDict) "prio_threads" =
        some (Int.ofNat r.prioThreads.toNat) := by
      rw [Dict.get, List.reverse_append]
      rfl
    have hFew : r.prioThreads.toNat ≤ 12 := BitVec.le_def.mp hSound.prioThreads
    have hMin : (min (max (Int.ofNat r.prioThreads.toNat) 0) supPrioThreads).toNat =
        r.prioThreads.toNat := by
      rw [Int.ofNat_eq_natCast, supPrioThreads]
      omega
    have hRows : entryRows (r.image.take m) threadRow (62 * 4) 20 r.prioThreads.toNat =
        fitting (m / 4) r.threadRows :=
      entryRows_take hm (by decide) rfl hTable (fun i => (r.thread i).length_image)
        (fun i => threadRow_image (hSound.threadNames i)) hFew
    have hLateWords (d : Decoded) : d.update (r.image.take m) supLate 122 =
        d.gain [] (fitting (m / 4) [(127, r.late.dict)]).flatten := update_take hm d hLate
    have hGroups : fitting (m / 4) ((62, r.prioDict) :: r.lateGroups) =
        r.prioDict :: (fitting (m / 4) [(127, r.late.dict)] ++ fitting (m / 4) r.lastGroups) := by
      rw [fitting_pos hFits, lateGroups, fitting_ascending (by simp [lastGroups])]
    simp only [hPrio, hCount, Option.bind_eq_bind, Option.bind_some, hMin, hRows]
    show Decoded.decodeLevels (r.image.take m) (Decoded.update (r.image.take m)
      { d with words := d.words ++ r.prioDict, threads := some (fitting (m / 4) r.threadRows) }
      supLate 122) 127 = _
    rw [hLateWords, r.decodeLevels_take hm _ hSound (by exact hLevel), hGroups]
    simp only [Decoded.gain, List.append_nil, List.flatten_cons, List.flatten_append,
      List.append_assoc]
  · have hRoutes : fitting (m / 4) r.lastRoutes = [] := fitting_none (by simp [lastRoutes]; omega)
    have hGroups : fitting (m / 4) ((62, r.prioDict) :: r.lateGroups) = [] :=
      fitting_none (by simp [lateGroups, lastGroups]; omega)
    have hNoLevel : ¬ 135 ≤ m / 4 := by omega
    rw [if_neg hFits, if_neg hFits, if_neg hNoLevel, hRoutes, hGroups, List.flatten_nil,
      Decoded.gain_nil, ← hLevel, ← hThreads]

/-- Of a prefix that holds the header the decoder returns what fits. -/
theorem supervisorDecode_take (hSound : r.Sound) (hHeader : 72 ≤ m) :
    supervisorDecode (r.image.take m) = some (r.shown (m / 4)) := by
  have hHead : Placed r.image (4 * 0) r.header.image := r.placed (show r.parts[0]? = _ from rfl)
  have hRoutes : Placed r.image (4 * 18)
      ((List.finRange 3).flatMap fun i => (r.route i).named.image) := by
    have hRows : Placed r.image (4 * 18) ((List.ofFn r.route).flatMap fun x => x.named.image) :=
      r.placed (show r.parts[1]? = _ from rfl)
    rw [List.ofFn_eq_map, List.flatMap_map] at hRows
    exact hRows
  have hSlots : Placed r.image (4 * 39)
      ((List.finRange 2).flatMap fun i => (r.direct i).named.image) := by
    have hRows : Placed r.image (4 * 39) ((List.ofFn r.direct).flatMap fun d => d.named.image) :=
      r.placed (show r.parts[2]? = _ from rfl)
    rw [List.ofFn_eq_map, List.flatMap_map] at hRows
    exact hRows
  have hTail : Placed r.image (4 * 49) r.tail.image := r.placed (show r.parts[3]? = _ from rfl)
  have hFits : 18 ≤ m / 4 := by omega
  have hDict : dictAt (r.image.take m) supHeader 0 = r.header.dict := dictAt_take hHead hFits
  have hCount : ((Dict.get r.header.dict "routes").getD 0).toNat = 3 := by
    have hThree : r.routes.toNat = 3 := by rw [hSound.routes]; rfl
    rw [← hThree]
    rfl
  have hRouteRows : rowDicts (r.image.take m) supRoute 18 3 = fitting (m / 4)
      ((List.finRange 3).map fun i => (18 + (i.val + 1) * 7, (r.route i).named.dict)) :=
    rowDicts_take hm hRoutes fun _ => rfl
  have hDirectRows : rowDicts (r.image.take m) supDirect 39 2 = fitting (m / 4) r.directRows :=
    rowDicts_take hm hSlots fun _ => rfl
  have hTailWords (d : Decoded) : d.update (r.image.take m) supTail 49 =
      d.gain [] (fitting (m / 4) [(52, r.tail.dict)]).flatten := update_take hm d hTail
  have hAllRoutes : fitting (m / 4) r.routeRows = fitting (m / 4)
      ((List.finRange 3).map fun i => (18 + (i.val + 1) * 7, (r.route i).named.dict)) ++
        fitting (m / 4) r.lastRoutes := by
    apply fitting_append
    simp [List.finRange_succ]
  have hGroups : fitting (m / 4) r.groups = r.header.dict :: (fitting (m / 4) [(52, r.tail.dict)] ++
      fitting (m / 4) ((62, r.prioDict) :: r.lateGroups)) := by
    have hFirst : fitting (m / 4) r.groups = r.header.dict ::
        fitting (m / 4) ((52, r.tail.dict) :: (62, r.prioDict) :: r.lateGroups) :=
      fitting_pos hFits
    rw [hFirst, fitting_ascending (by simp [lateGroups, lastGroups])]
  rw [supervisorDecode, hDict]
  simp only [hCount]
  show Decoded.decodePrio (r.image.take m) (Decoded.update (r.image.take m)
    { words := r.header.dict, route := rowDicts (r.image.take m) supRoute 18 3,
      direct := rowDicts (r.image.take m) supDirect 39 2 } supTail 49) 52 = _
  rw [hRouteRows, hDirectRows, hTailWords,
    r.decodePrio_take hm _ hSound (by rfl) (by rfl), shown, hAllRoutes, hGroups]
  simp only [Decoded.gain, List.append_nil, List.flatten_cons, List.flatten_append,
    List.append_assoc]

end Record
end SafetyIsland.Readout
