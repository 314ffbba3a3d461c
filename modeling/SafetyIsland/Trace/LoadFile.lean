import Mathlib.Data.Nat.Bitwise
import SafetyIsland.Trace.RoundTrip

/-! The files a trace is read from: a raw read of the buffer, one that `wrap`
has put behind a header, and the dump of native_sim. -/
namespace SafetyIsland.Trace

open LittleEndian Framing

section Unused
variable {data : List Byte}

/-- Padding is trimmed, whatever it is behind. -/
theorem trimmed_zeros (n : Nat) : trimmed (data ++ List.replicate n 0) = trimmed data := by
  have hZeros : ∀ b ∈ List.replicate n (0 : Byte), (b == 0) = true := by
    intro b hb
    rw [List.eq_of_mem_replicate hb]
    rfl
  rw [trimmed, trimmed, List.rdropWhile, List.rdropWhile, List.reverse_append,
    List.reverse_replicate, List.dropWhile_append_of_pos hZeros]

/-- The zero bytes some bytes end in. -/
def zerosBehind (data : List Byte) : Nat := (data.rtakeWhile (· == 0)).length

/-- What is trimmed is zeros. -/
theorem trimmed_append (data : List Byte) :
    trimmed data ++ List.replicate (zerosBehind data) 0 = data := by
  have hZeros : data.rtakeWhile (· == 0) = List.replicate (zerosBehind data) 0 := by
    apply List.eq_replicate_of_mem
    intro b hb
    exact eq_of_beq (List.mem_rtakeWhile_imp (p := (· == 0)) hb)
  rw [← hZeros, trimmed, List.rdropWhile, List.rtakeWhile, ← List.reverse_append,
    List.takeWhile_append_dropWhile, List.reverse_reverse]

theorem length_trimmed_le : (trimmed data).length ≤ data.length :=
  (List.rdropWhile_prefix _ _).length_le

end Unused

section Head
variable {v size emitted hbMs up : Nat} {kept : List Byte}

/-- The header that a file's words come to. -/
def Header.of (v size emitted hbMs up len : Nat) : Header where
  zephyrVersion := v
  bufferSize := size
  heartbeatsEmitted := emitted
  heartbeatMs := hbMs
  lastHeartbeatUptimeMs := up
  dumpedLen := len

theorem length_magic : magic.length = 8 := rfl

/-- The header takes 36 bytes. -/
theorem length_fileOf : (fileOf v size emitted hbMs up kept).length = 36 + kept.length := by
  simp [fileOf, length_magic]
  omega

/-- A file begins with the magic. -/
theorem take_fileOf : (fileOf v size emitted hbMs up kept).take 8 = magic := by
  rw [fileOf, List.append_assoc]
  exact List.take_left' length_magic

theorem word_magic {n off : Nat} (h : 8 ≤ off) (rest : List Byte) :
    word n off (magic ++ rest) = word n (off - 8) rest := by
  rw [word_append (by rw [length_magic]; exact h), length_magic]

/-- The nine words are read where they are written. -/
theorem header_fileOf (hv : v < 256 ^ 4) (hSize : size < 256 ^ 4) (hEmitted : emitted < 256 ^ 4)
    (hHb : hbMs < 256 ^ 4) (hUp : up < 256 ^ 4) (hKept : kept.length < 256 ^ 4) :
    word 4 8 (fileOf v size emitted hbMs up kept) = 36 ∧
      headerAt (fileOf v size emitted hbMs up kept) =
        Header.of v size emitted hbMs up kept.length := by
  have hLen : (36 : Nat) < 256 ^ 4 := by decide
  constructor
  · simp (disch := first | decide | assumption) only [fileOf, List.flatMap_cons, List.append_assoc,
      word_magic, Nat.reduceSub, word_bytes_of_lt]
  · simp (disch := first | decide | assumption) only [headerAt, Header.of, fileOf,
      List.flatMap_cons, List.append_assoc, word_magic, word_behind, Nat.reduceSub,
      word_bytes_of_lt]

/-- A file whose buffer has four bytes is taken apart again. -/
theorem splitFile_fileOf (hv : v < 2 ^ 32) (hSize : size < 2 ^ 32) (hEmitted : emitted < 2 ^ 32)
    (hHb : hbMs < 2 ^ 32) (hUp : up < 2 ^ 32) (hKept : kept.length < 2 ^ 32)
    (hFour : 4 ≤ kept.length) :
    splitFile (fileOf v size emitted hbMs up kept) "" =
      .ok (some (Header.of v size emitted hbMs up kept.length), versionText v, kept) := by
  obtain ⟨hLen, hHeader⟩ := @header_fileOf v size emitted hbMs up kept hv hSize hEmitted hHb hUp hKept
  have hLong : ¬ (fileOf v size emitted hbMs up kept).length < 40 := by
    rw [length_fileOf]
    omega
  have hBuffer : (fileOf v size emitted hbMs up kept).drop 36 = kept := by
    rw [fileOf]
    exact List.drop_left' (by simp [length_magic])
  rw [splitFile, if_pos take_fileOf, if_neg hLong, hLen, hHeader]
  simp only [Header.of, hBuffer, List.take_length, if_true]

/-- A file whose buffer has less is none: the unpack of its header reads past its end. -/
theorem splitFile_short (hFour : kept.length < 4) (zephyr : String) :
    splitFile (fileOf v size emitted hbMs up kept) zephyr = .error .structError := by
  have hShort : (fileOf v size emitted hbMs up kept).length < 40 := by
    rw [length_fileOf]
    omega
  rw [splitFile, if_pos take_fileOf, if_pos hShort]

/-- The version `wrap` packs is shown as it was given. -/
theorem versionText_wrap (major : Nat) {minor : Nat} (h : minor < 256) :
    versionText ((major <<< 16) ||| (minor <<< 8)) = toString major ++ "." ++ toString minor := by
  have hSmall : minor <<< 8 < 2 ^ 16 := by
    rw [Nat.shiftLeft_eq]
    omega
  have hSum : (major <<< 16) ||| (minor <<< 8) = major * 2 ^ 16 + minor * 2 ^ 8 := by
    rw [← Nat.shiftLeft_add_eq_or_of_lt hSmall, Nat.shiftLeft_eq, Nat.shiftLeft_eq]
  have hMajor : ((major <<< 16) ||| (minor <<< 8)) >>> 16 = major := by
    rw [hSum, Nat.shiftRight_eq_div_pow]
    omega
  have hMinor : (((major <<< 16) ||| (minor <<< 8)) >>> 8) &&& 0xFF = minor := by
    rw [hSum, Nat.shiftRight_eq_div_pow, show 0xFF = 2 ^ 8 - 1 from rfl,
      Nat.and_two_pow_sub_one_eq_mod]
    omega
  rw [versionText, hMajor, hMinor]

end Head

section Load
variable {u : Setup} {d : Tsdl} {e : EvId} {ws : List Written} {zephyr : String}
  {header : Option Header} {buf : List Byte}

/-- Loading is splitting the file, and loading the buffer. -/
theorem load_split {data : List Byte} {given : String}
    (hSplit : splitFile data given = .ok (header, zephyr, buf))
    (hApart : (u.tsdl (u.tsdlPath zephyr)).collisions = []) :
    u.load data given = loadBuffer u (u.tsdl (u.tsdlPath zephyr)) header zephyr buf := by
  simp only [Setup.load, hSplit, bind, Except.bind, hApart]

/-- A whole stream with its padding is read to the end. -/
theorem loadBuffer_stream {n : Nat} (hd : d.Fits e) (hw : ∀ w ∈ ws, w.Fits d e)
    (hBuf : buf ++ padding = Written.stream e ws ++ List.replicate n 0) :
    loadBuffer u d header zephyr buf =
      .ok ((ws.foldl (Reading.next u d e) {}).loaded header zephyr none) := by
  rw [loadBuffer, hBuf, read_stream hd hw]

/-- A raw buffer that starts with a provenance is not taken for a file with a
header. -/
theorem not_magic {t : Nat} {text rest : List Byte} :
    (packProvenance e (tsAt t) text ++ rest).take 8 ≠ magic := by
  intro hMagic
  have hByte := congrArg (word 1 4) hMagic
  rw [word_take (by decide), packProvenance, header, List.append_assoc, List.append_assoc,
    List.append_assoc, word_behind (by decide)] at hByte
  cases e <;> cases hByte

/-- A raw read, whatever room is left behind the stream. -/
theorem load_raw (hZephyr : zephyr ≠ "") (hd : (u.tsdl (u.tsdlPath zephyr)).Fits e)
    (hw : ∀ w ∈ ws, w.Fits (u.tsdl (u.tsdlPath zephyr)) e)
    (hFirst : ∃ t text rest, ws = .provenance t text :: rest) (n : Nat) :
    u.load (Written.stream e ws ++ List.replicate n 0) zephyr =
      .ok ((ws.foldl (Reading.next u (u.tsdl (u.tsdlPath zephyr)) e) {}).loaded none zephyr
        none) := by
  have hNot : (Written.stream e ws ++ List.replicate n 0).take 8 ≠ magic := by
    obtain ⟨t, text, rest, rfl⟩ := hFirst
    rw [Written.stream, List.flatMap_cons, List.append_assoc]
    exact not_magic
  have hSplit : splitFile (Written.stream e ws ++ List.replicate n 0) zephyr =
      .ok (none, zephyr, Written.stream e ws ++ List.replicate n 0) := by
    rw [splitFile, if_neg hNot, if_neg hZephyr]
  have hBuf : Written.stream e ws ++ List.replicate n 0 ++ padding =
      Written.stream e ws ++ List.replicate (n + 64) 0 := by
    rw [padding, List.append_assoc, List.replicate_append_replicate]
  rw [load_split hSplit hd.apart, loadBuffer_stream hd hw hBuf]

/-- A stream has its first id within what is left of it. -/
theorem four_le_trimmed (hFirst : ∃ t text rest, ws = .provenance t text :: rest) :
    4 ≤ (trimmed (Written.stream e ws)).length := by
  by_contra hShort
  have hZero : word 1 4 (Written.stream e ws) = 0 := by
    conv_lhs => rw [← trimmed_append (Written.stream e ws)]
    rw [word_append (by omega), word_zeros]
  obtain ⟨t, text, rest, rfl⟩ := hFirst
  rw [Written.stream, List.flatMap_cons, Written.pack, packProvenance, header, List.append_assoc,
    List.append_assoc, List.append_assoc, word_behind (by decide)] at hZero
  cases e <;> cases hZero

/-- Behind a header as raw: a file of the trimmed buffer loads as the buffer does. -/
theorem load_fileOf {v size emitted hbMs up : Nat} (hv : v < 2 ^ 32) (hSize : size < 2 ^ 32)
    (hEmitted : emitted < 2 ^ 32) (hHb : hbMs < 2 ^ 32) (hUp : up < 2 ^ 32)
    (hLen : (Written.stream e ws).length < 2 ^ 32)
    (hd : (u.tsdl (u.tsdlPath (versionText v))).Fits e)
    (hw : ∀ w ∈ ws, w.Fits (u.tsdl (u.tsdlPath (versionText v))) e)
    (hFirst : ∃ t text rest, ws = .provenance t text :: rest)
    (hTail : zerosBehind (Written.stream e ws) ≤ 64) :
    u.load (fileOf v size emitted hbMs up (trimmed (Written.stream e ws))) "" =
      .ok ((ws.foldl (Reading.next u (u.tsdl (u.tsdlPath (versionText v))) e) {}).loaded
        (some (Header.of v size emitted hbMs up (trimmed (Written.stream e ws)).length))
        (versionText v) none) := by
  have hKept : (trimmed (Written.stream e ws)).length < 2 ^ 32 :=
    Nat.lt_of_le_of_lt length_trimmed_le hLen
  have hSplit := splitFile_fileOf hv hSize hEmitted hHb hUp hKept (four_le_trimmed hFirst)
  have hBuf : trimmed (Written.stream e ws) ++ padding = Written.stream e ws ++
      List.replicate (64 - zerosBehind (Written.stream e ws)) 0 := by
    have hZeros : padding = List.replicate (zerosBehind (Written.stream e ws)) 0 ++
        List.replicate (64 - zerosBehind (Written.stream e ws)) 0 := by
      rw [padding, List.replicate_append_replicate, Nat.add_sub_cancel' hTail]
    rw [hZeros, ← List.append_assoc, trimmed_append]
  rw [load_split hSplit hd.apart, loadBuffer_stream hd hw hBuf]

/-- A raw read of a stream shows what was written. -/
theorem load_stream (hZephyr : zephyr ≠ "") (hd : (u.tsdl (u.tsdlPath zephyr)).Fits e)
    (hw : ∀ w ∈ ws, w.Fits (u.tsdl (u.tsdlPath zephyr)) e) (hPaced : Written.Paced ws)
    (hFirst : ∃ t text rest, ws = .provenance t text :: rest) (n : Nat) :
    ∃ l, u.load (Written.stream e ws ++ List.replicate n 0) zephyr = .ok l ∧ l.error = none ∧
      ReadBack u (u.tsdl (u.tsdlPath zephyr)) e ws l :=
  ⟨_, load_raw hZephyr hd hw hFirst n, rfl, (reading_after hPaced).loaded none zephyr none⟩

/-- The id of a record neither the island nor the metadata has. -/
structure Unknown (d : Tsdl) (e : EvId) (i : Nat) : Prop where
  pos : 0 < i
  lt : i < 256 ^ e.size
  island : i ≠ e.marker ∧ i ≠ e.heartbeat ∧ i ≠ e.provenance ∧ i ≠ e.trigger
  event : d.events i = none

/-- An id that no record has ends the reading. -/
theorem front_unknown (hd : d.Fits e) {i : Nat} (hi : Unknown d e i) (ts : U32) (s : Reading)
    (rest : List Byte) : Reading.front u d s (Trace.header e ts i ++ rest) =
      .fault (.unknown (unknownId i s.pos s.recs.length)) := by
  obtain ⟨hMarker, hHeartbeat, hProvenance, hTrigger⟩ :
      i ≠ e.base ∧ i ≠ e.base + 1 ∧ i ≠ e.base + 2 ∧ i ≠ e.base + 3 := hi.island
  have hLong : ¬ (Trace.header e ts i ++ rest).length < 4 + d.idSize := by
    rw [List.length_append, length_header, hd.idSize]
    omega
  have hBody : ∀ data, readBody u d i data = .unknown := by
    intro data
    rw [readBody, hd.base, if_neg hMarker, if_neg hHeartbeat, if_neg hProvenance, if_neg hTrigger,
      hi.event]
  rw [Reading.front, if_neg hLong, hd.idSize, word_header_id hi.lt, if_neg hi.pos.ne', hBody]

/-- An id in no table stops the decode where it stands: it is named, and what
was read before it is as it was written. -/
theorem load_unknown (hZephyr : zephyr ≠ "") (hd : (u.tsdl (u.tsdlPath zephyr)).Fits e)
    (hw : ∀ w ∈ ws, w.Fits (u.tsdl (u.tsdlPath zephyr)) e) (hPaced : Written.Paced ws)
    (hFirst : ∃ t text rest, ws = .provenance t text :: rest) {i : Nat}
    (hi : Unknown (u.tsdl (u.tsdlPath zephyr)) e i) (ts : U32) (rest : List Byte) :
    ∃ l, u.load (Written.stream e ws ++ (Trace.header e ts i ++ rest)) zephyr = .ok l ∧
      l.error = some (unknownId i (Written.stream e ws).length ws.length) ∧
      ReadBack u (u.tsdl (u.tsdlPath zephyr)) e ws l := by
  have hNot : (Written.stream e ws ++ (Trace.header e ts i ++ rest)).take 8 ≠ magic := by
    obtain ⟨t, text, rest, rfl⟩ := hFirst
    rw [Written.stream, List.flatMap_cons, List.append_assoc]
    exact not_magic
  have hSplit : splitFile (Written.stream e ws ++ (Trace.header e ts i ++ rest)) zephyr =
      .ok (none, zephyr, Written.stream e ws ++ (Trace.header e ts i ++ rest)) := by
    rw [splitFile, if_neg hNot, if_neg hZephyr]
  have hAfter := reading_after (u := u) (d := u.tsdl (u.tsdlPath zephyr)) (e := e) hPaced
  have hRead : Framing.read (Reading.front u (u.tsdl (u.tsdlPath zephyr))) {}
      (Written.stream e ws ++ (Trace.header e ts i ++ rest) ++ padding) =
      (ws.foldl (Reading.next u (u.tsdl (u.tsdlPath zephyr)) e) {},
        some (.unknown (unknownId i (Written.stream e ws).length ws.length))) := by
    rw [List.append_assoc, List.append_assoc, Written.stream,
      read_items front_advances fun w hMem s rest => front_pack hd (hw w hMem) s,
      read_fault front_advances (front_unknown hd hi ts _ _), hAfter.pos, hAfter.length,
      Written.stream]
  refine ⟨_, ?_, rfl, hAfter.loaded none zephyr _⟩
  rw [load_split hSplit hd.apart, loadBuffer, hRead]

/-- What `wrap` puts behind a header loads as the raw read does. -/
theorem load_wrapped {major minor emitted up hbMs : Nat} (hMajor : major < 2 ^ 16)
    (hMinor : minor < 2 ^ 8) (hEmitted : emitted < 2 ^ 32) (hHb : hbMs < 2 ^ 32) (hUp : up < 2 ^ 32)
    (hZephyr : zephyr = toString major ++ "." ++ toString minor)
    (hd : (u.tsdl (u.tsdlPath zephyr)).Fits e)
    (hw : ∀ w ∈ ws, w.Fits (u.tsdl (u.tsdlPath zephyr)) e)
    (hFirst : ∃ t text rest, ws = .provenance t text :: rest)
    (hTail : zerosBehind (Written.stream e ws) ≤ 64) {n : Nat}
    (hLen : (Written.stream e ws).length + n < 2 ^ 32) :
    ∃ file l,
      wrap (Written.stream e ws ++ List.replicate n 0) major minor emitted up hbMs = .ok file ∧
      u.load (Written.stream e ws ++ List.replicate n 0) zephyr = .ok l ∧
      u.load file "" = .ok { l with header := some (Header.of ((major <<< 16) ||| (minor <<< 8))
        ((Written.stream e ws).length + n) emitted hbMs up
        (trimmed (Written.stream e ws)).length) } := by
  have hVersion : (major <<< 16) ||| (minor <<< 8) < 2 ^ 32 := by
    apply Nat.or_lt_two_pow <;> rw [Nat.shiftLeft_eq] <;> omega
  have hText : versionText ((major <<< 16) ||| (minor <<< 8)) = zephyr := by
    rw [versionText_wrap major hMinor, hZephyr]
  have hGiven : zephyr ≠ "" := by
    rw [hZephyr]
    intro hNone
    have hChars := congrArg String.toList hNone
    simp at hChars
  have hSize : (Written.stream e ws ++ List.replicate n 0).length =
      (Written.stream e ws).length + n := by
    rw [List.length_append, List.length_replicate]
  have hKept : (trimmed (Written.stream e ws)).length ≤ (Written.stream e ws).length :=
    length_trimmed_le
  have hFile := load_fileOf (u := u) (e := e) hVersion hLen hEmitted hHb hUp
    (by omega) (by rwa [hText]) (by rwa [hText]) hFirst hTail
  rw [hText] at hFile
  refine ⟨_, _, ?_, load_raw hGiven hd hw hFirst n, hFile⟩
  have hFits : [(major <<< 16) ||| (minor <<< 8), (Written.stream e ws).length + n, emitted, hbMs,
      up, (trimmed (Written.stream e ws)).length].all (· < 2 ^ 32) = true := by
    simp only [List.all_cons, List.all_nil, Bool.and_true, Bool.and_eq_true, decide_eq_true_eq]
    omega
  rw [wrap, trimmed_zeros, hSize]
  exact if_pos hFits

/-- So does the dump of native_sim. -/
theorem load_dumped {kernelVersion hbSeq hbLastUptimeMs : U32}
    (hZephyr : versionText kernelVersion.toNat = zephyr)
    (hd : (u.tsdl (u.tsdlPath zephyr)).Fits e)
    (hw : ∀ w ∈ ws, w.Fits (u.tsdl (u.tsdlPath zephyr)) e)
    (hFirst : ∃ t text rest, ws = .provenance t text :: rest)
    (hTail : zerosBehind (Written.stream e ws) ≤ 64) {n : Nat}
    (hLen : (Written.stream e ws).length + n < 2 ^ 32) :
    ∃ l, u.load (Written.stream e ws ++ List.replicate n 0) zephyr = .ok l ∧
      u.load (dump kernelVersion (Written.stream e ws ++ List.replicate n 0) hbSeq hbLastUptimeMs)
        "" = .ok { l with header := some (Header.of kernelVersion.toNat
          ((Written.stream e ws).length + n) hbSeq.toNat 100 hbLastUptimeMs.toNat
          (trimmed (Written.stream e ws)).length) } := by
  have hGiven : zephyr ≠ "" := by
    rw [← hZephyr, versionText]
    intro hNone
    have hChars := congrArg String.toList hNone
    simp at hChars
  have hFile := load_fileOf (u := u) (e := e) kernelVersion.isLt hLen hbSeq.isLt
    (by decide : 100 < 2 ^ 32) hbLastUptimeMs.isLt (by omega) (by rwa [hZephyr]) (by rwa [hZephyr])
    hFirst hTail
  rw [hZephyr] at hFile
  refine ⟨_, load_raw hGiven hd hw hFirst n, ?_⟩
  rw [dump, trimmed_zeros, List.length_append, List.length_replicate]
  exact hFile

end Load

def threadSwitchedOut : Layout where
  name := "thread_switched_out"
  fields :=
    [{ name := "thread_id", type := "uint32_t", arr := none, size := 4 },
      { name := "name", type := "ctf_bounded_string_t", arr := some 20, size := 1 }]
  named := by decide
  distinct := by decide

/-- Its field `id` is the semaphore's address. -/
def semaphoreGive : Layout where
  name := "semaphore_give_enter"
  fields := [{ name := "id", type := "uint32_t", arr := none, size := 4 }]
  named := by decide
  distinct := by decide

/-- Metadata of a build with ids of two bytes that has two events of the kernel. -/
def sampleTsdl : Tsdl where
  idSize := 2
  events i :=
    if i = 0x10 then some threadSwitchedOut else if i = 0x21 then some semaphoreGive else none

def sampleSetup : Setup where
  names mk := if mk = 7 then some "MRM_HANDLER_CALL_MRM" else none
  store := "/zephyr"
  tsdl _ := sampleTsdl

/-- A provenance, and 8.6 s later a marker, a heartbeat, an event stamped before
it, and an event with an `id` of its own. -/
def sampleRecords : List Written :=
  [.provenance 5 ("island;window=trigger".toList.map fun c => BitVec.ofNat 8 c.toNat),
   .entry (.marker 8598000000 7 3), .entry (.heartbeat 8600000000 85 8600),
   .event 8599999000 0x10 [bytes 4 0x20001000, bytes 3 0x6E6970 ++ List.replicate 17 0],
   .event 8600001000 0x21 [bytes 4 0x20000A74]]

theorem sampleTsdl_fits : sampleTsdl.Fits .u16 := ⟨rfl, rfl⟩

theorem sampleRecords_fits : ∀ w ∈ sampleRecords, w.Fits sampleTsdl .u16 := by
  intro w hw
  rcases List.mem_cons.mp hw with rfl | hw
  · show List.length _ < 2 ^ 16
    rw [List.length_map]
    decide
  · rcases List.mem_cons.mp hw with rfl | hw
    · trivial
    · rcases List.mem_cons.mp hw with rfl | hw
      · trivial
      · rcases List.mem_cons.mp hw with rfl | hw
        · exact ⟨by decide, by decide, threadSwitchedOut, rfl, rfl⟩
        · rw [List.mem_singleton.mp hw]
          exact ⟨by decide, by decide, semaphoreGive, rfl, rfl⟩

theorem load_stream_window : ∃ l,
    sampleSetup.load (Written.stream .u16 sampleRecords ++ List.replicate 100 0) "4.4" = .ok l ∧
      l.error = none ∧ ReadBack sampleSetup sampleTsdl .u16 sampleRecords l :=
  load_stream (by decide) sampleTsdl_fits sampleRecords_fits (by decide +kernel)
    ⟨_, _, _, rfl⟩ 100

theorem load_wrapped_window : ∃ file l,
    wrap (Written.stream .u16 sampleRecords ++ List.replicate 100 0) 4 4 86 8600 100 = .ok file ∧
      sampleSetup.load (Written.stream .u16 sampleRecords ++ List.replicate 100 0) "4.4" = .ok l ∧
      ∃ header, sampleSetup.load file "" = .ok { l with header := some header } := by
  obtain ⟨file, l, hWrap, hRaw, hFile⟩ := @load_wrapped sampleSetup .u16 sampleRecords "4.4" 4 4 86
    8600 100 (by decide) (by decide) (by decide) (by decide) (by decide) (by decide)
    sampleTsdl_fits sampleRecords_fits ⟨_, _, _, rfl⟩ (by decide +kernel) 100 (by decide +kernel)
  exact ⟨file, l, hWrap, hRaw, _, hFile⟩

theorem load_unknown_window : ∃ l,
    sampleSetup.load (Written.stream .u16 sampleRecords ++ (header .u16 9 0x99 ++ [1, 2])) "4.4" =
        .ok l ∧
      l.error = some "unknown event id 0x99 at buffer offset 95 (after 5 records)" ∧
      ReadBack sampleSetup sampleTsdl .u16 sampleRecords l := by
  have hText : unknownId 0x99 (Written.stream .u16 sampleRecords).length sampleRecords.length =
      "unknown event id 0x99 at buffer offset 95 (after 5 records)" := by decide +kernel
  rw [← hText]
  exact load_unknown (by decide) sampleTsdl_fits sampleRecords_fits (by decide +kernel)
    ⟨_, _, _, rfl⟩ ⟨by decide, by decide, by decide, rfl⟩ 9 [1, 2]

end SafetyIsland.Trace
