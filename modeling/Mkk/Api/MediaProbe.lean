import Mkk.Api.Contract
import Mkk.Lib.Base64
import Mkk.Lib.Raises
import Mkk.Lib.Rounding
import Mkk.Lib.Tiling

/-!
# Reading the metadata of an MP4 file

`probe_mp4_media` walks the boxes of a file: each starts with its size in 32 bits, in 64 bits after it,
or zero for the rest of the range. Every operation that can raise is partial here, with Python's error.
Whatever the file, the probe returns or raises the error of `_mp4_error`, and the boxes of a range tile
it (`probe_contained`).
-/

namespace Mkk.Api

open Lib Lib.Base64

/-- The errors of Python's operations, beside the `RuntimeError` the module raises. -/
inductive ProbeError where
  | runtime (text : String)
  | structError
  | indexError
  | zeroDivision
  | overflow
  | emptyMax

/-- `_mp4_error`. -/
def mp4Error : ProbeError := .runtime "canonical lookbook media stream metadata is unavailable"

/-- `if not condition: raise _mp4_error()`. -/
def demand (condition : Bool) : Except ProbeError Unit :=
  if condition then .ok () else .error mp4Error

/-! ## Python's operations -/

/-- The number of these bytes, the most significant first. -/
def unsigned (bytes : Bytes) : ℕ := bytes.foldl (fun n b => n * 256 + b.toNat) 0

/-- `unpack_from` of a number of this many bytes. -/
def unpackFrom (width : ℕ) (payload : Bytes) (offset : ℕ) : Except ProbeError ℕ :=
  if offset + width ≤ payload.length then .ok (unsigned ((payload.drop offset).take width))
  else .error .structError

/-- `payload[offset]`. -/
def byteAt (payload : Bytes) (offset : ℕ) : Except ProbeError UInt8 :=
  match payload[offset]? with
  | some b => .ok b
  | none => .error .indexError

/-- `payload[start:stop]`. -/
def byteSlice (payload : Bytes) (start stop : ℕ) : Bytes := (payload.drop start).take (stop - start)

/-- `n / m`, which raises where the quotient is beyond the largest double. Python rounds the quotient to a
double; here it is exact, since whether the probe raises does not depend on the rounding. -/
def trueDivide (n m : ℕ) : Except ProbeError ℚ :=
  if m = 0 then .error .zeroDivision
  else if doubleLimit * m ≤ n then .error .overflow
  else .ok (n / m)

/-- `n // m`. -/
def floorDivide (n m : ℕ) : Except ProbeError ℕ :=
  if m = 0 then .error .zeroDivision else .ok (n / m)

/-- `max(items, key=key)`: the first of the largest ones. -/
def maxBy {α : Type} (key : α → ℤ) : List α → Except ProbeError α
  | [] => .error .emptyMax
  | a :: rest => .ok (rest.foldl (fun best item => if key best < key item then item else best) a)

/-! ## Boxes -/

/-- `_Mp4Box`. -/
structure Mp4Box where
  kind : Bytes
  payloadStart : ℕ
  stop : ℕ

def boxKind (name : String) : Bytes := name.toList.map fun c => UInt8.ofNat c.toNat

section
variable (payload : Bytes)

/-- The size of the box at an offset, and of its header. -/
def boxSize (offset stop : ℕ) : Except ProbeError (ℕ × ℕ) := do
  demand (offset + 8 ≤ stop)
  let size ← unpackFrom 4 payload offset
  if size = 1 then
    demand (offset + 16 ≤ stop)
    let size ← unpackFrom 8 payload (offset + 8)
    return (size, 16)
  else if size = 0 then return (stop - offset, 8)
  else return (size, 8)

variable {payload} in
/-- The header of a box is of one of two sizes. -/
theorem boxSize_header {offset stop size headerSize : ℕ}
    (h : boxSize payload offset stop = .ok (size, headerSize)) :
    headerSize = 8 ∨ headerSize = 16 := by
  unfold boxSize at h
  obtain ⟨_, -, h⟩ := bind_eq_ok_iff.1 h
  obtain ⟨first, -, h⟩ := bind_eq_ok_iff.1 h
  split_ifs at h
  · obtain ⟨_, -, h⟩ := bind_eq_ok_iff.1 h
    obtain ⟨_, -, h⟩ := bind_eq_ok_iff.1 h
    cases h
    exact .inr rfl
  · cases h
    exact .inl rfl
  · cases h
    exact .inl rfl

/-- `_mp4_boxes`. -/
def mp4Boxes (offset stop : ℕ) : Except ProbeError (List Mp4Box) :=
  if offset < stop then
    match _read : boxSize payload offset stop with
    | .error e => .error e
    | .ok (size, headerSize) =>
      let boxEnd := offset + size
      if _legal : headerSize ≤ size ∧ boxEnd ≤ stop then do
        let boxes ← mp4Boxes boxEnd stop
        return { kind := byteSlice payload (offset + 4) (offset + 8), payloadStart := offset + headerSize,
                 stop := boxEnd } :: boxes
      else .error mp4Error
  else do
    demand (offset == stop)
    return []
termination_by stop - offset
decreasing_by
  have header := boxSize_header _read
  omega

/-- `_mp4_child`. -/
def mp4Child (parent : Mp4Box) (kind : String) : Except ProbeError (Option Mp4Box) := do
  let boxes ← mp4Boxes payload parent.payloadStart parent.stop
  return boxes.find? (·.kind == boxKind kind)

/-- `_mp4_children`. -/
def mp4Children (parent : Mp4Box) (kind : String) : Except ProbeError (List Mp4Box) := do
  let boxes ← mp4Boxes payload parent.payloadStart parent.stop
  return boxes.filter (·.kind == boxKind kind)

/-! ## Fields -/

/-- `_u32` and `_u64`, by their width. -/
def readUnsigned (width offset stop : ℕ) : Except ProbeError ℕ := do
  demand (offset + width ≤ stop)
  unpackFrom width payload offset

/-- `_u32`. -/
def u32 (offset stop : ℕ) : Except ProbeError ℕ := readUnsigned payload 4 offset stop

/-- `_u64`. -/
def u64 (offset stop : ℕ) : Except ProbeError ℕ := readUnsigned payload 8 offset stop

/-- The time scale and duration, where the version puts them. -/
def durationFields (box : Mp4Box) (version : UInt8) : Except ProbeError (ℕ × ℕ) :=
  if version = 0 then do
    let timeScale ← u32 payload (box.payloadStart + 12) box.stop
    let duration ← u32 payload (box.payloadStart + 16) box.stop
    return (timeScale, duration)
  else if version = 1 then do
    let timeScale ← u32 payload (box.payloadStart + 20) box.stop
    let duration ← u64 payload (box.payloadStart + 24) box.stop
    return (timeScale, duration)
  else .error mp4Error

/-- The time scale and duration of a header box, which `mvhd` and `mdhd` write alike. -/
def headerDuration (box : Mp4Box) : Except ProbeError (ℕ × ℕ) := do
  demand (box.payloadStart < box.stop)
  let version ← byteAt payload box.payloadStart
  let (timeScale, duration) ← durationFields payload box version
  demand (0 < timeScale && 0 < duration)
  return (timeScale, duration)

/-- `_duration_from_mvhd`. -/
def durationFromMvhd (box : Mp4Box) : Except ProbeError (ℕ × ℕ) := headerDuration payload box

/-- `_duration_from_mdhd`. -/
def durationFromMdhd (box : Mp4Box) : Except ProbeError (ℕ × ℕ) := headerDuration payload box

/-- The offsets of the width and the height, where the version puts them. -/
def dimensionOffsets (box : Mp4Box) (version : UInt8) : Except ProbeError (ℕ × ℕ) :=
  if version = 0 then .ok (box.payloadStart + 76, box.payloadStart + 80)
  else if version = 1 then .ok (box.payloadStart + 88, box.payloadStart + 92)
  else .error mp4Error

/-- `_video_dimensions_from_tkhd`. -/
def videoDimensionsFromTkhd (box : Mp4Box) : Except ProbeError (ℤ × ℤ) := do
  demand (box.payloadStart < box.stop)
  let version ← byteAt payload box.payloadStart
  let (widthOffset, heightOffset) ← dimensionOffsets box version
  let width ← u32 payload widthOffset box.stop
  let width ← trueDivide width 65536
  let height ← u32 payload heightOffset box.stop
  let height ← trueDivide height 65536
  demand (0 < width && 0 < height)
  return (roundHalfEven width, roundHalfEven height)

/-- `_is_video_handler`. -/
def isVideoHandler (box : Mp4Box) : Bool :=
  decide (box.payloadStart + 12 ≤ box.stop) &&
    byteSlice payload (box.payloadStart + 8) (box.payloadStart + 12) == boxKind "vide"

/-- The loop of `_fps_from_stts` over the entries left. -/
def sttsTotals (stop : ℕ) : ℕ → ℕ → ℕ → ℕ → Except ProbeError (ℕ × ℕ)
  | 0, _, totalSamples, totalTicks => .ok (totalSamples, totalTicks)
  | entries + 1, offset, totalSamples, totalTicks => do
    let sampleCount ← u32 payload offset stop
    let sampleDelta ← u32 payload (offset + 4) stop
    demand (0 < sampleCount && 0 < sampleDelta)
    sttsTotals stop entries (offset + 8) (totalSamples + sampleCount)
      (totalTicks + sampleCount * sampleDelta)

/-- `_fps_from_stts`. -/
def fpsFromStts (box : Mp4Box) (timeScale : ℕ) : Except ProbeError ℚ := do
  let entryCount ← u32 payload (box.payloadStart + 4) box.stop
  let (totalSamples, totalTicks) ← sttsTotals payload box.stop entryCount (box.payloadStart + 8) 0 0
  demand (0 < totalSamples && 0 < totalTicks && 0 < timeScale)
  trueDivide (totalSamples * timeScale) totalTicks

/-! ## The probe -/

/-- What the probe keeps of a video track. -/
structure Candidate where
  width : ℤ
  height : ℤ
  durationMs : ℕ
  fps : ℚ

/-- `MediaProbeV2`. -/
structure MediaProbe where
  durationMs : ℤ
  widthPx : ℤ
  heightPx : ℤ
  fps : ℚ

/-- A child of a box that may be missing. -/
def childOf (parent : Option Mp4Box) (kind : String) : Except ProbeError (Option Mp4Box) :=
  match parent with
  | some parent => mp4Child payload parent kind
  | none => .ok none

/-- The loop body of `probe_mp4_media`: nothing for a track that is passed over. -/
def trackCandidate (track : Mp4Box) : Except ProbeError (Option Candidate) := do
  let tkhd ← mp4Child payload track "tkhd"
  let mdia ← mp4Child payload track "mdia"
  match tkhd, mdia with
  | some tkhd, some mdia => do
    let hdlr ← mp4Child payload mdia "hdlr"
    let mdhd ← mp4Child payload mdia "mdhd"
    let minf ← mp4Child payload mdia "minf"
    let stbl ← childOf payload minf "stbl"
    let stts ← childOf payload stbl "stts"
    match hdlr, mdhd, stts with
    | some hdlr, some mdhd, some stts =>
      if isVideoHandler payload hdlr then do
        let (width, height) ← videoDimensionsFromTkhd payload tkhd
        let (timeScale, duration) ← durationFromMdhd payload mdhd
        let fps ← fpsFromStts payload stts timeScale
        let durationMs ← floorDivide (duration * 1000) timeScale
        return some { width, height, durationMs, fps }
      else return none
    | _, _, _ => return none
  | _, _ => return none

/-- The candidates of the tracks, in order. -/
def trackCandidates : List Mp4Box → Except ProbeError (List Candidate)
  | [] => .ok []
  | track :: rest => do
    let candidate ← trackCandidate payload track
    let candidates ← trackCandidates rest
    return candidate.toList ++ candidates

end

/-- `probe_mp4_media`, by the content of the file, none if it cannot be read. -/
def probeMp4Media (content : Option Bytes) : Except ProbeError MediaProbe := do
  let payload ← match content with
    | some payload => .ok payload
    | none => .error mp4Error
  let roots ← mp4Boxes payload 0 payload.length
  match roots.find? (·.kind == boxKind "moov") with
  | none => .error mp4Error
  | some moov => do
    let mvhd ← mp4Child payload moov "mvhd"
    match mvhd with
    | none => .error mp4Error
    | some mvhd => do
      let (timeScale, duration) ← durationFromMvhd payload mvhd
      let tracks ← mp4Children payload moov "trak"
      let candidates ← trackCandidates payload tracks
      demand (!candidates.isEmpty)
      let largest ← maxBy (fun item => item.width * item.height) candidates
      let durationMs ← trueDivide (duration * 1000) timeScale
      return { durationMs := roundHalfEven durationMs, widthPx := largest.width,
               heightPx := largest.height, fps := largest.fps }

/-! ## Tiling -/

section
variable {payload : Bytes} {offset stop width n m : ℕ} {box : Mp4Box} {boxes : List Mp4Box}

/-- A box of the file that takes up this range. -/
structure IsBox (payload : Bytes) (span : ℕ × ℕ) (box : Mp4Box) : Prop where
  kind : box.kind = byteSlice payload (span.1 + 4) (span.1 + 8)
  starts : box.payloadStart = span.1 + 8 ∨ box.payloadStart = span.1 + 16
  ends : box.stop = span.2
  order : box.payloadStart ≤ box.stop

theorem mp4Boxes_tiles (h : mp4Boxes payload offset stop = .ok boxes) :
    ∃ spans, Tiles stop offset spans ∧ List.Forall₂ (IsBox payload) spans boxes := by
  fun_induction mp4Boxes payload offset stop generalizing boxes with
  | case1 offset starts e read => cases h
  | case2 offset starts size headerSize read boxEnd legal =>
    rename_i ih
    obtain ⟨later, rest, h⟩ := bind_eq_ok_iff.1 h
    obtain ⟨spans, tiles, match_⟩ := ih rest
    cases h
    have header := boxSize_header read
    refine ⟨(offset, boxEnd) :: spans, ⟨rfl, ?_, tiles⟩, .cons ⟨rfl, ?_, rfl, ?_⟩ match_⟩
    · show offset < offset + size
      omega
    · rcases header with rfl | rfl
      · exact .inl rfl
      · exact .inr rfl
    · exact Nat.add_le_add_left legal.1 offset
  | case3 offset starts size headerSize read boxEnd => cases h
  | case4 offset done =>
    obtain ⟨_, ends, h⟩ := bind_eq_ok_iff.1 h
    cases h
    unfold demand at ends
    split_ifs at ends with same
    exact ⟨[], beq_iff_eq.1 same, .nil⟩

/-- A box of a range of the file lies in the file. -/
structure Mp4Box.Inside (box : Mp4Box) (payload : Bytes) : Prop where
  order : box.payloadStart ≤ box.stop
  within : box.stop ≤ payload.length

theorem inside_of_mem (h : mp4Boxes payload offset stop = .ok boxes) (within : stop ≤ payload.length)
    (member : box ∈ boxes) : box.Inside payload := by
  obtain ⟨spans, tiles, boxed⟩ := mp4Boxes_tiles h
  obtain ⟨k, bound, rfl⟩ := List.mem_iff_getElem.1 member
  have bound' : k < spans.length := boxed.length_eq ▸ bound
  have isBox := (List.forall₂_iff_get.1 boxed).2 k bound' bound
  refine ⟨isBox.order, isBox.ends.le.trans ((tiles.le_high (List.getElem_mem bound')).trans within)⟩

/-! ## Only one error -/

/-- The computation raises at most the error of `_mp4_error`. -/
def Contained {α : Type} (x : Except ProbeError α) : Prop := RaisesOnly (· = mp4Error) x

theorem contained_ok {α : Type} {a : α} : Contained (.ok a) := raisesOnly_ok

theorem contained_mp4Error {α : Type} : Contained (.error mp4Error : Except ProbeError α) :=
  raisesOnly_error_iff.2 rfl

theorem contained_demand {condition : Bool} : Contained (demand condition) := by
  unfold demand
  split
  · exact contained_ok
  · exact contained_mp4Error

theorem demand_eq_ok_iff {condition : Bool} {u : Unit} :
    demand condition = .ok u ↔ condition = true := by
  unfold demand
  split <;> simp_all

theorem contained_unpackFrom (inside : offset + width ≤ payload.length) :
    Contained (unpackFrom width payload offset) := by
  rw [unpackFrom, if_pos inside]
  exact contained_ok

theorem contained_byteAt (inside : offset < payload.length) : Contained (byteAt payload offset) := by
  rw [byteAt, List.getElem?_eq_getElem inside]
  exact contained_ok

theorem contained_trueDivide (positive : 0 < m) (small : n < doubleLimit * m) :
    Contained (trueDivide n m) := by
  rw [trueDivide, if_neg positive.ne', if_neg (not_le.2 small)]
  exact contained_ok

theorem contained_floorDivide (positive : 0 < m) : Contained (floorDivide n m) := by
  rw [floorDivide, if_neg positive.ne']
  exact contained_ok

theorem contained_maxBy {α : Type} {key : α → ℤ} {items : List α} (some_item : items ≠ []) :
    Contained (maxBy key items) := by
  cases items with
  | nil => exact absurd rfl some_item
  | cons a rest => exact contained_ok

/-- The bytes of a number bound it. -/
theorem unsigned_lt (bytes : Bytes) : unsigned bytes < 256 ^ bytes.length := by
  induction bytes using List.reverseRecOn with
  | nil => exact Nat.one_pos
  | append_singleton bytes b ih =>
    rw [unsigned, List.foldl_concat, List.length_append, List.length_singleton, pow_succ]
    have byte : b.toNat < 256 := b.toNat_lt
    change unsigned bytes * 256 + b.toNat < _
    omega

theorem contained_readUnsigned (within : stop ≤ payload.length) :
    Contained (readUnsigned payload width offset stop) := by
  refine contained_demand.bind fun u fits => ?_
  exact contained_unpackFrom ((of_decide_eq_true (demand_eq_ok_iff.1 fits)).trans within)

theorem readUnsigned_lt (h : readUnsigned payload width offset stop = .ok n) : n < 256 ^ width := by
  obtain ⟨_, -, h⟩ := bind_eq_ok_iff.1 h
  unfold unpackFrom at h
  split_ifs at h
  cases h
  exact (unsigned_lt _).trans_le (Nat.pow_le_pow_right (by decide) (List.length_take_le _ _))

theorem contained_boxSize (within : stop ≤ payload.length) : Contained (boxSize payload offset stop) := by
  refine contained_demand.bind fun u fits => ?_
  have fits := of_decide_eq_true (demand_eq_ok_iff.1 fits)
  refine (contained_unpackFrom (by omega)).bind fun size _ => ?_
  split_ifs
  · refine contained_demand.bind fun u extended => ?_
    have extended := of_decide_eq_true (demand_eq_ok_iff.1 extended)
    exact (contained_unpackFrom (by omega)).bind fun size _ => contained_ok
  · exact contained_ok
  · exact contained_ok

theorem contained_mp4Boxes (within : stop ≤ payload.length) : Contained (mp4Boxes payload offset stop) := by
  fun_induction mp4Boxes payload offset stop with
  | case1 offset starts e read =>
    rw [contained_boxSize within e read]
    exact contained_mp4Error
  | case2 offset starts size headerSize read boxEnd legal =>
    rename_i ih
    exact ih.bind fun boxes _ => contained_ok
  | case3 offset starts size headerSize read boxEnd => exact contained_mp4Error
  | case4 offset done => exact contained_demand.bind fun _ _ => contained_ok

/-! ## The fields -/

variable {parent : Mp4Box} {kind : String}

theorem contained_mp4Child (h : parent.Inside payload) : Contained (mp4Child payload parent kind) :=
  (contained_mp4Boxes h.within).bind fun _ _ => contained_ok

theorem inside_mp4Child (h : parent.Inside payload) (found : mp4Child payload parent kind = .ok (some box)) :
    box.Inside payload := by
  obtain ⟨boxes, read, found⟩ := bind_eq_ok_iff.1 found
  have found : boxes.find? (·.kind == boxKind kind) = some box := Except.ok.inj found
  exact inside_of_mem read h.within (List.mem_of_find?_eq_some found)

theorem contained_childOf {parent : Option Mp4Box} (h : ∀ b, parent = some b → b.Inside payload) :
    Contained (childOf payload parent kind) := by
  cases parent with
  | none => exact contained_ok
  | some b => exact contained_mp4Child (h b rfl)

theorem inside_childOf {parent : Option Mp4Box} (h : ∀ b, parent = some b → b.Inside payload)
    (found : childOf payload parent kind = .ok (some box)) : box.Inside payload := by
  cases parent with
  | none => cases found
  | some b => exact inside_mp4Child (h b rfl) found

theorem contained_durationFields (h : box.Inside payload) (version : UInt8) :
    Contained (durationFields payload box version) := by
  have field {width offset : ℕ} : Contained (readUnsigned payload width offset box.stop) :=
    contained_readUnsigned h.within
  unfold durationFields
  split_ifs
  · exact field.bind fun timeScale _ => field.bind fun duration _ => contained_ok
  · exact field.bind fun timeScale _ => field.bind fun duration _ => contained_ok
  · exact contained_mp4Error

theorem contained_headerDuration (h : box.Inside payload) : Contained (headerDuration payload box) := by
  refine contained_demand.bind fun u some_byte => ?_
  have some_byte := of_decide_eq_true (demand_eq_ok_iff.1 some_byte)
  refine (contained_byteAt (some_byte.trans_le h.within)).bind fun version _ => ?_
  refine (contained_durationFields h version).bind fun fields _ => ?_
  exact contained_demand.bind fun _ _ => contained_ok

theorem headerDuration_bounds {timeScale duration : ℕ}
    (h : headerDuration payload box = .ok (timeScale, duration)) :
    0 < timeScale ∧ timeScale < 2 ^ 32 ∧ duration < 2 ^ 64 := by
  obtain ⟨_, -, h⟩ := bind_eq_ok_iff.1 h
  obtain ⟨version, -, h⟩ := bind_eq_ok_iff.1 h
  obtain ⟨⟨scale, length⟩, fields, h⟩ := bind_eq_ok_iff.1 h
  obtain ⟨_, positive, h⟩ := bind_eq_ok_iff.1 h
  cases h
  have positive := (Bool.and_eq_true_iff.1 (demand_eq_ok_iff.1 positive)).1
  refine ⟨of_decide_eq_true positive, ?_⟩
  unfold durationFields at fields
  split_ifs at fields
  · obtain ⟨first, readFirst, fields⟩ := bind_eq_ok_iff.1 fields
    obtain ⟨second, readSecond, fields⟩ := bind_eq_ok_iff.1 fields
    cases fields
    exact ⟨readUnsigned_lt readFirst, (readUnsigned_lt readSecond).trans (by decide)⟩
  · obtain ⟨first, readFirst, fields⟩ := bind_eq_ok_iff.1 fields
    obtain ⟨second, readSecond, fields⟩ := bind_eq_ok_iff.1 fields
    cases fields
    exact ⟨readUnsigned_lt readFirst, readUnsigned_lt readSecond⟩

theorem word_lt_doubleLimit : 2 ^ 32 < doubleLimit :=
  (Nat.pow_lt_pow_right (by decide) (by decide)).trans pow_lt_doubleLimit

theorem contained_videoDimensionsFromTkhd (h : box.Inside payload) :
    Contained (videoDimensionsFromTkhd payload box) := by
  refine contained_demand.bind fun u some_byte => ?_
  have some_byte := of_decide_eq_true (demand_eq_ok_iff.1 some_byte)
  refine (contained_byteAt (some_byte.trans_le h.within)).bind fun version _ => ?_
  have scaled {n offset : ℕ} (read : u32 payload offset box.stop = .ok n) :
      Contained (trueDivide n 65536) := by
    have positive : 0 < 65536 := Nat.succ_pos _
    refine contained_trueDivide positive ?_
    calc n < 2 ^ 32 := readUnsigned_lt read
      _ < doubleLimit := word_lt_doubleLimit
      _ ≤ doubleLimit * 65536 := Nat.le_mul_of_pos_right _ positive
  have offsets : Contained (dimensionOffsets box version) := by
    unfold dimensionOffsets
    split_ifs
    · exact contained_ok
    · exact contained_ok
    · exact contained_mp4Error
  refine offsets.bind fun offsets _ => ?_
  refine (contained_readUnsigned h.within).bind fun width readWidth => ?_
  refine (scaled readWidth).bind fun width _ => ?_
  refine (contained_readUnsigned h.within).bind fun height readHeight => ?_
  refine (scaled readHeight).bind fun height _ => ?_
  exact contained_demand.bind fun _ _ => contained_ok

/-- Whatever number of entries the table claims to have, the loop ends in the file. -/
theorem contained_sttsTotals (within : stop ≤ payload.length) (entries offset samples ticks : ℕ) :
    Contained (sttsTotals payload stop entries offset samples ticks) := by
  induction entries generalizing offset samples ticks with
  | zero => exact contained_ok
  | succ entries ih =>
    refine (contained_readUnsigned within).bind fun sampleCount _ => ?_
    refine (contained_readUnsigned within).bind fun sampleDelta _ => ?_
    exact contained_demand.bind fun _ _ => ih _ _ _

/-- Every sample takes a tick at least. -/
theorem sttsTotals_le {entries offset samples ticks totalSamples totalTicks : ℕ} (le : samples ≤ ticks)
    (h : sttsTotals payload stop entries offset samples ticks = .ok (totalSamples, totalTicks)) :
    totalSamples ≤ totalTicks := by
  induction entries generalizing offset samples ticks with
  | zero =>
    cases h
    exact le
  | succ entries ih =>
    obtain ⟨sampleCount, -, h⟩ := bind_eq_ok_iff.1 h
    obtain ⟨sampleDelta, -, h⟩ := bind_eq_ok_iff.1 h
    obtain ⟨_, positive, h⟩ := bind_eq_ok_iff.1 h
    have positive := (Bool.and_eq_true_iff.1 (demand_eq_ok_iff.1 positive)).2
    have more : sampleCount ≤ sampleCount * sampleDelta :=
      Nat.le_mul_of_pos_right _ (of_decide_eq_true positive)
    exact ih (Nat.add_le_add le more) h

theorem contained_fpsFromStts (h : box.Inside payload) {timeScale : ℕ} (small : timeScale < 2 ^ 32) :
    Contained (fpsFromStts payload box timeScale) := by
  refine (contained_readUnsigned h.within).bind fun entryCount _ => ?_
  refine (contained_sttsTotals h.within _ _ _ _).bind fun totals read => ?_
  obtain ⟨totalSamples, totalTicks⟩ := totals
  refine contained_demand.bind fun u positive => ?_
  have positive := demand_eq_ok_iff.1 positive
  rw [Bool.and_eq_true, Bool.and_eq_true, decide_eq_true_eq, decide_eq_true_eq] at positive
  refine contained_trueDivide positive.1.2 ?_
  have limit : timeScale < doubleLimit := small.trans word_lt_doubleLimit
  calc totalSamples * timeScale ≤ totalTicks * timeScale :=
        Nat.mul_le_mul_right _ (sttsTotals_le le_rfl read)
    _ < totalTicks * doubleLimit := Nat.mul_lt_mul_of_pos_left limit positive.1.2
    _ = doubleLimit * totalTicks := Nat.mul_comm _ _

/-! ## The probe -/

theorem contained_trackCandidate (h : box.Inside payload) : Contained (trackCandidate payload box) := by
  refine (contained_mp4Child h).bind fun tkhd readTkhd => ?_
  refine (contained_mp4Child h).bind fun mdia readMdia => ?_
  cases tkhd with
  | none => exact contained_ok
  | some tkhd =>
    cases mdia with
    | none => exact contained_ok
    | some mdia =>
      have media := inside_mp4Child h readMdia
      refine (contained_mp4Child media).bind fun hdlr _ => ?_
      refine (contained_mp4Child media).bind fun mdhd readMdhd => ?_
      refine (contained_mp4Child media).bind fun minf readMinf => ?_
      have information : ∀ b, minf = some b → b.Inside payload := by
        rintro b rfl
        exact inside_mp4Child media readMinf
      refine (contained_childOf information).bind fun stbl readStbl => ?_
      have table : ∀ b, stbl = some b → b.Inside payload := by
        rintro b rfl
        exact inside_childOf information readStbl
      refine (contained_childOf table).bind fun stts readStts => ?_
      split
      next hdlr mdhd stts =>
        split_ifs
        · refine (contained_videoDimensionsFromTkhd (inside_mp4Child h readTkhd)).bind fun size _ => ?_
          refine (contained_headerDuration (inside_mp4Child media readMdhd)).bind fun scale readScale => ?_
          obtain ⟨positive, small, -⟩ := headerDuration_bounds readScale
          refine (contained_fpsFromStts (inside_childOf table readStts) small).bind fun fps _ => ?_
          exact (contained_floorDivide positive).bind fun _ _ => contained_ok
        · exact contained_ok
      next => exact contained_ok

theorem contained_trackCandidates {tracks : List Mp4Box} (h : ∀ track ∈ tracks, track.Inside payload) :
    Contained (trackCandidates payload tracks) := by
  induction tracks with
  | nil => exact contained_ok
  | cons track rest ih =>
    refine (contained_trackCandidate (h track List.mem_cons_self)).bind fun candidate _ => ?_
    refine (ih fun t member => h t (List.mem_cons_of_mem _ member)).bind fun candidates _ => ?_
    exact contained_ok

theorem contained_probeMp4Media (content : Option Bytes) : Contained (probeMp4Media content) := by
  cases content with
  | none => exact contained_mp4Error
  | some payload =>
    refine (contained_mp4Boxes le_rfl).bind fun roots readRoots => ?_
    split
    · exact contained_mp4Error
    next moov found =>
      have movie := inside_of_mem readRoots le_rfl (List.mem_of_find?_eq_some found)
      refine (contained_mp4Child movie).bind fun mvhd readMvhd => ?_
      cases mvhd with
      | none => exact contained_mp4Error
      | some mvhd =>
        refine (contained_headerDuration (inside_mp4Child movie readMvhd)).bind fun scale readScale => ?_
        obtain ⟨positive, -, short⟩ := headerDuration_bounds readScale
        refine RaisesOnly.bind ((contained_mp4Boxes movie.within).bind fun _ _ => contained_ok)
          fun tracks readTracks => ?_
        obtain ⟨boxes, readBoxes, kept⟩ := bind_eq_ok_iff.1 readTracks
        cases kept
        refine (contained_trackCandidates fun track member =>
          inside_of_mem readBoxes movie.within (List.mem_of_mem_filter member)).bind fun candidates _ => ?_
        refine contained_demand.bind fun u some_candidate => ?_
        have some_candidate : candidates ≠ [] := by
          rintro rfl
          exact absurd (demand_eq_ok_iff.1 some_candidate) nofun
        refine (contained_maxBy some_candidate).bind fun largest _ => ?_
        refine (contained_trueDivide positive ?_).bind fun durationMs _ => contained_ok
        have limit := pow_lt_doubleLimit
        calc scale.2 * 1000 < 2 ^ 100 := by omega
          _ < doubleLimit := limit
          _ ≤ doubleLimit * scale.1 := Nat.le_mul_of_pos_right _ positive

/-- **The probe is contained, and boxes tile their range.** On every file the probe ends, with a result or
the error of `_mp4_error`; no operation leaves the file, divides by zero or overflows. Where the boxes of
a range can be read they take it up without gap or overlap, in order, each with its header and payload
inside its own part. -/
theorem probe_contained :
    (∀ content e, probeMp4Media content = .error e → e = mp4Error) ∧
    ∀ payload start stop boxes, mp4Boxes payload start stop = .ok boxes →
      ∃ spans : List (ℕ × ℕ), Tiles stop start spans ∧ List.Forall₂ (IsBox payload) spans boxes ∧
        (∀ span ∈ spans, start ≤ span.1 ∧ span.2 ≤ stop) ∧
        ∀ x, start ≤ x → x < stop → ∃! k : ℕ, ∃ span : ℕ × ℕ, spans[k]? = some span ∧
          span.1 ≤ x ∧ x < span.2 := by
  refine ⟨contained_probeMp4Media, fun payload start stop boxes read => ?_⟩
  obtain ⟨spans, tiles, boxed⟩ := mp4Boxes_tiles read
  exact ⟨spans, tiles, boxed, fun span member => ⟨tiles.low_le member, tiles.le_high member⟩,
    fun x reached below => tiles.existsUnique reached below⟩

end

/-! ## A small file -/

/-- A number of 32 bits. -/
def word32 (n : ℕ) : Bytes :=
  [n / 16777216, n / 65536 % 256, n / 256 % 256, n % 256].map UInt8.ofNat

/-- A box with its size in 32 bits. -/
def boxOf (kind : String) (content : Bytes) : Bytes :=
  word32 (8 + content.length) ++ boxKind kind ++ content

/-- A header of version 0 with its time scale and duration. -/
def headerBox (kind : String) (timeScale duration : ℕ) : Bytes :=
  boxOf kind (List.replicate 12 0 ++ word32 timeScale ++ word32 duration)

/-- A track of `1920` by `1080` pixels with 60 samples of 1000 ticks. -/
def trackBox (handler : String) : Bytes :=
  boxOf "trak" (
    boxOf "tkhd" (List.replicate 76 0 ++ word32 (1920 * 65536) ++ word32 (1080 * 65536)) ++
    boxOf "mdia" (
      headerBox "mdhd" 30000 60000 ++
      boxOf "hdlr" (List.replicate 8 0 ++ boxKind handler) ++
      boxOf "minf" (boxOf "stbl" (boxOf "stts"
        (word32 0 ++ word32 1 ++ word32 60 ++ word32 1000)))))

/-- Two seconds with a sound and a video track. -/
example : (probeMp4Media (some (boxOf "moov" (headerBox "mvhd" 1000 2000 ++ trackBox "soun" ++
    trackBox "vide")))).toOption.map (fun m => (m.durationMs, m.widthPx, m.heightPx, m.fps)) =
      some (2000, 1920, 1080, 30) := by decide +kernel

end Mkk.Api
