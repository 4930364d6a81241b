import Sensorium.Camera.Conversion
import Sensorium.Lib.Raster

/-!
# The Bayer samples of an RGB frame

The conversion in the kernel walks over pairs of pixels with the strides and offsets of the layout
and looks each byte up in a table.  The reference samples pixel by pixel: red and green in the even
rows, green and blue in the odd ones.  The tool `rgb24-to-rggb10` does the same in user space.
-/

namespace Sensorium.Camera

open Lib

/-! ## The conversion -/

/-- `sample_lut`. -/
def sampleLut (i : UInt8) : UInt16 := UInt16.ofNat ((i.toNat * 1023 + 127) / 255)

/-- `sensorium_convert_rgb_to_rggb10`: the samples that are in `out` afterwards. -/
def convertRgbToRggb10 (mode : Mode) (layout : Layout) (src : Nat → UInt8) (out : Nat → UInt16) :
    Nat → UInt16 :=
  writeAll ((convertSamples mode layout).map fun p => (p.2, sampleLut (src p.1))) out

/-! ## The tool -/

/-- `toRaw10`. -/
def toRaw10 (sample : UInt8) (shift : Nat) : UInt16 :=
  UInt16.ofNat (((sample.toNat * 1023 + 127) / 255) <<< shift)

/-- The body of the loops of `main` for the pixel at row `y` and column `x`. -/
def rawPixel (width shift : Nat) (rgbFrame : Nat → UInt8) (y x : Nat) : Nat × UInt16 :=
  let rgbIndex := (y * width + x) * 3
  let r := rgbFrame rgbIndex
  let g := rgbFrame (rgbIndex + 1)
  let b := rgbFrame (rgbIndex + 2)
  let sample :=
    if y % 2 = 0 then if x % 2 = 0 then r else g
    else if x % 2 = 0 then g else b
  (y * width + x, toRaw10 sample shift)

/-- What `main` of `rgb24-to-rggb10` makes of a frame. -/
def rgb24ToRggb10 (width height shift : Nat) (rgbFrame : Nat → UInt8) (rawFrame : Nat → UInt16) :
    Nat → UInt16 :=
  writeAll ((List.range height).flatMap fun y =>
    (List.range width).map fun x => rawPixel width shift rgbFrame y x) rawFrame

/-! ## The reference -/

inductive Channel
  | red | green | blue
deriving DecidableEq

/-- The colour of the filter before the sample at row `y` and column `x`. -/
def bayerChannel (y x : Nat) : Channel :=
  if y % 2 = 0 then if x % 2 = 0 then .red else .green
  else if x % 2 = 0 then .green else .blue

/-- The formats that are converted, with the bytes of a pixel in memory. -/
def packedFormats : List PixelFormat := [.bgr32, .rgb32, .bgr24, .rgb24]

def bytesPerPixel : PixelFormat → Nat
  | .bgr32 | .rgb32 => 4
  | .bgr24 | .rgb24 => 3
  | .srggb10 | .other _ => 2

/-- Blue, green and red, or red, green and blue. -/
def channelOffset : PixelFormat → Channel → Nat
  | .bgr32, .red | .bgr24, .red => 2
  | .rgb32, .blue | .rgb24, .blue => 2
  | .bgr32, .green | .bgr24, .green | .rgb32, .green | .rgb24, .green => 1
  | _, _ => 0

/-- The byte of a frame that the sample at row `y` and column `x` is made from. -/
def sampledByte (format : PixelFormat) (width y x : Nat) : Nat :=
  (y * width + x) * bytesPerPixel format + channelOffset format (bayerChannel y x)

/-- From 8 to 10 bits. -/
def scaled (v : UInt8) : Nat := (v.toNat * 1023 + 127) / 255

/-- The row offsets of the source are 32 bit numbers. -/
structure Mode.Addresses (mode : Mode) (format : PixelFormat) : Prop where
  line : mode.width * bytesPerPixel format < 2 ^ 32
  lastLine : (mode.height - 1) * (mode.width * bytesPerPixel format) < 2 ^ 32

variable {mode : Mode} {format : PixelFormat}

/-- The layout of a converted format is that of its bytes in memory. -/
theorem layout_packed (hformat : format ∈ packedFormats) (mode : Mode) :
    (updateInjectLayout mode format).pixelStride = bytesPerPixel format ∧
    (updateInjectLayout mode format).bytesPerLine = mode.width * bytesPerPixel format % 2 ^ 32 ∧
    (updateInjectLayout mode format).redOffset = channelOffset format .red ∧
    (updateInjectLayout mode format).greenOffset = channelOffset format .green ∧
    (updateInjectLayout mode format).blueOffset = channelOffset format .blue := by
  simp only [packedFormats, List.mem_cons, List.not_mem_nil, or_false] at hformat
  rcases hformat with rfl | rfl | rfl | rfl
  all_goals exact ⟨rfl, rfl, rfl, rfl, rfl⟩

theorem bytesPerPixel_pos (format : PixelFormat) : 0 < bytesPerPixel format := by
  cases format with
  | _ => exact Nat.succ_pos _

/-- A round of the conversion takes the samples at `x` and `x + 1`. -/
theorem convertPair_eq (hformat : format ∈ packedFormats) (haddresses : mode.Addresses format)
    {y k : Nat} (hy : y < mode.height) (hk : 2 * k + 1 < mode.width) :
    convertPair mode (updateInjectLayout mode format) y (2 * k) =
      [(sampledByte format mode.width y (2 * k), y * mode.width + 2 * k),
        (sampledByte format mode.width y (2 * k + 1), y * mode.width + (2 * k + 1))] := by
  obtain ⟨hstride, hbytes, hred, hgreen, hblue⟩ := layout_packed hformat mode
  have hline := haddresses.line
  have hpos := bytesPerPixel_pos format
  -- no offset wraps around
  have hrow : y * (mode.width * bytesPerPixel format) < 2 ^ 32 :=
    Nat.lt_of_le_of_lt (Nat.mul_le_mul_right _ (by omega)) haddresses.lastLine
  have hcolumn : 2 * k * bytesPerPixel format < 2 ^ 32 :=
    Nat.lt_of_le_of_lt (Nat.mul_le_mul_right _ (by omega)) hline
  have hdst : y * mode.width < 2 ^ 32 :=
    Nat.lt_of_le_of_lt (Nat.mul_le_mul_left _ (Nat.le_mul_of_pos_right _ hpos)) hrow
  have hplace : (y * mode.width + 2 * k) * bytesPerPixel format =
      y * (mode.width * bytesPerPixel format) + 2 * k * bytesPerPixel format := by
    rw [Nat.add_mul, Nat.mul_assoc]
  have hnext : (y * mode.width + (2 * k + 1)) * bytesPerPixel format =
      y * (mode.width * bytesPerPixel format) + 2 * k * bytesPerPixel format +
        bytesPerPixel format := by
    rw [← Nat.add_assoc, Nat.succ_mul, hplace]
  have heven : 2 * k % 2 = 0 := Nat.mul_mod_right 2 k
  have hodd : ¬ (2 * k + 1) % 2 = 0 := by omega
  unfold convertPair
  rw [hstride, hbytes, hred, hgreen, hblue, Nat.mod_eq_of_lt hline]
  dsimp only
  rw [Nat.mod_eq_of_lt hrow, Nat.mod_eq_of_lt hcolumn, Nat.mod_eq_of_lt hdst, sampledByte,
    sampledByte, hplace, hnext, bayerChannel, bayerChannel, if_pos heven, if_neg hodd, if_pos heven,
    if_neg hodd]
  split
  · rfl
  · rfl

/-- The place of the `i`th sample. -/
def rowMajor (width : Nat) (f : Nat → Nat → Nat) (i : Nat) : Nat := f (i / width) (i % width)

theorem rowMajor_eq {width x : Nat} (f : Nat → Nat → Nat) (y : Nat) (hx : x < width) :
    rowMajor width f (y * width + x) = f y x := by
  have hwidth : 0 < width := Nat.zero_lt_of_lt hx
  rw [rowMajor, Nat.mul_comm, Nat.mul_add_div hwidth, Nat.div_eq_of_lt hx, Nat.add_zero,
    Nat.mul_add_mod, Nat.mod_eq_of_lt hx]

/-- The conversion takes the samples in the order of the frame, each from its byte. -/
theorem convertSamples_eq (hformat : format ∈ packedFormats) (heven : mode.width % 2 = 0)
    (haddresses : mode.Addresses format) :
    convertSamples mode (updateInjectLayout mode format) =
      (List.range (mode.height * mode.width)).map fun i =>
        (rowMajor mode.width (sampledByte format mode.width) i, i) := by
  rw [← flatMap_range_rows, convertSamples]
  refine List.flatMap_congr fun y hy => ?_
  -- an even width is made of whole pairs
  have hwidth : 2 * (mode.width / 2) = mode.width := by omega
  have hpairs := flatMap_range_pairs (mode.width / 2) fun x =>
    (rowMajor mode.width (sampledByte format mode.width) (y * mode.width + x), y * mode.width + x)
  rw [hwidth] at hpairs
  rw [← hpairs]
  refine List.flatMap_congr fun k hk => ?_
  rw [List.mem_range] at hy hk
  rw [convertPair_eq hformat haddresses hy (by omega), rowMajor_eq _ _ (by omega),
    rowMajor_eq _ _ (by omega)]

/-- Every sample is stored once. -/
theorem convertRgbToRggb10_eq (hformat : format ∈ packedFormats) (heven : mode.width % 2 = 0)
    (haddresses : mode.Addresses format) (src : Nat → UInt8) (out : Nat → UInt16) (i : Nat) :
    convertRgbToRggb10 mode (updateInjectLayout mode format) src out i =
      if i < mode.height * mode.width then
        sampleLut (src (rowMajor mode.width (sampledByte format mode.width) i))
      else out i := by
  rw [convertRgbToRggb10, convertSamples_eq hformat heven haddresses, List.map_map]
  exact writeAll_range _ (fun i =>
    sampleLut (src (rowMajor mode.width (sampledByte format mode.width) i))) out i

theorem rawPixel_eq (width shift : Nat) (rgbFrame : Nat → UInt8) (y x : Nat) :
    rawPixel width shift rgbFrame y x =
      (y * width + x, toRaw10 (rgbFrame (sampledByte .rgb24 width y x)) shift) := by
  unfold rawPixel sampledByte bayerChannel
  by_cases hy : y % 2 = 0
  · by_cases hx : x % 2 = 0
    · simp only [hy, hx, if_true]
      rfl
    · simp only [hy, hx, if_true, if_false]
      rfl
  · by_cases hx : x % 2 = 0
    · simp only [hy, hx, if_true, if_false]
      rfl
    · simp only [hy, hx, if_false]
      rfl

theorem rgb24ToRggb10_eq (width height shift : Nat) (rgbFrame : Nat → UInt8)
    (rawFrame : Nat → UInt16) (i : Nat) :
    rgb24ToRggb10 width height shift rgbFrame rawFrame i =
      if i < height * width then
        toRaw10 (rgbFrame (rowMajor width (sampledByte .rgb24 width) i)) shift
      else rawFrame i := by
  have hpixels : (List.range height).flatMap (fun y =>
      (List.range width).map fun x => rawPixel width shift rgbFrame y x) =
      (List.range (height * width)).map fun i =>
        (i, toRaw10 (rgbFrame (rowMajor width (sampledByte .rgb24 width) i)) shift) := by
    rw [← flatMap_range_rows]
    refine List.flatMap_congr fun y _ => List.map_congr_left fun x hx => ?_
    rw [rawPixel_eq, rowMajor_eq _ _ (List.mem_range.mp hx)]
  rw [rgb24ToRggb10, hpixels]
  exact writeAll_range _ (fun i =>
    toRaw10 (rgbFrame (rowMajor width (sampledByte .rgb24 width) i)) shift) rawFrame i

/-- The table has the scaled values, and none of them is cut off. -/
theorem toNat_sampleLut (v : UInt8) : (sampleLut v).toNat = scaled v := by
  have hv := v.toNat_lt
  rw [sampleLut, UInt16.toNat_ofNat_of_lt', scaled]
  show _ < 65536
  omega

theorem toRaw10_zero (v : UInt8) : toRaw10 v 0 = sampleLut v :=
  rfl

theorem scaled_le (v : UInt8) : scaled v ≤ 1023 := by
  have hv := v.toNat_lt
  unfold scaled
  omega

/-- What the reference asks of the conversion of a format: each sample is stored once; it is the
scaled byte of its channel; the conversion of RGB24 is that of the tool; and all samples have ten
bits. -/
structure ConvertsBayer (mode : Mode) (format : PixelFormat) (src : Nat → UInt8)
    (out : Nat → UInt16) : Prop where
  once : ((convertSamples mode (updateInjectLayout mode format)).map Prod.snd).Perm
    (List.range (mode.height * mode.width))
  sample : ∀ y < mode.height, ∀ x < mode.width,
    (convertRgbToRggb10 mode (updateInjectLayout mode format) src out (y * mode.width + x)).toNat =
      scaled (src (sampledByte format mode.width y x))
  tool : format = .rgb24 → ∀ raw, ∀ i < mode.height * mode.width,
    convertRgbToRggb10 mode (updateInjectLayout mode format) src out i =
      rgb24ToRggb10 mode.width mode.height 0 src raw i
  bits : ∀ i < mode.height * mode.width,
    (convertRgbToRggb10 mode (updateInjectLayout mode format) src out i).toNat ≤ 1023

/-- For every frame and every even width and any height whose row offsets have 32 bits. -/
theorem convert_bayer (hformat : format ∈ packedFormats) (heven : mode.width % 2 = 0)
    (haddresses : mode.Addresses format) (src : Nat → UInt8) (out : Nat → UInt16) :
    ConvertsBayer mode format src out where
  once := by
    rw [convertSamples_eq hformat heven haddresses, List.map_map]
    exact List.Perm.of_eq (List.map_id _)
  sample y hy x hx := by
    have hi : y * mode.width + x < mode.height * mode.width := by
      calc y * mode.width + x < (y + 1) * mode.width := by
            rw [Nat.succ_mul]
            omega
        _ ≤ mode.height * mode.width := Nat.mul_le_mul_right _ hy
    rw [convertRgbToRggb10_eq hformat heven haddresses, if_pos hi, rowMajor_eq _ _ hx,
      toNat_sampleLut]
  tool := by
    rintro rfl raw i hi
    rw [convertRgbToRggb10_eq hformat heven haddresses, if_pos hi, rgb24ToRggb10_eq, if_pos hi,
      toRaw10_zero]
  bits i hi := by
    rw [convertRgbToRggb10_eq hformat heven haddresses, if_pos hi, toNat_sampleLut]
    exact scaled_le _

/-- Four columns and three rows of BGR32. -/
theorem convert_bayer_small :
    ConvertsBayer (imxMode 4 3 0 0) .bgr32 (fun i => UInt8.ofNat (7 * i)) fun _ => 0 :=
  convert_bayer (by decide) (by decide) ⟨by decide, by decide⟩ _ _

instance (mode : Mode) (format : PixelFormat) : Decidable (mode.Addresses format) :=
  decidable_of_iff (mode.width * bytesPerPixel format < 2 ^ 32 ∧
    (mode.height - 1) * (mode.width * bytesPerPixel format) < 2 ^ 32)
    ⟨fun h => ⟨h.1, h.2⟩, fun h => ⟨h.1, h.2⟩⟩

/-- The modes of the sensor tables are of this kind. -/
theorem imxModes_addresses : ∀ mode ∈ imxModes, ∀ format ∈ packedFormats,
    mode.width % 2 = 0 ∧ mode.Addresses format := by
  decide

/-- A frame with one row more than 32 bit offsets reach. -/
def tallMode : Mode := imxMode 2 (2 ^ 29 + 1) 0 0

/-- The last row is made from the bytes of the first. -/
theorem last_row_wraps :
    ¬ ∀ (mode : Mode) (format : PixelFormat), format ∈ packedFormats → mode.width % 2 = 0 →
      ∀ (src : Nat → UInt8) (out : Nat → UInt16), ConvertsBayer mode format src out := by
  intro h
  have hconverts := h tallMode .bgr32 (by decide) (by decide) (fun i => if i = 2 then 255 else 0)
    fun _ => 0
  have hsample := hconverts.sample (2 ^ 29) (by decide) 0 (by decide)
  -- the row offset 2 ^ 29 * 8 is 0 in 32 bits
  have hpixel : (2, 2 ^ 30) ∈ convertSamples tallMode (updateInjectLayout tallMode .bgr32) :=
    mem_convertSamples.mpr ⟨2 ^ 29, by decide, 0, by decide, by decide⟩
  have hstore : convertRgbToRggb10 tallMode (updateInjectLayout tallMode .bgr32)
      (fun i => if i = 2 then 255 else 0) (fun _ => 0) (2 ^ 30) = sampleLut 255 := by
    apply writeAll_of_mem
    · rw [List.map_map]
      exact hconverts.once.nodup_iff.mpr List.nodup_range
    · exact List.mem_map.mpr ⟨_, hpixel, rfl⟩
  have hplace : 2 ^ 29 * tallMode.width + 0 = 2 ^ 30 := by decide
  rw [hplace, hstore] at hsample
  exact absurd hsample (by decide)

end Sensorium.Camera
