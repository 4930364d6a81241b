import Mathlib.Tactic.Ring
import Sensorium.Camera.Device

/-!
# The bounds of a copy

The conversion walks over the rows of the active mode and takes two pixels at a time.  As long as
the bytes of a frame with four bytes a pixel fit in 32 bits, no offset wraps around, every byte
read lies before `sizeimage`, and every sample written before the frame size.
-/

namespace Sensorium.Camera

/-- The frame size is that of 16 bit samples, and a frame of 32 bit pixels has a 32 bit size. -/
structure Mode.Regular (mode : Mode) : Prop where
  frameSize : mode.frameSize = 2 * mode.width * mode.height
  fits : 4 * mode.width * mode.height < 2 ^ 32

instance (mode : Mode) : Decidable mode.Regular :=
  decidable_of_iff (mode.frameSize = 2 * mode.width * mode.height ∧
    4 * mode.width * mode.height < 2 ^ 32) ⟨fun h => ⟨h.1, h.2⟩, fun h => ⟨h.1, h.2⟩⟩

/-- `SENSORIUM_IMX_MODE`. -/
def imxMode (width height hblank vblank : Nat) : Mode where
  width := width
  height := height
  bytesPerLine := width * 2
  frameSize := width * height * 2
  pixelRate := (width + hblank) * (height + vblank) * 30
  hblank := hblank
  vblank := vblank
  frameIntervalMs := 33

/-- The modes of the sensor tables. -/
def imxModes : List Mode :=
  [imxMode 4608 2592 512 48, imxMode 2304 1296 512 48, imxMode 1536 864 512 48,
    imxMode 4056 3040 512 48, imxMode 2028 1520 512 48, imxMode 1332 990 512 48,
    imxMode 3280 2464 344 24, imxMode 1640 1232 344 24, imxMode 1280 720 344 24,
    imxMode 3840 2160 512 48, imxMode 1920 1080 512 48, imxMode 1280 720 512 48,
    imxMode 2592 1520 384 24, imxMode 1920 1080 384 24, imxMode 1280 720 384 24,
    imxMode 2688 1520 384 24, imxMode 2592 1944 384 24, imxMode 1296 972 384 24,
    imxMode 640 480 384 24, imxMode 2048 1536 320 24, imxMode 1280 960 320 24,
    imxMode 640 480 320 24, imxMode 1920 1080 320 20, imxMode 1280 720 320 20,
    imxMode 640 480 320 20, imxMode 4656 3496 512 48, imxMode 2328 1748 512 48,
    imxMode 5280 3956 640 48, imxMode 2640 1978 640 48, imxMode 1920 1080 640 48,
    imxMode 5328 4608 640 48, imxMode 2664 2304 640 48, imxMode 6224 4168 640 64,
    imxMode 3112 2084 640 64, imxMode 1920 1080 640 64, imxMode 3008 3008 384 24,
    imxMode 1504 1504 384 24]

theorem imxModes_regular : ∀ mode ∈ imxModes, mode.Regular := by
  decide

theorem updateInjectLayout_idem (mode mode' : Mode) (pixelformat : PixelFormat) :
    updateInjectLayout mode' (updateInjectLayout mode pixelformat).pixelformat =
      updateInjectLayout mode' pixelformat := by
  cases pixelformat <;> rfl

theorem sizeImage_raw (mode : Mode) {pixelformat : PixelFormat}
    (h : (updateInjectLayout mode pixelformat).pixelformat = .srggb10) :
    (updateInjectLayout mode pixelformat).sizeImage = mode.frameSize := by
  cases pixelformat with
  | srggb10 | other => rfl
  | bgr32 | rgb32 | bgr24 | rgb24 => cases h

/-- The layout of a packed format. -/
structure Layout.Packed (mode : Mode) (layout : Layout) : Prop where
  stride : layout.pixelStride ≤ 4
  red : layout.redOffset < layout.pixelStride
  green : layout.greenOffset < layout.pixelStride
  blue : layout.blueOffset < layout.pixelStride
  bytesPerLine : layout.bytesPerLine = mode.width * layout.pixelStride % 2 ^ 32
  sizeImage : layout.sizeImage =
    mode.width * mode.height % 2 ^ 32 * layout.pixelStride % 2 ^ 32

theorem packed_of_ne_raw (mode : Mode) {pixelformat : PixelFormat}
    (h : (updateInjectLayout mode pixelformat).pixelformat ≠ .srggb10) :
    (updateInjectLayout mode pixelformat).Packed mode := by
  cases pixelformat with
  | srggb10 | other => exact absurd rfl h
  | bgr32 | rgb32 | bgr24 | rgb24 => constructor <;> simp [updateInjectLayout, findIngressFormat]

/-- A place of the conversion is in a row of the mode, and has a pixel to its right. -/
theorem mem_convertSamples {mode : Mode} {layout : Layout} {p : Nat × Nat} :
    p ∈ convertSamples mode layout ↔
      ∃ y < mode.height, ∃ k < mode.width / 2, p ∈ convertPair mode layout y (2 * k) := by
  simp [convertSamples]

section Rows

variable {w h x y : Nat}

/-- Two pixels in a row end before the frame does. -/
theorem pixel_end (stride : Nat) (hy : y < h) (hx : x + 1 < w) :
    y * (w * stride) + x * stride + 2 * stride ≤ w * h * stride := by
  have hrow : x * stride + 2 * stride ≤ w * stride := by
    rw [← Nat.add_mul]
    exact Nat.mul_le_mul_right stride (by omega)
  have hframe : y * (w * stride) + w * stride ≤ w * h * stride := by
    calc y * (w * stride) + w * stride = (y + 1) * (w * stride) := by ring
      _ ≤ h * (w * stride) := Nat.mul_le_mul_right _ hy
      _ = w * h * stride := by ring
  omega

theorem sample_end (hy : y < h) (hx : x + 1 < w) : 2 * (y * w + (x + 1)) + 2 ≤ 2 * w * h := by
  have hend := pixel_end 1 hy hx
  simp only [Nat.mul_one] at hend
  rw [Nat.mul_assoc]
  omega

end Rows

/-- The two samples of one round lie within the planes. -/
theorem convertPair_inBounds {mode : Mode} {layout : Layout} {x y : Nat} (hmode : mode.Regular)
    (hlayout : layout.Packed mode) (hy : y < mode.height) (hx : x + 1 < mode.width) :
    ∀ p ∈ convertPair mode layout y x,
      p.1 < layout.sizeImage ∧ 2 * p.2 + 2 ≤ mode.frameSize := by
  have hfits := hmode.fits
  have hred := hlayout.red
  have hgreen := hlayout.green
  have hblue := hlayout.blue
  have hpixel := pixel_end layout.pixelStride hy hx
  have hsample := sample_end hy hx
  -- nothing wraps around
  have hsize : mode.width * mode.height * layout.pixelStride ≤ 4 * mode.width * mode.height := by
    calc mode.width * mode.height * layout.pixelStride ≤ mode.width * mode.height * 4 :=
          Nat.mul_le_mul_left _ hlayout.stride
      _ = 4 * mode.width * mode.height := by ring
  have harea : mode.width * mode.height ≤ 4 * mode.width * mode.height := by
    rw [Nat.mul_assoc]
    omega
  have hline : mode.width * layout.pixelStride ≤ mode.width * mode.height * layout.pixelStride :=
    Nat.mul_le_mul_right _ (Nat.le_mul_of_pos_right _ (Nat.zero_lt_of_lt hy))
  have hbytes : layout.bytesPerLine = mode.width * layout.pixelStride := by
    rw [hlayout.bytesPerLine]
    exact Nat.mod_eq_of_lt (by omega)
  have himage : layout.sizeImage = mode.width * mode.height * layout.pixelStride := by
    rw [hlayout.sizeImage, Nat.mod_eq_of_lt (a := mode.width * mode.height) (by omega)]
    exact Nat.mod_eq_of_lt (by omega)
  have hrow : y * (mode.width * layout.pixelStride) % 2 ^ 32 =
      y * (mode.width * layout.pixelStride) := Nat.mod_eq_of_lt (by omega)
  have hcolumn : x * layout.pixelStride % 2 ^ 32 = x * layout.pixelStride :=
    Nat.mod_eq_of_lt (by omega)
  have hdst : y * mode.width % 2 ^ 32 = y * mode.width := by
    refine Nat.mod_eq_of_lt ?_
    rw [Nat.mul_assoc] at hsample
    omega
  intro p hp
  simp only [convertPair, hbytes, hrow, hcolumn, hdst] at hp
  rw [himage, hmode.frameSize]
  split at hp
  all_goals
    simp only [List.mem_cons, List.not_mem_nil, or_false] at hp
    rcases hp with rfl | rfl
    all_goals
      constructor
      · show _ < _
        omega
      · show 2 * _ + 2 ≤ _
        omega

/-- A conversion between planes of the sizes that the delivery tests. -/
theorem convert_inBounds {mode : Mode} {layout : Layout} {source target : Nat}
    (hmode : mode.Regular) (hlayout : layout.Packed mode) (hsource : layout.sizeImage ≤ source)
    (htarget : mode.frameSize ≤ target) : (Copy.rgb source target mode layout).InBounds := by
  intro p hp
  obtain ⟨y, hy, k, hk, hp⟩ := mem_convertSamples.mp hp
  have hx : 2 * k + 1 < mode.width := by omega
  obtain ⟨hread, hwrite⟩ := convertPair_inBounds hmode hlayout hy hx p hp
  exact ⟨hread.trans_le hsource, hwrite.trans htarget⟩

end Sensorium.Camera
