import MotionSense.Foundations.Alignment

/-!
# The place of the timestamp overlay

`osd_init` and `osd_rgn_create` of `media.c`.  One overlay is attached to each of
the two encoder channels, at a place that is computed from the size of the H264
picture for both.  Its size and its place are rounded up to multiples of 16, so
it can reach beyond the edge of a picture.
-/

namespace MotionSense

/-- `UPALIGNTO16`: clearing the low four bits rounds down. -/
def upAlignTo16 (x : Int) : Int := (x + 15) / 16 * 16

/-- `osd_position_t`. -/
inductive OsdPosition
  | topLeft
  | topRight
  | bottomLeft
  | bottomRight
  deriving DecidableEq

/-- The encoder channels. -/
inductive VencChn
  | h264
  | mjpeg
  deriving DecidableEq

/-- The size of a channel's picture. -/
structure Picture where
  width : Nat
  height : Nat
  deriving DecidableEq

/-- The fields of `ms_config_t` that the overlay depends on. -/
structure OsdConfig where
  h264 : Picture := ⟨1920, 1080⟩
  mjpeg : Picture := ⟨1920, 1080⟩
  fontSize : Int := 36
  margin : Int := 16
  position : OsdPosition := .bottomRight
  deriving DecidableEq

/-- The picture of a channel. -/
def OsdConfig.picture (config : OsdConfig) : VencChn → Picture
  | .h264 => config.h264
  | .mjpeg => config.mjpeg

/-- A region that is attached to a channel. -/
structure OsdRegion where
  vencChn : VencChn
  x : Int
  y : Int
  w : Int
  height : Int
  deriving DecidableEq

/-- How `RK_MPI_RGN_Create` and `RK_MPI_RGN_AttachToChn` turn out. -/
structure RgnCalls where
  created : Bool := true
  attached : Bool := true

variable (config : OsdConfig)

/-- `x` of `osd_rgn_create`. -/
def osdX (w : Int) : Int :=
  match config.position with
  | .topLeft => upAlignTo16 config.margin
  | .topRight => upAlignTo16 (config.h264.width - w - config.margin)
  | .bottomLeft => upAlignTo16 config.margin
  | .bottomRight => upAlignTo16 (config.h264.width - w - config.margin)

/-- `y` of `osd_rgn_create`. -/
def osdY (height : Int) : Int :=
  match config.position with
  | .topLeft => upAlignTo16 config.margin
  | .topRight => upAlignTo16 config.margin
  | .bottomLeft => upAlignTo16 (config.h264.height - height - config.margin)
  | .bottomRight => upAlignTo16 (config.h264.height - height - config.margin)

/-- `osd_rgn_create`: the region that it attaches, if it succeeds. -/
def osdRgnCreate (vencChn : VencChn) (w height : Int) (calls : RgnCalls) :
    Option OsdRegion :=
  if !calls.created then none
  else if !calls.attached then none
  else some ⟨vencChn, osdX config w, osdY config height, w, height⟩

/-- `s_osd_w`, from the measured width of the text. -/
def osdW (advanceX : Int) : Int := upAlignTo16 advanceX

/-- `s_osd_h`. -/
def osdH : Int := upAlignTo16 config.fontSize

/-- `osd_init` with a font: the regions that it leaves attached. -/
def osdInit (advanceX : Int) (calls : VencChn → RgnCalls) : List OsdRegion :=
  let w := osdW advanceX
  let height := osdH config
  match osdRgnCreate config .h264 w height (calls .h264) with
  | none => []
  | some first =>
      match osdRgnCreate config .mjpeg w height (calls .mjpeg) with
      | none => []
      | some second => [first, second]

/-! ## What is promised -/

/-- The region lies within the picture. -/
structure OsdRegion.Inside (region : OsdRegion) (picture : Picture) : Prop where
  left : 0 ≤ region.x
  top : 0 ≤ region.y
  right : region.x + region.w ≤ picture.width
  bottom : region.y + region.height ≤ picture.height

/-- The overlay and the margin on both sides of it fit into the picture. -/
structure Fits (advanceX : Int) (picture : Picture) : Prop where
  width : osdW advanceX + 2 * config.margin ≤ picture.width
  height : osdH config + 2 * config.margin ≤ picture.height

/-- In one direction the overlay is placed by the edge at zero: with its margin it
fits into the whole blocks of 16 of the extent. -/
def FitsNear (size extent : Int) : Prop :=
  size + config.margin ≤ alignDown 16 extent

/-- In one direction the overlay is placed by the far edge of the H264 picture,
and the margin is left free there: the rest fits into the whole blocks of 16 of the
extent. -/
def FitsFar (reference extent : Int) : Prop :=
  reference - config.margin ≤ alignDown 16 extent

instance (size extent : Int) : Decidable (FitsNear config size extent) :=
  inferInstanceAs (Decidable (_ ≤ _))

instance (reference extent : Int) :
    Decidable (FitsFar config reference extent) :=
  inferInstanceAs (Decidable (_ ≤ _))

/-- The whole blocks of 16 of a picture have room for the overlay. -/
def HasRoom (advanceX : Int) (picture : Picture) : Prop :=
  match config.position with
  | .topLeft =>
      FitsNear config (osdW advanceX) picture.width ∧
        FitsNear config (osdH config) picture.height
  | .topRight =>
      FitsFar config config.h264.width picture.width ∧
        FitsNear config (osdH config) picture.height
  | .bottomLeft =>
      FitsNear config (osdW advanceX) picture.width ∧
        FitsFar config config.h264.height picture.height
  | .bottomRight =>
      FitsFar config config.h264.width picture.width ∧
        FitsFar config config.h264.height picture.height

/-! ## One direction -/

theorem upAlignTo16_eq (x : Int) : upAlignTo16 x = alignUp 16 x := rfl

variable {config}

/-- The near place: what is behind the margin rounded up. -/
theorem near_iff
    {size : Int} (whole : 16 ∣ size) (margin : 0 ≤ config.margin)
    (extent : Int) :
    0 ≤ upAlignTo16 config.margin ∧
        upAlignTo16 config.margin + size ≤ extent ↔
      FitsNear config size extent := by
  have above := le_alignUp (by decide : (0 : Int) < 16) config.margin
  have shifted : upAlignTo16 config.margin + size =
      alignUp 16 (size + config.margin) := by
    have taken := alignUp_sub_of_dvd (by decide : (0 : Int) < 16)
      (Int.dvd_neg.mpr whole) config.margin
    rw [sub_neg_eq_add, sub_neg_eq_add] at taken
    rw [upAlignTo16_eq, ← taken, add_comm]
  rw [shifted, FitsNear, (alignUp_gc (by decide)).le_iff_le]
  exact and_iff_right (margin.trans above)

/-- The far place: what is before the margin, rounded up. -/
theorem far_iff
    {size reference : Int} (whole : 16 ∣ size) (margin : 0 ≤ config.margin)
    (fits : size + 2 * config.margin ≤ reference) (extent : Int) :
    0 ≤ upAlignTo16 (reference - size - config.margin) ∧
        upAlignTo16 (reference - size - config.margin) + size ≤ extent ↔
      FitsFar config reference extent := by
  have above := le_alignUp (by decide : (0 : Int) < 16)
    (reference - size - config.margin)
  have shifted : upAlignTo16 (reference - size - config.margin) + size =
      alignUp 16 (reference - config.margin) := by
    rw [upAlignTo16_eq, sub_right_comm,
      alignUp_sub_of_dvd (by decide) whole, sub_add_cancel]
  rw [shifted, FitsFar, (alignUp_gc (by decide)).le_iff_le]
  refine and_iff_right (le_trans ?_ above)
  linarith

/-! ## The region -/

/-- The region is inside a picture exactly when the picture's whole blocks have
room for it. -/
theorem inside_iff
    {advanceX : Int} (margin : 0 ≤ config.margin)
    (fits : Fits config advanceX config.h264)
    (vencChn : VencChn) (picture : Picture) :
    OsdRegion.Inside ⟨vencChn, osdX config (osdW advanceX),
        osdY config (osdH config), osdW advanceX, osdH config⟩ picture ↔
      HasRoom config advanceX picture := by
  have wholeW : 16 ∣ osdW advanceX := dvd_alignUp advanceX
  have wholeH : 16 ∣ osdH config := dvd_alignUp config.fontSize
  have split : OsdRegion.Inside ⟨vencChn, osdX config (osdW advanceX),
      osdY config (osdH config), osdW advanceX, osdH config⟩ picture ↔
        (0 ≤ osdX config (osdW advanceX) ∧
          osdX config (osdW advanceX) + osdW advanceX ≤ picture.width) ∧
        0 ≤ osdY config (osdH config) ∧
          osdY config (osdH config) + osdH config ≤ picture.height :=
    ⟨fun ⟨left, top, right, bottom⟩ => ⟨⟨left, right⟩, top, bottom⟩,
      fun ⟨⟨left, right⟩, top, bottom⟩ => ⟨left, top, right, bottom⟩⟩
  rw [split, HasRoom, osdX, osdY]
  cases config.position with
  | topLeft =>
      exact and_congr (near_iff wholeW margin _) (near_iff wholeH margin _)
  | topRight =>
      exact and_congr (far_iff wholeW margin fits.width _)
        (near_iff wholeH margin _)
  | bottomLeft =>
      exact and_congr (near_iff wholeW margin _)
        (far_iff wholeH margin fits.height _)
  | bottomRight =>
      exact and_congr (far_iff wholeW margin fits.width _)
        (far_iff wholeH margin fits.height _)

/-- A region that is attached has the place and the size computed for both
channels. -/
theorem eq_of_osdRgnCreate
    {vencChn : VencChn} {w height : Int} {calls : RgnCalls}
    {region : OsdRegion}
    (attached : osdRgnCreate config vencChn w height calls = some region) :
    region = ⟨vencChn, osdX config w, osdY config height, w, height⟩ := by
  rw [osdRgnCreate] at attached
  split at attached
  · cases attached
  split at attached
  · cases attached
  exact (Option.some.inj attached).symm

/-- `osd_init` attaches nothing else, and it attaches both when no call fails. -/
theorem mem_osdInit
    {advanceX : Int} {calls : VencChn → RgnCalls} {region : OsdRegion}
    (attached : region ∈ osdInit config advanceX calls) :
    ∃ vencChn, region = ⟨vencChn, osdX config (osdW advanceX),
      osdY config (osdH config), osdW advanceX, osdH config⟩ := by
  rw [osdInit] at attached
  cases first : osdRgnCreate config .h264 (osdW advanceX) (osdH config)
      (calls .h264) with
  | none =>
      simp only [first] at attached
      exact absurd attached List.not_mem_nil
  | some region₁ =>
      cases second : osdRgnCreate config .mjpeg (osdW advanceX) (osdH config)
          (calls .mjpeg) with
      | none =>
          simp only [first, second] at attached
          exact absurd attached List.not_mem_nil
      | some region₂ =>
          simp only [first, second, List.mem_cons, List.not_mem_nil,
            or_false] at attached
          rcases attached with rfl | rfl
          · exact ⟨.h264, eq_of_osdRgnCreate first⟩
          · exact ⟨.mjpeg, eq_of_osdRgnCreate second⟩

/-- When the overlay and its margins fit into both pictures, the regions that
`osd_init` attaches lie within their pictures exactly when the whole blocks of 16
of both pictures have room for the overlay. -/
theorem overlay_inside_iff
    (config : OsdConfig) (advanceX : Int) (margin : 0 ≤ config.margin)
    (fits : ∀ vencChn, Fits config advanceX (config.picture vencChn)) :
    (∀ calls, ∀ region ∈ osdInit config advanceX calls,
        region.Inside (config.picture region.vencChn)) ↔
      ∀ vencChn, HasRoom config advanceX (config.picture vencChn) := by
  constructor
  · intro inside vencChn
    refine (inside_iff margin (fits .h264) vencChn _).mp
      (inside (fun _ => {}) _ ?_)
    cases vencChn with
    | h264 => exact List.mem_cons_self
    | mjpeg => exact List.mem_cons_of_mem _ List.mem_cons_self
  · intro room calls region attached
    obtain ⟨vencChn, rfl⟩ := mem_osdInit attached
    exact (inside_iff margin (fits .h264) vencChn _).mpr (room vencChn)

/-- A margin of 4 pixels at the bottom right: the overlay ends 8 rows below the
H264 picture of 1080 rows, and to the right of the smaller MJPEG picture. -/
theorem overlay_outside_pictures :
    let config : OsdConfig := { mjpeg := ⟨1280, 720⟩, margin := 4 }
    let advanceX : Int := 440
    (∀ vencChn, Fits config advanceX (config.picture vencChn)) ∧
      ∃ first second, osdInit config advanceX (fun _ => {}) =
          [first, second] ∧
        first.vencChn = .h264 ∧ second.vencChn = .mjpeg ∧
        first.y + first.height = config.h264.height + 8 ∧
        ¬ first.Inside config.h264 ∧ ¬ second.Inside config.mjpeg := by
  intro config advanceX
  refine ⟨?_, _, _, rfl, rfl, rfl, by decide, ?_, ?_⟩
  · rintro ⟨⟩ <;> constructor <;> decide
  · exact fun inside => absurd inside.bottom (by decide)
  · exact fun inside => absurd inside.right (by decide)

/-- The configuration that the daemon starts with has room. -/
theorem overlay_inside_iff_defaults :
    (∀ calls, ∀ region ∈ osdInit {} 440 calls,
        region.Inside (OsdConfig.picture {} region.vencChn)) ∧
      ∀ vencChn, HasRoom {} 440 (OsdConfig.picture {} vencChn) := by
  have room : ∀ vencChn, HasRoom {} 440 (OsdConfig.picture {} vencChn) := by
    rintro ⟨⟩ <;> constructor <;> decide
  refine ⟨(overlay_inside_iff {} 440 (by decide) ?_).mpr room, room⟩
  rintro ⟨⟩ <;> constructor <;> decide

end MotionSense
