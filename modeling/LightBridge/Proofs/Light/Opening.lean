import LightBridge.Proofs.Light.Guide

/-!
# Plans that switch their zone on

Every plan of the third generation is guided: before it steps anything on a
zone it switches that zone on, and what follows until then names no other.
-/

set_option autoImplicit false

namespace LightBridge

open Zoned

/-! ## White bulbs -/

namespace White

variable {zone : UInt8}

theorem on_mem : onTable ∈ Family.v3White.selectors := by decide

theorem full_mem : fullTable ∈ Family.v3White.selectors := by decide

theorem setPower_guided (hz : Family.v3White.hasZone zone = true) (on : Bool) :
    Family.v3White.Guided zone false [zoneByte (if on then onTable else offTable) zone] :=
  Family.guided_switch (by decide) (by decide) hz on

theorem brighter_steady (record : LightState → LightState) :
    (Move.send brighter record).Steady .v3White zone :=
  Move.steady_of_command rfl (by decide) zone

theorem dimmer_steady (record : LightState → LightState) :
    (Move.send dimmer record).Steady .v3White zone :=
  Move.steady_of_command rfl (by decide) zone

theorem levelMove_steady (up : Prop) [Decidable up] (record : LightState → LightState) :
    (Move.send (if up then brighter else dimmer) record).Steady .v3White zone := by
  split
  · exact brighter_steady record
  · exact dimmer_steady record

theorem temperatureMove_steady (up : Bool) (l : Int) :
    (temperatureMove up l).Steady .v3White zone := by
  cases up with
  | true => exact Move.steady_of_command rfl (by decide) zone
  | false => exact Move.steady_of_command rfl (by decide) zone

theorem modeMove_steady (next : Bool) : (modeMove next).Steady .v3White zone := by
  cases next with
  | true => exact Move.steady_of_command rfl (by decide) zone
  | false => exact Move.steady_of_command rfl (by decide) zone

theorem setColorTemperature_guided (hz : Family.v3White.hasZone zone = true) (value : Int)
    (s : LightState) :
    Family.v3White.Guided zone false
      (commands (Plan.moves (setColorTemperature zone value s)).all) := by
  unfold setColorTemperature
  generalize temperatureGoal value s = goal
  obtain ⟨value, target, here⟩ := goal
  exact guided_stepped on_mem hz rfl fun round => temperatureMove_steady _ _

theorem setBrightness_guided (hz : Family.v3White.hasZone zone = true) (value : Int)
    (s : LightState) :
    Family.v3White.Guided zone false (commands (Plan.moves (setBrightness zone value s)).all) := by
  unfold setBrightness
  split
  · exact setPower_guided hz false
  split
  · exact guided_once full_mem hz rfl (by simp)
  · dsimp only
    split
    · apply guided_opened full_mem hz rfl
      · simp
      · simp [Stretch.Each, levelMove_steady, Move.store_steady, Stretch.once, storeBrightness]
    · apply guided_opened on_mem hz rfl
      · simp
      · simp [Stretch.Each, levelMove_steady, Move.store_steady, Stretch.once, storeBrightness]

theorem plan_guided (hz : Family.v3White.hasZone zone = true) (s : LightState)
    (operation : Operation) :
    Family.v3White.Guided zone false (commands (plan zone s operation).all) := by
  cases operation with
  | setPower on => exact setPower_guided hz on
  | setHsb hue saturation brightness =>
    cases brightness with
    | none => trivial
    | some value => exact setBrightness_guided hz value s
  | nightMode => exact Family.guided_single (t := nightTable) (by decide) hz
  | setColorTemperature value => exact setColorTemperature_guided hz value s
  | changeColorTemperature delta =>
    simp only [plan, changeColorTemperature]
    split
    · trivial
    · exact guided_once on_mem hz rfl (by simp [temperatureMove_steady])
  | setBrightness value => exact setBrightness_guided hz value s
  | changeBrightness delta =>
    simp only [plan, changeBrightness]
    split
    · split
      · exact setPower_guided hz false
      · apply guided_once on_mem hz rfl
        simp [dimmer_steady, Move.store_steady, storeBrightness]
    · split
      · exact guided_once on_mem hz rfl (by simp [brighter_steady])
      · trivial
  | setLedMode mode =>
    simp only [plan, setLedMode]
    split
    · trivial
    · apply guided_opened on_mem hz rfl
      · simp
      · simp [Stretch.Each, modeMove_steady, Move.store_steady, Stretch.once]
  | nextAnimationMode => exact guided_once on_mem hz rfl (by simp [modeMove_steady])
  | previousAnimationMode =>
    exact guided_once on_mem hz rfl (by simp [modeMove_steady])
  | _ => trivial

end White

/-! ## Colour and white bulbs -/

namespace Rgbw

variable {zone : UInt8}

theorem on_mem : onTable ∈ Family.v3Rgbw.selectors := by decide

theorem setPower_guided (hz : Family.v3Rgbw.hasZone zone = true) (on : Bool) :
    Family.v3Rgbw.Guided zone false [zoneByte (if on then onTable else offTable) zone] :=
  Family.guided_switch (by decide) (by decide) hz on

theorem colorMove_steady (hue : Float32) : (colorMove hue).Steady .v3Rgbw zone :=
  Move.steady_of_command rfl (by decide) zone

theorem brightnessMove_steady (value : Int) : (brightnessMove value).Steady .v3Rgbw zone :=
  Move.steady_of_command rfl (by decide) zone

theorem modeMove_steady : modeMove.Steady .v3Rgbw zone :=
  Move.steady_of_command rfl (by decide) zone

theorem speedMove_steady (up : Bool) : (speedMove up).Steady .v3Rgbw zone := by
  cases up with
  | true => exact Move.steady_of_command rfl (by decide) zone
  | false => exact Move.steady_of_command rfl (by decide) zone

theorem whiteMode_guided (hz : Family.v3Rgbw.hasZone zone = true) :
    Family.v3Rgbw.Guided zone false (commands (Plan.moves (whiteMode zone)).all) := by
  apply guided_once on_mem hz rfl
  rw [List.forall_mem_singleton]
  rintro c ⟨⟩
  exact Family.steady_selector (by decide)

theorem setBrightness_guided (hz : Family.v3Rgbw.hasZone zone = true) (value : Int) :
    Family.v3Rgbw.Guided zone false (commands (Plan.moves (setBrightness zone value)).all) := by
  unfold setBrightness
  split
  · exact setPower_guided hz false
  · exact guided_once on_mem hz rfl (by simp [brightnessMove_steady])

theorem setHsb_guided (hz : Family.v3Rgbw.hasZone zone = true) (hue : Float32)
    (saturation brightness : Option Int) :
    Family.v3Rgbw.Guided zone false
      (commands (Plan.moves (setHsb zone hue saturation brightness)).all) := by
  unfold setHsb
  split
  · exact whiteMode_guided hz
  · have hc : Family.v3Rgbw.Guided zone false
        (commands (Plan.moves [.once [powerMove zone true, colorMove hue]]).all) :=
      guided_once on_mem hz rfl (by simp [colorMove_steady])
    cases brightness with
    | none => exact hc
    | some value =>
      rw [Plan.all, List.flatMap_singleton] at hc
      exact guided_cons hc (setBrightness_guided hz value)

theorem plan_guided (hz : Family.v3Rgbw.hasZone zone = true) (s : LightState)
    (operation : Operation) :
    Family.v3Rgbw.Guided zone false (commands (plan zone s operation).all) := by
  cases operation with
  | setPower on => exact setPower_guided hz on
  | setHsb hue saturation brightness => exact setHsb_guided hz hue saturation brightness
  | whiteMode => exact whiteMode_guided hz
  | nightMode =>
    change Family.v3Rgbw.Guided zone false [zoneByte offTable zone, zoneByte nightTable zone]
    apply Family.guided_named
    rw [List.forall_mem_cons, List.forall_mem_singleton]
    exact ⟨Family.names_zoneByte (by decide) hz, Family.names_zoneByte (by decide) hz⟩
  | setBrightness value => exact setBrightness_guided hz value
  | changeBrightness delta =>
    simp only [plan]
    split
    · trivial
    · exact setBrightness_guided hz _
  | setLedMode mode =>
    exact guided_stepped on_mem hz rfl fun _ => modeMove_steady
  | nextAnimationMode => exact guided_once on_mem hz rfl (by simp [modeMove_steady])
  | previousAnimationMode =>
    exact guided_once on_mem hz rfl (by simp [modeMove_steady])
  | changeSpeed delta =>
    simp only [plan]
    split
    · trivial
    · exact guided_once on_mem hz rfl (by simp [speedMove_steady])
  | setAnimationSpeed speed =>
    -- Every round switches the zone on anew.
    have h : Family.v3Rgbw.Guided zone false (commands (Plan.moves
        [.once [powerMove zone true, speedMove (s.animationSpeed < speed)]]).all) :=
      guided_once on_mem hz rfl (by simp [speedMove_steady])
    rw [Plan.all, List.flatMap_singleton, Stretch.once_all] at h
    exact guided_cons (guided_rounds fun _ => h) trivial
  | _ => trivial

end Rgbw

end LightBridge
