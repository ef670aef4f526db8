import LightBridge.Proofs.Light.Dimming
import LightBridge.Proofs.Light.Unable

/-!
# The range of what is stored

Brightness, saturation, temperature and mode of a light are clamped wherever
they are stored, in each encoder in its own place, so no operation takes them
out of their ranges, completed or not. Each step of the animation speed is
clamped, but a call that asks for a speed stores it as it is when its steps are
done.
-/

set_option autoImplicit false

namespace LightBridge

namespace LightState

/-- What is clamped wherever it is stored. -/
structure Clamped (s : LightState) : Prop where
  brightness : 0 ≤ s.brightness ∧ s.brightness ≤ 100
  saturation : 0 ≤ s.saturation ∧ s.saturation ≤ 100
  colorTemperature : 0 ≤ s.colorTemperature ∧ s.colorTemperature ≤ 100
  ledMode : 0 ≤ s.ledMode ∧ s.ledMode ≤ 9

/-- All values in their ranges, except that the speed may also be one of the
given ones. -/
structure Ranged (speeds : Int → Prop) (s : LightState) : Prop extends Clamped s where
  speed : (0 ≤ s.animationSpeed ∧ s.animationSpeed ≤ 100) ∨ speeds s.animationSpeed

def InRange (s : LightState) : Prop :=
  s.Clamped ∧ 0 ≤ s.animationSpeed ∧ s.animationSpeed ≤ 100

theorem initial_inRange : initial.InRange :=
  ⟨⟨by decide, by decide, by decide, by decide⟩, by decide⟩

variable {speeds : Int → Prop}

theorem InRange.ranged {s : LightState} (h : s.InRange) : s.Ranged speeds :=
  { h.1 with speed := .inl h.2 }

theorem Ranged.inRange {s : LightState} (h : s.Ranged speeds)
    (hs : ∀ speed, speeds speed → 0 ≤ speed ∧ speed ≤ 100) : s.InRange :=
  ⟨h.toClamped, h.speed.elim id (hs _)⟩

/-- What is recorded keeps the ranges. -/
def Keeps (speeds : Int → Prop) (record : LightState → LightState) : Prop :=
  ∀ s, s.Ranged speeds → (record s).Ranged speeds

theorem keeps_id : Keeps speeds id := fun _ h => h

theorem keeps_power (on : Bool) : Keeps speeds fun s => { s with power := on } :=
  fun _ h => { h with }

theorem keeps_hue (hue : Float32) : Keeps speeds fun s => { s with hue } :=
  fun _ h => { h with }

theorem keeps_brightness {value : Int} (hv : 0 ≤ value ∧ value ≤ 100) :
    Keeps speeds fun s => { s with brightness := value } :=
  fun _ h => { h with brightness := hv }

/-- A step down ends at 0. -/
theorem Clamped.dimmed {s : LightState} (h : s.Clamped) :
    0 ≤ max (s.brightness-10) 0 ∧ max (s.brightness-10) 0 ≤ 100 := by
  have hb := h.brightness
  omega

/-- A step up ends at 100. -/
theorem keeps_brightened :
    Keeps speeds fun s => { s with brightness := min (s.brightness+10) 100 } := by
  intro s h
  have hb := h.brightness
  exact keeps_brightness (by omega) s h

theorem keeps_saturation {value : Int} (hv : 0 ≤ value ∧ value ≤ 100) :
    Keeps speeds fun s => { s with saturation := value } :=
  fun _ h => { h with saturation := hv }

theorem keeps_temperature {value : Int} (hv : 0 ≤ value ∧ value ≤ 100) :
    Keeps speeds fun s => { s with colorTemperature := value } :=
  fun _ h => { h with colorTemperature := hv }

theorem keeps_mode {mode : Int} (hv : 0 ≤ mode ∧ mode ≤ 9) :
    Keeps speeds fun s => { s with ledMode := mode } :=
  fun _ h => { h with ledMode := hv }

theorem keeps_speed {value : Int} (hv : (0 ≤ value ∧ value ≤ 100) ∨ speeds value) :
    Keeps speeds fun s => { s with animationSpeed := value } :=
  fun _ h => { h with speed := hv }

end LightState

open LightState

theorem Plan.clamp_range {lo hi : Int} (h : lo ≤ hi) (x : Int) :
    lo ≤ clamp lo hi x ∧ clamp lo hi x ≤ hi := by
  unfold clamp
  omega

theorem Plan.clampMode_range (mode : Int) : 0 ≤ clampMode mode ∧ clampMode mode ≤ 9 := by
  have h : 1 ≤ clampMode mode ∧ clampMode mode ≤ 9 := clamp_range (by decide) mode
  omega

/-! ## Moves and stretches -/

def Move.record : Move → LightState → LightState
  | .send _ record => record
  | .store record => record

def Stretch.Keeps (speeds : Int → Prop) (st : Stretch) : Prop :=
  ∀ m ∈ st.all, LightState.Keeps speeds m.record

namespace Stretch

variable {speeds : Int → Prop}

theorem once_keeps (ms : List Move) :
    (once ms).Keeps speeds ↔ ∀ m ∈ ms, LightState.Keeps speeds m.record := by
  simp [Keeps]

theorem keeps_optional {p : Prop} [Decidable p] {ms : List Move}
    (h : ∀ m ∈ ms, LightState.Keeps speeds m.record) :
    ∀ st ∈ if p then [once ms] else [], st.Keeps speeds := by
  split
  · exact List.forall_mem_singleton.mpr ((once_keeps ms).mpr h)
  · exact List.forall_mem_nil _

/-- The rounds of a stretch have numbers from 1 up to its count. -/
theorem keeps_of_rounds {st : Stretch}
    (h : ∀ round, round ≤ st.count → ∀ m ∈ st.moves round, LightState.Keeps speeds m.record) :
    st.Keeps speeds := by
  intro m hm
  obtain ⟨round, hr, hm⟩ := List.mem_flatMap.mp hm
  have hle : round ≤ st.count := by
    have := (List.mem_range'_1.mp hr).2
    omega
  exact h round hle m hm

end Stretch

open Stretch

theorem Plan.keeps_of_stretches {speeds : Int → Prop} {stretches : List Stretch}
    (h : ∀ st ∈ stretches, st.Keeps speeds) :
    ∀ m ∈ (Plan.moves stretches).all, LightState.Keeps speeds m.record := by
  intro m hm
  obtain ⟨st, hst, hm⟩ := List.mem_flatMap.mp hm
  exact h st hst m hm

/-- The moves keep the ranges, until the last one stores the speed as it is. -/
def Plan.StoresSpeed (speed : Int) (ms : List Move) : Prop :=
  ∃ steps, ms = steps ++ [.store fun s => { s with animationSpeed := speed }] ∧
    ∀ speeds, ∀ m ∈ steps, LightState.Keeps speeds m.record

theorem Plan.storesSpeed_of_steps {st : Stretch} (speed : Int) (h : ∀ speeds, st.Keeps speeds) :
    StoresSpeed speed
      (Plan.moves [st, once [.store fun s => { s with animationSpeed := speed }]]).all :=
  ⟨st.all, by simp [Plan.all], h⟩

open Plan

/-! ## Colour bulbs of the oldest bridges -/

namespace Rgb

variable {speeds : Int → Prop}

theorem setBrightness_keeps (value : Int) (s : LightState) :
    ∀ st ∈ setBrightness value s, st.Keeps speeds := by
  unfold setBrightness
  split
  · simp only [List.forall_mem_cons, ↓List.forall_mem_singleton, once_keeps]
    exact ⟨keeps_power false, keeps_brightness (by decide)⟩
  · have hmin : 0 ≤ min value 100 ∧ min value 100 ≤ 100 := by omega
    dsimp only
    split
    · simp only [List.forall_mem_singleton, once_keeps]
      exact keeps_brightness hmin
    · simp only [List.forall_mem_cons, ↓List.forall_mem_singleton, once_keeps]
      refine ⟨keeps_power true, keeps_of_rounds fun round _ => ?_, keeps_brightness hmin⟩
      rw [List.forall_mem_singleton]
      exact fun x h => keeps_brightness (clamp_range (by decide) _) x h

theorem changeBrightness_keeps (delta : Int) {s : LightState} (h : s.Ranged speeds) :
    ∀ st ∈ changeBrightness delta s, st.Keeps speeds := by
  unfold changeBrightness brightnessStep
  split
  · dsimp only
    split <;> simp only [List.forall_mem_cons, ↓List.forall_mem_singleton, once_keeps]
    · exact ⟨keeps_power false, keeps_brightness h.dimmed⟩
    · exact ⟨keeps_power true, keeps_id, keeps_brightness h.dimmed⟩
  · split
    · simp only [List.forall_mem_cons, ↓List.forall_mem_singleton, once_keeps]
      exact ⟨keeps_power true, keeps_brightened⟩
    · exact List.forall_mem_nil _

theorem plan_keeps {s : LightState} (h : s.Ranged speeds) (operation : Operation) :
    ∀ m ∈ (plan s operation).all, Keeps speeds m.record := by
  cases operation with
  | setPower on =>
    apply keeps_of_stretches
    simp only [List.forall_mem_singleton, once_keeps]
    exact keeps_power on
  | setHsb hue saturation brightness =>
    by_cases hs : saturation.any (· < 50) = true
    · simp [plan, hs, Plan.all]
    · simp only [plan, if_neg hs]
      apply keeps_of_stretches
      simp only [List.forall_mem_cons, ↓List.forall_mem_singleton, once_keeps]
      refine ⟨keeps_hue _, ?_⟩
      cases brightness with
      | none => exact List.forall_mem_nil _
      | some value => exact setBrightness_keeps value s
  | setBrightness value => exact keeps_of_stretches (setBrightness_keeps value s)
  | changeBrightness delta => exact keeps_of_stretches (changeBrightness_keeps delta h)
  | _ => exact List.forall_mem_nil _

end Rgb

/-! ## Colour and white bulbs of the third generation -/

namespace Rgbw

variable {speeds : Int → Prop} (zone : UInt8)

theorem speedMove_keeps (up : Bool) : Keeps speeds (speedMove up).record :=
  fun s h => keeps_speed (.inl (clamp_range (by decide) _)) s h

theorem modeMove_keeps : Keeps speeds modeMove.record := by
  intro s h
  refine keeps_mode ?_ s h
  unfold modeAfter inModes Plan.firstMode Plan.lastMode
  split
  · rename_i hm
    simp only [Bool.and_eq_true, decide_eq_true_eq] at hm
    rw [Int.tmod_eq_emod_of_nonneg (by omega)]
    omega
  · decide

theorem whiteMode_keeps : ∀ st ∈ whiteMode zone, st.Keeps speeds := by
  unfold whiteMode
  simp only [List.forall_mem_cons, ↓List.forall_mem_singleton, once_keeps]
  exact ⟨keeps_power true, keeps_id⟩

theorem setBrightness_keeps (value : Int) : ∀ st ∈ setBrightness zone value, st.Keeps speeds := by
  unfold setBrightness
  split <;> simp only [List.forall_mem_cons, ↓List.forall_mem_singleton, once_keeps]
  · exact ⟨keeps_power false, keeps_brightness (by decide)⟩
  · exact ⟨keeps_power true, keeps_brightness (by omega)⟩

theorem setHsb_keeps (hue : Float32) (saturation brightness : Option Int) :
    ∀ st ∈ setHsb zone hue saturation brightness, st.Keeps speeds := by
  unfold setHsb
  split
  · exact whiteMode_keeps zone
  · simp only [List.forall_mem_cons, ↓List.forall_mem_singleton, once_keeps]
    refine ⟨⟨keeps_power true, keeps_hue _⟩, ?_⟩
    cases brightness with
    | none => exact List.forall_mem_nil _
    | some value => exact setBrightness_keeps zone value

theorem setLedMode_keeps (mode : Int) (s : LightState) :
    ∀ st ∈ setLedMode zone mode s, st.Keeps speeds := by
  simp only [setLedMode, List.forall_mem_append, List.forall_mem_cons, ↓List.forall_mem_singleton,
    once_keeps]
  refine ⟨keeps_optional (List.forall_mem_singleton.mpr (keeps_power true)),
    keeps_of_rounds fun round _ => ?_, keeps_mode (clampMode_range mode)⟩
  rw [List.forall_mem_singleton]
  exact modeMove_keeps

theorem setAnimationSpeed_stores (speed : Int) (s : LightState) :
    StoresSpeed speed (Plan.moves (setAnimationSpeed zone speed s)).all := by
  refine storesSpeed_of_steps speed fun speeds => keeps_of_rounds fun round _ => ?_
  simp only [List.forall_mem_cons, ↓List.forall_mem_singleton]
  exact ⟨keeps_power true, speedMove_keeps _⟩

theorem plan_keeps {operation : Operation}
    (hs : ∀ speed, operation ≠ .setAnimationSpeed speed) (s : LightState) :
    ∀ m ∈ (plan zone s operation).all, Keeps speeds m.record := by
  cases operation with
  | setPower on =>
    apply keeps_of_stretches
    simp only [List.forall_mem_singleton, once_keeps]
    exact keeps_power on
  | setHsb hue saturation brightness => exact keeps_of_stretches (setHsb_keeps zone hue _ _)
  | whiteMode => exact keeps_of_stretches (whiteMode_keeps zone)
  | nightMode =>
    apply keeps_of_stretches
    unfold nightMode
    simp only [List.forall_mem_cons, ↓List.forall_mem_singleton, once_keeps]
    exact ⟨keeps_id, keeps_id⟩
  | setBrightness value => exact keeps_of_stretches (setBrightness_keeps zone value)
  | changeBrightness delta =>
    apply keeps_of_stretches
    split
    · exact List.forall_mem_nil _
    · exact setBrightness_keeps zone _
  | setLedMode mode => exact keeps_of_stretches (setLedMode_keeps zone mode s)
  | nextAnimationMode | previousAnimationMode =>
    apply keeps_of_stretches
    simp only [List.forall_mem_cons, ↓List.forall_mem_singleton, once_keeps]
    exact ⟨keeps_power true, modeMove_keeps⟩
  | setAnimationSpeed speed => exact absurd rfl (hs speed)
  | changeSpeed delta =>
    apply keeps_of_stretches
    split
    · exact List.forall_mem_nil _
    · simp only [List.forall_mem_cons, ↓List.forall_mem_singleton, once_keeps]
      exact ⟨keeps_power true, speedMove_keeps _⟩
  | _ => exact List.forall_mem_nil _

end Rgbw

/-! ## White bulbs of the third generation -/

namespace White

open Zoned

variable {speeds : Int → Prop} (zone : UInt8)

theorem temperatureMove_keeps (up : Bool) (l : Int) :
    Keeps speeds (temperatureMove up l).record := by
  have hl : 1 ≤ Plan.clamp 1 levels l ∧ Plan.clamp 1 levels l ≤ 11 := clamp_range (by decide) l
  have hp := percent_range hl.1 hl.2
  exact keeps_temperature ⟨Int.le_of_lt hp.1, hp.2⟩

theorem modeMove_keeps (next : Bool) : Keeps speeds (modeMove next).record :=
  fun s h => keeps_mode (clampMode_range _) s h

theorem temperatureGoal_range (value : Int) (s : LightState) :
    0 ≤ (temperatureGoal value s).1 ∧ (temperatureGoal value s).1 ≤ 100 := by
  unfold temperatureGoal
  split
  · decide
  · split
    · decide
    · simp only
      omega

theorem setColorTemperature_keeps (value : Int) (s : LightState) :
    ∀ st ∈ setColorTemperature zone value s, st.Keeps speeds := by
  have hv := temperatureGoal_range value s
  simp only [setColorTemperature, List.forall_mem_append, List.forall_mem_cons,
    ↓List.forall_mem_singleton, once_keeps]
  refine ⟨keeps_optional (List.forall_mem_singleton.mpr (keeps_power true)),
    keeps_of_rounds fun round _ => ?_, keeps_temperature hv⟩
  rw [List.forall_mem_singleton]
  exact temperatureMove_keeps _ _

theorem changeColorTemperature_keeps (delta : Int) (s : LightState) :
    ∀ st ∈ changeColorTemperature zone delta s, st.Keeps speeds := by
  unfold changeColorTemperature
  split
  · exact List.forall_mem_nil _
  · simp only [List.forall_mem_cons, ↓List.forall_mem_singleton, once_keeps]
    exact ⟨keeps_power true, temperatureMove_keeps _ _⟩

theorem setBrightness_keeps (value : Int) {s : LightState} (h : s.Ranged speeds) :
    ∀ st ∈ setBrightness zone value s, st.Keeps speeds := by
  have hfull : Keeps speeds (fullMove zone).record :=
    fun s h => keeps_brightness (by decide) { s with power := true } (keeps_power true s h)
  unfold setBrightness
  split
  · simp only [List.forall_mem_cons, ↓List.forall_mem_singleton, once_keeps]
    exact ⟨keeps_power false, keeps_brightness (by decide)⟩
  split
  · simp only [List.forall_mem_singleton, once_keeps]
    exact hfull
  · rename_i hlow hhigh
    have hb := h.brightness
    have hhere : 1 ≤ (if s.brightness ≤ 0 then levels else level s.brightness levels) ∧
        (if s.brightness ≤ 0 then levels else level s.brightness levels) ≤ 11 := by
      split
      · decide
      · exact level_range (by omega) hb.2
    have htarget : 1 ≤ level value levels ∧ level value levels ≤ 11 :=
      level_range (by omega) (by omega)
    simp only [List.forall_mem_cons, ↓List.forall_mem_singleton, once_keeps]
    generalize (if s.brightness ≤ 0 then levels else level s.brightness levels) = here at hhere ⊢
    refine ⟨?_, keeps_of_rounds fun round hround => ?_, keeps_brightness (by omega)⟩
    · split
      · exact hfull
      · exact keeps_power true
    · rw [List.forall_mem_singleton]
      have hr := (reached_between here (level value levels) hhere htarget).1 round hround
      have hp := percent_range hr.1 hr.2
      exact keeps_brightness ⟨Int.le_of_lt hp.1, hp.2⟩

theorem changeBrightness_keeps (delta : Int) {s : LightState} (h : s.Ranged speeds) :
    ∀ st ∈ changeBrightness zone delta s, st.Keeps speeds := by
  unfold changeBrightness
  split
  · dsimp only
    split <;> simp only [List.forall_mem_cons, ↓List.forall_mem_singleton, once_keeps]
    · exact ⟨keeps_power false, keeps_brightness h.dimmed⟩
    · exact ⟨keeps_power true, keeps_id, keeps_brightness h.dimmed⟩
  · split
    · simp only [List.forall_mem_cons, ↓List.forall_mem_singleton, once_keeps]
      exact ⟨keeps_power true, keeps_brightened⟩
    · exact List.forall_mem_nil _

theorem setLedMode_keeps (mode : Int) (s : LightState) :
    ∀ st ∈ setLedMode zone mode s, st.Keeps speeds := by
  unfold setLedMode
  dsimp only
  split
  · exact List.forall_mem_nil _
  · simp only [List.forall_mem_cons, ↓List.forall_mem_singleton, once_keeps]
    refine ⟨keeps_power true, keeps_of_rounds fun round _ => ?_,
      keeps_mode (clampMode_range mode)⟩
    rw [List.forall_mem_singleton]
    exact modeMove_keeps _

theorem plan_keeps {s : LightState} (h : s.Ranged speeds) (operation : Operation) :
    ∀ m ∈ (plan zone s operation).all, Keeps speeds m.record := by
  cases operation with
  | setPower on =>
    apply keeps_of_stretches
    simp only [List.forall_mem_singleton, once_keeps]
    exact keeps_power on
  | setHsb hue saturation brightness =>
    cases brightness with
    | none => exact List.forall_mem_nil _
    | some value => exact keeps_of_stretches (setBrightness_keeps zone value h)
  | nightMode =>
    apply keeps_of_stretches
    simp only [List.forall_mem_singleton, once_keeps]
    exact keeps_id
  | setColorTemperature value => exact keeps_of_stretches (setColorTemperature_keeps zone value s)
  | changeColorTemperature delta =>
    exact keeps_of_stretches (changeColorTemperature_keeps zone delta s)
  | setBrightness value => exact keeps_of_stretches (setBrightness_keeps zone value h)
  | changeBrightness delta => exact keeps_of_stretches (changeBrightness_keeps zone delta h)
  | setLedMode mode => exact keeps_of_stretches (setLedMode_keeps zone mode s)
  | nextAnimationMode | previousAnimationMode =>
    apply keeps_of_stretches
    simp only [List.forall_mem_cons, ↓List.forall_mem_singleton, once_keeps]
    exact ⟨keeps_power true, modeMove_keeps _⟩
  | _ => exact List.forall_mem_nil _

end White

/-! ## Bulbs of session bridges -/

namespace SessionBulb

variable {speeds : Int → Prop} (c : CommandSet)

theorem speedMove_keeps (up : Bool) : Keeps speeds (speedMove c up).record :=
  fun s h => keeps_speed (.inl (clamp_range (by decide) _)) s h

theorem whiteMode_keeps : ∀ st ∈ whiteMode c, st.Keeps speeds := by
  simp only [whiteMode, List.forall_mem_singleton, once_keeps]
  exact keeps_id

theorem setBrightness_keeps (value : Int) (s : LightState) :
    ∀ st ∈ setBrightness c value s, st.Keeps speeds := by
  unfold setBrightness
  split <;> simp only [List.forall_mem_cons, ↓List.forall_mem_singleton, once_keeps,
    List.forall_mem_append]
  · exact ⟨keeps_power false, keeps_brightness (by decide)⟩
  · refine ⟨?_, keeps_brightness (by omega)⟩
    split
    · rw [List.forall_mem_singleton]
      exact keeps_power true
    · exact List.forall_mem_nil _

theorem setSaturation_keeps (command : UInt8) (value : Int) :
    ∀ st ∈ setSaturation command value, st.Keeps speeds := by
  simp only [setSaturation, List.forall_mem_singleton, once_keeps]
  exact keeps_saturation (clamp_range (by decide) value)

theorem setHsb_keeps (hue : Float32) (saturation brightness : Option Int) (s : LightState) :
    ∀ st ∈ setHsb c hue saturation brightness s, st.Keeps speeds := by
  unfold setHsb
  split
  · exact whiteMode_keeps c
  · simp only [List.forall_mem_cons, ↓List.forall_mem_singleton, once_keeps, List.forall_mem_append]
    refine ⟨keeps_hue _, ?_, ?_⟩
    · cases brightness with
      | none => exact List.forall_mem_nil _
      | some value => exact setBrightness_keeps c value s
    · split
      · exact setSaturation_keeps _ _
      · exact List.forall_mem_nil _

theorem setColorTemperature_keeps (command : UInt8) (value : Int) :
    ∀ st ∈ setColorTemperature command value, st.Keeps speeds := by
  simp only [setColorTemperature, List.forall_mem_singleton, once_keeps]
  exact keeps_temperature (clamp_range (by decide) value)

theorem setLedMode_keeps (mode : Int) : ∀ st ∈ setLedMode c mode, st.Keeps speeds := by
  simp only [setLedMode, List.forall_mem_singleton, once_keeps]
  exact keeps_mode (clampMode_range mode)

theorem setAnimationSpeed_stores (speed : Int) (s : LightState) :
    StoresSpeed speed (Plan.moves (setAnimationSpeed c speed s)).all := by
  refine storesSpeed_of_steps speed fun speeds => keeps_of_rounds fun round _ => ?_
  rw [List.forall_mem_singleton]
  exact speedMove_keeps c _

theorem planValid_keeps (canLink : Bool) {operation : Operation}
    (hs : ∀ speed, operation ≠ .setAnimationSpeed speed) (s : LightState) :
    ∀ m ∈ (planValid c canLink s operation).all, Keeps speeds m.record := by
  cases operation with
  | setPower on =>
    apply keeps_of_stretches
    simp only [List.forall_mem_singleton, once_keeps]
    exact keeps_power on
  | setHsb hue saturation brightness => exact keeps_of_stretches (setHsb_keeps c hue _ _ s)
  | whiteMode => exact keeps_of_stretches (whiteMode_keeps c)
  | nightMode =>
    simp only [planValid]
    split
    · exact List.forall_mem_nil _
    · apply keeps_of_stretches
      simp only [List.forall_mem_cons, ↓List.forall_mem_singleton, once_keeps]
      exact ⟨keeps_power true, keeps_id⟩
  | setBrightness value => exact keeps_of_stretches (setBrightness_keeps c value s)
  | changeBrightness delta =>
    apply keeps_of_stretches
    split
    · exact List.forall_mem_nil _
    · exact setBrightness_keeps c _ s
  | setSaturation value =>
    simp only [planValid]
    split
    · exact List.forall_mem_nil _
    · exact keeps_of_stretches (setSaturation_keeps _ value)
  | setColorTemperature value =>
    simp only [planValid]
    split
    · exact List.forall_mem_nil _
    · exact keeps_of_stretches (setColorTemperature_keeps _ value)
  | changeColorTemperature delta =>
    simp only [planValid]
    split
    · exact List.forall_mem_nil _
    · apply keeps_of_stretches
      unfold changeColorTemperature
      split
      · exact List.forall_mem_nil _
      · exact setColorTemperature_keeps _ _
  | setLedMode mode => exact keeps_of_stretches (setLedMode_keeps c mode)
  | nextAnimationMode | previousAnimationMode => exact keeps_of_stretches (setLedMode_keeps c _)
  | setAnimationSpeed speed => exact absurd rfl (hs speed)
  | changeSpeed delta =>
    apply keeps_of_stretches
    split
    · exact List.forall_mem_nil _
    · simp only [List.forall_mem_singleton, once_keeps]
      exact speedMove_keeps c _
  | link | unlink =>
    simp only [planValid]
    split
    · apply keeps_of_stretches
      simp only [List.forall_mem_singleton, once_keeps]
      exact keeps_id
    · exact List.forall_mem_nil _

theorem plan_keeps (canLink isValid : Bool) {operation : Operation}
    (hs : ∀ speed, operation ≠ .setAnimationSpeed speed) (s : LightState) :
    ∀ m ∈ (plan c canLink isValid s operation).all, Keeps speeds m.record := by
  have h : ∀ m ∈ (planValid c canLink s operation).all, Keeps speeds m.record :=
    planValid_keeps c canLink hs s
  unfold plan
  split
  · rename_i stretches hp
    split
    · exact hp ▸ h
    · exact List.forall_mem_nil _
  · exact h

end SessionBulb

/-! ## Plans of all bulbs -/

namespace Bulb

theorem plan_keeps (b : Bulb) (isValid : Bool) {speeds : Int → Prop} {s : LightState}
    (h : s.Ranged speeds) {operation : Operation}
    (hs : ∀ speed, operation ≠ .setAnimationSpeed speed) :
    ∀ m ∈ (b.plan isValid s operation).all, LightState.Keeps speeds m.record := by
  obtain ⟨family, zone⟩ := b
  cases family with
  | v2Rgb => exact Rgb.plan_keeps h operation
  | v3White => exact White.plan_keeps zone h operation
  | v3Rgbw => exact Rgbw.plan_keeps zone hs s
  | v6RgbCwWw | v6Rgbw | v6BridgeLamp => exact SessionBulb.plan_keeps _ _ isValid hs s

/-- Whether the bulb does anything when it is asked for a speed. -/
def takesSpeed (b : Bulb) (isValid : Bool) : Bool :=
  b.family.supports .animationSpeed && (b.family.protocol != .v6 || isValid)

theorem plan_storesSpeed {b : Bulb} {isValid : Bool} (h : b.takesSpeed isValid = true)
    (s : LightState) (speed : Int) :
    StoresSpeed speed (b.plan isValid s (.setAnimationSpeed speed)).all := by
  obtain ⟨family, zone⟩ := b
  cases family with
  | v2Rgb | v3White => cases h
  | v3Rgbw => exact Rgbw.setAnimationSpeed_stores zone speed s
  | v6RgbCwWw | v6Rgbw | v6BridgeLamp =>
    obtain rfl : isValid = true := h
    exact SessionBulb.setAnimationSpeed_stores _ speed s

theorem plan_speedless {b : Bulb} {isValid : Bool} (h : b.takesSpeed isValid = false)
    (s : LightState) (speed : Int) : (b.plan isValid s (.setAnimationSpeed speed)).all = [] := by
  cases hs : b.family.supports .animationSpeed with
  | false =>
    have hl : b.family.Lacks (.setAnimationSpeed speed) := ⟨hs, fun hw => by cases hw.2⟩
    rw [b.plan_of_lacking s isValid hl]
    rfl
  | true =>
    obtain ⟨hp, rfl⟩ : b.family.protocol = .v6 ∧ isValid = false := by
      simpa [takesSpeed, hs] using h
    have hc : b.family.supports (Operation.setAnimationSpeed speed).capability = true := hs
    rw [b.plan_of_invalid s hp hc]
    rfl

end Bulb

/-! ## Operations -/

namespace Progress

variable {speeds : Int → Prop} (wall : Nat) (b : Bulb)

theorem move_state (p : Progress) (m : Move) :
    (p.move wall b m).state = p.state ∨ (p.move wall b m).state = m.record p.state := by
  unfold move
  split
  · exact .inl rfl
  · cases m with
    | store record => exact .inr rfl
    | send command record =>
      dsimp only
      split
      · exact .inr rfl
      · exact .inl rfl

/-- Wherever the queue refuses a command, the ranges hold. -/
theorem foldl_keeps {ms : List Move} (hm : ∀ m ∈ ms, LightState.Keeps speeds m.record)
    {p : Progress} (h : p.state.Ranged speeds) :
    (ms.foldl (move wall b) p).state.Ranged speeds := by
  induction ms generalizing p with
  | nil => exact h
  | cons m ms ih =>
    obtain ⟨hk, hm⟩ := List.forall_mem_cons.mp hm
    refine ih hm ?_
    rcases p.move_state wall b m with hs | hs <;> rw [hs]
    · exact h
    · exact hk p.state h

end Progress

namespace Light

variable {speeds : Int → Prop} (wall : Nat) (light : Light) (l : Link)

/-- The speed that an operation stores as it is: the one that a call asks for,
if the bulb takes speeds and the queue refuses none of the steps. -/
def storedSpeed? : Operation → Option Int
  | .setAnimationSpeed speed =>
    if light.bulb.takesSpeed l.isValid &&
        (light.operate wall l (.setAnimationSpeed speed)).result.isOk then some speed
    else none
  | _ => none

/-- Up to the last move a call for a speed keeps the ranges. -/
theorem operate_speed (h : light.bulb.takesSpeed l.isValid = true) (speed : Int) :
    ∃ state : LightState, (∀ speeds, light.state.Ranged speeds → state.Ranged speeds) ∧
      (light.operate wall l (.setAnimationSpeed speed)).state =
        if (light.operate wall l (.setAnimationSpeed speed)).result.isOk
          then { state with animationSpeed := speed } else state := by
  obtain ⟨steps, hall, hk⟩ := Bulb.plan_storesSpeed h light.state speed
  obtain ⟨notices, hp⟩ := light.operate_eq wall l (.setAnimationSpeed speed)
  rw [hall, List.foldl_append, List.foldl_cons, List.foldl_nil] at hp
  refine ⟨(steps.foldl (Progress.move wall light.bulb) (.begin l light.state)).state,
    fun speeds hs => Progress.foldl_keeps wall light.bulb (hk speeds) hs, ?_⟩
  rw [hp]
  generalize steps.foldl (Progress.move wall light.bulb) (.begin l light.state) = p
  cases hr : p.refusal <;> simp [Progress.move, Progress.result, Except.isOk, Except.toBool, hr]

/-- An operation keeps the ranges, if the speed that it stores is one that
counts as in range. -/
theorem operate_ranged {operation : Operation} (h : light.state.Ranged speeds)
    (hs : ∀ speed ∈ light.storedSpeed? wall l operation, speeds speed) :
    (light.operate wall l operation).state.Ranged speeds := by
  obtain ⟨notices, hp⟩ := light.operate_eq wall l operation
  by_cases ho : ∃ speed, operation = .setAnimationSpeed speed
  · obtain ⟨speed, rfl⟩ := ho
    cases ht : light.bulb.takesSpeed l.isValid with
    | false =>
      rw [hp, Bulb.plan_speedless ht]
      exact h
    | true =>
      obtain ⟨state, hk, hstate⟩ := light.operate_speed wall l ht speed
      rw [hstate]
      split
      · rename_i hok
        exact keeps_speed (.inr (hs speed (by simp [storedSpeed?, ht, hok]))) state (hk speeds h)
      · exact hk speeds h
  · rw [hp]
    exact Progress.foldl_keeps wall light.bulb
      (light.bulb.plan_keeps l.isValid h fun speed he => ho ⟨speed, he⟩) h

theorem operate_stores {operation : Operation} {speed : Int}
    (h : light.storedSpeed? wall l operation = some speed) :
    (light.operate wall l operation).state.animationSpeed = speed := by
  unfold storedSpeed? at h
  split at h
  · split at h
    · rename_i hok
      rw [Bool.and_eq_true] at hok
      obtain ⟨state, _, hstate⟩ := light.operate_speed wall l hok.1 _
      rw [hstate, if_pos hok.2]
      exact Option.some.inj h
    · cases h
  · cases h

end Light

end LightBridge
