import LightBridge.Proofs.Light.Moves

/-!
# The moves that plans are made of

Whatever the operation and the state, the plans of a family are made of a few
kinds of moves. A stretch is told by its rounds, a plan by its stretches.
-/

set_option autoImplicit false

namespace LightBridge

/-- Plain commands go out without a session. -/
def Move.isPlain : Move → Bool
  | .send ⟨.plain .., _, _⟩ _ => true
  | .send _ _ => false
  | .store _ => true

theorem Move.plain_of_isPlain {command : Command} {record : LightState → LightState}
    (h : (Move.send command record).isPlain = true) : ∃ x y, command.payload = .plain x y := by
  obtain ⟨payload, category, repeatable⟩ := command
  cases payload with
  | plain x y => exact ⟨x, y, rfl⟩
  | _ => cases h

/-! ## The moves of a stretch -/

namespace Stretch

def Each (P : Move → Prop) (s : Stretch) : Prop := ∀ round, ∀ m ∈ s.moves round, P m

variable {P : Move → Prop}

@[simp] theorem once_each (ms : List Move) : (once ms).Each P ↔ ∀ m ∈ ms, P m :=
  ⟨fun h => h 0, fun h _ => h⟩

theorem each_of_all {stretches : List Stretch} (h : ∀ s ∈ stretches, s.Each P) :
    ∀ m ∈ (Plan.moves stretches).all, P m := by
  intro m hm
  obtain ⟨s, hs, hm⟩ := List.mem_flatMap.mp hm
  obtain ⟨round, _, hm⟩ := List.mem_flatMap.mp hm
  exact h s hs round m hm

end Stretch

open Stretch

/-! ## Colour bulbs of the oldest bridges -/

namespace Rgb

inductive Planned : Move → Prop where
  | power (on : Bool) : Planned (powerMove on)
  | color (hue : Float32) : Planned (colorMove hue)
  | dim (up : Bool) : Planned (dimMove up)
  | brightenOnce : Planned (.send brighter fun s =>
    { s with brightness := min (s.brightness+brightnessStep) 100 })
  | darkenOnce : Planned (.send dimmer id)
  | storeBrightness (value : Int) : Planned (storeBrightness value)

theorem Planned.isPlain {m : Move} (h : Planned m) : m.isPlain = true := by
  cases h with
  | dim up => cases up <;> rfl
  | _ => rfl

theorem setBrightness_planned (value : Int) (s : LightState) :
    ∀ st ∈ setBrightness value s, st.Each Planned := by
  unfold setBrightness
  split
  · simp [Planned.power, Planned.storeBrightness]
  · dsimp only
    split
    · simp [Planned.storeBrightness]
    · rw [List.forall_mem_cons, List.forall_mem_cons, List.forall_mem_singleton, once_each,
        once_each]
      exact ⟨by simp [Planned.power], fun _ => by simp [Planned.dim],
        by simp [Planned.storeBrightness]⟩

theorem changeBrightness_planned (delta : Int) (s : LightState) :
    ∀ st ∈ changeBrightness delta s, st.Each Planned := by
  unfold changeBrightness
  split
  · dsimp only
    split <;> simp [Planned.power, Planned.storeBrightness, Planned.darkenOnce]
  · split <;> simp [Planned.power, Planned.brightenOnce]

theorem plan_planned (s : LightState) (operation : Operation) :
    ∀ m ∈ (plan s operation).all, Planned m := by
  cases operation with
  | setPower on => exact each_of_all (by simp [Planned.power])
  | setHsb hue saturation brightness =>
    by_cases hs : saturation.any (· < 50) = true
    · simp [plan, hs, Plan.all]
    · simp only [plan, if_neg hs]
      apply each_of_all
      rw [List.forall_mem_cons, once_each]
      constructor
      · simp [Planned.color]
      · cases brightness with
        | none => simp
        | some value => exact setBrightness_planned value s
  | setBrightness value => exact each_of_all (setBrightness_planned value s)
  | changeBrightness delta => exact each_of_all (changeBrightness_planned delta s)
  | _ =>
    intro m h
    cases h

end Rgb

/-! ## Colour and white bulbs of the third generation -/

namespace Rgbw

open Zoned

inductive Planned (zone : UInt8) : Move → Prop where
  | power (on : Bool) : Planned zone (powerMove zone on)
  | color (hue : Float32) : Planned zone (colorMove hue)
  | brightness (value : Int) (positive : 0 < value) (most : value ≤ 100) :
    Planned zone (brightnessMove value)
  | mode : Planned zone modeMove
  | speed (up : Bool) : Planned zone (speedMove up)
  | white : Planned zone (.send (.absolute .whiteMode (.plain (zoneByte whiteTable zone) 0)) id)
  | dim : Planned zone (.send (.single .nightMode1 (.plain (zoneByte offTable zone) 0)) id)
  | night : Planned zone (.send (.single .nightMode2 (.plain (zoneByte nightTable zone) 0)) id)
  | storeDark : Planned zone (.store fun s => { s with brightness := 0 })
  | storeMode (mode : Int) :
    Planned zone (.store fun s => { s with ledMode := Plan.clampMode mode })
  | storeSpeed (speed : Int) : Planned zone (.store fun s => { s with animationSpeed := speed })

theorem Planned.isPlain {zone : UInt8} {m : Move} (h : Planned zone m) : m.isPlain = true := by
  cases h <;> rfl

variable (zone : UInt8)

theorem whiteMode_planned : ∀ s ∈ whiteMode zone, s.Each (Planned zone) := by
  simp only [whiteMode, List.forall_mem_singleton, once_each, List.forall_mem_cons]
  exact ⟨.power true, .white⟩

theorem setBrightness_planned (value : Int) :
    ∀ s ∈ setBrightness zone value, s.Each (Planned zone) := by
  unfold setBrightness
  split <;> simp only [List.forall_mem_singleton, once_each, List.forall_mem_cons]
  · exact ⟨.power false, .storeDark⟩
  · exact ⟨.power true, .brightness _ (by omega) (Int.min_le_right _ _)⟩

theorem setHsb_planned (hue : Float32) (saturation brightness : Option Int) :
    ∀ s ∈ setHsb zone hue saturation brightness, s.Each (Planned zone) := by
  unfold setHsb
  split
  · exact whiteMode_planned zone
  · rw [List.forall_mem_cons, once_each]
    constructor
    · simp [Planned.power, Planned.color]
    · cases brightness with
      | none => simp
      | some value => exact setBrightness_planned zone value

theorem setLedMode_planned (mode : Int) (s : LightState) :
    ∀ st ∈ setLedMode zone mode s, st.Each (Planned zone) := by
  rw [setLedMode, List.forall_mem_append, List.forall_mem_cons, List.forall_mem_singleton,
    once_each]
  constructor
  · split <;> simp [Planned.power]
  · exact ⟨fun _ => by simp [Planned.mode], by simp [Planned.storeMode]⟩

theorem setAnimationSpeed_planned (speed : Int) (s : LightState) :
    ∀ st ∈ setAnimationSpeed zone speed s, st.Each (Planned zone) := by
  rw [setAnimationSpeed, List.forall_mem_cons, List.forall_mem_singleton, once_each]
  exact ⟨fun _ => by simp [Planned.power, Planned.speed], by simp [Planned.storeSpeed]⟩

theorem plan_planned (s : LightState) (operation : Operation) :
    ∀ m ∈ (plan zone s operation).all, Planned zone m := by
  cases operation with
  | setPower on => exact each_of_all (by simp [Planned.power])
  | setHsb hue saturation brightness => exact each_of_all (setHsb_planned zone hue _ _)
  | whiteMode => exact each_of_all (whiteMode_planned zone)
  | nightMode => exact each_of_all (by simp [nightMode, Planned.dim, Planned.night])
  | setBrightness value => exact each_of_all (setBrightness_planned zone value)
  | changeBrightness delta =>
    apply each_of_all
    split
    · simp
    · exact setBrightness_planned zone _
  | setLedMode mode => exact each_of_all (setLedMode_planned zone mode s)
  | nextAnimationMode => exact each_of_all (by simp [Planned.power, Planned.mode])
  | previousAnimationMode => exact each_of_all (by simp [Planned.power, Planned.mode])
  | setAnimationSpeed speed => exact each_of_all (setAnimationSpeed_planned zone speed s)
  | changeSpeed delta =>
    apply each_of_all
    split <;> simp [Planned.power, Planned.speed]
  | _ => exact fun _ h => nomatch h

end Rgbw

/-! ## White bulbs of the third generation -/

namespace White

open Zoned

inductive Planned (zone : UInt8) : Move → Prop where
  | power (on : Bool) : Planned zone (powerMove zone on)
  | full : Planned zone (fullMove zone)
  | brighten (value : Int) :
    Planned zone (.send brighter fun s => { s with brightness := value })
  | darken (value : Int) : Planned zone (.send dimmer fun s => { s with brightness := value })
  | brightenOnce :
    Planned zone (.send brighter fun s => { s with brightness := min (s.brightness+10) 100 })
  | darkenOnce : Planned zone (.send dimmer id)
  | temperature (up : Bool) (l : Int) : Planned zone (temperatureMove up l)
  | mode (next : Bool) : Planned zone (modeMove next)
  | night : Planned zone (.send (.absolute .nightMode1 (.plain (zoneByte nightTable zone) 0)) id)
  | storeBrightness (value : Int) : Planned zone (storeBrightness value)
  | storeTemperature (value : Int) :
    Planned zone (.store fun s => { s with colorTemperature := value })
  | storeMode (mode : Int) :
    Planned zone (.store fun s => { s with ledMode := Plan.clampMode mode })

theorem Planned.isPlain {zone : UInt8} {m : Move} (h : Planned zone m) : m.isPlain = true := by
  cases h with
  | temperature up l => cases up <;> rfl
  | mode next => cases next <;> rfl
  | _ => rfl

variable (zone : UInt8)

theorem setColorTemperature_planned (value : Int) (s : LightState) :
    ∀ st ∈ setColorTemperature zone value s, st.Each (Planned zone) := by
  unfold setColorTemperature
  rw [List.forall_mem_append, List.forall_mem_cons, List.forall_mem_singleton, once_each]
  constructor
  · split <;> simp [Planned.power]
  · exact ⟨fun _ => by simp [Planned.temperature], by simp [Planned.storeTemperature]⟩

theorem changeColorTemperature_planned (delta : Int) (s : LightState) :
    ∀ st ∈ changeColorTemperature zone delta s, st.Each (Planned zone) := by
  unfold changeColorTemperature
  split <;> simp [Planned.power, Planned.temperature]

theorem setBrightness_planned (value : Int) (s : LightState) :
    ∀ st ∈ setBrightness zone value s, st.Each (Planned zone) := by
  unfold setBrightness
  split
  · simp [Planned.power, Planned.storeBrightness]
  split
  · simp [Planned.full]
  · dsimp only
    generalize (if s.brightness ≤ 0 then levels else level s.brightness levels) = here
    rw [List.forall_mem_cons, List.forall_mem_cons, List.forall_mem_singleton, once_each, once_each]
    constructor
    · split <;> simp [Planned.power, Planned.full]
    constructor
    · intro round
      rw [List.forall_mem_singleton]
      split
      · exact .brighten _
      · exact .darken _
    · simp [Planned.storeBrightness]

theorem changeBrightness_planned (delta : Int) (s : LightState) :
    ∀ st ∈ changeBrightness zone delta s, st.Each (Planned zone) := by
  unfold changeBrightness
  split
  · dsimp only
    split <;> simp [Planned.power, Planned.storeBrightness, Planned.darkenOnce]
  · split <;> simp [Planned.power, Planned.brightenOnce]

theorem setLedMode_planned (mode : Int) (s : LightState) :
    ∀ st ∈ setLedMode zone mode s, st.Each (Planned zone) := by
  unfold setLedMode
  dsimp only
  split
  · simp
  · rw [List.forall_mem_cons, List.forall_mem_cons, List.forall_mem_singleton, once_each, once_each]
    exact ⟨by simp [Planned.power], fun _ => by simp [Planned.mode], by simp [Planned.storeMode]⟩

theorem plan_planned (s : LightState) (operation : Operation) :
    ∀ m ∈ (plan zone s operation).all, Planned zone m := by
  cases operation with
  | setPower on => exact each_of_all (by simp [Planned.power])
  | setHsb hue saturation brightness =>
    cases brightness with
    | none => exact fun _ h => nomatch h
    | some value => exact each_of_all (setBrightness_planned zone value s)
  | nightMode => exact each_of_all (by simp [Planned.night])
  | setColorTemperature value => exact each_of_all (setColorTemperature_planned zone value s)
  | changeColorTemperature delta =>
    exact each_of_all (changeColorTemperature_planned zone delta s)
  | setBrightness value => exact each_of_all (setBrightness_planned zone value s)
  | changeBrightness delta => exact each_of_all (changeBrightness_planned zone delta s)
  | setLedMode mode => exact each_of_all (setLedMode_planned zone mode s)
  | nextAnimationMode => exact each_of_all (by simp [Planned.power, Planned.mode])
  | previousAnimationMode => exact each_of_all (by simp [Planned.power, Planned.mode])
  | _ => exact fun _ h => nomatch h

end White

/-! ## Bulbs of session bridges -/

namespace SessionBulb

inductive Planned (c : CommandSet) : Move → Prop where
  | power (on : Bool) : Planned c (powerMove c on)
  | color (hue : Float32) : Planned c (colorMove hue)
  | brightness (value : Int) (positive : 0 < value) (most : value ≤ 100) :
    Planned c (brightnessMove c value)
  | saturation (command : UInt8) (value : Int) (known : c.saturation = some command) :
    Planned c (.send (.absolute .saturation (.pair command (levelByte value))) fun s =>
      { s with saturation := Plan.clamp 0 100 value })
  | temperature (command : UInt8) (value : Int) (known : c.temperature = some command)
      (least : 0 ≤ value) (most : value ≤ 100) :
    Planned c (.send (.absolute .temperature
      (.pair command (UInt8.ofInt (temperatureByte value)))) fun s =>
        { s with colorTemperature := value })
  | mode (mode : Int) (least : 1 ≤ mode) (most : mode ≤ 9) :
    Planned c (.send (.absolute .mode (.pair c.mode (UInt8.ofInt mode))) fun s =>
      { s with ledMode := mode })
  | speed (up : Bool) : Planned c (speedMove c up)
  | white : Planned c (.send (.absolute .whiteMode (pair c.white)) id)
  | night (command : UInt8 × UInt8) (known : c.night = some command) :
    Planned c (.send (.absolute .nightMode1 (pair command)) id)
  | link (on : Bool) : Planned c (.send (.absolute .link (.link on)) id)
  | storeDark : Planned c (.store fun s => { s with brightness := 0 })
  | storeSpeed (speed : Int) : Planned c (.store fun s => { s with animationSpeed := speed })

variable (c : CommandSet)

theorem whiteMode_planned : ∀ s ∈ whiteMode c, s.Each (Planned c) := by
  simp [whiteMode, Planned.white]

theorem setBrightness_planned (value : Int) (s : LightState) :
    ∀ st ∈ setBrightness c value s, st.Each (Planned c) := by
  unfold setBrightness
  split
  · simp only [List.forall_mem_singleton, once_each, List.forall_mem_cons]
    exact ⟨.power false, .storeDark⟩
  · rw [List.forall_mem_singleton, once_each, List.forall_mem_append, List.forall_mem_singleton]
    constructor
    · split <;> simp [Planned.power]
    · exact .brightness _ (by omega) (Int.min_le_right _ _)

theorem setSaturation_planned {command : UInt8} (hc : c.saturation = some command) (value : Int) :
    ∀ s ∈ setSaturation command value, s.Each (Planned c) := by
  simp [setSaturation, Planned.saturation command value hc]

theorem setColorTemperature_planned {command : UInt8} (hc : c.temperature = some command)
    (value : Int) : ∀ s ∈ setColorTemperature command value, s.Each (Planned c) := by
  rw [setColorTemperature, List.forall_mem_singleton, once_each, List.forall_mem_singleton]
  exact .temperature command _ hc (by unfold Plan.clamp; omega) (by unfold Plan.clamp; omega)

theorem setLedMode_planned (mode : Int) : ∀ s ∈ setLedMode c mode, s.Each (Planned c) := by
  rw [setLedMode, List.forall_mem_singleton, once_each, List.forall_mem_singleton]
  have h : 1 ≤ Plan.clampMode mode ∧ Plan.clampMode mode ≤ 9 := by
    unfold Plan.clampMode Plan.clamp Plan.firstMode Plan.lastMode
    omega
  exact .mode _ h.1 h.2

theorem setHsb_planned (hue : Float32) (saturation brightness : Option Int) (s : LightState) :
    ∀ st ∈ setHsb c hue saturation brightness s, st.Each (Planned c) := by
  unfold setHsb
  split
  · exact whiteMode_planned c
  · rw [List.forall_mem_cons, once_each, List.forall_mem_append]
    constructor
    · simp [Planned.color]
    constructor
    · cases brightness with
      | none => simp
      | some value => exact setBrightness_planned c value s
    · cases saturation with
      | none => simp
      | some value =>
        cases hc : c.saturation with
        | none => simp
        | some command => exact setSaturation_planned c hc value

theorem planValid_planned (canLink : Bool) (s : LightState) (operation : Operation) :
    ∀ m ∈ (planValid c canLink s operation).all, Planned c m := by
  cases operation with
  | setPower on => exact each_of_all (by simp [Planned.power])
  | setHsb hue saturation brightness => exact each_of_all (setHsb_planned c hue _ _ s)
  | whiteMode => exact each_of_all (whiteMode_planned c)
  | nightMode =>
    cases hc : c.night with
    | none => simp [planValid, hc, Plan.all]
    | some night =>
      simp only [planValid, hc]
      exact each_of_all (by simp [Planned.power, Planned.night night hc])
  | setBrightness value => exact each_of_all (setBrightness_planned c value s)
  | changeBrightness delta =>
    apply each_of_all
    split
    · simp
    · exact setBrightness_planned c _ s
  | setSaturation value =>
    cases hc : c.saturation with
    | none => simp [planValid, hc, Plan.all]
    | some command =>
      simp only [planValid, hc]
      exact each_of_all (setSaturation_planned c hc value)
  | setColorTemperature value =>
    cases hc : c.temperature with
    | none => simp [planValid, hc, Plan.all]
    | some command =>
      simp only [planValid, hc]
      exact each_of_all (setColorTemperature_planned c hc value)
  | changeColorTemperature delta =>
    cases hc : c.temperature with
    | none => simp [planValid, hc, Plan.all]
    | some command =>
      simp only [planValid, hc]
      apply each_of_all
      unfold changeColorTemperature
      split
      · simp
      · exact setColorTemperature_planned c hc _
  | setLedMode mode => exact each_of_all (setLedMode_planned c mode)
  | nextAnimationMode => exact each_of_all (setLedMode_planned c _)
  | previousAnimationMode => exact each_of_all (setLedMode_planned c _)
  | setAnimationSpeed speed =>
    apply each_of_all
    rw [setAnimationSpeed, List.forall_mem_cons, List.forall_mem_singleton, once_each]
    exact ⟨fun _ => by simp [Planned.speed], by simp [Planned.storeSpeed]⟩
  | changeSpeed delta =>
    apply each_of_all
    split <;> simp [Planned.speed]
  | link => cases canLink <;> simp [planValid, Plan.all, Planned.link]
  | unlink => cases canLink <;> simp [planValid, Plan.all, Planned.link]

/-- Without a valid session there are no moves. -/
theorem plan_planned (canLink isValid : Bool) (s : LightState) (operation : Operation) :
    (∀ m ∈ (plan c canLink isValid s operation).all, Planned c m) ∧
    (isValid = false → (plan c canLink isValid s operation).all = []) := by
  have h := planValid_planned c canLink s operation
  unfold plan
  generalize planValid c canLink s operation = p at *
  cases p with
  | moves stretches =>
    cases isValid with
    | true => exact ⟨h, by simp⟩
    | false => simp [Plan.all]
  | _ => simp [Plan.all]

end SessionBulb

theorem Bulb.plan_of_commands {b : Bulb} {c : CommandSet}
    (h : CommandSet.ofFamily? b.family = some c) (isValid : Bool) (s : LightState)
    (operation : Operation) :
    b.plan isValid s operation =
      SessionBulb.plan c (b.family.supports .link) isValid s operation := by
  obtain ⟨family, zone⟩ := b
  cases family <;> cases h <;> rfl

end LightBridge
