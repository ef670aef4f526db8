import LightBridge.Proofs.Light.Mirror
import LightBridge.Proofs.Light.Outcome

/-!
# Brightness and power

A brightness above 0 is meant to light a bulb that is off. The encoders decide
each in its own way whether they switch the bulb on first: those of the third
generation always do, the oldest one only if there is a step to take, and
session bulbs only if they were at 0. The stored power follows what was sent,
so a bulb may be left off with a brightness above 0.
-/

set_option autoImplicit false

namespace LightBridge

open Zoned

/-! ## Switching on -/

namespace Bulb

/-- The commands that switch the bulb on; full brightness does so too. -/
def onPayloads (b : Bulb) : List Payload :=
  match b.family with
  | .v2Rgb => [.plain 0x22 0]
  | .v3White =>
    [.plain (zoneByte White.onTable b.zone) 0, .plain (zoneByte White.fullTable b.zone) 0]
  | .v3Rgbw => [.plain (zoneByte Rgbw.onTable b.zone) 0]
  | .v6RgbCwWw => [.pair 0x04 0x01]
  | .v6Rgbw => [.pair 0x03 0x01]
  | .v6BridgeLamp => [.pair 0x03 0x03]

def SwitchesOn (b : Bulb) (f : Frame) : Prop :=
  ∃ header, ∃ p ∈ b.onPayloads, f.bytes = b.bytes header p

theorem bytes_length (b : Bulb) (header : Wire.Header) (p : Payload) :
    (b.bytes header p).length = if p matches .plain .. then 3 else 22 := by
  cases p <;> simp [bytes, Wire.plain]

/-- Commands that switch a bulb on are not to be confused with others. -/
theorem bytes_eq_on {b : Bulb} {h k : Wire.Header} {p q : Payload} (hq : q ∈ b.onPayloads)
    (he : b.bytes h p = b.bytes k q) : p = q := by
  have hlen := congrArg List.length he
  rw [bytes_length, bytes_length] at hlen
  cases q with
  | plain x y =>
    cases p with
    | plain command argument =>
      simp only [bytes, Wire.plain, List.cons.injEq] at he
      rw [he.1, he.2.1]
    | pair | color | link => cases hlen
  | pair x y =>
    have hx : x = 0x03 ∨ x = 0x04 := by
      obtain ⟨family, zone⟩ := b
      cases family <;> simp [onPayloads] at hq <;> simp [hq]
    have hlead := congrArg (·[0]?) he
    have hcmd := congrArg (·[14]?) he
    cases p with
    | plain => cases hlen
    | pair cmd1 cmd2 =>
      obtain ⟨h1, h2⟩ := Wire.command_inj he
      rw [h1, h2]
    | color hue =>
      simp only [bytes, Wire.color, Wire.command, Wire.withSum, Wire.unsealed] at hcmd
      rcases hx with rfl | rfl <;> simp at hcmd
    | link on =>
      simp only [bytes, Wire.link, Wire.command, Wire.withSum, Wire.unsealed] at hlead
      cases on <;> simp at hlead
  | color | link =>
    obtain ⟨family, zone⟩ := b
    cases family <;> simp [onPayloads] at hq

theorem switchesOn_frame (b : Bulb) (header : Wire.Header) (c : Command) :
    b.SwitchesOn (b.frame header c) ↔ c.payload ∈ b.onPayloads := by
  constructor
  · rintro ⟨k, q, hq, he⟩
    exact bytes_eq_on hq he ▸ hq
  · exact fun h => ⟨header, c.payload, h, rfl⟩

end Bulb

/-- Whether a brightness above 0 comes with a command that switches the bulb on,
from the stored brightness. -/
def Family.wakes (f : Family) (stored value : Int) : Bool :=
  match f with
  | .v2Rgb => 5 ≤ (min value 100 - stored).natAbs
  | .v3White | .v3Rgbw => true
  | .v6RgbCwWw | .v6Rgbw | .v6BridgeLamp => stored ≤ 0

/-- What a brightness records: the value, and the power as far as it was sent. -/
def LightState.lit (s : LightState) (wakes : Bool) (value : Int) : LightState :=
  { s with
    power := 0 < value && (s.power || wakes)
    brightness := Plan.clamp 0 100 value }

/-! ## What the plans record and send -/

/-- The move records nothing but a brightness. -/
def Move.Dims (m : Move) : Prop :=
  ∀ s value, { m.record s with brightness := value } = { s with brightness := value }

theorem Stretch.dims_of_single {n : Nat} {move : Nat → Move} (h : ∀ round, (move round).Dims) :
    ∀ m ∈ (⟨n, fun round => [move round]⟩ : Stretch).all, m.Dims := by
  intro m hm
  obtain ⟨round, _, hm⟩ := List.mem_flatMap.mp hm
  rw [List.mem_singleton.mp hm]
  exact h round

theorem LightState.recorded_dims {ms : List Move} (hd : ∀ m ∈ ms, m.Dims) (s : LightState)
    (value : Int) :
    { s.recorded ms with brightness := value } = { s with brightness := value } := by
  induction ms generalizing s with
  | nil => rfl
  | cons m ms ih =>
    obtain ⟨hm, hd⟩ := List.forall_mem_cons.mp hd
    exact (ih hd (m.record s)).trans (hm s value)

/-- A plan for a brightness records it, and switches the bulb on as foreseen. -/
structure Plan.Lights (b : Bulb) (s : LightState) (value : Int) (ms : List Move) : Prop where
  recorded : s.recorded ms = s.lit (b.family.wakes s.brightness value) value
  sent : 0 < value → ((∃ c ∈ ms.filterMap Move.sends?, c.payload ∈ b.onPayloads) ↔
    b.family.wakes s.brightness value = true)

namespace Plan

variable {b : Bulb} {s : LightState} {value : Int}

theorem clamp_of_pos (h : 0 < value) : clamp 0 100 value = min value 100 := by
  unfold clamp
  omega

theorem lights_off (hv : value ≤ 0) {p : Payload} :
    Lights b s value [.send (.absolute .power p) fun s => { s with power := false },
      .store fun s => { s with brightness := 0 }] := by
  constructor
  · have hc : clamp 0 100 value = 0 := by unfold clamp; omega
    simp [LightState.lit, hc, Int.not_lt.mpr hv]
  · exact fun h => absurd h (Int.not_lt.mpr hv)

theorem lights_on (hv : 0 < value) (hw : b.family.wakes s.brightness value = true)
    (steps : List Move) {last : Move} {c : Command} {record : LightState → LightState}
    (hc : c.payload ∈ b.onPayloads)
    (hr : ∀ s value, { record s with brightness := value } =
      { s with power := true, brightness := value })
    (hd : ∀ m ∈ steps, m.Dims)
    (hl : last.record = fun s => { s with brightness := min value 100 }) :
    Lights b s value (.send c record :: (steps ++ [last])) := by
  constructor
  · calc s.recorded (.send c record :: (steps ++ [last]))
        = { (record s).recorded steps with brightness := min value 100 } := by
          simp [hl]
      _ = { record s with brightness := min value 100 } := LightState.recorded_dims hd _ _
      _ = s.lit (b.family.wakes s.brightness value) value := by
          simp [hr, LightState.lit, hv, hw, clamp_of_pos hv]
  · intro _
    exact iff_of_true ⟨c, by simp, hc⟩ hw

theorem lights_kept (hv : 0 < value) (hw : b.family.wakes s.brightness value = false)
    {last : Move} (hl : last.record = fun s => { s with brightness := min value 100 })
    (hs : ∀ c ∈ last.sends?, c.payload ∉ b.onPayloads) : Lights b s value [last] := by
  constructor
  · simp [hl, LightState.lit, hv, hw, clamp_of_pos hv]
  · intro _
    refine iff_of_false ?_ (by simp [hw])
    rintro ⟨c, hc, hp⟩
    obtain ⟨m, hm, hc⟩ := List.mem_filterMap.mp hc
    rw [List.mem_singleton.mp hm] at hc
    exact hs c hc hp

end Plan

open Plan

theorem Rgb.stepCount_eq (here target : Int) :
    stepCount here target brightnessStep = (2*(target-here).natAbs+10)/20 := rfl

theorem Rgb.setBrightness_lights {b : Bulb} (hf : b.family = .v2Rgb) (value : Int)
    (s : LightState) : Lights b s value (Plan.moves (setBrightness value s)).all := by
  unfold setBrightness
  split
  · exact lights_off ‹_›
  rename_i hv
  have hpos : 0 < value := Int.not_le.mp hv
  have hw : b.family.wakes s.brightness value =
      decide (stepCount s.brightness (min value 100) brightnessStep ≠ 0) := by
    simp only [hf, Family.wakes, decide_eq_decide]
    have := stepCount_eq s.brightness (min value 100)
    omega
  dsimp only
  split
  · rename_i hn
    exact lights_kept hpos (by simpa [hn] using hw) rfl
      (fun c hc => absurd hc (Option.not_mem_none c))
  · rename_i hn
    simp only [Plan.all, List.flatMap_cons, Stretch.once_all, List.flatMap_nil, List.append_nil]
    exact lights_on hpos (by simpa [hn] using hw) _
      (by simp [Bulb.onPayloads, hf, Command.absolute]) (fun _ _ => rfl)
      (Stretch.dims_of_single fun _ _ _ => rfl) rfl

theorem White.setBrightness_lights {b : Bulb} (hf : b.family = .v3White) (value : Int)
    (s : LightState) : Lights b s value (Plan.moves (setBrightness b.zone value s)).all := by
  have hon : ∀ t ∈ [onTable, fullTable], .plain (zoneByte t b.zone) 0 ∈ b.onPayloads := by
    simp [Bulb.onPayloads, hf]
  have hw : b.family.wakes s.brightness value = true := by rw [hf]; rfl
  unfold setBrightness
  split
  · exact lights_off ‹_›
  rename_i hv
  have hpos : 0 < value := Int.not_le.mp hv
  split
  · rename_i hmax
    constructor
    · simp [Plan.all, fullMove, LightState.lit, hpos, hw, clamp_of_pos hpos, hmax]
    · intro _
      refine iff_of_true ⟨.absolute .brightness (.plain (zoneByte fullTable b.zone) 0), ?_, ?_⟩ hw
      · simp [Plan.all, fullMove]
      · exact hon fullTable (by simp)
  · rename_i hmax
    have hmin : value = min value 100 := by omega
    simp only [Plan.all, List.flatMap_cons, Stretch.once_all, List.flatMap_nil, List.append_nil]
    have hlast : (storeBrightness value).record =
        fun s => { s with brightness := min value 100 } := by
      rw [← hmin]
      rfl
    split
    · exact lights_on hpos hw _ (by exact hon fullTable (by simp)) (fun _ _ => rfl)
        (Stretch.dims_of_single fun _ _ _ => rfl) hlast
    · exact lights_on hpos hw _ (by exact hon onTable (by simp)) (fun _ _ => rfl)
        (Stretch.dims_of_single fun _ _ _ => rfl) hlast

theorem Rgbw.setBrightness_lights {b : Bulb} (hf : b.family = .v3Rgbw) (value : Int)
    (s : LightState) : Lights b s value (Plan.moves (setBrightness b.zone value)).all := by
  unfold setBrightness
  split
  · exact lights_off ‹_›
  · rename_i hv
    have hw : b.family.wakes s.brightness value = true := by rw [hf]; rfl
    exact lights_on (Int.not_le.mp hv) hw []
      (by simp [Bulb.onPayloads, hf, Command.absolute]) (fun _ _ => rfl)
      (List.forall_mem_nil _) rfl

theorem SessionBulb.setBrightness_lights {b : Bulb} {c : CommandSet}
    (hc : CommandSet.ofFamily? b.family = some c) (value : Int) (s : LightState) :
    Lights b s value (Plan.moves (setBrightness c value s)).all := by
  have hon : pair c.on ∈ b.onPayloads := by
    obtain ⟨⟨⟩, zone⟩ := b <;> cases hc <;> simp [Bulb.onPayloads, pair, CommandSet.rgbCwWw,
      CommandSet.rgbw, CommandSet.bridgeLamp]
  have hlevel : ∀ byte, .pair c.brightness byte ∉ b.onPayloads := by
    obtain ⟨⟨⟩, zone⟩ := b <;> cases hc <;> simp [Bulb.onPayloads, CommandSet.rgbCwWw,
      CommandSet.rgbw, CommandSet.bridgeLamp]
  have hw : b.family.wakes s.brightness value = decide (s.brightness ≤ 0) := by
    obtain ⟨⟨⟩, zone⟩ := b <;> cases hc <;> rfl
  unfold setBrightness
  split
  · exact lights_off ‹_›
  rename_i hv
  have hpos : 0 < value := Int.not_le.mp hv
  by_cases hs : s.brightness ≤ 0
  · rw [if_pos hs]
    exact lights_on hpos (by simp [hw, hs]) [] hon (fun _ _ => rfl)
      (List.forall_mem_nil _) rfl
  · rw [if_neg hs]
    refine lights_kept hpos (by simp [hw, hs]) rfl ?_
    rintro _ ⟨⟩
    exact hlevel _

theorem Bulb.setBrightness_lights (b : Bulb) {isValid : Bool}
    (hv : b.family.protocol = .v6 → isValid = true) (value : Int) (s : LightState) :
    Lights b s value (b.plan isValid s (.setBrightness value)).all := by
  obtain ⟨family, zone⟩ := b
  cases family with
  | v2Rgb => exact Rgb.setBrightness_lights rfl value s
  | v3White => exact White.setBrightness_lights rfl value s
  | v3Rgbw => exact Rgbw.setBrightness_lights rfl value s
  | v6RgbCwWw | v6Rgbw | v6BridgeLamp =>
    cases hv rfl
    exact SessionBulb.setBrightness_lights rfl value s

/-! ## Operations -/

theorem Light.switchesOn_taken {light : Light} {wall : Nat} {l : Link} {operation : Operation}
    (h : (light.operate wall l operation).result = .ok ()) :
    (∃ f ∈ light.taken wall l operation, light.bulb.SwitchesOn f) ↔
      ∃ c ∈ (light.bulb.plan l.isValid light.state operation).all.filterMap Move.sends?,
        c.payload ∈ light.bulb.onPayloads := by
  obtain ⟨_, sent, hs, ht⟩ := operate_completed h
  rw [ht, ← hs]
  constructor
  · rintro ⟨f, hf, hon⟩
    obtain ⟨x, hx, rfl⟩ := List.mem_map.mp hf
    exact ⟨x.2, List.mem_map_of_mem hx, (light.bulb.switchesOn_frame _ _).mp hon⟩
  · rintro ⟨c, hc, hon⟩
    obtain ⟨x, hx, rfl⟩ := List.mem_map.mp hc
    exact ⟨_, List.mem_map_of_mem hx, (light.bulb.switchesOn_frame _ _).mpr hon⟩

/-- A brightness that is set is stored, clamped. A bulb that is asked to shine
is switched on, and stored as on if it was not, exactly if its family foresees
that from the stored brightness; at 0 it is stored as off. -/
theorem Light.brightness_settles_power {light : Light} {wall : Nat} {l : Link} {value : Int}
    (hv : light.family.protocol = .v6 → l.isValid = true)
    (h : (light.operate wall l (.setBrightness value)).result = .ok ()) :
    (light.operate wall l (.setBrightness value)).state =
      { light.state with
        power := 0 < value &&
          (light.state.power || light.family.wakes light.state.brightness value)
        brightness := Plan.clamp 0 100 value } ∧
    (0 < value → ((∃ f ∈ light.taken wall l (.setBrightness value), light.bulb.SwitchesOn f) ↔
      light.family.wakes light.state.brightness value = true)) := by
  have hl := light.bulb.setBrightness_lights hv value light.state
  constructor
  · rw [(operate_completed h).1, hl.recorded]
    rfl
  · rw [switchesOn_taken h]
    exact hl.sent

def dimmedBulb : Light := ⟨⟨.v2Rgb, 0⟩, none, { LightState.initial with brightness := 50 }⟩

/-- Two lights that are off are lit, one of them in two steps. -/
theorem dimmedBulb_lit :
    (dimmedBulb.operate 0 (.start .start none) (.setBrightness 30)).state =
      { dimmedBulb.state with power := true, brightness := 30 } ∧
    (∃ f ∈ dimmedBulb.taken 0 (.start .start none) (.setBrightness 30),
      dimmedBulb.bulb.SwitchesOn f) ∧
    (bridgeLamp.operate 0 readyLink (.setBrightness 120)).state =
      { LightState.initial with power := true, brightness := 100 } ∧
    ∃ f ∈ bridgeLamp.taken 0 readyLink (.setBrightness 120), bridgeLamp.bulb.SwitchesOn f := by
  have hdim : (dimmedBulb.operate 0 (.start .start none) (.setBrightness 30)).result = .ok () := rfl
  have hlamp : (bridgeLamp.operate 0 readyLink (.setBrightness 120)).result = .ok () := rfl
  obtain ⟨hs, hon⟩ := Light.brightness_settles_power (fun hp => absurd hp (by decide)) hdim
  obtain ⟨hs', hon'⟩ := Light.brightness_settles_power (fun _ => rfl) hlamp
  exact ⟨hs, (hon (by decide)).mpr rfl, hs', (hon' (by decide)).mpr rfl⟩

/-- A bulb of the oldest kind that is off is set to the brightness it was last
given: nothing is sent, and it stays off. -/
theorem sameBrightness_leaves_off :
    ¬ ∀ (light : Light) (wall : Nat) (l : Link) (value : Int),
      light.family.hasZone light.bulb.zone = true →
      0 ≤ light.state.brightness ∧ light.state.brightness ≤ 100 →
      (light.family.protocol = .v6 → l.isValid = true) →
      (light.operate wall l (.setBrightness value)).result = .ok () →
      (light.operate wall l (.setBrightness value)).state.brightness = Plan.clamp 0 100 value ∧
      ((light.operate wall l (.setBrightness value)).state.power = true ↔ 0 < value) ∧
      (0 < value → light.state.power = false →
        ∃ f ∈ light.taken wall l (.setBrightness value), light.bulb.SwitchesOn f) := by
  intro h
  obtain ⟨_, hp, _⟩ := h dimmedBulb 0 (.start .start none) 50 rfl (by decide)
    (fun hp => absurd hp (by decide)) rfl
  exact absurd (hp.mpr (by decide)) Bool.false_ne_true

end LightBridge
