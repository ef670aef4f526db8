import LightBridge.Action
import LightBridge.Proofs.Light.Moves

/-!
# Operations that cannot be performed

What a family can do is said in one table, and again by the plans of each kind
of bulb and by the command bytes of session bulbs. They agree: an operation that
the table lacks has no plan, and no session bulb has one without a valid
session. Such an operation succeeds, is logged, and changes nothing.

Where sums are checked this is so as long as the mode next to the stored one is a
number of 32 bits, since session bulbs work it out first.
-/

set_option autoImplicit false

namespace LightBridge

/-- The family cannot do what is asked. White bulbs have no colour, but take the
brightness that comes with one. -/
def Family.Lacks (f : Family) (operation : Operation) : Prop :=
  f.supports operation.capability = false ∧
    ¬ (f = .v3White ∧ operation.capability = .color)

/-- The mode next to the stored one is a number of 32 bits, if the operation asks
for it. -/
def LightState.reckons (s : LightState) : Operation → Bool
  | .nextAnimationMode => holds (s.ledMode+1)
  | .previousAnimationMode => holds (s.ledMode-1)
  | _ => true

theorem LightState.map_held? {α : Type} (n : Int) (f : Int → α) :
    (held? n).map f = if holds n = false then none else some (f n) := by
  cases h : holds n <;> simp [held?, h]

/-- A checked plan is the plan, unless the sum ahead of it overflows. -/
theorem SessionBulb.plan?_eq (c : CommandSet) (canLink isValid : Bool) (s : LightState)
    (operation : Operation) :
    plan? c canLink isValid s operation =
      if s.reckons operation = false then none
      else some (plan c canLink isValid s operation) := by
  cases operation with
  | nextAnimationMode => exact LightState.map_held? _ _
  | previousAnimationMode => exact LightState.map_held? _ _
  | _ => rfl

namespace Bulb

variable (b : Bulb) (s : LightState)

theorem plan?_eq (isValid : Bool) (operation : Operation) :
    b.plan? isValid s operation =
      if b.family.protocol = .v6 ∧ s.reckons operation = false then none
      else some (b.plan isValid s operation) := by
  obtain ⟨family, zone⟩ := b
  cases family with
  | v2Rgb | v3White | v3Rgbw => rfl
  | v6RgbCwWw | v6Rgbw | v6BridgeLamp =>
    simp [plan?, CommandSet.ofFamily?, SessionBulb.plan?_eq, Family.protocol, plan]

theorem plan_of_lacking (isValid : Bool) {operation : Operation}
    (h : b.family.Lacks operation) : b.plan isValid s operation = .unsupported operation := by
  obtain ⟨family, zone⟩ := b
  obtain ⟨hs, hw⟩ := h
  -- Of each pair either the plan is computed, or the table contradicts `hs`.
  cases family with
  | v2Rgb => cases operation <;> first | rfl | cases hs
  | v3White => cases operation <;> first | rfl | exact absurd ⟨rfl, rfl⟩ hw | cases hs
  | v3Rgbw => cases operation <;> first | rfl | cases hs
  | v6RgbCwWw => cases operation <;> first | rfl | cases hs
  | v6Rgbw => cases operation <;> first | rfl | cases hs
  | v6BridgeLamp => cases operation <;> first | rfl | cases hs

theorem plan_of_invalid {operation : Operation} (hb : b.family.protocol = .v6)
    (hs : b.family.supports operation.capability = true) :
    b.plan false s operation = .noSession := by
  obtain ⟨family, zone⟩ := b
  cases family with
  | v2Rgb | v3White | v3Rgbw => cases hb
  | v6RgbCwWw => cases operation <;> rfl
  | v6Rgbw => cases operation <;> first | rfl | cases hs
  | v6BridgeLamp => cases operation <;> first | rfl | cases hs

theorem create_eq {protocol : Protocol} {hasSession : Bool} {family : Family} {zone : UInt8}
    {b : Bulb} (h : create protocol hasSession family zone = .ok b) : b = ⟨family, zone⟩ := by
  simp only [create, onZone] at h
  split at h
  · split at h
    · cases h
    · rename_i hz
      split at hz
      · split at h
        · cases h
        · cases hz
          cases h
          rfl
      · cases hz
  · cases h

end Bulb

namespace Light

variable (light : Light) (wall : Nat) (l : Link)

theorem operate?_eq (operation : Operation) :
    light.operate? wall l operation =
      if light.family.protocol = .v6 ∧ light.state.reckons operation = false then none
      else some (light.operate wall l operation) := by
  rw [operate?, Bulb.plan?_eq, apply_ite (Option.map _)]
  rfl

theorem operate_lacking {operation : Operation} (h : light.family.Lacks operation) :
    light.operate wall l operation =
      ⟨l, light.state, [.unsupported operation.title light.family], none⟩ := by
  rw [operate, light.bulb.plan_of_lacking light.state l.isValid h]
  rfl

theorem operate_invalid {operation : Operation} (hp : light.family.protocol = .v6)
    (hv : l.isValid = false) (hs : light.family.supports operation.capability = true) :
    light.operate wall l operation =
      ⟨l, light.state, [.noSession l.bridge light.family], none⟩ := by
  rw [operate, hv, light.bulb.plan_of_invalid light.state hp hs]
  rfl

end Light

/-- An operation that the family lacks, or that a session bulb is asked for
without a valid session, succeeds and leaves the state, the queue and the
session as they were, and one line is logged. Where sums are checked, a session
bulb must be able to work out the mode that is asked for. Only a white bulb that
is asked for a colour does something else: it takes the brightness. -/
theorem Light.unable_changes_nothing {protocol : Protocol} {hasSession : Bool} {family : Family}
    {zone : UInt8} {light : Light}
    (hb : Bulb.create protocol hasSession family zone = .ok light.bulb) (wall : Nat) (l : Link) :
    (∀ operation, family.Lacks operation ∨ (family.protocol = .v6 ∧ l.isValid = false) →
      let unchanged : Progress :=
        ⟨l, light.state, [if family.supports operation.capability
          then .noSession l.bridge family
          else .unsupported operation.title family], none⟩
      light.operate wall l operation = unchanged ∧ unchanged.result = .ok () ∧
      ((family.protocol = .v6 → light.state.reckons operation = true) →
        light.operate? wall l operation = some unchanged)) ∧
    (family = .v3White → ∀ hue saturation brightness,
      (light.operate wall l (.setHsb hue saturation brightness) =
        match brightness with
        | some value => light.operate wall l (.setBrightness value)
        | none => .begin l light.state) ∧
      light.operate? wall l (.setHsb hue saturation brightness) =
        some (light.operate wall l (.setHsb hue saturation brightness))) := by
  obtain rfl : family = light.family := congrArg Bulb.family (Bulb.create_eq hb).symm
  constructor
  · intro operation h unchanged
    have hsame : light.operate wall l operation = unchanged := by
      cases hs : light.family.supports operation.capability with
      | true =>
        obtain ⟨hp, hv⟩ := h.resolve_left fun hl => by simp [hl.1] at hs
        simpa [unchanged, hs] using light.operate_invalid wall l hp hv hs
      | false =>
        have hl : light.family.Lacks operation := h.elim id fun hv =>
          ⟨hs, fun hw => by simp [hw.1, Family.protocol] at hv⟩
        simpa [unchanged, hs] using light.operate_lacking wall l hl
    refine ⟨hsame, rfl, fun hreckons => ?_⟩
    rw [light.operate?_eq, hsame, if_neg]
    rintro ⟨hp, hover⟩
    simp [hreckons hp] at hover
  · intro hf hue saturation brightness
    have hfamily : light.bulb.family = .v3White := hf
    constructor
    · cases brightness with
      | none => simp [Light.operate, Bulb.plan, hfamily, White.plan, Progress.carryOut]
      | some value => simp [Light.operate, Bulb.plan, hfamily, White.plan]
    · rw [light.operate?_eq, if_neg]
      rintro ⟨hp, _⟩
      rw [hf] at hp
      cases hp

/-- A disposed queue and a valid session with one pending number. -/
def spentLink : Link :=
  let session : Session := .start "accF23f57AD4" (0, 0)
  .start Queue.start.dispose.1
    (some { session with stage := .valid, sequence := 7, pending := ⟨[(6, 0)]⟩ })

def bridgeLamp : Light := .create ⟨.v6BridgeLamp, 1⟩ none

/-- A session that has not begun its handshake. -/
def unopenedLink : Link := .start .start (some (.start "accF23f57AD4" (0, 0)))

/-- The lamp has no night mode, and before the handshake it is neither switched on
nor moved to another mode. -/
theorem bridgeLamp_unchanged :
    Bulb.create .v6 true .v6BridgeLamp 1 = .ok bridgeLamp.bulb ∧
    Family.v6BridgeLamp.Lacks .nightMode ∧ unopenedLink.isValid = false ∧
    bridgeLamp.operate? 0 spentLink .nightMode =
      some ⟨spentLink, .initial, [.unsupported "Night mode" .v6BridgeLamp], none⟩ ∧
    bridgeLamp.operate? 0 unopenedLink (.setPower true) =
      some ⟨unopenedLink, .initial, [.noSession unopenedLink.bridge .v6BridgeLamp], none⟩ ∧
    bridgeLamp.operate? 0 unopenedLink .previousAnimationMode =
      some ⟨unopenedLink, .initial, [.noSession unopenedLink.bridge .v6BridgeLamp], none⟩ := by
  have hb : Bulb.create .v6 true .v6BridgeLamp 1 = .ok bridgeLamp.bulb := rfl
  have hl : Family.v6BridgeLamp.Lacks .nightMode := ⟨rfl, by decide⟩
  have hv : unopenedLink.isValid = false := rfl
  obtain ⟨hspent, _⟩ := Light.unable_changes_nothing hb 0 spentLink
  obtain ⟨hunopened, _⟩ := Light.unable_changes_nothing hb 0 unopenedLink
  exact ⟨hb, hl, hv, (hspent .nightMode (.inl hl)).2.2 fun _ => rfl,
    (hunopened (.setPower true) (.inr ⟨rfl, hv⟩)).2.2 fun _ => rfl,
    (hunopened .previousAnimationMode (.inr ⟨rfl, hv⟩)).2.2 fun _ => by decide⟩

/-- The lamp with a mode that has no next one. -/
def lastLamp : Light :=
  bridgeLamp.withState { LightState.initial with ledMode := Int32.maxValue.toInt }

/-- Before the handshake the lamp is asked for the next mode, and the sum stops the
program ahead of the check of the session. -/
theorem lastLamp_overflows :
    Bulb.create .v6 true .v6BridgeLamp 1 = .ok lastLamp.bulb ∧
      LightState.holds lastLamp.state.ledMode = true ∧ unopenedLink.isValid = false ∧
      lastLamp.operate? 0 unopenedLink .nextAnimationMode = none ∧
      (Station.start unopenedLink none [lastLamp]).step? (.operate 0 .nextAnimationMode) = none :=
  ⟨rfl, rfl, rfl, rfl, rfl⟩

end LightBridge
