import LightBridge.Proofs.Light.Range
import LightBridge.Proofs.Station.Action

/-!
# The range of the lights of a station

Whatever is done to a station, the clamped values of its lights stay in their
ranges, also where an operation is cut short. The animation speeds do as long
as every call that is carried out asks for a speed in range, and no longer.
-/

set_option autoImplicit false

namespace LightBridge.Station

open LightState

/-- The speed that an action stores in a light as it is. -/
def storedSpeed? (s : Station) : Action → Option Int
  | .operate light operation =>
    s.lights[light]?.bind fun l => l.storedSpeed? s.wall s.link operation
  | _ => none

def storedSpeeds : List (Nat × Action) → Station → List Int
  | [], _ => []
  | (wall, a)::as, s =>
    ({ s with wall }.storedSpeed? a).toList ++ storedSpeeds as (s.act wall a).1

variable {speeds : Int → Prop} {s : Station}

theorem step_ranged {a : Action} (h : ∀ l ∈ s.lights, l.state.Ranged speeds)
    (ha : ∀ l, a = .addLight l → l.state.Ranged speeds)
    (hs : ∀ speed ∈ s.storedSpeed? a, speeds speed) :
    ∀ l ∈ (s.step a).1.lights, l.state.Ranged speeds := by
  rcases s.step_lights a with he | ⟨l, rfl, he⟩ | ⟨light, l, operation, rfl, hl, he⟩ <;> rw [he]
  · exact h
  · rw [List.forall_mem_append, List.forall_mem_singleton]
    exact ⟨h, ha l rfl⟩
  · intro m hm
    rcases List.mem_or_eq_of_mem_set hm with hm | rfl
    · exact h m hm
    · exact l.operate_ranged s.wall s.link (h l (List.mem_of_getElem? hl))
        (by simpa [storedSpeed?, hl] using hs)

theorem step_stores {a : Action} {speed : Int} (h : s.storedSpeed? a = some speed) :
    ∃ l ∈ (s.step a).1.lights, l.state.animationSpeed = speed := by
  cases a with
  | operate light operation =>
    obtain ⟨l, hl, hspeed⟩ := Option.bind_eq_some_iff.mp h
    refine ⟨{ l with state := (l.operate s.wall s.link operation).state }, ?_,
      l.operate_stores s.wall s.link hspeed⟩
    have he : (s.step (.operate light operation)).1.lights = _ := operate_lights hl operation
    rw [he]
    exact List.mem_set (List.getElem?_eq_some_iff.mp hl).1 _
  | _ => cases h

/-- An action keeps the lights in range exactly if the speed is that it stores. -/
theorem act_inRange (wall : Nat) {a : Action} (h : ∀ l ∈ s.lights, l.state.InRange)
    (ha : ∀ l, a = .addLight l → l.state.InRange) :
    (∀ l ∈ (s.act wall a).1.lights, l.state.InRange) ↔
      ∀ speed ∈ { s with wall }.storedSpeed? a, 0 ≤ speed ∧ speed ≤ 100 := by
  constructor
  · intro hr speed hs
    obtain ⟨l, hl, rfl⟩ := step_stores hs
    exact (hr l hl).2
  · intro hs l hl
    have hr := step_ranged (s := { s with wall }) (fun l hl => (h l hl).ranged)
      (fun l he => (ha l he).ranged) hs l hl
    exact hr.inRange fun _ hs => hs

theorem after_clamped {as : List (Nat × Action)} (h : ∀ l ∈ s.lights, l.state.InRange)
    (ha : ∀ wall l, (wall, .addLight l) ∈ as → l.state.InRange) :
    ∀ l ∈ (s.after as).lights, l.state.Clamped := by
  -- Any speed may be stored, so each action keeps the other ranges.
  have hrun : ∀ l ∈ (s.after as).lights, l.state.Ranged fun _ => True := by
    have hstart : ∀ l ∈ s.lights, l.state.Ranged fun _ => True := fun l hl => (h l hl).ranged
    clear h
    induction as generalizing s with
    | nil => exact hstart
    | cons x as ih =>
      obtain ⟨wall, a⟩ := x
      refine ih (fun wall l hl => ha wall l (List.mem_cons_of_mem _ hl)) ?_
      refine step_ranged (s := { s with wall }) hstart ?_ fun _ _ => trivial
      rintro l rfl
      exact (ha wall l List.mem_cons_self).ranged
  exact fun l hl => (hrun l hl).toClamped

/-- Lights that start in range have their brightness, saturation, temperature
and mode in range after every action of a run. They have all values in range
after every action exactly if every speed is in range that a call has stored. -/
theorem lights_in_range {as : List (Nat × Action)} (h : ∀ l ∈ s.lights, l.state.InRange)
    (ha : ∀ wall l, (wall, .addLight l) ∈ as → l.state.InRange) :
    (∀ n, ∀ l ∈ (s.after (as.take n)).lights, l.state.Clamped) ∧
    ((∀ n, ∀ l ∈ (s.after (as.take n)).lights, l.state.InRange) ↔
      ∀ speed ∈ s.storedSpeeds as, 0 ≤ speed ∧ speed ≤ 100) := by
  refine ⟨fun n => after_clamped h fun wall l hl => ha wall l (List.mem_of_mem_take hl), ?_⟩
  induction as generalizing s with
  | nil =>
    constructor
    · exact fun _ => List.forall_mem_nil _
    · intro _ n
      rw [List.take_nil]
      exact h
  | cons x as ih =>
    obtain ⟨wall, a⟩ := x
    have hfirst := act_inRange wall h fun l he => ha wall l (he ▸ List.mem_cons_self)
    have hrest := fun h' => ih (s := (s.act wall a).1) h' fun wall l hl =>
      ha wall l (List.mem_cons_of_mem _ hl)
    simp only [storedSpeeds, List.forall_mem_append, Option.mem_toList]
    constructor
    · intro hall
      have h' : ∀ l ∈ (s.act wall a).1.lights, l.state.InRange := hall 1
      exact ⟨hfirst.mp h', (hrest h').mp fun n => hall (n+1)⟩
    · rintro ⟨hspeed, hspeeds⟩ n
      cases n with
      | zero => exact h
      | succ n => exact (hrest (hfirst.mpr hspeed)).mpr hspeeds n

def shelf : Station :=
  .start (.start .start none) none [.create ⟨.v3White, 1⟩ none, .create ⟨.v3Rgbw, 2⟩ none]

theorem shelf_inRange : ∀ l ∈ shelf.lights, l.state.InRange :=
  List.forall_mem_cons.mpr ⟨initial_inRange, List.forall_mem_singleton.mpr initial_inRange⟩

/-- Too much is asked for, and the last two calls meet a queue that has ended. -/
def excess : List (Nat × Action) :=
  [(0, .operate 0 (.setColorTemperature 250)), (0, .operate 1 (.setAnimationSpeed 70)),
    (3, .addLight (.create ⟨.v3Rgbw, 3⟩ none)), (4, .operate 2 (.changeBrightness 500)),
    (5, .disposeQueue), (9, .operate 1 (.setAnimationSpeed 300)),
    (9, .operate 0 (.setBrightness 500))]

theorem excess_in_range :
    (∀ l ∈ shelf.lights, l.state.InRange) ∧
    (∀ wall l, (wall, Action.addLight l) ∈ excess → l.state.InRange) ∧
    shelf.storedSpeeds excess = [70] ∧
    ∀ n, ∀ l ∈ (shelf.after (excess.take n)).lights, l.state.InRange := by
  have ha : ∀ wall l, (wall, Action.addLight l) ∈ excess → l.state.InRange := by
    intro wall l hl
    obtain ⟨rfl, rfl⟩ : wall = 3 ∧ l = .create ⟨.v3Rgbw, 3⟩ none := by simpa [excess] using hl
    exact initial_inRange
  have hs : shelf.storedSpeeds excess = [70] := rfl
  refine ⟨shelf_inRange, ha, hs, ?_⟩
  refine (lights_in_range shelf_inRange ha).2.mpr ?_
  rw [hs]
  decide

/-- No step leads down from 0, and the speed below it is stored. -/
theorem negative_speed_stored :
    let as : List (Nat × Action) := [(0, .operate 1 (.setAnimationSpeed (-4)))]
    (∀ l ∈ shelf.lights, l.state.InRange) ∧
    ∃ n, ∃ l ∈ (shelf.after (as.take n)).lights,
      l.state.animationSpeed = -4 ∧ ¬ l.state.InRange := by
  refine ⟨shelf_inRange, 1, { Light.create ⟨.v3Rgbw, 2⟩ none with
    state := { LightState.initial with animationSpeed := -4 } }, ?_, rfl, ?_⟩
  · exact List.mem_cons_of_mem _ List.mem_cons_self
  · exact fun h => absurd h.2.1 (by decide)

end LightBridge.Station
