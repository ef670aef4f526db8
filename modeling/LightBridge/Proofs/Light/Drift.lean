import LightBridge.Proofs.Light.Errand
import LightBridge.Proofs.Light.Waking
import Mathlib.Algebra.Order.Group.Int
import Mathlib.Algebra.Order.Group.Unbundled.Abs

/-!
# The drift of stepped brightness

A colour bulb of the oldest bridges only knows steps of ten, and what is stored
is what was asked for, not what the steps have reached. Each call is off by the
rounding of its own distance, and the roundings of a run add up.
-/

set_option autoImplicit false

namespace LightBridge.Rgb

open Errand

/-! ## What frames do to the bulb -/

/-- The brightness, as a percentage, after a frame. -/
def brightnessAfter (f : Frame) (l : Int) : Int :=
  match f.bytes with
  | 0x23::_ => l+brightnessStep
  | 0x24::_ => l-brightnessStep
  | _ => l

/-- How far a number of steps goes. -/
def slide (up : Bool) (n : Nat) : Int := if up then brightnessStep*n else -(brightnessStep*n)

theorem slide_zero (up : Bool) : slide up 0 = 0 := by
  cases up <;> rfl

theorem slide_succ (up : Bool) (n : Nat) : slide up (n+1) = slide up 1 + slide up n := by
  cases up <;> simp [slide, brightnessStep] <;> omega

theorem dimMove_slides (up : Bool) (h : Wire.Header) (l : Int) :
    brightnessAfter (Bulb.frame ⟨.v2Rgb, 0⟩ h (if up then brighter else dimmer)) l =
      l + slide up 1 := by
  cases up <;> rfl

/-- Steps move the bulb, whatever is stored along the way. -/
theorem steps_slide (up : Bool) (n k : Nat) (s : LightState) (l : Int) :
    Sure ⟨.v2Rgb, 0⟩ brightnessAfter (fun _ _ => True) (fun _ l' => l' = l + slide up n)
      ((List.range' k n).flatMap fun _ => [dimMove up]) s l := by
  induction n generalizing k s l with
  | zero =>
    rw [slide_zero]
    exact (Int.add_zero l).symm
  | succ n ih =>
    rw [List.range'_succ, List.flatMap_cons]
    refine ⟨trivial, ?_⟩
    rw [dimMove_slides]
    apply (ih (k+1) _ _).imp
    rintro s' l' rfl
    rw [slide_succ up n, Int.add_assoc]

/-! ## Distances -/

/-- How far the steps for a distance go. -/
def reach (distance : Int) : Int :=
  slide (0 < distance) (Plan.stepCount 0 distance brightnessStep)

theorem reach_eq (here value : Int) :
    reach (value-here) = slide (here < value) (Plan.stepCount here value brightnessStep) := by
  rw [reach, stepCount_eq, stepCount_eq, Int.sub_zero]
  congr 1
  rw [decide_eq_decide]
  omega

/-- Steps end within half a step, and at the very place where they can get there. -/
theorem reach_near (distance : Int) :
    |reach distance - distance| ≤ if 10 ∣ distance then 0 else 5 := by
  rw [reach, stepCount_eq, slide, brightnessStep, abs_le, Int.sub_zero]
  by_cases hup : 0 < distance
  · rw [decide_eq_true hup, if_pos rfl]
    split <;> omega
  · rw [decide_eq_false hup, if_neg Bool.false_ne_true]
    split <;> omega

theorem reaches_near (distances : List Int) :
    |(distances.map reach).sum - distances.sum| ≤ 5*distances.countP (¬ 10 ∣ ·) := by
  induction distances with
  | nil => decide
  | cons d ds ih =>
    have hd := reach_near d
    rw [List.map_cons, List.sum_cons, List.sum_cons, List.countP_cons]
    simp only [decide_eq_true_eq]
    rw [abs_le] at *
    split at hd <;> rename_i h
    · rw [if_neg (not_not_intro h)]
      omega
    · rw [if_pos h]
      push_cast
      omega

/-! ## What a call does -/

/-- The distances of the calls so far. -/
def asked (s : LightState) : Operation → List Int → List Int
  | .setBrightness value, ds => ds ++ [value-s.brightness]
  | _, ds => ds

/-- What is stored has come all the way, and the bulb as far as steps go. -/
structure Led (start : Int) (ds : List Int) (s : LightState) (l : Int) : Prop where
  stored : s.brightness = start + ds.sum
  shown : l = start + (ds.map reach).sum

/-- A call that asks for a value above 0. -/
def Dims : Operation → Prop
  | .setBrightness value => 1 ≤ value ∧ value ≤ 100
  | _ => False

theorem setBrightness_slides {value : Int} (hv : 1 ≤ value) (hm : value ≤ 100) (s : LightState)
    (l : Int) :
    Sure ⟨.v2Rgb, 0⟩ brightnessAfter (fun _ _ => True)
      (fun s' l' => s'.brightness = value ∧ l' = l + reach (value-s.brightness))
      (Plan.moves (setBrightness value s)).all s l := by
  rw [reach_eq, setBrightness, if_neg (by omega), Int.min_eq_left hm]
  dsimp only
  split
  · rename_i hn
    rw [hn, slide_zero, Int.add_zero]
    exact ⟨trivial, rfl, rfl⟩
  · simp only [Plan.all, List.flatMap_cons, List.flatMap_nil, Stretch.once_all, List.append_nil]
    rw [List.singleton_append]
    refine ⟨trivial, ?_⟩
    rw [sure_append]
    apply (steps_slide _ _ 1 _ _).imp
    rintro s' l' rfl
    exact ⟨trivial, rfl, rfl⟩

theorem plan_led {start : Int} {operation : Operation} (ho : Dims operation) {ds : List Int}
    {s : LightState} {l : Int} (h : Led start ds s l) :
    Sure ⟨.v2Rgb, 0⟩ brightnessAfter (fun _ _ => True) (Led start (asked s operation ds))
      (plan s operation).all s l := by
  cases operation with
  | setBrightness value =>
    apply (setBrightness_slides ho.1 ho.2 s l).imp
    rintro s' l' ⟨hs, hl⟩
    have hstored := h.stored
    have hshown := h.shown
    constructor
    · rw [asked, List.sum_append, List.sum_singleton]
      omega
    · rw [asked, List.map_append, List.sum_append, List.map_singleton, List.sum_singleton]
      omega
  | _ => exact ho.elim

/-! ## Every run -/

theorem plan_plain (isValid : Bool) (s : LightState) (operation : Operation) :
    ∀ m ∈ (Bulb.plan ⟨.v2Rgb, 0⟩ isValid s operation).all, m.isPlain = true :=
  fun m hm => (plan_planned s operation m hm).isPlain

/-- Steps are never overtaken, and what may be overtaken leaves the brightness alone. -/
theorem planned_gentle {m : Move} (h : Planned m) {c : Command}
    {record : LightState → LightState} (hm : m = .send c record) (header : Wire.Header) :
    (Bulb.frame ⟨.v2Rgb, 0⟩ header c).identity = 0 ∨
      ∀ l, brightnessAfter (Bulb.frame ⟨.v2Rgb, 0⟩ header c) l = l := by
  cases h with
  | power on => cases on <;> cases hm <;> exact .inr fun _ => rfl
  | color hue => cases hm; exact .inr fun _ => rfl
  | dim up => cases up <;> cases hm <;> exact .inl rfl
  | brightenOnce => cases hm; exact .inl rfl
  | darkenOnce => cases hm; exact .inl rfl
  | storeBrightness value => cases hm

/-- The stored brightness follows the distances of the calls, and the bulb follows what steps
make of them. Of each distance half a step may be lost or gained, and of one that
steps can make nothing is. -/
theorem brightness_drifts (wall : Nat) (link : Link) (hq : link.queue.Fresh) (s : LightState)
    (xs : List Beat) (hx : ∀ x ∈ xs, x.Fits Dims brightnessAfter)
    (hall : unrefused wall ⟨.v2Rgb, 0⟩ xs (.rest link s) = true)
    (hend : (Errand.run wall ⟨.v2Rgb, 0⟩ xs (.rest link s)).todo = []) :
    let b : Bulb := ⟨.v2Rgb, 0⟩
    let e := Errand.run wall b xs (.rest link s)
    let sent := Queue.sent (script wall b xs (.rest link s)) link.queue
    let ds := reckon asked wall b xs (.rest link s) []
    let shown := Queue.absorb brightnessAfter (sent ++ e.link.queue.waiting) s.brightness
    e.state.brightness = s.brightness + ds.sum ∧
    shown = s.brightness + (ds.map reach).sum ∧
    |shown - e.state.brightness| ≤ 5*ds.countP (¬ 10 ∣ ·) := by
  intro b e sent ds shown
  have hrun := run_sure wall asked (fun _ _ _ => True) (Led s.brightness) plan_plain
    (fun _ _ _ _ _ ho h => plan_led ho h) xs hx (.inr hall) (e := .rest link s) (g := [])
    (by simp [Errand.rest]) (show Led s.brightness [] s s.brightness from ⟨by simp, by simp⟩)
  have hled : Led s.brightness ds e.state
      (Queue.absorb brightnessAfter (accepted wall b xs (.rest link s)) s.brightness) := by
    rwa [hend] at hrun
  have hplans : ∀ isValid s operation, ∀ m ∈ (b.plan isValid s operation).all, Planned m :=
    fun _ => plan_planned
  have hover : Queue.Overrides brightnessAfter (accepted wall b xs (.rest link s)) :=
    accepted_overrides hplans (fun header _ _ hp => planned_gentle hp rfl header) hx
      (by simp [Errand.rest])
  have hshown : shown = s.brightness + (ds.map reach).sum :=
    (absorb_run xs s hq hover s.brightness).trans hled.shown
  refine ⟨hled.stored, hshown, ?_⟩
  rw [hshown, hled.stored, Int.add_sub_add_left]
  exact reaches_near ds

def halfLit : LightState := { LightState.initial with power := true, brightness := 50 }

/-- Two steps, none, and one, with some of the frames sent in between. -/
def adjusting : List Beat :=
  .begin (.setBrightness 74) :: List.replicate 4 .move ++
    .call (.setDelay 0) :: List.replicate 3 (.call (.poll 0)) ++
    .begin (.setBrightness 78) :: .move ::
    .begin (.setBrightness 88) :: List.replicate 3 .move

theorem adjusting_drifts :
    let e := Errand.run 0 ⟨.v2Rgb, 0⟩ adjusting (.rest (.start .start none) halfLit)
    let shown := Queue.absorb brightnessAfter (Queue.sent (script 0 ⟨.v2Rgb, 0⟩ adjusting
      (.rest (.start .start none) halfLit)) .start ++ e.link.queue.waiting) 50
    e.todo = [] ∧ e.state.brightness = 88 ∧ shown = 80 ∧ |shown - e.state.brightness| ≤ 10 := by
  have hx : ∀ x ∈ adjusting, x.Fits Dims brightnessAfter := by
    intro x hm
    simp only [adjusting, List.mem_append, List.mem_cons, List.mem_replicate] at hm
    rcases hm with ((rfl | ⟨-, rfl⟩) | rfl | ⟨-, rfl⟩) | rfl | rfl | rfl | ⟨-, rfl⟩
    · exact ⟨by decide, by decide⟩
    · trivial
    · trivial
    · trivial
    · exact ⟨by decide, by decide⟩
    · trivial
    · exact ⟨by decide, by decide⟩
    · trivial
  have hend : (Errand.run 0 ⟨.v2Rgb, 0⟩ adjusting
      (.rest (.start .start none) halfLit)).todo = [] := by
    rw [← List.isEmpty_iff]
    decide +kernel
  have hasked : reckon asked 0 ⟨.v2Rgb, 0⟩ adjusting
      (.rest (.start .start none) halfLit) [] = [24, 4, 10] := by decide +kernel
  obtain ⟨hstored, hshown, hnear⟩ := brightness_drifts 0 (.start .start none) Queue.start_fresh
    halfLit adjusting hx (by decide +kernel) hend
  rw [hasked] at hstored hshown hnear
  exact ⟨hend, hstored, hshown, hnear⟩

/-- Two changes of 4, for which there are no steps, leave the bulb 8 behind. -/
def nudging : List Beat := [.begin (.setBrightness 54), .move, .begin (.setBrightness 58), .move]

theorem nudging_drifts :
    ¬ ∀ (wall : Nat) (link : Link) (s : LightState) (xs : List Beat),
      link.queue.Fresh → 1 ≤ s.brightness ∧ s.brightness ≤ 100 →
      (∀ x ∈ xs, x.Fits Dims brightnessAfter) →
      let b : Bulb := ⟨.v2Rgb, 0⟩
      let e := Errand.run wall b xs (.rest link s)
      let sent := Queue.sent (script wall b xs (.rest link s)) link.queue
      unrefused wall b xs (.rest link s) = true → e.todo = [] →
      |Queue.absorb brightnessAfter (sent ++ e.link.queue.waiting) s.brightness -
        e.state.brightness| ≤ 5 := by
  intro h
  have hx : ∀ x ∈ nudging, x.Fits Dims brightnessAfter := by
    simp [nudging, Beat.Fits, Dims]
  have hend : (Errand.run 0 ⟨.v2Rgb, 0⟩ nudging
      (.rest (.start .start none) halfLit)).todo = [] := by
    rw [← List.isEmpty_iff]
    decide +kernel
  have hn := h 0 (.start .start none) halfLit nudging Queue.start_fresh (by decide) hx
    (by decide +kernel) hend
  exact absurd hn (by decide +kernel)

end LightBridge.Rgb
