import LightBridge.Proofs.Light.Dimming

/-!
# The colour temperature of white bulbs

A white bulb has eleven levels of colour temperature and moves by single steps
from where it is. The ends of the scale bring it to a known level. The lowest
end is stored as 0, which is read back as a level below the lowest: the bulb
then is one level ahead of what is stored, until it meets an end.
-/

set_option autoImplicit false

namespace LightBridge.White

open Zoned Errand

variable {zone : UInt8}

/-! ## What frames do to the bulb -/

/-- The level of colour temperature, from 1 to 11, after a frame. -/
def warmthAfter (f : Frame) (l : Int) : Int :=
  match f.bytes with
  | 0x3E::_ => min (l+1) 11
  | 0x3F::_ => max (l-1) 1
  | _ => l

def slide (up : Bool) (n : Nat) (l : Int) : Int := if up then min (l+n) 11 else max (l-n) 1

theorem warmthAfter_named (hz : Family.v3White.hasZone zone = true) {t : List UInt8}
    (ht : t ∈ Family.v3White.selectors ++ Family.v3White.hushers) {f : Frame}
    (hf : f.bytes = Wire.plain (zoneByte t zone) 0) (l : Int) : warmthAfter f l = l := by
  have hn := Family.zoneless_of_names (Family.names_zoneByte ht hz)
  have hw : zoneByte t zone ≠ 0x3E := fun he => by rw [he] at hn; exact absurd hn (by decide)
  have hc : zoneByte t zone ≠ 0x3F := fun he => by rw [he] at hn; exact absurd hn (by decide)
  simp [warmthAfter, hf, Wire.plain, hw, hc]

theorem temperature_slides (up : Bool) (h : Wire.Header) (l : Int) :
    warmthAfter (Bulb.frame ⟨.v3White, zone⟩ h (if up then warmer else cooler)) l =
      slide up 1 l := by
  cases up <;> rfl

/-! ## What an operation does -/

/-- The level that a stored percentage stands for. -/
def warmth (value : Int) : Int := max 1 ⌈(value*11/100 : ℚ)⌉

theorem warmth_eq {value : Int} (h : 0 ≤ value) :
    warmth value = max 1 (level value levels) := by
  rw [warmth, level, levels]
  exact congrArg (max 1) (Rgbw.level_eq_ceil h 11).symm

/-- Steps move the bulb, whatever is stored along the way. -/
theorem steps_slide (up : Bool) (here : Int) (n k : Nat) (s : LightState) {l : Int}
    (hl : 1 ≤ l ∧ l ≤ 11) :
    Sure ⟨.v3White, zone⟩ warmthAfter (fun _ _ => True) (fun _ l' => l' = slide up n l)
      ((List.range' k n).flatMap fun round => [temperatureMove up (reached up here round)])
      s l := by
  induction n generalizing k s l with
  | zero =>
    simp only [Sure, List.range'_zero, List.flatMap_nil, slide]
    cases up <;> simp <;> omega
  | succ n ih =>
    rw [List.range'_succ, List.flatMap_cons]
    refine ⟨trivial, ?_⟩
    rw [temperature_slides]
    have hl' : 1 ≤ slide up 1 l ∧ slide up 1 l ≤ 11 := by
      unfold slide
      cases up <;> simp <;> omega
    apply (ih (k+1) _ hl').imp
    rintro s' l' rfl
    unfold slide
    cases up <;> simp <;> omega

theorem power_passes (hz : Family.v3White.hasZone zone = true) {Q : LightState → Int → Prop}
    {ms : List Move} {s : LightState} {l : Int}
    (h : Sure ⟨.v3White, zone⟩ warmthAfter (fun _ _ => True) Q ms { s with power := true } l) :
    Sure ⟨.v3White, zone⟩ warmthAfter (fun _ _ => True) Q (powerMove zone true :: ms) s l := by
  refine ⟨trivial, ?_⟩
  rw [warmthAfter_named hz (t := onTable) (by decide) rfl]
  exact h

theorem setColorTemperature_slides (hz : Family.v3White.hasZone zone = true) (value : Int)
    (s : LightState) {l : Int} (hl : 1 ≤ l ∧ l ≤ 11) :
    Sure ⟨.v3White, zone⟩ warmthAfter (fun _ _ => True)
      (fun s' l' => s'.colorTemperature = (temperatureGoal value s).1 ∧
        l' = slide ((temperatureGoal value s).2.2 < (temperatureGoal value s).2.1)
          ((temperatureGoal value s).2.1 - (temperatureGoal value s).2.2).natAbs l)
      (Plan.moves (setColorTemperature zone value s)).all s l := by
  unfold setColorTemperature
  generalize temperatureGoal value s = goal
  obtain ⟨value, target, here⟩ := goal
  have stepped : ∀ s, Sure ⟨.v3White, zone⟩ warmthAfter (fun _ _ => True)
      (fun s' l' => s'.colorTemperature = value ∧
        l' = slide (here < target) (target-here).natAbs l)
      ((⟨(target-here).natAbs, fun round =>
          [temperatureMove (here < target) (reached (here < target) here round)]⟩ : Stretch).all ++
        [.store fun s => { s with colorTemperature := value }]) s l := by
    intro s
    rw [sure_append]
    apply (steps_slide (here < target) here (target-here).natAbs 1 s hl).imp
    rintro s' l' rfl
    exact ⟨trivial, rfl, rfl⟩
  by_cases hn : 0 < (target-here).natAbs
  · simpa [Plan.all, hn] using power_passes hz (stepped { s with power := true })
  · simpa [Plan.all, hn] using stepped s

theorem changeColorTemperature_slides (hz : Family.v3White.hasZone zone = true) {delta : Int}
    (hd : delta ≠ 0) (s : LightState) (l : Int) :
    Sure ⟨.v3White, zone⟩ warmthAfter (fun _ _ => True)
      (fun s' l' => s'.colorTemperature = percent (Plan.clamp 1 levels
          (reached (0 < delta) (level s.colorTemperature levels) 1)) levels ∧
        l' = slide (0 < delta) 1 l)
      (Plan.moves (changeColorTemperature zone delta s)).all s l := by
  simp only [changeColorTemperature, if_neg hd, Plan.all, List.flatMap_singleton,
    Stretch.once_all]
  apply power_passes hz
  refine ⟨trivial, ?_⟩
  rw [temperature_slides]
  exact ⟨rfl, rfl⟩

/-! ## The level and what is stored -/

/-- Whether the bulb is one level ahead of what is stored. It gets ahead when it
is warmed from the lowest end, and meets an end or stays ahead afterwards. -/
def surplus (s : LightState) : Operation → Bool → Bool
  | .setColorTemperature value, ahead =>
    decide (0 < value ∧ value < 100 ∧ level value levels < 11) &&
      (ahead || s.colorTemperature == 0)
  | .changeColorTemperature delta, ahead =>
    if delta = 0 then ahead
    else if 0 < delta then
      decide (level s.colorTemperature levels < 10) && (ahead || s.colorTemperature == 0)
    else decide (1 < level s.colorTemperature levels) && ahead
  | _, ahead => ahead

/-- The level of the bulb, told by what is stored and whether it is ahead. -/
structure Warm (ahead : Bool) (s : LightState) (l : Int) : Prop where
  least : 0 ≤ s.colorTemperature
  most : s.colorTemperature ≤ 100
  level : l = max 1 (level s.colorTemperature levels) + if ahead then 1 else 0
  below : l ≤ 11
  positive : ahead = true → 0 < s.colorTemperature

theorem slide_between (here target l : Int) :
    slide (here < target) (target-here).natAbs l =
      if here < target then min (l+target-here) 11 else max (l+target-here) 1 := by
  by_cases h : here < target
  · simp only [slide, h, decide_true, if_true]
    omega
  · simp only [slide, h, decide_false, Bool.false_eq_true, if_false]
    omega

/-- At the ends of the scale the level is known. -/
theorem reset_warm (hz : Family.v3White.hasZone zone = true) {value : Int}
    (hv : value ≤ 0 ∨ 100 ≤ value) (s : LightState) {l : Int} (hl : 1 ≤ l ∧ l ≤ 11) :
    Sure ⟨.v3White, zone⟩ warmthAfter (fun _ _ => True) (Warm false)
      (Plan.moves (setColorTemperature zone value s)).all s l := by
  have h := setColorTemperature_slides hz value s hl
  simp only [slide_between] at h
  by_cases h0 : value ≤ 0
  · have hg : temperatureGoal value s = (0, 1, 11) := by simp [temperatureGoal, h0, levels]
    rw [hg] at h
    apply h.imp
    rintro s' l' ⟨hs, hl'⟩
    obtain rfl : l' = 1 := by
      simp only at hl'
      omega
    constructor <;> simp [show s'.colorTemperature = 0 from hs, Zoned.level, levels]
  · have hg : temperatureGoal value s = (100, 11, 1) := by
      simp [temperatureGoal, h0, levels]
      omega
    rw [hg] at h
    apply h.imp
    rintro s' l' ⟨hs, hl'⟩
    obtain rfl : l' = 11 := by
      simp only at hl'
      omega
    constructor <;> simp [show s'.colorTemperature = 100 from hs, Zoned.level, levels]

theorem Warm.range {ahead : Bool} {s : LightState} {l : Int} (h : Warm ahead s l) :
    1 ≤ l ∧ l ≤ 11 := by
  refine ⟨?_, h.below⟩
  have hl := h.level
  cases ahead <;> simp at hl <;> omega

/-- Only the lowest end is read back as a level below the lowest. -/
theorem level_zero {value : Int} (h : 0 ≤ value) :
    0 ≤ level value levels ∧ (level value levels = 0 ↔ value = 0) := by
  rw [level_eq h]
  omega

/-- Between the ends the bulb keeps its distance, unless it meets an end. -/
theorem set_warm (hz : Family.v3White.hasZone zone = true) {ahead : Bool} {value : Int}
    (hv : 0 < value) (hm : value < 100) {s : LightState} {l : Int} (h : Warm ahead s l) :
    Sure ⟨.v3White, zone⟩ warmthAfter (fun _ _ => True)
      (Warm (surplus s (.setColorTemperature value) ahead))
      (Plan.moves (setColorTemperature zone value s)).all s l := by
  have hg : temperatureGoal value s =
      (value, level value levels, level s.colorTemperature levels) := by
    simp [temperatureGoal, Int.not_le.mpr hv, Int.not_le.mpr hm]
  have hslides := setColorTemperature_slides hz value s h.range
  simp only [hg, slide_between] at hslides
  apply hslides.imp
  rintro s' l' ⟨hs, hl'⟩
  have hrange := level_range hv (Int.le_of_lt hm)
  have hzero := level_zero h.least
  obtain ⟨hleast, hmost, hlevel, hbelow, hpositive⟩ := h
  have hsurplus : surplus s (.setColorTemperature value) ahead = true ↔
      level value levels < 11 ∧ (ahead = true ∨ s.colorTemperature = 0) := by
    simp [surplus, hv, hm]
  have hsum : l' = level value levels +
      if surplus s (.setColorTemperature value) ahead then 1 else 0 := by
    simp only [hsurplus]
    cases ahead with
    | false =>
      simp only [Bool.false_eq_true, false_or, if_false, Int.add_zero] at hlevel ⊢
      split at hl' <;> split <;> omega
    | true =>
      simp only [true_or, and_true, if_true, forall_const] at hlevel hpositive ⊢
      split at hl' <;> split <;> omega
  constructor
  · omega
  · omega
  · rw [hsum, hs]
    omega
  · split at hl' <;> omega
  · omega

theorem change_warm (hz : Family.v3White.hasZone zone = true) {ahead : Bool} (delta : Int)
    {s : LightState} {l : Int} (h : Warm ahead s l) :
    Sure ⟨.v3White, zone⟩ warmthAfter (fun _ _ => True)
      (Warm (surplus s (.changeColorTemperature delta) ahead))
      (Plan.moves (changeColorTemperature zone delta s)).all s l := by
  by_cases hd : delta = 0
  · simpa [changeColorTemperature, surplus, hd, Plan.all, Sure] using h
  · apply (changeColorTemperature_slides hz hd s l).imp
    rintro s' l' ⟨hs, hl'⟩
    have hzero := level_zero h.least
    have hrange := h.range
    obtain ⟨hleast, hmost, hlevel, hbelow, hpositive⟩ := h
    generalize hto : Plan.clamp 1 levels (reached (0 < delta) (level s.colorTemperature levels) 1) =
      target at hs
    have hlow : 1 ≤ target ∧ target ≤ 11 := by
      rw [← hto, Plan.clamp, levels]
      omega
    have hsum : l' = target + if surplus s (.changeColorTemperature delta) ahead then 1 else 0 := by
      by_cases hup : 0 < delta
      · simp only [reached, slide, hup, decide_true, if_true, Plan.clamp, levels] at hto hl'
        have hsurplus : surplus s (.changeColorTemperature delta) ahead = true ↔
            level s.colorTemperature levels < 10 ∧ (ahead = true ∨ s.colorTemperature = 0) := by
          simp [surplus, hd, hup]
        simp only [hsurplus, levels] at *
        cases ahead with
        | false =>
          simp only [Bool.false_eq_true, false_or, if_false, Int.add_zero] at hlevel ⊢
          split <;> omega
        | true =>
          simp only [true_or, and_true, if_true, forall_const] at hlevel hpositive ⊢
          split <;> omega
      · simp only [reached, slide, hup, decide_false, Bool.false_eq_true, if_false, Plan.clamp,
          levels] at hto hl'
        have hsurplus : surplus s (.changeColorTemperature delta) ahead = true ↔
            1 < level s.colorTemperature levels ∧ ahead = true := by
          simp [surplus, hd, hup]
        simp only [hsurplus, levels] at *
        cases ahead with
        | false =>
          simp only [Bool.false_eq_true, and_false, if_false, Int.add_zero] at hlevel ⊢
          omega
        | true =>
          simp only [if_true, and_true] at hlevel hpositive ⊢
          split <;> omega
    have hstored := percent_range hlow.1 hlow.2
    constructor
    · omega
    · omega
    · rw [hsum, hs, level_percent_eq (show 0 ≤ target by omega) (by decide) (by decide)]
      omega
    · rw [hl', slide]
      split <;> omega
    · omega

theorem surplus_reset (s : LightState) {value : Int} (hv : value ≤ 0 ∨ 100 ≤ value)
    (ahead : Bool) : surplus s (.setColorTemperature value) ahead = false := by
  simp only [surplus, Bool.and_eq_false_iff, decide_eq_false_iff_not]
  omega

theorem plan_warm (hz : Family.v3White.hasZone zone = true) {operation : Operation}
    (ho : operation.capability = .colorTemperature) {ahead : Bool} {s : LightState} {l : Int}
    (h : Warm ahead s l) :
    Sure ⟨.v3White, zone⟩ warmthAfter (fun _ _ => True) (Warm (surplus s operation ahead))
      (plan zone s operation).all s l := by
  cases operation with
  | setColorTemperature value =>
    by_cases hv : value ≤ 0 ∨ 100 ≤ value
    · rw [surplus_reset s hv]
      exact reset_warm hz hv s h.range
    · exact set_warm hz (by omega) (by omega) h
  | changeColorTemperature delta => exact change_warm hz delta h
  | _ => cases ho

/-! ## Every run -/

/-- Steps are never overtaken, and what may be overtaken does not touch the
temperature. -/
theorem planned_gentle (hz : Family.v3White.hasZone zone = true) {m : Move}
    (h : Planned zone m) {c : Command} {record : LightState → LightState}
    (hm : m = .send c record) (header : Wire.Header) :
    (Bulb.frame ⟨.v3White, zone⟩ header c).identity = 0 ∨
      ∀ l, warmthAfter (Bulb.frame ⟨.v3White, zone⟩ header c) l = l := by
  cases h with
  | power on =>
    cases hm
    cases on with
    | true => exact .inr (warmthAfter_named hz (t := onTable) (by decide) rfl)
    | false => exact .inr (warmthAfter_named hz (t := offTable) (by decide) rfl)
  | full =>
    cases hm
    exact .inr (warmthAfter_named hz (t := fullTable) (by decide) rfl)
  | night =>
    cases hm
    exact .inr (warmthAfter_named hz (t := nightTable) (by decide) rfl)
  | temperature up l => cases up <;> cases hm <;> exact .inl rfl
  | mode next => cases next <;> cases hm <;> exact .inl rfl
  | _ => cases hm <;> exact .inl rfl

/-- After a reset the bulb is at the level that the stored percentage stands
for, or one ahead of it; which of the two is told by the operations so far. -/
theorem temperature_tracked (hz : Family.v3White.hasZone zone = true) (wall : Nat) (link : Link)
    (hq : link.queue.Fresh) (s : LightState) (l : Int) (hl : 1 ≤ l ∧ l ≤ 11) (value : Int)
    (hv : value ≤ 0 ∨ 100 ≤ value) (xs : List Beat)
    (hx : ∀ x ∈ xs, x.Fits (·.capability = .colorTemperature) warmthAfter)
    (hall : unrefused wall ⟨.v3White, zone⟩ (.begin (.setColorTemperature value)::xs)
      (.rest link s) = true)
    (hend : (Errand.run wall ⟨.v3White, zone⟩ (.begin (.setColorTemperature value)::xs)
      (.rest link s)).todo = []) :
    let b : Bulb := ⟨.v3White, zone⟩
    let ys := .begin (.setColorTemperature value)::xs
    let e := Errand.run wall b ys (.rest link s)
    let sent := Queue.sent (script wall b ys (.rest link s)) link.queue
    Queue.absorb warmthAfter (sent ++ e.link.queue.waiting) l =
      warmth e.state.colorTemperature +
        if reckon surplus wall b ys (.rest link s) false then 1 else 0 := by
  intro b ys e sent
  have hstart : Sure b warmthAfter (fun _ _ => True) (Warm false)
      (plan zone s (.setColorTemperature value)).all s l := reset_warm hz hv s hl
  have hrun := run_sure wall surplus (fun _ _ _ => True) Warm plan_plain
    (fun _ _ _ _ _ ho h => plan_warm hz ho h) xs hx (.inr hall)
    (e := ⟨link, s, (plan zone s (.setColorTemperature value)).all⟩)
    (plan_plain link.isValid s (.setColorTemperature value)) hstart
  have hwarm : Warm (reckon surplus wall b ys (.rest link s) false) e.state
      (Queue.absorb warmthAfter (accepted wall b ys (.rest link s)) l) := by
    have hg : reckon surplus wall b ys (.rest link s) false = reckon surplus wall b xs
        ⟨link, s, (plan zone s (.setColorTemperature value)).all⟩ false :=
      congrArg (reckon surplus wall b xs _) (surplus_reset s hv false)
    rw [show (Errand.run wall b xs
      ⟨link, s, (plan zone s (.setColorTemperature value)).all⟩).todo = [] from hend] at hrun
    rw [hg]
    exact hrun
  have hover : Queue.Overrides warmthAfter (accepted wall b ys (.rest link s)) := by
    intro f hf g _ h0 _
    left
    rcases accepted_planned hf with ⟨mark, hm⟩ | ⟨header, c, record, hp, rfl⟩
    · rcases List.mem_cons.mp hm with he | hm
      · cases he
      · exact hx _ hm
    · exact (planned_gentle hz hp rfl header).resolve_left h0
  exact (absorb_run ys s hq hover l).trans (hwarm.level.trans (by rw [warmth_eq hwarm.least]))

/-- From the upper end, which the bulb is brought to first. -/
def fromWarmest : List Beat :=
  List.replicate 12 .move ++ .begin (.setColorTemperature 60) :: List.replicate 6 .move ++
    .begin (.changeColorTemperature (-1)) :: List.replicate 2 .move

theorem fromWarmest_tracked :
    let e := Errand.run 0 ⟨.v3White, 1⟩ (.begin (.setColorTemperature 100)::fromWarmest)
      (.rest (.start .start none) .initial)
    e.todo = [] ∧ e.state.colorTemperature = 54 ∧
      Queue.absorb warmthAfter (Queue.sent (script 0 ⟨.v3White, 1⟩
        (.begin (.setColorTemperature 100)::fromWarmest) (.rest (.start .start none) .initial))
          .start ++ e.link.queue.waiting) 4 = warmth e.state.colorTemperature := by
  have hz : Family.v3White.hasZone 1 = true := by decide
  have hx : ∀ x ∈ fromWarmest, x.Fits (·.capability = .colorTemperature) warmthAfter := by
    intro x hm
    simp only [fromWarmest, List.mem_append, List.mem_cons, List.mem_replicate] at hm
    rcases hm with (⟨-, rfl⟩ | rfl | ⟨-, rfl⟩) | rfl | ⟨-, rfl⟩ <;> trivial
  have hall : unrefused 0 ⟨.v3White, 1⟩ (.begin (.setColorTemperature 100)::fromWarmest)
      (.rest (.start .start none) .initial) = true := by decide +kernel
  have hend : (Errand.run 0 ⟨.v3White, 1⟩ (.begin (.setColorTemperature 100)::fromWarmest)
      (.rest (.start .start none) .initial)).todo = [] := by
    rw [← List.isEmpty_iff]
    decide +kernel
  have hahead : reckon surplus 0 ⟨.v3White, 1⟩ (.begin (.setColorTemperature 100)::fromWarmest)
      (.rest (.start .start none) .initial) false = false := by decide +kernel
  have ht := temperature_tracked hz 0 (.start .start none) Queue.start_fresh .initial 4 (by decide)
    100 (.inr (by decide)) fromWarmest hx hall hend
  refine ⟨hend, by decide +kernel, ht.trans ?_⟩
  rw [hahead]
  exact Int.add_zero _

/-- From the lower end, which the bulb is brought to first. -/
def fromCoolest : List Beat :=
  List.replicate 12 .move ++ .begin (.setColorTemperature 50) :: List.replicate 8 .move

/-- The bulb is warmed by six levels from the lowest, and 50 stands for the
sixth of them. -/
theorem fromCoolest_ahead :
    ¬ ∀ (zone : UInt8) (wall : Nat) (link : Link) (s : LightState) (l value : Int)
        (xs : List Beat),
      Family.v3White.hasZone zone = true → link.queue.Fresh → 1 ≤ l ∧ l ≤ 11 →
      value ≤ 0 ∨ 100 ≤ value →
      (∀ x ∈ xs, x.Fits (·.capability = .colorTemperature) warmthAfter) →
      let b : Bulb := ⟨.v3White, zone⟩
      let ys := .begin (.setColorTemperature value)::xs
      let e := Errand.run wall b ys (.rest link s)
      unrefused wall b ys (.rest link s) = true → e.todo = [] →
      Queue.absorb warmthAfter (Queue.sent (script wall b ys (.rest link s)) link.queue ++
        e.link.queue.waiting) l = warmth e.state.colorTemperature := by
  intro h
  have hx : ∀ x ∈ fromCoolest, x.Fits (·.capability = .colorTemperature) warmthAfter := by
    intro x hm
    simp only [fromCoolest, List.mem_append, List.mem_cons, List.mem_replicate] at hm
    rcases hm with ⟨-, rfl⟩ | rfl | ⟨-, rfl⟩ <;> trivial
  have hend : (Errand.run 0 ⟨.v3White, 1⟩ (.begin (.setColorTemperature 0)::fromCoolest)
      (.rest (.start .start none) .initial)).todo = [] := by
    rw [← List.isEmpty_iff]
    decide +kernel
  have ht := h 1 0 (.start .start none) .initial 4 0 fromCoolest (by decide) Queue.start_fresh
    (by decide) (.inl (by decide)) hx (by decide +kernel) hend
  have hstored : (Errand.run 0 ⟨.v3White, 1⟩ (.begin (.setColorTemperature 0)::fromCoolest)
      (.rest (.start .start none) .initial)).state.colorTemperature = 50 := by decide +kernel
  rw [hstored, warmth_eq (by decide)] at ht
  exact absurd ht (by decide +kernel)

end LightBridge.White
