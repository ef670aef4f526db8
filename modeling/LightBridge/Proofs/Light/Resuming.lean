import LightBridge.Proofs.Light.Steps

/-!
# Operations that are resumed

Brightness, speed and temperature of some bulbs only move by steps. What is
stored follows each step, so an operation that a full queue cuts short is
resumed by asking again: the steps still missing are made, and no other.
-/

set_option autoImplicit false

namespace LightBridge

/-- A stored value that a bulb is brought to another one of by steps. -/
inductive Dial where
  | brightness
  | speed
  | temperature
  deriving DecidableEq, Repr

namespace Dial

def operation : Dial → Int → Operation
  | brightness => .setBrightness
  | speed => .setAnimationSpeed
  | temperature => .setColorTemperature

def stored (d : Dial) (s : LightState) : Int :=
  match d with
  | brightness => s.brightness
  | speed => s.animationSpeed
  | temperature => s.colorTemperature

/-- The state with a new power and a new value. -/
def turned (d : Dial) (s : LightState) (power : Bool) (value : Int) : LightState :=
  match d with
  | brightness => { s with power, brightness := value }
  | speed => { s with power, animationSpeed := value }
  | temperature => { s with power, colorTemperature := value }

/-- The families that have only steps for it. -/
def families : Dial → List Family
  | brightness => [.v2Rgb]
  | speed => [.v3Rgbw, .v6RgbCwWw, .v6Rgbw, .v6BridgeLamp]
  | temperature => [.v3White]

/-- The least value that is reached by steps from wherever the bulb is. -/
def least : Dial → Int
  | brightness => 1
  | speed => 0
  | temperature => 1

def most : Dial → Int
  | brightness => 100
  | speed => 100
  | temperature => 99

/-- Steps of ten, a half counting as a whole one, or of one of eleven levels. -/
def distance (d : Dial) (value target : Int) : Nat :=
  match d with
  | brightness | speed => (round (|target-value|/10 : ℚ)).toNat
  | temperature => (⌈(11*target/100 : ℚ)⌉ - ⌈(11*value/100 : ℚ)⌉).natAbs

theorem round_tenth (d : Nat) : round (d/10 : ℚ) = ((2*d+10)/20 : Nat) := by
  rw [round_eq, Int.floor_eq_iff]
  have hl : ((2*d+10)/20)*20 ≤ 2*d+10 := by omega
  have hu : 2*d+10 < ((2*d+10)/20+1)*20 := by omega
  generalize (2*d+10)/20 = n at *
  have hl' : (n : ℚ)*20 ≤ 2*d+10 := by exact_mod_cast hl
  have hu' : (2 : ℚ)*d+10 < (n+1)*20 := by exact_mod_cast hu
  rw [Int.cast_natCast]
  constructor <;> linarith

theorem distance_tens {d : Dial} (h : d ≠ temperature) (value target : Int) :
    d.distance value target = (2*(target-value).natAbs+10)/20 := by
  have hd : d.distance value target = (round (|target-value|/10 : ℚ)).toNat := by
    cases d with
    | temperature => exact absurd rfl h
    | _ => rfl
  have habs : ((|target-value| : Int) : ℚ) = ((target-value).natAbs : ℚ) := by
    rw [Nat.cast_natAbs]
  rw [hd, habs, round_tenth, Int.toNat_natCast]

theorem distance_levels {value target : Int} (h : 0 ≤ value) (ht : 0 ≤ target) :
    temperature.distance value target =
      (Zoned.level target White.levels - Zoned.level value White.levels).natAbs := by
  have hlevel : ∀ v : Int, 0 ≤ v → ⌈(11*v/100 : ℚ)⌉ = Zoned.level v White.levels := by
    intro v hv
    rw [mul_comm]
    exact (Rgbw.level_eq_ceil hv 11).symm
  rw [distance, hlevel target ht, hlevel value h]

end Dial

/-- The value of a dial while `n` steps are missing to a target, all in one
direction. -/
structure Dial.Missing (d : Dial) (target : Int) (n : Nat) (up : Bool) (value : Int) : Prop where
  least : 0 ≤ value
  most : value ≤ 100
  count : d.distance value target = n
  up : decide (value < target) = up

namespace Dial

variable {d : Dial} {target value : Int} {n : Nat} {up : Bool}

/-- A step of ten takes one away, and does not overshoot before the last one. -/
theorem Missing.ten (hd : d ≠ temperature) (h : d.Missing target (n+2) up value)
    (ht : 0 ≤ target ∧ target ≤ 100) :
    d.Missing target (n+1) up (Plan.clamp 0 100 (value + if up then 10 else -10)) := by
  obtain ⟨hl, hm, hn, rfl⟩ := h
  rw [distance_tens hd] at hn
  unfold Plan.clamp
  constructor
  · omega
  · omega
  · rw [distance_tens hd]
    split <;> simp at * <;> omega
  · rw [decide_eq_decide]
    split <;> simp at * <;> omega

/-- A step of a level takes one away; the value that is stored for it is read
back as the level. -/
theorem Missing.level (h : temperature.Missing target (n+2) up value)
    (ht : 0 < target ∧ target < 100) {l : Int}
    (hl : l = Zoned.level value White.levels + if up then 1 else -1) :
    temperature.Missing target (n+1) up
      (Zoned.percent (Plan.clamp 1 White.levels l) White.levels) := by
  obtain ⟨h0, hm, hn, hup⟩ := h
  have htarget := White.level_range ht.1 (Int.le_of_lt ht.2)
  rw [distance_levels h0 (by omega)] at hn
  have hvalue := White.level_eq h0
  have hgoal := White.level_eq (Int.le_of_lt ht.1)
  -- the level is inside the scale, since the target is at least one more level away
  have hrange : 1 ≤ l ∧ l ≤ 11 := by
    subst hl hup
    split <;> simp at * <;> omega
  have hclamp : Plan.clamp 1 White.levels l = l := by
    unfold Plan.clamp White.levels
    omega
  have hback := Zoned.level_percent_eq (show 0 ≤ l by omega) (show 1 ≤ White.levels by decide)
    (by decide)
  have hpercent := White.percent_range hrange.1 hrange.2
  rw [hclamp]
  generalize Zoned.percent l White.levels = v at *
  have hv := White.level_eq (Int.le_of_lt hpercent.1)
  refine ⟨Int.le_of_lt hpercent.1, hpercent.2, ?_, ?_⟩
  · rw [distance_levels (Int.le_of_lt hpercent.1) (by omega), hback]
    subst hl hup
    split <;> simp at * <;> omega
  · subst hl hup
    rw [decide_eq_decide]
    split at hback <;> simp at * <;> omega

end Dial

/-! ## The way to a target -/

/-- Whether the bulb is switched on along with its steps. -/
def Family.switches (f : Family) : Bool := f.protocol != .v6

/-- The step of a family that has one kind of them. -/
def Family.stepPayload (f : Family) (up : Bool) : Payload :=
  match f with
  | .v2Rgb => .plain (if up then 0x23 else 0x24) 0
  | .v3White => .plain (if up then 0x3E else 0x3F) 0
  | .v3Rgbw => .plain (if up then 0x44 else 0x43) 0
  | .v6RgbCwWw | .v6Rgbw => .pair 0x04 (if up then 0x03 else 0x04)
  | .v6BridgeLamp => .pair 0x03 (if up then 0x02 else 0x01)

/-- The move makes a step, switches the bulb on or sends nothing. -/
def Move.Walks (f : Family) (up : Bool) (m : Move) : Prop :=
  ∀ c ∈ m.sends?, c = .step (f.stepPayload up) ∨ f.switches = true ∧ c.category = some .power

namespace Move

variable {f : Family} {up : Bool} (record : LightState → LightState)

theorem walks_step : (send (.step (f.stepPayload up)) record).Walks f up := by
  rintro _ ⟨⟩
  exact .inl rfl

theorem walks_power (hf : f.switches = true) (payload : Payload) :
    (send (.absolute .power payload) record).Walks f up := by
  rintro _ ⟨⟩
  exact .inr ⟨hf, rfl⟩

theorem walks_store : (store record).Walks f up := by
  rintro _ ⟨⟩

end Move

namespace Dial

variable (d : Dial) (f : Family) (s : LightState) (target : Int)

/-- The dial of a bulb is in its range, and the target is reached by steps. -/
structure Aims : Prop where
  family : f ∈ d.families
  stored : 0 ≤ d.stored s ∧ d.stored s ≤ 100
  target : d.least ≤ target ∧ target ≤ d.most

/-- The number of steps from a state. -/
def away : Nat := d.distance (d.stored s) target

def rises : Bool := d.stored s < target

/-- The state after `k` steps, which is as far from the target as it should be.
The bulb is on if it was or if a command has switched it on. -/
def Midway (on : Bool) (k : Nat) (s' : LightState) : Prop :=
  ∃ value, s' = d.turned s (s.power || on) value ∧
    (k < d.away s target → d.Missing target (d.away s target - k) (d.rises s target) value)

/-- Where an operation may be cut short. -/
def Cut (k : Nat) (s' : LightState) : Prop :=
  k < d.away s target ∧ ∃ on, (on = true → f.switches = true) ∧ d.Midway s target on k s'

/-- Where an operation ends. -/
def Reached (k : Nat) (s' : LightState) : Prop :=
  k = d.away s target ∧
    (0 < d.away s target → s' = d.turned s (s.power || f.switches) target)

/-- Moves that lead to the target. -/
structure Course (ms : List Move) : Prop where
  along : Plan.Along (d.Cut f s target) (d.Reached f s target) ms 0 s
  walks : ∀ m ∈ ms, m.Walks f (d.rises s target)
  opens : f.switches = true → 0 < d.away s target → ∃ c record rest,
    c.category = some .power ∧ ms = .send c record::rest

/-- A step after which another value is stored. -/
def stepMove (up : Bool) (next : LightState → Int) : Move :=
  .send (.step (f.stepPayload up)) fun s' => d.turned s' s'.power (next s')

def storeMove : Move := .store fun s' => d.turned s' s'.power target

/-- What is stored in each round takes one away from the missing steps. -/
def Nears (next : Nat → LightState → Int) : Prop :=
  ∀ k n s', d.away s target = k+(n+2) →
    d.Missing target (n+2) (d.rises s target) (d.stored s') →
    d.Missing target (n+1) (d.rises s target) (next (k+1) s')

variable {d f s target} {on : Bool} {k : Nat} {s' : LightState}

theorem midway_start (hs : 0 ≤ d.stored s ∧ d.stored s ≤ 100) : d.Midway s target false 0 s :=
  ⟨d.stored s, by cases d <;> simp [turned, stored], fun _ => ⟨hs.1, hs.2, rfl, rfl⟩⟩

theorem Midway.switched (h : d.Midway s target on k s') :
    d.Midway s target true k { s' with power := true } := by
  obtain ⟨value, rfl, hm⟩ := h
  exact ⟨value, by cases d <;> simp [turned], hm⟩

theorem Midway.stepped {next : Nat → LightState → Int} (hn : d.Nears s target next)
    (h : d.Midway s target on k s') :
    d.Midway s target on (k+1) (d.turned s' s'.power (next (k+1) s')) := by
  obtain ⟨value, hs', hm⟩ := h
  have hv : d.stored s' = value := by cases d <;> rw [hs'] <;> rfl
  refine ⟨next (k+1) s', by cases d <;> rw [hs'] <;> rfl, fun hk => ?_⟩
  obtain ⟨n, ha⟩ := Nat.exists_eq_add_of_le hk
  have hbefore := hm (by omega)
  rw [show d.away s target - k = n+2 by omega, ← hv] at hbefore
  rw [show d.away s target - (k+1) = n+1 by omega]
  exact hn k n s' (by omega) hbefore

theorem along_step {next : Nat → LightState → Int} (hn : d.Nears s target next)
    (h : d.Midway s target on k s') (hon : on = true → f.switches = true)
    (hk : k < d.away s target) :
    Plan.Along (d.Cut f s target) (fun k' s'' => k' = k+1 ∧ d.Midway s target on k' s'')
      [d.stepMove f (d.rises s target) (next (k+1))] k s' :=
  ⟨⟨hk, on, hon, h⟩, rfl, h.stepped hn⟩

/-- Rounds of one step each, and then the target is stored. -/
theorem along_target {J : Nat → LightState → Prop} {moves : Nat → List Move}
    (hround : ∀ k < d.away s target, ∀ s', J k s' →
      Plan.Along (d.Cut f s target) (fun k' s'' => k' = k+1 ∧ J k' s'') (moves (k+1)) k s')
    (hend : ∀ s', 0 < d.away s target → J (d.away s target) s' →
      d.Midway s target f.switches (d.away s target) s')
    (hs : J 0 s') :
    Plan.Along (d.Cut f s target) (d.Reached f s target)
      ((⟨d.away s target, moves⟩ : Stretch).all ++ [d.storeMove target]) 0 s' := by
  rw [Plan.along_append]
  apply (Plan.along_rounds hround (Nat.zero_add _) hs).imp
  rintro _ s'' ⟨rfl, hj⟩
  refine ⟨rfl, fun h0 => ?_⟩
  obtain ⟨value, rfl, _⟩ := hend s'' h0 hj
  cases d <;> rfl

/-- If no step is missing, the target is stored and that is all. -/
theorem course_there (hn : d.away s target = 0) :
    d.Course f s target (Plan.moves [.once [d.storeMove target]]).all := by
  constructor
  · exact ⟨hn.symm, fun h => absurd hn (Nat.ne_of_gt h)⟩
  · exact Stretch.each_of_all (by simp [storeMove, Move.walks_store])
  · exact fun _ h => absurd hn (Nat.ne_of_gt h)

/-- The bulb is switched on before the first step. -/
theorem course_opened {next : Nat → LightState → Int} (hf : f.switches = true)
    (hs : 0 ≤ d.stored s ∧ d.stored s ≤ 100) (hpos : 0 < d.away s target)
    (hn : d.Nears s target next) {power : Move} {payload : Payload}
    (hp : power = .send (.absolute .power payload) fun s => { s with power := true }) :
    d.Course f s target (Plan.moves [.once [power],
      ⟨d.away s target, fun round => [d.stepMove f (d.rises s target) (next round)]⟩,
      .once [d.storeMove target]]).all := by
  have hstart : d.Midway s target false 0 s := midway_start hs
  subst hp
  constructor
  · simp only [Plan.all, List.flatMap_cons, Stretch.once_all, List.flatMap_nil, List.append_nil]
    refine ⟨⟨hpos, false, (absurd · Bool.false_ne_true), hstart⟩,
      along_target ?_ ?_ hstart.switched⟩
    · exact fun k hk s' h => along_step hn h (fun _ => hf) hk
    · exact fun s' _ h => hf ▸ h
  · apply Stretch.each_of_all
    rw [List.forall_mem_cons, List.forall_mem_cons, List.forall_mem_singleton,
      Stretch.once_each, Stretch.once_each]
    exact ⟨by simp [Move.walks_power _ hf], fun _ => by simp [stepMove, Move.walks_step],
      by simp [storeMove, Move.walks_store]⟩
  · exact fun _ _ => ⟨_, _, _, rfl, rfl⟩

/-! ## The plans of the families -/

variable (d) in
/-- The value after a step of ten. -/
def ten (up : Bool) (_ : Nat) (s' : LightState) : Int :=
  Plan.clamp 0 100 (d.stored s' + if up then 10 else -10)

theorem ten_nears (hd : d ≠ temperature) (ht : 0 ≤ target ∧ target ≤ 100) :
    d.Nears s target (d.ten (d.rises s target)) :=
  fun _ _ _ _ h => h.ten hd ht

theorem stepCount_away (hd : d ≠ temperature) :
    Plan.stepCount (d.stored s) target 10 = d.away s target :=
  (distance_tens hd _ _).symm

theorem rgb_course (hs : 0 ≤ s.brightness ∧ s.brightness ≤ 100)
    (ht : 1 ≤ target ∧ target ≤ 100) :
    brightness.Course .v2Rgb s target (Plan.moves (Rgb.setBrightness target s)).all := by
  have haway : Plan.stepCount s.brightness target Rgb.brightnessStep =
      brightness.away s target := stepCount_away (d := brightness) (by decide)
  have hmove : ∀ up, Rgb.dimMove up = brightness.stepMove .v2Rgb up (brightness.ten up 0) := by
    rintro (_ | _) <;> rfl
  rw [Rgb.setBrightness, if_neg (by omega), min_eq_left ht.2]
  simp only [haway, hmove]
  split
  · exact course_there (d := brightness) ‹_›
  · exact course_opened (d := brightness) rfl hs (Nat.pos_of_ne_zero ‹_›)
      (ten_nears (by decide) (by omega)) rfl

theorem rgbw_course (zone : UInt8) (hs : 0 ≤ s.animationSpeed ∧ s.animationSpeed ≤ 100)
    (ht : 0 ≤ target ∧ target ≤ 100) :
    speed.Course .v3Rgbw s target (Plan.moves (Rgbw.setAnimationSpeed zone target s)).all := by
  have haway : Plan.stepCount s.animationSpeed target 10 = speed.away s target :=
    stepCount_away (d := speed) (by decide)
  have hmove : ∀ up, Rgbw.speedMove up = speed.stepMove .v3Rgbw up (speed.ten up 0) := by
    rintro (_ | _) <;> rfl
  have hnears : speed.Nears s target (speed.ten (speed.rises s target)) :=
    ten_nears (by decide) ht
  simp only [Rgbw.setAnimationSpeed, haway, hmove]
  constructor
  · simp only [Plan.all, List.flatMap_cons, Stretch.once_all, List.flatMap_nil, List.append_nil]
    -- the bulb is switched on in the first round, and again in each one
    refine along_target (J := fun k s' => speed.Midway s target (decide (0 < k)) k s') ?_ ?_
      (midway_start hs)
    · intro k hk s' h
      refine ⟨⟨hk, _, fun _ => rfl, h⟩, ?_⟩
      apply (along_step hnears h.switched (fun _ => rfl) hk).imp
      rintro _ s'' ⟨rfl, h⟩
      exact ⟨rfl, by simpa using h⟩
    · intro s' hpos h
      rwa [decide_eq_true hpos] at h
  · apply Stretch.each_of_all
    rw [List.forall_mem_cons, List.forall_mem_singleton, Stretch.once_each]
    have hpower : (Rgbw.powerMove zone true).Walks .v3Rgbw (speed.rises s target) :=
      Move.walks_power _ rfl _
    refine ⟨fun _ => ?_, by simp [Move.walks_store]⟩
    rw [List.forall_mem_cons, List.forall_mem_singleton]
    exact ⟨hpower, Move.walks_step _⟩
  · intro _ hpos
    obtain ⟨n, hn⟩ := Nat.exists_eq_succ_of_ne_zero (Nat.ne_of_gt hpos)
    rw [hn]
    exact ⟨_, _, _, rfl, rfl⟩

theorem session_course {c : CommandSet} (hc : CommandSet.ofFamily? f = some c)
    (hs : 0 ≤ s.animationSpeed ∧ s.animationSpeed ≤ 100) (ht : 0 ≤ target ∧ target ≤ 100) :
    speed.Course f s target (Plan.moves (SessionBulb.setAnimationSpeed c target s)).all := by
  have haway : Plan.stepCount s.animationSpeed target 10 = speed.away s target :=
    stepCount_away (d := speed) (by decide)
  have hf : f.switches = false := by cases f <;> cases hc <;> rfl
  have hmove : ∀ up, SessionBulb.speedMove c up = speed.stepMove f up (speed.ten up 0) := by
    rintro (_ | _) <;> cases f <;> cases hc <;> rfl
  have hnears : speed.Nears s target (speed.ten (speed.rises s target)) :=
    ten_nears (by decide) ht
  simp only [SessionBulb.setAnimationSpeed, haway, hmove]
  constructor
  · simp only [Plan.all, List.flatMap_cons, Stretch.once_all, List.flatMap_nil, List.append_nil]
    refine along_target ?_ (fun s' _ h => hf ▸ h) (midway_start hs)
    exact fun k hk s' h => along_step hnears h (absurd · Bool.false_ne_true) hk
  · apply Stretch.each_of_all
    rw [List.forall_mem_cons, List.forall_mem_singleton, Stretch.once_each]
    refine ⟨fun _ => ?_, by simp [Move.walks_store]⟩
    rw [List.forall_mem_singleton]
    exact Move.walks_step _
  · exact fun h => absurd (hf.symm.trans h) (by decide)

/-- The value stored for the level of a round. -/
def levelReached (up : Bool) (here : Int) (round : Nat) (_ : LightState) : Int :=
  Zoned.percent (Plan.clamp 1 White.levels (White.reached up here round)) White.levels

/-- While steps are missing, the level is as many steps from where it was. -/
theorem level_nears (hs : 0 ≤ s.colorTemperature) (ht : 0 < target ∧ target < 100) :
    temperature.Nears s target (levelReached (temperature.rises s target)
      (Zoned.level s.colorTemperature White.levels)) := by
  intro k n s' ha h
  refine h.level ht ?_
  obtain ⟨h0, _, hn, hup⟩ := h
  have hfrom := White.level_eq hs
  have hvalue := White.level_eq h0
  have hgoal := White.level_eq (Int.le_of_lt ht.1)
  rw [away, stored, distance_levels hs (Int.le_of_lt ht.1)] at ha
  rw [distance_levels h0 (Int.le_of_lt ht.1)] at hn
  rw [rises, stored, stored, decide_eq_decide] at hup
  rw [stored] at hvalue hn ⊢
  by_cases hr : s.colorTemperature < target
  · simp only [White.reached, rises, stored, hr, decide_true, if_true]
    omega
  · simp only [White.reached, rises, stored, hr, decide_false, Bool.false_eq_true, if_false]
    omega

theorem white_course (zone : UInt8) (hs : 0 ≤ s.colorTemperature ∧ s.colorTemperature ≤ 100)
    (ht : 1 ≤ target ∧ target ≤ 99) :
    temperature.Course .v3White s target
      (Plan.moves (White.setColorTemperature zone target s)).all := by
  have haway : (Zoned.level target White.levels -
      Zoned.level s.colorTemperature White.levels).natAbs = temperature.away s target :=
    (distance_levels hs.1 (by omega)).symm
  have hmove : ∀ up here round, White.temperatureMove up (White.reached up here round) =
      temperature.stepMove .v3White up (levelReached up here round) := by
    rintro (_ | _) here round <;> rfl
  have hgoal : White.temperatureGoal target s = (target, Zoned.level target White.levels,
      Zoned.level s.colorTemperature White.levels) := by
    rw [White.temperatureGoal, if_neg (by omega), if_neg (by omega)]
  rw [White.setColorTemperature, hgoal]
  simp only [haway, hmove]
  by_cases hn : temperature.away s target = 0
  · rw [hn]
    exact course_there (d := temperature) hn
  · have hpos := Nat.pos_of_ne_zero hn
    have hup : decide (Zoned.level s.colorTemperature White.levels <
        Zoned.level target White.levels) = temperature.rises s target := by
      have hfrom := White.level_eq hs.1
      have hto := White.level_eq (show 0 ≤ target by omega)
      rw [rises, stored, decide_eq_decide]
      omega
    rw [if_pos hpos, hup]
    exact course_opened (d := temperature) rfl hs hpos (level_nears hs.1 (by omega)) rfl

theorem Aims.course {b : Bulb} {isValid : Bool} (h : d.Aims b.family s target)
    (hv : b.family.protocol = .v6 → isValid = true) :
    d.Course b.family s target (b.plan isValid s (d.operation target)).all := by
  obtain ⟨hf, hs, ht⟩ := h
  obtain ⟨family, zone⟩ := b
  cases d with
  | brightness =>
    obtain rfl := List.mem_singleton.mp hf
    exact rgb_course hs ht
  | speed =>
    cases family with
    | v3Rgbw => exact rgbw_course zone hs ht
    | v6RgbCwWw | v6Rgbw | v6BridgeLamp =>
      cases hv rfl
      exact session_course rfl hs ht
    | v2Rgb | v3White => simp [families] at hf
  | temperature =>
    obtain rfl := List.mem_singleton.mp hf
    exact white_course zone hs ht

end Dial

/-! ## Operations -/

/-- Whether `n` steps of a bulb find room in a queue. A command for the power that
goes along takes the place of the one that waits. -/
def Bulb.Fits (b : Bulb) (waiting : List Frame) (n : Nat) : Prop :=
  if b.family.switches then
    (Queue.kept waiting (b.identity (some .power))).length + 1 + n ≤ Queue.capacity
  else waiting.length + n ≤ Queue.capacity

theorem Bulb.fits_nil (b : Bulb) {n : Nat} (h : n ≤ 11) : b.Fits [] n := by
  have hc : Queue.capacity = 20 := rfl
  have hk : Queue.kept [] (b.identity (some .power)) = [] := by simp [Queue.kept]
  unfold Fits
  rw [hk, hc]
  split <;> simp <;> omega

namespace Dial

variable {d : Dial} {s : LightState} {target : Int} {b : Bulb} {ms : List Move}

/-- Brightness and speed are at most ten steps away, temperature eleven. -/
theorem Aims.away_le {f : Family} (h : d.Aims f s target) : d.away s target ≤ 11 := by
  obtain ⟨_, ⟨h0, h100⟩, hl, hm⟩ := h
  unfold away
  cases d with
  | brightness | speed =>
    rw [distance_tens (by decide)]
    simp only [least, most] at hl hm
    omega
  | temperature =>
    simp only [least, most] at hl hm
    have hfrom := White.level_eq h0
    have hto := White.level_eq (show 0 ≤ target by omega)
    rw [distance_levels h0 (by omega)]
    omega

theorem Course.steps_eq (h : d.Course b.family s target ms) : Plan.steps ms = d.away s target :=
  (Nat.zero_add _).symm.trans (Plan.along_steps h.along).1

theorem Course.sends (h : d.Course b.family s target ms) :
    ∀ c ∈ ms.filterMap Move.sends?,
      c = .step (b.family.stepPayload (d.rises s target)) ∨
        b.family.switches = true ∧ c.category = some .power := by
  intro c hc
  obtain ⟨m, hm, hs⟩ := List.mem_filterMap.mp hc
  exact h.walks m hm c hs

/-- If there are steps to make, all commands are accepted exactly if the steps fit. -/
theorem Course.room (h : d.Course b.family s target ms) (hpos : 0 < d.away s target) {wall : Nat}
    {p : Progress} (hp : p.refusal = none)
    (hn : p.link.isValid = true ∨ ∀ m ∈ ms, m.isPlain = true)
    (ho : p.link.queue.closed = false) :
    (ms.foldl (Progress.move wall b) p).refusal = none ↔
      b.Fits p.link.queue.waiting (d.away s target) := by
  have hsteps := h.steps_eq
  have hsends := h.sends
  unfold Bulb.Fits
  split
  · rename_i hf
    obtain ⟨c, record, rest, hcat, rfl⟩ := h.opens hf hpos
    have hc : c.isStep = false := by rw [Command.isStep, hcat]; rfl
    have hrest : Plan.steps rest = d.away s target := by
      rw [← hsteps, Plan.steps_send, hc]
      rfl
    rw [List.filterMap_cons, Move.sends?_send, List.forall_mem_cons] at hsends
    rw [← hrest] at hpos ⊢
    refine Progress.foldl_power_room hcat hp hn ho (fun c' hc' => ?_) hpos
    exact (hsends.2 c' hc').imp (fun he => by rw [he]; rfl) And.right
  · rename_i hf
    refine (Progress.foldl_room hp hn ho fun c hc => .inl ?_).trans ?_
    · rw [(hsends c hc).resolve_right fun he => hf he.1]
      rfl
    · rw [hsteps]
      exact ⟨fun he => he hpos, fun he _ => he⟩

/-- From where an operation was cut short, the same target is aimed at, with the
steps that were not made, and leads to the same state. -/
theorem Cut.again {f : Family} {k : Nat} {s' : LightState} (ha : d.Aims f s target)
    (h : d.Cut f s target k s') :
    d.Aims f s' target ∧ d.away s' target = d.away s target - k ∧
    d.rises s' target = d.rises s target ∧
    d.turned s' (s'.power || f.switches) target = d.turned s (s.power || f.switches) target := by
  obtain ⟨hk, on, hon, value, rfl, hm⟩ := h
  obtain ⟨h0, h100, hn, hup⟩ := hm hk
  have hv : d.stored (d.turned s (s.power || on) value) = value := by cases d <;> rfl
  have hpower : (s.power || on || f.switches) = (s.power || f.switches) := by
    cases on with
    | false => simp
    | true => simp [hon rfl]
  refine ⟨⟨ha.family, ?_, ha.target⟩, ?_, ?_, ?_⟩
  · rw [hv]
    exact ⟨h0, h100⟩
  · rw [away, hv, hn]
  · rw [rises, hv, hup]
  · rw [← hpower]
    cases d <;> rfl

end Dial

namespace Light

variable {light : Light} {d : Dial} {target : Int} {wall : Nat} {l : Link}

/-- What an operation that aims at a target comes to, and whether it fails. -/
theorem operate_dial (wall : Nat) (ha : d.Aims light.family light.state target)
    (hv : light.family.protocol = .v6 → l.isValid = true) :
    ∃ n, light.bulb.Walked (light.family.stepPayload (d.rises light.state target)) n
        (light.taken wall l (d.operation target)) ∧
      ((light.operate wall l (d.operation target)).result = .ok () →
        d.Reached light.family light.state target n
          (light.operate wall l (d.operation target)).state) ∧
      ((light.operate wall l (d.operation target)).result ≠ .ok () →
        d.Cut light.family light.state target n
          (light.operate wall l (d.operation target)).state) := by
  have hc := ha.course (b := light.bulb) hv
  obtain ⟨notices, hp⟩ := light.operate_eq wall l (d.operation target)
  obtain ⟨n, hw, hok, herr⟩ := Progress.foldl_along wall
    (p := .begin l light.state) _ rfl (light.bulb.plan_heard _ _ _)
    (fun c hm hs => (hc.sends c hm).resolve_right fun hcat => by
      simp [Command.isStep, hcat.2] at hs) hc.along
  rw [hp, ne_eq, Progress.result_ok, ← ne_eq]
  rw [Nat.zero_add] at hok herr
  exact ⟨n, hw, hok, herr⟩

theorem operate_fits (ha : d.Aims light.family light.state target)
    (hv : light.family.protocol = .v6 → l.isValid = true) (ho : l.queue.closed = false)
    (hpos : 0 < d.away light.state target) :
    (light.operate wall l (d.operation target)).result = .ok () ↔
      light.bulb.Fits l.queue.waiting (d.away light.state target) := by
  have hc := ha.course (b := light.bulb) hv
  obtain ⟨notices, hp⟩ := light.operate_eq wall l (d.operation target)
  rw [hp, Progress.result_ok]
  exact hc.room (p := .begin l light.state) hpos rfl (light.bulb.plan_heard _ _ _) ho

theorem operate_open (ho : l.queue.closed = false) (operation : Operation) :
    (light.operate wall l operation).link.queue.closed = false := by
  rw [light.operate_queue ()]
  exact Queue.run_open _ ho

theorem operate_isValid (operation : Operation) :
    (light.operate wall l operation).link.isValid = l.isValid := by
  obtain ⟨notices, hp⟩ := light.operate_eq wall l operation
  rw [hp]
  exact Progress.foldl_isValid wall light.bulb _ _

/-- An operation that a full queue has cut short after some steps is resumed by
asking again, whatever the queue has been through since. It succeeds exactly if
the missing steps fit, as they do in an empty queue. Then both calls together
have made the steps of one that is not cut short, and have come to its state. -/
theorem steps_resumed {α : Type} (ha : d.Aims light.family light.state target)
    (hv : light.family.protocol = .v6 → l.isValid = true)
    (h : (light.operate wall l (d.operation target)).result = .error (.queueFull 20))
    (cs : List (Queue.Call α)) (later : Nat) :
    let operation := d.operation target
    let step := light.family.stepPayload (d.stored light.state < target)
    let n := d.distance (d.stored light.state) target
    let cut := light.operate wall l operation
    let k := (light.taken wall l operation).countP Frame.isStep
    let resumed := light.withState cut.state
    let l' := { cut.link with queue := Queue.run cs cut.link.queue }
    k < n ∧ light.bulb.Fits [] (n-k) ∧
    ((resumed.operate later l' operation).result = .ok () ↔
      light.bulb.Fits l'.queue.waiting (n-k)) ∧
    ((resumed.operate later l' operation).result = .ok () →
      light.bulb.Walked step n
        (light.taken wall l operation ++ resumed.taken later l' operation) ∧
      ∀ wall'' l'', (light.family.protocol = .v6 → l''.isValid = true) →
        (light.operate wall'' l'' operation).result = .ok () →
        light.bulb.Walked step n (light.taken wall'' l'' operation) ∧
        (resumed.operate later l' operation).state =
          (light.operate wall'' l'' operation).state) := by
  intro operation step n cut k resumed l'
  have ho : l.queue.closed = false := by
    have hfault := (refused_changes_nothing h).1
    by_contra hclosed
    simp [hclosed] at hfault
  obtain ⟨made, hwalked, _, hcut⟩ := operate_dial wall ha hv
  have hk : k = made := hwalked.count
  have hcut := hcut (by rw [h]; simp)
  obtain ⟨ha', haway, hrises, hgoal⟩ := hcut.again ha
  have hlt : k < n := hk ▸ hcut.1
  have hv' : resumed.family.protocol = .v6 → l'.isValid = true := fun hp =>
    (operate_isValid operation).trans (hv hp)
  have ho' : l'.queue.closed = false := Queue.run_open cs (operate_open ho operation)
  have hpos : 0 < d.away resumed.state target := by
    change 0 < d.away cut.state target
    rw [haway, ← hk]
    exact Nat.sub_pos_of_lt hlt
  obtain ⟨more, hmore, hreached, _⟩ := operate_dial later ha' hv'
  refine ⟨hlt, light.bulb.fits_nil (Nat.le_trans (Nat.sub_le n k) ha.away_le), ?_, fun hok => ?_⟩
  · rw [hk]
    exact haway ▸ operate_fits ha' hv' ho' hpos
  · obtain ⟨rfl, hstate⟩ := hreached hok
    have hsum : made + d.away resumed.state target = n := by
      change made + d.away cut.state target = n
      rw [haway, ← hk]
      exact Nat.add_sub_of_le hlt.le
    constructor
    · rw [← hsum]
      exact hwalked.append (hrises ▸ hmore)
    · intro wall'' l'' hv'' hok''
      obtain ⟨all, hall, hreached'', _⟩ := operate_dial wall'' ha hv''
      obtain ⟨rfl, hstate''⟩ := hreached'' hok''
      refine ⟨hall, ?_⟩
      rw [hstate hpos, hstate'' (Nat.zero_lt_of_lt hlt)]
      exact hgoal

end Light

/-- Six turns of the send loop without pauses. -/
def sixTurns : List (Queue.Call Unit) := .setDelay 0 :: List.replicate 6 (.poll 0)

/-- A full queue cuts an operation short after some of its steps. Six turns of the
send loop later another call makes the others, and what both have come to is what
one call comes to in an empty queue. -/
def Light.MakesUp (light : Light) (l : Link) (operation : Operation) (step : Payload)
    (made n : Nat) : Prop :=
  let cut := light.operate 0 l operation
  let resumed := light.withState cut.state
  let l' := { cut.link with queue := Queue.run sixTurns cut.link.queue }
  cut.result = .error (.queueFull 20) ∧
  (light.taken 0 l operation).countP Frame.isStep = made ∧
  (resumed.operate 0 l' operation).result = .ok () ∧
  light.bulb.Walked step n (light.taken 0 l operation ++ resumed.taken 0 l' operation) ∧
  (resumed.operate 0 l' operation).state =
    (light.operate 0 { l with queue := .start } operation).state

/-- Seventeen frames wait that no other replaces. -/
def crampedLink : Link := .start (Queue.fill ⟨[0x42, 0, 0x55], 0, false⟩ 17 .start).1 none

/-- The same queue with a valid session. -/
def crampedSession : Link := { readyLink with queue := crampedLink.queue }

def dimLight : Light := ⟨⟨.v2Rgb, 0⟩, none, { LightState.initial with brightness := 20 }⟩

def paleLight : Light := ⟨⟨.v3White, 1⟩, none, { LightState.initial with colorTemperature := 50 }⟩

def slowLight : Light := ⟨⟨.v6Rgbw, 1⟩, none, { LightState.initial with animationSpeed := 60 }⟩

/-- From 20 to 45 are two and a half steps, so three; two of them are accepted
behind the command that switches the bulb on. From 50 to 99 are five of the eleven
levels. From 60 to 11 are five steps, of which three are accepted, since a speed
does not switch the bulb on. -/
theorem dials_resumed :
    dimLight.MakesUp crampedLink (.setBrightness 45) (.plain 0x23 0) 2 3 ∧
    paleLight.MakesUp crampedLink (.setColorTemperature 99) (.plain 0x3E 0) 2 5 ∧
    slowLight.MakesUp crampedSession (.setAnimationSpeed 11) (.pair 0x04 0x04) 3 5 := by
  refine ⟨?_, ?_, ?_⟩
  · have ha : Dial.brightness.Aims dimLight.family dimLight.state 45 :=
      ⟨by decide, by decide, by decide⟩
    have hv : ∀ l : Link, dimLight.family.protocol = .v6 → l.isValid = true :=
      fun _ hp => absurd hp (by decide)
    have hn : Dial.brightness.distance 20 45 = 3 := Dial.distance_tens (by decide) 20 45
    have hcut : (dimLight.operate 0 crampedLink (.setBrightness 45)).result =
        .error (.queueFull 20) := rfl
    obtain ⟨_, _, _, hall⟩ := Light.steps_resumed ha (hv _) hcut sixTurns 0
    obtain ⟨hwalked, hsame⟩ := hall (by decide +kernel)
    exact ⟨hcut, rfl, by decide +kernel, hn ▸ hwalked, (hsame 0 _ (hv _) rfl).2⟩
  · have ha : Dial.temperature.Aims paleLight.family paleLight.state 99 :=
      ⟨by decide, by decide, by decide⟩
    have hv : ∀ l : Link, paleLight.family.protocol = .v6 → l.isValid = true :=
      fun _ hp => absurd hp (by decide)
    have hn : Dial.temperature.distance 50 99 = 5 := Dial.distance_levels (by decide) (by decide)
    have hcut : (paleLight.operate 0 crampedLink (.setColorTemperature 99)).result =
        .error (.queueFull 20) := rfl
    obtain ⟨_, _, _, hall⟩ := Light.steps_resumed ha (hv _) hcut sixTurns 0
    obtain ⟨hwalked, hsame⟩ := hall (by decide +kernel)
    exact ⟨hcut, rfl, by decide +kernel, hn ▸ hwalked, (hsame 0 _ (hv _) rfl).2⟩
  · have ha : Dial.speed.Aims slowLight.family slowLight.state 11 :=
      ⟨by decide, by decide, by decide⟩
    have hn : Dial.speed.distance 60 11 = 5 := Dial.distance_tens (by decide) 60 11
    have hcut : (slowLight.operate 0 crampedSession (.setAnimationSpeed 11)).result =
        .error (.queueFull 20) := rfl
    obtain ⟨_, _, _, hall⟩ := Light.steps_resumed ha (fun _ => rfl) hcut sixTurns 0
    obtain ⟨hwalked, hsame⟩ := hall (by decide +kernel)
    exact ⟨hcut, rfl, by decide +kernel, hn ▸ hwalked, (hsame 0 _ (fun _ => rfl) rfl).2⟩

end LightBridge
