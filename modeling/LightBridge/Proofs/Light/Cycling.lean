import LightBridge.Proofs.Light.Range

/-!
# The modes of colour and white bulbs

A colour and white bulb has nine modes and only goes on to the next one, from
the last to the first. A mode that is asked for is reached by going around, and
what is stored follows each step, so it tells the mode of the bulb wherever an
operation is cut short.
-/

set_option autoImplicit false

namespace LightBridge.Rgbw

open Zoned Errand

variable {zone : UInt8}

/-! ## What frames do to the bulb -/

def advances (f : Frame) : Bool := f.bytes.head? == some 0x4D

/-- The mode, from 1 to 9, after a frame. -/
def modeShown (f : Frame) (mode : Int) : Int := if advances f then mode%9+1 else mode

/-- The number of steps from mode to mode, with those of a frame. -/
def modeSteps (f : Frame) (n : Nat) : Nat := if advances f then n+1 else n

theorem absorb_modeSteps (fs : List Frame) (n : Nat) :
    Queue.absorb modeSteps fs n = n + fs.countP advances := by
  induction fs generalizing n with
  | nil => rfl
  | cons f fs ih =>
    rw [Queue.absorb, ih, List.countP_cons, modeSteps]
    split <;> omega

/-- Only a step leaves no mode as it is. -/
theorem advances_of_inert {f : Frame} (h : ∀ mode, modeShown f mode = mode) :
    advances f = false := by
  have hone := h 1
  unfold modeShown at hone
  split at hone
  · cases hone
  · simpa using ‹¬ advances f = true›

/-- A command that names the zone leaves the mode alone. -/
theorem named_still (hz : Family.v3Rgbw.hasZone zone = true) {t : List UInt8}
    (ht : t ∈ Family.v3Rgbw.selectors ++ Family.v3Rgbw.hushers) {f : Frame}
    (hf : f.bytes = Wire.plain (zoneByte t zone) 0) : advances f = false := by
  have hne : zoneByte t zone ≠ 0x4D := by
    intro he
    have hn := Family.zoneless_of_names (Family.names_zoneByte ht hz)
    rw [he] at hn
    exact absurd hn (by decide)
  simpa [advances, hf, Wire.plain] using hne

/-! ## What every move keeps -/

/-- The stored mode is one of the nine, and the bulb is in it. -/
def Shown (s : LightState) (mode : Int) : Prop := (1 ≤ s.ledMode ∧ s.ledMode ≤ 9) ∧ mode = s.ledMode

/-- A move that does not store a mode, unless it is a step to the next one. -/
def Faithful (zone : UInt8) : Move → Prop
  | .store record => ∀ s, (record s).ledMode = s.ledMode
  | .send c record => ∀ header,
    (c = .step (.plain 0x4D 0) ∧ ∀ s, (record s).ledMode = modeAfter s.ledMode) ∨
      advances (Bulb.frame ⟨.v3Rgbw, zone⟩ header c) = false ∧
        ∀ s, (record s).ledMode = s.ledMode

theorem modeMove_faithful : Faithful zone modeMove := fun _ => .inl ⟨rfl, fun _ => rfl⟩

theorem named_faithful (hz : Family.v3Rgbw.hasZone zone = true) {t : List UInt8}
    (ht : t ∈ Family.v3Rgbw.selectors ++ Family.v3Rgbw.hushers) {category : Option Category}
    {repeatable : Bool} {record : LightState → LightState}
    (hr : ∀ s, (record s).ledMode = s.ledMode) :
    Faithful zone (.send ⟨.plain (zoneByte t zone) 0, category, repeatable⟩ record) :=
  fun _ => .inr ⟨named_still hz ht rfl, hr⟩

theorem powerMove_faithful (hz : Family.v3Rgbw.hasZone zone = true) (on : Bool) :
    Faithful zone (powerMove zone on) := by
  cases on with
  | true => exact named_faithful hz (t := onTable) (by decide) fun _ => rfl
  | false => exact named_faithful hz (t := offTable) (by decide) fun _ => rfl

theorem colorMove_faithful (hue : Float32) : Faithful zone (colorMove hue) :=
  fun _ => .inr ⟨rfl, fun _ => rfl⟩

theorem brightnessMove_faithful (value : Int) : Faithful zone (brightnessMove value) :=
  fun _ => .inr ⟨rfl, fun _ => rfl⟩

theorem speedMove_faithful (up : Bool) : Faithful zone (speedMove up) := by
  cases up <;> exact fun _ => .inr ⟨rfl, fun _ => rfl⟩

theorem whiteMode_faithful (hz : Family.v3Rgbw.hasZone zone = true) :
    ∀ st ∈ whiteMode zone, st.Each (Faithful zone) := by
  simp only [whiteMode, List.forall_mem_singleton, Stretch.once_each, List.forall_mem_cons]
  exact ⟨powerMove_faithful hz true, named_faithful hz (t := whiteTable) (by decide) fun _ => rfl⟩

theorem setBrightness_faithful (hz : Family.v3Rgbw.hasZone zone = true) (value : Int) :
    ∀ st ∈ setBrightness zone value, st.Each (Faithful zone) := by
  unfold setBrightness
  split
  · simp only [List.forall_mem_singleton, Stretch.once_each, List.forall_mem_cons]
    exact ⟨powerMove_faithful hz false, fun _ => rfl⟩
  · simp [powerMove_faithful hz, brightnessMove_faithful]

theorem setHsb_faithful (hz : Family.v3Rgbw.hasZone zone = true) (hue : Float32)
    (saturation brightness : Option Int) :
    ∀ st ∈ setHsb zone hue saturation brightness, st.Each (Faithful zone) := by
  unfold setHsb
  split
  · exact whiteMode_faithful hz
  · rw [List.forall_mem_cons, Stretch.once_each]
    constructor
    · simp [powerMove_faithful hz, colorMove_faithful]
    · cases brightness with
      | none => simp
      | some value => exact setBrightness_faithful hz value

theorem plan_faithful (hz : Family.v3Rgbw.hasZone zone = true) (s : LightState)
    {operation : Operation} (ho : ∀ mode, operation ≠ .setLedMode mode) :
    ∀ m ∈ (plan zone s operation).all, Faithful zone m := by
  cases operation with
  | setPower on => exact Stretch.each_of_all (by simp [powerMove_faithful hz])
  | setHsb hue saturation brightness => exact Stretch.each_of_all (setHsb_faithful hz hue _ _)
  | whiteMode => exact Stretch.each_of_all (whiteMode_faithful hz)
  | nightMode =>
    apply Stretch.each_of_all
    simp only [nightMode, List.forall_mem_singleton, Stretch.once_each, List.forall_mem_cons]
    exact ⟨named_faithful hz (t := offTable) (by decide) fun _ => rfl,
      named_faithful hz (t := nightTable) (by decide) fun _ => rfl⟩
  | setBrightness value => exact Stretch.each_of_all (setBrightness_faithful hz value)
  | changeBrightness delta =>
    apply Stretch.each_of_all
    split
    · simp
    · exact setBrightness_faithful hz _
  | setLedMode mode => exact absurd rfl (ho mode)
  | nextAnimationMode | previousAnimationMode =>
    exact Stretch.each_of_all (by simp [powerMove_faithful hz, modeMove_faithful])
  | setAnimationSpeed speed =>
    apply Stretch.each_of_all
    rw [setAnimationSpeed, List.forall_mem_cons, List.forall_mem_singleton, Stretch.once_each]
    exact ⟨fun _ => by simp [powerMove_faithful hz, speedMove_faithful], by simp [Faithful]⟩
  | changeSpeed delta =>
    apply Stretch.each_of_all
    split <;> simp [powerMove_faithful hz, speedMove_faithful]
  | _ => exact List.forall_mem_nil _

theorem modeAfter_eq {mode : Int} (h : 1 ≤ mode) (hm : mode ≤ 9) : modeAfter mode = mode%9+1 := by
  have hin : inModes mode = true := by simp [inModes, Plan.firstMode, Plan.lastMode, h, hm]
  rw [modeAfter, if_pos hin, Plan.lastMode, Int.tmod_eq_emod_of_nonneg (by omega)]

theorem shown_send {c : Command} {record : LightState → LightState}
    (hf : Faithful zone (.send c record)) (header : Wire.Header) {s : LightState} {mode : Int}
    (h : Shown s mode) :
    Shown (record s) (modeShown (Bulb.frame ⟨.v3Rgbw, zone⟩ header c) mode) := by
  obtain ⟨⟨hl, hm⟩, rfl⟩ := h
  unfold Shown
  rcases hf header with ⟨rfl, hr⟩ | ⟨hs, hr⟩
  · have hn : modeShown (Bulb.frame ⟨.v3Rgbw, zone⟩ header (.step (.plain 0x4D 0))) s.ledMode =
        s.ledMode%9+1 := rfl
    rw [hr, hn, modeAfter_eq hl hm]
    omega
  · rw [hr, modeShown, hs]
    exact ⟨⟨hl, hm⟩, rfl⟩

theorem faithful_sure {ms : List Move} (hm : ∀ m ∈ ms, Faithful zone m) {s : LightState}
    {mode : Int} (h : Shown s mode) :
    Sure ⟨.v3Rgbw, zone⟩ modeShown Shown Shown ms s mode := by
  induction ms generalizing s mode with
  | nil => exact h
  | cons m ms ih =>
    rw [List.forall_mem_cons] at hm
    cases m with
    | store record =>
      refine ⟨h, ih hm.2 ?_⟩
      unfold Shown
      rw [hm.1 s]
      exact h
    | send c record => exact ⟨h, ih hm.2 (shown_send hm.1 _ h)⟩

/-! ## Going around to a mode -/

/-- The steps that lead from the stored mode to another one. -/
def turns (mode : Int) (s : LightState) : Nat :=
  ((Plan.clampMode mode - if inModes s.ledMode then s.ledMode else 1)%9).toNat

theorem turns_le (mode : Int) (s : LightState) : turns mode s ≤ 8 := by
  unfold turns
  omega

/-- That many steps end in the mode that was asked for. -/
theorem turns_reach (mode : Int) {s : LightState} (h : 1 ≤ s.ledMode) (hm : s.ledMode ≤ 9) :
    (s.ledMode-1+turns mode s)%9+1 = Plan.clampMode mode := by
  have hin : inModes s.ledMode = true := by simp [inModes, Plan.firstMode, Plan.lastMode, h, hm]
  have hc : 1 ≤ Plan.clampMode mode ∧ Plan.clampMode mode ≤ 9 := Plan.clamp_range (by decide) mode
  rw [turns, if_pos hin]
  omega

theorem setLedMode_all (zone : UInt8) (mode : Int) (s : LightState) :
    (Plan.moves (setLedMode zone mode s)).all =
      (if 0 < turns mode s then [powerMove zone true] else []) ++
        ((List.range' 1 (turns mode s)).flatMap fun _ => [modeMove]) ++
          [.store fun s => { s with ledMode := Plan.clampMode mode }] := by
  have ht : ((Plan.clampMode mode - if inModes s.ledMode then s.ledMode else Plan.firstMode)%
      Plan.lastMode).toNat = turns mode s := rfl
  simp only [setLedMode, ht, Plan.all]
  split <;> simp [Stretch.all, Stretch.once]

theorem rounds_shown (n k : Nat) {s : LightState} {mode : Int} (h : Shown s mode) :
    Sure ⟨.v3Rgbw, zone⟩ modeShown Shown
      (fun s' mode' => Shown s' mode' ∧ s'.ledMode = (s.ledMode-1+n)%9+1)
      ((List.range' k n).flatMap fun _ => [modeMove]) s mode := by
  induction n generalizing k s mode with
  | zero =>
    obtain ⟨hl, hm⟩ := h.1
    exact ⟨h, by omega⟩
  | succ n ih =>
    rw [List.range'_succ, List.flatMap_cons]
    refine ⟨h, (ih (k+1) (shown_send modeMove_faithful _ h)).imp ?_⟩
    rintro s' mode' ⟨hs, he⟩
    refine ⟨hs, he.trans ?_⟩
    rw [show modeAfter s.ledMode = _ from modeAfter_eq h.1.1 h.1.2]
    push_cast
    omega

/-- The mode that is stored at the end is the one that the steps have reached. -/
theorem setLedMode_shown (hz : Family.v3Rgbw.hasZone zone = true) (mode : Int) {s : LightState}
    {x : Int} (h : Shown s x) :
    Sure ⟨.v3Rgbw, zone⟩ modeShown Shown Shown (Plan.moves (setLedMode zone mode s)).all s x := by
  have reached : ∀ s' x', s'.ledMode = s.ledMode → Shown s' x' →
      Sure ⟨.v3Rgbw, zone⟩ modeShown Shown Shown
        (((List.range' 1 (turns mode s)).flatMap fun _ => [modeMove]) ++
          [.store fun s => { s with ledMode := Plan.clampMode mode }]) s' x' := by
    intro s' x' he h'
    rw [sure_append]
    apply (rounds_shown (turns mode s) 1 h').imp
    rintro s'' x'' ⟨hs, hr⟩
    rw [he, turns_reach mode h.1.1 h.1.2] at hr
    refine ⟨hs, ?_⟩
    unfold Sure Shown
    rw [← hr]
    exact hs
  rw [setLedMode_all, List.append_assoc]
  split
  · exact ⟨h, reached _ _ rfl (shown_send (powerMove_faithful hz true) _ h)⟩
  · exact reached s x rfl h

theorem plan_shown (hz : Family.v3Rgbw.hasZone zone = true) (operation : Operation)
    {s : LightState} {mode : Int} (h : Shown s mode) :
    Sure ⟨.v3Rgbw, zone⟩ modeShown Shown Shown (plan zone s operation).all s mode := by
  by_cases ho : ∃ mode, operation = .setLedMode mode
  · obtain ⟨mode, rfl⟩ := ho
    exact setLedMode_shown hz mode h
  · exact faithful_sure (plan_faithful hz s fun mode he => ho ⟨mode, he⟩) h

theorem rounds_counted (n k : Nat) (s : LightState) (x : Nat) :
    Sure ⟨.v3Rgbw, zone⟩ modeSteps (fun _ _ => True) (fun _ x' => x' = x+n)
      ((List.range' k n).flatMap fun _ => [modeMove]) s x := by
  induction n generalizing k s x with
  | zero => exact rfl
  | succ n ih =>
    rw [List.range'_succ, List.flatMap_cons]
    refine ⟨trivial, (ih (k+1) _ (x+1)).imp ?_⟩
    rintro s' x' rfl
    omega

theorem setLedMode_counted (hz : Family.v3Rgbw.hasZone zone = true) (mode : Int)
    (s : LightState) :
    Sure ⟨.v3Rgbw, zone⟩ modeSteps (fun _ _ => True)
      (fun s' n => s'.ledMode = Plan.clampMode mode ∧ n ≤ 8)
      (Plan.moves (setLedMode zone mode s)).all s 0 := by
  have counted : ∀ s', Sure ⟨.v3Rgbw, zone⟩ modeSteps (fun _ _ => True)
      (fun s' n => s'.ledMode = Plan.clampMode mode ∧ n ≤ 8)
      (((List.range' 1 (turns mode s)).flatMap fun _ => [modeMove]) ++
        [.store fun s => { s with ledMode := Plan.clampMode mode }]) s' 0 := by
    intro s'
    rw [sure_append]
    apply (rounds_counted (turns mode s) 1 s' 0).imp
    rintro s'' n rfl
    exact ⟨trivial, rfl, by simpa using turns_le mode s⟩
  rw [setLedMode_all, List.append_assoc]
  split
  · refine ⟨trivial, ?_⟩
    rw [modeSteps, named_still hz (t := onTable) (by decide) rfl]
    exact counted _
  · exact counted s

/-! ## Every run -/

/-- Steps are never overtaken, and what may be overtaken leaves the mode alone. -/
theorem planned_gentle (hz : Family.v3Rgbw.hasZone zone = true) {m : Move}
    (h : Planned zone m) {c : Command} {record : LightState → LightState}
    (hm : m = .send c record) (header : Wire.Header) :
    (Bulb.frame ⟨.v3Rgbw, zone⟩ header c).identity = 0 ∨
      advances (Bulb.frame ⟨.v3Rgbw, zone⟩ header c) = false := by
  have named : ∀ {t : List UInt8} {category : Category} {repeatable : Bool},
      t ∈ Family.v3Rgbw.selectors ++ Family.v3Rgbw.hushers →
      c = ⟨.plain (zoneByte t zone) 0, some category, repeatable⟩ →
      advances (Bulb.frame ⟨.v3Rgbw, zone⟩ header c) = false := by
    rintro t category repeatable ht rfl
    exact named_still hz ht rfl
  cases h with
  | power on =>
    cases hm
    cases on with
    | true => exact .inr (named (t := onTable) (by decide) rfl)
    | false => exact .inr (named (t := offTable) (by decide) rfl)
  | white => exact .inr (named (t := whiteTable) (by decide) (by cases hm; rfl))
  | dim => exact .inr (named (t := offTable) (by decide) (by cases hm; rfl))
  | night => exact .inr (named (t := nightTable) (by decide) (by cases hm; rfl))
  | mode => cases hm; exact .inl rfl
  | speed up => cases hm; exact .inl rfl
  | color hue => cases hm; exact .inr rfl
  | brightness value => cases hm; exact .inr rfl
  | _ => cases hm

theorem plan_plain (isValid : Bool) (s : LightState) (operation : Operation) :
    ∀ m ∈ (Bulb.plan ⟨.v3Rgbw, zone⟩ isValid s operation).all, m.isPlain = true :=
  fun m hm => (plan_planned zone s operation m hm).isPlain

/-- Frames that leave the mode alone are no steps. -/
theorem fits_counted {allowed : Operation → Prop} {y : Beat} (h : y.Fits allowed modeShown) :
    y.Fits allowed modeSteps := by
  cases y with
  | call c =>
    cases c with
    | enqueue mark f =>
      intro n
      rw [modeSteps, advances_of_inert h]
      rfl
    | _ => trivial
  | begin operation => exact h
  | move => trivial

theorem accepted_gentle (hz : Family.v3Rgbw.hasZone zone = true) {wall : Nat} {link : Link}
    {s : LightState} {xs : List Beat} (hx : ∀ x ∈ xs, x.Fits (fun _ => True) modeShown) :
    Queue.Overrides modeShown (accepted wall ⟨.v3Rgbw, zone⟩ xs (.rest link s)) := by
  have hplans : ∀ isValid s operation, ∀ m ∈ (Bulb.plan ⟨.v3Rgbw, zone⟩ isValid s operation).all,
      Planned zone m := fun _ => plan_planned zone
  refine accepted_overrides hplans (fun header c record hp => ?_) hx (by simp [Errand.rest])
  refine (planned_gentle hz hp rfl header).imp_right fun hs mode => ?_
  rw [modeShown, hs]
  rfl

/-- Once what was accepted is delivered, the bulb is in the stored mode, however
calls are interleaved and wherever they are cut short. A mode that is set
without a refusal takes at most eight steps and is stored, clamped. -/
theorem mode_tracked (hz : Family.v3Rgbw.hasZone zone = true) (wall : Nat) (link : Link)
    (hq : link.queue.Fresh) (s : LightState) (hs : 1 ≤ s.ledMode ∧ s.ledMode ≤ 9)
    (xs : List Beat) (hx : ∀ x ∈ xs, x.Fits (fun _ => True) modeShown) :
    let b : Bulb := ⟨.v3Rgbw, zone⟩
    let e := Errand.run wall b xs (.rest link s)
    let sent := Queue.sent (script wall b xs (.rest link s)) link.queue
    Queue.absorb modeShown (sent ++ e.link.queue.waiting) s.ledMode = e.state.ledMode ∧
    ∀ mode ys, e.todo = [] → (∀ y ∈ ys, y.Fits (fun _ => False) modeShown) →
      let zs := .begin (.setLedMode mode) :: ys
      unrefused wall b zs e = true → (Errand.run wall b zs e).todo = [] →
      (accepted wall b zs e).countP advances ≤ 8 ∧
        (Errand.run wall b zs e).state.ledMode = Plan.clampMode mode := by
  intro b e sent
  constructor
  · have hrun := run_sure wall (fun _ _ (g : Unit) => g) (fun _ => Shown) (fun _ => Shown)
      plan_plain (fun _ _ _ operation _ _ h => plan_shown hz operation h) xs hx
      (.inl fun _ _ _ h => h) (e := .rest link s) (g := ()) (by simp [Errand.rest])
      (show Shown s s.ledMode from ⟨hs, rfl⟩)
    exact (absorb_run xs s hq (accepted_gentle hz hx) s.ledMode).trans hrun.now.2
  · intro mode ys hrest hy zs hall hend
    have hbegun : e.beat wall b (.begin (.setLedMode mode)) =
        ⟨e.link, e.state, (plan zone e.state (.setLedMode mode)).all⟩ := by
      simp only [beat, hrest]
      rfl
    have hrun := run_sure wall (fun _ _ (g : Unit) => g) (fun _ _ _ => True)
      (fun _ s' n => s'.ledMode = Plan.clampMode mode ∧ n ≤ 8) plan_plain
      (fun _ _ _ _ _ ho => ho.elim) ys (fun y hm => fits_counted (hy y hm)) (.inr hall)
      (e := e.beat wall b (.begin (.setLedMode mode))) (g := ())
      (by rw [hbegun]; exact plan_plain false e.state (.setLedMode mode))
      (by rw [hbegun]; exact setLedMode_counted hz mode e.state)
    have hzs : accepted wall b zs e =
        accepted wall b ys (e.beat wall b (.begin (.setLedMode mode))) :=
      accepted_cons wall b (.begin (.setLedMode mode)) ys e
    rw [show (Errand.run wall b ys (e.beat wall b (.begin (.setLedMode mode)))).todo = [] from hend,
      absorb_modeSteps, Nat.zero_add, ← hzs] at hrun
    exact ⟨hrun.2, hrun.1⟩

/-- Others leave four places in the queue, so three of the seven steps are accepted. -/
def detour : List Beat :=
  List.replicate 16 (.call (.enqueue none (.relative [0, 0, 0x55]))) ++
    .begin (.setLedMode 9) :: List.replicate 9 .move ++
    .call (.setDelay 0) :: List.replicate 60 (.call (.poll 0))

def secondMode : LightState := { LightState.initial with ledMode := 2 }

def detoured : Errand := Errand.run 0 ⟨.v3Rgbw, 1⟩ detour (.rest (.start .start none) secondMode)

/-- The bulb is left in mode 5, and is then brought around to mode 2. -/
theorem detour_tracked :
    detoured.link.queue.waiting = [] ∧ detoured.state.ledMode = 5 ∧
    Queue.absorb modeShown (Queue.sent (script 0 ⟨.v3Rgbw, 1⟩ detour
      (.rest (.start .start none) secondMode)) .start ++ detoured.link.queue.waiting) 2 = 5 ∧
    (accepted 0 ⟨.v3Rgbw, 1⟩ (.begin (.setLedMode 2) :: List.replicate 8 .move) detoured).countP
      advances ≤ 8 ∧
    (Errand.run 0 ⟨.v3Rgbw, 1⟩ (.begin (.setLedMode 2) :: List.replicate 8 .move)
      detoured).state.ledMode = Plan.clampMode 2 := by
  have hx : ∀ x ∈ detour, x.Fits (fun _ => True) modeShown := by
    intro x hm
    simp only [detour, List.mem_append, List.mem_cons, List.mem_replicate] at hm
    rcases hm with (⟨-, rfl⟩ | rfl | ⟨-, rfl⟩) | rfl | ⟨-, rfl⟩
    · exact fun _ => rfl
    · trivial
    · trivial
    · trivial
    · trivial
  have hy : ∀ y ∈ List.replicate 8 Beat.move, y.Fits (fun _ => False) modeShown := by
    intro y hm
    rw [(List.mem_replicate.mp hm).2]
    trivial
  have hz : Family.v3Rgbw.hasZone 1 = true := by decide
  have hmode : detoured.state.ledMode = 5 := by decide +kernel
  have hrest : detoured.todo = [] := by
    rw [← List.isEmpty_iff]
    decide +kernel
  have hend : (Errand.run 0 ⟨.v3Rgbw, 1⟩ (.begin (.setLedMode 2) :: List.replicate 8 .move)
      detoured).todo = [] := by
    rw [← List.isEmpty_iff]
    decide +kernel
  obtain ⟨hshown, hset⟩ := mode_tracked hz 0 (.start .start none) Queue.start_fresh secondMode
    (by decide) detour hx
  have hdone := hset 2 (List.replicate 8 .move) hrest hy (by decide +kernel) hend
  refine ⟨by decide +kernel, hmode, hshown.trans hmode, ?_⟩
  unfold detoured
  exact hdone

end LightBridge.Rgbw
