import LightBridge.Proofs.Light.Errand
import LightBridge.Proofs.Light.Mirror
import LightBridge.Proofs.Light.Opening

/-!
# The brightness of white bulbs

A white bulb has eleven levels of brightness and moves by single steps from
where it is, or to the highest. The stored percentage stands for its level
after every move, so it does wherever an operation is cut short.
-/

set_option autoImplicit false

namespace LightBridge.White

open Zoned Errand

variable {zone : UInt8}

/-! ## Levels and percentages -/

theorem level_eq {value : Int} (h : 0 ≤ value) : level value levels = (value*11+99)/100 :=
  level_eq_ediv h (by decide)

theorem percent_eq {l : Int} (h : 0 ≤ l) : percent l levels = l*100/11 := percent_eq_ediv h

theorem percent_range {l : Int} (h : 1 ≤ l) (hm : l ≤ 11) :
    0 < percent l levels ∧ percent l levels ≤ 100 := by
  rw [percent_eq (by omega)]
  omega

theorem level_range {value : Int} (h : 0 < value) (hm : value ≤ 100) :
    1 ≤ level value levels ∧ level value levels ≤ 11 := by
  rw [level_eq (by omega)]
  omega

/-! ## What frames do to the bulb -/

/-- The level of brightness, from 1 to 11, after a frame. -/
def brightnessAfter (zone : UInt8) (f : Frame) (l : Int) : Int :=
  match f.bytes with
  | [] => l
  | c::_ =>
    if c = zoneByte fullTable zone then 11
    else if c = 0x3C then min (l+1) 11
    else if c = 0x34 then max (l-1) 1
    else l

/-- The commands that do not touch the brightness. -/
def unlit : List UInt8 := onTable ++ offTable ++ nightTable ++ [0x3E, 0x3F, 0x27, 0x28]

theorem full_mem_table (hz : Family.v3White.hasZone zone = true) :
    zoneByte fullTable zone ∈ fullTable :=
  Family.zoneByte_mem (by decide) hz

theorem zoneByte_unlit (hz : Family.v3White.hasZone zone = true) {t : List UInt8}
    (ht : t ∈ [onTable, offTable, nightTable]) : zoneByte t zone ∈ unlit := by
  have hnames : ∀ t ∈ [onTable, offTable, nightTable],
      t ∈ Family.v3White.selectors ++ Family.v3White.hushers ∧ t ⊆ unlit := by decide
  exact (hnames t ht).2 (Family.zoneByte_mem (hnames t ht).1 hz)

theorem unlit_inert (hz : Family.v3White.hasZone zone = true) {c : UInt8} (hc : c ∈ unlit)
    {f : Frame} (hf : f.bytes = Wire.plain c 0) (l : Int) : brightnessAfter zone f l = l := by
  have hall : ∀ c ∈ unlit, c ∉ fullTable ∧ c ≠ 0x3C ∧ c ≠ 0x34 := by decide +kernel
  obtain ⟨hfull, hb, hd⟩ := hall c hc
  have hne : c ≠ zoneByte fullTable zone := fun he => hfull (he ▸ full_mem_table hz)
  simp [brightnessAfter, hf, Wire.plain, hne, hb, hd]

theorem full_resets (h : Wire.Header) (category : Option Category) (repeatable : Bool) (l : Int) :
    brightnessAfter zone (Bulb.frame ⟨.v3White, zone⟩ h
      ⟨.plain (zoneByte fullTable zone) 0, category, repeatable⟩) l = 11 := by
  simp [brightnessAfter, Bulb.frame, Bulb.bytes, Wire.plain]

theorem brighter_raises (hz : Family.v3White.hasZone zone = true) (h : Wire.Header) (l : Int) :
    brightnessAfter zone (Bulb.frame ⟨.v3White, zone⟩ h brighter) l = min (l+1) 11 := by
  have hne : (0x3C : UInt8) ≠ zoneByte fullTable zone := fun he =>
    absurd (he ▸ full_mem_table hz) (by decide)
  simp [brightnessAfter, Bulb.frame, Bulb.bytes, Wire.plain, brighter, Command.step, hne]

theorem dimmer_lowers (hz : Family.v3White.hasZone zone = true) (h : Wire.Header) (l : Int) :
    brightnessAfter zone (Bulb.frame ⟨.v3White, zone⟩ h dimmer) l = max (l-1) 1 := by
  have hne : (0x34 : UInt8) ≠ zoneByte fullTable zone := fun he =>
    absurd (he ▸ full_mem_table hz) (by decide)
  simp [brightnessAfter, Bulb.frame, Bulb.bytes, Wire.plain, dimmer, Command.step, hne]

/-! ## What every move keeps -/

/-- A positive stored brightness stands for the level of the bulb. -/
def Lit (s : LightState) (l : Int) : Prop :=
  (1 ≤ l ∧ l ≤ 11) ∧
  (0 < s.brightness → s.brightness ≤ 100 ∧ l = level s.brightness levels)

theorem lit_full (s : LightState) : Lit { s with power := true, brightness := 100 } 11 :=
  ⟨by decide, fun _ => ⟨Int.le_refl 100, rfl⟩⟩

theorem lit_dark {s : LightState} {l : Int} (h : Lit s l) : Lit { s with brightness := 0 } l :=
  ⟨h.1, fun hb => absurd hb (Int.lt_irrefl 0)⟩

theorem lit_reached (s : LightState) {l : Int} (h : 1 ≤ l) (hm : l ≤ 11) :
    Lit { s with brightness := percent l levels } l :=
  ⟨⟨h, hm⟩, fun _ => ⟨(percent_range h hm).2, (level_percent_eq (by omega) (by decide) (by decide)).symm⟩⟩

theorem lit_value (s : LightState) {value : Int} (h : 0 < value) (hm : value ≤ 100) :
    Lit { s with brightness := value } (level value levels) :=
  ⟨level_range h hm, fun _ => ⟨hm, rfl⟩⟩

/-- A move that has nothing to do with brightness. -/
def Neutral (zone : UInt8) : Move → Prop
  | .store record => ∀ s, (record s).brightness = s.brightness
  | .send c record =>
    (∀ s, (record s).brightness = s.brightness) ∧
    ∀ l, brightnessAfter zone (Bulb.frame ⟨.v3White, zone⟩ Link.noHeader c) l = l

theorem lit_congr {s s' : LightState} (he : s'.brightness = s.brightness) {l : Int}
    (h : Lit s l) : Lit s' l := by
  unfold Lit
  rw [he]
  exact h

theorem neutral_sure {ms : List Move} (hm : ∀ m ∈ ms, Neutral zone m) {s : LightState} {l : Int}
    (h : Lit s l) : Sure ⟨.v3White, zone⟩ (brightnessAfter zone) Lit Lit ms s l := by
  induction ms generalizing s l with
  | nil => exact h
  | cons m ms ih =>
    rw [List.forall_mem_cons] at hm
    cases m with
    | store record => exact ⟨h, ih hm.2 (lit_congr (hm.1 s) h)⟩
    | send c record =>
      refine ⟨h, ?_⟩
      rw [hm.1.2]
      exact ih hm.2 (lit_congr (hm.1.1 s) h)

theorem neutral_of_unlit (hz : Family.v3White.hasZone zone = true) {c : Command} {byte : UInt8}
    (hc : c.payload = .plain byte 0) (hb : byte ∈ unlit) {record : LightState → LightState}
    (hr : ∀ s, (record s).brightness = s.brightness) : Neutral zone (.send c record) :=
  ⟨hr, unlit_inert hz hb (by simp [Bulb.frame, Bulb.bytes, hc])⟩

theorem powerMove_neutral (hz : Family.v3White.hasZone zone = true) (on : Bool) :
    Neutral zone (powerMove zone on) := by
  cases on with
  | true => exact neutral_of_unlit hz rfl (zoneByte_unlit hz (t := onTable) (by simp)) fun _ => rfl
  | false =>
    exact neutral_of_unlit hz rfl (zoneByte_unlit hz (t := offTable) (by simp)) fun _ => rfl

theorem temperatureMove_neutral (hz : Family.v3White.hasZone zone = true) (up : Bool) (l : Int) :
    Neutral zone (temperatureMove up l) := by
  cases up <;> exact neutral_of_unlit hz rfl (by decide) fun _ => rfl

theorem modeMove_neutral (hz : Family.v3White.hasZone zone = true) (next : Bool) :
    Neutral zone (modeMove next) := by
  cases next <;> exact neutral_of_unlit hz rfl (by decide) fun _ => rfl

/-! ## The operations -/

/-- Steps that lead from one level to another, each stored as it is made. -/
theorem climb_sure (hz : Family.v3White.hasZone zone = true) (up : Bool) (here : Int) (n k : Nat)
    (hr : ∀ i, k ≤ i → i ≤ k+n → 1 ≤ reached up here i ∧ reached up here i ≤ 11)
    {s : LightState} (h : Lit s (reached up here k)) :
    Sure ⟨.v3White, zone⟩ (brightnessAfter zone) Lit
      (fun s' l => Lit s' l ∧ l = reached up here (k+n : Nat))
      ((List.range' (k+1) n).flatMap fun round =>
        [.send (if up then brighter else dimmer) fun s =>
          { s with brightness := percent (reached up here round) levels }])
      s (reached up here k) := by
  induction n generalizing k s with
  | zero => exact ⟨h, rfl⟩
  | succ n ih =>
    rw [List.range'_succ, List.flatMap_cons]
    refine ⟨h, ?_⟩
    have hk := hr k (Nat.le_refl k) (by omega)
    have hk' := hr (k+1) (by omega) (by omega)
    have hstep : brightnessAfter zone (Bulb.frame ⟨.v3White, zone⟩ Link.noHeader
        (if up then brighter else dimmer)) (reached up here k) = reached up here (k+1 : Nat) := by
      cases up with
      | true =>
        simp only [reached, if_true] at hk' ⊢
        rw [brighter_raises hz]
        push_cast at hk' ⊢
        omega
      | false =>
        simp only [reached, Bool.false_eq_true, if_false] at hk' ⊢
        rw [dimmer_lowers hz]
        push_cast at hk' ⊢
        omega
    rw [hstep]
    have hi := ih (k+1) (fun i h1 h2 => hr i (by omega) (by omega)) (lit_reached s hk'.1 hk'.2)
    rwa [Nat.add_right_comm, Nat.add_assoc] at hi

theorem reached_between (here target : Int) (h : 1 ≤ here ∧ here ≤ 11)
    (ht : 1 ≤ target ∧ target ≤ 11) :
    (∀ i : Nat, i ≤ (target-here).natAbs →
      1 ≤ reached (here < target) here i ∧ reached (here < target) here i ≤ 11) ∧
    reached (here < target) here (target-here).natAbs = target := by
  by_cases hup : here < target
  · simp only [reached, hup, decide_true, if_true]
    constructor
    · intro i hi
      omega
    · omega
  · simp only [reached, hup, decide_false, Bool.false_eq_true, if_false]
    constructor
    · intro i hi
      omega
    · omega

/-- From a known level the bulb is brought to the level of a percentage. -/
theorem dim_sure (hz : Family.v3White.hasZone zone = true) {value : Int} (hv : 0 < value)
    (hm : value ≤ 100) {s : LightState} {here : Int} (h : Lit s here) :
    Sure ⟨.v3White, zone⟩ (brightnessAfter zone) Lit Lit
      ((⟨(level value levels - here).natAbs, fun round =>
          [.send (if here < level value levels then brighter else dimmer) fun s => { s with
            brightness := percent (reached (here < level value levels) here round) levels }]⟩
        : Stretch).all ++ [storeBrightness value]) s here := by
  obtain ⟨hr, hend⟩ := reached_between here (level value levels) h.1 (level_range hv hm)
  have h0 : reached (here < level value levels) here 0 = here := by simp [reached]
  have hc := climb_sure hz (here < level value levels) here
    (level value levels - here).natAbs 0 (fun i _ hi => hr i (by omega)) (s := s) (by rwa [h0])
  rw [h0, Nat.zero_add, hend] at hc
  simp only [decide_eq_true_eq] at hc
  rw [sure_append]
  apply hc.imp
  rintro s' l ⟨hl, rfl⟩
  exact ⟨hl, lit_value s' hv hm⟩

theorem power_sure (hz : Family.v3White.hasZone zone = true) (on : Bool) {ms : List Move}
    {s : LightState} {l : Int} (h : Lit s l)
    (hms : Sure ⟨.v3White, zone⟩ (brightnessAfter zone) Lit Lit ms { s with power := on } l) :
    Sure ⟨.v3White, zone⟩ (brightnessAfter zone) Lit Lit (powerMove zone on :: ms) s l := by
  refine ⟨h, ?_⟩
  rw [(powerMove_neutral hz on).2]
  exact hms

theorem full_sure {ms : List Move} {s : LightState} {l : Int} (h : Lit s l)
    (hms : Sure ⟨.v3White, zone⟩ (brightnessAfter zone) Lit Lit ms
      { s with power := true, brightness := 100 } 11) :
    Sure ⟨.v3White, zone⟩ (brightnessAfter zone) Lit Lit (fullMove zone :: ms) s l := by
  refine ⟨h, ?_⟩
  rw [Command.absolute, full_resets]
  exact hms

theorem setBrightness_sure (hz : Family.v3White.hasZone zone = true) (value : Int)
    {s : LightState} {l : Int} (h : Lit s l) :
    Sure ⟨.v3White, zone⟩ (brightnessAfter zone) Lit Lit
      (Plan.moves (setBrightness zone value s)).all s l := by
  unfold setBrightness
  split
  · exact power_sure hz false h ⟨h, lit_dark h⟩
  split
  · exact full_sure h (lit_full s)
  · rename_i hv hm
    have hv' : 0 < value := by omega
    have hm' : value ≤ 100 := by omega
    simp only [Plan.all, List.flatMap_cons, List.flatMap_nil, Stretch.once_all, List.append_nil]
    by_cases hoff : s.brightness ≤ 0
    · simp only [if_pos hoff]
      exact full_sure h (dim_sure hz hv' hm' (lit_full s))
    · simp only [if_neg hoff]
      obtain rfl : l = level s.brightness levels := (h.2 (by omega)).2
      exact power_sure hz true h (dim_sure hz hv' hm' h)

/-- Apart from brightness itself, no operation has to do with it. -/
theorem plan_neutral (hz : Family.v3White.hasZone zone = true) (s : LightState)
    {operation : Operation} (hb : operation.capability ≠ .brightness)
    (hh : operation.capability ≠ .color) :
    ∀ m ∈ (plan zone s operation).all, Neutral zone m := by
  cases operation with
  | setPower on => exact Stretch.each_of_all (by simp [powerMove_neutral hz])
  | nightMode =>
    have hn : ∀ record : LightState → LightState, (∀ s, (record s).brightness = s.brightness) →
        Neutral zone (.send (.absolute .nightMode1 (.plain (zoneByte nightTable zone) 0)) record) :=
      fun _ => neutral_of_unlit hz rfl (zoneByte_unlit hz (by simp))
    exact Stretch.each_of_all (by simp [hn])
  | setColorTemperature value =>
    apply Stretch.each_of_all
    unfold setColorTemperature
    rw [List.forall_mem_append, List.forall_mem_cons, List.forall_mem_singleton,
      Stretch.once_each]
    constructor
    · split <;> simp [powerMove_neutral hz]
    · exact ⟨fun _ => by simp [temperatureMove_neutral hz], by simp [Neutral]⟩
  | changeColorTemperature delta =>
    apply Stretch.each_of_all
    unfold changeColorTemperature
    split <;> simp [powerMove_neutral hz, temperatureMove_neutral hz]
  | setLedMode mode =>
    apply Stretch.each_of_all
    unfold setLedMode
    dsimp only
    split
    · simp
    · rw [List.forall_mem_cons, List.forall_mem_cons, List.forall_mem_singleton,
        Stretch.once_each, Stretch.once_each]
      exact ⟨by simp [powerMove_neutral hz], fun _ => by simp [modeMove_neutral hz],
        by simp [Neutral]⟩
  | nextAnimationMode =>
    exact Stretch.each_of_all (by simp [powerMove_neutral hz, modeMove_neutral hz])
  | previousAnimationMode =>
    exact Stretch.each_of_all (by simp [powerMove_neutral hz, modeMove_neutral hz])
  | setBrightness value => exact absurd rfl hb
  | changeBrightness delta => exact absurd rfl hb
  | setHsb hue saturation brightness => exact absurd rfl hh
  | _ => exact fun _ h => nomatch h

/-- All operations but one keep the stored brightness at the level of the bulb. -/
theorem plan_sure (hz : Family.v3White.hasZone zone = true) {operation : Operation}
    (ho : ∀ delta, operation ≠ .changeBrightness delta) {s : LightState} {l : Int}
    (h : Lit s l) :
    Sure ⟨.v3White, zone⟩ (brightnessAfter zone) Lit Lit (plan zone s operation).all s l := by
  by_cases hb : operation.capability = .brightness ∨ operation.capability = .color
  · cases operation with
    | setBrightness value => exact setBrightness_sure hz value h
    | changeBrightness delta => exact absurd rfl (ho delta)
    | setHsb hue saturation brightness =>
      cases brightness with
      | none => exact h
      | some value => exact setBrightness_sure hz value h
    | _ => simp [Operation.capability] at hb
  · rw [not_or] at hb
    exact neutral_sure (plan_neutral hz s hb.1 hb.2) h

/-! ## The frames of a run -/

/-- A frame is a step, leaves the brightness alone, or sets it to full; those
that set it share an identity with no other. -/
def Behaved (zone : UInt8) (f : Frame) : Prop :=
  f.identity = 0 ∨
  (∀ l, brightnessAfter zone f l = l) ∧
    f.identity ≠ Bulb.identity ⟨.v3White, zone⟩ (some .brightness) ∨
  (∀ l, brightnessAfter zone f l = 11) ∧
    f.identity = Bulb.identity ⟨.v3White, zone⟩ (some .brightness)

theorem planned_behaved (hz : Family.v3White.hasZone zone = true) {m : Move}
    (h : Planned zone m) {c : Command} {record : LightState → LightState}
    (hm : m = .send c record) (header : Wire.Header) :
    Behaved zone (Bulb.frame ⟨.v3White, zone⟩ header c) := by
  have named : ∀ {t : List UInt8} {category : Category} {byte : UInt8},
      t ∈ [onTable, offTable, nightTable] → byte = zoneByte t zone → category ≠ .brightness →
      Behaved zone (Bulb.frame ⟨.v3White, zone⟩ header (.absolute category (.plain byte 0))) := by
    intro t category byte ht hb hc
    refine .inr (.inl ⟨unlit_inert hz (hb ▸ zoneByte_unlit hz ht) rfl, ?_⟩)
    rw [ne_eq, Bulb.frame_identity]
    simpa [Command.absolute] using hc
  cases h with
  | power on =>
    cases hm
    cases on with
    | true => exact named (t := onTable) (by simp) rfl (by decide)
    | false => exact named (t := offTable) (by simp) rfl (by decide)
  | full =>
    cases hm
    exact .inr (.inr ⟨full_resets header _ _, rfl⟩)
  | night =>
    cases hm
    exact named (t := nightTable) (by simp) rfl (by decide)
  | temperature up l => cases up <;> cases hm <;> exact .inl rfl
  | mode next => cases next <;> cases hm <;> exact .inl rfl
  | _ => cases hm <;> exact .inl rfl

theorem behaved_overrides {fs : List Frame} (h : ∀ f ∈ fs, Behaved zone f) :
    Queue.Overrides (brightnessAfter zone) fs := by
  intro f hf g hg h0 he
  rcases h f hf with hi | ⟨hi, -⟩ | ⟨-, hi⟩
  · exact absurd hi h0
  · exact .inl hi
  · rcases h g hg with hi' | ⟨-, hi'⟩ | ⟨hi', -⟩
    · exact absurd (he.symm.trans hi') h0
    · exact absurd (he.trans hi) hi'
    · exact .inr fun x y => (hi' x).trans (hi' y).symm

/-! ## Every run -/

/-- Others leave the brightness of the bulb alone, and it is not changed by a
difference. -/
def Spares (zone : UInt8) : Beat → Prop
  | .call (.enqueue _ f) =>
    (∀ l, brightnessAfter zone f l = l) ∧
      f.identity ≠ Bulb.identity ⟨.v3White, zone⟩ (some .brightness)
  | .call _ => True
  | .begin operation => ∀ delta, operation ≠ .changeBrightness delta
  | .move => True

theorem Spares.fits {x : Beat} (h : Spares zone x) :
    x.Fits (fun operation => ∀ delta, operation ≠ .changeBrightness delta)
      (brightnessAfter zone) := by
  cases x with
  | call c =>
    cases c with
    | enqueue mark f => exact h.1
    | _ => trivial
  | begin operation => exact h
  | move => trivial

theorem plan_plain (isValid : Bool) (s : LightState) (operation : Operation) :
    ∀ m ∈ (Bulb.plan ⟨.v3White, zone⟩ isValid s operation).all, m.isPlain = true :=
  fun m hm => (plan_planned zone s operation m hm).isPlain

/-- An accepted frame was offered by others, or carries a command of some plan. -/
theorem accepted_planned {wall : Nat} {link : Link} {s : LightState} {xs : List Beat} {f : Frame}
    (hf : f ∈ accepted wall ⟨.v3White, zone⟩ xs (.rest link s)) :
    (∃ mark, .call (.enqueue mark f) ∈ xs) ∨
      ∃ header c record, Planned zone (.send c record) ∧
        f = Bulb.frame ⟨.v3White, zone⟩ header c := by
  have hplans : ∀ isValid s operation, ∀ m ∈ (Bulb.plan ⟨.v3White, zone⟩ isValid s operation).all,
      Planned zone m := fun _ => plan_planned zone
  exact accepted_origin hplans xs (by simp [Errand.rest]) hf

/-- Whatever is interleaved and wherever operations are cut short, a positive
stored brightness stands for the level of the bulb once nothing waits. What
waits brings the bulb to this level. -/
theorem brightness_tracked (hz : Family.v3White.hasZone zone = true) (wall : Nat) (link : Link)
    (hq : link.queue.Fresh) (s : LightState) (l : Int) (hl : 1 ≤ l ∧ l ≤ 11)
    (hs : s.brightness = 0 ∨
      (1 ≤ s.brightness ∧ s.brightness ≤ 100 ∧ l = ⌈(s.brightness*11/100 : ℚ)⌉))
    (xs : List Beat) (hx : ∀ x ∈ xs, Spares zone x) :
    let b : Bulb := ⟨.v3White, zone⟩
    let e := Errand.run wall b xs (.rest link s)
    let sent := Queue.sent (script wall b xs (.rest link s)) link.queue
    0 < e.state.brightness →
      Queue.absorb (brightnessAfter zone) (sent ++ e.link.queue.waiting) l =
        ⌈(e.state.brightness*11/100 : ℚ)⌉ ∧
      (e.link.queue.waiting = [] → Queue.absorb (brightnessAfter zone) sent l =
        ⌈(e.state.brightness*11/100 : ℚ)⌉) := by
  intro b e sent hpos
  have hstart : Lit s l := by
    refine ⟨hl, fun hb => ?_⟩
    rcases hs with hs | ⟨-, hm, hc⟩
    · omega
    · exact ⟨hm, hc.trans (Rgbw.level_eq_ceil (by omega) 11).symm⟩
  have hrun := run_sure wall (fun _ _ (g : Unit) => g) (fun _ => Lit) (fun _ => Lit) plan_plain
    (fun _ _ _ _ _ ho h => plan_sure hz ho h) xs (fun x hm => (hx x hm).fits)
    (.inl fun _ _ _ h => h) (e := .rest link s) (g := ()) (by simp [Errand.rest]) hstart
  have hlit : Lit e.state (Queue.absorb (brightnessAfter zone)
      (accepted wall b xs (.rest link s)) l) := hrun.now
  have hover : Queue.Overrides (brightnessAfter zone) (accepted wall b xs (.rest link s)) := by
    apply behaved_overrides
    intro f hf
    rcases accepted_planned hf with ⟨mark, hm⟩ | ⟨header, c, record, hp, rfl⟩
    · exact .inr (.inl (hx _ hm))
    · exact planned_behaved hz hp rfl header
  obtain ⟨-, heq⟩ := hlit.2 hpos
  have hall : Queue.absorb (brightnessAfter zone) (sent ++ e.link.queue.waiting) l =
      ⌈(e.state.brightness*11/100 : ℚ)⌉ :=
    (absorb_run xs s hq hover l).trans (heq.trans (Rgbw.level_eq_ceil (by omega) 11))
  refine ⟨hall, fun he => ?_⟩
  rwa [he, List.append_nil] at hall

/-- Others leave three places in the queue, so only two of the steps are accepted. -/
def crowded : List Beat :=
  List.replicate 17 (.call (.enqueue none (.relative [0, 0, 0x55]))) ++
    .begin (.setBrightness 50) :: List.replicate 7 .move ++
    .call (.setDelay 0) :: List.replicate 40 (.call (.poll 0))

theorem crowded_tracked :
    let e := Errand.run 0 ⟨.v3White, 1⟩ crowded (.rest (.start .start none) .initial)
    e.link.queue.waiting = [] ∧ e.state.brightness = 81 ∧
      Queue.absorb (brightnessAfter 1) (Queue.sent (script 0 ⟨.v3White, 1⟩ crowded
        (.rest (.start .start none) .initial)) .start) 4 =
          ⌈(e.state.brightness*11/100 : ℚ)⌉ := by
  have hz : Family.v3White.hasZone 1 = true := by decide
  have hfiller : Spares 1 (.call (.enqueue none (.relative [0, 0, 0x55]))) :=
    ⟨fun _ => rfl, by decide⟩
  have hx : ∀ x ∈ crowded, Spares 1 x := by
    intro x hm
    simp only [crowded, List.mem_append, List.mem_cons, List.mem_replicate] at hm
    rcases hm with (⟨-, rfl⟩ | rfl | ⟨-, rfl⟩) | rfl | ⟨-, rfl⟩
    · exact hfiller
    · intro delta h
      cases h
    · trivial
    · trivial
    · trivial
  have hb : (Errand.run 0 ⟨.v3White, 1⟩ crowded
      (.rest (.start .start none) .initial)).state.brightness = 81 := by decide +kernel
  have hw : (Errand.run 0 ⟨.v3White, 1⟩ crowded
      (.rest (.start .start none) .initial)).link.queue.waiting = [] := by decide +kernel
  have hpos : 0 < (Errand.run 0 ⟨.v3White, 1⟩ crowded
      (.rest (.start .start none) .initial)).state.brightness := by
    rw [hb]
    decide
  have ht := brightness_tracked hz 0 (.start .start none) Queue.start_fresh
    .initial 4 (by decide) (.inl rfl) crowded hx hpos
  exact ⟨hw, hb, ht.2 hw⟩

end LightBridge.White
