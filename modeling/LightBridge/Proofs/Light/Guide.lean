import LightBridge.Proofs.Light.Planned

/-!
# Commands that act on the zone switched on last

In the third generation some commands name a zone and some do not. Those that
do not act on the zone that was switched on last. Every plan opens with a
command that switches its zone on before it steps anything there.
-/

set_option autoImplicit false

namespace LightBridge

open Zoned

namespace Family

/-! ## Reading the first byte of a command -/

/-- The tables of the commands that switch a zone on. -/
def selectors : Family → List (List UInt8)
  | v3White => [White.onTable, White.fullTable]
  | v3Rgbw => [Rgbw.onTable, Rgbw.whiteTable]
  | _ => []

/-- The tables of the other commands that name a zone. -/
def hushers : Family → List (List UInt8)
  | v3White => [White.offTable, White.nightTable]
  | v3Rgbw => [Rgbw.offTable, Rgbw.nightTable]
  | _ => []

def steppers : Family → List UInt8
  | v3White => [0x3C, 0x34, 0x3E, 0x3F, 0x27, 0x28]
  | v3Rgbw => [0x40, 0x4E, 0x44, 0x43, 0x4D]
  | _ => []

def selects (f : Family) (zone command : UInt8) : Bool :=
  f.selectors.any fun t => zoneByte t zone == command

def namesZone (f : Family) (command : UInt8) : Bool :=
  (f.selectors ++ f.hushers).any (·.contains command)

def isZoneless (f : Family) (command : UInt8) : Bool := f.steppers.contains command

theorem selects_selector {f : Family} {t : List UInt8} (ht : t ∈ f.selectors) (zone : UInt8) :
    f.selects zone (zoneByte t zone) = true := by
  rw [selects, List.any_eq_true]
  exact ⟨t, ht, by simp⟩

/-- Every table of a family has a byte for each of its zones. -/
theorem zoneByte_mem {f : Family} {t : List UInt8} (ht : t ∈ f.selectors ++ f.hushers)
    {zone : UInt8} (hz : f.hasZone zone = true) : zoneByte t zone ∈ t := by
  have hm := (mem_zones f zone).mpr hz
  have hall : (f.selectors ++ f.hushers).all (fun t =>
      f.zones.all fun z => t.contains (zoneByte t z)) = true := by
    cases f <;> decide
  exact List.contains_iff_mem.mp (List.all_eq_true.mp (List.all_eq_true.mp hall t ht) zone hm)

theorem namesZone_of_mem {f : Family} {t : List UInt8} (ht : t ∈ f.selectors ++ f.hushers)
    {command : UInt8} (hc : command ∈ t) : f.namesZone command = true := by
  rw [namesZone, List.any_eq_true]
  exact ⟨t, ht, by simpa using hc⟩

theorem names_zoneByte {f : Family} {t : List UInt8} (ht : t ∈ f.selectors ++ f.hushers)
    {zone : UInt8} (hz : f.hasZone zone = true) : f.namesZone (zoneByte t zone) = true :=
  namesZone_of_mem ht (zoneByte_mem ht hz)

/-- No command both names a zone and acts without one. -/
theorem zoneless_of_names {f : Family} {command : UInt8} (h : f.namesZone command = true) :
    f.isZoneless command = false := by
  have hall : (f.selectors ++ f.hushers).all (·.all (!f.isZoneless ·)) = true := by
    cases f <;> decide
  obtain ⟨t, ht, hc⟩ := List.any_eq_true.mp h
  have hm := List.all_eq_true.mp (List.all_eq_true.mp hall t ht) command
    (List.contains_iff_mem.mp hc)
  simpa using hm

/-! ## Guided commands -/

/-- Whether the zone is the one switched on last, after a command. -/
def guide (f : Family) (zone : UInt8) (on : Bool) (command : UInt8) : Bool :=
  if f.namesZone command then f.selects zone command else on

/-- Every command without a zone comes while its zone is the one switched on. -/
def Guided (f : Family) (zone : UInt8) : Bool → List UInt8 → Prop
  | _, [] => True
  | on, c::cs => (f.isZoneless c → on) ∧ Guided f zone (f.guide zone on c) cs

variable {f : Family} {zone : UInt8}

theorem guided_mono {on on' : Bool} (ho : on → on') {cs : List UInt8} (h : Guided f zone on cs) :
    Guided f zone on' cs := by
  induction cs generalizing on on' with
  | nil => trivial
  | cons c cs ih =>
    have hg : f.guide zone on c → f.guide zone on' c := by
      unfold guide
      split
      · exact id
      · exact ho
    exact ⟨fun hc => ho (h.1 hc), ih hg h.2⟩

theorem guided_append {on : Bool} {cs ds : List UInt8} (hc : Guided f zone on cs)
    (hd : Guided f zone false ds) : Guided f zone on (cs++ds) := by
  induction cs generalizing on with
  | nil => exact guided_mono (by simp) hd
  | cons c cs ih => exact ⟨hc.1, ih hc.2⟩

theorem guided_flatten {css : List (List UInt8)} (h : ∀ cs ∈ css, Guided f zone false cs) :
    Guided f zone false css.flatten := by
  induction css with
  | nil => trivial
  | cons cs css ih =>
    rw [List.forall_mem_cons] at h
    exact guided_append h.1 (ih h.2)

theorem guided_prefix {on : Bool} {cs ds : List UInt8} (h : Guided f zone on ds)
    (hp : cs <+: ds) : Guided f zone on cs := by
  obtain ⟨es, rfl⟩ := hp
  induction cs generalizing on with
  | nil => trivial
  | cons c cs ih => exact ⟨h.1, ih h.2⟩

theorem guided_single {t : List UInt8} (ht : t ∈ f.selectors ++ f.hushers)
    (hz : f.hasZone zone = true) : Guided f zone false [zoneByte t zone] :=
  ⟨by simp [zoneless_of_names (names_zoneByte ht hz)], trivial⟩

theorem guided_switch {t u : List UInt8} (ht : t ∈ f.selectors ++ f.hushers)
    (hu : u ∈ f.selectors ++ f.hushers) (hz : f.hasZone zone = true) (on : Bool) :
    Guided f zone false [zoneByte (if on then t else u) zone] := by
  cases on with
  | true => exact guided_single ht hz
  | false => exact guided_single hu hz

/-- A command that leaves the zone switched on if it was. -/
def Steady (f : Family) (zone command : UInt8) : Prop :=
  f.namesZone command → f.selects zone command

theorem guided_steady {cs : List UInt8} (h : ∀ c ∈ cs, f.Steady zone c) :
    Guided f zone true cs := by
  induction cs with
  | nil => trivial
  | cons c cs ih =>
    rw [List.forall_mem_cons] at h
    have hg : f.guide zone true c = true := by
      unfold guide
      split
      · rename_i hn
        exact h.1 hn
      · rfl
    exact ⟨fun _ => rfl, guided_mono (fun _ => hg) (ih h.2)⟩

/-- A command that switches the zone on may be followed by any steady ones. -/
theorem guided_selector {t : List UInt8} (ht : t ∈ f.selectors) (hz : f.hasZone zone = true)
    {cs : List UInt8} (h : ∀ c ∈ cs, f.Steady zone c) :
    Guided f zone false (zoneByte t zone :: cs) := by
  have hn := names_zoneByte (List.mem_append_left f.hushers ht) hz
  have hg : f.guide zone false (zoneByte t zone) = true := by
    rw [guide, if_pos hn, selects_selector ht]
  constructor
  · simp [zoneless_of_names hn]
  · rw [hg]
    exact guided_steady h

/-- The last command that named a zone tells whether the zone is switched on. -/
theorem guided_split {on : Bool} {early late : List UInt8} {c : UInt8}
    (h : Guided f zone on (early ++ c::late)) (hc : f.isZoneless c = true) :
    ((early.filter f.namesZone).getLast?.map (f.selects zone)).getD on = true := by
  induction early generalizing on with
  | nil => exact h.1 hc
  | cons d early ih =>
    have hi := ih h.2
    unfold guide at hi
    rw [List.filter_cons]
    split at hi
    · rename_i hn
      rw [if_pos hn, List.getLast?_cons]
      cases hl : (early.filter f.namesZone).getLast? <;> simpa [hl] using hi
    · rename_i hn
      rwa [if_neg hn]

theorem steady_of_stepper {command : UInt8} (h : command ∈ f.steppers) :
    f.Steady zone command := by
  intro hn
  have hz := zoneless_of_names hn
  simp [isZoneless, h] at hz

theorem steady_selector {t : List UInt8} (ht : t ∈ f.selectors) :
    f.Steady zone (zoneByte t zone) := fun _ => selects_selector ht zone

/-- Where every command names a zone, nothing needs one. -/
theorem guided_named {on : Bool} {cs : List UInt8} (h : ∀ c ∈ cs, f.namesZone c = true) :
    Guided f zone on cs := by
  induction cs generalizing on with
  | nil => trivial
  | cons c cs ih =>
    rw [List.forall_mem_cons] at h
    exact ⟨by simp [zoneless_of_names h.1], ih h.2⟩

end Family

/-! ## Guided moves -/

namespace Move

def command? : Move → Option UInt8
  | .send ⟨.plain command _, _, _⟩ _ => some command
  | _ => none

def Steady (f : Family) (zone : UInt8) (m : Move) : Prop :=
  ∀ c, m.command? = some c → f.Steady zone c

theorem store_steady (f : Family) (zone : UInt8) (record : LightState → LightState) :
    (Move.store record).Steady f zone := fun _ hc => nomatch hc

theorem steady_of_command {f : Family} {m : Move} {command : UInt8}
    (hm : m.command? = some command) (hc : command ∈ f.steppers) (zone : UInt8) :
    m.Steady f zone := by
  intro c h
  rw [hm] at h
  cases h
  exact Family.steady_of_stepper hc

end Move

def commands (ms : List Move) : List UInt8 := ms.filterMap Move.command?

variable {f : Family} {zone : UInt8}

theorem steady_commands {ms : List Move} (h : ∀ m ∈ ms, m.Steady f zone) :
    ∀ c ∈ commands ms, f.Steady zone c := by
  intro c hc
  obtain ⟨m, hm, hc⟩ := List.mem_filterMap.mp hc
  exact h m hm c hc

theorem commands_flatMap {β : Type} (g : β → List Move) (xs : List β) :
    commands (xs.flatMap g) = (xs.map fun x => commands (g x)).flatten := by
  induction xs with
  | nil => rfl
  | cons x xs ih =>
    rw [List.flatMap_cons, List.map_cons, List.flatten_cons, ← ih]
    exact List.filterMap_append

/-- A stretch is guided if each of its rounds is. -/
theorem guided_rounds {s : Stretch} (h : ∀ round, f.Guided zone false (commands (s.moves round))) :
    f.Guided zone false (commands s.all) := by
  rw [Stretch.all, commands_flatMap]
  apply Family.guided_flatten
  intro cs hcs
  obtain ⟨round, _, rfl⟩ := List.mem_map.mp hcs
  exact h round

/-- A plan that opens by switching its zone on may go on with steady moves. -/
theorem guided_opened {t : List UInt8} (ht : t ∈ f.selectors) (hz : f.hasZone zone = true)
    {m : Move} (hm : m.command? = some (zoneByte t zone)) {ms : List Move} {ss : List Stretch}
    (h : ∀ n ∈ ms, n.Steady f zone) (hs : ∀ s ∈ ss, s.Each (Move.Steady f zone)) :
    f.Guided zone false (commands (Plan.moves (.once (m::ms) :: ss)).all) := by
  have he : commands (Plan.moves (.once (m::ms) :: ss)).all =
      zoneByte t zone :: commands (ms ++ (Plan.moves ss).all) := by
    simp [Plan.all, commands, hm]
  have hsteady : ∀ n ∈ ms ++ (Plan.moves ss).all, n.Steady f zone := by
    rw [List.forall_mem_append]
    exact ⟨h, Stretch.each_of_all hs⟩
  rw [he]
  exact Family.guided_selector ht hz (steady_commands hsteady)

theorem guided_once {t : List UInt8} (ht : t ∈ f.selectors) (hz : f.hasZone zone = true)
    {m : Move} (hm : m.command? = some (zoneByte t zone)) {ms : List Move}
    (h : ∀ n ∈ ms, n.Steady f zone) :
    f.Guided zone false (commands (Plan.moves [.once (m::ms)]).all) :=
  guided_opened ht hz hm h (by simp)

/-- Steps towards a value switch the zone on, if there are any. -/
theorem guided_stepped {t : List UInt8} (ht : t ∈ f.selectors) (hz : f.hasZone zone = true)
    {m : Move} (hm : m.command? = some (zoneByte t zone)) {n : Nat} {step : Nat → Move}
    (h : ∀ round, (step round).Steady f zone) {record : LightState → LightState} :
    f.Guided zone false (commands (Plan.moves ((if 0 < n then [.once [m]] else []) ++
      [⟨n, fun round => [step round]⟩, .once [.store record]])).all) := by
  by_cases hn : 0 < n
  · rw [if_pos hn]
    apply guided_opened ht hz hm
    · simp
    · simpa [Stretch.Each, Stretch.once, Move.Steady, Move.command?] using h
  · obtain rfl : n = 0 := by omega
    trivial

theorem guided_cons {s : Stretch} {ss : List Stretch} (hs : f.Guided zone false (commands s.all))
    (h : f.Guided zone false (commands (Plan.moves ss).all)) :
    f.Guided zone false (commands (Plan.moves (s::ss)).all) := by
  have hc : commands (Plan.moves (s::ss)).all = commands s.all ++ commands (Plan.moves ss).all :=
    List.filterMap_append
  rw [hc]
  exact Family.guided_append hs h

end LightBridge
