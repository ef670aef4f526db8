import LightBridge.Proofs.Light.Opening
import LightBridge.Proofs.Queue.Delivery
import LightBridge.Proofs.Station.Deed

/-!
# The zone a step acts on

When a frame without a zone is accepted, its zone is the one that accepted
frames switched on last. The queue may still replace the frame that switched it
on by a later one; then the step leaves first and acts on whatever zone was
switched on before.
-/

set_option autoImplicit false

namespace LightBridge

/-- The first byte of a frame, which is the command in the older generations. -/
def Frame.command (f : Frame) : UInt8 := f.bytes.headD 0

/-! ## The frames of an operation -/

namespace Progress

/-- Commands are accepted in the order of the plan, up to the refused one. -/
theorem taken_commands (wall : Nat) (b : Bulb) {ms : List Move}
    (hm : ∀ m ∈ ms, m.isPlain = true) (p : Progress) :
    (taken wall b ms p).map Frame.command <+: commands ms := by
  induction ms generalizing p with
  | nil => exact List.prefix_rfl
  | cons m ms ih =>
    rw [List.forall_mem_cons] at hm
    have hi := ih hm.2 (p.move wall b m)
    rw [taken_cons, List.map_append]
    cases move_moved wall b p m with
    | idle _ refused offer same =>
      rw [same, taken_refused wall b refused, taken_refused wall b refused]
      exact List.nil_prefix
    | stored record same =>
      rw [taken_unoffered rfl]
      exact hi
    | accepted command record header offer result queue valid state refusal =>
      rw [taken_accepted offer result]
      obtain ⟨payload, category, repeatable⟩ := command
      obtain ⟨x, y, rfl⟩ := Move.plain_of_isPlain hm.1
      exact List.cons_prefix_cons.mpr ⟨rfl, hi⟩
    | rejected command record header fault offer result queue valid state refusal =>
      rw [taken_rejected offer result, taken_refused wall b (by simp [refusal])]
      exact List.nil_prefix
    | dropped command record offer invalid inSession queue valid =>
      obtain ⟨x, y, hc⟩ := Move.plain_of_isPlain hm.1
      exact absurd hc (inSession x y)

end Progress

namespace Bulb

/-- The last of some frames that named a zone to a family. -/
def lastZoned (b : Bulb) (fs : List Frame) : Option Frame :=
  (fs.filter fun f => b.family.namesZone f.command).getLast?

/-- Whether the last frame that named a zone to the family switched on the zone
of the bulb. -/
def selectedBy (b : Bulb) (fs : List Frame) : Bool :=
  (b.lastZoned fs).any fun f => b.family.selects b.zone f.command

theorem lastZoned_append (b : Bulb) (fs gs : List Frame) :
    b.lastZoned (fs++gs) = (b.lastZoned gs).or (b.lastZoned fs) := by
  rw [lastZoned, List.filter_append, List.getLast?_append]
  rfl

theorem selectedBy_append {b : Bulb} {gs : List Frame} (h : b.selectedBy gs = true)
    (fs : List Frame) : b.selectedBy (fs++gs) = true := by
  rw [selectedBy, lastZoned_append, Option.or_of_isSome]
  · exact h
  · unfold selectedBy at h
    cases hl : b.lastZoned gs with
    | none => simp [hl] at h
    | some f => rfl

theorem selectedBy_commands (b : Bulb) (fs : List Frame) :
    b.selectedBy fs = (((fs.map Frame.command).filter b.family.namesZone).getLast?.map
      (b.family.selects b.zone)).getD false := by
  rw [List.filter_map, List.getLast?_map, Option.map_map]
  unfold selectedBy lastZoned
  cases h : (fs.filter (b.family.namesZone ∘ Frame.command)).getLast? <;>
    simp only [Function.comp_def] at h <;> simp [h, Function.comp_def]

/-- In what an operation gets accepted, every frame without a zone follows one
that switched the zone of the bulb on. -/
theorem taken_guided {b : Bulb} (hz : b.family.hasZone b.zone = true) (wall : Nat)
    (isValid : Bool) (s : LightState) (operation : Operation) (p : Progress)
    {early late : List Frame} {f : Frame}
    (h : Progress.taken wall b (b.plan isValid s operation).all p = early ++ f::late)
    (hf : b.family.isZoneless f.command = true) : b.selectedBy early = true := by
  have guided : ∀ {ms : List Move}, (∀ m ∈ ms, m.isPlain = true) →
      b.family.Guided b.zone false (commands ms) → Progress.taken wall b ms p = early ++ f::late →
      b.selectedBy early = true := by
    intro ms hm hg ht
    have hp := Progress.taken_commands wall b hm p
    rw [ht, List.map_append, List.map_cons] at hp
    rw [selectedBy_commands]
    exact Family.guided_split (Family.guided_prefix hg hp) hf
  obtain ⟨family, zone⟩ := b
  cases family with
  | v3White =>
    exact guided (fun m hm => (White.plan_planned zone s operation m hm).isPlain)
      (White.plan_guided hz s operation) h
  | v3Rgbw =>
    exact guided (fun m hm => (Rgbw.plan_planned zone s operation m hm).isPlain)
      (Rgbw.plan_guided hz s operation) h
  | _ => cases hf

end Bulb

/-! ## The accepted frames of a run -/

namespace Station

/-- Every accepted frame without a zone follows one that switched its zone on,
with no other zone named between. -/
def Led (fs : List (Option Bulb × Frame)) : Prop :=
  ∀ early b f late, fs = early ++ (some b, f)::late → b.family.isZoneless f.command = true →
    b.selectedBy (early.map (·.2)) = true

theorem led_nil : Led [] := by
  intro early b f late h
  simp at h

theorem led_append {fs gs : List (Option Bulb × Frame)} (hf : Led fs) (hg : Led gs) :
    Led (fs++gs) := by
  intro early b f late h hz
  rcases List.append_eq_append_iff.mp h with ⟨es, rfl, hgs⟩ | ⟨es, hfs, hes⟩
  · rw [List.map_append]
    exact Bulb.selectedBy_append (hg es b f late hgs hz) _
  · cases es with
    | nil =>
      rw [List.append_nil] at hfs
      have hb := hg [] b f late hes.symm hz
      subst hfs
      simpa using Bulb.selectedBy_append hb _
    | cons e es =>
      rw [List.cons_append, List.cons.injEq] at hes
      exact hf early b f es (hes.1 ▸ hfs) hz

theorem led_accepted {s : Station} (hz : ∀ l ∈ s.lights, l.family.hasZone l.bulb.zone = true)
    (d : Deed) : Led (s.accepted d) := by
  intro early b f late h hf
  have hm : (some b, f) ∈ s.accepted d := by simp [h]
  have hc := Queue.accepted_mem _ _ hm
  cases d with
  | operate light operation =>
    cases hl : s.lights[light]? with
    | none => simp [calls, hl] at hc
    | some l =>
      rw [accepted_operate hl] at h
      obtain ⟨fs, gs, ht, he, hg⟩ := List.map_eq_append_iff.mp h
      obtain ⟨g, gs, rfl, hg, hgs⟩ := List.map_eq_cons_iff.mp hg
      cases hg
      rw [← he, List.map_map]
      have hi : fs.map ((·.2) ∘ fun x => (some l.bulb, x)) = fs := List.map_id _
      rw [hi]
      exact Bulb.taken_guided (hz l (List.mem_of_getElem? hl)) _ _ _ _ _ ht hf
  | session i => simp [calls] at hc
  | _ => simp [calls] at hc

theorem led_run {s : Station} (hz : ∀ l ∈ s.lights, l.family.hasZone l.bulb.zone = true)
    (ds : List Deed) : Led (s.acceptedIn ds) := by
  induction ds generalizing s with
  | nil => exact led_nil
  | cons d ds ih =>
    have hz' : ∀ l ∈ (s.perform d).lights, l.family.hasZone l.bulb.zone = true :=
      forall_bulbs (P := fun b => b.family.hasZone b.zone = true) (s.perform_bulbs d) hz
    rw [acceptedIn_cons]
    exact led_append (led_accepted hz d) (ih hz')

/-! ## The frames that left -/

/-- The last frame that named a zone, in its place among the others. -/
theorem lastZoned_split {β : Type} (b : Bulb) (frame : β → Frame) {xs : List β}
    (h : b.selectedBy (xs.map frame) = true) :
    ∃ before sel after, xs = before ++ sel::after ∧
      b.family.namesZone (frame sel).command = true ∧
      b.family.selects b.zone (frame sel).command = true ∧
      ∀ x ∈ after, b.family.namesZone (frame x).command = false := by
  rw [Bulb.selectedBy, Bulb.lastZoned, List.filter_map, List.getLast?_map, Option.any_map,
    Option.any_eq_true] at h
  obtain ⟨sel, hl, hs⟩ := h
  obtain ⟨ys, hf⟩ := List.getLast?_eq_some_iff.mp hl
  obtain ⟨before, rest, rfl, _, hr⟩ := List.filter_eq_append_iff.mp hf
  obtain ⟨middle, after, rfl, _, hn, ha⟩ := List.filter_eq_cons_iff.mp hr
  have hafter : ∀ x ∈ after, b.family.namesZone (frame x).command = false := by
    intro x hx
    simpa using List.filter_eq_nil_iff.mp ha x hx
  exact ⟨before++middle, sel, after, by simp, hn, hs, hafter⟩

theorem lastZoned_none {b : Bulb} {fs : List Frame}
    (h : ∀ f ∈ fs, b.family.namesZone f.command = false) : b.lastZoned fs = none := by
  rw [Bulb.lastZoned, List.getLast?_eq_none_iff, List.filter_eq_nil_iff]
  intro f hf
  simp [h f hf]

/-- A frame without a zone is accepted after one that switched its zone on, with
no other zone named between. When it leaves, its zone is the one switched on last
exactly if that frame was not overtaken in the queue, or if the zone was switched
on already. -/
theorem zone_selection_exact {s : Station} (hq : s.link.queue.Fresh)
    (hz : ∀ l ∈ s.lights, l.family.hasZone l.bulb.zone = true) (ds : List Deed)
    {early late : List (Queue.Passage (Option Bulb))} {p : Queue.Passage (Option Bulb)} {b : Bulb}
    (hp : Queue.ledger (s.script ds) s.link.queue = early ++ p::late) (hm : p.mark = some b)
    (hl : p.left?.isSome = true) (hs : b.family.isZoneless p.frame.command = true) :
    Queue.sent (s.script ds) s.link.queue =
      Queue.leftFrames early ++ p.frame :: Queue.leftFrames late ∧
    ∃ before sel after, early = before ++ sel::after ∧
      b.family.namesZone sel.frame.command = true ∧
      b.family.selects b.zone sel.frame.command = true ∧
      (∀ r ∈ after, b.family.namesZone r.frame.command = false) ∧
      (b.selectedBy (Queue.leftFrames early) = true ↔
        sel.overtaken (after ++ p::late) = false ∨
          b.selectedBy (Queue.leftFrames before) = true) := by
  have hsent := Queue.sent_eq_left (s.script ds) hq
  rw [hp, Queue.leftFrames_append, Queue.leftFrames_cons, if_pos hl] at hsent
  have hacc : s.acceptedIn ds = (early ++ p::late).map fun r => (r.mark, r.frame) := by
    rw [← hp, acceptedIn, ← Queue.acceptances_snd 0, ← (Queue.ledger_tallies _ hq).2.1,
      List.map_map]
    rfl
  have hled : b.selectedBy (early.map Queue.Passage.frame) = true := by
    have h := led_run hz ds (early.map fun r => (r.mark, r.frame)) b p.frame
      (late.map fun r => (r.mark, r.frame)) (by rw [hacc, List.map_append, List.map_cons, hm]) hs
    rwa [List.map_map] at h
  obtain ⟨before, sel, after, rfl, hn, hsel, ha⟩ := lastZoned_split b _ hled
  have hafter : b.lastZoned (Queue.leftFrames after) = none := by
    apply lastZoned_none
    intro f hf
    obtain ⟨r, hr, rfl⟩ := List.mem_map.mp hf
    exact ha r (List.mem_of_mem_filter hr)
  have hsplit : Queue.ledger (s.script ds) s.link.queue = before ++ sel :: (after ++ p::late) := by
    rw [hp]
    simp
  have hleft := Queue.left_or_overtaken (s.script ds) hq hsplit hl
  have hexact : b.selectedBy (Queue.leftFrames (before ++ sel::after)) = true ↔
      sel.overtaken (after ++ p::late) = false ∨
        b.selectedBy (Queue.leftFrames before) = true := by
    rw [← Bool.not_eq_true', ← hleft, Queue.leftFrames_append, Queue.leftFrames_cons,
      ← List.append_assoc, Bulb.selectedBy, Bulb.lastZoned_append, hafter, Option.none_or,
      Bulb.lastZoned_append]
    -- The frame that switched the zone on left before, or it never counts.
    by_cases h : sel.left?.isSome = true
    · have hone : b.lastZoned [sel.frame] = some sel.frame := by simp [Bulb.lastZoned, hn]
      simp [h, hone, hsel]
    · have hnil : b.lastZoned [] = none := rfl
      simp [h, hnil, Bulb.selectedBy]
  exact ⟨hsent, before, sel, after, rfl, hn, hsel, ha, hexact⟩

/-! ## Two bulbs -/

/-- Colour bulbs on two zones of a bridge. -/
def twoZones : Station :=
  .start (.start .start none) none [.create ⟨.v3Rgbw, 1⟩ none, .create ⟨.v3Rgbw, 2⟩ none]

theorem twoZones_apart : ∀ l ∈ twoZones.lights,
    l.family.protocol = .v3 ∧ l.family.hasZone l.bulb.zone = true := by decide

/-- The first bulb goes to its next mode, and both its frames leave. -/
def cycling : List Deed := [.operate 0 .nextAnimationMode, .poll 0, .poll 100, .poll 100]

def switchedOn : Queue.Passage (Option Bulb) :=
  ⟨some ⟨.v3Rgbw, 1⟩, ⟨[0x45, 0, 0x55], 311, true⟩, 0, .left 2⟩

def cycled : Queue.Passage (Option Bulb) :=
  ⟨some ⟨.v3Rgbw, 1⟩, ⟨[0x4D, 0, 0x55], 0, false⟩, 1, .left 4⟩

theorem cycling_selected :
    twoZones.link.queue.Fresh ∧
    Queue.ledger (twoZones.script cycling) twoZones.link.queue = [switchedOn] ++ cycled::[] ∧
    Queue.sent (twoZones.script cycling) twoZones.link.queue =
      [switchedOn.frame, cycled.frame] ∧
    Bulb.selectedBy ⟨.v3Rgbw, 1⟩ [switchedOn.frame] = true := by
  have hp : Queue.ledger (twoZones.script cycling) twoZones.link.queue =
      [switchedOn] ++ cycled::[] := by decide
  obtain ⟨hsent, before, sel, after, he, _, _, _, h⟩ :=
    zone_selection_exact Queue.start_fresh (fun l hl => (twoZones_apart l hl).2) cycling hp rfl rfl
      (by decide)
  obtain ⟨rfl, rfl, rfl⟩ : before = [] ∧ sel = switchedOn ∧ after = [] := by
    cases before with
    | nil => simpa [eq_comm] using he
    | cons r before => simp at he
  have ho : switchedOn.overtaken ([] ++ cycled::[]) = false := by decide
  exact ⟨Queue.start_fresh, hp, hsent, h.mpr (.inl ho)⟩

/-- The second bulb is switched on. Then the first goes up by two steps of its
speed, and the first frame of that leaves. -/
def speeding : List Deed :=
  [.operate 1 (.setPower true), .poll 0, .poll 100, .operate 0 (.setAnimationSpeed 20), .poll 100]

/-- Every frame is accepted, but the second switch overtakes the first one, and
the first step leaves while the other zone is the one switched on. -/
theorem speeding_misled :
    twoZones.link.queue.Fresh ∧
    (twoZones.acceptedIn speeding).map (·.2.command) = [0x47, 0x45, 0x44, 0x45, 0x44] ∧
    (Queue.sent (twoZones.script speeding) twoZones.link.queue).map Frame.command =
      [0x47, 0x44] ∧
    ¬ ∀ early p late b,
      Queue.ledger (twoZones.script speeding) twoZones.link.queue = early ++ p::late →
      p.mark = some b → p.left?.isSome = true → b.family.isZoneless p.frame.command = true →
      b.selectedBy (Queue.leftFrames early) = true := by
  constructor
  · exact Queue.start_fresh
  constructor
  · decide
  constructor
  · decide
  · intro h
    have hb := h
      [⟨some ⟨.v3Rgbw, 2⟩, ⟨[0x47, 0, 0x55], 312, true⟩, 0, .left 1⟩,
        ⟨some ⟨.v3Rgbw, 1⟩, ⟨[0x45, 0, 0x55], 311, true⟩, 3, .replaced 5⟩]
      ⟨some ⟨.v3Rgbw, 1⟩, ⟨[0x44, 0, 0x55], 0, false⟩, 4, .left 7⟩
      [⟨some ⟨.v3Rgbw, 1⟩, ⟨[0x45, 0, 0x55], 311, true⟩, 5, .waiting⟩,
        ⟨some ⟨.v3Rgbw, 1⟩, ⟨[0x44, 0, 0x55], 0, false⟩, 6, .waiting⟩]
      ⟨.v3Rgbw, 1⟩ (by decide) rfl rfl (by decide)
    exact absurd hb (by decide)

end Station

end LightBridge
