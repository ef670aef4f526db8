import LightBridge.Proofs.Light.Mirror
import LightBridge.Proofs.Session.Recall
import LightBridge.Proofs.Station.Deed

/-!
# Lights that share a queue

Bulbs on one bridge and its session have identities of their own, so what one
of them offers never hides the last frame of another. What is stored of a light
is therefore told by the last frames of its bulb, whatever the other lights and
the session do, and by the last frames that left once none waits.
-/

set_option autoImplicit false

namespace LightBridge

/-! ## Identities of bulbs and of the session -/

namespace Family

theorem zone_bounds {f : Family} {zone : UInt8} (h : f.hasZone zone = true) :
    f.zoneRange.1.toNat ≤ zone.toNat ∧ zone.toNat ≤ f.zoneRange.2.toNat := by
  simpa [hasZone, UInt8.le_iff_toNat_le] using h

/-- The offsets keep the zones of the families of a generation apart. -/
theorem zones_apart (f g : Family) : f.protocol = g.protocol → f ≠ g →
    f.offset + f.zoneRange.2.toNat < g.offset + g.zoneRange.1.toNat ∨
    g.offset + g.zoneRange.2.toNat < f.offset + f.zoneRange.1.toNat := by
  cases f <;> cases g <;> decide

theorem last_place (f : Family) : f.offset + f.zoneRange.2.toNat < 100 := by
  cases f <;> decide

end Family

namespace Bulb

/-- The part of an identity that does not depend on the category. -/
def place (b : Bulb) : Nat := b.family.offset + b.zone.toNat

theorem place_lt {b : Bulb} (h : b.family.hasZone b.zone = true) : b.place < 100 := by
  have hb := (Family.zone_bounds h).2
  have hl := b.family.last_place
  unfold place
  omega

/-- Place 0 is the session's; only bulbs without absolute commands share it. -/
theorem place_pos {b : Bulb} (h : b.family.hasZone b.zone = true)
    (hf : b.family = .v3Rgbw ∨ (CommandSet.ofFamily? b.family).isSome = true) : 0 < b.place := by
  have hb := (Family.zone_bounds h).1
  have hl : ∀ f : Family, f = .v3Rgbw ∨ (CommandSet.ofFamily? f).isSome = true →
      0 < f.offset + f.zoneRange.1.toNat := by
    intro f
    cases f <;> decide
  have hp := hl b.family hf
  unfold place
  omega

theorem place_inj {b d : Bulb} (hb : b.family.hasZone b.zone = true)
    (hd : d.family.hasZone d.zone = true) (hp : b.family.protocol = d.family.protocol)
    (h : b.place = d.place) : b = d := by
  have hb := Family.zone_bounds hb
  have hd := Family.zone_bounds hd
  unfold place at h
  have hf : b.family = d.family := by
    by_contra hf
    rcases Family.zones_apart _ _ hp hf with ha | ha <;> omega
  obtain ⟨family, zone⟩ := b
  obtain ⟨family', zone'⟩ := d
  obtain rfl : family = family' := hf
  obtain rfl : zone = zone' := UInt8.toNat_inj.mp (Nat.add_left_cancel h)
  rfl

theorem identity_eq (b : Bulb) (c : Category) :
    b.identity (some c) = c.number*100 + b.place := by
  simp only [identity, Category.identity, place, Nat.add_assoc]

/-- Different bulbs of a bridge share no identity. -/
theorem identity_apart {b d : Bulb} (hb : b.family.hasZone b.zone = true)
    (hd : d.family.hasZone d.zone = true) (hp : b.family.protocol = d.family.protocol)
    (h : b ≠ d) (c e : Category) : b.identity (some c) ≠ d.identity (some e) := by
  have hlb := place_lt hb
  have hld := place_lt hd
  rw [identity_eq, identity_eq]
  intro he
  have hpl : b.place = d.place := by omega
  exact h (place_inj hb hd hp hpl)

end Bulb

namespace Session

theorem take_identity (now : Nat) (s : Session) (i : Input) {f : Frame}
    (h : (s.take now i).2 = some f) : f.identity = 100 ∨ f.identity = 200 := by
  cases i with
  | packet bytes =>
    simp only [take, receive] at h
    split at h
    · rename_i p _
      cases p with
      | sessionId mac sid1 sid2 =>
        simp only [apply] at h
        split at h <;> cases h
        exact .inl rfl
      | acknowledged sequence status => cases h
      | _ =>
        simp only [apply] at h
        split at h <;> cases h
    · cases h
  | keepAlive =>
    obtain ⟨p, ⟨_, hf, _⟩ | ⟨_, _, hf, _⟩⟩ := keepAlive_cases now s <;>
      simp only [take, hf] at h <;> cases h
    · exact .inl rfl
    · exact .inr rfl
  | _ => cases h

end Session

/-! ## A deed -/

namespace Station

/-- Lights that are addressed apart on a bridge of one generation. -/
structure Orderly (protocol : Protocol) (s : Station) : Prop where
  distinct : (s.lights.map Light.bulb).Nodup
  protocol : ∀ l ∈ s.lights, l.family.protocol = protocol
  zones : ∀ l ∈ s.lights, l.family.hasZone l.bulb.zone = true

/-- A frame that a deed gets accepted is the session's, or it is a frame of the
bulb of the light that was operated. -/
theorem accepted_frame {s : Station} {d : Deed} {f : Frame}
    (h : f ∈ (s.accepted d).map (·.2)) :
    (f.identity = 100 ∨ f.identity = 200) ∨
    ∃ light l operation category, d = .operate light operation ∧ s.lights[light]? = some l ∧
      f.identity = l.bulb.identity category := by
  obtain ⟨⟨mark, f⟩, hm, rfl⟩ := List.mem_map.mp h
  have hc := Queue.accepted_mem _ _ hm
  cases d with
  | operate light operation =>
    right
    cases hl : s.lights[light]? with
    | none => simp [calls, hl] at hc
    | some l =>
      simp only [calls, hl] at hc
      obtain ⟨g, hg, he⟩ := List.mem_map.mp hc
      cases he
      obtain ⟨header, command, record, _, hf⟩ := Progress.offers_frame _ _ _ _ hg
      exact ⟨light, l, operation, command.category, rfl, hl, congrArg Frame.identity hf⟩
  | session i =>
    left
    obtain ⟨g, hg, he⟩ := List.mem_map.mp hc
    cases he
    rw [Option.mem_toList] at hg
    obtain ⟨session, _, hg⟩ := Option.bind_eq_some_iff.mp hg
    exact Session.take_identity _ _ _ hg
  | _ => simp [calls] at hc

variable {T : Reading} {b : Bulb}

/-- The frames of a deed that is not done to a bulb tell nothing of it. -/
theorem foreign_told {protocol : Protocol} {s : Station} (hs : s.Orderly protocol)
    (hb : b.family.protocol = protocol) (hz : b.family.hasZone b.zone = true) (hp : 0 < b.place)
    {d : Deed} (hd : ∀ light l operation, d = .operate light operation →
      s.lights[light]? = some l → l.bulb ≠ b)
    {state : LightState} {fs : List Frame} (h : b.Told T state fs) :
    b.Told T state (fs ++ (s.accepted d).map (·.2)) := by
  apply Bulb.told_foreign h
  intro f hf c
  rcases accepted_frame hf with hi | ⟨light, l, operation, category, hd', hl, hi⟩
  · rw [Bulb.identity_eq]
    have hlt := Bulb.place_lt hz
    omega
  · rw [hi]
    have hm := List.mem_of_getElem? hl
    cases category with
    | none => exact (b.identity_ne_zero c).symm
    | some e =>
      exact Bulb.identity_apart (hs.zones l hm) hz ((hs.protocol l hm).trans hb.symm)
        (hd light l operation hd' hl) e c

def AllTold (T : Reading) (b : Bulb) (s : Station) (fs : List Frame) : Prop :=
  ∀ (i : Nat) (l : Light), s.lights[i]? = some l → l.bulb = b → b.Told T l.state fs

/-- A light whose bulb the deed is not done to was there before. -/
theorem perform_other {s : Station} {d : Deed}
    (hd : ∀ light m operation, d = .operate light operation →
      s.lights[light]? = some m → m.bulb ≠ b)
    {i : Nat} {l : Light} (hl : (s.perform d).lights[i]? = some l) (hb : l.bulb = b) :
    s.lights[i]? = some l := by
  rcases s.perform_lights d with h | ⟨light, m, operation, he, hm, h⟩ <;> rw [h] at hl
  · exact hl
  · have hne := hd light m operation he hm
    rw [List.getElem?_set] at hl
    split at hl
    · split at hl <;> cases hl
      exact absurd hb hne
    · exact hl

theorem perform_told {protocol : Protocol} {s : Station} (hs : s.Orderly protocol)
    (hb : b.family.protocol = protocol) (hz : b.family.hasZone b.zone = true) (hp : 0 < b.place)
    (hk : b.Kept T) {fs : List Frame} (h : AllTold T b s fs) (d : Deed) :
    AllTold T b (s.perform d) (fs ++ (s.accepted d).map (·.2)) := by
  intro i l hl hlb
  by_cases hd : ∃ light m operation, d = .operate light operation ∧
      s.lights[light]? = some m ∧ m.bulb = b
  · obtain ⟨light, m, operation, rfl, hm, rfl⟩ := hd
    have hlt := (List.getElem?_eq_some_iff.mp hm).1
    rw [operate_lights hm, List.getElem?_set, if_pos hlt] at hl
    split at hl
    · cases hl
      obtain ⟨notices, he⟩ := m.operate_eq s.wall s.link operation
      have ha : (s.accepted (.operate light operation)).map (·.2) =
          Progress.taken s.wall m.bulb (m.bulb.plan s.link.isValid m.state operation).all
            (.begin s.link m.state) := by
        rw [accepted_operate hm, List.map_map]
        exact List.map_id _
      rw [ha, he]
      exact Progress.foldl_told s.wall (hk.keeps _ _ operation) (hk.heard _ _ operation)
        (h light m hm rfl)
    · rename_i hne
      have hsame : (s.lights.map Light.bulb)[light]? = (s.lights.map Light.bulb)[i]? := by
        rw [List.getElem?_map, List.getElem?_map, hm, hl, Option.map_some, Option.map_some, hlb]
      exact absurd ((List.getElem?_inj (by simpa using hlt) hs.distinct).mp hsame) hne
  · have hd' : ∀ light m operation, d = .operate light operation →
        s.lights[light]? = some m → m.bulb ≠ b :=
      fun light m operation he hm hmb => hd ⟨light, m, operation, he, hm, hmb⟩
    exact foreign_told hs hb hz hp hd' (h i l (perform_other hd' hl hlb) hlb)

theorem Orderly.of_bulbs {protocol : Protocol} {s s' : Station} (h : s.Orderly protocol)
    (hb : s'.lights.map Light.bulb = s.lights.map Light.bulb) : s'.Orderly protocol := by
  constructor
  · exact hb ▸ h.distinct
  · exact forall_bulbs (P := fun b => b.family.protocol = protocol) hb h.protocol
  · exact forall_bulbs (P := fun b => b.family.hasZone b.zone = true) hb h.zones

/-! ## A run -/

theorem run_told {protocol : Protocol} {s : Station} (hs : s.Orderly protocol)
    (hb : b.family.protocol = protocol) (hz : b.family.hasZone b.zone = true) (hp : 0 < b.place)
    (hk : b.Kept T) {fs : List Frame} (h : AllTold T b s fs) (ds : List Deed) :
    AllTold T b (s.run ds) (fs ++ (s.acceptedIn ds).map (·.2)) := by
  induction ds generalizing s fs with
  | nil => simpa [run, acceptedIn, script, Queue.accepted] using h
  | cons d ds ih =>
    rw [acceptedIn_cons, List.map_append, ← List.append_assoc]
    exact ih (hs.of_bulbs (s.perform_bulbs d)) (perform_told hs hb hz hp hk h d)

/-- What is stored of a light is what the last accepted frames of its bulb say
and, once no frame waits, what the last frames that left say. -/
theorem stored_state_mirrored {protocol : Protocol} {s : Station} (hq : s.link.queue.Fresh)
    (hs : s.Orderly protocol) (ds : List Deed) : ∀ l ∈ (s.run ds).lights,
    l.bulb.Mirrors l.state (fun c =>
      Queue.newest (l.bulb.identity (some c)) ((s.acceptedIn ds).map (·.2))) ∧
    ((s.run ds).link.queue.waiting = [] → l.bulb.Mirrors l.state fun c =>
      Queue.newest (l.bulb.identity (some c)) (Queue.sent (s.script ds) s.link.queue)) := by
  intro l hl
  have hs' := hs.of_bulbs (s.run_bulbs ds)
  have hb := hs'.protocol l hl
  have hz := hs'.zones l hl
  obtain ⟨i, hi⟩ := List.getElem?_of_mem hl
  have hn : ∀ T, AllTold T l.bulb s [] := fun T i m _ _ => Bulb.told_nil
  have hm : l.bulb.Mirrors l.state fun c =>
      Queue.newest (l.bulb.identity (some c)) ((s.acceptedIn ds).map (·.2)) := by
    constructor
    · intro hf
      have hp := Bulb.place_pos hz (.inl hf)
      exact Rgbw.told_mirrors hf hz
        (run_told hs hb hz hp (Bulb.rgbw_kept hf) (hn _) ds i l hi rfl)
    · intro c hc
      have hp := Bulb.place_pos hz (.inr (by rw [hc]; rfl))
      exact SessionBulb.told_mirrors hc
        (run_told hs hb hz hp (Bulb.session_kept hc) (hn _) ds i l hi rfl)
  constructor
  · exact hm
  · intro hw
    have he : ∀ identity, Queue.newest identity (Queue.sent (s.script ds) s.link.queue) =
        Queue.newest identity ((s.acceptedIn ds).map (·.2)) := by
      intro identity
      have h := Queue.newest_accepted (s.script ds) hq identity
      rwa [← run_queue, hw, List.append_nil] at h
    simpa only [he] using hm

/-- A lamp and a bulb in a valid session. -/
def lamps : Station :=
  .start (.start .start (some ⟨"F0FE6B000001", .valid, 1, 2, (0, 0), 0, false, .empty⟩)) none
    [.create ⟨.v6RgbCwWw, 1⟩ none, .create ⟨.v6BridgeLamp, 1⟩ none]

/-- Deeds that leave nothing waiting; the first brightness never leaves. -/
def evening : List Deed :=
  [.operate 0 (.setBrightness 40), .operate 1 (.setPower true), .session .keepAlive,
    .operate 0 (.setBrightness 0), .operate 0 (.setColorTemperature 50),
    .operate 0 (.changeBrightness 30), .poll 0, .poll 100, .poll 100, .poll 200, .poll 200,
    .poll 300, .poll 300, .poll 400, .poll 400]

theorem evening_mirrored :
    lamps.link.queue.Fresh ∧ lamps.Orderly .v6 ∧ (lamps.run evening).link.queue.waiting = [] ∧
    (lamps.run evening).lights.map (fun l => (l.state.power, l.state.brightness)) =
      [(true, 30), (true, 0)] ∧
    ∀ l ∈ (lamps.run evening).lights, l.bulb.Mirrors l.state fun c =>
      Queue.newest (l.bulb.identity (some c))
        (Queue.sent (lamps.script evening) lamps.link.queue) := by
  have hs : lamps.Orderly .v6 := ⟨by decide, by decide, by decide⟩
  have hw : (lamps.run evening).link.queue.waiting = [] := by decide
  exact ⟨Queue.start_fresh, hs, hw, by decide,
    fun l hl => (stored_state_mirrored Queue.start_fresh hs evening l hl).2 hw⟩

end Station

end LightBridge
