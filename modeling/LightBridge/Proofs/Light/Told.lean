import LightBridge.Proofs.Light.Planned
import LightBridge.Proofs.Queue.Delivery

/-!
# What frames tell of a stored state

A reading says which payloads of a category tell a state. A move keeps a
reading when it stores nothing but what its command tells. The last accepted
frames of a bulb then tell the stored state, wherever a plan breaks off.
-/

set_option autoImplicit false

namespace LightBridge

/-- Which payloads of a category tell a state. -/
abbrev Reading := LightState → Category → Payload → Prop

namespace Move

/-- A command tells what is recorded with it in its own category, and nothing
that is stored takes away what other categories tell. -/
def Keeps (T : Reading) : Move → Prop
  | .store record => ∀ s c p, T s c p → T (record s) c p
  | .send command record =>
    (∀ s c p, command.category ≠ some c → T s c p → T (record s) c p) ∧
    ∀ s c, command.category = some c → T (record s) c command.payload

end Move

/-! ## Identities of a bulb -/

theorem Category.number_inj {c d : Category} (h : c.number = d.number) : c = d := by
  cases c <;> cases d <;> first | rfl | cases h

namespace Bulb

theorem identity_inj (b : Bulb) {c d : Category}
    (h : b.identity (some c) = b.identity (some d)) : c = d := by
  apply Category.number_inj
  simp only [identity, Category.identity] at h
  omega

theorem identity_ne_zero (b : Bulb) (c : Category) : b.identity (some c) ≠ 0 :=
  Nat.ne_of_gt (c.identity_pos _ _)

theorem frame_identity (b : Bulb) (h : Wire.Header) (c : Command) (d : Category) :
    (b.frame h c).identity = b.identity (some d) ↔ c.category = some d := by
  change b.identity c.category = b.identity (some d) ↔ c.category = some d
  cases hc : c.category with
  | none => exact iff_of_false (b.identity_ne_zero d).symm (by simp)
  | some e => exact ⟨fun h => congrArg some (b.identity_inj h), fun h => h ▸ rfl⟩

/-- The last frame of each category tells the state. -/
def Told (T : Reading) (b : Bulb) (s : LightState) (fs : List Frame) : Prop :=
  ∀ c f, Queue.newest (b.identity (some c)) fs = some f →
    ∃ h p, f.bytes = b.bytes h p ∧ T s c p

variable {T : Reading} {b : Bulb} {s : LightState} {fs : List Frame}

theorem told_nil : b.Told T s [] := by
  intro c f hf
  cases hf

theorem told_foreign (h : b.Told T s fs) {gs : List Frame}
    (hg : ∀ g ∈ gs, ∀ c, g.identity ≠ b.identity (some c)) : b.Told T s (fs++gs) := by
  intro c f hf
  have hn : Queue.newest (b.identity (some c)) gs = none := by
    rw [← Option.not_isSome_iff_eq_none, Queue.newest_isSome]
    rintro ⟨g, hm, hi⟩
    exact hg g hm c hi
  rw [Queue.newest_append, hn, Option.none_or] at hf
  exact h c f hf

theorem told_store (h : b.Told T s fs) {record : LightState → LightState}
    (hk : (Move.store record).Keeps T) : b.Told T (record s) fs := by
  intro c f hf
  obtain ⟨header, p, hb, ht⟩ := h c f hf
  exact ⟨header, p, hb, hk s c p ht⟩

theorem told_send (h : b.Told T s fs) {command : Command} {record : LightState → LightState}
    (hk : (Move.send command record).Keeps T) (header : Wire.Header) :
    b.Told T (record s) (fs ++ [b.frame header command]) := by
  intro c f hf
  rw [Queue.newest_append, Queue.newest_cons] at hf
  by_cases hc : command.category = some c
  · rw [if_pos ((b.frame_identity header command c).mpr hc)] at hf
    cases hf
    exact ⟨header, command.payload, rfl, hk.2 s c hc⟩
  · rw [if_neg (mt (b.frame_identity header command c).mp hc)] at hf
    obtain ⟨header, p, hb, ht⟩ := h c f hf
    exact ⟨header, p, hb, hk.1 s c p hc ht⟩

end Bulb

/-! ## A plan, wherever it breaks off -/

namespace Progress

variable {T : Reading} {b : Bulb} {p : Progress} {fs : List Frame}

theorem move_told (wall : Nat) (h : b.Told T p.state fs) {m : Move} (hk : m.Keeps T)
    (hn : p.link.isValid = true ∨ m.isPlain = true) :
    b.Told T (p.move wall b m).state (fs ++ taken wall b [m] p) := by
  cases move_moved wall b p m with
  | idle _ refused offer same =>
    rw [same, taken_unoffered offer, List.append_nil]
    exact h
  | stored record same =>
    rw [same, taken_unoffered rfl, List.append_nil]
    exact Bulb.told_store h hk
  | accepted command record header offer result queue valid state refusal =>
    rw [state, taken_accepted offer result]
    exact Bulb.told_send h hk header
  | rejected command record header fault offer result queue valid state refusal =>
    rw [state, taken_rejected offer result, List.append_nil]
    exact h
  | dropped command record offer invalid inSession queue valid =>
    rw [invalid] at hn
    obtain ⟨x, y, hc⟩ := Move.plain_of_isPlain (hn.resolve_left Bool.false_ne_true)
    exact absurd hc (inSession x y)

/-- The accepted frames of a plan tell what it stored. -/
theorem foldl_told (wall : Nat) {ms : List Move} (hk : ∀ m ∈ ms, m.Keeps T)
    (hn : p.link.isValid = true ∨ ∀ m ∈ ms, m.isPlain = true) (h : b.Told T p.state fs) :
    b.Told T (ms.foldl (move wall b) p).state (fs ++ taken wall b ms p) := by
  induction ms generalizing p fs with
  | nil => simpa [taken, offers, Queue.accepted] using h
  | cons m ms ih =>
    rw [List.forall_mem_cons] at hk hn
    have hm := move_told wall h hk.1 (hn.imp_right And.left)
    rw [← move_isValid wall b p m] at hn
    rw [taken_cons, ← List.append_assoc]
    exact ih hk.2 (hn.imp_right And.right) hm

end Progress

end LightBridge
