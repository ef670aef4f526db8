import LightBridge.Proofs.Link.Silence
import LightBridge.Proofs.Queue.Pacing
import LightBridge.Proofs.Station.Act
import LightBridge.Proofs.Station.Action

/-!
# Tidings of a bridge

A tiding is an outcome of a round of discovery with the time at which it came.
A station takes tidings one after another, and whatever else happens to it,
what it knows of the reach of its bridge, and what its log lines say of it, are
told by the tidings alone. Where several come at one time, only the first one
that calls for a keep-alive gets one.
-/

set_option autoImplicit false

namespace LightBridge

open Event

/-! ## The outcomes and log lines among events -/

namespace Event

def endings (events : List Event) : List Outcome := events.filterMap ended?

@[simp] theorem endings_nil : endings [] = [] := rfl

theorem endings_cons (event : Event) (events : List Event) :
    endings (event::events) = event.ended?.toList ++ endings events := by
  cases event <;> rfl

@[simp] theorem endings_append (events more : List Event) :
    endings (events ++ more) = endings events ++ endings more := List.filterMap_append

@[simp] theorem endings_ofFrames (fs : List Frame) : endings (ofFrames fs) = [] := by
  simp [endings, ofFrames, ended?, List.filterMap_map, Function.comp_def]

@[simp] theorem endings_ofNotices (ns : List Notice) : endings (ofNotices ns) = [] := by
  simp [endings, ofNotices, ended?, List.filterMap_map, Function.comp_def]

/-- The log lines that say that the bridge is reached or lost. -/
def reachLines (events : List Event) : List Notice :=
  (events.filterMap noticed?).filter Notice.tellsReach

@[simp] theorem reachLines_nil : reachLines [] = [] := rfl

theorem reachLines_cons (event : Event) (events : List Event) :
    reachLines (event::events) =
      event.noticed?.toList.filter Notice.tellsReach ++ reachLines events := by
  cases event with
  | noticed n => cases h : n.tellsReach <;> simp [reachLines, noticed?, h]
  | _ => rfl

@[simp] theorem reachLines_append (events more : List Event) :
    reachLines (events ++ more) = reachLines events ++ reachLines more := by
  simp [reachLines]

@[simp] theorem reachLines_ofFrames (fs : List Frame) : reachLines (ofFrames fs) = [] := by
  simp [reachLines, ofFrames, noticed?, List.filterMap_map, Function.comp_def]

@[simp] theorem reachLines_ofNotices (ns : List Notice) :
    reachLines (ofNotices ns) = ns.filter Notice.tellsReach := by
  simp [reachLines, ofNotices, noticed?, List.filterMap_map, Function.comp_def]

end Event

theorem Trace.outcomes_eq (t : Trace) : t.outcomes = endings (t.map (·.2)) := by
  simp [outcomes, pick, endings, List.filterMap_map, List.map_filterMap, Function.comp_def]

theorem Trace.notices_eq (t : Trace) : t.notices = (t.map (·.2)).filterMap noticed? := by
  simp [notices, pick, List.filterMap_map, List.map_filterMap, Function.comp_def]

@[simp] theorem Timeline.events_stamp {ε : Type} (time : Nat) (events : List ε) :
    (stamp time events).map (·.2) = events := by
  simp [stamp, Function.comp_def]

theorem Discovery.settleAfter_reachLines (before : Discovery → Discovery)
    (answer : Option (Endpoint × List UInt8)) (now : Nat) (d : Discovery) :
    reachLines (d.settleAfter before answer now).2 = [] := by
  refine Notice.Silent.filter fun n hn => ?_
  obtain ⟨e, he, hen⟩ := List.mem_filterMap.mp hn
  have h := settleAfter_shows before answer now d e he
  cases e with
  | noticed m =>
    obtain rfl : m = n := Option.some.inj hen
    cases m with
    | unexpectedAnswer source fault => rfl
    | _ => cases h
  | _ => cases hen

/-! ## What tidings make of the presence -/

namespace Presence

variable (id : String) (hasSession : Bool)

def learn : List (Nat × Outcome) → Presence → Presence
  | [], p => p
  | x::xs, p => learn xs (p.note id hasSession x.1 x.2).1

/-- The log lines that follow tidings. -/
def lines : List (Nat × Outcome) → Presence → List Notice
  | [], _ => []
  | x::xs, p => (p.note id hasSession x.1 x.2).2.1 ++ lines xs (p.note id hasSession x.1 x.2).1

/-- The tidings that call for a keep-alive. -/
def calls : List (Nat × Outcome) → Presence → List (Nat × Outcome)
  | [], _ => []
  | x::xs, p =>
    (if (p.note id hasSession x.1 x.2).2.2 then [x] else []) ++
      calls xs (p.note id hasSession x.1 x.2).1

theorem learn_append (xs ys : List (Nat × Outcome)) (p : Presence) :
    learn id hasSession (xs++ys) p = learn id hasSession ys (learn id hasSession xs p) := by
  induction xs generalizing p with
  | nil => rfl
  | cons x xs ih => exact ih _

theorem lines_append (xs ys : List (Nat × Outcome)) (p : Presence) :
    lines id hasSession (xs++ys) p =
      lines id hasSession xs p ++ lines id hasSession ys (learn id hasSession xs p) := by
  induction xs generalizing p with
  | nil => rfl
  | cons x xs ih => simp [lines, learn, ih]

theorem calls_append (xs ys : List (Nat × Outcome)) (p : Presence) :
    calls id hasSession (xs++ys) p =
      calls id hasSession xs p ++ calls id hasSession ys (learn id hasSession xs p) := by
  induction xs generalizing p with
  | nil => rfl
  | cons x xs ih => simp [calls, learn, ih]

theorem note_reachLines (wall : Nat) (p : Presence) (outcome : Outcome) :
    (p.note id hasSession wall outcome).2.1.filter Notice.tellsReach =
      (p.note id hasSession wall outcome).2.1 := by
  cases outcome with
  | notFound => cases h : p.online <;> simp [note, h, Notice.tellsReach]
  | found bridge =>
    cases hid : sameId bridge.id id with
    | false => simp [note, hid]
    | true =>
      simp only [note, hid, if_true]
      cases p.online <;> split <;> rfl

/-- A time at which no keep-alive is due yet calls for none. -/
theorem calls_undue {wall : Nat} (outcomes : List Outcome) {p : Presence}
    (h : p.keepAliveDue wall = false) :
    calls id hasSession (outcomes.map (wall, ·)) p = [] := by
  induction outcomes generalizing p with
  | nil => rfl
  | cons outcome outcomes ih =>
    have hn : (p.note id hasSession wall outcome).2.2 = false ∧
        (p.note id hasSession wall outcome).1.keepAliveDue wall = false := by
      cases outcome with
      | notFound => exact ⟨rfl, h⟩
      | found bridge =>
        simp only [note, h, Bool.and_false]
        split
        · exact ⟨rfl, h⟩
        · exact ⟨rfl, h⟩
    rw [List.map_cons, calls, if_neg (by simp [hn.1])]
    exact ih hn.2

/-- Tidings that come at one time call for at most one keep-alive. -/
theorem foldl_calls {α : Type} (f : Nat → α → α) (wall : Nat) (outcomes : List Outcome)
    (p : Presence) (a : α) :
    (calls id hasSession (outcomes.map (wall, ·)) p).foldl (fun a x => f x.1 a) a =
      if (calls id hasSession (outcomes.map (wall, ·)) p).isEmpty then a else f wall a := by
  induction outcomes generalizing p with
  | nil => rfl
  | cons outcome outcomes ih =>
    cases hn : (p.note id hasSession wall outcome).2.2 with
    | false => simpa [calls, hn] using ih _
    | true =>
      have hdue : (p.note id hasSession wall outcome).1.keepAliveDue wall = false := by
        cases outcome with
        | notFound => cases hn
        | found bridge =>
          simp only [note] at hn ⊢
          split at hn
          · split at hn
            · rw [if_pos ‹_›, if_pos ‹_›, keepAliveDue]
              simp [throttle]
            · cases hn
          · cases hn
      simp [calls, hn, calls_undue id hasSession outcomes hdue]

/-- Outcomes among events are taken one after another, at one time. -/
theorem noteAll_learn (wall : Nat) (p : Presence) {events : List Event}
    (h : reachLines events = []) :
    let noted := p.noteAll id hasSession wall events
    let xs := (endings events).map (wall, ·)
    noted.1 = p.learn id hasSession xs ∧ endings noted.2.1 = endings events ∧
      reachLines noted.2.1 = p.lines id hasSession xs ∧
      noted.2.2 = !(p.calls id hasSession xs).isEmpty := by
  induction events generalizing p with
  | nil => exact ⟨rfl, rfl, rfl, rfl⟩
  | cons event events ih =>
    rw [reachLines_cons, List.append_eq_nil_iff] at h
    cases event with
    | ended outcome =>
      obtain ⟨hp, he, hl, hc⟩ := ih (p.note id hasSession wall outcome).1 h.2
      refine ⟨hp, ?_, ?_, ?_⟩
      · simp [noteAll, endings_cons, ended?, he]
      · simp [noteAll, reachLines_cons, noticed?, hl, endings_cons, ended?, lines,
          note_reachLines]
      · cases hn : (p.note id hasSession wall outcome).2.2 <;>
          simp [noteAll, endings_cons, ended?, calls, hn, hc]
    | sent | probed | noticed =>
      obtain ⟨hp, he, hl, hc⟩ := ih p h.2
      refine ⟨hp, ?_, ?_, hc⟩
      · simp [noteAll, endings_cons, ended?, he]
      · simp [noteAll, reachLines_cons, h.1, hl, endings_cons, ended?]

end Presence

end LightBridge
