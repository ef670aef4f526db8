import LightBridge.Proofs.Bridge.Tidings

/-!
# What a station knows of its bridge

When its look-up has a turn, a station takes the outcomes one after another:
each is noted, and the session gets the keep-alive that it calls for. Nothing
else that can be done to a station changes what it knows of the reach of its
bridge or is said about it.
-/

set_option autoImplicit false

namespace LightBridge

open Event

theorem Lookup.settle_learn (l : Lookup) (hasSession : Bool) (wall : Nat)
    (answer : Option (Endpoint × List UInt8)) (now : Nat) :
    ∃ discovery, let r := l.settle hasSession wall answer now
      let xs := (endings r.2.1).map (wall, ·)
      r.1 = { l with
        discovery, refresher := l.postponed now
        presence := l.presence.learn l.bridge hasSession xs } ∧
      reachLines r.2.1 = l.presence.lines l.bridge hasSession xs ∧
      r.2.2 = !(l.presence.calls l.bridge hasSession xs).isEmpty := by
  let found := l.discovery.settleAfter (if l.isDue now then Discovery.sendDiscover else id)
    answer now
  obtain ⟨hp, he, hm, hc⟩ := l.presence.noteAll_learn l.bridge hasSession wall
    (Discovery.settleAfter_reachLines _ answer now l.discovery : reachLines found.2 = [])
  have hends : endings (l.settle hasSession wall answer now).2.1 = endings found.2 := he
  refine ⟨found.1, ?_, ?_, ?_⟩
  · rw [hends, ← hp]
    rfl
  · rw [hends, ← hm]
    rfl
  · rw [hends, ← hc]
    rfl

namespace Station

/-! ## Taking tidings -/

/-- Takes one outcome at the given time, with the log lines that follow. -/
def note (x : Nat × Outcome) (s : Station) : Station × List Notice :=
  match s.lookup with
  | none => (s, [])
  | some l =>
    let (presence, notices, asks) := l.presence.note l.bridge s.link.session.isSome x.1 x.2
    let (link, more) := if asks then s.link.keepAlive x.1 else (s.link, [])
    ({ s with link, lookup := some { l with presence } }, notices ++ more)

def learn : List (Nat × Outcome) → Station → Station × List Notice
  | [], s => (s, [])
  | x::xs, s =>
    let (s, notices) := s.note x
    let (s, rest) := learn xs s
    (s, notices ++ rest)

/-- Tidings change the presence of the bridge, and the session gets a keep-alive
for each that calls for one. -/
theorem learn_eq (xs : List (Nat × Outcome)) {s : Station} {l : Lookup}
    (hl : s.lookup = some l) :
    let has := s.link.session.isSome
    (s.learn xs).1 = { s with
      link := (l.presence.calls l.bridge has xs).foldl (fun k x => (k.keepAlive x.1).1) s.link
      lookup := some { l with presence := l.presence.learn l.bridge has xs } } ∧
    (s.learn xs).2.filter Notice.tellsReach = l.presence.lines l.bridge has xs := by
  induction xs generalizing s l with
  | nil => exact ⟨by simp [learn, Presence.calls, Presence.learn, ← hl], rfl⟩
  | cons x xs ih =>
    have hnotices := l.presence.note_reachLines l.bridge s.link.session.isSome x.1 x.2
    rcases hn : l.presence.note l.bridge s.link.session.isSome x.1 x.2 with ⟨p, notices, asks⟩
    rw [hn] at hnotices
    have hk : ((s.link.keepAlive x.1).1).session.isSome = s.link.session.isSome :=
      s.link.take_hasSession x.1 .keepAlive
    cases asks with
    | false =>
      obtain ⟨hs, hm⟩ := ih (s := { s with lookup := some { l with presence := p } }) rfl
      simp [learn, note, hl, hn, Presence.calls, Presence.learn, Presence.lines, hs, hm, hnotices]
    | true =>
      obtain ⟨hs, hm⟩ := ih (s := { s with
        link := (s.link.keepAlive x.1).1, lookup := some { l with presence := p } }) rfl
      simp only [hk] at hs hm
      simp [learn, note, hl, hn, Presence.calls, Presence.learn, Presence.lines, hs, hm, hnotices,
        (s.link.keepAlive_silent x.1).filter]

/-- A look-up has its turn by taking the outcomes of its discovery. -/
theorem search_learn (arrival : Option Arrival) {s : Station} {l : Lookup}
    (hl : s.lookup = some l) :
    ∃ discovery, let s' : Station :=
        { s with lookup := some { l with discovery, refresher := l.postponed s.clock } }
      (s.search arrival).1 = (s'.learn ((endings (s.search arrival).2).map (s.wall, ·))).1 ∧
      reachLines (s.search arrival).2 = l.presence.lines l.bridge s.link.session.isSome
        ((endings (s.search arrival).2).map (s.wall, ·)) := by
  obtain ⟨discovery, hs, hm, hc⟩ := l.settle_learn s.link.session.isSome s.wall
    (arrival.bind Arrival.answer?) s.clock
  have hfold := l.presence.foldl_calls l.bridge s.link.session.isSome
    (fun wall (k : Link) => (k.keepAlive wall).1) s.wall
  simp only [search, hl]
  generalize l.settle s.link.session.isSome s.wall (arrival.bind Arrival.answer?) s.clock = r at *
  obtain ⟨l', events, asks⟩ := r
  simp only at hs hm hc
  refine ⟨discovery, ?_, ?_⟩
  · rw [(learn_eq _ rfl).1]
    simp only [endings_append, endings_ofNotices, List.append_nil, hfold, hs, hc]
    cases (l.presence.calls l.bridge s.link.session.isSome
      ((endings events).map (s.wall, ·))).isEmpty <;> rfl
  · have hsilent : Notice.Silent (if asks then s.link.keepAlive s.wall else (s.link, [])).2 := by
      split
      · exact s.link.keepAlive_silent s.wall
      · exact Notice.silent_nil
    simpa [hsilent.filter] using hm

/-! ## What is known -/

variable {s s' s'' : Station}

/-- The bridge that is looked up, and what is known of its reach. -/
def known (s : Station) : Option (String × Presence) :=
  s.lookup.map fun l => (l.bridge, l.presence)

/-- From one station to the next exactly the outcomes among some events were
taken, and these events say what they come to. -/
structure Learns (s s' : Station) (events : List Event) : Prop where
  wall : s'.wall = s.wall
  session : s'.link.session.isSome = s.link.session.isSome
  known : s'.known = s.known.map fun k =>
    (k.1, k.2.learn k.1 s.link.session.isSome ((endings events).map (s.wall, ·)))
  lines : reachLines events = s.known.elim [] fun k =>
    k.2.lines k.1 s.link.session.isSome ((endings events).map (s.wall, ·))

theorem learns_still {events : List Event} (hw : s'.wall = s.wall)
    (hs : s'.link.session.isSome = s.link.session.isSome) (hk : s'.known = s.known)
    (he : endings events = []) (hm : reachLines events = []) : s.Learns s' events := by
  refine ⟨hw, hs, ?_, ?_⟩
  · simp [hk, he, Presence.learn]
  · cases h : s.known <;> simp [he, hm, Presence.lines]

theorem Learns.trans {events more : List Event} (h : s.Learns s' events)
    (h' : s'.Learns s'' more) : s.Learns s'' (events ++ more) := by
  obtain ⟨hw, hs, hk, hm⟩ := h
  obtain ⟨hw', hs', hk', hm'⟩ := h'
  rw [hs, hw, hk] at hk' hm'
  refine ⟨hw'.trans hw, hs'.trans hs, ?_, ?_⟩
  · rw [hk', Option.map_map]
    simp [Function.comp_def, Presence.learn_append]
  · rw [reachLines_append, hm, hm']
    cases s.known <;> simp [Presence.lines_append]

/-! ## Running the loops -/

theorem keepAlives_hasSession (calls : List (Nat × Outcome)) (l : Link) :
    (calls.foldl (fun k x => (k.keepAlive x.1).1) l).session.isSome = l.session.isSome := by
  induction calls generalizing l with
  | nil => rfl
  | cons x calls ih => exact (ih _).trans (l.take_hasSession x.1 .keepAlive)

theorem search_learns (arrival : Option Arrival) (s : Station) :
    s.Learns (s.search arrival).1 (s.search arrival).2 := by
  cases hl : s.lookup with
  | none =>
    have h : s.search arrival = (s, []) := by simp [search, hl]
    rw [h]
    exact learns_still rfl rfl rfl rfl rfl
  | some l =>
    obtain ⟨discovery, hs, hm⟩ := search_learn arrival hl
    rw [(learn_eq _ rfl).1] at hs
    refine ⟨?_, ?_, ?_, ?_⟩
    · rw [hs]
    · rw [hs]
      exact keepAlives_hasSession _ _
    · rw [hs]
      simp [known, hl]
    · simpa [known, hl] using hm

theorem turn_learns (arrival : Option Arrival) (s : Station) :
    s.Learns (s.turn arrival).1 (s.turn arrival).2 := by
  have h : s.Learns { s with
      link := ((s.link.drain s.clock).1.hear s.wall (arrival.bind Arrival.control?)).1 }
      (ofFrames (s.link.drain s.clock).2 ++ ofNotices
        ((s.link.drain s.clock).1.hear s.wall (arrival.bind Arrival.control?)).2) :=
    learns_still rfl (Link.hear_hasSession s.wall _ (s.link.drain s.clock).1) rfl (by simp)
      (by simp [(Link.hear_silent s.wall _ _).filter])
  exact h.trans (search_learns arrival _)

theorem settle_learns (arrival : Option Arrival) (s : Station) :
    s.Learns (s.settle arrival).1 (s.settle arrival).2 :=
  (s.turn_learns arrival).trans (learns_still rfl rfl rfl (by simp) (by simp))

theorem advance_learns (milliseconds : Nat) (s : Station) :
    s.Learns (s.advance milliseconds).1 ((s.advance milliseconds).2.map (·.2)) := by
  -- After each millisecond the events shown so far tell what was taken.
  let I : Nat → Station → Trace → Prop := fun _ s' t => s.Learns s' (t.map (·.2))
  have hnext : ∀ now s' t, I now s' t →
      I now (settleAt now s').1 (t ++ Timeline.stamp now (settleAt now s').2) := by
    intro now s' t h
    have hclock : s'.Learns { s' with clock := now } [] := learns_still rfl rfl rfl rfl rfl
    have hs := h.trans (hclock.trans (settle_learns none { s' with clock := now }))
    simpa [I, settleAt] using hs
  have hstart : I s.clock s [] := learns_still rfl rfl rfl rfl rfl
  have hp := Timeline.pass_keeps hnext (fun now => hnext (now+1)) milliseconds s.clock hstart
  simpa [I, advance, Function.comp_def] using hp

theorem pauses_learns (n : Nat) (s : Station) : s.Learns (s.pauses n).1 (s.pauses n).2 := by
  induction n generalizing s with
  | zero => exact learns_still rfl rfl rfl rfl rfl
  | succ n ih =>
    unfold pauses
    split
    · exact learns_still rfl rfl rfl rfl rfl
    · rename_i wake _
      exact (s.advance_learns (wake-s.clock)).trans (ih _)

theorem flush_learns (s : Station) : s.Learns s.flush.1 s.flush.2 := by
  have hp := pauses_learns ((s.settle none).1.link.queue.waiting.length+1) (s.settle none).1
  exact (s.settle_learns none).trans hp

theorem disposeQueue_learns (s : Station) : s.Learns s.disposeQueue.1 s.disposeQueue.2 :=
  (s.turn_learns none).trans (learns_still rfl rfl rfl (by simp) (by simp))

theorem disposeSession_learns (s : Station) :
    s.Learns s.disposeSession.1 s.disposeSession.2 := by
  have hstop : (s.settle none).1.Learns s.disposeSession.1 [] := learns_still rfl rfl rfl rfl rfl
  have h := (s.settle_learns none).trans hstop
  rwa [List.append_nil] at h

theorem dispose_learns (s : Station) : s.Learns s.dispose.1 s.dispose.2 := by
  refine (s.settle_learns none).trans (learns_still rfl rfl ?_ (by simp) (by simp))
  simp [dispose, known, Lookup.stop, Function.comp_def]

/-! ## Actions -/

theorem operate_hasSession (light : Nat) (operation : Operation) (s : Station) :
    (s.operate light operation).1.link.session.isSome = s.link.session.isSome := by
  have h := s.perform_link (.operate light operation)
  rw [perform] at h
  rw [h]
  exact Link.run_hasSession _ _

/-- An operation says nothing of the reach. -/
theorem operate_learns (light : Nat) (operation : Operation) (s : Station) :
    s.Learns (s.operate light operation).1 (ofNotices (s.operate light operation).2.1) := by
  refine learns_still ?_ (s.operate_hasSession light operation) ?_ (by simp) ?_
  · unfold operate
    split <;> rfl
  · unfold operate
    split <;> rfl
  · rw [reachLines_ofNotices]
    unfold operate
    split
    · rfl
    · exact (Light.operate_silent s.wall _ s.link operation).filter

/-- Whatever is done to a station, it learns what the events of it tell. -/
theorem step_learns (s : Station) (a : Action) :
    s.Learns (s.step a).1 ((s.step a).2.trace.map (·.2)) := by
  have hevents : ∀ {s' : Station} {events : List Event}, s.Learns s' events →
      s.Learns s' ((Report.ofEvents events).trace.map (·.2)) := by
    intro s' events h
    simpa [Report.ofEvents] using h
  have hinput : ∀ {s' : Station} {ns : List Notice} (i : Session.Input),
      s'.wall = s.wall → s'.link = s.link.take s.wall i → s'.lookup = s.lookup →
      Notice.Silent ns → s.Learns s' ((Report.ofNotices ns).trace.map (·.2)) := by
    intro s' ns i hw hk hl hn
    refine hevents (learns_still hw ?_ (by rw [known, known, hl]) (by simp) (by simp [hn.filter]))
    rw [hk]
    exact s.link.take_hasSession s.wall i
  have hstill : ∀ {s' : Station}, s'.wall = s.wall →
      s'.link.session.isSome = s.link.session.isSome → s'.known = s.known → s.Learns s' [] :=
    fun hw hs hk => learns_still hw hs hk rfl rfl
  cases a with
  | operate light operation => exact hevents (s.operate_learns light operation)
  | keepAlive => exact hinput .keepAlive rfl rfl rfl (s.link.keepAlive_silent s.wall)
  | packet bytes => exact hinput (.packet bytes) rfl rfl rfl (s.link.receive_silent s.wall bytes)
  | nextHeader => exact hinput .nextHeader rfl rfl rfl (s.link.nextHeader_silent s.wall)
  | setPassword pw1 pw2 =>
    exact hstill rfl (s.link.take_hasSession s.wall (.setPassword pw1 pw2)) rfl
  | setSequence n => exact hstill rfl (s.link.take_hasSession s.wall (.setSequence n)) rfl
  | refresh =>
    exact hstill rfl rfl (by simp [step, refresh, known, Lookup.refresh, Function.comp_def])
  | advance milliseconds => exact s.advance_learns milliseconds
  | flush => exact hevents s.flush_learns
  | arrive arrival => exact hevents (s.settle_learns (some arrival))
  | disposeQueue => exact hevents s.disposeQueue_learns
  | disposeSession => exact hevents s.disposeSession_learns
  | dispose => exact hevents s.dispose_learns
  | addLight | enqueue | fill | setDelay | setCopies => exact hstill rfl rfl rfl

/-! ## Runs -/

/-- The outcomes that a run shows, with the times of their actions. -/
def tidings : List (Nat × Action) → Station → List (Nat × Outcome)
  | [], _ => []
  | (wall, a)::as, s =>
    (s.act wall a).2.trace.outcomes.map (wall, ·) ++ tidings as (s.act wall a).1

/-- The log lines of a run that say that the bridge is reached or lost. -/
def reachLines (as : List (Nat × Action)) (s : Station) : List Notice :=
  (s.reports as).flatMap fun r => r.trace.notices.filter Notice.tellsReach

theorem reachLines_cons (x : Nat × Action) (as : List (Nat × Action)) (s : Station) :
    s.reachLines (x::as) = (s.act x.1 x.2).2.trace.notices.filter Notice.tellsReach ++
      (s.act x.1 x.2).1.reachLines as := rfl

/-- What a run makes of the knowledge of the bridge is told by its tidings. -/
theorem after_learns (as : List (Nat × Action)) (s : Station) :
    let has := s.link.session.isSome
    (s.after as).link.session.isSome = has ∧
    (s.after as).known = s.known.map (fun k => (k.1, k.2.learn k.1 has (s.tidings as))) ∧
    s.reachLines as = s.known.elim [] fun k => k.2.lines k.1 has (s.tidings as) := by
  induction as generalizing s with
  | nil =>
    refine ⟨rfl, ?_, ?_⟩
    · simp [after, tidings, Presence.learn]
    · cases s.known <;> rfl
  | cons x as ih =>
    obtain ⟨wall, a⟩ := x
    obtain ⟨_, hs, hk, hm⟩ := step_learns { s with wall } a
    obtain ⟨hs', hk', hm'⟩ := ih (s.act wall a).1
    have hstep : (s.act wall a).1.link.session.isSome = s.link.session.isSome := hs
    have hknown : (s.act wall a).1.known = s.known.map fun k =>
        (k.1, k.2.learn k.1 s.link.session.isSome
          ((s.act wall a).2.trace.outcomes.map (wall, ·))) := by
      rw [Trace.outcomes_eq]
      exact hk
    have hlines : (s.act wall a).2.trace.notices.filter Notice.tellsReach =
        s.known.elim [] fun k => k.2.lines k.1 s.link.session.isSome
          ((s.act wall a).2.trace.outcomes.map (wall, ·)) := by
      rw [Trace.outcomes_eq, Trace.notices_eq]
      exact hm
    rw [hstep, hknown] at hk' hm'
    refine ⟨hs'.trans hstep, ?_, ?_⟩
    · rw [after, hk', Option.map_map]
      simp [Function.comp_def, tidings, Presence.learn_append]
    · rw [reachLines_cons, hlines, hm']
      cases s.known <;> simp [tidings, Presence.lines_append]

end Station

end LightBridge
