import LightBridge.Proofs.Discovery.Account

/-!
# The program's own turns

When the program lets its loops run within a millisecond, it carries out acts
of an interleaving: the receive loop opens and takes an answer, a round may be
requested, and every resend loop has as many turns as it needs.
-/

set_option autoImplicit false

namespace LightBridge.Discovery

variable {now : Nat} {d d' d'' : Discovery}

/-! ## The turns of one loop -/

/-- A loop does not look at the other loops. -/
theorem runLoop_resends (n : Nat) (d : Discovery) (r : Resend) (resends : List Resend) :
    runLoop now n { d with resends } r =
      ({ (runLoop now n d r).1 with resends }, (runLoop now n d r).2) := by
  induction n generalizing r with
  | zero => rfl
  | succ n ih =>
    have hc : isCurrent { d with resends } r.round = d.isCurrent r.round := rfl
    simp only [runLoop, hc]
    split
    · rfl
    · split
      · rfl
      · split
        · rfl
        · rw [ih]

theorem runLoops_resends (rs : List Resend) (d : Discovery) (resends : List Resend) :
    runLoops now rs { d with resends } =
      ({ (runLoops now rs d).1 with resends }, (runLoops now rs d).2) := by
  induction rs generalizing d with
  | nil => rfl
  | cons r rs ih =>
    simp only [runLoops, runLoop_resends]
    rw [ih]

theorem runLoop_asleep {r : Resend} (h : now < r.due) (n : Nat) (d : Discovery) :
    runLoop now n d r = (d, [], [r]) := by
  cases n with
  | zero => rfl
  | succ n => simp [runLoop, h]

/-- A loop that is kept is still the loop of its round. -/
theorem runLoop_kept (n : Nat) (d : Discovery) (r : Resend) :
    ((runLoop now n d r).2.2.map Resend.round).Sublist [r.round] := by
  induction n generalizing r with
  | zero => exact List.Sublist.refl _
  | succ n ih =>
    unfold runLoop
    split
    · exact List.Sublist.refl _
    · split
      · exact List.nil_sublist _
      · split
        · exact List.nil_sublist _
        · exact ih _

def turns (n round : Nat) : List Act := List.replicate n (.tick round)

theorem clock_turns (n round : Nat) : clock (turns n round) now = now := by
  induction n with
  | zero => rfl
  | succ n ih => exact ih

theorem run_turns_succ (n round : Nat) (d : Discovery) :
    run (turns (n+1) round) now d = run (turns n round) now (d.wake now round).1 := rfl

theorem shown_turns_succ (n round : Nat) (d : Discovery) :
    shown (turns (n+1) round) now d =
      (d.wake now round).2 ++ shown (turns n round) now (d.wake now round).1 :=
  shown_cons (.tick round) (turns n round) now d

theorem turns_absent {round : Nat} (h : ∀ r ∈ d.resends, r.round ≠ round) (now n : Nat) :
    run (turns n round) now d = d ∧ shown (turns n round) now d = [] := by
  induction n with
  | zero => exact ⟨rfl, rfl⟩
  | succ n ih =>
    rw [run_turns_succ, shown_turns_succ, wake_absent h]
    exact ih

/-- The turns of a loop, one by one, are its run. -/
theorem turns_at {before after : List Resend} {r : Resend} (now n : Nat)
    (hd : d.resends = before ++ r::after) (hb : ∀ s ∈ before, s.round ≠ r.round)
    (ha : ∀ s ∈ after, s.round ≠ r.round) :
    run (turns n r.round) now d =
        { (runLoop now n d r).1 with resends := before ++ (runLoop now n d r).2.2 ++ after } ∧
      shown (turns n r.round) now d = (runLoop now n d r).2.1 := by
  induction n generalizing d r with
  | zero =>
    have hs : before ++ [r] ++ after = d.resends := by simp [hd]
    exact ⟨by simp [turns, run, runLoop, hs], rfl⟩
  | succ n ih =>
    have gone : ∀ s ∈ before ++ [] ++ after, s.round ≠ r.round := by
      intro s hs
      rcases List.mem_append.mp hs with hs | hs
      · exact hb s (by simpa using hs)
      · exact ha s hs
    rw [run_turns_succ, shown_turns_succ, wake_at hd hb ha]
    rcases runLoop_one now d r with ⟨ht, hl⟩ | ⟨ht, hc, hl⟩ | ⟨ht, hc, hz, hl⟩ |
      ⟨left, ht, hc, hleft, hl⟩ <;> rw [hl]
    · have hs : before ++ [r] ++ after = d.resends := by simp [hd]
      rw [runLoop_asleep ht, hs]
      simpa [runLoop_asleep ht, hs] using ih hd hb ha
    · have hr : runLoop now (n+1) d r = (d, [], []) := by
        simp [runLoop, Nat.not_lt.mpr ht, hc]
      rw [hr]
      exact turns_absent gone now n
    · have hr : runLoop now (n+1) d r = (d.stopResend, [.ended .notFound], []) := by
        simp [runLoop, Nat.not_lt.mpr ht, hc, hz]
      have hrest := turns_absent (d := { d.stopResend with resends := before ++ [] ++ after })
        gone now n
      rw [hr]
      exact ⟨hrest.1, by rw [hrest.2]; rfl⟩
    · have hr : runLoop now (n+1) d r =
          ((runLoop now n d { r with left, due := now+d.config.wait }).1,
            probePair ++ (runLoop now n d { r with left, due := now+d.config.wait }).2.1,
            (runLoop now n d { r with left, due := now+d.config.wait }).2.2) := by
        simp [runLoop, Nat.not_lt.mpr ht, hc, hleft]
      have hrest := ih (d := { d with
          resends := before ++ [{ r with left, due := now+d.config.wait }] ++ after })
        (r := { r with left, due := now+d.config.wait }) (by simp) hb ha
      rw [runLoop_resends] at hrest
      rw [hr]
      exact ⟨hrest.1, by rw [hrest.2]⟩

/-! ## The turns of all loops -/

/-- As many turns of each loop as it may need. -/
def ticks (rs : List Resend) : List Act := rs.flatMap fun r => turns (r.left+1) r.round

theorem clock_ticks (rs : List Resend) : clock (ticks rs) now = now := by
  induction rs with
  | nil => rfl
  | cons r rs ih => rw [ticks, List.flatMap_cons, clock_append, clock_turns]; exact ih

theorem ticks_cons (r : Resend) (rs : List Resend) :
    ticks (r::rs) = turns (r.left+1) r.round ++ ticks rs := rfl

theorem run_ticks (now : Nat) {kept rs : List Resend} (hd : d.resends = kept ++ rs)
    (hn : (d.resends.map Resend.round).Nodup) :
    run (ticks rs) now d =
        { (runLoops now rs d).1 with resends := kept ++ (runLoops now rs d).2.2 } ∧
      shown (ticks rs) now d = (runLoops now rs d).2.1 := by
  induction rs generalizing kept d with
  | nil => exact ⟨by simp [ticks, run, runLoops, ← hd], rfl⟩
  | cons r rs ih =>
    have hn' := hn
    rw [hd] at hn'
    obtain ⟨hb, ha⟩ := apart_of_distinct hn'
    obtain ⟨hrun, hshown⟩ := turns_at now (r.left+1) hd hb ha
    rw [ticks_cons, run_append, shown_append, clock_turns, hrun, hshown]
    have hnext : ((kept ++ (runLoop now (r.left+1) d r).2.2 ++ rs).map Resend.round).Nodup := by
      refine hn.sublist ?_
      rw [hd, List.map_append, List.map_append, List.map_append, List.map_cons, List.append_assoc]
      exact ((runLoop_kept (r.left+1) d r).append_right _).append_left _
    have hi := ih (d := { (runLoop now (r.left+1) d r).1 with
      resends := kept ++ (runLoop now (r.left+1) d r).2.2 ++ rs }) rfl hnext
    rw [runLoops_resends] at hi
    refine ⟨?_, by rw [hi.2]; rfl⟩
    rw [hi.1]
    simp [runLoops]

theorem resend_eq_ticks (hn : (d.resends.map Resend.round).Nodup) :
    d.resend now = (run (ticks d.resends) now d, shown (ticks d.resends) now d) := by
  obtain ⟨hrun, hshown⟩ := run_ticks now (List.nil_append d.resends).symm hn
  rw [hrun, hshown]
  rfl

/-! ## A whole turn of the program -/

/-- Acts within a millisecond lead from one state to another and show these events. -/
def Carried (now : Nat) (d d' : Discovery) (events : List Event) : Prop :=
  ∃ as, clock as now = now ∧ run as now d = d' ∧ shown as now d = events

theorem Carried.nothing : Carried now d d [] := ⟨[], rfl, rfl, rfl⟩

theorem Carried.trans {first second : List Event} (h : Carried now d d' first)
    (h' : Carried now d' d'' second) : Carried now d d'' (first++second) := by
  obtain ⟨as, hc, rfl, rfl⟩ := h
  obtain ⟨bs, hc', rfl, rfl⟩ := h'
  refine ⟨as++bs, ?_, ?_, ?_⟩
  · rw [clock_append, hc, hc']
  · rw [run_append, hc]
  · rw [shown_append, hc]

theorem carried_act {e : Act} (he : e.after now = now) (d : Discovery) :
    Carried now d (d.act now e).1 (d.act now e).2 :=
  ⟨[e], he, rfl, by simp [shown, history]⟩

theorem Carried.agrees {config : Config} {a : Account} {events : List Event}
    (h : Agrees config a now d) (hc : Carried now d d' events) :
    ∃ a', Agrees config a' now d' := by
  obtain ⟨as, hclock, rfl, -⟩ := hc
  exact ⟨_, hclock ▸ agrees_run as h⟩

theorem carried_hear (answer : Option (Endpoint × List UInt8)) (d : Discovery) :
    Carried now d (d.hear answer).1 (d.hear answer).2 := by
  cases answer with
  | none => exact .nothing
  | some answer => exact carried_act (e := .answer answer.1 answer.2) rfl d

/-- What is done ahead of the resend loops: a request, or nothing. -/
def ahead (requested : Bool) : Discovery → Discovery := if requested then sendDiscover else id

theorem carried_ahead (now : Nat) (requested : Bool) (d : Discovery) :
    Carried now d (ahead requested d) [] := by
  cases requested with
  | false => exact .nothing
  | true => exact carried_act (e := .request) rfl d

section
variable {config : Config} {a : Account}

theorem carried_resend (h : Agrees config a now d) :
    Carried now d (d.resend now).1 (d.resend now).2 := by
  rw [resend_eq_ticks h.distinct]
  exact ⟨ticks d.resends, clock_ticks d.resends, rfl, rfl⟩

theorem carried_ahead_resend (h : Agrees config a now d) (requested : Bool) :
    Carried now d ((ahead requested d).resend now).1 ((ahead requested d).resend now).2 := by
  have hr := carried_ahead now requested d
  obtain ⟨a', h'⟩ := hr.agrees h
  exact hr.trans (carried_resend h')

theorem carried_settleAfter (h : Agrees config a now d) (requested : Bool)
    (answer : Option (Endpoint × List UInt8)) :
    Carried now d (d.settleAfter (ahead requested) answer now).1
      (d.settleAfter (ahead requested) answer now).2 := by
  unfold settleAfter
  split
  · rename_i hf
    have hl : Carried now d { d with receiver := .listening } [] := by
      have hc : Carried now d d.listen [] := carried_act (e := .listen) rfl d
      rwa [listen, hf] at hc
    have hh := hl.trans (carried_hear answer _)
    obtain ⟨a', h'⟩ := hh.agrees h
    exact hh.trans (carried_ahead_resend h' requested)
  · exact (carried_ahead_resend h requested).trans (carried_hear answer _)

theorem carried_dispose (h : Agrees config a now d) :
    Carried now d (d.dispose now).1 (d.dispose now).2 := by
  have hd : Carried now d (d.dispose now).1 ((d.dispose now).2 ++ []) :=
    (carried_settleAfter h false none).trans (carried_act (e := .dispose) rfl _)
  rwa [List.append_nil] at hd

end

end LightBridge.Discovery
