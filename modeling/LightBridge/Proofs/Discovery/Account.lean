import LightBridge.Proofs.Discovery.Act
import Mathlib.Data.List.Nodup

/-!
# The account of a discovery

What a discovery has done and shown tells how many rounds there were, whether
the last one is under way, when it started and when its probes left. From this
account alone follows what the next act shows: loops that rounds have left
behind make no difference.
-/

set_option autoImplicit false

namespace LightBridge.Discovery

/-- What a history tells of the rounds. -/
structure Account where
  /-- The number of rounds so far. -/
  round : Nat
  /-- Whether the last round is under way. -/
  running : Bool
  /-- When the last round started. -/
  since : Nat
  /-- When the pairs of probes of the last round left. -/
  pairs : List Nat
  disposed : Bool
  deriving DecidableEq, Repr

namespace Entry

def outcomes (e : Entry) : List Outcome := e.events.filterMap Event.ended?

def probes (e : Entry) : List String := e.events.filterMap Event.probed?

variable (now : Nat) (e : Act)

@[simp] theorem outcomes_nil : (⟨now, e, []⟩ : Entry).outcomes = [] := rfl

@[simp] theorem probes_nil : (⟨now, e, []⟩ : Entry).probes = [] := rfl

@[simp] theorem outcomes_noticed (n : Notice) :
    (⟨now, e, [.noticed n]⟩ : Entry).outcomes = [] := rfl

@[simp] theorem probes_noticed (n : Notice) : (⟨now, e, [.noticed n]⟩ : Entry).probes = [] := rfl

@[simp] theorem outcomes_ended (outcome : Outcome) :
    (⟨now, e, [.ended outcome]⟩ : Entry).outcomes = [outcome] := rfl

@[simp] theorem probes_ended (outcome : Outcome) :
    (⟨now, e, [.ended outcome]⟩ : Entry).probes = [] := rfl

@[simp] theorem outcomes_pair : (⟨now, e, probePair⟩ : Entry).outcomes = [] := rfl

@[simp] theorem probes_pair :
    (⟨now, e, probePair⟩ : Entry).probes = [Wire.probe3, Wire.probe6] := rfl

end Entry

namespace Account

def initial : Account := ⟨0, false, 0, [], false⟩

/-- A round starts on request, if none is under way. It ends when it is halted,
when the discovery is disposed of, or with an outcome. -/
def next (a : Account) (e : Entry) : Account :=
  match e.act with
  | .request =>
    if a.running || a.disposed then a
    else { a with round := a.round+1, running := true, since := e.time, pairs := [] }
  | .halt => { a with running := false }
  | .dispose => { a with running := false, disposed := true }
  | _ =>
    { a with
      running := a.running && e.outcomes.isEmpty
      pairs := if e.probes.isEmpty then a.pairs else a.pairs ++ [e.time] }

/-- When the next pair of the round is due, or the end of its wait. -/
def due (wait : Nat) (a : Account) : Nat :=
  match a.pairs.getLast? with
  | none => a.since
  | some t => t+wait

def isDue (wait now : Nat) (a : Account) : Bool := a.running && decide (a.due wait ≤ now)

/-- What an act has to show. -/
def expects (config : Config) (a : Account) (now : Nat) : Act → List Event
  | .answer source bytes =>
    if a.disposed then []
    else
      match Discovered.parse (Receiver.cut bytes) source.host with
      | .error fault => [.noticed (.unexpectedAnswer source fault)]
      | .ok bridge => if a.running then [.ended (.found bridge)] else []
  | .tick round =>
    if a.isDue config.wait now && round == a.round then
      if a.pairs.length < config.attempts then probePair else [.ended .notFound]
    else []
  | _ => []

theorem next_silent {a : Account} {e : Entry} (h : e.events = [])
    (hr : e.act ≠ .request) (hh : e.act ≠ .halt) (hd : e.act ≠ .dispose) : a.next e = a := by
  obtain ⟨time, act, events⟩ := e
  obtain rfl : events = [] := h
  cases act <;> simp_all [next]

end Account

/-- The account of a history. -/
def tell (h : List Entry) : Account := h.foldl Account.next .initial

/-! ## The state that an account tells -/

/-- The loop of the round under way has as many pairs left as the account leaves
it, and wakes when the account says. -/
structure Serves (config : Config) (a : Account) (now : Nat) (r : Resend) : Prop where
  round : r.round = a.round
  left : r.left + a.pairs.length = config.attempts
  timer : ∀ t, now ≤ t → (r.due ≤ t ↔ a.due config.wait ≤ t)

structure Agrees (config : Config) (a : Account) (now : Nat) (d : Discovery) : Prop where
  settings : d.config = config
  active : d.active = a.running
  round : d.round = a.round
  stopped : d.receiver = .stopped ↔ a.disposed = true
  rest : a.disposed = true → a.running = false
  distinct : (d.resends.map Resend.round).Nodup
  numbered : ∀ r ∈ d.resends, r.round ≤ d.round
  served : a.running = true → ∃ r ∈ d.resends, Serves config a now r

variable {config : Config} {a : Account} {now : Nat} {d : Discovery}

theorem start_agrees (config : Config) (now : Nat) :
    Agrees config .initial now (start config) := by
  constructor <;> simp [start, Account.initial]

theorem Serves.later {r : Resend} (h : Serves config a now r) {t : Nat} (ht : now ≤ t) :
    Serves config a t r :=
  ⟨h.round, h.left, fun u hu => h.timer u (Nat.le_trans ht hu)⟩

theorem Agrees.later (h : Agrees config a now d) {t : Nat} (ht : now ≤ t) :
    Agrees config a t d :=
  { h with
    served := fun hr =>
      have ⟨r, hm, hs⟩ := h.served hr
      ⟨r, hm, hs.later ht⟩ }

/-- A round that ends leaves its loop behind. -/
theorem Agrees.ended (h : Agrees config a now d) :
    Agrees config { a with running := false } now d.stopResend :=
  { h with
    active := rfl
    rest := fun _ => rfl
    served := fun hr => nomatch hr }

theorem agrees_request (h : Agrees config a now d) :
    Agrees config (a.next ⟨now, .request, []⟩) now d.sendDiscover := by
  have hc : (d.receiver = .stopped || d.active) = (a.running || a.disposed) := by
    rw [h.active, Bool.or_comm]
    congr 1
    simp [h.stopped]
  cases hs : a.running || a.disposed with
  | true =>
    rw [hs] at hc
    simpa [Account.next, sendDiscover, hs, hc] using h
  | false =>
    rw [hs] at hc
    have ha : a.next ⟨now, .request, []⟩ =
        { a with round := a.round+1, running := true, since := now, pairs := [] } := by
      simp [Account.next, hs]
    have hd : d.sendDiscover = { d with
        round := d.round+1
        active := true
        resends := d.resends ++ [⟨d.round+1, d.config.attempts, 0⟩] } := by
      simp only [sendDiscover, hc, Bool.false_eq_true, if_false]
    have hfresh : ∀ r ∈ d.resends, r.round ≠ d.round+1 := by
      intro r hr
      have hn := h.numbered r hr
      omega
    rw [ha, hd]
    constructor
    · exact h.settings
    · rfl
    · simp [h.round]
    · exact h.stopped
    · intro hdis
      simp only [Bool.or_eq_false_iff] at hs
      exact absurd hdis (by simp [hs.2])
    · rw [List.map_append, List.nodup_append]
      simpa using ⟨h.distinct, hfresh⟩
    · intro r hr
      rcases List.mem_append.mp hr with hr | hr
      · exact Nat.le_succ_of_le (h.numbered r hr)
      · exact Nat.le_of_eq (congrArg Resend.round (List.mem_singleton.mp hr))
    · intro _
      refine ⟨⟨d.round+1, d.config.attempts, 0⟩, by simp, ?_⟩
      constructor
      · simp [h.round]
      · simp [h.settings]
      · intro t ht
        simpa [Account.due] using ht

theorem agrees_dispose (h : Agrees config a now d) :
    Agrees config (a.next ⟨now, .dispose, []⟩) now d.stop := by
  constructor
  · exact h.settings
  · rfl
  · exact h.round
  · simp [stop, Account.next]
  · exact fun _ => rfl
  · simp [stop]
  · simp [stop]
  · exact fun hr => nomatch hr

theorem agrees_listen (h : Agrees config a now d) : Agrees config a now d.listen := by
  have hl := h.stopped
  unfold listen
  split
  · rename_i hf
    exact { h with stopped := by simpa [hf] using hl }
  · exact h

theorem hear_stopped (hs : d.receiver = .stopped) (source : Endpoint) (bytes : List UInt8) :
    d.hear (some (source, bytes)) = (d, []) := by
  simp [hear, hs]

theorem hear_open (hs : d.receiver ≠ .stopped) (source : Endpoint) (bytes : List UInt8) :
    d.hear (some (source, bytes)) = d.receive source (Receiver.cut bytes) := by
  unfold hear
  split <;> simp_all

theorem agrees_answer (h : Agrees config a now d) (source : Endpoint) (bytes : List UInt8) :
    (d.hear (some (source, bytes))).2 = a.expects config now (.answer source bytes) ∧
    Agrees config (a.next ⟨now, .answer source bytes, (d.hear (some (source, bytes))).2⟩) now
      (d.hear (some (source, bytes))).1 := by
  by_cases hs : d.receiver = .stopped
  · rw [hear_stopped hs]
    have hd := h.stopped.mp hs
    refine ⟨by simp [Account.expects, hd], ?_⟩
    rwa [Account.next_silent rfl (by simp) (by simp) (by simp)]
  · have hd : a.disposed = false := by simpa [h.stopped] using hs
    rw [hear_open hs]
    simp only [receive, Account.expects, hd, Bool.false_eq_true, if_false, h.active]
    cases Discovered.parse (Receiver.cut bytes) source.host with
    | error fault =>
      refine ⟨rfl, ?_⟩
      have hn : a.next ⟨now, .answer source bytes, [.noticed (.unexpectedAnswer source fault)]⟩ =
          a := by
        simp [Account.next]
      rwa [hn]
    | ok bridge =>
      cases hr : a.running with
      | true =>
        refine ⟨rfl, ?_⟩
        have hn : a.next ⟨now, .answer source bytes, [.ended (.found bridge)]⟩ =
            { a with running := false } := by
          simp [Account.next]
        simp only [if_true, hn]
        exact h.ended
      | false =>
        refine ⟨rfl, ?_⟩
        simp only [Bool.false_eq_true, if_false]
        rwa [Account.next_silent rfl (by simp) (by simp) (by simp)]

/-! ## A turn of a loop -/

theorem apart_of_distinct {before after : List Resend} {r : Resend}
    (h : ((before ++ r::after).map Resend.round).Nodup) :
    (∀ s ∈ before, s.round ≠ r.round) ∧ ∀ s ∈ after, s.round ≠ r.round := by
  rw [List.map_append, List.map_cons, List.nodup_append, List.nodup_cons] at h
  obtain ⟨-, ⟨ha, -⟩, hb⟩ := h
  constructor
  · intro s hs
    exact hb _ (List.mem_map_of_mem hs) _ (by simp)
  · intro s hs he
    exact ha (he ▸ List.mem_map_of_mem hs)

/-- The loop of the round under way is the only one of its round. -/
theorem Agrees.serves (h : Agrees config a now d) (hr : a.running = true) {r : Resend}
    (hm : r ∈ d.resends) (he : r.round = a.round) : Serves config a now r := by
  obtain ⟨s, hs, hserves⟩ := h.served hr
  have heq : s = r := List.inj_on_of_nodup_map h.distinct hs hm (hserves.round.trans he.symm)
  exact heq ▸ hserves

theorem Agrees.current (h : Agrees config a now d) (round : Nat) :
    d.isCurrent round = (a.running && a.round == round) := by
  rw [isCurrent, h.active, h.round]

/-- A loop that is asleep, or whose round is over, makes no difference. -/
theorem expects_idle {round : Nat}
    (h : a.running = true → a.round = round → now < a.due config.wait) :
    a.expects config now (.tick round) = [] := by
  have hn : ¬ (a.isDue config.wait now && round == a.round) = true := by
    simp only [Account.isDue, Bool.and_eq_true, decide_eq_true_eq, beq_iff_eq]
    rintro ⟨⟨hr, hd⟩, he⟩
    exact Nat.not_le.mpr (h hr he.symm) hd
  simp only [Account.expects, if_neg hn]

theorem expects_due (hr : a.running = true) (hd : a.due config.wait ≤ now) :
    a.expects config now (.tick a.round) =
      if a.pairs.length < config.attempts then probePair else [.ended .notFound] := by
  simp [Account.expects, Account.isDue, hr, hd]

theorem next_of_pair (a : Account) (now round : Nat) :
    a.next ⟨now, .tick round, probePair⟩ = { a with pairs := a.pairs ++ [now] } := by
  simp [Account.next]

theorem next_of_outcome (a : Account) (now round : Nat) (outcome : Outcome) :
    a.next ⟨now, .tick round, [.ended outcome]⟩ = { a with running := false } := by
  simp [Account.next]

/-- The other loops stay as they are when the loop of a round has had its turn. -/
theorem Agrees.relayed (h : Agrees config a now d) {before after kept : List Resend} {r : Resend}
    (hd : d.resends = before ++ r::after) (hk : kept.Sublist [r])
    (hr : a.running = true → a.round = r.round → kept = [r]) :
    Agrees config a now { d with resends := before ++ kept ++ after } := by
  have hsub : (before ++ kept ++ after).Sublist d.resends := by
    rw [hd, List.append_assoc]
    exact (hk.append_right after).append_left before
  refine { h with
    distinct := h.distinct.sublist (hsub.map _)
    numbered := fun s hs => h.numbered s (hsub.subset hs)
    served := ?_ }
  intro hrun
  obtain ⟨s, hs, hserves⟩ := h.served hrun
  refine ⟨s, ?_, hserves⟩
  by_cases he : a.round = r.round
  · rw [hr hrun he, List.append_assoc, List.singleton_append, ← hd]
    exact hs
  · have hne : s ≠ r := fun hsr => he (hsr ▸ hserves.round.symm)
    simp only [hd, List.mem_append, List.mem_cons] at hs ⊢
    tauto

/-- The next pair of the round under way left, and its loop sleeps for one wait. -/
theorem Agrees.paired (h : Agrees config a now d) {before after : List Resend} {r : Resend}
    {left : Nat} (hd : d.resends = before ++ r::after) (hr : r.round = a.round)
    (hrun : a.running = true) (hleft : r.left = left+1) :
    Agrees config { a with pairs := a.pairs ++ [now] } now
      { d with
        resends := before ++ [{ r with left, due := now+config.wait }] ++ after } := by
  have hm : r ∈ d.resends := by simp [hd]
  have hs := h.serves hrun hm hr
  have hmap : (before ++ [{ r with left, due := now+config.wait }] ++ after).map Resend.round =
      d.resends.map Resend.round := by simp [hd]
  refine { h with distinct := ?_, numbered := ?_, served := ?_ }
  · exact hmap ▸ h.distinct
  · intro s hs
    have hmem : s.round ∈ d.resends.map Resend.round := hmap ▸ List.mem_map_of_mem hs
    obtain ⟨t, ht, he⟩ := List.mem_map.mp hmem
    exact he ▸ h.numbered t ht
  · intro _
    refine ⟨{ r with left, due := now+config.wait }, by simp, ?_⟩
    constructor
    · exact hr
    · have hl := hs.left
      simp only [List.length_append, List.length_singleton]
      omega
    · intro t _
      simp [Account.due]

theorem agrees_tick (h : Agrees config a now d) (round : Nat) :
    (d.wake now round).2 = a.expects config now (.tick round) ∧
    Agrees config (a.next ⟨now, .tick round, (d.wake now round).2⟩) now (d.wake now round).1 := by
  have silent : ∀ n, a.next ⟨now, .tick n, []⟩ = a :=
    fun n => Account.next_silent rfl (by simp) (by simp) (by simp)
  by_cases hm : ∃ r ∈ d.resends, r.round = round
  · obtain ⟨r, hm, rfl⟩ := hm
    obtain ⟨before, after, hd⟩ := List.append_of_mem hm
    have hdist := h.distinct
    rw [hd] at hdist
    obtain ⟨hb, ha⟩ := apart_of_distinct hdist
    rw [wake_at hd hb ha]
    rcases runLoop_one now d r with ⟨ht, hl⟩ | ⟨ht, hc, hl⟩ | ⟨ht, hc, hz, hl⟩ |
      ⟨left, ht, hc, hleft, hl⟩ <;> rw [hl]
    · -- The loop is asleep.
      have hi : a.expects config now (.tick r.round) = [] := by
        apply expects_idle
        intro hr he
        have hs := h.serves hr hm he.symm
        exact Nat.not_le.mp fun hle =>
          Nat.not_le.mpr ht ((hs.timer now (Nat.le_refl now)).mpr hle)
      rw [hi, silent]
      exact ⟨rfl, h.relayed hd (List.Sublist.refl _) fun _ _ => rfl⟩
    · -- The round of the loop is over, and the loop is gone.
      have hno : a.running = true → a.round = r.round → False := by
        intro hr he
        simp [h.current, hr, he] at hc
      rw [expects_idle fun hr he => (hno hr he).elim, silent]
      exact ⟨rfl, h.relayed hd (List.nil_sublist _) fun hr he => (hno hr he).elim⟩
    · -- The last wait of the round is over.
      simp only [h.current, Bool.and_eq_true, beq_iff_eq] at hc
      obtain ⟨hrun, he⟩ := hc
      have hs := h.serves hrun hm he.symm
      have hdue := (hs.timer now (Nat.le_refl now)).mp ht
      have hall : ¬ a.pairs.length < config.attempts := by
        have hl := hs.left
        omega
      rw [← he, expects_due hrun hdue, if_neg hall, next_of_outcome]
      refine ⟨rfl, ?_⟩
      exact h.ended.relayed hd (List.nil_sublist _) fun hr => nomatch hr
    · -- One more pair leaves.
      simp only [h.current, Bool.and_eq_true, beq_iff_eq] at hc
      obtain ⟨hrun, he⟩ := hc
      have hs := h.serves hrun hm he.symm
      have hdue := (hs.timer now (Nat.le_refl now)).mp ht
      have hmore : a.pairs.length < config.attempts := by
        have hl := hs.left
        omega
      rw [h.settings, ← he, expects_due hrun hdue, if_pos hmore, next_of_pair]
      exact ⟨rfl, he ▸ h.paired hd he.symm hrun hleft⟩
  · have hn : ∀ r ∈ d.resends, r.round ≠ round := fun r hr he => hm ⟨r, hr, he⟩
    have hi : a.expects config now (.tick round) = [] := by
      apply expects_idle
      intro hr he
      obtain ⟨s, hs, hserves⟩ := h.served hr
      exact absurd (hserves.round.trans he) (hn s hs)
    rw [wake_absent hn, hi, silent]
    exact ⟨rfl, h⟩

/-! ## Any act -/

/-- An act shows what the account expects, and the account goes on telling the state. -/
theorem agrees_act (h : Agrees config a now d) (e : Act) :
    (d.act now e).2 = a.expects config now e ∧
    Agrees config (a.next ⟨now, e, (d.act now e).2⟩) (e.after now) (d.act now e).1 := by
  cases e with
  | request => exact ⟨rfl, agrees_request h⟩
  | halt => exact ⟨rfl, h.ended⟩
  | dispose => exact ⟨rfl, agrees_dispose h⟩
  | listen =>
    have hn : a.next ⟨now, .listen, []⟩ = a :=
      Account.next_silent rfl (by simp) (by simp) (by simp)
    exact ⟨rfl, hn.symm ▸ agrees_listen h⟩
  | answer source bytes => exact agrees_answer h source bytes
  | tick round => exact agrees_tick h round
  | elapse n =>
    have hn : a.next ⟨now, .elapse n, []⟩ = a :=
      Account.next_silent rfl (by simp) (by simp) (by simp)
    exact ⟨rfl, hn.symm ▸ h.later (Nat.le_add_right now n)⟩

theorem agrees_run (as : List Act) (h : Agrees config a now d) :
    Agrees config ((history as now d).foldl Account.next a) (clock as now) (run as now d) := by
  induction as generalizing a now d with
  | nil => exact h
  | cons e as ih => exact ih (agrees_act h e).2

end LightBridge.Discovery
