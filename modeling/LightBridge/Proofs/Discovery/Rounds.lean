import LightBridge.Proofs.Discovery.Turns
import Mathlib.Data.List.Chain

/-!
# Rounds of a discovery

Each entry shows what the account before it expects. So a round has at most one
outcome, its pairs of probes are few and apart, and nothing that is left of an
earlier round shows. With punctual timers the times are exact.
-/

set_option autoImplicit false

namespace LightBridge.Discovery

variable {config : Config} {a : Account} {e : Entry} {now : Nat} {d : Discovery}

/-! ## One entry -/

/-- What an entry may show after an account. -/
structure Lawful (config : Config) (a : Account) (e : Entry) : Prop where
  single : e.outcomes.length ≤ 1
  /-- A bridge is found by the first well-formed answer in a round. -/
  found : ∀ bridge, .found bridge ∈ e.outcomes ↔
    a.running = true ∧ ∃ source bytes, e.act = .answer source bytes ∧
      Discovered.parse (Receiver.cut bytes) source.host = .ok bridge
  /-- None is found one wait after the last of all pairs. -/
  notFound : .notFound ∈ e.outcomes ↔
    a.running = true ∧ e.act = .tick a.round ∧ config.attempts ≤ a.pairs.length ∧
      a.due config.wait ≤ e.time
  probed : e.probes ≠ [] ↔
    a.running = true ∧ e.act = .tick a.round ∧ a.pairs.length < config.attempts ∧
      a.due config.wait ≤ e.time
  pair : e.probes ≠ [] → e.events = probePair
  /-- A turn of a loop whose round is over makes no difference. -/
  leftover : ∀ round, e.act = .tick round → ¬ (a.running = true ∧ round = a.round) →
    e.events = [] ∧ a.next e = a

theorem lawful_answer (now : Nat) (source : Endpoint) (bytes : List UInt8)
    (hrest : a.disposed = true → a.running = false) :
    Lawful config a
      ⟨now, .answer source bytes, a.expects config now (.answer source bytes)⟩ := by
  cases hp : Discovered.parse (Receiver.cut bytes) source.host with
  | error fault =>
    constructor <;> cases hd : a.disposed <;> simp [Account.expects, hp, hd]
  | ok bridge =>
    cases hr : a.running with
    | false => constructor <;> simp [Account.expects, hp, hr]
    | true =>
      have hd : a.disposed = false := by
        cases hd : a.disposed with
        | false => rfl
        | true => exact absurd (hr.symm.trans (hrest hd)) (by simp)
      constructor <;> simp [Account.expects, hp, hr, hd]
      exact fun _ => eq_comm

theorem lawful_tick (now round : Nat) :
    Lawful config a ⟨now, .tick round, a.expects config now (.tick round)⟩ := by
  by_cases hc : a.running = true ∧ a.round = round
  · obtain ⟨hr, rfl⟩ := hc
    by_cases hd : a.due config.wait ≤ now
    · rw [expects_due hr hd]
      by_cases hn : a.pairs.length < config.attempts
      · rw [if_pos hn]
        constructor <;> simp [hr, hd, hn, Nat.not_le.mpr hn]
      · rw [if_neg hn]
        constructor <;> simp [hr, hd, Nat.not_lt.mp hn]
    · rw [expects_idle fun _ _ => Nat.not_le.mp hd]
      constructor <;> simp [hr, hd]
  · rw [expects_idle fun hr he => absurd ⟨hr, he⟩ hc]
    have hn : a.next ⟨now, .tick round, []⟩ = a :=
      Account.next_silent rfl (by simp) (by simp) (by simp)
    have hc' : a.running = true → ¬ round = a.round := fun hr he => hc ⟨hr, he.symm⟩
    constructor <;> simp +contextual [hn, hc']

theorem lawful_act (h : Agrees config a now d) (e : Act) :
    Lawful config a ⟨now, e, (d.act now e).2⟩ := by
  rw [(agrees_act h e).1]
  cases e with
  | answer source bytes => exact lawful_answer now source bytes h.rest
  | tick round => exact lawful_tick now round
  | _ => constructor <;> simp [Account.expects]

/-- An outcome ends its round; any other entry has none. -/
theorem outcome_ends (h : Lawful config a e) :
    e.outcomes = [] ∨
      (∃ outcome, e.outcomes = [outcome]) ∧ a.running = true ∧
        (a.next e).running = false ∧ (a.next e).round = a.round := by
  cases ho : e.outcomes with
  | nil => exact .inl rfl
  | cons outcome rest =>
    right
    have hm : outcome ∈ e.outcomes := by simp [ho]
    have hs := h.single
    have hrest : rest = [] := by simpa [ho] using hs
    refine ⟨⟨outcome, by rw [hrest]⟩, ?_⟩
    cases outcome with
    | found bridge =>
      obtain ⟨hr, source, bytes, ha, -⟩ := (h.found bridge).mp hm
      simp [Account.next, ha, hr, ho]
    | notFound =>
      obtain ⟨hr, ha, -, -⟩ := h.notFound.mp hm
      simp [Account.next, ha, hr, ho]

/-- A round that starts has a new number. -/
theorem next_starts (a : Account) (e : Entry) :
    a.round ≤ (a.next e).round ∧
      (a.running = false → (a.next e).running = true → a.round < (a.next e).round) := by
  unfold Account.next
  split
  · split <;> simp +contextual
  all_goals simp +contextual

/-! ## The outcomes of a history -/

/-- The outcomes of a history, with the rounds that they end. -/
def reports : Account → List Entry → List (Nat × Outcome)
  | _, [] => []
  | a, e::h => e.outcomes.map (a.round, ·) ++ reports (a.next e) h

/-- Every entry of a history is lawful. -/
def AllLawful (config : Config) : Account → List Entry → Prop
  | _, [] => True
  | a, e::h => Lawful config a e ∧ AllLawful config (a.next e) h

theorem history_lawful (as : List Act) (h : Agrees config a now d) :
    AllLawful config a (history as now d) := by
  induction as generalizing a now d with
  | nil => trivial
  | cons e as ih => exact ⟨lawful_act h e, ih (agrees_act h e).2⟩

theorem reports_after {h : List Entry} (hl : AllLawful config a h) :
    ∀ p ∈ reports a h, a.round ≤ p.1 ∧ (a.running = false → a.round < p.1) := by
  induction h generalizing a with
  | nil => simp [reports]
  | cons e h ih =>
    obtain ⟨he, hl⟩ := hl
    intro p hp
    rcases List.mem_append.mp hp with hp | hp
    · rcases outcome_ends he with ho | ⟨⟨outcome, ho⟩, hr, -, -⟩
      · simp [ho] at hp
      · obtain rfl : p = (a.round, outcome) := by simpa [ho] using hp
        simp [hr]
    · have hn := next_starts a e
      have hi := ih hl p hp
      refine ⟨Nat.le_trans hn.1 hi.1, fun hr => ?_⟩
      cases hr' : (a.next e).running with
      | true => exact Nat.lt_of_lt_of_le (hn.2 hr hr') hi.1
      | false => exact Nat.lt_of_le_of_lt hn.1 (hi.2 hr')

/-- A round ends with at most one outcome. -/
theorem reports_distinct {h : List Entry} (hl : AllLawful config a h) :
    ((reports a h).map Prod.fst).Nodup := by
  induction h generalizing a with
  | nil => simp [reports]
  | cons e h ih =>
    obtain ⟨he, hl⟩ := hl
    rcases outcome_ends he with ho | ⟨⟨outcome, ho⟩, -, hn, hround⟩
    · simpa [reports, ho] using ih hl
    · have hlater : ∀ p ∈ reports (a.next e) h, p.1 ≠ a.round := by
        intro p hp he
        have hlt := (reports_after hl p hp).2 hn
        omega
      simpa [reports, ho] using ⟨fun o hm => hlater _ hm rfl, ih hl⟩

/-! ## The pairs of a round -/

structure Paced (config : Config) (a : Account) : Prop where
  few : a.pairs.length ≤ config.attempts
  apart : a.pairs.IsChain fun s t => s+config.wait ≤ t
  after : ∀ t ∈ a.pairs, a.since ≤ t

theorem since_le_due (h : ∀ t ∈ a.pairs, a.since ≤ t) (wait : Nat) : a.since ≤ a.due wait := by
  unfold Account.due
  split
  · exact Nat.le_refl _
  · rename_i t ht
    exact Nat.le_add_right_of_le (h t (List.mem_of_getLast? ht))

/-- A pair leaves only when the round may have one more and it is due. -/
theorem paced_next (h : Paced config a) (hl : Lawful config a e) : Paced config (a.next e) := by
  by_cases hp : e.probes = []
  · unfold Account.next
    split
    · split
      · exact h
      · constructor <;> simp
    · exact ⟨h.few, h.apart, h.after⟩
    · exact ⟨h.few, h.apart, h.after⟩
    · simpa [hp] using ⟨h.few, h.apart, h.after⟩
  · obtain ⟨-, ha, hf, hd⟩ := hl.probed.mp hp
    have hn : (a.next e).pairs = a.pairs ++ [e.time] ∧ (a.next e).since = a.since := by
      simp [Account.next, ha, hp]
    constructor
    · simp only [hn.1, List.length_append, List.length_singleton]
      omega
    · rw [hn.1, List.isChain_append]
      refine ⟨h.apart, List.isChain_singleton _, ?_⟩
      intro s hs t ht
      obtain rfl : t = e.time := by simpa using ht.symm
      simpa [Account.due, Option.mem_def.mp hs] using hd
    · intro t ht
      rw [hn.1] at ht
      rw [hn.2]
      rcases List.mem_append.mp ht with ht | ht
      · exact h.after t ht
      · rw [List.mem_singleton.mp ht]
        exact Nat.le_trans (since_le_due h.after _) hd

theorem initial_paced (config : Config) : Paced config .initial := by
  constructor <;> simp [Account.initial]

theorem paced_history {h : List Entry} (hp : Paced config a) (hl : AllLawful config a h) :
    Paced config (h.foldl Account.next a) := by
  induction h generalizing a with
  | nil => exact hp
  | cons e h ih => exact ih (paced_next hp hl.1) hl.2

/-! ## Punctual timers -/

/-- No time passes beyond the moment at which the loop of the round is due. -/
def Punctual (config : Config) : Account → List Entry → Prop
  | _, [] => True
  | a, e::h =>
    (∀ n, e.act = .elapse n → a.running = true → e.time+n ≤ a.due config.wait) ∧
      Punctual config (a.next e) h

/-- A pair left at the start of the round, and one after each wait. -/
structure Exact (config : Config) (a : Account) (now : Nat) : Prop where
  regular : a.pairs = List.range' a.since a.pairs.length config.wait
  soon : a.running = true → now ≤ a.due config.wait

theorem due_of_regular {wait n : Nat} (h : a.pairs = List.range' a.since n wait) :
    a.due wait = a.since + wait*n := by
  cases n with
  | zero => simp [Account.due, h]
  | succ n =>
    have hl : a.pairs.getLast? = some (a.since + wait*n) := by
      rw [h, List.range'_concat, List.getLast?_concat]
    rw [Account.due, hl]
    exact Nat.add_assoc _ _ _

/-- With punctual timers a pair leaves as soon as it is due. -/
theorem exact_next (h : Exact config a now) {act : Act} {events : List Event}
    (hl : Lawful config a ⟨now, act, events⟩)
    (hp : ∀ n, act = .elapse n → a.running = true → now+n ≤ a.due config.wait) :
    Exact config (a.next ⟨now, act, events⟩) (act.after now) := by
  by_cases hs : (⟨now, act, events⟩ : Entry).probes = []
  · cases act with
    | request =>
      simp only [Account.next, Act.after]
      split
      · exact h
      · exact ⟨rfl, fun _ => Nat.le_refl now⟩
    | halt => exact ⟨h.regular, fun hr => absurd hr (by simp [Account.next])⟩
    | dispose => exact ⟨h.regular, fun hr => absurd hr (by simp [Account.next])⟩
    | elapse n =>
      simp only [Account.next, hs, List.isEmpty_nil, if_true]
      exact ⟨h.regular, fun hr => hp n rfl (Bool.and_eq_true_iff.mp hr).1⟩
    | _ =>
      simp only [Account.next, hs, List.isEmpty_nil, if_true]
      exact ⟨h.regular, fun hr => h.soon (Bool.and_eq_true_iff.mp hr).1⟩
  · obtain ⟨hr, ha, -, hd⟩ := hl.probed.mp hs
    obtain rfl : act = .tick a.round := ha
    obtain rfl : events = probePair := hl.pair hs
    have hnow : now = a.since + config.wait*a.pairs.length := by
      rw [← due_of_regular h.regular]
      exact Nat.le_antisymm (h.soon hr) hd
    have hreg : a.pairs ++ [now] = List.range' a.since (a.pairs.length+1) config.wait := by
      rw [List.range'_concat, ← h.regular, ← hnow]
    rw [next_of_pair]
    constructor
    · simpa using hreg
    · intro _
      rw [due_of_regular hreg]
      simp only [Act.after]
      rw [Nat.mul_succ]
      omega

theorem exact_history (as : List Act) (hg : Agrees config a now d) (h : Exact config a now)
    (hp : Punctual config a (history as now d)) :
    Exact config ((history as now d).foldl Account.next a) (clock as now) := by
  induction as generalizing a now d with
  | nil => exact h
  | cons e as ih => exact ih (agrees_act hg e).2 (exact_next h (lawful_act hg e) hp.1) hp.2

theorem initial_exact (config : Config) (now : Nat) : Exact config .initial now :=
  ⟨rfl, fun hr => absurd hr (by simp [Account.initial])⟩

/-! ## Every interleaving -/

theorem next_disposed (a : Account) (e : Entry) :
    (a.next e).disposed = true ↔ a.disposed = true ∨ e.act = .dispose := by
  obtain ⟨time, act, events⟩ := e
  cases act <;> simp [Account.next]
  split <;> rfl

theorem disposed_history (as : List Act) (a : Account) (now : Nat) (d : Discovery) :
    ((history as now d).foldl Account.next a).disposed = true ↔
      a.disposed = true ∨ .dispose ∈ as := by
  induction as generalizing a now d with
  | nil => simp [history]
  | cons e as ih =>
    rw [history, List.foldl_cons, ih, next_disposed, List.mem_cons, or_assoc, eq_comm (a := e)]

/-- What is left of an earlier round does not end the round under way. -/
theorem wake_leftover (h : Agrees config a now d) {round : Nat}
    (hr : ¬ (d.active = true ∧ round = d.round)) :
    (d.wake now round).2 = [] ∧ (d.wake now round).1.active = d.active ∧
      (d.wake now round).1.round = d.round := by
  rw [h.active, h.round] at hr
  obtain ⟨he, hn⟩ := (lawful_act h (.tick round)).leftover round rfl hr
  have ha := (agrees_act h (.tick round)).2
  rw [hn] at ha
  exact ⟨he, ha.active.trans h.active.symm, ha.round.trans h.round.symm⟩

theorem request_starts (h : Agrees config a now d) :
    (a.running = false ∧ a.disposed = false →
      d.sendDiscover.active = true ∧ d.sendDiscover.round = d.round+1) ∧
    (¬ (a.running = false ∧ a.disposed = false) → d.sendDiscover = d) := by
  have hs : d.receiver = .stopped ↔ a.disposed = true := h.stopped
  constructor
  · rintro ⟨hr, hd⟩
    simp [sendDiscover, hs, h.active, hr, hd]
  · intro hn
    have hn' : d.receiver = .stopped ∨ d.active = true := by
      rw [hs, h.active]
      by_cases hr : a.running = true
      · exact .inr hr
      · exact .inl (by simpa using fun hd => hn ⟨by simpa using hr, hd⟩)
    simp [sendDiscover, hn']

/-- In a punctual round none is found exactly one wait after the last pair. -/
theorem exact_notFound (he : Exact config a now) (hp : Paced config a) {act : Act}
    {events : List Event} (hl : Lawful config a ⟨now, act, events⟩)
    (hn : .notFound ∈ (⟨now, act, events⟩ : Entry).outcomes) :
    now = a.since + config.wait*config.attempts := by
  obtain ⟨hr, -, hall, hd⟩ := hl.notFound.mp hn
  have hlen : a.pairs.length = config.attempts := Nat.le_antisymm hp.few hall
  have hdue := due_of_regular he.regular
  rw [hlen] at hdue
  exact hdue ▸ Nat.le_antisymm (he.soon hr) hd

/-- In every interleaving a round starts on request when none is under way and
the discovery is not disposed of. It ends with at most one outcome, and that is
the one its answers and probes call for; its probes leave in pairs, at most as
many as there are attempts and at least one wait apart; and loops of earlier
rounds make no difference. With punctual timers its times are exact. The turns
of the program are such interleavings. -/
theorem rounds_settled (config : Config) (acts : List Act) :
    let d := run acts 0 (start config)
    let h := history acts 0 (start config)
    let now := clock acts 0
    let a := tell h
    (d.active = a.running ∧ d.round = a.round) ∧
    ((d.active = false ∧ .dispose ∉ acts →
        d.sendDiscover.active = true ∧ d.sendDiscover.round = d.round+1) ∧
      (¬ (d.active = false ∧ .dispose ∉ acts) → d.sendDiscover = d)) ∧
    (∀ act, Lawful config a ⟨now, act, (d.act now act).2⟩ ∧
      ((⟨now, act, (d.act now act).2⟩ : Entry).outcomes ≠ [] → (d.act now act).1.active = false)) ∧
    (∀ round, ¬ (d.active = true ∧ round = d.round) →
      (d.wake now round).2 = [] ∧ (d.wake now round).1.active = d.active ∧
        (d.wake now round).1.round = d.round) ∧
    ((reports .initial h).map Prod.fst).Nodup ∧
    Paced config a ∧
    (Punctual config .initial h →
      a.pairs = List.range' a.since a.pairs.length config.wait ∧
      (d.active = true → now ≤ a.since + config.wait*config.attempts) ∧
      ∀ act, .notFound ∈ (⟨now, act, (d.act now act).2⟩ : Entry).outcomes →
        now = a.since + config.wait*config.attempts) ∧
    (∀ requested answer, Carried now d (d.settleAfter (ahead requested) answer now).1
      (d.settleAfter (ahead requested) answer now).2) ∧
    Carried now d (d.dispose now).1 (d.dispose now).2 := by
  intro d h now a
  have hstart := start_agrees config 0
  have hagree : Agrees config a now d := agrees_run acts hstart
  have hlawful : AllLawful config .initial h := history_lawful acts hstart
  have hpaced : Paced config a := paced_history (initial_paced config) hlawful
  have hdisposed : a.disposed = false ↔ .dispose ∉ acts := by
    have hd : a.disposed = true ↔ .dispose ∈ acts :=
      (disposed_history acts .initial 0 (start config)).trans (by simp [Account.initial])
    rw [← hd, Bool.not_eq_true]
  refine ⟨⟨hagree.active, hagree.round⟩, ?_, ?_, ?_, reports_distinct hlawful, hpaced, ?_, ?_,
    carried_dispose hagree⟩
  · rw [hagree.active, ← hdisposed]
    exact request_starts hagree
  · intro act
    have hl := lawful_act hagree act
    refine ⟨hl, fun ho => ?_⟩
    rcases outcome_ends hl with hn | ⟨-, -, hend, -⟩
    · exact absurd hn ho
    · rw [(agrees_act hagree act).2.active]
      exact hend
  · intro round hr
    exact wake_leftover hagree hr
  · intro hp
    have hexact : Exact config a now := exact_history acts hstart (initial_exact config 0) hp
    refine ⟨hexact.regular, fun hr => ?_, fun act hn => ?_⟩
    · have hsoon := hexact.soon (hagree.active ▸ hr)
      rw [due_of_regular hexact.regular] at hsoon
      exact Nat.le_trans hsoon (Nat.add_le_add_left (Nat.mul_le_mul_left _ hpaced.few) _)
    · exact exact_notFound hexact hpaced (lawful_act hagree act) hn
  · intro requested answer
    exact carried_settleAfter hagree requested answer

/-- One try, unanswered, after a round that was halted: the loop of the halted
round has its turn when the next round is under way. -/
def soleTry : List Act :=
  [.request, .tick 1, .halt, .request, .tick 2, .elapse 10, .tick 1]

theorem soleTry_settled :
    let config : Config := ⟨⟨.v4 127 0 0 1, discoveryPort⟩, 10000, 1⟩
    let d := run soleTry 0 (start config)
    let h := history soleTry 0 (start config)
    Punctual config .initial h ∧ (d.act 10 (.tick 2)).2 = [.ended .notFound] ∧
      (tell h).pairs = [0] ∧ 10 = (tell h).since + config.wait*config.attempts := by
  intro config d h
  have hp : Punctual config .initial h := by
    refine ⟨nofun, nofun, nofun, nofun, nofun, ?_, nofun, trivial⟩
    rintro n ⟨⟩ -
    decide +kernel
  have hs := rounds_settled config soleTry
  refine ⟨hp, by decide +kernel, by decide +kernel, ?_⟩
  exact (hs.2.2.2.2.2.2.1 hp).2.2 (.tick 2) (by decide +kernel)

end LightBridge.Discovery
