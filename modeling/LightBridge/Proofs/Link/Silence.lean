import LightBridge.Proofs.Link.Act

/-!
# What a link does not tell

That a bridge is reached or lost is told by its look-up alone: no log line of
the session or of an operation says so. Nor does anything that happens at a
link give it a session or take it away.
-/

set_option autoImplicit false

namespace LightBridge

namespace Notice

/-- Whether a log line says that a bridge is reached or lost. -/
def tellsReach : Notice → Bool
  | online .. | offline .. => true
  | _ => false

def Silent (ns : List Notice) : Prop := ∀ n ∈ ns, n.tellsReach = false

theorem Silent.append {ns ms : List Notice} (h : Silent ns) (h' : Silent ms) :
    Silent (ns ++ ms) :=
  List.forall_mem_append.mpr ⟨h, h'⟩

theorem silent_nil : Silent [] := List.forall_mem_nil _

theorem silent_one {n : Notice} (h : n.tellsReach = false) : Silent [n] :=
  List.forall_mem_singleton.mpr h

theorem Silent.filter {ns : List Notice} (h : Silent ns) : ns.filter tellsReach = [] :=
  List.filter_eq_nil_iff.mpr fun n hn => by simp [h n hn]

end Notice

open Notice

/-! ## The session -/

namespace Session

theorem pruneLost_silent (now : Nat) (s : Session) : Silent (s.pruneLost now).2 := by
  intro n hn
  obtain ⟨sequence, _, rfl⟩ := List.mem_map.mp hn
  rfl

theorem nextHeader_silent (now : Nat) (s : Session) : Silent (s.nextHeader now).2.2 := by
  unfold nextHeader
  split
  · exact pruneLost_silent now _
  · exact silent_nil

theorem giveUp_silent (s : Session) : Silent s.giveUp.2 := by
  unfold giveUp
  split
  · exact silent_one rfl
  · exact silent_nil

theorem keepAlive_silent (now : Nat) (s : Session) : Silent (s.keepAlive now).2.2 := by
  have h := (pruneLost_silent now s).append (giveUp_silent (s.pruneLost now).1)
  unfold keepAlive
  dsimp only
  split <;> exact h

theorem apply_silent (now : Nat) (s : Session) (p : Packet) : Silent (s.apply now p).2.2 := by
  cases p with
  | sessionId mac sid1 sid2 =>
    simp only [apply]
    split
    · exact pruneLost_silent now _
    · exact silent_one rfl
  | registered mac | echo mac =>
    simp only [apply]
    split
    · exact silent_nil
    · exact silent_one rfl
  | acknowledged sequence status =>
    simp only [apply]
    split
    · exact silent_nil
    · exact silent_one rfl

theorem receive_silent (now : Nat) (s : Session) (bs : List UInt8) :
    Silent (s.receive now bs).2.2 := by
  unfold receive
  split
  · exact apply_silent now s _
  · exact silent_one rfl

end Session

/-! ## The link -/

namespace Link

theorem offer_silent (l : Link) (f : Frame) : Silent (l.offer f).2 := by
  unfold offer
  split
  · exact silent_nil
  · exact silent_one rfl

theorem keepAlive_silent (wall : Nat) (l : Link) : Silent (l.keepAlive wall).2 := by
  unfold keepAlive
  split
  · exact silent_nil
  · exact (Session.keepAlive_silent wall _).append (offer_silent _ _)

theorem receive_silent (wall : Nat) (l : Link) (bs : List UInt8) :
    Silent (l.receive wall bs).2 := by
  unfold receive
  split
  · exact silent_nil
  · rename_i s _
    have h := s.receive_silent wall bs
    split <;> rename_i hr <;> rw [hr] at h
    · exact h
    · exact h.append (offer_silent _ _)

theorem nextHeader_silent (wall : Nat) (l : Link) : Silent (l.nextHeader wall).2.2 := by
  unfold nextHeader
  split
  · exact silent_nil
  · exact Session.nextHeader_silent wall _

theorem send_silent (wall : Nat) (b : Bulb) (c : Command) (l : Link) :
    Silent (l.send wall b c).2.1 := by
  have h := l.nextHeader_silent wall
  unfold send
  split
  · exact silent_nil
  · split <;> rename_i hn <;> rw [hn] at h
    · exact h.append (silent_one rfl)
    · exact h

theorem hear_silent (wall : Nat) (datagram : Option (List UInt8)) (l : Link) :
    Silent (l.hear wall datagram).2 := by
  have hopened : ∀ receiver, Silent (keepAlive wall { l with receiver }).2 :=
    fun receiver => keepAlive_silent wall _
  unfold hear
  cases l.receiver with
  | fresh =>
    dsimp only
    split
    · exact (hopened .listening).append (receive_silent wall _ _)
    · exact hopened .listening
  | listening | stopped =>
    dsimp only
    split
    · exact silent_nil.append (receive_silent wall _ _)
    · exact silent_nil

/-! ## Whether there is a session -/

theorem take_hasSession (wall : Nat) (l : Link) (i : Session.Input) :
    (l.take wall i).session.isSome = l.session.isSome := by
  rw [take_session, Option.isSome_map]

theorem hear_hasSession (wall : Nat) (datagram : Option (List UInt8)) (l : Link) :
    (l.hear wall datagram).1.session.isSome = l.session.isSome := by
  have hopened : ∀ receiver,
      (keepAlive wall { l with receiver }).1.session.isSome = l.session.isSome :=
    fun receiver => take_hasSession wall { l with receiver } .keepAlive
  unfold hear
  cases l.receiver with
  | fresh =>
    dsimp only
    split
    · exact (take_hasSession wall _ (.packet _)).trans (hopened .listening)
    · exact hopened .listening
  | listening | stopped =>
    dsimp only
    split
    · exact take_hasSession wall l (.packet _)
    · rfl

theorem run_hasSession (as : List Act) (l : Link) :
    (run as l).session.isSome = l.session.isSome := by
  rw [run_session, Option.isSome_map]

end Link

/-! ## An operation -/

namespace Progress

theorem foldl_silent (wall : Nat) (b : Bulb) (ms : List Move) {p : Progress}
    (h : Silent p.notices) : Silent (ms.foldl (move wall b) p).notices := by
  induction ms generalizing p with
  | nil => exact h
  | cons m ms ih =>
    refine ih ?_
    unfold move
    split
    · exact h
    · split
      · exact h
      · rename_i c _
        have hs := p.link.send_silent wall b c
        split <;> rename_i he <;> rw [he] at hs <;> exact h.append hs

theorem carryOut_silent (wall : Nat) (b : Bulb) (plan : Plan) {p : Progress}
    (h : Silent p.notices) : Silent (p.carryOut wall b plan).notices := by
  cases plan with
  | unsupported operation => exact h.append (silent_one rfl)
  | noSession => exact h.append (silent_one rfl)
  | moves stretches =>
    rw [carryOut, stretches_eq]
    exact foldl_silent wall b _ h

end Progress

theorem Light.operate_silent (wall : Nat) (light : Light) (l : Link) (operation : Operation) :
    Silent (light.operate wall l operation).notices :=
  Progress.carryOut_silent wall light.bulb _ silent_nil

end LightBridge
