import LightBridge.Wire
import Mathlib.Algebra.Order.Ring.Int

/-!
# The checksums of session commands

A session command says who speaks, what is asked of which zone, and how this
adds up. A bridge that sums what it got finds out when a byte of it has
changed. Colours have a sum of their own, which is at times the other one.
-/

set_option autoImplicit false

namespace LightBridge.Wire

/-! ## The plain checksum -/

/-- The places from the tag to the end of the command. -/
def body : List (Fin 22) := [10, 11, 12, 13, 14, 15, 16, 17, 18]

def plainSum (p : Block) : Nat := (body.map fun i => (p.get i).toNat).sum + (p.get 19).toNat

/-- The last byte is the sum of the body and the zone modulo 256. -/
def Intact (p : Block) : Prop := (p.get 21).toNat = plainSum p % 256

theorem toNat_foldl_add (bs : List UInt8) (b : UInt8) :
    (bs.foldl (· + ·) b).toNat = (b.toNat + (bs.map UInt8.toNat).sum)%256 := by
  induction bs generalizing b with
  | nil => exact (Nat.mod_eq_of_lt b.toNat_lt).symm
  | cons c bs ih =>
    rw [List.foldl_cons, ih, UInt8.toNat_add, List.map_cons, List.sum_cons]
    omega

theorem covered_eq (p : Block) : covered p = body.map p.get := rfl

theorem toNat_checksum (p : Block) : (checksum p).toNat = plainSum p % 256 := by
  rw [checksum, toNat_foldl_add, Nat.add_comm, covered_eq, List.map_map]
  rfl

theorem intact_iff {p : Block} : Intact p ↔ p.get 21 = checksum p := by
  rw [Intact, ← toNat_checksum, UInt8.toNat_inj]

theorem withSum_last (p : Block) (sum : UInt8) : (withSum p sum).get 21 = sum :=
  Vector.getElem_set_self (by decide)

/-- The checksum is not covered by itself. -/
theorem withSum_body (p : Block) (sum : UInt8) : covered (withSum p sum) = covered p := by
  simp [covered, withSum]

theorem withSum_zone (p : Block) (sum : UInt8) : (withSum p sum).get 19 = p.get 19 :=
  Vector.getElem_set_ne (by decide) (by decide) (by decide)

theorem checksum_eq (p : Block) : checksum p = (covered p).foldl (· + ·) (p.get 19) := rfl

theorem checksum_withSum (p : Block) (sum : UInt8) : checksum (withSum p sum) = checksum p := by
  rw [checksum_eq, withSum_body, withSum_zone, checksum_eq]

theorem sealed_intact (p : Block) : Intact (withSum p (checksum p)) := by
  rw [intact_iff, withSum_last, checksum_withSum]

/-! ## Reading -/

/-- What a session command asks for, apart from the session. -/
inductive Order where
  | command (remote cmd1 cmd2 zone : UInt8)
  | link (remote : UInt8) (pair : Bool) (zone : UInt8)
  deriving DecidableEq, Repr

def Order.block (h : Header) : Order → Block
  | command remote cmd1 cmd2 zone => Wire.command h remote cmd1 cmd2 zone
  | link remote pair zone => Wire.link h remote pair zone

def headerOf (p : Block) : Header := ⟨p.get 5, p.get 6, p.get 11, p.get 12, p.get 8⟩

/-- The first byte tells commands and the two kinds of links apart. -/
def orderOf? (p : Block) : Option Order :=
  if p.get 0 = 0x80 then some (.command (p.get 13) (p.get 14) (p.get 15) (p.get 19))
  else if p.get 0 = 0x3D then some (.link (p.get 13) true (p.get 19))
  else if p.get 0 = 0x3E then some (.link (p.get 13) false (p.get 19))
  else none

section Order

variable (h : Header) (o : Order)

theorem headerOf_block : headerOf (o.block h) = h := by
  cases o <;> rfl

theorem orderOf_block : orderOf? (o.block h) = some o := by
  cases o with
  | command remote cmd1 cmd2 zone => rfl
  | link remote pair zone => cases pair <;> rfl

theorem block_injective {h h' : Header} {o o' : Order} (he : o.block h = o'.block h') :
    h = h' ∧ o = o' := by
  constructor
  · rw [← headerOf_block h o, he, headerOf_block]
  · rw [← Option.some_inj, ← orderOf_block h o, he, orderOf_block]

theorem block_intact : Intact (o.block h) := by
  cases o <;> exact sealed_intact _

end Order

/-! ## Damage -/

/-- Of the places that the checksum tells of, one has changed. -/
def DiffersOnce (p q : Block) : Prop :=
  ∃ i ∈ body ++ [19, 21], q.get i ≠ p.get i ∧ ∀ j ∈ body ++ [19, 21], j ≠ i → q.get j = p.get j

theorem sum_changed {l : List (Fin 22)} (hl : l.Nodup) {i : Fin 22} (hi : i ∈ l)
    {f g : Fin 22 → Nat} (h : ∀ j ∈ l, j ≠ i → g j = f j) :
    (l.map g).sum + f i = (l.map f).sum + g i := by
  induction l with
  | nil => cases hi
  | cons a l ih =>
    rw [List.nodup_cons] at hl
    rw [List.forall_mem_cons] at h
    simp only [List.map_cons, List.sum_cons]
    rcases List.mem_cons.mp hi with rfl | hm
    · have hsame : l.map g = l.map f :=
        List.map_congr_left fun j hj => h.2 j hj fun he => hl.1 (he ▸ hj)
      rw [hsame]
      omega
    · have ha := h.1 fun he => hl.1 (he ▸ hm)
      have hrest := ih hl.2 hm h.2
      omega

/-- What is summed, as one list of places. -/
theorem plainSum_eq (p : Block) :
    plainSum p = ((body ++ [19]).map fun i => (p.get i).toNat).sum := by
  rw [List.map_append, List.sum_append]
  rfl

theorem DiffersOnce.not_intact {p q : Block} (hd : DiffersOnce p q) (hp : Intact p) :
    ¬ Intact q := by
  intro hq
  obtain ⟨i, hi, hne, hsame⟩ := hd
  rw [Intact, plainSum_eq] at hp hq
  have hmem : ∀ j ∈ body ++ [19], j ∈ body ++ [19, 21] := by decide
  have hrest : ∀ j ∈ body ++ [19, 21], j ≠ 21 → j ∈ body ++ [19] := by decide
  by_cases hlast : i = 21
  · -- The sum has changed and what it is of has not.
    subst hlast
    have hall : ((body ++ [19]).map fun j => (q.get j).toNat) =
        (body ++ [19]).map fun j => (p.get j).toNat := by
      refine List.map_congr_left fun j hj => ?_
      rw [hsame j (hmem j hj) fun he => absurd hj (by rw [he]; decide)]
    rw [hall, ← hp] at hq
    exact hne (UInt8.toNat_inj.mp hq)
  · have hsum := sum_changed (by decide) (hrest i hi hlast) (f := fun j => (p.get j).toNat)
      (g := fun j => (q.get j).toNat) fun j hj hji => by rw [hsame j (hmem j hj) hji]
    have hseal : q.get 21 = p.get 21 := hsame 21 (by decide) (Ne.symm hlast)
    have hbyte : (q.get i).toNat ≠ (p.get i).toNat := fun h => hne (UInt8.toNat_inj.mp h)
    have hp' := (p.get i).toNat_lt
    have hq' := (q.get i).toNat_lt
    rw [hseal, hp] at hq
    -- The sums differ by less than 256 and not by nothing.
    omega

/-- Commands and links are read back from their bytes, so each has its own. The last byte is
the sum of the tag, the password, the command and the zone, so none of these bytes
changes alone unnoticed, nor does the sum itself. -/
theorem orders_sealed :
    (∀ h h' o o', Order.block h o = Order.block h' o' → h = h' ∧ o = o') ∧
    (∀ h o, Intact (Order.block h o)) ∧
    ∀ h o q, DiffersOnce (Order.block h o) q → ¬ Intact q :=
  ⟨fun _ _ _ _ => block_injective, block_intact, fun h o _ hd => hd.not_intact (block_intact h o)⟩

def firstOn : Block := Order.block ⟨0x84, 0, 0, 0, 0x0C⟩ (.command 0x08 0x04 0x01 1)

def firstOff : Block := Order.block ⟨0x84, 0, 0, 0, 0x0C⟩ (.command 0x08 0x04 0x02 1)

/-- The first zone is switched on, and what arrives would switch it off but for the sum. -/
theorem switch_damaged :
    firstOn ≠ firstOff ∧ DiffersOnce firstOn (withSum firstOff (firstOn.get 21)) ∧
      ¬ Intact (withSum firstOff (firstOn.get 21)) := by
  have hd : DiffersOnce firstOn (withSum firstOff (firstOn.get 21)) :=
    ⟨15, by decide, by decide, by decide⟩
  refine ⟨fun he => ?_, hd, orders_sealed.2.2 _ _ _ hd⟩
  have ho := (orders_sealed.1 _ _ _ _ he).2
  exact absurd ho (by decide)

/-! ## The checksum of colours -/

/-- The sum of the body as signed bytes and of the zone as an unsigned one. -/
def signedSum (p : Block) : Int := (body.map fun i => (p.get i).toInt8.toInt).sum + (p.get 19).toNat

theorem foldl_signed (bs : List UInt8) (n : Int) :
    bs.foldl (fun sum b => sum + b.toInt8.toInt) n = n + (bs.map fun b => b.toInt8.toInt).sum := by
  induction bs generalizing n with
  | nil => simp
  | cons b bs ih =>
    rw [List.foldl_cons, ih, List.map_cons, List.sum_cons, Int.add_assoc]

theorem colorSum_eq (p : Block) : colorSum p = signedSum p := by
  rw [colorSum, foldl_signed, Int.add_comm, covered_eq, List.map_map]
  rfl

theorem signed_eq (b : UInt8) :
    b.toInt8.toInt = b.toNat ∨ b.toInt8.toInt = b.toNat - 256 := by
  have h : b.toInt8.toInt = b.toBitVec.toInt := rfl
  rw [h, BitVec.toInt_eq_toNat_cond, UInt8.toNat_toBitVec]
  split
  · exact Or.inl rfl
  · exact Or.inr rfl

/-- A signed byte and the byte differ by nothing or by 256. -/
theorem sum_signed_mod (l : List UInt8) :
    (l.map fun b => b.toInt8.toInt).sum % 256 = ((l.map UInt8.toNat).sum : Int) % 256 := by
  induction l with
  | nil => rfl
  | cons b l ih =>
    rw [List.map_cons, List.sum_cons, List.map_cons, List.sum_cons, Int.natCast_add]
    rcases signed_eq b with h | h <;> rw [h] <;> omega

theorem sum_signed_range (l : List UInt8) :
    -128*(l.length : Int) ≤ (l.map fun b => b.toInt8.toInt).sum ∧
    (l.map fun b => b.toInt8.toInt).sum ≤ 127*(l.length : Int) := by
  induction l with
  | nil => decide
  | cons b l ih =>
    have hlo := b.toInt8.le_toInt
    have hhi := b.toInt8.toInt_lt
    rw [List.map_cons, List.sum_cons, List.length_cons]
    push_cast
    omega

theorem signedSum_mod (p : Block) : signedSum p % 256 = (plainSum p : Int) % 256 := by
  have h := sum_signed_mod (covered p)
  rw [covered_eq, List.map_map, List.map_map] at h
  rw [signedSum, plainSum]
  push_cast
  exact Int.add_emod_eq_add_emod_right _ h

theorem signedSum_range (p : Block) : -1152 ≤ signedSum p ∧ signedSum p ≤ 1398 := by
  have h := sum_signed_range (covered p)
  rw [covered_eq, List.map_map] at h
  have hz := (p.get 19).toNat_lt
  have hl : (body.map p.get).length = 9 := rfl
  rw [hl] at h
  simp only [Function.comp_def] at h
  rw [signedSum]
  omega

/-- How often 255 is taken away counts modulo 256, and it is taken away five times at most. -/
theorem tmod_mod {s : Int} (hlo : -1152 ≤ s) (hhi : s ≤ 1398) :
    s.tmod 255 % 256 = s % 256 ↔ -254 ≤ s ∧ s ≤ 254 := by
  rw [Int.tmod_eq_emod]
  split <;> omega

theorem toNat_ofInt_mod (n : Int) : ((UInt8.ofInt n).toNat : Int) = n % 256 := by
  rw [UInt8.ofInt, UInt8.toNat_ofNat']
  omega

theorem colorChecksum_agrees (p : Block) :
    colorChecksum p = checksum p ↔ -254 ≤ signedSum p ∧ signedSum p ≤ 254 := by
  obtain ⟨hlo, hhi⟩ := signedSum_range p
  rw [← tmod_mod hlo hhi, ← UInt8.toNat_inj, toNat_checksum, ← Int.natCast_inj, colorChecksum,
    toNat_ofInt_mod, colorSum_eq, signedSum_mod, Int.natCast_emod]
  exact Iff.rfl

theorem colorChecksum_withSum (p : Block) (sum : UInt8) :
    colorChecksum (withSum p sum) = colorChecksum p := by
  have hsum : ∀ p : Block, colorSum p =
      (covered p).foldl (fun n b => n + b.toInt8.toInt) ((p.get 19).toNat : Int) := fun _ => rfl
  rw [colorChecksum, hsum, withSum_body, withSum_zone, colorChecksum, hsum]

section Color

variable (h : Header) (remote hue zone : UInt8)

theorem color_intact_iff :
    Intact (color h remote hue zone) ↔
      colorChecksum (color h remote hue zone) = checksum (color h remote hue zone) := by
  rw [intact_iff, color, withSum_last, colorChecksum_withSum]

theorem signedSum_color :
    signedSum (color h remote hue zone) =
      50 + h.pw1.toInt8.toInt + h.pw2.toInt8.toInt + remote.toInt8.toInt +
        4*hue.toInt8.toInt + zone.toNat := by
  have hsum : signedSum (color h remote hue zone) =
      49 + (h.pw1.toInt8.toInt + (h.pw2.toInt8.toInt + (remote.toInt8.toInt + (1 +
        (hue.toInt8.toInt + (hue.toInt8.toInt + (hue.toInt8.toInt + (hue.toInt8.toInt + 0)))))))) +
        zone.toNat := rfl
  rw [hsum]
  omega

end Color

/-- The two checksums agree on a command whose signed sum is less than 255 both ways. A colour
command carries its own, which is then the plain one. -/
theorem checksums_agree :
    (∀ p, colorChecksum p = checksum p ↔ -254 ≤ signedSum p ∧ signedSum p ≤ 254) ∧
    (∀ h remote hue zone, Intact (color h remote hue zone) ↔
      -254 ≤ signedSum (color h remote hue zone) ∧
      signedSum (color h remote hue zone) ≤ 254) ∧
    ∀ h remote hue zone, signedSum (color h remote hue zone) =
      50 + h.pw1.toInt8.toInt + h.pw2.toInt8.toInt + remote.toInt8.toInt +
        4*hue.toInt8.toInt + zone.toNat :=
  ⟨colorChecksum_agrees,
    fun h remote hue zone => (color_intact_iff h remote hue zone).trans (colorChecksum_agrees _),
    signedSum_color⟩

end LightBridge.Wire
