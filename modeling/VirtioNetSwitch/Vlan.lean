import VirtioNetSwitch.Foundation.Virtqueue

/-!
# VLAN ids and the tag mangle

`vlan.h` is not among the sources.  The validity test, the pseudo ids and
`Virtio_vlan_mangle` are modelled from the spec; the two pseudo ids are a parameter
`PseudoVlanIds` holding only what the spec promises of them.
-/

namespace VirtioNetSwitch

/-- Modelled from the spec: `vlan_valid_id`, valid user-configurable ids are 1..4094. -/
def vlanValidId (id : Nat) : Bool := 0 < id && id < 0xfff

/-- Modelled from the spec: the reserved ids `VLAN_ID_NATIVE` (untagged traffic) and
`VLAN_ID_TRUNK` (marks a trunk port, never on the wire). -/
structure PseudoVlanIds where
  vlanIdNative : Nat
  vlanIdTrunk : Nat
  native_lt : vlanIdNative < 2 ^ 16
  trunk_lt : vlanIdTrunk < 2 ^ 16
  native_ne_trunk : vlanIdNative ≠ vlanIdTrunk
  native_invalid : vlanValidId vlanIdNative = false
  trunk_invalid : vlanValidId vlanIdTrunk = false

namespace PseudoVlanIds

theorem ne_native_of_valid (K : PseudoVlanIds) {v : Nat} (hv : vlanValidId v = true) :
    v ≠ K.vlanIdNative := by
  rintro rfl
  simp [K.native_invalid] at hv

theorem ne_trunk_of_valid (K : PseudoVlanIds) {v : Nat} (hv : vlanValidId v = true) :
    v ≠ K.vlanIdTrunk := by
  rintro rfl
  simp [K.trunk_invalid] at hv

/-- One admissible choice of the two pseudo ids, for running the model. -/
def sample : PseudoVlanIds := ⟨0xffff, 0xfffe, by decide, by decide, by decide, rfl, rfl⟩

end PseudoVlanIds

inductive MangleRule where
  | verbatim
  | add (tci : Nat)
  | remove
  deriving DecidableEq, Repr

/-- Modelled from the spec: `Virtio_vlan_mangle`, a policy plus the counters that
locate the splice point, 12 bytes (the two MAC addresses) into the frame, across
buffer boundaries. -/
structure VirtioVlanMangle where
  rule : MangleRule
  macRemaining : Nat
  tagRemaining : Nat
  deriving DecidableEq, Repr

namespace VirtioVlanMangle

/-- The default-constructed mangle copies verbatim. -/
def none : VirtioVlanMangle := ⟨.verbatim, 0, 0⟩

def add (tci : Nat) : VirtioVlanMangle := ⟨.add tci, 12, 4⟩

def remove : VirtioVlanMangle := ⟨.remove, 12, 4⟩

/-- The inserted tag: TPID `0x8100`, then the TCI with PCP and DEI zeroed. -/
def tagBytes (tci : Nat) : List UInt8 :=
  [0x81, 0x00, UInt8.ofNat ((tci >>> 8) &&& 0x0f), UInt8.ofNat (tci &&& 0xff)]

/-- One phase of `copy_pkt`: the MAC addresses, the tag, or the rest of the frame.
Returns the mangle, the destination and source buffers after the phase and the bytes
written at the destination. -/
def copyPhase (m : VirtioVlanMangle) (dst src : Buffer) :
    VirtioVlanMangle × Buffer × Buffer × List UInt8 :=
  if 0 < m.macRemaining then
    let n := min (min dst.left src.left) m.macRemaining
    ({ m with macRemaining := m.macRemaining - n }, ⟨dst.data.drop n⟩, ⟨src.data.drop n⟩,
      src.data.take n)
  else if 0 < m.tagRemaining then
    match m.rule with
    | .add tci =>
        let n := min dst.left m.tagRemaining
        ({ m with tagRemaining := m.tagRemaining - n }, ⟨dst.data.drop n⟩, src,
          ((tagBytes tci).drop (4 - m.tagRemaining)).take n)
    | .remove =>
        let n := min src.left m.tagRemaining
        ({ m with tagRemaining := m.tagRemaining - n }, dst, ⟨src.data.drop n⟩, [])
    | .verbatim =>
        let n := min dst.left src.left
        (m, ⟨dst.data.drop n⟩, ⟨src.data.drop n⟩, src.data.take n)
  else
    let n := min dst.left src.left
    (m, ⟨dst.data.drop n⟩, ⟨src.data.drop n⟩, src.data.take n)

def copyPhases : Nat → VirtioVlanMangle → Buffer → Buffer →
    VirtioVlanMangle × Buffer × Buffer × List UInt8
  | 0, m, dst, src => (m, dst, src, [])
  | k + 1, m, dst, src =>
      if dst.done || src.done then (m, dst, src, [])
      else
        let r := copyPhase m dst src
        let r' := copyPhases k r.1 r.2.1 r.2.2.1
        (r'.1, r'.2.1, r'.2.2.1, r.2.2.2 ++ r'.2.2.2)

/-- Modelled from the spec: `copy_pkt(dst, src)` copies until one of the buffers is
exhausted, splicing the tag in or out on the way; the caller adds the number of
written bytes to its running total. -/
def copyPkt (m : VirtioVlanMangle) (dst src : Buffer) :
    VirtioVlanMangle × Buffer × Buffer × List UInt8 :=
  copyPhases 3 m dst src

/-! ## Progress of a copy -/

theorem copyPhase_left_le (m : VirtioVlanMangle) (dst src : Buffer) :
    (copyPhase m dst src).2.1.left ≤ dst.left ∧ (copyPhase m dst src).2.2.1.left ≤ src.left := by
  unfold copyPhase
  split
  · simp only [Buffer.left, List.length_drop]
    omega
  · split
    · split <;> simp only [Buffer.left, List.length_drop] <;> omega
    · simp only [Buffer.left, List.length_drop]
      omega

theorem copyPhase_left_lt (m : VirtioVlanMangle) {dst src : Buffer} (hd : 0 < dst.left)
    (hs : 0 < src.left) :
    (copyPhase m dst src).2.1.left + (copyPhase m dst src).2.2.1.left < dst.left + src.left := by
  unfold copyPhase
  split
  · simp only [Buffer.left, List.length_drop] at *
    omega
  · split
    · split <;> simp only [Buffer.left, List.length_drop] at * <;> omega
    · simp only [Buffer.left, List.length_drop] at *
      omega

theorem copyPhases_left_le (k : Nat) (m : VirtioVlanMangle) (dst src : Buffer) :
    (copyPhases k m dst src).2.1.left ≤ dst.left ∧
      (copyPhases k m dst src).2.2.1.left ≤ src.left := by
  induction k generalizing m dst src with
  | zero => exact ⟨le_rfl, le_rfl⟩
  | succ k ih =>
      unfold copyPhases
      split
      · exact ⟨le_rfl, le_rfl⟩
      · obtain ⟨h1, h2⟩ := copyPhase_left_le m dst src
        obtain ⟨h3, h4⟩ := ih (copyPhase m dst src).1 (copyPhase m dst src).2.1
          (copyPhase m dst src).2.2.1
        exact ⟨h3.trans h1, h4.trans h2⟩

theorem copyPkt_left_le (m : VirtioVlanMangle) (dst src : Buffer) :
    (copyPkt m dst src).2.1.left ≤ dst.left ∧ (copyPkt m dst src).2.2.1.left ≤ src.left :=
  copyPhases_left_le 3 m dst src

theorem copyPkt_left_lt (m : VirtioVlanMangle) {dst src : Buffer} (hd : dst.done = false)
    (hs : src.done = false) :
    (copyPkt m dst src).2.1.left + (copyPkt m dst src).2.2.1.left < dst.left + src.left := by
  have hd' : 0 < dst.left := by
    cases h : dst.data <;> simp_all [Buffer.left, Buffer.done]
  have hs' : 0 < src.left := by
    cases h : src.data <;> simp_all [Buffer.left, Buffer.done]
  unfold copyPkt copyPhases
  rw [if_neg (by simp [hd, hs])]
  have hlt := copyPhase_left_lt m hd' hs'
  obtain ⟨h1, h2⟩ := copyPhases_left_le 2 (copyPhase m dst src).1 (copyPhase m dst src).2.1
    (copyPhase m dst src).2.2.1
  dsimp only
  omega

theorem copyPhases_done (k : Nat) (m : VirtioVlanMangle) {dst src : Buffer}
    (h : (dst.done || src.done) = true) : copyPhases k m dst src = (m, dst, src, []) := by
  cases k with
  | zero => rfl
  | succ k => rw [copyPhases, if_pos h]

theorem copyPhase_none (dst src : Buffer) :
    copyPhase .none dst src = (.none, ⟨dst.data.drop (min dst.left src.left)⟩,
      ⟨src.data.drop (min dst.left src.left)⟩, src.data.take (min dst.left src.left)) := rfl

theorem copyPkt_none (dst src : Buffer) :
    copyPkt .none dst src = (.none, ⟨dst.data.drop (min dst.left src.left)⟩,
      ⟨src.data.drop (min dst.left src.left)⟩, src.data.take (min dst.left src.left)) := by
  unfold copyPkt
  by_cases h : (dst.done || src.done) = true
  · have h0 : min dst.left src.left = 0 := by
      simp only [Bool.or_eq_true, Buffer.done_iff] at h
      rcases h with h | h <;> simp [Buffer.left, h]
    rw [copyPhases_done 3 _ h, h0]
    simp
  · rw [copyPhases, if_neg h, copyPhase_none]
    dsimp only
    rw [copyPhases_done 2 _ (by simp only [Buffer.done, Buffer.left, List.isEmpty_iff,
      List.drop_eq_nil_iff, Bool.or_eq_true]; omega), List.append_nil]

/-! ## What a copy outputs

`output m frame` is what the rest of a copy with mangle `m` makes of the rest of a frame:
the MAC addresses still to copy, then what is left of the tag to insert, or with the tag
bytes still to skip left out, then the rest.  A frame that ends before the splice point is
copied as it is.  Every call of `copy_pkt` writes a prefix of that output and leaves a
mangle whose output of what is left is the rest (`copyPkt_copyStep`), so a copy split over
any buffers writes `output m frame` as a whole. -/

def tagOut (m : VirtioVlanMangle) : List UInt8 :=
  match m.rule with
  | .add tci => (tagBytes tci).drop (4 - m.tagRemaining)
  | _ => []

def tagSkip (m : VirtioVlanMangle) : Nat :=
  match m.rule with
  | .remove => m.tagRemaining
  | _ => 0

def output (m : VirtioVlanMangle) (frame : List UInt8) : List UInt8 :=
  if m.macRemaining < frame.length then
    frame.take m.macRemaining ++ m.tagOut ++ (frame.drop m.macRemaining).drop m.tagSkip
  else frame

def TagBounded (m : VirtioVlanMangle) : Prop := m.tagRemaining ≤ 4

instance (m : VirtioVlanMangle) : Decidable m.TagBounded := inferInstanceAs (Decidable (_ ≤ _))

theorem tagBounded_none : none.TagBounded := Nat.zero_le 4

theorem tagBounded_add (tci : Nat) : (add tci).TagBounded := Nat.le_refl 4

theorem tagBounded_remove : remove.TagBounded := Nat.le_refl 4

@[simp] theorem output_nil (m : VirtioVlanMangle) : m.output [] = [] := by
  simp [output]

theorem output_eq_self {m : VirtioVlanMangle} (hout : m.tagOut = []) (hskip : m.tagSkip = 0)
    (frame : List UInt8) : m.output frame = frame := by
  unfold output
  split <;> simp [hout, hskip]

theorem output_of_zero {m : VirtioVlanMangle} (ht : m.tagRemaining = 0) (frame : List UInt8) :
    m.output frame = frame := by
  refine output_eq_self ?_ ?_ frame
  · unfold tagOut
    split <;> simp [ht, tagBytes]
  · unfold tagSkip
    split <;> simp [ht]

theorem output_take_drop (m : VirtioVlanMangle) {n : Nat} (hn : n ≤ m.macRemaining)
    (frame : List UInt8) :
    frame.take n ++ { m with macRemaining := m.macRemaining - n }.output (frame.drop n) =
      m.output frame := by
  have htake : frame.take n ++ (frame.drop n).take (m.macRemaining - n) =
      frame.take m.macRemaining := by
    rw [← List.take_add, Nat.add_sub_cancel' hn]
  have hdrop : (frame.drop n).drop (m.macRemaining - n) = frame.drop m.macRemaining := by
    rw [List.drop_drop]
    congr 1
    omega
  have hout : ({ m with macRemaining := m.macRemaining - n } : VirtioVlanMangle).tagOut =
      m.tagOut := rfl
  have hskip : ({ m with macRemaining := m.macRemaining - n } : VirtioVlanMangle).tagSkip =
      m.tagSkip := rfl
  unfold output
  rw [hout, hskip]
  dsimp only
  by_cases hlt : m.macRemaining < frame.length
  · rw [if_pos hlt, if_pos (by simp only [List.length_drop]; omega), hdrop, ← htake]
    simp only [List.append_assoc]
  · rw [if_neg hlt, if_neg (by simp only [List.length_drop]; omega), List.take_append_drop]

/-- A step of a copy: the mangle stays bounded, the destination moves by the bytes written,
and the bytes written followed by what the rest of the copy outputs are what the whole copy
outputs, whatever follows the source buffer. -/
def CopyStep (m : VirtioVlanMangle) (dst src : Buffer)
    (r : VirtioVlanMangle × Buffer × Buffer × List UInt8) : Prop :=
  r.1.TagBounded ∧ r.2.1.left + r.2.2.2.length = dst.left ∧
    ∀ rest, r.2.2.2 ++ r.1.output (r.2.2.1.data ++ rest) = m.output (src.data ++ rest)

theorem CopyStep.refl {m : VirtioVlanMangle} (hm : m.TagBounded) (dst src : Buffer) :
    CopyStep m dst src (m, dst, src, []) :=
  ⟨hm, by simp, fun _ => rfl⟩

theorem CopyStep.trans {m : VirtioVlanMangle} {dst src : Buffer}
    {r : VirtioVlanMangle × Buffer × Buffer × List UInt8}
    {r' : VirtioVlanMangle × Buffer × Buffer × List UInt8}
    (h : CopyStep m dst src r) (h' : CopyStep r.1 r.2.1 r.2.2.1 r') :
    CopyStep m dst src (r'.1, r'.2.1, r'.2.2.1, r.2.2.2 ++ r'.2.2.2) := by
  refine ⟨h'.1, ?_, fun rest => ?_⟩
  · have := h.2.1
    have := h'.2.1
    simp only [List.length_append]
    omega
  · rw [List.append_assoc, h'.2.2 rest, h.2.2 rest]

theorem copyStep_verbatim {m : VirtioVlanMangle} (hm : m.TagBounded) (hid : ∀ x, m.output x = x)
    (dst src : Buffer) :
    CopyStep m dst src (m, ⟨dst.data.drop (min dst.left src.left)⟩,
      ⟨src.data.drop (min dst.left src.left)⟩, src.data.take (min dst.left src.left)) := by
  refine ⟨hm, ?_, fun rest => ?_⟩
  · simp only [Buffer.left_mk, List.length_drop, List.length_take, Buffer.left]
    omega
  · rw [hid, hid, ← List.append_assoc, List.take_append_drop]

theorem copyStep_mac {m : VirtioVlanMangle} (hm : m.TagBounded) (dst src : Buffer) :
    let n := min (min dst.left src.left) m.macRemaining
    CopyStep m dst src
      ({ m with macRemaining := m.macRemaining - n }, ⟨dst.data.drop n⟩, ⟨src.data.drop n⟩,
        src.data.take n) := by
  intro n
  have hn : n ≤ src.data.length := by simp only [n, Buffer.left]; omega
  refine ⟨hm, ?_, fun rest => ?_⟩
  · simp only [n, Buffer.left_mk, List.length_drop, List.length_take, Buffer.left]
    omega
  · rw [← List.take_append_of_le_length hn, ← List.drop_append_of_le_length hn,
      output_take_drop m (min_le_right _ _)]

theorem copyStep_addTag {m : VirtioVlanMangle} (hm : m.TagBounded) {tci : Nat}
    (hrule : m.rule = .add tci) (hmac : m.macRemaining = 0) (dst : Buffer) {src : Buffer}
    (hs : src.data ≠ []) :
    let n := min dst.left m.tagRemaining
    CopyStep m dst src
      ({ m with tagRemaining := m.tagRemaining - n }, ⟨dst.data.drop n⟩, src,
        ((tagBytes tci).drop (4 - m.tagRemaining)).take n) := by
  intro n
  unfold TagBounded at hm
  have hlen4 : (tagBytes tci).length = 4 := rfl
  refine ⟨by unfold TagBounded; dsimp only; omega, ?_, fun rest => ?_⟩
  · simp only [n, Buffer.left_mk, List.length_drop, List.length_take, Buffer.left, hlen4]
    omega
  · have hpos : 0 < (src.data ++ rest).length := by
      simp only [List.length_append]
      exact Nat.lt_add_right _ (List.length_pos.mpr hs)
    have key : ((tagBytes tci).drop (4 - m.tagRemaining)).take n ++
        (tagBytes tci).drop (4 - (m.tagRemaining - n)) = (tagBytes tci).drop (4 - m.tagRemaining) := by
      rw [show 4 - (m.tagRemaining - n) = 4 - m.tagRemaining + n by omega, ← List.drop_drop,
        List.take_append_drop]
    simp only [output, tagOut, tagSkip, hrule, hmac, hpos, if_true, List.take_zero,
      List.drop_zero, List.nil_append, ← List.append_assoc, key]

theorem copyStep_skipTag {m : VirtioVlanMangle} (hm : m.TagBounded) (hrule : m.rule = .remove)
    (hmac : m.macRemaining = 0) (dst : Buffer) {src : Buffer} (hs : src.data ≠ []) :
    let n := min src.left m.tagRemaining
    CopyStep m dst src ({ m with tagRemaining := m.tagRemaining - n }, dst, ⟨src.data.drop n⟩, []) := by
  intro n
  unfold TagBounded at hm
  refine ⟨by unfold TagBounded; dsimp only; omega, by simp, fun rest => ?_⟩
  have hn : n ≤ src.data.length := by simp only [n, Buffer.left]; omega
  have hpos : 0 < (src.data ++ rest).length := by
    simp only [List.length_append]
    exact Nat.lt_add_right _ (List.length_pos.mpr hs)
  rw [← List.drop_append_of_le_length hn]
  simp only [output, tagOut, tagSkip, hrule, hmac, hpos, if_true, List.take_zero,
    List.drop_zero, List.nil_append, List.length_drop]
  split
  · rw [List.drop_drop]
    congr 1
    simp only [n, Buffer.left]
    omega
  · next hle =>
    have hnil : (src.data ++ rest).drop n = [] := List.drop_eq_nil_of_le (by omega)
    rw [hnil, List.drop_eq_nil_of_le (by rw [List.drop_eq_nil_iff] at hnil; omega)]

theorem copyPhase_copyStep {m : VirtioVlanMangle} (hm : m.TagBounded) {dst src : Buffer}
    (hs : src.done = false) : CopyStep m dst src (copyPhase m dst src) := by
  have hsrc : src.data ≠ [] := by simpa [Buffer.done] using hs
  unfold copyPhase
  split
  · exact copyStep_mac hm dst src
  · split
    · next hmac htag =>
      have hmac : m.macRemaining = 0 := by omega
      split
      · next tci hrule => exact copyStep_addTag hm hrule hmac dst hsrc
      · next hrule => exact copyStep_skipTag hm hrule hmac dst hsrc
      · next hrule =>
        exact copyStep_verbatim hm (output_eq_self (by simp [tagOut, hrule])
          (by simp [tagSkip, hrule])) dst src
    · exact copyStep_verbatim hm (output_of_zero (by omega)) dst src

theorem copyPhases_copyStep (k : Nat) {m : VirtioVlanMangle} (hm : m.TagBounded)
    (dst src : Buffer) : CopyStep m dst src (copyPhases k m dst src) := by
  induction k generalizing m dst src with
  | zero => exact CopyStep.refl hm dst src
  | succ k ih =>
      unfold copyPhases
      split
      · exact CopyStep.refl hm dst src
      · next hdone =>
        simp only [Bool.or_eq_true, not_or, Bool.not_eq_true] at hdone
        have hs : src.done = false := hdone.2
        have h : CopyStep m dst src (copyPhase m dst src) := copyPhase_copyStep hm hs
        exact h.trans (ih h.1 _ _)

theorem copyPkt_copyStep {m : VirtioVlanMangle} (hm : m.TagBounded) (dst src : Buffer) :
    CopyStep m dst src (copyPkt m dst src) :=
  copyPhases_copyStep 3 hm dst src

end VirtioVlanMangle

end VirtioNetSwitch
