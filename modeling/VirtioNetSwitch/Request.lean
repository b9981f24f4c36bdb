import VirtioNetSwitch.Foundation.MacAddr
import VirtioNetSwitch.Vlan

/-!
# Network requests

`Virtio_net_request` skips the virtio-net header in the head descriptor and leaves `_pkt`
at the first payload byte.  Its accessors check the length of `_pkt` only, so the
classification of a frame depends on its first payload buffer alone.
-/

namespace VirtioNetSwitch

/-- `sizeof(Virtio_net::Hdr)`: `flags`, `gso_type`, `hdr_len`, `gso_size`,
`csum_start`, `csum_offset` and `num_buffers`. -/
def hdrSize : Nat := 12

/-- `Virtio_net_request`: the source port `_dev`, the chain's `_head`, the header bytes
`_header` points to, the buffer `_pkt` and the chain's remaining descriptors, which
`_req_proc` still holds. -/
structure VirtioNetRequest where
  dev : Nat
  head : Nat
  header : List UInt8
  pkt : Buffer
  reqProc : List Desc
  deriving DecidableEq, Repr

namespace VirtioNetRequest

/-- The constructor.  `none` is a request left invalid (`_header = 0`): the header did
not fit into the head descriptor, or nothing follows it. -/
def create (dev head : Nat) (chain : List Desc) : Except Exc (Option VirtioNetRequest) := do
  let (pkt, rest) ← start chain
  let (pkt', skipped) := pkt.skip hdrSize
  if skipped ≠ hdrSize then return none
  if pkt'.done then
    match ← next rest with
    | none => return none
    | some (buf, rest') => return some ⟨dev, head, pkt.data.take hdrSize, buf, rest'⟩
  else return some ⟨dev, head, pkt.data.take hdrSize, pkt', rest⟩

theorem create_eq_some {dev head : Nat} {chain : List Desc} {r : VirtioNetRequest}
    (h : create dev head chain = .ok (some r)) :
    ∃ d0 rest, chain = .buf d0 :: rest ∧ hdrSize ≤ d0.length ∧ r.dev = dev ∧ r.head = head ∧
      r.header = d0.take hdrSize ∧
      ((hdrSize < d0.length ∧ r.pkt = ⟨d0.drop hdrSize⟩ ∧ r.reqProc = rest) ∨
        (d0.length = hdrSize ∧ ∃ d1 rest', rest = .buf d1 :: rest' ∧ r.pkt = ⟨d1⟩ ∧
          r.reqProc = rest')) := by
  match chain, h with
  | .buf d0 :: rest, h =>
      simp only [create, start, Buffer.skip, Buffer.left, bind, Except.bind, pure, Except.pure,
        Buffer.done] at h
      have h12 : hdrSize ≤ d0.length := by
        by_contra h12
        rw [if_pos (by omega)] at h
        cases h
      rw [if_neg (by omega)] at h
      refine ⟨d0, rest, rfl, h12, ?_⟩
      split at h
      · rename_i hd
        have he : d0.length = hdrSize := by simp at hd; omega
        match rest, h with
        | .buf d1 :: rest', h =>
            simp only [next, Except.ok.injEq, Option.some.injEq] at h
            subst h
            exact ⟨rfl, rfl, rfl, .inr ⟨he, d1, rest', rfl, rfl, rfl⟩⟩
        | [], h => simp [next] at h
        | .bad :: _, h => simp [next] at h
      · rename_i hd
        simp only [Except.ok.injEq, Option.some.injEq] at h
        subst h
        exact ⟨rfl, rfl, rfl, .inl ⟨by simp at hd; omega, rfl, rfl⟩⟩

def dstMac (r : VirtioNetRequest) : MacAddr :=
  if MacAddr.addrLength ≤ r.pkt.left then MacAddr.ofBytes r.pkt.data else MacAddr.addrUnknown

def srcMac (r : VirtioNetRequest) : MacAddr :=
  if MacAddr.addrLength * 2 ≤ r.pkt.left then MacAddr.ofBytes (r.pkt.data.drop MacAddr.addrLength)
  else MacAddr.addrUnknown

/-- `has_vlan()`: the TPID `0x81 0x00` at offset 12. -/
def hasVlan (r : VirtioNetRequest) : Bool :=
  if r.pkt.left < 14 then false
  else r.pkt.data.getD 12 0 == 0x81 && r.pkt.data.getD 13 0 == 0x00

/-- `vlan_id()`: the low 12 bits of the TCI, `VLAN_ID_NATIVE` for an untagged frame. -/
def vlanId (K : PseudoVlanIds) (r : VirtioNetRequest) : Nat :=
  if !r.hasVlan || r.pkt.left < 16 then K.vlanIdNative
  else ((r.pkt.data.getD 14 0).toNat <<< 8 ||| (r.pkt.data.getD 15 0).toNat) &&& 0xfff

theorem hasVlan_of_vlanId_ne {K : PseudoVlanIds} {r : VirtioNetRequest}
    (h : r.vlanId K ≠ K.vlanIdNative) : r.hasVlan = true := by
  cases hv : r.hasVlan
  · simp [vlanId, hv] at h
  · rfl

end VirtioNetRequest

/-- `get_request(dev, queue)`: the request built from the next available chain of a
ready queue.  An invalid request is destroyed at once, and its destructor finishes
the chain with length 0.  `Bad_descriptor` from the constructor leaves the chain
taken and unfinished. -/
def getRequest (dev : Nat) (q : Virtqueue) : Except Exc (Option VirtioNetRequest) × Virtqueue :=
  if !q.ready then (.ok none, q)
  else
    match q.nextAvail with
    | (none, q') => (.ok none, q')
    | (some h, q') =>
        match VirtioNetRequest.create dev h (q'.chain h) with
        | .error e => (.error e, q')
        | .ok (some r) => (.ok (some r), q')
        | .ok none => (.ok none, q'.finish (some h) 0)

theorem getRequest_advance (dev : Nat) {q : Virtqueue} (hr : q.ready = true)
    (hd : q.descAvail = true) :
    Virtqueue.SameAvail { q with current := q.current + 1 } (getRequest dev q).2 := by
  have hnext : q.nextAvail = (some q.current, { q with current := q.current + 1 }) := by
    simp only [Virtqueue.descAvail, decide_eq_true_eq] at hd
    simp [Virtqueue.nextAvail, hd]
  simp only [getRequest, hr, hnext, Bool.not_true, Bool.false_eq_true, ite_false]
  split
  · exact .refl _
  · exact .refl _
  · exact Virtqueue.sameAvail_finish _ _ _

/-! ## Classification against the frame bytes -/

/-- The spec's reading of a frame's bytes: its destination address. -/
def frameDstMac (f : List UInt8) : MacAddr := MacAddr.ofBytes f

/-- The spec's reading of a frame's bytes: its source address. -/
def frameSrcMac (f : List UInt8) : MacAddr := MacAddr.ofBytes (f.drop 6)

/-- The spec's reading of a frame's bytes: tagged iff bytes 12-13 are `0x81 0x00`. -/
def frameHasVlan (f : List UInt8) : Bool := f.getD 12 0 == 0x81 && f.getD 13 0 == 0x00

/-- The spec's reading of a frame's bytes: the low 12 bits of bytes 14-15 of a tagged
frame, `VLAN_ID_NATIVE` for an untagged one. -/
def frameVlanId (K : PseudoVlanIds) (f : List UInt8) : Nat :=
  if frameHasVlan f then ((f.getD 14 0).toNat <<< 8 ||| (f.getD 15 0).toNat) &&& 0xfff
  else K.vlanIdNative

/-- `ds` lays a virtio-net header and a frame over the descriptors of a chain, the
header within the head descriptor as the constructor requires. -/
def IsLayout (hdr frame : List UInt8) (ds : List (List UInt8)) : Prop :=
  hdr.length = hdrSize ∧ ds.flatten = hdr ++ frame ∧ hdrSize ≤ (ds.headD []).length

private theorem getD_prefix {p t : List UInt8} {i : Nat} (h : i < p.length) :
    (p ++ t).getD i 0 = p.getD i 0 := by
  simp [List.getElem?_append_left h]

theorem create_pkt_prefix {hdr frame : List UInt8} {ds : List (List UInt8)}
    (hl : IsLayout hdr frame ds) {dev head : Nat} {r : VirtioNetRequest}
    (hr : VirtioNetRequest.create dev head (ds.map .buf) = .ok (some r)) :
    ∃ tail, frame = r.pkt.data ++ tail := by
  obtain ⟨hlen, hjoin, -⟩ := hl
  obtain ⟨d0, rest, hc, h12, -, -, -, hpkt⟩ := VirtioNetRequest.create_eq_some hr
  obtain ⟨d0, ds, rfl⟩ : ∃ d0' ds', ds = d0' :: ds' := by
    cases ds with
    | nil => cases hc
    | cons d ds => exact ⟨d, ds, rfl⟩
  simp only [List.map_cons, List.cons.injEq, Desc.buf.injEq] at hc
  obtain ⟨rfl, rfl⟩ := hc
  simp only [List.flatten_cons] at hjoin
  have hframe : frame = d0.drop hdrSize ++ ds.flatten := by
    have := congrArg (List.drop hdrSize) hjoin
    rw [List.drop_append_of_le_length h12, List.drop_left' hlen] at this
    exact this.symm
  rcases hpkt with ⟨-, hp, -⟩ | ⟨he, d1, rest', hrest, hp, -⟩
  · exact ⟨ds.flatten, by rw [hframe, hp]⟩
  · obtain ⟨d1, ds, rfl⟩ : ∃ d1' ds', ds = d1' :: ds' := by
      cases ds with
      | nil => cases hrest
      | cons d ds => exact ⟨d, ds, rfl⟩
    simp only [List.map_cons, List.cons.injEq, Desc.buf.injEq] at hrest
    obtain ⟨rfl, -⟩ := hrest
    exact ⟨ds.flatten, by simp [hframe, hp, List.drop_eq_nil_of_le (Nat.le_of_eq he)]⟩

theorem classify_of_prefix (K : PseudoVlanIds) {r : VirtioNetRequest} (tail : List UInt8)
    (h : 16 ≤ r.pkt.left) :
    r.dstMac = frameDstMac (r.pkt.data ++ tail) ∧ r.srcMac = frameSrcMac (r.pkt.data ++ tail) ∧
      r.hasVlan = frameHasVlan (r.pkt.data ++ tail) ∧
      r.vlanId K = frameVlanId K (r.pkt.data ++ tail) := by
  simp only [Buffer.left] at h
  have hmac : r.dstMac = frameDstMac (r.pkt.data ++ tail) := by
    simp only [VirtioNetRequest.dstMac, Buffer.left, MacAddr.addrLength, frameDstMac,
      MacAddr.ofBytes_append _ (by omega : 6 ≤ r.pkt.data.length)]
    rw [if_pos (by omega)]
  have hsrc : r.srcMac = frameSrcMac (r.pkt.data ++ tail) := by
    simp only [VirtioNetRequest.srcMac, Buffer.left, MacAddr.addrLength, frameSrcMac,
      List.drop_append_of_le_length (by omega : 6 ≤ r.pkt.data.length),
      MacAddr.ofBytes_append _ (by simp; omega : 6 ≤ (r.pkt.data.drop 6).length)]
    rw [if_pos (by omega)]
  have hvlan : r.hasVlan = frameHasVlan (r.pkt.data ++ tail) := by
    simp only [VirtioNetRequest.hasVlan, Buffer.left, frameHasVlan,
      getD_prefix (by omega : 12 < r.pkt.data.length),
      getD_prefix (by omega : 13 < r.pkt.data.length)]
    rw [if_neg (by omega)]
  refine ⟨hmac, hsrc, hvlan, ?_⟩
  simp only [VirtioNetRequest.vlanId, Buffer.left, frameVlanId, ← hvlan,
    getD_prefix (by omega : 14 < r.pkt.data.length),
    getD_prefix (by omega : 15 < r.pkt.data.length)]
  cases r.hasVlan <;> simp [show ¬r.pkt.data.length < 16 by omega]

/-- Two layouts of one frame classify alike, and as the frame's bytes define, when the
first payload buffer of each holds at least the 16 bytes of the Ethernet and VLAN
header. -/
theorem classification_layout_independent (K : PseudoVlanIds) {hdrA hdrB frame : List UInt8}
    {dsA dsB : List (List UInt8)} (hA : IsLayout hdrA frame dsA) (hB : IsLayout hdrB frame dsB)
    {devA headA devB headB : Nat} {rA rB : VirtioNetRequest}
    (hrA : VirtioNetRequest.create devA headA (dsA.map .buf) = .ok (some rA))
    (hrB : VirtioNetRequest.create devB headB (dsB.map .buf) = .ok (some rB))
    (hlA : 16 ≤ rA.pkt.left) (hlB : 16 ≤ rB.pkt.left) :
    (rA.dstMac = rB.dstMac ∧ rA.srcMac = rB.srcMac ∧ rA.hasVlan = rB.hasVlan ∧
      rA.vlanId K = rB.vlanId K) ∧
    (rA.dstMac = frameDstMac frame ∧ rA.srcMac = frameSrcMac frame ∧
      rA.hasVlan = frameHasVlan frame ∧ rA.vlanId K = frameVlanId K frame) := by
  obtain ⟨tA, htA⟩ := create_pkt_prefix hA hrA
  obtain ⟨tB, htB⟩ := create_pkt_prefix hB hrB
  obtain ⟨a1, a2, a3, a4⟩ := classify_of_prefix K tA hlA
  obtain ⟨b1, b2, b3, b4⟩ := classify_of_prefix K tB hlB
  rw [← htA] at a1 a2 a3 a4
  rw [← htB] at b1 b2 b3 b4
  exact ⟨⟨a1.trans b1.symm, a2.trans b2.symm, a3.trans b3.symm, a4.trans b4.symm⟩,
    a1, a2, a3, a4⟩

theorem classification_layout_independent_two_buffers :
    let frame : List UInt8 := [0xff, 0xff, 0xff, 0xff, 0xff, 0xff, 2, 0, 0, 0, 0, 1,
      0x81, 0x00, 0x00, 0x0a, 0x08, 0x00]
    let rA : VirtioNetRequest := ⟨0, 0, List.replicate 12 0, ⟨frame⟩, []⟩
    let rB : VirtioNetRequest := ⟨1, 0, List.replicate 12 0, ⟨frame⟩, []⟩
    (rA.dstMac = rB.dstMac ∧ rA.srcMac = rB.srcMac ∧ rA.hasVlan = rB.hasVlan ∧
      rA.vlanId PseudoVlanIds.sample = rB.vlanId PseudoVlanIds.sample) ∧
    (rA.dstMac = frameDstMac frame ∧ rA.srcMac = frameSrcMac frame ∧
      rA.hasVlan = frameHasVlan frame ∧
      rA.vlanId PseudoVlanIds.sample = frameVlanId PseudoVlanIds.sample frame) :=
  @classification_layout_independent PseudoVlanIds.sample (List.replicate 12 0)
    (List.replicate 12 0) [0xff, 0xff, 0xff, 0xff, 0xff, 0xff, 2, 0, 0, 0, 0, 1,
      0x81, 0x00, 0x00, 0x0a, 0x08, 0x00]
    [List.replicate 12 0 ++ [0xff, 0xff, 0xff, 0xff, 0xff, 0xff, 2, 0, 0, 0, 0, 1,
      0x81, 0x00, 0x00, 0x0a, 0x08, 0x00]]
    [List.replicate 12 0, [0xff, 0xff, 0xff, 0xff, 0xff, 0xff, 2, 0, 0, 0, 0, 1,
      0x81, 0x00, 0x00, 0x0a, 0x08, 0x00]]
    ⟨rfl, by rfl, by decide⟩ ⟨rfl, by rfl, by decide⟩ 0 0 1 0 _ _ (by rfl) (by rfl) (by decide)
    (by decide)

end VirtioNetSwitch
