import VirtioNetSwitch.Transfer.Frame
import VirtioNetSwitch.Port

/-!
# What a port receives

`Virtio_port::handle_request` of `port.h`: the mangle it picks is the 802.1Q egress rule
`egressFrame`, so a frame it delivers into single-buffer chains reads back as that rule
rewrites it.
-/

namespace VirtioNetSwitch

variable (K : PseudoVlanIds)

/-- The frame port `dst` should receive of the frame `frame` of port `src`: the 802.1Q tag
of `src`'s VLAN inserted after the addresses when an access port's frame goes to a trunk
port, the tag after the addresses dropped when a trunk port's frame goes to any other
port, and the frame unchanged otherwise or when it ends within the addresses. -/
def egressFrame (dst src : VirtioPort) (frame : List UInt8) : List UInt8 :=
  if frame.length ≤ 12 then frame
  else if dst.isTrunk K && src.isAccess K then
    frame.take 12 ++ VirtioVlanMangle.tagBytes src.vlanId ++ frame.drop 12
  else if !dst.isTrunk K && src.isTrunk K then frame.take 12 ++ frame.drop 16
  else frame

namespace VirtioVlanMangle

@[simp] theorem output_none (frame : List UInt8) : none.output frame = frame :=
  output_of_zero rfl frame

theorem output_add (tci : Nat) (frame : List UInt8) :
    (add tci).output frame =
      if frame.length ≤ 12 then frame else frame.take 12 ++ tagBytes tci ++ frame.drop 12 := by
  unfold output
  by_cases h : frame.length ≤ 12
  · rw [if_neg (by simpa [add] using h), if_pos h]
  · rw [if_pos (by simp [add]; omega), if_neg h]
    rfl

theorem output_remove (frame : List UInt8) :
    remove.output frame = if frame.length ≤ 12 then frame else frame.take 12 ++ frame.drop 16 := by
  unfold output
  by_cases h : frame.length ≤ 12
  · rw [if_neg (by simpa [remove] using h), if_pos h]
  · rw [if_pos (by simp [remove]; omega), if_neg h]
    simp [remove, tagOut, tagSkip, List.drop_drop]

end VirtioVlanMangle

theorem output_mangleFor (dst src : VirtioPort) (frame : List UInt8) :
    (mangleFor K dst src).output frame = egressFrame K dst src frame := by
  unfold mangleFor egressFrame VirtioPort.isAccess
  cases dst.isTrunk K <;> cases src.isTrunk K <;> cases src.isNative K <;>
    simp [VirtioVlanMangle.output_add, VirtioVlanMangle.output_remove]

theorem tagBounded_mangleFor (dst src : VirtioPort) : (mangleFor K dst src).TagBounded := by
  unfold mangleFor
  split
  · split
    · exact VirtioVlanMangle.tagBounded_add _
    · exact VirtioVlanMangle.tagBounded_none
  · split
    · exact VirtioVlanMangle.tagBounded_remove
    · exact VirtioVlanMangle.tagBounded_none

namespace InlineTransfer

/-- `Virtio_port::handle_request(src_port, request)` of `port.h` on the port `dst` with
receive queue `q`: the transfer with the mangle for the two ports, its result and the
queue after it. -/
def handleRequest (dst src : VirtioPort) (request : VirtioNetRequest) (q : Virtqueue) :
    Option (Except Exc Result × Virtqueue) :=
  transfer request q (mangleFor K dst src)

/-- A frame `handle_request` delivers into single-buffer chains reads back as the header,
with `num_buffers` the number of chains, followed by the frame as the 802.1Q egress rule
rewrites it for the way from `src` to `dst`. -/
theorem handleRequest_delivers (dst src : VirtioPort) (request : VirtioNetRequest)
    (q : Virtqueue) (hhdr : request.header.length = hdrSize) (hq : SingleBuffers q)
    {q' : Virtqueue} (h : handleRequest K dst src request q = some (.ok .delivered, q')) :
    ∃ es, q'.used = q.used ++ es ∧
      frameBytes q' es = request.header.take 10 ++ le16 (q'.current - q.current) ++
        egressFrame K dst src request.payload := by
  obtain ⟨es, hused, -, hbytes⟩ := transferLoop_delivered copyOutput_copyPkt hhdr
    (tagBounded_mangleFor K dst src) hq _ (State.init request (mangleFor K dst src)) q
    (.inl ⟨rfl, rfl, rfl, rfl, rfl, rfl, rfl⟩) h
  exact ⟨es, hused, hbytes.trans (by rw [output_mangleFor]; rfl)⟩

theorem handleRequest_delivers_access_to_trunk :
    let dst := (VirtioPort.new PseudoVlanIds.sample 1 MacAddr.addrUnknown).setVlanTrunk
      PseudoVlanIds.sample [5]
    let src := (VirtioPort.new PseudoVlanIds.sample 0 MacAddr.addrUnknown).setVlanAccess 5
    let request : VirtioNetRequest := ⟨0, 0, List.replicate 12 0, ⟨(List.range 20).map UInt8.ofNat⟩, []⟩
    let q : Virtqueue := ⟨true, [[.buf (List.replicate 20 0)], [.buf (List.replicate 20 0)]], 0, []⟩
    let q' : Virtqueue := ⟨true,
      [[.buf [0, 0, 0, 0, 0, 0, 0, 0, 0, 0, 2, 0, 0, 1, 2, 3, 4, 5, 6, 7]],
       [.buf [8, 9, 10, 11, 129, 0, 0, 5, 12, 13, 14, 15, 16, 17, 18, 19, 0, 0, 0, 0]]],
      2, [(some 0, 20), (some 1, 16)]⟩
    handleRequest PseudoVlanIds.sample dst src request q = some (.ok .delivered, q') ∧
      ∃ es, q'.used = q.used ++ es ∧
        frameBytes q' es = request.header.take 10 ++ le16 (q'.current - q.current) ++
          egressFrame PseudoVlanIds.sample dst src request.payload := by
  intro dst src request q q'
  have h : handleRequest PseudoVlanIds.sample dst src request q = some (.ok .delivered, q') := by
    decide
  exact ⟨h, handleRequest_delivers PseudoVlanIds.sample dst src request q rfl (by decide) h⟩

end InlineTransfer

end VirtioNetSwitch
