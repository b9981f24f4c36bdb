import VirtioNetSwitch.Request

/-!
# Ports

The part of a `Virtio_port` the switching decision reads: its identity, MAC address and
VLAN configuration, which do not change once the switch has the port, so a port is a value
here.  `get_tx_request` applies the ingress policy and `mangleFor` picks the egress mangle.
-/

namespace VirtioNetSwitch

/-- The configuration of a `Virtio_port` object: `id` is its address, then `_mac`,
`_vlan_id`, `_vlan_bloom_filter` and `_vlan_ids`. -/
structure VirtioPort where
  id : Nat
  mac : MacAddr
  vlanId : Nat
  vlanBloomFilter : Nat
  vlanIds : List Nat
  deriving DecidableEq, Repr

def vlanBloomHash (vid : Nat) : Nat := 1 <<< (vid &&& 31)

variable (K : PseudoVlanIds)

namespace VirtioPort

/-- The constructor: a native port, with `Mac_addr::Addr_unknown` when no MAC is given. -/
def new (id : Nat) (mac : MacAddr) : VirtioPort := ⟨id, mac, K.vlanIdNative, 0, []⟩

def getVlan (p : VirtioPort) : Nat := p.vlanId

def isTrunk (p : VirtioPort) : Bool := p.vlanId == K.vlanIdTrunk

def isNative (p : VirtioPort) : Bool := p.vlanId == K.vlanIdNative

def isAccess (p : VirtioPort) : Bool := !p.isTrunk K && !p.isNative K

def setVlanAccess (p : VirtioPort) (id : Nat) : VirtioPort :=
  { p with vlanId := id, vlanBloomFilter := 0, vlanIds := [] }

/-- `set_vlan_trunk(ids)`: the set of `ids` and the Bloom filter over them. -/
def setVlanTrunk (p : VirtioPort) (ids : List Nat) : VirtioPort :=
  { p with
    vlanId := K.vlanIdTrunk
    vlanBloomFilter := ids.foldl (fun filter id => filter ||| vlanBloomHash id) 0
    vlanIds := ids.foldl (fun s id => s.insert id) [] }

/-- `set_monitor()`: a trunk port with the filter cleared; `_vlan_ids` is kept. -/
def setMonitor (p : VirtioPort) : VirtioPort :=
  { p with vlanId := K.vlanIdTrunk, vlanBloomFilter := 0 }

@[simp] theorem id_new (id : Nat) (mac : MacAddr) : (new K id mac).id = id := rfl

@[simp] theorem mac_new (id : Nat) (mac : MacAddr) : (new K id mac).mac = mac := rfl

@[simp] theorem id_setVlanAccess (p : VirtioPort) (v : Nat) : (p.setVlanAccess v).id = p.id := rfl

@[simp] theorem mac_setVlanAccess (p : VirtioPort) (v : Nat) : (p.setVlanAccess v).mac = p.mac := rfl

@[simp] theorem mac_setVlanTrunk (p : VirtioPort) (ids : List Nat) :
    (p.setVlanTrunk K ids).mac = p.mac := rfl

@[simp] theorem mac_setMonitor (p : VirtioPort) : (p.setMonitor K).mac = p.mac := rfl

@[simp] theorem id_setVlanTrunk (p : VirtioPort) (ids : List Nat) :
    (p.setVlanTrunk K ids).id = p.id := rfl

@[simp] theorem isTrunk_new (id : Nat) (mac : MacAddr) : (new K id mac).isTrunk K = false :=
  beq_eq_false_iff_ne.mpr K.native_ne_trunk

@[simp] theorem isNative_new (id : Nat) (mac : MacAddr) : (new K id mac).isNative K = true :=
  beq_self_eq_true _

@[simp] theorem isAccess_new (id : Nat) (mac : MacAddr) : (new K id mac).isAccess K = false := by
  simp [isAccess]

theorem isAccess_setVlanAccess (p : VirtioPort) {v : Nat} (hv : vlanValidId v = true) :
    (p.setVlanAccess v).isAccess K = true := by
  simp only [isAccess, isTrunk, isNative, setVlanAccess, Bool.and_eq_true, Bool.not_eq_true',
    beq_eq_false_iff_ne]
  exact ⟨K.ne_trunk_of_valid hv, K.ne_native_of_valid hv⟩

end VirtioPort

/-- `match_vlan(id)`: the port's own id, or past the Bloom filter, one of `_vlan_ids`. -/
def VirtioPort.matchVlan (p : VirtioPort) (id : Nat) : Bool :=
  if id == p.vlanId then true
  else if p.vlanBloomFilter &&& vlanBloomHash id == 0 then false
  else id ∈ p.vlanIds

@[simp] theorem VirtioPort.matchVlan_self (p : VirtioPort) : p.matchVlan p.vlanId = true := by
  simp [VirtioPort.matchVlan]

theorem VirtioPort.eq_or_mem_of_matchVlan {p : VirtioPort} {v : Nat} (h : p.matchVlan v = true) :
    v = p.vlanId ∨ v ∈ p.vlanIds := by
  unfold VirtioPort.matchVlan at h
  split at h
  · exact .inl (by simpa using ‹v == p.vlanId›)
  · split at h
    · cases h
    · exact .inr (by simpa using h)

private theorem mem_foldl_insert (v : Nat) (ids acc : List Nat) :
    v ∈ ids.foldl (fun s id => s.insert id) acc ↔ v ∈ acc ∨ v ∈ ids := by
  induction ids generalizing acc with
  | nil => simp
  | cons id ids ih =>
      simp only [List.foldl_cons, ih, List.mem_insert_iff, List.mem_cons]
      tauto

@[simp] theorem VirtioPort.mem_setVlanTrunk_vlanIds (p : VirtioPort) (ids : List Nat) {v : Nat} :
    v ∈ (p.setVlanTrunk K ids).vlanIds ↔ v ∈ ids := by
  simp [VirtioPort.setVlanTrunk, mem_foldl_insert]

private theorem testBit_vlanBloomHash (v : Nat) : (vlanBloomHash v).testBit (v &&& 31) = true := by
  simp [vlanBloomHash, Nat.one_shiftLeft, Nat.testBit_two_pow]

private theorem testBit_bloom_of_acc (ids : List Nat) {acc k : Nat} (h : acc.testBit k = true) :
    (ids.foldl (fun f id => f ||| vlanBloomHash id) acc).testBit k = true := by
  induction ids generalizing acc with
  | nil => exact h
  | cons id ids ih => exact ih (by simp [h])

private theorem testBit_bloom (ids : List Nat) (acc : Nat) {v : Nat} (hv : v ∈ ids) :
    (ids.foldl (fun f id => f ||| vlanBloomHash id) acc).testBit (v &&& 31) = true := by
  induction ids generalizing acc with
  | nil => cases hv
  | cons id ids ih =>
      rcases List.mem_cons.mp hv with rfl | hv
      · exact testBit_bloom_of_acc ids (by simp [testBit_vlanBloomHash])
      · exact ih _ hv

theorem VirtioPort.matchVlan_setVlanTrunk (p : VirtioPort) (ids : List Nat) {v : Nat}
    (hv : v ∈ ids) : (p.setVlanTrunk K ids).matchVlan v = true := by
  have hbit := testBit_bloom ids 0 hv
  unfold VirtioPort.matchVlan
  split
  · rfl
  · split
    · rename_i hzero
      have h0 : ((p.setVlanTrunk K ids).vlanBloomFilter &&& vlanBloomHash v).testBit (v &&& 31) =
          true := by
        simp only [VirtioPort.setVlanTrunk, Nat.testBit_and, hbit, testBit_vlanBloomHash,
          Bool.and_self]
      rw [beq_iff_eq.mp hzero, Nat.zero_testBit] at h0
      cases h0
    · simpa using hv

/-! ## The Bloom filter against the VLAN set -/

def VirtioPort.BloomCovers (p : VirtioPort) : Prop :=
  ∀ v ∈ p.vlanIds, p.vlanBloomFilter.testBit (v &&& 31) = true

theorem VirtioPort.matchVlan_eq_of_bloomCovers {p : VirtioPort} (hp : p.BloomCovers) (v : Nat) :
    p.matchVlan v = (v == p.vlanId || decide (v ∈ p.vlanIds)) := by
  unfold VirtioPort.matchVlan
  split
  · next h => simp [h]
  · next h =>
      simp only [h, Bool.false_or]
      split
      · next hzero =>
          refine (decide_eq_false fun hv => ?_).symm
          have h0 : (p.vlanBloomFilter &&& vlanBloomHash v).testBit (v &&& 31) = true := by
            simp only [Nat.testBit_and, hp v hv, testBit_vlanBloomHash, Bool.and_self]
          rw [beq_iff_eq.mp hzero, Nat.zero_testBit] at h0
          cases h0
      · rfl

theorem VirtioPort.bloomCovers_setVlanTrunk (p : VirtioPort) (ids : List Nat) :
    (p.setVlanTrunk K ids).BloomCovers := fun _ hv =>
  testBit_bloom ids 0 ((VirtioPort.mem_setVlanTrunk_vlanIds K p ids).mp hv)

/-- `set_monitor` clears the filter and keeps `_vlan_ids`: after `set_vlan_trunk([5])` a
port made a monitor has VLAN 5 in its set, yet `match_vlan(5)` fails at the filter. -/
theorem trunk_then_monitor_rejects_member :
    let K : PseudoVlanIds := PseudoVlanIds.sample
    let p : VirtioPort :=
      ((VirtioPort.new K 0 MacAddr.addrUnknown).setVlanTrunk K [5]).setMonitor K
    5 < 2 ^ 16 ∧ 5 ∈ p.vlanIds ∧ 5 ≠ p.vlanId ∧ p.matchVlan 5 = false := by
  decide

/-- A port of VLAN `v`: an access port of `v`, or a trunk port with `v` among its VLANs. -/
def VirtioPort.InVlan (t : VirtioPort) (v : Nat) : Prop :=
  (t.isAccess K = true ∧ t.vlanId = v) ∨ (t.isTrunk K = true ∧ v ∈ t.vlanIds)

/-- The ports `op_create` hands to `add_port`: native, or configured by
`set_vlan_access` or `set_vlan_trunk` with ids `handle_opt_arg` accepted. -/
inductive IsSwitchPort : VirtioPort → Prop
  | native (id : Nat) (mac : MacAddr) : IsSwitchPort (VirtioPort.new K id mac)
  | access (id : Nat) (mac : MacAddr) (v : Nat) (hv : vlanValidId v = true) :
      IsSwitchPort ((VirtioPort.new K id mac).setVlanAccess v)
  | trunk (id : Nat) (mac : MacAddr) (ids : List Nat) (hids : ∀ v ∈ ids, vlanValidId v = true)
      (hne : ids ≠ []) : IsSwitchPort ((VirtioPort.new K id mac).setVlanTrunk K ids)

namespace IsSwitchPort

variable {K}

theorem valid_of_mem_vlanIds {t : VirtioPort} (ht : IsSwitchPort K t) {v : Nat}
    (hv : v ∈ t.vlanIds) : vlanValidId v = true := by
  cases ht with
  | native => simp [VirtioPort.new] at hv
  | access => simp [VirtioPort.new, VirtioPort.setVlanAccess] at hv
  | trunk id mac ids hids => exact hids v ((VirtioPort.mem_setVlanTrunk_vlanIds K _ ids).mp hv)

theorem valid_of_isAccess {t : VirtioPort} (ht : IsSwitchPort K t) (ha : t.isAccess K = true) :
    vlanValidId t.vlanId = true := by
  cases ht with
  | native => simp at ha
  | access id mac v hv => exact hv
  | trunk => simp [VirtioPort.isAccess, VirtioPort.isTrunk, VirtioPort.setVlanTrunk] at ha

theorem inVlan_of_matchVlan {t : VirtioPort} (ht : IsSwitchPort K t) {v : Nat}
    (hv : vlanValidId v = true) (hm : t.matchVlan v = true) : t.InVlan K v := by
  rcases VirtioPort.eq_or_mem_of_matchVlan hm with heq | hmem
  · cases ht with
    | native => exact absurd heq (K.ne_native_of_valid hv)
    | access id mac a ha => exact .inl ⟨VirtioPort.isAccess_setVlanAccess K _ ha, heq.symm⟩
    | trunk => exact absurd heq (K.ne_trunk_of_valid hv)
  · have hvalid := ht.valid_of_mem_vlanIds hmem
    cases ht with
    | trunk => exact .inr ⟨by simp [VirtioPort.isTrunk, VirtioPort.setVlanTrunk], hmem⟩
    | native | access => simp [VirtioPort.new, VirtioPort.setVlanAccess] at hmem

theorem isNative_of_matchVlan {t : VirtioPort} (ht : IsSwitchPort K t)
    (hm : t.matchVlan K.vlanIdNative = true) : t.isNative K = true := by
  rcases VirtioPort.eq_or_mem_of_matchVlan hm with heq | hmem
  · simp [VirtioPort.isNative, ← heq]
  · exact absurd (ht.valid_of_mem_vlanIds hmem) (by simp [K.native_invalid])

end IsSwitchPort

def IsMonitorPort (p : VirtioPort) : Prop :=
  ∃ id mac, p = (VirtioPort.new K id mac).setMonitor K

theorem VirtioPort.bloomCovers_of_created {p : VirtioPort}
    (hp : IsSwitchPort K p ∨ IsMonitorPort K p) : p.BloomCovers := by
  rcases hp with hp | ⟨id, mac, rfl⟩
  · cases hp with
    | native | access => intro v hv; simp [VirtioPort.new, VirtioPort.setVlanAccess] at hv
    | trunk id mac ids => exact VirtioPort.bloomCovers_setVlanTrunk K _ ids
  · intro v hv
    simp [VirtioPort.new, VirtioPort.setMonitor] at hv

/-- On every port `op_create` configures the Bloom filter never turns away a VLAN of the
set: `match_vlan` is exactly the test against the port's own id and its `_vlan_ids`. -/
theorem VirtioPort.matchVlan_of_created {p : VirtioPort} (hp : IsSwitchPort K p ∨ IsMonitorPort K p)
    (v : Nat) : p.matchVlan v = (v == p.vlanId || decide (v ∈ p.vlanIds)) :=
  VirtioPort.matchVlan_eq_of_bloomCovers (VirtioPort.bloomCovers_of_created K hp) v

theorem VirtioPort.matchVlan_of_created_trunk :
    let p := (VirtioPort.new PseudoVlanIds.sample 3 MacAddr.addrUnknown).setVlanTrunk
      PseudoVlanIds.sample [5, 10]
    (IsSwitchPort PseudoVlanIds.sample p ∨ IsMonitorPort PseudoVlanIds.sample p) ∧
      p.matchVlan 10 = (10 == p.vlanId || decide (10 ∈ p.vlanIds)) :=
  have hp : IsSwitchPort PseudoVlanIds.sample ((VirtioPort.new PseudoVlanIds.sample 3
      MacAddr.addrUnknown).setVlanTrunk PseudoVlanIds.sample [5, 10]) :=
    .trunk 3 MacAddr.addrUnknown [5, 10] (by decide) (by decide)
  ⟨.inl hp, VirtioPort.matchVlan_of_created PseudoVlanIds.sample (.inl hp) 10⟩

/-- `get_tx_request()`: the next request of the port's transmit queue, if the port's
ingress policy admits it.  A request the policy drops is destroyed, which finishes
its chain with length 0. -/
def getTxRequest (p : VirtioPort) (q : Virtqueue) :
    Except Exc (Option VirtioNetRequest) × Virtqueue :=
  match getRequest p.id q with
  | (.ok (some r), q') =>
      if p.isTrunk K then
        if r.vlanId K ∈ p.vlanIds then (.ok (some r), q') else (.ok none, q'.finish (some r.head) 0)
      else if p.isAccess K && r.hasVlan then (.ok none, q'.finish (some r.head) 0)
      else (.ok (some r), q')
  | other => other

theorem getTxRequest_sameAvail (p : VirtioPort) (q : Virtqueue) :
    Virtqueue.SameAvail (getRequest p.id q).2 (getTxRequest K p q).2 := by
  unfold getTxRequest
  split
  · next q' r hreq =>
      rw [hreq]
      split
      · split
        · exact .refl _
        · exact Virtqueue.sameAvail_finish _ _ _
      · split
        · exact Virtqueue.sameAvail_finish _ _ _
        · exact .refl _
  · exact .refl _

theorem getTxRequest_new (id : Nat) (mac : MacAddr) (q : Virtqueue) :
    getTxRequest K (VirtioPort.new K id mac) q = getRequest id q := by
  unfold getTxRequest
  split <;> simp_all

/-- The mangle `handle_request` sets up for a frame from `src` to `dst`: tag frames of
an access port for a trunk port, strip the tag of a trunk port's frame for any other
port, and copy verbatim otherwise. -/
def mangleFor (dst src : VirtioPort) : VirtioVlanMangle :=
  if dst.isTrunk K then
    if !src.isTrunk K && !src.isNative K then .add src.vlanId else .none
  else if src.isTrunk K then .remove
  else .none

theorem getTxRequest_spec {p : VirtioPort} {q q' : Virtqueue} {r : VirtioNetRequest}
    (h : getTxRequest K p q = (.ok (some r), q')) :
    getRequest p.id q = (.ok (some r), q') ∧
      (p.isTrunk K = true → r.vlanId K ∈ p.vlanIds) ∧
      (p.isAccess K = true → r.hasVlan = false) := by
  unfold getTxRequest at h
  split at h
  · rename_i q₁ r₁ hreq
    split at h
    · split at h
      · simp only [Prod.mk.injEq, Except.ok.injEq, Option.some.injEq] at h
        obtain ⟨rfl, rfl⟩ := h
        exact ⟨hreq, fun _ => ‹_›, fun ha => by simp_all [VirtioPort.isAccess]⟩
      · simp at h
    · split at h
      · simp at h
      · simp only [Prod.mk.injEq, Except.ok.injEq, Option.some.injEq] at h
        obtain ⟨rfl, rfl⟩ := h
        exact ⟨hreq, fun ht => absurd ht ‹_›, fun ha => by simp_all⟩
  · rename_i hother
    exact absurd h (hother r q')

/-- An access port of VLAN 5 sends a frame tagged with VLAN 10.  In one descriptor
`get_tx_request` drops it; with the head descriptor ending after the two MAC addresses
`has_vlan` sees fewer than 14 bytes and the port admits the tagged frame. -/
theorem access_port_admits_split_tagged_frame :
    (getTxRequest PseudoVlanIds.sample
        ((VirtioPort.new PseudoVlanIds.sample 0 MacAddr.addrUnknown).setVlanAccess 5)
        ⟨true, [[.buf (List.replicate 12 0 ++ (List.replicate 6 0xff ++ [2, 0, 0, 0, 0, 1]) ++
          [0x81, 0x00, 0x00, 0x0a])]], 0, []⟩).1.map Option.isSome = .ok false ∧
    (getTxRequest PseudoVlanIds.sample
        ((VirtioPort.new PseudoVlanIds.sample 0 MacAddr.addrUnknown).setVlanAccess 5)
        ⟨true, [[.buf (List.replicate 12 0 ++ (List.replicate 6 0xff ++ [2, 0, 0, 0, 0, 1])),
          .buf [0x81, 0x00, 0x00, 0x0a]]], 0, []⟩).1.map Option.isSome = .ok true ∧
    ((VirtioPort.new PseudoVlanIds.sample 0 MacAddr.addrUnknown).setVlanAccess 5).isAccess
      PseudoVlanIds.sample = true ∧
    frameHasVlan (List.replicate 6 0xff ++ [2, 0, 0, 0, 0, 1] ++ [0x81, 0x00, 0x00, 0x0a]) =
      true ∧
    IsLayout (List.replicate 12 0)
      (List.replicate 6 0xff ++ [2, 0, 0, 0, 0, 1] ++ [0x81, 0x00, 0x00, 0x0a])
      [List.replicate 12 0 ++ (List.replicate 6 0xff ++ [2, 0, 0, 0, 0, 1]) ++
        [0x81, 0x00, 0x00, 0x0a]] ∧
    IsLayout (List.replicate 12 0)
      (List.replicate 6 0xff ++ [2, 0, 0, 0, 0, 1] ++ [0x81, 0x00, 0x00, 0x0a])
      [List.replicate 12 0 ++ (List.replicate 6 0xff ++ [2, 0, 0, 0, 0, 1]),
        [0x81, 0x00, 0x00, 0x0a]] :=
  ⟨by decide, by decide, by decide, by decide, ⟨rfl, rfl, by decide⟩, ⟨rfl, rfl, by decide⟩⟩

end VirtioNetSwitch
