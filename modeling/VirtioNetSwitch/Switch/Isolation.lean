import VirtioNetSwitch.Switch.Reachable

/-!
# VLAN isolation and flooding

On reachable states with factory-made ports a request reaches, apart from the monitor, only
ports of its effective VLAN; a native port's tagged frames and the flood loop's stop at an
empty slot are the exceptions, each shown by a reachable run.
-/

namespace VirtioNetSwitch

namespace VirtioSwitch

variable (K : PseudoVlanIds) (filterRequest : VirtioNetRequest → Bool)

/-! ## The ports of the array are configured by the factory -/

def PortsConfigured (sw : VirtioSwitch) : Prop := ∀ p, some p ∈ sw.ports → IsSwitchPort K p

theorem portsConfigured_addPort {sw : VirtioSwitch} (hinv : PortsConfigured K sw)
    {p : VirtioPort} (hp : IsSwitchPort K p) : PortsConfigured K (sw.addPort p).2 := by
  obtain ⟨-, hfalse, htrue⟩ := addPort_spec sw p
  cases hres : (sw.addPort p).1
  · rw [hfalse hres]
    exact hinv
  · obtain ⟨idx, -, hports, -⟩ := htrue hres
    intro q hq
    rw [hports] at hq
    rcases List.mem_or_eq_of_mem_set hq with hold | heq
    · exact hinv q hold
    · cases heq
      exact hp

theorem portsConfigured_checkPortsStep (dead : VirtioPort → Bool) {sw : VirtioSwitch}
    (hinv : PortsConfigured K sw) (idx : Nat) : PortsConfigured K (sw.checkPortsStep dead idx) := by
  rcases checkPortsStep_cases dead sw idx with h | ⟨-, -, -, hports, -⟩
  · rw [h]
    exact hinv
  · intro q hq
    rw [hports] at hq
    rcases List.mem_or_eq_of_mem_set hq with hold | heq
    · exact hinv q hold
    · cases heq

theorem Reachable.portsConfigured {sw : VirtioSwitch} (h : Reachable K filterRequest sw) :
    PortsConfigured K sw := by
  induction h with
  | init maxPorts => intro p hp; simp [new] at hp
  | step _ hstep ih =>
      cases hstep with
      | addPort p hp _ => exact portsConfigured_addPort K ih hp
      | addMonitorPort p _ _ =>
          unfold addMonitorPort
          split <;> exact ih
      | checkPorts dead =>
          exact checkPorts_inv (PortsConfigured K) dead
            (fun _ idx h => portsConfigured_checkPortsStep K dead h idx) (fun _ h => h) ih
      | handleTxQueue port _ r => exact ih

/-! ## VLAN isolation -/

theorem txVlan_of_admitted {s : VirtioPort} (hs : IsSwitchPort K s) {q q' : Virtqueue}
    {r : VirtioNetRequest} (hr : getTxRequest K s q = (.ok (some r), q')) :
    (s.isAccess K = true → txVlan K s r = s.vlanId ∧ vlanValidId s.vlanId = true) ∧
    (s.isTrunk K = true →
      txVlan K s r = r.vlanId K ∧ r.vlanId K ∈ s.vlanIds ∧ vlanValidId (r.vlanId K) = true) ∧
    (s.isNative K = true → r.hasVlan = false → txVlan K s r = K.vlanIdNative) := by
  obtain ⟨-, htrunk, haccess⟩ := getTxRequest_spec K hr
  refine ⟨fun ha => ⟨txVlan_untagged K s (haccess ha), hs.valid_of_isAccess ha⟩,
    fun ht => ?_, fun hn hv => ?_⟩
  · have hmem := htrunk ht
    have hvalid := hs.valid_of_mem_vlanIds hmem
    have htag := VirtioNetRequest.hasVlan_of_vlanId_ne (K.ne_native_of_valid hvalid)
    exact ⟨by simp [txVlan, htag], hmem, hvalid⟩
  · rw [txVlan_untagged K s hv]
    simpa [VirtioPort.isNative] using hn

/-- In every reachable state, a request admitted on a port of the array reaches, apart
from the monitor, only ports of the source's VLAN when the source is an access or a
trunk port, and only native ports when a native port sends it untagged. -/
theorem vlan_isolation_of_admitted {sw : VirtioSwitch} (h : Reachable K filterRequest sw)
    {s : VirtioPort} (hs : some s ∈ sw.ports) {q q' : Virtqueue} {r : VirtioNetRequest}
    (hr : getTxRequest K s q = (.ok (some r), q')) {t : VirtioPort}
    (ht : t ∈ (sw.handleTxQueue K filterRequest s r).2) (hmon : sw.monitor ≠ some t) :
    (s.isAccess K = true → t.InVlan K s.vlanId) ∧
    (s.isTrunk K = true → r.vlanId K ∈ s.vlanIds ∧ t.InVlan K (r.vlanId K)) ∧
    (s.isNative K = true → r.hasVlan = false → t.isNative K = true) := by
  have hconf := h.portsConfigured
  obtain ⟨haccess, htrunk, hnative⟩ := txVlan_of_admitted K (hconf s hs) hr
  obtain ⟨-, hm, htmem⟩ := (mem_handleTxQueue K filterRequest h.macInv hs r ht).resolve_left hmon
  have htconf := hconf t htmem
  refine ⟨fun ha => ?_, fun htr => ?_, fun hn hv => ?_⟩
  · obtain ⟨hv, hvalid⟩ := haccess ha
    exact htconf.inVlan_of_matchVlan hvalid (hv ▸ hm)
  · obtain ⟨hv, hmem, hvalid⟩ := htrunk htr
    exact ⟨hmem, htconf.inVlan_of_matchVlan hvalid (hv ▸ hm)⟩
  · exact htconf.isNative_of_matchVlan (hnative hn hv ▸ hm)

theorem reachable_two_access :
    Reachable PseudoVlanIds.sample (fun _ => false)
      (((new 2).addPort ((VirtioPort.new PseudoVlanIds.sample 0 MacAddr.addrUnknown).setVlanAccess 10)).2.addPort
        ((VirtioPort.new PseudoVlanIds.sample 1 MacAddr.addrUnknown).setVlanAccess 10)).2 :=
  .step (.step (.init 2) (.addPort _ (.access 0 _ 10 (by decide))
      (fresh_of_eq (l := [none, none]) (m := none) rfl rfl (by simp) (by simp))))
    (.addPort _ (.access 1 _ 10 (by decide)) (fresh_of_eq
      (l := [some ((VirtioPort.new PseudoVlanIds.sample 0 MacAddr.addrUnknown).setVlanAccess 10), none])
      (m := none) rfl rfl (by simp) (by simp)))

theorem vlan_isolation_two_access_ports :
    let K := PseudoVlanIds.sample
    let s := (VirtioPort.new K 0 MacAddr.addrUnknown).setVlanAccess 10
    let t := (VirtioPort.new K 1 MacAddr.addrUnknown).setVlanAccess 10
    let sw := (((new 2).addPort s).2.addPort t).2
    let frame : List UInt8 :=
      [0xff, 0xff, 0xff, 0xff, 0xff, 0xff, 0x02, 0, 0, 0, 0, 0x01, 0x08, 0x00]
    let txq : Virtqueue := ⟨true, [[.buf (List.replicate 12 0 ++ frame)]], 0, []⟩
    let r : VirtioNetRequest := ⟨0, 0, List.replicate 12 0, ⟨frame⟩, []⟩
    some s ∈ sw.ports ∧ getTxRequest K s txq = (.ok (some r), { txq with current := 1 }) ∧
      t ∈ (sw.handleTxQueue K (fun _ => false) s r).2 ∧ sw.monitor ≠ some t ∧
      ((s.isAccess K = true → t.InVlan K s.vlanId) ∧
        (s.isTrunk K = true → r.vlanId K ∈ s.vlanIds ∧ t.InVlan K (r.vlanId K)) ∧
        (s.isNative K = true → r.hasVlan = false → t.isNative K = true)) := by
  intro K s t sw frame txq r
  have hs : some s ∈ sw.ports := by decide
  have hr : getTxRequest K s txq = (.ok (some r), { txq with current := 1 }) := rfl
  have ht : t ∈ (sw.handleTxQueue K (fun _ => false) s r).2 := by decide
  have hmon : sw.monitor ≠ some t := by decide
  exact ⟨hs, hr, ht, hmon,
    vlan_isolation_of_admitted K (fun _ => false) reachable_two_access hs hr ht hmon⟩

/-- A native port's broadcast tagged with VLAN 10, in a reachable state, reaches an
access port of VLAN 10 and, copied verbatim, a trunk port of VLAN 10. -/
theorem native_port_frame_reaches_access_port :
    let p0 : VirtioPort := VirtioPort.new K 0 MacAddr.addrUnknown
    let p1 := (VirtioPort.new K 1 MacAddr.addrUnknown).setVlanAccess 10
    let p2 := (VirtioPort.new K 2 MacAddr.addrUnknown).setVlanTrunk K [10]
    let sw := ((((new 3).addPort p0).2.addPort p1).2.addPort p2).2
    let frame : List UInt8 := [0xff, 0xff, 0xff, 0xff, 0xff, 0xff, 0x02, 0, 0, 0, 0, 0x01,
      0x81, 0x00, 0x00, 0x0a, 0x08, 0x00]
    let txq : Virtqueue := ⟨true, [[.buf (List.replicate 12 0 ++ frame)]], 0, []⟩
    let r : VirtioNetRequest := ⟨0, 0, List.replicate 12 0, ⟨frame⟩, []⟩
    Reachable K filterRequest sw ∧
      getTxRequest K p0 txq = (.ok (some r), { txq with current := 1 }) ∧
      p0.isNative K = true ∧ p1.isAccess K = true ∧ p2.isTrunk K = true ∧
      (sw.handleTxQueue K filterRequest p0 r).2 = [p1, p2] ∧
      mangleFor K p2 p0 = VirtioVlanMangle.none := by
  have hsw : ((((new 3).addPort (VirtioPort.new K 0 MacAddr.addrUnknown)).2.addPort
      ((VirtioPort.new K 1 MacAddr.addrUnknown).setVlanAccess 10)).2.addPort
      ((VirtioPort.new K 2 MacAddr.addrUnknown).setVlanTrunk K [10])).2 =
      ⟨[some (VirtioPort.new K 0 MacAddr.addrUnknown),
        some ((VirtioPort.new K 1 MacAddr.addrUnknown).setVlanAccess 10),
        some ((VirtioPort.new K 2 MacAddr.addrUnknown).setVlanTrunk K [10])],
        none, 3, 3, .empty, rfl⟩ := rfl
  have htrunk : ((VirtioPort.new K 2 MacAddr.addrUnknown).setVlanTrunk K [10]).isTrunk K = true := by
    simp [VirtioPort.isTrunk, VirtioPort.setVlanTrunk]
  refine ⟨.step (.step (.step (.init 3) (.addPort _ (.native 0 _) ?_))
      (.addPort _ (.access 1 _ 10 (by decide)) ?_)) (.addPort _ (.trunk 2 _ [10] (by decide) (by simp)) ?_),
    (getTxRequest_new K 0 _ _).trans rfl, VirtioPort.isNative_new K 0 _,
    VirtioPort.isAccess_setVlanAccess K _ (by decide), htrunk, ?_, by simp [mangleFor, htrunk]⟩
  · exact fresh_of_eq (l := [none, none, none]) (m := none) rfl rfl (by simp) (by simp)
  · exact fresh_of_eq (l := [some (VirtioPort.new K 0 MacAddr.addrUnknown), none, none])
      (m := none) rfl rfl (by simp) (by simp)
  · exact fresh_of_eq (l := [some (VirtioPort.new K 0 MacAddr.addrUnknown),
      some ((VirtioPort.new K 1 MacAddr.addrUnknown).setVlanAccess 10), none])
      (m := none) rfl rfl (by simp) (by simp)
  · have hv : ∀ p, txVlan K p ⟨0, 0, List.replicate 12 0, ⟨[0xff, 0xff, 0xff, 0xff, 0xff, 0xff,
        0x02, 0, 0, 0, 0, 0x01, 0x81, 0x00, 0x00, 0x0a, 0x08, 0x00]⟩, []⟩ = 10 := fun _ => rfl
    have h1 : ((VirtioPort.new K 1 MacAddr.addrUnknown).setVlanAccess 10).matchVlan 10 = true :=
      VirtioPort.matchVlan_self _
    have h2 := VirtioPort.matchVlan_setVlanTrunk K (VirtioPort.new K 2 MacAddr.addrUnknown) [10]
      (List.mem_singleton_self 10)
    rw [hsw, handleTxQueue_snd, handleTxQueue_fst]
    simp only [txTargets]
    rw [if_neg (by decide)]
    simp only [hv]
    simp [floodLoop, mirror, h1, h2]

/-! ## Flooding -/

theorem mem_take_maxUsed {sw : VirtioSwitch} (hinv : PortsInv sw) {t : VirtioPort}
    (ht : some t ∈ sw.ports) : some t ∈ sw.ports.take sw.maxUsed := by
  obtain ⟨i, hi, hti⟩ := List.mem_iff_getElem.mp ht
  have hlt : i < sw.maxUsed := by
    by_contra hge
    have hnone := hinv.2 i (by omega)
    simp [List.getElem?_eq_getElem hi, hti] at hnone
  exact List.mem_iff_getElem.mpr ⟨i, by simp [hi, hlt], by simp [hti]⟩

/-- Without an empty slot below `_max_used`, a broadcast reaches every port of the array
other than the source that matches its VLAN. -/
theorem broadcast_reaches_all_without_holes {sw : VirtioSwitch}
    (h : Reachable K filterRequest sw) (hfull : ∀ slot ∈ sw.ports.take sw.maxUsed, slot.isSome)
    {s t : VirtioPort} {r : VirtioNetRequest} (hb : r.dstMac.isBroadcast = true)
    (ht : some t ∈ sw.ports) (hne : t.id ≠ s.id) (hm : t.matchVlan (txVlan K s r) = true) :
    t ∈ (sw.handleTxQueue K filterRequest s r).2 := by
  have hflood : t ∈ floodLoop s (txVlan K s r) (sw.ports.take sw.maxUsed) := by
    refine mem_floodLoop_iff.mpr ⟨?_, hne, hm⟩
    rw [List.takeWhile_eq_self_iff.mpr hfull]
    exact mem_take_maxUsed h.portsInv ht
  rw [handleTxQueue_snd]
  simp only [txTargets, hb, Bool.not_true]
  exact List.mem_append_left _ hflood

theorem broadcast_two_access_ports :
    let K := PseudoVlanIds.sample
    let s := (VirtioPort.new K 0 MacAddr.addrUnknown).setVlanAccess 10
    let t := (VirtioPort.new K 1 MacAddr.addrUnknown).setVlanAccess 10
    let sw := (((new 2).addPort s).2.addPort t).2
    let r : VirtioNetRequest := ⟨0, 0, List.replicate 12 0,
      ⟨[0xff, 0xff, 0xff, 0xff, 0xff, 0xff, 0x02, 0, 0, 0, 0, 0x01, 0x08, 0x00]⟩, []⟩
    (∀ slot ∈ sw.ports.take sw.maxUsed, slot.isSome) ∧ r.dstMac.isBroadcast = true ∧
      some t ∈ sw.ports ∧ t.id ≠ s.id ∧ t.matchVlan (txVlan K s r) = true ∧
      t ∈ (sw.handleTxQueue K (fun _ => false) s r).2 := by
  intro K s t sw r
  have hfull : ∀ slot ∈ sw.ports.take sw.maxUsed, slot.isSome := by decide
  have hb : r.dstMac.isBroadcast = true := by decide
  have ht : some t ∈ sw.ports := by decide
  have hne : t.id ≠ s.id := by decide
  have hm : t.matchVlan (txVlan K s r) = true := by decide
  exact ⟨hfull, hb, ht, hne, hm, broadcast_reaches_all_without_holes K (fun _ => false)
    reachable_two_access hfull hb ht hne hm⟩

/-- A broadcast in a reachable state where `check_ports` has emptied slot 1 of three
misses the matching port in slot 2. -/
theorem flood_stops_at_empty_slot :
    let p0 : VirtioPort := VirtioPort.new K 0 MacAddr.addrUnknown
    let p1 := VirtioPort.new K 1 MacAddr.addrUnknown
    let p2 := VirtioPort.new K 2 MacAddr.addrUnknown
    let sw := ((((new 3).addPort p0).2.addPort p1).2.addPort p2).2.checkPorts (·.id == 1)
    let frame : List UInt8 :=
      [0xff, 0xff, 0xff, 0xff, 0xff, 0xff, 0x02, 0, 0, 0, 0, 0x01, 0x08, 0x00]
    let txq : Virtqueue := ⟨true, [[.buf (List.replicate 12 0 ++ frame)]], 0, []⟩
    let r : VirtioNetRequest := ⟨0, 0, List.replicate 12 0, ⟨frame⟩, []⟩
    Reachable K filterRequest sw ∧ sw = ⟨[some p0, none, some p2], none, 3, 3, .empty, rfl⟩ ∧
      getTxRequest K p0 txq = (.ok (some r), { txq with current := 1 }) ∧
      r.dstMac.isBroadcast = true ∧ p2.id ≠ p0.id ∧ p2.matchVlan (txVlan K p0 r) = true ∧
      (sw.handleTxQueue K filterRequest p0 r).2 = [] := by
  have hadd : (((new 3).addPort (VirtioPort.new K 0 MacAddr.addrUnknown)).2.addPort
      (VirtioPort.new K 1 MacAddr.addrUnknown)).2.addPort (VirtioPort.new K 2 MacAddr.addrUnknown) =
      (true, ⟨[some (VirtioPort.new K 0 MacAddr.addrUnknown),
        some (VirtioPort.new K 1 MacAddr.addrUnknown),
        some (VirtioPort.new K 2 MacAddr.addrUnknown)], none, 3, 3, .empty, rfl⟩) := rfl
  have hsw : ((((new 3).addPort (VirtioPort.new K 0 MacAddr.addrUnknown)).2.addPort
      (VirtioPort.new K 1 MacAddr.addrUnknown)).2.addPort
      (VirtioPort.new K 2 MacAddr.addrUnknown)).2.checkPorts (·.id == 1) =
      ⟨[some (VirtioPort.new K 0 MacAddr.addrUnknown), none,
        some (VirtioPort.new K 2 MacAddr.addrUnknown)], none, 3, 3, .empty, rfl⟩ := by
    rw [hadd]
    rfl
  refine ⟨.step (.step (.step (.step (.init 3) (.addPort _ (.native 0 _) ?_))
    (.addPort _ (.native 1 _) ?_)) (.addPort _ (.native 2 _) ?_)) (.checkPorts _), hsw,
    (getTxRequest_new K 0 _ _).trans rfl, by decide, by simp, ?_, by rw [hsw]; rfl⟩
  · exact fresh_of_eq (l := [none, none, none]) (m := none) rfl rfl (by simp) (by simp)
  · exact fresh_of_eq (l := [some (VirtioPort.new K 0 MacAddr.addrUnknown), none, none])
      (m := none) rfl rfl (by simp) (by simp)
  · exact fresh_of_eq (l := [some (VirtioPort.new K 0 MacAddr.addrUnknown),
      some (VirtioPort.new K 1 MacAddr.addrUnknown), none]) (m := none) rfl rfl (by simp) (by simp)
  · rw [txVlan_untagged K _ (by decide)]
    exact VirtioPort.matchVlan_self _

end VirtioSwitch

end VirtioNetSwitch
