import VirtioNetSwitch.Switch.Ports

/-!
# The forwarding decision

`handle_tx_queue` computed as the list of ports it calls `handle_request` on, in order,
after learning the source address; the calls themselves, which may throw, belong to the
runtime model.  The flood loop stops at the first empty slot below `_max_used`.
-/

namespace VirtioNetSwitch

namespace VirtioSwitch

variable (K : PseudoVlanIds) (filterRequest : VirtioNetRequest → Bool)

/-- The flood loop of `handle_tx_queue` over the slots below `_max_used`: it ends at
the first empty slot. -/
def floodLoop (port : VirtioPort) (vlan : Nat) : List (Option VirtioPort) → List VirtioPort
  | [] => []
  | none :: _ => []
  | some target :: rest =>
      (if target.id != port.id && target.matchVlan vlan then [target] else []) ++
        floodLoop port vlan rest

/-- The effective VLAN of a request on a port: its tag if it has one, else the port's. -/
def txVlan (port : VirtioPort) (request : VirtioNetRequest) : Nat :=
  if request.hasVlan then request.vlanId K else port.getVlan

@[simp] theorem txVlan_untagged (port : VirtioPort) {r : VirtioNetRequest} (h : r.hasVlan = false) :
    txVlan K port r = port.getVlan := by
  simp [txVlan, h]

/-- The copy for the monitor, if there is one and `filter_request` lets the frame pass.
`filter.h` is not among the sources: `filterRequest` is that hook, `true` keeping the
frame from the monitor. -/
def mirror (sw : VirtioSwitch) (request : VirtioNetRequest) : List VirtioPort :=
  match sw.monitor with
  | some m => if !filterRequest request then [m] else []
  | none => []

/-- The ports `handle_tx_queue` calls `handle_request` on, in order, once the source
address has been learned. -/
def txTargets (sw : VirtioSwitch) (port : VirtioPort) (request : VirtioNetRequest) :
    List VirtioPort :=
  let vlan := txVlan K port request
  if !request.dstMac.isBroadcast then
    match sw.macTable.lookup request.dstMac with
    | some target =>
        if target.id != port.id && target.matchVlan vlan then
          target :: sw.mirror filterRequest request
        else []
    | none => floodLoop port vlan (sw.ports.take sw.maxUsed) ++ sw.mirror filterRequest request
  else floodLoop port vlan (sw.ports.take sw.maxUsed) ++ sw.mirror filterRequest request

/-- `handle_tx_queue(port)` once `get_tx_request` has returned `request`: the switch
after learning the source address, and the ports `handle_request` is called on. -/
def handleTxQueue (sw : VirtioSwitch) (port : VirtioPort) (request : VirtioNetRequest) :
    VirtioSwitch × List VirtioPort :=
  let sw := { sw with macTable := sw.macTable.learn request.srcMac port }
  (sw, sw.txTargets K filterRequest port request)

@[simp] theorem handleTxQueue_fst (sw : VirtioSwitch) (port : VirtioPort) (r : VirtioNetRequest) :
    (sw.handleTxQueue K filterRequest port r).1 =
      { sw with macTable := sw.macTable.learn r.srcMac port } := rfl

theorem handleTxQueue_snd (sw : VirtioSwitch) (port : VirtioPort) (r : VirtioNetRequest) :
    (sw.handleTxQueue K filterRequest port r).2 =
      (sw.handleTxQueue K filterRequest port r).1.txTargets K filterRequest port r := rfl

theorem mem_floodLoop_iff {port t : VirtioPort} {vlan : Nat} {slots : List (Option VirtioPort)} :
    t ∈ floodLoop port vlan slots ↔
      some t ∈ slots.takeWhile Option.isSome ∧ t.id ≠ port.id ∧ t.matchVlan vlan = true := by
  induction slots with
  | nil => simp [floodLoop]
  | cons slot rest ih =>
      cases slot with
      | none => simp [floodLoop]
      | some target =>
          by_cases ht : t = target
          · subst ht
            simp only [floodLoop, List.mem_append, ih]
            split <;> simp_all
          · simp [floodLoop, ih, ht]

theorem mem_mirror {sw : VirtioSwitch} {r : VirtioNetRequest} {t : VirtioPort}
    (h : t ∈ sw.mirror filterRequest r) : sw.monitor = some t := by
  unfold mirror at h
  split at h
  · split at h <;> simp_all
  · simp at h

theorem mem_txTargets {sw : VirtioSwitch} {port t : VirtioPort} {r : VirtioNetRequest}
    (h : t ∈ sw.txTargets K filterRequest port r) :
    sw.monitor = some t ∨
      (t.id ≠ port.id ∧ t.matchVlan (txVlan K port r) = true ∧
        (some t ∈ sw.ports ∨ sw.macTable.lookup r.dstMac = some t)) := by
  have hflood : t ∈ floodLoop port (txVlan K port r) (sw.ports.take sw.maxUsed) →
      t.id ≠ port.id ∧ t.matchVlan (txVlan K port r) = true ∧ some t ∈ sw.ports := by
    intro hf
    obtain ⟨hmem, hne, hm⟩ := mem_floodLoop_iff.mp hf
    exact ⟨hne, hm, List.mem_of_mem_take ((List.takeWhile_sublist _).subset hmem)⟩
  unfold txTargets at h
  simp only at h
  split at h
  · split at h
    · rename_i target hlookup
      split at h
      · rename_i hm
        simp only [Bool.and_eq_true, bne_iff_ne, ne_eq] at hm
        rcases List.mem_cons.mp h with rfl | h
        · exact .inr ⟨hm.1, hm.2, .inr hlookup⟩
        · exact .inl (mem_mirror filterRequest h)
      · simp at h
    · rcases List.mem_append.mp h with h | h
      · obtain ⟨hne, hm, hmem⟩ := hflood h
        exact .inr ⟨hne, hm, .inl hmem⟩
      · exact .inl (mem_mirror filterRequest h)
  · rcases List.mem_append.mp h with h | h
    · obtain ⟨hne, hm, hmem⟩ := hflood h
      exact .inr ⟨hne, hm, .inl hmem⟩
    · exact .inl (mem_mirror filterRequest h)

end VirtioSwitch

end VirtioNetSwitch
