import VirtioNetSwitch.Runtime.Irq
import VirtioNetSwitch.Switch.Reachable

/-!
# The runtime refines the switch model

A run of the server loop changes the switch only by steps of the switch model, so what is
proved of reachable switch states holds at run time.
-/

namespace VirtioNetSwitch

namespace World

variable (K : PseudoVlanIds) (filterRequest : VirtioNetRequest → Bool)

/-- Requests of one port forwarded one after another, each teaching the switch its
source address. -/
def Forwards (port : VirtioPort) : VirtioSwitch → VirtioSwitch → Prop :=
  Relation.ReflTransGen fun sw sw' => ∃ r, sw' = (sw.handleTxQueue K filterRequest port r).1

/-- What a kick of `port` does to the world's switch part: forwarding steps of that
port, with the next address unchanged. -/
def TxSteps (port : VirtioPort) (w w' : World) : Prop :=
  w'.nextId = w.nextId ∧ Forwards K filterRequest port w.sw w'.sw

variable {K filterRequest}

theorem Forwards.ports_eq {port : VirtioPort} {sw sw' : VirtioSwitch}
    (h : Forwards K filterRequest port sw sw') : sw'.ports = sw.ports ∧ sw'.monitor = sw.monitor := by
  induction h with
  | refl => exact ⟨rfl, rfl⟩
  | tail _ hstep ih =>
      obtain ⟨r, rfl⟩ := hstep
      exact ih

theorem Forwards.reachable {port : VirtioPort} {sw sw' : VirtioSwitch}
    (h : Forwards K filterRequest port sw sw') (hport : some port ∈ sw.ports)
    (hsw : VirtioSwitch.Reachable K filterRequest sw) : VirtioSwitch.Reachable K filterRequest sw' := by
  induction h with
  | refl => exact hsw
  | tail hprev hstep ih =>
      obtain ⟨r, rfl⟩ := hstep
      exact .step ih (.handleTxQueue port ((Forwards.ports_eq hprev).1 ▸ hport) r)

theorem TxSteps.of_devicesOnly {port : VirtioPort} {w w' : World} (h : DevicesOnly w w') :
    TxSteps K filterRequest port w w' :=
  ⟨h.2, h.1 ▸ .refl⟩

theorem TxSteps.trans {port : VirtioPort} {w₁ w₂ w₃ : World} (h₁ : TxSteps K filterRequest port w₁ w₂)
    (h₂ : TxSteps K filterRequest port w₂ w₃) : TxSteps K filterRequest port w₁ w₃ :=
  ⟨h₂.1.trans h₁.1, h₁.2.trans h₂.2⟩

/-! ## A kick -/

theorem txSteps_handleTxQueueRt (w : World) (port : VirtioPort) :
    TxSteps K filterRequest port w (handleTxQueueRt K filterRequest w port).2 := by
  obtain ⟨hid, hsw | ⟨r, hsw⟩⟩ := handleTxQueueRt_sw K filterRequest w port
  · exact ⟨hid, hsw ▸ .refl⟩
  · exact ⟨hid, hsw ▸ .single ⟨r, rfl⟩⟩

theorem txSteps_handlePortIrq (w : World) (port : VirtioPort) :
    TxSteps K filterRequest port w (handlePortIrq K filterRequest w port).2 :=
  irqLoop_inv K filterRequest port (TxSteps K filterRequest port w)
    (fun _ _ _ _ h => h.trans (.of_devicesOnly (devicesOnly_update _ _ _)))
    (fun _ h => h.trans (txSteps_handleTxQueueRt _ port))
    (fun _ _ h => h.trans (.of_devicesOnly (devicesOnly_handleRxQueue _ _))) _
    (.of_devicesOnly (.refl w))

/-! ## The factory's ports -/

theorem configure_isSwitchPort {id : Nat} {mac : MacAddr} {vlan : PortVlan} {p : VirtioPort}
    (h : configure K (VirtioPort.new K id mac) vlan = some p) : IsSwitchPort K p ∧ p.id = id := by
  cases vlan with
  | native =>
      cases h
      exact ⟨.native id mac, rfl⟩
  | access v =>
      simp only [configure] at h
      split at h
      · next hv =>
          cases h
          exact ⟨.access id mac v hv, rfl⟩
      · cases h
  | trunk ids =>
      simp only [configure] at h
      split at h
      · next hids =>
          cases h
          exact ⟨.trunk id mac ids (List.all_eq_true.mp hids.2) hids.1, rfl⟩
      · cases h

/-! ## The invariant of a run -/

variable (K filterRequest) in
/-- What every run keeps: the switch part is a reachable state of the switch model, and
every registered port has an address below the next one. -/
structure Inv (w : World) : Prop where
  reachable : VirtioSwitch.Reachable K filterRequest w.sw
  ids_lt : ∀ q, w.sw.Registered q → q.id < w.nextId

variable (K filterRequest) in
theorem Inv.init (maxPorts : Nat) : Inv K filterRequest (init maxPorts) := by
  refine ⟨.init maxPorts, fun q hq => ?_⟩
  rcases hq with hq | hq <;> simp [World.init, VirtioSwitch.new] at hq

theorem Inv.of_devicesOnly {w w' : World} (h : Inv K filterRequest w) (hw : DevicesOnly w w') :
    Inv K filterRequest w' :=
  ⟨hw.1 ▸ h.reachable, fun q hq => hw.2 ▸ h.ids_lt q (hw.1 ▸ hq)⟩

theorem Inv.of_txSteps {w w' : World} {port : VirtioPort} (h : Inv K filterRequest w)
    (hw : TxSteps K filterRequest port w w') (hport : some port ∈ w.sw.ports) :
    Inv K filterRequest w' := by
  obtain ⟨hports, hmon⟩ := hw.2.ports_eq
  refine ⟨hw.2.reachable hport h.reachable, fun q hq => hw.1 ▸ h.ids_lt q ?_⟩
  rcases hq with hq | hq
  · exact .inl (hports ▸ hq)
  · exact .inr (hmon ▸ hq)

variable (K filterRequest) in
/-- The state a kick of `port` works in: a world of a run, with `port` in the array. -/
def KickReady (port : VirtioPort) (w : World) : Prop :=
  Inv K filterRequest w ∧ some port ∈ w.sw.ports

theorem KickReady.of_txSteps {port : VirtioPort} {w w' : World}
    (h : KickReady K filterRequest port w) (hw : TxSteps K filterRequest port w w') :
    KickReady K filterRequest port w' :=
  ⟨h.1.of_txSteps hw h.2, (Forwards.ports_eq hw.2).1 ▸ h.2⟩

theorem KickReady.of_devicesOnly {port : VirtioPort} {w w' : World}
    (h : KickReady K filterRequest port w) (hw : DevicesOnly w w') : KickReady K filterRequest port w' :=
  h.of_txSteps (.of_devicesOnly hw)

private theorem inv_register_addPort {w : World} (h : Inv K filterRequest w) {p : VirtioPort}
    (hp : IsSwitchPort K p) (hid : p.id = w.nextId) :
    Inv K filterRequest (({ w with nextId := w.nextId + 1 } : World).register (w.sw.addPort p) p.id) := by
  unfold register
  split
  · refine ⟨.step h.reachable (.addPort p hp fun q hq => hid ▸ Nat.ne_of_lt (h.ids_lt q hq)),
      fun q hq => ?_⟩
    rcases VirtioSwitch.registered_addPort hq with hq | rfl
    · exact Nat.lt_succ_of_lt (h.ids_lt q hq)
    · exact hid ▸ Nat.lt_succ_self _
  · exact ⟨h.reachable, fun q hq => Nat.lt_succ_of_lt (h.ids_lt q hq)⟩

private theorem inv_register_addMonitorPort {w : World} (h : Inv K filterRequest w) (mac : MacAddr) :
    let p := (VirtioPort.new K w.nextId mac).setMonitor K
    Inv K filterRequest (({ w with nextId := w.nextId + 1 } : World).register (w.sw.addMonitorPort p) p.id) := by
  intro p
  unfold register
  split
  · refine ⟨.step h.reachable (.addMonitorPort p ⟨w.nextId, mac, rfl⟩ fun q hq =>
      Nat.ne_of_lt (h.ids_lt q hq)), fun q hq => ?_⟩
    rcases VirtioSwitch.registered_addMonitorPort.mp hq with hq | ⟨-, rfl⟩
    · exact Nat.lt_succ_of_lt (h.ids_lt q hq)
    · exact Nat.lt_succ_self _
  · exact ⟨h.reachable, fun q hq => Nat.lt_succ_of_lt (h.ids_lt q hq)⟩

theorem Inv.step {w : World} (h : Inv K filterRequest w) (e : Event) :
    Inv K filterRequest (step K filterRequest w e) := by
  cases e with
  | createPort mac vlan =>
      simp only [World.step]
      split
      · next p hconf =>
          obtain ⟨hp, hid⟩ := configure_isSwitchPort hconf
          exact inv_register_addPort h hp hid
      · exact ⟨h.reachable, fun q hq => Nat.lt_succ_of_lt (h.ids_lt q hq)⟩
  | createMonitor mac => exact inv_register_addMonitorPort h mac
  | capDeleted gone =>
      obtain ⟨hsw, hid⟩ := checkPortsRt_sw w fun p => decide (p.id ∈ gone)
      refine ⟨hsw ▸ .step h.reachable (.checkPorts _), fun q hq => hid ▸ h.ids_lt q ?_⟩
      exact VirtioSwitch.registered_checkPorts (hsw ▸ hq)
  | kick id =>
      simp only [World.step]
      split
      · next p hp =>
          exact h.of_txSteps (txSteps_handlePortIrq w p)
            (mem_arrayPorts.mp (List.mem_of_find?_eq_some hp))
      · split
        · split
          · exact h.of_devicesOnly (devicesOnly_monitorIrq _ _ _)
          · exact h
        · exact h
  | timeout id i => exact h.of_devicesOnly (devicesOnly_expired _ _ _)
  | guestReady id | guestTx id _ | guestRx id _ => exact h.of_devicesOnly (devicesOnly_update _ _ _)

theorem Inv.run {w : World} (h : Inv K filterRequest w) (es : List Event) :
    Inv K filterRequest (run K filterRequest w es) := by
  induction es generalizing w with
  | nil => exact h
  | cons e es ih => exact ih (h.step e)

variable (K filterRequest) in
/-- The switch part of every world a run reaches is a reachable state of the switch
model. -/
theorem run_reachable (maxPorts : Nat) (es : List Event) :
    VirtioSwitch.Reachable K filterRequest (run K filterRequest (init maxPorts) es).sw :=
  ((Inv.init K filterRequest maxPorts).run es).reachable

end World

end VirtioNetSwitch
