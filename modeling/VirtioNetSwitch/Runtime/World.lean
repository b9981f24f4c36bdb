import VirtioNetSwitch.Transfer.Pending
import VirtioNetSwitch.Switch.Forward

/-!
# The switch at run time

A `World` is the switch with every port's queues, pending transfers and notification
state, indexed by the port's address; a shared request is destroyed, finishing its chain,
when the last pending transfer holding it goes.
-/

namespace VirtioNetSwitch

/-- Modelled from the spec: a port's device state.  `kickDisabled` and `kickPending` are
the state of `kick_disable_and_remember` and `kick_emit_and_enable`, `irqs` counts the
notifications the client received, and `failed` is `device_error()`, which
`device_needs_reset()` reports. -/
structure PortState where
  txq : Virtqueue
  rxq : Virtqueue
  pending : List VirtioNetTransfer
  kickDisabled : Bool
  kickPending : Bool
  irqs : Nat
  failed : Bool
  deriving Repr

namespace PortState

def init : PortState := ⟨⟨false, [], 0, []⟩, ⟨false, [], 0, []⟩, [], false, false, 0, false⟩

/-- Modelled from the spec: the notification `finish` sends, held back and remembered
while kicks are disabled. -/
def notify (ps : PortState) : PortState :=
  if ps.kickDisabled then { ps with kickPending := true } else { ps with irqs := ps.irqs + 1 }

/-- The receive queue after a device operation, with the notification `finish` sends
when the operation published something. -/
def setRx (ps : PortState) (q : Virtqueue) : PortState :=
  if ps.rxq.used.length < q.used.length then { ps with rxq := q }.notify else { ps with rxq := q }

def setTx (ps : PortState) (q : Virtqueue) : PortState :=
  if ps.txq.used.length < q.used.length then { ps with txq := q }.notify else { ps with txq := q }

def kickDisableAndRemember (ps : PortState) : PortState := { ps with kickDisabled := true }

def kickEmitAndEnable (ps : PortState) : PortState :=
  { ps with kickDisabled := false, kickPending := false,
            irqs := if ps.kickPending then ps.irqs + 1 else ps.irqs }

def txWorkPending (ps : PortState) : Bool := ps.txq.ready && ps.txq.descAvail

def rxWorkPending (ps : PortState) : Bool :=
  ps.rxq.ready && !ps.pending.isEmpty && ps.rxq.descAvail

@[simp] theorem notify_pending (ps : PortState) : ps.notify.pending = ps.pending := by
  unfold notify
  split <;> rfl

@[simp] theorem setRx_pending (ps : PortState) (q : Virtqueue) : (ps.setRx q).pending = ps.pending := by
  unfold setRx
  split <;> simp

@[simp] theorem setTx_pending (ps : PortState) (q : Virtqueue) : (ps.setTx q).pending = ps.pending := by
  unfold setTx
  split <;> simp

@[simp] theorem notify_txq (ps : PortState) : ps.notify.txq = ps.txq := by
  unfold notify
  split <;> rfl

@[simp] theorem notify_rxq (ps : PortState) : ps.notify.rxq = ps.rxq := by
  unfold notify
  split <;> rfl

@[simp] theorem setRx_rxq (ps : PortState) (q : Virtqueue) : (ps.setRx q).rxq = q := by
  unfold setRx
  split <;> simp

@[simp] theorem setRx_txq (ps : PortState) (q : Virtqueue) : (ps.setRx q).txq = ps.txq := by
  unfold setRx
  split <;> simp

@[simp] theorem setTx_txq (ps : PortState) (q : Virtqueue) : (ps.setTx q).txq = q := by
  unfold setTx
  split <;> simp

@[simp] theorem setTx_rxq (ps : PortState) (q : Virtqueue) : (ps.setTx q).rxq = ps.rxq := by
  unfold setTx
  split <;> simp

end PortState

/-- The switch, the device state of every port by address, and the address the next
port object gets. -/
structure World where
  sw : VirtioSwitch
  port : Nat → PortState
  nextId : Nat

namespace World

variable (K : PseudoVlanIds)

def init (maxPorts : Nat) : World := ⟨VirtioSwitch.new maxPorts, fun _ => PortState.init, 0⟩

def update (w : World) (id : Nat) (f : PortState → PortState) : World :=
  { w with port := fun j => if j = id then f (w.port id) else w.port j }

@[simp] theorem update_sw (w : World) (id : Nat) (f : PortState → PortState) :
    (w.update id f).sw = w.sw := rfl

@[simp] theorem update_port_self (w : World) (id : Nat) (f : PortState → PortState) :
    (w.update id f).port id = f (w.port id) := by
  simp [update]

theorem update_port_ne (w : World) {id j : Nat} (f : PortState → PortState) (h : j ≠ id) :
    (w.update id f).port j = w.port j := by
  simp [update, h]

def arrayPorts (w : World) : List VirtioPort := w.sw.ports.filterMap fun slot => slot

theorem mem_arrayPorts {w : World} {p : VirtioPort} : p ∈ w.arrayPorts ↔ some p ∈ w.sw.ports := by
  simp [arrayPorts]

/-- The ports registered with the switch: those of the array, then the monitor. -/
def registered (w : World) : List VirtioPort := w.arrayPorts ++ w.sw.monitor.toList

def pendingRequests (w : World) : List VirtioNetRequest :=
  w.registered.flatMap fun p => (w.port p.id).pending.map (·.request)

/-- Dropping a reference to a request: when no pending transfer holds it any more the
request is destroyed, finishing its chain on the source's transmit queue with length 0. -/
def release (w : World) (r : VirtioNetRequest) : World :=
  if r ∈ w.pendingRequests then w
  else w.update r.dev fun ps => ps.setTx (ps.txq.finish (some r.head) 0)

/-- `~Virtio_net_transfer` for a transfer already taken out of its list: `finish_transfer()`
on the destination's receive queue, then its reference to the request goes. -/
def destroy (w : World) (t : VirtioNetTransfer) : World :=
  (w.update t.dst fun ps => ps.setRx (t.finishTransfer ps.rxq).2).release t.request

/-- `Virtio_port::handle_request(src_port, request)` on destination `dst`: a transfer
with the mangle for the two ports, run at once; on `false` it joins the destination's
pending list (and its timeout starts), on an exception it is destroyed and the
exception goes on.  The caller still holds the request. -/
def handleRequest (w : World) (dst src : VirtioPort) (r : VirtioNetRequest) :
    Except Exc Unit × World :=
  let t := VirtioNetTransfer.new r dst.id (mangleFor K dst src)
  match t.transfer (w.port dst.id).rxq with
  | (.ok true, _, q) => (.ok (), w.update dst.id (·.setRx q))
  | (.ok false, t, q) =>
      (.ok (), w.update dst.id fun ps => { ps.setRx q with pending := ps.pending ++ [t] })
  | (.error e, t, q) =>
      let w := w.update dst.id (·.setRx q)
      (.error e, w.update t.dst fun ps => ps.setRx (t.finishTransfer ps.rxq).2)

/-- The loop of `handle_rx_queue()` over the pending transfers of port `id`, in list
order: a delivered transfer leaves the list and is destroyed, the first that cannot
finish stays and stops the loop, and one that throws is destroyed by its `unique_ptr`
and the exception goes on. -/
def rxDeliver (id : Nat) : List VirtioNetTransfer → World → Except Exc Unit × World
  | [], w => (.ok (), w)
  | t :: rest, w =>
      match t.transfer (w.port t.dst).rxq with
      | (.ok true, _, q) =>
          let w := (w.update t.dst (·.setRx q)).update id fun ps => { ps with pending := rest }
          rxDeliver id rest (w.release t.request)
      | (.ok false, t', q) =>
          (.ok (), (w.update t.dst (·.setRx q)).update id fun ps => { ps with pending := t' :: rest })
      | (.error e, t', q) =>
          let w := (w.update t.dst (·.setRx q)).update id fun ps => { ps with pending := rest }
          (.error e, w.destroy t')

def handleRxQueue (w : World) (id : Nat) : Except Exc Unit × World :=
  rxDeliver id (w.port id).pending w

/-- `Virtio_net_transfer::expired()` for the `i`-th pending transfer of port `id`: it
leaves the list and is deleted. -/
def expired (w : World) (id i : Nat) : World :=
  match (w.port id).pending.get? i with
  | some t => (w.update id fun ps => { ps with pending := ps.pending.eraseIdx i }).destroy t
  | none => w

def destroyPending (id : Nat) : List VirtioNetTransfer → World → World
  | [], w => w
  | t :: rest, w => destroyPending id rest ((w.update id fun ps => { ps with pending := rest }).destroy t)

def destroyPort (w : World) (p : VirtioPort) : World := destroyPending p.id (w.port p.id).pending w

/-- A round of the loop of `check_ports()`: the switch's round, then the deleted
port's destructor. -/
def checkPortsStepRt (dead : VirtioPort → Bool) (w : World) (idx : Nat) : World :=
  match w.sw.deletedAt dead idx with
  | some p => destroyPort { w with sw := w.sw.checkPortsStep dead idx } p
  | none => w

def checkPortsRt (w : World) (dead : VirtioPort → Bool) : World :=
  let w' := (List.range w.sw.maxUsed).foldl (checkPortsStepRt dead) w
  match w'.sw.monitor with
  | some m => if dead m then destroyPort { w' with sw := { w'.sw with monitor := none } } m else w'
  | none => w'

/-! ## What the handlers change

The receive side and the deletion of transfers and requests change the ports' device
states only; `check_ports` changes the switch as the switch model does. -/

def DevicesOnly (w w' : World) : Prop := w'.sw = w.sw ∧ w'.nextId = w.nextId

theorem DevicesOnly.refl (w : World) : DevicesOnly w w := ⟨rfl, rfl⟩

theorem DevicesOnly.trans {w₁ w₂ w₃ : World} (h₁ : DevicesOnly w₁ w₂) (h₂ : DevicesOnly w₂ w₃) :
    DevicesOnly w₁ w₃ :=
  ⟨h₂.1.trans h₁.1, h₂.2.trans h₁.2⟩

theorem devicesOnly_update (w : World) (id : Nat) (f : PortState → PortState) :
    DevicesOnly w (w.update id f) :=
  ⟨rfl, rfl⟩

theorem devicesOnly_release (w : World) (r : VirtioNetRequest) : DevicesOnly w (w.release r) := by
  unfold release
  split
  · exact .refl w
  · exact devicesOnly_update _ _ _

theorem devicesOnly_destroy (w : World) (t : VirtioNetTransfer) : DevicesOnly w (w.destroy t) :=
  (devicesOnly_update _ _ _).trans (devicesOnly_release _ _)

theorem devicesOnly_handleRequest (w : World) (dst src : VirtioPort) (r : VirtioNetRequest) :
    DevicesOnly w (handleRequest K w dst src r).2 := by
  unfold handleRequest
  dsimp only
  split
  · exact devicesOnly_update _ _ _
  · exact devicesOnly_update _ _ _
  · exact ⟨rfl, rfl⟩

theorem devicesOnly_rxDeliver (id : Nat) :
    ∀ (ts : List VirtioNetTransfer) (w : World), DevicesOnly w (rxDeliver id ts w).2
  | [], w => .refl w
  | t :: rest, w => by
      simp only [rxDeliver]
      split
      · next q _ =>
          have h₁ : DevicesOnly w
              ((w.update t.dst (·.setRx q)).update id fun ps => { ps with pending := rest }) :=
            ⟨rfl, rfl⟩
          exact h₁.trans ((devicesOnly_release _ _).trans (devicesOnly_rxDeliver id rest _))
      · exact ⟨rfl, rfl⟩
      · next q _ =>
          have h₁ : DevicesOnly w
              ((w.update t.dst (·.setRx q)).update id fun ps => { ps with pending := rest }) :=
            ⟨rfl, rfl⟩
          exact h₁.trans (devicesOnly_destroy _ _)

theorem devicesOnly_handleRxQueue (w : World) (id : Nat) : DevicesOnly w (w.handleRxQueue id).2 :=
  devicesOnly_rxDeliver id _ w

theorem devicesOnly_expired (w : World) (id i : Nat) : DevicesOnly w (w.expired id i) := by
  unfold expired
  split
  · exact (devicesOnly_update _ _ _).trans (devicesOnly_destroy _ _)
  · exact .refl w

theorem devicesOnly_destroyPending (id : Nat) :
    ∀ (ts : List VirtioNetTransfer) (w : World), DevicesOnly w (destroyPending id ts w)
  | [], w => .refl w
  | _ :: rest, _ =>
      ((devicesOnly_update _ _ _).trans (devicesOnly_destroy _ _)).trans
        (devicesOnly_destroyPending id rest _)

theorem devicesOnly_destroyPort (w : World) (p : VirtioPort) : DevicesOnly w (w.destroyPort p) :=
  devicesOnly_destroyPending _ _ _

/-! ## Pending lists under deletion -/

theorem update_port (w : World) (id : Nat) (f : PortState → PortState) (j : Nat) :
    (w.update id f).port j = if j = id then f (w.port id) else w.port j := rfl

@[simp] theorem release_port_pending (w : World) (r : VirtioNetRequest) (j : Nat) :
    ((w.release r).port j).pending = (w.port j).pending := by
  unfold release
  split
  · rfl
  · rw [update_port]
    split <;> simp_all

@[simp] theorem destroy_port_pending (w : World) (t : VirtioNetTransfer) (j : Nat) :
    ((w.destroy t).port j).pending = (w.port j).pending := by
  simp only [destroy, release_port_pending, update_port]
  split <;> simp_all

theorem destroyPending_port_pending (id : Nat) (ts : List VirtioNetTransfer) (w : World) (j : Nat) :
    ((destroyPending id ts w).port j).pending =
      if j = id ∧ ts ≠ [] then [] else (w.port j).pending := by
  induction ts generalizing w with
  | nil => simp [destroyPending]
  | cons t rest ih =>
      simp only [destroyPending, ih, destroy_port_pending, update_port]
      by_cases hj : j = id <;> by_cases hr : rest = [] <;> simp [hj, hr]

theorem destroyPort_port_pending (w : World) (p : VirtioPort) (j : Nat) :
    ((w.destroyPort p).port j).pending = if j = p.id then [] else (w.port j).pending := by
  rw [destroyPort, destroyPending_port_pending]
  by_cases hj : j = p.id
  · subst hj
    by_cases hp : (w.port p.id).pending = [] <;> simp [hp]
  · simp [hj]

/-! ## `check_ports` at run time -/

theorem checkPortsStepRt_sw (dead : VirtioPort → Bool) (w : World) (idx : Nat) :
    (checkPortsStepRt dead w idx).sw = w.sw.checkPortsStep dead idx ∧
      (checkPortsStepRt dead w idx).nextId = w.nextId := by
  unfold checkPortsStepRt VirtioSwitch.checkPortsStep
  split
  · exact devicesOnly_destroyPort _ _
  · simp_all

theorem checkPortsRt_sw (w : World) (dead : VirtioPort → Bool) :
    (w.checkPortsRt dead).sw = w.sw.checkPorts dead ∧ (w.checkPortsRt dead).nextId = w.nextId := by
  have hfold : ∀ (l : List Nat) (w : World),
      (l.foldl (checkPortsStepRt dead) w).sw = l.foldl (VirtioSwitch.checkPortsStep dead) w.sw ∧
        (l.foldl (checkPortsStepRt dead) w).nextId = w.nextId := by
    intro l
    induction l with
    | nil => exact fun w => ⟨rfl, rfl⟩
    | cons idx l ih =>
        intro w
        obtain ⟨hsw, hid⟩ := checkPortsStepRt_sw dead w idx
        simp only [List.foldl_cons, (ih _).1, (ih _).2, hsw, hid, and_self]
  obtain ⟨hsw, hid⟩ := hfold (List.range w.sw.maxUsed) w
  unfold checkPortsRt VirtioSwitch.checkPorts
  dsimp only
  rw [← hsw]
  split
  · split
    · exact ⟨(devicesOnly_destroyPort _ _).1.trans (by simp_all),
        (devicesOnly_destroyPort _ _).2.trans hid⟩
    · simp_all
  · simp_all

end World

end VirtioNetSwitch
