import VirtioNetSwitch.Runtime.World

/-!
# Port interrupts and the event loop

`handle_port_irq`, the monitor's kick handler and the server loop's events, with `run`
applying a list of them.  `Bad_descriptor` is caught and reported as a device error of the
port; every other exception leaves the handler.
-/

namespace VirtioNetSwitch

namespace World

variable (K : PseudoVlanIds) (filterRequest : VirtioNetRequest → Bool)

/-- The calls of `handle_request` in `handle_tx_queue`, one destination after another; an
exception ends them. -/
def deliver (src : VirtioPort) (r : VirtioNetRequest) :
    List VirtioPort → World → Except Exc Unit × World
  | [], w => (.ok (), w)
  | d :: ds, w =>
      match handleRequest K w d src r with
      | (.ok (), w) => deliver src r ds w
      | (.error e, w) => (.error e, w)

/-- `handle_tx_queue(port)` at run time: the request `get_tx_request` returns is learnt
and handed to its destinations; the reference `handle_tx_queue` holds goes at the end,
on the way out of an exception too. -/
def handleTxQueueRt (w : World) (port : VirtioPort) : Except Exc Unit × World :=
  match getTxRequest K port (w.port port.id).txq with
  | (.ok (some r), q) =>
      let w := w.update port.id (·.setTx q)
      let next := w.sw.handleTxQueue K filterRequest port r
      let res := deliver K port r next.2 { w with sw := next.1 }
      (res.1, res.2.release r)
  | (.ok none, q) => (.ok (), w.update port.id (·.setTx q))
  | (.error e, q) => (.error e, w.update port.id (·.setTx q))

/-- `while (port->tx_work_pending()) handle_tx_queue(port);`.  Every call takes a chain
of the transmit queue, so the fuel `txFuel` passes covers the loop. -/
def txLoop (port : VirtioPort) : Nat → World → Except Exc Unit × World
  | 0, w => (.ok (), w)
  | n + 1, w =>
      if (w.port port.id).txWorkPending then
        match handleTxQueueRt K filterRequest w port with
        | (.ok (), w) => txLoop port n w
        | (.error e, w) => (.error e, w)
      else (.ok (), w)

def rxLoop (id : Nat) : Nat → World → Except Exc Unit × World
  | 0, w => (.ok (), w)
  | n + 1, w =>
      if (w.port id).rxWorkPending then
        match handleRxQueue w id with
        | (.ok (), w) => rxLoop id n w
        | (.error e, w) => (.error e, w)
      else (.ok (), w)

/-- The chains of the port's transmit queue, a bound on the rounds of `txLoop`. -/
def txFuel (w : World) (id : Nat) : Nat := (w.port id).txq.avail.length + 1

def rxFuel (w : World) (id : Nat) : Nat := (w.port id).pending.length + 1

def forPorts (w : World) (f : PortState → PortState) : World :=
  w.sw.ports.foldl (fun w slot => match slot with
    | some p => w.update p.id f
    | none => w) w

/-- `all_kick_disable_remember()`: over the array, the monitor apart. -/
def allKickDisableRemember (w : World) : World := w.forPorts PortState.kickDisableAndRemember

def allKickEmitEnable (w : World) : World := w.forPorts PortState.kickEmitAndEnable

def irqLoop (port : VirtioPort) : Nat → World → Except Exc Unit × World
  | 0, w => (.ok (), w)
  | n + 1, w =>
      let w := allKickDisableRemember w
      match txLoop K filterRequest port (txFuel w port.id) w with
      | (.error .badDescriptor, w) =>
          (.ok (), allKickEmitEnable (w.update port.id fun ps => { ps with failed := true }))
      | (.error .runtimeError, w) => (.error .runtimeError, w)
      | (.ok (), w) =>
          match rxLoop port.id (rxFuel w port.id) w with
          | (.error e, w) => (.error e, w)
          | (.ok (), w) =>
              let w := allKickEmitEnable w
              if (w.port port.id).failed then (.ok (), w)
              else if (w.port port.id).txWorkPending || (w.port port.id).rxWorkPending then
                irqLoop port n w
              else (.ok (), w)

def handlePortIrq (w : World) (port : VirtioPort) : Except Exc Unit × World :=
  irqLoop K filterRequest port (txFuel w port.id + rxFuel w port.id) w

/-- `drop_requests()`: every chain of the monitor's transmit queue is finished unread. -/
def dropRequests : Nat → Virtqueue → Except Exc Unit × Virtqueue
  | 0, q => (.ok (), q)
  | n + 1, q =>
      if !q.ready then (.ok (), q)
      else
        match q.nextAvail with
        | (none, q) => (.ok (), q)
        | (some head, q) =>
            match start (q.chain head) with
            | .ok _ => dropRequests n (q.finish (some head) 0)
            | .error e => (.error e, q)

/-- The kick handler of the monitor port: retry its pending transfers and drop what it
tries to send, while there is work. -/
def monitorIrq (m : VirtioPort) : Nat → World → Except Exc Unit × World
  | 0, w => (.ok (), w)
  | n + 1, w =>
      match handleRxQueue w m.id with
      | (.error e, w) => (.error e, w)
      | (.ok (), w) =>
          let ps := w.port m.id
          match dropRequests (ps.txq.avail.length + 1) ps.txq with
          | (.error e, q) => (.error e, w.update m.id (·.setTx q))
          | (.ok (), q) =>
              let w := w.update m.id (·.setTx q)
              if (w.port m.id).txWorkPending || (w.port m.id).rxWorkPending then monitorIrq m n w
              else (.ok (), w)

inductive PortVlan where
  | native
  | access (v : Nat)
  | trunk (ids : List Nat)
  deriving DecidableEq, Repr

/-- The port `op_create` configures, `none` for VLAN ids it rejects. -/
def configure (p : VirtioPort) : PortVlan → Option VirtioPort
  | .native => some p
  | .access v => if vlanValidId v then some (p.setVlanAccess v) else none
  | .trunk ids => if ids ≠ [] ∧ ids.all vlanValidId then some (p.setVlanTrunk K ids) else none

/-- The events of the server loop, and a client's own operations on its queues. -/
inductive Event where
  | createPort (mac : MacAddr) (vlan : PortVlan)
  | createMonitor (mac : MacAddr)
  | capDeleted (gone : List Nat)
  | kick (id : Nat)
  | timeout (id i : Nat)
  | guestReady (id : Nat)
  | guestTx (id : Nat) (chain : List Desc)
  | guestRx (id : Nat) (chain : List Desc)
  deriving Repr

def register (w : World) (r : Bool × VirtioSwitch) (id : Nat) : World :=
  if r.1 then { w with sw := r.2 }.update id fun _ => PortState.init else w

def step (w : World) : Event → World
  | .createPort mac vlan =>
      let w' := { w with nextId := w.nextId + 1 }
      match configure K (VirtioPort.new K w.nextId mac) vlan with
      | some p => w'.register (w'.sw.addPort p) p.id
      | none => w'
  | .createMonitor mac =>
      let w' := { w with nextId := w.nextId + 1 }
      let p := (VirtioPort.new K w.nextId mac).setMonitor K
      w'.register (w'.sw.addMonitorPort p) p.id
  | .capDeleted gone => w.checkPortsRt fun p => p.id ∈ gone
  | .kick id =>
      match w.arrayPorts.find? (·.id == id) with
      | some p => (handlePortIrq K filterRequest w p).2
      | none =>
          match w.sw.monitor with
          | some m => if m.id = id then (monitorIrq m (rxFuel w m.id + 1) w).2 else w
          | none => w
  | .timeout id i => w.expired id i
  | .guestReady id =>
      w.update id fun ps => { ps with txq := { ps.txq with ready := true },
                                      rxq := { ps.rxq with ready := true } }
  | .guestTx id c => w.update id fun ps => { ps with txq := ps.txq.post c }
  | .guestRx id c => w.update id fun ps => { ps with rxq := ps.rxq.post c }

def run (w : World) (es : List Event) : World := es.foldl (step K filterRequest) w

/-! ## What the handlers do to the switch

Only forwarding changes the switch at run time, by learning source addresses; the
handlers of the receive side and the notifications leave it alone. -/

theorem devicesOnly_deliver (src : VirtioPort) (r : VirtioNetRequest) :
    ∀ (ds : List VirtioPort) (w : World), DevicesOnly w (deliver K src r ds w).2
  | [], w => .refl w
  | d :: ds, w => by
      have hd := devicesOnly_handleRequest K w d src r
      simp only [deliver]
      split
      · next w' hres =>
          rw [hres] at hd
          exact hd.trans (devicesOnly_deliver src r ds w')
      · next e w' hres =>
          rw [hres] at hd
          exact hd

theorem handleTxQueueRt_sw (w : World) (port : VirtioPort) :
    (handleTxQueueRt K filterRequest w port).2.nextId = w.nextId ∧
      ((handleTxQueueRt K filterRequest w port).2.sw = w.sw ∨
        ∃ r, (handleTxQueueRt K filterRequest w port).2.sw =
          (w.sw.handleTxQueue K filterRequest port r).1) := by
  unfold handleTxQueueRt
  split
  · next r q _ =>
      let w₁ : World :=
        { w.update port.id (·.setTx q) with sw := (w.sw.handleTxQueue K filterRequest port r).1 }
      have h := (devicesOnly_deliver K port r (w.sw.handleTxQueue K filterRequest port r).2 w₁).trans
        (devicesOnly_release _ r)
      exact ⟨h.2, .inr ⟨r, h.1⟩⟩
  · exact ⟨rfl, .inl rfl⟩
  · exact ⟨rfl, .inl rfl⟩

/-! ## Invariants of the loops

What every round of a loop keeps, the loop keeps; for `handle_port_irq` the rounds are
forwarding, the receive side, and updates of device states that leave the pending
lists alone (the notification switches and the device-error flag). -/

theorem forPorts_inv (P : World → Prop) {f : PortState → PortState}
    (hupd : ∀ w id, P w → P (w.update id f)) {w : World} (h : P w) : P (w.forPorts f) := by
  suffices ∀ (l : List (Option VirtioPort)) (w : World), P w →
      P (l.foldl (fun w slot => match slot with
        | some p => w.update p.id f
        | none => w) w) from this _ w h
  intro l
  induction l with
  | nil => exact fun _ h => h
  | cons slot l ih =>
      intro w h
      cases slot with
      | none => exact ih w h
      | some p => exact ih _ (hupd w p.id h)

theorem txLoop_inv (port : VirtioPort) (P : World → Prop)
    (htx : ∀ w, P w → P (handleTxQueueRt K filterRequest w port).2) (n : Nat) {w : World}
    (h : P w) : P (txLoop K filterRequest port n w).2 := by
  induction n generalizing w with
  | zero => exact h
  | succ n ih =>
      have hw := htx w h
      simp only [txLoop]
      split
      · split <;> rename_i hres <;> rw [hres] at hw
        · exact ih hw
        · exact hw
      · exact h

theorem rxLoop_inv (id : Nat) (P : World → Prop) (hrx : ∀ w, P w → P (w.handleRxQueue id).2)
    (n : Nat) {w : World} (h : P w) : P (rxLoop id n w).2 := by
  induction n generalizing w with
  | zero => exact h
  | succ n ih =>
      have hw := hrx w h
      simp only [rxLoop]
      split
      · split <;> rename_i hres <;> rw [hres] at hw
        · exact ih hw
        · exact hw
      · exact h

theorem irqLoop_inv (port : VirtioPort) (P : World → Prop)
    (hupd : ∀ w id (f : PortState → PortState), (∀ ps, (f ps).pending = ps.pending) → P w →
      P (w.update id f))
    (htx : ∀ w, P w → P (handleTxQueueRt K filterRequest w port).2)
    (hrx : ∀ w id, P w → P (w.handleRxQueue id).2) (n : Nat) {w : World} (h : P w) :
    P (irqLoop K filterRequest port n w).2 := by
  have hall : ∀ {f : PortState → PortState} {w}, (∀ ps, (f ps).pending = ps.pending) → P w →
      P (w.forPorts f) := fun hf => forPorts_inv P fun w id => hupd w id _ hf
  induction n generalizing w with
  | zero => exact h
  | succ n ih =>
      have htx' : P (txLoop K filterRequest port (txFuel w.allKickDisableRemember port.id)
          w.allKickDisableRemember).2 :=
        txLoop_inv K filterRequest port P htx _ (hall (fun _ => rfl) h)
      simp only [irqLoop]
      split <;> rename_i hres <;> rw [hres] at htx'
      · refine hall (fun _ => rfl) (hupd _ _ _ ?_ htx')
        exact fun _ => rfl
      · exact htx'
      · next w₁ =>
          have hrx' := rxLoop_inv port.id P (hrx · port.id) (rxFuel w₁ port.id) htx'
          split <;> rename_i hres' <;> rw [hres'] at hrx'
          · exact hrx'
          · have he : P (allKickEmitEnable _) := hall (fun _ => rfl) hrx'
            split
            · exact he
            · split
              · exact ih he
              · exact he

theorem monitorIrq_inv (m : VirtioPort) (P : World → Prop)
    (hupd : ∀ w id (f : PortState → PortState), (∀ ps, (f ps).pending = ps.pending) → P w →
      P (w.update id f))
    (hrx : ∀ w id, P w → P (w.handleRxQueue id).2) (n : Nat) {w : World} (h : P w) :
    P (monitorIrq m n w).2 := by
  induction n generalizing w with
  | zero => exact h
  | succ n ih =>
      have hw := hrx w m.id h
      simp only [monitorIrq]
      split
      · next e w₁ hres =>
          rw [hres] at hw
          exact hw
      · next w₁ hres =>
          rw [hres] at hw
          split
          · exact hupd _ _ _ (PortState.setTx_pending · _) hw
          · next q _ =>
              have hw' : P (w₁.update m.id (·.setTx q)) :=
                hupd _ _ _ (PortState.setTx_pending · q) hw
              split
              · exact ih hw'
              · exact hw'

theorem devicesOnly_forPorts (w : World) (f : PortState → PortState) : DevicesOnly w (w.forPorts f) :=
  forPorts_inv (DevicesOnly w) (fun _ _ h => h.trans (devicesOnly_update _ _ _)) (.refl w)

theorem devicesOnly_monitorIrq (m : VirtioPort) (n : Nat) (w : World) :
    DevicesOnly w (monitorIrq m n w).2 :=
  monitorIrq_inv m (DevicesOnly w) (fun _ _ _ _ h => h.trans (devicesOnly_update _ _ _))
    (fun _ _ h => h.trans (devicesOnly_handleRxQueue _ _)) n (.refl w)

end World

end VirtioNetSwitch
