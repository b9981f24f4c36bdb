import VirtioNetSwitch.Runtime.Refinement

/-!
# Pending transfers

Every pending transfer waits at the registered port it delivers to, in every world a run
reaches.  Its source port may be gone, and three runs show where the pending list breaks
the spec's contract.
-/

namespace VirtioNetSwitch

namespace World

variable (K : PseudoVlanIds) (filterRequest : VirtioNetRequest → Bool)

def IsRegisteredId (w : World) (id : Nat) : Prop := ∃ p, w.sw.Registered p ∧ p.id = id

/-- Every transfer in a port's pending list delivers to that port, and the port is
registered with the switch. -/
def PendingInv (w : World) : Prop :=
  ∀ id, ∀ t ∈ (w.port id).pending, t.dst = id ∧ w.IsRegisteredId id

section Preservation

variable {K filterRequest} {w : World}

theorem pendingInv_update (h : PendingInv w) {id : Nat} {f : PortState → PortState}
    (hf : ∀ t ∈ (f (w.port id)).pending, t.dst = id ∧ w.IsRegisteredId id) :
    PendingInv (w.update id f) := by
  intro j t ht
  by_cases hj : j = id
  · subst hj
    rw [update_port_self] at ht
    exact hf t ht
  · rw [update_port_ne _ _ hj] at ht
    exact h j t ht

theorem pendingInv_update_same (h : PendingInv w) {id : Nat} {f : PortState → PortState}
    (hf : ∀ ps, (f ps).pending = ps.pending) : PendingInv (w.update id f) :=
  pendingInv_update h fun t ht => h id t (hf _ ▸ ht)

theorem pendingInv_mk (h : PendingInv w) {sw : VirtioSwitch}
    (hsw : ∀ p, w.sw.Registered p → sw.Registered p) (nextId : Nat) :
    PendingInv ⟨sw, w.port, nextId⟩ :=
  fun id t ht => (h id t ht).imp_right fun ⟨p, hp, hid⟩ => ⟨p, hsw p hp, hid⟩

theorem pendingInv_release (h : PendingInv w) (r : VirtioNetRequest) :
    PendingInv (w.release r) := by
  unfold release
  split
  · exact h
  · exact pendingInv_update_same h (PortState.setTx_pending · _)

theorem pendingInv_destroy (h : PendingInv w) (t : VirtioNetTransfer) :
    PendingInv (w.destroy t) :=
  pendingInv_release (pendingInv_update_same h (PortState.setRx_pending · _)) _

theorem pendingInv_handleRequest (h : PendingInv w) {dst : VirtioPort} (hdst : w.sw.Registered dst)
    (src : VirtioPort) (r : VirtioNetRequest) : PendingInv (handleRequest K w dst src r).2 := by
  unfold handleRequest
  dsimp only
  split <;> dsimp only
  · exact pendingInv_update_same h (PortState.setRx_pending · _)
  · next t q hres =>
      refine pendingInv_update h fun t' ht' => ?_
      simp only [PortState.setRx_pending, List.mem_append, List.mem_singleton] at ht'
      rcases ht' with ht' | rfl
      · exact h _ _ ht'
      · have hdst' := VirtioNetTransfer.transfer_dst
          (VirtioNetTransfer.new r dst.id (mangleFor K dst src)) (w.port dst.id).rxq
        rw [hres] at hdst'
        exact ⟨hdst', dst, hdst, rfl⟩
  · exact pendingInv_update_same (pendingInv_update_same h (PortState.setRx_pending · _))
      (PortState.setRx_pending · _)

theorem pendingInv_rxDeliver (id : Nat) :
    ∀ (ts : List VirtioNetTransfer) (w : World), PendingInv w → (w.port id).pending = ts →
      PendingInv (rxDeliver id ts w).2
  | [], _, h, _ => h
  | t :: rest, w, h, hts => by
      have ht := h id t (hts ▸ List.mem_cons_self _ _)
      have hrest : ∀ t' ∈ rest, t'.dst = id ∧ w.IsRegisteredId id :=
        fun t' ht' => h id t' (hts ▸ List.mem_cons_of_mem _ ht')
      simp only [rxDeliver]
      split
      · next q hres =>
          refine pendingInv_rxDeliver id rest _ (pendingInv_release ?_ _) (by simp)
          exact pendingInv_update (pendingInv_update_same h (PortState.setRx_pending · q)) hrest
      · next t' q hres =>
          dsimp only
          refine pendingInv_update (pendingInv_update_same h (PortState.setRx_pending · q))
            fun t'' ht'' => ?_
          rcases List.mem_cons.mp ht'' with rfl | ht''
          · have hdst := VirtioNetTransfer.transfer_dst t (w.port t.dst).rxq
            rw [hres] at hdst
            exact ⟨hdst.trans ht.1, ht.2⟩
          · exact hrest t'' ht''
      · next q hres =>
          dsimp only
          exact pendingInv_destroy
            (pendingInv_update (pendingInv_update_same h (PortState.setRx_pending · q)) hrest) _

theorem pendingInv_handleRxQueue (h : PendingInv w) (id : Nat) :
    PendingInv (w.handleRxQueue id).2 :=
  pendingInv_rxDeliver id _ w h rfl

theorem pendingInv_expired (h : PendingInv w) (id i : Nat) : PendingInv (w.expired id i) := by
  unfold expired
  split
  · exact pendingInv_destroy
      (pendingInv_update h fun t ht => h id t (List.mem_of_mem_eraseIdx ht)) _
  · exact h

theorem pendingInv_destroyPort {p : VirtioPort}
    (h : ∀ j ≠ p.id, ∀ t ∈ (w.port j).pending, t.dst = j ∧ w.IsRegisteredId j) :
    PendingInv (w.destroyPort p) := by
  intro j t ht
  rw [destroyPort_port_pending] at ht
  split at ht
  · cases ht
  · next hj =>
      obtain ⟨hdst, q, hq, hid⟩ := h j hj t ht
      exact ⟨hdst, q, (devicesOnly_destroyPort w p).1 ▸ hq, hid⟩

theorem pendingInv_checkPortsStepRt (h : PendingInv w) (dead : VirtioPort → Bool) (idx : Nat) :
    PendingInv (checkPortsStepRt dead w idx) := by
  unfold checkPortsStepRt
  split
  · next p hdel =>
      refine pendingInv_destroyPort fun j hj t ht => ?_
      obtain ⟨hdst, q, hq, rfl⟩ := h j t ht
      refine ⟨hdst, q, VirtioSwitch.registered_checkPortsStep_of_ne hdel hq ?_, rfl⟩
      rintro rfl
      exact hj rfl
  · exact h

theorem pendingInv_checkPortsRt (h : PendingInv w) (dead : VirtioPort → Bool) :
    PendingInv (w.checkPortsRt dead) := by
  have hfold : ∀ (l : List Nat) (w : World), PendingInv w →
      PendingInv (l.foldl (checkPortsStepRt dead) w) := by
    intro l
    induction l with
    | nil => exact fun _ h => h
    | cons idx l ih => exact fun w h => ih _ (pendingInv_checkPortsStepRt h dead idx)
  have hw' := hfold (List.range w.sw.maxUsed) w h
  unfold checkPortsRt
  dsimp only
  split
  · next m hm =>
      split
      · refine pendingInv_destroyPort fun j hj t ht => ?_
        obtain ⟨hdst, q, hq, rfl⟩ := hw' j t ht
        refine ⟨hdst, q, hq.imp_right fun hq => ?_, rfl⟩
        cases hm.symm.trans hq
        exact absurd rfl hj
      · exact hw'
  · exact hw'

theorem pendingInv_deliver (src : VirtioPort) (r : VirtioNetRequest) :
    ∀ (ds : List VirtioPort) (w : World), PendingInv w → (∀ d ∈ ds, w.sw.Registered d) →
      PendingInv (deliver K src r ds w).2
  | [], _, h, _ => h
  | d :: ds, w, h, hds => by
      have hd : PendingInv (handleRequest K w d src r).2 :=
        pendingInv_handleRequest h (hds d (List.mem_cons_self _ _)) src r
      have hsw := (devicesOnly_handleRequest K w d src r).1
      simp only [deliver]
      split
      · next w' hres =>
          rw [hres] at hd hsw
          exact pendingInv_deliver src r ds w' hd fun d' hd' =>
            hsw ▸ hds d' (List.mem_cons_of_mem _ hd')
      · next e w' hres =>
          rw [hres] at hd
          exact hd

theorem pendingInv_handleTxQueueRt (h : PendingInv w) (hmac : VirtioSwitch.MacInv w.sw)
    {port : VirtioPort} (hport : some port ∈ w.sw.ports) :
    PendingInv (handleTxQueueRt K filterRequest w port).2 := by
  unfold handleTxQueueRt
  split <;> dsimp only
  · next r q _ =>
      have hw : PendingInv (w.update port.id (·.setTx q)) :=
        pendingInv_update_same h (PortState.setTx_pending · q)
      refine pendingInv_release (pendingInv_deliver _ _ _ _ (pendingInv_mk hw
        (fun _ h => VirtioSwitch.registered_handleTxQueue K filterRequest |>.mpr h) _)
        fun d hd => VirtioSwitch.registered_handleTxQueue K filterRequest |>.mpr ?_) _
      rcases VirtioSwitch.mem_handleTxQueue K filterRequest hmac hport r hd with hmon | ⟨-, -, hmem⟩
      · exact .inr hmon
      · exact .inl hmem
  · exact pendingInv_update_same h (PortState.setTx_pending · _)
  · exact pendingInv_update_same h (PortState.setTx_pending · _)

theorem kickReady_pendingInv_update {port : VirtioPort} (h : KickReady K filterRequest port w ∧ PendingInv w)
    (id : Nat) {f : PortState → PortState} (hf : ∀ ps, (f ps).pending = ps.pending) :
    KickReady K filterRequest port (w.update id f) ∧ PendingInv (w.update id f) :=
  ⟨h.1.of_devicesOnly (devicesOnly_update _ _ _), pendingInv_update_same h.2 hf⟩

theorem kickReady_pendingInv_handleTxQueueRt {port : VirtioPort}
    (h : KickReady K filterRequest port w ∧ PendingInv w) :
    KickReady K filterRequest port (handleTxQueueRt K filterRequest w port).2 ∧
      PendingInv (handleTxQueueRt K filterRequest w port).2 :=
  ⟨h.1.of_txSteps (txSteps_handleTxQueueRt w port),
    pendingInv_handleTxQueueRt h.2 h.1.1.reachable.macInv h.1.2⟩

theorem pendingInv_handlePortIrq {port : VirtioPort} (hw : KickReady K filterRequest port w)
    (h : PendingInv w) : PendingInv (handlePortIrq K filterRequest w port).2 :=
  (irqLoop_inv K filterRequest port (fun w => KickReady K filterRequest port w ∧ PendingInv w)
    (fun _ id _ hf h => kickReady_pendingInv_update h id hf)
    (fun _ h => kickReady_pendingInv_handleTxQueueRt h)
    (fun _ _ h => ⟨h.1.of_devicesOnly (devicesOnly_handleRxQueue _ _), pendingInv_handleRxQueue h.2 _⟩)
    _ ⟨hw, h⟩).2

theorem pendingInv_monitorIrq (m : VirtioPort) (n : Nat) (h : PendingInv w) :
    PendingInv (monitorIrq m n w).2 :=
  monitorIrq_inv m PendingInv (fun _ _ _ hf h => pendingInv_update_same h hf)
    (fun _ _ h => pendingInv_handleRxQueue h _) n h

theorem pendingInv_register (h : PendingInv w) (r : Bool × VirtioSwitch)
    (hr : ∀ p, w.sw.Registered p → r.2.Registered p) (id nextId : Nat) :
    PendingInv (({ w with nextId := nextId } : World).register r id) := by
  unfold register
  split
  · exact pendingInv_update (pendingInv_mk h hr nextId) fun t ht => (List.not_mem_nil t ht).elim
  · exact pendingInv_mk h (fun _ h => h) nextId

theorem pendingInv_step (hw : Inv K filterRequest w) (h : PendingInv w) (e : Event) :
    PendingInv (step K filterRequest w e) := by
  cases e with
  | createPort mac vlan =>
      simp only [step]
      split
      · exact pendingInv_register h _
          (fun _ => VirtioSwitch.registered_addPort_of_registered _) _ _
      · exact pendingInv_mk h (fun _ h => h) _
  | createMonitor mac =>
      exact pendingInv_register h _ (fun _ hq => VirtioSwitch.registered_addMonitorPort.mpr (.inl hq)) _ _
  | capDeleted gone => exact pendingInv_checkPortsRt h _
  | kick id =>
      simp only [step]
      split
      · next p hp =>
          exact pendingInv_handlePortIrq ⟨hw, mem_arrayPorts.mp (List.mem_of_find?_eq_some hp)⟩ h
      · split
        · split
          · exact pendingInv_monitorIrq _ _ h
          · exact h
        · exact h
  | timeout id i => exact pendingInv_expired h id i
  | guestReady id | guestTx id _ | guestRx id _ =>
      simp only [step]
      exact pendingInv_update_same h fun _ => rfl

end Preservation

theorem pendingInv_init (maxPorts : Nat) : PendingInv (init maxPorts) :=
  fun _ t ht => (List.not_mem_nil t ht).elim

theorem run_pendingInv (maxPorts : Nat) (es : List Event) :
    PendingInv (run K filterRequest (init maxPorts) es) := by
  have hrun : ∀ (es : List Event) (w : World), Inv K filterRequest w → PendingInv w →
      PendingInv (run K filterRequest w es) := by
    intro es
    induction es with
    | nil => exact fun _ _ h => h
    | cons e es ih => exact fun w hw h => ih _ (hw.step e) (pendingInv_step hw h e)
  exact hrun es _ (.init K filterRequest maxPorts) (pendingInv_init maxPorts)

/-! ## Runs that break the contract of the pending list -/

/-- Port 0 broadcasts a 14-byte frame to port 1, whose client has posted one 16-byte
receive buffer.  The transfer fills it with the header and the first 4 bytes of the
frame, moves it to `_consumed` and waits for another buffer with `_dst_head` empty.
When the timeout expires, `finish_transfer` publishes the filled chain and an entry
with the empty head. -/
theorem expired_transfer_publishes_torn_frame :
    let K : PseudoVlanIds := PseudoVlanIds.sample
    let frame : List UInt8 := [0xff, 0xff, 0xff, 0xff, 0xff, 0xff, 2, 0, 0, 0, 0, 1, 0x08, 0x00]
    let w : World := run K (fun _ => false) (init 2)
      [.createPort MacAddr.addrUnknown .native, .createPort MacAddr.addrUnknown .native,
       .guestReady 0, .guestReady 1, .guestRx 1 [.buf (List.replicate 16 0)],
       .guestTx 0 [.buf (List.replicate 12 0 ++ frame)], .kick 0]
    (w.port 1).pending.map (fun t => (t.dstHead, t.consumed)) = [(none, [(some 0, 16)])] ∧
      (w.port 1).rxq.used = [] ∧
      ((run K (fun _ => false) w [.timeout 1 0]).port 1).rxq.used = [(some 0, 16), (none, 0)] := by
  decide

/-- Port 0 broadcasts frame A while port 2's client has no receive buffer, so A waits in
port 2's pending list.  The client posts a buffer, port 1 broadcasts frame B, and
`handle_request` runs B's transfer at once: B takes the buffer.  A is delivered only
when the client posts the next one, so port 2's used ring shows B (32 bytes with the
header) before A (26 bytes). -/
theorem later_frame_overtakes_pending_frame :
    let K : PseudoVlanIds := PseudoVlanIds.sample
    let frameA : List UInt8 := [0xff, 0xff, 0xff, 0xff, 0xff, 0xff, 2, 0, 0, 0, 0, 1, 0x08, 0x00]
    let frameB : List UInt8 :=
      [0xff, 0xff, 0xff, 0xff, 0xff, 0xff, 2, 0, 0, 0, 0, 2, 0x08, 0x00, 0, 0, 0, 0, 0, 0]
    let w : World := run K (fun _ => false) (init 3)
      [.createPort MacAddr.addrUnknown .native, .createPort MacAddr.addrUnknown .native,
       .createPort MacAddr.addrUnknown .native, .guestReady 0, .guestReady 1, .guestReady 2,
       .guestTx 0 [.buf (List.replicate 12 0 ++ frameA)], .kick 0]
    let w' : World := run K (fun _ => false) w
      [.guestRx 2 [.buf (List.replicate 64 0)], .guestTx 1 [.buf (List.replicate 12 0 ++ frameB)],
       .kick 1, .guestRx 2 [.buf (List.replicate 64 0)], .kick 2]
    (w.port 2).pending.map (·.request.dev) = [0] ∧
      (w'.port 2).rxq.used = [(some 0, 32), (some 1, 26)] := by
  decide

/-- Port 0 broadcasts a frame to port 1, whose client has no receive buffer, and then
port 0's client goes.  `check_ports` deletes port 0 but calls no
`drop_pending_at_dest`, so port 1's pending transfer still holds a request of port 0,
which is registered no more. -/
theorem pending_transfer_outlives_source :
    let K : PseudoVlanIds := PseudoVlanIds.sample
    let frame : List UInt8 := [0xff, 0xff, 0xff, 0xff, 0xff, 0xff, 2, 0, 0, 0, 0, 1, 0x08, 0x00]
    let w : World := run K (fun _ => false) (init 2)
      [.createPort MacAddr.addrUnknown .native, .createPort MacAddr.addrUnknown .native,
       .guestReady 0, .guestReady 1, .guestTx 0 [.buf (List.replicate 12 0 ++ frame)], .kick 0,
       .capDeleted [0]]
    (w.port 1).pending.map (·.request.dev) = [0] ∧ w.registered.map (·.id) = [1] := by
  decide

end World

end VirtioNetSwitch
