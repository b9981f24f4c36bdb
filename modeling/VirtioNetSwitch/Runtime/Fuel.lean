import VirtioNetSwitch.Runtime.Pending

/-!
# The kick handlers run to the end

The source's loops of `handle_port_irq` and of the monitor's kick handler run on fuel here.
In every world a run reaches, the fuel the model passes never decides their result.
-/

namespace VirtioNetSwitch

namespace World

variable (K : PseudoVlanIds) (filterRequest : VirtioNetRequest → Bool)

/-! ## The driver's side of the transmit queues -/

def TxKept (w w' : World) : Prop := ∀ id, (w.port id).txq.SameAvail (w'.port id).txq

theorem TxKept.refl (w : World) : TxKept w w := fun _ => .refl _

theorem TxKept.trans {w₁ w₂ w₃ : World} (h₁ : TxKept w₁ w₂) (h₂ : TxKept w₂ w₃) : TxKept w₁ w₃ :=
  fun id => (h₁ id).trans (h₂ id)

theorem TxKept.txWorkPending_eq {w w' : World} (h : TxKept w w') (id : Nat) :
    (w'.port id).txWorkPending = (w.port id).txWorkPending := by
  simp only [PortState.txWorkPending, (h id).1, (h id).descAvail_eq]

theorem txKept_update (w : World) (id : Nat) {f : PortState → PortState}
    (hf : ∀ ps : PortState, ps.txq.SameAvail (f ps).txq) : TxKept w (w.update id f) := by
  intro j
  rw [update_port]
  split
  · next hj =>
      subst hj
      exact hf _
  · exact .refl _

theorem txKept_update_rx (w : World) (id : Nat) {f : PortState → PortState}
    (hf : ∀ ps, (f ps).txq = ps.txq) : TxKept w (w.update id f) :=
  txKept_update w id fun ps => hf ps ▸ .refl _

theorem txKept_release (w : World) (r : VirtioNetRequest) : TxKept w (w.release r) := by
  unfold release
  split
  · exact .refl w
  · exact txKept_update w _ fun ps => by
      simpa using Virtqueue.sameAvail_finish ps.txq (some r.head) 0

theorem txKept_destroy (w : World) (t : VirtioNetTransfer) : TxKept w (w.destroy t) :=
  (txKept_update_rx w _ fun ps => ps.setRx_txq _).trans (txKept_release _ _)

theorem txKept_handleRequest (w : World) (dst src : VirtioPort) (r : VirtioNetRequest) :
    TxKept w (handleRequest K w dst src r).2 := by
  unfold handleRequest
  dsimp only
  split <;> dsimp only
  · exact txKept_update_rx w _ fun ps => ps.setRx_txq _
  · exact txKept_update_rx w _ fun ps => ps.setRx_txq _
  · exact (txKept_update_rx w _ fun ps => ps.setRx_txq _).trans
      (txKept_update_rx _ _ fun ps => ps.setRx_txq _)

theorem txKept_deliver (src : VirtioPort) (r : VirtioNetRequest) :
    ∀ (ds : List VirtioPort) (w : World), TxKept w (deliver K src r ds w).2
  | [], w => .refl w
  | d :: ds, w => by
      have hd := txKept_handleRequest K w d src r
      simp only [deliver]
      split <;> rename_i hres <;> rw [hres] at hd
      · exact hd.trans (txKept_deliver src r ds _)
      · exact hd

theorem txKept_rxDeliver (id : Nat) :
    ∀ (ts : List VirtioNetTransfer) (w : World), TxKept w (rxDeliver id ts w).2
  | [], w => .refl w
  | t :: rest, w => by
      have hpre : ∀ q (ts : List VirtioNetTransfer), TxKept w
          ((w.update t.dst (·.setRx q)).update id fun ps => { ps with pending := ts }) :=
        fun _ _ => (txKept_update_rx w _ fun ps => ps.setRx_txq _).trans
          (txKept_update_rx _ _ fun _ => rfl)
      simp only [rxDeliver]
      split
      · exact (hpre _ _).trans ((txKept_release _ _).trans (txKept_rxDeliver id rest _))
      · exact hpre _ _
      · dsimp only
        exact (hpre _ _).trans (txKept_destroy _ _)

theorem txKept_handleRxQueue (w : World) (id : Nat) : TxKept w (w.handleRxQueue id).2 :=
  txKept_rxDeliver id _ w

/-! ## The transmit loop -/

/-- The chains of port `id`'s transmit queue that the device has not taken yet. -/
def txLeft (w : World) (id : Nat) : Nat := (w.port id).txq.avail.length - (w.port id).txq.current

theorem txLeft_lt_txFuel (w : World) (id : Nat) : txLeft w id < txFuel w id := by
  unfold txLeft txFuel
  omega

theorem txKept_of_port_eq {w w' : World} (h : w'.port = w.port) : TxKept w w' :=
  fun _ => h ▸ .refl _

theorem txKept_handleTxQueueRt (w : World) (port : VirtioPort) :
    TxKept (w.update port.id (·.setTx (getTxRequest K port (w.port port.id).txq).2))
      (handleTxQueueRt K filterRequest w port).2 := by
  unfold handleTxQueueRt
  split <;> rename_i heq <;> simp only [heq]
  · next r q =>
      let next := w.sw.handleTxQueue K filterRequest port r
      exact ((txKept_of_port_eq rfl).trans (txKept_deliver K port r next.2
        { w.update port.id (·.setTx q) with sw := next.1 })).trans (txKept_release _ r)
  · exact .refl _
  · exact .refl _

theorem handleTxQueueRt_txLeft (w : World) (port : VirtioPort)
    (h : (w.port port.id).txWorkPending = true) :
    txLeft (handleTxQueueRt K filterRequest w port).2 port.id + 1 = txLeft w port.id := by
  simp only [PortState.txWorkPending, Bool.and_eq_true] at h
  have hq : Virtqueue.SameAvail
      { (w.port port.id).txq with current := (w.port port.id).txq.current + 1 }
      ((handleTxQueueRt K filterRequest w port).2.port port.id).txq := by
    have hk := txKept_handleTxQueueRt K filterRequest w port port.id
    simp only [update_port_self, PortState.setTx_txq] at hk
    exact ((getRequest_advance port.id h.1 h.2).trans (getTxRequest_sameAvail K port _)).trans hk
  have hlt : (w.port port.id).txq.current < (w.port port.id).txq.avail.length := by
    simpa [Virtqueue.descAvail] using h.2
  unfold txLeft
  rw [hq.2.1, hq.2.2]
  dsimp only
  omega

theorem txLoop_drained (port : VirtioPort) {n : Nat} {w w' : World} (hn : txLeft w port.id < n)
    (h : txLoop K filterRequest port n w = (.ok (), w')) : (w'.port port.id).txWorkPending = false := by
  induction n generalizing w with
  | zero => omega
  | succ n ih =>
      simp only [txLoop] at h
      split at h
      · next hwork =>
          have hleft := handleTxQueueRt_txLeft K filterRequest w port hwork
          split at h
          · next w₁ hres =>
              rw [hres] at hleft
              dsimp only at hleft
              exact ih (by omega) h
          · cases h
      · next hwork =>
          cases h
          simpa using hwork

/-! ## The receive loop -/

theorem rxDeliver_noWork (id : Nat) :
    ∀ (ts : List VirtioNetTransfer) (w w' : World), (w.port id).pending = ts →
      (∀ t ∈ ts, t.dst = id) → rxDeliver id ts w = (.ok (), w') →
        (w'.port id).rxWorkPending = false
  | [], w, w', hp, _, h => by
      simp only [rxDeliver, Prod.mk.injEq, true_and] at h
      subst h
      simp [PortState.rxWorkPending, hp]
  | t :: rest, w, w', _, hdst, h => by
      simp only [rxDeliver] at h
      split at h
      · exact rxDeliver_noWork id rest _ w' (by simp)
          (fun t' ht' => hdst t' (List.mem_cons_of_mem _ ht')) h
      · next t₁ q hres =>
          cases h
          obtain rfl : t.dst = id := hdst t (List.mem_cons_self _ _)
          rcases VirtioNetTransfer.transfer_false hres with hq | hq <;>
            simp [PortState.rxWorkPending, hq]
      · cases h

theorem handleRxQueue_noWork {w w' : World} {id : Nat} (hdst : ∀ t ∈ (w.port id).pending, t.dst = id)
    (h : w.handleRxQueue id = (.ok (), w')) : (w'.port id).rxWorkPending = false :=
  rxDeliver_noWork id _ w w' rfl hdst h

theorem rxLoop_idle {w : World} {id : Nat} (h : (w.port id).rxWorkPending = false) (n : Nat) :
    rxLoop id n w = (.ok (), w) := by
  cases n <;> simp [rxLoop, h]

theorem rxLoop_noWork {w w' : World} {id n : Nat} (hdst : ∀ t ∈ (w.port id).pending, t.dst = id)
    (h : rxLoop id (n + 1) w = (.ok (), w')) : (w'.port id).rxWorkPending = false := by
  simp only [rxLoop] at h
  split at h
  · split at h
    · next w₁ hres =>
        rw [rxLoop_idle (handleRxQueue_noWork hdst hres)] at h
        cases h
        exact handleRxQueue_noWork hdst hres
    · cases h
  · next hwork =>
      cases h
      simpa using hwork

/-! ## `handle_port_irq` -/

theorem forPorts_work (w : World) {f : PortState → PortState}
    (hf : ∀ ps, (f ps).txWorkPending = ps.txWorkPending ∧ (f ps).rxWorkPending = ps.rxWorkPending)
    (j : Nat) : ((w.forPorts f).port j).txWorkPending = (w.port j).txWorkPending ∧
      ((w.forPorts f).port j).rxWorkPending = (w.port j).rxWorkPending := by
  refine forPorts_inv (fun w' => ∀ j, (w'.port j).txWorkPending = (w.port j).txWorkPending ∧
    (w'.port j).rxWorkPending = (w.port j).rxWorkPending) (fun w' id h j => ?_)
    (fun _ => ⟨rfl, rfl⟩) j
  rw [update_port]
  split
  · next hj =>
      subst hj
      exact ⟨(hf _).1.trans (h j).1, (hf _).2.trans (h j).2⟩
  · exact h j

theorem irqLoop_succ {port : VirtioPort} {w : World} (hw : KickReady K filterRequest port w)
    (h : PendingInv w) (m n : Nat) :
    irqLoop K filterRequest port (m + 1) w = irqLoop K filterRequest port (n + 1) w := by
  have h₀ : KickReady K filterRequest port w.allKickDisableRemember ∧
      PendingInv w.allKickDisableRemember :=
    forPorts_inv (fun w => KickReady K filterRequest port w ∧ PendingInv w)
      (f := PortState.kickDisableAndRemember)
      (fun _ id h => kickReady_pendingInv_update h id fun _ => rfl) ⟨hw, h⟩
  have h₁ := txLoop_inv K filterRequest port
    (fun w => KickReady K filterRequest port w ∧ PendingInv w)
    (fun _ h => kickReady_pendingInv_handleTxQueueRt h) (txFuel w.allKickDisableRemember port.id) h₀
  simp only [irqLoop]
  split <;> rename_i hres
  · rfl
  · rfl
  · next w₁ =>
      rw [hres] at h₁
      have htx₁ := txLoop_drained K filterRequest port (txLeft_lt_txFuel _ _) hres
      have hdst : ∀ t ∈ (w₁.port port.id).pending, t.dst = port.id := fun t ht => (h₁.2 _ t ht).1
      split <;> rename_i hres'
      · rfl
      · next w₂ =>
          have hkept := rxLoop_inv port.id (TxKept w₁) (fun w h => h.trans (txKept_handleRxQueue w _))
            (rxFuel w₁ port.id) (.refl w₁)
          rw [hres'] at hkept
          have hwork := forPorts_work w₂ (f := PortState.kickEmitAndEnable) (fun _ => ⟨rfl, rfl⟩) port.id
          have htx : ((allKickEmitEnable w₂).port port.id).txWorkPending = false :=
            hwork.1.trans ((hkept.txWorkPending_eq _).trans htx₁)
          have hrx : ((allKickEmitEnable w₂).port port.id).rxWorkPending = false :=
            hwork.2.trans (rxLoop_noWork hdst hres')
          simp only [htx, hrx, Bool.or_false, Bool.false_eq_true, ite_false]

theorem handlePortIrq_eq_irqLoop {port : VirtioPort} {w : World} (hw : KickReady K filterRequest port w)
    (h : PendingInv w) (n : Nat) :
    handlePortIrq K filterRequest w port = irqLoop K filterRequest port (n + 1) w :=
  irqLoop_succ K filterRequest hw h _ n

/-! ## The monitor's kick handler -/

theorem dropRequests_drained {n : Nat} {q q' : Virtqueue} (hn : q.avail.length - q.current < n)
    (h : dropRequests n q = (.ok (), q')) : (q'.ready && q'.descAvail) = false := by
  induction n generalizing q with
  | zero => omega
  | succ n ih =>
      simp only [dropRequests] at h
      split at h
      · next hr =>
          cases h
          simp only [Bool.not_eq_true'] at hr
          simp [hr]
      · split at h
        · next q₁ hnext =>
            obtain ⟨rfl, hd⟩ := Virtqueue.nextAvail_none hnext
            cases h
            simp [hd]
        · next head q₁ hnext =>
            obtain ⟨-, hlt, rfl⟩ := Virtqueue.nextAvail_some hnext
            split at h
            · exact ih (by simp only [Virtqueue.finish]; omega) h
            · cases h

theorem monitorIrq_succ (m : VirtioPort) {w : World} (hdst : ∀ t ∈ (w.port m.id).pending, t.dst = m.id)
    (a b : Nat) : monitorIrq m (a + 1) w = monitorIrq m (b + 1) w := by
  simp only [monitorIrq]
  split <;> rename_i hres
  · rfl
  · next w₁ =>
      have hrx₁ := handleRxQueue_noWork hdst hres
      split <;> rename_i hres'
      · rfl
      · next q =>
          have htx : (q.ready && q.descAvail) = false := dropRequests_drained (by omega) hres'
          have hrx : ((w₁.port m.id).setTx q).rxWorkPending = false := by
            simpa [PortState.rxWorkPending] using hrx₁
          simp only [update_port_self, PortState.txWorkPending, PortState.setTx_txq, htx, hrx,
            Bool.false_or, Bool.false_eq_true, ite_false]

/-! ## Kicks in the worlds of a run -/

end World

end VirtioNetSwitch
