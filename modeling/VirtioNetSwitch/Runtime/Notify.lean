import VirtioNetSwitch.Runtime.Irq

/-!
# Held-back client notifications

On each way out of `handle_port_irq` that returns, `all_kick_emit_enable` is the last thing
done; `L4::Runtime_error` leaves before it and the ports stay held back.
-/

namespace VirtioNetSwitch

namespace World

variable (K : PseudoVlanIds) (filterRequest : VirtioNetRequest → Bool)

def KicksEnabled (w : World) : Prop := ∀ p ∈ w.arrayPorts, (w.port p.id).kickDisabled = false

theorem forPorts_kickDisabled (w : World) {f : PortState → PortState}
    (hf : ∀ ps, (f ps).kickDisabled = false) : ∀ p ∈ w.arrayPorts,
      ((w.forPorts f).port p.id).kickDisabled = false := by
  have hfold : ∀ (l : List (Option VirtioPort)) (w : World) (p : VirtioPort),
      some p ∈ l ∨ (w.port p.id).kickDisabled = false →
      ((l.foldl (fun w slot => match slot with
        | some p => w.update p.id f
        | none => w) w).port p.id).kickDisabled = false := by
    intro l
    induction l with
    | nil => exact fun _ _ h => h.resolve_left (List.not_mem_nil _)
    | cons slot l ih =>
        intro w p h
        refine ih _ p ?_
        rcases h with hp | hw
        · rcases List.mem_cons.mp hp with rfl | hl
          · right
            simp [hf]
          · exact .inl hl
        · right
          cases slot with
          | none => exact hw
          | some q =>
              by_cases hq : p.id = q.id
              · simp [hq, hf]
              · simpa [update_port_ne _ _ hq] using hw
  exact fun p hp => hfold _ w p (.inl (mem_arrayPorts.mp hp))

theorem allKickEmitEnable_kicksEnabled (w : World) : KicksEnabled w.allKickEmitEnable := by
  intro p hp
  have hsw : w.allKickEmitEnable.sw = w.sw := (devicesOnly_forPorts w _).1
  rw [arrayPorts, hsw] at hp
  exact forPorts_kickDisabled w (fun _ => rfl) p hp

private theorem irqLoop_ok_kicksEnabled (port : VirtioPort) :
    ∀ (n : Nat) (w : World), KicksEnabled w ∨ 0 < n →
      (irqLoop K filterRequest port n w).1 = .ok () →
      KicksEnabled (irqLoop K filterRequest port n w).2
  | 0, _, h, _ => h.resolve_right (Nat.lt_irrefl 0)
  | n + 1, w, _, hok => by
      simp only [irqLoop] at hok ⊢
      split
      · exact allKickEmitEnable_kicksEnabled _
      · next hres => simp [hres] at hok
      · next w₁ hres =>
          simp only [hres] at hok
          split
          · next hres' => simp [hres'] at hok
          · next w₂ hres' =>
              simp only [hres'] at hok ⊢
              split
              · exact allKickEmitEnable_kicksEnabled _
              · split
                · simp only [*] at hok
                  exact irqLoop_ok_kicksEnabled port n _
                    (.inl (allKickEmitEnable_kicksEnabled _)) hok
                · exact allKickEmitEnable_kicksEnabled _

/-- When `handle_port_irq` returns, normally or after flagging a device error of the
port, every port of the array has its notifications enabled again. -/
theorem handlePortIrq_ok_kicksEnabled (w : World) (port : VirtioPort)
    (hok : (handlePortIrq K filterRequest w port).1 = .ok ()) :
    KicksEnabled (handlePortIrq K filterRequest w port).2 :=
  irqLoop_ok_kicksEnabled K filterRequest port _ w (.inr (by unfold txFuel; omega)) hok

theorem handlePortIrq_ok_kicksEnabled_idle :
    let K : PseudoVlanIds := PseudoVlanIds.sample
    let w : World := run K (fun _ => false) (init 1) [.createPort MacAddr.addrUnknown .native]
    let port := VirtioPort.new K 0 MacAddr.addrUnknown
    (handlePortIrq K (fun _ => false) w port).1 = .ok () ∧
      KicksEnabled (handlePortIrq K (fun _ => false) w port).2 := by
  intro K w port
  have hok : (handlePortIrq K (fun _ => false) w port).1 = .ok () := by decide
  exact ⟨hok, handlePortIrq_ok_kicksEnabled K (fun _ => false) w port hok⟩

/-- Port 0 of a switch of three native ports broadcasts a frame; port 1's client has
posted an 8-byte receive buffer, shorter than the virtio-net header, and port 2's a
64-byte one.  The transfer to port 1 raises `L4::Runtime_error`, which leaves
`handle_port_irq` with every port of the array still held back and port 2's buffer
untouched. -/
theorem runtime_error_leaves_kicks_disabled :
    let K : PseudoVlanIds := PseudoVlanIds.sample
    let frame : List UInt8 := [0xff, 0xff, 0xff, 0xff, 0xff, 0xff, 2, 0, 0, 0, 0, 1, 0x08, 0x00]
    let w : World := run K (fun _ => false) (init 3)
      [.createPort MacAddr.addrUnknown .native, .createPort MacAddr.addrUnknown .native,
       .createPort MacAddr.addrUnknown .native, .guestReady 0, .guestReady 1, .guestReady 2,
       .guestRx 1 [.buf (List.replicate 8 0)], .guestRx 2 [.buf (List.replicate 64 0)],
       .guestTx 0 [.buf (List.replicate 12 0 ++ frame)]]
    let r : Except Exc Unit × World :=
      handlePortIrq K (fun _ => false) w (VirtioPort.new K 0 MacAddr.addrUnknown)
    r.1 = .error .runtimeError ∧ (r.2.port 2).rxq.used = [] ∧ (r.2.port 2).rxq.descAvail = true ∧
      r.2.arrayPorts.map (·.id) = [0, 1, 2] ∧
      ∀ p ∈ r.2.arrayPorts, (r.2.port p.id).kickDisabled = true := by
  decide

end World

end VirtioNetSwitch
