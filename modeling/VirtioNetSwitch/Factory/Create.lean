import VirtioNetSwitch.Factory.IntParam

/-!
# Creating a port

`Switch_factory::op_create`, and the server loop with port requests served by it: a served
request is the runtime's `createPort` or `createMonitor` event and a refused one changes
nothing, so the server's worlds keep the runtime's invariant.
-/

namespace VirtioNetSwitch

/-- The error codes `op_create` returns: `-L4_EINVAL` and `-L4_ENOMEM`. -/
inductive CreateError where
  | einval
  | enomem
  deriving DecidableEq, Repr

def World.Event.createsPort : World.Event → Bool
  | .createPort .. | .createMonitor _ => true
  | _ => false

namespace SwitchFactory

/-- `op_create`'s loop over the options: `ds-max=` goes to `parse_int_param` and must lie
in 1..80, every other option to `handle_opt_arg` with the 20-byte name buffer.  The
`L4::Runtime_error` of `parse_int_param` ends the request with `-L4_EINVAL` as well. -/
def createOpts (scanMac : List Char → Option (List UInt8)) :
    List (List Char) → OptArgs → Except CreateError OptArgs
  | [], a => .ok a
  | opt :: opts, a =>
      match parseIntParam opt "ds-max=".toList with
      | .error _ => .error .einval
      | .ok (some numDs) =>
          if numDs ≤ 0 ∨ 80 < numDs then .error .einval else createOpts scanMac opts a
      | .ok none =>
          match handleOptArg scanMac 20 opt a with
          | (true, a) => createOpts scanMac opts a
          | (false, _) => .error .einval

/-- `mac[4]` and `mac[5]` as `op_create` sets them when no `mac=` option did: the port
number, or `de:ad` for the monitor. -/
def defaultMac (monitor : Bool) (portNum : Nat) (mac : List UInt8) : List UInt8 :=
  if monitor then (mac.set 4 0xde).set 5 0xad
  else (mac.set 4 (UInt8.ofNat (portNum >>> 8))).set 5 (UInt8.ofNat portNum)

/-- The address of the port `op_create` builds in slot `portNum`: the `mac=` option's, else
the default one if the server assigns addresses, else none (`Addr_unknown`). -/
def portMac (assignMac : Bool) (a : OptArgs) (portNum : Nat) : MacAddr :=
  if a.macSet || assignMac then
    MacAddr.ofBytes (if a.macSet then a.mac else defaultMac a.monitor portNum a.mac)
  else MacAddr.addrUnknown

variable (K : PseudoVlanIds)

/-- The end of `op_create`, from `// create port` on: the port of slot `portNum` with the
settings `a`, a `Monitor_port` or a `Switch_port` with its VLANs, handed over to the switch;
a port the switch refuses is deleted again with `-L4_ENOMEM`. -/
def handOver (assignMac : Bool) (sw : VirtioSwitch) (id : Nat) (a : OptArgs) (portNum : Nat) :
    Except CreateError (VirtioSwitch × VirtioPort) :=
  let port := VirtioPort.new K id (portMac assignMac a portNum)
  if a.monitor then
    match sw.addMonitorPort (port.setMonitor K) with
    | (true, sw') => .ok (sw', port.setMonitor K)
    | (false, _) => .error .enomem
  else
    let port := if a.vlanAccess ≠ 0 then port.setVlanAccess a.vlanAccess
      else if a.vlanTrunk ≠ [] then port.setVlanTrunk K a.vlanTrunk else port
    match sw.addPort port with
    | (true, sw') => .ok (sw', port)
    | (false, _) => .error .enomem

/-- `op_create(rights, res, type, va)` on the options `opts`: the switch with the new port,
and the port, or the error code.  `id` names the new port object, `assignMac` is the
server's `assign_mac()` and `scanMac` the `sscanf` of a `mac=` option. -/
def opCreate (scanMac : List Char → Option (List UInt8)) (assignMac : Bool) (sw : VirtioSwitch)
    (id type : Nat) (opts : List (List Char)) : Except CreateError (VirtioSwitch × VirtioPort) :=
  if type ≠ 0 then .error .einval
  else
    match createOpts scanMac opts OptArgs.init with
    | .error e => .error e
    | .ok a =>
        match sw.portAvailable a.monitor with
        | none => .error .enomem
        | some portNum =>
            if a.vlanAccess ≠ 0 ∧ a.vlanTrunk ≠ [] then .error .einval
            else handOver K assignMac sw id a portNum

/-! ## What a served request builds -/

theorem createOpts_inv (scanMac : List Char → Option (List UInt8)) (P : OptArgs → Prop) :
    ∀ {opts : List (List Char)}, (∀ opt ∈ opts, ∀ a, P a → P (handleOptArg scanMac 20 opt a).2) →
      ∀ {a b : OptArgs}, P a → createOpts scanMac opts a = .ok b → P b
  | [], _, _, _, h, hb => by
      cases hb
      exact h
  | opt :: opts, hstep, a, b, h, hb => by
      have hrest := fun o ho => hstep o (List.mem_cons_of_mem opt ho)
      simp only [createOpts] at hb
      split at hb
      · cases hb
      · split at hb
        · cases hb
        · exact createOpts_inv scanMac P hrest h hb
      · split at hb
        · next a' heq =>
          have ha' : a' = (handleOptArg scanMac 20 opt a).2 := by rw [heq]
          exact createOpts_inv scanMac P hrest (ha' ▸ hstep opt (List.mem_cons_self _ _) a h) hb
        · cases hb

theorem createOpts_error (scanMac : List Char → Option (List UInt8)) :
    ∀ {opts : List (List Char)} {a : OptArgs} {e : CreateError},
      createOpts scanMac opts a = .error e → e = .einval
  | [], _, _, h => by cases h
  | opt :: opts, a, e, h => by
      simp only [createOpts] at h
      split at h
      · cases h
        rfl
      · split at h
        · cases h
          rfl
        · exact createOpts_error scanMac h
      · split at h
        · exact createOpts_error scanMac h
        · cases h
          rfl

theorem createOpts_valid (scanMac : List Char → Option (List UInt8)) {opts : List (List Char)}
    {a b : OptArgs} (h : a.Valid) (hb : createOpts scanMac opts a = .ok b) : b.Valid :=
  createOpts_inv scanMac OptArgs.Valid (fun opt _ _ ha => handleOptArg_valid scanMac 20 opt ha) h hb

theorem configure_of_valid {a : OptArgs} (ha : a.Valid) {v : World.PortVlan}
    (hv : a.portVlan = some v) (p : VirtioPort) :
    World.configure K p v = some (if a.vlanAccess ≠ 0 then p.setVlanAccess a.vlanAccess
      else if a.vlanTrunk ≠ [] then p.setVlanTrunk K a.vlanTrunk else p) := by
  unfold OptArgs.portVlan at hv
  split at hv
  · cases hv
  split at hv
  · next hacc =>
    cases hv
    simp [World.configure, ha.1.resolve_left hacc, hacc]
  split at hv
  · next hacc htr =>
    cases hv
    simp [World.configure, htr, List.all_eq_true.mpr ha.2, hacc]
  · next hacc htr =>
    cases hv
    simp only [not_not] at hacc htr
    simp [World.configure, hacc, htr]

theorem opCreate_accepted {scanMac : List Char → Option (List UInt8)} {assignMac : Bool}
    {sw : VirtioSwitch} {id type : Nat} {opts : List (List Char)}
    {r : Except CreateError (VirtioSwitch × VirtioPort)}
    (h : opCreate K scanMac assignMac sw id type opts = r) (hr : r ≠ .error .einval) :
    ∃ a, createOpts scanMac opts OptArgs.init = .ok a ∧
      ((sw.portAvailable a.monitor = none ∧ r = .error .enomem) ∨
        ∃ portNum, sw.portAvailable a.monitor = some portNum ∧
          ¬(a.vlanAccess ≠ 0 ∧ a.vlanTrunk ≠ []) ∧ handOver K assignMac sw id a portNum = r) := by
  unfold opCreate at h
  by_cases htype : type ≠ 0
  · rw [if_pos htype] at h
    exact absurd h.symm hr
  rw [if_neg htype] at h
  cases hopts : createOpts scanMac opts OptArgs.init with
  | error e =>
    rw [hopts, createOpts_error scanMac hopts] at h
    exact absurd h.symm hr
  | ok a =>
  rw [hopts] at h
  dsimp only at h
  refine ⟨a, rfl, ?_⟩
  cases hslot : sw.portAvailable a.monitor with
  | none =>
    rw [hslot] at h
    exact .inl ⟨rfl, h.symm⟩
  | some portNum =>
  rw [hslot] at h
  dsimp only at h
  by_cases hvlan : a.vlanAccess ≠ 0 ∧ a.vlanTrunk ≠ []
  · rw [if_pos hvlan] at h
    exact absurd h.symm hr
  rw [if_neg hvlan] at h
  exact .inr ⟨portNum, rfl, hvlan, h⟩

theorem handOver_ok {assignMac : Bool} {sw sw' : VirtioSwitch} {id : Nat} {a : OptArgs}
    {portNum : Nat} {p : VirtioPort} (ha : a.Valid) (hvlan : ¬(a.vlanAccess ≠ 0 ∧ a.vlanTrunk ≠ []))
    (h : handOver K assignMac sw id a portNum = .ok (sw', p)) :
    (a.monitor = true ∧ p = (VirtioPort.new K id (portMac assignMac a portNum)).setMonitor K ∧
        sw.addMonitorPort p = (true, sw')) ∨
      (a.monitor = false ∧ ∃ v, a.portVlan = some v ∧
        World.configure K (VirtioPort.new K id (portMac assignMac a portNum)) v = some p ∧
        sw.addPort p = (true, sw')) := by
  unfold handOver at h
  cases hmon : a.monitor <;> simp only [hmon, if_true, Bool.false_eq_true, if_false] at h
  · have hv : ∃ v, a.portVlan = some v := by
      unfold OptArgs.portVlan
      rw [if_neg hvlan]
      split
      · exact ⟨_, rfl⟩
      · split <;> exact ⟨_, rfl⟩
    obtain ⟨v, hv⟩ := hv
    split at h
    · next sw₁ hadd =>
      cases h
      exact .inr ⟨rfl, v, hv, configure_of_valid K ha hv _, hadd⟩
    · cases h
  · split at h
    · next sw₁ hadd =>
      cases h
      exact .inl ⟨rfl, rfl, hadd⟩
    · cases h

theorem handOver_enomem {assignMac : Bool} {sw : VirtioSwitch} {id : Nat} {a : OptArgs}
    {portNum : Nat} (h : handOver K assignMac sw id a portNum = .error .enomem) :
    (a.monitor = true ∧ sw.monitor.isSome) ∨
      (a.monitor = false ∧ ∃ p : VirtioPort, p.mac = portMac assignMac a portNum ∧
        (sw.addPort p).1 = false) := by
  unfold handOver at h
  cases hmon : a.monitor <;> simp only [hmon, if_true, Bool.false_eq_true, if_false] at h
  · split at h
    · cases h
    · next hadd =>
      refine .inr ⟨rfl, _, ?_, by rw [hadd]⟩
      split_ifs <;> simp
  · refine .inl ⟨rfl, ?_⟩
    split at h
    · cases h
    · next hadd =>
      unfold VirtioSwitch.addMonitorPort at hadd
      cases hm : sw.monitor
      · simp [hm] at hadd
      · rfl

theorem opCreate_ok {scanMac : List Char → Option (List UInt8)} {assignMac : Bool}
    {sw sw' : VirtioSwitch} {id type : Nat} {opts : List (List Char)} {p : VirtioPort}
    (h : opCreate K scanMac assignMac sw id type opts = .ok (sw', p)) :
    ∃ a portNum, createOpts scanMac opts OptArgs.init = .ok a ∧
      sw.portAvailable a.monitor = some portNum ∧
      ((a.monitor = true ∧ p = (VirtioPort.new K id (portMac assignMac a portNum)).setMonitor K ∧
          sw.addMonitorPort p = (true, sw')) ∨
        (a.monitor = false ∧ ∃ v, a.portVlan = some v ∧
          World.configure K (VirtioPort.new K id (portMac assignMac a portNum)) v = some p ∧
          sw.addPort p = (true, sw'))) := by
  obtain ⟨a, hopts, ⟨-, hr⟩ | ⟨portNum, hslot, hvlan, hover⟩⟩ := opCreate_accepted K h nofun
  · cases hr
  exact ⟨a, portNum, hopts, hslot,
    handOver_ok K (createOpts_valid scanMac OptArgs.valid_init hopts) hvlan hover⟩

theorem configure_mac {p q : VirtioPort} {v : World.PortVlan} (h : World.configure K p v = some q) :
    q.mac = p.mac := by
  cases v <;> simp only [World.configure] at h
  · cases h
    rfl
  all_goals
    split at h
    · cases h
      simp
    · cases h

theorem opCreate_enomem {scanMac : List Char → Option (List UInt8)} {assignMac : Bool}
    {sw : VirtioSwitch} {id type : Nat} {opts : List (List Char)}
    (h : opCreate K scanMac assignMac sw id type opts = .error .enomem) :
    ∃ a, createOpts scanMac opts OptArgs.init = .ok a ∧
      (sw.portAvailable a.monitor = none ∨
        ∃ portNum p, a.monitor = false ∧ sw.lookupFreeSlot = some portNum ∧
          p.mac = portMac assignMac a portNum ∧ (sw.addPort p).1 = false) := by
  obtain ⟨a, hopts, ⟨hnone, -⟩ | ⟨portNum, hslot, -, hover⟩⟩ := opCreate_accepted K h nofun
  · exact ⟨a, hopts, .inl hnone⟩
  refine ⟨a, hopts, .inr ?_⟩
  rcases handOver_enomem K hover with ⟨hmon, hsome⟩ | ⟨hmon, p, hp, hadd⟩
  · simp [VirtioSwitch.portAvailable, hmon, Option.isSome_iff_ne_none.mp hsome] at hslot
  · exact ⟨portNum, p, hmon, by simpa [VirtioSwitch.portAvailable, hmon] using hslot, hp, hadd⟩

/-! ## The server loop -/

/-- An operation of the server loop: a client's request to the factory for a port, or any
other event. -/
inductive ServerOp where
  | create (type : Nat) (opts : List (List Char))
  | event (e : World.Event) (h : e.createsPort = false)

section Server

variable (filterRequest : VirtioNetRequest → Bool) (scanMac : List Char → Option (List UInt8))
  (assignMac : Bool)

/-- One operation: a port request is served by `op_create`, whose port joins the switch
with a fresh device as the runtime registers one; every other event is the runtime's. -/
def serverStep (w : World) : ServerOp → World
  | .create type opts =>
      match opCreate K scanMac assignMac w.sw w.nextId type opts with
      | .ok (sw', p) => ({ w with nextId := w.nextId + 1 } : World).register (true, sw') p.id
      | .error _ => w
  | .event e _ => World.step K filterRequest w e

def serverRun (w : World) (ops : List ServerOp) : World :=
  ops.foldl (serverStep K filterRequest scanMac assignMac) w

/-- What `op_create` does to the world, in the runtime's events: a refused request changes
nothing, and a served one is the `createMonitor` or `createPort` event with the address for
the slot `port_available` reported and the VLANs of the settings the options gave. -/
def ServedAsEvent (w : World) (type : Nat) (opts : List (List Char)) : Prop :=
  match opCreate K scanMac assignMac w.sw w.nextId type opts with
  | .error _ => serverStep K filterRequest scanMac assignMac w (.create type opts) = w
  | .ok _ => ∃ a portNum, createOpts scanMac opts OptArgs.init = .ok a ∧
      w.sw.portAvailable a.monitor = some portNum ∧
      ((a.monitor = true ∧ serverStep K filterRequest scanMac assignMac w (.create type opts) =
          World.step K filterRequest w (.createMonitor (portMac assignMac a portNum))) ∨
        (a.monitor = false ∧ ∃ v, a.portVlan = some v ∧
          serverStep K filterRequest scanMac assignMac w (.create type opts) =
            World.step K filterRequest w (.createPort (portMac assignMac a portNum) v)))

theorem serverStep_create (w : World) (type : Nat) (opts : List (List Char)) :
    ServedAsEvent K filterRequest scanMac assignMac w type opts := by
  unfold ServedAsEvent
  split
  · next e hfail => simp only [serverStep, hfail]
  · next r hok =>
    obtain ⟨sw', p⟩ := r
    obtain ⟨a, portNum, hopts, hslot, hcases⟩ := opCreate_ok K hok
    refine ⟨a, portNum, hopts, hslot, ?_⟩
    simp only [serverStep, hok]
    rcases hcases with ⟨hmon, rfl, hadd⟩ | ⟨hmon, v, hv, hconf, hadd⟩
    · exact .inl ⟨hmon, by simp only [World.step, hadd]⟩
    · exact .inr ⟨hmon, v, hv, by simp only [World.step, hconf, hadd]⟩

theorem Inv.serverStep {w : World} (h : World.Inv K filterRequest w) (op : ServerOp) :
    World.Inv K filterRequest (serverStep K filterRequest scanMac assignMac w op) := by
  cases op with
  | create type opts =>
      have hserve := serverStep_create K filterRequest scanMac assignMac w type opts
      unfold ServedAsEvent at hserve
      split at hserve
      · rw [hserve]
        exact h
      · obtain ⟨_, _, -, -, ⟨-, heq⟩ | ⟨-, _, -, heq⟩⟩ := hserve <;> rw [heq] <;> exact h.step _
  | event e _ => exact h.step e

theorem serverRun_inv (P : World → Prop) {ops : List ServerOp}
    (hstep : ∀ op ∈ ops, ∀ w, P w → P (serverStep K filterRequest scanMac assignMac w op)) :
    ∀ {w : World}, P w → P (serverRun K filterRequest scanMac assignMac w ops) := by
  induction ops with
  | nil => exact fun h => h
  | cons op ops ih =>
      exact fun h => ih (fun o ho => hstep o (List.mem_cons_of_mem op ho))
        (hstep op (List.mem_cons_self _ _) _ h)

/-- Every world the server reaches from its start, port requests served by `op_create` among
any other events, has a switch that is a reachable state of the switch model; and each
request `op_create` serves is the runtime's port-creation event, a refused one no change. -/
theorem serverRun_reachable (maxPorts : Nat) (ops : List ServerOp) :
    VirtioSwitch.Reachable K filterRequest
        (serverRun K filterRequest scanMac assignMac (World.init maxPorts) ops).sw ∧
      ∀ w type opts, ServedAsEvent K filterRequest scanMac assignMac w type opts :=
  ⟨(serverRun_inv K filterRequest scanMac assignMac (World.Inv K filterRequest)
    (fun op _ _ h => Inv.serverStep K filterRequest scanMac assignMac h op)
    (World.Inv.init K filterRequest maxPorts)).reachable,
    serverStep_create K filterRequest scanMac assignMac⟩

end Server

/-! ## Default addresses

The other events of the server only ever empty the array's slots or the monitor's place. -/

/-- `sw'` is `sw` with some slots of the array, and perhaps the monitor's place, emptied. -/
structure Vacated (sw sw' : VirtioSwitch) : Prop where
  maxPorts_eq : sw'.maxPorts = sw.maxPorts
  slot : ∀ idx p, sw'.ports.getD idx none = some p → sw.ports.getD idx none = some p
  monitor : ∀ m, sw'.monitor = some m → sw.monitor = some m

theorem Vacated.refl (sw : VirtioSwitch) : Vacated sw sw := ⟨rfl, fun _ _ h => h, fun _ h => h⟩

theorem Vacated.trans {sw₁ sw₂ sw₃ : VirtioSwitch} (h₁ : Vacated sw₁ sw₂) (h₂ : Vacated sw₂ sw₃) :
    Vacated sw₁ sw₃ :=
  ⟨h₂.1.trans h₁.1, fun idx p h => h₁.2 idx p (h₂.2 idx p h), fun m h => h₁.3 m (h₂.3 m h)⟩

theorem Vacated.of_ports_eq {sw sw' : VirtioSwitch} (h : sw'.ports = sw.ports)
    (hmon : sw'.monitor = sw.monitor) : Vacated sw sw' :=
  ⟨by rw [← sw'.ports_length, ← sw.ports_length, h], fun _ _ hp => h ▸ hp, fun _ hm => hmon ▸ hm⟩

theorem vacated_checkPortsStep (dead : VirtioPort → Bool) (sw : VirtioSwitch) (idx : Nat) :
    Vacated sw (sw.checkPortsStep dead idx) := by
  rcases VirtioSwitch.checkPortsStep_cases dead sw idx with h | ⟨_, -, -, hports, -, -, hmon⟩
  · rw [h]
    exact .refl sw
  · refine ⟨by rw [← VirtioSwitch.ports_length, hports, List.length_set, sw.ports_length],
      fun i p hp => ?_, fun _ hm => hmon ▸ hm⟩
    rw [hports] at hp
    by_cases hi : idx = i
    · subst hi
      simp only [List.getD_eq_getElem?_getD, List.getElem?_set_self'] at hp
      cases hidx : sw.ports[idx]? <;> simp [hidx] at hp
    · rwa [VirtioSwitch.getD_set_ne _ hi] at hp

theorem vacated_checkPorts (dead : VirtioPort → Bool) (sw : VirtioSwitch) :
    Vacated sw (sw.checkPorts dead) :=
  VirtioSwitch.checkPorts_inv (Vacated sw) dead
    (fun _ idx h => h.trans (vacated_checkPortsStep dead _ idx))
    (fun _ h => ⟨h.1, h.2, fun _ hm => nomatch hm⟩) (.refl sw)

theorem step_vacated (filterRequest : VirtioNetRequest → Bool) (w : World) {e : World.Event}
    (he : e.createsPort = false) : Vacated w.sw (World.step K filterRequest w e).sw := by
  cases e with
  | createPort | createMonitor => cases he
  | capDeleted gone =>
      simp only [World.step]
      rw [(World.checkPortsRt_sw w _).1]
      exact vacated_checkPorts _ w.sw
  | kick id =>
      simp only [World.step]
      split
      · obtain ⟨hports, hmon⟩ := (World.txSteps_handlePortIrq w _).2.ports_eq
        exact .of_ports_eq hports hmon
      · split
        · split
          · exact (World.devicesOnly_monitorIrq _ _ _).1 ▸ .refl _
          · exact .refl _
        · exact .refl _
  | timeout id i => exact (World.devicesOnly_expired _ _ _).1 ▸ .refl _
  | guestReady id | guestTx id _ | guestRx id _ => exact .refl _

theorem octets_portMac (monitor : Bool) (portNum : Nat) :
    (portMac true { OptArgs.init with monitor := monitor } portNum).octets =
      ([0x02, 0x08, 0x0f, 0x2a] : List UInt8) ++
        if monitor then [0xde, 0xad] else [UInt8.ofNat (portNum >>> 8), UInt8.ofNat portNum] := by
  cases monitor <;> rfl

theorem portMac_slot_inj {i j : Nat} (hi : i < 65536) (hj : j < 65536)
    (h : portMac true { OptArgs.init with monitor := false } i =
      portMac true { OptArgs.init with monitor := false } j) : i = j := by
  have h' := congrArg MacAddr.octets h
  simp only [octets_portMac, Bool.false_eq_true, if_false, List.cons_append, List.nil_append,
    List.cons.injEq, true_and, and_true] at h'
  have h4 : (i >>> 8) % 256 = (j >>> 8) % 256 := congrArg UInt8.toNat h'.1
  have h5 : i % 256 = j % 256 := congrArg UInt8.toNat h'.2
  rw [Nat.shiftRight_eq_div_pow, Nat.shiftRight_eq_div_pow] at h4
  omega

theorem portMac_slot_ne_monitor {j : Nat} (hj : j < 57005) :
    portMac true { OptArgs.init with monitor := false } j ≠
      portMac true { OptArgs.init with monitor := true } 0 := by
  intro h
  have h' := congrArg MacAddr.octets h
  simp only [octets_portMac, Bool.false_eq_true, if_false, if_true, List.cons_append,
    List.nil_append, List.cons.injEq, true_and, and_true] at h'
  have h4 : (j >>> 8) % 256 = 0xde := congrArg UInt8.toNat h'.1
  have h5 : j % 256 = 0xad := congrArg UInt8.toNat h'.2
  rw [Nat.shiftRight_eq_div_pow] at h4
  omega

/-- The switch of a server whose ports all got their default addresses: the array keeps its
`n` slots, every port in it has the address `op_create` gives a port of its slot, and the
monitor has the monitor's. -/
structure DefaultAddrs (assignMac : Bool) (n : Nat) (sw : VirtioSwitch) : Prop where
  slots : sw.maxPorts = n
  addr : ∀ idx p, sw.ports.getD idx none = some p →
    p.mac = portMac assignMac { OptArgs.init with monitor := false } idx
  monitor : ∀ m, sw.monitor = some m → m.mac = portMac assignMac { OptArgs.init with monitor := true } 0

theorem DefaultAddrs.vacated {assignMac : Bool} {n : Nat} {sw sw' : VirtioSwitch}
    (h : DefaultAddrs assignMac n sw) (hv : Vacated sw sw') : DefaultAddrs assignMac n sw' :=
  ⟨hv.1.trans h.slots, fun idx p hp => h.addr idx p (hv.2 idx p hp), fun m hm => h.monitor m (hv.3 m hm)⟩

theorem DefaultAddrs.addPort {assignMac : Bool} {n : Nat} {sw : VirtioSwitch}
    (h : DefaultAddrs assignMac n sw) (hn : n ≤ 65536) {idx : Nat} (hidx : sw.lookupFreeSlot = some idx)
    {p : VirtioPort} (hp : p.mac = portMac assignMac { OptArgs.init with monitor := false } idx) :
    (sw.addPort p).1 = true ∧ DefaultAddrs assignMac n (sw.addPort p).2 := by
  obtain ⟨hlt, hfree, -⟩ := VirtioSwitch.lookupFreeSlot_eq_some hidx
  obtain ⟨hiff, -, htrue⟩ := VirtioSwitch.addPort_spec sw p
  have hok : (sw.addPort p).1 = true := by
    by_contra hne
    rcases hiff.mp (by simpa using hne) with ⟨hknown, q, hq, hqmac⟩ | hnone
    · obtain ⟨j, hj, hqj⟩ := List.mem_iff_getElem.mp hq
      have hslot : sw.ports.getD j none = some q := by
        simp [List.getD_eq_getElem?_getD, List.getElem?_eq_getElem hj, hqj]
      have hq' := h.addr j q hslot
      have hlen := sw.ports_length
      have hslots := h.slots
      cases assignMac
      · exact hknown (hp.trans rfl)
      · have hji : j = idx := portMac_slot_inj (by omega) (by omega) (hq'.symm.trans (hqmac.trans hp))
        rw [hji, hfree] at hslot
        cases hslot
    · rw [hidx] at hnone
      cases hnone
  obtain ⟨idx', hidx', hports, -, hmon, -⟩ := htrue hok
  rw [hidx] at hidx'
  cases hidx'
  refine ⟨hok, ?_, fun i q hq => ?_, fun m hm => h.monitor m (hmon ▸ hm)⟩
  · rw [← VirtioSwitch.ports_length, hports, List.length_set, sw.ports_length, h.slots]
  · rw [hports] at hq
    rcases VirtioSwitch.getD_set_some_cases hq with ⟨rfl, rfl⟩ | ⟨-, hq⟩
    · exact hp
    · exact h.addr i q hq

theorem DefaultAddrs.addMonitorPort {assignMac : Bool} {n : Nat} {sw sw' : VirtioSwitch}
    (h : DefaultAddrs assignMac n sw) {p : VirtioPort}
    (hp : p.mac = portMac assignMac { OptArgs.init with monitor := true } 0)
    (hadd : sw.addMonitorPort p = (true, sw')) : DefaultAddrs assignMac n sw' := by
  unfold VirtioSwitch.addMonitorPort at hadd
  split at hadd <;> cases hadd
  exact ⟨h.slots, h.addr, fun m hm => by cases hm; exact hp⟩

def ServerOp.setsNoMac : ServerOp → Bool
  | .create _ opts => opts.all fun opt => !strncmpEq 4 "mac=".toList opt
  | .event _ _ => true

theorem handleVlan_mac (str : List Char) (a : OptArgs) :
    (handleVlan str a).2.mac = a.mac ∧ (handleVlan str a).2.macSet = a.macSet := by
  unfold handleVlan
  split
  · dsimp only
    split <;> exact ⟨rfl, rfl⟩
  · split <;> exact ⟨rfl, rfl⟩

theorem handleOptArg_mac (scanMac : List Char → Option (List UInt8)) (size : Nat) {opt : List Char}
    (hopt : strncmpEq 4 "mac=".toList opt = false) (a : OptArgs) :
    (handleOptArg scanMac size opt a).2.mac = a.mac ∧
      (handleOptArg scanMac size opt a).2.macSet = a.macSet := by
  -- every other branch returns the settings with the address fields as they were
  unfold handleOptArg
  simp only [hopt, Bool.false_eq_true, if_false, apply_ite (fun r : Bool × OptArgs => r.2.mac),
    apply_ite (fun r : Bool × OptArgs => r.2.macSet), handleVlan_mac, ite_self, and_self]

theorem createOpts_noMac {scanMac : List Char → Option (List UInt8)} {type : Nat}
    {opts : List (List Char)} (hop : (ServerOp.create type opts).setsNoMac = true) {a : OptArgs}
    (ha : createOpts scanMac opts OptArgs.init = .ok a) :
    a.mac = OptArgs.init.mac ∧ a.macSet = false := by
  simp only [ServerOp.setsNoMac, List.all_eq_true, Bool.not_eq_true'] at hop
  exact createOpts_inv scanMac (fun b => b.mac = OptArgs.init.mac ∧ b.macSet = false)
    (fun opt hopt b hb => (handleOptArg_mac scanMac 20 (hop opt hopt) b).1.trans hb.1 ▸
      ⟨rfl, (handleOptArg_mac scanMac 20 (hop opt hopt) b).2.trans hb.2⟩) ⟨rfl, rfl⟩ ha

theorem portMac_of_noMac (assignMac : Bool) {a : OptArgs} (hmac : a.mac = OptArgs.init.mac)
    (hset : a.macSet = false) (portNum : Nat) :
    portMac assignMac a portNum =
      portMac assignMac { OptArgs.init with monitor := a.monitor } (if a.monitor then 0 else portNum) := by
  cases hmon : a.monitor <;> simp [portMac, defaultMac, hmac, hset, hmon, OptArgs.init]

section Server

variable (filterRequest : VirtioNetRequest → Bool) (scanMac : List Char → Option (List UInt8))
  (assignMac : Bool)

theorem DefaultAddrs.serverStep {n : Nat} (hn : n ≤ 65536) {w : World}
    (h : DefaultAddrs assignMac n w.sw) {op : ServerOp} (hop : op.setsNoMac = true) :
    DefaultAddrs assignMac n (serverStep K filterRequest scanMac assignMac w op).sw := by
  cases op with
  | create type opts =>
      simp only [SwitchFactory.serverStep]
      split
      · next sw' p hok =>
        obtain ⟨a, portNum, hopts, hslot, hcases⟩ := opCreate_ok K hok
        obtain ⟨hmac, hset⟩ := createOpts_noMac hop hopts
        have haddr := portMac_of_noMac assignMac hmac hset portNum
        simp only [World.register, if_true, World.update_sw]
        rcases hcases with ⟨hmon, rfl, hadd⟩ | ⟨hmon, v, -, hconf, hadd⟩
        · rw [hmon, if_pos rfl] at haddr
          exact h.addMonitorPort (by rw [VirtioPort.mac_setMonitor, VirtioPort.mac_new, haddr]) hadd
        · rw [hmon, if_neg Bool.false_ne_true] at haddr
          have hslot' : w.sw.lookupFreeSlot = some portNum := by
            simpa [VirtioSwitch.portAvailable, hmon] using hslot
          have := (h.addPort hn hslot' (by rw [configure_mac K hconf, VirtioPort.mac_new, haddr])).2
          rwa [hadd] at this
      · exact h
  | event e he => exact h.vacated (step_vacated K filterRequest w he)

theorem serverRun_defaultAddrs {n : Nat} (hn : n ≤ 65536) {ops : List ServerOp}
    (hops : ∀ op ∈ ops, op.setsNoMac = true) :
    DefaultAddrs assignMac n (serverRun K filterRequest scanMac assignMac (World.init n) ops).sw :=
  serverRun_inv K filterRequest scanMac assignMac (fun w => DefaultAddrs assignMac n w.sw)
    (fun op hop _ hw => hw.serverStep K filterRequest scanMac assignMac hn (hops op hop))
    ⟨rfl, fun idx _ hp => absurd ((VirtioSwitch.getD_new_ports n idx).symm.trans hp) nofun,
      fun _ hm => nomatch hm⟩

/-- As long as no client sets an address with `mac=` and the array has at most `2^16`
slots, `op_create` refuses a port for want of memory only when `port_available` finds no
place: `add_port` never rejects the default address of a free slot as a duplicate. -/
theorem refused_only_when_full {maxPorts : Nat} (hmax : maxPorts ≤ 65536) {ops : List ServerOp}
    (hops : ∀ op ∈ ops, op.setsNoMac = true) {id type : Nat} {opts : List (List Char)}
    (hop : (ServerOp.create type opts).setsNoMac = true)
    (h : opCreate K scanMac assignMac
      (serverRun K filterRequest scanMac assignMac (World.init maxPorts) ops).sw id type opts =
        .error .enomem) :
    ∃ a, createOpts scanMac opts OptArgs.init = .ok a ∧
      (serverRun K filterRequest scanMac assignMac (World.init maxPorts) ops).sw.portAvailable
        a.monitor = none := by
  have hinv := serverRun_defaultAddrs K filterRequest scanMac assignMac hmax hops
  obtain ⟨a, hopts, hcases⟩ := opCreate_enomem K h
  refine ⟨a, hopts, hcases.resolve_right ?_⟩
  rintro ⟨portNum, p, hmon, hslot, hp, hadd⟩
  obtain ⟨hmac, hset⟩ := createOpts_noMac hop hopts
  have haddr := portMac_of_noMac assignMac hmac hset portNum
  rw [hmon, if_neg Bool.false_ne_true] at haddr
  have := (hinv.addPort hmax hslot (hp.trans haddr)).1
  rw [hadd] at this
  cases this

theorem refused_only_when_full_two :
    opCreate PseudoVlanIds.sample (fun _ => none) true
        (serverRun PseudoVlanIds.sample (fun _ => true) (fun _ => none) true (World.init 2)
          [.create 0 [], .create 0 []]).sw 2 0 [] = .error .enomem ∧
      ∃ a, createOpts (fun _ => none) [] OptArgs.init = .ok a ∧
        (serverRun PseudoVlanIds.sample (fun _ => true) (fun _ => none) true (World.init 2)
          [.create 0 [], .create 0 []]).sw.portAvailable a.monitor = none :=
  have h : opCreate PseudoVlanIds.sample (fun _ => none) true
      (serverRun PseudoVlanIds.sample (fun _ => true) (fun _ => none) true (World.init 2)
        [.create 0 [], .create 0 []]).sw 2 0 [] = .error .enomem := rfl
  ⟨h, refused_only_when_full PseudoVlanIds.sample (fun _ => true) (fun _ => none) true
    (by decide) (by decide) (by decide) h⟩

theorem DefaultAddrs.registered {assignMac : Bool} {n : Nat} {sw : VirtioSwitch}
    (h : DefaultAddrs assignMac n sw) {p : VirtioPort} (hp : sw.Registered p) :
    (∃ i < n, sw.ports.getD i none = some p ∧
        p.mac = portMac assignMac { OptArgs.init with monitor := false } i) ∨
      (sw.monitor = some p ∧ p.mac = portMac assignMac { OptArgs.init with monitor := true } 0) := by
  rcases hp with hp | hp
  · obtain ⟨i, hi, hpi⟩ := List.mem_iff_getElem.mp hp
    have hslot : sw.ports.getD i none = some p := by
      simp [List.getD_eq_getElem?_getD, List.getElem?_eq_getElem hi, hpi]
    exact .inl ⟨i, h.slots ▸ sw.ports_length ▸ hi, hslot, h.addr i p hslot⟩
  · exact .inr ⟨hp, h.monitor p hp⟩

/-- With at most `0xdead` slots and no `mac=` option, two ports registered with the switch,
the monitor included, never share an address, unless the server assigns none (`-M`). -/
theorem registered_addrs_distinct {maxPorts : Nat} (hmax : maxPorts ≤ 57005) {ops : List ServerOp}
    (hops : ∀ op ∈ ops, op.setsNoMac = true) {p q : VirtioPort}
    (hp : (serverRun K filterRequest scanMac assignMac (World.init maxPorts) ops).sw.Registered p)
    (hq : (serverRun K filterRequest scanMac assignMac (World.init maxPorts) ops).sw.Registered q)
    (hne : p ≠ q) (hmac : p.mac = q.mac) : p.mac = MacAddr.addrUnknown := by
  have hinv := serverRun_defaultAddrs K filterRequest scanMac assignMac (hmax.trans (by decide)) hops
  cases assignMac
  · rcases hinv.registered hp with ⟨_, _, _, h⟩ | ⟨_, h⟩ <;> exact h
  exfalso
  rcases hinv.registered hp with ⟨i, hi, hpi, hpmac⟩ | ⟨hpm, hpmac⟩ <;>
    rcases hinv.registered hq with ⟨j, hj, hqj, hqmac⟩ | ⟨hqm, hqmac⟩
  · have hij : i = j := portMac_slot_inj (by omega) (by omega) (hpmac.symm.trans (hmac.trans hqmac))
    rw [hij, hqj] at hpi
    exact hne (Option.some.inj hpi).symm
  · exact portMac_slot_ne_monitor (by omega) (hpmac.symm.trans (hmac.trans hqmac))
  · exact portMac_slot_ne_monitor (by omega) (hqmac.symm.trans (hmac.symm.trans hpmac))
  · exact hne (Option.some.inj (hpm.symm.trans hqm))

theorem registered_addrs_distinct_unassigned :
    (serverRun PseudoVlanIds.sample (fun _ => true) (fun _ => none) false (World.init 2)
        [.create 0 [], .create 0 ["type=monitor".toList]]).sw.Registered
        (VirtioPort.new PseudoVlanIds.sample 0 MacAddr.addrUnknown) ∧
      (serverRun PseudoVlanIds.sample (fun _ => true) (fun _ => none) false (World.init 2)
        [.create 0 [], .create 0 ["type=monitor".toList]]).sw.Registered
        ((VirtioPort.new PseudoVlanIds.sample 1 MacAddr.addrUnknown).setMonitor PseudoVlanIds.sample) ∧
      VirtioPort.new PseudoVlanIds.sample 0 MacAddr.addrUnknown ≠
        (VirtioPort.new PseudoVlanIds.sample 1 MacAddr.addrUnknown).setMonitor PseudoVlanIds.sample ∧
      (VirtioPort.new PseudoVlanIds.sample 0 MacAddr.addrUnknown).mac = MacAddr.addrUnknown :=
  have hp : (serverRun PseudoVlanIds.sample (fun _ => true) (fun _ => none) false (World.init 2)
      [.create 0 [], .create 0 ["type=monitor".toList]]).sw.Registered
      (VirtioPort.new PseudoVlanIds.sample 0 MacAddr.addrUnknown) := .inl (by decide)
  have hq : (serverRun PseudoVlanIds.sample (fun _ => true) (fun _ => none) false (World.init 2)
      [.create 0 [], .create 0 ["type=monitor".toList]]).sw.Registered
      ((VirtioPort.new PseudoVlanIds.sample 1 MacAddr.addrUnknown).setMonitor PseudoVlanIds.sample) :=
    .inr rfl
  have hne : VirtioPort.new PseudoVlanIds.sample 0 MacAddr.addrUnknown ≠
      (VirtioPort.new PseudoVlanIds.sample 1 MacAddr.addrUnknown).setMonitor PseudoVlanIds.sample := by
    decide
  ⟨hp, hq, hne, registered_addrs_distinct PseudoVlanIds.sample (fun _ => true) (fun _ => none) false
    (by decide) (by decide) hp hq hne rfl⟩

end Server

end SwitchFactory

end VirtioNetSwitch
