import VirtioNetSwitch.Runtime.Refinement

/-!
# The factory's port options

`Switch_factory::handle_opt_arg` reads one option of a port request into the settings
`op_create` builds the port from; its `vlan=` branch parses with `cxx::String`, whose
`from_dec` wraps into an `l4_uint16_t`.  The `trunk=` loop accepts exactly the
`TrunkList`s, not the documented grammar, and every VLAN id the options store is valid.
-/

namespace VirtioNetSwitch

/-! ## C strings and `cxx::String` -/

/-- The characters of a C string before its terminating NUL. -/
def cstr (s : List Char) : List Char := s.takeWhile (· != '\x00')

/-- `strncmp(a, b, n) == 0`: the first `n` characters agree, or agree up to a common NUL.
The end of a list reads as NUL. -/
def strncmpEq : Nat → List Char → List Char → Bool
  | 0, _, _ => true
  | n + 1, a, b =>
      a.headD '\x00' == b.headD '\x00' && (a.headD '\x00' == '\x00' || strncmpEq n a.tail b.tail)

/-- `cxx::String::from_dec` into an `l4_uint16_t`: the number of leading decimal digits
and their value, which wraps modulo `2^16` in the `l4_uint16_t` it accumulates in. -/
def fromDec (s : List Char) : Nat × Nat :=
  let ds := s.takeWhile Char.isDigit
  (ds.length, ds.foldl (fun v c => (v * 10 + (c.toNat - '0'.toNat)) % 2 ^ 16) 0)

theorem fromDec_takeWhile (s : List Char) : fromDec (s.takeWhile Char.isDigit) = fromDec s := by
  simp only [fromDec, List.takeWhile_idem]

theorem fromDec_append {w rest : List Char} (hw : ∀ c ∈ w, c.isDigit = true)
    (hrest : ∀ c ∈ rest.head?, c.isDigit = false) :
    fromDec (w ++ rest) = (w.length, (fromDec w).2) := by
  have htake : (w ++ rest).takeWhile Char.isDigit = w := by
    rw [List.takeWhile_append_of_pos hw]
    cases rest with
    | nil => simp
    | cons c r => simp [List.takeWhile_cons_of_neg (by simpa using hrest c rfl)]
  rw [← fromDec_takeWhile, htake]
  simp only [fromDec, List.takeWhile_eq_self_iff.mpr hw]

/-! ## `handle_opt_arg` -/

/-- The `while ((next = str.from_dec(&vid)))` loop of `vlan=trunk=`, from the text left
and the ids pushed so far to the text it stops at and the ids.  A round consumes at
least one character, so the text's length in `fuel` is enough. -/
def trunkLoop : Nat → List Char → List Nat → List Char × List Nat
  | 0, s, ids => (s, ids)
  | fuel + 1, s, ids =>
      let (next, vid) := fromDec s
      if next = 0 then (s, ids)
      else if !vlanValidId vid then (s, ids)
      else if next < s.length ∧ s[next]? ≠ some ',' then (s, ids ++ [vid])
      else trunkLoop fuel (s.drop (next + 1)) (ids ++ [vid])

structure OptArgs where
  monitor : Bool
  name : List Char
  vlanAccess : Nat
  vlanTrunk : List Nat
  mac : List UInt8
  macSet : Bool
  deriving DecidableEq, Repr

namespace OptArgs

def init : OptArgs := ⟨false, [], 0, [], [0x02, 0x08, 0x0f, 0x2a, 0x00, 0x00], false⟩

/-- `op_create`'s VLAN configuration of a switch port, `none` for a port given both an
access and a trunk VLAN (`-L4_EINVAL`). -/
def portVlan (a : OptArgs) : Option World.PortVlan :=
  if a.vlanAccess ≠ 0 ∧ a.vlanTrunk ≠ [] then none
  else if a.vlanAccess ≠ 0 then some (.access a.vlanAccess)
  else if a.vlanTrunk ≠ [] then some (.trunk a.vlanTrunk)
  else some .native

end OptArgs

namespace SwitchFactory

/-- The `vlan=` branch of `handle_opt_arg`, on the text after `vlan=`. -/
def handleVlan (str : List Char) (a : OptArgs) : Bool × OptArgs :=
  if "access=".toList.isPrefixOf str then
    let s := str.drop 7
    let (next, vid) := fromDec s
    if next ≠ 0 ∧ next = s.length ∧ vlanValidId vid then (true, { a with vlanAccess := vid })
    else (false, a)
  else if "trunk=".toList.isPrefixOf str then
    let (s, ids) := trunkLoop str.length (str.drop 6) a.vlanTrunk
    (s.isEmpty, { a with vlanTrunk := ids })
  else (false, a)

/-- `handle_opt_arg(opt, ...)` on an option of `opt.length()` characters, with a `name`
buffer of `size` bytes.  `scanMac` is the `sscanf` of the six hex octets after `mac=`,
`none` unless it converts all six. -/
def handleOptArg (scanMac : List Char → Option (List UInt8)) (size : Nat) (opt : List Char)
    (a : OptArgs) : Bool × OptArgs :=
  let len := opt.length
  if len ≤ 5 then (false, a)
  else if strncmpEq 5 "type=".toList opt then
    if strncmpEq len "type=monitor".toList opt then (true, { a with monitor := true })
    else if strncmpEq len "type=none".toList opt then (true, a)
    else (false, a)
  else if strncmpEq 5 "name=".toList opt then
    (true, { a with name := if size = 0 then a.name
                            else (cstr ((opt.drop 5).take (len - 5))).take (size - 1) })
  else if strncmpEq 5 "vlan=".toList opt then
    handleVlan (cstr ((opt.drop 5).take (len - 5))) a
  else if strncmpEq 4 "mac=".toList opt then
    if 21 < len ∧ opt.getD 21 '\x00' = '\x00' then
      match scanMac (cstr (opt.drop 4)) with
      | some mac => (true, { a with mac := mac, macSet := true })
      | none => (false, a)
    else (false, a)
  else (false, a)

/-- `op_create`'s loop over the options `parse_int_param` leaves to `handle_opt_arg`,
`none` (`-L4_EINVAL`) at the first one it rejects. -/
def handleOptArgs (scanMac : List Char → Option (List UInt8)) (size : Nat) :
    List (List Char) → OptArgs → Option OptArgs
  | [], a => some a
  | opt :: opts, a =>
      let (ok, a) := handleOptArg scanMac size opt a
      if ok then handleOptArgs scanMac size opts a else none

end SwitchFactory

/-! ## The language of the `trunk=` loop -/

/-- A decimal id as the `vlan=` branch takes it: digits only, whose value modulo `2^16`
is a valid VLAN id. -/
def DecId (w : List Char) : Prop :=
  w ≠ [] ∧ (∀ c ∈ w, c.isDigit = true) ∧ vlanValidId (fromDec w).2 = true

/-- The texts the `trunk=` loop accepts, with the ids it pushes: nothing, or ids each
followed by a comma, the last perhaps not. -/
inductive TrunkList : List Char → List Nat → Prop
  | nil : TrunkList [] []
  | last {w : List Char} (hw : DecId w) : TrunkList w [(fromDec w).2]
  | cons {w s : List Char} {vs : List Nat} (hw : DecId w) (h : TrunkList s vs) :
      TrunkList (w ++ ',' :: s) ((fromDec w).2 :: vs)

theorem getElem?_append_cons_length {α : Type} (w s : List α) (c : α) :
    (w ++ c :: s)[w.length]? = some c := by
  rw [List.getElem?_append_right le_rfl, Nat.sub_self, List.getElem?_cons_zero]

theorem trunkLoop_nil (fuel : Nat) (ids : List Nat) : trunkLoop fuel [] ids = ([], ids) := by
  cases fuel <;> rfl

theorem TrunkList.eq_nil {vs : List Nat} (h : TrunkList [] vs) : vs = [] := by
  generalize hx : ([] : List Char) = x at h
  cases h with
  | nil => rfl
  | last hw => exact absurd hx.symm hw.1
  | cons _ _ => simp at hx

theorem trunkLoop_of_trunkList {s : List Char} {vs : List Nat} (h : TrunkList s vs)
    (fuel : Nat) (hfuel : s.length ≤ fuel) (ids : List Nat) :
    trunkLoop fuel s ids = ([], ids ++ vs) := by
  induction h generalizing fuel ids with
  | nil => rw [List.append_nil]; exact trunkLoop_nil fuel ids
  | @last w hw =>
      obtain ⟨hne, hdig, hval⟩ := hw
      cases fuel with
      | zero => exact absurd (List.length_pos.mpr hne) (by omega)
      | succ f =>
          have hdec : fromDec w = (w.length, (fromDec w).2) := by
            simpa using @fromDec_append w [] hdig (by simp)
          simp only [trunkLoop]
          rw [hdec]
          dsimp only
          rw [if_neg (by simpa using hne), if_neg (by simp [hval]),
            if_neg fun h => lt_irrefl _ h.1, List.drop_eq_nil_of_le (by omega), trunkLoop_nil]
  | @cons w s vs hw _ ih =>
      obtain ⟨hne, hdig, hval⟩ := hw
      cases fuel with
      | zero => simp at hfuel
      | succ f =>
          have hdec : fromDec (w ++ ',' :: s) = (w.length, (fromDec w).2) :=
            fromDec_append hdig (by simp)
          simp only [trunkLoop]
          rw [hdec]
          dsimp only
          rw [if_neg (by simpa using hne), if_neg (by simp [hval]),
            if_neg fun h => h.2 (getElem?_append_cons_length w s ','), List.drop_append 1,
            List.drop_one, List.tail_cons,
            ih f (by simp only [List.length_append, List.length_cons] at hfuel; omega),
            List.append_assoc, List.singleton_append]

theorem trunkList_of_trunkLoop (fuel : Nat) (s : List Char) (ids : List Nat)
    (h : (trunkLoop fuel s ids).1 = []) :
    ∃ vs, TrunkList s vs ∧ (trunkLoop fuel s ids).2 = ids ++ vs := by
  induction fuel generalizing s ids with
  | zero =>
      cases h
      exact ⟨[], .nil, by simp [trunkLoop]⟩
  | succ f ih =>
      -- the digits `w` the round reads, and what follows them
      obtain ⟨w, rest, hs, hw, hrest⟩ : ∃ w rest, s = w ++ rest ∧ w = s.takeWhile Char.isDigit ∧
          rest = s.dropWhile Char.isDigit := ⟨_, _, (List.takeWhile_append_dropWhile _ _).symm,
            rfl, rfl⟩
      have hdig : ∀ c ∈ w, c.isDigit = true := fun c hc => List.mem_takeWhile_imp (hw ▸ hc)
      have hhead : ∀ c ∈ rest.head?, c.isDigit = false := by
        intro c hc
        have hne : s.dropWhile Char.isDigit ≠ [] := by
          rintro hnil
          rw [hrest, hnil] at hc
          cases hc
        rw [hrest, List.head?_eq_head hne] at hc
        rw [← Option.some.inj hc]
        exact List.head_dropWhile_not Char.isDigit s hne
      have hdec : fromDec s = (w.length, (fromDec w).2) := hs ▸ fromDec_append hdig hhead
      simp only [trunkLoop] at h ⊢
      rw [hdec] at h ⊢
      dsimp only at h ⊢
      by_cases h0 : w.length = 0
      · rw [if_pos h0] at h ⊢
        subst h
        exact ⟨[], .nil, by simp⟩
      rw [if_neg h0] at h ⊢
      by_cases hv : (!vlanValidId (fromDec w).2) = true
      · rw [if_pos hv] at h ⊢
        subst h
        exact ⟨[], .nil, by simp⟩
      rw [if_neg hv] at h ⊢
      have hid : DecId w := ⟨fun hnil => h0 (by simp [hnil]), hdig, by simpa using hv⟩
      by_cases hstop : w.length < s.length ∧ s[w.length]? ≠ some ','
      · rw [if_pos hstop] at h
        subst h
        simp at hstop
      rw [if_neg hstop] at h ⊢
      obtain ⟨vs, hvs, heq⟩ := ih _ _ h
      rw [heq, List.append_assoc, List.singleton_append]
      refine ⟨(fromDec w).2 :: vs, ?_, rfl⟩
      subst hs
      cases rest with
      | nil =>
          rw [List.append_nil, List.drop_eq_nil_of_le (by omega)] at hvs
          rw [hvs.eq_nil, List.append_nil]
          exact .last hid
      | cons c r =>
          have hc : c = ',' := by
            rw [getElem?_append_cons_length] at hstop
            simpa using hstop
          subst hc
          have hdrop : (w ++ ',' :: r).drop (w.length + 1) = r := List.drop_append 1
          rw [hdrop] at hvs
          exact .cons hid hvs

instance : DecidablePred DecId := fun w =>
  inferInstanceAs (Decidable (w ≠ [] ∧ (∀ c ∈ w, c.isDigit = true) ∧ _))

theorem fromDec_fst_eq_length_iff (s : List Char) :
    (fromDec s).1 ≠ 0 ∧ (fromDec s).1 = s.length ↔ s ≠ [] ∧ ∀ c ∈ s, c.isDigit = true := by
  have hpre := List.takeWhile_prefix Char.isDigit (l := s)
  rw [← List.takeWhile_eq_self_iff]
  constructor
  · rintro ⟨h0, hlen⟩
    have heq := hpre.eq_of_length hlen
    exact ⟨fun hs => h0 (by simp [fromDec, hs]), heq⟩
  · rintro ⟨hne, heq⟩
    have hlen : (fromDec s).1 = s.length := by simp only [fromDec, heq]
    exact ⟨by rw [hlen]; simpa using hne, hlen⟩

/-! ## The `vlan=` branch -/

namespace SwitchFactory

theorem handleVlan_access (s : List Char) (a : OptArgs) :
    handleVlan ("access=".toList ++ s) a =
      if DecId s then (true, { a with vlanAccess := (fromDec s).2 }) else (false, a) := by
  have hacc : "access=".toList.isPrefixOf ("access=".toList ++ s) = true :=
    List.isPrefixOf_iff_prefix.mpr (List.prefix_append _ _)
  have hd : ("access=".toList ++ s).drop 7 = s := rfl
  simp only [handleVlan, hacc, hd, if_true]
  by_cases h : DecId s
  · obtain ⟨h0, hlen⟩ := (fromDec_fst_eq_length_iff s).mpr ⟨h.1, h.2.1⟩
    rw [if_pos h, if_pos ⟨h0, hlen, h.2.2⟩]
  · rw [if_neg h, if_neg]
    rintro ⟨h0, hlen, hv⟩
    obtain ⟨hne, hdig⟩ := (fromDec_fst_eq_length_iff s).mp ⟨h0, hlen⟩
    exact h ⟨hne, hdig, hv⟩

theorem handleVlan_trunk (s : List Char) (a : OptArgs) :
    handleVlan ("trunk=".toList ++ s) a =
      ((trunkLoop (s.length + 6) s a.vlanTrunk).1.isEmpty,
        { a with vlanTrunk := (trunkLoop (s.length + 6) s a.vlanTrunk).2 }) := by
  have hacc : "access=".toList.isPrefixOf ("trunk=".toList ++ s) = false := rfl
  have htr : "trunk=".toList.isPrefixOf ("trunk=".toList ++ s) = true :=
    List.isPrefixOf_iff_prefix.mpr (List.prefix_append _ _)
  simp only [handleVlan, hacc, htr, Bool.false_eq_true, if_false, if_true]
  rfl

/-- `vlan=trunk=` accepts exactly the `TrunkList`s, and appends their ids. -/
theorem handleVlan_trunk_iff (s : List Char) (a : OptArgs) :
    (handleVlan ("trunk=".toList ++ s) a).1 = true ↔
      ∃ vs, TrunkList s vs ∧
        (handleVlan ("trunk=".toList ++ s) a).2 = { a with vlanTrunk := a.vlanTrunk ++ vs } := by
  rw [handleVlan_trunk]
  dsimp only
  constructor
  · intro h
    obtain ⟨vs, hvs, heq⟩ := trunkList_of_trunkLoop _ s a.vlanTrunk (List.isEmpty_iff.mp h)
    exact ⟨vs, hvs, by rw [heq]⟩
  · rintro ⟨vs, hvs, -⟩
    rw [trunkLoop_of_trunkList hvs _ (by omega)]
    rfl

theorem handleOptArg_vlan (scanMac : List Char → Option (List UInt8)) (size : Nat)
    {rest tail : List Char} (hrest : '\x00' ∉ rest) (htail : tail = [] ∨ tail.head? = some '\x00')
    (hne : rest ++ tail ≠ []) (a : OptArgs) :
    handleOptArg scanMac size ("vlan=".toList ++ rest ++ tail) a = handleVlan rest a := by
  have hlen : ¬("vlan=".toList ++ rest ++ tail).length ≤ 5 := by
    have : 0 < (rest ++ tail).length := List.length_pos.mpr hne
    simp only [List.length_append] at this ⊢
    simp
    omega
  have hcstr : cstr ((("vlan=".toList ++ rest ++ tail).drop 5).take
      (("vlan=".toList ++ rest ++ tail).length - 5)) = rest := by
    have hd : ("vlan=".toList ++ rest ++ tail).drop 5 = rest ++ tail := by
      rw [List.append_assoc]
      rfl
    rw [hd, List.take_of_length_le (by simp), cstr,
      List.takeWhile_append_of_pos fun c hc => by simpa using ne_of_mem_of_not_mem hc hrest]
    rcases htail with rfl | htail
    · simp
    · cases tail with
      | nil => cases htail
      | cons c t =>
          simp only [List.head?_cons, Option.some.injEq] at htail
          subst htail
          simp
  unfold handleOptArg
  rw [if_neg hlen]
  rw [List.append_assoc] at hcstr ⊢
  rw [if_neg (by simp only [Bool.not_eq_true]; rfl), if_neg (by simp only [Bool.not_eq_true]; rfl),
    if_pos (show strncmpEq 5 "vlan=".toList ("vlan=".toList ++ (rest ++ tail)) = true from rfl),
    hcstr]

theorem handleOptArg_vlan_text (scanMac : List Char → Option (List UInt8)) {tail : List Char}
    (htail : tail = [] ∨ tail.head? = some '\x00') (rest : List Char) (hne : rest ≠ [])
    (hrest : '\x00' ∉ rest) :
    handleOptArg scanMac 20 ("vlan=".toList ++ rest ++ tail) OptArgs.init =
      handleVlan rest OptArgs.init :=
  handleOptArg_vlan scanMac 20 hrest htail (List.append_ne_nil_of_left_ne_nil hne _) _

theorem vlan_option_outside_grammar (scanMac : List Char → Option (List UInt8))
    {tail : List Char} (htail : tail = [] ∨ tail.head? = some '\x00') :
    handleOptArg scanMac 20 ("vlan=trunk=all".toList ++ tail) OptArgs.init =
        (false, OptArgs.init) ∧
      handleOptArg scanMac 20 ("vlan=trunk=".toList ++ tail) OptArgs.init =
        (true, OptArgs.init) ∧
      handleOptArg scanMac 20 ("vlan=trunk=1,".toList ++ tail) OptArgs.init =
        (true, { OptArgs.init with vlanTrunk := [1] }) ∧
      handleOptArg scanMac 20 ("vlan=access=65541".toList ++ tail) OptArgs.init =
        (true, { OptArgs.init with vlanAccess := 5 }) :=
  ⟨(handleOptArg_vlan_text scanMac htail ("trunk=all".toList) (by decide) (by decide)).trans
      (by decide),
    (handleOptArg_vlan_text scanMac htail ("trunk=".toList) (by decide) (by decide)).trans
      (by decide),
    (handleOptArg_vlan_text scanMac htail ("trunk=1,".toList) (by decide) (by decide)).trans
      (by decide),
    (handleOptArg_vlan_text scanMac htail ("access=65541".toList) (by decide)
      (by decide)).trans (by decide)⟩

theorem vlan_option_outside_grammar_terminated :
    (['\x00'] = [] ∨ ['\x00'].head? = some '\x00') ∧
      handleOptArg (fun _ => none) 20 ("vlan=trunk=all".toList ++ ['\x00']) OptArgs.init =
        (false, OptArgs.init) ∧
      handleOptArg (fun _ => none) 20 ("vlan=trunk=".toList ++ ['\x00']) OptArgs.init =
        (true, OptArgs.init) ∧
      handleOptArg (fun _ => none) 20 ("vlan=trunk=1,".toList ++ ['\x00']) OptArgs.init =
        (true, { OptArgs.init with vlanTrunk := [1] }) ∧
      handleOptArg (fun _ => none) 20 ("vlan=access=65541".toList ++ ['\x00']) OptArgs.init =
        (true, { OptArgs.init with vlanAccess := 5 }) :=
  ⟨.inr rfl, vlan_option_outside_grammar (fun _ => none) (.inr rfl)⟩

end SwitchFactory

/-! ## What `op_create` gets -/

namespace OptArgs

/-- Every VLAN id among the settings is valid, the unset access id `0` apart. -/
def Valid (a : OptArgs) : Prop :=
  (a.vlanAccess = 0 ∨ vlanValidId a.vlanAccess = true) ∧ ∀ v ∈ a.vlanTrunk, vlanValidId v = true

theorem valid_init : init.Valid := ⟨.inl rfl, by simp [init]⟩

end OptArgs

theorem trunkLoop_valid (fuel : Nat) (s : List Char) {ids : List Nat}
    (h : ∀ v ∈ ids, vlanValidId v = true) :
    ∀ v ∈ (trunkLoop fuel s ids).2, vlanValidId v = true := by
  induction fuel generalizing s ids with
  | zero => exact h
  | succ f ih =>
      have hpush : ∀ v ∈ ids ++ [(fromDec s).2], (!vlanValidId (fromDec s).2) = false →
          vlanValidId v = true := fun v hv hvalid => by
        rcases List.mem_append.mp hv with hv | hv
        · exact h v hv
        · rw [List.mem_singleton.mp hv]
          simpa using hvalid
      simp only [trunkLoop]
      split
      · exact h
      · split
        · exact h
        · next hvalid =>
            split
            · exact fun v hv => hpush v hv (by simpa using hvalid)
            · exact ih _ fun v hv => hpush v hv (by simpa using hvalid)

namespace SwitchFactory

theorem handleVlan_valid (str : List Char) {a : OptArgs} (h : a.Valid) :
    (handleVlan str a).2.Valid := by
  unfold handleVlan
  split
  · dsimp only
    split
    · next hv => exact ⟨.inr hv.2.2, h.2⟩
    · exact h
  · split
    · exact ⟨h.1, trunkLoop_valid _ _ h.2⟩
    · exact h

theorem handleOptArg_vlan_fields (scanMac : List Char → Option (List UInt8)) (size : Nat)
    (opt : List Char) (a : OptArgs) :
    ((handleOptArg scanMac size opt a).2.vlanAccess = a.vlanAccess ∧
        (handleOptArg scanMac size opt a).2.vlanTrunk = a.vlanTrunk) ∨
      ∃ str, handleOptArg scanMac size opt a = handleVlan str a := by
  generalize hr : handleOptArg scanMac size opt a = r
  unfold handleOptArg at hr
  dsimp only at hr
  -- every branch but `vlan=` returns the settings with the VLAN ids as they were
  have keep : ∀ b a', r = (b, a') → a'.vlanAccess = a.vlanAccess → a'.vlanTrunk = a.vlanTrunk →
      (r.2.vlanAccess = a.vlanAccess ∧ r.2.vlanTrunk = a.vlanTrunk) ∨
        ∃ str, r = handleVlan str a := fun _ _ h h₁ h₂ => .inl (by subst h; exact ⟨h₁, h₂⟩)
  by_cases h₀ : opt.length ≤ 5
  · rw [if_pos h₀] at hr
    exact keep _ _ hr.symm rfl rfl
  rw [if_neg h₀] at hr
  by_cases h₁ : strncmpEq 5 "type=".toList opt = true
  · rw [if_pos h₁] at hr
    by_cases h₂ : strncmpEq opt.length "type=monitor".toList opt = true
    · rw [if_pos h₂] at hr
      exact keep _ _ hr.symm rfl rfl
    rw [if_neg h₂] at hr
    by_cases h₃ : strncmpEq opt.length "type=none".toList opt = true
    · rw [if_pos h₃] at hr
      exact keep _ _ hr.symm rfl rfl
    rw [if_neg h₃] at hr
    exact keep _ _ hr.symm rfl rfl
  rw [if_neg h₁] at hr
  by_cases h₄ : strncmpEq 5 "name=".toList opt = true
  · rw [if_pos h₄] at hr
    exact keep _ _ hr.symm rfl rfl
  rw [if_neg h₄] at hr
  by_cases h₅ : strncmpEq 5 "vlan=".toList opt = true
  · rw [if_pos h₅] at hr
    exact .inr ⟨_, hr.symm⟩
  rw [if_neg h₅] at hr
  by_cases h₆ : strncmpEq 4 "mac=".toList opt = true
  · rw [if_pos h₆] at hr
    by_cases h₇ : 21 < opt.length ∧ opt.getD 21 '\x00' = '\x00'
    · rw [if_pos h₇] at hr
      split at hr <;> exact keep _ _ hr.symm rfl rfl
    rw [if_neg h₇] at hr
    exact keep _ _ hr.symm rfl rfl
  rw [if_neg h₆] at hr
  exact keep _ _ hr.symm rfl rfl

theorem handleOptArg_valid (scanMac : List Char → Option (List UInt8)) (size : Nat)
    (opt : List Char) {a : OptArgs} (h : a.Valid) :
    (handleOptArg scanMac size opt a).2.Valid := by
  rcases handleOptArg_vlan_fields scanMac size opt a with ⟨hacc, htr⟩ | ⟨str, heq⟩
  · unfold OptArgs.Valid
    rw [hacc, htr]
    exact h
  · rw [heq]
    exact handleVlan_valid str h

end SwitchFactory

end VirtioNetSwitch
