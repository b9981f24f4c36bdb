import VirtioNetSwitch.MacTable.Invariant

/-!
# The MAC table as a bounded FIFO

Without flushes `Mac_table<Size>` simulates a queue of at most `Size` addresses, oldest
first (`fifoLearn`), read off the table by `toFifo`; from the empty table the queue holds
the last `Size` addresses inserted, each with the port it was last learned with.
-/

namespace VirtioNetSwitch

def Entry.toPair {P : Type} (e : Entry P) : Option (MacAddr × P) :=
  e.port.map ((e.addr, ·))

theorem Entry.toPair_eq_some {P : Type} {e : Entry P} {m : MacAddr} {v : P} :
    e.toPair = some (m, v) ↔ e.port = some v ∧ e.addr = m := by
  obtain ⟨_ | w, a⟩ := e <;> simp [Entry.toPair, and_comm, eq_comm]

namespace MacTable

variable {P : Type} {Size : Nat}

/-! ## The queue -/

/-- A bounded FIFO of addresses with their ports, oldest first: a known address has its
port replaced in place; a new one joins at the back, and the oldest leave past `Size`. -/
def fifoLearn (Size : Nat) (q : List (MacAddr × P)) (m : MacAddr) (p : P) :
    List (MacAddr × P) :=
  if m ∈ q.map Prod.fst then q.map fun e => if e.1 = m then (m, p) else e
  else (q ++ [(m, p)]).drop (q.length + 1 - Size)

def fifoRun (Size : Nat) (q ls : List (MacAddr × P)) : List (MacAddr × P) :=
  ls.foldl (fun q e => fifoLearn Size q e.1 e.2) q

def fifoInsertions (Size : Nat) : List (MacAddr × P) → List (MacAddr × P) → List MacAddr
  | _, [] => []
  | q, (m, p) :: ls =>
      (if m ∈ q.map Prod.fst then [] else [m]) ++ fifoInsertions Size (fifoLearn Size q m p) ls

theorem fifoRun_append_singleton (q ls : List (MacAddr × P)) (m : MacAddr) (p : P) :
    fifoRun Size q (ls ++ [(m, p)]) = fifoLearn Size (fifoRun Size q ls) m p := by
  simp only [fifoRun, List.foldl_append, List.foldl_cons, List.foldl_nil]

theorem fifoInsertions_append_singleton (q ls : List (MacAddr × P)) (m : MacAddr) (p : P) :
    fifoInsertions Size q (ls ++ [(m, p)]) = fifoInsertions Size q ls ++
      if m ∈ (fifoRun Size q ls).map Prod.fst then [] else [m] := by
  induction ls generalizing q with
  | nil => simp only [List.nil_append, fifoInsertions, fifoRun, List.foldl_nil, List.append_nil]
  | cons e ls ih =>
      obtain ⟨m', p'⟩ := e
      rw [List.cons_append, fifoInsertions, fifoInsertions, ih, List.append_assoc]
      rfl

theorem drop_last_append_singleton {α : Type} (l : List α) (a : α) :
    (l.drop (l.length - Size) ++ [a]).drop ((l.drop (l.length - Size)).length + 1 - Size) =
      (l ++ [a]).drop ((l ++ [a]).length - Size) := by
  rw [← List.drop_append_of_le_length (Nat.sub_le _ _), List.drop_drop]
  congr 1
  simp only [List.length_drop, List.length_append, List.length_singleton]
  omega

theorem lookup_reverse_append_singleton (ls : List (MacAddr × P)) (m k : MacAddr) (p : P) :
    (ls ++ [(m, p)]).reverse.lookup k = if k = m then some p else ls.reverse.lookup k := by
  by_cases h : k = m
  · simp [h]
  · simp [h, List.lookup_cons, beq_eq_false_iff_ne.mpr h]

theorem fifo_history (ls : List (MacAddr × P)) :
    (fifoRun Size [] ls).map Prod.fst =
        (fifoInsertions Size [] ls).drop ((fifoInsertions Size [] ls).length - Size) ∧
      ∀ k v, (k, v) ∈ fifoRun Size [] ls → ls.reverse.lookup k = some v := by
  induction ls using List.reverseRecOn with
  | nil => simp [fifoRun, fifoInsertions]
  | append_singleton ls e ih =>
      obtain ⟨m, p⟩ := e
      obtain ⟨hkeys, hval⟩ := ih
      rw [fifoRun_append_singleton, fifoInsertions_append_singleton]
      unfold fifoLearn
      split
      · next hm =>
          refine ⟨?_, fun k v hkv => ?_⟩
          · rw [List.append_nil, ← hkeys, List.map_map]
            refine List.map_congr_left fun e _ => ?_
            by_cases he : e.1 = m <;> simp [he]
          · obtain ⟨⟨k', v'⟩, hmem, hkv⟩ := List.mem_map.mp hkv
            rw [lookup_reverse_append_singleton]
            by_cases hk' : k' = m
            · simp only [hk', if_true, Prod.mk.injEq] at hkv
              simp [← hkv.1, hkv.2]
            · simp only [hk', if_false, Prod.mk.injEq] at hkv
              obtain ⟨rfl, rfl⟩ := hkv
              simp only [hk', if_false]
              exact hval _ _ hmem
      · next hm =>
          refine ⟨?_, fun k v hkv => ?_⟩
          · rw [List.map_drop, List.map_append, ← List.length_map (fifoRun Size [] ls) Prod.fst,
              hkeys]
            exact drop_last_append_singleton _ m
          · rw [lookup_reverse_append_singleton]
            rcases List.mem_append.mp (List.mem_of_mem_drop hkv) with hq | hq
            · have hk : k ≠ m := fun hk => hm (List.mem_map.mpr ⟨(k, v), hq, hk⟩)
              simp only [hk, if_false]
              exact hval _ _ hq
            · obtain ⟨rfl, rfl⟩ := Prod.mk.inj (List.mem_singleton.mp hq)
              simp

/-! ## The table's queue -/

/-- The table's queue: its occupied entries in round-robin order from `_rr_index`. -/
def toFifo (t : MacTable P Size) : List (MacAddr × P) :=
  (t.entries.rotate t.rrIndex).filterMap Entry.toPair

/-- The entries a flush-free run leaves occupied: all of them, or exactly those below
the round-robin index. -/
def Shape (es : List (Entry P)) (r : Nat) : Prop :=
  (∀ e ∈ es, e.port ≠ none) ∨ ((∀ e ∈ es.take r, e.port ≠ none) ∧ ∀ e ∈ es.drop r, e.port = none)

structure Layout (t : MacTable P Size) : Prop where
  inv : Inv t
  shape : Shape t.entries t.rrIndex

theorem getD_mem_entries (t : MacTable P Size) {i : Nat} (hi : i < Size) :
    t.entries.getD i .empty ∈ t.entries := by
  rw [List.getD_eq_getElem _ _ (by rw [t.entries_length]; exact hi)]
  exact List.getElem_mem _

section Queue

variable {t : MacTable P Size}

theorem Inv.lookup_eq_some_iff (h : Inv t) {m : MacAddr} {v : P} :
    t.lookup m = some v ↔ (m, v) ∈ toFifo t := by
  simp only [toFifo, List.mem_filterMap, List.mem_rotate, Entry.toPair_eq_some]
  constructor
  · intro hl
    obtain ⟨i, hi, hv⟩ := Option.bind_eq_some.mp hl
    obtain ⟨hiS, haddr, -⟩ := h.find_entry hi
    exact ⟨_, getD_mem_entries t hiS, hv, haddr⟩
  · rintro ⟨e, he, hv, rfl⟩
    obtain ⟨j, hj, rfl⟩ := List.getElem_of_mem he
    have hgetD : t.entries.getD j .empty = t.entries[j] := List.getD_eq_getElem _ _ hj
    have hkey := h.find_addr (i := j) (by rw [hgetD, hv]; simp)
    rw [hgetD] at hkey
    simp only [lookup, hkey, Option.some_bind, hgetD, hv]

theorem Inv.mem_toFifo_iff (h : Inv t) {m : MacAddr} :
    m ∈ (toFifo t).map Prod.fst ↔ (t.lookup m).isSome := by
  simp only [List.mem_map, Prod.exists, exists_and_right, exists_eq_right,
    Option.isSome_iff_exists, h.lookup_eq_some_iff]

def relearn (m : MacAddr) (p : P) (e : Entry P) : Entry P :=
  if e.port.isSome ∧ e.addr = m then { e with port := some p } else e

theorem Inv.set_eq_map_relearn (h : Inv t) {m : MacAddr} {i : Nat} (p : P)
    (hi : t.macTable.lookup m = some i) :
    t.entries.set i { t.entries.getD i .empty with port := some p } =
      t.entries.map (relearn m p) := by
  obtain ⟨hiS, haddr, hocc⟩ := h.find_entry hi
  refine List.ext_getElem (by simp) fun j h₁ h₂ => ?_
  have hj : j < t.entries.length := by simpa using h₂
  have hgj : t.entries.getD j .empty = t.entries[j] := List.getD_eq_getElem _ _ hj
  rw [List.getElem_set, List.getElem_map]
  split
  · next hij =>
      subst hij
      rw [hgj] at haddr hocc ⊢
      simp [relearn, Option.ne_none_iff_isSome.mp hocc, haddr]
  · next hij =>
      rw [relearn, if_neg]
      rintro ⟨hjocc, hjaddr⟩
      refine hij (h.index_eq_of_addr_eq hocc (j := j) ?_ ?_)
      · rw [hgj]
        exact Option.ne_none_iff_isSome.mpr hjocc
      · rw [haddr, hgj, hjaddr]

theorem toPair_relearn (m : MacAddr) (p : P) (e : Entry P) :
    (relearn m p e).toPair = e.toPair.map fun x => if x.1 = m then (m, p) else x := by
  obtain ⟨_ | w, a⟩ := e
  · simp [relearn, Entry.toPair]
  · by_cases ha : a = m <;> simp [relearn, Entry.toPair, ha]

theorem toFifo_map_relearn (m : MacAddr) (p : P) (es : List (Entry P)) (r : Nat) :
    ((es.map (relearn m p)).rotate r).filterMap Entry.toPair =
      ((es.rotate r).filterMap Entry.toPair).map fun x => if x.1 = m then (m, p) else x := by
  rw [← List.map_rotate, List.filterMap_map, List.map_filterMap]
  exact List.filterMap_congr fun e _ => toPair_relearn m p e

theorem rotate_eq_getElem_cons {α : Type} {l : List α} {r : Nat} (hr : r < l.length) :
    l.rotate r = l[r] :: (l.drop (r + 1) ++ l.take r) := by
  rw [List.rotate_eq_drop_append_take hr.le, List.drop_eq_getElem_cons hr, List.cons_append]

theorem take_set_succ {α : Type} {l : List α} {r : Nat} (hr : r < l.length) (x : α) :
    (l.set r x).take (r + 1) = l.take r ++ [x] := by
  rw [List.take_succ, List.set_take, List.set_eq_of_length_le (by simp), List.getElem?_set_self
    hr]
  rfl

theorem rotate_set_succ {α : Type} {l : List α} {r : Nat} (hr : r < l.length) (x : α) :
    (l.set r x).rotate (r + 1) = l.drop (r + 1) ++ (l.take r ++ [x]) := by
  rw [List.rotate_eq_drop_append_take (by simpa using hr), List.drop_set_of_lt _ _ (by omega),
    take_set_succ hr]

theorem length_filterMap_toPair {l : List (Entry P)} (h : ∀ e ∈ l, e.port ≠ none) :
    (l.filterMap Entry.toPair).length = l.length :=
  List.filterMap_length_eq_length.mpr fun e he => by
    simpa [Entry.toPair, Option.ne_none_iff_isSome] using h e he

theorem filterMap_toPair_eq_nil {l : List (Entry P)} (h : ∀ e ∈ l, e.port = none) :
    l.filterMap Entry.toPair = [] :=
  List.filterMap_eq_nil_iff.mpr fun e he => by simp [Entry.toPair, h e he]

theorem filterMap_rotate_set_succ {es : List (Entry P)} {r : Nat} (hr : r < es.length)
    (hs : Shape es r) (m : MacAddr) (p : P) :
    ((es.set r ⟨some p, m⟩).rotate (r + 1)).filterMap Entry.toPair =
      ((es.rotate r).filterMap Entry.toPair ++ [(m, p)]).drop
        (((es.rotate r).filterMap Entry.toPair).length + 1 - es.length) := by
  rw [rotate_set_succ hr, rotate_eq_getElem_cons hr]
  simp only [List.filterMap_append, List.filterMap_cons, List.filterMap_nil]
  rcases hs with hfull | ⟨htake, hdrop⟩
  · obtain ⟨v, hv⟩ := Option.ne_none_iff_exists'.mp (hfull _ (List.getElem_mem hr))
    have hd := length_filterMap_toPair (l := es.drop (r + 1)) fun e he =>
      hfull e (List.mem_of_mem_drop he)
    have ht := length_filterMap_toPair (l := es.take r) fun e he =>
      hfull e (List.mem_of_mem_take he)
    simp only [Entry.toPair, hv, Option.map_some', List.length_cons, List.length_append, hd, ht,
      List.length_drop, List.length_take]
    rw [show es.length - (r + 1) + min r es.length + 1 + 1 - es.length = 1 by omega]
    simp only [List.cons_append, List.drop_succ_cons, List.drop_zero, List.append_assoc]
  · rw [List.drop_eq_getElem_cons hr] at hdrop
    have hnil := filterMap_toPair_eq_nil fun e he => hdrop e (List.mem_cons_of_mem _ he)
    simp only [Entry.toPair, hdrop _ (List.mem_cons_self _ _), Option.map_none', hnil,
      List.nil_append]
    rw [length_filterMap_toPair htake, List.length_take,
      show min r es.length + 1 - es.length = 0 by omega]
    rfl

theorem Layout.toFifo_learn (h : Layout t) (m : MacAddr) (p : P) :
    toFifo (t.learn m p) = fifoLearn Size (toFifo t) m p := by
  unfold MacTable.learn fifoLearn
  split
  · next i hi =>
      have hm : m ∈ (toFifo t).map Prod.fst :=
        h.inv.mem_toFifo_iff.mpr (by
          obtain ⟨-, -, hocc⟩ := h.inv.find_entry hi
          simpa [lookup, hi, Option.ne_none_iff_isSome] using hocc)
      rw [if_pos hm]
      show ((t.entries.set i _).rotate t.rrIndex).filterMap _ = _
      rw [h.inv.set_eq_map_relearn p hi, toFifo_map_relearn]
      rfl
  · next hi =>
      have hm : m ∉ (toFifo t).map Prod.fst := by
        rw [h.inv.mem_toFifo_iff]
        simp [lookup, hi]
      rw [if_neg hm]
      have hr : t.rrIndex < t.entries.length := by rw [t.entries_length]; exact h.inv.rr_lt
      have hmod : (t.rrIndex + 1) % Size = (t.rrIndex + 1) % (t.entries.set t.rrIndex
          ⟨some p, m⟩).length := by rw [List.length_set, t.entries_length]
      show ((t.entries.set t.rrIndex ⟨some p, m⟩).rotate ((t.rrIndex + 1) % Size)).filterMap _ = _
      rw [hmod, List.rotate_mod, filterMap_rotate_set_succ hr h.shape, t.entries_length]
      rfl

theorem relearn_port_eq_none (m : MacAddr) (p : P) (e : Entry P) :
    (relearn m p e).port = none ↔ e.port = none := by
  unfold relearn
  split
  · next he => simpa [Option.isSome_iff_ne_none] using he.1
  · rfl

theorem Shape.map {es : List (Entry P)} {r : Nat} (hs : Shape es r) {f : Entry P → Entry P}
    (hf : ∀ e, (f e).port = none ↔ e.port = none) : Shape (es.map f) r := by
  rcases hs with hfull | ⟨htake, hdrop⟩
  · exact .inl (List.forall_mem_map.mpr fun e he => by rw [ne_eq, hf]; exact hfull e he)
  · refine .inr ⟨?_, ?_⟩
    · rw [← List.map_take]
      exact List.forall_mem_map.mpr fun e he => by rw [ne_eq, hf]; exact htake e he
    · rw [← List.map_drop]
      exact List.forall_mem_map.mpr fun e he => (hf e).mpr (hdrop e he)

theorem Shape.set_succ {es : List (Entry P)} {r : Nat} (hs : Shape es r) (hr : r < es.length)
    (m : MacAddr) (p : P) : Shape (es.set r ⟨some p, m⟩) ((r + 1) % es.length) := by
  have hnew : ∀ e ∈ (es.set r ⟨some p, m⟩).take (r + 1), e.port ≠ none := fun e he => by
    rcases hs with hfull | ⟨htake, -⟩
    · rcases List.mem_or_eq_of_mem_set (List.mem_of_mem_take he) with he | rfl
      · exact hfull e he
      · simp
    · rw [take_set_succ hr] at he
      rcases List.mem_append.mp he with he | he
      · exact htake e he
      · simp [List.mem_singleton.mp he]
  rcases Nat.lt_or_ge (r + 1) es.length with hlt | hge
  · rw [Nat.mod_eq_of_lt hlt]
    rcases hs with hfull | ⟨-, hdrop⟩
    · exact .inl fun e he => by
        rcases List.mem_or_eq_of_mem_set he with he | rfl
        · exact hfull e he
        · simp
    · refine .inr ⟨hnew, fun e he => ?_⟩
      rw [List.drop_set_of_lt _ _ (by omega)] at he
      rw [List.drop_eq_getElem_cons hr] at hdrop
      exact hdrop e (List.mem_cons_of_mem _ he)
  · rw [List.take_of_length_le (by rw [List.length_set]; omega)] at hnew
    exact .inl hnew

theorem Layout.learn (h : Layout t) (m : MacAddr) (p : P) : Layout (t.learn m p) := by
  refine ⟨h.inv.learn m p, ?_⟩
  unfold MacTable.learn
  split
  · next i hi =>
      show Shape (t.entries.set i _) t.rrIndex
      rw [h.inv.set_eq_map_relearn p hi]
      exact h.shape.map (relearn_port_eq_none m p)
  · show Shape (t.entries.set t.rrIndex ⟨some p, m⟩) ((t.rrIndex + 1) % Size)
    have hshape := h.shape.set_succ (by rw [t.entries_length]; exact h.inv.rr_lt) m p
    rwa [t.entries_length] at hshape

end Queue

/-! ## Runs of learns -/

def learnRun (t : MacTable P Size) (ls : List (MacAddr × P)) : MacTable P Size :=
  ls.foldl (fun t e => t.learn e.1 e.2) t

/-- The addresses of the learns of `ls` that find their address absent, in order. -/
def insertions (t : MacTable P Size) : List (MacAddr × P) → List MacAddr
  | [] => []
  | (m, p) :: ls => (if (t.lookup m).isNone then [m] else []) ++ insertions (t.learn m p) ls

theorem Layout.learnRun {t : MacTable P Size} (h : Layout t) (ls : List (MacAddr × P)) :
    Layout (learnRun t ls) ∧ toFifo (learnRun t ls) = fifoRun Size (toFifo t) ls ∧
      insertions t ls = fifoInsertions Size (toFifo t) ls := by
  induction ls generalizing t with
  | nil => exact ⟨h, rfl, rfl⟩
  | cons e ls ih =>
      obtain ⟨m, p⟩ := e
      obtain ⟨h₁, h₂, h₃⟩ := ih (h.learn m p)
      rw [h.toFifo_learn] at h₂ h₃
      refine ⟨h₁, h₂, ?_⟩
      simp only [insertions, fifoInsertions, h₃, h.inv.mem_toFifo_iff]
      cases t.lookup m <;> rfl

theorem layout_empty (hS : 0 < Size) : Layout (empty : MacTable P Size) :=
  ⟨inv_empty hS, .inr ⟨by simp [empty], fun e he => by
    simp only [empty, List.drop_zero, List.mem_replicate] at he
    rw [he.2]
    rfl⟩⟩

theorem toFifo_empty : toFifo (empty : MacTable P Size) = [] := by
  simp [toFifo, empty, List.filterMap_eq_nil_iff, List.mem_replicate, Entry.toPair, Entry.empty]

theorem learnRun_size_zero (t : MacTable P 0) (ls : List (MacAddr × P)) :
    toFifo (learnRun t ls) = [] ∧ fifoRun 0 [] ls = [] := by
  have hnil : ∀ t : MacTable P 0, t.entries = [] := fun t =>
    List.eq_nil_of_length_eq_zero t.entries_length
  refine ⟨by simp [toFifo, hnil], ?_⟩
  induction ls using List.reverseRecOn with
  | nil => rfl
  | append_singleton ls e ih =>
      rw [fifoRun_append_singleton, ih]
      simp [fifoLearn]

theorem mac_table_fifo (ls : List (MacAddr × P)) :
    toFifo (learnRun (empty : MacTable P Size) ls) = fifoRun Size [] ls ∧
      ∀ m, (learnRun (empty : MacTable P Size) ls).lookup m =
        if m ∈ (insertions (empty : MacTable P Size) ls).drop
          ((insertions (empty : MacTable P Size) ls).length - Size)
        then ls.reverse.lookup m else none := by
  rcases Nat.eq_zero_or_pos Size with hS | hS
  · subst hS
    obtain ⟨h₁, h₂⟩ := learnRun_size_zero empty ls
    refine ⟨h₁.trans h₂.symm, fun m => ?_⟩
    have hnil := List.eq_nil_of_length_eq_zero (learnRun (empty : MacTable P 0) ls).entries_length
    simp [lookup, hnil]
  · obtain ⟨hlay, hfifo, hins⟩ := (layout_empty hS).learnRun ls
    rw [toFifo_empty] at hfifo hins
    obtain ⟨hkeys, hval⟩ := @fifo_history P Size ls
    refine ⟨hfifo, fun m => ?_⟩
    rw [hins, ← hkeys]
    cases hl : (learnRun empty ls).lookup m with
    | some v =>
        have hm := hfifo ▸ hlay.inv.lookup_eq_some_iff.mp hl
        rw [if_pos (List.mem_map_of_mem Prod.fst hm)]
        exact (hval m v hm).symm
    | none =>
        rw [if_neg]
        intro hm
        obtain ⟨⟨k, v⟩, hkv, rfl⟩ := List.mem_map.mp hm
        have := hlay.inv.lookup_eq_some_iff.mpr (hfifo ▸ hkv)
        rw [hl] at this
        cases this

end MacTable

end VirtioNetSwitch
