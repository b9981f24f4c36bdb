import VirtioNetSwitch.Factory.OptArg

/-!
# Integer options

`parse_int_param` and `parse_int_optstring` over the C library's `strtol`.  With
`op_create`'s range check the accepted `ds-max=` texts are exactly the `DsMaxText`s.
-/

namespace VirtioNetSwitch

/-- `isspace` in the C locale: space, `\t`, `\n`, `\v`, `\f` and `\r`. -/
def isSpace (c : Char) : Bool :=
  c == ' ' || c == '\t' || c == '\n' || c == '\x0b' || c == '\x0c' || c == '\r'

def decValue (ds : List Char) : Nat := ds.foldl (fun v c => v * 10 + (c.toNat - '0'.toNat)) 0

/-- `LONG_MAX`, `2^63 - 1` on the 64-bit targets; `LONG_MIN` is `-LONG_MAX - 1`. -/
def longMax : Int := 9223372036854775807

def intMax : Int := 2147483647

/-- The sign `strtol` reads after the white space: whether it is `-`, and the text after
it. -/
def strtolSign : List Char → Bool × List Char
  | '-' :: u => (true, u)
  | '+' :: u => (false, u)
  | u => (false, u)

def strtolValue (neg : Bool) (ds : List Char) : Int := if neg then -(decValue ds : Int) else decValue ds

/-- `strtol(s, &endp, 10)`: the value, whether it set `errno` (to `ERANGE`, with the value
clamped to `long`), and the text from `endp` on.  Without a digit after the white space
and the sign nothing is converted: the value is 0 and `endp` is `s`. -/
def strtol (s : List Char) : Int × Bool × List Char :=
  match strtolSign (s.dropWhile isSpace) with
  | (neg, u) =>
      if u.takeWhile Char.isDigit = [] then (0, false, s)
      else if longMax < strtolValue neg (u.takeWhile Char.isDigit) then
        (longMax, true, u.dropWhile Char.isDigit)
      else if strtolValue neg (u.takeWhile Char.isDigit) < -longMax - 1 then
        (-longMax - 1, true, u.dropWhile Char.isDigit)
      else (strtolValue neg (u.takeWhile Char.isDigit), false, u.dropWhile Char.isDigit)

/-- `parse_int_optstring(optstring, &out)` on a C string: the value when `strtol` set no
`errno`, stopped at the terminating NUL, and the value fits an `int`. -/
def parseIntOptstring (s : List Char) : Option Int :=
  match strtol s with
  | (num, err, rest) =>
      if err || !rest.isEmpty || num < -intMax - 1 || intMax < num then none else some num

/-- `parse_int_param(param, prefix, &out)`: `none` when the option does not start with the
prefix, the value of the text after it up to its first NUL when `parse_int_optstring`
accepts that, and `L4::Runtime_error(-L4_EINVAL)` otherwise. -/
def parseIntParam (param pfx : List Char) : Except Exc (Option Int) :=
  if param.length < pfx.length then .ok none
  else if !strncmpEq pfx.length param pfx then .ok none
  else
    match parseIntOptstring (cstr (param.drop pfx.length)) with
    | some n => .ok (some n)
    | none => .error .runtimeError

/-! ## The `ds-max=` texts -/

/-- The `ds-max=` texts `op_create` accepts: white space, an optional `+`, and decimal
digits of value 1 to 80. -/
def DsMaxText (t : List Char) : Prop :=
  ∃ ws sign ds, t = ws ++ sign ++ ds ∧ (∀ c ∈ ws, isSpace c = true) ∧
    (sign = [] ∨ sign = ['+']) ∧ ds ≠ [] ∧ (∀ c ∈ ds, c.isDigit = true) ∧
    1 ≤ decValue ds ∧ decValue ds ≤ 80

theorem isSpace_of_isDigit {c : Char} (h : c.isDigit = true) : isSpace c = false := by
  cases hs : isSpace c
  · rfl
  · simp only [isSpace, Bool.or_eq_true, beq_iff_eq] at hs
    rcases hs with (((((rfl | rfl) | rfl) | rfl) | rfl) | rfl) <;> exact absurd h (by decide)

theorem strtolSign_of_isDigit {c : Char} (h : c.isDigit = true) (u : List Char) :
    strtolSign (c :: u) = (false, c :: u) := by
  have hminus : c ≠ '-' := by rintro rfl; exact absurd h (by decide)
  have hplus : c ≠ '+' := by rintro rfl; exact absurd h (by decide)
  unfold strtolSign
  split
  · next heq => exact absurd (List.cons.inj heq).1 hminus
  · next heq => exact absurd (List.cons.inj heq).1 hplus
  · rfl

theorem strtol_ok {s : List Char} {x : Int} {rest : List Char} (h : strtol s = (x, false, rest)) :
    (x = 0 ∧ rest = s) ∨ ∃ neg u, strtolSign (s.dropWhile isSpace) = (neg, u) ∧
      u.takeWhile Char.isDigit ≠ [] ∧ rest = u.dropWhile Char.isDigit ∧
      x = strtolValue neg (u.takeWhile Char.isDigit) := by
  unfold strtol at h
  split at h
  next neg u hsgn =>
  by_cases hds : u.takeWhile Char.isDigit = []
  · rw [if_pos hds] at h
    cases h
    exact .inl ⟨rfl, rfl⟩
  · rw [if_neg hds] at h
    split at h
    · simp at h
    · split at h
      · simp at h
      · cases h
        exact .inr ⟨neg, u, hsgn, hds, rfl, rfl⟩

theorem strtol_digits {ws sign ds : List Char} (hws : ∀ c ∈ ws, isSpace c = true)
    (hsign : sign = [] ∨ sign = ['+']) (hne : ds ≠ []) (hds : ∀ c ∈ ds, c.isDigit = true)
    (hv : (decValue ds : Int) ≤ longMax) :
    strtol (ws ++ sign ++ ds) = ((decValue ds : Int), false, []) := by
  obtain ⟨c, cs, rfl⟩ := List.exists_cons_of_ne_nil hne
  have hc : c.isDigit = true := hds c (.head _)
  have hdrop : (ws ++ sign ++ c :: cs).dropWhile isSpace = sign ++ c :: cs := by
    rw [List.append_assoc, List.dropWhile_append_of_pos hws]
    rcases hsign with rfl | rfl
    · exact List.dropWhile_cons_of_neg (by simp [isSpace_of_isDigit hc])
    · exact List.dropWhile_cons_of_neg (by decide)
  have hsgn : strtolSign (sign ++ c :: cs) = (false, c :: cs) := by
    rcases hsign with rfl | rfl
    · exact strtolSign_of_isDigit hc cs
    · rfl
  have htake : (c :: cs).takeWhile Char.isDigit = c :: cs := List.takeWhile_eq_self_iff.mpr hds
  have hrest : (c :: cs).dropWhile Char.isDigit = [] := List.dropWhile_eq_nil_iff.mpr hds
  have hlow : ¬((decValue (c :: cs) : Int) < -longMax - 1) := by
    have : (0 : Int) ≤ decValue (c :: cs) := Int.natCast_nonneg _
    unfold longMax
    omega
  simp only [strtol, hdrop, hsgn, htake, hrest, List.cons_ne_nil, if_false, strtolValue,
    Bool.false_eq_true, if_neg (not_lt.mpr hv), if_neg hlow]

theorem parseIntOptstring_pos {s : List Char} {n : Int} (h : parseIntOptstring s = some n)
    (hn : 0 < n) : ∃ ws sign ds, s = ws ++ sign ++ ds ∧ (∀ c ∈ ws, isSpace c = true) ∧
      (sign = [] ∨ sign = ['+']) ∧ ds ≠ [] ∧ (∀ c ∈ ds, c.isDigit = true) ∧
      (decValue ds : Int) = n := by
  unfold parseIntOptstring at h
  split at h
  next x err rest hr =>
  split at h
  · cases h
  · next hok =>
    cases h
    simp only [Bool.or_eq_true, decide_eq_true_eq, not_or, Bool.not_eq_true,
      Bool.not_eq_false', List.isEmpty_iff] at hok
    obtain ⟨⟨⟨herr, hrest⟩, -⟩, -⟩ := hok
    subst herr hrest
    rcases strtol_ok hr with ⟨rfl, -⟩ | ⟨neg, u, hsgn, hds, hrest, rfl⟩
    · exact absurd hn (lt_irrefl 0)
    have hneg : neg = false := by
      cases neg
      · rfl
      · have : (0 : Int) ≤ decValue (u.takeWhile Char.isDigit) := Int.natCast_nonneg _
        simp only [strtolValue, if_true] at hn
        omega
    subst hneg
    have hu : u.takeWhile Char.isDigit = u := by
      conv_rhs => rw [← List.takeWhile_append_dropWhile (p := Char.isDigit) (l := u)]
      rw [← hrest, List.append_nil]
    -- the sign is a `+` or nothing
    obtain ⟨sign, hsign, hdrop⟩ : ∃ sign, (sign = [] ∨ sign = ['+']) ∧
        s.dropWhile isSpace = sign ++ u := by
      unfold strtolSign at hsgn
      split at hsgn
      · cases hsgn
      · next u' heq =>
        cases hsgn
        exact ⟨['+'], .inr rfl, heq⟩
      · cases hsgn
        exact ⟨[], .inl rfl, rfl⟩
    refine ⟨s.takeWhile isSpace, sign, u.takeWhile Char.isDigit, ?_,
      fun c hc => List.mem_takeWhile_imp hc, hsign, hds, fun c hc => List.mem_takeWhile_imp hc,
      by simp [strtolValue]⟩
    rw [hu, List.append_assoc, ← hdrop, List.takeWhile_append_dropWhile]

theorem strncmpEq_dsMax (t : List Char) : strncmpEq 7 ("ds-max=".toList ++ t) "ds-max=".toList = true := by
  rfl

/-- `parse_int_param` on a `ds-max=` option, with `op_create`'s range check: the value lies
in 1..80 exactly for the `DsMaxText`s. -/
theorem parseIntParam_dsMax (t : List Char) :
    (∃ n, parseIntParam ("ds-max=".toList ++ t) "ds-max=".toList = .ok (some n) ∧
      0 < n ∧ n ≤ 80) ↔ DsMaxText (cstr t) := by
  have hlen : ("ds-max=".toList).length = 7 := rfl
  have hparam : parseIntParam ("ds-max=".toList ++ t) "ds-max=".toList =
      match parseIntOptstring (cstr t) with
      | some n => .ok (some n)
      | none => .error .runtimeError := by
    simp only [parseIntParam, hlen, List.length_append, strncmpEq_dsMax, Bool.not_true,
      Bool.false_eq_true, if_false, List.drop_left' hlen]
    rw [if_neg (by omega)]
  rw [hparam]
  constructor
  · rintro ⟨n, hn, hpos, hle⟩
    split at hn
    · next n' hopt =>
      cases hn
      obtain ⟨ws, sign, ds, hs, hws, hsign, hne, hds, hv⟩ := parseIntOptstring_pos hopt hpos
      exact ⟨ws, sign, ds, hs, hws, hsign, hne, hds, by omega, by omega⟩
    · cases hn
  · rintro ⟨ws, sign, ds, hs, hws, hsign, hne, hds, hlo, hhi⟩
    have hopt : parseIntOptstring (cstr t) = some (decValue ds : Int) := by
      have hv : (decValue ds : Int) ≤ longMax := by unfold longMax; omega
      have hlow : ¬((decValue ds : Int) < -intMax - 1) := by unfold intMax; omega
      have hhigh : ¬(intMax < (decValue ds : Int)) := by unfold intMax; omega
      simp only [parseIntOptstring, hs, strtol_digits hws hsign hne hds hv, Bool.false_or,
        List.isEmpty_nil, Bool.not_true, hlow, hhigh, decide_False, Bool.false_eq_true, if_false]
    rw [hopt]
    exact ⟨_, rfl, by omega, by omega⟩

end VirtioNetSwitch
