import IotRouter.Runtime.SocketAddr

/-!
# Reading what is printed

The text of a socket address is read as the address. So no two addresses have
the same text, whatever gap or dotted part the text has.
-/

namespace IotRouter.Runtime

open Ipv6Addr

namespace Reader

/-! ## Groups -/

theorem dot_notMem_hex (segment : UInt16) : '.' ∉ hex segment :=
  notMem_toDigits (by decide) segment.toNat

/-- A group is read as it is printed. -/
theorem number_hex {segment : UInt16} {rest : List Char}
    (stops : StopsHex rest) :
    number 16 (some 4) true 65536 (hex segment ++ rest) =
      some (segment.toNat, rest) :=
  number_hexDigits (by decide) segment.toNat_lt segment.toNat_lt stops

/-- There is no dotted address where there is no dot. -/
theorem embedded_of_notMem {input : List Char} (dotless : '.' ∉ input)
    (limit : Nat) (first : Bool) :
    embedded limit first input = some (none, input) := by
  rw [embedded]
  split
  · rfl
  · have fails : (separator first *> ipv4) input = none := by
      apply Option.eq_none_iff_forall_ne_some.mpr
      rintro ⟨ip, rest⟩ read
      rcases bind_eq_some.mp read with ⟨_, left, separated, dotted⟩
      have suffix := Leaves.separator first _ _ _ separated
      rw [(ipv4_eq_some.mp dotted).1] at suffix
      apply dotless (suffix.subset _)
      simp [Ipv4Addr.text]
    rw [attempt, fails]

/-- Neither a group nor a dotted address comes next. -/
structure Ends (rest : List Char) : Prop where
  stops : StopsHex rest
  group : ∀ first, group first rest = some (none, rest)
  dotless : '.' ∉ rest

theorem Ends.nil : Ends [] where
  stops := by simp [StopsHex]
  group first := by cases first <;> rfl
  dotless := by simp

section Group

variable {segment : UInt16} {rest : List Char}

theorem group_first (stops : StopsHex rest) :
    group true (hex segment ++ rest) = some (some segment.toNat, rest) := by
  show attempt (number 16 (some 4) true 65536) _ = _
  rw [attempt, number_hex stops]

theorem group_later (stops : StopsHex rest) :
    group false (':' :: (hex segment ++ rest)) =
      some (some segment.toNat, rest) := by
  have read : (char ':' *> number 16 (some 4) true 65536)
      (':' :: (hex segment ++ rest)) = some (segment.toNat, rest) :=
    number_hex stops
  show attempt (char ':' *> number 16 (some 4) true 65536) _ = _
  rw [attempt, read]

end Group

section Steps

variable {limit : Nat} {first : Bool} {input left : List Char}

theorem groups_of_none
    (undotted : embedded (limit + 1) first input = some (none, input))
    (read : group first input = some (none, input)) :
    groups (limit + 1) first input = some (([], false), input) := by
  show (embedded (limit + 1) first input).bind _ = _
  rw [undotted]
  show (group first input).bind _ = _
  rw [read]
  rfl

theorem groups_of_group {found : Nat}
    (undotted : embedded (limit + 1) first input = some (none, input))
    (read : group first input = some (some found, left)) :
    groups (limit + 1) first input = (groups limit false left).map fun rest =>
      ((UInt16.ofNat found :: rest.1.1, rest.1.2), rest.2) := by
  show (embedded (limit + 1) first input).bind _ = _
  rw [undotted]
  show (group first input).bind _ = _
  rw [read]
  show (groups limit false left).bind _ = _
  cases groups limit false left <;> rfl

theorem groups_of_dotted {ip : Ipv4Addr}
    (read : embedded (limit + 1) first input = some (some ip, left)) :
    groups (limit + 1) first input =
      some (([UInt16.ofNat (256 * ip.a.toNat + ip.b.toNat),
        UInt16.ofNat (256 * ip.c.toNat + ip.d.toNat)], true), left) := by
  show (embedded (limit + 1) first input).bind _ = _
  rw [read]
  rfl

end Steps

theorem stopsHex_later (tail : List UInt16) {rest : List Char}
    (stops : StopsHex rest) :
    StopsHex (tail.flatMap (fun segment => ':' :: hex segment) ++ rest) := by
  cases tail with
  | nil => exact stops
  | cons segment tail => exact .cons rfl

theorem dotless_later (tail : List UInt16) {rest : List Char}
    (dotless : '.' ∉ rest) :
    '.' ∉ tail.flatMap (fun segment => ':' :: hex segment) ++ rest := by
  intro member
  rcases List.mem_append.mp member with printed | after
  · rcases List.mem_flatMap.mp printed with ⟨segment, _, here⟩
    cases here with
    | tail _ here => exact dot_notMem_hex segment here
  · exact dotless after

/-- The groups after the first are read as they are printed. -/
theorem groups_later {tail : List UInt16} {rest : List Char} (ends : Ends rest)
    {limit : Nat} (fits : tail.length ≤ limit) :
    groups limit false
        (tail.flatMap (fun segment => ':' :: hex segment) ++ rest) =
      some ((tail, false), rest) := by
  induction tail generalizing limit with
  | nil =>
      cases limit with
      | zero => rfl
      | succ limit =>
          exact groups_of_none (embedded_of_notMem ends.dotless _ _)
            (ends.group false)
  | cons segment tail ih =>
      cases limit with
      | zero => cases fits
      | succ limit =>
          have undotted := embedded_of_notMem
            (dotless_later (segment :: tail) ends.dotless) (limit + 1) false
          have stops := stopsHex_later tail ends.stops
          rw [List.flatMap_cons, List.append_assoc, List.cons_append]
            at undotted ⊢
          rw [groups_of_group undotted (group_later stops),
            ih (Nat.le_of_succ_le_succ fits), Option.map_some,
            UInt16.ofNat_toNat]

theorem dotless_fmtSubslice (segments : List UInt16) {rest : List Char}
    (dotless : '.' ∉ rest) : '.' ∉ fmtSubslice segments ++ rest := by
  cases segments with
  | nil => exact dotless
  | cons segment tail =>
      rw [fmtSubslice, List.append_assoc, List.mem_append, not_or]
      exact ⟨dot_notMem_hex segment, dotless_later tail dotless⟩

/-- Groups are read as they are printed. -/
theorem groups_fmtSubslice {segments : List UInt16} {rest : List Char}
    (ends : Ends rest) {limit : Nat} (fits : segments.length ≤ limit) :
    groups limit true (fmtSubslice segments ++ rest) =
      some ((segments, false), rest) := by
  cases limit with
  | zero =>
      rw [List.length_eq_zero_iff.mp (Nat.le_zero.mp fits)]
      rfl
  | succ limit =>
      cases segments with
      | nil =>
          exact groups_of_none (embedded_of_notMem ends.dotless _ _)
            (ends.group true)
      | cons segment tail =>
          have dotless := dotless_fmtSubslice (segment :: tail) ends.dotless
          have undotted := embedded_of_notMem dotless (limit + 1) true
          have stops := stopsHex_later tail ends.stops
          rw [fmtSubslice, List.append_assoc] at undotted ⊢
          rw [groups_of_group undotted (group_first stops),
            groups_later ends (Nat.le_of_succ_le_succ fits), Option.map_some,
            UInt16.ofNat_toNat]

/-- A gap comes after the groups. -/
theorem Ends.gap {rest : List Char} (dotless : '.' ∉ rest) :
    Ends (':' :: ':' :: rest) where
  stops := .cons rfl
  group first := by cases first <;> rfl
  dotless := by simpa using dotless

/-- A scope comes after the groups. -/
theorem Ends.scope {digits : List Char} (dotless : '.' ∉ digits) :
    Ends ('%' :: digits) where
  stops := .cons rfl
  group first := by cases first <;> rfl
  dotless := by simpa using dotless

end Reader

namespace Ipv6Addr

/-! ## The longest run of zeros -/

/-- There are zeros where the span says. -/
def IsRun (ip : Ipv6Addr) (span : Span) : Prop :=
  ∃ before after, ip = before ++ .replicate span.len 0 ++ after ∧
    before.length = span.start

/-- A run of zeros that ends here goes on with one more. -/
theorem exists_extend {done : List UInt16} {current : Span}
    (ends : current.len ≠ 0 → ∃ before,
      done = before ++ .replicate current.len 0 ∧
        before.length = current.start) :
    ∃ before,
      done ++ [0] = before ++ .replicate (current.extend done.length).len 0 ∧
        before.length = (current.extend done.length).start := by
  by_cases new : current.len = 0
  · simp only [Span.extend, new]
    exact ⟨done, rfl, rfl⟩
  · simp only [Span.extend, if_neg new]
    rcases ends new with ⟨before, zeros, starts⟩
    refine ⟨before, ?_, starts⟩
    rw [List.replicate_succ', ← List.append_assoc, ← zeros]

/-- The induction is on the groups ahead; the current run ends where they
begin. -/
theorem zeroes_isRun {done rest : List UInt16} {longest current : Span}
    (run : IsRun (done ++ rest) longest)
    (ends : current.len ≠ 0 → ∃ before,
      done = before ++ .replicate current.len 0 ∧
        before.length = current.start) :
    IsRun (done ++ rest) (zeroes rest done.length longest current) := by
  induction rest generalizing done longest current with
  | nil => exact run
  | cons segment rest ih =>
      have next : done ++ segment :: rest = done ++ [segment] ++ rest := by simp
      have length : (done ++ [segment]).length = done.length + 1 := by simp
      rw [next] at run ⊢
      rw [zeroes, ← length]
      split
      · rename_i zero
        subst zero
        have extended := exists_extend ends
        apply ih
        · split
          · rcases extended with ⟨before, zeros, starts⟩
            exact ⟨before, rest, by rw [zeros], starts⟩
          · exact run
        · intro _
          exact extended
      · exact ih run fun nonempty => absurd rfl nonempty

/-- The parts before and after the run that the text leaves out. -/
theorem zeroes_split (ip : Ipv6Addr) :
    let gap := zeroes ip 0 ⟨0, 0⟩ ⟨0, 0⟩
    ip = ip.take gap.start ++ .replicate gap.len 0 ++
        ip.drop (gap.start + gap.len) ∧
      gap.start + gap.len ≤ ip.length := by
  intro gap
  have run : IsRun ip gap :=
    @zeroes_isRun [] ip ⟨0, 0⟩ ⟨0, 0⟩ ⟨[], ip, rfl, rfl⟩
      fun nonempty => absurd rfl nonempty
  rcases run with ⟨before, after, split, starts⟩
  have taken : ip.take gap.start = before := by
    rw [split, ← starts, List.append_assoc, List.take_left]
  have dropped : ip.drop (gap.start + gap.len) = after := by
    rw [split, ← starts]
    exact List.drop_left' (by simp)
  constructor
  · rw [taken, dropped]
    exact split
  · have length := congrArg List.length split
    simp only [List.length_append, List.length_replicate] at length
    omega

end Ipv6Addr

namespace Reader

/-! ## IPv6 addresses -/

theorem ipv6_eight {segments : List UInt16} (eight : segments.length = 8)
    {rest : List Char} (ends : Ends rest) :
    ipv6 (fmtSubslice segments ++ rest) = some (segments, rest) := by
  show (groups 8 true _).bind _ = _
  rw [groups_fmtSubslice ends (Nat.le_of_eq eight)]
  simp [eight]
  rfl

/-- The groups before a gap and those after it make an address. -/
theorem ipv6_of_gap {head after : List UInt16} {dotted : Bool}
    {input left rest : List Char} (short : head.length ≠ 8)
    (front : groups 8 true input = some ((head, false), ':' :: ':' :: left))
    (back : groups (7 - head.length) true left = some ((after, dotted), rest)) :
    ipv6 input =
      some (head ++ .replicate (8 - head.length - after.length) 0 ++ after,
        rest) := by
  show (groups 8 true input).bind _ = _
  rw [front, Option.bind_some]
  simp only [if_neg short, if_false, Bool.false_eq_true]
  show (groups (7 - head.length) true left).bind _ = _
  rw [back]
  rfl

theorem ipv6_gap {before after : List UInt16} {zeros : Nat}
    (eight : before.length + zeros + after.length = 8) (positive : zeros ≠ 0)
    {rest : List Char} (ends : Ends rest) :
    ipv6 (fmtSubslice before ++ ':' :: ':' :: (fmtSubslice after ++ rest)) =
      some (before ++ .replicate zeros 0 ++ after, rest) := by
  have dotless := dotless_fmtSubslice after ends.dotless
  have left : 8 - before.length - after.length = zeros := by omega
  rw [ipv6_of_gap (by omega) (groups_fmtSubslice (.gap dotless) (by omega))
    (groups_fmtSubslice ends (by omega)), left]

/-- A group is the two numbers of a dotted address that stand for it. -/
theorem group_ofNat (segment : UInt16) :
    UInt16.ofNat (256 * (segment >>> 8).toUInt8.toNat + segment.toUInt8.toNat) =
      segment := by
  have below : segment.toNat < 65536 := segment.toNat_lt
  apply UInt16.toNat_inj.mp
  simp [Nat.shiftRight_eq_div_pow]
  omega

theorem toIpv4Mapped_eq_some {ip : Ipv6Addr} {v4 : Ipv4Addr}
    (mapped : ip.toIpv4Mapped = some v4) :
    ip = [0, 0, 0, 0, 0, 65535,
      UInt16.ofNat (256 * v4.a.toNat + v4.b.toNat),
      UInt16.ofNat (256 * v4.c.toNat + v4.d.toNat)] := by
  rw [toIpv4Mapped] at mapped
  split at mapped
  · rename_i ab cd parts
    split at mapped <;> cases mapped
    rename_i front
    have split := List.take_append_drop 6 ip
    rw [front, parts] at split
    rw [← split, group_ofNat, group_ofNat]
    rfl
  · cases mapped

/-- A dotted address after the prefix is read as the last two groups. -/
theorem ipv6_mapped (v4 : Ipv4Addr) {rest : List Char} (ends : Ends rest) :
    ipv6 ("::ffff:".toList ++ v4.text ++ rest) =
      some ([0, 0, 0, 0, 0, 65535,
        UInt16.ofNat (256 * v4.a.toNat + v4.b.toNat),
        UInt16.ofNat (256 * v4.c.toNat + v4.d.toNat)], rest) := by
  have dotted : embedded 6 false (':' :: (v4.text ++ rest)) =
      some (some v4, rest) := by
    have read : (separator false *> ipv4) (':' :: (v4.text ++ rest)) =
        some (v4, rest) := ipv4_eq_some.mpr ⟨rfl, ends.stops.decimal⟩
    show attempt _ _ = _
    rw [attempt, read]
  have stops : StopsHex (':' :: (v4.text ++ rest)) := .cons rfl
  have prefixed : groups 7 true (hex 65535 ++ ':' :: (v4.text ++ rest)) =
      some (([65535, UInt16.ofNat (256 * v4.a.toNat + v4.b.toNat),
        UInt16.ofNat (256 * v4.c.toNat + v4.d.toNat)], true), rest) := by
    rw [groups_of_group rfl (group_first stops), groups_of_dotted dotted]
    rfl
  exact ipv6_of_gap (by decide) (groups_of_none rfl rfl) prefixed

/-- An address of eight groups is read as it is printed. -/
theorem ipv6_text {ip : Ipv6Addr} (eight : ip.length = 8) {rest : List Char}
    (ends : Ends rest) : ipv6 (ip.text ++ rest) = some (ip, rest) := by
  rw [Ipv6Addr.text]
  split
  · rename_i v4 mapped
    rw [toIpv4Mapped_eq_some mapped]
    exact ipv6_mapped v4 ends
  · dsimp only
    split
    · rename_i several
      rcases zeroes_split ip with ⟨parts, bounded⟩
      rw [List.append_assoc, List.cons_append, List.cons_append,
        ipv6_gap ?_ ?_ ends, ← parts]
      · rw [List.length_take, List.length_drop]
        omega
      · omega
    · exact ipv6_eight eight ends

/-! ## The scope -/

/-- The scope as it is printed. -/
def scopeText (scope : UInt32) : List Char :=
  if scope = 0 then [] else '%' :: Nat.toDigits 10 scope.toNat

theorem Ends.scopeText (scope : UInt32) : Ends (scopeText scope) := by
  rw [Reader.scopeText]
  split
  · exact .nil
  · apply Ends.scope
    intro member
    have digit := Nat.isDigit_of_mem_toDigits (by decide) (by decide) member
    cases digit

theorem attempt_scopeId (scope : UInt32) :
    ∃ found : Option UInt32,
      attempt scopeId (scopeText scope) = some (found, []) ∧
        found.getD 0 = scope := by
  rw [Reader.scopeText]
  split
  · rename_i zero
    exact ⟨none, rfl, zero.symm⟩
  · have digits := @number_toDigits 4294967296 scope.toNat [] scope.toNat_lt
      (by simp)
    have read : scopeId ('%' :: Nat.toDigits 10 scope.toNat) =
        some (scope, []) := by
      rw [List.append_nil] at digits
      show (number 10 none true 4294967296
        (Nat.toDigits 10 scope.toNat)).bind _ = _
      rw [digits]
      show some (UInt32.ofNat scope.toNat, []) = _
      rw [UInt32.ofNat_toNat]
    exact ⟨some scope, by rw [attempt, read], rfl⟩

theorem whole_zoned_text {ip : Ipv6Addr} (eight : ip.length = 8)
    (scope : UInt32) :
    zoned.whole (ip.text ++ scopeText scope) = some (.v6 ip scope) := by
  rcases attempt_scopeId scope with ⟨found, read, same⟩
  rw [whole_eq_some]
  show (ipv6 _).bind _ = _
  rw [ipv6_text eight (.scopeText scope)]
  show (attempt scopeId _).bind _ = _
  rw [read]
  show some (IpAddr.v6 ip (found.getD 0), []) = _
  rw [same]

end Reader

/-! ## Socket addresses -/

/-- An IPv6 address has eight groups. -/
def IpAddr.Grouped : IpAddr → Prop
  | .v4 _ => True
  | .v6 ip _ => ip.length = 8

/-- A socket address is read as it is printed. -/
theorem SocketAddr.parse_toString {addr : SocketAddr}
    (grouped : addr.ip.Grouped) : parse addr.toString = some addr := by
  rcases addr with ⟨ip, port⟩
  cases ip with
  | v4 ip =>
      have host : IpAddr.ofHost ip.toString = some (.v4 ip) :=
        IpAddr.ofHost_eq_some.mpr (Or.inl ⟨ip, rfl, rfl⟩)
      rw [SocketAddr.toString, parse_host_port, host]
      rfl
  | v6 ip scope =>
      have text : SocketAddr.toString ⟨.v6 ip scope, port⟩ =
          .ofList ('[' :: (ip.text ++ Reader.scopeText scope) ++ [']']) ++ ":" ++
            port.toNat.repr := by
        simp only [SocketAddr.toString, Ipv6Addr.toString, Reader.scopeText]
        split <;> simp [String.ext_iff, Nat.toList_repr]
      have host : IpAddr.ofHost
          (.ofList ('[' :: (ip.text ++ Reader.scopeText scope) ++ [']'])) =
            some (.v6 ip scope) := by
        apply IpAddr.ofHost_eq_some.mpr
        exact Or.inr ⟨_, String.toList_ofList,
          Reader.whole_zoned_text grouped scope⟩
      rw [text, parse_host_port, host]
      rfl

/-- No two socket addresses are printed alike. -/
theorem SocketAddr.toString_inj {first second : SocketAddr}
    (grouped : first.ip.Grouped) (grouped' : second.ip.Grouped) :
    first.toString = second.toString ↔ first = second := by
  constructor
  · intro same
    have read := parse_toString grouped
    rw [same, parse_toString grouped'] at read
    exact (Option.some.inj read).symm
  · rintro rfl
    rfl

end IotRouter.Runtime
