import IotRouter.Runtime.Reader

/-!
# Socket addresses as text

The text forms of `std::net`: an IPv4 address is four decimal numbers, an IPv6
address groups of hexadecimal ones with at most one gap, and a socket address
either of them with a port, the latter in brackets. A host and a port put
together with a colon are a socket address exactly if the host is an address by
itself; a name never is.
-/

namespace IotRouter.Runtime

structure Ipv4Addr where
  a : UInt8
  b : UInt8
  c : UInt8
  d : UInt8
  deriving DecidableEq, Repr

namespace Ipv4Addr

/-- The characters of the dotted form. -/
def text (ip : Ipv4Addr) : List Char :=
  Nat.toDigits 10 ip.a.toNat ++ '.' :: (Nat.toDigits 10 ip.b.toNat ++
    '.' :: (Nat.toDigits 10 ip.c.toNat ++ '.' :: Nat.toDigits 10 ip.d.toNat))

def toString (ip : Ipv4Addr) : String := .ofList ip.text

end Ipv4Addr

/-- The eight groups of an address. -/
abbrev Ipv6Addr := List UInt16

namespace Ipv6Addr

/-- `to_ipv4_mapped`: the address `::ffff:a.b.c.d`. -/
def toIpv4Mapped (ip : Ipv6Addr) : Option Ipv4Addr :=
  match ip.drop 6 with
  | [ab, cd] =>
      if ip.take 6 = [0, 0, 0, 0, 0, 65535] then
        some ⟨(ab >>> 8).toUInt8, ab.toUInt8, (cd >>> 8).toUInt8, cd.toUInt8⟩
      else none
  | _ => none

/-- A run of zeros. -/
structure Span where
  start : Nat
  len : Nat

/-- The run with group `i` as one more zero. -/
def Span.extend (span : Span) (i : Nat) : Span where
  start := if span.len = 0 then i else span.start
  len := span.len + 1

/-- The first of the longest runs of zeros from group `i` on, given the longest
so far and the one that ends there. -/
def zeroes : List UInt16 → Nat → Span → Span → Span
  | [], _, longest, _ => longest
  | segment :: rest, i, longest, current =>
      if segment = 0 then
        let current := current.extend i
        zeroes rest (i + 1)
          (if longest.len < current.len then current else longest) current
      else zeroes rest (i + 1) longest ⟨0, 0⟩

/-- `{:x}` -/
def hex (segment : UInt16) : List Char := Nat.toDigits 16 segment.toNat

/-- The groups with colons between them. -/
def fmtSubslice : List UInt16 → List Char
  | [] => []
  | first :: tail => hex first ++ tail.flatMap fun segment => ':' :: hex segment

/-- The characters of the address: dotted if it stands for an IPv4 address, else
with a gap for the longest run of zeros. -/
def text (ip : Ipv6Addr) : List Char :=
  match ip.toIpv4Mapped with
  | some ipv4 => "::ffff:".toList ++ ipv4.text
  | none =>
      let zeroes := zeroes ip 0 ⟨0, 0⟩ ⟨0, 0⟩
      if 1 < zeroes.len then
        fmtSubslice (ip.take zeroes.start) ++ ':' :: ':' ::
          fmtSubslice (ip.drop (zeroes.start + zeroes.len))
      else fmtSubslice ip

def toString (ip : Ipv6Addr) : String := .ofList ip.text

end Ipv6Addr

/-- An IP address; an IPv6 address comes with the scope id that a socket address
has beside it. -/
inductive IpAddr where
  | v4 (ip : Ipv4Addr)
  | v6 (ip : Ipv6Addr) (scope : UInt32)
  deriving DecidableEq, Repr

/-- The address alone, without its scope. -/
def IpAddr.toString : IpAddr → String
  | .v4 ip => ip.toString
  | .v6 ip _ => ip.toString

structure SocketAddr where
  ip : IpAddr
  port : UInt16
  deriving DecidableEq, Repr

def SocketAddr.toString (addr : SocketAddr) : String :=
  match addr.ip with
  | .v4 ip => ip.toString ++ ":" ++ addr.port.toNat.repr
  | .v6 ip scope =>
      if scope = 0 then "[" ++ ip.toString ++ "]:" ++ addr.port.toNat.repr
      else
        "[" ++ ip.toString ++ "%" ++ scope.toNat.repr ++ "]:" ++
          addr.port.toNat.repr

example : SocketAddr.toString ⟨.v6 [65152, 0, 0, 0, 0, 0, 0, 1] 3, 443⟩ =
    "[fe80::1%3]:443" := by decide +kernel

namespace Reader

/-- A number of a dotted address. -/
def octet : Reader UInt8 :=
  UInt8.ofNat <$> number 10 (some 3) false 256

def ipv4 : Reader Ipv4Addr := do
  let a ← octet
  char '.'
  let b ← octet
  char '.'
  let c ← octet
  char '.'
  let d ← octet
  return { a, b, c, d }

/-- The colon before a group, if it is not the first. -/
def separator (first : Bool) : Reader Unit :=
  if first then pure () else char ':'

/-- A dotted address in the place of the last two groups. -/
def embedded (limit : Nat) (first : Bool) : Reader (Option Ipv4Addr) :=
  if limit < 2 then pure none else attempt (separator first *> ipv4)

def group (first : Bool) : Reader (Option Nat) :=
  attempt (separator first *> number 16 (some 4) true 65536)

/-- As many groups of an IPv6 address as there are, up to a limit, and whether
they end with a dotted address. -/
def groups : Nat → Bool → Reader (List UInt16 × Bool)
  | 0, _ => pure ([], false)
  | limit + 1, first => do
      match ← embedded (limit + 1) first with
      | some ip =>
          return ([UInt16.ofNat (256 * ip.a.toNat + ip.b.toNat),
            UInt16.ofNat (256 * ip.c.toNat + ip.d.toNat)], true)
      | none =>
          match ← group first with
          | some found =>
              let rest ← groups limit false
              return (UInt16.ofNat found :: rest.1, rest.2)
          | none => return ([], false)

/-- The groups after a gap. -/
def tail (head : List UInt16) : Reader Ipv6Addr := do
  char ':'
  char ':'
  let tail ← groups (7 - head.length) true
  return head ++ .replicate (8 - head.length - tail.1.length) 0 ++ tail.1

def ipv6 : Reader Ipv6Addr := do
  let head ← groups 8 true
  if head.1.length = 8 then return head.1
  else if head.2 then ofOption none
  else tail head.1

def scopeId : Reader UInt32 := do
  char '%'
  UInt32.ofNat <$> number 10 none true 4294967296

def port : Reader UInt16 := do
  char ':'
  UInt16.ofNat <$> number 10 none true 65536

def hostV4 : Reader IpAddr := IpAddr.v4 <$> ipv4

/-- What stands between the brackets. -/
def zoned : Reader IpAddr := do
  let ip ← ipv6
  let scope ← attempt scopeId
  return .v6 ip (scope.getD 0)

/-- All but the closing bracket. -/
def bracketed : Reader IpAddr := do
  char '['
  zoned

def hostV6 : Reader IpAddr := do
  let ip ← bracketed
  char ']'
  return ip

def socketAddrOf (host : Reader IpAddr) : Reader SocketAddr := do
  let ip ← host
  let port ← port
  return { ip, port }

def socketAddr : Reader SocketAddr := fun input =>
  match socketAddrOf hostV4 input with
  | some read => some read
  | none => socketAddrOf hostV6 input

end Reader

/-- `text.parse::<SocketAddr>()` -/
def SocketAddr.parse (text : String) : Option SocketAddr :=
  Reader.socketAddr.whole text.toList

/-- The address a host is by itself. -/
def IpAddr.ofHost (host : String) : Option IpAddr :=
  match Reader.hostV4.whole host.toList with
  | some ip => some ip
  | none => Reader.hostV6.whole host.toList

/-- `text.parse::<u16>()` -/
def parseU16 (text : String) : Option UInt16 :=
  let digits := match text.toList with
    | '+' :: rest => rest
    | all => all
  ((Reader.number 10 none true 65536).whole digits).map UInt16.ofNat

/-! ## Locality -/

namespace Reader

variable {α β : Type} {stop : Char}

theorem Leaves.ipv4 : Leaves ipv4 :=
  .bind (.map .number _) fun _ => .bind (.char _) fun _ =>
    .bind (.map .number _) fun _ => .bind (.char _) fun _ =>
      .bind (.map .number _) fun _ => .bind (.char _) fun _ =>
        .bind (.map .number _) fun _ => .pure _

theorem Local.ipv4 (digit : toDigit 10 stop = none) (dot : '.' ≠ stop) :
    Local stop ipv4 :=
  have octet : Local stop octet := .map (.number digit) _
  octet.bind fun _ => .bind (.char dot) fun _ => octet.bind fun _ =>
    .bind (.char dot) fun _ => octet.bind fun _ => .bind (.char dot) fun _ =>
      octet.bind fun _ => .pure _

theorem Leaves.separator (first : Bool) : Leaves (separator first) := by
  cases first with
  | true => exact .pure _
  | false => exact .char _

theorem Local.separator (colon : ':' ≠ stop) (first : Bool) :
    Local stop (separator first) := by
  cases first with
  | true => exact .pure _
  | false => exact .char colon

theorem Leaves.embedded (limit : Nat) (first : Bool) :
    Leaves (embedded limit first) := by
  rw [Reader.embedded]
  split
  · exact .pure _
  · exact .attempt (.bind (.separator first) fun _ => .ipv4)

theorem Leaves.group (first : Bool) : Leaves (group first) :=
  .attempt (.bind (.separator first) fun _ => .number)

theorem Leaves.groups (limit : Nat) (first : Bool) :
    Leaves (groups limit first) := by
  induction limit generalizing first with
  | zero => exact .pure _
  | succ limit ih =>
      apply Leaves.bind (.embedded _ _)
      intro dotted
      cases dotted with
      | some ip => exact .pure _
      | none =>
          apply Leaves.bind (.group first)
          intro found
          cases found with
          | some found => exact .bind (ih false) fun _ => .pure _
          | none => exact .pure _

section Groups

variable (decimal : toDigit 10 stop = none) (hexadecimal : toDigit 16 stop = none)
variable (dot : '.' ≠ stop) (colon : ':' ≠ stop)
include colon

theorem Local.group (hexadecimal : toDigit 16 stop = none) (first : Bool) :
    Local stop (group first) :=
  .attempt (.bind (.separator colon first) fun _ => .number hexadecimal)

include decimal dot

theorem Local.embedded (limit : Nat) (first : Bool) :
    Local stop (embedded limit first) := by
  rw [Reader.embedded]
  split
  · exact .pure _
  · exact .attempt (.bind (.separator colon first) fun _ => .ipv4 decimal dot)

include hexadecimal

/-- The groups of an address end before anything that is in none of them. -/
theorem Local.groups (limit : Nat) (first : Bool) :
    Local stop (groups limit first) := by
  induction limit generalizing first with
  | zero => exact .pure _
  | succ limit ih =>
      apply Local.bind (.embedded decimal dot colon _ _)
      intro dotted
      cases dotted with
      | some ip => exact .pure _
      | none =>
          apply Local.bind (.group colon hexadecimal first)
          intro found
          cases found with
          | some found => exact .bind (ih false) fun _ => .pure _
          | none => exact .pure _

end Groups

theorem Leaves.zoned : Leaves zoned := by
  apply Leaves.bind
  · apply Leaves.bind (.groups _ _)
    intro head
    split
    · exact .pure _
    · split
      · exact .ofOption _
      · exact .bind (.char _) fun _ => .bind (.char _) fun _ =>
          .bind (.groups _ _) fun _ => .pure _
  · intro ip
    exact .bind (.attempt (.bind (.char _) fun _ => .map .number _))
      fun _ => .pure _

theorem Leaves.bracketed : Leaves bracketed :=
  .bind (.char _) fun _ => .zoned

theorem Local.zoned : Local ']' zoned := by
  have groups := @Local.groups ']' rfl rfl (by decide) (by decide)
  apply Local.bind
  · apply Local.bind (groups _ _)
    intro head
    split
    · exact .pure _
    · split
      · exact .ofOption _
      · exact .bind (.char (by decide)) fun _ => .bind (.char (by decide))
          fun _ => .bind (groups _ _) fun _ => .pure _
  · intro ip
    exact .bind (.attempt (.bind (.char (by decide)) fun _ =>
      .map (.number rfl) _)) fun _ => .pure _

/-- A closing bracket ends what stands between the brackets. -/
theorem Local.bracketed : Local ']' bracketed :=
  .bind (.char (by decide)) fun _ => .zoned

/-! ## Dotted addresses -/

section Dotted

variable {input rest : List Char}

/-- What comes next does not continue a number. -/
def Stops (rest : List Char) : Prop :=
  ∀ next ∈ rest.head?, next.isDigit = false

theorem Stops.cons {next : Char} (stops : next.isDigit = false) :
    Stops (next :: rest) := by
  intro first isNext
  cases isNext
  exact stops

theorem octet_eq_some {value : UInt8} :
    octet input = some (value, rest) ↔
      input = Nat.toDigits 10 value.toNat ++ rest ∧ Stops rest := by
  rw [octet, map_eq_some]
  constructor
  · rintro ⟨found, read, rfl⟩
    rcases (number_canonical (by decide) (by decide)).mp read with
      ⟨below, split, stops⟩
    rw [UInt8.toNat_ofNat_of_lt' below]
    exact ⟨split, stops⟩
  · rintro ⟨split, stops⟩
    exact ⟨value.toNat, (number_canonical (by decide) (by decide)).mpr
      ⟨value.toNat_lt, split, stops⟩, UInt8.ofNat_toNat⟩

/-- Exactly the dotted forms are read, so no two texts mean one address. -/
theorem ipv4_eq_some {ip : Ipv4Addr} :
    ipv4 input = some (ip, rest) ↔ input = ip.text ++ rest ∧ Stops rest := by
  simp only [ipv4, bind_eq_some, octet_eq_some, char_eq_some]
  constructor
  · rintro ⟨a, _, ⟨rfl, _⟩, _, _, rfl, b, _, ⟨rfl, _⟩, _, _, rfl, c, _,
      ⟨rfl, _⟩, _, _, rfl, d, _, ⟨rfl, stops⟩, same⟩
    cases same
    exact ⟨by simp [Ipv4Addr.text], stops⟩
  · rintro ⟨rfl, stops⟩
    have dot : ∀ rest : List Char, Stops ('.' :: rest) := fun _ => .cons rfl
    refine ⟨ip.a, _, ⟨?_, dot _⟩, (), _, rfl, ip.b, _, ⟨rfl, dot _⟩, (), _, rfl,
      ip.c, _, ⟨rfl, dot _⟩, (), _, rfl, ip.d, _, ⟨rfl, stops⟩, rfl⟩
    simp [Ipv4Addr.text]

theorem whole_hostV4 {ip : IpAddr} :
    hostV4.whole input = some ip ↔ ∃ v4, ip = .v4 v4 ∧ input = v4.text := by
  rw [whole_eq_some, hostV4, map_eq_some]
  constructor
  · rintro ⟨v4, read, rfl⟩
    rw [ipv4_eq_some, List.append_nil] at read
    exact ⟨v4, rfl, read.1⟩
  · rintro ⟨v4, rfl, rfl⟩
    refine ⟨v4, ipv4_eq_some.mpr ⟨by rw [List.append_nil], ?_⟩, rfl⟩
    intro next isNext
    cases isNext

end Dotted

/-! ## Bracketed addresses -/

section Bracketed

variable {input : List Char}

theorem hostV6_eq_some {rest : List Char} {ip : IpAddr} :
    hostV6 input = some (ip, rest) ↔ bracketed input = some (ip, ']' :: rest) := by
  simp only [hostV6, bind_eq_some, char_eq_some]
  constructor
  · rintro ⟨found, _, read, _, _, rfl, same⟩
    cases same
    exact read
  · intro read
    exact ⟨ip, _, read, (), rest, rfl, rfl⟩

/-- Without a closing bracket nothing is read. -/
theorem hostV6_unclosed (unclosed : ']' ∉ input) : hostV6 input = none := by
  apply Option.eq_none_iff_forall_ne_some.mpr
  rintro ⟨ip, rest⟩ read
  have left := Leaves.bracketed _ _ _ (hostV6_eq_some.mp read)
  exact unclosed (left.subset List.mem_cons_self)

/-- What comes after the closing bracket makes no difference. -/
theorem hostV6_append {after : List Char} (unclosed : ']' ∉ after) :
    hostV6 (input ++ after) = (hostV6 input).map (Prod.map id (· ++ after)) := by
  by_cases closed : ']' ∈ input
  · rcases List.append_of_mem closed with ⟨inside, rest, rfl⟩
    show (bracketed _).bind _ = ((bracketed _).bind _).map _
    rw [List.append_assoc, List.cons_append, Local.bracketed inside (rest ++ after),
      Local.bracketed inside rest, Option.map_bind]
    cases bracketed inside with
    | none => rfl
    | some read =>
        show (char ']' (read.2 ++ ']' :: (rest ++ after))).bind _ =
          ((char ']' (read.2 ++ ']' :: rest)).bind _).map _
        rw [← List.cons_append, ← List.append_assoc, char_append (by simp),
          Option.map_bind]
        cases char ']' (read.2 ++ ']' :: rest) <;> rfl
  · rw [hostV6_unclosed closed, hostV6_unclosed]
    · rfl
    · intro member
      rcases List.mem_append.mp member with member | member
      · exact closed member
      · exact unclosed member

theorem whole_bracketed {ip : IpAddr} :
    bracketed.whole input = some ip ↔
      ∃ inside, input = '[' :: inside ∧ zoned.whole inside = some ip := by
  rw [bracketed, whole_bind]
  cases input with
  | nil => simp [Reader.char]
  | cons found input =>
      simp only [Reader.char, List.cons.injEq]
      split <;> simp_all

theorem whole_hostV6 {ip : IpAddr} :
    hostV6.whole input = some ip ↔
      ∃ inside, input = '[' :: inside ++ [']'] ∧
        zoned.whole inside = some ip := by
  rw [whole_eq_some, hostV6_eq_some]
  constructor
  · intro read
    rcases Leaves.bracketed _ _ _ read with ⟨front, rfl⟩
    rw [Local.bracketed front [], Option.map_eq_some_iff] at read
    rcases read with ⟨⟨found, left⟩, read, same⟩
    simp only [Prod.map, id, Prod.mk.injEq, List.append_left_eq_self] at same
    rw [same.1, same.2] at read
    rcases whole_bracketed.mp (whole_eq_some.mpr read) with
      ⟨inside, rfl, between⟩
    exact ⟨inside, rfl, between⟩
  · rintro ⟨inside, rfl, read⟩
    have read := whole_bracketed.mpr ⟨inside, rfl, read⟩
    rw [Local.bracketed _ [], whole_eq_some.mp read]
    rfl

end Bracketed

/-! ## A host and a port -/

section Port

variable {host : List Char} {port : UInt16}

/-- What the port is written as. -/
def portText (port : UInt16) : List Char := ':' :: Nat.toDigits 10 port.toNat

theorem port_portText : Reader.port (portText port) = some (port, []) := by
  have read := @number_toDigits 65536 port.toNat [] port.toNat_lt (by simp)
  rw [List.append_nil] at read
  show ((number 10 none true 65536) (Nat.toDigits 10 port.toNat)).bind _ = _
  rw [read]
  show some (UInt16.ofNat port.toNat, []) = _
  rw [UInt16.ofNat_toNat]

/-- A port that does not begin where the host ends does not reach the end. -/
theorem whole_port_cons (found : Char) (left : List Char) :
    Reader.port.whole (found :: left ++ portText port) = none := by
  have number : Local ':' (UInt16.ofNat <$> number 10 none true 65536) :=
    .map (.number rfl) _
  by_cases colon : found = ':'
  · subst colon
    have none := number.whole_eq_none left (Nat.toDigits 10 port.toNat)
    simp only [whole, Reader.port] at none ⊢
    exact none
  · have none : Reader.port (found :: left ++ portText port) = none := by
      show (char ':' (found :: (left ++ portText port))).bind _ = _
      rw [Reader.char, if_neg colon]
      rfl
    rw [whole, none]

theorem whole_socketAddrOf {reader : Reader IpAddr}
    (here : reader (host ++ portText port) =
      (reader host).map (Prod.map id (· ++ portText port))) :
    (socketAddrOf reader).whole (host ++ portText port) =
      (reader.whole host).map fun ip => { ip, port } := by
  have next (ip : IpAddr) (left : List Char) :
      (do return { ip, port := ← Reader.port } : Reader SocketAddr).whole left =
        (Reader.port.whole left).map fun port => { ip, port } :=
    whole_map
  rw [socketAddrOf, whole_bind, here]
  simp only [next]
  rw [whole]
  cases reader host with
  | none => rfl
  | some found =>
      rcases found with ⟨ip, left⟩
      show (Reader.port.whole (left ++ portText port)).map _ = _
      cases left with
      | nil => rw [List.nil_append, whole_eq_some.mpr port_portText]; rfl
      | cons found left => rw [whole_port_cons]; rfl

end Port

/-! ## Either -/

section Either

variable {input : List Char}

/-- At most one of the two forms is read. -/
theorem hostV4_or_hostV6 (input : List Char) :
    hostV4 input = none ∨ hostV6 input = none := by
  cases input with
  | nil => exact .inl rfl
  | cons found input =>
      by_cases bracket : found = '['
      · subst bracket
        exact .inl rfl
      · right
        have none : char '[' (found :: input) = none := if_neg bracket
        show ((char '[' (found :: input)).bind _).bind _ = _
        rw [none]
        rfl

theorem whole_socketAddr : socketAddr.whole input =
    ((socketAddrOf hostV4).whole input).or ((socketAddrOf hostV6).whole input) := by
  have either : socketAddrOf hostV4 input = none ∨
      (socketAddrOf hostV6).whole input = none := by
    rcases hostV4_or_hostV6 input with v4 | v6
    · left
      show (hostV4 input).bind _ = none
      rw [v4]
      rfl
    · right
      rw [socketAddrOf, whole_bind, v6]
      rfl
  rcases either with v4 | v6
  · rw [whole, socketAddr, v4, whole, v4]
    rfl
  · rw [v6, Option.or_none, whole, socketAddr]
    cases v4 : socketAddrOf hostV4 input with
    | none =>
        rw [whole] at v6
        rw [whole, v4]
        exact v6
    | some read => rw [whole, v4]

end Either

end Reader

/-! ## Addresses of a host -/

/-- The text means the address by itself. -/
def IpAddr.Written (host : String) (ip : IpAddr) : Prop :=
  (∃ v4, ip = .v4 v4 ∧ host = v4.toString) ∨
    ∃ inside, host.toList = '[' :: inside ++ [']'] ∧
      Reader.zoned.whole inside = some ip

/-- An IPv4 address has one text, and only brackets make a text an IPv6 one. -/
theorem IpAddr.ofHost_eq_some {host : String} {ip : IpAddr} :
    IpAddr.ofHost host = some ip ↔ ip.Written host := by
  have v4 : Reader.hostV4.whole host.toList = some ip ↔
      ∃ v4, ip = .v4 v4 ∧ host = v4.toString := by
    simp only [Reader.whole_hostV4, Ipv4Addr.toString, String.ext_iff,
      String.toList_ofList]
  rw [IpAddr.Written, ← v4, ← Reader.whole_hostV6, IpAddr.ofHost]
  have either : Reader.hostV4.whole host.toList = none ∨
      Reader.hostV6.whole host.toList = none := by
    simp only [Reader.whole]
    rcases Reader.hostV4_or_hostV6 host.toList with fails | fails
    · exact .inl (by rw [fails])
    · exact .inr (by rw [fails])
  rcases either with fails | fails
  · simp [fails]
  · rw [fails]
    cases Reader.hostV4.whole host.toList <;> simp

example : IpAddr.ofHost "127.0.0.1" = some (.v4 ⟨127, 0, 0, 1⟩) := by decide

example : IpAddr.ofHost "127.0.0.01" = none := by decide

example : IpAddr.ofHost "::1" = none := by decide

example : IpAddr.ofHost "[::1%2]" = some (.v6 [0, 0, 0, 0, 0, 0, 0, 1] 2) := by
  decide +kernel

theorem IpAddr.Written.unique {host : String} {first second : IpAddr}
    (one : first.Written host) (other : second.Written host) : first = second :=
  Option.some.inj
    ((IpAddr.ofHost_eq_some.mpr one).symm.trans (IpAddr.ofHost_eq_some.mpr other))

/-- A text that means an address begins with a digit or a bracket. -/
theorem IpAddr.Written.front {host : String} {ip : IpAddr}
    (written : ip.Written host) :
    ∀ first ∈ host.toList.head?, first = '[' ∨ first.isDigit = true := by
  intro first isFirst
  rcases written with ⟨v4, rfl, rfl⟩ | ⟨inside, bracketed, _⟩
  · right
    rw [Ipv4Addr.toString, String.toList_ofList, Ipv4Addr.text,
      List.head?_append_of_ne_nil _ Nat.toDigits_ne_nil] at isFirst
    exact Nat.isDigit_of_mem_toDigits (by decide) (by decide)
      (List.mem_of_mem_head? isFirst)
  · left
    rw [bracketed] at isFirst
    exact (Option.some.inj isFirst).symm

/-- A host and a port together are a socket address exactly if the host is an
address by itself. -/
theorem SocketAddr.parse_host_port (host : String) (port : UInt16) :
    SocketAddr.parse (host ++ ":" ++ port.toNat.repr) =
      (IpAddr.ofHost host).map fun ip => { ip, port } := by
  have text : (host ++ ":" ++ port.toNat.repr).toList =
      host.toList ++ Reader.portText port := by
    simp [Reader.portText, Nat.toList_repr]
  have v4 : Reader.Local ':' Reader.hostV4 := .map (.ipv4 rfl (by decide)) _
  have v6 : ']' ∉ Reader.portText port := by
    intro member
    cases member with
    | tail _ member =>
        have digit := Nat.isDigit_of_mem_toDigits (by decide) (by decide) member
        cases digit
  rw [SocketAddr.parse, text, Reader.whole_socketAddr,
    Reader.whole_socketAddrOf (v4 _ _),
    Reader.whole_socketAddrOf (Reader.hostV6_append v6), ← Option.map_or,
    IpAddr.ofHost]
  cases Reader.hostV4.whole host.toList <;> rfl

end IotRouter.Runtime
