import Mathlib.Algebra.Group.Nat.Defs
import Mathlib.Logic.Function.Iterate

/-!
# IP prefixes in CIDR form

`parsePrefix` accepts exactly what Go's `netip.ParsePrefix` accepts: an address, a slash and a
number of bits without sign or leading zero. Of an IPv6 prefix only the number of bits is kept.
-/

namespace Netip

inductive CIDR
  | v4 (addr bits : Nat)
  | v6 (bits : Nat)
deriving DecidableEq, Repr

def digitValue (c : Char) : Nat := c.toNat - '0'.toNat

def isHexDigit (c : Char) : Bool := c.isDigit || ('a' ≤ c && c ≤ 'f') || ('A' ≤ c && c ≤ 'F')

/-- The octets of a dotted address: `val` and `digits` are the value and length of the octet being
read, `octets` are those before it. -/
def scanOctets : List Char → Nat → Nat → List Nat → Option (List Nat)
  | [], val, _, octets => if octets.length = 3 then some (octets ++ [val]) else none
  | c :: cs, val, digits, octets =>
    if c.isDigit then
      -- no leading zero
      if digits = 1 ∧ val = 0 then none
      else if 255 < val * 10 + digitValue c then none
      else scanOctets cs (val * 10 + digitValue c) (digits + 1) octets
    else if c = '.' then
      if digits = 0 ∨ cs = [] ∨ octets.length = 3 then none else scanOctets cs 0 0 (octets ++ [val])
    else none

/-- The value of a dotted address. -/
def parseIPv4 (s : List Char) : Option Nat :=
  (scanOctets s 0 0 []).map fun octets => octets.foldl (fun acc o => acc * 256 + o) 0

/-- At most `n` further groups of an IPv6 address, after `groups` of them. `ellipsis` is where a
`::` was. Returns the number of groups, the ellipsis and what is left of the input. -/
def scanGroups : Nat → Nat → Option Nat → List Char → Option (Nat × Option Nat × List Char)
  | 0, groups, ellipsis, s => some (groups, ellipsis, s)
  | n + 1, groups, ellipsis, s =>
    let hex := s.takeWhile isHexDigit
    if hex = [] ∨ 4 < hex.length then none
    else match s.dropWhile isHexDigit with
      | [] => some (groups + 1, ellipsis, [])
      | '.' :: _ =>
        -- a dotted address takes the place of the last two groups
        if (ellipsis = none ∧ groups ≠ 6) ∨ 6 < groups then none
        else (parseIPv4 s).map fun _ => (groups + 2, ellipsis, [])
      | [':'] => none
      | ':' :: ':' :: rest =>
        if ellipsis.isSome then none
        else if rest = [] then some (groups + 1, some (groups + 1), [])
        else scanGroups n (groups + 1) (some (groups + 1)) rest
      | ':' :: rest => scanGroups n (groups + 1) ellipsis rest
      | _ => none

/-- A `::` stands for at least one group of zeros, and without it there are eight groups. -/
def isIPv6 (s : List Char) : Bool :=
  let scanned := match s with
    | [':', ':'] => some (0, some 0, [])
    | ':' :: ':' :: rest => scanGroups 8 0 (some 0) rest
    | _ => scanGroups 8 0 none s
  match scanned with
  | some (groups, ellipsis, []) => if groups < 8 then ellipsis.isSome else ellipsis.isNone
  | _ => false

/-- The number after the slash, if it is at most `max`. -/
def parseBits (max : Nat) (s : List Char) : Option Nat :=
  let bits := s.foldl (fun acc c => acc * 10 + digitValue c) 0
  if s = [] ∨ !s.all Char.isDigit ∨ (1 < s.length ∧ s.head? = some '0') ∨ max < bits then none
  else some bits

/-- The parts of `s` before and after its last slash. -/
def splitLastSlash (s : List Char) : Option (List Char × List Char) :=
  if '/' ∈ s then
    some ((s.reverse.dropWhile (· ≠ '/')).tail.reverse, (s.reverse.takeWhile (· ≠ '/')).reverse)
  else none

/-- `netip.ParsePrefix`. The first of `.`, `:` and `%` decides which kind of address it is; a zone
is not allowed in a prefix. -/
def parsePrefix (s : String) : Option CIDR :=
  match splitLastSlash s.toList with
  | none => none
  | some (addr, bits) =>
    match addr.find? (fun c => c = '.' ∨ c = ':' ∨ c = '%') with
    | some '.' => do
      let a ← parseIPv4 addr
      let b ← parseBits 32 bits
      some (.v4 a b)
    | some ':' => if '%' ∉ addr ∧ isIPv6 addr then (parseBits 128 bits).map .v6 else none
    | _ => none

/-- `netip.Addr.String` of an IPv4 address. -/
def showIPv4 (a : Nat) : String :=
  ".".intercalate [toString (a / 256 ^ 3 % 256), toString (a / 256 ^ 2 % 256),
    toString (a / 256 % 256),
    toString (a % 256)]

/-- The first address of the prefix, `prefix.Masked().Addr()`. -/
def firstAddr (addr bits : Nat) : Nat := addr / 2 ^ (32 - bits) * 2 ^ (32 - bits)

/-- `prefix.Contains`, for IPv4. -/
def contains (addr bits a : Nat) : Bool :=
  decide (a < 2 ^ 32) && a / 2 ^ (32 - bits) == addr / 2 ^ (32 - bits)

/-- `netip.Addr.Next`, for IPv4. `none` is the zero `Addr`, which is not a valid address; it is what
follows the last address. -/
def next : Option Nat → Option Nat
  | some a => if a + 1 < 2 ^ 32 then some (a + 1) else none
  | none => none

/-- The last address of the prefix. -/
def broadcastAddr (addr bits : Nat) : Nat := firstAddr addr bits + (2 ^ (32 - bits) - 1)

/-! ### Addresses of a prefix -/

/-- Stepping reaches the sum, or nothing. -/
theorem iterate_next {a : Nat} (ha : a < 2 ^ 32) (n : Nat) :
    next^[n] (some a) = if a + n < 2 ^ 32 then some (a + n) else none := by
  induction n with
  | zero => exact (if_pos ha).symm
  | succ n ih =>
    rw [Function.iterate_succ_apply', ih]
    by_cases hn : a + n < 2 ^ 32
    · rw [if_pos hn]
      rfl
    · rw [if_neg hn, if_neg (by omega)]
      rfl

/-- The block of a prefix ends before the address space does. -/
theorem broadcastAddr_lt {addr bits : Nat} (haddr : addr < 2 ^ 32) :
    broadcastAddr addr bits < 2 ^ 32 := by
  have hpos := Nat.two_pow_pos (32 - bits)
  have hdvd : 2 ^ (32 - bits) ∣ 2 ^ 32 := Nat.pow_dvd_pow 2 (Nat.sub_le _ _)
  have hlt : addr / 2 ^ (32 - bits) < 2 ^ 32 / 2 ^ (32 - bits) :=
    Nat.div_lt_div_of_lt_of_dvd hdvd haddr
  have hblock : (addr / 2 ^ (32 - bits) + 1) * 2 ^ (32 - bits) ≤ 2 ^ 32 / 2 ^ (32 - bits) * 2 ^
      (32 - bits) :=
    Nat.mul_le_mul_right _ hlt
  rw [Nat.div_mul_cancel hdvd, Nat.add_mul, Nat.one_mul] at hblock
  unfold broadcastAddr firstAddr
  omega

/-- The prefix contains as many addresses from its first one on as its length leaves room for. -/
theorem contains_firstAddr_add {addr bits k : Nat} (haddr : addr < 2 ^ 32) :
    contains addr bits (firstAddr addr bits + k) = true ↔ k < 2 ^ (32 - bits) := by
  have hpos := Nat.two_pow_pos (32 - bits)
  have hblock : (firstAddr addr bits + k) / 2 ^ (32 - bits) = addr / 2 ^ (32 - bits) + k / 2 ^
      (32 - bits) := by
    rw [firstAddr, Nat.add_comm, Nat.add_mul_div_right _ _ hpos, Nat.add_comm]
  rw [contains, Bool.and_eq_true, decide_eq_true_eq, beq_iff_eq, hblock]
  constructor
  · rintro ⟨-, hk⟩
    exact (Nat.div_eq_zero_iff_lt hpos).1 (by omega)
  · intro hk
    have hlast : broadcastAddr addr bits < 2 ^ 32 := broadcastAddr_lt haddr
    unfold broadcastAddr at hlast
    exact ⟨by omega, by rw [Nat.div_eq_of_lt hk]; rfl⟩

/-! ### What is parsed -/

theorem scanOctets_le {s : List Char} {val digits : Nat} {octets l : List Nat}
    (h : scanOctets s val digits octets = some l) (hval : val ≤ 255)
    (hoctets : ∀ o ∈ octets, o ≤ 255) : l.length = 4 ∧ ∀ o ∈ l, o ≤ 255 := by
  induction s generalizing val digits octets with
  | nil =>
    unfold scanOctets at h
    split at h
    · rename_i hlen
      cases h
      refine ⟨by rw [List.length_append, hlen]; rfl, fun o ho => ?_⟩
      rcases List.mem_append.1 ho with ho | ho
      · exact hoctets o ho
      · rw [List.mem_singleton.1 ho]
        exact hval
    · cases h
  | cons c cs ih =>
    unfold scanOctets at h
    split at h
    · split at h
      · cases h
      · split at h
        · cases h
        · rename_i hsmall
          exact ih h (Nat.le_of_not_lt hsmall) hoctets
    · split at h
      · split at h
        · cases h
        · refine ih h (Nat.zero_le _) fun o ho => ?_
          rcases List.mem_append.1 ho with ho | ho
          · exact hoctets o ho
          · rw [List.mem_singleton.1 ho]
            exact hval
      · cases h

theorem parseIPv4_lt {s : List Char} {a : Nat} (h : parseIPv4 s = some a) : a < 2 ^ 32 := by
  unfold parseIPv4 at h
  rw [Option.map_eq_some_iff] at h
  obtain ⟨l, hl, rfl⟩ := h
  obtain ⟨hlen, hle⟩ := scanOctets_le hl (Nat.zero_le _) (by simp)
  match l, hlen with
  | [o₁, o₂, o₃, o₄], _ =>
    have h₁ := hle o₁ (by simp)
    have h₂ := hle o₂ (by simp)
    have h₃ := hle o₃ (by simp)
    have h₄ := hle o₄ (by simp)
    simp only [List.foldl_cons, List.foldl_nil]
    omega

theorem parsePrefix_lt {s : String} {addr bits : Nat} (h : parsePrefix s = some (.v4 addr bits)) :
    addr < 2 ^ 32 := by
  unfold parsePrefix at h
  split at h
  · cases h
  · split at h
    · obtain ⟨a, ha, h⟩ := Option.bind_eq_some_iff.1 h
      obtain ⟨b, -, h⟩ := Option.bind_eq_some_iff.1 h
      cases h
      exact parseIPv4_lt ha
    · split at h
      · rw [Option.map_eq_some_iff] at h
        obtain ⟨b, -, hb⟩ := h
        cases hb
      · cases h
    · cases h

example : parsePrefix "10.0.0.0/24" = some (.v4 167772160 24) := by decide
example : parsePrefix "2001:db8::/32" = some (.v6 32) := by decide
example : parsePrefix "10.0.0.0/033" = none := by decide

end Netip
