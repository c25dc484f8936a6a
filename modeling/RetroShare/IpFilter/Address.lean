import Mathlib.Algebra.Order.Ring.Nat

/-!
# Internet addresses

The socket addresses of `rsnet_ss.cc` as the ban list reads them, and the keys under which
`p3banlist.cc` stores ranges of addresses.  An IPv4 address is the word `s_addr`, in network order
on a host that is little-endian: its first octet is the low byte.
-/

namespace IpFilter

/-- The family and the address of a `sockaddr_storage`.  Every operation treats the families other
than `AF_INET` and `AF_INET6` alike. -/
inductive IpAddress
  | unspec
  | inet (sAddr : BitVec 32)
  | inet6 (sin6Addr : BitVec 128)

/-- A `sockaddr_storage`. -/
structure SockaddrStorage where
  ip : IpAddress
  port : BitVec 16

/-! ### The order of addresses -/

/-- The rank of an address: families one after the other, IPv4 addresses by `s_addr`. -/
def IpAddress.rank : IpAddress → Nat
  | unspec => 0
  | inet a => a.toNat + 1
  | inet6 a => a.toNat + 2 ^ 32 + 1

theorem IpAddress.rank_injective :
  Function.Injective rank
  := by
  intro i j h
  cases i <;> cases j <;> simp only [rank] at h
  case unspec.unspec => rfl
  case inet.inet a b =>
    congr 1
    apply BitVec.eq_of_toNat_eq
    omega
  case inet6.inet6 a b =>
    congr 1
    apply BitVec.eq_of_toNat_eq
    omega
  case inet.inet6 a b =>
    have := a.isLt
    omega
  case inet6.inet a b =>
    have := b.isLt
    omega
  all_goals omega

instance : LinearOrder IpAddress := LinearOrder.lift' IpAddress.rank IpAddress.rank_injective

/-- The rank of a socket address: by the address, then by the port. -/
def SockaddrStorage.rank (s : SockaddrStorage) : Nat := s.ip.rank * 2 ^ 16 + s.port.toNat

theorem SockaddrStorage.rank_injective :
  Function.Injective rank
  := by
  rintro ⟨i, p⟩ ⟨j, q⟩ h
  simp only [rank] at h
  have hp := p.isLt
  have hq := q.isLt
  have hip : i = j := by
    apply IpAddress.rank_injective
    omega
  subst hip
  congr 1
  apply BitVec.eq_of_toNat_eq
  omega

instance : LinearOrder SockaddrStorage :=
  LinearOrder.lift' SockaddrStorage.rank SockaddrStorage.rank_injective

/-! ### Kinds of networks -/

/-- `ntohl` of `s_addr`. -/
def ntohl (a : BitVec 32) : BitVec 32 :=
  (a &&& 0xff#32) <<< 24 ||| (a &&& 0xff00#32) <<< 8 ||| (a >>> 8 &&& 0xff00#32) ||| a >>> 24

/-- The address `a.b.c.d`. -/
def ipv4 (a b c d : BitVec 8) : IpAddress := .inet (d ++ c ++ b ++ a)

/-- `isValidNet` of `rsnet.cc`. -/
def isValidNet : IpAddress → Bool
  | .inet a => a ≠ 0xffffffff#32 && a ≠ 0
  | _ => false

/-- `isLoopbackNet` of `rsnet.cc`. -/
def isLoopbackNet : IpAddress → Bool
  | .inet a => ntohl a = (127#32 <<< 24 ||| 1)
  | _ => false

/-- `isPrivateNet` of `rsnet.cc`. -/
def isPrivateNet : IpAddress → Bool
  | .inet a =>
      let taddr := ntohl a
      taddr >>> 24 = 10 || taddr >>> 20 = (172#32 <<< 4 ||| 16#32 >>> 4) ||
        taddr >>> 16 = (192#32 <<< 8 ||| 168) || taddr >>> 16 = (169#32 <<< 8 ||| 254)
  | _ => false

/-- `isExternalNet` of `rsnet.cc`. -/
def isExternalNet (ip : IpAddress) : Bool :=
  isValidNet ip && !isLoopbackNet ip && !isPrivateNet ip

theorem exists_inet_of_isExternalNet {ip : IpAddress} (h : isExternalNet ip) :
  ∃ a, ip = .inet a
  := by
  cases ip with
  | inet a => exact ⟨a, rfl⟩
  | unspec => simp [isExternalNet, isValidNet] at h
  | inet6 a => simp [isExternalNet, isValidNet] at h

/-! ### Ranges -/

/-- The bits of `s_addr` that `makeBitsRange` sets: the last octets, as many as are masked. -/
def maskedBits (maskedBytes : Int) : BitVec 32 :=
  if maskedBytes = 1 then 0xff000000#32
  else if maskedBytes = 2 then 0xffff0000#32
  else 0

/-- `makeBitsRange`: the key of the range of `ip` with `maskedBytes` octets masked.  The bits that
are set in the place of an IPv4 address mean nothing to the other families. -/
def makeBitsRange (ip : IpAddress) (maskedBytes : Int) : IpAddress :=
  match ip with
  | .inet a => .inet (a ||| maskedBits maskedBytes)
  | ip => ip

/-- Two addresses have the same bits set exactly when they agree on the others. -/
theorem or_eq_or_iff {w : Nat} (a b m : BitVec w) :
  a ||| m = b ||| m ↔ a &&& ~~~m = b &&& ~~~m
  := by
  constructor
  · intro h
    ext i hi
    have hbit : (a ||| m)[i] = (b ||| m)[i] := by rw [h]
    cases hm : m[i] with
    | true => simp [hm]
    | false => simpa [hm] using hbit
  · intro h
    ext i hi
    have hbit : (a &&& ~~~m)[i] = (b &&& ~~~m)[i] := by rw [h]
    cases hm : m[i] with
    | true => simp [hm]
    | false => simpa [hm] using hbit

/-- Bits that are set include those of a smaller mask. -/
theorem or_and_of_and_eq {w : Nat} {m n : BitVec w} (a : BitVec w) (h : n &&& m = n) :
  (a ||| m) &&& n = n
  := by
  ext i hi
  have hbit : (n &&& m)[i] = n[i] := by rw [h]
  cases hn : n[i] with
  | true =>
    have hm : m[i] = true := by simpa [hn] using hbit
    simp [hn, hm]
  | false => simp [hn]

/-- `getBitRange`: the number of last octets that are 255. -/
def getBitRange (ip : IpAddress) : Nat :=
  let a := match ip with
    | .inet a => a
    | _ => 0
  if a &&& 0xff000000#32 ≠ 0xff000000#32 then 0
  else if a &&& 0x00ff0000#32 ≠ 0x00ff0000#32 then 1
  else if a &&& 0x0000ff00#32 ≠ 0x0000ff00#32 then 2
  else if a &&& 0x000000ff#32 ≠ 0x000000ff#32 then 3
  else 4

@[simp]
theorem maskedBits_zero :
  maskedBits 0 = 0
  := rfl

@[simp]
theorem maskedBits_one :
  maskedBits 1 = 0xff000000#32
  := rfl

@[simp]
theorem maskedBits_two :
  maskedBits 2 = 0xffff0000#32
  := rfl

/-- Masking no octet leaves the address. -/
@[simp]
theorem makeBitsRange_zero (ip : IpAddress) :
  makeBitsRange ip 0 = ip
  := by
  cases ip <;> simp [makeBitsRange]

end IpFilter
