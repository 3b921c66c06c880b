import Mathlib.Algebra.Group.Int
import Mathlib.Algebra.Group.Nat.Basic
import Mathlib.Tactic.Common

/-!
# Socket addresses

The endpoints of network events are nix socket addresses (`Addr`), converted to std's
`SocketAddr` for the payloads. IPv4 addresses come out of nix as a host-order `u32`, which
`From<Addr> for SocketAddr` splits into four network-order octets.
-/

namespace Pulsar.NetworkMonitor

/-- `std::net::Ipv4Addr`, `Ipv4Addr::new(a, b, c, d)`. -/
@[ext] structure Ipv4Addr where
  a : UInt8
  b : UInt8
  c : UInt8
  d : UInt8
deriving DecidableEq

/-- `std::net::Ipv6Addr`, by its sixteen octets. -/
structure Ipv6Addr where
  octets : List UInt8
  length_octets : octets.length = 16
deriving DecidableEq

inductive IpAddr where
  | v4 (ip : Ipv4Addr)
  | v6 (ip : Ipv6Addr)
deriving DecidableEq

structure SocketAddrV4 where
  ip : Ipv4Addr
  port : UInt16
deriving DecidableEq

structure SocketAddrV6 where
  ip : Ipv6Addr
  port : UInt16
  flowinfo : UInt32
  scopeId : UInt32
deriving DecidableEq

inductive SocketAddr where
  | v4 (addr : SocketAddrV4)
  | v6 (addr : SocketAddrV6)
deriving DecidableEq

/-- `SocketAddr::new`, which gives an IPv6 address flow info and scope id zero. -/
def SocketAddr.new : IpAddr → UInt16 → SocketAddr
  | .v4 ip, port => .v4 ⟨ip, port⟩
  | .v6 ip, port => .v6 ⟨ip, port, 0, 0⟩

/-- `u32::from(Ipv4Addr)`: the octets read big-endian. -/
def Ipv4Addr.toBits (ip : Ipv4Addr) : UInt32 :=
  UInt32.ofNat (ip.a.toNat * 2 ^ 24 + ip.b.toNat * 2 ^ 16 + ip.c.toNat * 2 ^ 8 + ip.d.toNat)

/-- nix's `SockaddrIn`, by its accessors: `ip()`, the address as a host-order `u32`, and
`port()`. -/
structure SockaddrIn where
  ip : UInt32
  port : UInt16
deriving DecidableEq

/-- nix's `SockaddrIn6`, by its accessors. -/
structure SockaddrIn6 where
  ip : Ipv6Addr
  port : UInt16
  flowinfo : UInt32
  scopeId : UInt32
deriving DecidableEq

/-- nix's `From<SocketAddrV4> for SockaddrIn`. -/
def SockaddrIn.from (addr : SocketAddrV4) : SockaddrIn := ⟨addr.ip.toBits, addr.port⟩

/-- nix's `From<SocketAddrV6> for SockaddrIn6`. -/
def SockaddrIn6.from (addr : SocketAddrV6) : SockaddrIn6 :=
  ⟨addr.ip, addr.port, addr.flowinfo, addr.scopeId⟩

inductive Addr where
  | v4 (addr : SockaddrIn)
  | v6 (addr : SockaddrIn6)
deriving DecidableEq

/-- The octets `[(bits >> 24) as u8, (bits >> 16) as u8, (bits >> 8) as u8, bits as u8]` of
`From<Addr> for SocketAddr`. -/
def octetsOfBits (bits : UInt32) : Ipv4Addr :=
  ⟨(bits >>> 24).toUInt8, (bits >>> 16).toUInt8, (bits >>> 8).toUInt8, bits.toUInt8⟩

/-- `From<Addr> for SocketAddr` -/
def SocketAddr.from : Addr → SocketAddr
  | .v4 v => .v4 ⟨octetsOfBits v.ip, v.port⟩
  | .v6 v => SocketAddr.new (.v6 v.ip) v.port

/-- `From<SocketAddr> for Addr` -/
def Addr.from : SocketAddr → Addr
  | .v4 v => .v4 (SockaddrIn.from v)
  | .v6 v => .v6 (SockaddrIn6.from v)

private theorem toNat_shiftRight (bits : UInt32) (n : Nat) (h : n < 32) :
    (bits >>> UInt32.ofNat n).toNat = bits.toNat / 2 ^ n := by
  change (bits.toBitVec >>> (UInt32.ofNat n % 32).toBitVec.toNat).toNat = _
  rw [BitVec.toNat_ushiftRight, Nat.shiftRight_eq_div_pow]
  congr
  change (UInt32.ofNat n % 32).toNat = n
  rw [UInt32.toNat_mod, UInt32.toNat_ofNat_of_lt (by simp only [UInt32.size]; omega)]
  exact Nat.mod_eq_of_lt h

private theorem toNat_toUInt8 (bits : UInt32) : bits.toUInt8.toNat = bits.toNat % 256 := by
  change (BitVec.ofNat 8 bits.toNat).toNat = _
  simp

private theorem toNat_octet (bits : UInt32) (n : Nat) (h : n < 32) :
    (bits >>> UInt32.ofNat n).toUInt8.toNat = bits.toNat / 2 ^ n % 256 := by
  rw [toNat_toUInt8, toNat_shiftRight bits n h]

theorem octetsOfBits_toNat (bits : UInt32) :
    (octetsOfBits bits).a.toNat = bits.toNat / 2 ^ 24 % 256 ∧
      (octetsOfBits bits).b.toNat = bits.toNat / 2 ^ 16 % 256 ∧
      (octetsOfBits bits).c.toNat = bits.toNat / 2 ^ 8 % 256 ∧
      (octetsOfBits bits).d.toNat = bits.toNat % 256 :=
  ⟨toNat_octet bits 24 (by omega), toNat_octet bits 16 (by omega), toNat_octet bits 8 (by omega),
    toNat_toUInt8 bits⟩

theorem toNat_toBits (ip : Ipv4Addr) :
    ip.toBits.toNat = ip.a.toNat * 2 ^ 24 + ip.b.toNat * 2 ^ 16 + ip.c.toNat * 2 ^ 8 + ip.d.toNat := by
  have := ip.a.toNat_lt_size; have := ip.b.toNat_lt_size
  have := ip.c.toNat_lt_size; have := ip.d.toNat_lt_size
  simp only [UInt8.size] at *
  exact UInt32.toNat_ofNat_of_lt (by simp only [UInt32.size]; omega)

private theorem octets_of_sum {a b c d : Nat} (ha : a < 256) (hb : b < 256) (hc : c < 256)
    (hd : d < 256) :
    (a * 2 ^ 24 + b * 2 ^ 16 + c * 2 ^ 8 + d) / 2 ^ 24 % 256 = a ∧
      (a * 2 ^ 24 + b * 2 ^ 16 + c * 2 ^ 8 + d) / 2 ^ 16 % 256 = b ∧
      (a * 2 ^ 24 + b * 2 ^ 16 + c * 2 ^ 8 + d) / 2 ^ 8 % 256 = c ∧
      (a * 2 ^ 24 + b * 2 ^ 16 + c * 2 ^ 8 + d) % 256 = d := by
  refine ⟨?_, ?_, ?_, ?_⟩ <;> omega

theorem octetsOfBits_toBits (ip : Ipv4Addr) : octetsOfBits ip.toBits = ip := by
  obtain ⟨ha, hb, hc, hd⟩ := octetsOfBits_toNat ip.toBits
  obtain ⟨ha', hb', hc', hd'⟩ := octets_of_sum ip.a.toNat_lt_size ip.b.toNat_lt_size
    ip.c.toNat_lt_size ip.d.toNat_lt_size
  rw [toNat_toBits] at ha hb hc hd
  apply Ipv4Addr.ext <;> apply UInt8.toNat.inj
  exacts [ha.trans ha', hb.trans hb', hc.trans hc', hd.trans hd']

theorem toBits_octetsOfBits (bits : UInt32) : (octetsOfBits bits).toBits = bits := by
  obtain ⟨ha, hb, hc, hd⟩ := octetsOfBits_toNat bits
  have := bits.toNat_lt_size
  apply UInt32.toNat.inj
  simp only [UInt32.size, toNat_toBits, ha, hb, hc, hd] at *
  omega

@[simp] theorem socketAddr_from_addr_from_v4 (addr : SocketAddrV4) :
    SocketAddr.from (Addr.from (.v4 addr)) = .v4 addr := by
  simp [Addr.from, SocketAddr.from, SockaddrIn.from, octetsOfBits_toBits]

@[simp] theorem socketAddr_from_addr_from_v6 (addr : SocketAddrV6) :
    SocketAddr.from (Addr.from (.v6 addr)) = .v6 { addr with flowinfo := 0, scopeId := 0 } := rfl

/-- Every endpoint keeps its IP address and port through the round trip through `Addr`. -/
theorem socketAddr_from_addr_from (s : SocketAddr) :
    SocketAddr.from (Addr.from s) =
      match s with
      | .v4 addr => .v4 addr
      | .v6 addr => .v6 { addr with flowinfo := 0, scopeId := 0 } := by
  cases s <;> simp

/-- A link-local IPv6 endpoint, `[fe80::1%2]:80`, loses its scope id in the round trip. -/
theorem socketAddr_from_addr_from_drops_scope_id :
    SocketAddr.from (Addr.from (.v6 ⟨⟨[0xfe, 0x80, 0, 0, 0, 0, 0, 0, 0, 0, 0, 0, 0, 0, 0, 1], rfl⟩,
      80, 0, 2⟩)) ≠ .v6 ⟨⟨[0xfe, 0x80, 0, 0, 0, 0, 0, 0, 0, 0, 0, 0, 0, 0, 0, 1], rfl⟩, 80, 0, 2⟩ := by
  decide

/-- `From<SocketAddr> for Addr` loses nothing: distinct endpoints give distinct nix
addresses, so what the round trip drops is dropped on the way back. -/
theorem addr_from_injective : Function.Injective Addr.from := by
  intro x y h
  cases x with
  | v4 x => cases y with
    | v4 y => simpa using congrArg SocketAddr.from h
    | v6 y => cases h
  | v6 x => cases y with
    | v4 y => cases h
    | v6 y =>
      cases x; cases y
      simp_all [Addr.from, SockaddrIn6.from]

/-- Two nix endpoints with the same IP address and port. -/
def Addr.SameIpPort : Addr → Addr → Prop
  | .v4 x, .v4 y => x.ip = y.ip ∧ x.port = y.port
  | .v6 x, .v6 y => x.ip = y.ip ∧ x.port = y.port
  | _, _ => False

instance Addr.decidableSameIpPort : ∀ x y : Addr, Decidable (x.SameIpPort y)
  | .v4 x, .v4 y => inferInstanceAs (Decidable (x.ip = y.ip ∧ x.port = y.port))
  | .v6 x, .v6 y => inferInstanceAs (Decidable (x.ip = y.ip ∧ x.port = y.port))
  | .v4 _, .v6 _ | .v6 _, .v4 _ => isFalse id

theorem Addr.sameIpPort_of_socketAddr_from_eq {x y : Addr}
    (h : SocketAddr.from x = SocketAddr.from y) : x.SameIpPort y := by
  cases x <;> cases y <;> simp only [SocketAddr.from, SocketAddr.new, SocketAddr.v4.injEq,
    SocketAddr.v6.injEq, SocketAddrV4.mk.injEq, SocketAddrV6.mk.injEq, reduceCtorEq] at h
  · exact ⟨(toBits_octetsOfBits _).symm.trans
      ((congrArg Ipv4Addr.toBits h.1).trans (toBits_octetsOfBits _)), h.2⟩
  · exact ⟨h.1, h.2.1⟩

theorem Addr.socketAddr_from_eq_of_sameIpPort {x y : Addr} (h : x.SameIpPort y) :
    SocketAddr.from x = SocketAddr.from y := by
  cases x <;> cases y <;> simp only [Addr.SameIpPort] at h <;> simp [SocketAddr.from, h.1, h.2]

/-- `From<Addr> for SocketAddr` identifies two nix endpoints exactly when they have the same IP
address and port: what it forgets is an IPv6 endpoint's flow info and scope id, and nothing
else. -/
theorem socketAddr_from_eq_iff (x y : Addr) :
    SocketAddr.from x = SocketAddr.from y ↔ x.SameIpPort y :=
  ⟨Addr.sameIpPort_of_socketAddr_from_eq, Addr.socketAddr_from_eq_of_sameIpPort⟩

/-- The round trip the other way: a nix endpoint converted to std and back is unchanged,
except that an IPv6 one comes back with flow info and scope id zero. -/
theorem addr_from_socketAddr_from (a : Addr) :
    Addr.from (SocketAddr.from a) =
      match a with
      | .v4 v => .v4 v
      | .v6 v => .v6 { v with flowinfo := 0, scopeId := 0 } := by
  cases a with
  | v4 v => simp [SocketAddr.from, Addr.from, SockaddrIn.from, toBits_octetsOfBits]
  | v6 v => rfl

end Pulsar.NetworkMonitor
