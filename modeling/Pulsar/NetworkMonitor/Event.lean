import Pulsar.NetworkMonitor.Addr

/-!
# Network events and their payloads

`NetworkEvent` is what the eBPF probes report for socket operations; `From<NetworkEvent> for
Payload` turns it into pulsar_core's payload, converting every endpoint to a `SocketAddr` and
dropping the captured bytes and the original pid of a close.
-/

namespace Pulsar.NetworkMonitor

/-- `MAX_DATA_SIZE` -/
def maxDataSize : Nat := 4096

/-- bpf_common's `DataArray<N>`: the bytes a probe captured, at most `N` of them. -/
structure DataArray (n : Nat) where
  bytes : List UInt8
  length_le : bytes.length ≤ n
deriving DecidableEq

inductive Proto where
  | tcp
  | udp
deriving DecidableEq

/-- nix's `Pid`, a `pid_t`. -/
structure Pid where
  asRaw : Int
  isI32 : -2 ^ 31 ≤ asRaw ∧ asRaw < 2 ^ 31
deriving DecidableEq

inductive NetworkEvent where
  | bind (addr : Addr)
  | connect (dst : Addr)
  | accept (src dst : Addr)
  | send (src dst : Addr) (data : DataArray maxDataSize) (dataLen : UInt32) (proto : Proto)
  | receive (src dst : Addr) (data : DataArray maxDataSize) (dataLen : UInt32) (proto : Proto)
  | close (originalPid : Pid) (src dst : Addr)
deriving DecidableEq

/-- pulsar_core's `DnsQuestion`. -/
structure DnsQuestion where
  name : String
  qtype : String
  qclass : String
deriving DecidableEq

/-- pulsar_core's `DnsAnswer`; `cls` is its field `class`. -/
structure DnsAnswer where
  name : String
  cls : String
  ttl : UInt32
  data : String
deriving DecidableEq

/-- The variants of pulsar_core's `Payload` that the network monitor builds. A `usize` is a
`UInt64`, the width on the targets eBPF runs on. -/
inductive Payload where
  | bind (address : SocketAddr)
  | connect (destination : SocketAddr)
  | accept (source destination : SocketAddr)
  | send (source destination : SocketAddr) (len : UInt64) (isTcp : Bool)
  | receive (source destination : SocketAddr) (len : UInt64) (isTcp : Bool)
  | close (source destination : SocketAddr)
  | dnsQuery (questions : List DnsQuestion)
  | dnsResponse (answers : List DnsAnswer) (questions : List DnsQuestion)
deriving DecidableEq

/-- `matches!(proto, Proto::TCP)` -/
def Proto.isTcp : Proto → Bool
  | .tcp => true
  | .udp => false

/-- `From<NetworkEvent> for Payload` -/
def Payload.from : NetworkEvent → Payload
  | .bind addr => .bind (SocketAddr.from addr)
  | .connect dst => .connect (SocketAddr.from dst)
  | .accept src dst => .accept (SocketAddr.from src) (SocketAddr.from dst)
  | .send src dst _ dataLen proto =>
    .send (SocketAddr.from src) (SocketAddr.from dst) dataLen.toUInt64 proto.isTcp
  | .receive src dst _ dataLen proto =>
    .receive (SocketAddr.from src) (SocketAddr.from dst) dataLen.toUInt64 proto.isTcp
  | .close _ src dst => .close (SocketAddr.from src) (SocketAddr.from dst)

theorem Proto.isTcp_injective : Function.Injective Proto.isTcp := by
  intro p q
  cases p <;> cases q <;> simp [Proto.isTcp]

/-- Two events that agree on what their payloads keep: the variant, the IP address and port
of each endpoint, `data_len` and `proto`. -/
def NetworkEvent.SamePayloadFields : NetworkEvent → NetworkEvent → Prop
  | .bind addr, .bind addr' => addr.SameIpPort addr'
  | .connect dst, .connect dst' => dst.SameIpPort dst'
  | .accept src dst, .accept src' dst' => src.SameIpPort src' ∧ dst.SameIpPort dst'
  | .send src dst _ dataLen proto, .send src' dst' _ dataLen' proto' =>
    src.SameIpPort src' ∧ dst.SameIpPort dst' ∧ dataLen = dataLen' ∧ proto = proto'
  | .receive src dst _ dataLen proto, .receive src' dst' _ dataLen' proto' =>
    src.SameIpPort src' ∧ dst.SameIpPort dst' ∧ dataLen = dataLen' ∧ proto = proto'
  | .close _ src dst, .close _ src' dst' => src.SameIpPort src' ∧ dst.SameIpPort dst'
  | _, _ => False

instance NetworkEvent.decidableSamePayloadFields :
    ∀ e e' : NetworkEvent, Decidable (e.SamePayloadFields e')
  | .bind addr, .bind addr' => inferInstanceAs (Decidable (addr.SameIpPort addr'))
  | .connect dst, .connect dst' => inferInstanceAs (Decidable (dst.SameIpPort dst'))
  | .accept src dst, .accept src' dst' =>
    inferInstanceAs (Decidable (src.SameIpPort src' ∧ dst.SameIpPort dst'))
  | .send src dst _ dataLen proto, .send src' dst' _ dataLen' proto' =>
    inferInstanceAs (Decidable (src.SameIpPort src' ∧ dst.SameIpPort dst' ∧ dataLen = dataLen' ∧
      proto = proto'))
  | .receive src dst _ dataLen proto, .receive src' dst' _ dataLen' proto' =>
    inferInstanceAs (Decidable (src.SameIpPort src' ∧ dst.SameIpPort dst' ∧ dataLen = dataLen' ∧
      proto = proto'))
  | .close _ src dst, .close _ src' dst' =>
    inferInstanceAs (Decidable (src.SameIpPort src' ∧ dst.SameIpPort dst'))
  | .bind .., .connect .. | .bind .., .accept .. | .bind .., .send .. | .bind .., .receive ..
  | .bind .., .close .. | .connect .., .bind .. | .connect .., .accept .. | .connect .., .send ..
  | .connect .., .receive .. | .connect .., .close .. | .accept .., .bind ..
  | .accept .., .connect .. | .accept .., .send .. | .accept .., .receive ..
  | .accept .., .close .. | .send .., .bind .. | .send .., .connect .. | .send .., .accept ..
  | .send .., .receive .. | .send .., .close .. | .receive .., .bind ..
  | .receive .., .connect .. | .receive .., .accept .. | .receive .., .send ..
  | .receive .., .close .. | .close .., .bind .. | .close .., .connect .. | .close .., .accept ..
  | .close .., .send .. | .close .., .receive .. =>
    isFalse id

/-- Events with equal payloads agree on their variant, the IP address and port of each
endpoint, `data_len` and `proto`. -/
theorem samePayloadFields_of_payload_from_eq {e e' : NetworkEvent}
    (h : Payload.from e = Payload.from e') : e.SamePayloadFields e' := by
  have hlen {n n' : UInt32} (h : n.toUInt64 = n'.toUInt64) : n = n' :=
    UInt32.toNat.inj (congrArg UInt64.toNat h)
  have hsame := @Addr.sameIpPort_of_socketAddr_from_eq
  cases e <;> cases e' <;>
    simp only [Payload.from, Payload.bind.injEq, Payload.connect.injEq, Payload.accept.injEq,
      Payload.send.injEq, Payload.receive.injEq, Payload.close.injEq, reduceCtorEq] at h
  all_goals first
    | exact hsame h
    | exact ⟨hsame h.1, hsame h.2⟩
    | exact ⟨hsame h.1, hsame h.2.1, hlen h.2.2.1, Proto.isTcp_injective h.2.2.2⟩

theorem samePayloadFields_of_send_payloads :
    Payload.from (.send (.v4 ⟨0x7f000001, 18061⟩) (.v4 ⟨0x7f000001, 18060⟩) ⟨[1, 2], by decide⟩
        10 .udp) =
      Payload.from (.send (.v4 ⟨0x7f000001, 18061⟩) (.v4 ⟨0x7f000001, 18060⟩) ⟨[], by decide⟩
        10 .udp) ∧
    NetworkEvent.SamePayloadFields
      (.send (.v4 ⟨0x7f000001, 18061⟩) (.v4 ⟨0x7f000001, 18060⟩) ⟨[1, 2], by decide⟩ 10 .udp)
      (.send (.v4 ⟨0x7f000001, 18061⟩) (.v4 ⟨0x7f000001, 18060⟩) ⟨[], by decide⟩ 10 .udp) :=
  ⟨rfl, samePayloadFields_of_payload_from_eq rfl⟩

theorem payload_from_close_forgets_original_pid :
    Payload.from (.close ⟨1000, by decide⟩ (.v4 ⟨0x7f000001, 18110⟩) (.v4 ⟨0x7f000001, 40000⟩)) =
      Payload.from (.close ⟨1001, by decide⟩ (.v4 ⟨0x7f000001, 18110⟩)
        (.v4 ⟨0x7f000001, 40000⟩)) ∧
    (⟨1000, by decide⟩ : Pid) ≠ ⟨1001, by decide⟩ :=
  ⟨rfl, by simp⟩

/-- `From<NetworkEvent> for Payload` reads nothing beyond what `SamePayloadFields` names: events
that agree there have the same payload, whatever bytes they captured, whatever the original
pid of a close, and whatever the flow info and scope id of their IPv6 endpoints. -/
theorem payload_from_eq_of_samePayloadFields {e e' : NetworkEvent}
    (h : e.SamePayloadFields e') : Payload.from e = Payload.from e' := by
  have hsame := @Addr.socketAddr_from_eq_of_sameIpPort
  cases e <;> cases e'
  all_goals first
    | exact (h : False).elim
    | simp only [Payload.from, hsame h]
    | simp only [Payload.from, hsame h.1, hsame h.2]
    | simp only [Payload.from, hsame h.1, hsame h.2.1, h.2.2.1, h.2.2.2]

/-- std's `Ipv6Addr::LOCALHOST`, `::1`. -/
def Ipv6Addr.localhost : Ipv6Addr := ⟨[0, 0, 0, 0, 0, 0, 0, 0, 0, 0, 0, 0, 0, 0, 0, 1], rfl⟩

theorem receive_payloads_ignore_data_and_scope :
    NetworkEvent.SamePayloadFields
        (.receive (.v6 ⟨Ipv6Addr.localhost, 18070, 0, 1⟩) (.v6 ⟨Ipv6Addr.localhost, 18071, 0, 0⟩)
          ⟨[1, 2, 3], by decide⟩ 10 .udp)
        (.receive (.v6 ⟨Ipv6Addr.localhost, 18070, 7, 0⟩) (.v6 ⟨Ipv6Addr.localhost, 18071, 0, 0⟩)
          ⟨[], by decide⟩ 10 .udp) ∧
      Payload.from
          (.receive (.v6 ⟨Ipv6Addr.localhost, 18070, 0, 1⟩) (.v6 ⟨Ipv6Addr.localhost, 18071, 0, 0⟩)
            ⟨[1, 2, 3], by decide⟩ 10 .udp) =
        Payload.from
          (.receive (.v6 ⟨Ipv6Addr.localhost, 18070, 7, 0⟩) (.v6 ⟨Ipv6Addr.localhost, 18071, 0, 0⟩)
            ⟨[], by decide⟩ 10 .udp) := by
  refine ⟨?h, payload_from_eq_of_samePayloadFields ?h⟩
  decide

end Pulsar.NetworkMonitor
