import Pulsar.NetworkMonitor.Event

/-!
# DNS from captured bytes

`collect_dns_if_any` tries to read the buffer of a send or receive as a DNS message. A
message with questions and no answer becomes a `DnsQuery`, one with answers a `DnsResponse`;
anything else, a failed parse included, gives nothing. `syscall_monitor_task` sends the result
alongside the network event, under the event's pid and timestamp.
-/

namespace Pulsar.NetworkMonitor

/-- dns_parser's `Question`, each field by the text `collect_dns_if_any` formats it to:
`qname` by `Display`, `qtype` and `qclass` by `Debug`. -/
structure Question where
  qname : String
  qtype : String
  qclass : String
deriving DecidableEq

/-- dns_parser's `ResourceRecord`: `name` by `Display`, `cls` and `data` by `Debug`. -/
structure ResourceRecord where
  name : String
  cls : String
  ttl : UInt32
  data : String
deriving DecidableEq

/-- dns_parser's `Packet`, the sections the module reads. -/
structure Packet where
  questions : List Question
  answers : List ResourceRecord

/-- dns_parser's `Error`, known by its message. -/
structure DnsError where
  msg : String

/-- bpf_common's `BpfEvent<T>`, with the fields the module reads. -/
structure BpfEvent (T : Type) where
  timestamp : UInt64
  pid : Pid
  payload : T

/-- The event built from a parsed message: the two loops that copy its questions and answers,
then the choice between query and response. -/
def dnsPayload (dns : Packet) : Option Payload :=
  let withQ := !dns.questions.isEmpty
  let withA := !dns.answers.isEmpty
  let questions := dns.questions.foldl
    (fun questions q => questions ++ [⟨q.qname, q.qtype, q.qclass⟩]) []
  let answers := dns.answers.foldl
    (fun answers a => answers ++ [⟨a.name, a.cls, a.ttl, a.data⟩]) []
  if withQ && !withA then some (.dnsQuery questions)
  else if withA then some (.dnsResponse answers questions)
  else none

/-- `collect_dns_if_any`, over dns_parser's `Packet::parse`. -/
def collectDnsIfAny (parse : List UInt8 → Except DnsError Packet) (event : BpfEvent NetworkEvent) :
    Option Payload :=
  match event.payload with
  | .send _ _ data _ _ | .receive _ _ data _ _ =>
    if data.bytes.isEmpty then none
    else match parse data.bytes with
      | .ok dns => dnsPayload dns
      | .error _ => none
  | _ => none

/-- The closure of `syscall_monitor_task`: the DNS event sent for a network event, with the
event's pid and timestamp. -/
def interceptDns (parse : List UInt8 → Except DnsError Packet) (event : BpfEvent NetworkEvent) :
    Option (Pid × UInt64 × Payload) :=
  (collectDnsIfAny parse event).map fun dnsEvent => (event.pid, event.timestamp, dnsEvent)

theorem foldl_push_eq_map {α β : Type} (f : α → β) (l : List α) (init : List β) :
    l.foldl (fun acc x => acc ++ [f x]) init = init ++ l.map f := by
  induction l generalizing init with
  | nil => simp
  | cons x l ih => simp [ih]

theorem dnsPayload_eq (dns : Packet) :
    dnsPayload dns =
      if dns.questions ≠ [] ∧ dns.answers = [] then
        some (.dnsQuery (dns.questions.map fun q => ⟨q.qname, q.qtype, q.qclass⟩))
      else if dns.answers ≠ [] then
        some (.dnsResponse (dns.answers.map fun a => ⟨a.name, a.cls, a.ttl, a.data⟩)
          (dns.questions.map fun q => ⟨q.qname, q.qtype, q.qclass⟩))
      else none := by
  simp only [dnsPayload, foldl_push_eq_map, List.nil_append]
  cases dns.questions <;> cases dns.answers <;> simp

/-- The buffer of a send or receive. -/
def NetworkEvent.capturedData : NetworkEvent → Option (DataArray maxDataSize)
  | .send _ _ data _ _ | .receive _ _ data _ _ => some data
  | _ => none

theorem collectDnsIfAny_eq (parse : List UInt8 → Except DnsError Packet)
    (event : BpfEvent NetworkEvent) :
    collectDnsIfAny parse event = event.payload.capturedData.bind fun data =>
      if data.bytes.isEmpty then none
      else match parse data.bytes with
        | .ok dns => dnsPayload dns
        | .error _ => none := by
  obtain ⟨_, _, payload⟩ := event
  cases payload <;> rfl

theorem collectDnsIfAny_classifies (parse : List UInt8 → Except DnsError Packet)
    (event : BpfEvent NetworkEvent) :
    (collectDnsIfAny parse event ≠ none →
      ∃ data dns, event.payload.capturedData = some data ∧ data.bytes ≠ [] ∧
        parse data.bytes = .ok dns) ∧
    (∀ data dns, event.payload.capturedData = some data → data.bytes ≠ [] →
      parse data.bytes = .ok dns →
      collectDnsIfAny parse event =
        if dns.questions ≠ [] ∧ dns.answers = [] then
          some (.dnsQuery (dns.questions.map fun q => ⟨q.qname, q.qtype, q.qclass⟩))
        else if dns.answers ≠ [] then
          some (.dnsResponse (dns.answers.map fun a => ⟨a.name, a.cls, a.ttl, a.data⟩)
            (dns.questions.map fun q => ⟨q.qname, q.qtype, q.qclass⟩))
        else none) ∧
    ∀ event' : BpfEvent NetworkEvent, event.payload.capturedData ≠ none →
      event'.payload.capturedData = event.payload.capturedData →
      collectDnsIfAny parse event' = collectDnsIfAny parse event := by
  refine ⟨fun h => ?_, fun data dns hd he hp => ?_, fun event' _ heq => ?_⟩
  · rw [collectDnsIfAny_eq] at h
    cases hd : event.payload.capturedData with
    | none => simp [hd] at h
    | some data =>
      cases hp : parse data.bytes with
      | error => simp [hd, hp] at h
      | ok dns =>
        by_cases he : data.bytes = []
        · simp [hd, he] at h
        · exact ⟨data, dns, rfl, he, hp⟩
  · simp [collectDnsIfAny_eq, hd, he, hp, dnsPayload_eq]
  · rw [collectDnsIfAny_eq, collectDnsIfAny_eq, heq]

theorem collectDnsIfAny_reports_query :
    collectDnsIfAny
        (fun bytes => if bytes = [0, 1] then .ok ⟨[⟨"example.com", "A", "IN"⟩], []⟩
          else .error ⟨"not DNS"⟩)
        ⟨0, ⟨1000, by decide⟩,
          .send (.v4 ⟨0x7f000001, 40000⟩) (.v4 ⟨0x7f000001, 53⟩) ⟨[0, 1], by decide⟩ 2 .udp⟩ =
      some (.dnsQuery [⟨"example.com", "A", "IN"⟩]) := by
  refine ((collectDnsIfAny_classifies _ _).2.1 ⟨[0, 1], by decide⟩
    ⟨[⟨"example.com", "A", "IN"⟩], []⟩ ?_ ?_ ?_).trans ?_
  exacts [rfl, by decide, rfl, rfl]

end Pulsar.NetworkMonitor
