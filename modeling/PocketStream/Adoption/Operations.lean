import PocketStream.Foundation.Program
import PocketStream.Config.Settings
import PocketStream.Address.Ipv4

/-! # Operating-system calls of adoption

The injected calls adoption makes on an adapter: observing it, adding and
removing an address, and probing. Each is an effect with the reply its caller
matches on.
-/

namespace PocketStream

structure IpInfo where
  address : String
  prefixLen : UInt8
  deriving DecidableEq, Repr

structure InterfaceInfo where
  name : String
  mac : String
  ips : List IpInfo
  isUp : Bool
  deriving DecidableEq, Repr

inductive ProbeSourceState where
  | ready
  | pending
  | tentative
  | routePending (expected observed : UInt32)
  deriving DecidableEq, Repr

/-- The methods of `AdoptOps`. -/
inductive AdoptCall where
  | checkWritesAvailable
  | observe (iface : String)
  | add (iface : String) (ip : Ipv4Addr) (mask : String)
  | remove (iface : String) (ip : Ipv4Addr)
  | probeState (iface : String) (source target : Ipv4Addr)
  | probe (target : Ipv4Addr) (source : Option Ipv4Addr)
  deriving DecidableEq

abbrev AdoptCall.Reply : AdoptCall → Type
  | checkWritesAvailable => Fallible Unit
  | observe _ => Fallible InterfaceInfo
  | add _ _ _ => Fallible Unit
  | remove _ _ => Fallible Unit
  | probeState _ _ _ => Fallible ProbeSourceState
  | probe _ _ => Bool

/-- `mask_to_prefix` -/
def maskToPrefix (mask : String) : Fallible UInt8 :=
  match Ipv4Addr.parse mask with
  | none => .error (.network s!"Invalid subnet mask: {mask}")
  | some addr =>
    let ones := (List.range 32).countP addr.toNat.testBit
    if addr.toNat ≠ (if ones = 0 then 0 else 2 ^ 32 - 2 ^ (32 - ones)) then
      .error (.network "Subnet mask must be contiguous")
    else .ok (UInt8.ofNat ones)

/-- `prefix_to_mask` -/
def prefixToMask (prefixLen : UInt8) : String :=
  let p := min prefixLen.toNat 32
  (Ipv4Addr.ofNat (2 ^ 32 - 2 ^ (32 - p))).toText

example : maskToPrefix "255.255.252.0" = .ok 22 := by decide +kernel

end PocketStream
