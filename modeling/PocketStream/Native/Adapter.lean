import PocketStream.Adoption.Operations
import Mathlib.Data.List.Perm.Basic

/-! # Native adapters

An adapter as the IP Helper reports it, and its identity. The alias belongs to
the identity as text but not to its equality.
-/

namespace PocketStream

structure NativeIdentity where
  guid : String
  index : UInt32
  mac : String
  aliasName : String
  deriving DecidableEq

/-- `impl PartialEq for NativeIdentity` -/
instance nativeIdentityBEq : BEq NativeIdentity where
  beq a b := a.guid = b.guid ∧ a.index = b.index ∧ a.mac = b.mac

structure NativeAdapter where
  index : UInt32
  guid : String
  aliasName : String
  dhcp : Bool
  mac : String
  isUp : Bool
  ips : List IpInfo
  gateways : List String
  deriving DecidableEq

def toAsciiLowercase (s : String) : String := String.ofList (s.toList.map Char.toLower)

def isBrace (ch : Char) : Bool := ch == Char.ofNat 123 || ch == Char.ofNat 125

def guidKey (guid : String) : String :=
  toAsciiLowercase
    (String.ofList ((guid.toList.dropWhile isBrace).reverse.dropWhile isBrace).reverse)

/-- Hyphens as colons, in lower case. -/
def macKey (mac : String) : String :=
  toAsciiLowercase (String.ofList (mac.toList.map fun ch => if ch = '-' then ':' else ch))

namespace NativeAdapter

def identity (a : NativeAdapter) : NativeIdentity where
  guid := guidKey a.guid
  index := a.index
  mac := macKey a.mac
  aliasName := a.aliasName

def selectNative (all : List NativeAdapter) (mac : String) : Fallible NativeAdapter :=
  match all.filter fun a => !a.mac.isEmpty && a.identity.mac == macKey mac with
  | [] => .error (.network "Selected Ethernet adapter unavailable")
  | [a] =>
    if a.index ≠ 0 ∧ !a.guid.isEmpty ∧ !a.aliasName.isEmpty ∧
        all.countP (fun n => n.index == a.index || n.aliasName == a.aliasName ||
          guidKey n.guid == guidKey a.guid) = 1 then .ok a
    else .error (.network "Native adapter identity/index is missing or ambiguous")
  | _ => .error (.network "Native adapter identity/index is missing or ambiguous")

end NativeAdapter

/-- A static adapter with one address. -/
def wiredAdapter : NativeAdapter where
  index := 7
  guid := "01234567-89ab-cdef-0123-456789abcdef"
  aliasName := "Ethernet"
  dhcp := false
  mac := "02:00:00:00:00:01"
  isUp := true
  ips := [⟨"192.168.5.10", 24⟩]
  gateways := []

end PocketStream
