import LocalPlay.Address.Mac
import LocalPlay.Failure

set_option autoImplicit false

/-! # Interfaces

A link can also be a network interface of the host. Interfaces are known by their names. -/

namespace LocalPlay.Link

/-- The interfaces of a host: their names and hardware addresses. -/
abbrev Interfaces := List (String × MacAddress)

/-- The hardware address of the interface of a name. -/
def Interfaces.macOf (interfaces : Interfaces) (name : String) : Except Failure MacAddress :=
  match interfaces.lookup name with
  | some mac => .ok mac
  | none => .error (.interfaceNotFound name)

end LocalPlay.Link
