/-
The rules of a security group: one ingress block for each entry of the port list, and an egress block
that allows everything.
-/
import CloudCanvas.Emission.Properties

namespace CloudCanvas.Firewall

open Hcl

/-- The address range that holds every address. -/
def anywhere : String := "0.0.0.0/0"

/-- The ingress block of a port range. The addresses are left out when there are none. -/
def ingress (addresses : List String) (ports : PortRange) : Item :=
  .block "ingress" [] <|
    [.attribute "from_port" (.ofNat ports.low), .attribute "to_port" (.ofNat ports.high),
      .attribute "protocol" (.string "tcp")] ++
    if addresses.isEmpty then [] else [.attribute "cidr_blocks" (.strings addresses)]

/-- The egress block that allows everything. -/
def egress : Item :=
  .block "egress" []
    [.attribute "from_port" (.ofNat 0), .attribute "to_port" (.ofNat 0),
      .attribute "protocol" (.string "-1"), .attribute "cidr_blocks" (.strings [anywhere])]

/-- Reads one entry of the port list. -/
def portsOf (entry : String) : Except EmissionError PortRange :=
  match PortRange.read entry with
  | .ok ports => .ok ports
  | .error cause => .error ⟨"ingress_ports", .ports entry cause⟩

/-- The ingress blocks and the egress block of a group. -/
def rules (props : Properties) : Except EmissionError (List Item) := do
  let addresses ← props.texts "ingress_cidr_blocks"
  let entries ← props.texts "ingress_ports"
  let ranges ← entries.mapM portsOf
  let open_ ← props.flag "allow_all_egress"
  return ranges.map (ingress addresses) ++ (if open_ = some true then [egress] else [])

end CloudCanvas.Firewall
