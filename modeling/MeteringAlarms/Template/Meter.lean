/-!
# Meters and the namespace of their metadata

Samples of the meters listed here carry the metadata that users set on their instances; samples of
every other meter carry what the metering pipeline attaches.
-/

namespace MeteringAlarms.Meter

/-- The meters published for compute instances. -/
def compute : List String := [
  "instance",
  "memory",
  "memory.usage",
  "cpu",
  "cpu_util",
  "vcpus",
  "disk.read.requests",
  "disk.read.requests.rate",
  "disk.write.requests",
  "disk.write.requests.rate",
  "disk.read.bytes",
  "disk.read.bytes.rate",
  "disk.write.bytes",
  "disk.write.bytes.rate",
  "disk.device.read.requests",
  "disk.device.read.requests.rate",
  "disk.device.write.requests",
  "disk.device.write.requests.rate",
  "disk.device.read.bytes",
  "disk.device.read.bytes.rate",
  "disk.device.write.bytes",
  "disk.device.write.bytes.rate",
  "disk.root.size",
  "disk.ephemeral.size",
  "network.incoming.bytes",
  "network.incoming.bytes.rate",
  "network.outgoing.bytes",
  "network.outgoing.bytes.rate",
  "network.incoming.packets",
  "network.incoming.packets.rate",
  "network.outgoing.packets",
  "network.outgoing.packets.rate"]

def isCompute (name : String) : Bool :=
  compute.contains name

/-- The namespace of the sample metadata of a meter, if one is named. -/
def metadataNamespace : Option String → String
  | some name => if isCompute name then "user_metadata." else "metering."
  | none => "metering."

end MeteringAlarms.Meter
