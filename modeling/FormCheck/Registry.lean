import FormCheck.Capability
import FormCheck.Journal
import FormCheck.Value.Members

namespace FormCheck

/-!
# Registries

Plans refer to capabilities by name. A registry holds the names in the order in
which they were registered; a name registered again keeps its place and gets
the new capability. Plans use texts as names, but a name may be any value that
can be looked up.
-/

/-- Capabilities by name, in order. -/
abbrev Registry := List (Value × Capability)

namespace Registry

/-- The name of the check that the gate of a step calls. -/
def requiredName : String := "validate_required_field"

/-- The capability with a textual name. -/
def find? (registry : Registry) (name : String) : Option Capability :=
  lookup (Value.text name) registry

/-- Whether a textual name is registered. -/
def has (registry : Registry) (name : String) : Bool :=
  (registry.find? name).isSome

/-- The capability registered under a name. -/
def get? (registry : Registry) (name : Value) :
    Except Fault (Option Capability) :=
  if name.isHashable then .ok (lookup name registry) else .error .unhashable

/-- A registry after a registration, and how the registration went. -/
structure Registration where
  registry : Registry
  journal : Logged Unit

/--
Register a capability under one name, with a warning if the name is taken. What
is logged needs the text of the name. If it has none, the capability is
registered all the same unless there is a warning.
-/
def registerName (registry : Registry) (capability : Capability)
    (name : Value) : Registration :=
  match registry.get? name with
  | .error fault => ⟨registry, .stop fault⟩
  | .ok present =>
      let registered := put name capability registry
      match name.shown with
      | .error fault =>
          ⟨if present.isSome then registry else registered, .stop fault⟩
      | .ok text =>
          ⟨registered, do
            if present.isSome then
              Journal.write
                ⟨.warning, Log.registering,
                  "Capability '" ++ text ++ "' is already registered. " ++
                    "Overwriting with " ++ capability.name⟩
            Journal.write
              ⟨.debug, Log.registering,
                "Registered capability: " ++ text ++ " -> " ++
                  capability.name⟩⟩

/-- Register a capability under some names, up to one that is at fault. -/
def register (registry : Registry) (capability : Capability) :
    List Value → Registration
  | [] => ⟨registry, pure ()⟩
  | name :: rest =>
      let leading := registry.registerName capability name
      match leading.journal.ended with
      | .error _ => leading
      | .ok () =>
          let later := register leading.registry capability rest
          ⟨later.registry, leading.journal >>= fun _ => later.journal⟩

/-- The names with the names of their capabilities. -/
def listing (registry : Registry) : List (Value × String) :=
  registry.map fun item => (item.1, item.2.name)

/-- A capability under its own name and some others. -/
def named (capability : Capability) (aliases : List String) : Registry :=
  (capability.name :: aliases).map fun name => (.text name, capability)

/-- All capabilities of the library. -/
def standard : Registry :=
  [named .requiredField [],
    named .integer [],
    named .integerRange [],
    named .float [],
    named .floatRange [],
    named .numberInRange [],
    named .shortProgramNumber [],
    named .applicationNumber [],
    named .timestamp [],
    named .textLength [],
    named .emailFormat [],
    named .textAmong [],
    named .alphanumeric [],
    named .text [],
    named .shortText [],
    named .longText [],
    named .personName [],
    named .userName ["validate_username"],
    named .shell [],
    named .email [],
    named .semesterTag [],
    named .semester [],
    named .programNumber [],
    named .sessionCode [],
    named .selection [],
    named .rating [],
    named .binaryOption
      ["validate_location", "validate_emails_send_type",
        "validate_interval_unit_type", "validate_on_off_radio"],
    named .year [],
    named .month [],
    named .day [],
    named .hour [],
    named .minute [],
    named .second [],
    named .fullDate [],
    named .fullDateTime [],
    named .dateRange [],
    named .dateInSemester []].flatten

end Registry

end FormCheck
