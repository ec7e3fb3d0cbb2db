import DevnetChaos.Client.Kind
import DevnetChaos.TextMap

/-!
# Pod labels

Labels tell the fault platform and the health checks which service a pod belongs to.

Main definitions:

- `Labels`: the labels of a pod.
- `serviceIdLabel`, `serviceTypeLabel`, `clientTypeLabel`: the three keys with a meaning.
- `Labels.withDefaults`: adds the role and the client without touching labels that are set.
-/

namespace DevnetChaos

/-- The labels of a pod, by key. -/
abbrev Labels := TextMap String

/-- Key of the label that holds the name of a service. -/
def serviceIdLabel : String := "kurtosistech.com/id"

/-- Key of the label that holds the role of a service. -/
def serviceTypeLabel : String := "ethereum-package.service-type"

/-- Key of the label that holds the client of a service. -/
def clientTypeLabel : String := "ethereum-package.client-type"

/-- Adds the labels for role and client where they are not set. -/
def Labels.withDefaults (labels : Labels) (role : Role) (client : String) : Labels :=
  (labels.insertNew clientTypeLabel client).insertNew serviceTypeLabel role.serviceType

end DevnetChaos
