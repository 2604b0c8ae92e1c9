import Mathlib
import Zms.Portal.Assemble
import Zms.Registry.Latest

/-! `ServeInstanceService.getProcessPropertyValueRefList`: the property values that the
processes of some instances of a service are started with, collected in one list. -/

set_option autoImplicit false

namespace Zms.Portal.Serve

open Zms.Registry

def ProcessPropertyValueRef.key (ref : ProcessPropertyValueRef) : String :=
  printed (ref.instanceId.map toString) ++ "&" ++ printed ref.propertyGroup ++ "&" ++ ref.propertyName

/-- The configuration of the service, copied for an instance, and that of the instance. -/
def configured (m : Mappers) (serviceRefs : List ServicePropertyValueRefDTO) (instanceId : Int) :
    List ProcessPropertyValueRef :=
  serviceRefs.map (fun item => { item.copyProperties with instanceId := some instanceId }) ++
    (m.queryByInstanceId instanceId).map fun item => { item.copyProperties with realValue := some item.currentValue }

/-- What the loop sets on the refs an assemble has added. -/
def addressed (serviceId : Int) (serviceType : String) (i : ServiceInstance) (ref : ProcessPropertyValueRef) :
    ProcessPropertyValueRef :=
  { ref with
    serviceId := some serviceId
    instanceId := some i.id
    serviceType := some serviceType
    instanceType := some i.instanceType }

section Json
variable (toJSONString : List (String × String) → String)

/-- One round of the loop over the instances. -/
def addInstance (m : Mappers) (serviceId : Int) (serviceType : String) (serviceRefs : List ServicePropertyValueRefDTO)
    (refs : List ProcessPropertyValueRef) (i : ServiceInstance) : Option (List ProcessPropertyValueRef) :=
  (assembleConfigFile toJSONString m serviceId i.id (refs ++ configured m serviceRefs i.id)).map fun assembled =>
    assembled.2 ++ assembled.1.map (addressed serviceId serviceType i)

/-- The values of the map that is collected last come in an order of their own. -/
def getProcessPropertyValueRefList (m : Mappers) (serviceId : Int) (instances : List ServiceInstance) (flag : Bool) :
    Option (List ProcessPropertyValueRef) := do
  let service ← m.getById serviceId
  let serviceRefs ← getDependenceRealValue m flag (m.queryByServiceId serviceId)
  let refs ← instances.foldlM (addInstance toJSONString m serviceId service.serverType serviceRefs) []
  return latest ProcessPropertyValueRef.key refs

end Json

end Zms.Portal.Serve
